import DroneComms.Command.Lifecycle
import Mathlib.Logic.Function.Basic

/-!
# Executions over one ACK queue

Any number of executions share the queue of `MavlinkCommandPump`
(`meshsa/command/mavlink_pump.py`).  The pump's reader appends the COMMAND_ACKs
that arrive, in any order, `drain` pops them one by one until the queue is
empty, and `recv_ack` pops the oldest one.

An ACK carries no request id.  The model tags it with the execution whose
transmission it answers (`Tagged.origin`); the code never sees the tag.
-/

namespace DroneComms.Command

/-- An ACK and the execution whose transmission the target vehicle answered with
it, if it did. -/
structure Tagged where
  ack : Ack
  origin : Option ℕ
deriving DecidableEq, Repr

/-- An execution on the shared sender. -/
structure Running where
  spec : CommandSpec
  x : Execution
  /-- It handed its spec to the link at least once. -/
  sent : Bool := false
  /-- The ACK it last took for an answer. -/
  taken : Option Tagged := none

/-- The execution has neither returned nor raised. -/
def Pc.alive : Pc → Bool
  | .returned _ | .raised => false
  | _ => true

/-- The execution is past its drain and may still take an ACK. -/
def Pc.listening : Pc → Bool
  | .send _ | .deadline _ | .remaining .. | .recvAck .. | .noAck _ | .retry .. => true
  | .attempt n => n ≠ 1
  | _ => false

/-- An execution threw an ACK away, by its drain or because it did not match. -/
structure Discard where
  taker : ℕ
  ack : Tagged
  /-- The execution the ACK was for was still running. -/
  ownerAlive : Bool
deriving DecidableEq, Repr

/-- The pump with the executions on it. -/
structure Pump where
  runs : ℕ → Option Running := fun _ ↦ none
  /-- `_acks`. -/
  queue : List Tagged := []
  /-- ACKs the reader has not dispatched yet. -/
  inFlight : List Tagged := []
  discards : List Discard := []

/-- What can happen next. -/
inductive PumpEvent where
  | start (i : ℕ) (spec : CommandSpec)
  | /-- The vehicle answers a transmission of execution `i`. -/ emit (i : ℕ) (result : Int)
  | /-- An ACK of another sender, or for another station. -/ stray (ack : Ack)
  | /-- The reader queues the `k`-th ACK in flight. -/ dispatch (k : ℕ)
  | /-- The drain of execution `i` pops an ACK. -/ pop (i : ℕ)
  | reply (i : ℕ) (r : Reply)

namespace Pump

/-- The execution the ACK is for is running. -/
def ownerAlive (p : Pump) (a : Tagged) : Bool :=
  a.origin.any fun i ↦ (p.runs i).any (·.x.pc.alive)

/-- What a call to the pump takes from the queue, and what it leaves: `drain`
returns once the queue is empty, `recv_ack` returns the oldest ACK, and `None`
only if there is none. -/
def serve (p : Pump) (call : Option Call) (r : Reply) : Option (Option Tagged × List Tagged) :=
  match call, r, p.queue with
  | some .drain, .done, [] => some (none, [])
  | some .drain, .done, _ :: _ => none
  | some (.recvAck _), .ack none, [] => some (none, [])
  | some (.recvAck _), .ack none, _ :: _ => none
  | some (.recvAck _), .ack (some _), [] => none
  | some (.recvAck _), .ack (some ack), a :: queue =>
      if a.ack = ack then some (some a, queue) else none
  | _, _, queue => some (none, queue)

/-- One step. -/
def step (s : CommandSender) (target : Int) (p : Pump) : PumpEvent → Option Pump
  | .start i spec =>
      if (p.runs i).isSome then none
      else some { p with runs := Function.update p.runs i (some ⟨spec, .start s, false, none⟩) }
  | .emit i result => do
      let run ← p.runs i
      if run.sent then
        some { p with
          inFlight := p.inFlight ++ [⟨⟨run.spec.command, result, target⟩, some i⟩] }
      else none
  | .stray ack => some { p with inFlight := p.inFlight ++ [⟨ack, none⟩] }
  | .dispatch k => do
      let a ← p.inFlight[k]?
      some { p with queue := p.queue ++ [a], inFlight := p.inFlight.eraseIdx k }
  | .pop i => do
      let run ← p.runs i
      match run.x.pc, p.queue with
      | .drain _, a :: queue =>
          some { p with queue, discards := ⟨i, a, p.ownerAlive a⟩ :: p.discards }
      | _, _ => none
  | .reply i r => do
      let run ← p.runs i
      let (a, queue) ← p.serve (run.x.call s run.spec) r
      let x ← run.x.resume s run.spec r
      let matched := a.filter fun a ↦ s.accepts run.spec.command a.ack
      let skipped := a.filter fun a ↦ !s.accepts run.spec.command a.ack
      some { p with
        runs := Function.update p.runs i (some {
          spec := run.spec
          x
          sent := run.sent || (run.x.call s run.spec).any Call.isSend
          taken := matched.or run.taken })
        queue
        discards := (skipped.map fun a ↦ ⟨i, a, p.ownerAlive a⟩).toList ++ p.discards }

/-- ACKs are attributed: an execution that returned `accepted = True` took an
ACK for a transmission of its own, and no execution threw away an ACK that was
for another one still running. -/
structure Attributed (p : Pump) : Prop where
  accepted : ∀ i run o, p.runs i = some run → run.x.pc = .returned o → o.accepted = true →
    ∃ a, run.taken = some a ∧ a.origin = some i
  kept : ∀ d ∈ p.discards, d.ownerAlive = true → d.ack.origin = some d.taker

/-- An execution takes an ACK from the queue.  It may take one that answers its
own transmissions; it may drop one whose execution is no longer running; and an
ACK that its matcher lets through must not be an acceptance meant for another
execution. -/
def TakesOwn (s : CommandSender) (p : Pump) : PumpEvent → Prop
  | .pop i => ∀ a ∈ p.queue.head?, a.origin = some i ∨ p.ownerAlive a = false
  | .reply i (.ack (some _)) => ∀ run ∈ p.runs i, ∀ a ∈ p.queue.head?,
      if s.accepts run.spec.command a.ack then
        a.ack.result = mavResultAccepted → a.origin = some i
      else a.origin = some i ∨ p.ownerAlive a = false
  | _ => True

instance (s : CommandSender) (p : Pump) (e : PumpEvent) : Decidable (p.TakesOwn s e) := by
  unfold TakesOwn
  split <;> infer_instance

/-! ## One step -/

variable {s : CommandSender} {target : Int} {p q : Pump}

/-- `recv_ack` with an ACK takes the oldest one; no other reply takes any. -/
theorem serve_eq_some {call : Option Call} {r : Reply} {a : Option Tagged} {queue : List Tagged}
    (h : p.serve call r = some (a, queue)) :
    (a = none ∧ queue = p.queue ∧ (call = some .drain → r = .done → p.queue = []) ∧
      ∀ timeout ack, call = some (.recvAck timeout) → r ≠ .ack (some ack)) ∨
      ∃ timeout b, call = some (.recvAck timeout) ∧ r = .ack (some b.ack) ∧ a = some b ∧
        p.queue = b :: queue := by
  unfold serve at h
  split at h
  · rename_i hq
    cases h
    exact .inl ⟨rfl, hq.symm, fun _ _ ↦ hq, nofun⟩
  · cases h
  · rename_i hq
    cases h
    exact .inl ⟨rfl, hq.symm, fun _ _ ↦ hq, nofun⟩
  · cases h
  · cases h
  · rename_i hq
    split_ifs at h with hack
    cases h
    exact .inr ⟨_, _, rfl, by rw [hack], rfl, hq⟩
  · rename_i hnil hcons
    cases h
    refine .inl ⟨rfl, rfl, fun hc hr ↦ ?_, fun timeout ack hc hr ↦ ?_⟩
    · cases hq : p.queue with
      | nil => rfl
      | cons b queue => simp_all
    · cases hq : p.queue with
      | nil => exact hnil timeout ack hc hr hq
      | cons b queue => exact hcons timeout ack b queue hc hr hq

/-- A reply resumes its execution, which may have taken the oldest ACK. -/
theorem step_reply {i : ℕ} {r : Reply} (h : p.step s target (.reply i r) = some q) :
    ∃ run x, p.runs i = some run ∧ Resumes s run.spec run.x r x ∧
      ((∃ sent, q = { p with
          runs := Function.update p.runs i (some ⟨run.spec, x, sent, run.taken⟩) } ∧
          (run.x.call s run.spec = some .drain → r = .done → p.queue = []) ∧
          ∀ timeout ack, run.x.call s run.spec = some (.recvAck timeout) → r ≠ .ack (some ack)) ∨
        ∃ sent a queue, p.queue = a :: queue ∧ r = .ack (some a.ack) ∧
          ((s.accepts run.spec.command a.ack = true ∧ q = { p with
              runs := Function.update p.runs i (some ⟨run.spec, x, sent, some a⟩)
              queue }) ∨
            (s.accepts run.spec.command a.ack = false ∧ q = { p with
              runs := Function.update p.runs i (some ⟨run.spec, x, sent, run.taken⟩)
              queue
              discards := ⟨i, a, p.ownerAlive a⟩ :: p.discards }))) := by
  obtain ⟨run, hrun, h⟩ := Option.bind_eq_some_iff.mp h
  obtain ⟨⟨a, queue⟩, hserve, h⟩ := Option.bind_eq_some_iff.mp h
  obtain ⟨x, hx, h⟩ := Option.bind_eq_some_iff.mp h
  cases h
  refine ⟨run, x, hrun, resumes_of_resume hx, ?_⟩
  rcases serve_eq_some hserve with ⟨rfl, rfl, hnot⟩ | ⟨timeout, b, hcall, rfl, rfl, hq⟩
  · exact .inl ⟨_, rfl, hnot⟩
  · refine .inr ⟨run.sent || (run.x.call s run.spec).any Call.isSend, b, queue, hq, rfl, ?_⟩
    cases hacc : s.accepts run.spec.command b.ack with
    | true => exact .inl ⟨rfl, by simp [Option.filter, hacc]⟩
    | false => exact .inr ⟨rfl, by simp [Option.filter, hacc]⟩

/-- An execution that has come to accept took an ACK of its own, and no ACK of
a running execution was thrown away by another one. -/
structure Sound (p : Pump) : Prop where
  accepting : ∀ i run, p.runs i = some run → run.x.pc.Accepting →
    ∃ a, run.taken = some a ∧ a.origin = some i
  kept : ∀ d ∈ p.discards, d.ownerAlive = true → d.ack.origin = some d.taker

theorem Sound.attributed (h : p.Sound) : p.Attributed where
  accepted i run o hrun hpc hacc := h.accepting i run hrun (by rw [hpc]; exact hacc)
  kept := h.kept

/-- Replacing one execution keeps the others' ACKs. -/
theorem accepting_update {i : ℕ} {run : Running}
    (h : ∀ i run, p.runs i = some run → run.x.pc.Accepting →
      ∃ a, run.taken = some a ∧ a.origin = some i)
    (hrun : run.x.pc.Accepting → ∃ a, run.taken = some a ∧ a.origin = some i) :
    ∀ j run', Function.update p.runs i (some run) j = some run' → run'.x.pc.Accepting →
      ∃ a, run'.taken = some a ∧ a.origin = some j := by
  intro j run' hj hacc
  by_cases hij : j = i
  · subst hij
    have heq : run = run' := by simpa using hj
    subst heq
    exact hrun hacc
  · exact h j run' (by simpa [hij] using hj) hacc

/-- A reply keeps the attribution if the execution takes its own. -/
theorem Sound.reply {i : ℕ} {r : Reply} (hp : p.Sound) (htakes : p.TakesOwn s (.reply i r))
    (hstep : p.step s target (.reply i r) = some q) : q.Sound := by
  obtain ⟨run, x, hrun, hres, hcases⟩ := step_reply hstep
  have hold := hp.accepting i run hrun
  rcases hcases with ⟨sent, rfl, -, hnot⟩ | ⟨sent, a, queue, hq, rfl, hcases⟩
  · -- nothing was taken: it accepts only if it did before
    refine ⟨accepting_update hp.accepting fun hacc ↦ ?_, hp.kept⟩
    rcases hres.accepting hacc with ⟨hx, -⟩ | ⟨ack, timeout, hcall, hr, -⟩
    · exact hold hx
    · exact absurd hr (hnot timeout ack hcall)
  · have htake := htakes run hrun a (by rw [hq]; rfl)
    rcases hcases with ⟨hacc, rfl⟩ | ⟨hacc, rfl⟩
    · rw [if_pos hacc] at htake
      refine ⟨accepting_update hp.accepting fun hx ↦ ⟨a, rfl, ?_⟩, hp.kept⟩
      rcases hres.accepting hx with ⟨-, hr⟩ | ⟨ack, timeout, -, hr, -, hok⟩
      · cases hr
      · cases hr
        exact htake hok
    · rw [if_neg (by simp [hacc])] at htake
      refine ⟨accepting_update hp.accepting fun hx ↦ ?_, ?_⟩
      · rcases hres.accepting hx with ⟨-, hr⟩ | ⟨ack, timeout, -, hr, hacc', -⟩
        · cases hr
        · cases hr
          rw [hacc] at hacc'
          cases hacc'
      · intro d hd halive
        rcases List.mem_cons.mp hd with rfl | hd
        · rcases htake with hown | hdead
          · exact hown
          · exact absurd halive (by simp [hdead])
        · exact hp.kept d hd halive

/-- A step keeps the attribution if the execution takes its own. -/
theorem Sound.step {e : PumpEvent} (hp : p.Sound) (htakes : p.TakesOwn s e)
    (hstep : p.step s target e = some q) : q.Sound := by
  cases e with
  | reply i r => exact hp.reply htakes hstep
  | start i spec =>
      obtain ⟨-, hstep⟩ := Option.ite_none_left_eq_some.mp hstep
      cases hstep
      refine ⟨accepting_update hp.accepting fun hacc ↦ ?_, hp.kept⟩
      have hloop : (s.loop 1).Accepting := hacc
      rcases s.loop_cases 1 with hl | hl <;> rw [hl] at hloop <;> cases hloop
  | emit i result =>
      obtain ⟨run, hrun, hstep⟩ := Option.bind_eq_some_iff.mp hstep
      obtain ⟨-, hstep⟩ := Option.ite_none_right_eq_some.mp hstep
      cases hstep
      exact ⟨hp.accepting, hp.kept⟩
  | stray ack =>
      cases hstep
      exact ⟨hp.accepting, hp.kept⟩
  | dispatch k =>
      obtain ⟨a, ha, hstep⟩ := Option.bind_eq_some_iff.mp hstep
      cases hstep
      exact ⟨hp.accepting, hp.kept⟩
  | pop i =>
      obtain ⟨run, hrun, hstep⟩ := Option.bind_eq_some_iff.mp hstep
      split at hstep
      · rename_i n a queue hpc hq
        cases hstep
        refine ⟨hp.accepting, fun d hd halive ↦ ?_⟩
        rcases List.mem_cons.mp hd with rfl | hd
        · rcases htakes a (by rw [hq]; rfl) with hown | hdead
          · exact hown
          · exact absurd halive (by simp [hdead])
        · exact hp.kept d hd halive
      · cases hstep

/-- In a run in which every ACK that an execution takes from the queue is its own, or belongs to
no running execution and is not let through as an acceptance, all ACKs are attributed. -/
theorem attributed_of_takes_own {es : List PumpEvent}
    (h : Automaton.Along (step s target) (TakesOwn s) {} es) :
    Automaton.Always (step s target) Attributed {} es := by
  have hsound : Automaton.Always (step s target) Sound {} es :=
    Automaton.always_of_along (fun _ _ _ hp hP hstep ↦ hp.step hP hstep)
      ⟨by simp, by simp⟩ h
  exact hsound.mono fun _ hp ↦ hp.attributed

/-! ## ACKs dispatched apart -/

/-- The ACK is execution `i`'s own, or its matcher does not let it through as an
acceptance. -/
def Harmless (s : CommandSender) (i : ℕ) (run : Running) (a : Tagged) : Prop :=
  s.accepts run.spec.command a.ack = true → a.ack.result = mavResultAccepted →
    a.origin = some i

instance (s : CommandSender) (i : ℕ) (run : Running) (a : Tagged) :
    Decidable (Harmless s i run a) :=
  inferInstanceAs (Decidable (_ → _ → _))

/-- The ACK may come to execution `i`: it answers `i` or no running execution, and if `i` listens
its matcher does not let it through as an acceptance of another transmission. -/
def MayMeet (s : CommandSender) (p : Pump) (i : ℕ) (run : Running) (a : Tagged) : Prop :=
  (a.origin = some i ∨ p.ownerAlive a = false) ∧
    (run.x.pc.listening = true → Harmless s i run a)

instance (s : CommandSender) (p : Pump) (i : ℕ) (run : Running) (a : Tagged) :
    Decidable (p.MayMeet s i run a) :=
  inferInstanceAs (Decidable (_ ∧ (_ → _)))

/-- The arrivals of the ACKs: an execution starts when the queue holds no ACK of a running one,
and the reader dispatches an ACK when it may come to any execution that runs. -/
def DispatchedApart (s : CommandSender) (p : Pump) : PumpEvent → Prop
  | .start _ _ => ∀ a ∈ p.queue, p.ownerAlive a = false
  | .dispatch k => ∀ a, p.inFlight[k]? = some a → ∀ i run, p.runs i = some run →
      run.x.pc.alive = true → p.MayMeet s i run a
  | _ => True

/-- What such arrivals keep: whatever is queued may come to any execution that runs. -/
structure Apart (s : CommandSender) (p : Pump) : Prop where
  queued : ∀ i run, p.runs i = some run → run.x.pc.alive = true → ∀ a ∈ p.queue,
    p.MayMeet s i run a
  /-- Only what has started is answered. -/
  known : ∀ a ∈ p.queue ++ p.inFlight, ∀ i, a.origin = some i → (p.runs i).isSome = true

theorem ownerAlive_eq_true {a : Tagged} (h : p.ownerAlive a = true) :
    ∃ i run, a.origin = some i ∧ p.runs i = some run ∧ run.x.pc.alive = true := by
  obtain ⟨i, hi, h⟩ := (Option.any_eq_true _ _).mp h
  obtain ⟨run, hrun, h⟩ := (Option.any_eq_true _ _).mp h
  exact ⟨i, run, hi, hrun, h⟩

/-- Only a waiting execution is answered with an ACK. -/
theorem waiting_of_ack {spec : CommandSpec} {x y : Execution} {ack : Option Ack}
    (h : Resumes s spec x (.ack ack) y) :
    x.pc.alive = true ∧ x.pc.listening = true := by
  cases h <;> exact ⟨rfl, rfl⟩

/-- An execution that makes a call has not ended. -/
theorem alive_of_resumes {spec : CommandSpec} {x y : Execution} {r : Reply}
    (h : Resumes s spec x r y) : x.pc.alive = true := by
  obtain ⟨call, hcall⟩ := h.call_isSome
  obtain ⟨pc, last⟩ := x
  cases pc <;> first | rfl | cases hcall

/-- An execution begins to listen when its drain is done. -/
theorem listening_of_resumes (hdrain : s.canDrain = true) {spec : CommandSpec} {x y : Execution}
    {r : Reply} (h : Resumes s spec x r y) (hy : y.pc.listening = true) :
    x.pc.listening = true ∨ x.call s spec = some .drain ∧ r = .done := by
  cases h with
  | attempted n =>
      by_cases hn : n = 1
      · rw [CommandSender.recorded, if_pos ⟨hn, hdrain⟩] at hy
        cases hy
      · exact .inl (decide_eq_true hn)
  | drained n => exact .inr ⟨rfl, rfl⟩
  | acceptance n result => cases hy
  | rejection n result => cases hy
  | exhausted => cases hy
  | raised => cases hy
  | _ => exact .inl rfl

/-- What a step does to the executions: nothing, or one that runs goes on, or one starts. -/
theorem runs_step {e : PumpEvent} (hstep : p.step s target e = some q) :
    q.runs = p.runs ∨
      (∃ i run run', p.runs i = some run ∧ run.x.pc.alive = true ∧
        q.runs = Function.update p.runs i (some run')) ∨
      ∃ i spec, e = .start i spec ∧
        q.runs = Function.update p.runs i (some ⟨spec, .start s, false, none⟩) := by
  cases e with
  | reply i r =>
      obtain ⟨run, x, hrun, hres, hcases⟩ := step_reply hstep
      have halive := alive_of_resumes hres
      rcases hcases with ⟨-, rfl, -⟩ | ⟨-, -, -, -, -, ⟨-, rfl⟩ | ⟨-, rfl⟩⟩ <;>
        exact .inr (.inl ⟨i, run, _, hrun, halive, rfl⟩)
  | start i spec =>
      obtain ⟨-, hstep⟩ := Option.ite_none_left_eq_some.mp hstep
      cases hstep
      exact .inr (.inr ⟨i, spec, rfl, rfl⟩)
  | emit i result =>
      obtain ⟨run, hrun, hstep⟩ := Option.bind_eq_some_iff.mp hstep
      obtain ⟨-, hstep⟩ := Option.ite_none_right_eq_some.mp hstep
      cases hstep
      exact .inl rfl
  | stray ack =>
      cases hstep
      exact .inl rfl
  | dispatch k =>
      obtain ⟨a, ha, hstep⟩ := Option.bind_eq_some_iff.mp hstep
      cases hstep
      exact .inl rfl
  | pop i =>
      obtain ⟨run, hrun, hstep⟩ := Option.bind_eq_some_iff.mp hstep
      split at hstep
      · cases hstep
        exact .inl rfl
      · cases hstep

/-- ACKs dispatched apart come to their own executions. -/
theorem Apart.takesOwn (h : p.Apart s) {e : PumpEvent} (hstep : p.step s target e = some q) :
    p.TakesOwn s e := by
  cases e with
  | pop i =>
      obtain ⟨run, hrun, hstep⟩ := Option.bind_eq_some_iff.mp hstep
      intro a ha
      refine (h.queued i run hrun ?_ a (List.mem_of_mem_head? ha)).1
      split at hstep
      · rename_i hpc _
        rw [hpc]
        rfl
      · cases hstep
  | reply i r =>
      obtain ⟨run, x, hrun, hres, -⟩ := step_reply hstep
      unfold TakesOwn
      split
      · cases ‹PumpEvent.reply _ _ = _›
      · rename_i heq
        cases heq
        intro run' hrun' a ha
        rw [hrun] at hrun'
        cases hrun'
        obtain ⟨halive, hlistening⟩ := waiting_of_ack hres
        obtain ⟨hown, hharmless⟩ := h.queued i run hrun halive a (List.mem_of_mem_head? ha)
        split_ifs with hacc
        · exact hharmless hlistening hacc
        · exact hown
      · trivial
  | start i spec => trivial
  | emit i result => trivial
  | stray ack => trivial
  | dispatch k => trivial

/-- Whose execution has ended stays without one while another goes on. -/
theorem ownerAlive_update {i : ℕ} {run run' : Running} {queue : List Tagged}
    {discards : List Discard} (hrun : p.runs i = some run) (halive : run.x.pc.alive = true)
    {a : Tagged} (h : p.ownerAlive a = false) :
    ({ p with runs := Function.update p.runs i (some run'), queue, discards } : Pump).ownerAlive a =
      false := by
  refine Bool.eq_false_iff.mpr fun howner ↦ ?_
  obtain ⟨j, r, hj, hr, hralive⟩ := ownerAlive_eq_true howner
  have hold : ∃ r', p.runs j = some r' ∧ r'.x.pc.alive = true := by
    by_cases hij : j = i
    · exact ⟨run, hij ▸ hrun, halive⟩
    · exact ⟨r, by simpa [hij] using hr, hralive⟩
  obtain ⟨r', hr', halive'⟩ := hold
  have : p.ownerAlive a = true := by
    rw [ownerAlive, hj]
    simp [hr', halive']
  rw [h] at this
  cases this

/-- An execution goes on, and ACKs may leave the queue. -/
theorem Apart.replace (h : p.Apart s) {i : ℕ} {run run' : Running} {queue : List Tagged}
    {discards : List Discard} (hrun : p.runs i = some run) (hspec : run'.spec = run.spec)
    (halive : run.x.pc.alive = true)
    (hlisten : run'.x.pc.listening = true → run.x.pc.listening = true ∨ queue = [])
    (hqueue : ∀ a ∈ queue, a ∈ p.queue) :
    Apart s { p with runs := Function.update p.runs i (some run'), queue, discards } := by
  constructor
  · intro j r hj hr a ha
    by_cases hij : j = i
    · subst hij
      have heq : run' = r := by simpa using hj
      subst heq
      obtain ⟨hown, hharmless⟩ := h.queued j run hrun halive a (hqueue a ha)
      refine ⟨hown.imp_right (ownerAlive_update hrun halive), fun hl ↦ ?_⟩
      rcases hlisten hl with hold | hnil
      · unfold Harmless
        rw [hspec]
        exact hharmless hold
      · have ha' : a ∈ queue := ha
        rw [hnil] at ha'
        cases ha'
    · obtain ⟨hown, hharmless⟩ := h.queued j r (by simpa [hij] using hj) hr a (hqueue a ha)
      exact ⟨hown.imp_right (ownerAlive_update hrun halive), hharmless⟩
  · intro a ha j hj
    have hold := h.known a (List.mem_append.mpr ((List.mem_append.mp ha).imp_left (hqueue a))) j hj
    show (Function.update p.runs i (some run') j).isSome = true
    by_cases hij : j = i
    · subst hij
      simp
    · simpa [hij] using hold

/-- An execution starts when no ACK of a running one is queued. -/
theorem Apart.start (h : p.Apart s) {i : ℕ} (hfree : p.runs i = none) (spec : CommandSpec)
    (hdead : ∀ a ∈ p.queue, p.ownerAlive a = false) :
    Apart s { p with
      runs := Function.update p.runs i (some ⟨spec, .start s, false, none⟩) } := by
  have hother : ∀ a ∈ p.queue, a.origin ≠ some i := by
    intro a ha hi
    have hknown := h.known a (List.mem_append_left _ ha) i hi
    rw [hfree] at hknown
    cases hknown
  have hdead' : ∀ a ∈ p.queue, ({ p with
      runs := Function.update p.runs i (some ⟨spec, .start s, false, none⟩) } : Pump).ownerAlive a =
        false := by
    intro a ha
    refine Bool.eq_false_iff.mpr fun howner ↦ ?_
    obtain ⟨j, r, hj, hr, hralive⟩ := ownerAlive_eq_true howner
    have hij : j ≠ i := fun hij ↦ hother a ha (hij ▸ hj)
    have hr' : p.runs j = some r := by simpa [hij] using hr
    have hold : p.ownerAlive a = true := by
      rw [ownerAlive, hj]
      simp [hr', hralive]
    rw [hdead a ha] at hold
    cases hold
  constructor
  · intro j r hj hr a ha
    refine ⟨.inr (hdead' a ha), fun hl ↦ ?_⟩
    by_cases hij : j = i
    · subst hij
      have heq : (⟨spec, .start s, false, none⟩ : Running) = r := by simpa using hj
      subst heq
      have hloop : (s.loop 1).listening = true := hl
      rcases s.loop_cases 1 with hpc | hpc <;> rw [hpc] at hloop <;> cases hloop
    · exact (h.queued j r (by simpa [hij] using hj) hr a ha).2 hl
  · intro a ha j hj
    show (Function.update p.runs i (some ⟨spec, .start s, false, none⟩) j).isSome = true
    by_cases hij : j = i
    · subst hij
      simp
    · simpa [hij] using h.known a ha j hj

theorem Apart.step (hdrain : s.canDrain = true) (h : p.Apart s) {e : PumpEvent}
    (hapart : p.DispatchedApart s e) (hstep : p.step s target e = some q) : q.Apart s := by
  cases e with
  | reply i r =>
      obtain ⟨run, x, hrun, hres, hcases⟩ := step_reply hstep
      have halive := alive_of_resumes hres
      rcases hcases with ⟨sent, rfl, hempty, -⟩ | ⟨sent, a, queue, hq, rfl, hcases⟩
      · refine @Apart.replace s p h i run _ p.queue p.discards hrun rfl halive (fun hl ↦ ?_)
          fun a ha ↦ ha
        rcases listening_of_resumes hdrain hres hl with hold | ⟨hcall, hr⟩
        · exact .inl hold
        · exact .inr (hempty hcall hr)
      · have hlisten := (waiting_of_ack hres).2
        have hsub : ∀ b ∈ queue, b ∈ p.queue := fun b hb ↦ by
          rw [hq]
          exact List.mem_cons_of_mem a hb
        rcases hcases with ⟨-, rfl⟩ | ⟨-, rfl⟩
        · exact h.replace hrun rfl halive (fun _ ↦ .inl hlisten) hsub
        · exact h.replace hrun rfl halive (fun _ ↦ .inl hlisten) hsub
  | start i spec =>
      obtain ⟨hfree, hstep⟩ := Option.ite_none_left_eq_some.mp hstep
      cases hstep
      exact h.start (by simpa using hfree) spec hapart
  | emit i result =>
      obtain ⟨run, hrun, hstep⟩ := Option.bind_eq_some_iff.mp hstep
      obtain ⟨-, hstep⟩ := Option.ite_none_right_eq_some.mp hstep
      cases hstep
      refine ⟨h.queued, fun a ha j hj ↦ ?_⟩
      rw [← List.append_assoc, List.mem_append, List.mem_singleton] at ha
      rcases ha with ha | rfl
      · exact h.known a ha j hj
      · cases hj
        exact Option.isSome_iff_exists.mpr ⟨run, hrun⟩
  | stray ack =>
      cases hstep
      refine ⟨h.queued, fun a ha j hj ↦ ?_⟩
      rw [← List.append_assoc, List.mem_append, List.mem_singleton] at ha
      rcases ha with ha | rfl
      · exact h.known a ha j hj
      · cases hj
  | dispatch k =>
      obtain ⟨a, ha, hstep⟩ := Option.bind_eq_some_iff.mp hstep
      cases hstep
      have hmem : a ∈ p.inFlight := List.mem_of_getElem? ha
      refine ⟨fun i run hrun halive b hb ↦ ?_, fun b hb j hj ↦ h.known b ?_ j hj⟩
      · rcases List.mem_append.mp hb with hb | hb
        · exact h.queued i run hrun halive b hb
        · rw [List.mem_singleton.mp hb]
          exact hapart a ha i run hrun halive
      · rcases List.mem_append.mp hb with hb | hb
        · rcases List.mem_append.mp hb with hb | hb
          · exact List.mem_append_left _ hb
          · rw [List.mem_singleton.mp hb]
            exact List.mem_append_right _ hmem
        · exact List.mem_append_right _ (List.mem_of_mem_eraseIdx hb)
  | pop i =>
      obtain ⟨run, hrun, hstep⟩ := Option.bind_eq_some_iff.mp hstep
      split at hstep
      · rename_i n a queue hpc hq
        cases hstep
        have hsub : ∀ b ∈ queue, b ∈ p.queue := fun b hb ↦ by
          rw [hq]
          exact List.mem_cons_of_mem a hb
        exact ⟨fun j r hr halive b hb ↦ h.queued j r hr halive b (hsub b hb),
          fun b hb ↦ h.known b (List.mem_append.mpr ((List.mem_append.mp hb).imp_left (hsub b)))⟩
      · cases hstep

/-- **Attribution.**  On a sender with a drain, in every run in which the ACKs are dispatched
apart, an execution that returns `accepted = True` took an ACK of its own, and none throws away
an ACK of another one that runs. -/
theorem attributed_of_dispatched_apart (hdrain : s.canDrain = true) {es : List PumpEvent}
    (h : Automaton.Along (step s target) (DispatchedApart s) {} es) :
    Automaton.Always (step s target) Attributed {} es :=
  attributed_of_takes_own <| h.imp (J := Apart s)
    (fun _ _ _ hp hapart hstep ↦ hp.step hdrain hapart hstep)
    (fun _ _ _ hp _ hstep ↦ hp.takesOwn hstep) ⟨by simp, by simp⟩

/-- `DispatchedApart` with the executions below `n` only, so that it can be decided. -/
def ApartBelow (n : ℕ) (s : CommandSender) (p : Pump) : PumpEvent → Prop
  | .start i _ => i < n ∧ ∀ a ∈ p.queue, p.ownerAlive a = false
  | .dispatch k => ∀ a ∈ p.inFlight[k]?, ∀ i < n, ∀ run ∈ p.runs i, run.x.pc.alive = true →
      p.MayMeet s i run a
  | _ => True

instance (n : ℕ) (s : CommandSender) (p : Pump) (e : PumpEvent) :
    Decidable (ApartBelow n s p e) := by
  unfold ApartBelow
  split <;> infer_instance

/-- If all executions that start are below `n`, it is enough to look at these. -/
theorem dispatchedApart_of_below {n : ℕ} {es : List PumpEvent}
    (h : Automaton.Along (step s target) (ApartBelow n s) {} es) :
    Automaton.Along (step s target) (DispatchedApart s) {} es := by
  refine h.imp (J := fun p ↦ ∀ i run, p.runs i = some run → i < n) (fun p e q hp hbelow hstep ↦ ?_)
    (fun p e _ hp hbelow _ ↦ ?_) (by simp)
  · intro j r hj
    rcases runs_step hstep with hruns | ⟨i, run, run', hrun, -, hruns⟩ | ⟨i, spec, rfl, hruns⟩
    · exact hp j r (hruns ▸ hj)
    · rw [hruns] at hj
      by_cases hij : j = i
      · exact hij ▸ hp i run hrun
      · exact hp j r (by simpa [hij] using hj)
    · rw [hruns] at hj
      by_cases hij : j = i
      · exact hij ▸ hbelow.1
      · exact hp j r (by simpa [hij] using hj)
  · cases e with
    | start i spec => exact hbelow.2
    | dispatch k => exact fun a ha i run hrun ↦ hbelow a ha i (hp i run hrun) run hrun
    | reply i r => trivial
    | emit i result => trivial
    | stray ack => trivial
    | pop i => trivial

/-- A first execution is answered too late, and a second one drains that answer and accepts its
own, past a stray ACK. -/
theorem attributed_late_answer :
    Automaton.Always (step ⟨{ maxAttempts := 1 }, none, true⟩ 1) Attributed {}
      [.start 0 rtl, .reply 0 .done, .reply 0 .done, .reply 0 .done, .reply 0 (.time 0),
        .reply 0 (.time 0), .reply 0 (.ack none), .reply 0 .done, .reply 0 .done, .emit 0 0,
        .dispatch 0, .start 1 arm, .reply 1 .done, .pop 1, .reply 1 .done, .reply 1 .done,
        .stray ⟨20, 0, 7⟩, .dispatch 0, .reply 1 (.time 0), .reply 1 (.time 0), .emit 1 0,
        .dispatch 0, .reply 1 (.ack (some ⟨20, 0, 7⟩)), .reply 1 (.time 0),
        .reply 1 (.ack (some ⟨400, 0, 1⟩)), .reply 1 .done] :=
  attributed_of_dispatched_apart rfl (dispatchedApart_of_below (n := 2) (by decide +kernel))

/-- The vehicle has accepted a first execution when a second one begins: its
drain throws the answer away. -/
theorem drain_discards_anothers_ack :
    ¬ Automaton.Always (step {} 1) Attributed {}
      [.start 0 rtl, .reply 0 .done, .reply 0 .done, .reply 0 .done, .emit 0 0, .dispatch 0,
        .start 1 arm, .reply 1 .done, .pop 1] := by
  intro h
  have hend := Automaton.always_iff_prefix.mp h _ _ (List.prefix_refl _) rfl
  have howner := hend.kept ⟨1, ⟨⟨20, 0, 1⟩, some 0⟩, true⟩ List.mem_cons_self rfl
  exact absurd howner (by decide)

/-! ## Serialised executions -/

/-- Executions do not overlap, and while one listens the reader dispatches no
acceptance that its matcher lets through but that answers another transmission. -/
def Serialised (s : CommandSender) (p : Pump) : PumpEvent → Prop
  | .start _ _ => ∀ i run, p.runs i = some run → run.x.pc.alive = false
  | .dispatch k => ∀ a, p.inFlight[k]? = some a → ∀ i run, p.runs i = some run →
      run.x.pc.listening = true → Harmless s i run a
  | _ => True

/-- At most one execution is running. -/
def Alone (p : Pump) : Prop :=
  ∀ i j run run', p.runs i = some run → p.runs j = some run' → run.x.pc.alive = true →
    run'.x.pc.alive = true → i = j

/-- Only one execution runs, so an ACK of a running execution is its own. -/
theorem Alone.own_or_dead (h : p.Alone) {i : ℕ} {run : Running} (hrun : p.runs i = some run)
    (halive : run.x.pc.alive = true) (a : Tagged) :
    a.origin = some i ∨ p.ownerAlive a = false := by
  cases howner : p.ownerAlive a with
  | false => exact .inr rfl
  | true =>
      obtain ⟨j, run', hj, hrun', halive'⟩ := ownerAlive_eq_true howner
      rw [h i j run run' hrun hrun' halive halive']
      exact .inl hj

theorem Alone.step (h : p.Alone) {e : PumpEvent} (hser : p.Serialised s e)
    (hstep : p.step s target e = some q) : q.Alone := by
  rcases runs_step hstep with hruns | ⟨i, run, run', hrun, halive, hruns⟩ | ⟨i, spec, rfl, hruns⟩
  · unfold Alone
    rw [hruns]
    exact h
  · have hother : ∀ j r, q.runs j = some r → r.x.pc.alive = true →
        ∃ r', p.runs j = some r' ∧ r'.x.pc.alive = true := by
      intro j r hj hr
      rw [hruns] at hj
      by_cases hij : j = i
      · exact ⟨run, hij ▸ hrun, halive⟩
      · exact ⟨r, by simpa [hij] using hj, hr⟩
    intro j k r r' hj hk hr hr'
    obtain ⟨u, hu, hua⟩ := hother j r hj hr
    obtain ⟨u', hu', hua'⟩ := hother k r' hk hr'
    exact h j k u u' hu hu' hua hua'
  · have hnew : ∀ j r, q.runs j = some r → r.x.pc.alive = true → j = i := by
      intro j r hj hr
      by_contra hij
      rw [hruns] at hj
      rw [hser j r (by simpa [hij] using hj)] at hr
      cases hr
    intro j k r r' hj hk hr hr'
    rw [hnew j r hj hr, hnew k r' hk hr']

/-- The ACKs of serialised executions are dispatched apart. -/
theorem dispatchedApart_of_serialised {es : List PumpEvent}
    (h : Automaton.Along (step s target) (Serialised s) {} es) :
    Automaton.Along (step s target) (DispatchedApart s) {} es := by
  refine h.imp (J := Alone) (fun _ _ _ hp hser hstep ↦ hp.step hser hstep)
    (fun p e _ hp hser _ ↦ ?_) (by simp [Alone])
  cases e with
  | start i spec =>
      refine fun a _ ↦ Bool.eq_false_iff.mpr fun howner ↦ ?_
      obtain ⟨j, r, -, hr, halive⟩ := ownerAlive_eq_true howner
      rw [hser j r hr] at halive
      cases halive
  | dispatch k =>
      exact fun a ha i run hrun halive ↦ ⟨hp.own_or_dead hrun halive a, hser a ha i run hrun⟩
  | reply i r => trivial
  | emit i result => trivial
  | stray ack => trivial
  | pop i => trivial

end Pump

end DroneComms.Command
