import DroneComms.Command.Lifecycle

/-!
# The audit trail of an execution

A `Trail` is an execution together with the calls it has made, newest first.
An execution should announce every send with a `command_attempt` record of its
own, and once it recorded an attempt it should end with exactly one terminal
record that agrees with what the caller is told (`Trail.Complete`).

The first half always holds (`sends_announced`).  The second half holds exactly
if no call to the link raises: `execute` writes its terminal records on the
branches that return and on no other.
-/

namespace DroneComms.Command

/-- The record a call wrote, if it was a successful `audit.record`. -/
def written : Call × Reply → Option AuditEvent
  | (.record e, .done) => some e
  | _ => none

/-- An execution and the calls it has made, newest first. -/
structure Trail where
  execution : Execution
  calls : List (Call × Reply) := []

namespace Trail

/-- `execute` has just been called. -/
def start (s : CommandSender) : Trail := { execution := .start s }

/-- Answer the call the execution stands at. -/
def step (s : CommandSender) (spec : CommandSpec) (t : Trail) (r : Reply) : Option Trail := do
  let call ← t.execution.call s spec
  let x ← t.execution.resume s spec r
  return { execution := x, calls := (call, r) :: t.calls }

/-- The records written, newest first. -/
def records (t : Trail) : List AuditEvent := t.calls.filterMap written

/-- The terminal records written. -/
def terminals (t : Trail) : List AuditEvent := t.records.filter AuditEvent.isTerminal

end Trail

/-- A `command_attempt` record of this command was written. -/
def IsAttempt (spec : CommandSpec) (c : Call × Reply) : Prop :=
  ∃ n, c = (.record (.commandAttempt spec.command spec.name n), .done)

/-- There is an attempt record since the last send. -/
def Announced (spec : CommandSpec) : List (Call × Reply) → Prop
  | [] => False
  | c :: cs => IsAttempt spec c ∨ c.1.isSend = false ∧ Announced spec cs

/-- Every send is preceded by an attempt record of its own. -/
def SendsAnnounced (spec : CommandSpec) : List (Call × Reply) → Prop
  | [] => True
  | c :: cs => (c.1.isSend = true → Announced spec cs) ∧ SendsAnnounced spec cs

/-- The terminal record `e` agrees with what the caller is told: with the
outcome that is returned, or with a failure if an exception is raised. -/
def Agrees (spec : CommandSpec) (e : AuditEvent) : Pc → Prop
  | .returned o =>
      match e with
      | .commandAccepted command name attempt =>
          o.accepted = true ∧ command = spec.command ∧ name = spec.name ∧ attempt = o.attempts
      | .commandRejected command name attempt result =>
          o.accepted = false ∧ command = spec.command ∧ name = spec.name ∧
            attempt = o.attempts ∧ some result = o.result
      | .commandFailed command name attempts result =>
          o.accepted = false ∧ command = spec.command ∧ name = spec.name ∧
            attempts = o.attempts ∧ result = o.result
      | _ => False
  | .raised =>
      match e with
      | .commandRejected command name .. | .commandFailed command name .. =>
          command = spec.command ∧ name = spec.name
      | _ => False
  | _ => False

namespace Trail

/-- The execution recorded an attempt. -/
def Attempted (spec : CommandSpec) (t : Trail) : Prop := ∃ c ∈ t.calls, IsAttempt spec c

/-- The execution returned or raised. -/
def Finished (t : Trail) : Prop := t.execution.pc = .raised ∨ ∃ o, t.execution.pc = .returned o

/-- The last record is the only terminal one, and it agrees with the outcome. -/
def Closed (spec : CommandSpec) (t : Trail) : Prop :=
  ∃ e, t.terminals = [e] ∧ t.records.head? = some e ∧ Agrees spec e t.execution.pc

/-- A finished execution left a complete audit trail. -/
def Complete (spec : CommandSpec) (t : Trail) : Prop :=
  SendsAnnounced spec t.calls ∧ (t.Attempted spec → t.Closed spec)

/-- No `audit.record` raised. -/
def AuditSucceeds (t : Trail) : Prop := ∀ c ∈ t.calls, c.1.toAudit = true → c.2 ≠ .raised

/-- No call to the link raised. -/
def LinkNeverRaises (t : Trail) : Prop := ∀ c ∈ t.calls, c.1.toLink = true → c.2 ≠ .raised

instance (t : Trail) : Decidable t.Finished :=
  match h : t.execution.pc with
  | .returned o => .isTrue (.inr ⟨o, h⟩)
  | .raised => .isTrue (.inl h)
  | .attempt _ | .drain _ | .send _ | .deadline _ | .remaining _ _ | .recvAck _ _ _ | .noAck _
  | .accepted _ _ | .rejected _ _ | .retry _ _ | .failed =>
      .isFalse (by rintro (hr | ⟨o, ho⟩) <;> simp_all)

instance (t : Trail) : Decidable t.AuditSucceeds := by
  unfold AuditSucceeds
  infer_instance

instance (t : Trail) : Decidable t.LinkNeverRaises := by
  unfold LinkNeverRaises
  infer_instance

/-- Nothing terminal is recorded. -/
def Open (t : Trail) : Prop := t.terminals = []

/-- What holds of a trail wherever its execution stands. -/
def Standing (spec : CommandSpec) (t : Trail) : Prop :=
  match t.execution.pc with
  | .drain _ | .send _ => t.Open ∧ t.Attempted spec ∧ Announced spec t.calls
  | .deadline _ | .remaining .. | .recvAck .. => t.Open ∧ t.Attempted spec
  | .returned _ => t.Closed spec
  | _ => t.Open

/-- An execution ends in an exception exactly if a call raised, and a call to
the link is only made once an attempt is recorded. -/
def Raising (spec : CommandSpec) (t : Trail) : Prop :=
  (t.execution.pc = .raised → ∃ c ∈ t.calls, c.2 = .raised ∧ c.1.mayRaise = true ∧
    (c.1.toLink = true → t.Attempted spec)) ∧
  (t.execution.pc ≠ .raised → ∀ c ∈ t.calls, c.2 ≠ .raised)

/-! ## Adding a call to a trail -/

variable {s : CommandSender} {spec : CommandSpec} {t u : Trail} {c : Call × Reply}

/-- A step makes the call the execution stands at and resumes it. -/
theorem step_eq_some {r : Reply} :
    step s spec t r = some u ↔ ∃ call x, t.execution.call s spec = some call ∧
      t.execution.resume s spec r = some x ∧ u = { execution := x, calls := (call, r) :: t.calls } := by
  unfold step
  cases hc : t.execution.call s spec with
  | none => simp
  | some call =>
      cases hx : t.execution.resume s spec r with
      | none => simp
      | some x => simp [eq_comm]

theorem terminals_cons (x : Execution) (h : ∀ e, written c = some e → e.isTerminal = false) :
    terminals { execution := x, calls := c :: t.calls } = t.terminals := by
  unfold terminals records
  cases hw : written c with
  | none => rw [List.filterMap_cons_none hw]
  | some e =>
      rw [List.filterMap_cons_some hw, List.filter_cons_of_neg]
      rw [h e hw]
      exact Bool.false_ne_true

theorem Attempted.cons (x : Execution) (h : t.Attempted spec) :
    Attempted spec { execution := x, calls := c :: t.calls } := by
  obtain ⟨c', hc', ha⟩ := h
  exact ⟨c', List.mem_cons_of_mem _ hc', ha⟩

/-- A call that writes no terminal record leaves the trail open. -/
theorem Open.cons (x : Execution) (h : t.Open)
    (hw : ∀ e, written c = some e → e.isTerminal = false) :
    Open { execution := x, calls := c :: t.calls } :=
  (terminals_cons x hw).trans h

/-- A terminal record closes an open trail. -/
theorem Open.close {x : Execution} {e : AuditEvent} (h : t.Open) (hterm : e.isTerminal = true)
    (hagrees : Agrees spec e x.pc) :
    Closed spec { execution := x, calls := (.record e, .done) :: t.calls } := by
  refine ⟨e, ?_, rfl, hagrees⟩
  show List.filter _ (e :: t.records) = [e]
  rw [List.filter_cons_of_pos hterm]
  exact congrArg _ h

/-! ## One step -/

/-- A trail is open as long as its execution makes calls. -/
theorem Standing.open {call : Call} (h : t.Standing spec)
    (hcall : t.execution.call s spec = some call) : t.Open := by
  obtain ⟨⟨pc, last⟩, calls⟩ := t
  cases pc with
  | drain n => exact h.1
  | send n => exact h.1
  | deadline n => exact h.1
  | remaining n deadline => exact h.1
  | recvAck n deadline remaining => exact h.1
  | returned o => cases hcall
  | raised => cases hcall
  | attempt n => exact h
  | noAck n => exact h
  | accepted n result => exact h
  | rejected n result => exact h
  | retry n result => exact h
  | failed => exact h

/-- A call to the link is only made once an attempt is recorded. -/
theorem Standing.attempted {call : Call} (h : t.Standing spec)
    (hcall : t.execution.call s spec = some call) (hlink : call.toLink = true) :
    t.Attempted spec := by
  obtain ⟨⟨pc, last⟩, calls⟩ := t
  cases pc with
  | drain n => exact h.2.1
  | send n => exact h.2.1
  | recvAck n deadline remaining => exact h.2
  | _ => cases hcall <;> cases hlink

/-- A send is only made once it is announced. -/
theorem Standing.announced {call : Call} (h : t.Standing spec)
    (hcall : t.execution.call s spec = some call) (hsend : call.isSend = true) :
    Announced spec t.calls := by
  obtain ⟨⟨pc, last⟩, calls⟩ := t
  cases pc with
  | send n => exact h.2.2
  | _ => cases hcall <;> cases hsend

/-- Entering the loop again leaves the trail open. -/
theorem standing_loop {n : Int} {last : Option Int} {calls : List (Call × Reply)}
    (h : Open { execution := ⟨s.loop n, last⟩, calls }) :
    Standing spec { execution := ⟨s.loop n, last⟩, calls } := by
  rcases s.loop_cases n with hl | hl <;> rw [hl] at h ⊢ <;> exact h

/-- A step keeps what holds of a trail. -/
theorem standing_step {r : Reply} (h : t.Standing spec) (hstep : step s spec t r = some u) :
    u.Standing spec := by
  obtain ⟨call, x, hcall, hx, rfl⟩ := step_eq_some.mp hstep
  obtain ⟨⟨pc, last⟩, calls⟩ := t
  have hres := resumes_of_resume hx
  cases hres with
  | attempted n =>
      cases hcall
      have hopen := Open.cons (t := ⟨⟨.attempt n, last⟩, calls⟩) ⟨s.recorded n, last⟩ h
        (c := (.record (.commandAttempt spec.command spec.name n), .done))
        (by rintro _ ⟨⟩; rfl)
      have hnew : IsAttempt spec (.record (.commandAttempt spec.command spec.name n), .done) :=
        ⟨n, rfl⟩
      have hatt : ∃ c ∈ (Call.record (.commandAttempt spec.command spec.name n), Reply.done) ::
          calls, IsAttempt spec c := ⟨_, List.mem_cons_self, hnew⟩
      rcases s.recorded_cases n with hl | hl <;> rw [hl] at hopen ⊢ <;>
        exact ⟨hopen, hatt, .inl hnew⟩
  | drained n =>
      cases hcall
      exact ⟨Open.cons _ h.1 (by rintro _ ⟨⟩), h.2.1.cons _, .inr ⟨rfl, h.2.2⟩⟩
  | sent n =>
      cases hcall
      exact ⟨Open.cons _ h.1 (by rintro _ ⟨⟩), h.2.1.cons _⟩
  | fixed n _ time =>
      cases hcall
      exact ⟨Open.cons _ h.1 (by rintro _ ⟨⟩), h.2.cons _⟩
  | expired n _ deadline time =>
      cases hcall
      exact Open.cons _ h.1 (by rintro _ ⟨⟩)
  | waiting n _ deadline time =>
      cases hcall
      exact ⟨Open.cons _ h.1 (by rintro _ ⟨⟩), h.2.cons _⟩
  | silent n _ deadline remaining =>
      cases hcall
      exact Open.cons _ h.1 (by rintro _ ⟨⟩)
  | matched n _ deadline remaining ack =>
      cases hcall
      have hopen := Open.cons (t := ⟨⟨.recvAck n deadline remaining, last⟩, calls⟩)
        ⟨.onAck n ack.result, some ack.result⟩ h.1 (c := (.recvAck remaining, .ack (some ack)))
        (by rintro _ ⟨⟩)
      rcases Pc.onAck_cases n ack.result with ⟨-, hl⟩ | ⟨-, hl⟩ | ⟨-, hl⟩ <;>
        rw [hl] at hopen ⊢ <;> exact hopen
  | skipped n _ deadline remaining ack =>
      cases hcall
      exact ⟨Open.cons _ h.1 (by rintro _ ⟨⟩), h.2.cons _⟩
  | unanswered n =>
      cases hcall
      exact standing_loop (Open.cons _ h (by rintro _ ⟨⟩; rfl))
  | acceptance n result =>
      cases hcall
      exact Open.close h rfl ⟨rfl, rfl, rfl, rfl⟩
  | rejection n result =>
      cases hcall
      exact Open.close h rfl ⟨rfl, rfl, rfl, rfl, rfl⟩
  | retried n result =>
      cases hcall
      exact standing_loop (Open.cons _ h (by rintro _ ⟨⟩; rfl))
  | exhausted =>
      cases hcall
      exact Open.close h rfl ⟨rfl, rfl, rfl, rfl, rfl⟩
  | raised _ _ call' hc hmay =>
      exact Open.cons _ (h.open hcall) (by cases call <;> rintro _ ⟨⟩)

theorem raising_step {r : Reply} (hs : t.Standing spec) (h : t.Raising spec)
    (hstep : step s spec t r = some u) : u.Raising spec := by
  obtain ⟨call, x, hcall, hx, rfl⟩ := step_eq_some.mp hstep
  have hres := resumes_of_resume hx
  have hold : t.execution.pc ≠ .raised := by
    intro hpc
    rw [Execution.call, hpc] at hcall
    cases hcall
  constructor
  · intro hpc
    have hr := hres.raised_iff.mp hpc
    refine ⟨(call, r), List.mem_cons_self, hr, hres.mayRaise hcall hr, fun hlink ↦ ?_⟩
    exact (hs.attempted hcall hlink).cons x
  · intro hpc c hc
    rcases List.mem_cons.mp hc with rfl | hc
    · exact fun hr ↦ hpc (hres.raised_iff.mpr hr)
    · exact h.2 hold c hc

theorem sendsAnnounced_step {r : Reply} (hs : t.Standing spec)
    (h : SendsAnnounced spec t.calls) (hstep : step s spec t r = some u) :
    SendsAnnounced spec u.calls := by
  obtain ⟨call, x, hcall, -, rfl⟩ := step_eq_some.mp hstep
  exact ⟨fun hsend ↦ hs.announced hcall hsend, h⟩

/-! ## Runs -/

/-- What every step of an execution keeps. -/
structure Sound (spec : CommandSpec) (t : Trail) : Prop where
  standing : t.Standing spec
  raising : t.Raising spec
  sends : SendsAnnounced spec t.calls

theorem sound_start (s : CommandSender) (spec : CommandSpec) : Sound spec (start s) where
  standing := standing_loop rfl
  raising := by
    refine ⟨fun h ↦ ?_, fun _ c hc ↦ absurd hc List.not_mem_nil⟩
    have hloop : s.loop 1 = .raised := h
    rcases s.loop_cases 1 with hl | hl <;> rw [hl] at hloop <;> cases hloop
  sends := trivial

theorem Sound.step {r : Reply} (h : t.Sound spec) (hstep : Trail.step s spec t r = some u) :
    u.Sound spec where
  standing := standing_step h.standing hstep
  raising := raising_step h.standing h.raising hstep
  sends := sendsAnnounced_step h.standing h.sends hstep

/-- Every trail a run leads to is sound. -/
theorem sound_of_exec {replies : List Reply}
    (h : Automaton.exec (step s spec) (start s) replies = some t) : t.Sound spec :=
  Automaton.exec_invariant (fun _ _ _ ht hstep ↦ ht.step hstep) (sound_start s spec) h

/-- At every moment of an execution each send so far was preceded by a
`command_attempt` record of its own. -/
theorem sends_announced {replies : List Reply}
    (h : Automaton.exec (step s spec) (start s) replies = some t) :
    SendsAnnounced spec t.calls :=
  (sound_of_exec h).sends

/-- While the audit works, an execution can only end in an exception of the
link, after it recorded an attempt. -/
theorem Sound.link_raised (h : t.Sound spec) (haudit : t.AuditSucceeds)
    (hpc : t.execution.pc = .raised) :
    t.Attempted spec ∧ ∃ c ∈ t.calls, c.1.toLink = true ∧ c.2 = .raised := by
  obtain ⟨⟨call, r⟩, hc, hr, hmay, hatt⟩ := h.raising.1 hpc
  have hlink : call.toLink = true := by
    cases call with
    | record e => exact absurd hr (haudit _ hc rfl)
    | newId => cases hmay
    | health => cases hmay
    | now => cases hmay
    | _ => rfl
  exact ⟨hatt hlink, _, hc, hlink, hr⟩

/-- **The audit trail.**  While the audit works, an execution that finished left
a complete trail if and only if none of its calls to the link raised. -/
theorem complete_iff_link_never_raises (s : CommandSender) (spec : CommandSpec)
    (replies : List Reply) (t : Trail)
    (hrun : Automaton.exec (step s spec) (start s) replies = some t) (hend : t.Finished)
    (haudit : t.AuditSucceeds) : t.Complete spec ↔ t.LinkNeverRaises := by
  have h := sound_of_exec hrun
  constructor
  · rintro ⟨-, hclosed⟩ c hc hlink hr
    have hpc : t.execution.pc = .raised := by
      by_contra hpc
      exact h.raising.2 hpc c hc hr
    -- an attempt is recorded, and nothing terminal
    obtain ⟨e, he, -⟩ := hclosed (h.link_raised haudit hpc).1
    have hopen := h.standing
    rw [Standing, hpc] at hopen
    rw [hopen] at he
    cases he
  · intro hlink
    refine ⟨h.sends, fun _ ↦ ?_⟩
    rcases hend with hpc | ⟨o, hpc⟩
    · obtain ⟨-, c, hc, hl, hr⟩ := h.link_raised haudit hpc
      exact absurd hr (hlink c hc hl)
    · have hs := h.standing
      rw [Standing, hpc] at hs
      exact hs

/-- The vehicle accepts the second attempt at an arm. -/
theorem complete_retry_then_accept :
    ∃ t, Automaton.exec (step {} arm) (start {})
      [.done, .done, .done, .time 0, .time 0, .ack (some ⟨400, 1, 1⟩), .done,
        .done, .done, .time 1, .time 1, .ack (some ⟨400, 0, 1⟩), .done] = some t ∧
      t.Complete arm := by
  obtain ⟨t, hrun, h⟩ := (Option.any_eq_true
    (fun t : Trail ↦ decide (t.Finished ∧ t.AuditSucceeds ∧ t.LinkNeverRaises)) _).mp
    (show (Automaton.exec (step {} arm) (start {})
      [.done, .done, .done, .time 0, .time 0, .ack (some ⟨400, 1, 1⟩), .done,
        .done, .done, .time 1, .time 1, .ack (some ⟨400, 0, 1⟩), .done]).any _ = true by
      decide +kernel)
  obtain ⟨hend, haudit, hlink⟩ := of_decide_eq_true h
  exact ⟨t, hrun, (complete_iff_link_never_raises {} arm _ t hrun hend haudit).mpr hlink⟩

/-- The first send raises: an attempt is recorded and nothing terminal. -/
theorem incomplete_when_send_raises :
    ∃ t, Automaton.exec (step {} arm) (start {}) [.done, .done, .raised] = some t ∧
      t.Finished ∧ t.AuditSucceeds ∧ ¬ t.Complete arm := by
  refine ⟨_, rfl, .inl rfl, by decide, ?_⟩
  rintro ⟨-, hclosed⟩
  obtain ⟨e, he, -⟩ := hclosed ⟨_, by simp, 1, rfl⟩
  cases he

end Trail

end DroneComms.Command
