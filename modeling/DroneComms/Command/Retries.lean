import DroneComms.Command.Trail
import Mathlib.Data.Set.Finite.Lemmas

/-!
# The retry machine and its ACK rules

What `CommandSender.execute` makes of the ACKs it receives, for every link and
every clock it can be run against.

A `Behaviour` answers the calls of an execution in order.  `waits` reads off the
calls made which ACKs were received in the wait of each attempt, `answer` is the
first matching one among them, and `Follows` says that the execution ends, and
that its outcome is what the ACK rules make of the answers.
-/

namespace DroneComms.Command

/-- How the surroundings answer the calls of an execution: what the `n`-th call
comes back with.  Time does not run backwards, and only finitely many ACKs
arrive in bounded time. -/
structure Behaviour where
  clock : ℕ → ℚ
  monotone : Monotone clock
  ack : ℕ → Option Ack
  sparse : ∀ time, {n | (ack n).isSome ∧ clock n ≤ time}.Finite
  /-- The audit log overflows at this call. -/
  overflows : ℕ → Bool := fun _ ↦ false

/-- The reply to a call that is the `n`-th.  The link does not raise. -/
def Behaviour.reply (b : Behaviour) (n : ℕ) : Call → Reply
  | .now => .time (b.clock n)
  | .recvAck _ => .ack (b.ack n)
  | .record _ => if b.overflows n then .raised else .done
  | _ => .done

/-! ## What was received -/

/-- Add an ACK to the current wait. -/
def hear (ack : Ack) : List (List Ack) → List (List Ack)
  | [] => []
  | w :: ws => (w ++ [ack]) :: ws

/-- The ACKs received after each send, the newest send first. -/
def waits : List (Call × Reply) → List (List Ack)
  | [] => []
  | (.send _, _) :: cs => [] :: waits cs
  | (_, .ack (some ack)) :: cs => hear ack (waits cs)
  | _ :: cs => waits cs

/-- An ACK is received in the wait that was opened last. -/
theorem waits_recvAck {calls : List (Call × Reply)} {w : List Ack} {rest : List (List Ack)}
    (h : waits calls = w :: rest) (remaining : ℚ) (ack : Ack) :
    waits ((.recvAck remaining, .ack (some ack)) :: calls) = (w ++ [ack]) :: rest := by
  rw [waits, h]
  · rfl
  · simp

/-- The number of sends made. -/
def sends (cs : List (Call × Reply)) : ℕ := cs.countP (·.1.isSend)

/-- There is a wait for every send. -/
theorem length_waits (cs : List (Call × Reply)) : (waits cs).length = sends cs := by
  have hlength (ack : Ack) (ws : List (List Ack)) : (hear ack ws).length = ws.length := by
    cases ws <;> rfl
  unfold sends
  fun_induction waits cs with
  | case1 => rfl
  | case2 spec r cs ih => simp [ih, Call.isSend]
  | case3 call ack cs hcall ih =>
      have hsend : call.isSend = false := by
        cases call with
        | send spec => exact absurd rfl (hcall spec)
        | _ => rfl
      simp [hlength, ih, hsend]
  | case4 c cs hsend hack ih =>
      obtain ⟨call, r⟩ := c
      cases call with
      | send spec => exact absurd rfl (hsend spec r)
      | _ => simp [ih, Call.isSend]

namespace CommandSender

/-- The result of the first matching ACK received in a wait. -/
def answer (s : CommandSender) (spec : CommandSpec) (w : List Ack) : Option Int :=
  (w.find? (s.accepts spec.command)).map (·.result)

/-- The result of the last matching ACK of all. -/
def lastAnswer (s : CommandSender) (spec : CommandSpec) (ws : List (List Ack)) : Option Int :=
  (ws.flatten.filter (s.accepts spec.command)).getLast?.map (·.result)

end CommandSender

/-- An answer that asks for another attempt: a timeout, or a result that is
TEMPORARILY_REJECTED, IN_PROGRESS or unknown. -/
def Inconclusive : Option Int → Prop
  | none => True
  | some result =>
      result = mavResultTemporarilyRejected ∨ result = mavResultInProgress ∨
        result < mavResultAccepted ∨ mavResultCancelled < result

/-- The waits came to the answer `result` in attempt `i` and to nothing
conclusive before. -/
def AnsweredAt (s : CommandSender) (spec : CommandSpec) (ws : List (List Ack)) (i : ℕ)
    (result : Int) : Prop :=
  (∃ w, ws[i]? = some w ∧ s.answer spec w = some result) ∧
    ∀ w ∈ ws.take i, Inconclusive (s.answer spec w)

/-- The outcome that the ACK rules prescribe for the waits `ws`, in the order of
the attempts. -/
structure Verdict (s : CommandSender) (spec : CommandSpec) (ws : List (List Ack))
    (o : CommandOutcome) : Prop where
  carries : o.spec = spec
  result : o.result = s.lastAnswer spec ws
  accepted : o.accepted = true ↔ ∃ i, AnsweredAt s spec ws i mavResultAccepted
  rejected : o.reason = "terminal_reject" ↔
    ∃ i, ∃ result ∈ terminalFailures, AnsweredAt s spec ws i result
  exhausted : o.accepted = false → o.reason ≠ "terminal_reject" →
    o.reason = "exhausted_retries" ∧ ws.length = s.settings.maxAttempts

/-! ## Running against a behaviour -/

/-- Make the call the execution stands at, if it stands at one. -/
def Trail.next (s : CommandSender) (spec : CommandSpec) (b : Behaviour) (n : ℕ) (t : Trail) :
    Trail :=
  match t.execution.call s spec with
  | none => t
  | some call => (t.step s spec (b.reply n call)).getD t

/-- The execution after `n` calls. -/
def Trail.during (s : CommandSender) (spec : CommandSpec) (b : Behaviour) : ℕ → Trail
  | 0 => .start s
  | n + 1 => (during s spec b n).next s spec b n

/-- `b'` is `b` with one more ACK at call `p`, and the reading of the clock that
follows it. -/
structure InsertsAt (b b' : Behaviour) (p : ℕ) (ack : Ack) : Prop where
  before : ∀ n < p, ∀ call, b'.reply n call = b.reply n call
  heard : b'.ack p = some ack
  after : ∀ n ≥ p, ∀ call, b'.reply (n + 2) call = b.reply n call

/-- Where the execution against `b` waits at call `p` for an ACK, with the
deadline later than the clock of `b'` at the call after it. -/
def WithinWindow (s : CommandSender) (spec : CommandSpec) (b b' : Behaviour) (p : ℕ) : Prop :=
  ∃ n deadline remaining, (Trail.during s spec b p).execution.pc = .recvAck n deadline remaining ∧
    b'.clock (p + 1) < deadline

/-- The execution of `spec` against `b` follows the ACK rules. -/
structure Follows (s : CommandSender) (spec : CommandSpec) (b : Behaviour) : Prop where
  /-- It returns, unless the audit log overflows. -/
  ends : ∃ n, (∃ o, (Trail.during s spec b n).execution.pc = .returned o) ∨
    ∃ e, (.record e, .raised) ∈ (Trail.during s spec b n).calls
  bounded : ∀ n, sends (Trail.during s spec b n).calls ≤ s.settings.maxAttempts
  /-- No send follows a definite answer. -/
  stops : ∀ n, ∀ w ∈ (waits (Trail.during s spec b n).calls).tail, Inconclusive (s.answer spec w)
  attempts : ∀ n o, (Trail.during s spec b n).execution.pc = .returned o →
    o.attempts = sends (Trail.during s spec b n).calls
  verdict : ∀ n o, (Trail.during s spec b n).execution.pc = .returned o →
    Verdict s spec (waits (Trail.during s spec b n).calls).reverse o
  /-- An ACK that does not match changes nothing, nor does its absence. -/
  unrelated : ∀ b' p ack, InsertsAt b b' p ack → s.accepts spec.command ack = false →
    WithinWindow s spec b b' p → ∀ o, (∃ n, (Trail.during s spec b n).execution.pc = .returned o) ↔
      ∃ n, (Trail.during s spec b' n).execution.pc = .returned o

variable {s : CommandSender} {spec : CommandSpec} {b : Behaviour}

/-! ## Answers -/

namespace CommandSender

/-- A wait without a matching ACK has no answer. -/
theorem answer_eq_none {w : List Ack} (h : ∀ ack ∈ w, s.accepts spec.command ack = false) :
    s.answer spec w = none := by
  have hfind : w.find? (s.accepts spec.command) = none :=
    List.find?_eq_none.mpr fun ack hack ↦ by simp [h ack hack]
  simp [answer, hfind]

/-- The first matching ACK of a wait is its answer. -/
theorem answer_hear {w : List Ack} {ack : Ack}
    (h : ∀ ack ∈ w, s.accepts spec.command ack = false)
    (hack : s.accepts spec.command ack = true) :
    s.answer spec (w ++ [ack]) = some ack.result := by
  have hfind : w.find? (s.accepts spec.command) = none :=
    List.find?_eq_none.mpr fun ack hack ↦ by simp [h ack hack]
  simp [answer, List.find?_append, hfind, hack]

/-- A wait without a matching ACK leaves the last answer as it was. -/
theorem lastAnswer_append {ws : List (List Ack)} {w : List Ack}
    (h : ∀ ack ∈ w, s.accepts spec.command ack = false) :
    s.lastAnswer spec (ws ++ [w]) = s.lastAnswer spec ws := by
  have hnone : w.filter (s.accepts spec.command) = [] :=
    List.filter_eq_nil_iff.mpr fun ack hack ↦ by simp [h ack hack]
  simp [lastAnswer, hnone]

theorem lastAnswer_hear {ws : List (List Ack)} {w : List Ack} {ack : Ack}
    (hack : s.accepts spec.command ack = true) :
    s.lastAnswer spec (ws ++ [w ++ [ack]]) = some ack.result := by
  simp [lastAnswer, hack]

end CommandSender

/-- Of all results, the definite ones are the acceptance and the refusals. -/
theorem inconclusive_some {result : Int} : Inconclusive (some result) ↔
    result ≠ mavResultAccepted ∧ result ∉ terminalFailures := by
  simp only [Inconclusive, terminalFailures, mavResultAccepted, mavResultTemporarilyRejected,
    mavResultDenied, mavResultUnsupported, mavResultFailed, mavResultInProgress,
    mavResultCancelled, List.mem_cons, List.not_mem_nil, or_false]
  omega

/-- No wait so far had a definite answer. -/
def Settled (s : CommandSender) (spec : CommandSpec) (ws : List (List Ack)) : Prop :=
  ∀ w ∈ ws, Inconclusive (s.answer spec w)

theorem Settled.cons {ws : List (List Ack)} {w : List Ack} (h : Settled s spec ws)
    (hw : Inconclusive (s.answer spec w)) : Settled s spec (w :: ws) :=
  List.forall_mem_cons.mpr ⟨hw, h⟩

/-- Nothing conclusive was ever answered. -/
theorem Settled.not_answeredAt {ws : List (List Ack)} (h : Settled s spec ws) {i : ℕ}
    {result : Int} (hr : ¬ Inconclusive (some result)) :
    ¬ AnsweredAt s spec ws.reverse i result := by
  rintro ⟨⟨w, hw, ha⟩, -⟩
  have hmem : w ∈ ws := List.mem_reverse.mp (List.mem_of_getElem? hw)
  exact hr (ha ▸ h w hmem)

/-- The first conclusive answer is that of the last wait. -/
theorem Settled.answeredAt_iff {ws : List (List Ack)} (h : Settled s spec ws) {w : List Ack}
    {i : ℕ} {result : Int} (hr : ¬ Inconclusive (some result)) :
    AnsweredAt s spec (w :: ws).reverse i result ↔
      i = ws.length ∧ s.answer spec w = some result := by
  rw [List.reverse_cons]
  constructor
  · rintro ⟨⟨w', hw', ha⟩, -⟩
    rcases lt_trichotomy i ws.length with hi | hi | hi
    · rw [List.getElem?_append_left (by simpa using hi)] at hw'
      have hmem : w' ∈ ws := List.mem_reverse.mp (List.mem_of_getElem? hw')
      exact absurd (ha ▸ h w' hmem) hr
    · subst hi
      obtain rfl : w = w' := by simpa using hw'
      exact ⟨rfl, ha⟩
    · rw [List.getElem?_eq_none (by simpa using hi)] at hw'
      cases hw'
  · rintro ⟨rfl, ha⟩
    refine ⟨⟨w, by simp, ha⟩, fun w' hw' ↦ h w' ?_⟩
    simpa using hw'

/-! ## Where an execution stands -/

/-- The last wait is the first with a definite answer. -/
def Decided (s : CommandSender) (spec : CommandSpec) (ws : List (List Ack)) (result : Int) :
    Prop :=
  ∃ w rest, ws = w :: rest ∧ s.answer spec w = some result ∧ Settled s spec rest ∧
    s.lastAnswer spec ws.reverse = some result

/-- The current wait brought no matching ACK yet. -/
def Waiting (s : CommandSender) (spec : CommandSpec) (ws : List (List Ack)) : Prop :=
  ∃ w rest, ws = w :: rest ∧ (∀ ack ∈ w, s.accepts spec.command ack = false) ∧
    Settled s spec rest

/-- What the waits so far, the newest first, are where an execution stands. -/
def Abreast (s : CommandSender) (spec : CommandSpec) (ws : List (List Ack)) : Pc → Prop
  | .attempt n | .drain n | .send n =>
      Settled s spec ws ∧ n = ws.length + 1 ∧ n ≤ s.settings.maxAttempts
  | .deadline n | .remaining n _ | .recvAck n _ _ => Waiting s spec ws ∧ n = ws.length
  | .noAck n | .retry n _ => Settled s spec ws ∧ n = ws.length
  | .accepted n result =>
      Decided s spec ws result ∧ n = ws.length ∧ result = mavResultAccepted
  | .rejected n result => Decided s spec ws result ∧ n = ws.length ∧ result ∈ terminalFailures
  | .failed => Settled s spec ws ∧ ws.length = s.settings.maxAttempts
  | .returned o => Verdict s spec ws.reverse o ∧ o.attempts = ws.length
  | .raised => True

/-- What holds of the waits of a trail wherever its execution stands. -/
structure Trail.Heard (s : CommandSender) (spec : CommandSpec) (t : Trail) : Prop where
  abreast : Abreast s spec (waits t.calls) t.execution.pc
  last : t.execution.pc ≠ .raised →
    t.execution.lastResult = s.lastAnswer spec (waits t.calls).reverse
  bounded : (waits t.calls).length ≤ s.settings.maxAttempts
  settled : Settled s spec (waits t.calls).tail

/-- After an attempt that asks for another one, the loop goes on or ends. -/
theorem abreast_loop {ws : List (List Ack)} {n : Int} (h : Settled s spec ws) (hn : n = ws.length)
    (hmax : ws.length ≤ s.settings.maxAttempts) : Abreast s spec ws (s.loop (n + 1)) := by
  unfold CommandSender.loop
  split_ifs with hlt
  · exact ⟨h, by rw [hn], Int.lt_add_one_iff.mp hlt⟩
  · exact ⟨h, by omega⟩

/-- Once the wait is over without a matching ACK, nothing is settled yet. -/
theorem Waiting.settled {ws : List (List Ack)} (h : Waiting s spec ws) : Settled s spec ws := by
  obtain ⟨w, rest, rfl, hw, hrest⟩ := h
  apply hrest.cons
  rw [CommandSender.answer_eq_none hw]
  trivial

/-- The verdict on waits that ended with a definite answer. -/
theorem Decided.verdict {ws : List (List Ack)} {n result : Int} {accepted : Bool}
    {reason : String} (h : Decided s spec ws result)
    (hdefinite : accepted = true ∨ reason = "terminal_reject")
    (haccepted : accepted = true ↔ result = mavResultAccepted)
    (hreason : reason = "terminal_reject" ↔ result ∈ terminalFailures) :
    Verdict s spec ws.reverse ⟨spec, accepted, some result, n, reason⟩ := by
  obtain ⟨w, rest, rfl, hanswer, hrest, hlast⟩ := h
  constructor
  · rfl
  · exact hlast.symm
  · show accepted = true ↔ _
    rw [haccepted]
    have hacc : ¬ Inconclusive (some mavResultAccepted) := fun h ↦ (inconclusive_some.mp h).1 rfl
    rw [exists_congr fun _ ↦ hrest.answeredAt_iff hacc, hanswer]
    simp
  · show reason = "terminal_reject" ↔ _
    rw [hreason]
    constructor
    · intro hr
      have hrej : ¬ Inconclusive (some result) := fun h ↦ (inconclusive_some.mp h).2 hr
      exact ⟨rest.length, result, hr, (hrest.answeredAt_iff hrej).mpr ⟨rfl, hanswer⟩⟩
    · rintro ⟨i, result', hr, hat⟩
      have hrej : ¬ Inconclusive (some result') := fun h ↦ (inconclusive_some.mp h).2 hr
      obtain ⟨-, hanswer'⟩ := (hrest.answeredAt_iff hrej).mp hat
      rw [hanswer, Option.some.injEq] at hanswer'
      exact hanswer' ▸ hr
  · intro hno hnot
    rcases hdefinite with hyes | hyes
    · exact absurd hyes (ne_of_eq_of_ne hno Bool.false_ne_true)
    · exact absurd hyes hnot

/-- The verdict on waits without a definite answer. -/
theorem Settled.verdict {ws : List (List Ack)} {last : Option Int} (h : Settled s spec ws)
    (hlast : last = s.lastAnswer spec ws.reverse) (hmax : ws.length = s.settings.maxAttempts) :
    Verdict s spec ws.reverse
      ⟨spec, false, last, s.settings.maxAttempts, "exhausted_retries"⟩ := by
  constructor
  · rfl
  · exact hlast
  · refine iff_of_false Bool.false_ne_true ?_
    rintro ⟨i, hat⟩
    exact h.not_answeredAt (fun h ↦ (inconclusive_some.mp h).1 rfl) hat
  · refine iff_of_false (by simp) ?_
    rintro ⟨i, result, hr, hat⟩
    exact h.not_answeredAt (fun h ↦ (inconclusive_some.mp h).2 hr) hat
  · exact fun _ _ ↦ ⟨rfl, by simpa using hmax⟩

namespace Trail

variable {t u : Trail}

theorem heard_start (hmax : 1 ≤ s.settings.maxAttempts) : Heard s spec (start s) := by
  have hpc : (start s).execution.pc = .attempt 1 := if_pos (Int.lt_add_one_of_le hmax)
  have hnil : waits (start s).calls = [] := rfl
  refine ⟨?_, fun _ ↦ rfl, ?_, ?_⟩
  · rw [hpc, hnil]
    exact ⟨fun w hw ↦ absurd hw List.not_mem_nil, rfl, hmax⟩
  · rw [hnil]
    exact (Int.zero_le_ofNat 1).trans hmax
  · simp [hnil, Settled]

/-- A step that receives nothing and sends nothing only moves the program
counter. -/
theorem Heard.quiet {c : Call × Reply} {pc pc' : Pc} {last : Option Int}
    {calls : List (Call × Reply)} (h : Heard s spec ⟨⟨pc, last⟩, calls⟩)
    (hquiet : waits (c :: calls) = waits calls) (hpc : pc ≠ .raised)
    (habreast : Abreast s spec (waits calls) pc') : Heard s spec ⟨⟨pc', last⟩, c :: calls⟩ where
  abreast := by rw [hquiet]; exact habreast
  last := fun _ ↦ by rw [hquiet]; exact h.last hpc
  bounded := by rw [hquiet]; exact h.bounded
  settled := by rw [hquiet]; exact h.settled

/-- A send opens a new wait. -/
theorem Heard.sent {n : Int} {last : Option Int} {calls : List (Call × Reply)} {r : Reply}
    (h : Heard s spec ⟨⟨.send n, last⟩, calls⟩) :
    Heard s spec ⟨⟨.deadline n, last⟩, (.send spec, r) :: calls⟩ := by
  obtain ⟨hsettled, hn, hmax⟩ := h.abreast
  refine ⟨⟨⟨[], waits calls, rfl, by simp, hsettled⟩, by simpa [waits] using hn⟩, fun _ ↦ ?_, ?_,
    hsettled⟩
  · have hlast : last = s.lastAnswer spec (waits calls).reverse := h.last (by simp)
    rw [hlast, waits, List.reverse_cons, CommandSender.lastAnswer_append (by simp)]
  · simpa [waits, hn] using hmax

/-- A matching ACK answers the current wait. -/
theorem Heard.matched {n : Int} {deadline remaining : ℚ} {last : Option Int}
    {calls : List (Call × Reply)} {ack : Ack}
    (h : Heard s spec ⟨⟨.recvAck n deadline remaining, last⟩, calls⟩)
    (hack : s.accepts spec.command ack = true) :
    Heard s spec ⟨⟨.onAck n ack.result, some ack.result⟩,
      (.recvAck remaining, .ack (some ack)) :: calls⟩ := by
  obtain ⟨⟨w, rest, hws, hw, hrest⟩, hn⟩ := h.abreast
  have hbounded := h.bounded
  dsimp only at hws hn hbounded
  rw [hws] at hn hbounded
  have hwaits := waits_recvAck hws remaining ack
  have hanswer := CommandSender.answer_hear hw hack
  have hlast : s.lastAnswer spec ((w ++ [ack]) :: rest).reverse = some ack.result := by
    rw [List.reverse_cons]
    exact CommandSender.lastAnswer_hear hack
  have hdecided : Decided s spec ((w ++ [ack]) :: rest) ack.result :=
    ⟨_, _, rfl, hanswer, hrest, hlast⟩
  refine ⟨?_, fun _ ↦ by rw [hwaits, hlast], by rw [hwaits]; exact hbounded, by
    rw [hwaits]; exact hrest⟩
  rw [hwaits]
  dsimp only
  unfold Pc.onAck
  split_ifs with hacc hterm
  · exact ⟨hdecided, hn, hacc⟩
  · exact ⟨hdecided, hn, hterm⟩
  · refine ⟨hrest.cons ?_, hn⟩
    rw [hanswer]
    exact inconclusive_some.mpr ⟨hacc, hterm⟩

/-- An ACK that does not match leaves the current wait without an answer. -/
theorem Heard.skipped {n : Int} {deadline remaining : ℚ} {last : Option Int}
    {calls : List (Call × Reply)} {ack : Ack}
    (h : Heard s spec ⟨⟨.recvAck n deadline remaining, last⟩, calls⟩)
    (hack : s.accepts spec.command ack = false) :
    Heard s spec ⟨⟨.remaining n deadline, last⟩,
      (.recvAck remaining, .ack (some ack)) :: calls⟩ := by
  obtain ⟨⟨w, rest, hws, hw, hrest⟩, hn⟩ := h.abreast
  have hbounded := h.bounded
  have hlast : last = s.lastAnswer spec (waits calls).reverse := h.last (by simp)
  dsimp only at hws hn hbounded
  rw [hws] at hn hbounded
  have hwaits := waits_recvAck hws remaining ack
  have hw' : ∀ a ∈ w ++ [ack], s.accepts spec.command a = false := by
    simpa [or_imp, forall_and] using ⟨hw, hack⟩
  refine ⟨by rw [hwaits]; exact ⟨⟨_, _, rfl, hw', hrest⟩, hn⟩, fun _ ↦ ?_, by
    rw [hwaits]; exact hbounded, by rw [hwaits]; exact hrest⟩
  rw [hwaits, hlast, hws, List.reverse_cons, List.reverse_cons,
    CommandSender.lastAnswer_append hw', CommandSender.lastAnswer_append hw]

/-- A step keeps what holds of the waits. -/
theorem Heard.step {r : Reply} (h : t.Heard s spec) (hstep : Trail.step s spec t r = some u) :
    u.Heard s spec := by
  obtain ⟨call, x, hcall, hx, rfl⟩ := step_eq_some.mp hstep
  obtain ⟨⟨pc, last⟩, calls⟩ := t
  have hres := resumes_of_resume hx
  have ha := h.abreast
  cases hres with
  | attempted n =>
      cases hcall
      refine h.quiet rfl (by simp) ?_
      rcases s.recorded_cases n with hl | hl <;> rw [hl] <;> exact ha
  | drained n =>
      cases hcall
      exact h.quiet rfl (by simp) ha
  | sent n =>
      cases hcall
      exact h.sent
  | fixed n _ time =>
      cases hcall
      exact h.quiet rfl (by simp) ha
  | expired n _ deadline time =>
      cases hcall
      exact h.quiet rfl (by simp) ⟨Waiting.settled ha.1, ha.2⟩
  | waiting n _ deadline time =>
      cases hcall
      exact h.quiet rfl (by simp) ha
  | silent n _ deadline remaining =>
      cases hcall
      exact h.quiet rfl (by simp) ⟨Waiting.settled ha.1, ha.2⟩
  | matched n _ deadline remaining ack hack =>
      cases hcall
      exact h.matched hack
  | skipped n _ deadline remaining ack hack =>
      cases hcall
      exact h.skipped hack
  | unanswered n =>
      cases hcall
      exact h.quiet rfl (by simp) (abreast_loop ha.1 ha.2 h.bounded)
  | acceptance n result =>
      cases hcall
      obtain ⟨hdecided, hn, rfl⟩ := ha
      exact h.quiet rfl (by simp) ⟨Decided.verdict hdecided (.inl rfl) (by simp) (by decide), hn⟩
  | rejection n result =>
      cases hcall
      obtain ⟨hdecided, hn, hterm⟩ := ha
      have hnot : result ≠ mavResultAccepted := by
        rintro rfl
        exact absurd hterm (by decide)
      exact h.quiet rfl (by simp)
        ⟨Decided.verdict hdecided (.inr rfl) (by simpa using hnot) (by simpa using hterm), hn⟩
  | retried n result =>
      cases hcall
      exact h.quiet rfl (by simp) (abreast_loop ha.1 ha.2 h.bounded)
  | exhausted =>
      cases hcall
      exact h.quiet rfl (by simp) ⟨Settled.verdict ha.1 (h.last (by simp)) ha.2, ha.2.symm⟩
  | raised _ _ call' hc hmay =>
      have htail : Settled s spec (waits ((call, .raised) :: calls)).tail := by
        cases pc with
        | send n =>
            cases hcall
            exact ha.1
        | _ => cases hcall <;> exact h.settled
      have hbounded : (waits ((call, .raised) :: calls)).length ≤ s.settings.maxAttempts := by
        cases pc with
        | send n =>
            cases hcall
            exact (h.sent (r := .raised)).bounded
        | _ => cases hcall <;> exact h.bounded
      exact ⟨trivial, fun hne ↦ absurd rfl hne, hbounded, htail⟩

/-! ## Running to the end -/

theorem reply_record {n : ℕ} {e : AuditEvent} (h : b.reply n (.record e) ≠ .raised) :
    b.reply n (.record e) = .done := by
  unfold Behaviour.reply at h ⊢
  split_ifs at h ⊢
  · exact absurd rfl h
  · rfl

/-- A reply of a behaviour always resumes the execution. -/
theorem step_reply {call : Call} (n : ℕ) (hcall : t.execution.call s spec = some call) :
    Trail.step s spec t (b.reply n call) = some (t.next s spec b n) := by
  suffices h : ∃ u, Trail.step s spec t (b.reply n call) = some u by
    obtain ⟨u, hu⟩ := h
    simp [next, hcall, hu]
  suffices h : ∃ x, t.execution.resume s spec (b.reply n call) = some x by
    obtain ⟨x, hx⟩ := h
    exact ⟨_, step_eq_some.mpr ⟨call, x, hcall, hx, rfl⟩⟩
  by_cases hr : b.reply n call = .raised
  · cases call with
    | record e => exact ⟨_, by simp only [Execution.resume, hr, hcall]; rfl⟩
    | _ => cases hr
  · obtain ⟨⟨pc, last⟩, calls⟩ := t
    simp only [Execution.resume, hr, if_false]
    cases pc with
    | remaining n' deadline =>
        cases hcall
        exact ⟨_, (apply_ite some _ _ _).symm⟩
    | recvAck n' deadline remaining =>
        cases hcall
        show ∃ x, Execution.proceed s spec _ (.ack (b.ack n)) = some x
        cases b.ack n with
        | none => exact ⟨_, rfl⟩
        | some ack => exact ⟨_, (apply_ite some _ _ _).symm⟩
    | drain n' => exact Option.some.inj hcall ▸ ⟨_, rfl⟩
    | send n' => exact Option.some.inj hcall ▸ ⟨_, rfl⟩
    | deadline n' => exact Option.some.inj hcall ▸ ⟨_, rfl⟩
    | returned o => cases hcall
    | raised => cases hcall
    | _ =>
        cases hcall
        rw [reply_record hr]
        exact ⟨_, rfl⟩

theorem next_of_call_eq_none {n : ℕ} (hcall : t.execution.call s spec = none) :
    t.next s spec b n = t := by
  simp [next, hcall]

/-- What every step keeps holds throughout an execution. -/
theorem during_invariant {I : Trail → Prop} (hstart : I (start s))
    (hI : ∀ t u n call, I t → t.execution.call s spec = some call →
      Trail.step s spec t (b.reply n call) = some u → I u) (n : ℕ) :
    I (during s spec b n) := by
  induction n with
  | zero => exact hstart
  | succ n ih =>
      show I (next s spec b n (during s spec b n))
      cases hcall : (during s spec b n).execution.call s spec with
      | none => rwa [next_of_call_eq_none hcall]
      | some call => exact hI _ _ _ _ ih hcall (step_reply n hcall)

/-- No call to the link raises. -/
theorem during_link_never_raises (n : ℕ) : (during s spec b n).LinkNeverRaises := by
  apply during_invariant
  · exact fun c hc ↦ absurd hc List.not_mem_nil
  · rintro t u n call h hcall hu
    obtain ⟨call', x, hc, -, rfl⟩ := step_eq_some.mp hu
    rw [hcall, Option.some.injEq] at hc
    subst hc
    refine List.forall_mem_cons.mpr ⟨fun hlink hr ↦ ?_, h⟩
    cases call with
    | record e => cases hlink
    | newId => cases hlink
    | health => cases hlink
    | now => cases hlink
    | drain => cases hr
    | send spec => cases hr
    | recvAck timeout => cases hr

/-- An execution that left by an exception left by one of the audit log. -/
theorem during_raised {n : ℕ} (h : (during s spec b n).execution.pc = .raised) :
    ∃ e, (.record e, .raised) ∈ (during s spec b n).calls := by
  have hsound : (during s spec b n).Sound spec :=
    during_invariant (sound_start s spec) (fun _ _ _ _ h _ ↦ h.step) n
  obtain ⟨⟨call, r⟩, hc, rfl, hmay, -⟩ := hsound.raising.1 h
  cases call with
  | record e => exact ⟨e, hc⟩
  | newId => cases hmay
  | health => cases hmay
  | now => cases hmay
  | _ => exact absurd rfl (during_link_never_raises n _ hc rfl)

/-- From call `n` on, the execution comes to an end. -/
inductive Settles (s : CommandSender) (spec : CommandSpec) (b : Behaviour) : ℕ → Trail → Prop
  | ended {n t} (h : t.Finished) : Settles s spec b n t
  | step {n t} (h : Settles s spec b (n + 1) (t.next s spec b n)) : Settles s spec b n t

theorem Settles.finished {n : ℕ} (h : Settles s spec b n t) (ht : t = during s spec b n) :
    ∃ m, (during s spec b m).Finished := by
  induction h with
  | ended h => exact ⟨_, ht ▸ h⟩
  | step h ih => exact ih (by rw [ht]; rfl)

/-- The calls still to come at which an ACK arrives by the deadline. -/
noncomputable def arrivals (b : Behaviour) (deadline : ℚ) (n : ℕ) : ℕ :=
  {m | n ≤ m ∧ (b.ack m).isSome ∧ b.clock m ≤ deadline}.ncard

theorem arrivals_lt {deadline : ℚ} {n : ℕ} (hack : (b.ack n).isSome)
    (hclock : b.clock n ≤ deadline) {m : ℕ} (hm : n < m) :
    arrivals b deadline m < arrivals b deadline n := by
  apply Set.ncard_lt_ncard
  · refine ⟨fun k hk ↦ ⟨hm.le.trans hk.1, hk.2⟩, fun hsub ↦ ?_⟩
    exact absurd (hsub ⟨le_rfl, hack, hclock⟩).1 (not_le.mpr hm)
  · exact (b.sparse deadline).subset fun k hk ↦ hk.2

theorem arrivals_le (deadline : ℚ) {n m : ℕ} (hm : n ≤ m) :
    arrivals b deadline m ≤ arrivals b deadline n :=
  Set.ncard_le_ncard (fun _ hk ↦ ⟨hm.trans hk.1, hk.2⟩)
    ((b.sparse deadline).subset fun _ hk ↦ hk.2)

/-- What comes after a call with a known reply. -/
theorem Settles.of_resume {n : ℕ} {call : Call} {x : Execution}
    (hcall : t.execution.call s spec = some call)
    (hresume : t.execution.resume s spec (b.reply n call) = some x)
    (h : ∀ calls, Settles s spec b (n + 1) ⟨x, calls⟩) : Settles s spec b n t := by
  have hstep := step_eq_some.mpr ⟨call, x, hcall, hresume, rfl⟩
  rw [step_reply n hcall, Option.some.injEq] at hstep
  apply Settles.step
  rw [hstep]
  exact h _

/-- What comes after a call that writes a record, or the end if the log
overflows. -/
theorem Settles.record {n : ℕ} {e : AuditEvent} {x : Execution}
    (hcall : t.execution.call s spec = some (.record e))
    (hresume : t.execution.resume s spec .done = some x)
    (h : ∀ calls, Settles s spec b (n + 1) ⟨x, calls⟩) : Settles s spec b n t := by
  by_cases hr : b.reply n (.record e) = .raised
  · refine .of_resume (x := { t.execution with pc := .raised }) hcall ?_
      fun _ ↦ .ended (.inl rfl)
    simp [Execution.resume, hr, hcall, Call.mayRaise]
  · exact .of_resume hcall (by rw [reply_record hr, hresume]) h

section Wait

variable {n : Int} {deadline : ℚ} {last : Option Int}

/-- Reading the clock after the deadline ends the wait. -/
theorem Settles.expired (hafter : ∀ m last calls, Settles s spec b m ⟨⟨.noAck n, last⟩, calls⟩)
    {m : ℕ} {calls : List (Call × Reply)} (hclock : deadline ≤ b.clock m) :
    Settles s spec b m ⟨⟨.remaining n deadline, last⟩, calls⟩ := by
  refine .of_resume (x := ⟨.noAck n, last⟩) rfl ?_ fun _ ↦ hafter _ _ _
  simp [Behaviour.reply, Execution.resume, Execution.proceed, hclock]

/-- The wait of an attempt ends if what comes after it does: an ACK that does not
match and arrives in time is one of finitely many. -/
theorem Settles.wait (hnone : ∀ m last calls, Settles s spec b m ⟨⟨.noAck n, last⟩, calls⟩)
    (hack : ∀ m result last calls, Settles s spec b m ⟨⟨.onAck n result, last⟩, calls⟩)
    (m : ℕ) (calls : List (Call × Reply)) :
    Settles s spec b m ⟨⟨.remaining n deadline, last⟩, calls⟩ := by
  induction hk : arrivals b deadline m using Nat.strong_induction_on generalizing m calls with
  | _ k ih =>
      by_cases hclock : deadline ≤ b.clock m
      · exact .expired hnone hclock
      refine .of_resume (x := ⟨.recvAck n deadline (deadline - b.clock m), last⟩) rfl ?_
        fun calls ↦ ?_
      · simp [Behaviour.reply, Execution.resume, Execution.proceed, hclock]
      cases harrives : b.ack (m + 1) with
      | none =>
          refine .of_resume (x := ⟨.noAck n, last⟩) rfl ?_ fun _ ↦ hnone _ _ _
          simp [Behaviour.reply, Execution.resume, Execution.proceed, harrives]
      | some ack =>
          by_cases hmatch : s.accepts spec.command ack = true
          · refine .of_resume (x := ⟨.onAck n ack.result, some ack.result⟩) rfl ?_
              fun _ ↦ hack _ _ _ _
            simp [Behaviour.reply, Execution.resume, Execution.proceed, harrives, hmatch]
          · refine .of_resume (x := ⟨.remaining n deadline, last⟩) rfl ?_ fun calls ↦ ?_
            · simp [Behaviour.reply, Execution.resume, Execution.proceed, harrives, hmatch]
            -- an ACK after the deadline is followed by a reading after the deadline
            by_cases hlate : b.clock (m + 1) ≤ deadline
            · refine ih _ ?_ _ _ rfl
              have hlt := arrivals_lt (by rw [harrives]; rfl) hlate (Nat.lt_succ_self (m + 1))
              exact hk ▸ hlt.trans_le (arrivals_le deadline (Nat.le_succ m))
            · exact .expired hnone ((not_le.mp hlate).le.trans (b.monotone (Nat.le_succ _)))

end Wait

/-- The last record of an execution is followed by its return. -/
theorem settles_closing {n : ℕ} {pc : Pc} {last : Option Int} {calls : List (Call × Reply)}
    (h : pc = .failed ∨ ∃ m result, pc = .accepted m result ∨ pc = .rejected m result) :
    Settles s spec b n ⟨⟨pc, last⟩, calls⟩ := by
  rcases h with rfl | ⟨m, result, rfl | rfl⟩
  · exact .record rfl rfl fun _ ↦ .ended (.inr ⟨_, rfl⟩)
  · exact .record rfl rfl fun _ ↦ .ended (.inr ⟨_, rfl⟩)
  · exact .record rfl rfl fun _ ↦ .ended (.inr ⟨_, rfl⟩)

/-- An attempt that has been recorded ends if the loop after it does. -/
theorem settles_send {n : Int} (hloop : ∀ m last calls,
    Settles s spec b m ⟨⟨s.loop (n + 1), last⟩, calls⟩) (m : ℕ) (last : Option Int)
    (calls : List (Call × Reply)) : Settles s spec b m ⟨⟨.send n, last⟩, calls⟩ := by
  have hnone (m : ℕ) (last : Option Int) (calls : List (Call × Reply)) :
      Settles s spec b m ⟨⟨.noAck n, last⟩, calls⟩ := .record rfl rfl fun _ ↦ hloop _ _ _
  have hack (m : ℕ) (result : Int) (last : Option Int) (calls : List (Call × Reply)) :
      Settles s spec b m ⟨⟨.onAck n result, last⟩, calls⟩ := by
    unfold Pc.onAck
    split_ifs
    · exact settles_closing (.inr ⟨n, result, .inl rfl⟩)
    · exact settles_closing (.inr ⟨n, result, .inr rfl⟩)
    · exact .record rfl rfl fun _ ↦ hloop _ _ _
  refine .of_resume (x := ⟨.deadline n, last⟩) rfl rfl fun _ ↦ ?_
  exact .of_resume rfl rfl fun _ ↦ .wait hnone hack _ _

/-- The loop over the attempts ends. -/
theorem settles_loop (n : Int) (m : ℕ) (last : Option Int) (calls : List (Call × Reply)) :
    Settles s spec b m ⟨⟨s.loop n, last⟩, calls⟩ := by
  induction hk : (s.settings.maxAttempts + 1 - n).toNat generalizing n m last calls with
  | zero =>
      have hl : s.loop n = .failed := if_neg (by omega)
      rw [hl]
      exact settles_closing (.inl rfl)
  | succ k ih =>
      have hl : s.loop n = .attempt n := if_pos (by omega)
      have hsend := settles_send (b := b) fun m last calls ↦ ih (n + 1) m last calls (by omega)
      rw [hl]
      refine .record rfl rfl fun calls ↦ ?_
      rcases s.recorded_cases n with hr | hr <;> rw [hr]
      · exact .of_resume rfl rfl fun _ ↦ hsend _ _ _
      · exact hsend _ _ _

/-! ## An ACK that does not match -/

/-- The next call of an execution depends on nothing it called before. -/
theorem next_execution {n : ℕ} (call : Call) {x : Execution}
    (hcall : t.execution.call s spec = some call)
    (hresume : t.execution.resume s spec (b.reply n call) = some x) :
    (t.next s spec b n).execution = x := by
  have hstep := step_eq_some.mpr ⟨call, x, hcall, hresume, rfl⟩
  rw [step_reply n hcall, Option.some.injEq] at hstep
  rw [hstep]

variable {b' : Behaviour} {p : ℕ} {ack : Ack}

/-- Executions that stand at one point go on alike against equal replies. -/
theorem next_congr {n n' : ℕ} (ht : t.execution = u.execution)
    (hreply : ∀ call, b.reply n call = b'.reply n' call) :
    (t.next s spec b n).execution = (u.next s spec b' n').execution := by
  cases hcall : t.execution.call s spec with
  | none => rw [next_of_call_eq_none hcall, next_of_call_eq_none (ht ▸ hcall), ht]
  | some call =>
      obtain ⟨-, x, hc, hx, hu⟩ := step_eq_some.mp (step_reply (b := b) n hcall)
      rw [next_execution call hcall hx, next_execution call (ht ▸ hcall) (hreply call ▸ ht ▸ hx)]

/-- What an ACK does does not depend on the timeout it was awaited with. -/
theorem resume_recvAck {n : Int} {deadline remaining remaining' : ℚ} {last : Option Int}
    {ack : Option Ack} :
    Execution.resume s spec ⟨.recvAck n deadline remaining, last⟩ (.ack ack) =
      Execution.resume s spec ⟨.recvAck n deadline remaining', last⟩ (.ack ack) := by
  cases ack <;> rfl

/-- Before the additional ACK nothing differs. -/
theorem during_before (h : InsertsAt b b' p ack) {n : ℕ} (hn : n ≤ p) :
    (during s spec b' n).execution = (during s spec b n).execution := by
  induction n with
  | zero => rfl
  | succ n ih => exact next_congr (ih (Nat.le_of_succ_le hn)) (h.before n hn)

/-- After it the same execution is two calls behind. -/
theorem during_after (h : InsertsAt b b' p ack) (hack : s.accepts spec.command ack = false)
    (hwindow : WithinWindow s spec b b' p) {n : ℕ} (hn : p < n) :
    (during s spec b' (n + 2)).execution = (during s spec b n).execution := by
  induction n, hn using Nat.le_induction with
  | base =>
      obtain ⟨n, deadline, remaining, hpc, hclock⟩ := hwindow
      obtain ⟨last, hx⟩ : ∃ last, (during s spec b p).execution =
          ⟨.recvAck n deadline remaining, last⟩ := ⟨_, by rw [← hpc]⟩
      have hskip : (during s spec b' (p + 1)).execution = ⟨.remaining n deadline, last⟩ := by
        apply next_execution (.recvAck remaining)
        · rw [during_before h le_rfl, hx]
          rfl
        · rw [during_before h le_rfl, hx]
          simp [Behaviour.reply, Execution.resume, Execution.proceed, h.heard, hack]
      have hwait : (during s spec b' (p + 2)).execution =
          ⟨.recvAck n deadline (deadline - b'.clock (p + 1)), last⟩ := by
        apply next_execution .now
        · rw [hskip]
          rfl
        · rw [hskip]
          simp [Behaviour.reply, Execution.resume, Execution.proceed, hclock]
      -- the reply to the call is the same, whatever the timeout passed with it
      have hcall : (during s spec b p).execution.call s spec = some (.recvAck remaining) := by
        rw [hx]
        rfl
      obtain ⟨-, x, hc, hresume, -⟩ := step_eq_some.mp (step_reply (b := b) p hcall)
      have hone : (during s spec b (p + 1)).execution = x := next_execution _ hcall hresume
      rw [Nat.succ_eq_add_one, hone]
      refine next_execution (.recvAck (deadline - b'.clock (p + 1))) ?_ ?_
      · rw [hwait]
        rfl
      · rw [hwait, h.after p le_rfl, ← hresume, hx]
        exact resume_recvAck
  | succ n hn ih => exact next_congr ih (h.after n (Nat.le_of_lt hn))

/-- A returned execution stays returned. -/
theorem returned_of_le {n m : ℕ} {o : CommandOutcome} (hnm : n ≤ m)
    (h : (during s spec b n).execution.pc = .returned o) :
    (during s spec b m).execution.pc = .returned o := by
  induction m, hnm using Nat.le_induction with
  | base => exact h
  | succ m _ ih =>
      have hcall : (during s spec b m).execution.call s spec = none := by
        simp [Execution.call, ih]
      rw [during, next_of_call_eq_none hcall, ih]

/-- An ACK that does not match and is followed by a reading of the clock before
the deadline does not change the outcome. -/
theorem returned_iff (h : InsertsAt b b' p ack) (hack : s.accepts spec.command ack = false)
    (hwindow : WithinWindow s spec b b' p) (o : CommandOutcome) :
    (∃ n, (during s spec b n).execution.pc = .returned o) ↔
      ∃ n, (during s spec b' n).execution.pc = .returned o := by
  constructor
  · rintro ⟨n, hn⟩
    have hlate := returned_of_le (Nat.le_add_right n (p + 1)) hn
    rw [← during_after h hack hwindow (by omega)] at hlate
    exact ⟨_, hlate⟩
  · rintro ⟨n, hn⟩
    have hlate := returned_of_le (Nat.le_add_right n (p + 1 + 2)) hn
    rw [← Nat.add_assoc, during_after h hack hwindow (by omega)] at hlate
    exact ⟨_, hlate⟩

end Trail

/-- **The ACK rules.**  Against every behaviour of the link and of the clock, the
execution of a command ends within its attempts, and its outcome is the one that
the matching ACKs prescribe. -/
theorem execute_follows_ack_rules (s : CommandSender) (spec : CommandSpec)
    (hmax : 1 ≤ s.settings.maxAttempts) (b : Behaviour) : Follows s spec b := by
  have hheard (n : ℕ) : (Trail.during s spec b n).Heard s spec :=
    Trail.during_invariant (Trail.heard_start hmax) (fun _ _ _ _ h _ ↦ h.step) n
  have habreast (n : ℕ) (o : CommandOutcome)
      (ho : (Trail.during s spec b n).execution.pc = .returned o) :
      Verdict s spec (waits (Trail.during s spec b n).calls).reverse o ∧
        o.attempts = (waits (Trail.during s spec b n).calls).length := by
    have h := (hheard n).abreast
    rwa [ho] at h
  constructor
  · have hsettles : Trail.Settles s spec b 0 (.start s) := Trail.settles_loop 1 0 none []
    obtain ⟨n, hraised | hreturned⟩ := hsettles.finished rfl
    · exact ⟨n, .inr (Trail.during_raised hraised)⟩
    · exact ⟨n, .inl hreturned⟩
  · intro n
    rw [← length_waits]
    exact (hheard n).bounded
  · exact fun n ↦ (hheard n).settled
  · intro n o ho
    rw [← length_waits]
    exact (habreast n o ho).2
  · exact fun n o ho ↦ (habreast n o ho).1
  · exact fun b' p ack h hack hwindow ↦ Trail.returned_iff h hack hwindow

/-- The vehicle accepts the arm command of the first attempt. -/
def answered : Behaviour where
  clock n := n
  monotone := Nat.mono_cast
  ack n := if n = 5 then some ⟨mavCmdComponentArmDisarm, mavResultAccepted, 1⟩ else none
  sparse time := (Set.finite_singleton 5).subset fun n hn ↦ by
    by_contra hne
    simp [show n ≠ 5 from hne] at hn

/-- The default settings meet the bound. -/
theorem follows_answered : Follows {} arm answered :=
  execute_follows_ack_rules {} arm (by decide) answered

end DroneComms.Command
