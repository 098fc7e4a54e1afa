import DroneComms.Command.Calls
import DroneComms.Lib.Automaton
import Mathlib.Tactic

/-!
# The command lifecycle

`CommandSender.execute` and `_await_ack` of `meshsa/command/lifecycle.py`: send,
wait for a matching COMMAND_ACK, retry up to a bound, fail closed.

The two loops are written as one machine.  A program counter (`Pc`) names the
call the code is about to make, `Execution.call` is that call, and
`Execution.resume` performs everything the code does between the reply and its
next call.  The inner `while True` loop therefore needs no fuel, and every
interleaving of two executions is a list of resumptions.

`Resumes` is the inversion of `resume`: one rule for each way a reply moves the
program counter.
-/

namespace DroneComms.Command

def mavResultAccepted : Int := 0
def mavResultTemporarilyRejected : Int := 1
def mavResultDenied : Int := 2
def mavResultUnsupported : Int := 3
def mavResultFailed : Int := 4
def mavResultInProgress : Int := 5
def mavResultCancelled : Int := 6

/-- `_TERMINAL_FAILURES`: results that end the command with no retry. -/
def terminalFailures : List Int :=
  [mavResultDenied, mavResultUnsupported, mavResultFailed, mavResultCancelled]

/-- `CommandOutcome`. -/
structure CommandOutcome where
  spec : CommandSpec
  accepted : Bool
  result : Option Int
  attempts : Int
  reason : String

/-- The immutable part of a `CommandSender`. -/
structure CommandSender where
  settings : CommanderSettings := {}
  expectSystem : Option Int := none
  /-- The link has a callable `drain`. -/
  canDrain : Bool := true

/-- Where `execute` stands: the call it is about to make in attempt `n`, or how
it ended. -/
inductive Pc where
  | attempt (n : Int)
  | drain (n : Int)
  | send (n : Int)
  | /-- `_await_ack` reads the clock to fix its deadline. -/ deadline (n : Int)
  | /-- The head of the `while` loop of `_await_ack`. -/ remaining (n : Int) (deadline : ℚ)
  | recvAck (n : Int) (deadline remaining : ℚ)
  | noAck (n : Int)
  | accepted (n result : Int)
  | rejected (n result : Int)
  | retry (n result : Int)
  | failed
  | returned (outcome : CommandOutcome)
  | raised

/-- The local variables of one run of `execute`. -/
structure Execution where
  pc : Pc
  lastResult : Option Int := none

namespace CommandSender

/-- The head of `for attempt in range(1, max_attempts + 1)`. -/
def loop (s : CommandSender) (n : Int) : Pc :=
  if n < s.settings.maxAttempts + 1 then .attempt n else .failed

/-- Where an attempt goes once it is recorded.  Only the first one drains: a
drain before a retry could evict the late ACK of an earlier attempt. -/
def recorded (s : CommandSender) (n : Int) : Pc :=
  if n = 1 ∧ s.canDrain then .drain n else .send n

/-- `_await_ack` takes the ACK for an answer to `command`. -/
def accepts (s : CommandSender) (command : Int) (ack : Ack) : Bool :=
  ack.command = command && s.expectSystem.all (ack.sourceSystem = ·)

theorem loop_cases (s : CommandSender) (n : Int) :
    s.loop n = .attempt n ∨ s.loop n = .failed := by
  unfold loop
  split_ifs
  · exact .inl rfl
  · exact .inr rfl

theorem recorded_cases (s : CommandSender) (n : Int) :
    s.recorded n = .drain n ∨ s.recorded n = .send n := by
  unfold recorded
  split_ifs
  · exact .inl rfl
  · exact .inr rfl

end CommandSender

/-- The branch that `execute` takes on a matched ACK. -/
def Pc.onAck (n result : Int) : Pc :=
  if result = mavResultAccepted then .accepted n result
  else if result ∈ terminalFailures then .rejected n result
  else .retry n result

/-- The execution has taken an ACK for its acceptance. -/
def Pc.Accepting : Pc → Prop
  | .accepted _ _ => True
  | .returned outcome => outcome.accepted = true
  | _ => False

theorem Pc.onAck_cases (n result : Int) :
    (result = mavResultAccepted ∧ Pc.onAck n result = .accepted n result) ∨
    (result ≠ mavResultAccepted ∧ Pc.onAck n result = .rejected n result) ∨
    (result ≠ mavResultAccepted ∧ Pc.onAck n result = .retry n result) := by
  unfold Pc.onAck
  split_ifs with hacc hterm
  · exact .inl ⟨hacc, rfl⟩
  · exact .inr (.inl ⟨hacc, rfl⟩)
  · exact .inr (.inr ⟨hacc, rfl⟩)

namespace Execution

/-- `execute` has just been called. -/
def start (s : CommandSender) : Execution := { pc := s.loop 1 }

/-- The call that `execute` is about to make. -/
def call (s : CommandSender) (spec : CommandSpec) (x : Execution) : Option Call :=
  match x.pc with
  | .attempt n => some (.record (.commandAttempt spec.command spec.name n))
  | .drain _ => some .drain
  | .send _ => some (.send spec)
  | .deadline _ | .remaining _ _ => some .now
  | .recvAck _ _ remaining => some (.recvAck remaining)
  | .noAck n => some (.record (.commandNoAck spec.command spec.name n))
  | .accepted n _ => some (.record (.commandAccepted spec.command spec.name n))
  | .rejected n result => some (.record (.commandRejected spec.command spec.name n result))
  | .retry n result => some (.record (.commandRetry spec.command spec.name n result))
  | .failed =>
      some (.record
        (.commandFailed spec.command spec.name s.settings.maxAttempts x.lastResult))
  | .returned _ | .raised => none

/-- Run `execute` from a normal reply to its next call. -/
def proceed (s : CommandSender) (spec : CommandSpec) (x : Execution) (r : Reply) :
    Option Execution :=
  match x.pc, r with
  | .attempt n, .done => some { x with pc := s.recorded n }
  | .drain n, .done => some { x with pc := .send n }
  | .send n, .done => some { x with pc := .deadline n }
  | .deadline n, .time t => some { x with pc := .remaining n (t + s.settings.ackTimeoutS) }
  | .remaining n deadline, .time t =>
      if deadline - t ≤ 0 then some { x with pc := .noAck n }
      else some { x with pc := .recvAck n deadline (deadline - t) }
  | .recvAck n _ _, .ack none => some { x with pc := .noAck n }
  | .recvAck n deadline _, .ack (some ack) =>
      if s.accepts spec.command ack then
        some { pc := .onAck n ack.result, lastResult := some ack.result }
      else some { x with pc := .remaining n deadline }
  | .noAck n, .done => some { x with pc := s.loop (n + 1) }
  | .accepted n result, .done => some { x with pc := .returned ⟨spec, true, result, n, ""⟩ }
  | .rejected n result, .done =>
      some { x with pc := .returned ⟨spec, false, result, n, "terminal_reject"⟩ }
  | .retry n _, .done => some { x with pc := s.loop (n + 1) }
  | .failed, .done =>
      let outcome := ⟨spec, false, x.lastResult, s.settings.maxAttempts, "exhausted_retries"⟩
      some { x with pc := .returned outcome }
  | _, _ => none

/-- Run `execute` from a reply to its next call.  No exception is caught. -/
def resume (s : CommandSender) (spec : CommandSpec) (x : Execution) (r : Reply) :
    Option Execution :=
  if r = .raised then
    if (x.call s spec).any Call.mayRaise then some { x with pc := .raised } else none
  else x.proceed s spec r

end Execution

/-- `Resumes s spec x r y`: the reply `r` takes an execution from `x` to `y`. -/
inductive Resumes (s : CommandSender) (spec : CommandSpec) :
    Execution → Reply → Execution → Prop
  | attempted (n last) : Resumes s spec ⟨.attempt n, last⟩ .done ⟨s.recorded n, last⟩
  | drained (n last) : Resumes s spec ⟨.drain n, last⟩ .done ⟨.send n, last⟩
  | sent (n last) : Resumes s spec ⟨.send n, last⟩ .done ⟨.deadline n, last⟩
  | fixed (n last t) : Resumes s spec ⟨.deadline n, last⟩ (.time t)
      ⟨.remaining n (t + s.settings.ackTimeoutS), last⟩
  | expired (n last deadline t) (h : deadline - t ≤ 0) :
      Resumes s spec ⟨.remaining n deadline, last⟩ (.time t) ⟨.noAck n, last⟩
  | waiting (n last deadline t) (h : 0 < deadline - t) :
      Resumes s spec ⟨.remaining n deadline, last⟩ (.time t)
        ⟨.recvAck n deadline (deadline - t), last⟩
  | silent (n last deadline remaining) :
      Resumes s spec ⟨.recvAck n deadline remaining, last⟩ (.ack none) ⟨.noAck n, last⟩
  | matched (n last deadline remaining ack) (h : s.accepts spec.command ack = true) :
      Resumes s spec ⟨.recvAck n deadline remaining, last⟩ (.ack (some ack))
        ⟨.onAck n ack.result, some ack.result⟩
  | skipped (n last deadline remaining ack) (h : s.accepts spec.command ack = false) :
      Resumes s spec ⟨.recvAck n deadline remaining, last⟩ (.ack (some ack))
        ⟨.remaining n deadline, last⟩
  | unanswered (n last) : Resumes s spec ⟨.noAck n, last⟩ .done ⟨s.loop (n + 1), last⟩
  | acceptance (n result last) : Resumes s spec ⟨.accepted n result, last⟩ .done
      ⟨.returned ⟨spec, true, result, n, ""⟩, last⟩
  | rejection (n result last) : Resumes s spec ⟨.rejected n result, last⟩ .done
      ⟨.returned ⟨spec, false, result, n, "terminal_reject"⟩, last⟩
  | retried (n result last) : Resumes s spec ⟨.retry n result, last⟩ .done
      ⟨s.loop (n + 1), last⟩
  | exhausted (last) : Resumes s spec ⟨.failed, last⟩ .done
      ⟨.returned ⟨spec, false, last, s.settings.maxAttempts, "exhausted_retries"⟩, last⟩
  | raised (pc last call) (h : Execution.call s spec ⟨pc, last⟩ = some call)
      (hmay : call.mayRaise = true) : Resumes s spec ⟨pc, last⟩ .raised ⟨.raised, last⟩

variable {s : CommandSender} {spec : CommandSpec}

/-- Everything a reply can do to an execution. -/
theorem resumes_of_resume {x y : Execution} {r : Reply} (h : x.resume s spec r = some y) :
    Resumes s spec x r y := by
  obtain ⟨pc, last⟩ := x
  unfold Execution.resume at h
  split_ifs at h with hr hcall
  · subst hr
    cases h
    obtain ⟨call, hc, hmay⟩ := (Option.any_eq_true _ _).mp hcall
    exact .raised pc last call hc hmay
  · unfold Execution.proceed at h
    split at h <;> rename_i hpc <;> first | cases hpc | cases h
    · cases h
      exact .attempted _ _
    · cases h
      exact .drained _ _
    · cases h
      exact .sent _ _
    · cases h
      exact .fixed _ _ _
    · split_ifs at h with hexp
      · cases h
        exact .expired _ _ _ _ hexp
      · cases h
        exact .waiting _ _ _ _ (not_le.mp hexp)
    · cases h
      exact .silent _ _ _ _
    · split_ifs at h with hacc
      · cases h
        exact .matched _ _ _ _ _ hacc
      · cases h
        exact .skipped _ _ _ _ _ (by simpa using hacc)
    · cases h
      exact .unanswered _ _
    · cases h
      exact .acceptance _ _ _
    · cases h
      exact .rejection _ _ _
    · cases h
      exact .retried _ _ _
    · cases h
      exact .exhausted _

namespace Resumes

variable {x y : Execution} {r : Reply}

/-- An execution that ended makes no call. -/
theorem call_isSome (h : Resumes s spec x r y) : ∃ call, x.call s spec = some call := by
  cases h with
  | raised pc last call hc => exact ⟨call, hc⟩
  | _ => exact ⟨_, rfl⟩

/-- An execution ends in an exception exactly if a call raises. -/
theorem raised_iff (h : Resumes s spec x r y) : y.pc = .raised ↔ r = .raised := by
  cases h with
  | attempted n =>
      rcases s.recorded_cases n with hl | hl <;> simp [hl]
  | matched n _ _ _ ack =>
      rcases Pc.onAck_cases n ack.result with ⟨-, hl⟩ | ⟨-, hl⟩ | ⟨-, hl⟩ <;> simp [hl]
  | unanswered n => rcases s.loop_cases (n + 1) with hl | hl <;> simp [hl]
  | retried n => rcases s.loop_cases (n + 1) with hl | hl <;> simp [hl]
  | _ => simp

/-- An execution comes to accept with a matching ACK that says so. -/
theorem accepting (h : Resumes s spec x r y) (hy : y.pc.Accepting) :
    x.pc.Accepting ∧ r = .done ∨
      ∃ ack timeout, x.call s spec = some (.recvAck timeout) ∧ r = .ack (some ack) ∧
        s.accepts spec.command ack = true ∧ ack.result = mavResultAccepted := by
  cases h with
  | acceptance n result => exact .inl ⟨trivial, rfl⟩
  | matched n last deadline remaining ack hacc =>
      rcases Pc.onAck_cases n ack.result with ⟨hok, -⟩ | ⟨-, hl⟩ | ⟨-, hl⟩
      · exact .inr ⟨ack, remaining, rfl, rfl, hacc, hok⟩
      · rw [hl] at hy
        cases hy
      · rw [hl] at hy
        cases hy
  | attempted n => rcases s.recorded_cases n with hl | hl <;> rw [hl] at hy <;> cases hy
  | unanswered n => rcases s.loop_cases (n + 1) with hl | hl <;> rw [hl] at hy <;> cases hy
  | retried n => rcases s.loop_cases (n + 1) with hl | hl <;> rw [hl] at hy <;> cases hy
  | _ => cases hy

/-- Only a call that may raise raises. -/
theorem mayRaise {call : Call} (h : Resumes s spec x r y) (hcall : x.call s spec = some call)
    (hr : r = .raised) : call.mayRaise = true := by
  subst hr
  cases h with
  | raised pc last call' hc hmay =>
      rw [hcall] at hc
      cases hc
      exact hmay

end Resumes

end DroneComms.Command
