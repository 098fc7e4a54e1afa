import DroneComms.Command.Lifecycle
import DroneComms.Command.Safety

/-!
# The supervised service

`CommandService` of `meshsa/command/service.py`: stage, confirm with the pre-arm
interlock, execute, and cancel.

A service call in progress is a `Frame` that stands at a call into the
surroundings, as an `Execution` does; the last phase of a `confirm` is one.
`CommandService.confirm` and `cancel` are what happens before the first such
call, `Frame.resume` what happens between a reply and the next one.
-/

namespace DroneComms.Command

open Fpv

/-- The immutable part of a `CommandService`. -/
structure CommandService where
  settings : CommanderSettings := {}
  sender : CommandSender := {}
  /-- A health provider is injected. -/
  hasHealth : Bool := true
  text : Py.FloatText

/-- `StagedCommand`. -/
structure StagedCommand where
  confirmationId : String
  name : String
  command : Int
  requiresForceConfirm : Bool
deriving DecidableEq, Repr

/-- What a service call raises. -/
inductive ServiceError where
  | build (error : BuildError)
  | gate (error : GateError)
  | /-- `ArmBlockedError`. -/ armBlocked (message : String)
  | /-- An exception of the audit or of the link. -/ surroundings
deriving DecidableEq, Repr

/-- How a service call ends. -/
inductive Result where
  | staged (command : StagedCommand)
  | cancelled
  | outcome (outcome : CommandOutcome)
  | raised (error : ServiceError)

/-- A service call in progress, standing at a call into the surroundings. -/
inductive Frame where
  | /-- `stage` asks for a token. -/ naming (spec : CommandSpec)
  | /-- `stage` records `command_staged`. -/ staging (token : String) (spec : CommandSpec)
  | /-- `cancel` records `command_cancelled`. -/ cancelling (token : String)
  | /-- `confirm` of an arm asks for a health report. -/
    checking (token : String) (spec : CommandSpec) (forceAck : Bool)
  | /-- `confirm` of an arm reads the clock. -/
    timing (token : String) (spec : CommandSpec) (forceAck : Bool) (report : Option HealthReport)
  | /-- `confirm` of an arm records `arm_blocked`. -/ blocking (token : String)
  | /-- `confirm` records `command_confirmed`. -/
    confirming (token : String) (spec : CommandSpec) (forceAck : Bool)
  | /-- `confirm` runs `CommandSender.execute`. -/
    executing (token : String) (spec : CommandSpec) (x : Execution)

/-- Where a service call is after a reply. -/
inductive Progress where
  | running (frame : Frame)
  | finished (result : Result)

namespace CommandService

/-- `confirm` once the gate released the command: only `arm` is interlocked. -/
def release (svc : CommandService) (token : String) (spec : CommandSpec) (forceAck : Bool) :
    Frame :=
  if spec.name = "arm" then
    if svc.hasHealth then .checking token spec forceAck else .timing token spec forceAck none
  else .confirming token spec forceAck

end CommandService

namespace Frame

/-- The call into the surroundings a frame stands at. -/
def call (svc : CommandService) : Frame → Option Call
  | naming _ => some .newId
  | staging token spec => some (.record (.commandStaged token spec.name spec.command))
  | cancelling token => some (.record (.commandCancelled token))
  | checking .. => some .health
  | timing .. => some .now
  | blocking token => some (.record (.armBlocked token))
  | confirming token spec forceAck =>
      some (.record (.commandConfirmed token spec.name forceAck))
  | executing _ spec x => x.call svc.sender spec

/-- The service call ends when the execution does. -/
def settle (token : String) (spec : CommandSpec) (x : Execution) : Progress :=
  match x.pc with
  | .returned outcome => .finished (.outcome outcome)
  | .raised => .finished (.raised .surroundings)
  | _ => .running (.executing token spec x)

/-- Run a service call from a reply to its next call.  The gate changes only
when `stage` parks its command. -/
def resume (svc : CommandService) (gate : ConfirmationGate) (f : Frame) (r : Reply) :
    Option (ConfirmationGate × Progress) :=
  match f, r with
  | naming spec, .token token => some (gate.stage token spec, .running (.staging token spec))
  | staging token spec, .done =>
      some (gate, .finished (.staged
        { confirmationId := token, name := spec.name, command := spec.command
          requiresForceConfirm := spec.requiresForceConfirm }))
  | cancelling _, .done => some (gate, .finished .cancelled)
  | checking token spec forceAck, .report report =>
      some (gate, .running (.timing token spec forceAck report))
  | timing token spec forceAck report, .time now =>
      if armAllowed report now svc.settings.armReportMaxAgeS then
        some (gate, .running (.confirming token spec forceAck))
      else some (gate, .running (.blocking token))
  | blocking _, .done =>
      some (gate, .finished (.raised
        (.armBlocked "arm refused: no fresh arm-permitting health report")))
  | confirming token spec _, .done =>
      some (gate, .running (.executing token spec (.start svc.sender)))
  | staging .., .raised | cancelling _, .raised | blocking _, .raised | confirming .., .raised =>
      some (gate, .finished (.raised .surroundings))
  | executing token spec x, r =>
      (x.resume svc.sender spec r).map fun y ↦ (gate, settle token spec y)
  | _, _ => none

end Frame

/-- `Moves svc gate f r gate' p`: the reply `r` takes the gate from `gate` to
`gate'` and the service call from `f` to `p`. -/
inductive Moves (svc : CommandService) (gate : ConfirmationGate) :
    Frame → Reply → ConfirmationGate → Progress → Prop
  | parked (spec token) : Moves svc gate (.naming spec) (.token token) (gate.stage token spec)
      (.running (.staging token spec))
  | staged (token spec) : Moves svc gate (.staging token spec) .done gate
      (.finished (.staged ⟨token, spec.name, spec.command, spec.requiresForceConfirm⟩))
  | cancelled (token) : Moves svc gate (.cancelling token) .done gate (.finished .cancelled)
  | reported (token spec forceAck report) :
      Moves svc gate (.checking token spec forceAck) (.report report) gate
        (.running (.timing token spec forceAck report))
  | cleared (token spec forceAck report now)
      (h : armAllowed report now svc.settings.armReportMaxAgeS = true) :
      Moves svc gate (.timing token spec forceAck report) (.time now) gate
        (.running (.confirming token spec forceAck))
  | refused (token spec forceAck report now)
      (h : armAllowed report now svc.settings.armReportMaxAgeS = false) :
      Moves svc gate (.timing token spec forceAck report) (.time now) gate
        (.running (.blocking token))
  | blocked (token) (message) : Moves svc gate (.blocking token) .done gate
      (.finished (.raised (.armBlocked message)))
  | started (token spec forceAck) : Moves svc gate (.confirming token spec forceAck) .done gate
      (.running (.executing token spec (.start svc.sender)))
  | lost (f e) (h : f.call svc = some (.record e))
      (hx : ∀ token spec x, f ≠ .executing token spec x) :
      Moves svc gate f .raised gate (.finished (.raised .surroundings))
  | executed (token spec x r y) (h : Resumes svc.sender spec x r y) :
      Moves svc gate (.executing token spec x) r gate (Frame.settle token spec y)

/-- Everything a reply can do to a service call. -/
theorem moves_of_resume {svc : CommandService} {gate gate' : ConfirmationGate} {f : Frame}
    {r : Reply} {p : Progress} (h : f.resume svc gate r = some (gate', p)) :
    Moves svc gate f r gate' p := by
  unfold Frame.resume at h
  split at h
  · cases h
    exact .parked _ _
  · cases h
    exact .staged _ _
  · cases h
    exact .cancelled _
  · cases h
    exact .reported _ _ _ _
  · split_ifs at h with hok
    · cases h
      exact .cleared _ _ _ _ _ hok
    · cases h
      exact .refused _ _ _ _ _ (by simpa using hok)
  · cases h
    exact .blocked _ _
  · cases h
    exact .started _ _ _
  · cases h
    exact .lost _ _ rfl (by simp)
  · cases h
    exact .lost _ _ rfl (by simp)
  · cases h
    exact .lost _ _ rfl (by simp)
  · cases h
    exact .lost _ _ rfl (by simp)
  · obtain ⟨y, hy, hgp⟩ := Option.map_eq_some_iff.mp h
    cases hgp
    exact .executed _ _ _ _ _ (resumes_of_resume hy)
  · cases h

/-- A service call goes on or ends with its execution. -/
theorem Frame.settle_cases (token : String) (spec : CommandSpec) (x : Execution) :
    Frame.settle token spec x = .running (.executing token spec x) ∨
      ∃ result, Frame.settle token spec x = .finished result := by
  unfold Frame.settle
  split
  · exact .inr ⟨_, rfl⟩
  · exact .inr ⟨_, rfl⟩
  · exact .inl rfl

end DroneComms.Command
