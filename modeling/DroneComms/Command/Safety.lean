import DroneComms.Command.Commands
import DroneComms.Fpv.ArmGuard
import Mathlib.Logic.Function.Basic

/-!
# The supervisory gates

`arm_allowed` and `ConfirmationGate` of `meshsa/command/safety.py`, and the
health provider `HeartbeatHealth` of `meshsa/command/health.py` that feeds the
first.  The pending map of the gate is a dictionary that nobody iterates over,
so it is a function.
-/

namespace DroneComms.Command

open Fpv

/-- `arm_allowed`. -/
def armAllowed (report : Option HealthReport) (now maxAgeS : ℚ) : Bool :=
  match report with
  | none => false
  | some report => decide (now - report.tMono ≤ maxAgeS) && report.armPermitted

/-- The predicate mirrors the one of the RC arm guard. -/
theorem armAllowed_eq_armGuard (s : ArmGuardSettings) (g : ArmGuard) (now : ℚ) :
    armAllowed g.lastReport now s.armGuardReportMaxAgeS = g.armAllowed s now := by
  unfold armAllowed ArmGuard.armAllowed
  cases g.lastReport <;> rfl

theorem armAllowed_eq_true {report : Option HealthReport} {now maxAgeS : ℚ} :
    armAllowed report now maxAgeS = true ↔
      ∃ r, report = some r ∧ now - r.tMono ≤ maxAgeS ∧ r.armPermitted = true := by
  cases report with
  | none => simp [armAllowed]
  | some r => simp [armAllowed]

/-! ## The confirmation gate -/

/-- The refusals of the gate. -/
inductive GateError where
  | unknownConfirmation (token : String)
  | forceConfirmationRequired (name : String)
deriving DecidableEq, Repr

/-- `ConfirmationGate`: the staged commands by their tokens. -/
structure ConfirmationGate where
  pending : String → Option CommandSpec := fun _ ↦ none

namespace ConfirmationGate

/-- `stage`, with the token the id factory handed out. -/
def stage (g : ConfirmationGate) (token : String) (spec : CommandSpec) : ConfirmationGate where
  pending := Function.update g.pending token (some spec)

/-- `confirm`.  A refused force command stays staged. -/
def confirm (g : ConfirmationGate) (token : String) (forceAck : Bool) :
    Except GateError (CommandSpec × ConfirmationGate) :=
  match g.pending token with
  | none => .error (.unknownConfirmation token)
  | some spec =>
      if spec.requiresForceConfirm && !forceAck then .error (.forceConfirmationRequired spec.name)
      else .ok (spec, { pending := Function.update g.pending token none })

/-- `cancel`: unknown tokens are ignored. -/
def cancel (g : ConfirmationGate) (token : String) : ConfirmationGate where
  pending := Function.update g.pending token none

@[simp] theorem pending_stage (g : ConfirmationGate) (token token' : String)
    (spec : CommandSpec) :
    (g.stage token spec).pending token' = if token' = token then some spec else g.pending token' :=
  Function.update_apply ..

@[simp] theorem pending_cancel (g : ConfirmationGate) (token token' : String) :
    (g.cancel token).pending token' = if token' = token then none else g.pending token' :=
  Function.update_apply ..

/-- A confirmation that is not refused consumes a pending command, with the
force acknowledgement if the command needs it. -/
theorem confirm_eq_ok {g g' : ConfirmationGate} {token : String} {forceAck : Bool}
    {spec : CommandSpec} (h : g.confirm token forceAck = .ok (spec, g')) :
    g.pending token = some spec ∧ (spec.requiresForceConfirm = true → forceAck = true) ∧
      g' = g.cancel token := by
  unfold confirm at h
  split at h
  · cases h
  · rename_i spec' hspec
    split_ifs at h with hforce
    cases h
    refine ⟨hspec, fun hreq ↦ ?_, rfl⟩
    simpa [hreq] using hforce

end ConfirmationGate

/-! ## The health provider -/

/-- `HeartbeatHealth`: the time of the last heartbeat. -/
structure HeartbeatHealth where
  maxAgeS : ℚ := 3
  last : Option ℚ := none

namespace HeartbeatHealth

/-- `beat`, at an explicit time or at the reading of the clock. -/
def beat (h : HeartbeatHealth) (now : ℚ) (t : Option ℚ) : HeartbeatHealth :=
  { h with last := some (t.getD now) }

/-- `__call__`. -/
def report (h : HeartbeatHealth) (now : ℚ) : Option HealthReport :=
  h.last.map fun last ↦
    let fresh := decide (now - last ≤ h.maxAgeS)
    { state := if fresh then .ok else .noData
      armPermitted := fresh
      reasons := if fresh then [] else ["heartbeat_stale"]
      tMono := last }

/-- The provider's report permits arming at the moment it is made exactly if
the last heartbeat is younger than both age limits. -/
theorem armAllowed_report {h : HeartbeatHealth} {now maxAgeS : ℚ} :
    armAllowed (h.report now) now maxAgeS = true ↔
      ∃ last, h.last = some last ∧ now - last ≤ min h.maxAgeS maxAgeS := by
  rw [armAllowed_eq_true]
  unfold report
  cases h.last with
  | none => simp
  | some last => simp [and_comm]

end HeartbeatHealth

end DroneComms.Command
