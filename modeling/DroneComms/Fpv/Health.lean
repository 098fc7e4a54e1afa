import Mathlib.Data.Rat.Defs

/-!
# Health reports

The data model of `meshsa/fpv/link_health.py`: what a monitor reports and the
arm gates read.  Clock readings are exact rationals.
-/

namespace DroneComms.Fpv

/-- `HealthState`. -/
inductive HealthState where
  | noData
  | ok
  | warn
  | critical
deriving DecidableEq, Repr

/-- The string values of the enumeration, as they appear in events. -/
def HealthState.value : HealthState → String
  | .noData => "no_data"
  | .ok => "ok"
  | .warn => "warn"
  | .critical => "critical"

/-- `HealthReport`: one immutable health evaluation result. -/
structure HealthReport where
  state : HealthState
  armPermitted : Bool
  reasons : List String
  tMono : ℚ
deriving DecidableEq, Repr

end DroneComms.Fpv
