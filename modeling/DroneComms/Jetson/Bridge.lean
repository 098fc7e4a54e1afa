import Mathlib.Algebra.Order.Ring.Rat
import Mathlib.Logic.Function.Basic

/-!
# The LANDING_TARGET bridge

`HeartbeatMonitor` of `jetson_yolo_gcs/mavlink/heartbeat.py` and
`LandingTargetBridge` of `mavlink/bridge.py`.  The bridge is given one call at a
time: `pollHeartbeat` up to the message it takes from the connection, `gate` and
`send` for the two halves of `publish`, between which the clock may advance.
What the connection answers is a parameter (`Polled`, `Sent`).

The numbers in the message (angles, sizes, `time_usec`) decide nothing here;
computing them is part of the answer, since it may raise.  Logging is left out.
-/

namespace DroneComms.Jetson

/-- `frame` of `MavlinkSettings`. -/
inductive Frame where
  | bodyFrd
  | localNed
deriving DecidableEq, Repr

/-- The part of `MavlinkSettings` that decides whether a message is sent. -/
structure MavlinkSettings where
  enableLandingTarget : Bool := false
  requireHeartbeat : Bool := true
  heartbeatTimeoutS : ℚ := 2
  targetSystem : Int := 1
  targetComponent : Int := 1
  frame : Frame := .bodyFrd

/-- The reason codes of a report. -/
inductive StaleReason where
  | noHeartbeat
  | heartbeatStale
deriving DecidableEq, Repr

structure HeartbeatReport where
  fresh : Bool
  reasons : List StaleReason
  lastBeatT : Option ℚ

structure HeartbeatMonitor where
  maxAgeS : ℚ
  last : Option ℚ := none

namespace HeartbeatMonitor

def beat (m : HeartbeatMonitor) (t : ℚ) : HeartbeatMonitor := { m with last := some t }

def report (m : HeartbeatMonitor) (now : ℚ) : HeartbeatReport :=
  match m.last with
  | none => ⟨false, [.noHeartbeat], none⟩
  | some last =>
      let fresh := decide (now - last ≤ m.maxAgeS)
      ⟨fresh, if fresh then [] else [.heartbeatStale], some last⟩

/-- Fail closed: fresh needs a beat within the window. -/
theorem fresh_report {m : HeartbeatMonitor} {now : ℚ} :
    (m.report now).fresh = true ↔ ∃ last, m.last = some last ∧ now - last ≤ m.maxAgeS := by
  unfold report
  cases hlast : m.last with
  | none => simp
  | some last => simp

end HeartbeatMonitor

/-- A HEARTBEAT as `_is_target_heartbeat` reads it; an accessor that raises
gives `none`. -/
structure Heartbeat where
  srcSystem : Option Int
  srcComponent : Option Int
deriving DecidableEq, Repr

/-- `_is_target_heartbeat`, with `none` for an exception.  A wildcard reads no
accessor. -/
def isTargetHeartbeat (s : MavlinkSettings) (msg : Heartbeat) : Option Bool := do
  let sys ← if s.targetSystem = 0 then some true
    else msg.srcSystem.map fun src ↦ decide (src = s.targetSystem)
  if sys then
    if s.targetComponent = 0 then some true
    else msg.srcComponent.map fun src ↦ decide (src = s.targetComponent)
  else some false

/-- The heartbeat comes from the configured target. -/
def FromTarget (s : MavlinkSettings) (msg : Heartbeat) : Prop :=
  isTargetHeartbeat s msg = some true

instance (s : MavlinkSettings) (msg : Heartbeat) : Decidable (FromTarget s msg) :=
  inferInstanceAs (Decidable (_ = _))

/-- Why a send was suppressed: the keys of `_suppressed`. -/
inductive Suppression where
  | noHeartbeat
  | noPose
  | unprojectable
deriving DecidableEq, Repr

/-- `LandingTargetBridge`. -/
structure Bridge where
  /-- The connection is open. -/
  conn : Bool := false
  heartbeat : Option HeartbeatMonitor
  suppressedCount : ℕ := 0
  suppressed : Suppression → ℕ := fun _ ↦ 0

/-- What the connection does when `poll_heartbeat` reads it. -/
inductive Polled where
  | /-- The factory raises. -/ openRaises
  | /-- The factory gives no connection. -/ openNone
  | /-- `recv_match` raises. -/ recvRaises
  | /-- `recv_match` returns the oldest unread HEARTBEAT, or `None`. -/ received
deriving DecidableEq, Repr

/-- What happens in `publish` behind the heartbeat gate. -/
inductive Sent where
  | openRaises
  | openNone
  | /-- Computing or sending the message raises. -/ raises
  | noPose
  | unprojectable
  | sent
deriving DecidableEq, Repr

/-- How `publish` ends. -/
inductive Published where
  | returned (sent : Bool)
  | raised
deriving DecidableEq, Repr

namespace Bridge

/-- `__init__`. -/
def init (s : MavlinkSettings) (heartbeat : Option HeartbeatMonitor := none) : Bridge where
  heartbeat := match heartbeat with
    | some monitor => some monitor
    | none => if s.requireHeartbeat then some { maxAgeS := s.heartbeatTimeoutS } else none

/-- `_note_suppressed`. -/
def noteSuppressed (b : Bridge) (reason : Suppression) : Bridge :=
  { b with
    suppressed := Function.update b.suppressed reason (b.suppressed reason + 1)
    suppressedCount := b.suppressedCount + 1 }

/-- What opening the connection lazily leaves, and whether there is one to read
from.  An open connection is not opened again. -/
def opened (b : Bridge) : Polled → Option (Bridge × Bool)
  | .openRaises | .openNone => if b.conn then none else some (b, false)
  | .recvRaises => some ({ b with conn := true }, false)
  | .received => some ({ b with conn := true }, true)

/-- `self._heartbeat.beat()`. -/
def beat (b : Bridge) (now : ℚ) : Bridge :=
  { b with heartbeat := b.heartbeat.map (·.beat now) }

/-- The first half of `publish`: the result if it returns before it comes to
send. -/
def gate (s : MavlinkSettings) (b : Bridge) (now : ℚ) : Option (Bridge × Published) :=
  if s.enableLandingTarget then
    match b.heartbeat with
    | none => none
    | some monitor =>
        if (monitor.report now).fresh then none
        else some (b.noteSuppressed .noHeartbeat, .returned false)
  else some (b, .returned false)

/-- The second half of `publish`.  Only `local_ned` needs a pose. -/
def send (s : MavlinkSettings) (b : Bridge) : Sent → Option (Bridge × Published)
  | .openRaises | .openNone => if b.conn then none else some (b, .raised)
  | .raises => some ({ b with conn := true }, .raised)
  | .noPose =>
      if s.frame = .localNed then
        some (({ b with conn := true }).noteSuppressed .noPose, .returned false)
      else none
  | .unprojectable =>
      if s.frame = .localNed then
        some (({ b with conn := true }).noteSuppressed .unprojectable, .returned false)
      else none
  | .sent => some ({ b with conn := true, suppressedCount := 0 }, .returned true)

variable {s : MavlinkSettings} {b b' : Bridge} {now : ℚ} {p : Published}

@[simp] theorem noteSuppressed_heartbeat (b : Bridge) (reason : Suppression) :
    (b.noteSuppressed reason).heartbeat = b.heartbeat := rfl

/-- Opening the connection leaves the monitor alone. -/
theorem heartbeat_opened {r : Polled} {read : Bool} (h : b.opened r = some (b', read)) :
    b'.heartbeat = b.heartbeat := by
  cases r <;> simp only [opened, Option.ite_none_left_eq_some, Option.some.injEq,
    Prod.mk.injEq] at h <;> grind

/-- A closed gate sends nothing and leaves the monitor alone. -/
theorem gate_eq_some (h : b.gate s now = some (b', p)) :
    p = .returned false ∧ b'.heartbeat = b.heartbeat := by
  unfold gate at h
  split_ifs at h with henable
  · split at h
    · cases h
    · split_ifs at h
      cases h
      exact ⟨rfl, rfl⟩
  · cases h
    exact ⟨rfl, rfl⟩

/-- An open gate has a monitor with a fresh beat, if it has one at all. -/
theorem gate_eq_none (h : b.gate s now = none) {m : HeartbeatMonitor}
    (hm : b.heartbeat = some m) : ∃ last, m.last = some last ∧ now - last ≤ m.maxAgeS := by
  unfold gate at h
  rw [hm] at h
  split_ifs at h with henable
  dsimp only at h
  split_ifs at h with hfresh
  exact HeartbeatMonitor.fresh_report.mp hfresh

/-- A message leaves exactly if `publish` returns `True`. -/
theorem send_eq_some {r : Sent} (h : b.send s r = some (b', p)) :
    b'.heartbeat = b.heartbeat ∧ (p = .returned true ↔ r = .sent) := by
  cases r <;> simp only [send, Option.ite_none_left_eq_some, Option.ite_none_right_eq_some,
    Option.some.injEq, Prod.mk.injEq] at h <;> grind [noteSuppressed_heartbeat]

end Bridge

end DroneComms.Jetson
