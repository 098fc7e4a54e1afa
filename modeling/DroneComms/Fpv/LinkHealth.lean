import DroneComms.Fpv.Health
import DroneComms.Fpv.Telemetry
import DroneComms.Lib.Automaton
import DroneComms.Lib.Debounce
import DroneComms.Py.Arithmetic

/-!
# The link-health monitor

`LinkHealthMonitor` of `meshsa/fpv/link_health.py`.  A clock reading is a
rational and so is the age of a message; the settings may be any floats.

A `Watch` is a monitor with its store and its clock.  It keeps the evaluations
there have been, with what each has seen, reported and told the alert sink.
-/

namespace DroneComms.Fpv

open Py (PyFloat)

/-! ## Severity -/

/-- `_SEVERITY`. -/
def HealthState.severity : HealthState → ℕ
  | ok => 0
  | warn => 1
  | critical => 2
  | noData => 3

theorem HealthState.severity_injective : Function.Injective HealthState.severity := by
  intro a b h
  cases a <;> cases b <;> first | rfl | cases h

/-- States are ordered by severity. -/
instance : LinearOrder HealthState :=
  LinearOrder.lift' HealthState.severity HealthState.severity_injective

theorem HealthState.ok_le (a : HealthState) : .ok ≤ a := Nat.zero_le a.severity

theorem HealthState.le_noData (a : HealthState) : a ≤ .noData := by
  cases a <;> decide

/-- `worst_state`. -/
def worstState : List HealthState → HealthState
  | [] => .noData
  | s :: states => states.foldl (fun a b ↦ if a.severity < b.severity then b else a) s

/-! ## Settings -/

/-- `HealthSettings`. -/
structure HealthSettings where
  healthLqWarn : ℤ := 70
  healthLqCritical : ℤ := 50
  healthDownlinkLqWarn : ℤ := 60
  healthRssiMarginDb : ℤ := 10
  healthLinkstatsStaleS : PyFloat := .fin 1
  healthLinkstatsCriticalFactor : PyFloat := .fin 2
  healthHysteresisS : PyFloat := .fin 2
  elrsMajorVersion : ℤ := 3
  sensitivityFloors : List (String × ℤ) := [("3:0", -120), ("3:1", -117), ("3:2", -112),
    ("3:3", -108), ("3:4", -105), ("3:5", -105), ("3:6", -105)]

/-- `sensitivity_floor`. -/
def HealthSettings.sensitivityFloor (s : HealthSettings) (elrsMajor rfMode : ℤ) : Option ℤ :=
  s.sensitivityFloors.lookup s!"{elrsMajor}:{rfMode}"

/-! ## The monitor -/

/-- The fields of a `LinkHealthMonitor` that change. -/
structure LinkHealthMonitor where
  state : HealthState := .noData
  lastReport : Option HealthReport := none
  pending : Option HealthState := none
  pendingSince : ℚ := 0
deriving DecidableEq, Repr

/-- `_escalate`. -/
def escalate (current atLeast : HealthState) : HealthState :=
  if current.severity < atLeast.severity then atLeast else current

/-- The thresholds for a fresh message. -/
def freshState (s : HealthSettings) (msg : LinkStatistics) : HealthState × List String :=
  if msg.uplinkLq < s.healthLqCritical then (.critical, ["lq_below_critical"])
  else
    let (state, reasons) : HealthState × List String :=
      if msg.uplinkLq < s.healthLqWarn then (.warn, ["lq_below_warn"]) else (.ok, [])
    let (state, reasons) :=
      if msg.downlinkLq < s.healthDownlinkLqWarn then
        (escalate state .warn, reasons ++ ["downlink_degrading"])
      else (state, reasons)
    match s.sensitivityFloor s.elrsMajorVersion msg.rfMode with
    | none => (state, reasons)
    | some floor =>
        let activeRssi :=
          if msg.activeAntenna = 1 then msg.uplinkRssiAnt2Dbm else msg.uplinkRssiAnt1Dbm
        if activeRssi < floor + s.healthRssiMarginDb then
          (escalate state .warn, reasons ++ ["rssi_below_margin"])
        else (state, reasons)

/-- `_raw_state`. -/
def rawState (s : HealthSettings) (store : TelemetryStore) (now : ℚ) :
    HealthState × List String :=
  match store.linkStatistics with
  | none => (.noData, ["no_telemetry"])
  | some (msg, tMono) =>
      let age := PyFloat.fin (now - tMono)
      let stale := s.healthLinkstatsStaleS
      if (s.healthLinkstatsCriticalFactor.mul stale).lt age then (.critical, ["linkstats_stale"])
      else if stale.lt age then (.warn, ["linkstats_stale"])
      else freshState s msg

/-- `now - since >= health_hysteresis_s`. -/
def HealthSettings.due (s : HealthSettings) (since now : ℚ) : Bool :=
  s.healthHysteresisS.le (.fin (now - since))

namespace LinkHealthMonitor

/-- `_apply_hysteresis`. -/
def applyHysteresis (s : HealthSettings) (m : LinkHealthMonitor) (raw : HealthState) (now : ℚ) :
    LinkHealthMonitor :=
  if raw = m.state then { m with pending := none }
  else if m.state.severity < raw.severity then { m with state := raw, pending := none }
  else if m.pending ≠ some raw then { m with pending := some raw, pendingSince := now }
  else if s.due m.pendingSince now then { m with state := raw, pending := none }
  else m

end LinkHealthMonitor

/-- A call of `alert`. -/
structure Alert where
  report : HealthReport
  previous : Option HealthReport
deriving DecidableEq, Repr

/-- What a call of `evaluate` has seen and done. -/
structure Evaluation where
  time : ℚ
  raw : HealthState
  confirmed : HealthState
  /-- The report, unless the sink has raised. -/
  report : Option HealthReport
  alert : Option Alert
  /-- How many `LinkStatistics` had been recorded; no code reads it. -/
  received : ℕ
deriving DecidableEq, Repr

namespace LinkHealthMonitor

/-- `evaluate`, where the sink, if there is one, returns or raises. -/
def evaluate (s : HealthSettings) (m : LinkHealthMonitor) (store : TelemetryStore) (now : ℚ)
    (sink : Option Bool) (received : ℕ) : LinkHealthMonitor × Evaluation :=
  let (raw, rawReasons) := rawState s store now
  let m' := m.applyHysteresis s raw now
  let confirmed := m'.state
  let reasons := if confirmed ≠ raw then ["hysteresis_hold"] else rawReasons
  let report : HealthReport :=
    { state := confirmed, armPermitted := decide (confirmed = .ok), reasons, tMono := now }
  let previous := m.lastReport
  let changed := previous.all fun p ↦ decide (p.state ≠ confirmed)
  let alert := if changed then sink.map fun _ ↦ { report, previous } else none
  if changed ∧ sink = some false then
    -- the exception of the sink leaves `evaluate` before the report is kept
    (m', { time := now, raw, confirmed, report := none, alert, received })
  else
    ({ m' with lastReport := some report },
      { time := now, raw, confirmed, report := some report, alert, received })

end LinkHealthMonitor

/-! ## Runs -/

/-- A monitor with its store and its clock, and the evaluations so far, newest first. -/
structure Watch where
  store : TelemetryStore := {}
  monitor : LinkHealthMonitor := {}
  now : ℚ := 0
  /-- How many `LinkStatistics` have been recorded. -/
  received : ℕ := 0
  log : List Evaluation := []
deriving DecidableEq, Repr

/-- What can happen next: time passes, a message is recorded under a reading of the clock,
or the monitor evaluates while the sink, if there is one, returns or raises. -/
inductive WatchEvent where
  | advance (time : ℚ)
  | update (msg : TelemetryMessage) (tMono : ℚ)
  | evaluate (sink : Option Bool)

/-- One step; the clock never runs backwards and no reading is from the future. -/
def Watch.step (s : HealthSettings) (w : Watch) : WatchEvent → Option Watch
  | .advance time => if w.now ≤ time then some { w with now := time } else none
  | .update msg tMono =>
      if tMono ≤ w.now then
        some { w with
          store := w.store.update msg tMono
          received := w.received + msg.isLinkStatistics.toNat }
      else none
  | .evaluate sink =>
      let (monitor, e) := w.monitor.evaluate s w.store w.now sink w.received
      some { w with monitor, log := e :: w.log }

end DroneComms.Fpv
