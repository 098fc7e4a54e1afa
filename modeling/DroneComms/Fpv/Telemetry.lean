import DroneComms.Py.Value

/-!
# Telemetry

The messages of `meshsa/fpv/crsf/telemetry.py` and the latest-value store of
`meshsa/fpv/telemetry_store.py`.  The length of a history, which the store
checks but does not keep, is left out.
-/

namespace DroneComms.Fpv

open Py (PyFloat)

structure LinkStatistics where
  uplinkRssiAnt1Dbm : ℤ
  uplinkRssiAnt2Dbm : ℤ
  uplinkLq : ℤ
  uplinkSnrDb : ℤ
  activeAntenna : ℤ
  rfMode : ℤ
  uplinkTxPowerMw : Option ℤ
  downlinkRssiDbm : ℤ
  downlinkLq : ℤ
  downlinkSnrDb : ℤ
deriving DecidableEq, Repr

structure BatterySensor where
  voltage : PyFloat
  current : PyFloat
  fuelDrawnMah : ℤ
  remainingPct : ℤ
deriving DecidableEq, Repr

structure Attitude where
  pitchRad : PyFloat
  rollRad : PyFloat
  yawRad : PyFloat
deriving DecidableEq, Repr

structure FlightMode where
  mode : String
  isFailsafe : Bool
deriving DecidableEq, Repr

structure GpsSensor where
  latDeg : PyFloat
  lonDeg : PyFloat
  groundSpeedKmh : PyFloat
  headingDeg : PyFloat
  altitudeM : ℤ
  satellites : ℤ
deriving DecidableEq, Repr

/-- `TelemetryMessage`. -/
inductive TelemetryMessage where
  | linkStatistics (msg : LinkStatistics)
  | batterySensor (msg : BatterySensor)
  | attitude (msg : Attitude)
  | flightMode (msg : FlightMode)
  | gpsSensor (msg : GpsSensor)
deriving DecidableEq, Repr

/-- `isinstance(msg, LinkStatistics)`. -/
def TelemetryMessage.isLinkStatistics : TelemetryMessage → Bool
  | linkStatistics _ => true
  | batterySensor _ | attitude _ | flightMode _ | gpsSensor _ => false

/-- `TelemetryStore`: the latest message of each type and when it was observed. -/
structure TelemetryStore where
  linkStatistics : Option (LinkStatistics × ℚ) := none
  batterySensor : Option (BatterySensor × ℚ) := none
  attitude : Option (Attitude × ℚ) := none
  flightMode : Option (FlightMode × ℚ) := none
  gpsSensor : Option (GpsSensor × ℚ) := none
deriving DecidableEq, Repr

/-- `TelemetryStore.update`. -/
def TelemetryStore.update (store : TelemetryStore) (msg : TelemetryMessage) (tMono : ℚ) :
    TelemetryStore :=
  match msg with
  | .linkStatistics m => { store with linkStatistics := some (m, tMono) }
  | .batterySensor m => { store with batterySensor := some (m, tMono) }
  | .attitude m => { store with attitude := some (m, tMono) }
  | .flightMode m => { store with flightMode := some (m, tMono) }
  | .gpsSensor m => { store with gpsSensor := some (m, tMono) }

variable {store : TelemetryStore} {msg : TelemetryMessage} {tMono : ℚ}

theorem TelemetryStore.update_other (h : msg.isLinkStatistics = false) :
    (store.update msg tMono).linkStatistics = store.linkStatistics := by
  cases msg with
  | linkStatistics m => cases h
  | batterySensor | attitude | flightMode | gpsSensor => rfl

theorem TelemetryStore.update_link (h : msg.isLinkStatistics = true) :
    ∃ m, (store.update msg tMono).linkStatistics = some (m, tMono) := by
  cases msg with
  | linkStatistics m => exact ⟨m, rfl⟩
  | batterySensor | attitude | flightMode | gpsSensor => cases h

end DroneComms.Fpv
