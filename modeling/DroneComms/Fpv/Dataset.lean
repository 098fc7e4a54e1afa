import DroneComms.Fpv.Telemetry

/-!
# The telemetry log

The records `record_telemetry` of `meshsa/fpv/flight_logger.py` enqueues, and
`message_from_record` of `meshsa/fpv/crsf/telemetry.py`.

A dataclass takes any value for any of its fields.  The messages of the model
are typed, so a value of a type that is not the field's is an error of its own.
-/

namespace DroneComms.Fpv

open Py (Value PyFloat bindKwargs)

/-- The exceptions of a replay. -/
inductive ReplayError where
  | telemetryParseError
  /-- A value of another type than its annotation says; what becomes of it is not modelled. -/
  | untyped
deriving DecidableEq, Repr

/-! ## Fields -/

/-- A type of fields, and the values that hold them. -/
class FieldType (α : Type) where
  toValue : α → Value
  ofValue : Value → Option α
  ofValue_toValue : ∀ a, ofValue (toValue a) = some a

attribute [simp] FieldType.ofValue_toValue

def intOf : Value → Option ℤ
  | .int n => some n
  | _ => none

def floatOf : Value → Option PyFloat
  | .float x => some x
  | _ => none

def strOf : Value → Option String
  | .str s => some s
  | _ => none

def boolOf : Value → Option Bool
  | .bool b => some b
  | _ => none

instance : FieldType ℤ where
  toValue := .int
  ofValue := intOf
  ofValue_toValue _ := rfl

instance : FieldType PyFloat where
  toValue := .float
  ofValue := floatOf
  ofValue_toValue _ := rfl

instance : FieldType String where
  toValue := .str
  ofValue := strOf
  ofValue_toValue _ := rfl

instance : FieldType Bool where
  toValue := .bool
  ofValue := boolOf
  ofValue_toValue _ := rfl

instance : FieldType (Option ℤ) where
  toValue x := x.elim .none .int
  ofValue
    | .none => some none
    | .int n => some (some n)
    | _ => none
  ofValue_toValue x := by cases x <;> rfl

/-! ## Messages -/

namespace TelemetryMessage

/-- `type(msg).__name__`. -/
def typeName : TelemetryMessage → String
  | linkStatistics _ => "LinkStatistics"
  | batterySensor _ => "BatterySensor"
  | attitude _ => "Attitude"
  | flightMode _ => "FlightMode"
  | gpsSensor _ => "GpsSensor"

/-- The fields of the dataclass of a name, for the names in `_BY_NAME`. -/
def fieldNames : String → Option (List String)
  | "LinkStatistics" => some ["uplink_rssi_ant1_dbm", "uplink_rssi_ant2_dbm", "uplink_lq",
      "uplink_snr_db", "active_antenna", "rf_mode", "uplink_tx_power_mw", "downlink_rssi_dbm",
      "downlink_lq", "downlink_snr_db"]
  | "BatterySensor" => some ["voltage", "current", "fuel_drawn_mah", "remaining_pct"]
  | "Attitude" => some ["pitch_rad", "roll_rad", "yaw_rad"]
  | "FlightMode" => some ["mode", "is_failsafe"]
  | "GpsSensor" => some ["lat_deg", "lon_deg", "ground_speed_kmh", "heading_deg", "altitude_m",
      "satellites"]
  | _ => none

/-- The values of the fields. -/
def fieldValues : TelemetryMessage → List Value
  | linkStatistics m => [FieldType.toValue m.uplinkRssiAnt1Dbm, FieldType.toValue m.uplinkRssiAnt2Dbm,
      FieldType.toValue m.uplinkLq, FieldType.toValue m.uplinkSnrDb, FieldType.toValue m.activeAntenna,
      FieldType.toValue m.rfMode, FieldType.toValue m.uplinkTxPowerMw, FieldType.toValue m.downlinkRssiDbm,
      FieldType.toValue m.downlinkLq, FieldType.toValue m.downlinkSnrDb]
  | batterySensor m => [FieldType.toValue m.voltage, FieldType.toValue m.current,
      FieldType.toValue m.fuelDrawnMah, FieldType.toValue m.remainingPct]
  | attitude m => [FieldType.toValue m.pitchRad, FieldType.toValue m.rollRad, FieldType.toValue m.yawRad]
  | flightMode m => [FieldType.toValue m.mode, FieldType.toValue m.isFailsafe]
  | gpsSensor m => [FieldType.toValue m.latDeg, FieldType.toValue m.lonDeg, FieldType.toValue m.groundSpeedKmh,
      FieldType.toValue m.headingDeg, FieldType.toValue m.altitudeM, FieldType.toValue m.satellites]

/-- `asdict`. -/
def asdict (msg : TelemetryMessage) : List (String × Value) :=
  ((fieldNames msg.typeName).getD []).zip msg.fieldValues

open FieldType (ofValue) in
/-- The message of a class with values for its fields. -/
def ofFieldValues (typeName : String) (values : List Value) : Option TelemetryMessage :=
  match typeName, values with
  | "LinkStatistics", [a, b, c, d, e, f, g, h, i, j] => do
      some (.linkStatistics ⟨← ofValue a, ← ofValue b, ← ofValue c, ← ofValue d, ← ofValue e,
        ← ofValue f, ← ofValue g, ← ofValue h, ← ofValue i, ← ofValue j⟩)
  | "BatterySensor", [a, b, c, d] => do
      some (.batterySensor ⟨← ofValue a, ← ofValue b, ← ofValue c, ← ofValue d⟩)
  | "Attitude", [a, b, c] => do
      some (.attitude ⟨← ofValue a, ← ofValue b, ← ofValue c⟩)
  | "FlightMode", [a, b] => do
      some (.flightMode ⟨← ofValue a, ← ofValue b⟩)
  | "GpsSensor", [a, b, c, d, e, f] => do
      some (.gpsSensor ⟨← ofValue a, ← ofValue b, ← ofValue c, ← ofValue d, ← ofValue e,
        ← ofValue f⟩)
  | _, _ => none

end TelemetryMessage

open TelemetryMessage

/-- `message_from_record`. -/
def messageFromRecord (typeName : String) (data : List (String × Value)) :
    Except ReplayError TelemetryMessage :=
  match fieldNames typeName with
  | none => .error .telemetryParseError
  | some names =>
      match bindKwargs names data with
      | .error _ => .error .telemetryParseError
      | .ok values => (ofFieldValues typeName values).elim (.error .untyped) .ok

/-- The record of `record_telemetry`. -/
def telemetryRecord (msg : TelemetryMessage) (t : ℚ) : List (String × Value) :=
  [("t", .float (.fin t)), ("type", .str msg.typeName), ("data", .dict msg.asdict)]

/-- The fields of a dataclass are taken from keyword arguments that are its own. -/
theorem bindKwargs_asdict (msg : TelemetryMessage) :
    ∃ names, fieldNames msg.typeName = some names ∧
      bindKwargs names msg.asdict = .ok msg.fieldValues := by
  cases msg <;> exact ⟨_, rfl, rfl⟩

/-- A logged message is read back. -/
theorem messageFromRecord_asdict (msg : TelemetryMessage) :
    messageFromRecord msg.typeName msg.asdict = .ok msg := by
  obtain ⟨names, hnames, hbind⟩ := bindKwargs_asdict msg
  rw [messageFromRecord, hnames]
  dsimp only
  rw [hbind]
  cases msg <;> simp [typeName, fieldValues, ofFieldValues]

end DroneComms.Fpv
