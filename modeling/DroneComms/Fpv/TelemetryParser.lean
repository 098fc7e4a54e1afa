import DroneComms.Fpv.Frame
import DroneComms.Fpv.Telemetry
import DroneComms.Lib.Wire
import DroneComms.Mesh.CompactTrip
import DroneComms.Py.Arithmetic

/-!
# Parsing telemetry

`TelemetryParser` of `meshsa/fpv/crsf/telemetry.py` with `ParserSettings` of
`meshsa/fpv/config.py`: a frame as a telemetry message, big-endian fields scaled by the
settings.  Logging is left out.
-/

namespace DroneComms.Fpv

open Py (PyError PyFloat)

/-! ## Settings and types -/

/-- `ParserSettings`. -/
structure ParserSettings where
  telemetryVoltageScale : PyFloat := .ofRat (1 / 10)
  telemetryCurrentScale : PyFloat := .ofRat (1 / 10)
  attitudeRadScale : PyFloat := .ofRat (1 / 10000)
  failsafeMarker : String := "!FS!"
  gpsCoordScale : PyFloat := .fin 10000000
  gpsGroundspeedScale : PyFloat := .fin 10
  gpsHeadingScale : PyFloat := .fin 100
  gpsAltitudeOffsetM : ℤ := 1000

/-- `CrsfFrameType.GPS` and its siblings. -/
def gpsType : ℤ := 0x02

def batterySensorType : ℤ := 0x08

def attitudeType : ℤ := 0x1E

def flightModeType : ℤ := 0x21

def devicePingType : ℤ := 0x28

def deviceInfoType : ℤ := 0x29

def radioIdType : ℤ := 0x3A

/-- `_IGNORED_TYPES`. -/
def ignoredTypes : List ℤ := [rcChannelsPackedType, devicePingType, deviceInfoType, radioIdType]

/-- `_TX_POWER_MW`. -/
def txPowerMw : List ℤ := [0, 10, 25, 100, 500, 1000, 2000, 250, 50]

/-- What the parser raises. -/
inductive ParserError where
  | /-- `TelemetryParseError`. -/ telemetryParse (message : String)
  | zeroDivision
  | python (e : PyError)

/-! ## Fields -/

/-- An unsigned field of `n` bytes. -/
def unsignedAt (payload : List UInt8) (start n : ℕ) : ℕ :=
  Wire.ofBigEndian ((payload.drop start).take n)

/-- A signed field of `n` bytes. -/
def signedAt (payload : List UInt8) (start n : ℕ) : ℤ :=
  Wire.toSigned (8 * n) (unsignedAt payload start n)

/-- `n * scale`. -/
def times (n : ℤ) (scale : PyFloat) : Except ParserError PyFloat :=
  ((Py.floatOfInt n).map fun x ↦ x.mul scale).mapError .python

/-- `n / scale`. -/
def quotient (n : ℤ) (scale : PyFloat) : Except ParserError PyFloat :=
  if scale = .fin 0 then .error .zeroDivision
  else ((Py.floatOfInt n).map fun x ↦ x.div scale).mapError .python

/-- `payload.decode("ascii", errors="replace")`. -/
def asciiReplace (payload : List UInt8) : String :=
  String.ofList (payload.map fun b ↦ if b < 128 then Char.ofNat b.toNat else '\uFFFD')

/-- `_require`. -/
def require (payload : List UInt8) (n : ℕ) (what : String) : Except ParserError Unit :=
  if payload.length ≠ n then
    .error (.telemetryParse s!"{what}: expected {n} bytes, got {payload.length}")
  else .ok ()

/-! ## The parser -/

/-- `TelemetryParser`. -/
structure TelemetryParser where
  settings : ParserSettings := {}
  unknownCounts : ℤ → ℕ := fun _ ↦ 0

namespace TelemetryParser

variable (s : ParserSettings)

/-- `_link_statistics`. -/
def linkStatistics (payload : List UInt8) : Except ParserError LinkStatistics := do
  require payload 10 "LINK_STATISTICS"
  return {
    uplinkRssiAnt1Dbm := -unsignedAt payload 0 1
    uplinkRssiAnt2Dbm := -unsignedAt payload 1 1
    uplinkLq := unsignedAt payload 2 1
    uplinkSnrDb := signedAt payload 3 1
    activeAntenna := unsignedAt payload 4 1
    rfMode := unsignedAt payload 5 1
    uplinkTxPowerMw := txPowerMw[unsignedAt payload 6 1]?
    downlinkRssiDbm := -unsignedAt payload 7 1
    downlinkLq := unsignedAt payload 8 1
    downlinkSnrDb := signedAt payload 9 1 }

/-- `_battery`. -/
def battery (payload : List UInt8) : Except ParserError BatterySensor := do
  require payload 8 "BATTERY_SENSOR"
  let voltage ← times (unsignedAt payload 0 2) s.telemetryVoltageScale
  let current ← times (unsignedAt payload 2 2) s.telemetryCurrentScale
  return { voltage, current, fuelDrawnMah := unsignedAt payload 4 3,
           remainingPct := unsignedAt payload 7 1 }

/-- `_attitude`. -/
def attitude (payload : List UInt8) : Except ParserError Attitude := do
  require payload 6 "ATTITUDE"
  let pitchRad ← times (signedAt payload 0 2) s.attitudeRadScale
  let rollRad ← times (signedAt payload 2 2) s.attitudeRadScale
  let yawRad ← times (signedAt payload 4 2) s.attitudeRadScale
  return { pitchRad, rollRad, yawRad }

/-- `_flight_mode`. -/
def flightMode (payload : List UInt8) : Except ParserError FlightMode :=
  if payload = [] then .error (.telemetryParse "FLIGHT_MODE: empty payload")
  else
    let text := asciiReplace (payload.takeWhile (· ≠ 0))
    .ok { mode := text, isFailsafe := decide (s.failsafeMarker.toList <:+: text.toList) }

/-- `_gps`. -/
def gps (payload : List UInt8) : Except ParserError GpsSensor := do
  require payload 15 "GPS"
  let latDeg ← quotient (signedAt payload 0 4) s.gpsCoordScale
  let lonDeg ← quotient (signedAt payload 4 4) s.gpsCoordScale
  let groundSpeedKmh ← quotient (unsignedAt payload 8 2) s.gpsGroundspeedScale
  let headingDeg ← quotient (unsignedAt payload 10 2) s.gpsHeadingScale
  return { latDeg, lonDeg, groundSpeedKmh, headingDeg,
           altitudeM := unsignedAt payload 12 2 - s.gpsAltitudeOffsetM,
           satellites := unsignedAt payload 14 1 }

/-- `parse`. -/
def parse (p : TelemetryParser) (frame : CrsfFrame) :
    Except ParserError (Option TelemetryMessage) × TelemetryParser :=
  if frame.type = linkStatisticsType then
    ((linkStatistics frame.payload).map fun msg ↦ some (.linkStatistics msg), p)
  else if frame.type = batterySensorType then
    ((battery p.settings frame.payload).map fun msg ↦ some (.batterySensor msg), p)
  else if frame.type = attitudeType then
    ((attitude p.settings frame.payload).map fun msg ↦ some (.attitude msg), p)
  else if frame.type = flightModeType then
    ((flightMode p.settings frame.payload).map fun msg ↦ some (.flightMode msg), p)
  else if frame.type = gpsType then
    ((gps p.settings frame.payload).map fun msg ↦ some (.gpsSensor msg), p)
  else if frame.type ∈ ignoredTypes then (.ok none, p)
  else (.ok none, { p with
    unknownCounts := Function.update p.unknownCounts frame.type (p.unknownCounts frame.type + 1) })

end TelemetryParser

/-! ## What comes of a frame -/

/-- The position fields of a GPS frame, as they are on the wire. -/
structure GpsWire where
  latE7 : ℤ
  lonE7 : ℤ
  altitude : ℕ
deriving DecidableEq, Repr

/-- The coordinates are in range. -/
def GpsWire.InRange (w : GpsWire) : Prop := |w.latE7| ≤ 900000000 ∧ |w.lonE7| ≤ 1800000000

/-- A GPS frame with a payload of 15 bytes. -/
def CrsfFrame.gps? (frame : CrsfFrame) : Option GpsWire :=
  if frame.type = gpsType ∧ frame.payload.length = 15 then
    some {
      latE7 := signedAt frame.payload 0 4
      lonE7 := signedAt frame.payload 4 4
      altitude := unsignedAt frame.payload 12 2 }
  else none

/-- Of a parsed frame, what is left behind `except TelemetryParseError` and `isinstance`. -/
def gpsSensor? :
    Except ParserError (Option TelemetryMessage) → Except ParserError (Option GpsSensor)
  | .error (.telemetryParse _) => .ok none
  | .error e => .error e
  | .ok (some (.gpsSensor msg)) => .ok (some msg)
  | .ok _ => .ok none

/-- The sensor of a frame, if it is a GPS frame. -/
inductive ParsedGps (frame : CrsfFrame) : Option GpsSensor → Prop
  | other (h : frame.gps? = none) : ParsedGps frame none
  | gps (w : GpsWire) (msg : GpsSensor) (h : frame.gps? = some w)
      (hlat : msg.latDeg = Mesh.Compact.degrees w.latE7)
      (hlon : msg.lonDeg = Mesh.Compact.degrees w.lonE7)
      (haltitude : msg.altitudeM = w.altitude - 1000) : ParsedGps frame (some msg)

theorem unsignedAt_lt (payload : List UInt8) (start n : ℕ) :
    unsignedAt payload start n < 256 ^ n := by
  have hlt := Wire.ofBigEndian_lt ((payload.drop start).take n)
  refine hlt.trans_le (Nat.pow_le_pow_right (by norm_num) ?_)
  rw [List.length_take]
  exact Nat.min_le_left _ _

theorem two_mul_abs_signedAt_le (payload : List UInt8) (start n : ℕ) :
    2 * |signedAt payload start n| ≤ 2 ^ (8 * n) := by
  have hlt := unsignedAt_lt payload start n
  rw [show 256 ^ n = 2 ^ (8 * n) from (pow_mul 2 8 n).symm] at hlt
  obtain ⟨hlow, hhigh⟩ := Wire.toSigned_range hlt
  rw [signedAt, ← abs_two, ← abs_mul, abs_le]
  exact ⟨hlow, hhigh.le⟩

/-- The fields of a fix are those of 4 and of 2 bytes. -/
theorem CrsfFrame.fields_of_gps {frame : CrsfFrame} {w : GpsWire} (h : frame.gps? = some w) :
    |w.latE7| ≤ 2 ^ 31 ∧ |w.lonE7| ≤ 2 ^ 31 ∧ w.altitude < 2 ^ 16 := by
  obtain ⟨-, hfields⟩ := Option.ite_none_right_eq_some.mp h
  cases hfields
  have hcoordinate (start : ℕ) : |signedAt frame.payload start 4| ≤ 2 ^ 31 := by
    have htwice := two_mul_abs_signedAt_le frame.payload start 4
    rw [show 8 * 4 = 31 + 1 from rfl, pow_succ] at htwice
    linarith
  exact ⟨hcoordinate 0, hcoordinate 4, unsignedAt_lt frame.payload 12 2⟩

/-- A small integer is a float. -/
theorem floatOfInt_small {n : ℤ} (h : |n| < 2 ^ 53) : Py.floatOfInt n = .ok (.fin n) := by
  have hcast : |(n : ℚ)| < 2 ^ 53 := by exact_mod_cast h
  have hself : Py.binary64 (n : ℚ) = n :=
    Py.binary64_eq_self (k := 53) (m := n) (by norm_num) (by simpa using hcast) (by simp)
  have hfin : PyFloat.ofRat (n : ℚ) = .fin (Py.binary64 n) := by
    apply PyFloat.ofRat_eq_fin
    rw [hself]
    exact hcast.trans_le (pow_le_pow_right₀ (by norm_num) (by norm_num))
  have hlimit : ¬Py.floatLimit ≤ |n| := by
    have hsmall : (2 : ℤ) ^ 53 < 2 ^ 970 := pow_lt_pow_right₀ (by norm_num) (by norm_num)
    have hlarge : (2 : ℤ) ^ 970 * 2 ≤ 2 ^ 1024 :=
      pow_succ (2 : ℤ) 970 ▸ pow_le_pow_right₀ (by norm_num) (by norm_num)
    rw [Py.floatLimit]
    generalize (2 : ℤ) ^ 970 = low at hsmall hlarge ⊢
    generalize (2 : ℤ) ^ 1024 = high at hlarge ⊢
    linarith
  rw [Py.floatOfInt, if_neg hlimit, hfin, hself]

theorem quotient_small {n : ℤ} (h : |n| < 2 ^ 53) {scale : ℚ} (hscale : scale ≠ 0) :
    quotient n (.fin scale) = .ok (.ofRat (n / scale)) := by
  have hne : PyFloat.fin scale ≠ .fin 0 := fun hzero ↦ hscale (PyFloat.fin.inj hzero)
  rw [quotient, if_neg hne, floatOfInt_small h]
  rfl

theorem times_small {n : ℤ} (h : |n| < 2 ^ 53) (scale : PyFloat) : ∃ x, times n scale = .ok x := by
  rw [times, floatOfInt_small h]
  exact ⟨_, rfl⟩

namespace TelemetryParser

variable {p : TelemetryParser} {frame : CrsfFrame}

/-- A field of two bytes is small. -/
theorem unsignedAt_small (payload : List UInt8) (start : ℕ) :
    |((unsignedAt payload start 2 : ℕ) : ℤ)| < 2 ^ 53 := by
  have hlt : ((unsignedAt payload start 2 : ℕ) : ℤ) < 256 ^ 2 := by
    exact_mod_cast unsignedAt_lt payload start 2
  rw [Nat.abs_cast]
  linarith

/-- A signed field of up to six bytes is small. -/
theorem signedAt_small (payload : List UInt8) (start : ℕ) {n : ℕ} (hn : n ≤ 6) :
    |signedAt payload start n| < 2 ^ 53 := by
  have hle : (2 : ℤ) ^ (8 * n) ≤ 2 ^ 48 := pow_le_pow_right₀ (by norm_num) (by omega)
  linarith [two_mul_abs_signedAt_le payload start n]

/-- A payload of 15 bytes has a position, and any other is refused. -/
theorem parsed_gps (hgps : frame.type = gpsType) :
    ∃ o, gpsSensor? ((gps {} frame.payload).map fun msg ↦ some (.gpsSensor msg)) = .ok o ∧
      ParsedGps frame o := by
  by_cases hlength : frame.payload.length = 15
  · have hrequire : require frame.payload 15 "GPS" = .ok () := if_neg (not_not.mpr hlength)
    have hsmall (start : ℕ) : |signedAt frame.payload start 4| < 2 ^ 53 :=
      signedAt_small frame.payload start (by norm_num)
    have hword := unsignedAt_small frame.payload
    rw [gps, hrequire, quotient_small (hsmall 0) (by norm_num),
      quotient_small (hsmall 4) (by norm_num), quotient_small (hword 8) (by norm_num),
      quotient_small (hword 10) (by norm_num)]
    exact ⟨_, rfl, .gps _ _ (if_pos ⟨hgps, hlength⟩) rfl rfl rfl⟩
  · rw [gps, require, if_pos hlength]
    exact ⟨none, rfl, .other (if_neg fun h ↦ hlength h.2)⟩

/-- A computation raises nothing but `TelemetryParseError`. -/
def Refuses {α : Type} (x : Except ParserError α) : Prop :=
  ∀ e, x = .error e → ∃ message, e = .telemetryParse message

theorem refuses_ok {α : Type} (a : α) : Refuses (.ok a) := by
  intro e he
  cases he

theorem refuses_require {α : Type} {payload : List UInt8} {n : ℕ} {what : String}
    {f : Unit → Except ParserError α} (h : Refuses (f ())) :
    Refuses (require payload n what >>= f) := by
  by_cases hlength : payload.length = n
  · rw [require, if_neg (not_not.mpr hlength)]
    exact h
  · rw [require, if_pos hlength]
    rintro _ ⟨⟩
    exact ⟨_, rfl⟩

/-- Scaling a short field does not fail. -/
theorem refuses_times {α : Type} {n : ℤ} (hn : |n| < 2 ^ 53) {scale : PyFloat}
    {f : PyFloat → Except ParserError α} (h : ∀ x, Refuses (f x)) :
    Refuses (times n scale >>= f) := by
  obtain ⟨x, hx⟩ := times_small hn scale
  rw [hx]
  exact h x

section Messages

variable (s : ParserSettings) (payload : List UInt8)

theorem refuses_linkStatistics : Refuses (linkStatistics payload) :=
  refuses_require (refuses_ok _)

theorem refuses_battery : Refuses (battery s payload) := by
  apply refuses_require
  apply refuses_times (unsignedAt_small payload 0)
  intro voltage
  apply refuses_times (unsignedAt_small payload 2)
  intro current
  exact refuses_ok _

theorem refuses_attitude : Refuses (attitude s payload) := by
  apply refuses_require
  apply refuses_times (signedAt_small payload 0 (by norm_num))
  intro pitch
  apply refuses_times (signedAt_small payload 2 (by norm_num))
  intro roll
  apply refuses_times (signedAt_small payload 4 (by norm_num))
  intro yaw
  exact refuses_ok _

theorem refuses_flightMode : Refuses (flightMode s payload) := by
  unfold flightMode
  split_ifs
  · rintro _ ⟨⟩
    exact ⟨_, rfl⟩
  · exact refuses_ok _

end Messages

/-- What is refused, and what is no position, is left out. -/
theorem gpsSensor?_map {α : Type} {x : Except ParserError α} (hx : Refuses x)
    {wrap : α → TelemetryMessage} (hwrap : ∀ a msg, wrap a ≠ .gpsSensor msg) :
    gpsSensor? (x.map fun a ↦ some (wrap a)) = .ok none := by
  cases x with
  | error e =>
      obtain ⟨message, rfl⟩ := hx e rfl
      rfl
  | ok a =>
      show gpsSensor? (.ok (some (wrap a))) = .ok none
      cases hmsg : wrap a with
      | gpsSensor msg => exact absurd hmsg (hwrap a msg)
      | linkStatistics _ | batterySensor _ | attitude _ | flightMode _ => rfl

/-- With the default settings the parser raises no other exception than its own. -/
theorem parsed_parse (hp : p.settings = {}) (frame : CrsfFrame) :
    ∃ o, gpsSensor? (p.parse frame).1 = .ok o ∧ ParsedGps frame o := by
  by_cases hgps : frame.type = gpsType
  · have hparse : p.parse frame =
        ((gps p.settings frame.payload).map fun msg ↦ some (.gpsSensor msg), p) := by
      rw [parse, hgps]
      rfl
    rw [hparse, hp]
    exact parsed_gps hgps
  · refine ⟨none, ?_, .other (if_neg fun h ↦ hgps h.1)⟩
    unfold parse
    split_ifs
    · exact gpsSensor?_map (refuses_linkStatistics _) (by simp)
    · exact gpsSensor?_map (refuses_battery _ _) (by simp)
    · exact gpsSensor?_map (refuses_attitude _ _) (by simp)
    · exact gpsSensor?_map (refuses_flightMode _ _) (by simp)
    · rfl
    · rfl

@[simp] theorem settings_parse (p : TelemetryParser) (frame : CrsfFrame) :
    (p.parse frame).2.settings = p.settings := by
  unfold parse
  split_ifs <;> rfl

end TelemetryParser

end DroneComms.Fpv
