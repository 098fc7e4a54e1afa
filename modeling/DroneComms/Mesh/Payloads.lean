import DroneComms.Mesh.Models
import DroneComms.Py.Interpreter

/-!
# Positions, telemetry and detections

The payload models of `meshsa/models.py` with their validators and their dumps
(`model_dump(exclude_none=True)`).  A codec that builds a model from values that
are numbers already runs just the validators; what pydantic does with any other
value is a parameter (`Pydantic`).
-/

namespace DroneComms.Mesh

open Py (PyFloat Value Dict)

/-- `UNKNOWN_ERROR_M`. -/
def unknownErrorM : PyFloat := .fin 9999999

/-- `NodeTier`. -/
inductive NodeTier where
  | user
  | backbone
  | base
deriving DecidableEq, Repr

/-- `NodeTier.value`. -/
def NodeTier.value : NodeTier → String
  | user => "user"
  | backbone => "backbone"
  | base => "base"

/-- How pydantic reads a value for a field of a type. -/
structure Pydantic where
  float : Value → Option PyFloat
  int : Value → Option ℤ
  str : Value → Option String
  float_float : ∀ x, float (.float x) = some x
  int_int : ∀ n, int (.int n) = some n
  str_str : ∀ s, str (.str s) = some s

/-- Pydantic for closed runs, where numbers are numbers and texts are texts. -/
def Pydantic.plain : Pydantic where
  float
    | .float x => some x
    | .int n => (Py.floatOfInt n).toOption
    | _ => none
  int
    | .int n => some n
    | _ => none
  str
    | .str s => some s
    | _ => none
  float_float _ := rfl
  int_int _ := rfl
  str_str _ := rfl

/-- A field that may be `None` or missing. -/
def optional {α : Type} (read : Value → Option α) : Option Value → Option (Option α)
  | none | some .none => some none
  | some v => (read v).map some

/-- A dumped field, left out if it is `None`. -/
def dumped {α : Type} (key : String) (write : α → Value) (x : Option α) : Dict :=
  (x.map fun x ↦ (key, write x)).toList

/-- A field of a dump is read back. -/
theorem optional_of_get? {α : Type} {read : Value → Option α} {write : α → Value}
    {d : Dict} {key : String} {x : Option α} (hread : ∀ y ∈ x, read (write y) = some y)
    (h : Dict.get? d key = x.map write) (hnone : ∀ x, write x ≠ .none) :
    optional read (d.lookup key) = some x := by
  unfold Dict.get? at h
  cases hv : d.lookup key with
  | none =>
      rw [hv] at h
      cases x with
      | none => rfl
      | some x => cases h
  | some v =>
      rw [hv] at h
      cases x with
      | none =>
          cases v with
          | none => rfl
          | _ => cases h
      | some x =>
          have hwrite : v = write x := by
            cases v with
            | none => cases h
            | _ => exact Option.some.inj h
          subst hwrite
          have hsome : optional read (some (write x)) = (read (write x)).map some := by
            generalize hv : write x = v
            cases v with
            | none => exact absurd hv (hnone x)
            | _ => rfl
          rw [hsome, hread x rfl]
          rfl

/-- What is read for a field that may be missing is read from a value. -/
theorem exists_of_optional {α : Type} {read : Value → Option α} {o : Option Value} {x : Option α}
    (h : optional read o = some x) : ∀ y ∈ x, ∃ v, read v = some y := by
  intro y hy
  unfold optional at h
  split at h
  · cases h
    cases hy
  · cases h
    cases hy
  · obtain ⟨y', hread, h⟩ := Option.map_eq_some_iff.mp h
    cases h
    cases hy
    exact ⟨_, hread⟩

/-- A dump of a field that is converted. -/
theorem dumped_map {α β : Type} (key : String) (write : β → Value) (f : α → β) (x : Option α) :
    dumped key write (x.map f) = dumped key (fun a ↦ write (f a)) x := by
  cases x with
  | none => rfl
  | some x => rfl

/-! ## Position -/

/-- `Position`. -/
structure Position where
  lat : PyFloat
  lon : PyFloat
  hae : PyFloat := .fin 0
  ce : PyFloat := unknownErrorM
  le : PyFloat := unknownErrorM
  courseDeg : Option PyFloat := none
  speedMs : Option PyFloat := none
deriving DecidableEq

namespace Position

/-- The validators of `Position`. -/
structure Valid (p : Position) : Prop where
  lat_range : PyFloat.le (.fin (-90)) p.lat = true ∧ PyFloat.le p.lat (.fin 90) = true
  lon_range : PyFloat.le (.fin (-180)) p.lon = true ∧ PyFloat.le p.lon (.fin 180) = true
  course_range : ∀ v ∈ p.courseDeg, PyFloat.le (.fin 0) v = true ∧ PyFloat.lt v (.fin 360) = true
  speed_nonneg : ∀ v ∈ p.speedMs, v.isFinite = true ∧ PyFloat.lt v (.fin 0) = false

theorem valid_iff (p : Position) : p.Valid ↔
    (PyFloat.le (.fin (-90)) p.lat = true ∧ PyFloat.le p.lat (.fin 90) = true) ∧
      (PyFloat.le (.fin (-180)) p.lon = true ∧ PyFloat.le p.lon (.fin 180) = true) ∧
        (∀ v ∈ p.courseDeg, PyFloat.le (.fin 0) v = true ∧ PyFloat.lt v (.fin 360) = true) ∧
          ∀ v ∈ p.speedMs, v.isFinite = true ∧ PyFloat.lt v (.fin 0) = false :=
  ⟨fun h ↦ ⟨h.1, h.2, h.3, h.4⟩, fun h ↦ ⟨h.1, h.2.1, h.2.2.1, h.2.2.2⟩⟩

instance (p : Position) : Decidable p.Valid := decidable_of_iff' _ p.valid_iff

/-- `model_dump(exclude_none=True)`. -/
def dump (p : Position) : Dict :=
  [("lat", .float p.lat), ("lon", .float p.lon), ("hae", .float p.hae), ("ce", .float p.ce),
    ("le", .float p.le)] ++ dumped "course_deg" .float p.courseDeg ++
      dumped "speed_ms" .float p.speedMs

/-- `Position.model_validate`. -/
def modelValidate (pyd : Pydantic) : Value → Option Position
  | .dict d => do
      let lat ← (d.lookup "lat").bind pyd.float
      let lon ← (d.lookup "lon").bind pyd.float
      let hae ← pyd.float (Dict.get d "hae" (.float (.fin 0)))
      let ce ← pyd.float (Dict.get d "ce" (.float unknownErrorM))
      let le ← pyd.float (Dict.get d "le" (.float unknownErrorM))
      let courseDeg ← optional pyd.float (d.lookup "course_deg")
      let speedMs ← optional pyd.float (d.lookup "speed_ms")
      let p : Position := { lat, lon, hae, ce, le, courseDeg, speedMs }
      if p.Valid then some p else none
  | _ => none

/-- A position is accepted from its own dump if and only if it is valid. -/
theorem modelValidate_dump_eq (pyd : Pydantic) (p : Position) :
    modelValidate pyd (.dict p.dump) = if p.Valid then some p else none := by
  obtain ⟨lat, lon, hae, ce, le, course, speed⟩ := p
  cases course <;> cases speed <;>
    simp [modelValidate, dump, dumped, Dict.get, optional, pyd.float_float, List.lookup_cons]

/-- A valid position is accepted from its own dump. -/
theorem modelValidate_dump (pyd : Pydantic) {p : Position} (h : p.Valid) :
    modelValidate pyd (.dict p.dump) = some p := by
  rw [modelValidate_dump_eq, if_pos h]

/-- Without course and speed a position is still valid. -/
theorem Valid.bare {p : Position} (h : p.Valid) :
    ({ p with courseDeg := none, speedMs := none } : Position).Valid where
  lat_range := h.lat_range
  lon_range := h.lon_range
  course_range _ hv := nomatch hv
  speed_nonneg _ hv := nomatch hv

/-- A dictionary holds a position: an optional field that is not there is missing
or `None`. -/
structure HeldBy (p : Position) (d : Dict) : Prop where
  lat : d.lookup "lat" = some (.float p.lat)
  lon : d.lookup "lon" = some (.float p.lon)
  hae : Dict.get d "hae" (.float (.fin 0)) = .float p.hae
  ce : Dict.get d "ce" (.float unknownErrorM) = .float p.ce
  le : Dict.get d "le" (.float unknownErrorM) = .float p.le
  course : Dict.get? d "course_deg" = p.courseDeg.map .float
  speed : Dict.get? d "speed_ms" = p.speedMs.map .float

theorem heldBy_dump (p : Position) : p.HeldBy p.dump := by
  obtain ⟨lat, lon, hae, ce, le, course, speed⟩ := p
  constructor
  case course => cases course <;> cases speed <;> rfl
  case speed => cases course <;> cases speed <;> rfl
  all_goals rfl

end Position

/-! ## Telemetry -/

/-- `Attitude`. -/
structure Attitude where
  rollDeg : Option PyFloat := none
  pitchDeg : Option PyFloat := none
  yawDeg : Option PyFloat := none
deriving DecidableEq

/-- `Telemetry`. -/
structure Telemetry where
  batteryV : Option PyFloat := none
  batteryPct : Option ℤ := none
  currentA : Option PyFloat := none
  attitude : Option Attitude := none
deriving DecidableEq

def Attitude.dump (a : Attitude) : Dict :=
  dumped "roll_deg" .float a.rollDeg ++ dumped "pitch_deg" .float a.pitchDeg ++
    dumped "yaw_deg" .float a.yawDeg

/-- A dictionary holds an attitude. -/
structure Attitude.HeldBy (a : Attitude) (d : Dict) : Prop where
  roll : Dict.get? d "roll_deg" = a.rollDeg.map .float
  pitch : Dict.get? d "pitch_deg" = a.pitchDeg.map .float
  yaw : Dict.get? d "yaw_deg" = a.yawDeg.map .float

theorem Attitude.heldBy_dump (a : Attitude) : a.HeldBy a.dump := by
  obtain ⟨roll, pitch, yaw⟩ := a
  constructor <;> cases roll <;> cases pitch <;> cases yaw <;> rfl

/-- `Attitude.model_validate`. -/
def Attitude.modelValidate (pyd : Pydantic) : Value → Option Attitude
  | .dict d => do
      let rollDeg ← optional pyd.float (d.lookup "roll_deg")
      let pitchDeg ← optional pyd.float (d.lookup "pitch_deg")
      let yawDeg ← optional pyd.float (d.lookup "yaw_deg")
      some { rollDeg, pitchDeg, yawDeg }
  | _ => none

/-- An attitude is accepted from its own dump. -/
theorem Attitude.modelValidate_dump (pyd : Pydantic) (a : Attitude) :
    modelValidate pyd (.dict a.dump) = some a := by
  have h := a.heldBy_dump
  simp only [modelValidate, optional_of_get? (fun y _ ↦ pyd.float_float y) h.roll nofun,
    optional_of_get? (fun y _ ↦ pyd.float_float y) h.pitch nofun,
    optional_of_get? (fun y _ ↦ pyd.float_float y) h.yaw nofun, Option.bind_eq_bind,
    Option.bind_some]

namespace Telemetry

/-- The validators of `Telemetry`. -/
structure Valid (t : Telemetry) : Prop where
  battery_v_nonneg : ∀ v ∈ t.batteryV, v.isFinite = true ∧ PyFloat.lt v (.fin 0) = false
  battery_pct_range : ∀ v ∈ t.batteryPct, 0 ≤ v ∧ v ≤ 100
  current_finite : ∀ v ∈ t.currentA, v.isFinite = true

theorem valid_iff (t : Telemetry) : t.Valid ↔
    (∀ v ∈ t.batteryV, v.isFinite = true ∧ PyFloat.lt v (.fin 0) = false) ∧
      (∀ v ∈ t.batteryPct, 0 ≤ v ∧ v ≤ 100) ∧ ∀ v ∈ t.currentA, v.isFinite = true :=
  ⟨fun h ↦ ⟨h.1, h.2, h.3⟩, fun h ↦ ⟨h.1, h.2.1, h.2.2⟩⟩

instance (t : Telemetry) : Decidable t.Valid := decidable_of_iff' _ t.valid_iff

def dump (t : Telemetry) : Dict :=
  dumped "battery_v" .float t.batteryV ++ dumped "battery_pct" .int t.batteryPct ++
    dumped "current_a" .float t.currentA ++
      dumped "attitude" (fun a : Attitude ↦ .dict a.dump) t.attitude

/-- `Telemetry.model_validate`. -/
def modelValidate (pyd : Pydantic) : Value → Option Telemetry
  | .dict d => do
      let batteryV ← optional pyd.float (d.lookup "battery_v")
      let batteryPct ← optional pyd.int (d.lookup "battery_pct")
      let currentA ← optional pyd.float (d.lookup "current_a")
      let attitude ← optional (Attitude.modelValidate pyd) (d.lookup "attitude")
      let t : Telemetry := { batteryV, batteryPct, currentA, attitude }
      if t.Valid then some t else none
  | _ => none

/-- The fields of a dump. -/
theorem get?_dump (t : Telemetry) :
    Dict.get? t.dump "battery_v" = t.batteryV.map .float ∧
      Dict.get? t.dump "battery_pct" = t.batteryPct.map .int ∧
        Dict.get? t.dump "current_a" = t.currentA.map .float ∧
          Dict.get? t.dump "attitude" = t.attitude.map fun a ↦ .dict a.dump := by
  obtain ⟨batteryV, batteryPct, currentA, attitude⟩ := t
  cases batteryV <;> cases batteryPct <;> cases currentA <;> cases attitude <;>
    exact ⟨rfl, rfl, rfl, rfl⟩

/-- A valid telemetry block is accepted from its own dump. -/
theorem modelValidate_dump (pyd : Pydantic) {t : Telemetry} (h : t.Valid) :
    modelValidate pyd (.dict t.dump) = some t := by
  obtain ⟨hv, hpct, hcurrent, hattitude⟩ := t.get?_dump
  simp only [modelValidate, optional_of_get? (fun y _ ↦ pyd.float_float y) hv nofun,
    optional_of_get? (fun y _ ↦ pyd.int_int y) hpct nofun,
    optional_of_get? (fun y _ ↦ pyd.float_float y) hcurrent nofun,
    optional_of_get? (fun a _ ↦ Attitude.modelValidate_dump pyd a) hattitude nofun,
    Option.bind_eq_bind, Option.bind_some]
  exact if_pos h

/-- What is accepted is valid. -/
theorem valid_of_modelValidate {pyd : Pydantic} {v : Value} {t : Telemetry}
    (h : modelValidate pyd v = some t) : t.Valid := by
  cases v with
  | dict d =>
      obtain ⟨batteryV, -, h⟩ := Option.bind_eq_some_iff.mp h
      obtain ⟨batteryPct, -, h⟩ := Option.bind_eq_some_iff.mp h
      obtain ⟨currentA, -, h⟩ := Option.bind_eq_some_iff.mp h
      obtain ⟨attitude, -, h⟩ := Option.bind_eq_some_iff.mp h
      obtain ⟨hvalid, h⟩ := Option.ite_none_right_eq_some.mp h
      cases h
      exact hvalid
  | _ => cases h

/-- A dictionary holds a telemetry block. -/
structure HeldBy (t : Telemetry) (d : Dict) : Prop where
  battery_v : Dict.get? d "battery_v" = t.batteryV.map .float
  battery_pct : Dict.get? d "battery_pct" = t.batteryPct.map .int
  current : Dict.get? d "current_a" = t.currentA.map .float
  attitude : ∃ a, (Dict.getOr d "attitude" (.dict [])).entries = .ok a ∧
    (t.attitude.getD {}).HeldBy a

/-- An attitude without an angle is no attitude. -/
def pruned (t : Telemetry) : Telemetry :=
  if t.attitude = some {} then { t with attitude := none } else t

theorem Valid.pruned {t : Telemetry} (h : t.Valid) : t.pruned.Valid := by
  rw [Telemetry.pruned]
  split_ifs
  · exact ⟨h.1, h.2, h.3⟩
  · exact h

theorem valid_empty : ({} : Telemetry).Valid := ⟨nofun, nofun, nofun⟩

end Telemetry

/-! ## Detection -/

/-- `Detection`. -/
structure Detection where
  label : String
  confidence : PyFloat
  trackId : Option ℤ := none
  bearingDeg : Option PyFloat := none
deriving DecidableEq

namespace Detection

/-- The validators of `Detection`. -/
structure Valid (d : Detection) : Prop where
  confidence_range : d.confidence.isFinite = true ∧ PyFloat.le (.fin 0) d.confidence = true ∧
    PyFloat.le d.confidence (.fin 1) = true
  bearing_range : ∀ v ∈ d.bearingDeg, v.isFinite = true ∧ PyFloat.le (.fin 0) v = true ∧
    PyFloat.lt v (.fin 360) = true

theorem valid_iff (d : Detection) : d.Valid ↔
    (d.confidence.isFinite = true ∧ PyFloat.le (.fin 0) d.confidence = true ∧
      PyFloat.le d.confidence (.fin 1) = true) ∧
        ∀ v ∈ d.bearingDeg, v.isFinite = true ∧ PyFloat.le (.fin 0) v = true ∧
          PyFloat.lt v (.fin 360) = true :=
  ⟨fun h ↦ ⟨h.1, h.2⟩, fun h ↦ ⟨h.1, h.2⟩⟩

instance (d : Detection) : Decidable d.Valid := decidable_of_iff' _ d.valid_iff

def dump (d : Detection) : Dict :=
  [("label", .str d.label), ("confidence", .float d.confidence)] ++
    dumped "track_id" .int d.trackId ++ dumped "bearing_deg" .float d.bearingDeg

/-- `Detection.model_validate`. -/
def modelValidate (pyd : Pydantic) : Value → Option Detection
  | .dict d => do
      let label ← (d.lookup "label").bind pyd.str
      let confidence ← (d.lookup "confidence").bind pyd.float
      let trackId ← optional pyd.int (d.lookup "track_id")
      let bearingDeg ← optional pyd.float (d.lookup "bearing_deg")
      let det : Detection := { label, confidence, trackId, bearingDeg }
      if det.Valid then some det else none
  | _ => none

/-- A dictionary holds a detection. -/
structure HeldBy (det : Detection) (d : Dict) : Prop where
  label : d.lookup "label" = some (.str det.label)
  confidence : d.lookup "confidence" = some (.float det.confidence)
  track_id : Dict.get? d "track_id" = det.trackId.map .int
  bearing : Dict.get? d "bearing_deg" = det.bearingDeg.map .float

theorem heldBy_dump (d : Detection) : d.HeldBy d.dump := by
  obtain ⟨label, confidence, trackId, bearing⟩ := d
  constructor
  case track_id => cases trackId <;> cases bearing <;> rfl
  case bearing => cases trackId <;> cases bearing <;> rfl
  all_goals rfl

/-- A valid detection is accepted from its own dump. -/
theorem modelValidate_dump (pyd : Pydantic) {d : Detection} (h : d.Valid) :
    modelValidate pyd (.dict d.dump) = some d := by
  have hheld := d.heldBy_dump
  simp only [modelValidate, hheld.label, hheld.confidence, pyd.str_str, pyd.float_float,
    optional_of_get? (fun y _ ↦ pyd.int_int y) hheld.track_id nofun,
    optional_of_get? (fun y _ ↦ pyd.float_float y) hheld.bearing nofun, Option.bind_eq_bind,
    Option.bind_some]
  exact if_pos h

end Detection

end DroneComms.Mesh
