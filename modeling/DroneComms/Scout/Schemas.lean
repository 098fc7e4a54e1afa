import DroneComms.Cv.Geo

/-!
# The models of the scout pipeline

`scout/schemas.py`: a model carries what its validators checked.
-/

namespace DroneComms.Scout

open Py (PyFloat)

/-- What the scout pipeline raises. -/
inductive ScoutError where
  /-- `ValidationError`. -/
  | validation
  | math (e : Py.MathError)
  /-- `MeshSAError` of the detection codec, or an exception that escapes it. -/
  | codec
  /-- An exception of the sink. -/
  | sink
deriving DecidableEq, Repr

/-- `DETECTION_STATUSES`. -/
inductive DetectionStatus where
  | new
  | tagged
  | rejected
  | inspected
deriving DecidableEq, Repr

def DetectionStatus.text : DetectionStatus → String
  | new => "new"
  | tagged => "tagged"
  | rejected => "rejected"
  | inspected => "inspected"

/-- The status that a text names. -/
def DetectionStatus.ofText : String → Option DetectionStatus
  | "new" => some .new
  | "tagged" => some .tagged
  | "rejected" => some .rejected
  | "inspected" => some .inspected
  | _ => none

theorem DetectionStatus.text_of_ofText {status : String} {s : DetectionStatus}
    (h : ofText status = some s) : s.text = status := by
  unfold ofText at h
  split at h <;> cases h <;> rfl

/-- `_conf`: finite and in `[0, 1]`. -/
def ConfValid (v : PyFloat) : Prop :=
  v.isFinite = true ∧ PyFloat.le (.fin 0) v = true ∧ PyFloat.le v (.fin 1) = true

/-- `_lat`. -/
def LatValid (v : PyFloat) : Prop :=
  PyFloat.le (.fin (-90)) v = true ∧ PyFloat.le v (.fin 90) = true

/-- `_lon`. -/
def LonValid (v : PyFloat) : Prop :=
  PyFloat.le (.fin (-180)) v = true ∧ PyFloat.le v (.fin 180) = true

/-- `error_m must be a finite value >= 0`. -/
def ErrorValid (v : PyFloat) : Prop := v.isFinite = true ∧ PyFloat.lt v (.fin 0) = false

instance (v : PyFloat) : Decidable (ConfValid v) := inferInstanceAs (Decidable (_ ∧ _))

instance (v : PyFloat) : Decidable (LatValid v) := inferInstanceAs (Decidable (_ ∧ _))

instance (v : PyFloat) : Decidable (LonValid v) := inferInstanceAs (Decidable (_ ∧ _))

instance (v : PyFloat) : Decidable (ErrorValid v) := inferInstanceAs (Decidable (_ ∧ _))

theorem latValid_zero : LatValid (.fin 0) := by decide

theorem lonValid_zero : LonValid (.fin 0) := by decide

theorem confValid_one : ConfValid (.fin 1) := by decide

theorem errorValid_zero : ErrorValid (.fin 0) := by decide

theorem LatValid.exists_fin {v : PyFloat} (h : LatValid v) : ∃ q, v = .fin q ∧ |q| ≤ 90 := by
  obtain ⟨hlo, hhi⟩ := h
  cases v with
  | fin q => exact ⟨q, rfl, abs_le.mpr ⟨by simpa using hlo, by simpa using hhi⟩⟩
  | _ => simp [PyFloat.le] at hlo hhi

theorem LonValid.exists_fin {v : PyFloat} (h : LonValid v) : ∃ q, v = .fin q ∧ |q| ≤ 180 := by
  obtain ⟨hlo, hhi⟩ := h
  cases v with
  | fin q => exact ⟨q, rfl, abs_le.mpr ⟨by simpa using hlo, by simpa using hhi⟩⟩
  | _ => simp [PyFloat.le] at hlo hhi

/-- A box in the image, `(x1, y1)` top left and `(x2, y2)` bottom right. -/
structure BBox where
  x1 : PyFloat
  y1 : PyFloat
  x2 : PyFloat
  y2 : PyFloat
  finite : x1.isFinite = true ∧ y1.isFinite = true ∧ x2.isFinite = true ∧ y2.isFinite = true
  ordered : PyFloat.le x2 x1 = false ∧ PyFloat.le y2 y1 = false

namespace BBox

/-- The horizontal centre. -/
def cx (b : BBox) : PyFloat := (b.x1.add b.x2).div (.fin 2)

/-- The vertical centre. -/
def cy (b : BBox) : PyFloat := (b.y1.add b.y2).div (.fin 2)

end BBox

/-- The output of a detector. -/
structure PixelDetection where
  frameId : String
  ts : PyFloat
  bbox : BBox
  cls : String
  conf : PyFloat
  conf_valid : ConfValid conf
  ts_finite : ts.isFinite = true

/-- A georeferenced anomaly. -/
@[ext] structure GeoDetection where
  id : String
  lat : PyFloat
  lon : PyFloat
  cls : String
  conf : PyFloat
  errorM : PyFloat
  srcFrame : String
  ts : PyFloat
  status : DetectionStatus := .new
  blockId : Option String := none
  lat_valid : LatValid lat
  lon_valid : LonValid lon
  conf_valid : ConfValid conf
  error_valid : ErrorValid errorM
deriving DecidableEq

namespace GeoDetection

theorem conf_fin (d : GeoDetection) : ∃ q, d.conf = .fin q := by
  have h := d.conf_valid.1
  cases hconf : d.conf with
  | fin q => exact ⟨q, rfl⟩
  | _ => simp [hconf, PyFloat.isFinite] at h

/-- The validators of `GeoDetection` on the fix of a detection. -/
def FixValid (fix : Cv.GroundFix PyFloat) : Prop :=
  LatValid fix.lat ∧ LonValid fix.lon ∧ ErrorValid fix.ceM

instance (fix : Cv.GroundFix PyFloat) : Decidable (FixValid fix) :=
  inferInstanceAs (Decidable (_ ∧ _))

/-- `GeoDetection(id=…, lat=fix.lat, …)`. -/
def ofFix (id : String) (blockId : Option String) (det : PixelDetection)
    (fix : Cv.GroundFix PyFloat) : Except ScoutError GeoDetection :=
  if h : FixValid fix then
    .ok { id := id, lat := fix.lat, lon := fix.lon, cls := det.cls, conf := det.conf,
          errorM := fix.ceM, srcFrame := det.frameId, ts := det.ts, blockId := blockId,
          lat_valid := h.1, lon_valid := h.2.1, conf_valid := det.conf_valid,
          error_valid := h.2.2 }
  else .error .validation

theorem of_ofFix {id : String} {blockId : Option String} {det : PixelDetection}
    {fix : Cv.GroundFix PyFloat} {geo : GeoDetection} (h : ofFix id blockId det fix = .ok geo) :
    geo.id = id ∧ geo.status = .new ∧ geo.blockId = blockId := by
  by_cases hfix : FixValid fix
  · rw [ofFix, dif_pos hfix] at h
    cases h
    exact ⟨rfl, rfl, rfl⟩
  · rw [ofFix, dif_neg hfix] at h
    cases h

/-- `with_status`: the other fields are valid already. -/
def withStatus (d : GeoDetection) (status : String) : Except ScoutError GeoDetection :=
  match DetectionStatus.ofText status with
  | some s => .ok { d with status := s }
  | none => .error .validation

/-- A copy with a status that a model carries is valid. -/
@[simp] theorem withStatus_text (d : GeoDetection) (s : DetectionStatus) :
    d.withStatus s.text = .ok { d with status := s } := by
  cases s <;> rfl

end GeoDetection

end DroneComms.Scout
