import DroneComms.Mesh.CompactTrip
import DroneComms.Mesh.CotIdentity
import DroneComms.Mesh.Frames

/-!
# What the decoders let through

The four decoders under two contracts.  One is about exceptions: a frame becomes
an envelope or a `MeshSAError`.  The other is about positions: that of a track or
a marker passes the validators of `Position`.  Each is settled for every byte
string, with the frames that break it.
-/

namespace DroneComms.Mesh

open Py (PyFloat Value Dict PyError Element Interpreter ElementTree JsonReader FloatText Bytes)
open Wire (unpack toSigned getStr)
open Cot (escapes guarded guarded_eq_ok)
open Frames

namespace Decoding

/-! ## Exceptions that pass a guard -/

/-- A computation raises what `except (TypeError, ValueError)` lets through. -/
def Escaping {α : Type} (x : Except PyError α) : Prop :=
  ∃ e, x = .error e ∧ e ≠ .typeError ∧ e ≠ .valueError

/-- A computation raises. -/
def Failing {α : Type} (x : Except PyError α) : Prop := ∃ e, x = .error e

section Guards

variable {α β : Type} {x : Except PyError α} {f : α → Except PyError β}

theorem guarded_eq_other : guarded x = .error .other ↔ Escaping x := by
  constructor
  · intro h
    cases x with
    | ok a => cases h
    | error e =>
        refine ⟨e, rfl, ?_, ?_⟩
        · rintro rfl
          cases h
        · rintro rfl
          cases h
  · rintro ⟨e, rfl, htype, hvalue⟩
    cases e with
    | typeError => exact absurd rfl htype
    | valueError => exact absurd rfl hvalue
    | overflowError => rfl
    | attributeError => rfl
    | keyError => rfl

theorem escapes_eq_other : escapes x = .error .other ↔ Failing x := by
  constructor
  · intro h
    cases x with
    | ok a => cases h
    | error e => exact ⟨e, rfl⟩
  · rintro ⟨e, rfl⟩
    rfl

theorem escaping_bind :
    Escaping (x >>= f) ↔ Escaping x ∨ ∃ a, x = .ok a ∧ Escaping (f a) := by
  constructor
  · rintro ⟨e, he, hraised⟩
    rcases Py.bind_eq_error.mp he with hx | ⟨a, ha, hf⟩
    · exact .inl ⟨e, hx, hraised⟩
    · exact .inr ⟨a, ha, e, hf, hraised⟩
  · rintro (⟨e, hx, hraised⟩ | ⟨a, ha, e, hf, hraised⟩)
    · exact ⟨e, Py.bind_eq_error.mpr (.inl hx), hraised⟩
    · exact ⟨e, Py.bind_eq_error.mpr (.inr ⟨a, ha, hf⟩), hraised⟩

theorem failing_bind : Failing (x >>= f) ↔ Failing x ∨ ∃ a, x = .ok a ∧ Failing (f a) := by
  constructor
  · rintro ⟨e, he⟩
    rcases Py.bind_eq_error.mp he with hx | ⟨a, ha, hf⟩
    · exact .inl ⟨e, hx⟩
    · exact .inr ⟨a, ha, e, hf⟩
  · rintro (⟨e, hx⟩ | ⟨a, ha, e, hf⟩)
    · exact ⟨e, Py.bind_eq_error.mpr (.inl hx)⟩
    · exact ⟨e, Py.bind_eq_error.mpr (.inr ⟨a, ha, hf⟩)⟩

/-- A step in front of others that fail alike whatever it returns. -/
theorem failing_bind_of {next : Prop} (h : ∀ a, Failing (f a) ↔ next) :
    Failing (x >>= f) ↔ Failing x ∨ next := by
  rw [failing_bind]
  constructor
  · rintro (hx | ⟨a, -, hf⟩)
    · exact .inl hx
    · exact .inr ((h a).mp hf)
  · rintro (hx | hnext)
    · exact .inl hx
    · cases x with
      | error e => exact .inl ⟨e, rfl⟩
      | ok a => exact .inr ⟨a, rfl, (h a).mpr hnext⟩

theorem not_failing_ok (a : α) : ¬Failing (.ok a : Except PyError α) := by
  rintro ⟨e, he⟩
  cases he

/-- An exception is caught or escapes. -/
theorem guarded_eq_meshSA : guarded x = .error .meshSA ↔ Failing x ∧ ¬Escaping x := by
  cases x with
  | ok a =>
      refine iff_of_false nofun ?_
      rintro ⟨⟨e, he⟩, -⟩
      cases he
  | error e =>
      rw [← guarded_eq_other]
      cases e <;> simp [guarded, Failing]

/-- The handler raises if it cannot write the detail. -/
theorem logged_eq_other {et : ElementTree} {detail : Option Element} :
    Cot.logged et detail x = .error .other ↔
      Escaping x ∨ Failing x ∧ detail.all et.serializes = false := by
  unfold Cot.logged
  split
  next h =>
    obtain ⟨hfailing, hcaught⟩ := guarded_eq_meshSA.mp h
    rw [or_iff_right hcaught, and_iff_right hfailing]
    cases detail.all et.serializes <;> simp
  next h =>
    rw [guarded_eq_other]
    refine (or_iff_left_of_imp ?_).symm
    rintro ⟨hfailing, -⟩
    by_contra hcaught
    exact h (guarded_eq_meshSA.mpr ⟨hfailing, hcaught⟩)

theorem not_escaping_ok (a : α) : ¬Escaping (.ok a : Except PyError α) := by
  rintro ⟨e, he, -⟩
  cases he

/-- Nothing escapes from a sequence if nothing does from its parts. -/
theorem not_escaping_bind (hx : ¬Escaping x) (hf : ∀ a, ¬Escaping (f a)) :
    ¬Escaping (x >>= f) := by
  rw [escaping_bind]
  rintro (h | ⟨a, -, h⟩)
  · exact hx h
  · exact hf a h

theorem not_escaping_validated (o : Option α) : ¬Escaping (validated o) := by
  cases o with
  | some a => exact not_escaping_ok a
  | none =>
      rintro ⟨e, he, -, hvalue⟩
      cases he
      exact hvalue rfl

end Guards

/-! ## Numbers -/

/-- An integer that `float` refuses. -/
def Huge (v : Value) : Prop := ∃ n, v = .int n ∧ Py.floatLimit ≤ |n|

/-- A value that `float` converts. -/
def Floatable (text : FloatText) (v : Value) : Prop := ∃ x, Py.toFloat text v = .ok x

theorem escaping_toFloat {text : FloatText} {v : Value} :
    Escaping (Py.toFloat text v) ↔ Huge v := by
  constructor
  · rintro ⟨e, he, htype, hvalue⟩
    cases v with
    | int n =>
        refine ⟨n, rfl, ?_⟩
        by_contra hlt
        rw [Py.toFloat, Py.floatOfInt, if_neg hlt] at he
        cases he
    | str s =>
        rw [Py.toFloat] at he
        cases hs : text.ofStr s with
        | none =>
            rw [hs] at he
            cases he
            exact absurd rfl hvalue
        | some x =>
            rw [hs] at he
            cases he
    | bool b => cases he
    | float x => cases he
    | none =>
        cases he
        exact absurd rfl htype
    | list xs =>
        cases he
        exact absurd rfl htype
    | dict kvs =>
        cases he
        exact absurd rfl htype
  · rintro ⟨n, rfl, hn⟩
    refine ⟨.overflowError, ?_, nofun, nofun⟩
    rw [Py.toFloat, Py.floatOfInt, if_pos hn]

/-- A conversion that is followed by others. -/
theorem escaping_toFloat_bind {β : Type} {text : FloatText} {v : Value}
    {f : PyFloat → Except PyError β} {next : Prop}
    (h : ∀ x, Py.toFloat text v = .ok x → (Escaping (f x) ↔ next)) :
    Escaping (Py.toFloat text v >>= f) ↔ Huge v ∨ (Floatable text v ∧ next) := by
  rw [escaping_bind, escaping_toFloat]
  apply or_congr_right
  constructor
  · rintro ⟨x, hx, hf⟩
    exact ⟨⟨x, hx⟩, (h x hx).mp hf⟩
  · rintro ⟨⟨x, hx⟩, hnext⟩
    exact ⟨x, hx, (h x hx).mpr hnext⟩

/-- Of values that are converted in turn, the first that is no float is a huge integer,
or all are floats and something comes next. -/
def Overflows (text : FloatText) (next : Prop) : List Value → Prop
  | [] => next
  | v :: vs => Huge v ∨ (Floatable text v ∧ Overflows text next vs)

/-! ## Frames with a JSON object -/

/-- All of the required keys are in a frame. -/
def HasKeys (required : List String) (frame : Dict) : Prop :=
  ∀ k ∈ required, (frame.lookup k).isSome = true

theorem loadFrame_eq_ok {py : Interpreter} {json : JsonReader py} {required : List String}
    {bs : Bytes} {frame : Dict} : loadFrame json required bs = .ok frame ↔
      json.loadsBytes bs = some (.dict frame) ∧ HasKeys required frame := by
  unfold loadFrame
  split
  next frame' hload =>
    rw [hload]
    split_ifs with hkeys
    · constructor
      · intro h
        cases h
        exact ⟨rfl, hkeys⟩
      · rintro ⟨h, -⟩
        cases h
        rfl
    · constructor
      · intro h
        cases h
      · rintro ⟨h, hkeys'⟩
        cases h
        exact absurd hkeys' hkeys
  next hother =>
    constructor
    · intro h
      cases h
    · rintro ⟨h, -⟩
      exact absurd h (hother frame)

theorem loadFrame_ne_other {py : Interpreter} (json : JsonReader py) (required : List String)
    (bs : Bytes) : loadFrame json required bs ≠ .error .other := by
  unfold loadFrame
  split
  · split_ifs <;> exact nofun
  · exact nofun

/-- An item that is there. -/
theorem item_eq_ok {frame : Dict} {key : String} (h : (frame.lookup key).isSome = true) :
    item frame key = .ok (Dict.get frame key .none) := by
  obtain ⟨v, hv⟩ := Option.isSome_iff_exists.mp h
  rw [item, Dict.get, hv]
  rfl

theorem floatItem_eq {py : Interpreter} {frame : Dict} {key : String}
    (h : (frame.lookup key).isSome = true) :
    floatItem py frame key = Py.toFloat py.toFloatText (Dict.get frame key .none) := by
  rw [floatItem, item_eq_ok h]
  rfl

theorem validated_eq_ok {α : Type} {o : Option α} {a : α} (h : validated o = .ok a) :
    o = some a := by
  cases o with
  | none => cases h
  | some b =>
      cases h
      rfl

theorem checkedPosition_eq_ok {p q : Position} (h : checkedPosition p = .ok q) :
    p = q ∧ q.Valid := by
  obtain ⟨hvalid, hq⟩ := Option.ite_none_right_eq_some.mp (validated_eq_ok h)
  cases hq
  exact ⟨rfl, hvalid⟩

theorem checkedDetection_eq_ok {p q : Detection} (h : checkedDetection p = .ok q) :
    p = q ∧ q.Valid := by
  obtain ⟨hvalid, hq⟩ := Option.ite_none_right_eq_some.mp (validated_eq_ok h)
  cases hq
  exact ⟨rfl, hvalid⟩

/-- The models of a telemetry frame were checked, and its errors are filled in. -/
theorem telemetry_fields {py : Interpreter} {pyd : Pydantic} {frame : Dict}
    {f : TelemetryFrame.Fields} (h : TelemetryFrame.readFields py pyd frame = .ok f) :
    f.position.Valid ∧ (f.position.ce = unknownErrorM ∧ f.position.le = unknownErrorM) ∧
      ∀ t ∈ f.telemetry, t.Valid := by
  obtain ⟨src, -, h⟩ := Py.bind_eq_ok.mp h
  obtain ⟨msgId, -, h⟩ := Py.bind_eq_ok.mp h
  obtain ⟨ts, -, h⟩ := Py.bind_eq_ok.mp h
  obtain ⟨lat, -, h⟩ := Py.bind_eq_ok.mp h
  obtain ⟨lon, -, h⟩ := Py.bind_eq_ok.mp h
  obtain ⟨hae, -, h⟩ := Py.bind_eq_ok.mp h
  obtain ⟨course, -, h⟩ := Py.bind_eq_ok.mp h
  obtain ⟨speed, -, h⟩ := Py.bind_eq_ok.mp h
  obtain ⟨position, hposition, h⟩ := Py.bind_eq_ok.mp h
  obtain ⟨telemetry, htelemetry, h⟩ := Py.bind_eq_ok.mp h
  cases h
  obtain ⟨rfl, hvalid⟩ := checkedPosition_eq_ok hposition
  refine ⟨hvalid, ⟨rfl, rfl⟩, ?_⟩
  intro t ht
  obtain ⟨v, hv⟩ := exists_of_optional (validated_eq_ok htelemetry) t ht
  exact Telemetry.valid_of_modelValidate hv

/-- The models of a detection frame were checked, and a marker has neither course nor speed. -/
theorem detection_fields {py : Interpreter} {pyd : Pydantic} {frame : Dict}
    {f : DetectionFrame.Fields} (h : DetectionFrame.readFields py pyd frame = .ok f) :
    f.position.Valid ∧ (f.position.courseDeg = none ∧ f.position.speedMs = none) ∧
      f.detection.Valid := by
  obtain ⟨src, -, h⟩ := Py.bind_eq_ok.mp h
  obtain ⟨msgId, -, h⟩ := Py.bind_eq_ok.mp h
  obtain ⟨ts, -, h⟩ := Py.bind_eq_ok.mp h
  obtain ⟨lat, -, h⟩ := Py.bind_eq_ok.mp h
  obtain ⟨lon, -, h⟩ := Py.bind_eq_ok.mp h
  obtain ⟨hae, -, h⟩ := Py.bind_eq_ok.mp h
  obtain ⟨ce, -, h⟩ := Py.bind_eq_ok.mp h
  obtain ⟨le, -, h⟩ := Py.bind_eq_ok.mp h
  obtain ⟨position, hposition, h⟩ := Py.bind_eq_ok.mp h
  obtain ⟨label, -, h⟩ := Py.bind_eq_ok.mp h
  obtain ⟨confidence, -, h⟩ := Py.bind_eq_ok.mp h
  obtain ⟨trackId, -, h⟩ := Py.bind_eq_ok.mp h
  obtain ⟨bearing, -, h⟩ := Py.bind_eq_ok.mp h
  obtain ⟨detection, hdetection, h⟩ := Py.bind_eq_ok.mp h
  cases h
  obtain ⟨rfl, hvalid⟩ := checkedPosition_eq_ok hposition
  exact ⟨hvalid, ⟨rfl, rfl⟩, (checkedDetection_eq_ok hdetection).2⟩

/-- The numbers of a telemetry frame, in the order of their conversions. -/
def telemetryNumbers (frame : Dict) : List Value :=
  [Dict.get frame "ts" .none, Dict.get frame "lat" .none, Dict.get frame "lon" .none,
    Dict.get frame "hae" (.float (.fin 0))]

/-- The same for a detection frame, up to its position. -/
def detectionNumbers (frame : Dict) : List Value :=
  telemetryNumbers frame ++
    [Dict.get frame "ce" (.float unknownErrorM), Dict.get frame "le" (.float unknownErrorM)]

/-- A value is a number in a range of degrees. -/
def WithinDegrees (text : FloatText) (v : Value) (limit : ℚ) : Prop :=
  ∃ x, Py.toFloat text v = .ok x ∧ PyFloat.le (.fin (-limit)) x = true ∧
    PyFloat.le x (.fin limit) = true

theorem escaping_telemetry {py : Interpreter} {pyd : Pydantic} {frame : Dict}
    (h : HasKeys TelemetryFrame.required frame) :
    Escaping (TelemetryFrame.readFields py pyd frame) ↔
      Overflows py.toFloatText False (telemetryNumbers frame) := by
  have hkey : ∀ k ∈ TelemetryFrame.required, (frame.lookup k).isSome = true := h
  simp only [TelemetryFrame.required, List.forall_mem_cons] at hkey
  obtain ⟨hsrc, hmsgId, hts, hlat, hlon, -⟩ := hkey
  rw [TelemetryFrame.readFields, item_eq_ok hsrc, item_eq_ok hmsgId, floatItem_eq hts,
    floatItem_eq hlat, floatItem_eq hlon]
  refine escaping_toFloat_bind fun ts _ ↦ escaping_toFloat_bind fun lat _ ↦ ?_
  refine escaping_toFloat_bind fun lon _ ↦ escaping_toFloat_bind fun hae _ ↦ iff_false_intro ?_
  apply not_escaping_bind (not_escaping_validated _)
  intro course
  apply not_escaping_bind (not_escaping_validated _)
  intro speed
  apply not_escaping_bind (not_escaping_validated _)
  intro position
  apply not_escaping_bind (not_escaping_validated _)
  intro telemetry
  exact not_escaping_ok _

/-- A detection is refused beyond its position only for its confidence. -/
theorem escaping_detection {py : Interpreter} {pyd : Pydantic} {frame : Dict}
    (h : HasKeys DetectionFrame.required frame) :
    Escaping (DetectionFrame.readFields py pyd frame) ↔
      Overflows py.toFloatText
        (WithinDegrees py.toFloatText (Dict.get frame "lat" .none) 90 ∧
          WithinDegrees py.toFloatText (Dict.get frame "lon" .none) 180 ∧
            Huge (Dict.get frame "confidence" .none)) (detectionNumbers frame) := by
  have hkey : ∀ k ∈ DetectionFrame.required, (frame.lookup k).isSome = true := h
  simp only [DetectionFrame.required, List.forall_mem_cons] at hkey
  obtain ⟨hsrc, hmsgId, hts, hlat, hlon, hlabel, hconfidence, -⟩ := hkey
  rw [DetectionFrame.readFields, item_eq_ok hsrc, item_eq_ok hmsgId, floatItem_eq hts,
    floatItem_eq hlat, floatItem_eq hlon, item_eq_ok hlabel, floatItem_eq hconfidence]
  refine escaping_toFloat_bind fun ts _ ↦ escaping_toFloat_bind fun lat hlat ↦ ?_
  refine escaping_toFloat_bind fun lon hlon ↦ escaping_toFloat_bind fun hae _ ↦ ?_
  refine escaping_toFloat_bind fun ce _ ↦ escaping_toFloat_bind fun le _ ↦ ?_
  have htail : ∀ position : Position, ∀ confidence : PyFloat, ¬Escaping (do
      let trackId ← validated (optional pyd.int (frame.lookup "track_id"))
      let bearingDeg ← validated (optional pyd.float (frame.lookup "bearing_deg"))
      let detection ← checkedDetection
        { label := py.strOf (Dict.get frame "label" .none), confidence, trackId, bearingDeg }
      Except.ok (ε := PyError) (DetectionFrame.Fields.mk (py.strOf (Dict.get frame "src" .none))
        (py.strOf (Dict.get frame "msg_id" .none)) ts position detection)) := by
    intro position confidence
    apply not_escaping_bind (not_escaping_validated _)
    intro trackId
    apply not_escaping_bind (not_escaping_validated _)
    intro bearing
    apply not_escaping_bind (not_escaping_validated _)
    intro detection
    exact not_escaping_ok _
  constructor
  · intro hesc
    rcases escaping_bind.mp hesc with hpos | ⟨position, hposition, hesc⟩
    · exact absurd hpos (not_escaping_validated _)
    · have hvalid : ({ lat, lon, hae, ce, le } : Position).Valid := by
        by_contra hinvalid
        rw [checkedPosition, if_neg hinvalid] at hposition
        cases hposition
      refine ⟨⟨lat, hlat, hvalid.lat_range⟩, ⟨lon, hlon, hvalid.lon_range⟩, ?_⟩
      have hrest : Escaping (Py.toFloat py.toFloatText (Dict.get frame "confidence" .none) >>= _) :=
        hesc
      rcases escaping_bind.mp hrest with hconf | ⟨confidence, -, hesc⟩
      · exact escaping_toFloat.mp hconf
      · exact absurd hesc (htail position confidence)
  · rintro ⟨⟨lat', hlat', hlatRange⟩, ⟨lon', hlon', hlonRange⟩, hhuge⟩
    obtain rfl : lat = lat' := by simpa [hlat] using hlat'
    obtain rfl : lon = lon' := by simpa [hlon] using hlon'
    have hvalid : ({ lat, lon, hae, ce, le } : Position).Valid := by
      refine ⟨hlatRange, hlonRange, ?_, ?_⟩ <;> rintro v ⟨⟩
    have hposition : checkedPosition { lat, lon, hae, ce, le } =
        .ok { lat, lon, hae, ce, le } := checkedPosition_of_valid hvalid
    refine escaping_bind.mpr (.inr ⟨_, hposition, ?_⟩)
    show Escaping (Py.toFloat py.toFloatText (Dict.get frame "confidence" .none) >>= _)
    exact escaping_bind.mpr (.inl (escaping_toFloat.mpr hhuge))

/-! ## CoT events -/

/-- An attribute that is there is no text of a float. -/
def NonNumeric (py : Interpreter) (el : Element) (key : String) : Prop :=
  ∃ s, el.get key = some s ∧ py.ofStr s = none

/-- The attribute of an element that is read as a float. -/
theorem floatAttr_eq_ok {py : Interpreter} {el : Element} {key : String}
    (h : ¬NonNumeric py el key) : ∃ x, Cot.floatAttr py el key = .ok x := by
  cases hget : el.get key with
  | none => exact ⟨none, by rw [Cot.floatAttr, hget]⟩
  | some s =>
      cases hs : py.ofStr s with
      | none => exact absurd ⟨s, hget, hs⟩ h
      | some x =>
          refine ⟨some x, ?_⟩
          rw [Cot.floatAttr, hget]
          show (Py.floatOfStr py.toFloatText s).map some = _
          rw [Py.floatOfStr, hs]
          rfl

theorem floatAttr_eq_error {py : Interpreter} {el : Element} {key : String}
    (h : NonNumeric py el key) : Cot.floatAttr py el key = .error .valueError := by
  obtain ⟨s, hget, hs⟩ := h
  rw [Cot.floatAttr, hget]
  show (Py.floatOfStr py.toFloatText s).map some = _
  rw [Py.floatOfStr, hs]
  rfl

theorem not_escaping_floatOfStr (text : FloatText) (s : String) :
    ¬Escaping (Py.floatOfStr text s) := by
  rw [Py.floatOfStr]
  cases text.ofStr s with
  | some x => exact not_escaping_ok x
  | none =>
      rintro ⟨e, he, -, hvalue⟩
      cases he
      exact hvalue rfl

theorem not_escaping_floatAttr (py : Interpreter) (el : Element) (key : String) :
    ¬Escaping (Cot.floatAttr py el key) := by
  by_cases h : NonNumeric py el key
  · rw [floatAttr_eq_error h]
    rintro ⟨e, he, -, hvalue⟩
    cases he
    exact hvalue rfl
  · obtain ⟨x, hx⟩ := floatAttr_eq_ok h
    rw [hx]
    exact not_escaping_ok x

theorem not_escaping_intOfString (py : Interpreter) (s : String) :
    ¬Escaping (Py.intOfString py s) := by
  rw [Py.intOfString]
  cases py.intOfStr s with
  | some n => exact not_escaping_ok n
  | none =>
      rintro ⟨e, he, -, hvalue⟩
      cases he
      exact hvalue rfl

theorem failing_floatAttr {py : Interpreter} {el : Element} {key : String} :
    Failing (Cot.floatAttr py el key) ↔ NonNumeric py el key := by
  by_cases hkey : NonNumeric py el key
  · exact iff_of_true ⟨_, floatAttr_eq_error hkey⟩ hkey
  · obtain ⟨x, hx⟩ := floatAttr_eq_ok hkey
    rw [hx]
    exact iff_of_false (not_failing_ok x) hkey

/-- An attribute that is read in front of other steps. -/
theorem failing_floatAttr_bind {py : Interpreter} {el : Element} {key : String} {β : Type}
    {f : Option PyFloat → Except PyError β} {next : Prop} (h : ∀ x, Failing (f x) ↔ next) :
    Failing (Cot.floatAttr py el key >>= f) ↔ NonNumeric py el key ∨ next :=
  (failing_bind_of h).trans (or_congr_left failing_floatAttr)

/-- An element that is there has an attribute that is no number. -/
def BadAttr (py : Interpreter) (el : Element) (tag : String) (keys : List String) : Prop :=
  ∃ child, el.find tag = some child ∧ ∃ key ∈ keys, NonNumeric py child key

/-- The point of an event has a coordinate that is no number. -/
def BadPoint (py : Interpreter) (ev : Element) : Prop :=
  ∃ pt, ev.find "point" = some pt ∧ ∃ key ∈ ["lat", "lon", "hae", "ce", "le"], NonNumeric py pt key

theorem failing_decodePoint {py : Interpreter} {ev : Element} :
    Failing (Cot.decodePoint py (ev.find "point")) ↔ BadPoint py ev := by
  unfold BadPoint
  cases ev.find "point" with
  | none =>
      constructor
      · rintro ⟨e, he⟩
        cases he
      · rintro ⟨pt, hpt, -⟩
        cases hpt
  | some pt =>
      have hfails : Failing (Cot.decodePoint py (some pt)) ↔ NonNumeric py pt "lat" ∨
          NonNumeric py pt "lon" ∨ NonNumeric py pt "hae" ∨ NonNumeric py pt "ce" ∨
            NonNumeric py pt "le" ∨ False := by
        refine failing_floatAttr_bind fun lat ↦ failing_floatAttr_bind fun lon ↦ ?_
        refine failing_floatAttr_bind fun hae ↦ failing_floatAttr_bind fun ce ↦ ?_
        refine failing_floatAttr_bind fun le ↦ iff_false_intro ?_
        rintro ⟨e, he⟩
        cases he
      rw [hfails]
      simp

/-- The attributes of a track element that is there are numbers. -/
def NumericTrack (py : Interpreter) (naming : CotNaming) (detail : Element) : Prop :=
  ∀ track, detail.find naming.trackElement = some track →
    ¬NonNumeric py track "course" ∧ ¬NonNumeric py track "speed"

theorem decodeTrack_eq_ok {py : Interpreter} {naming : CotNaming} {detail : Element}
    (pos : Position) :
    (∃ pos', Cot.decodeTrack py naming detail pos = .ok pos') ↔ NumericTrack py naming detail := by
  unfold Cot.decodeTrack NumericTrack
  cases detail.find naming.trackElement with
  | none => exact iff_of_true ⟨pos, rfl⟩ nofun
  | some track =>
      constructor
      · rintro ⟨pos', h⟩
        obtain ⟨course, hcourse, h⟩ := Py.bind_eq_ok.mp h
        obtain ⟨speed, hspeed, -⟩ := Py.bind_eq_ok.mp h
        rintro _ ⟨⟩
        constructor
        · intro hbad
          rw [floatAttr_eq_error hbad] at hcourse
          cases hcourse
        · intro hbad
          rw [floatAttr_eq_error hbad] at hspeed
          cases hspeed
      · intro h
        obtain ⟨hcourse, hspeed⟩ := h track rfl
        obtain ⟨course, hcourse⟩ := floatAttr_eq_ok hcourse
        obtain ⟨speed, hspeed⟩ := floatAttr_eq_ok hspeed
        exact ⟨_, Py.bind_eq_ok.mpr ⟨course, hcourse, Py.bind_eq_ok.mpr ⟨speed, hspeed, rfl⟩⟩⟩

theorem not_escaping_decodeTrack (py : Interpreter) (naming : CotNaming) (detail : Element)
    (pos : Position) : ¬Escaping (Cot.decodeTrack py naming detail pos) := by
  unfold Cot.decodeTrack
  cases detail.find naming.trackElement with
  | none => exact not_escaping_ok pos
  | some track =>
      apply not_escaping_bind (not_escaping_floatAttr py track "course")
      intro course
      apply not_escaping_bind (not_escaping_floatAttr py track "speed")
      intro speed
      exact not_escaping_ok _

theorem failing_decodeTrack {py : Interpreter} {naming : CotNaming} {detail : Element}
    (pos : Position) :
    Failing (Cot.decodeTrack py naming detail pos) ↔ ¬NumericTrack py naming detail := by
  rw [← decodeTrack_eq_ok pos]
  cases Cot.decodeTrack py naming detail pos with
  | ok pos' => exact iff_of_false (not_failing_ok pos') fun h ↦ h ⟨pos', rfl⟩
  | error e =>
      refine iff_of_true ⟨e, rfl⟩ ?_
      rintro ⟨pos', hpos'⟩
      cases hpos'

/-- The battery attribute of a detail is infinite. -/
def InfiniteBattery (py : Interpreter) (naming : CotNaming) (detail : Element) : Prop :=
  ∃ status s, detail.find naming.statusElement = some status ∧
    status.get naming.batteryAttr = some s ∧ (py.ofStr s = some .posInf ∨ py.ofStr s = some .negInf)

theorem escaping_intOfFloat {x : PyFloat} :
    Escaping (Py.intOfFloat x) ↔ x = .posInf ∨ x = .negInf := by
  cases x with
  | nan =>
      constructor
      · rintro ⟨e, he, -, hvalue⟩
        cases he
        exact absurd rfl hvalue
      · rintro (h | h) <;> cases h
  | posInf => exact iff_of_true ⟨.overflowError, rfl, nofun, nofun⟩ (.inl rfl)
  | negInf => exact iff_of_true ⟨.overflowError, rfl, nofun, nofun⟩ (.inr rfl)
  | fin q =>
      refine iff_of_false (not_escaping_ok _) ?_
      rintro (h | h) <;> cases h

theorem escaping_batteryAttr {py : Interpreter} {naming : CotNaming} {detail : Element} :
    Escaping (Cot.batteryAttr py naming detail) ↔ InfiniteBattery py naming detail := by
  unfold Cot.batteryAttr InfiniteBattery
  cases detail.find naming.statusElement with
  | none =>
      refine iff_of_false (not_escaping_ok _) ?_
      rintro ⟨status, s, hstatus, -⟩
      cases hstatus
  | some status =>
      rw [Option.bind_some]
      cases hget : status.get naming.batteryAttr with
      | none =>
          refine iff_of_false (not_escaping_ok _) ?_
          rintro ⟨_, s, ⟨⟩, hs, -⟩
          rw [hget] at hs
          cases hs
      | some s =>
          constructor
          · intro h
            rcases escaping_bind.mp h with h | ⟨x, hx, h⟩
            · exact absurd h (not_escaping_floatOfStr _ s)
            · refine ⟨status, s, rfl, hget, ?_⟩
              have hs : py.ofStr s = some x := by
                rw [Py.floatOfStr] at hx
                cases hs : py.ofStr s with
                | none =>
                    rw [hs] at hx
                    cases hx
                | some x' =>
                    rw [hs] at hx
                    cases hx
                    rfl
              rcases escaping_bind.mp h with h | ⟨n, -, h⟩
              · rw [hs]
                rcases escaping_intOfFloat.mp h with rfl | rfl
                · exact .inl rfl
                · exact .inr rfl
              · exact absurd h (not_escaping_ok _)
          · rintro ⟨_, s', ⟨⟩, hs', hinf⟩
            rw [hget] at hs'
            cases hs'
            have hfloat : ∀ x, py.ofStr s = some x → Py.floatOfStr py.toFloatText s = .ok x := by
              intro x hx
              rw [Py.floatOfStr, hx]
              rfl
            rcases hinf with hinf | hinf
            · refine escaping_bind.mpr (.inr ⟨_, hfloat _ hinf, escaping_bind.mpr (.inl ?_)⟩)
              exact escaping_intOfFloat.mpr (.inl rfl)
            · refine escaping_bind.mpr (.inr ⟨_, hfloat _ hinf, escaping_bind.mpr (.inl ?_)⟩)
              exact escaping_intOfFloat.mpr (.inr rfl)

/-- The battery attribute of a detail is not a finite number. -/
def BadBattery (py : Interpreter) (naming : CotNaming) (detail : Element) : Prop :=
  ∃ status s, detail.find naming.statusElement = some status ∧
    status.get naming.batteryAttr = some s ∧ ∀ q, py.ofStr s ≠ some (.fin q)

theorem failing_batteryAttr {py : Interpreter} {naming : CotNaming} {detail : Element} :
    Failing (Cot.batteryAttr py naming detail) ↔ BadBattery py naming detail := by
  unfold Cot.batteryAttr BadBattery
  split
  next hnone =>
    refine iff_of_false (not_failing_ok none) ?_
    rintro ⟨status, s, hstatus, hs, -⟩
    rw [hstatus, Option.bind_some, hs] at hnone
    cases hnone
  next s hsome =>
    obtain ⟨status, hstatus, hs⟩ := Option.bind_eq_some_iff.mp hsome
    have hbad : (∃ status s, detail.find naming.statusElement = some status ∧
        status.get naming.batteryAttr = some s ∧ ∀ q, py.ofStr s ≠ some (.fin q)) ↔
          ∀ q, py.ofStr s ≠ some (.fin q) := by
      constructor
      · rintro ⟨status', s', hstatus', hs', h⟩
        rw [hstatus] at hstatus'
        cases hstatus'
        rw [hs] at hs'
        cases hs'
        exact h
      · exact fun h ↦ ⟨status, s, hstatus, hs, h⟩
    rw [hbad, Py.floatOfStr]
    cases py.ofStr s with
    | none => exact iff_of_true ⟨_, rfl⟩ nofun
    | some x =>
        cases x with
        | fin q => exact iff_of_false (not_failing_ok _) fun h ↦ h q rfl
        | nan | posInf | negInf => exact iff_of_true ⟨_, rfl⟩ nofun

/-- A conversion of a detail fails. -/
def Malformed (py : Interpreter) (naming : CotNaming) (detail : Element) : Prop :=
  ¬NumericTrack py naming detail ∨ BadBattery py naming detail ∨
    BadAttr py detail naming.vendorElement ["battery_v", "current_a"] ∨
      BadAttr py detail naming.attitudeElement ["roll", "pitch", "yaw"]

theorem failing_decodeStatusAndVendor {py : Interpreter} {naming : CotNaming} {detail : Element} :
    Failing (Cot.decodeStatusAndVendor py naming detail) ↔ BadBattery py naming detail ∨
      BadAttr py detail naming.vendorElement ["battery_v", "current_a"] := by
  rw [← failing_batteryAttr]
  refine failing_bind_of fun pct ↦ ?_
  unfold BadAttr
  cases detail.find naming.vendorElement with
  | none => exact iff_of_false (not_failing_ok _) nofun
  | some vendor =>
      refine (failing_floatAttr_bind fun batteryV ↦ failing_floatAttr_bind fun currentA ↦
        iff_false_intro (not_failing_ok _)).trans ?_
      simp

theorem failing_decodeAttitude {py : Interpreter} {naming : CotNaming} {detail : Element}
    {telemetry : Telemetry} : Failing (Cot.decodeAttitude py naming detail telemetry) ↔
      BadAttr py detail naming.attitudeElement ["roll", "pitch", "yaw"] := by
  unfold Cot.decodeAttitude BadAttr
  cases detail.find naming.attitudeElement with
  | none => exact iff_of_false (not_failing_ok _) nofun
  | some attitude =>
      refine (failing_floatAttr_bind fun roll ↦ failing_floatAttr_bind fun pitch ↦
        failing_floatAttr_bind fun yaw ↦ iff_false_intro (not_failing_ok _)).trans ?_
      simp

theorem failing_decodeRicherDetail {py : Interpreter} {naming : CotNaming}
    {detail : Option Element} {pos : Position} :
    Failing (Cot.decodeRicherDetail py naming detail pos) ↔
      ∃ d, detail = some d ∧ Malformed py naming d := by
  cases detail with
  | none => exact iff_of_false (not_failing_ok _) nofun
  | some d =>
      have hfails : Failing (Cot.decodeRicherDetail py naming (some d) pos) ↔
          Malformed py naming d := by
        rw [Malformed, ← failing_decodeTrack pos]
        refine failing_bind_of fun pos' ↦ ?_
        rw [← or_assoc, ← failing_decodeStatusAndVendor]
        refine failing_bind_of fun telemetry ↦ ?_
        refine (failing_bind_of fun telemetry' ↦ iff_false_intro (not_failing_ok _)).trans ?_
        rw [or_false, failing_decodeAttitude]
      simp [hfails]

theorem escaping_decodeStatusAndVendor {py : Interpreter} {naming : CotNaming}
    {detail : Element} : Escaping (Cot.decodeStatusAndVendor py naming detail) ↔
      InfiniteBattery py naming detail := by
  rw [Cot.decodeStatusAndVendor, escaping_bind, escaping_batteryAttr]
  refine or_iff_left ?_
  rintro ⟨pct, -, h⟩
  split at h
  · exact not_escaping_ok _ h
  next vendor _ =>
    refine not_escaping_bind (not_escaping_floatAttr py vendor "battery_v") ?_ h
    intro batteryV
    apply not_escaping_bind (not_escaping_floatAttr py vendor "current_a")
    intro currentA
    exact not_escaping_ok _

theorem not_escaping_decodeAttitude (py : Interpreter) (naming : CotNaming) (detail : Element)
    (telemetry : Telemetry) : ¬Escaping (Cot.decodeAttitude py naming detail telemetry) := by
  unfold Cot.decodeAttitude
  cases detail.find naming.attitudeElement with
  | none => exact not_escaping_ok telemetry
  | some attitude =>
      apply not_escaping_bind (not_escaping_floatAttr py attitude "roll")
      intro roll
      apply not_escaping_bind (not_escaping_floatAttr py attitude "pitch")
      intro pitch
      apply not_escaping_bind (not_escaping_floatAttr py attitude "yaw")
      intro yaw
      exact not_escaping_ok _

/-- The track is read first, so an infinite battery is met only behind numbers. -/
theorem escaping_decodeRicherDetail {py : Interpreter} {naming : CotNaming}
    {detail : Option Element} {pos : Position} :
    Escaping (Cot.decodeRicherDetail py naming detail pos) ↔
      ∃ d, detail = some d ∧ NumericTrack py naming d ∧ InfiniteBattery py naming d := by
  cases detail with
  | none =>
      refine iff_of_false (not_escaping_ok _) ?_
      rintro ⟨d, hd, -⟩
      cases hd
  | some detail =>
      constructor
      · intro h
        refine ⟨detail, rfl, ?_⟩
        rcases escaping_bind.mp h with h | ⟨pos', hpos', h⟩
        · exact absurd h (not_escaping_decodeTrack py naming detail pos)
        · refine ⟨(decodeTrack_eq_ok pos).mp ⟨pos', hpos'⟩, ?_⟩
          rcases escaping_bind.mp h with h | ⟨telemetry, -, h⟩
          · exact escaping_decodeStatusAndVendor.mp h
          · refine absurd h (not_escaping_bind ?_ fun telemetry' ↦ not_escaping_ok _)
            exact not_escaping_decodeAttitude py naming detail telemetry
      · rintro ⟨_, ⟨⟩, htrack, hbattery⟩
        obtain ⟨pos', hpos'⟩ := (decodeTrack_eq_ok pos).mpr htrack
        refine escaping_bind.mpr (.inr ⟨pos', hpos', escaping_bind.mpr (.inl ?_)⟩)
        exact escaping_decodeStatusAndVendor.mpr hbattery

theorem not_escaping_decodeDetection (py : Interpreter) (naming : CotNaming)
    (detail : Option Element) : ¬Escaping (Cot.decodeDetection py naming detail) := by
  unfold Cot.decodeDetection
  split
  · exact not_escaping_ok none
  next el _ =>
    split
    · exact not_escaping_ok none
    next conf _ =>
      apply not_escaping_bind (not_escaping_floatOfStr _ conf)
      intro confidence
      apply not_escaping_bind
      · unfold Cot.trackIdAttr
        split
        · exact not_escaping_ok none
        next s _ =>
          cases hs : Py.intOfString py s with
          | ok n => exact not_escaping_ok _
          | error e =>
              rintro ⟨e', he', hraised⟩
              cases he'
              exact not_escaping_intOfString py s ⟨e, hs, hraised⟩
      · intro trackId
        apply not_escaping_bind (not_escaping_floatAttr py el "bearing_deg")
        intro bearing
        dsimp only
        split_ifs
        · exact not_escaping_ok _
        · rintro ⟨e, he, -, hvalue⟩
          cases he
          exact hvalue rfl

/-- An event is a chat. -/
def IsChatType (etype : String) : Prop :=
  startswith etype "b-t-f" = true ∨ startswith etype "b.t.f" = true

/-- A detail whose conversion raises something else than a `MeshSAError`. -/
def BadDetail (py : Interpreter) (et : ElementTree) (naming : CotNaming) (detail : Element) : Prop :=
  NumericTrack py naming detail ∧ InfiniteBattery py naming detail ∨
    Malformed py naming detail ∧ et.serializes detail = false

theorem richerDetail_eq_other {py : Interpreter} {et : ElementTree} {naming : CotNaming}
    {detail : Option Element} {pos : Position} :
    Cot.logged et detail (Cot.decodeRicherDetail py naming detail pos) = .error .other ↔
      ∃ d, detail = some d ∧ BadDetail py et naming d := by
  rw [logged_eq_other, escaping_decodeRicherDetail, failing_decodeRicherDetail]
  cases detail <;> simp [BadDetail]

/-- What escapes from the decoder of a track or a marker. -/
theorem decodeTrackEvent_eq_other {py : Interpreter} {et : ElementTree} {naming : CotNaming}
    {e : Cot.Event} : Cot.decodeTrackEvent py et naming e = .error .other ↔
      BadPoint py e.ev ∨ ∃ d, e.ev.find "detail" = some d ∧ BadDetail py et naming d := by
  rw [Cot.decodeTrackEvent, Py.bind_eq_error, escapes_eq_other, failing_decodePoint]
  by_cases hbad : BadPoint py e.ev
  · exact iff_of_true (.inl hbad) (.inl hbad)
  · rw [or_iff_right hbad, or_iff_right hbad]
    constructor
    · rintro ⟨pos, -, h⟩
      rcases Py.bind_eq_error.mp h with h | ⟨track, -, h⟩
      · exact richerDetail_eq_other.mp h
      · exfalso
        rcases Py.bind_eq_error.mp h with h | ⟨⟨pos', telemetry⟩, -, h⟩
        · unfold Cot.validatedTrack at h
          split_ifs at h
          cases h
        · rcases Py.bind_eq_error.mp h with h | ⟨detection, -, h⟩
          · unfold Cot.detectionOf at h
            split_ifs at h
            · exact not_escaping_decodeDetection _ _ _ (guarded_eq_other.mp h)
          · cases h
    · intro h
      cases hpos : Cot.decodePoint py (e.ev.find "point") with
      | error err => exact absurd (failing_decodePoint.mp ⟨err, hpos⟩) hbad
      | ok pos =>
          refine ⟨pos, rfl, Py.bind_eq_error.mpr (.inl ?_)⟩
          exact richerDetail_eq_other.mpr h

/-! ## Compact frames -/

/-- A frame of a supported schema with a header, and what is behind the header. -/
def HasHeader (b : Bytes) (kind : MessageKind) (sourceUid : String) (rest : Bytes) : Prop :=
  ∃ schema bs ts msgId, b = schema :: bs ∧ (schema.toNat : ℤ) ∈ supportedSchemas ∧
    Compact.readHeader bs = some (kind, ts, sourceUid, msgId, rest)

/-- A frame of the kind with a JSON payload has one that is no object. -/
def NoObject {py : Interpreter} (json : JsonReader py) (b : Bytes) : Prop :=
  ∃ sourceUid rest v, HasHeader b .status sourceUid rest ∧
    Compact.readJson json rest = some v ∧ ∀ d, v ≠ .dict d

/-- A complete frame of a kind with a position, and its integers. -/
def Carries (b : Bytes) (fix : Compact.Fix) : Prop :=
  ∃ kind sourceUid rest rest' callsign tierIdx rest'', HasHeader b kind sourceUid rest ∧
    (kind = .pli ∨ kind = .marker) ∧ Compact.readFix rest = some (fix, rest') ∧
      getStr rest' = some (callsign, tierIdx :: rest'') ∧ tierIdx.toNat < Compact.tiers.length

/-- The payload of a frame with a position. -/
def fixPayload (sourceUid callsign tier : String) (fix : Compact.Fix) : Dict :=
  [("node", .dict [("uid", .str sourceUid), ("callsign", .str callsign), ("tier", .str tier)]),
    ("position", .dict fix.position.dump)]

section Compact

variable {py : Interpreter} {json : JsonReader py} {b : Bytes}

theorem readPosition_eq_some {sourceUid : String} {rest : Bytes} {v : Value} :
    Compact.readPosition sourceUid rest = some v ↔ ∃ fix rest' callsign tierIdx rest'' tier,
      Compact.readFix rest = some (fix, rest') ∧
        getStr rest' = some (callsign, tierIdx :: rest'') ∧
          Compact.tiers[tierIdx.toNat]? = some tier ∧
            v = .dict (fixPayload sourceUid callsign tier fix) := by
  constructor
  · intro h
    obtain ⟨⟨fix, rest'⟩, hfix, h⟩ := Option.bind_eq_some_iff.mp h
    obtain ⟨⟨callsign, bs⟩, hcallsign, h⟩ := Option.bind_eq_some_iff.mp h
    obtain ⟨tierIdx, hhead, h⟩ := Option.bind_eq_some_iff.mp h
    obtain ⟨tier, htier, h⟩ := Option.bind_eq_some_iff.mp h
    cases h
    obtain ⟨rest'', rfl⟩ := List.head?_eq_some_iff.mp hhead
    exact ⟨fix, rest', callsign, tierIdx, rest'', tier, hfix, hcallsign, htier, rfl⟩
  · rintro ⟨fix, rest', callsign, tierIdx, rest'', tier, hfix, hcallsign, htier, rfl⟩
    refine Option.bind_eq_some_iff.mpr ⟨_, hfix, ?_⟩
    refine Option.bind_eq_some_iff.mpr ⟨_, hcallsign, ?_⟩
    refine Option.bind_eq_some_iff.mpr ⟨tierIdx, rfl, ?_⟩
    exact Option.bind_eq_some_iff.mpr ⟨tier, htier, rfl⟩

/-- A frame is read as far as its envelope. -/
theorem readFields_eq_some {bs : Bytes} {f : Compact.Fields} :
    Compact.readFields json bs = some f ↔ ∃ rest,
      Compact.readHeader bs = some (f.kind, f.ts, f.sourceUid, f.msgId, rest) ∧
        Compact.readBody json f.kind f.sourceUid rest = some f.payload := by
  constructor
  · intro h
    obtain ⟨⟨kind, ts, sourceUid, msgId, rest⟩, hheader, h⟩ := Option.bind_eq_some_iff.mp h
    obtain ⟨payload, hbody, h⟩ := Option.bind_eq_some_iff.mp h
    cases h
    exact ⟨rest, hheader, hbody⟩
  · rintro ⟨rest, hheader, hbody⟩
    refine Option.bind_eq_some_iff.mpr ⟨_, hheader, ?_⟩
    exact Option.bind_eq_some_iff.mpr ⟨f.payload, hbody, rfl⟩

/-- Only a payload of JSON may be no object. -/
theorem readBody_dict {kind : MessageKind} {sourceUid : String} {rest : Bytes} {v : Value}
    (h : Compact.readBody json kind sourceUid rest = some v) (hkind : kind ≠ .status) :
    ∃ d, v = .dict d := by
  have hposition : Compact.readPosition sourceUid rest = some v → ∃ d, v = .dict d := by
    intro h
    obtain ⟨fix, rest', callsign, tierIdx, rest'', tier, -, -, -, rfl⟩ :=
      readPosition_eq_some.mp h
    exact ⟨_, rfl⟩
  cases kind with
  | pli => exact hposition h
  | marker => exact hposition h
  | chat =>
      obtain ⟨text, room, rfl, -, -⟩ := Compact.readChat_cases h
      exact ⟨_, rfl⟩
  | status => exact absurd rfl hkind

theorem envelope_eq_other {schema : ℤ} {f : Compact.Fields} :
    f.envelope schema = .error .other ↔ ∀ d, f.payload ≠ .dict d := by
  unfold Compact.Fields.envelope
  split
  next d hd =>
    refine iff_of_false nofun ?_
    intro h
    exact h d hd
  next hother => exact iff_of_true rfl hother

theorem compact_eq_other :
    Compact.decode json supportedSchemas b = .error .other ↔ NoObject json b := by
  constructor
  · intro h
    rcases Compact.decode_cases h with h | h | ⟨schema, bs, f, rfl, hschema, hf, h⟩
    · cases h
    · cases h
    · obtain ⟨rest, hheader, hbody⟩ := readFields_eq_some.mp hf
      have hother := envelope_eq_other.mp h.symm
      have hkind : f.kind = .status := by
        by_contra hkind
        obtain ⟨d, hd⟩ := readBody_dict hbody hkind
        exact hother d hd
      rw [hkind] at hheader hbody
      exact ⟨f.sourceUid, rest, f.payload, ⟨schema, bs, f.ts, f.msgId, rfl, hschema, hheader⟩,
        hbody, hother⟩
  · rintro ⟨sourceUid, rest, v, ⟨schema, bs, ts, msgId, rfl, hschema, hheader⟩, hbody, hother⟩
    have hfields : Compact.readFields json bs = some ⟨.status, ts, sourceUid, msgId, v⟩ :=
      readFields_eq_some.mpr ⟨rest, hheader, hbody⟩
    rw [Compact.decode_cons hschema hfields]
    exact envelope_eq_other.mpr hother

/-- A frame with a position is accepted, and the position is that of its integers. -/
theorem compact_eq_ok_of_carries (json : JsonReader py) {fix : Compact.Fix} (h : Carries b fix) :
    ∃ e, Compact.decode json supportedSchemas b = .ok e ∧ (e.kind = .pli ∨ e.kind = .marker) ∧
      e.payload.lookup "position" = some (.dict fix.position.dump) := by
  obtain ⟨kind, sourceUid, rest, rest', callsign, tierIdx, rest'', hheader, hkind, hfix, hcallsign,
    htier⟩ := h
  obtain ⟨schema, bs, ts, msgId, rfl, hschema, hheader⟩ := hheader
  let payload := fixPayload sourceUid callsign (Compact.tiers.get ⟨tierIdx.toNat, htier⟩) fix
  have hread : Compact.readPosition sourceUid rest = some (.dict payload) :=
    readPosition_eq_some.mpr ⟨fix, rest', callsign, tierIdx, rest'', _, hfix, hcallsign,
      List.getElem?_eq_getElem htier, rfl⟩
  have hbody : Compact.readBody json kind sourceUid rest = some (.dict payload) := by
    rcases hkind with rfl | rfl
    · exact hread
    · exact hread
  have hfields : Compact.readFields json bs = some ⟨kind, ts, sourceUid, msgId, .dict payload⟩ :=
    readFields_eq_some.mpr ⟨rest, hheader, hbody⟩
  refine ⟨⟨schema.toNat, msgId, .fin ts, sourceUid, kind, payload⟩, ?_, hkind, rfl⟩
  rw [Compact.decode_cons hschema hfields]
  rfl

/-- An accepted frame of a kind with a position carries integers for it. -/
theorem carries_of_compact_eq_ok {e : Envelope}
    (h : Compact.decode json supportedSchemas b = .ok e) (hkind : e.kind = .pli ∨ e.kind = .marker) :
    ∃ fix, Carries b fix ∧ e.payload.lookup "position" = some (.dict fix.position.dump) := by
  rcases Compact.decode_cases h with h | h | ⟨schema, bs, f, rfl, hschema, hf, h⟩
  · cases h
  · cases h
  · obtain ⟨rest, hheader, hbody⟩ := readFields_eq_some.mp hf
    unfold Compact.Fields.envelope at h
    split at h
    next d hd =>
      cases h
      have hread : Compact.readPosition f.sourceUid rest = some (.dict d) := by
        have hkind' : f.kind = .pli ∨ f.kind = .marker := hkind
        rw [hd] at hbody
        rcases hkind' with hkind' | hkind'
        · rw [hkind'] at hbody
          exact hbody
        · rw [hkind'] at hbody
          exact hbody
      obtain ⟨fix, rest', callsign, tierIdx, rest'', tier, hfix, hcallsign, htier, hd⟩ :=
        readPosition_eq_some.mp hread
      cases hd
      refine ⟨fix, ⟨f.kind, f.sourceUid, rest, rest', callsign, tierIdx, rest'', ?_, hkind, hfix,
        hcallsign, (List.getElem?_eq_some_iff.mp htier).1⟩, rfl⟩
      exact ⟨schema, bs, f.ts, f.msgId, rfl, hschema, hheader⟩
    next => cases h

end Compact

/-! ## The two contracts -/

/-- The codecs that decode what a peer sent. -/
inductive Format where
  | compact
  | cot
  | telemetry
  | detection
deriving DecidableEq

section Contracts

variable (py : Interpreter) (et : ElementTree) (json : JsonReader py) (pyd : Pydantic)

/-- The codec of a format, with its default settings. -/
def codecOf : Format → Codec Bytes
  | .compact => compactCodec py json
  | .cot => cotCodec py et
  | .telemetry => telemetryCodec py json pyd
  | .detection => detectionCodec py json pyd

/-- A decoder returns an envelope or raises a `MeshSAError`. -/
def HonoursErrors (codec : Codec Bytes) (b : Bytes) : Prop :=
  match codec.decode b with
  | .ok _ => True
  | .error e => e = .meshSA ∨ e = .incompatibleSchema

theorem honoursErrors_iff {codec : Codec Bytes} {b : Bytes} :
    HonoursErrors codec b ↔ codec.decode b ≠ .error .other := by
  unfold HonoursErrors
  cases codec.decode b with
  | ok e => exact iff_of_true trivial nofun
  | error e =>
      cases e with
      | incompatibleSchema => exact iff_of_true (.inr rfl) nofun
      | meshSA => exact iff_of_true (.inl rfl) nofun
      | other =>
          refine iff_of_false ?_ fun h ↦ h rfl
          rintro (h | h) <;> cases h

/-- The frames of a format that raise something else. -/
def Breaks (b : Bytes) : Format → Prop
  | .compact => NoObject json b
  | .cot => ∃ e, Cot.parseEvent py et b = some e ∧ ¬IsChatType e.etype ∧
      (BadPoint py e.ev ∨ ∃ d, e.ev.find "detail" = some d ∧ BadDetail py et {} d)
  | .telemetry => ∃ frame, json.loadsBytes b = some (.dict frame) ∧
      HasKeys TelemetryFrame.required frame ∧
        Overflows py.toFloatText False (telemetryNumbers frame)
  | .detection => ∃ frame, json.loadsBytes b = some (.dict frame) ∧
      HasKeys DetectionFrame.required frame ∧
        Overflows py.toFloatText
          (WithinDegrees py.toFloatText (Dict.get frame "lat" .none) 90 ∧
            WithinDegrees py.toFloatText (Dict.get frame "lon" .none) 180 ∧
              Huge (Dict.get frame "confidence" .none)) (detectionNumbers frame)

theorem cot_eq_other {b : Bytes} :
    Cot.decodeEvent py et {} b = .error .other ↔ Breaks py et json b .cot := by
  rw [Breaks]
  unfold Cot.decodeEvent
  cases Cot.parseEvent py et b with
  | none =>
      refine iff_of_false nofun ?_
      rintro ⟨e, he, -⟩
      cases he
  | some e =>
      dsimp only
      by_cases hchat : startswith e.etype "b-t-f" = true ∨ startswith e.etype "b.t.f" = true
      · rw [if_pos hchat]
        refine iff_of_false nofun ?_
        rintro ⟨_, ⟨⟩, hnot, -⟩
        exact hnot hchat
      · rw [if_neg hchat, decodeTrackEvent_eq_other]
        constructor
        · exact fun h ↦ ⟨e, rfl, hchat, h⟩
        · rintro ⟨_, ⟨⟩, -, h⟩
          exact h

theorem telemetry_eq_other {b : Bytes} :
    TelemetryFrame.decode json pyd b = .error .other ↔ Breaks py et json b .telemetry := by
  rw [TelemetryFrame.decode, Py.bind_eq_error, or_iff_right (loadFrame_ne_other json _ b)]
  constructor
  · rintro ⟨frame, hframe, h⟩
    obtain ⟨hload, hkeys⟩ := loadFrame_eq_ok.mp hframe
    rcases Py.bind_eq_error.mp h with h | ⟨f, -, h⟩
    · exact ⟨frame, hload, hkeys, (escaping_telemetry hkeys).mp (guarded_eq_other.mp h)⟩
    · cases h
  · rintro ⟨frame, hload, hkeys, h⟩
    refine ⟨frame, loadFrame_eq_ok.mpr ⟨hload, hkeys⟩, Py.bind_eq_error.mpr (.inl ?_)⟩
    exact guarded_eq_other.mpr ((escaping_telemetry hkeys).mpr h)

theorem detection_eq_other {b : Bytes} :
    DetectionFrame.decode json pyd b = .error .other ↔ Breaks py et json b .detection := by
  rw [DetectionFrame.decode, Py.bind_eq_error, or_iff_right (loadFrame_ne_other json _ b)]
  constructor
  · rintro ⟨frame, hframe, h⟩
    obtain ⟨hload, hkeys⟩ := loadFrame_eq_ok.mp hframe
    rcases Py.bind_eq_error.mp h with h | ⟨f, -, h⟩
    · exact ⟨frame, hload, hkeys, (escaping_detection hkeys).mp (guarded_eq_other.mp h)⟩
    · cases h
  · rintro ⟨frame, hload, hkeys, h⟩
    refine ⟨frame, loadFrame_eq_ok.mpr ⟨hload, hkeys⟩, Py.bind_eq_error.mpr (.inl ?_)⟩
    exact guarded_eq_other.mpr ((escaping_detection hkeys).mpr h)

/-- **Error contract.**  The frames that raise anything but a `MeshSAError`, for each
decoder. -/
theorem honours_errors_iff (b : Bytes) (format : Format) :
    HonoursErrors (codecOf py et json pyd format) b ↔ ¬Breaks py et json b format := by
  rw [honoursErrors_iff]
  cases format with
  | compact => exact not_congr compact_eq_other
  | cot => exact not_congr (cot_eq_other py et json)
  | telemetry => exact not_congr (telemetry_eq_other py et json pyd)
  | detection => exact not_congr (detection_eq_other py et json pyd)

/-- A frame of the kind `STATUS` with the payload `1`. -/
theorem status_number_escapes :
    ¬HonoursErrors (compactCodec Interpreter.plain JsonReader.plain)
      [1, 3, 0, 0, 0, 0, 0, 0, 0, 1, 49] := by
  rw [honoursErrors_iff, not_not]
  rfl

/-- The position of an envelope passes the validators of `Position`. -/
def PositionOk (payload : Dict) : Prop :=
  ∀ v, payload.lookup "position" = some v → (Position.modelValidate pyd v).isSome = true

/-- A decoder lets no track or marker through with a position out of range. -/
def KeepsRange (codec : Codec Bytes) (b : Bytes) : Prop :=
  ∀ e, codec.decode b = .ok e → e.kind = .pli ∨ e.kind = .marker → PositionOk pyd e.payload

/-- The integers of a fix that are in range. -/
def FixInRange (fix : Compact.Fix) : Prop := |fix.latE7| ≤ 900000000 ∧ |fix.lonE7| ≤ 1800000000

theorem positionOk_of_valid {payload : Dict} {p : Position} (h : p.Valid)
    (hlookup : payload.lookup "position" = some (.dict p.dump)) : PositionOk pyd payload := by
  intro v hv
  rw [hlookup] at hv
  cases hv
  rw [Position.modelValidate_dump pyd h]
  rfl

theorem cot_keepsRange (b : Bytes) : KeepsRange pyd (cotCodec py et) b := by
  intro e h hkind
  have hdecode : Cot.decodeEvent py et {} b = .ok e := h
  unfold Cot.decodeEvent at hdecode
  split at hdecode
  · cases hdecode
  next event _ =>
    split_ifs at hdecode with hchat
    · cases hdecode
      rcases hkind with hkind | hkind <;> cases hkind
    · obtain ⟨pos, track, detection, -, -, hvalid, -, rfl⟩ :=
        Cot.decodeTrackEvent_eq_ok.mp hdecode
      exact positionOk_of_valid pyd hvalid.1 rfl

theorem telemetry_keepsRange (b : Bytes) : KeepsRange pyd (telemetryCodec py json pyd) b := by
  intro e h _
  obtain ⟨frame, -, h⟩ := Py.bind_eq_ok.mp h
  obtain ⟨f, hf, h⟩ := Py.bind_eq_ok.mp h
  cases h
  exact positionOk_of_valid pyd (telemetry_fields (guarded_eq_ok hf)).1 rfl

theorem detection_keepsRange (b : Bytes) : KeepsRange pyd (detectionCodec py json pyd) b := by
  intro e h _
  obtain ⟨frame, -, h⟩ := Py.bind_eq_ok.mp h
  obtain ⟨f, hf, h⟩ := Py.bind_eq_ok.mp h
  cases h
  exact positionOk_of_valid pyd (detection_fields (guarded_eq_ok hf)).1 rfl

/-- The integers of a frame that are read are those of 4 bytes. -/
theorem carries_bound {b : Bytes} {fix : Compact.Fix} (h : Carries b fix) :
    |fix.latE7| ≤ 2 ^ 31 ∧ |fix.lonE7| ≤ 2 ^ 31 := by
  obtain ⟨kind, sourceUid, rest, rest', callsign, tierIdx, rest'', -, -, hfix, -⟩ := h
  obtain ⟨hlat, hlon, -, -, -⟩ := Compact.readFix_inRange hfix
  exact ⟨abs_le.mpr ⟨hlat.1, hlat.2.le⟩, abs_le.mpr ⟨hlon.1, hlon.2.le⟩⟩

/-- The degree of an integer is in range if and only if the integer is. -/
theorem degrees_range {n k : ℤ} (hn : |n| ≤ 2 ^ 31) (hk : |k| < 256) :
    (PyFloat.le (.fin (-k)) (Compact.degrees n) = true ∧
      PyFloat.le (Compact.degrees n) (.fin k) = true) ↔ |n| ≤ k * 10000000 := by
  rw [← Compact.abs_degrees_le_iff hn hk, (Compact.degrees_eq hn).1, PyFloat.le_fin, PyFloat.le_fin,
    decide_eq_true_iff, decide_eq_true_iff, abs_le]

theorem fix_valid_iff {b : Bytes} {fix : Compact.Fix} (h : Carries b fix) :
    fix.position.Valid ↔ FixInRange fix := by
  obtain ⟨hlat, hlon⟩ := carries_bound h
  have hlatRange := degrees_range (k := 90) hlat (by decide)
  have hlonRange := degrees_range (k := 180) hlon (by decide)
  push_cast at hlatRange hlonRange
  constructor
  · intro hvalid
    exact ⟨hlatRange.mp hvalid.lat_range, hlonRange.mp hvalid.lon_range⟩
  · rintro ⟨hlat, hlon⟩
    exact ⟨hlatRange.mpr hlat, hlonRange.mpr hlon, nofun, nofun⟩

/-- **Range contract.**  A track or a marker that is let through has a position in range, except
for a compact frame with integers out of range. -/
theorem keeps_range_iff (b : Bytes) (format : Format) :
    KeepsRange pyd (codecOf py et json pyd format) b ↔
      (format = .compact → ∀ fix, Carries b fix → FixInRange fix) := by
  cases format with
  | cot => exact iff_of_true (cot_keepsRange py et pyd b) nofun
  | telemetry => exact iff_of_true (telemetry_keepsRange py json pyd b) nofun
  | detection => exact iff_of_true (detection_keepsRange py json pyd b) nofun
  | compact =>
      constructor
      · rintro hkeeps - fix hfix
        obtain ⟨e, he, hkind, hlookup⟩ := compact_eq_ok_of_carries json hfix
        have hsome := hkeeps e he hkind _ hlookup
        rw [Position.modelValidate_dump_eq] at hsome
        split_ifs at hsome with hvalid
        · exact (fix_valid_iff hfix).mp hvalid
        · cases hsome
      · intro hrange e he hkind
        obtain ⟨fix, hfix, hlookup⟩ := carries_of_compact_eq_ok he hkind
        exact positionOk_of_valid pyd ((fix_valid_iff hfix).mpr (hrange rfl fix hfix)) hlookup

/-- A frame of the kind `PLI` with the latitude 2147483647. -/
def farNorth : Bytes :=
  [1, 0, 0, 0, 0, 0, 0, 0, 127, 255, 255, 255, 0, 0, 0, 0, 0, 0, 0, 0, 0, 0, 0, 0, 0, 0]

theorem far_north_let_through :
    ¬KeepsRange Pydantic.plain (compactCodec Interpreter.plain JsonReader.plain) farNorth := by
  intro h
  have hcarries : Carries farNorth ⟨2147483647, 0, 0, 0, 0⟩ := by
    refine ⟨.pli, "", _, [0, 0], "", 0, [], ⟨1, _, 0, "", rfl, ?_, rfl⟩, .inl rfl, rfl, rfl, ?_⟩
    · decide
    · decide
  obtain ⟨e, he, hkind, hlookup⟩ := compact_eq_ok_of_carries JsonReader.plain hcarries
  have hsome := h e he hkind _ hlookup
  rw [Position.modelValidate_dump_eq, if_neg] at hsome
  · cases hsome
  · rw [fix_valid_iff hcarries]
    rintro ⟨hlat, -⟩
    exact absurd hlat (by decide)

end Contracts

end Decoding

end DroneComms.Mesh
