import DroneComms.Mesh.Decoding
import DroneComms.Py.Arithmetic
import DroneComms.Py.TextFile

/-!
# Sources of situational awareness

The two parsers of `meshsa/llm/sources.py`, from a value that `json.loads` has made to the
state of a vehicle and to the tracks of a FreeTAKServer.  `math.hypot`, which does not
raise, is a parameter.
-/

namespace DroneComms.Llm

open Py (PyFloat Value Dict PyError Interpreter FloatText)
open Mesh.Decoding (Huge)

/-! ## Numbers and names -/

/-- `except (ValueError, TypeError): return None`. -/
def caught : Except PyError PyFloat → Except PyError (Option PyFloat)
  | .ok x => .ok (some x)
  | .error .valueError => .ok none
  | .error .typeError => .ok none
  | .error e => .error e

/-- `_as_float`. -/
def asFloat (text : FloatText) : Value → Except PyError (Option PyFloat)
  | .none => .ok none
  | .bool _ => .ok none
  | v => caught (Py.toFloat text v)

/-- `_first_present`. -/
def firstPresent (row : Dict) (keys : List String) : Option Value := keys.findSome? (Dict.get? row)

/-- `str(v).strip()`. -/
def stripped (py : Interpreter) (v : Value) : String :=
  String.ofList (Py.strip (py.strOf v).toList)

/-- A label of `_first_str`, if a value is one. -/
def label (py : Interpreter) : Value → Option String
  | .bool _ => none
  | v => if stripped py v = "" then none else some (stripped py v)

/-- `_first_str`. -/
def firstStr (py : Interpreter) (row : Dict) (keys : List String) : Option String :=
  keys.findSome? fun key ↦ (Dict.get? row key).bind (label py)

/-! ## Vehicles -/

/-- `DroneState`. -/
structure DroneState where
  uid : String
  lat : Option PyFloat := none
  lon : Option PyFloat := none
  altM : Option PyFloat := none
  relativeAltM : Option PyFloat := none
  groundSpeedMs : Option PyFloat := none
  headingDeg : Option PyFloat := none
  batteryPct : Option PyFloat := none
  armed : Option Bool := none
  mode : Option String := none
  linkOk : Bool := true

/-- `x / scale`. -/
def scaled (scale : ℚ) (x : Option PyFloat) : Option PyFloat := x.map fun x ↦ x.div (.fin scale)

/-- `parse_global_position_int`. -/
def parseGlobalPositionInt (text : FloatText) (hypot : PyFloat → PyFloat → PyFloat)
    (payload : Dict) (uid : String) : Except PyError DroneState := do
  let msg ← (Dict.get payload "message" (.dict payload)).entries
  let latRaw ← asFloat text (Dict.get msg "lat" .none)
  let lonRaw ← asFloat text (Dict.get msg "lon" .none)
  let altRaw ← asFloat text (Dict.get msg "alt" .none)
  let relRaw ← asFloat text (Dict.get msg "relative_alt" .none)
  let vx ← asFloat text (Dict.get msg "vx" .none)
  let vy ← asFloat text (Dict.get msg "vy" .none)
  let hdgRaw ← asFloat text (Dict.get msg "hdg" .none)
  let groundSpeed := vx.bind fun vx ↦ vy.map fun vy ↦ (hypot vx vy).div (.fin 100)
  return {
    uid
    lat := scaled 10000000 latRaw
    lon := scaled 10000000 lonRaw
    altM := scaled 1000 altRaw
    relativeAltM := scaled 1000 relRaw
    groundSpeedMs := groundSpeed
    headingDeg := scaled 100 (hdgRaw.filter (· ≠ .fin 65535)) }

/-! ## Tracks -/

/-- `Track`. -/
structure Track where
  uid : String
  callsign : Option String := none
  cotType : Option String := none
  lat : Option PyFloat := none
  lon : Option PyFloat := none
  staleS : Option PyFloat := none

/-- The rows of a payload. -/
def ftsRows : Value → List Value
  | .dict data =>
      (["results", "data", "rows", "geoObjects"].findSome? fun key ↦
        match Dict.get? data key with
        | some (.list inner) => some inner
        | _ => none).getD []
  | .list data => data
  | _ => []

/-- An object row, and its identifier if that is not blank. -/
def identified (py : Interpreter) : Value → Option (Dict × String)
  | .dict row => (firstPresent row ["uid", "id", "name"]).bind fun uid ↦
      if stripped py uid = "" then none else some (row, stripped py uid)
  | _ => none

/-- The track of a row that is not skipped. -/
def parseRow (py : Interpreter) (row : Dict) (uid : String) : Except PyError Track := do
  let callsign := firstStr py row ["callsign", "name", "detail_callsign"]
  let cotType := firstStr py row ["cot_type", "type", "how"]
  let lat ← asFloat py.toFloatText ((firstPresent row ["lat", "latitude"]).getD .none)
  let lon ← asFloat py.toFloatText ((firstPresent row ["lon", "longitude"]).getD .none)
  let staleS ← asFloat py.toFloatText ((firstPresent row ["stale_s", "stale"]).getD .none)
  return { uid, callsign, cotType, lat, lon, staleS }

/-- The loop of `parse_fts_tracks`. -/
def parseRows (py : Interpreter) : List Value → Except PyError (List Track)
  | [] => return []
  | row :: rows =>
      match identified py row with
      | none => parseRows py rows
      | some (fields, uid) => do
          let track ← parseRow py fields uid
          let tracks ← parseRows py rows
          return track :: tracks

/-- `parse_fts_tracks`. -/
def parseFtsTracks (py : Interpreter) (data : Value) : Except PyError (List Track) :=
  parseRows py (ftsRows data)

/-! ## What should come out -/

/-- A number, or none for what is no number, whatever is wrong with it. -/
def number (text : FloatText) : Value → Option PyFloat
  | .none => none
  | .bool _ => none
  | v => (Py.toFloat text v).toOption

/-- The track of an identified row, in which a bad number is left out. -/
def track (py : Interpreter) (row : Dict) (uid : String) : Track where
  uid := uid
  callsign := firstStr py row ["callsign", "name", "detail_callsign"]
  cotType := firstStr py row ["cot_type", "type", "how"]
  lat := (firstPresent row ["lat", "latitude"]).bind (number py.toFloatText)
  lon := (firstPresent row ["lon", "longitude"]).bind (number py.toFloatText)
  staleS := (firstPresent row ["stale_s", "stale"]).bind (number py.toFloatText)

/-- One track for each identified row, in their order. -/
def tracksOf (py : Interpreter) (rows : List Value) : List Track :=
  rows.filterMap fun row ↦ (identified py row).map fun r ↦ track py r.1 r.2

/-- No row is lost. -/
def TracksAll (py : Interpreter) (data : Value) : Prop :=
  parseFtsTracks py data = .ok (tracksOf py (ftsRows data))

/-- A message becomes a state. -/
def ReadsState (text : FloatText) (hypot : PyFloat → PyFloat → PyFloat) (payload : Dict)
    (uid : String) : Prop :=
  ∃ state, parseGlobalPositionInt text hypot payload uid = .ok state

/-! ## What comes out -/

/-- An integer too large for a float is not caught. -/
theorem asFloat_of_huge (text : FloatText) {v : Value} (h : Huge v) :
    asFloat text v = .error .overflowError := by
  obtain ⟨n, rfl, hn⟩ := h
  show caught (Py.floatOfInt n) = _
  rw [Py.floatOfInt, if_pos hn]
  rfl

theorem asFloat_eq_ok (text : FloatText) {v : Value} (h : ¬Huge v) :
    asFloat text v = .ok (number text v) := by
  cases v with
  | none => rfl
  | bool b => rfl
  | float x => rfl
  | list xs => rfl
  | dict kvs => rfl
  | int n =>
      have hn : ¬Py.floatLimit ≤ |n| := fun hn ↦ h ⟨n, rfl, hn⟩
      show caught (Py.floatOfInt n) = .ok (Py.floatOfInt n).toOption
      rw [Py.floatOfInt, if_neg hn]
      rfl
  | str s =>
      show caught (Py.toFloat text (.str s)) = .ok (Py.toFloat text (.str s)).toOption
      rw [Py.toFloat]
      cases text.ofStr s with
      | none => rfl
      | some x => rfl

theorem asFloat_ok_iff {text : FloatText} {v : Value} :
    (∃ x, asFloat text v = .ok x) ↔ ¬Huge v := by
  constructor
  · rintro ⟨x, hx⟩ hhuge
    rw [asFloat_of_huge text hhuge] at hx
    cases hx
  · exact fun h ↦ ⟨_, asFloat_eq_ok text h⟩

/-- The fields of a row that are read as numbers, with their aliases. -/
def numberKeys : List (List String) :=
  [["lat", "latitude"], ["lon", "longitude"], ["stale_s", "stale"]]

/-- A row with an integer too large for a float where a number is read. -/
def Overflowing (row : Dict) : Prop :=
  ∃ keys ∈ numberKeys, ∃ v ∈ firstPresent row keys, Huge v

/-- The fields of a `GLOBAL_POSITION_INT` that are read. -/
def positionFields : List String := ["lat", "lon", "alt", "relative_alt", "vx", "vy", "hdg"]

theorem not_huge_none : ¬Huge .none := by
  rintro ⟨n, hn, -⟩
  cases hn

section

variable {py : Interpreter} {row : Dict} {uid : String} {rows : List Value}

theorem number_getD (text : FloatText) (v : Option Value) :
    number text (v.getD .none) = v.bind (number text) := by
  cases v with
  | none => rfl
  | some v => rfl

/-- A row becomes its track if no integer overflows, and otherwise nothing. -/
theorem parseRow_eq (h : ¬Overflowing row) : parseRow py row uid = .ok (track py row uid) := by
  have hnot : ∀ keys ∈ numberKeys, ¬Huge ((firstPresent row keys).getD .none) := by
    intro keys hkeys hhuge
    cases hv : firstPresent row keys with
    | none =>
        rw [hv] at hhuge
        exact not_huge_none hhuge
    | some v =>
        rw [hv] at hhuge
        exact h ⟨keys, hkeys, v, hv, hhuge⟩
  simp only [numberKeys, List.forall_mem_cons] at hnot
  obtain ⟨hlat, hlon, hstale, -⟩ := hnot
  rw [parseRow, asFloat_eq_ok _ hlat, asFloat_eq_ok _ hlon, asFloat_eq_ok _ hstale]
  simp only [number_getD]
  rfl

theorem not_overflowing_of_parseRow {t : Track} (h : parseRow py row uid = .ok t) :
    ¬Overflowing row := by
  obtain ⟨lat, hlat, h⟩ := Py.bind_eq_ok.mp h
  obtain ⟨lon, hlon, h⟩ := Py.bind_eq_ok.mp h
  obtain ⟨stale, hstale, -⟩ := Py.bind_eq_ok.mp h
  rintro ⟨keys, hkeys, v, hv, hhuge⟩
  have hgetD : (firstPresent row keys).getD .none = v := by
    rw [Option.mem_def.mp hv]
    rfl
  rw [← hgetD] at hhuge
  simp only [numberKeys, List.mem_cons, List.not_mem_nil, or_false] at hkeys
  rcases hkeys with rfl | rfl | rfl
  · exact asFloat_ok_iff.mp ⟨lat, hlat⟩ hhuge
  · exact asFloat_ok_iff.mp ⟨lon, hlon⟩ hhuge
  · exact asFloat_ok_iff.mp ⟨stale, hstale⟩ hhuge

theorem parseRows_eq (h : ∀ row ∈ rows, ∀ r ∈ identified py row, ¬Overflowing r.1) :
    parseRows py rows = .ok (tracksOf py rows) := by
  induction rows with
  | nil => rfl
  | cons row rows ih =>
      obtain ⟨hrow, hrows⟩ := List.forall_mem_cons.mp h
      rw [parseRows, tracksOf, List.filterMap_cons]
      cases hr : identified py row with
      | none => exact ih hrows
      | some r =>
          dsimp only
          rw [parseRow_eq (hrow r hr), ih hrows]
          rfl

/-- One row is enough to lose them all. -/
theorem not_overflowing_of_parseRows {tracks : List Track} (h : parseRows py rows = .ok tracks) :
    ∀ row ∈ rows, ∀ r ∈ identified py row, ¬Overflowing r.1 := by
  induction rows generalizing tracks with
  | nil => exact List.forall_mem_nil _
  | cons row rows ih =>
      rw [parseRows] at h
      refine List.forall_mem_cons.mpr ?_
      cases hr : identified py row with
      | none =>
          rw [hr] at h
          exact ⟨by simp, ih h⟩
      | some r =>
          rw [hr] at h
          obtain ⟨t, ht, h⟩ := Py.bind_eq_ok.mp h
          obtain ⟨ts, hts, -⟩ := Py.bind_eq_ok.mp h
          refine ⟨?_, ih hts⟩
          rintro _ ⟨⟩
          exact not_overflowing_of_parseRow ht

/-- A message is read if it is an object without such integers. -/
theorem readsState_iff {text : FloatText} {hypot : PyFloat → PyFloat → PyFloat} {payload : Dict}
    (uid : String) : ReadsState text hypot payload uid ↔
      ∃ msg, Dict.get payload "message" (.dict payload) = .dict msg ∧
        ∀ key ∈ positionFields, ¬Huge (Dict.get msg key .none) := by
  constructor
  · rintro ⟨state, h⟩
    obtain ⟨msg, hmsg, h⟩ := Py.bind_eq_ok.mp h
    refine ⟨msg, Value.eq_of_entries hmsg, ?_⟩
    obtain ⟨lat, hlat, h⟩ := Py.bind_eq_ok.mp h
    obtain ⟨lon, hlon, h⟩ := Py.bind_eq_ok.mp h
    obtain ⟨alt, halt, h⟩ := Py.bind_eq_ok.mp h
    obtain ⟨rel, hrel, h⟩ := Py.bind_eq_ok.mp h
    obtain ⟨vx, hvx, h⟩ := Py.bind_eq_ok.mp h
    obtain ⟨vy, hvy, h⟩ := Py.bind_eq_ok.mp h
    obtain ⟨hdg, hhdg, -⟩ := Py.bind_eq_ok.mp h
    intro key hkey
    simp only [positionFields, List.mem_cons, List.not_mem_nil, or_false] at hkey
    rcases hkey with rfl | rfl | rfl | rfl | rfl | rfl | rfl
    · exact asFloat_ok_iff.mp ⟨lat, hlat⟩
    · exact asFloat_ok_iff.mp ⟨lon, hlon⟩
    · exact asFloat_ok_iff.mp ⟨alt, halt⟩
    · exact asFloat_ok_iff.mp ⟨rel, hrel⟩
    · exact asFloat_ok_iff.mp ⟨vx, hvx⟩
    · exact asFloat_ok_iff.mp ⟨vy, hvy⟩
    · exact asFloat_ok_iff.mp ⟨hdg, hhdg⟩
  · rintro ⟨msg, hmsg, hnot⟩
    have hread : ∀ key ∈ positionFields,
        asFloat text (Dict.get msg key .none) = .ok (number text (Dict.get msg key .none)) :=
      fun key hkey ↦ asFloat_eq_ok text (hnot key hkey)
    simp only [positionFields, List.forall_mem_cons] at hread
    obtain ⟨hlat, hlon, halt, hrel, hvx, hvy, hhdg, -⟩ := hread
    rw [ReadsState, parseGlobalPositionInt, hmsg]
    simp only [Value.entries, Py.ok_bind, hlat, hlon, halt, hrel, hvx, hvy, hhdg]
    exact ⟨_, rfl⟩

/-- **The parsers tolerate** exactly the payloads in which no integer that is read as a number is
too large for a float, and the messages that are objects. -/
theorem tolerates_iff (py : Interpreter) (hypot : PyFloat → PyFloat → PyFloat) :
    (∀ data, TracksAll py data ↔
      ∀ row ∈ ftsRows data, ∀ r ∈ identified py row, ¬Overflowing r.1) ∧
    ∀ payload uid, ReadsState py.toFloatText hypot payload uid ↔
      ∃ msg, Dict.get payload "message" (.dict payload) = .dict msg ∧
        ∀ key ∈ positionFields, ¬Huge (Dict.get msg key .none) := by
  refine ⟨fun data ↦ ⟨not_overflowing_of_parseRows, parseRows_eq⟩, fun payload uid ↦ ?_⟩
  exact readsState_iff uid

/-- A row whose latitude is too large for a float. -/
def oversizeRow : Dict := [("id", .int 0), ("lat", .int Py.floatLimit)]

theorem overflowing_oversizeRow : Overflowing oversizeRow := by
  refine ⟨_, List.mem_cons_self, .int Py.floatLimit, ?_, Py.floatLimit, rfl, le_abs_self _⟩
  simp [firstPresent, oversizeRow, Dict.get?, List.lookup_cons]

theorem identified_oversizeRow :
    identified .plain (.dict oversizeRow) = some (oversizeRow, String.ofList ['0']) := by
  have hstripped : stripped .plain (.int 0) = String.ofList ['0'] := by
    show String.ofList (Py.strip (String.ofList (Decimal.signed 0)).toList) = _
    rw [String.toList_ofList]
    rfl
  have hfirst : firstPresent oversizeRow ["uid", "id", "name"] = some (.int 0) := by
    simp [firstPresent, oversizeRow, List.findSome?, Dict.get?, List.lookup_cons]
  simp [identified, hfirst, hstripped]

/-- Such a row takes the other one with it. -/
theorem oversize_row_loses_others : ¬∀ (py : Interpreter) (hypot : PyFloat → PyFloat → PyFloat),
    (∀ data, TracksAll py data) ∧ ∀ payload uid, ReadsState py.toFloatText hypot payload uid := by
  intro h
  have hall := (h .plain fun x _ ↦ x).1 (.list [.dict oversizeRow, .dict [("uid", .int 1)]])
  have hnot := not_overflowing_of_parseRows hall _ List.mem_cons_self _ identified_oversizeRow
  exact hnot overflowing_oversizeRow

end

end DroneComms.Llm
