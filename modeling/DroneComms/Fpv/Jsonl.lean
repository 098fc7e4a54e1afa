import DroneComms.Fpv.FlightLogger
import DroneComms.Lib.LineLog
import DroneComms.Py.JsonTruncation
import DroneComms.Py.TextFile

/-!
# Session files

The JSONL files the writer thread of `meshsa/fpv/flight_logger.py` writes, and
`read_jsonl` of `meshsa/fpv/dataset.py`, which reads what a crash left of one.

A session file is written where a line break is one character.  The decoder of the
source works in chunks, so a file with bytes that are no text may raise for an
earlier line first; here it raises for the bytes.  The warning for an older schema
is left out.
-/

namespace DroneComms.Fpv

open Py (Value)
open Py.Json (JsonText WellKeyed)
open LineLog (closed endingBefore)

/-! ## Writing -/

/-- `DATASET_SCHEMA`. -/
def datasetSchema : ℤ := 2

/-- `MIN_COMPATIBLE_DATASET`. -/
def minCompatibleDataset : ℤ := 1

/-- A dictionary that is a JSON object. -/
structure JsonObject where
  fields : List (String × Value)
  wellKeyed : WellKeyed (.dict fields)

namespace JsonObject

def value (r : JsonObject) : Value := .dict r.fields

/-- `json.dumps(rec)`. -/
def text (float : JsonText) (r : JsonObject) : List Char :=
  Py.Json.dumps float.toFloatText [' '] r.value

end JsonObject

namespace FlightLogger.Stream

/-- The keys of `_HEADERS`. -/
def name : Stream → String
  | rc => "rc"
  | telemetry => "telemetry"
  | events => "events"
  | frames => "frames"

/-- The values of `_HEADERS`. -/
def fields : Stream → List String
  | rc => ["t", "ch"]
  | telemetry => ["t", "type", "data"]
  | events => ["t", "event", "data"]
  | frames => ["t", "frame_idx"]

/-- The first record of the file of a stream. -/
def header (stream : Stream) : JsonObject where
  fields := [("schema_version", .int datasetSchema), ("file", .str stream.name),
    ("fields", .list (stream.fields.map .str))]
  wellKeyed := by cases stream <;> simp [WellKeyed, Py.Json.WellKeyedMembers,
    Py.Json.WellKeyedItems, fields]

end FlightLogger.Stream

/-- The bytes of a file with a line for each record. -/
def jsonlFile (float : JsonText) (records : List JsonObject) : List UInt8 :=
  Wire.utf8 (String.ofList (closed '\n' (JsonObject.text float) records))

/-! ## Reading -/

/-- The exceptions of `read_jsonl`. -/
inductive DatasetError where
  | unicodeDecodeError
  | jsonDecodeError (line : List Char)
  | attributeError
  /-- `no valid JSON records in dataset file`. -/
  | noRecords (path : String)
  /-- `empty dataset file`. -/
  | emptyFile (path : String)
  /-- `schema_version ... outside supported window`. -/
  | incompatible (path : String) (schema : Value)

/-- `is_dataset_compatible`. -/
def isDatasetCompatible (schema : ℤ) : Bool :=
  minCompatibleDataset ≤ schema && schema ≤ datasetSchema

/-- The number that an instance of `int` is. -/
def intInstance : Value → Option ℤ
  | .int n => some n
  | .bool b => some b.toInt
  | _ => none

/-- `_check_schema`. -/
def checkSchema (path : String) : Value → Except DatasetError Unit
  | .dict header =>
      let schema := (header.lookup "schema_version").getD .none
      if (intInstance schema).any isDatasetCompatible then .ok ()
      else .error (.incompatible path schema)
  | _ => .error .attributeError

/-- The variables of the loop. -/
structure ReadState where
  /-- `None` until the first document that is not `null`. -/
  header : Value := .none
  records : List Value := []
  /-- The line of `pending_exc`. -/
  pending : Option (List Char) := none
  sawAny : Bool := false

namespace ReadState

/-- `header = obj` or `records.append(obj)`. -/
def push (st : ReadState) (obj : Value) : ReadState :=
  match st.header with
  | .none => { st with header := obj }
  | _ => { st with records := st.records ++ [obj] }

/-- The body of the loop. -/
def readLine (float : JsonText) (st : ReadState) (raw : List Char) :
    Except DatasetError ReadState :=
  let line := Py.strip raw
  if line = [] then .ok st
  else
    let st := { st with sawAny := true }
    match st.pending with
    | some bad => .error (.jsonDecodeError bad)
    | none =>
        match Py.Json.loads float.toFloatText line with
        | none => .ok { st with pending := some line }
        | some obj => .ok (st.push obj)

/-- What is behind the loop. -/
def finish (path : String) (st : ReadState) : Except DatasetError (Value × List Value) :=
  match st.header with
  | .none => if st.sawAny then .error (.noRecords path) else .error (.emptyFile path)
  | header => do
      checkSchema path header
      .ok (header, st.records)

end ReadState

/-- `read_jsonl`, on the bytes of the file. -/
def readJsonl (float : JsonText) (path : String) (bytes : List UInt8) :
    Except DatasetError (Value × List Value) := do
  let raws ← (Py.lines bytes).elim (.error .unicodeDecodeError) .ok
  let st ← raws.foldlM (ReadState.readLine float) {}
  st.finish path

/-! ## Lines -/

variable {float : JsonText}

namespace JsonObject

theorem printable_text (r : JsonObject) : ∀ c ∈ r.text float, Py.Json.Printable c :=
  Py.Json.printable_dumps float (by decide) _

theorem newline_not_mem_text (r : JsonObject) : '\n' ∉ r.text float :=
  fun h ↦ absurd (r.printable_text _ h) (by decide)

/-- The text of an object is in braces, so nothing is stripped from it. -/
theorem strip_text (r : JsonObject) : Py.strip (r.text float) = r.text float := by
  obtain ⟨cs, hcs⟩ := Py.Json.dumps_dict float.toFloatText [' '] r.fields
  rw [text, value, hcs]
  exact Py.strip_eq (by decide) (by decide)

theorem text_ne_nil (r : JsonObject) : r.text float ≠ [] := by
  obtain ⟨cs, hcs⟩ := Py.Json.dumps_dict float.toFloatText [' '] r.fields
  rw [text, value, hcs]
  exact List.cons_ne_nil _ _

/-- A text cut short is no document, with or without the space at its end. -/
theorem loads_strip_cut (r : JsonObject) {cut : List Char} (hcut : cut <+: r.text float)
    (hne : cut ≠ r.text float) : Py.Json.loads float.toFloatText (Py.strip cut) = none := by
  cases cut with
  | nil => rfl
  | cons c cs =>
      obtain ⟨ds, hds⟩ := Py.Json.dumps_dict float.toFloatText [' '] r.fields
      have hc : c = '{' := by
        rw [text, value, hds] at hcut
        exact (List.cons_prefix_cons.mp hcut).1
      have hstrip : Py.strip (c :: cs) <+: c :: cs := Py.strip_prefix (by rw [hc]; rfl)
      apply Py.Json.loads_cut (by decide) r.wellKeyed (hstrip.trans hcut)
      intro heq
      have hle := heq ▸ hstrip.length_le
      exact hne (hcut.eq_of_length_le hle)

end JsonObject

namespace ReadState

/-- A complete line is one more record, once there is a header. -/
theorem readLine_text {st : ReadState} (hpending : st.pending = none) (r : JsonObject) :
    st.readLine float (r.text float) = .ok ({ st with sawAny := true }.push r.value) := by
  have hloads : Py.Json.loads float.toFloatText (r.text float) = some r.value :=
    Py.Json.loads_dumps float (by decide) r.wellKeyed
  rw [readLine, r.strip_text, if_neg r.text_ne_nil]
  simp [hpending, hloads]

/-- The last line may be torn. -/
theorem readLine_cut {st : ReadState} (hpending : st.pending = none) (r : JsonObject)
    {cut : List Char} (hcut : cut <+: r.text float) (hne : cut ≠ r.text float) :
    ∃ st', st.readLine float cut = .ok st' ∧ st'.header = st.header ∧
      st'.records = st.records := by
  have hloads := r.loads_strip_cut hcut hne
  rw [readLine]
  by_cases hblank : Py.strip cut = []
  · exact ⟨st, if_pos hblank, rfl, rfl⟩
  · rw [if_neg hblank]
    exact ⟨{ st with sawAny := true, pending := some (Py.strip cut) }, by simp [hpending, hloads],
      rfl, rfl⟩

/-- Complete lines behind the header are the records. -/
theorem foldlM_text {st : ReadState} {header : JsonObject} (hpending : st.pending = none)
    (hheader : st.header = header.value) (rs : List JsonObject) :
    ∃ st', (rs.map (JsonObject.text float)).foldlM (readLine float) st = .ok st' ∧
      st'.pending = none ∧ st'.header = header.value ∧
      st'.records = st.records ++ rs.map JsonObject.value := by
  induction rs generalizing st with
  | nil => exact ⟨st, rfl, hpending, hheader, by simp⟩
  | cons r rs ih =>
      have hpush : { st with sawAny := true }.push r.value =
          { st with sawAny := true, records := st.records ++ [r.value] } := by
        simp [push, hheader, JsonObject.value]
      have hnext : ({ st with sawAny := true, records := st.records ++ [r.value] } :
          ReadState).pending = none := hpending
      obtain ⟨st', hfold, hpending', hheader', hrecords⟩ := ih hnext hheader
      refine ⟨st', ?_, hpending', hheader', ?_⟩
      · rw [List.map_cons, List.foldlM_cons, readLine_text hpending, hpush]
        exact hfold
      · rw [hrecords, List.map_cons, List.append_assoc]
        rfl

end ReadState

/-! ## Files -/

theorem mem_closed {rs : List JsonObject} {c : Char}
    (h : c ∈ closed '\n' (JsonObject.text float) rs) : Py.Json.Printable c ∨ c = '\n' := by
  obtain ⟨r, -, hc⟩ := List.mem_flatMap.mp h
  rcases List.mem_append.mp hc with hc | hc
  · exact .inl (r.printable_text c hc)
  · exact .inr (List.mem_singleton.mp hc)

/-- A file is ASCII and has no other line ends, so it is cut as a text is. -/
theorem lines_jsonlFile (rs : List JsonObject) (n : ℕ) :
    Py.lines ((jsonlFile float rs).take n) =
      some (((closed '\n' (JsonObject.text float) rs).take n).splitOn '\n') := by
  rw [jsonlFile, Py.take_utf8, Py.lines_utf8]
  · intro h
    rcases mem_closed (List.mem_of_mem_take h) with h | h
    · exact absurd h (by decide)
    · cases h
  · intro c hc
    rcases mem_closed hc with h | rfl
    · exact h.2.trans (by decide)
    · decide

/-- What is left of a file whose header is complete. -/
theorem readJsonl_take {path : String} {header : JsonObject}
    (hheader : checkSchema path header.value = .ok ()) (records : List JsonObject) {n : ℕ}
    (hcut : (header.text float).length ≤ n) :
    readJsonl float path ((jsonlFile float (header :: records)).take n) =
      .ok (header.value, (endingBefore (JsonObject.text float) n
        ((header.text float).length + 1) records).map JsonObject.value) := by
  have hlines : ∀ r ∈ header :: records, '\n' ∉ r.text float := fun r _ ↦ r.newline_not_mem_text
  obtain ⟨torn, hsplit, htorn⟩ := LineLog.splitOn_take_closed hlines 0 n
  rw [Nat.zero_add, endingBefore, Nat.zero_add, if_pos hcut, List.map_cons] at hsplit
  set kept := endingBefore (JsonObject.text float) n ((header.text float).length + 1) records
  set start : ReadState := { header := header.value, sawAny := true }
  obtain ⟨st, hfold, hpending, hst, hrecords⟩ :
      ∃ st, (kept.map (JsonObject.text float)).foldlM (ReadState.readLine float) start = .ok st ∧
        st.pending = none ∧ st.header = header.value ∧
        st.records = start.records ++ kept.map JsonObject.value :=
    ReadState.foldlM_text rfl rfl kept
  have htail : ∃ st', torn.foldlM (ReadState.readLine float) st = .ok st' ∧
      st'.header = st.header ∧ st'.records = st.records := by
    rcases htorn with rfl | rfl | ⟨r, -, cut, rfl, hprefix, hne⟩
    · exact ⟨st, rfl, rfl, rfl⟩
    · exact ⟨st, rfl, rfl, rfl⟩
    · obtain ⟨st', hread, hsame⟩ := ReadState.readLine_cut hpending r hprefix hne
      exact ⟨st', by rw [List.foldlM_cons, hread]; rfl, hsame⟩
  obtain ⟨st', hlast, hst', hrecords'⟩ := htail
  have hloop : (header.text float :: kept.map (JsonObject.text float) ++ torn).foldlM
      (ReadState.readLine float) {} = .ok st' := by
    rw [List.foldlM_append, List.foldlM_cons, ReadState.readLine_text rfl]
    exact Py.bind_eq_ok.mpr ⟨st, hfold, hlast⟩
  rw [readJsonl, lines_jsonlFile, hsplit]
  refine Py.bind_eq_ok.mpr ⟨_, rfl, Py.bind_eq_ok.mpr ⟨st', hloop, ?_⟩⟩
  rw [ReadState.finish, hst', hst, hrecords', hrecords]
  exact Py.bind_eq_ok.mpr ⟨(), hheader, rfl⟩

/-- **Session files survive a crash.**  A file that is cut at or behind the end of
its header reads as the header and the records whose text ends before the cut. -/
theorem readJsonl_after_crash (float : JsonText) (path : String) (stream : FlightLogger.Stream)
    (records : List JsonObject) (n : ℕ) (hcut : (stream.header.text float).length ≤ n) :
    readJsonl float path ((jsonlFile float (stream.header :: records)).take n) =
      .ok (stream.header.value, (endingBefore (JsonObject.text float) n
        ((stream.header.text float).length + 1) records).map JsonObject.value) :=
  readJsonl_take rfl records hcut

/-- A record of a frame. -/
def frameRecord (t : ℤ) : JsonObject where
  fields := [("t", .int t), ("frame_idx", .int 1)]
  wellKeyed := by simp [WellKeyed, Py.Json.WellKeyedMembers]

/-- A file cut in its third record reads as the first two. -/
theorem readJsonl_torn_record :
    readJsonl .plain "frames.jsonl"
        ((jsonlFile .plain [FlightLogger.Stream.frames.header, frameRecord 1, frameRecord 2,
          frameRecord 3]).take ((FlightLogger.Stream.frames.header.text .plain).length + 60)) =
      .ok (FlightLogger.Stream.frames.header.value, [frameRecord 1, frameRecord 2].map JsonObject.value) := by
  rw [readJsonl_after_crash .plain "frames.jsonl" .frames _ _ (Nat.le_add_right _ _)]
  rfl

end DroneComms.Fpv
