import DroneComms.Fpv.Jsonl
import DroneComms.Fpv.UntypedReplay

/-!
# Replaying a damaged file

`replay_file` on any text.  `read_jsonl` refuses an empty file, a text that is no
document unless it is the last, and a schema outside the window.  A header that is
no object is not refused but asked for its `schema_version`, and what the records
hold is only met when they are replayed.

`json.loads` is a parameter, and the file is taken to be UTF-8.
-/

namespace DroneComms.Fpv.Untyped

open Py (Value Interpreter)
open Py.Json (Loaded)
open Fallible (Throughout bind_errors_iff map_errors_iff mapError_eq_ok errors_iff foldlM_invariant
  foldlM_concat_eq_ok)

/-! ## Reading -/

/-- The exceptions of `read_jsonl`. -/
def Failure.ofDatasetError : DatasetError → Failure
  | .unicodeDecodeError => .builtin .valueError
  | .attributeError => .builtin .attributeError
  | .jsonDecodeError _ => .jsonDecodeError
  | .noRecords _ | .emptyFile _ | .incompatible _ _ => .incompatibleDatasetError

section Reading

variable (loads : List Char → Loaded)

/-- The body of the loop, for a line that is not blank. -/
def readText (st : ReadState) (line : List Char) : Except Failure ReadState :=
  match st.pending with
  | some _ => .error .jsonDecodeError
  | none =>
      match loads line with
      | .value obj => .ok ({ st with sawAny := true }.push obj)
      | .decodeError => .ok { st with sawAny := true, pending := some line }
      | .raises => .error .parser

/-- The body of the loop. -/
def readLine (st : ReadState) (raw : List Char) : Except Failure ReadState :=
  let line := Py.strip raw
  if line = [] then .ok st else readText loads st line

/-- The lines of a text file. -/
def fileLines (content : String) : List (List Char) :=
  (Py.universalNewlines content.toList).splitOn '\n'

/-- `read_jsonl`. -/
def readJsonl (path content : String) : Except Failure (Value × List Value) := do
  let st ← (fileLines content).foldlM (readLine loads) {}
  (st.finish path).mapError .ofDatasetError

/-- `replay_file`. -/
def replayFile (py : Interpreter) (s : HealthSettings) (path content : String) :
    Except Failure (List HealthReport) := do
  let (_, records) ← readJsonl loads path content
  replayRecords py s records

/-! ## The texts of a file -/

/-- The lines that are not blank. -/
def texts (content : String) : List (List Char) :=
  ((fileLines content).map Py.strip).filter (· ≠ [])

def isNull : Value → Bool
  | .none => true
  | _ => false

/-- The documents from the header on. -/
def documents (ts : List (List Char)) : List Value :=
  (ts.filterMap fun t ↦ (loads t).document?).dropWhile isNull

/-- The parser does not raise for a text that only documents are in front of. -/
def Readable (ts : List (List Char)) : Prop := ∀ as t bs, ts = as ++ t :: bs →
  (∀ d ∈ as, ∃ v, loads d = .value v) → loads t ≠ .raises

/-- Every text is a document, except perhaps the last. -/
def Intact (ts : List (List Char)) : Prop := ∀ t ∈ ts.dropLast, ∃ v, loads t = .value v

/-- The bodies of the loop for the texts alone. -/
theorem foldlM_readLine (st : ReadState) (raws : List (List Char)) :
    raws.foldlM (readLine loads) st =
      ((raws.map Py.strip).filter (· ≠ [])).foldlM (readText loads) st := by
  induction raws generalizing st with
  | nil => rfl
  | cons raw raws ih =>
      rw [List.foldlM_cons, List.map_cons, readLine]
      by_cases hblank : Py.strip raw = []
      · rw [if_pos hblank, List.filter_cons_of_neg (by simpa using hblank), ← ih]
        rfl
      · rw [if_neg hblank, List.filter_cons_of_pos (by simpa using hblank), List.foldlM_cons]
        exact congrArg _ (funext ih)

variable {loads} {ts as bs : List (List Char)} {t : List Char} {st : ReadState}

theorem documents_concat (ts : List (List Char)) (t : List Char) : documents loads (ts ++ [t]) =
    if documents loads ts = [] then (loads t).document?.toList.dropWhile isNull
    else documents loads ts ++ (loads t).document?.toList := by
  have hlast : [t].filterMap (fun t ↦ (loads t).document?) = (loads t).document?.toList := by
    cases h : (loads t).document? <;> simp [h]
  rw [documents, documents, List.filterMap_append, List.dropWhile_append, hlast]
  simp only [List.isEmpty_iff]

/-- What the loop has read. -/
structure HasRead (loads : List Char → Loaded) (ts : List (List Char)) (st : ReadState) :
    Prop where
  header : st.header = (documents loads ts).head?.getD .none
  records : st.records = (documents loads ts).tail
  pending : st.pending = none ↔ ∀ t ∈ ts, ∃ v, loads t = .value v
  intact : Intact loads ts

theorem HasRead.nil : HasRead loads [] {} where
  header := rfl
  records := rfl
  pending := by simp
  intact := by simp [Intact]

/-- The header is no `null`. -/
theorem isNull_head {h : Value} {rs : List Value} (hdocs : documents loads ts = h :: rs) :
    isNull h = false := by
  have hhead := List.head?_dropWhile_not isNull (ts.filterMap fun t ↦ (loads t).document?)
  rw [documents] at hdocs
  rw [hdocs] at hhead
  simpa using hhead

/-- One more document. -/
theorem push_documents (st : ReadState) (hheader : st.header = (documents loads ts).head?.getD .none)
    (hrecords : st.records = (documents loads ts).tail) {obj : Value}
    (hobj : loads t = .value obj) :
    (st.push obj).header = (documents loads (ts ++ [t])).head?.getD .none ∧
      (st.push obj).records = (documents loads (ts ++ [t])).tail := by
  have hdocs : documents loads (ts ++ [t]) = _ := documents_concat ts t
  rw [hobj] at hdocs
  cases hread : documents loads ts with
  | nil =>
      rw [hread] at hheader hrecords hdocs
      have hpush : st.push obj = { st with header := obj } := by
        rw [ReadState.push, hheader]
        rfl
      rw [hpush, hdocs, hrecords]
      cases obj <;> simp [Loaded.document?, isNull, List.dropWhile_cons]
  | cons header records =>
      have hnull := isNull_head hread
      rw [hread] at hheader hrecords hdocs
      have hpush : st.push obj = { st with records := st.records ++ [obj] } := by
        rw [ReadState.push, hheader]
        cases header with
        | none => cases hnull
        | bool _ | int _ | float _ | str _ | list _ | dict _ => rfl
      rw [hpush, hdocs, hrecords, if_neg (List.cons_ne_nil _ _)]
      exact ⟨hheader, rfl⟩

theorem HasRead.readText {u : ReadState} (h : HasRead loads ts st)
    (hread : readText loads st t = .ok u) : HasRead loads (ts ++ [t]) u := by
  unfold Untyped.readText at hread
  split at hread
  · cases hread
  next hpending =>
    have hall := h.pending.mp hpending
    have hintact : Intact loads (ts ++ [t]) := by
      rw [Intact, List.dropLast_concat]
      exact hall
    split at hread
    next obj hobj =>
      cases hread
      obtain ⟨hheader, hrecords⟩ :=
        push_documents { st with sawAny := true } h.header h.records hobj
      refine ⟨hheader, hrecords, iff_of_true ?_ ?_, hintact⟩
      · rw [ReadState.push]
        split <;> exact hpending
      · intro t' ht'
        rcases List.mem_append.mp ht' with ht' | ht'
        · exact hall t' ht'
        · exact ⟨obj, by rw [List.mem_singleton.mp ht', hobj]⟩
    next hbad =>
      cases hread
      have hdocs : documents loads (ts ++ [t]) = documents loads ts := by
        rw [documents_concat, hbad]
        split_ifs with hnil
        · exact hnil.symm
        · exact List.append_nil _
      refine ⟨h.header.trans (by rw [hdocs]), h.records.trans (by rw [hdocs]), ?_, hintact⟩
      refine iff_of_false (by simp) fun hvalues ↦ ?_
      obtain ⟨v, hv⟩ := hvalues t (by simp)
      rw [hbad] at hv
      cases hv
    · cases hread

theorem hasRead_of_foldlM (h : ts.foldlM (readText loads) {} = .ok st) : HasRead loads ts st :=
  foldlM_invariant (fun _ _ _ _ hst hread ↦ HasRead.readText hst hread) .nil h

/-- Documents are read. -/
theorem exists_foldlM (h : ∀ t ∈ ts, ∃ v, loads t = .value v) :
    ∃ st, ts.foldlM (readText loads) {} = .ok st := by
  induction ts using List.reverseRecOn with
  | nil => exact ⟨{}, rfl⟩
  | append_singleton ts t ih =>
      obtain ⟨st, hst⟩ := ih fun d hd ↦ h d (List.mem_append_left _ hd)
      obtain ⟨v, hv⟩ := h t (by simp)
      have hpending : st.pending = none :=
        (hasRead_of_foldlM hst).pending.mpr fun d hd ↦ h d (List.mem_append_left _ hd)
      refine ⟨{ st with sawAny := true }.push v, foldlM_concat_eq_ok.mpr ⟨st, hst, ?_⟩⟩
      rw [Untyped.readText, hpending]
      dsimp only
      rw [hv]

theorem readText_own_iff : (∀ e, readText loads st t = .error e → e.Own) ↔
    (st.pending = none → loads t ≠ .raises) := by
  rw [Untyped.readText]
  cases st.pending with
  | some bad => simp [Failure.Own]
  | none => cases loads t <;> simp [Failure.Own]

/-- The loop stops in front of every other text that the parser would raise for. -/
theorem foldlM_own_iff : (∀ e, ts.foldlM (readText loads) {} = .error e → e.Own) ↔
    Readable loads ts := by
  rw [errors_iff]
  constructor
  · intro h as t bs heq hvalues
    obtain ⟨st, hst⟩ := exists_foldlM hvalues
    exact readText_own_iff.mp (h as t bs st heq hst) ((hasRead_of_foldlM hst).pending.mpr hvalues)
  · intro h as t bs st heq hst
    refine readText_own_iff.mpr fun hpending ↦ ?_
    exact h as t bs heq ((hasRead_of_foldlM hst).pending.mp hpending)

/-! ## The header -/

/-- A header with a schema that this build reads. -/
def Compatible (header : Py.Dict) : Prop :=
  (intInstance ((header.lookup "schema_version").getD .none)).any isDatasetCompatible = true

theorem checkSchema_own_iff {path : String} {header : Value} :
    (∀ e, (checkSchema path header).mapError Failure.ofDatasetError = .error e → e.Own) ↔
      ∃ fields, header = .dict fields := by
  cases header with
  | dict fields =>
      refine iff_of_true (fun e h ↦ ?_) ⟨fields, rfl⟩
      rw [checkSchema] at h
      split at h
      · cases h
      · cases h
        trivial
  | none | bool _ | int _ | float _ | str _ | list _ =>
      simp [checkSchema, Except.mapError, Failure.ofDatasetError, Failure.Own]

theorem checkSchema_eq_ok {path : String} {header : Value} :
    checkSchema path header = .ok () ↔ ∃ fields, header = .dict fields ∧ Compatible fields := by
  cases header with
  | dict fields => simp [checkSchema, Compatible]
  | none | bool _ | int _ | float _ | str _ | list _ => simp [checkSchema]

/-- No document has been found. -/
theorem finish_of_none {path : String} (h : st.header = .none) :
    ∃ e, st.finish path = .error e ∧ (Failure.ofDatasetError e).Own := by
  rw [ReadState.finish, h]
  dsimp only
  split_ifs <;> exact ⟨_, rfl, trivial⟩

theorem finish_of_header {path : String} (h : isNull st.header = false) :
    st.finish path = (checkSchema path st.header).map fun _ ↦ (st.header, st.records) := by
  rw [ReadState.finish]
  cases hheader : st.header with
  | none =>
      rw [hheader] at h
      cases h
  | bool _ | int _ | float _ | str _ | list _ | dict _ => rfl

theorem HasRead.finish_own_iff (h : HasRead loads ts st) (path : String) :
    (∀ e, (st.finish path).mapError Failure.ofDatasetError = .error e → e.Own) ↔
      ∀ header ∈ (documents loads ts).head?, ∃ fields, header = .dict fields := by
  have hheader := h.header
  cases hdocs : documents loads ts with
  | nil =>
      rw [hdocs] at hheader
      obtain ⟨e, he, hown⟩ : ∃ e, st.finish path = .error e ∧ (Failure.ofDatasetError e).Own :=
        finish_of_none hheader
      rw [he]
      refine iff_of_true (fun e' he' ↦ ?_) (by simp)
      cases he'
      exact hown
  | cons header records =>
      rw [hdocs] at hheader
      have hnull : isNull st.header = false := hheader ▸ isNull_head hdocs
      have hsame : (∀ e, (st.finish path).mapError Failure.ofDatasetError = .error e → e.Own) ↔
          ∀ e, (checkSchema path st.header).mapError Failure.ofDatasetError = .error e → e.Own := by
        rw [finish_of_header hnull]
        cases checkSchema path st.header <;> simp [Except.map, Except.mapError]
      rw [hsame, checkSchema_own_iff, hheader]
      simp

theorem HasRead.finish_eq_ok (h : HasRead loads ts st) {path : String} {header : Value}
    {records : List Value} : st.finish path = .ok (header, records) ↔
      documents loads ts = header :: records ∧ ∃ fields, header = .dict fields ∧
        Compatible fields := by
  have hheader := h.header
  have hrecords := h.records
  cases hdocs : documents loads ts with
  | nil =>
      rw [hdocs] at hheader
      obtain ⟨e, he, -⟩ : ∃ e, st.finish path = .error e ∧ (Failure.ofDatasetError e).Own :=
        finish_of_none hheader
      simp [he]
  | cons header' records' =>
      rw [hdocs] at hheader hrecords
      have hnull : isNull st.header = false := hheader ▸ isNull_head hdocs
      replace hheader : st.header = header' := hheader
      replace hrecords : st.records = records' := hrecords
      rw [finish_of_header hnull, hheader, hrecords, List.cons.injEq]
      constructor
      · intro hok
        cases hcheck : checkSchema path header' with
        | error e =>
            rw [hcheck] at hok
            cases hok
        | ok _ =>
            rw [hcheck] at hok
            cases hok
            exact ⟨⟨rfl, rfl⟩, checkSchema_eq_ok.mp hcheck⟩
      · rintro ⟨⟨rfl, rfl⟩, hfields⟩
        rw [checkSchema_eq_ok.mpr hfields]
        rfl

/-! ## The replay of a file -/

/-- A content that is replayed, or refused with an error of the replay. -/
structure Tolerable (loads : List Char → Loaded) (py : Interpreter) (s : HealthSettings)
    (content : String) : Prop where
  readable : Readable loads (texts content)
  /-- The header is an object. -/
  object : Intact loads (texts content) →
    ∀ header ∈ (documents loads (texts content)).head?, ∃ fields, header = .dict fields
  /-- Every record that is reached is digestible. -/
  records : Intact loads (texts content) → ∀ header records,
    documents loads (texts content) = .dict header :: records → Compatible header →
      Throughout (replayRecord py s) (Digestible py s) {} records

/-- A file of documents, perhaps behind a last text that is none, is read to its end. -/
theorem exists_foldlM_of_intact (h : Intact loads ts) (hreadable : Readable loads ts) :
    ∃ st, ts.foldlM (readText loads) {} = .ok st := by
  induction ts using List.reverseRecOn with
  | nil => exact ⟨{}, rfl⟩
  | append_singleton ts t _ =>
      rw [Intact, List.dropLast_concat] at h
      obtain ⟨st, hst⟩ := exists_foldlM h
      have hpending : st.pending = none := (hasRead_of_foldlM hst).pending.mpr h
      obtain ⟨u, hu⟩ : ∃ u, readText loads st t = .ok u := by
        rw [Untyped.readText, hpending]
        dsimp only
        cases ht : loads t with
        | value v => exact ⟨_, rfl⟩
        | decodeError => exact ⟨_, rfl⟩
        | raises => exact absurd ht (hreadable ts t [] rfl h)
      exact ⟨u, foldlM_concat_eq_ok.mpr ⟨st, hst, hu⟩⟩

/-- What `read_jsonl` raises is an error of the replay. -/
theorem readJsonl_own_iff (path content : String) :
    (∀ e, readJsonl loads path content = .error e → e.Own) ↔
      Readable loads (texts content) ∧ (Intact loads (texts content) →
        ∀ header ∈ (documents loads (texts content)).head?, ∃ fields, header = .dict fields) := by
  rw [readJsonl, bind_errors_iff, foldlM_readLine, ← texts, foldlM_own_iff]
  refine and_congr_right fun hreadable ↦ ⟨fun h hintact ↦ ?_, fun h st hst ↦ ?_⟩
  · obtain ⟨st, hst⟩ := exists_foldlM_of_intact hintact hreadable
    exact ((hasRead_of_foldlM hst).finish_own_iff path).mp (h st hst)
  · have hread := hasRead_of_foldlM hst
    exact (hread.finish_own_iff path).mpr (h hread.intact)

/-- What `read_jsonl` returns. -/
theorem readJsonl_eq_ok {path content : String} {header : Value} {records : List Value}
    (hreadable : Readable loads (texts content)) :
    readJsonl loads path content = .ok (header, records) ↔ Intact loads (texts content) ∧
      documents loads (texts content) = header :: records ∧
        ∃ fields, header = .dict fields ∧ Compatible fields := by
  rw [readJsonl, foldlM_readLine, ← texts, Py.bind_eq_ok]
  constructor
  · rintro ⟨st, hst, hok⟩
    have hread := hasRead_of_foldlM hst
    exact ⟨hread.intact, hread.finish_eq_ok.mp (mapError_eq_ok.mp hok)⟩
  · rintro ⟨hintact, hdocs⟩
    obtain ⟨st, hst⟩ := exists_foldlM_of_intact hintact hreadable
    exact ⟨st, hst, mapError_eq_ok.mpr ((hasRead_of_foldlM hst).finish_eq_ok.mpr hdocs)⟩

/-- What the replay of the records raises is an error of the replay. -/
theorem replayRecords_own_iff {py : Interpreter} {s : HealthSettings} {records : List Value} :
    (∀ e, replayRecords py s records = .error e → e.Own) ↔
      Throughout (replayRecord py s) (Digestible py s) {} records := by
  rw [replayRecords, map_errors_iff, errors_iff]
  exact Throughout.congr fun x record ↦ replayRecord_own_iff

theorem replayFile_own_iff (py : Interpreter) (s : HealthSettings) (path content : String) :
    (∀ e, replayFile loads py s path content = .error e → e.Own) ↔
      Tolerable loads py s content := by
  rw [replayFile, bind_errors_iff, readJsonl_own_iff]
  constructor
  · rintro ⟨⟨hreadable, hobject⟩, hrecords⟩
    refine ⟨hreadable, hobject, fun hintact header records hdocs hcompatible ↦ ?_⟩
    have hok : readJsonl loads path content = .ok (.dict header, records) :=
      (readJsonl_eq_ok hreadable).mpr ⟨hintact, hdocs, header, rfl, hcompatible⟩
    exact replayRecords_own_iff.mp (hrecords _ hok)
  · intro h
    refine ⟨⟨h.readable, h.object⟩, ?_⟩
    rintro ⟨header, records⟩ hok
    obtain ⟨hintact, hdocs, fields, rfl, hcompatible⟩ := (readJsonl_eq_ok h.readable).mp hok
    exact replayRecords_own_iff.mpr (h.records hintact fields records hdocs hcompatible)

/-- A file that is replayed has one report for each document behind its header. -/
theorem length_replayFile {py : Interpreter} {s : HealthSettings} {path content : String}
    {reports : List HealthReport} (h : replayFile loads py s path content = .ok reports) :
    reports.length = (documents loads (texts content)).tail.length := by
  obtain ⟨⟨header, records⟩, hread, hreplay⟩ := Py.bind_eq_ok.mp h
  obtain ⟨st, hst, hfinish⟩ := Py.bind_eq_ok.mp hread
  rw [foldlM_readLine] at hst
  have hdocs := ((hasRead_of_foldlM hst).finish_eq_ok.mp (mapError_eq_ok.mp hfinish)).1
  rw [length_replayRecords hreplay, texts, hdocs]
  rfl

/-- **Damaged files.**  A file is replayed with one report for each record, or refused with
an error of the replay, exactly if its content is tolerable. -/
theorem replayFile_rejects_iff (loads : List Char → Loaded) (py : Interpreter)
    (s : HealthSettings) (path content : String) :
    ((∃ reports, replayFile loads py s path content = .ok reports ∧
        reports.length = (documents loads (texts content)).tail.length) ∨
      ∃ e, replayFile loads py s path content = .error e ∧ e.Own) ↔
        Tolerable loads py s content := by
  rw [← replayFile_own_iff py s path content]
  constructor
  · rintro (⟨reports, hok, -⟩ | ⟨e, he, hown⟩) e' he'
    · rw [hok] at he'
      cases he'
    · rw [he] at he'
      cases he'
      exact hown
  · intro h
    cases hreplay : replayFile loads py s path content with
    | ok reports => exact .inl ⟨reports, rfl, length_replayFile hreplay⟩
    | error e => exact .inr ⟨e, rfl, h e hreplay⟩

/-- A header that is an array has no `get`. -/
theorem array_header_escapes :
    ¬((∃ reports, replayFile (Py.Json.unlimited .plain) .plain {} "telemetry.jsonl" "[]" =
        .ok reports ∧ reports.length =
          (documents (Py.Json.unlimited .plain) (texts "[]")).tail.length) ∨
      ∃ e, replayFile (Py.Json.unlimited .plain) .plain {} "telemetry.jsonl" "[]" = .error e ∧
        e.Own) := by
  have hescapes : replayFile (Py.Json.unlimited .plain) .plain {} "telemetry.jsonl" "[]" =
      .error (.builtin .attributeError) := by rfl
  rw [hescapes]
  rintro (⟨reports, hok, -⟩ | ⟨e, he, hown⟩)
  · cases hok
  · cases he
    exact hown

/-! ## Files of bytes -/

/-- Without limits, what `read_jsonl` makes of the bytes of the file. -/
theorem readJsonl_unlimited (float : Py.Json.JsonText) (path content : String) :
    readJsonl (Py.Json.unlimited float.toFloatText) path content =
      (Fpv.readJsonl float path (Wire.utf8 content)).mapError .ofDatasetError := by
  have hlines : Py.lines (Wire.utf8 content) = some (fileLines content) := by
    rw [Py.lines, Wire.ofUtf8_utf8]
    rfl
  have hline : ∀ st raw, readLine (Py.Json.unlimited float.toFloatText) st raw =
      (ReadState.readLine float st raw).mapError .ofDatasetError := by
    intro st raw
    rw [readLine, ReadState.readLine]
    dsimp only
    split_ifs with hblank
    · rfl
    · rw [readText]
      cases st.pending with
      | some bad => rfl
      | none =>
          dsimp only
          rw [Py.Json.unlimited]
          cases Py.Json.loads float.toFloatText (Py.strip raw) <;> rfl
  rw [readJsonl, Fpv.readJsonl, hlines, Option.elim_some, Py.ok_bind, Fallible.mapError_bind,
    Fallible.foldlM_mapError hline]

end Reading

end DroneComms.Fpv.Untyped
