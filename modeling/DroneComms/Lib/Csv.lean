import Mathlib.Data.List.Basic
import Mathlib.Tactic.SplitIfs

/-!
# Comma-separated values

The usual dialect of tables in text: fields are separated by commas, and rows end with a
carriage return and a line feed.  A field with a comma, a quote or the end of a line in it
stands in quotes, with its quotes doubled; so does the field of a row that is nothing but an
empty field.

The reader goes from character to character.  It ends rows at either kind of line end, and
takes a quote inside a field that is not quoted as it stands.
-/

namespace DroneComms.Csv

/-! ## Writing -/

/-- A character for which a field is quoted. -/
def special (c : Char) : Bool := c = ',' || c = '"' || c = '\r' || c = '\n'

def double (c : Char) : List Char := if c = '"' then ['"', '"'] else [c]

def quoted (field : List Char) : List Char := '"' :: field.flatMap double ++ ['"']

def writeField (field : List Char) : List Char :=
  if field.any special then quoted field else field

def eol : List Char := ['\r', '\n']

def writeRow : List (List Char) → List Char
  | [[]] => quoted [] ++ eol
  | fields => List.intercalate [','] (fields.map writeField) ++ eol

def write (rows : List (List (List Char))) : List Char := rows.flatMap writeRow

/-! ## Reading -/

/-- Where the reader is. -/
inductive Mode where
  | /-- At the start of a row. -/ start
  | /-- Behind a comma. -/ fieldStart
  | /-- In a field without quotes, or behind the closing quote of one with. -/ plain
  | /-- In quotes. -/ quoted
  | /-- Behind a quote that closes a field or is the first one of two. -/ quote
  | /-- Behind a carriage return. -/ cr
deriving DecidableEq, Repr

@[ext] structure Reader where
  rows : List (List (List Char)) := []
  row : List (List Char) := []
  field : List Char := []
  mode : Mode := .start

namespace Reader

/-- The field is complete. -/
def save (s : Reader) : Reader :=
  { s with row := s.row ++ [s.field], field := [], mode := .fieldStart }

/-- The row is complete. -/
def endRow (s : Reader) (mode : Mode) : Reader := { rows := s.rows ++ [s.row], mode }

def push (s : Reader) (c : Char) (mode : Mode) : Reader :=
  { s with field := s.field ++ [c], mode }

/-- A character outside of quotes. -/
def unquoted (s : Reader) (c : Char) : Reader :=
  if c = ',' then s.save
  else if c = '\r' then s.save.endRow .cr
  else if c = '\n' then s.save.endRow .start
  else s.push c .plain

/-- The first character of a field. -/
def startField (s : Reader) (c : Char) : Reader :=
  if c = '"' then { s with mode := .quoted } else s.unquoted c

/-- The first character of a row. -/
def startRow (s : Reader) (c : Char) : Reader :=
  if c = '\r' then s.endRow .cr
  else if c = '\n' then s.endRow .start
  else s.startField c

def step (s : Reader) (c : Char) : Reader :=
  match s.mode with
  | .start => s.startRow c
  | .fieldStart => s.startField c
  | .plain => s.unquoted c
  | .quoted => if c = '"' then { s with mode := .quote } else s.push c .quoted
  | .quote => if c = '"' then s.push c .quoted else s.unquoted c
  | .cr => if c = '\n' then { s with mode := .start } else s.startRow c

/-- The rows at the end of the text; the last one may be open. -/
def finish (s : Reader) : List (List (List Char)) :=
  match s.mode with
  | .start | .cr => s.rows
  | _ => s.rows ++ [s.row ++ [s.field]]

end Reader

def read (text : List Char) : List (List (List Char)) := (text.foldl Reader.step {}).finish

/-! ## Reading back -/

namespace Reader

variable {s : Reader} {field : List Char}

theorem special_eq_false {c : Char} (h : special c = false) :
    c ≠ ',' ∧ c ≠ '"' ∧ c ≠ '\r' ∧ c ≠ '\n' := by
  simpa [special, and_assoc] using h

theorem unquoted_of_special {c : Char} (h : special c = false) : s.unquoted c = s.push c .plain := by
  obtain ⟨hcomma, -, hcr, hlf⟩ := special_eq_false h
  rw [unquoted, if_neg hcomma, if_neg hcr, if_neg hlf]

/-- The rest of a field without quotes. -/
theorem foldl_plain (h : ∀ c ∈ field, special c = false) (hmode : s.mode = .plain) :
    field.foldl step s = { s with field := s.field ++ field } := by
  induction field generalizing s with
  | nil => simp
  | cons c field ih =>
      obtain ⟨hc, hfield⟩ := List.forall_mem_cons.mp h
      have hstep : s.step c = s.push c .plain := by
        rw [step, hmode]
        exact unquoted_of_special hc
      rw [List.foldl_cons, hstep, ih hfield rfl]
      simp [push, hmode]

/-- The body of a field in quotes. -/
theorem foldl_double (hmode : s.mode = .quoted) :
    (field.flatMap double).foldl step s = { s with field := s.field ++ field } := by
  induction field generalizing s with
  | nil => simp
  | cons c field ih =>
      have hstep : (double c).foldl step s = s.push c .quoted := by
        unfold double
        split_ifs with hquote
        · simp [step, hmode, push, hquote]
        · simp [step, hmode, hquote]
      rw [List.flatMap_cons, List.foldl_append, hstep, ih rfl]
      simp [push, hmode]

/-- How a field that begins in a mode may end. -/
inductive Ends (begin : Mode) (field : List Char) : Mode → Prop
  | empty (h : field = []) : Ends begin field begin
  | plain : Ends begin field .plain
  | quote : Ends begin field .quote

/-- A field is read back. -/
theorem exists_ends (hmode : s.mode = .start ∨ s.mode = .fieldStart) (hfield : s.field = [])
    (field : List Char) :
    ∃ mode, (writeField field).foldl step s = { s with field, mode } ∧ Ends s.mode field mode := by
  unfold writeField
  split_ifs with hany
  · refine ⟨.quote, ?_, .quote⟩
    have hopen : s.step '"' = { s with mode := .quoted } := by
      rcases hmode with hmode | hmode <;> simp [step, hmode, startRow, startField]
    rw [quoted, List.cons_append, List.foldl_cons, hopen, List.foldl_append, foldl_double rfl]
    simp [step, hfield]
  · have hall : ∀ c ∈ field, special c = false := by
      simpa using hany
    cases field with
    | nil => exact ⟨s.mode, by rw [List.foldl_nil, ← hfield], .empty rfl⟩
    | cons c field =>
        refine ⟨.plain, ?_, .plain⟩
        obtain ⟨hc, hrest⟩ := List.forall_mem_cons.mp hall
        obtain ⟨hcomma, hquote, hcr, hlf⟩ := special_eq_false hc
        have hstep : s.step c = s.push c .plain := by
          rcases hmode with hmode | hmode <;>
            simp [step, hmode, startRow, startField, hquote, hcr, hlf, unquoted, hcomma]
        rw [List.foldl_cons, hstep, foldl_plain hrest rfl]
        simp [push, hfield]

/-- A comma behind a field. -/
theorem step_comma {begin mode : Mode} (hbegin : begin = .start ∨ begin = .fieldStart)
    (h : Ends begin field mode) :
    step { s with field, mode } ',' =
      { s with row := s.row ++ [field], field := [], mode := .fieldStart } := by
  cases h with
  | empty => rcases hbegin with rfl | rfl <;> simp [step, startRow, startField, unquoted, save]
  | plain => simp [step, unquoted, save]
  | quote => simp [step, unquoted, save]

/-- The end of a row behind a field. -/
theorem foldl_eol {begin mode : Mode} (hbegin : begin = .fieldStart ∨ begin = .start ∧ field ≠ [])
    (h : Ends begin field mode) :
    eol.foldl step { s with field, mode } = { rows := s.rows ++ [s.row ++ [field]] } := by
  cases h with
  | empty hempty =>
      rcases hbegin with rfl | ⟨-, hne⟩
      · simp [eol, step, startField, unquoted, save, endRow]
      · exact absurd hempty hne
  | plain => simp [eol, step, unquoted, save, endRow]
  | quote => simp [eol, step, unquoted, save, endRow]

/-- The rest of a row behind a comma. -/
theorem foldl_fields {fields : List (List Char)} (h : fields ≠ []) (rows : List (List (List Char)))
    (row : List (List Char)) :
    (List.intercalate [','] (fields.map writeField) ++ eol).foldl step
      { rows, row, field := [], mode := .fieldStart } = { rows := rows ++ [row ++ fields] } := by
  induction fields generalizing row with
  | nil => exact absurd rfl h
  | cons field fields ih =>
      obtain ⟨mode, hfold, hends⟩ :=
        exists_ends (s := { rows, row, field := [], mode := .fieldStart }) (.inr rfl) rfl field
      cases fields with
      | nil =>
          rw [List.map_singleton, List.intercalate_singleton, List.foldl_append, hfold]
          exact foldl_eol (.inl rfl) hends
      | cons next fields =>
          rw [List.map_cons, List.map_cons, List.intercalate_cons_cons, List.append_assoc,
            List.append_assoc, List.foldl_append, hfold, List.singleton_append, List.foldl_cons,
            step_comma (.inr rfl) hends, ← List.map_cons, ih (List.cons_ne_nil _ _)]
          simp

/-- A row is read back. -/
theorem foldl_writeRow (rows : List (List (List Char))) (fields : List (List Char)) :
    (writeRow fields).foldl step { rows } = { rows := rows ++ [fields] } := by
  unfold writeRow
  split
  · rfl
  · rename_i hne
    cases fields with
    | nil => rfl
    | cons field fields =>
        obtain ⟨mode, hfold, hends⟩ := exists_ends (s := { rows }) (.inl rfl) rfl field
        cases fields with
        | nil =>
            have hfield : field ≠ [] := by
              rintro rfl
              exact hne rfl
            rw [List.map_singleton, List.intercalate_singleton, List.foldl_append, hfold]
            exact foldl_eol (.inr ⟨rfl, hfield⟩) hends
        | cons next fields =>
            rw [List.map_cons, List.map_cons, List.intercalate_cons_cons, List.append_assoc,
              List.append_assoc, List.foldl_append, hfold, List.singleton_append, List.foldl_cons,
              step_comma (.inl rfl) hends, ← List.map_cons, foldl_fields (List.cons_ne_nil _ _)]
            simp

end Reader

/-- Reading inverts writing. -/
theorem read_write (rows : List (List (List Char))) : read (write rows) = rows := by
  have hfold : ∀ done,
      (write rows).foldl Reader.step { rows := done } = { rows := done ++ rows } := by
    induction rows with
    | nil => simp [write]
    | cons row rows ih =>
        intro done
        rw [write, List.flatMap_cons, List.foldl_append, Reader.foldl_writeRow]
        exact (ih _).trans (by simp)
  rw [read]
  exact (congrArg Reader.finish (hfold [])).trans (List.nil_append rows)

end DroneComms.Csv
