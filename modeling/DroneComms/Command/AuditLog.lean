import DroneComms.Command.Calls
import DroneComms.Py.JsonRoundTrip
import DroneComms.Lib.LineLog
import DroneComms.Lib.Automaton

/-!
# The audit file

`JsonlAuditLog` of `meshsa/command/audit.py` over any number of process
lifetimes on one path.  `record` appends one line of JSON and syncs the file
before it returns.  A crash keeps what was synced and some prefix of the rest,
in particular of the line being written; the next lifetime opens the file to
append and writes on from there.

The model remembers every record whose `record` call returned and the length of
the file at that moment, which is where its line begins.
-/

namespace DroneComms.Command

open Py (Value PyFloat)
open Py.Json (JsonText WellKeyed)
open LineLog

/-- What one `record` call writes: the clock reading and the two arguments. -/
structure AuditRecord where
  t : PyFloat
  event : String
  data : List (String × Value)
  wellKeyed : WellKeyed (.dict data)

namespace AuditRecord

/-- `{"t": ..., "event": ..., "data": ...}`. -/
def fields (r : AuditRecord) : List (String × Value) :=
  [("t", .float r.t), ("event", .str r.event), ("data", .dict r.data)]

/-- The line without its line break. -/
def line (text : JsonText) (r : AuditRecord) : List Char :=
  Py.Json.dumps text.toFloatText [] (.dict r.fields)

end AuditRecord

/-- The records of the command path have distinct keys. -/
theorem AuditEvent.wellKeyed_data (e : AuditEvent) : WellKeyed (.dict e.data) := by
  cases e with
  | commandFailed command name attempts result =>
      cases result <;> exact ⟨by simp [AuditEvent.data, AuditEvent.base], trivial, trivial,
        trivial, trivial, trivial⟩
  | commandStaged | commandConfirmed | commandAttempt | commandNoAck | commandAccepted =>
      exact ⟨by simp [AuditEvent.data, AuditEvent.base], trivial, trivial, trivial, trivial⟩
  | commandCancelled | armBlocked =>
      exact ⟨by simp [AuditEvent.data], trivial, trivial⟩
  | commandRejected | commandRetry =>
      exact ⟨by simp [AuditEvent.data, AuditEvent.base], trivial, trivial, trivial, trivial,
        trivial⟩

/-- What the command path writes at the clock reading `t`. -/
def AuditEvent.toRecord (t : PyFloat) (e : AuditEvent) : AuditRecord :=
  ⟨t, e.event, e.data, e.wellKeyed_data⟩

/-- The fields of a `JsonlAuditLog`. -/
structure JsonlAuditLog where
  /-- `_fh` is an open file. -/
  isOpen : Bool := false
  closed : Bool := false
deriving DecidableEq

/-- A record whose call returned, and where its line begins. -/
structure Returned where
  record : AuditRecord
  offset : ℕ

/-- The audit file, the object that writes it, and what it was given. -/
structure AuditFile where
  log : JsonlAuditLog := {}
  /-- The synced part of the file. -/
  synced : List Char := []
  /-- Flushed but not synced. -/
  flushed : List Char := []
  returned : List Returned := []

/-- What can happen next. -/
inductive AuditFileEvent where
  | start
  | record (r : AuditRecord)
  | close
  | /-- The process dies, possibly while it writes a record; `kept` characters
    behind the synced part stay. -/ crash (writing : Option AuditRecord) (kept : ℕ)
  | /-- The process ends and a new one takes over. -/ restart

namespace AuditFile

/-- What a reader of the file sees. -/
def content (w : AuditFile) : List Char := w.synced ++ w.flushed

/-- What `record` appends. -/
def appended (text : JsonText) (r : AuditRecord) : List Char := r.line text ++ ['\n']

/-- One step.  A call that raises leaves everything as it is. -/
def step (text : JsonText) (fsync : Bool) (w : AuditFile) : AuditFileEvent → Option AuditFile
  | .start =>
      if w.log.closed then some w
      else some { w with log := { w.log with isOpen := true } }
  | .record r =>
      if w.log.closed || !w.log.isOpen then some w
      else
        let returned := ⟨r, w.content.length⟩ :: w.returned
        if fsync then
          some { w with synced := w.content ++ appended text r, flushed := [], returned }
        else some { w with flushed := w.flushed ++ appended text r, returned }
  | .close => some { w with log := ⟨false, true⟩ }
  | .crash writing kept =>
      let line := (writing.map (appended text)).getD []
      if writing.isSome && (w.log.closed || !w.log.isOpen) then none
      else some { w with
        log := {}
        synced := w.synced ++ (w.flushed ++ line).take kept
        flushed := [] }
  | .restart => some { w with log := {} }

/-- One JSON object per line. -/
def parseLine (text : JsonText) (line : List Char) : Option (List (String × Value)) :=
  match Py.Json.loads text.toFloatText line with
  | some (.dict kvs) => some kvs
  | _ => none

/-- Every record whose call returned is read back, and its line is merged with
no other. -/
structure Recoverable (text : JsonText) (w : AuditFile) : Prop where
  readBack : ∀ r ∈ w.returned, r.record.fields ∈ readBack '\n' (parseLine text) w.content
  ownLine : ∀ r ∈ w.returned, OnOwnLine '\n' w.content (r.record.line text) r.offset

/-- A record is only written to a file whose last line is complete, and a crash
keeps what was flushed.  The second is up to `fsync`, which leaves nothing merely
flushed. -/
def KeepsLines (w : AuditFile) : AuditFileEvent → Prop
  | .record _ => w.log.closed = false → w.log.isOpen = true → Terminated '\n' w.content
  | .crash _ kept => w.flushed.length ≤ kept
  | _ => True

variable {text : JsonText} {fsync : Bool} {w q : AuditFile} {e : AuditFileEvent}

/-- Reading back the line of a record. -/
theorem parseLine_line (r : AuditRecord) : parseLine text (r.line text) = some r.fields := by
  have hkeyed : WellKeyed (.dict r.fields) :=
    ⟨by simp [AuditRecord.fields], trivial, trivial, r.wellKeyed, trivial⟩
  rw [parseLine, AuditRecord.line, Py.Json.loads_dumps text (List.forall_mem_nil _) hkeyed]

/-- The line of a record has no line break. -/
theorem newline_not_mem_line (r : AuditRecord) : '\n' ∉ r.line text := by
  intro h
  have hprint := Py.Json.printable_dumps text (List.forall_mem_nil _) _ _ h
  exact absurd hprint (by decide)

/-- A line that stands on its own is read back. -/
theorem mem_readBack {r : Returned} {content : List Char}
    (h : OnOwnLine '\n' content (r.record.line text) r.offset) :
    r.record.fields ∈ LineLog.readBack '\n' (parseLine text) content :=
  h.mem_readBack (newline_not_mem_line r.record) (parseLine_line r.record)

/-- It is enough that the lines stand on their own. -/
theorem recoverable_iff : w.Recoverable text ↔
    ∀ r ∈ w.returned, OnOwnLine '\n' w.content (r.record.line text) r.offset :=
  ⟨fun h ↦ h.ownLine, fun h ↦ ⟨fun r hr ↦ mem_readBack (h r hr), h⟩⟩

/-- A step appends a record, leaves the returned ones where they are, or loses
something that was flushed. -/
theorem step_cases (h : w.step text fsync e = some q) :
    (∃ r, e = .record r ∧ w.log.closed = false ∧ w.log.isOpen = true ∧
        q.content = w.content ++ appended text r ∧
        q.returned = ⟨r, w.content.length⟩ :: w.returned) ∨
      (w.KeepsLines e ∧ w.content <+: q.content ∧ q.returned = w.returned) ∨
      (¬ w.KeepsLines e ∧ w.flushed ≠ [] ∧ q.content.length < w.content.length ∧
        q.returned = w.returned) := by
  cases e with
  | start =>
      simp only [step] at h
      split at h <;> cases h <;> exact .inr (.inl ⟨trivial, List.prefix_refl _, rfl⟩)
  | record r =>
      simp only [step] at h
      split at h
      · rename_i hrefused
        cases h
        refine .inr (.inl ⟨fun hclosed hopen ↦ ?_, List.prefix_refl _, rfl⟩)
        simp [hclosed, hopen] at hrefused
      · rename_i haccepted
        rw [Bool.or_eq_true, not_or, Bool.not_eq_true, Bool.not_eq_true', Bool.not_eq_false]
          at haccepted
        refine .inl ⟨r, rfl, haccepted.1, haccepted.2, ?_⟩
        split at h
        · cases h
          exact ⟨List.append_nil _, rfl⟩
        · cases h
          exact ⟨(List.append_assoc ..).symm, rfl⟩
  | close =>
      cases h
      exact .inr (.inl ⟨trivial, List.prefix_refl _, rfl⟩)
  | crash writing kept =>
      obtain ⟨-, h⟩ := Option.ite_none_left_eq_some.mp h
      cases h
      by_cases hkept : w.flushed.length ≤ kept
      · refine .inr (.inl ⟨hkept, ?_, rfl⟩)
        show w.synced ++ w.flushed <+: w.synced ++ (w.flushed ++ _).take kept ++ []
        rw [List.append_nil, List.prefix_append_right_inj, List.take_append,
          List.take_of_length_le hkept]
        exact List.prefix_append ..
      · refine .inr (.inr ⟨hkept, fun hnil ↦ ?_, ?_, rfl⟩)
        · simp [hnil] at hkept
        · simp only [content, List.length_append, List.length_take, List.length_nil]
          omega
  | restart =>
      cases h
      exact .inr (.inl ⟨trivial, List.prefix_refl _, rfl⟩)

/-- What is flushed but not synced ends with the line of a returned record. -/
def EndsWithRecord (text : JsonText) (w : AuditFile) : Prop :=
  w.flushed = [] ∨
    ∃ r ∈ w.returned, w.content.length = r.offset + (appended text r.record).length

theorem EndsWithRecord.step (hw : w.EndsWithRecord text) (h : w.step text fsync e = some q) :
    q.EndsWithRecord text := by
  cases e with
  | start =>
      simp only [AuditFile.step] at h
      split at h <;> cases h <;> exact hw
  | record r =>
      simp only [AuditFile.step] at h
      split at h
      · cases h
        exact hw
      · split at h
        · cases h
          exact .inl rfl
        · cases h
          refine .inr ⟨_, List.mem_cons_self, ?_⟩
          simp only [content, List.length_append]
          omega
  | close =>
      cases h
      exact hw
  | crash writing kept =>
      obtain ⟨-, h⟩ := Option.ite_none_left_eq_some.mp h
      cases h
      exact .inl rfl
  | restart =>
      cases h
      exact hw

/-- A line that stood on its own does so in every continuation. -/
theorem Recoverable.grow (hw : w.Recoverable text) (hgrow : w.content <+: q.content)
    (hreturned : q.returned = w.returned) : q.Recoverable text := by
  obtain ⟨more, hmore⟩ := hgrow
  rw [recoverable_iff, ← hmore, hreturned]
  exact fun r hr ↦ (hw.ownLine r hr).append more

/-- The record at the end of a file that lost its end is not recoverable. -/
theorem not_recoverable_of_lost (hw : w.EndsWithRecord text) (hflushed : w.flushed ≠ [])
    (hlost : q.content.length < w.content.length) (hreturned : q.returned = w.returned) :
    ¬ q.Recoverable text := by
  intro h
  rcases hw with hnil | ⟨r, hr, hend⟩
  · exact hflushed hnil
  · rw [← hreturned] at hr
    have hline := (h.ownLine r hr).line.length_le
    rw [List.length_drop] at hline
    simp only [appended, List.length_append, List.length_singleton] at hend hline
    omega

/-- A step keeps every returned record recoverable exactly if it does not write
behind a torn line and does not lose what was flushed. -/
theorem recoverable_step_iff (hend : w.EndsWithRecord text) (hw : w.Recoverable text)
    (h : w.step text fsync e = some q) : q.Recoverable text ↔ w.KeepsLines e := by
  rcases step_cases h with ⟨r, rfl, hclosed, hopen, hcontent, hreturned⟩ |
    ⟨hkeeps, hgrow, hreturned⟩ | ⟨hnot, hflushed, hlost, hreturned⟩
  · have hold : ∀ r' ∈ w.returned,
        OnOwnLine '\n' (w.content ++ appended text r) (r'.record.line text) r'.offset :=
      fun r' hr' ↦ (hw.ownLine r' hr').append _
    rw [recoverable_iff, hcontent, hreturned, List.forall_mem_cons, and_iff_left hold]
    rw [appended, ← List.append_assoc, onOwnLine_append_iff]
    exact ⟨fun hterm _ _ ↦ hterm, fun hkeeps ↦ hkeeps hclosed hopen⟩
  · exact iff_of_true (hw.grow hgrow hreturned) hkeeps
  · exact iff_of_false (not_recoverable_of_lost hend hflushed hlost hreturned) hnot

/-- **Audit records survive.**  Over any number of lifetimes, every record that
was returned is recoverable throughout if and only if no record is written
behind a torn line and no crash loses what was flushed. -/
theorem recoverable_always_iff_keeps_lines (text : JsonText) (fsync : Bool)
    (es : List AuditFileEvent) :
    Automaton.Always (step text fsync) (Recoverable text) {} es ↔
      Automaton.Along (step text fsync) KeepsLines {} es :=
  Automaton.always_iff_along (J := EndsWithRecord text) (fun _ _ _ hw h ↦ hw.step h)
    (fun _ _ _ hw hr h ↦ recoverable_step_iff hw hr h) (.inl rfl)
    (recoverable_iff.mpr (List.forall_mem_nil _)) es

/-- A first lifetime dies behind the first character of a line.  The record that
the second lifetime returns is merged with it, and no line of the file parses. -/
theorem torn_line_loses_next_record :
    ¬ Automaton.Always (step .plain true) (Recoverable .plain) {}
      [.start, .crash (some ((AuditEvent.commandCancelled "a").toRecord (.fin 1))) 1, .start,
        .record ((AuditEvent.commandCancelled "b").toRecord (.fin 2))] := by
  intro h
  have hend : (Automaton.exec (step .plain true) {}
      [.start, .crash (some ((AuditEvent.commandCancelled "a").toRecord (.fin 1))) 1, .start,
        .record ((AuditEvent.commandCancelled "b").toRecord (.fin 2))]).any
      (fun w ↦ !w.returned.isEmpty &&
        (LineLog.readBack '\n' (parseLine .plain) w.content).isEmpty) = true := by
    decide +kernel
  obtain ⟨w, hw, hbad⟩ := (Option.any_eq_true _ _).mp hend
  have hgood := Automaton.always_iff_prefix.mp h _ w (List.prefix_refl _) hw
  rw [Bool.and_eq_true, List.isEmpty_iff, Bool.not_eq_true', List.isEmpty_eq_false_iff] at hbad
  obtain ⟨r, hr⟩ := List.exists_mem_of_ne_nil _ hbad.1
  have hread := hgood.readBack r hr
  rw [hbad.2] at hread
  cases hread

end AuditFile

end DroneComms.Command
