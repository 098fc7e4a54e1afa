import DroneComms.Lib.Automaton
import DroneComms.Lib.BufferedFile
import Mathlib.Data.Fintype.Basic
import Mathlib.Data.List.Infix
import Mathlib.Tactic

/-!
# The flight logger

The threads of `meshsa/fpv/flight_logger.py`, from the end of `start()` on: any
number of record calls, the writer, and one call of `close()` whose waits do not
time out.  They share the queue, the `_closed` flag and the drop counters; each
step is one operation on one of these, or on the files, which one thread has at a
time.

A disk that raises does so in a write, a flush, or when `close()` closes a file or
writes the manifest.  `set_note`, the telemetry rates and the rest of the manifest
are left out.
-/

namespace DroneComms.Fpv.FlightLogger

open Automaton

/-! ## State -/

/-- `_HEADERS`. -/
inductive Stream where
  | rc
  | telemetry
  | events
  | frames
deriving DecidableEq, Repr

instance : Fintype Stream where
  elems := {.rc, .telemetry, .events, .frames}
  complete stream := by cases stream <;> decide

/-- The position of a stream in `_HEADERS`. -/
def Stream.index : Stream → ℕ
  | rc => 0
  | telemetry => 1
  | events => 2
  | frames => 3

/-- A call of `record_rc`, `record_telemetry`, `record_event` or `record_frame`. -/
structure Call where
  id : ℕ
  stream : Stream
  /-- `json.dumps(rec)`, unless it raises a `TypeError` or a `ValueError`. -/
  line : Option String
deriving DecidableEq, Repr

inductive QueueItem where
  | sentinel
  | record (c : Call)
deriving DecidableEq, Repr

/-- Where the writer thread is: in its loop, with a record, behind an exception of its write,
behind the loop, or no longer alive. -/
inductive Writer where
  | waiting
  | writing (c : Call)
  | failed (c : Call)
  | stopping
  | ended
deriving DecidableEq, Repr

/-- How far `close()` is. -/
inductive Closing where
  | notCalled
  | flagged
  | sentinelPut
  | joined
  | filesClosed
  | returned
  | raised
deriving DecidableEq, Repr

/-- `manifest.json`; `start()` has written one without drops. -/
structure Manifest where
  droppedRecords : Stream → ℕ := fun _ ↦ 0
  /-- The calls counted in them; no code reads it. -/
  counted : List Call := []

/-- A started logger.  From `calls` on the lists say where the calls are: `checked` and
`overflowed` are the positions of threads, and nothing reads the others. -/
structure Logger where
  queue : List QueueItem := []
  droppedRecords : Stream → ℕ := fun _ ↦ 0
  /-- The files behind their headers, a line for each call. -/
  files : Stream → BufferedFile Call := fun _ ↦ {}
  closing : Closing := .notCalled
  manifest : Manifest := {}
  writer : Writer := .waiting
  /-- All calls. -/
  calls : List Call := []
  /-- Calls that have passed `_check_writable` and have not put their record yet. -/
  checked : List Call := []
  /-- Calls that have found the queue full and have not counted their record yet. -/
  overflowed : List Call := []
  returned : List Call := []
  raised : List Call := []
  /-- Calls whose record is counted in `dropped_records`. -/
  counted : List Call := []
  /-- Calls whose line an `OSError` has dropped behind their own write. -/
  lost : List Call := []
  /-- Calls whose own write has raised an `OSError`. -/
  writeErrors : List Call := []

/-- `_closed`. -/
def Logger.closed (s : Logger) : Bool := s.closing ≠ .notCalled

/-- The queue takes another item; a size that is not positive is no bound. -/
def Logger.HasRoom (maxsize : ℤ) (s : Logger) : Prop :=
  maxsize ≤ 0 ∨ (s.queue.length : ℤ) < maxsize

instance (maxsize : ℤ) (s : Logger) : Decidable (s.HasRoom maxsize) :=
  inferInstanceAs (Decidable (_ ∨ _))

/-- `self.dropped_records[stream] += 1`. -/
def Logger.drop (s : Logger) (c : Call) : Logger :=
  { s with
    droppedRecords := Function.update s.droppedRecords c.stream (s.droppedRecords c.stream + 1)
    counted := s.counted ++ [c] }

/-! ## Files -/

/-- What a write does. -/
inductive WriteOutcome where
  /-- It returns, and `saved` pending lines are on the disk. -/
  | returned (saved : ℕ)
  /-- It raises an `OSError`; the next `kept` pending lines are still in a buffer. -/
  | raised (saved kept : ℕ)
deriving DecidableEq, Repr

/-- The file whose flush or close raises, and what becomes of its pending lines. -/
structure Failure where
  stream : Stream
  saved : ℕ
  kept : ℕ
deriving DecidableEq, Repr

/-- `_flush`: the files are flushed in the order of `_HEADERS`, up to one that raises. -/
def flushFiles (files : Stream → BufferedFile Call) : Option Failure → Stream → BufferedFile Call
  | none, stream => (files stream).flush
  | some x, stream =>
      if stream.index < x.stream.index then (files stream).flush
      else if stream = x.stream then (files stream).cut x.saved x.kept
      else files stream

/-- The lines that a flush drops. -/
def droppedLines (files : Stream → BufferedFile Call) : Option Failure → List Call
  | none => []
  | some x => (files x.stream).dropped x.saved x.kept

/-- A file that is closed keeps nothing in its buffers. -/
def Failure.closing (x : Failure) : Failure := { x with kept := 0 }

/-! ## Steps -/

inductive Event where
  /-- A new call is at `_check_writable`. -/
  | check (c : Call)
  /-- A checked call puts its record, or finds the queue full. -/
  | put (c : Call)
  /-- The `put` of an event times out. -/
  | timeout (c : Call)
  /-- A call counts the record it could not put, and returns. -/
  | count (c : Call)
  /-- The writer gets an item. -/
  | get
  /-- The writer writes its record. -/
  | write (outcome : WriteOutcome)
  /-- The writer counts a record that was not written. -/
  | countFailure
  /-- The writer flushes the files; an exception ends its thread. -/
  | flush (failure : Option Failure)
  /-- `close()` sets `_closed`. -/
  | close
  | putSentinel
  | join
  /-- `close()` closes the files. -/
  | closeFiles (failure : Option Failure)
  /-- `close()` writes the final manifest, or raises an `OSError`. -/
  | writeManifest (raises : Bool)

/-- One step of one of the threads. -/
def step (maxsize : ℤ) (s : Logger) : Event → Option Logger
  | .check c =>
      if c ∈ s.calls then none
      else if s.closed then
        some { s with calls := s.calls ++ [c], raised := s.raised ++ [c] }
      else some { s with calls := s.calls ++ [c], checked := s.checked ++ [c] }
  | .put c =>
      if c ∉ s.checked then none
      else if s.HasRoom maxsize then
        some { s with
          queue := s.queue ++ [.record c]
          checked := s.checked.erase c
          returned := s.returned ++ [c] }
      else if c.stream = .events then none
      else some { s with checked := s.checked.erase c, overflowed := s.overflowed ++ [c] }
  | .timeout c =>
      if c ∈ s.checked ∧ c.stream = .events ∧ ¬s.HasRoom maxsize then
        some { s with checked := s.checked.erase c, raised := s.raised ++ [c] }
      else none
  | .count c =>
      if c ∈ s.overflowed then
        some { s.drop c with
          overflowed := s.overflowed.erase c
          returned := s.returned ++ [c] }
      else none
  | .get =>
      match s.writer, s.queue with
      | .waiting, .sentinel :: queue => some { s with queue, writer := .stopping }
      | .waiting, .record c :: queue => some { s with queue, writer := .writing c }
      | _, _ => none
  | .write outcome =>
      match s.writer with
      | .writing c =>
          let file := s.files c.stream
          match c.line, outcome with
          | none, _ => some { s with writer := .failed c }
          | some _, .returned saved =>
              some { s with
                files := Function.update s.files c.stream (file.write c saved)
                writer := .waiting }
          | some _, .raised saved kept =>
              some { s with
                files := Function.update s.files c.stream (file.cut saved kept)
                writer := .failed c
                lost := s.lost ++ file.dropped saved kept
                writeErrors := s.writeErrors ++ [c] }
      | _ => none
  | .countFailure =>
      match s.writer with
      | .failed c => some { s.drop c with writer := .waiting }
      | _ => none
  | .flush failure =>
      if s.writer = .waiting ∨ s.writer = .stopping then
        some { s with
          files := flushFiles s.files failure
          writer := if s.writer = .stopping ∨ failure.isSome then .ended else .waiting
          lost := s.lost ++ droppedLines s.files failure }
      else none
  | .close => if s.closing = .notCalled then some { s with closing := .flagged } else none
  | .putSentinel =>
      if s.closing = .flagged ∧ s.HasRoom maxsize then
        some { s with queue := s.queue ++ [.sentinel], closing := .sentinelPut }
      else none
  | .join =>
      if s.closing = .sentinelPut ∧ s.writer = .ended then some { s with closing := .joined }
      else none
  | .closeFiles failure =>
      if s.closing = .joined then
        some { s with
          files := flushFiles s.files (failure.map Failure.closing)
          closing := if failure.isSome then .raised else .filesClosed
          lost := s.lost ++ droppedLines s.files (failure.map Failure.closing) }
      else none
  | .writeManifest raises =>
      if s.closing = .filesClosed then
        if raises then some { s with closing := .raised }
        else
          some { s with
            closing := .returned
            manifest := { droppedRecords := s.droppedRecords, counted := s.counted } }
      else none

/-- Everything a step can do. -/
inductive Stepped (maxsize : ℤ) (s : Logger) : Event → Logger → Prop
  | refused {c : Call} (hnew : c ∉ s.calls) (hclosed : s.closing ≠ .notCalled) :
      Stepped maxsize s (.check c) { s with calls := s.calls ++ [c], raised := s.raised ++ [c] }
  | checked {c : Call} (hnew : c ∉ s.calls) (hopen : s.closing = .notCalled) :
      Stepped maxsize s (.check c) { s with calls := s.calls ++ [c], checked := s.checked ++ [c] }
  | put {c : Call} (hc : c ∈ s.checked) (hroom : s.HasRoom maxsize) :
      Stepped maxsize s (.put c) { s with
        queue := s.queue ++ [.record c]
        checked := s.checked.erase c
        returned := s.returned ++ [c] }
  | overflow {c : Call} (hc : c ∈ s.checked) (hroom : ¬s.HasRoom maxsize)
      (hlossy : c.stream ≠ .events) :
      Stepped maxsize s (.put c)
        { s with checked := s.checked.erase c, overflowed := s.overflowed ++ [c] }
  | timeout {c : Call} (hc : c ∈ s.checked) (hevent : c.stream = .events)
      (hroom : ¬s.HasRoom maxsize) :
      Stepped maxsize s (.timeout c)
        { s with checked := s.checked.erase c, raised := s.raised ++ [c] }
  | count {c : Call} (hc : c ∈ s.overflowed) :
      Stepped maxsize s (.count c)
        { s.drop c with overflowed := s.overflowed.erase c, returned := s.returned ++ [c] }
  | stop {queue : List QueueItem} (hwriter : s.writer = .waiting)
      (hqueue : s.queue = .sentinel :: queue) :
      Stepped maxsize s .get { s with queue, writer := .stopping }
  | take {c : Call} {queue : List QueueItem} (hwriter : s.writer = .waiting)
      (hqueue : s.queue = .record c :: queue) :
      Stepped maxsize s .get { s with queue, writer := .writing c }
  | unserialisable {c : Call} {outcome : WriteOutcome} (hwriter : s.writer = .writing c)
      (hline : c.line = none) :
      Stepped maxsize s (.write outcome) { s with writer := .failed c }
  | write {c : Call} {saved : ℕ} (hwriter : s.writer = .writing c) (hline : c.line.isSome) :
      Stepped maxsize s (.write (.returned saved)) { s with
        files := Function.update s.files c.stream ((s.files c.stream).write c saved)
        writer := .waiting }
  | writeError {c : Call} {saved kept : ℕ} (hwriter : s.writer = .writing c)
      (hline : c.line.isSome) :
      Stepped maxsize s (.write (.raised saved kept)) { s with
        files := Function.update s.files c.stream ((s.files c.stream).cut saved kept)
        writer := .failed c
        lost := s.lost ++ (s.files c.stream).dropped saved kept
        writeErrors := s.writeErrors ++ [c] }
  | countFailure {c : Call} (hwriter : s.writer = .failed c) :
      Stepped maxsize s .countFailure { s.drop c with writer := .waiting }
  | flush {failure : Option Failure} (hwriter : s.writer = .waiting ∨ s.writer = .stopping) :
      Stepped maxsize s (.flush failure) { s with
        files := flushFiles s.files failure
        writer := if s.writer = .stopping ∨ failure.isSome then .ended else .waiting
        lost := s.lost ++ droppedLines s.files failure }
  | close (hopen : s.closing = .notCalled) :
      Stepped maxsize s .close { s with closing := .flagged }
  | putSentinel (hflagged : s.closing = .flagged) (hroom : s.HasRoom maxsize) :
      Stepped maxsize s .putSentinel
        { s with queue := s.queue ++ [.sentinel], closing := .sentinelPut }
  | join (hput : s.closing = .sentinelPut) (hended : s.writer = .ended) :
      Stepped maxsize s .join { s with closing := .joined }
  | closeFiles {failure : Option Failure} (hjoined : s.closing = .joined) :
      Stepped maxsize s (.closeFiles failure) { s with
        files := flushFiles s.files (failure.map Failure.closing)
        closing := if failure.isSome then .raised else .filesClosed
        lost := s.lost ++ droppedLines s.files (failure.map Failure.closing) }
  | manifestError (hclosed : s.closing = .filesClosed) :
      Stepped maxsize s (.writeManifest true) { s with closing := .raised }
  | writeManifest (hclosed : s.closing = .filesClosed) :
      Stepped maxsize s (.writeManifest false) { s with
        closing := .returned
        manifest := { droppedRecords := s.droppedRecords, counted := s.counted } }

variable {maxsize : ℤ} {s s' : Logger} {e : Event} {es : List Event}

theorem stepped (h : step maxsize s e = some s') : Stepped maxsize s e s' := by
  cases e with
  | check c =>
      simp only [step, Option.ite_none_left_eq_some] at h
      obtain ⟨hnew, h⟩ := h
      by_cases hopen : s.closing = .notCalled
      · rw [if_neg (by simp [Logger.closed, hopen])] at h
        cases h
        exact .checked hnew hopen
      · rw [if_pos (show s.closed = true from decide_eq_true hopen)] at h
        cases h
        exact .refused hnew hopen
  | put c =>
      simp only [step] at h
      split_ifs at h with hc hroom hevent <;> cases h
      · exact .put hc hroom
      · exact .overflow hc hroom hevent
  | timeout c =>
      simp only [step, Option.ite_none_right_eq_some, Option.some.injEq] at h
      obtain ⟨⟨hc, hevent, hroom⟩, rfl⟩ := h
      exact .timeout hc hevent hroom
  | count c =>
      simp only [step, Option.ite_none_right_eq_some, Option.some.injEq] at h
      obtain ⟨hc, rfl⟩ := h
      exact .count hc
  | get =>
      simp only [step] at h
      split at h <;> cases h
      · exact .stop ‹_› ‹_›
      · exact .take ‹_› ‹_›
  | write outcome =>
      simp only [step] at h
      split at h
      · split at h <;> cases h
        · exact .unserialisable ‹_› ‹_›
        · exact .write ‹_› (Option.isSome_of_eq_some ‹_›)
        · exact .writeError ‹_› (Option.isSome_of_eq_some ‹_›)
      · cases h
  | countFailure =>
      simp only [step] at h
      split at h <;> cases h
      exact .countFailure ‹_›
  | flush failure =>
      simp only [step, Option.ite_none_right_eq_some, Option.some.injEq] at h
      obtain ⟨hwriter, rfl⟩ := h
      exact .flush hwriter
  | close =>
      simp only [step, Option.ite_none_right_eq_some, Option.some.injEq] at h
      obtain ⟨hopen, rfl⟩ := h
      exact .close hopen
  | putSentinel =>
      simp only [step, Option.ite_none_right_eq_some, Option.some.injEq] at h
      obtain ⟨⟨hflagged, hroom⟩, rfl⟩ := h
      exact .putSentinel hflagged hroom
  | join =>
      simp only [step, Option.ite_none_right_eq_some, Option.some.injEq] at h
      obtain ⟨⟨hput, hended⟩, rfl⟩ := h
      exact .join hput hended
  | closeFiles failure =>
      simp only [step, Option.ite_none_right_eq_some, Option.some.injEq] at h
      obtain ⟨hjoined, rfl⟩ := h
      exact .closeFiles hjoined
  | writeManifest raises =>
      simp only [step] at h
      split_ifs at h with hclosed hraises <;> cases h
      · subst hraises
        exact .manifestError hclosed
      · rw [Bool.not_eq_true] at hraises
        subst hraises
        exact .writeManifest hclosed

/-! ## The files of a stream -/

/-- A file has lines of its stream only, and lines that are there to be written. -/
def Filed (files : Stream → BufferedFile Call) : Prop :=
  ∀ stream, ∀ c ∈ (files stream).lines, c.stream = stream ∧ c.line.isSome

theorem dropped_subset (f : BufferedFile Call) (saved kept : ℕ) :
    f.dropped saved kept ⊆ f.lines := by
  rw [← f.lines_cut saved kept]
  exact List.subset_append_right _ _

theorem lines_cut_subset (f : BufferedFile Call) (saved kept : ℕ) :
    (f.cut saved kept).lines ⊆ f.lines := by
  rw [← f.lines_cut saved kept]
  exact List.subset_append_left _ _

theorem flushFiles_subset (files : Stream → BufferedFile Call) (failure : Option Failure)
    (stream : Stream) : (flushFiles files failure stream).lines ⊆ (files stream).lines := by
  cases failure with
  | none => exact fun c hc ↦ (files stream).lines_flush ▸ hc
  | some x =>
      rw [flushFiles]
      split_ifs
      · exact fun c hc ↦ (files stream).lines_flush ▸ hc
      · exact lines_cut_subset ..
      · exact List.Subset.refl _

theorem Filed.flushFiles {files : Stream → BufferedFile Call} (h : Filed files)
    (failure : Option Failure) : Filed (flushFiles files failure) :=
  fun stream c hc ↦ h stream c (flushFiles_subset files failure stream hc)

theorem Filed.update {files : Stream → BufferedFile Call} (h : Filed files) {stream : Stream}
    {file : BufferedFile Call} (hfile : ∀ c ∈ file.lines, c.stream = stream ∧ c.line.isSome) :
    Filed (Function.update files stream file) := by
  intro stream' c hc
  by_cases hstream : stream' = stream
  · subst hstream
    rw [Function.update_self] at hc
    exact hfile c hc
  · rw [Function.update_of_ne hstream] at hc
    exact h stream' c hc

theorem Filed.step (hs : Filed s.files) (h : Stepped maxsize s e s') : Filed s'.files := by
  cases h with
  | refused | checked | put | overflow | timeout | count | stop | take | unserialisable |
      countFailure | close | putSentinel | join | manifestError | writeManifest => exact hs
  | @write c saved hwriter hline =>
      refine hs.update fun c' hc' ↦ ?_
      rw [BufferedFile.lines_write] at hc'
      rcases List.mem_append.mp hc' with hc' | hc'
      · exact hs _ c' hc'
      · rw [List.mem_singleton.mp hc']
        exact ⟨rfl, hline⟩
  | writeError hwriter hline =>
      exact hs.update fun c' hc' ↦ hs _ c' (lines_cut_subset _ _ _ hc')
  | flush | closeFiles => exact hs.flushFiles _

/-- A flush keeps a line in the file of its stream, or drops it. -/
theorem Filed.count_flushFiles {files : Stream → BufferedFile Call} (h : Filed files)
    (failure : Option Failure) (c : Call) :
    (FlightLogger.flushFiles files failure c.stream).lines.count c +
      (droppedLines files failure).count c = (files c.stream).lines.count c := by
  cases failure with
  | none =>
      rw [FlightLogger.flushFiles, BufferedFile.lines_flush]
      rfl
  | some x =>
      rw [FlightLogger.flushFiles, droppedLines]
      by_cases hstream : c.stream = x.stream
      · rw [if_neg (by rw [hstream]; exact lt_irrefl _), if_pos hstream, ← hstream,
          ← List.count_append, BufferedFile.lines_cut]
      · have hnone : ((files x.stream).dropped x.saved x.kept).count c = 0 :=
          List.count_eq_zero.mpr fun hc ↦ hstream (h _ c (dropped_subset _ _ _ hc)).1
        rw [hnone, if_neg hstream, Nat.add_zero]
        split_ifs
        · rw [BufferedFile.lines_flush]
        · rfl

/-! ## Where the calls are -/

/-- The records in a queue. -/
def records : List QueueItem → List Call
  | [] => []
  | .sentinel :: queue => records queue
  | .record c :: queue => c :: records queue

@[simp] theorem records_append (queue queue' : List QueueItem) :
    records (queue ++ queue') = records queue ++ records queue' := by
  induction queue with
  | nil => rfl
  | cons item queue ih => cases item <;> simp [records, ih]

/-- The call whose record the writer has. -/
def Writer.hand : Writer → List Call
  | writing c | failed c => [c]
  | waiting | stopping | ended => []

/-- Every call is at one place, and the record of every returned one is at one place. -/
structure Logger.Conserved (s : Logger) : Prop where
  nodup : s.calls.Nodup
  stage : ∀ c, s.calls.count c =
    s.checked.count c + s.overflowed.count c + s.returned.count c + s.raised.count c
  kept : ∀ c, s.returned.count c = (s.files c.stream).lines.count c + s.counted.count c +
    (records s.queue).count c + s.writer.hand.count c + s.lost.count c

theorem count_erase_add {c : Call} {cs : List Call} (h : c ∈ cs) (c' : Call) :
    (cs.erase c).count c' + [c].count c' = cs.count c' := by
  rw [(List.perm_cons_erase h).count_eq c']
  simp only [List.count_cons, List.count_nil, Nat.zero_add]

theorem nodup_concat {c : Call} {cs : List Call} (hcs : cs.Nodup) (hc : c ∉ cs) :
    (cs ++ [c]).Nodup :=
  hcs.append (List.nodup_singleton c) (List.disjoint_singleton.mpr hc)

theorem Logger.Conserved.step (hs : s.Conserved) (hfiled : Filed s.files)
    (h : Stepped maxsize s e s') : s'.Conserved := by
  cases h with
  | refused hnew hclosed =>
      refine ⟨nodup_concat hs.nodup hnew, fun c ↦ ?_, hs.kept⟩
      simp only [List.count_append, hs.stage c]
      omega
  | checked hnew hopen =>
      refine ⟨nodup_concat hs.nodup hnew, fun c ↦ ?_, hs.kept⟩
      simp only [List.count_append, hs.stage c]
      omega
  | put hc hroom =>
      refine ⟨hs.nodup, fun c ↦ ?_, fun c ↦ ?_⟩
      · simp only [List.count_append, hs.stage c, ← count_erase_add hc c]
        omega
      · simp only [List.count_append, records_append, records, hs.kept c]
        omega
  | overflow hc hroom hlossy =>
      refine ⟨hs.nodup, fun c ↦ ?_, hs.kept⟩
      simp only [List.count_append, hs.stage c, ← count_erase_add hc c]
      omega
  | timeout hc hevent hroom =>
      refine ⟨hs.nodup, fun c ↦ ?_, hs.kept⟩
      simp only [List.count_append, hs.stage c, ← count_erase_add hc c]
      omega
  | count hc =>
      refine ⟨hs.nodup, fun c ↦ ?_, fun c ↦ ?_⟩
      · simp only [List.count_append, hs.stage c, ← count_erase_add hc c, Logger.drop]
        omega
      · simp only [List.count_append, Logger.drop, hs.kept c]
        omega
  | stop hwriter hqueue =>
      refine ⟨hs.nodup, hs.stage, fun c ↦ ?_⟩
      rw [hs.kept c, hqueue, hwriter]
      rfl
  | take hwriter hqueue =>
      refine ⟨hs.nodup, hs.stage, fun c ↦ ?_⟩
      simp only [hs.kept c, hqueue, hwriter, records, Writer.hand, List.count_cons, List.count_nil]
      omega
  | unserialisable hwriter hline =>
      refine ⟨hs.nodup, hs.stage, fun c ↦ ?_⟩
      rw [hs.kept c, hwriter]
      rfl
  | @write c saved hwriter hline =>
      refine ⟨hs.nodup, hs.stage, fun c' ↦ ?_⟩
      simp only [hs.kept c', hwriter, Writer.hand, List.count_nil]
      by_cases hstream : c'.stream = c.stream
      · rw [hstream, Function.update_self, BufferedFile.lines_write, List.count_append]
        omega
      · have hnone : [c].count c' = 0 :=
          List.count_eq_zero.mpr fun hc' ↦ hstream (congrArg _ (List.mem_singleton.mp hc'))
        rw [Function.update_of_ne hstream, hnone]
  | @writeError c saved kept hwriter hline =>
      refine ⟨hs.nodup, hs.stage, fun c' ↦ ?_⟩
      simp only [hs.kept c', hwriter, Writer.hand, List.count_append]
      by_cases hstream : c'.stream = c.stream
      · rw [hstream, Function.update_self, ← (s.files c.stream).lines_cut saved kept,
          List.count_append]
        omega
      · have hnone : ((s.files c.stream).dropped saved kept).count c' = 0 :=
          List.count_eq_zero.mpr fun hc' ↦ hstream (hfiled _ c' (dropped_subset _ _ _ hc')).1
        rw [Function.update_of_ne hstream, hnone]
        omega
  | countFailure hwriter =>
      refine ⟨hs.nodup, hs.stage, fun c ↦ ?_⟩
      simp only [hs.kept c, hwriter, Logger.drop, Writer.hand, List.count_append, List.count_nil]
      omega
  | @flush failure hwriter =>
      refine ⟨hs.nodup, hs.stage, fun c ↦ ?_⟩
      have hhand : s.writer.hand = [] := by rcases hwriter with h | h <;> rw [h] <;> rfl
      have hhand' : (if s.writer = .stopping ∨ failure.isSome then Writer.ended
          else .waiting).hand = [] := by
        split_ifs <;> rfl
      simp only [hs.kept c, hhand, hhand', List.count_append, ← hfiled.count_flushFiles failure c]
      omega
  | close hopen => exact ⟨hs.nodup, hs.stage, hs.kept⟩
  | putSentinel hflagged hroom =>
      refine ⟨hs.nodup, hs.stage, fun c ↦ ?_⟩
      simp [records, hs.kept c]
  | join hput hended => exact ⟨hs.nodup, hs.stage, hs.kept⟩
  | @closeFiles failure hjoined =>
      refine ⟨hs.nodup, hs.stage, fun c ↦ ?_⟩
      simp only [hs.kept c, List.count_append,
        ← hfiled.count_flushFiles (failure.map Failure.closing) c]
      omega
  | manifestError hclosed => exact ⟨hs.nodup, hs.stage, hs.kept⟩
  | writeManifest hclosed => exact ⟨hs.nodup, hs.stage, hs.kept⟩

/-! ## The shutdown -/

/-- `close()` has returned or raised. -/
def Logger.Ended (s : Logger) : Prop := s.closing = .returned ∨ s.closing = .raised

instance (s : Logger) : Decidable s.Ended := inferInstanceAs (Decidable (_ ∨ _))

/-- `close()` has joined the writer thread. -/
def Logger.Joined (s : Logger) : Prop := s.closing = .joined ∨ s.closing = .filesClosed ∨ s.Ended

/-- What `close()` waits for, and what it gets for the manifest. -/
structure Logger.Shutdown (s : Logger) : Prop where
  joined : s.Joined → s.writer = .ended
  saved : s.closing = .filesClosed ∨ s.closing = .returned →
    ∀ stream, (s.files stream).pending = []
  initial : s.closing ≠ .returned → s.manifest.counted = []
  manifest : s.manifest.counted <+: s.counted
  manifestDropped : ∀ stream,
    s.manifest.droppedRecords stream = s.manifest.counted.countP (·.stream = stream)
  droppedRecords : ∀ stream, s.droppedRecords stream = s.counted.countP (·.stream = stream)

theorem drop_droppedRecords (hs : s.Shutdown) (c : Call) (stream : Stream) :
    (s.drop c).droppedRecords stream = (s.drop c).counted.countP (·.stream = stream) := by
  simp only [Logger.drop, List.countP_append, List.countP_singleton, ← hs.droppedRecords stream]
  by_cases hstream : c.stream = stream
  · subst hstream
    simp
  · simp [Function.update_of_ne (Ne.symm hstream), hstream]

theorem Logger.Shutdown.not_ended (hs : s.Shutdown) (h : s.writer ≠ .ended) : ¬s.Ended :=
  fun hended ↦ h (hs.joined (.inr (.inr hended)))

/-- A step of the running writer is none of the shutdown. -/
theorem Logger.Shutdown.work (hs : s.Shutdown) (hrunning : s.writer ≠ .ended)
    (hclosing : s'.closing = s.closing) (hmanifest : s'.manifest = s.manifest)
    (hcounted : s.counted <+: s'.counted)
    (hdropped : ∀ stream, s'.droppedRecords stream = s'.counted.countP (·.stream = stream)) :
    s'.Shutdown := by
  have hnot : ¬s.Joined := fun h ↦ hrunning (hs.joined h)
  have hnot' : ¬s'.Joined := by rwa [Logger.Joined, Logger.Ended, hclosing]
  refine ⟨fun h ↦ absurd h hnot', fun h ↦ absurd ?_ hnot', ?_, ?_, ?_, hdropped⟩
  · exact h.elim (.inr ∘ .inl) (.inr ∘ .inr ∘ .inl)
  · rw [hclosing, hmanifest]
    exact hs.initial
  · rw [hmanifest]
    exact hs.manifest.trans hcounted
  · rw [hmanifest]
    exact hs.manifestDropped

theorem Logger.Shutdown.step (hs : s.Shutdown) (h : Stepped maxsize s e s') : s'.Shutdown := by
  cases h with
  | refused | checked | overflow | timeout | put =>
      exact ⟨hs.joined, hs.saved, hs.initial, hs.manifest, hs.manifestDropped, hs.droppedRecords⟩
  | @count c hc =>
      exact ⟨hs.joined, hs.saved, hs.initial, hs.manifest.trans (List.prefix_append _ _),
        hs.manifestDropped, drop_droppedRecords hs c⟩
  | stop hwriter | take hwriter | unserialisable hwriter | write hwriter | writeError hwriter =>
      exact hs.work (by simp [hwriter]) rfl rfl (List.prefix_refl _) hs.droppedRecords
  | @countFailure c hwriter =>
      exact hs.work (by simp [hwriter]) rfl rfl (List.prefix_append _ _) (drop_droppedRecords hs c)
  | flush hwriter =>
      refine hs.work ?_ rfl rfl (List.prefix_refl _) hs.droppedRecords
      rcases hwriter with h | h <;> simp [h]
  | close hopen =>
      refine ⟨?_, ?_, fun _ ↦ hs.initial ?_, hs.manifest, hs.manifestDropped, hs.droppedRecords⟩
      · simp [Logger.Joined, Logger.Ended]
      · simp
      · simp [hopen]
  | putSentinel hflagged hroom =>
      refine ⟨?_, ?_, fun _ ↦ hs.initial ?_, hs.manifest, hs.manifestDropped, hs.droppedRecords⟩
      · simp [Logger.Joined, Logger.Ended]
      · simp
      · simp [hflagged]
  | join hput hended =>
      refine ⟨fun _ ↦ hended, ?_, fun _ ↦ hs.initial ?_, hs.manifest, hs.manifestDropped,
        hs.droppedRecords⟩
      · simp
      · simp [hput]
  | @closeFiles failure hjoined =>
      refine ⟨fun _ ↦ hs.joined (.inl hjoined), ?_, fun _ ↦ hs.initial ?_, hs.manifest,
        hs.manifestDropped, hs.droppedRecords⟩
      · intro hclosed stream
        cases failure with
        | none => rfl
        | some x => simp at hclosed
      · simp [hjoined]
  | manifestError hclosed =>
      refine ⟨fun _ ↦ hs.joined (.inr (.inl hclosed)), ?_, fun _ ↦ hs.initial ?_, hs.manifest,
        hs.manifestDropped, hs.droppedRecords⟩
      · simp
      · simp [hclosed]
  | writeManifest hclosed =>
      exact ⟨fun _ ↦ hs.joined (.inr (.inl hclosed)), fun _ ↦ hs.saved (.inl hclosed),
        fun h ↦ absurd rfl h, List.prefix_refl _, hs.droppedRecords, hs.droppedRecords⟩

/-! ## Events -/

/-- An event is counted only when its write has failed. -/
structure Logger.Durable (s : Logger) : Prop where
  overflowed : ∀ c ∈ s.overflowed, c.stream ≠ .events
  failed : ∀ c, s.writer = .failed c → c.line = none ∨ c ∈ s.writeErrors
  counted : ∀ c ∈ s.counted, c.stream = .events → c.line = none ∨ c ∈ s.writeErrors

theorem Logger.Durable.step (hs : s.Durable) (h : Stepped maxsize s e s') : s'.Durable := by
  cases h with
  | refused | checked | put | timeout | close | putSentinel | join | closeFiles | manifestError |
      writeManifest =>
      exact ⟨hs.overflowed, hs.failed, hs.counted⟩
  | overflow hc hroom hlossy =>
      refine ⟨List.forall_mem_append.mpr ⟨hs.overflowed, ?_⟩, hs.failed, hs.counted⟩
      simpa using hlossy
  | count hc =>
      refine ⟨fun c' hc' ↦ hs.overflowed c' (List.mem_of_mem_erase hc'), hs.failed, ?_⟩
      refine List.forall_mem_append.mpr ⟨hs.counted, ?_⟩
      simpa using fun hevent ↦ absurd hevent (hs.overflowed _ hc)
  | stop | take | write => exact ⟨hs.overflowed, by simp, hs.counted⟩
  | unserialisable hwriter hline =>
      refine ⟨hs.overflowed, ?_, hs.counted⟩
      rintro c ⟨⟩
      exact .inl hline
  | writeError hwriter hline =>
      refine ⟨hs.overflowed, ?_, fun c hc hevent ↦ ?_⟩
      · rintro c ⟨⟩
        exact .inr (List.mem_append_right _ (List.mem_singleton_self _))
      · exact (hs.counted c hc hevent).imp_right (List.mem_append_left _)
  | countFailure hwriter =>
      refine ⟨hs.overflowed, by simp, List.forall_mem_append.mpr ⟨hs.counted, ?_⟩⟩
      exact List.forall_mem_singleton.mpr fun _ ↦ hs.failed _ hwriter
  | flush =>
      refine ⟨hs.overflowed, fun c hc ↦ ?_, hs.counted⟩
      split_ifs at hc

/-! ## What is lost -/

/-- The records ahead of the first sentinel of a queue. -/
def ahead : List QueueItem → List Call
  | [] => []
  | .sentinel :: _ => []
  | .record c :: queue => c :: ahead queue

/-- The records behind it. -/
def behind : List QueueItem → List Call
  | [] => []
  | .sentinel :: queue => records queue
  | .record _ :: queue => behind queue

theorem ahead_append_behind (queue : List QueueItem) :
    ahead queue ++ behind queue = records queue := by
  induction queue with
  | nil => rfl
  | cons item queue ih =>
      cases item with
      | sentinel => rfl
      | record c => exact congrArg _ ih

theorem behind_append_record (queue : List QueueItem) (c : Call) :
    behind (queue ++ [.record c]) = behind queue ++ if .sentinel ∈ queue then [c] else [] := by
  induction queue with
  | nil => rfl
  | cons item queue ih => cases item <;> simp [behind, records, ih]

theorem behind_append_sentinel (queue : List QueueItem) :
    behind (queue ++ [.sentinel]) = behind queue := by
  induction queue with
  | nil => rfl
  | cons item queue ih => cases item <;> simp [behind, records, ih]

/-- The writer takes no more items from the queue. -/
def Logger.Stopped (s : Logger) : Prop := s.writer = .stopping ∨ s.writer = .ended

instance (s : Logger) : Decidable s.Stopped := inferInstanceAs (Decidable (_ ∨ _))

/-- The records in the queue that the writer will not get. -/
def Logger.stranded (s : Logger) : List Call :=
  if s.Stopped then records s.queue else behind s.queue

/-- A logger that has lost nothing so far. -/
structure Logger.Intact (s : Logger) : Prop where
  stranded : s.stranded = []
  lost : s.lost = []
  /-- What is pending in a file that is not closed stays there. -/
  pending : s.closing = .raised → ∀ stream, (s.files stream).pending = []
  counted : s.Ended → s.counted = s.manifest.counted

/-- A record is put while the writer will still get it, an overflow is counted before the final
manifest, and where the disk raises, no other record is lost with it: not one that is in the
buffers, not one that is in the queue of a writer whose flush raises, not one whose drop the
manifest is to tell when `close()` raises. -/
def InTime (maxsize : ℤ) (s : Logger) : Event → Prop
  | .put _ => s.HasRoom maxsize → ¬s.Stopped ∧ .sentinel ∉ s.queue
  | .count _ => ¬s.Ended
  | .write (.raised saved kept) =>
      ∀ c ∈ s.writer.hand, c.line.isSome → (s.files c.stream).dropped saved kept = []
  | .flush (some x) =>
      droppedLines s.files (some x) = [] ∧ (s.writer = .waiting → ahead s.queue = [])
  | .closeFiles (some x) =>
      droppedLines s.files (some x.closing) = [] ∧
        (∀ stream, (flushFiles s.files (some x.closing) stream).pending = []) ∧ s.counted = []
  | .writeManifest true => s.counted = []
  | _ => True

instance (maxsize : ℤ) (s : Logger) : (e : Event) → Decidable (InTime maxsize s e)
  | .put _ => inferInstanceAs (Decidable (s.HasRoom maxsize → ¬s.Stopped ∧ .sentinel ∉ s.queue))
  | .count _ => inferInstanceAs (Decidable ¬s.Ended)
  | .write (.raised saved kept) =>
      inferInstanceAs (Decidable (∀ c ∈ s.writer.hand, c.line.isSome →
        (s.files c.stream).dropped saved kept = []))
  | .flush (some x) =>
      inferInstanceAs (Decidable (droppedLines s.files (some x) = [] ∧
        (s.writer = .waiting → ahead s.queue = [])))
  | .closeFiles (some x) =>
      inferInstanceAs (Decidable (droppedLines s.files (some x.closing) = [] ∧
        (∀ stream, (flushFiles s.files (some x.closing) stream).pending = []) ∧ s.counted = []))
  | .writeManifest true => inferInstanceAs (Decidable (s.counted = []))
  | .check _ | .timeout _ | .get | .write (.returned _) | .countFailure | .flush none | .close |
      .putSentinel | .join | .closeFiles none | .writeManifest false => .isTrue trivial

theorem intact_iff_of_not_ended (h : ¬s.Ended) : s.Intact ↔ s.stranded = [] ∧ s.lost = [] :=
  ⟨fun hs ↦ ⟨hs.stranded, hs.lost⟩, fun hs ↦ ⟨hs.1, hs.2, fun hraised ↦ absurd (.inr hraised) h,
    fun hended ↦ absurd hended h⟩⟩

/-- A step that does not end `close()` is judged by the queue and the dropped lines. -/
theorem intact_iff_of_running {P : Prop} (hs : ¬s.Ended) (hs' : ¬s'.Ended)
    (h : s'.stranded = [] ∧ s'.lost = [] ↔ (s.stranded = [] ∧ s.lost = []) ∧ P) :
    s'.Intact ↔ s.Intact ∧ P := by
  rw [intact_iff_of_not_ended hs, intact_iff_of_not_ended hs']
  exact h

theorem Logger.stranded_of_stopped (h : s.Stopped) : s.stranded = records s.queue := if_pos h

theorem Logger.stranded_of_not_stopped (h : ¬s.Stopped) : s.stranded = behind s.queue := if_neg h

theorem stranded_congr (hrecords : records s'.queue = records s.queue)
    (hbehind : behind s'.queue = behind s.queue) (hwriter : s'.writer = s.writer) :
    s'.stranded = s.stranded := by
  have hsame : s'.Stopped ↔ s.Stopped := by rw [Logger.Stopped, Logger.Stopped, hwriter]
  rw [Logger.stranded, Logger.stranded, hrecords, hbehind, if_congr hsame rfl rfl]

theorem stranded_put {c : Call} (s' : Logger) (hqueue : s'.queue = s.queue ++ [.record c])
    (hwriter : s'.writer = s.writer) :
    s'.stranded = [] ↔ s.stranded = [] ∧ ¬s.Stopped ∧ .sentinel ∉ s.queue := by
  have hsame : s'.Stopped ↔ s.Stopped := by rw [Logger.Stopped, Logger.Stopped, hwriter]
  by_cases hstopped : s.Stopped
  · rw [Logger.stranded_of_stopped (hsame.mpr hstopped), hqueue, records_append]
    simp [hstopped, records]
  · rw [Logger.stranded_of_not_stopped (mt hsame.mp hstopped), hqueue, behind_append_record,
      List.append_eq_nil_iff, ← Logger.stranded_of_not_stopped hstopped]
    simp [hstopped]

/-- A flush that raises strands what is ahead of the sentinel. -/
theorem stranded_flush {failure : Option Failure} (s' : Logger)
    (hwriter : s.writer = .waiting ∨ s.writer = .stopping) (hqueue : s'.queue = s.queue)
    (hwriter' : s'.writer =
      if s.writer = .stopping ∨ failure.isSome then .ended else .waiting) :
    s'.stranded = [] ↔
      s.stranded = [] ∧ (failure.isSome → s.writer = .waiting → ahead s.queue = []) := by
  rcases hwriter with hwaiting | hstopping
  · have hrunning : ¬s.Stopped := by simp [Logger.Stopped, hwaiting]
    rw [Logger.stranded_of_not_stopped hrunning]
    cases failure with
    | none =>
        have hrunning' : ¬s'.Stopped := by simp [Logger.Stopped, hwriter', hwaiting]
        simp [Logger.stranded_of_not_stopped hrunning', hqueue]
    | some x =>
        have hstopped' : s'.Stopped := by simp [Logger.Stopped, hwriter']
        rw [Logger.stranded_of_stopped hstopped', hqueue, ← ahead_append_behind]
        simp [hwaiting, and_comm]
  · have hstopped : s.Stopped := .inl hstopping
    have hstopped' : s'.Stopped := by simp [Logger.Stopped, hwriter', hstopping]
    rw [Logger.stranded_of_stopped hstopped, Logger.stranded_of_stopped hstopped', hqueue]
    simp [hstopping]

/-- **A step keeps a logger intact** exactly if it is in time. -/
theorem Logger.Shutdown.intact_iff (hs : s.Shutdown) (h : Stepped maxsize s e s') :
    s'.Intact ↔ s.Intact ∧ InTime maxsize s e := by
  cases h with
  | refused | checked | timeout =>
      refine Iff.trans ?_ (and_iff_left trivial).symm
      exact ⟨fun h ↦ ⟨h.stranded, h.lost, h.pending, h.counted⟩,
        fun h ↦ ⟨h.stranded, h.lost, h.pending, h.counted⟩⟩
  | overflow hc hroom hlossy =>
      refine Iff.trans ?_ (and_iff_left fun h ↦ absurd h hroom).symm
      exact ⟨fun h ↦ ⟨h.stranded, h.lost, h.pending, h.counted⟩,
        fun h ↦ ⟨h.stranded, h.lost, h.pending, h.counted⟩⟩
  | @put c hc hroom =>
      have hstranded : _ ↔ _ ∧ ¬s.Stopped ∧ .sentinel ∉ s.queue :=
        stranded_put { s with
          queue := s.queue ++ [.record c]
          checked := s.checked.erase c
          returned := s.returned ++ [c] } rfl rfl
      constructor
      · intro h
        obtain ⟨hold, htime⟩ := hstranded.mp h.stranded
        exact ⟨⟨hold, h.lost, h.pending, h.counted⟩, fun _ ↦ htime⟩
      · rintro ⟨h, htime⟩
        exact ⟨hstranded.mpr ⟨h.stranded, htime hroom⟩, h.lost, h.pending, h.counted⟩
  | @count c hc =>
      constructor
      · intro h
        have hnot : ¬s.Ended := by
          intro hended
          have hlength := congrArg List.length (h.counted hended)
          have hle := hs.manifest.length_le
          simp only [Logger.drop, List.length_append, List.length_singleton] at hlength
          omega
        exact ⟨⟨h.stranded, h.lost, h.pending, fun hended ↦ absurd hended hnot⟩, hnot⟩
      · rintro ⟨h, hnot⟩
        exact ⟨h.stranded, h.lost, h.pending, fun hended ↦ absurd hended hnot⟩
  | stop hwriter hqueue =>
      have hnot := hs.not_ended (by simp [hwriter])
      refine intact_iff_of_running hnot hnot ?_
      simp [Logger.stranded, Logger.Stopped, hwriter, hqueue, behind, InTime]
  | take hwriter hqueue =>
      have hnot := hs.not_ended (by simp [hwriter])
      refine intact_iff_of_running hnot hnot ?_
      simp [Logger.stranded, Logger.Stopped, hwriter, hqueue, behind, InTime]
  | @unserialisable c outcome hwriter hline =>
      have hnot := hs.not_ended (by simp [hwriter])
      have htime : InTime maxsize s (.write outcome) := by
        cases outcome with
        | returned saved => trivial
        | raised saved kept =>
            intro c' hc' hline'
            rw [hwriter, Writer.hand, List.mem_singleton] at hc'
            rw [hc', hline] at hline'
            cases hline'
      refine intact_iff_of_running hnot hnot ?_
      rw [and_iff_left htime]
      simp [Logger.stranded, Logger.Stopped, hwriter]
  | write hwriter hline =>
      have hnot := hs.not_ended (by simp [hwriter])
      refine intact_iff_of_running hnot hnot ?_
      simp [Logger.stranded, Logger.Stopped, hwriter, InTime]
  | writeError hwriter hline =>
      have hnot := hs.not_ended (by simp [hwriter])
      refine intact_iff_of_running hnot hnot ?_
      simp [Logger.stranded, Logger.Stopped, Writer.hand, hwriter, hline, InTime, and_assoc]
  | countFailure hwriter =>
      have hnot := hs.not_ended (by simp [hwriter])
      refine intact_iff_of_running hnot hnot ?_
      simp [Logger.stranded, Logger.Stopped, hwriter, Logger.drop, InTime]
  | @flush failure hwriter =>
      have hnot := hs.not_ended (by rcases hwriter with h | h <;> simp [h])
      refine intact_iff_of_running hnot hnot ?_
      refine Iff.trans (and_congr (stranded_flush _ hwriter rfl rfl) List.append_eq_nil_iff) ?_
      cases failure with
      | none => simp [droppedLines, InTime]
      | some x => simp only [InTime, Option.isSome_some, forall_const]; tauto
  | close hopen =>
      have hnot : ¬s.Ended := by simp [Logger.Ended, hopen]
      exact intact_iff_of_running hnot (by simp [Logger.Ended]) (and_iff_left trivial).symm
  | putSentinel hflagged hroom =>
      have hnot : ¬s.Ended := by simp [Logger.Ended, hflagged]
      refine intact_iff_of_running hnot (by simp [Logger.Ended]) ?_
      have hsame : Logger.stranded { s with
          queue := s.queue ++ [.sentinel]
          closing := .sentinelPut } = s.stranded :=
        stranded_congr (by simp [records]) (behind_append_sentinel s.queue) rfl
      rw [hsame]
      exact (and_iff_left trivial).symm
  | join hput hended =>
      have hnot : ¬s.Ended := by simp [Logger.Ended, hput]
      exact intact_iff_of_running hnot (by simp [Logger.Ended]) (and_iff_left trivial).symm
  | @closeFiles failure hjoined =>
      have hnot : ¬s.Ended := by simp [Logger.Ended, hjoined]
      cases failure with
      | none =>
          refine intact_iff_of_running hnot (by simp [Logger.Ended]) ?_
          simp only [Option.map_none, droppedLines, List.append_nil]
          exact (and_iff_left trivial).symm
      | some x =>
          have hinitial : s.manifest.counted = [] := hs.initial (by simp [hjoined])
          rw [intact_iff_of_not_ended hnot]
          constructor
          · intro h
            obtain ⟨hlost, hdropped⟩ := List.append_eq_nil_iff.mp h.lost
            refine ⟨⟨h.stranded, hlost⟩, hdropped, h.pending rfl, ?_⟩
            exact (h.counted (.inr rfl)).trans hinitial
          · rintro ⟨⟨hstranded, hlost⟩, hdropped, hpending, hcounted⟩
            exact ⟨hstranded, List.append_eq_nil_iff.mpr ⟨hlost, hdropped⟩, fun _ ↦ hpending,
              fun _ ↦ hcounted.trans hinitial.symm⟩
  | manifestError hclosed =>
      have hnot : ¬s.Ended := by simp [Logger.Ended, hclosed]
      have hinitial : s.manifest.counted = [] := hs.initial (by simp [hclosed])
      rw [intact_iff_of_not_ended hnot]
      constructor
      · intro h
        exact ⟨⟨h.stranded, h.lost⟩, (h.counted (.inr rfl)).trans hinitial⟩
      · rintro ⟨⟨hstranded, hlost⟩, hcounted⟩
        exact ⟨hstranded, hlost, fun _ ↦ hs.saved (.inl hclosed),
          fun _ ↦ hcounted.trans hinitial.symm⟩
  | writeManifest hclosed =>
      have hnot : ¬s.Ended := by simp [Logger.Ended, hclosed]
      have htime : InTime maxsize s (.writeManifest false) := trivial
      rw [intact_iff_of_not_ended hnot, and_iff_left htime]
      exact ⟨fun h ↦ ⟨h.stranded, h.lost⟩, fun h ↦ ⟨h.1, h.2, nofun, fun _ ↦ rfl⟩⟩

/-! ## Runs -/

/-- What every run keeps. -/
structure Logger.Sound (s : Logger) : Prop where
  filed : Filed s.files
  conserved : s.Conserved
  shutdown : s.Shutdown
  durable : s.Durable

theorem Logger.Sound.step (hs : s.Sound) (h : FlightLogger.step maxsize s e = some s') : s'.Sound :=
  ⟨hs.filed.step (stepped h), hs.conserved.step hs.filed (stepped h), hs.shutdown.step (stepped h),
    hs.durable.step (stepped h)⟩

theorem sound_init : ({} : Logger).Sound := by
  refine ⟨fun stream ↦ List.forall_mem_nil _, ⟨List.nodup_nil, fun c ↦ rfl, fun c ↦ rfl⟩,
    ⟨?_, ?_, fun _ ↦ rfl, List.prefix_refl _, fun stream ↦ rfl, fun stream ↦ rfl⟩,
    ⟨List.forall_mem_nil _, by simp, List.forall_mem_nil _⟩⟩
  · simp [Logger.Joined, Logger.Ended]
  · simp

/-! ## The final manifest -/

/-- What is to be found of the returned calls behind `close()`. -/
structure Logger.Accounted (s : Logger) : Prop where
  /-- Every record is on the disk or counted in the manifest, exactly once. -/
  once : ∀ c ∈ s.returned, (s.files c.stream).disk.count c + s.manifest.counted.count c = 1
  filed : ∀ stream, ∀ c ∈ (s.files stream).disk, c.stream = stream ∧ c.line.isSome
  droppedRecords : ∀ stream,
    s.manifest.droppedRecords stream = s.manifest.counted.countP (·.stream = stream)
  /-- An event that can be written is. -/
  event : ∀ c ∈ s.returned, c.stream = .events → c.line ≠ none → c ∉ s.writeErrors →
    c ∈ (s.files .events).disk

theorem Logger.Conserved.returned_count (hs : s.Conserved) {c : Call} (hc : c ∈ s.returned) :
    s.returned.count c = 1 := by
  have hpos : 0 < s.returned.count c := List.count_pos_iff.mpr hc
  have hone : s.calls.count c ≤ 1 := List.nodup_iff_count_le_one.mp hs.nodup c
  rw [hs.stage c] at hone
  omega

/-- Behind `close()` a returned call is on the disk, in the manifest, or missing. -/
theorem Logger.Sound.returned_eq (hs : s.Sound) (hended : s.Ended) {rest : List Call}
    (hrest : s.manifest.counted ++ rest = s.counted) (c : Call) : s.returned.count c =
      (s.files c.stream).disk.count c + s.manifest.counted.count c +
        ((s.files c.stream).pending.count c + rest.count c + s.stranded.count c +
          s.lost.count c) := by
  have hwriter := hs.shutdown.joined (.inr (.inr hended))
  rw [hs.conserved.kept c, Logger.stranded_of_stopped (.inr hwriter), hwriter, ← hrest,
    BufferedFile.lines, List.count_append, List.count_append, Writer.hand, List.count_nil]
  omega

theorem Logger.Sound.accounted_iff (hs : s.Sound) (hended : s.Ended) :
    s.Accounted ↔ s.Intact := by
  obtain ⟨rest, hrest⟩ := hs.shutdown.manifest
  have hcount := hs.returned_eq hended hrest
  constructor
  · intro h
    have hnone : ∀ c, (s.files c.stream).pending.count c + rest.count c + s.stranded.count c +
        s.lost.count c = 0 := by
      intro c
      have hcount := hcount c
      by_cases hc : c ∈ s.returned
      · have honce := h.once c hc
        rw [hs.conserved.returned_count hc] at hcount
        omega
      · rw [List.count_eq_zero.mpr hc] at hcount
        omega
    have hnil : ∀ cs : List Call, (∀ c ∈ cs, cs.count c = 0) → cs = [] := fun cs hcs ↦
      List.eq_nil_iff_forall_not_mem.mpr fun c hc ↦ List.count_eq_zero.mp (hcs c hc) hc
    refine ⟨hnil _ fun c _ ↦ ?_, hnil _ fun c _ ↦ ?_, fun _ stream ↦ hnil _ fun c hc ↦ ?_,
      fun _ ↦ ?_⟩
    · have := hnone c
      omega
    · have := hnone c
      omega
    · have hstream := (hs.filed stream c (List.mem_append_right _ hc)).1
      have := hnone c
      rw [hstream] at this
      omega
    · have hrestNil : rest = [] := hnil _ fun c _ ↦ by
        have := hnone c
        omega
      rw [← hrest, hrestNil, List.append_nil]
  · intro h
    have hpending : ∀ stream, (s.files stream).pending = [] :=
      hended.elim (fun hreturned ↦ hs.shutdown.saved (.inr hreturned)) h.pending
    have hrestNil : rest = [] := by
      rw [h.counted hended] at hrest
      exact List.append_right_eq_self.mp hrest
    have honce : ∀ c ∈ s.returned,
        (s.files c.stream).disk.count c + s.manifest.counted.count c = 1 := by
      intro c hc
      have hone := hcount c
      rw [hs.conserved.returned_count hc, hpending, hrestNil, h.stranded, h.lost] at hone
      simpa using hone.symm
    refine ⟨honce, fun stream c hc ↦ hs.filed stream c (List.mem_append_left _ hc),
      hs.shutdown.manifestDropped, fun c hc hevent hline herror ↦ ?_⟩
    have huncounted : s.manifest.counted.count c = 0 := by
      refine List.count_eq_zero.mpr fun hcounted ↦ ?_
      have hfailed := hs.durable.counted c (hs.shutdown.manifest.subset hcounted) hevent
      exact hfailed.elim hline herror
    have hone := honce c hc
    rw [huncounted, Nat.add_zero, hevent] at hone
    exact List.count_pos_iff.mp (hone ▸ Nat.one_pos)

/-- A call of `record_event` and calls of `record_rc`. -/
def takeoff : Call := { id := 0, stream := .events, line := some "takeoff" }

def sticks : Call := { id := 1, stream := .rc, line := some "sticks" }

def throttle : Call := { id := 2, stream := .rc, line := some "throttle" }

/-- Three calls, `close()` behind them, and a disk that raises once. -/
def orderly : List Event :=
  [.check takeoff, .check sticks, .put sticks, .get, .put takeoff, .write (.returned 0),
    .flush none, .check throttle, .put throttle, .close, .get, .write (.raised 0 0),
    .countFailure, .putSentinel, .get, .write (.returned 0), .get, .flush none, .join,
    .closeFiles none, .writeManifest false]

end DroneComms.Fpv.FlightLogger
