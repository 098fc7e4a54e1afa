import DroneComms.Lib.Automaton
import DroneComms.Transports.Backoff
import DroneComms.Transports.CotFramer

/-!
# The TAK link over TCP

`TakTcpTransport` of `meshsa/transports/tak.py`: `start`, the supervisor with its read
loop, `send` and `stop`.  A step is what a task does between two points where it may be
suspended.  `start` and `stop` are called in turn, as the router does; the cancellation by
`stop` may find the supervisor wherever it is suspended.

Connections are numbered in the order in which they are made.
-/

namespace DroneComms.Transports

open Py (Bytes)

structure TakTcpSettings (δ : Type) where
  reconnect : Bool := true
  /-- There is a pacer. -/
  pacing : Bool := false
  delimiter : Bytes := []
  backoff : BackoffSettings δ

/-- Where `start`, the supervisor and `stop` are. -/
inductive TakPhase where
  | /-- Before `start`, or behind `stop`. -/ stopped
  | /-- `await self._connector()` in `start` -/ starting
  | /-- The task has been created. -/ created
  | /-- `await self._connector()` in the supervisor -/ connecting
  | /-- `await reader.read(...)` -/ reading
  | /-- `await waiter()` behind the read loop -/ closing
  | /-- `await self._backoff.sleep_and_advance()` -/ sleeping
  | /-- The supervisor has returned. -/ ended
  | /-- `await waiter()` in a supervisor that has been cancelled while reading -/ cancelled
  | /-- `await waiter()` in `stop` -/ stopping
deriving DecidableEq, Repr

/-- The state of a `TakTcpTransport`, and what has happened so far. -/
structure TakTcp (δ : Type) where
  phase : TakPhase := .stopped
  /-- `_started` -/
  started : Bool := false
  reader : Option ℕ := none
  writer : Option ℕ := none
  /-- The framer of the read loop. -/
  framer : CotFramer := {}
  backoff : Backoff δ
  reconnects : ℕ := 0
  /-- Sends that wait for the pacer, each with the connection it has taken. -/
  pacing : List (ℕ × Bytes) := []
  /-- How many connections have been made. -/
  opened : ℕ := 0
  /-- The connections that have been closed. -/
  closed : List ℕ := []
  /-- What each read loop before has read. -/
  past : List (List Bytes) := []
  /-- What this read loop has read. -/
  chunks : List Bytes := []
  /-- The frames that `_ingest` was called with. -/
  ingested : List Bytes := []
  /-- The frames that `send` took on, each with the connection there was. -/
  sent : List (ℕ × Bytes) := []
  /-- What was written, each with its connection. -/
  written : List (ℕ × Bytes) := []

inductive TakEvent where
  | start
  | /-- The connector returns, or raises. -/ connected (ok : Bool)
  | /-- The task begins. -/ run
  | read (chunk : Bytes)
  | readRaised
  | /-- `wait_closed` returns or raises. -/ closed
  | /-- The sleep of the backoff returns. -/ wake
  | stop
  | /-- `send` is called; without a pacer the write may raise. -/ send (data : Bytes) (ok : Bool)
  | /-- The pacer lets a send go on. -/ paced (k : ℕ) (ok : Bool)

namespace TakTcp

variable {δ : Type} [LinearOrder δ]

/-- The transport has been built. -/
def init (s : TakTcpSettings δ) : TakTcp δ := { backoff := .init s.backoff }

/-- The connector has returned. -/
def connect (w : TakTcp δ) : TakTcp δ :=
  { w with reader := some w.opened, writer := some w.opened, opened := w.opened + 1 }

/-- `_backoff.reset()` -/
def reset (s : TakTcpSettings δ) (w : TakTcp δ) : TakTcp δ :=
  { w with backoff := w.backoff.reset s.backoff }

/-- `_read_loop` begins. -/
def readLoop (w : TakTcp δ) : TakTcp δ := { w with phase := .reading, framer := {} }

/-- The supervisor goes to sleep. -/
def sleep (w : TakTcp δ) : TakTcp δ :=
  { w with phase := .sleeping, backoff := w.backoff.sleep }

/-- The loop of the supervisor: with a connection it reads, without one it connects. -/
def top (w : TakTcp δ) : TakTcp δ :=
  if w.reader.isNone then { w with phase := .connecting } else w.readLoop

/-- `_aclose_writer` up to its `await`. -/
def closeWriter (w : TakTcp δ) : TakTcp δ :=
  { w with writer := none, closed := w.closed ++ w.writer.toList }

/-- The read loop has ended. -/
def endRead (w : TakTcp δ) : TakTcp δ := { w with past := w.past ++ [w.chunks], chunks := [] }

/-- `stop` returns. -/
def finish (w : TakTcp δ) : TakTcp δ := { w with phase := .stopped, started := false }

/-- What a send writes to the connection it has taken. -/
def write (s : TakTcpSettings δ) (w : TakTcp δ) (conn : ℕ) (data : Bytes) (ok : Bool) : TakTcp δ :=
  if ok then { w with written := w.written ++ [(conn, data ++ s.delimiter)] } else w

def step (s : TakTcpSettings δ) (w : TakTcp δ) : TakEvent → Option (TakTcp δ)
  | .start =>
      match w.phase with
      | .stopped => some { w with phase := .starting, started := true }
      | _ => none
  | .connected true =>
      match w.phase with
      | .starting => some { w.connect with phase := .created }
      | .connecting =>
          some { (w.connect.reset s).readLoop with reconnects := w.reconnects + 1 }
      | _ => none
  | .connected false =>
      match w.phase with
      | .starting =>
          if s.reconnect then some { w with phase := .created, reader := none, writer := none }
          else some w.finish
      | .connecting => some w.sleep
      | _ => none
  | .run =>
      match w.phase with
      | .created => some (w.reset s).top
      | _ => none
  | .read chunk =>
      match w.phase with
      | .reading =>
          if chunk = [] then some { w.closeWriter.endRead with phase := .closing }
          else
            let (framer, events) := w.framer.feed chunk
            some { w with
              framer
              chunks := w.chunks ++ [chunk]
              ingested := w.ingested ++ events }
      | _ => none
  | .readRaised =>
      match w.phase with
      | .reading => some { w.closeWriter.endRead with phase := .closing }
      | _ => none
  | .closed =>
      match w.phase with
      | .closing =>
          let w := { w with reader := none }
          if s.reconnect then some w.sleep else some { w with phase := .ended }
      | .cancelled => some { w with reader := none }.closeWriter.finish
      | .stopping => some w.finish
      | _ => none
  | .wake =>
      match w.phase with
      | .sleeping => some { w with backoff := w.backoff.advance s.backoff }.top
      | _ => none
  | .stop =>
      match w.phase with
      | .stopped => some w.finish
      | .reading => some { w.closeWriter.endRead with phase := .cancelled }
      | .created =>
          -- the task never begins, so it is `stop` that closes the connection
          if w.writer.isNone then some w.finish else some { w.closeWriter with phase := .stopping }
      -- the `finally` block is left where it waits: the reader stays set
      | .connecting | .closing | .sleeping | .ended => some w.closeWriter.finish
      | .starting | .cancelled | .stopping => none
  | .send data ok =>
      match w.started, w.writer with
      | true, some conn =>
          let w := { w with sent := w.sent ++ [(conn, data)] }
          if s.pacing then some { w with pacing := w.pacing ++ [(conn, data)] }
          else some (w.write s conn data ok)
      -- `send` raises before `start`, and drops the frame while there is no connection
      | _, _ => some w
  | .paced k ok =>
      match w.pacing[k]? with
      | some (conn, data) => some ({ w with pacing := w.pacing.eraseIdx k }.write s conn data ok)
      | none => none

/-! ## What a step can do -/

/-- Every step of the transport. -/
inductive Stepped (s : TakTcpSettings δ) (w : TakTcp δ) : TakTcp δ → Prop
  | start (phase : w.phase = .stopped) : Stepped s w { w with phase := .starting, started := true }
  | connectFirst (phase : w.phase = .starting) : Stepped s w { w.connect with phase := .created }
  | failFirst (phase : w.phase = .starting) (reconnect : s.reconnect = true) :
      Stepped s w { w with phase := .created, reader := none, writer := none }
  | giveUp (phase : w.phase = .starting ∨ w.phase = .stopped ∨ w.phase = .stopping ∨
      w.phase = .created ∧ w.writer = none) : Stepped s w w.finish
  | reconnect (phase : w.phase = .connecting) :
      Stepped s w { (w.connect.reset s).readLoop with reconnects := w.reconnects + 1 }
  | fail (phase : w.phase = .connecting) : Stepped s w w.sleep
  | run (phase : w.phase = .created) : Stepped s w (w.reset s).top
  | read (chunk : Bytes) (phase : w.phase = .reading) : Stepped s w { w with
      framer := (w.framer.feed chunk).1
      chunks := w.chunks ++ [chunk]
      ingested := w.ingested ++ (w.framer.feed chunk).2 }
  | endRead (phase : w.phase = .reading) (next : TakPhase)
      (hnext : next = .closing ∨ next = .cancelled) :
      Stepped s w { w.closeWriter.endRead with phase := next }
  | pause (phase : w.phase = .closing) : Stepped s w { w with reader := none }.sleep
  | leave (phase : w.phase = .closing) (reconnect : s.reconnect = false) :
      Stepped s w { w with reader := none, phase := .ended }
  | release (phase : w.phase = .cancelled ∨ w.phase = .connecting ∨ w.phase = .closing ∨
      w.phase = .sleeping ∨ w.phase = .ended) (reader : Option ℕ) :
      Stepped s w { w with reader }.closeWriter.finish
  | wake (phase : w.phase = .sleeping) :
      Stepped s w { w with backoff := w.backoff.advance s.backoff }.top
  | stopEarly (phase : w.phase = .created) :
      Stepped s w { w.closeWriter with phase := .stopping }
  | same : Stepped s w w
  | pace (conn : ℕ) (data : Bytes) (writer : w.writer = some conn) :
      Stepped s w { w with
        sent := w.sent ++ [(conn, data)]
        pacing := w.pacing ++ [(conn, data)] }
  | send (conn : ℕ) (data : Bytes) (ok : Bool) (writer : w.writer = some conn) :
      Stepped s w ({ w with sent := w.sent ++ [(conn, data)] }.write s conn data ok)
  | paced (k : ℕ) (conn : ℕ) (data : Bytes) (ok : Bool) (hk : w.pacing[k]? = some (conn, data)) :
      Stepped s w ({ w with pacing := w.pacing.eraseIdx k }.write s conn data ok)

variable {s : TakTcpSettings δ} {w w' : TakTcp δ} {e : TakEvent}

theorem stepped_of_step (h : w.step s e = some w') : Stepped s w w' := by
  cases e with
  | start =>
      simp only [step] at h
      split at h
      · rename_i hphase
        cases h
        exact .start hphase
      · cases h
  | connected ok =>
      cases ok with
      | true =>
          simp only [step] at h
          split at h
          · rename_i hphase
            cases h
            exact .connectFirst hphase
          · rename_i hphase
            cases h
            exact .reconnect hphase
          · cases h
      | false =>
          simp only [step] at h
          split at h
          · rename_i hphase
            split_ifs at h with hreconnect
            · cases h
              exact .failFirst hphase hreconnect
            · cases h
              exact .giveUp (.inl hphase)
          · rename_i hphase
            cases h
            exact .fail hphase
          · cases h
  | run =>
      simp only [step] at h
      split at h
      · rename_i hphase
        cases h
        exact .run hphase
      · cases h
  | read chunk =>
      simp only [step] at h
      split at h
      · rename_i hphase
        split_ifs at h
        · cases h
          exact .endRead hphase _ (.inl rfl)
        · cases h
          exact .read chunk hphase
      · cases h
  | readRaised =>
      simp only [step] at h
      split at h
      · rename_i hphase
        cases h
        exact .endRead hphase _ (.inl rfl)
      · cases h
  | closed =>
      simp only [step] at h
      split at h
      · rename_i hphase
        split_ifs at h with hreconnect
        · cases h
          exact .pause hphase
        · cases h
          exact .leave hphase (Bool.eq_false_of_not_eq_true hreconnect)
      · rename_i hphase
        cases h
        exact .release (.inl hphase) none
      · rename_i hphase
        cases h
        exact .giveUp (.inr (.inr (.inl hphase)))
      · cases h
  | wake =>
      simp only [step] at h
      split at h
      · rename_i hphase
        cases h
        exact .wake hphase
      · cases h
  | stop =>
      simp only [step] at h
      split at h
      · rename_i hphase
        cases h
        exact .giveUp (.inr (.inl hphase))
      · rename_i hphase
        cases h
        exact .endRead hphase _ (.inr rfl)
      · rename_i hphase
        split_ifs at h with hwriter
        · cases h
          exact .giveUp (.inr (.inr (.inr ⟨hphase, Option.isNone_iff_eq_none.mp hwriter⟩)))
        · cases h
          exact .stopEarly hphase
      · rename_i hphase
        cases h
        exact .release (.inr (.inl hphase)) w.reader
      · rename_i hphase
        cases h
        exact .release (.inr (.inr (.inl hphase))) w.reader
      · rename_i hphase
        cases h
        exact .release (.inr (.inr (.inr (.inl hphase)))) w.reader
      · rename_i hphase
        cases h
        exact .release (.inr (.inr (.inr (.inr hphase)))) w.reader
      all_goals cases h
  | send data ok =>
      simp only [step] at h
      split at h
      · rename_i conn _ hwriter
        split_ifs at h
        · cases h
          exact .pace conn data hwriter
        · cases h
          exact .send conn data ok hwriter
      · cases h
        exact .same
  | paced k ok =>
      simp only [step] at h
      split at h
      · rename_i conn data hk
        cases h
        exact .paced k conn data ok hk
      · cases h

/-! ## The connections -/

/-- The connections are closed one after the other, and the open one is the writer. -/
structure Connected (s : TakTcpSettings δ) (w : TakTcp δ) : Prop where
  connections : w.closed ++ w.writer.toList = List.range w.opened
  idle : w.phase ≠ .created → w.phase ≠ .reading → w.writer = none
  created : w.phase = .created → w.reader = w.writer
  loose : w.phase = .connecting ∨ w.phase = .sleeping → w.reader = none
  stopped : w.phase = .stopped → w.started = false
  ended : s.reconnect = true → w.phase ≠ .ended

omit [LinearOrder δ] in
theorem Connected.top (h : w.closed ++ w.writer.toList = List.range w.opened)
    (hreader : w.reader = none → w.writer = none) : w.top.Connected s := by
  unfold TakTcp.top
  split_ifs with hnone
  · have hnone' := Option.isNone_iff_eq_none.mp hnone
    constructor <;> simp_all
  · constructor <;> simp_all [readLoop]

theorem Connected.step (h : w.Connected s) (hstep : Stepped s w w') : w'.Connected s := by
  obtain ⟨hconnections, hidle, hcreated, hloose, hstopped, hended⟩ := h
  cases hstep with
  | start hphase => constructor <;> simp_all
  | connectFirst hphase => constructor <;> simp_all [connect, List.range_succ]
  | failFirst hphase hreconnect => constructor <;> simp_all
  | giveUp hphase =>
      rcases hphase with hphase | hphase | hphase | ⟨hphase, hwriter⟩ <;>
        constructor <;> simp_all [finish]
  | reconnect hphase =>
      constructor <;> simp_all [connect, reset, readLoop, List.range_succ]
  | fail hphase => constructor <;> simp_all [sleep]
  | run hphase =>
      apply Connected.top
      · exact hconnections
      · exact fun hnone ↦ (hcreated hphase).symm.trans hnone
  | read chunk hphase => constructor <;> simp_all
  | endRead hphase next hnext =>
      rcases hnext with rfl | rfl <;> constructor <;> simp_all [closeWriter, endRead]
  | pause hphase => constructor <;> simp_all [sleep]
  | leave hphase hreconnect => constructor <;> simp_all
  | release hphase reader =>
      rcases hphase with hphase | hphase | hphase | hphase | hphase <;>
        constructor <;> simp_all [closeWriter, finish]
  | wake hphase =>
      apply Connected.top
      · exact hconnections
      · exact fun _ ↦ hidle (by simp [hphase]) (by simp [hphase])
  | stopEarly hphase => constructor <;> simp_all [closeWriter]
  | same => exact ⟨hconnections, hidle, hcreated, hloose, hstopped, hended⟩
  | pace conn data hwriter => exact ⟨hconnections, hidle, hcreated, hloose, hstopped, hended⟩
  | send conn data ok hwriter =>
      unfold write
      split_ifs <;> exact ⟨hconnections, hidle, hcreated, hloose, hstopped, hended⟩
  | paced k conn data ok hk =>
      unfold write
      split_ifs <;> exact ⟨hconnections, hidle, hcreated, hloose, hstopped, hended⟩

/-! ## The frames -/

/-- The frames in what the read loops have read, each taken by itself. -/
def frames (reads : List (List Bytes)) : List Bytes :=
  reads.flatMap fun chunks ↦ (CotFramer.feed {} chunks.flatten).2

/-- What is ingested is what the connections have brought. -/
structure Framed (w : TakTcp δ) : Prop where
  framer : w.phase = .reading → w.framer = (CotFramer.feedAll {} w.chunks).1
  chunks : w.phase ≠ .reading → w.chunks = []
  ingested : w.ingested = frames (w.past ++ [w.chunks])

theorem frames_append (reads reads' : List (List Bytes)) :
    frames (reads ++ reads') = frames reads ++ frames reads' := List.flatMap_append

/-- A connection that has brought nothing has brought no frame. -/
theorem frames_nil : frames [[]] = [] := rfl

theorem frames_chunk (chunks : List Bytes) (chunk : Bytes) :
    frames [chunks ++ [chunk]] =
      frames [chunks] ++ ((CotFramer.feedAll {} chunks).1.feed chunk).2 := by
  have hone : ∀ chunks, frames [chunks] = (CotFramer.feedAll {} chunks).2 := by
    intro chunks
    rw [frames, List.flatMap_singleton, CotFramer.feedAll_flatten]
  rw [hone, hone, CotFramer.feedAll_append]

omit [LinearOrder δ] in
/-- Outside the read loop nothing is read. -/
theorem Framed.idle (h : w.Framed) (hphase : w.phase ≠ .reading) (hphase' : w'.phase ≠ .reading)
    (hpast : w'.past = w.past) (hchunks : w'.chunks = w.chunks)
    (hingested : w'.ingested = w.ingested) : w'.Framed where
  framer hreading := absurd hreading hphase'
  chunks _ := hchunks.trans (h.chunks hphase)
  ingested := by rw [hingested, hpast, hchunks, h.ingested]

omit [LinearOrder δ] in
theorem Framed.top (h : w.Framed) (hphase : w.phase ≠ .reading) : w.top.Framed := by
  have hnone := h.chunks hphase
  unfold TakTcp.top
  split_ifs
  · exact h.idle hphase (by simp) rfl rfl rfl
  · refine ⟨fun _ ↦ ?_, fun hne ↦ absurd rfl hne, h.ingested⟩
    show ({} : CotFramer) = (CotFramer.feedAll {} w.chunks).1
    rw [hnone]
    rfl

theorem Framed.step (h : w.Framed) (hstep : Stepped s w w') : w'.Framed := by
  cases hstep with
  | start hphase => exact h.idle (by simp [hphase]) (by simp) rfl rfl rfl
  | connectFirst hphase => exact h.idle (by simp [hphase]) (by simp) rfl rfl rfl
  | failFirst hphase _ => exact h.idle (by simp [hphase]) (by simp) rfl rfl rfl
  | giveUp hphase =>
      refine h.idle ?_ (by simp [finish]) rfl rfl rfl
      rcases hphase with hphase | hphase | hphase | ⟨hphase, -⟩ <;> simp [hphase]
  | reconnect hphase =>
      have hidle : w.phase ≠ .reading := by simp [hphase]
      refine ⟨fun _ ↦ ?_, fun hne ↦ absurd rfl hne, h.ingested⟩
      show ({} : CotFramer) = (CotFramer.feedAll {} w.chunks).1
      rw [h.chunks hidle]
      rfl
  | fail hphase => exact h.idle (by simp [hphase]) (by simp [sleep]) rfl rfl rfl
  | run hphase =>
      apply Framed.top
      · exact h.idle (by simp [hphase]) (by simp [reset, hphase]) rfl rfl rfl
      · simp [reset, hphase]
  | read chunk hphase =>
      have hframer := h.framer hphase
      refine ⟨fun _ ↦ ?_, fun hne ↦ absurd hphase hne, ?_⟩
      · show (w.framer.feed chunk).1 = (CotFramer.feedAll {} (w.chunks ++ [chunk])).1
        rw [CotFramer.feedAll_append, hframer]
      · show w.ingested ++ (w.framer.feed chunk).2 = frames (w.past ++ [w.chunks ++ [chunk]])
        rw [h.ingested, frames_append, frames_append, frames_chunk, hframer, List.append_assoc]
  | endRead hphase next hnext =>
      refine ⟨fun hreading ↦ ?_, fun _ ↦ rfl, ?_⟩
      · rcases hnext with rfl | rfl <;> cases hreading
      · show w.ingested = frames (w.past ++ [w.chunks] ++ [[]])
        rw [frames_append, frames_nil, List.append_nil, h.ingested]
  | pause hphase => exact h.idle (by simp [hphase]) (by simp [sleep]) rfl rfl rfl
  | leave hphase _ => exact h.idle (by simp [hphase]) (by simp) rfl rfl rfl
  | release hphase reader =>
      refine h.idle ?_ (by simp [finish]) rfl rfl rfl
      rcases hphase with hphase | hphase | hphase | hphase | hphase <;> simp [hphase]
  | wake hphase =>
      apply Framed.top
      · exact h.idle (by simp [hphase]) (by simp [hphase]) rfl rfl rfl
      · simp [hphase]
  | stopEarly hphase => exact h.idle (by simp [hphase]) (by simp) rfl rfl rfl
  | same => exact h
  | pace conn data _ => exact ⟨h.framer, h.chunks, h.ingested⟩
  | send conn data ok _ =>
      unfold write
      split_ifs <;> exact ⟨h.framer, h.chunks, h.ingested⟩
  | paced k conn data ok _ =>
      unfold write
      split_ifs <;> exact ⟨h.framer, h.chunks, h.ingested⟩

/-! ## The delays -/

theorem timed_top (h : w.backoff.Timed s.backoff) : w.top.backoff.Timed s.backoff := by
  unfold TakTcp.top
  split_ifs <;> exact h

theorem timed_step (h : w.backoff.Timed s.backoff) (hstep : Stepped s w w') :
    w'.backoff.Timed s.backoff := by
  cases hstep with
  | run hphase => exact timed_top h.reset
  | reconnect hphase => exact h.reset
  | fail hphase => exact h.sleep
  | pause hphase => exact h.sleep
  | wake hphase => exact timed_top h.advance
  | send conn data ok hwriter =>
      unfold write
      split_ifs <;> exact h
  | paced k conn data ok hk =>
      unfold write
      split_ifs <;> exact h
  | _ => exact h

/-! ## The sends -/

/-- What a send writes, with its connection. -/
def addressed (s : TakTcpSettings δ) (p : ℕ × Bytes) : ℕ × Bytes := (p.1, p.2 ++ s.delimiter)

/-- Every send is written once at most, and to the connection there was. -/
def Sent (s : TakTcpSettings δ) (w : TakTcp δ) : Prop :=
  (w.written ++ w.pacing.map (addressed s)).Subperm (w.sent.map (addressed s))

omit [LinearOrder δ] in
/-- A send that goes on waits no longer, whether or not it is written. -/
theorem Sent.write {conn : ℕ} {data : Bytes} (ok : Bool)
    (h : (w.written ++ addressed s (conn, data) :: w.pacing.map (addressed s)).Subperm
      (w.sent.map (addressed s))) : (w.write s conn data ok).Sent s := by
  cases ok with
  | true =>
      show (w.written ++ [addressed s (conn, data)] ++ w.pacing.map (addressed s)).Subperm _
      rw [List.append_assoc]
      exact h
  | false =>
      have hsub := (List.Sublist.refl w.written).append
        (List.sublist_cons_self (addressed s (conn, data)) (w.pacing.map (addressed s)))
      exact hsub.subperm.trans h

theorem Sent.step (h : w.Sent s) (hstep : Stepped s w w') : w'.Sent s := by
  cases hstep with
  | pace conn data hwriter =>
      unfold Sent at h ⊢
      rw [List.map_append, List.map_append, ← List.append_assoc]
      exact h.append (List.Subperm.refl _)
  | send conn data ok hwriter =>
      apply Sent.write
      show (w.written ++ addressed s (conn, data) :: w.pacing.map (addressed s)).Subperm
        ((w.sent ++ [(conn, data)]).map (addressed s))
      have hcons := (List.subperm_cons (addressed s (conn, data))).mpr h
      have hsent := (List.perm_append_singleton (conn, data) w.sent).map (addressed s)
      exact List.perm_middle.subperm.trans (hcons.trans hsent.symm.subperm)
  | paced k conn data ok hk =>
      apply Sent.write
      show (w.written ++ addressed s (conn, data) ::
        (w.pacing.eraseIdx k).map (addressed s)).Subperm (w.sent.map (addressed s))
      obtain ⟨hlt, hget⟩ := List.getElem?_eq_some_iff.mp hk
      have hperm := (List.getElem_cons_eraseIdx_perm hlt).map (addressed s)
      rw [hget] at hperm
      exact (hperm.append_left w.written).subperm.trans h
  | run hphase =>
      unfold top
      split_ifs <;> exact h
  | wake hphase =>
      unfold top
      split_ifs <;> exact h
  | _ => exact h

/-! ## Every run -/

/-- What holds of the transport throughout. -/
structure Managed (s : TakTcpSettings δ) (w : TakTcp δ) : Prop where
  connected : w.Connected s
  framed : w.Framed
  backoff : w.backoff.Timed s.backoff
  sent : w.Sent s

theorem managed_init : (init s).Managed s where
  connected := by constructor <;> simp [init]
  framed := ⟨fun hreading ↦ absurd hreading (by simp [init]), fun _ ↦ rfl, rfl⟩
  backoff := Backoff.timed_init s.backoff
  sent := List.Subperm.refl _

theorem Managed.step (h : w.Managed s) (hstep : w.step s e = some w') : w'.Managed s :=
  have hstepped := stepped_of_step hstep
  { connected := h.connected.step hstepped
    framed := h.framed.step hstepped
    backoff := timed_step h.backoff hstepped
    sent := h.sent.step hstepped }

/-- In every run the connections are closed one after the other, what was ingested is framed
connection by connection, and no send is written twice or to another connection. -/
theorem always_managed (s : TakTcpSettings δ) (es : List TakEvent) :
    Automaton.Always (fun w e ↦ step s w e) (Managed s) (init s) es := by
  apply Automaton.always_of_along (P := fun _ _ ↦ True)
  · intro w e w' h _ hstep
    exact h.step hstep
  · exact managed_init
  · exact Automaton.Along.of_forall fun _ _ ↦ trivial

/-- The sleeps of every run in closed form: each reset starts again from the first delay. -/
theorem slept_eq {es : List TakEvent} (hmono : Monotone s.backoff.grow)
    (hmax : s.backoff.max ≤ s.backoff.grow s.backoff.max)
    (h : Automaton.exec (fun w e ↦ step s w e) (init s) es = some w) :
    ∀ p ∈ w.backoff.slept, p.2 = if p.1 = 0 then s.backoff.initial
      else min (s.backoff.grow^[p.1] s.backoff.initial) s.backoff.max := by
  have hmanaged : w.Managed s :=
    Automaton.exec_invariant (fun _ _ _ h hstep ↦ h.step hstep) managed_init h
  intro p hp
  rw [hmanaged.backoff.slept p hp]
  exact Backoff.delay_eq hmono hmax p.1

/-- A delay that doubles up to five. -/
def doubling : TakTcpSettings ℕ := { backoff := { initial := 1, max := 5, grow := (2 * ·) } }

/-- A link that never comes up. -/
def outage : List TakEvent := [.start, .connected false, .run, .connected false, .wake,
  .connected false, .wake, .connected false, .wake, .connected false]

theorem slept_eq_doubling :
    ∃ w, Automaton.exec (fun w e ↦ step doubling w e) (init doubling) outage = some w ∧
      w.backoff.slept = [(0, 1), (1, 2), (2, 4), (3, 5)] ∧
      ∀ p ∈ w.backoff.slept, p.2 = if p.1 = 0 then doubling.backoff.initial
        else min (doubling.backoff.grow^[p.1] doubling.backoff.initial) doubling.backoff.max := by
  refine ⟨_, rfl, rfl, ?_⟩
  apply slept_eq (s := doubling)
  · exact fun _ _ h ↦ Nat.mul_le_mul_left 2 h
  · exact Nat.le_mul_of_pos_left 5 Nat.two_pos
  · show Automaton.exec _ _ outage = some _
    rfl

end TakTcp

end DroneComms.Transports
