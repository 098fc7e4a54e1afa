import DroneComms.Lib.Automaton
import DroneComms.Py.ElementTree
import DroneComms.Transports.Backoff
import Mathlib.Tactic

/-!
# The TAK link over multicast

`TakMulticastTransport` of `meshsa/transports/tak_multicast.py`: `start`, `_recv_loop`, `send`
and `stop`.  A step is what a task does between two points where it may be suspended; the
socket is built without suspending, so that a step carries whether that raises.

Sockets are numbered in the order in which they are built.
-/

namespace DroneComms.Transports

open Py (Bytes)

/-- Where the receiving task and `stop` are. -/
inductive MulticastPhase where
  | /-- Before `start`, or behind `stop`. -/ stopped
  | /-- The task has been created. -/ created
  | /-- `await self._io.recv()` -/ receiving
  | /-- `await self._backoff.sleep_and_advance()` -/ sleeping
  | /-- `await self._task` in `stop` -/ stopping
deriving DecidableEq, Repr

/-- The state of a `TakMulticastTransport`, and what has happened so far. -/
structure TakMulticast (δ : Type) where
  phase : MulticastPhase := .stopped
  /-- `_io` -/
  io : Option ℕ := none
  backoff : Backoff δ
  reconnects : ℕ := 0
  /-- How often `start` has returned. -/
  starts : ℕ := 0
  /-- How many sockets have been built. -/
  opened : ℕ := 0
  /-- The sockets that have been closed. -/
  closed : List ℕ := []
  /-- What `recv` has returned, each with its socket. -/
  received : List (ℕ × Bytes) := []
  /-- The frames that `_ingest` was called with. -/
  ingested : List Bytes := []
  /-- What was sent, each with its socket. -/
  sent : List (ℕ × Bytes) := []
  /-- The calls of `send` that found no socket. -/
  refused : List Bytes := []

inductive MulticastEvent where
  | /-- The factory returns a socket, or raises. -/ start (built : Bool)
  | /-- The task begins. -/ run (built : Bool)
  | recv (data : Bytes)
  | recvRaised
  | /-- The sleep of the backoff returns. -/ wake (built : Bool)
  | stop
  | /-- The task has been cancelled. -/ cancelled
  | send (data : Bytes) (ok : Bool)

namespace TakMulticast

variable {δ : Type}

/-- The transport has been built. -/
def init (s : BackoffSettings δ) : TakMulticast δ := { backoff := .init s }

/-- The factory has returned a socket. -/
def build (w : TakMulticast δ) : TakMulticast δ :=
  { w with io := some w.opened, opened := w.opened + 1 }

/-- The handlers of the loop: go to sleep. -/
def sleep (w : TakMulticast δ) : TakMulticast δ :=
  { w with phase := .sleeping, backoff := w.backoff.sleep }

/-- `_close_io` -/
def closeIo (w : TakMulticast δ) : TakMulticast δ :=
  { w with io := none, closed := w.closed ++ w.io.toList }

/-- The head of the loop: without a socket it builds one. -/
def top (s : BackoffSettings δ) (w : TakMulticast δ) (built : Bool) : TakMulticast δ :=
  if w.io.isNone then
    if built then { w.build with
      phase := .receiving
      backoff := w.backoff.reset s
      reconnects := w.reconnects + 1 }
    else w.sleep
  else { w with phase := .receiving }

variable [LinearOrder δ]

def step (s : BackoffSettings δ) (w : TakMulticast δ) : MulticastEvent → Option (TakMulticast δ)
  | .start built =>
      match w.phase with
      | .stopped =>
          if built then some { w.build with phase := .created, starts := w.starts + 1 } else some w
      | _ => none
  | .run built =>
      match w.phase with
      | .created => some ({ w with backoff := w.backoff.reset s }.top s built)
      | _ => none
  | .recv data =>
      match w.phase, w.io with
      | .receiving, some socket => some { w with
          received := w.received ++ [(socket, data)]
          ingested := if data = [] then w.ingested else w.ingested ++ [data]
          backoff := w.backoff.reset s }
      | _, _ => none
  | .recvRaised =>
      match w.phase with
      | .receiving => some w.closeIo.sleep
      | _ => none
  | .wake built =>
      match w.phase with
      | .sleeping => some ({ w with backoff := w.backoff.advance s }.top s built)
      | _ => none
  | .stop =>
      match w.phase with
      | .stopped => some w.closeIo
      | .stopping => none
      | _ => some { w with phase := .stopping }
  | .cancelled =>
      match w.phase with
      | .stopping => some { w.closeIo with phase := .stopped }
      | _ => none
  | .send data ok =>
      match w.io with
      | none => some { w with refused := w.refused ++ [data] }
      | some socket => some (if ok then { w with sent := w.sent ++ [(socket, data)] } else w)

/-! ## Invariants -/

/-- What holds of the transport throughout. -/
structure Managed (s : BackoffSettings δ) (w : TakMulticast δ) : Prop where
  /-- The sockets are closed one after the other, and the open one is the last one built. -/
  sockets : w.closed ++ w.io.toList = List.range w.opened
  idle : w.phase = .stopped ∨ w.phase = .sleeping → w.io = none
  live : w.phase = .created ∨ w.phase = .receiving → w.io ≠ none
  /-- Every socket was built by `start` or counted by the loop. -/
  counted : w.opened = w.starts + w.reconnects
  ingested : w.ingested = (w.received.map Prod.snd).filter (· ≠ [])
  backoff : w.backoff.Timed s
  /-- A socket that fails is given up for the first delay. -/
  fresh : w.phase = .receiving → w.backoff.sleeps = 0

variable {s : BackoffSettings δ} {w w' : TakMulticast δ} {e : MulticastEvent}

theorem managed_init (s : BackoffSettings δ) : (init s).Managed s where
  sockets := rfl
  idle _ := rfl
  live hphase := by simp [init] at hphase
  counted := rfl
  ingested := rfl
  backoff := Backoff.timed_init s
  fresh _ := rfl

theorem Managed.sleep (h : w.Managed s) (hio : w.io = none) : w.sleep.Managed s where
  sockets := h.sockets
  idle _ := hio
  live hphase := by simp [TakMulticast.sleep] at hphase
  counted := h.counted
  ingested := h.ingested
  backoff := h.backoff.sleep
  fresh hphase := by simp [TakMulticast.sleep] at hphase

theorem Managed.closeIo (h : w.Managed s) (phase : MulticastPhase)
    (hphase : phase ≠ .created ∧ phase ≠ .receiving) :
    Managed s { w.closeIo with phase := phase } where
  sockets := by
    show w.closed ++ w.io.toList ++ [] = List.range w.opened
    rw [List.append_nil, h.sockets]
  idle _ := rfl
  live hlive := by
    rcases hlive with hlive | hlive
    · exact absurd hlive hphase.1
    · exact absurd hlive hphase.2
  counted := h.counted
  ingested := h.ingested
  backoff := h.backoff
  fresh hlive := absurd hlive hphase.2

/-- Entering the loop, with a backoff that is reset wherever there is a socket. -/
theorem Managed.top (h : w.Managed s) (hfresh : w.io ≠ none → w.backoff.sleeps = 0)
    (built : Bool) : (w.top s built).Managed s := by
  unfold TakMulticast.top
  split_ifs with hnone hbuilt
  · have hsockets := h.sockets
    rw [Option.isNone_iff_eq_none.mp hnone, Option.toList_none, List.append_nil] at hsockets
    constructor
    case sockets =>
      show w.closed ++ [w.opened] = List.range (w.opened + 1)
      rw [hsockets, List.range_succ]
    case idle => simp
    case live => simp [build]
    case counted =>
      show w.opened + 1 = w.starts + (w.reconnects + 1)
      rw [h.counted, Nat.add_assoc]
    case ingested => exact h.ingested
    case backoff => exact h.backoff.reset
    case fresh => exact fun _ ↦ rfl
  · exact h.sleep (Option.isNone_iff_eq_none.mp hnone)
  · have hsome : w.io ≠ none := fun hio ↦ hnone (Option.isNone_iff_eq_none.mpr hio)
    exact ⟨h.sockets, by simp, fun _ ↦ hsome, h.counted, h.ingested, h.backoff,
      fun _ ↦ hfresh hsome⟩

theorem Managed.step (h : w.Managed s) (hstep : w.step s e = some w') : w'.Managed s := by
  cases e with
  | start built =>
      simp only [TakMulticast.step] at hstep
      split at hstep
      · rename_i hphase
        have hsockets := h.sockets
        rw [h.idle (.inl hphase), Option.toList_none, List.append_nil] at hsockets
        split_ifs at hstep
        · cases hstep
          constructor
          case sockets =>
            show w.closed ++ [w.opened] = List.range (w.opened + 1)
            rw [hsockets, List.range_succ]
          case idle => simp
          case live => simp [build]
          case counted =>
            show w.opened + 1 = w.starts + 1 + w.reconnects
            rw [h.counted, Nat.add_right_comm]
          case ingested => exact h.ingested
          case backoff => exact h.backoff
          case fresh => simp
        · cases hstep
          exact h
      · cases hstep
  | run built =>
      simp only [TakMulticast.step] at hstep
      split at hstep
      · rename_i hphase
        cases hstep
        apply Managed.top
        · exact ⟨h.sockets, h.idle, h.live, h.counted, h.ingested, h.backoff.reset, fun _ ↦ rfl⟩
        · exact fun _ ↦ rfl
      · cases hstep
  | recv data =>
      simp only [TakMulticast.step] at hstep
      split at hstep
      · cases hstep
        refine ⟨h.sockets, h.idle, h.live, h.counted, ?_, h.backoff.reset, fun _ ↦ rfl⟩
        rw [List.map_append, List.filter_append, ← h.ingested]
        by_cases hdata : data = [] <;> simp [hdata]
      · cases hstep
  | recvRaised =>
      simp only [TakMulticast.step] at hstep
      split at hstep
      · cases hstep
        have hclosed := h.closeIo .sleeping (by simp)
        exact hclosed.sleep rfl
      · cases hstep
  | wake built =>
      simp only [TakMulticast.step] at hstep
      split at hstep
      · rename_i hphase
        cases hstep
        apply Managed.top
        · exact ⟨h.sockets, h.idle, h.live, h.counted, h.ingested, h.backoff.advance,
            fun hreceiving ↦ by simp [hphase] at hreceiving⟩
        · exact fun hio ↦ absurd (h.idle (.inr hphase)) hio
      · cases hstep
  | stop =>
      simp only [TakMulticast.step] at hstep
      split at hstep
      · rename_i hphase
        cases hstep
        have hclosed := h.closeIo .stopped (by simp)
        rw [← hphase] at hclosed
        exact hclosed
      · cases hstep
      · cases hstep
        exact ⟨h.sockets, by simp, by simp, h.counted, h.ingested, h.backoff, by simp⟩
  | cancelled =>
      simp only [TakMulticast.step] at hstep
      split at hstep
      · rename_i hphase
        cases hstep
        exact h.closeIo .stopped (by simp)
      · cases hstep
  | send data ok =>
      simp only [TakMulticast.step] at hstep
      split at hstep
      · cases hstep
        exact ⟨h.sockets, h.idle, h.live, h.counted, h.ingested, h.backoff, h.fresh⟩
      · cases hstep
        split_ifs
        · exact ⟨h.sockets, h.idle, h.live, h.counted, h.ingested, h.backoff, h.fresh⟩
        · exact h

/-- In every run the sockets are closed one after the other, what was received is ingested in
order, and every sleep is the delay of the backoff. -/
theorem always_rebuilt (s : BackoffSettings δ) (es : List MulticastEvent) :
    Automaton.Always (fun w e ↦ step s w e) (Managed s) (init s) es := by
  apply Automaton.always_of_along (P := fun _ _ ↦ True)
  · intro w e w' h _ hstep
    exact h.step hstep
  · exact managed_init s
  · exact Automaton.Along.of_forall fun _ _ ↦ trivial

end TakMulticast

end DroneComms.Transports
