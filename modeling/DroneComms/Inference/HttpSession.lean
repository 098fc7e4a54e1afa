import DroneComms.Inference.Client
import DroneComms.Lib.Automaton

/-!
# The session of the HTTP transport

`AiohttpTransport` of `meshsa/inference/transport.py`.  Calls of `post_json` and of `aclose` run
side by side; the lock is awaited, but while it is held only `aclose` awaits, the `close` of its
session.  So a call that gets the lock is one step, but for `aclose` with a session to close.
Who waits for the lock may get it in any order.

Sessions are numbered in the order in which they are made.
-/

namespace DroneComms.Inference

open Py (Value)

/-- How the exchange of a `post_json` ends. -/
inductive HttpOutcome where
  | timeout
  | clientError
  /-- Any other exception, a cancellation included. -/
  | raised
  /-- A status, with the body unless `resp.json` raises for it. -/
  | response (status : ℤ) (body : Option Value)

/-- What `post_json` makes of it. -/
def HttpOutcome.reply : HttpOutcome → Reply
  | .timeout | .clientError => .transportError
  | .raised => .unexpected
  | .response status (some (.dict payload)) => .response status (.dict payload)
  | .response status _ => .response status (.dict [])

/-- The state of an `AiohttpTransport` and its sessions, and what its posts have come to. -/
structure HttpSession where
  /-- `_session` -/
  session : Option ℕ := none
  /-- The lock is held by an `aclose` that awaits the `close` of the session. -/
  closing : Bool := false
  opened : ℕ := 0
  /-- The sessions that are closed. -/
  closed : List ℕ := []
  /-- The sessions of the posts under way. -/
  posting : List ℕ := []
  /-- The replies, each with its session. -/
  replies : List (ℕ × Reply) := []

inductive SessionEvent where
  /-- A `post_json` gets the lock; the factory returns a session, or raises. -/
  | post (made : Bool)
  /-- The exchange of a post ends. -/
  | done (session : ℕ) (outcome : HttpOutcome)
  /-- An `aclose` gets the lock. -/
  | aclose
  /-- The `close` of the session returns. -/
  | closed
  /-- The `close` of the session raises, or is cancelled. -/
  | closeRaised
  /-- The session is closed, by a `close` under way or by others. -/
  | lost

namespace HttpSession

/-- `self._session is None or self._session.closed`. -/
def usable (w : HttpSession) : Option ℕ := w.session.filter (· ∉ w.closed)

/-- The session is closed, if it is not closed yet. -/
def close (w : HttpSession) : HttpSession :=
  { w with closed := w.closed ++ w.usable.toList }

def step (w : HttpSession) : SessionEvent → Option HttpSession
  | .post made =>
      if w.closing then none
      else
        match w.usable with
        | some n => some { w with posting := n :: w.posting }
        | none =>
            if made then some { w with
              session := some w.opened
              opened := w.opened + 1
              posting := w.opened :: w.posting }
            else some w
  | .done session outcome =>
      if session ∈ w.posting then some { w with
        posting := w.posting.erase session
        replies := (session, outcome.reply) :: w.replies }
      else none
  | .aclose =>
      if w.closing then none
      else some { w with closing := w.usable.isSome }
  | .closed =>
      if w.closing then some { w.close with session := none, closing := false } else none
  | .closeRaised =>
      if w.closing then some { w with closing := false } else none
  | .lost => some w.close

/-- What holds of the transport throughout. -/
structure Owned (w : HttpSession) : Prop where
  /-- The sessions are closed one after the other, each once, and the open one is the current. -/
  sessions : w.closed ++ w.usable.toList = List.range w.opened
  /-- The current session is the last one made. -/
  current : ∀ n ∈ w.session, n + 1 = w.opened
  posting : ∀ n ∈ w.posting, n < w.opened
  /-- A reply is that of a session of the transport, and what it carries is an object. -/
  replies : ∀ p ∈ w.replies, p.1 < w.opened ∧
    ∀ status payload, p.2 = .response status payload → ∃ d, payload = .dict d

variable {w w' : HttpSession} {e : SessionEvent}

theorem object_of_reply {outcome : HttpOutcome} {status : ℤ} {payload : Value}
    (h : outcome.reply = .response status payload) : ∃ d, payload = .dict d := by
  unfold HttpOutcome.reply at h
  split at h
  all_goals cases h
  all_goals exact ⟨_, rfl⟩

theorem owned_init : ({} : HttpSession).Owned where
  sessions := rfl
  current n hn := by cases hn
  posting n hn := by cases hn
  replies p hp := by cases hp

/-- A closed session is never usable. -/
theorem usable_close (w : HttpSession) : w.close.usable = none := by
  rw [usable, Option.filter_eq_none_iff]
  intro n hn
  rw [decide_eq_true_eq, not_not, close, List.mem_append]
  by_cases hclosed : n ∈ w.closed
  · exact .inl hclosed
  · refine .inr ?_
    have husable : w.usable = some n := Option.filter_eq_some_iff.mpr ⟨hn, decide_eq_true hclosed⟩
    rw [husable]
    exact List.mem_singleton_self n

theorem Owned.close (h : w.Owned) : w.close.Owned where
  sessions := by
    rw [usable_close]
    exact (List.append_nil _).trans h.sessions
  current := h.current
  posting := h.posting
  replies := h.replies

/-- A session is made where there is none to use. -/
theorem Owned.made (h : w.Owned) (hnone : w.usable = none) : Owned { w with
    session := some w.opened
    opened := w.opened + 1
    posting := w.opened :: w.posting } where
  sessions := by
    have hclosed := h.sessions
    rw [hnone, Option.toList_none, List.append_nil] at hclosed
    have hfresh : w.opened ∉ w.closed := by
      rw [hclosed]
      exact List.not_mem_range_self
    have husable : (some w.opened).filter (· ∉ w.closed) = some w.opened :=
      Option.filter_eq_some_iff.mpr ⟨rfl, decide_eq_true hfresh⟩
    show w.closed ++ ((some w.opened).filter (· ∉ w.closed)).toList = List.range (w.opened + 1)
    rw [husable, hclosed, List.range_succ]
    rfl
  current n hn := by
    cases hn
    rfl
  posting := List.forall_mem_cons.mpr
    ⟨Nat.lt_succ_self _, fun n hn ↦ Nat.lt_succ_of_lt (h.posting n hn)⟩
  replies p hp := ⟨Nat.lt_succ_of_lt (h.replies p hp).1, (h.replies p hp).2⟩

theorem Owned.step (h : w.Owned) (hstep : w.step e = some w') : w'.Owned := by
  cases e with
  | post made =>
      simp only [HttpSession.step] at hstep
      split at hstep
      case isTrue => cases hstep
      case isFalse =>
        split at hstep
        case h_1 n husable =>
          cases hstep
          have hlt : n < w.opened := by
            have hcurrent := h.current n (Option.filter_eq_some_iff.mp husable).1
            omega
          exact ⟨h.sessions, h.current, List.forall_mem_cons.mpr ⟨hlt, h.posting⟩, h.replies⟩
        case h_2 hnone =>
          cases made with
          | true =>
              cases hstep
              exact h.made hnone
          | false =>
              cases hstep
              exact h
  | done session outcome =>
      simp only [HttpSession.step] at hstep
      split_ifs at hstep with hposting
      cases hstep
      refine ⟨h.sessions, h.current, fun n hn ↦ h.posting n (List.mem_of_mem_erase hn), ?_⟩
      exact List.forall_mem_cons.mpr
        ⟨⟨h.posting session hposting, fun _ _ ↦ object_of_reply⟩, h.replies⟩
  | aclose =>
      simp only [HttpSession.step] at hstep
      split_ifs at hstep
      cases hstep
      exact ⟨h.sessions, h.current, h.posting, h.replies⟩
  | closed =>
      simp only [HttpSession.step] at hstep
      split_ifs at hstep
      cases hstep
      have hclose := h.close
      refine ⟨?_, (fun n hn ↦ by cases hn), hclose.posting, hclose.replies⟩
      have hsessions := hclose.sessions
      rw [usable_close] at hsessions
      exact hsessions
  | closeRaised =>
      simp only [HttpSession.step] at hstep
      split_ifs at hstep
      cases hstep
      exact ⟨h.sessions, h.current, h.posting, h.replies⟩
  | lost =>
      cases hstep
      exact h.close

/-- **No session is leaked.**  However posts and closes interleave, and whatever the factory and
the sessions do, at most one session is open, the transport has it, and the others are closed. -/
theorem always_owned (es : List SessionEvent) :
    Automaton.Always step Owned ({} : HttpSession) es := by
  apply Automaton.always_of_along (P := fun _ _ ↦ True)
  · intro w e w' h _ hstep
    exact h.step hstep
  · exact owned_init
  · exact Automaton.Along.of_forall fun _ _ ↦ trivial

/-- An `aclose` that has returned leaves no session open. -/
theorem all_closed (h : w.Owned) (hstep : w.step .closed = some w') :
    w'.closed = List.range w'.opened := by
  have hsessions := (h.step hstep).sessions
  simp only [HttpSession.step] at hstep
  split_ifs at hstep
  cases hstep
  exact (List.append_nil _).symm.trans hsessions

end HttpSession

end DroneComms.Inference
