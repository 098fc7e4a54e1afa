import DroneComms.Lib.Automaton
import Mathlib.Tactic

/-!
# The inbox of a transport

`AbstractTransport` of `meshsa/transports/base.py`: the bounded `asyncio.Queue`
between the inbound paths of a transport and the consumers of its `stream`.

Only the steps of the event loop are atomic.  A consumer that finds the queue
empty is suspended, is woken by a later frame and takes it when the loop comes
to it, or is cancelled before.  Frames may be offered at any moment between.
-/

namespace DroneComms.Transports

universe u

variable {α : Type u}

/-- `_DROP_LOG_INTERVAL`. -/
def dropLogInterval : ℕ := 100

/-- `AbstractTransport`: its inbox, and the consumers of `stream` that wait at
the inbox. -/
structure Inbox (α : Type u) where
  queueMaxsize : Int
  /-- The frames queued, the oldest first. -/
  queue : List α := []
  /-- Consumers suspended in `get`. -/
  getters : List ℕ := []
  /-- Consumers that were woken and did not run yet. -/
  woken : List ℕ := []
  droppedInboxFull : ℕ := 0
  /-- The counts at which a warning was logged. -/
  warnings : List ℕ := []

/-- What happens to a transport. -/
inductive InboxEvent (α : Type u) where
  | /-- `_ingest_nowait`. -/ ingest (data : α)
  | /-- A consumer asks for its next frame. -/ next (consumer : ℕ)
  | /-- The loop runs a consumer that was woken. -/ resume (consumer : ℕ)
  | /-- A waiting consumer is cancelled. -/ cancel (consumer : ℕ)

namespace Inbox

/-- `Queue.full`. -/
def full (t : Inbox α) : Prop := 0 < t.queueMaxsize ∧ t.queueMaxsize ≤ t.queue.length

instance (t : Inbox α) : Decidable t.full := inferInstanceAs (Decidable (_ ∧ _))

/-- `Queue._wakeup_next` of the getters. -/
def wakeupNext (t : Inbox α) : Inbox α :=
  match t.getters with
  | [] => t
  | g :: getters => { t with getters := getters, woken := t.woken ++ [g] }

/-- `Queue.put_nowait`; `none` is `QueueFull`. -/
def putNowait (t : Inbox α) (data : α) : Option (Inbox α) :=
  if t.full then none else some { t with queue := t.queue ++ [data] }.wakeupNext

/-- A drop with this count is logged: the first one, and every
`_DROP_LOG_INTERVAL`-th after it. -/
def logged (dropped : ℕ) : Bool := dropped = 1 || dropped % dropLogInterval = 0

/-- `_ingest_nowait`. -/
def ingestNowait (t : Inbox α) (data : α) : Inbox α :=
  match t.putNowait data with
  | some t => t
  | none =>
      let dropped := t.droppedInboxFull + 1
      { t with
        droppedInboxFull := dropped
        warnings := if logged dropped then t.warnings ++ [dropped] else t.warnings }

/-- The head of the loop of `Queue.get`: take the oldest frame, or suspend. -/
def get (t : Inbox α) (consumer : ℕ) : Inbox α × Option α :=
  match t.queue with
  | [] => ({ t with getters := t.getters ++ [consumer] }, none)
  | data :: queue => ({ t with queue := queue }, some data)

/-- The handler of `Queue.get` for a cancelled consumer: if a frame woke it, the
frame wakes the next one. -/
def cancelled (t : Inbox α) (consumer : ℕ) : Inbox α :=
  if consumer ∈ t.getters then { t with getters := t.getters.erase consumer }
  else
    let t := { t with woken := t.woken.erase consumer }
    if t.queue = [] then t else t.wakeupNext

end Inbox

/-- A transport with what was offered to it, each frame with the number of frames
queued at that moment, and what its consumers were given. -/
structure Traffic (α : Type u) where
  inbox : Inbox α
  offered : List (α × ℕ) := []
  yielded : List α := []

namespace Traffic

/-- A transport has just been built. -/
def start (queueMaxsize : Int) : Traffic α := { inbox := { queueMaxsize } }

/-- The consumer waits in `get`. -/
def Waits (t : Traffic α) (consumer : ℕ) : Prop :=
  consumer ∈ t.inbox.getters ∨ consumer ∈ t.inbox.woken

instance (t : Traffic α) (consumer : ℕ) : Decidable (t.Waits consumer) :=
  inferInstanceAs (Decidable (_ ∨ _))

/-- A consumer looks into the queue. -/
def getting (t : Traffic α) (consumer : ℕ) : Traffic α :=
  let r := t.inbox.get consumer
  { t with inbox := r.1, yielded := t.yielded ++ r.2.toList }

def step (t : Traffic α) : InboxEvent α → Option (Traffic α)
  | .ingest data => some { t with
      inbox := t.inbox.ingestNowait data
      offered := t.offered ++ [(data, t.inbox.queue.length)] }
  | .next consumer => if t.Waits consumer then none else some (t.getting consumer)
  | .resume consumer =>
      if consumer ∈ t.inbox.woken then
        some ({ t with
          inbox := { t.inbox with woken := t.inbox.woken.erase consumer } }.getting consumer)
      else none
  | .cancel consumer =>
      if t.Waits consumer then some { t with inbox := t.inbox.cancelled consumer } else none

/-- The frames accepted so far: those yielded, then those queued. -/
def accepted (t : Traffic α) : List α := t.yielded ++ t.inbox.queue

/-- The frames that found room when they were offered. -/
def admitted (t : Traffic α) : List α :=
  (t.offered.filter fun offer ↦ offer.2 < t.inbox.queueMaxsize).map Prod.fst

/-- Nothing accepted is lost, reordered or delivered twice, and every frame is
accounted for. -/
structure Conserved (queueMaxsize : Int) (t : Traffic α) : Prop where
  bound : t.inbox.queueMaxsize = queueMaxsize
  order : t.accepted = t.admitted
  count : t.offered.length = t.yielded.length + t.inbox.queue.length + t.inbox.droppedInboxFull
  room : t.inbox.queue.length ≤ queueMaxsize

end Traffic

namespace Inbox

variable {t : Inbox α}

/-! ## What an operation leaves as it was -/

/-- Waking a consumer concerns the consumers only. -/
theorem wakeupNext_eq (t : Inbox α) : ∃ getters woken,
    t.wakeupNext = { t with getters := getters, woken := woken } := by
  unfold wakeupNext
  split
  · exact ⟨_, _, rfl⟩
  · exact ⟨_, _, rfl⟩

/-- A frame is put at the end of the queue, or dropped and counted. -/
theorem ingestNowait_cases (t : Inbox α) (data : α) :
    (¬ t.full ∧ t.ingestNowait data = { t with queue := t.queue ++ [data] }.wakeupNext) ∨
    (t.full ∧ t.ingestNowait data = { t with
      droppedInboxFull := t.droppedInboxFull + 1
      warnings := if logged (t.droppedInboxFull + 1) then t.warnings ++ [t.droppedInboxFull + 1]
        else t.warnings }) := by
  unfold ingestNowait putNowait
  by_cases h : t.full
  · simp [h]
  · simp [h]

/-- So does a cancellation. -/
theorem cancelled_eq (t : Inbox α) (consumer : ℕ) : ∃ getters woken,
    t.cancelled consumer = { t with getters := getters, woken := woken } := by
  unfold cancelled
  dsimp only
  split_ifs
  · exact ⟨_, _, rfl⟩
  · exact ⟨_, _, rfl⟩
  · obtain ⟨getters, woken, h⟩ :=
      wakeupNext_eq { t with woken := t.woken.erase consumer }
    exact ⟨getters, woken, h⟩

end Inbox

namespace Traffic

variable {n : Int} {t u : Traffic α}

/-! ## Conservation -/

theorem conserved_start (hn : 1 ≤ n) : (start n : Traffic α).Conserved n where
  bound := rfl
  order := rfl
  count := rfl
  room := (Int.zero_le_ofNat 1).trans hn

/-- Offering a frame accepts it exactly if there is room. -/
theorem Conserved.ingest (hn : 1 ≤ n) (h : t.Conserved n) (data : α) :
    Conserved n { t with
      inbox := t.inbox.ingestNowait data
      offered := t.offered ++ [(data, t.inbox.queue.length)] } := by
  obtain ⟨hbound, horder, hcount, hroom⟩ := h
  rcases t.inbox.ingestNowait_cases data with ⟨hfull, hin⟩ | ⟨hfull, hin⟩
  · have hlt : (t.inbox.queue.length : Int) < t.inbox.queueMaxsize := by
      by_contra hnot
      exact hfull ⟨by omega, by omega⟩
    obtain ⟨getters, woken, hwake⟩ :=
      Inbox.wakeupNext_eq { t.inbox with queue := t.inbox.queue ++ [data] }
    rw [hin, hwake]
    constructor
    · exact hbound
    · unfold accepted admitted at horder ⊢
      rw [← List.append_assoc, horder]
      simp [hlt]
    · simp only [List.length_append, List.length_singleton]
      omega
    · simp only [List.length_append, List.length_singleton]
      omega
  · rw [hin]
    constructor
    · exact hbound
    · unfold accepted admitted at horder ⊢
      rw [horder]
      simp [not_lt.mpr hfull.2]
    · simp only [List.length_append, List.length_singleton]
      omega
    · exact hroom

/-- Taking a frame moves it from the queue to those yielded. -/
theorem Conserved.getting (h : t.Conserved n) (consumer : ℕ) :
    (t.getting consumer).Conserved n := by
  obtain ⟨hbound, horder, hcount, hroom⟩ := h
  unfold accepted admitted at horder
  unfold Traffic.getting Inbox.get
  cases hq : t.inbox.queue with
  | nil =>
      rw [hq] at horder hcount hroom
      exact ⟨hbound, by simpa [accepted, admitted, hq] using horder,
        by simpa [hq] using hcount, by simpa [hq] using hroom⟩
  | cons data queue =>
      rw [hq] at horder hcount hroom
      simp only [List.length_cons] at hcount hroom
      refine ⟨hbound, by simpa [accepted, admitted] using horder, ?_, ?_⟩
      · simp only [Option.toList_some, List.length_append, List.length_singleton]
        omega
      · push_cast at hroom
        dsimp only
        omega

/-- Where the consumers wait does not matter to the frames. -/
theorem Conserved.waiting (h : t.Conserved n) (getters woken : List ℕ) :
    Conserved n { t with inbox := { t.inbox with getters := getters, woken := woken } } :=
  ⟨h.bound, h.order, h.count, h.room⟩

theorem Conserved.step (hn : 1 ≤ n) (h : t.Conserved n) {e : InboxEvent α}
    (hstep : Traffic.step t e = some u) : u.Conserved n := by
  cases e with
  | ingest data =>
      cases hstep
      exact h.ingest hn data
  | next consumer =>
      obtain ⟨-, hu⟩ := Option.ite_none_left_eq_some.mp hstep
      cases hu
      exact h.getting consumer
  | resume consumer =>
      obtain ⟨-, hu⟩ := Option.ite_none_right_eq_some.mp hstep
      cases hu
      exact (h.waiting t.inbox.getters _).getting consumer
  | cancel consumer =>
      obtain ⟨-, hu⟩ := Option.ite_none_right_eq_some.mp hstep
      cases hu
      obtain ⟨getters, woken, hcancel⟩ := t.inbox.cancelled_eq consumer
      rw [hcancel]
      exact h.waiting getters woken

/-- An accepted frame keeps its place. -/
theorem accepted_prefix_step {e : InboxEvent α} (hstep : Traffic.step t e = some u) :
    t.accepted <+: u.accepted := by
  have hgetting (t : Traffic α) (consumer : ℕ) :
      (t.getting consumer).accepted = t.accepted := by
    unfold accepted getting Inbox.get
    cases hq : t.inbox.queue with
    | nil => simp
    | cons data queue => simp
  cases e with
  | ingest data =>
      cases hstep
      unfold accepted
      rcases t.inbox.ingestNowait_cases data with ⟨-, hin⟩ | ⟨-, hin⟩
      · obtain ⟨getters, woken, hwake⟩ :=
          Inbox.wakeupNext_eq { t.inbox with queue := t.inbox.queue ++ [data] }
        rw [hin, hwake]
        exact ⟨[data], by simp⟩
      · rw [hin]
  | next consumer =>
      obtain ⟨-, hu⟩ := Option.ite_none_left_eq_some.mp hstep
      cases hu
      rw [hgetting]
  | resume consumer =>
      obtain ⟨-, hu⟩ := Option.ite_none_right_eq_some.mp hstep
      cases hu
      rw [hgetting]
      exact List.prefix_rfl
  | cancel consumer =>
      obtain ⟨-, hu⟩ := Option.ite_none_right_eq_some.mp hstep
      cases hu
      obtain ⟨getters, woken, hcancel⟩ := t.inbox.cancelled_eq consumer
      rw [hcancel]
      exact List.prefix_rfl

/-- **The inbox loses nothing it accepted.**  At every point of every
interleaving of offered frames and consumers the frames are conserved, and those
accepted so far stay the first of all that will have been. -/
theorem inbox_loses_nothing {n : Int} (hn : 1 ≤ n) {es : List (InboxEvent α)} {t : Traffic α}
    (h : Automaton.exec step (start n) es = some t) :
    t.Conserved n ∧ ∀ fs u, Automaton.exec step t fs = some u → t.accepted <+: u.accepted := by
  constructor
  · exact Automaton.exec_invariant (fun _ _ _ ht hstep ↦ ht.step hn hstep) (conserved_start hn) h
  · intro fs u hu
    exact Automaton.exec_invariant (I := fun u ↦ t.accepted <+: u.accepted)
      (fun _ _ _ hprefix hstep ↦ hprefix.trans (accepted_prefix_step hstep)) List.prefix_rfl hu

/-- With room for one frame, the second is dropped, the first is delivered and
the third accepted. -/
theorem inbox_drops_newest :
    ∃ t : Traffic ℕ, Automaton.exec step (start 1)
        [.ingest 10, .ingest 20, .next 0, .ingest 30] = some t ∧
      t.Conserved 1 ∧ t.yielded = [10] ∧ t.inbox.queue = [30] :=
  have hrun : Automaton.exec step (start 1) [.ingest 10, .ingest 20, .next 0, .ingest 30] =
      some { inbox := { queueMaxsize := 1, queue := [30], droppedInboxFull := 1, warnings := [1] }
             offered := [(10, 0), (20, 1), (30, 0)]
             yielded := [10] } := rfl
  ⟨_, hrun, (inbox_loses_nothing (by decide) hrun).1, rfl, rfl⟩

/-! ## Warnings and wake-ups -/

/-- A warning was logged for the first drop and for every hundredth. -/
def Warned (t : Inbox α) : Prop :=
  t.warnings = ((List.range t.droppedInboxFull).map (· + 1)).filter Inbox.logged

/-- No consumer is left suspended while frames wait: there is one to be run for
each of them. -/
def Attended (t : Inbox α) : Prop := t.getters = [] ∨ t.queue.length ≤ t.woken.length

/-- Waking a consumer makes up for one more frame. -/
theorem attended_wakeupNext {t : Inbox α}
    (h : t.getters = [] ∨ t.queue.length ≤ t.woken.length + 1) : Attended t.wakeupNext := by
  unfold Inbox.wakeupNext
  split
  · rename_i hnil
    exact .inl hnil
  · rename_i g getters hg
    have hlen := h.resolve_left (by simp [hg])
    exact .inr (by simpa using hlen)

theorem attended_step {e : InboxEvent α} (h : Attended t.inbox)
    (hstep : Traffic.step t e = some u) : Attended u.inbox := by
  have hgetting {t : Traffic α} (consumer : ℕ)
      (h : t.inbox.getters = [] ∨ t.inbox.queue.length ≤ t.inbox.woken.length + 1) :
      Attended (t.getting consumer).inbox := by
    unfold getting Inbox.get Attended
    cases hq : t.inbox.queue with
    | nil => exact .inr (by simp)
    | cons data queue => exact h.imp_right fun h ↦ by simpa [hq] using h
  cases e with
  | ingest data =>
      cases hstep
      rcases t.inbox.ingestNowait_cases data with ⟨-, hin⟩ | ⟨-, hin⟩
      · rw [hin]
        exact attended_wakeupNext (h.imp_right fun hlen ↦ by simpa using hlen)
      · rw [hin]
        exact h
  | next consumer =>
      obtain ⟨-, hu⟩ := Option.ite_none_left_eq_some.mp hstep
      cases hu
      exact hgetting consumer (h.imp_right Nat.le_succ_of_le)
  | resume consumer =>
      obtain ⟨hwoken, hu⟩ := Option.ite_none_right_eq_some.mp hstep
      cases hu
      refine hgetting consumer (h.imp_right fun hlen ↦ ?_)
      have herase := List.length_erase_add_one hwoken
      dsimp only
      omega
  | cancel consumer =>
      obtain ⟨hwaits, hu⟩ := Option.ite_none_right_eq_some.mp hstep
      cases hu
      unfold Inbox.cancelled
      dsimp only
      split_ifs with hgetter hempty
      · exact h.imp_left fun hnil ↦ by simp [hnil]
      · exact .inr (by simp [hempty])
      · have herase := List.length_erase_add_one (hwaits.resolve_left hgetter)
        refine attended_wakeupNext (h.imp_right fun hlen ↦ ?_)
        dsimp only
        omega

theorem warned_step {e : InboxEvent α} (h : Warned t.inbox)
    (hstep : Traffic.step t e = some u) : Warned u.inbox := by
  have hgetting {t : Traffic α} (consumer : ℕ) (h : Warned t.inbox) :
      Warned (t.getting consumer).inbox := by
    unfold getting Inbox.get
    split
    · exact h
    · exact h
  cases e with
  | ingest data =>
      cases hstep
      rcases t.inbox.ingestNowait_cases data with ⟨-, hin⟩ | ⟨-, hin⟩
      · obtain ⟨getters, woken, hwake⟩ :=
          Inbox.wakeupNext_eq { t.inbox with queue := t.inbox.queue ++ [data] }
        rw [hin, hwake]
        exact h
      · rw [hin]
        unfold Warned at h ⊢
        dsimp only
        rw [List.range_succ, List.map_append, List.filter_append, ← h]
        split_ifs with hlogged
        · simp [hlogged]
        · simp [hlogged]
  | next consumer =>
      obtain ⟨-, hu⟩ := Option.ite_none_left_eq_some.mp hstep
      cases hu
      exact hgetting consumer h
  | resume consumer =>
      obtain ⟨-, hu⟩ := Option.ite_none_right_eq_some.mp hstep
      cases hu
      exact hgetting consumer h
  | cancel consumer =>
      obtain ⟨-, hu⟩ := Option.ite_none_right_eq_some.mp hstep
      cases hu
      obtain ⟨getters, woken, hcancel⟩ := t.inbox.cancelled_eq consumer
      rw [hcancel]
      exact h

/-- In every run the drops are logged at their throttled rate, and no frame waits
beside a consumer that sleeps. -/
theorem warned_and_attended {n : Int} {es : List (InboxEvent α)} {t : Traffic α}
    (h : Automaton.exec step (start n) es = some t) : Warned t.inbox ∧ Attended t.inbox := by
  have hstart : Warned (start n : Traffic α).inbox ∧ Attended (start n : Traffic α).inbox :=
    ⟨rfl, .inl rfl⟩
  exact Automaton.exec_invariant (I := fun t ↦ Warned t.inbox ∧ Attended t.inbox)
    (fun _ _ _ ht hstep ↦ ⟨warned_step ht.1 hstep, attended_step ht.2 hstep⟩) hstart h

end Traffic

end DroneComms.Transports
