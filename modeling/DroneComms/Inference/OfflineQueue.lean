import DroneComms.Mesh.Models
import Mathlib.Data.List.Sort
import Mathlib.Logic.Relation
import Mathlib.Tactic

/-!
# The offline queue

`_OfflineQueue` of `meshsa/inference/service.py`, a bounded deque of envelopes for
a later replay, and what a replay does with it: take the oldest envelope out, and
put it back, drop it, or be done with it.

Every envelope has the number of its first `put`, and the queue remembers what
became of each.  The source keeps neither.
-/

namespace DroneComms.Inference

open Mesh (Envelope)
open Relation (ReflTransGen)

/-- A queued envelope and the number of its first `put`. -/
structure Entry where
  seq : ℕ
  envelope : Envelope

/-- The state of an `_OfflineQueue`, and what became of its envelopes. -/
structure OfflineQueue where
  queue : List Entry := []
  dropped : ℕ := 0
  /-- Every envelope ever put, in order. -/
  enqueued : List Entry := []
  /-- Every replay ever started, in order. -/
  attempts : List Entry := []
  /-- The envelopes replayed with success, in order. -/
  replayed : List Entry := []
  /-- The envelopes that were dropped. -/
  discarded : List Entry := []

variable (maxlen : ℕ)

/-- `deque.append`, and what falls out at the other end. -/
def append (x : Entry) (xs : List Entry) : List Entry × List Entry :=
  if xs.length = maxlen then (xs.tail ++ [x], xs.take 1) else (xs ++ [x], [])

/-- `deque.appendleft`, and what falls out at the other end. -/
def appendleft (x : Entry) (xs : List Entry) : List Entry × List Entry :=
  if xs.length = maxlen then (x :: xs.dropLast, xs.drop (xs.length - 1)) else (x :: xs, [])

namespace OfflineQueue

/-- `put`. -/
def put (item : Entry) (front : Bool) (q : OfflineQueue) : OfflineQueue :=
  let kept := if front then appendleft maxlen item q.queue else append maxlen item q.queue
  { q with
    queue := kept.1
    dropped := if q.queue.length = maxlen then q.dropped + 1 else q.dropped
    discarded := q.discarded ++ kept.2 }

/-- The first `put` of an envelope. -/
def enqueue (envelope : Envelope) (q : OfflineQueue) : OfflineQueue :=
  let item := ⟨q.enqueued.length, envelope⟩
  { q with enqueued := q.enqueued ++ [item] }.put maxlen item false

/-- `pop`, and the start of a replay. -/
def pop (item : Entry) (rest : List Entry) (q : OfflineQueue) : OfflineQueue :=
  { q with queue := rest, attempts := q.attempts ++ [item] }

/-- `record_drop`. -/
def recordDrop (item : Entry) (q : OfflineQueue) : OfflineQueue :=
  { q with dropped := q.dropped + 1, discarded := q.discarded ++ [item] }

/-- The end of a replay. -/
def deliver (item : Entry) (q : OfflineQueue) : OfflineQueue :=
  { q with replayed := q.replayed ++ [item] }

end OfflineQueue

/-! ## Moves -/

/-- What happens to the queue and to the envelope that is being replayed. -/
inductive Move : OfflineQueue × Option Entry → OfflineQueue × Option Entry → Prop where
  | enqueue {q taken} (envelope : Envelope) (henabled : 0 < maxlen) :
      Move (q, taken) (q.enqueue maxlen envelope, taken)
  | pop {q item rest} (hqueue : q.queue = item :: rest) : Move (q, none) (q.pop item rest, some item)
  | requeue {q item} : Move (q, some item) (q.put maxlen item true, none)
  | discard {q item} : Move (q, some item) (q.recordDrop item, none)
  | deliver {q item} : Move (q, some item) (q.deliver item, none)

abbrev Moves : OfflineQueue × Option Entry → OfflineQueue × Option Entry → Prop :=
  ReflTransGen (Move maxlen)

namespace OfflineQueue

/-! ## Order -/

/-- Envelopes are replayed and wait in the order in which they came. -/
structure Fifo (taken : Option Entry) (q : OfflineQueue) : Prop where
  length_le : q.queue.length ≤ maxlen
  enabled : taken ≠ none → 0 < maxlen
  numbered : q.enqueued.Pairwise fun x y ↦ x.seq < y.seq
  ordered : (q.replayed ++ (taken.toList ++ q.queue)).Pairwise fun x y ↦ x.seq < y.seq
  attempted : q.attempts.Pairwise fun x y ↦ x.seq ≤ y.seq
  behind : ∀ x ∈ q.attempts, ∀ y ∈ taken.toList ++ q.queue, x.seq ≤ y.seq
  mem : ∀ x ∈ q.replayed ++ (taken.toList ++ q.queue), x ∈ q.enqueued
  fresh : ∀ x ∈ q.enqueued ++ q.attempts, x.seq < q.enqueued.length

variable {maxlen} {q : OfflineQueue} {taken : Option Entry} {item : Entry}

theorem Fifo.init : Fifo maxlen none {} := by
  constructor <;> simp

/-- The queue behind a `put` at the end is a part of the queue and the new envelope. -/
theorem append_sublist (x : Entry) (xs : List Entry) : (append maxlen x xs).1.Sublist (xs ++ [x]) := by
  rw [append]
  split
  · exact (List.tail_sublist xs).append_right [x]
  · exact List.Sublist.refl _

theorem appendleft_sublist (x : Entry) (xs : List Entry) :
    (appendleft maxlen x xs).1.Sublist (x :: xs) := by
  rw [appendleft]
  split
  · exact (List.dropLast_sublist xs).cons_cons x
  · exact List.Sublist.refl _

theorem length_append_le {xs : List Entry} (hpos : 0 < maxlen) (h : xs.length ≤ maxlen)
    (x : Entry) : (append maxlen x xs).1.length ≤ maxlen := by
  rw [append]
  split
  · simp
    omega
  · simp
    omega

theorem length_appendleft_le {xs : List Entry} (hpos : 0 < maxlen) (h : xs.length ≤ maxlen)
    (x : Entry) : (appendleft maxlen x xs).1.length ≤ maxlen := by
  rw [appendleft]
  split
  · simp
    omega
  · simp
    omega

theorem pairwise_concat {r : Entry → Entry → Prop} {xs : List Entry} (h : xs.Pairwise r) {x : Entry}
    (hx : ∀ y ∈ xs, r y x) : (xs ++ [x]).Pairwise r := by
  rw [List.pairwise_append]
  refine ⟨h, List.pairwise_singleton _ _, fun y hy x' hx' ↦ ?_⟩
  rw [List.mem_singleton.mp hx']
  exact hx y hy

/-- An envelope that comes in is behind all others. -/
theorem Fifo.enqueue (h : q.Fifo maxlen taken) (hpos : 0 < maxlen) (envelope : Envelope) :
    (q.enqueue maxlen envelope).Fifo maxlen taken := by
  set item : Entry := ⟨q.enqueued.length, envelope⟩
  have hsub : (append maxlen item q.queue).1.Sublist (q.queue ++ [item]) :=
    append_sublist item q.queue
  have hwait : (taken.toList ++ (append maxlen item q.queue).1).Sublist
      (taken.toList ++ q.queue ++ [item]) := by
    rw [List.append_assoc]
    exact hsub.append_left _
  have hall : (q.replayed ++ (taken.toList ++ (append maxlen item q.queue).1)).Sublist
      (q.replayed ++ (taken.toList ++ q.queue) ++ [item]) := by
    rw [List.append_assoc]
    exact hwait.append_left _
  constructor
  · exact length_append_le hpos h.length_le item
  · exact fun _ ↦ hpos
  · apply pairwise_concat h.numbered
    exact fun x hx ↦ h.fresh x (List.mem_append_left _ hx)
  · apply List.Pairwise.sublist hall
    apply pairwise_concat h.ordered
    exact fun x hx ↦ h.fresh x (List.mem_append_left _ (h.mem x hx))
  · exact h.attempted
  · intro x hx y hy
    rcases List.mem_append.mp (hwait.subset hy) with hy | hy
    · exact h.behind x hx y hy
    · rw [List.mem_singleton.mp hy]
      exact (h.fresh x (List.mem_append_right _ hx)).le
  · intro x hx
    rcases List.mem_append.mp (hall.subset hx) with hx | hx
    · exact List.mem_append_left _ (h.mem x hx)
    · exact List.mem_append_right _ hx
  · have hfresh := List.forall_mem_append.mp h.fresh
    have hlater : ∀ {n}, n < q.enqueued.length → n < (q.enqueued ++ [item]).length := by
      intro n hn
      rw [List.length_append, List.length_singleton]
      exact hn.trans (Nat.lt_succ_self _)
    show ∀ x ∈ q.enqueued ++ [item] ++ q.attempts, x.seq < (q.enqueued ++ [item]).length
    rw [List.forall_mem_append, List.forall_mem_append, List.forall_mem_singleton]
    refine ⟨⟨fun x hx ↦ hlater (hfresh.1 x hx), ?_⟩, fun x hx ↦ hlater (hfresh.2 x hx)⟩
    rw [List.length_append, List.length_singleton]
    exact Nat.lt_succ_self _

/-- The oldest envelope is the next one to be replayed. -/
theorem Fifo.pop {rest : List Entry} (h : q.Fifo maxlen none) (hqueue : q.queue = item :: rest) :
    (q.pop item rest).Fifo maxlen (some item) := by
  have hwait : (some item).toList ++ rest = (none : Option Entry).toList ++ q.queue := by
    rw [hqueue]
    rfl
  have hlength := h.length_le
  have hfirst : (item :: rest).Pairwise fun x y ↦ x.seq < y.seq := by
    rw [← hqueue]
    exact (List.pairwise_append.mp h.ordered).2.1
  have hold : ∀ x ∈ q.attempts, x.seq ≤ item.seq := fun x hx ↦
    h.behind x hx item (by simp [hqueue])
  rw [hqueue, List.length_cons] at hlength
  constructor
  · exact Nat.le_of_succ_le hlength
  · exact fun _ ↦ (Nat.zero_lt_succ _).trans_le hlength
  · exact h.numbered
  · show (q.replayed ++ ((some item).toList ++ rest)).Pairwise _
    rw [hwait]
    exact h.ordered
  · exact pairwise_concat h.attempted hold
  · show ∀ x ∈ q.attempts ++ [item], ∀ y ∈ (some item).toList ++ rest, x.seq ≤ y.seq
    rw [hwait]
    intro x hx y hy
    rcases List.mem_append.mp hx with hx | hx
    · exact h.behind x hx y hy
    · rw [List.mem_singleton.mp hx]
      rw [hqueue] at hy
      rcases List.mem_cons.mp hy with rfl | hy
      · exact le_rfl
      · exact ((List.pairwise_cons.mp hfirst).1 y hy).le
  · show ∀ x ∈ q.replayed ++ ((some item).toList ++ rest), x ∈ q.enqueued
    rw [hwait]
    exact h.mem
  · show ∀ x ∈ q.enqueued ++ (q.attempts ++ [item]), x.seq < q.enqueued.length
    intro x hx
    rw [← List.append_assoc] at hx
    rcases List.mem_append.mp hx with hx | hx
    · exact h.fresh x hx
    · rw [List.mem_singleton.mp hx]
      exact h.fresh item (List.mem_append_left _ (h.mem item (by simp [hqueue])))

/-- An envelope that is not replayed any more leaves the others in order. -/
theorem Fifo.forget (h : q.Fifo maxlen taken) : q.Fifo maxlen none where
  length_le := h.length_le
  enabled := by simp
  numbered := h.numbered
  ordered := h.ordered.sublist ((List.sublist_append_right _ _).append_left _)
  attempted := h.attempted
  behind x hx y hy := h.behind x hx y (List.mem_append_right _ hy)
  mem x hx := h.mem x (((List.sublist_append_right _ _).append_left _).subset hx)
  fresh := h.fresh

/-- An envelope that returns is in front of all others. -/
theorem Fifo.requeue (h : q.Fifo maxlen (some item)) :
    (q.put maxlen item true).Fifo maxlen none := by
  have hsub : (appendleft maxlen item q.queue).1.Sublist ((some item).toList ++ q.queue) :=
    appendleft_sublist item q.queue
  constructor
  · exact length_appendleft_le (h.enabled (by simp)) h.length_le item
  · simp
  · exact h.numbered
  · exact h.ordered.sublist (hsub.append_left _)
  · exact h.attempted
  · exact fun x hx y hy ↦ h.behind x hx y (hsub.subset hy)
  · exact fun x hx ↦ h.mem x ((hsub.append_left _).subset hx)
  · exact h.fresh

theorem Fifo.discard (h : q.Fifo maxlen (some item)) : (q.recordDrop item).Fifo maxlen none := by
  have hforget := h.forget
  exact ⟨hforget.length_le, hforget.enabled, hforget.numbered, hforget.ordered, hforget.attempted,
    hforget.behind, hforget.mem, hforget.fresh⟩

theorem Fifo.deliver (h : q.Fifo maxlen (some item)) : (q.deliver item).Fifo maxlen none := by
  have hmoved : q.replayed ++ [item] ++ ((none : Option Entry).toList ++ q.queue) =
      q.replayed ++ ((some item).toList ++ q.queue) := by
    simp
  have hforget := h.forget
  refine ⟨hforget.length_le, hforget.enabled, hforget.numbered, ?_, hforget.attempted,
    hforget.behind, ?_, hforget.fresh⟩
  · show (q.replayed ++ [item] ++ ((none : Option Entry).toList ++ q.queue)).Pairwise _
    rw [hmoved]
    exact h.ordered
  · show ∀ x ∈ q.replayed ++ [item] ++ ((none : Option Entry).toList ++ q.queue), x ∈ q.enqueued
    rw [hmoved]
    exact h.mem

theorem Fifo.moves {s t : OfflineQueue × Option Entry} (h : Moves maxlen s t)
    (hs : s.1.Fifo maxlen s.2) : t.1.Fifo maxlen t.2 := by
  induction h with
  | refl => exact hs
  | tail _ hmove ih =>
      cases hmove with
      | enqueue envelope henabled => exact ih.enqueue henabled envelope
      | pop hqueue => exact ih.pop hqueue
      | requeue => exact ih.requeue
      | discard => exact ih.discard
      | deliver => exact ih.deliver

/-- What was replayed is a part of what was put, in the same order. -/
theorem Fifo.replayed_sublist (h : q.Fifo maxlen taken) : q.replayed.Sublist q.enqueued := by
  have hordered := (List.pairwise_append.mp h.ordered).1
  have hnodup : q.replayed.Nodup := hordered.imp fun hlt heq ↦ by
    rw [heq] at hlt
    exact lt_irrefl _ hlt
  have hsubset : q.replayed ⊆ q.enqueued := fun x hx ↦ h.mem x (List.mem_append_left _ hx)
  have : Std.Antisymm fun x y : Entry ↦ x.seq < y.seq :=
    ⟨fun _ _ hxy hyx ↦ absurd hyx (lt_asymm hxy)⟩
  exact List.sublist_of_subperm_of_pairwise (List.subperm_of_subset hnodup hsubset) hordered
    h.numbered

/-! ## Conservation -/

/-- Every envelope waits, is being replayed, was replayed, was dropped and counted,
or is lost. -/
structure Balanced (lost : Multiset Entry) (taken : Option Entry) (q : OfflineQueue) : Prop where
  balance : (taken.toList : Multiset Entry) + q.queue + q.replayed + q.discarded + lost = q.enqueued
  counted : q.dropped = q.discarded.length

variable {lost : Multiset Entry}

theorem Balanced.init : Balanced 0 none {} := ⟨rfl, rfl⟩

/-- A `put` at the end keeps the envelopes, and one falls out if the queue is full. -/
theorem append_balance {xs : List Entry} (hpos : 0 < maxlen) (x : Entry) :
    ((append maxlen x xs).1 : Multiset Entry) + (append maxlen x xs).2 = xs + {x} ∧
      (append maxlen x xs).2.length = if xs.length = maxlen then 1 else 0 := by
  rw [append]
  split
  · rename_i hfull
    constructor
    · rw [Multiset.coe_add, ← Multiset.coe_singleton, Multiset.coe_add, Multiset.coe_eq_coe]
      have hxs : xs.take 1 ++ (xs.tail ++ [x]) = xs ++ [x] := by
        rw [← List.drop_one, ← List.append_assoc, List.take_append_drop]
      rw [← hxs]
      exact List.perm_append_comm
    · rw [List.length_take]
      omega
  · refine ⟨?_, rfl⟩
    show ((xs ++ [x] : List Entry) : Multiset Entry) + 0 = xs + {x}
    rw [add_zero, ← Multiset.coe_add, Multiset.coe_singleton]

theorem appendleft_balance {xs : List Entry} (hpos : 0 < maxlen) (x : Entry) :
    ((appendleft maxlen x xs).1 : Multiset Entry) + (appendleft maxlen x xs).2 = xs + {x} ∧
      (appendleft maxlen x xs).2.length = if xs.length = maxlen then 1 else 0 := by
  rw [appendleft]
  split
  · rename_i hfull
    constructor
    · rw [Multiset.coe_add, ← Multiset.coe_singleton, Multiset.coe_add, Multiset.coe_eq_coe]
      have hxs : x :: xs.dropLast ++ xs.drop (xs.length - 1) = x :: xs := by
        rw [List.dropLast_eq_take, List.cons_append, List.take_append_drop]
      rw [hxs]
      exact (List.perm_append_singleton x xs).symm
    · rw [List.length_drop]
      omega
  · refine ⟨?_, rfl⟩
    show ((x :: xs : List Entry) : Multiset Entry) + 0 = xs + {x}
    rw [add_zero, ← Multiset.cons_coe, ← Multiset.singleton_add, add_comm]

/-- A `put` of an envelope that was elsewhere. -/
theorem Balanced.put {front : Bool} (hpos : 0 < maxlen)
    (hbalance : (taken.toList : Multiset Entry) + {item} + q.queue + q.replayed + q.discarded + lost =
      q.enqueued) (hcounted : q.dropped = q.discarded.length) :
    (q.put maxlen item front).Balanced lost taken := by
  set kept := if front then appendleft maxlen item q.queue else append maxlen item q.queue with hkept
  have hput : ((kept.1 : Multiset Entry) + kept.2 = q.queue + {item}) ∧
      kept.2.length = if q.queue.length = maxlen then 1 else 0 := by
    cases front with
    | true => exact appendleft_balance hpos item
    | false => exact append_balance hpos item
  constructor
  · show (taken.toList : Multiset Entry) + kept.1 + q.replayed +
      ((q.discarded ++ kept.2 : List Entry) : Multiset Entry) + lost = q.enqueued
    rw [← Multiset.coe_add]
    calc (taken.toList : Multiset Entry) + kept.1 + q.replayed + (q.discarded + kept.2) + lost
        _ = taken.toList + (kept.1 + kept.2) + q.replayed + q.discarded + lost := by abel
        _ = taken.toList + {item} + q.queue + q.replayed + q.discarded + lost := by
          rw [hput.1]
          abel
        _ = q.enqueued := hbalance
  · show (if q.queue.length = maxlen then q.dropped + 1 else q.dropped) =
      (q.discarded ++ kept.2).length
    rw [List.length_append, hput.2, hcounted]
    split <;> rfl

theorem Balanced.enqueue (h : q.Balanced lost taken) (hpos : 0 < maxlen) (envelope : Envelope) :
    (q.enqueue maxlen envelope).Balanced lost taken := by
  refine Balanced.put hpos ?_ h.counted
  show _ = ((q.enqueued ++ [_] : List Entry) : Multiset Entry)
  rw [← Multiset.coe_add, ← h.balance, Multiset.coe_singleton]
  abel

theorem Balanced.pop {rest : List Entry} (h : q.Balanced lost none)
    (hqueue : q.queue = item :: rest) : (q.pop item rest).Balanced lost (some item) := by
  refine ⟨?_, h.counted⟩
  rw [OfflineQueue.pop, ← h.balance, hqueue, ← Multiset.cons_coe, ← Multiset.singleton_add]
  simp

theorem Balanced.requeue (h : q.Balanced lost (some item)) (hpos : 0 < maxlen) :
    (q.put maxlen item true).Balanced lost none := by
  refine Balanced.put hpos ?_ h.counted
  rw [← h.balance]
  simp

theorem Balanced.discard (h : q.Balanced lost (some item)) :
    (q.recordDrop item).Balanced lost none := by
  have hbalance : ({item} : Multiset Entry) + q.queue + q.replayed + q.discarded + lost =
      q.enqueued := h.balance
  have hcounted := h.counted
  constructor
  · show (0 : Multiset Entry) + q.queue + q.replayed +
      ((q.discarded ++ [item] : List Entry) : Multiset Entry) + lost = q.enqueued
    rw [← hbalance, ← Multiset.coe_add, Multiset.coe_singleton]
    abel
  · simp [recordDrop, hcounted]

theorem Balanced.deliver (h : q.Balanced lost (some item)) : (q.deliver item).Balanced lost none := by
  have hbalance : ({item} : Multiset Entry) + q.queue + q.replayed + q.discarded + lost =
      q.enqueued := h.balance
  refine ⟨?_, h.counted⟩
  show (0 : Multiset Entry) + q.queue + ((q.replayed ++ [item] : List Entry) : Multiset Entry) +
    q.discarded + lost = q.enqueued
  rw [← hbalance, ← Multiset.coe_add, Multiset.coe_singleton]
  abel

theorem Balanced.lose (h : q.Balanced 0 (some item)) : q.Balanced {item} none := by
  refine ⟨?_, h.counted⟩
  rw [← h.balance]
  simp only [Option.toList_some, Option.toList_none, Multiset.coe_singleton, Multiset.coe_nil]
  abel

theorem Balanced.moves {s t : OfflineQueue × Option Entry} (h : Moves maxlen s t)
    (hfifo : s.1.Fifo maxlen s.2) (hs : s.1.Balanced lost s.2) : t.1.Balanced lost t.2 := by
  induction h with
  | refl => exact hs
  | tail hmoves hmove ih =>
      have hfifo' := hfifo.moves hmoves
      cases hmove with
      | enqueue envelope henabled => exact ih.enqueue henabled envelope
      | pop hqueue => exact ih.pop hqueue
      | requeue => exact ih.requeue (hfifo'.enabled (by simp))
      | discard => exact ih.discard
      | deliver => exact ih.deliver

/-- At rest, every envelope waits, was replayed, or was dropped and counted. -/
structure Conserved (q : OfflineQueue) : Prop where
  balance : (q.queue : Multiset Entry) + q.replayed + q.discarded = q.enqueued
  counted : q.dropped = q.discarded.length

theorem Balanced.conserved (h : q.Balanced 0 none) : q.Conserved where
  balance := by
    rw [← h.balance]
    simp
  counted := h.counted

/-- A lost envelope is neither waiting nor replayed nor dropped. -/
theorem Balanced.not_conserved (h : q.Balanced lost none) (hlost : lost ≠ 0) : ¬ q.Conserved := by
  intro hq
  have hbalance := h.balance
  rw [← hq.balance] at hbalance
  apply hlost
  simpa using hbalance

end OfflineQueue

end DroneComms.Inference
