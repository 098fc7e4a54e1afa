import Mathlib.Data.List.DropRight
import Mathlib.Data.List.Basic

/-!
# Recently used entries

A dictionary in the order of its last assignments, of which the oldest entries go
when it is full and stale entries go whenever somebody looks.  Over a history of
assignments, `latest` is every key with its last assignment, and the dictionary is
the newest `cap` of these less some stale ones (`Keeps`).  As stale entries are
the oldest, they never take the place of one that is not.
-/

namespace DroneComms.Recency

universe u v

variable {α : Type u} {κ : Type v} [DecidableEq κ] (key : α → κ)

/-- Assign an entry and move it to the end. -/
def touch (xs : List α) (x : α) : List α := xs.filter (fun y ↦ key y ≠ key x) ++ [x]

/-- Pop from the front while there are more than `cap`; also how many were popped. -/
def evict (cap : ℕ) : List α → List α × ℕ
  | [] => ([], 0)
  | x :: xs =>
      if cap < xs.length + 1 then ((evict cap xs).1, (evict cap xs).2 + 1) else (x :: xs, 0)

/-- Delete the stale entries; also how many there were. -/
def sweep (stale : α → Bool) (xs : List α) : List α × ℕ :=
  (xs.filter (!stale ·), (xs.filter stale).length)

/-- The assignments of a history that no later one replaces. -/
def latest : List α → List α
  | [] => []
  | x :: xs => if key x ∈ xs.map key then latest xs else x :: latest xs

/-! ## Newest entries -/

omit [DecidableEq κ] in
theorem rtake_append (xs ys : List α) (n : ℕ) :
    (xs ++ ys).rtake n = xs.rtake (n - ys.length) ++ ys.rtake n := by
  have hys : xs.length + ys.length - n - xs.length = ys.length - n := by omega
  rw [List.rtake, List.rtake, List.rtake, List.length_append, List.drop_append, hys]
  congr 1
  rcases Nat.le_total ys.length n with hle | hle
  · congr 1
    omega
  · rw [List.drop_eq_nil_of_le (by omega), List.drop_eq_nil_of_le (by omega)]

theorem rtake_of_length_le {xs : List α} {n : ℕ} (h : xs.length ≤ n) : xs.rtake n = xs := by
  rw [List.rtake, Nat.sub_eq_zero_of_le h, List.drop_zero]

theorem rtake_suffix (xs : List α) (n : ℕ) : xs.rtake n <:+ xs := List.drop_suffix _ _

theorem length_rtake_le (xs : List α) (n : ℕ) : (xs.rtake n).length ≤ n := by
  rw [List.rtake, List.length_drop]
  omega

theorem evict_eq (cap : ℕ) (xs : List α) : evict cap xs = (xs.rtake cap, xs.length - cap) := by
  induction xs with
  | nil => simp [evict]
  | cons x xs ih =>
      rw [evict]
      split
      · rename_i h
        have hlength : (x :: xs).length - cap = xs.length - cap + 1 := by
          rw [List.length_cons]
          omega
        rw [ih, List.rtake, List.rtake, hlength, List.drop_succ_cons]
      · rename_i h
        have hle : (x :: xs).length ≤ cap := Nat.le_of_not_lt h
        rw [rtake_of_length_le hle, Nat.sub_eq_zero_of_le hle]

/-! ## Histories -/

variable {key}

theorem latest_concat (xs : List α) (x : α) :
    latest key (xs ++ [x]) = touch key (latest key xs) x := by
  induction xs with
  | nil => simp [latest, touch]
  | cons y xs ih =>
      rw [List.cons_append, latest, latest, ih, List.map_append]
      by_cases hy : key y ∈ xs.map key
      · rw [if_pos (List.mem_append_left _ hy), if_pos hy]
      · rw [if_neg hy]
        by_cases hxy : key y = key x
        · rw [if_pos (by simp [hxy]), touch, touch, List.filter_cons_of_neg (by simp [hxy])]
        · rw [if_neg (by simpa [hxy] using hy), touch, touch,
            List.filter_cons_of_pos (by simp [hxy]), List.cons_append]

theorem latest_sublist (xs : List α) : (latest key xs).Sublist xs := by
  induction xs with
  | nil => exact List.Sublist.slnil
  | cons x xs ih =>
      rw [latest]
      split
      · exact ih.cons x
      · exact ih.cons_cons x

theorem nodup_touch {xs : List α} (h : (xs.map key).Nodup) (x : α) :
    ((touch key xs x).map key).Nodup := by
  rw [touch, List.map_append, List.nodup_append]
  refine ⟨h.sublist (List.filter_sublist.map key), by simp, ?_⟩
  intro k hk k' hk'
  obtain ⟨y, hy, rfl⟩ := List.mem_map.mp hk
  rw [List.map_singleton, List.mem_singleton] at hk'
  simpa [hk'] using (List.mem_filter.mp hy).2

theorem nodup_latest (xs : List α) : ((latest key xs).map key).Nodup := by
  induction xs using List.reverseRecOn with
  | nil => exact List.nodup_nil
  | append_singleton xs x ih =>
      rw [latest_concat]
      exact nodup_touch ih x

/-- An assignment adds an entry unless the key is there. -/
theorem length_touch {xs : List α} (h : (xs.map key).Nodup) (x : α) :
    (touch key xs x).length = xs.length + if key x ∈ xs.map key then 0 else 1 := by
  have hfilter : (xs.filter fun y ↦ key y ≠ key x).length + (xs.map key).count (key x) =
      xs.length := by
    rw [List.count_eq_countP, List.countP_map, ← List.countP_eq_length_filter,
      List.length_eq_countP_add_countP fun y ↦ decide (key y ≠ key x)]
    congr 1
    apply List.countP_congr
    simp
  rw [touch, List.length_append, List.length_singleton, ← hfilter, List.Nodup.count h]
  split <;> omega

/-! ## What the dictionary keeps -/

/-- The dictionary is the newest keys of the history, less some that are stale. -/
def Keeps (key : α → κ) (cap : ℕ) (stale : α → Prop) (history held : List α) : Prop :=
  ∃ gone, (latest key history).rtake cap = gone ++ held ∧ ∀ x ∈ gone, stale x

namespace Keeps

variable {cap : ℕ} {stale stale' : α → Prop} {history held : List α}

theorem nil : Keeps key cap stale [] [] := ⟨[], by simp [latest, List.rtake], by simp⟩

theorem length_le (h : Keeps key cap stale history held) : held.length ≤ cap := by
  obtain ⟨gone, hnewest, -⟩ := h
  have hle := length_rtake_le (latest key history) cap
  rw [hnewest, List.length_append] at hle
  omega

theorem nodup (h : Keeps key cap stale history held) : (held.map key).Nodup := by
  obtain ⟨gone, hnewest, -⟩ := h
  have hsub : held.Sublist (latest key history) :=
    (List.sublist_append_right gone held).trans (hnewest ▸ (rtake_suffix _ _).sublist)
  exact (nodup_latest history).sublist (hsub.map key)

theorem mono (h : Keeps key cap stale history held) (hstale : ∀ x, stale x → stale' x) :
    Keeps key cap stale' history held := by
  obtain ⟨gone, hnewest, hgone⟩ := h
  exact ⟨gone, hnewest, fun x hx ↦ hstale x (hgone x hx)⟩

/-- An assignment, and what it evicts. -/
theorem touch (h : Keeps key cap stale history held) (x : α) :
    Keeps key cap stale (history ++ [x]) ((Recency.touch key held x).rtake cap) := by
  obtain ⟨gone, hnewest, hgone⟩ := h
  have hnodup : (((gone ++ held)).map key).Nodup := by
    rw [← hnewest]
    exact (nodup_latest history).sublist ((rtake_suffix _ _).sublist.map key)
  have hlength := length_touch hnodup x
  set p : α → Bool := fun y ↦ key y ≠ key x with hp
  set older := (latest key history).take ((latest key history).length - cap)
  have hlatest : latest key history = older ++ (gone ++ held) := by
    rw [← hnewest]
    exact (List.take_append_drop _ _).symm
  -- the newest entries stay the newest: an assignment does not shorten them
  have hwhole : Recency.touch key (latest key history) x =
      older.filter p ++ Recency.touch key (gone ++ held) x := by
    rw [hlatest, Recency.touch, Recency.touch, List.filter_append, List.append_assoc]
  have holder : (older.filter p).rtake (cap - (Recency.touch key (gone ++ held) x).length) = [] := by
    rcases Nat.le_total cap (latest key history).length with hfull | hroom
    · have hcap : (gone ++ held).length = cap := by
        rw [← hnewest, List.rtake, List.length_drop]
        omega
      rw [Nat.sub_eq_zero_of_le (by omega)]
      simp [List.rtake]
    · have hnil : older = [] := by
        simp [older, Nat.sub_eq_zero_of_le hroom]
      simp [hnil, List.rtake]
  have hsplit : Recency.touch key (gone ++ held) x =
      gone.filter p ++ Recency.touch key held x := by
    rw [Recency.touch, Recency.touch, List.filter_append, List.append_assoc]
  refine ⟨(gone.filter p).rtake (cap - (Recency.touch key held x).length), ?_, fun y hy ↦ ?_⟩
  · rw [latest_concat, hwhole, rtake_append, holder, List.nil_append, hsplit, rtake_append]
  · exact hgone y (List.mem_filter.mp ((rtake_suffix _ _).subset hy)).1

/-- A sweep. -/
theorem sweep [DecidablePred stale] (h : Keeps key cap stale history held)
    (horder : history.Pairwise fun x y ↦ stale y → stale x) :
    Keeps key cap stale history (held.filter fun x ↦ ¬ stale x) := by
  obtain ⟨gone, hnewest, hgone⟩ := h
  have hheld : held.Pairwise fun x y ↦ stale y → stale x := by
    have hsub : held.Sublist (latest key history) :=
      (List.sublist_append_right gone held).trans (hnewest ▸ (rtake_suffix _ _).sublist)
    exact horder.sublist (hsub.trans (latest_sublist history))
  -- stale entries are the oldest
  have hsplit : ∃ old, held = old ++ held.filter (fun x ↦ ¬ stale x) ∧ ∀ x ∈ old, stale x := by
    clear hnewest
    induction held with
    | nil => exact ⟨[], rfl, by simp⟩
    | cons x xs ih =>
        obtain ⟨hx, hxs⟩ := List.pairwise_cons.mp hheld
        by_cases hstale : stale x
        · obtain ⟨old, hold, hall⟩ := ih hxs
          refine ⟨x :: old, ?_, List.forall_mem_cons.mpr ⟨hstale, hall⟩⟩
          rw [List.filter_cons_of_neg (by simpa using hstale), List.cons_append, ← hold]
        · refine ⟨[], ?_, by simp⟩
          rw [List.nil_append, eq_comm, List.filter_eq_self, List.forall_mem_cons]
          exact ⟨by simpa using hstale, fun y hy ↦ by simpa using fun h ↦ hstale (hx y hy h)⟩
  obtain ⟨old, hold, hall⟩ := hsplit
  refine ⟨gone ++ old, ?_, fun x hx ↦ ?_⟩
  · rw [List.append_assoc, ← hold, hnewest]
  · exact (List.mem_append.mp hx).elim (hgone x) (hall x)

/-- What is not stale does not depend on what was swept. -/
theorem filter_eq [DecidablePred stale] (h : Keeps key cap stale history held) :
    held.filter (fun x ↦ ¬ stale x) =
      ((latest key history).rtake cap).filter fun x ↦ ¬ stale x := by
  obtain ⟨gone, hnewest, hgone⟩ := h
  have hnil : gone.filter (fun x ↦ ¬ stale x) = [] := by
    rw [List.filter_eq_nil_iff]
    intro x hx
    simpa using hgone x hx
  rw [hnewest, List.filter_append, hnil, List.nil_append]

end Keeps

end DroneComms.Recency
