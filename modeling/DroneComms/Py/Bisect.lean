import Mathlib.Data.List.Sort

/-!
# The `bisect` module

The binary search for an insertion point, before the equal entries or after them.
In a sorted list it is the number of entries before it.
-/

namespace DroneComms.Py

/-- The loop of the search between `lo` and `hi`, with a bound on its rounds. -/
def bisect {α : Type*} (before : α → Bool) (xs : List α) : ℕ → ℕ → ℕ → ℕ
  | 0, lo, _ => lo
  | rounds + 1, lo, hi =>
      if lo < hi then
        let mid := (lo + hi) / 2
        if (xs[mid]?).any before then bisect before xs rounds (mid + 1) hi
        else bisect before xs rounds lo mid
      else lo

/-- `bisect.bisect_left`, on keys compared by `lt`. -/
def bisectLeft {α : Type*} (lt : α → α → Bool) (xs : List α) (x : α) : ℕ :=
  bisect (fun a ↦ lt a x) xs xs.length 0 xs.length

/-- `bisect.bisect_right`. -/
def bisectRight {α : Type*} (lt : α → α → Bool) (xs : List α) (x : α) : ℕ :=
  bisect (fun a ↦ !lt x a) xs xs.length 0 xs.length

section Search

variable {α : Type*} {before : α → Bool} {xs : List α}

/-- In a list whose entries that come before are the first ones, the search returns their
number: `lo` of them are known, and from `hi` on there are none. -/
theorem lt_bisect_iff (hmono : xs.Pairwise fun a b ↦ before b = true → before a = true)
    {k : ℕ} (hk : k < xs.length) {rounds lo hi : ℕ} (hrounds : hi ≤ lo + rounds)
    (hhi : hi ≤ xs.length) (hlo : k < lo → before xs[k] = true)
    (hend : hi ≤ k → before xs[k] = false) :
    k < bisect before xs rounds lo hi ↔ before xs[k] = true := by
  have hdone : ∀ {lo hi : ℕ}, (k < lo → before xs[k] = true) → (hi ≤ k → before xs[k] = false) →
      hi ≤ lo → (k < lo ↔ before xs[k] = true) := by
    intro lo hi hlo hend hle
    refine ⟨hlo, fun hbefore ↦ ?_⟩
    by_contra hge
    rw [hend (hle.trans (not_lt.mp hge))] at hbefore
    cases hbefore
  have hlt := List.pairwise_iff_getElem.mp hmono
  induction rounds generalizing lo hi with
  | zero => exact hdone hlo hend hrounds
  | succ rounds ih =>
      by_cases h : lo < hi
      · have hmid : (lo + hi) / 2 < xs.length := by omega
        rw [bisect, if_pos h]
        simp only [List.getElem?_eq_getElem hmid, Option.any_some]
        split_ifs with hbefore
        · refine ih (by omega) hhi (fun hk' ↦ ?_) hend
          rcases Nat.lt_succ_iff_lt_or_eq.mp hk' with hk' | rfl
          · exact hlt k _ hk hmid hk' hbefore
          · exact hbefore
        · refine ih (by omega) hmid.le hlo fun hk' ↦ ?_
          rcases hk'.lt_or_eq with hk' | rfl
          · exact Bool.eq_false_iff.mpr fun hb ↦ hbefore (hlt _ k hmid hk hk' hb)
          · exact Bool.eq_false_iff.mpr hbefore
      · rw [bisect, if_neg h]
        exact hdone hlo hend (not_lt.mp h)

/-- The search stays between its bounds. -/
theorem bisect_le {rounds lo hi : ℕ} (h : lo ≤ hi) : bisect before xs rounds lo hi ≤ hi := by
  induction rounds generalizing lo hi with
  | zero => exact h
  | succ rounds ih =>
      rw [bisect]
      dsimp only
      split_ifs
      · exact ih (by omega)
      · exact (ih (by omega)).trans (by omega)
      · exact h

end Search

section Sorted

variable {α : Type*} [LinearOrder α] {xs : List α} (h : xs.SortedLE) {x : α} {k : ℕ}
  (hk : k < xs.length)

include h

theorem lt_bisectLeft_iff : k < bisectLeft (fun a b ↦ decide (a < b)) xs x ↔ xs[k] < x := by
  rw [bisectLeft, lt_bisect_iff (h.pairwise.imp fun hab hb ↦ ?_) hk (Nat.le_of_eq (by omega)) le_rfl
    (fun hlt ↦ (Nat.not_lt_zero _ hlt).elim) (fun hle ↦ (hk.not_ge hle).elim), decide_eq_true_eq]
  exact decide_eq_true (hab.trans_lt (of_decide_eq_true hb))

theorem lt_bisectRight_iff : k < bisectRight (fun a b ↦ decide (a < b)) xs x ↔ xs[k] ≤ x := by
  rw [bisectRight, lt_bisect_iff (h.pairwise.imp fun hab hb ↦ ?_) hk (Nat.le_of_eq (by omega)) le_rfl
    (fun hlt ↦ (Nat.not_lt_zero _ hlt).elim) (fun hle ↦ (hk.not_ge hle).elim)]
  · simp
  · simp only [Bool.not_eq_true', decide_eq_false_iff_not, not_lt] at hb ⊢
    exact hab.trans hb

end Sorted

/-- The entries between two positions. -/
theorem getElem_mem_slice {β : Type*} {xs : List β} {lo hi k : ℕ} (hk : k < xs.length)
    (hlo : lo ≤ k) (hhi : k < hi) : xs[k] ∈ (xs.take hi).drop lo := by
  refine List.mem_drop_iff_getElem.mpr ⟨k - lo, ?_, ?_⟩
  · rw [List.length_take]
    omega
  · simp [Nat.add_sub_cancel' hlo]

end DroneComms.Py
