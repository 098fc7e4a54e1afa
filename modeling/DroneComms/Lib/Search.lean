import DroneComms.Lib.Resync

/-!
# Finding a pattern

`find? pat xs` is the first place where `pat` stands in `xs`.  More behind the
list does not move it, so cutting behind each terminator is a scanner that
resynchronises (`cutter`).

If the first element of a pattern does not occur in the rest of it, the pattern
cannot begin in one list and end in the next when that one begins with the same
element (`find?_append`).
-/

namespace DroneComms.Search

universe u v

variable {α : Type u}

/-- The first place of the pattern. -/
def find? [DecidableEq α] (pat : List α) : List α → Option ℕ
  | [] => if pat <+: [] then some 0 else none
  | x :: xs => if pat <+: x :: xs then some 0 else (find? pat xs).map (· + 1)

variable {pat xs ys : List α} {m : α} {i : ℕ}

/-- A prefix of two lists that fits into the first is a prefix of that. -/
theorem prefix_append_iff (h : pat.length ≤ xs.length) : pat <+: xs ++ ys ↔ pat <+: xs :=
  ⟨fun hpat ↦ List.prefix_of_prefix_length_le hpat (List.prefix_append xs ys) h,
    fun hpat ↦ hpat.trans (List.prefix_append xs ys)⟩

/-- In a list that has the first element of the pattern only in front, the pattern stands in
front or nowhere. -/
theorem not_infix_cons (hxs : m ∉ xs) (h : ¬pat <+: xs) : ¬m :: pat <:+: m :: xs := by
  rw [List.infix_cons_iff, not_or, List.cons_prefix_cons]
  exact ⟨fun hpat ↦ h hpat.2, fun hpat ↦ hxs (hpat.subset List.mem_cons_self)⟩

variable [DecidableEq α]

theorem find?_front (h : pat <+: xs) : find? pat xs = some 0 := by
  cases xs with
  | nil => rw [find?, if_pos h]
  | cons x xs => rw [find?, if_pos h]

theorem find?_cons {x : α} (h : ¬pat <+: x :: xs) :
    find? pat (x :: xs) = (find? pat xs).map (· + 1) := by
  rw [find?, if_neg h]

/-- A pattern is not found if it does not occur. -/
theorem find?_eq_none : find? pat xs = none ↔ ¬pat <:+: xs := by
  induction xs with
  | nil => rw [find?, ite_eq_right_iff, List.prefix_nil, List.infix_nil]; simp
  | cons x xs ih =>
      rw [List.infix_cons_iff, not_or, ← ih]
      by_cases h : pat <+: x :: xs
      · rw [find?_front h]
        simp [h]
      · rw [find?_cons h]
        simp [h]

/-- The pattern fits behind the place where it is found. -/
theorem add_length_le (h : find? pat xs = some i) : i + pat.length ≤ xs.length := by
  induction xs generalizing i with
  | nil =>
      rw [find?, Option.ite_none_right_eq_some] at h
      cases h.2
      rw [Nat.zero_add]
      exact h.1.length_le
  | cons x xs ih =>
      by_cases hpat : pat <+: x :: xs
      · rw [find?_front hpat] at h
        cases h
        rw [Nat.zero_add]
        exact hpat.length_le
      · rw [find?_cons hpat] at h
        obtain ⟨j, hj, rfl⟩ := Option.map_eq_some_iff.mp h
        have hle := ih hj
        rw [List.length_cons]
        omega

/-- **Stability.**  A pattern that is found stays where it is when more arrives. -/
theorem find?_append_right (h : find? pat xs = some i) (ys : List α) :
    find? pat (xs ++ ys) = some i := by
  induction xs generalizing i with
  | nil =>
      rw [find?, Option.ite_none_right_eq_some] at h
      cases h.2
      exact find?_front (h.1.trans (List.nil_prefix))
  | cons x xs ih =>
      have hle := add_length_le h
      have hfits : pat <+: x :: xs ++ ys ↔ pat <+: x :: xs := prefix_append_iff (by omega)
      rw [List.cons_append] at hfits
      by_cases hpat : pat <+: x :: xs
      · rw [find?_front hpat] at h
        rw [List.cons_append, find?_front (hfits.mpr hpat), h]
      · rw [find?_cons hpat] at h
        obtain ⟨j, hj, rfl⟩ := Option.map_eq_some_iff.mp h
        rw [List.cons_append, find?_cons (mt hfits.mp hpat), ih hj, Option.map_some]

/-! ## Patterns that do not straddle -/

/-- **No straddling.**  In front of a list that begins with the first element of the
pattern, a list without the pattern is passed over. -/
theorem find?_append (hm : m ∉ pat) (hxs : ¬m :: pat <:+: xs) (hys : ys.head?.all (· = m)) :
    find? (m :: pat) (xs ++ ys) = (find? (m :: pat) ys).map (xs.length + ·) := by
  induction xs with
  | nil => simp
  | cons x xs ih =>
      rw [List.infix_cons_iff, not_or] at hxs
      have hfits : ¬m :: pat <+: x :: (xs ++ ys) := by
        intro hpat
        rw [List.cons_prefix_cons] at hpat
        obtain ⟨rfl, hpat⟩ := hpat
        rcases le_or_gt pat.length xs.length with hle | hlt
        · exact hxs.1 (List.cons_prefix_cons.mpr ⟨rfl, (prefix_append_iff hle).mp hpat⟩)
        · -- the pattern goes on behind `xs`, so its first element occurs again in it
          obtain ⟨zs, rfl⟩ := List.prefix_of_prefix_length_le (List.prefix_append xs ys) hpat hlt.le
          rw [List.prefix_append_right_inj] at hpat
          cases zs with
          | nil => simp at hlt
          | cons z zs =>
              obtain ⟨ws, rfl⟩ := hpat
              have hz : z = m := by simpa using hys
              exact hm (by simp [hz])
      rw [List.cons_append, find?_cons hfits, ih hxs.2, Option.map_map, List.length_cons]
      congr 1
      funext j
      simp only [Function.comp_apply]
      omega

theorem not_infix_append (hm : m ∉ pat) (hxs : ¬m :: pat <:+: xs) (hys : ¬m :: pat <:+: ys)
    (hhead : ys.head?.all (· = m)) : ¬m :: pat <:+: xs ++ ys := by
  rw [← find?_eq_none] at hys ⊢
  rw [find?_append hm hxs hhead, hys, Option.map_none]

/-! ## Cutting behind a terminator -/

variable {τ : Type v} {stop : List α}

/-- The scanner that takes everything up to the end of the first terminator. -/
def cutter (stop : List α) (hstop : stop ≠ []) (label : List α → τ) : Resync.Scanner α τ where
  head bs := (find? stop bs).map fun i ↦ (i + stop.length, label (bs.take (i + stop.length)))
  pos h := by
    obtain ⟨i, -, heq⟩ := Option.map_eq_some_iff.mp h
    cases heq
    exact Nat.add_pos_right i (List.length_pos_iff.mpr hstop)
  le_length h := by
    obtain ⟨i, hi, heq⟩ := Option.map_eq_some_iff.mp h
    cases heq
    exact add_length_le hi
  stable cs h := by
    obtain ⟨i, hi, heq⟩ := Option.map_eq_some_iff.mp h
    cases heq
    rw [find?_append_right hi, Option.map_some, List.take_append_of_le_length (add_length_le hi)]

/-- What is left waits for a terminator. -/
theorem cutter_head_eq_none {hstop : stop ≠ []} {label : List α → τ} {bs : List α} :
    (cutter stop hstop label).head bs = none ↔ ¬stop <:+: bs := by
  rw [← find?_eq_none]
  exact Option.map_eq_none_iff

/-- A list whose only terminator is at its end is taken whole. -/
theorem cutter_head_append {hstop : stop ≠ []} {label : List α → τ}
    (h : find? stop (xs ++ stop) = some xs.length) (cs : List α) :
    (cutter stop hstop label).head (xs ++ stop ++ cs) =
      some ((xs ++ stop).length, label (xs ++ stop)) := by
  apply Resync.Scanner.stable
  show (find? stop (xs ++ stop)).map _ = _
  rw [h, Option.map_some, ← List.length_append, List.take_length]

end DroneComms.Search
