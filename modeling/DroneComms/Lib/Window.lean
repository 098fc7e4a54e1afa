import Mathlib.Data.Finset.Card
import Mathlib.Tactic

/-!
# A bounded window of distinct elements

Elements come one after the other, and one is taken if it is not among the last
`n` that were taken.  Of a list of elements taken so (`Fresh`), the last `n` are
distinct, and an element is taken again only behind `n` others.
-/

namespace DroneComms.Window

variable {α : Type} {n : ℕ} {a : α} {l : List α}

/-- The last `n` elements. -/
def lastN (n : ℕ) (l : List α) : List α := l.drop (l.length - n)

theorem length_lastN (n : ℕ) (l : List α) : (lastN n l).length = min n l.length := by
  rw [lastN, List.length_drop]
  omega

theorem lastN_suffix (n : ℕ) (l : List α) : lastN n l <:+ l := List.drop_suffix _ l

/-- Elements in front of the last `n` do not matter. -/
theorem lastN_append {k : List α} (h : n ≤ k.length) : lastN n (l ++ k) = lastN n k := by
  have hlength : (l ++ k).length - n = l.length + (k.length - n) := by
    rw [List.length_append]
    omega
  rw [lastN, hlength, List.drop_length_add_append, lastN]

/-- The window can be kept up to date without the elements that have left it. -/
theorem lastN_concat (n : ℕ) (l : List α) (a : α) :
    lastN n (lastN n l ++ [a]) = lastN n (l ++ [a]) := by
  obtain ⟨k, hk⟩ := lastN_suffix n l
  rcases le_or_gt n l.length with hle | hlt
  · have hlength := length_lastN n l
    have hsplit : l ++ [a] = k ++ (lastN n l ++ [a]) := by rw [← List.append_assoc, hk]
    have hwindow : n ≤ (lastN n l ++ [a]).length := by
      rw [List.length_append]
      omega
    rw [hsplit, lastN_append hwindow]
  · have hall : lastN n l = l := by rw [lastN, Nat.sub_eq_zero_of_le hlt.le, List.drop_zero]
    rw [hall]

theorem map_lastN {β : Type} (f : α → β) (n : ℕ) (l : List α) :
    (lastN n l).map f = lastN n (l.map f) := by
  rw [lastN, lastN, List.map_drop, List.length_map]

/-- The last element is the last one of its window. -/
theorem getLast?_lastN_concat (hn : 0 < n) (l : List α) (a : α) :
    (lastN n (l ++ [a])).getLast? = some a := by
  obtain ⟨older, hsplit⟩ := lastN_suffix n (l ++ [a])
  have hlength := length_lastN n (l ++ [a])
  rw [List.length_append, List.length_singleton] at hlength
  have hne : lastN n (l ++ [a]) ≠ [] := by
    rw [← List.length_pos_iff]
    omega
  rw [← List.getLast?_append_of_ne_nil older hne, hsplit, List.getLast?_concat]

/-- An element with less than `n` others behind it is in the window. -/
theorem mem_lastN {k : List α} (h : k.length < n) : a ∈ lastN n (l ++ a :: k) := by
  have hsplit : lastN n (l ++ a :: k) = l.drop ((l ++ a :: k).length - n) ++ a :: k := by
    rw [lastN, List.drop_append_of_le_length]
    rw [List.length_append, List.length_cons]
    omega
  rw [hsplit]
  exact List.mem_append_right _ List.mem_cons_self

/-- No element was in the window when it was taken. -/
def Fresh (n : ℕ) (l : List α) : Prop := ∀ pre a post, l = pre ++ a :: post → a ∉ lastN n pre

theorem Fresh.nil : Fresh n ([] : List α) := by
  intro pre a post h
  cases pre <;> cases h

/-- A new element is taken. -/
theorem Fresh.concat (h : Fresh n l) (ha : a ∉ lastN n l) : Fresh n (l ++ [a]) := by
  intro pre b post hsplit
  rcases List.eq_nil_or_concat post with rfl | ⟨post', c, rfl⟩
  · obtain ⟨rfl, hb⟩ := List.append_inj' hsplit rfl
    cases hb
    exact ha
  · have hsplit' : l ++ [a] = (pre ++ b :: post') ++ [c] := by
      rw [hsplit, List.concat_eq_append]
      simp
    obtain ⟨rfl, -⟩ := List.append_inj' hsplit' rfl
    exact h pre b post' rfl

theorem Fresh.of_prefix {k : List α} (h : Fresh n (l ++ k)) : Fresh n l := by
  intro pre a post hsplit
  refine h pre a (post ++ k) ?_
  rw [hsplit, List.append_assoc, List.cons_append]

/-- The elements of the window are distinct. -/
theorem Fresh.nodup (h : Fresh n l) : (lastN n l).Nodup := by
  induction l using List.reverseRecOn with
  | nil =>
      rw [lastN, List.drop_nil]
      exact List.nodup_nil
  | append_singleton l a ih =>
      have ha : a ∉ lastN n l := h l a [] rfl
      have hnodup : (lastN n l ++ [a]).Nodup := by
        rw [List.nodup_append]
        refine ⟨ih h.of_prefix, List.nodup_singleton a, ?_⟩
        intro b hb c hc
        rw [List.mem_singleton] at hc
        rintro rfl
        rw [hc] at hb
        exact ha hb
      rw [← lastN_concat]
      exact hnodup.sublist (lastN_suffix n _).sublist

/-- If there are no more elements than places in the window, each is taken once. -/
theorem Fresh.nodup_of_card_le [DecidableEq α] (h : Fresh n l) (hcard : l.toFinset.card ≤ n) :
    l.Nodup := by
  induction l using List.reverseRecOn with
  | nil => exact List.nodup_nil
  | append_singleton l a ih =>
      have hsubset : l.toFinset ⊆ (l ++ [a]).toFinset := by
        intro b hb
        rw [List.mem_toFinset] at hb ⊢
        exact List.mem_append_left _ hb
      have hle := (Finset.card_le_card hsubset).trans hcard
      have hnodup := ih h.of_prefix hle
      rw [List.toFinset_card_of_nodup hnodup] at hle
      have hall : lastN n l = l := by rw [lastN, Nat.sub_eq_zero_of_le hle, List.drop_zero]
      have ha : a ∉ lastN n l := h l a [] rfl
      rw [hall] at ha
      exact List.nodup_append.mpr ⟨hnodup, List.nodup_singleton a, fun b hb c hc ↦ by
        rw [List.mem_singleton.mp hc]
        rintro rfl
        exact ha hb⟩

/-- Between two times that an element is taken, `n` others are. -/
theorem Fresh.others [DecidableEq α] {pre mid post : List α}
    (h : Fresh n (pre ++ a :: (mid ++ a :: post))) : n ≤ (mid.toFinset.erase a).card := by
  have hsplit : pre ++ a :: (mid ++ a :: post) = (pre ++ a :: mid) ++ a :: post := by
    rw [List.append_assoc, List.cons_append]
  rw [hsplit] at h
  have ha : a ∉ lastN n (pre ++ a :: mid) := h _ a post rfl
  have hlength : n ≤ mid.length := by
    by_contra hlt
    exact ha (mem_lastN (not_le.mp hlt))
  have hwindow : lastN n (pre ++ a :: mid) = lastN n mid := by
    rw [List.append_cons, lastN_append hlength]
  have hnodup := h.of_prefix.nodup
  rw [hwindow] at ha hnodup
  calc n = (lastN n mid).length := by rw [length_lastN, min_eq_left hlength]
    _ = (lastN n mid).toFinset.card := (List.toFinset_card_of_nodup hnodup).symm
    _ ≤ (mid.toFinset.erase a).card := by
      apply Finset.card_le_card
      intro b hb
      rw [List.mem_toFinset] at hb
      rw [Finset.mem_erase, List.mem_toFinset]
      refine ⟨?_, (lastN_suffix n mid).subset hb⟩
      rintro rfl
      exact ha hb

end DroneComms.Window
