import Mathlib.Data.List.Basic

/-!
# Indexing a Python list

A Python subscript counts from the end when it is negative and raises
`IndexError` outside the list.  `normIndex` is the position a subscript stands
for, `get` and `set` are `xs[i]` and `xs[i] = v` with `none` for the exception.
-/

namespace DroneComms.Py

universe u

variable {α : Type u}

/-- The position that the subscript `i` stands for in a list of length `n`. -/
def normIndex (n : Nat) (i : Int) : Option Nat :=
  if 0 ≤ i then (if i.toNat < n then some i.toNat else none)
  else if (-i).toNat ≤ n then some (n - (-i).toNat) else none

/-- `xs[i]`. -/
def get (xs : List α) (i : Int) : Option α := (normIndex xs.length i).bind fun k ↦ xs[k]?

/-- `xs[i] = v`. -/
def set (xs : List α) (i : Int) (v : α) : Option (List α) :=
  (normIndex xs.length i).map fun k ↦ xs.set k v

/-- A non-negative subscript inside the list is the position itself. -/
theorem normIndex_of_nonneg {n : Nat} {i : Int} (h₀ : 0 ≤ i) (h : i < n) :
    normIndex n i = some i.toNat := by
  rw [normIndex, if_pos h₀, if_pos (by omega)]

/-- A subscript stands for a position inside the list. -/
theorem normIndex_lt {n k : Nat} {i : Int} (h : normIndex n i = some k) : k < n := by
  unfold normIndex at h
  split_ifs at h <;> cases h <;> omega

/-- A subscript below the length fails exactly before the start of the list. -/
theorem normIndex_eq_none {n : Nat} {i : Int} (hi : i < n) :
    normIndex n i = none ↔ i < -(n : Int) := by
  unfold normIndex
  split_ifs with h₀ h₁ h₁
  · simp only [false_iff]
    omega
  · omega
  · simp only [false_iff]
    omega
  · simp only [true_iff]
    omega

/-- A non-negative subscript reads the list at that position. -/
theorem get_of_nonneg {xs : List α} {i : Int} (h₀ : 0 ≤ i) : get xs i = xs[i.toNat]? := by
  by_cases h : i < xs.length
  · rw [get, normIndex_of_nonneg h₀ h, Option.bind_some]
  · rw [get, normIndex, if_pos h₀, if_neg (by omega), Option.bind_none,
      List.getElem?_eq_none (by omega)]

theorem exists_get {xs : List α} {i : Int} (h₀ : 0 ≤ i) (h : i < xs.length) :
    ∃ v, get xs i = some v :=
  ⟨_, (get_of_nonneg h₀).trans (List.getElem?_eq_getElem (by omega))⟩

theorem set_of_nonneg {xs : List α} {i : Int} (h₀ : 0 ≤ i) (h : i < xs.length) (v : α) :
    set xs i v = some (xs.set i.toNat v) := by
  rw [set, normIndex_of_nonneg h₀ h, Option.map_some]

/-- Reading back the subscript that was written. -/
theorem get_set_self {xs : List α} {i : Int} (h₀ : 0 ≤ i) (h : i < xs.length) (v : α) :
    get (xs.set i.toNat v) i = some v := by
  rw [get_of_nonneg h₀, List.getElem?_set_self (by omega)]

end DroneComms.Py
