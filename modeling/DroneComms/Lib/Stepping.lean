import Mathlib.Algebra.Order.Floor.Semiring
import Mathlib.Tactic

/-!
# A loop that raises a number by steps

The values of the variable of a loop that starts at `lo`, runs as long as the
variable is at most `hi` and raises it by `d` in each round, and how densely they
lie.
-/

namespace DroneComms.Lib

/-- The values of the variable in the rounds of the loop. -/
def steps {α : Type*} [Field α] [LinearOrder α] [IsStrictOrderedRing α] [FloorSemiring α]
    {d : α} (hd : 0 < d) (lo hi : α) : List α :=
  if lo ≤ hi then lo :: steps hd (lo + d) hi else []
termination_by ⌊(hi - lo) / d + 1⌋₊
decreasing_by
  have hround : (hi - (lo + d)) / d + 1 = (hi - lo) / d := by
    field_simp
    ring
  rw [hround, Nat.floor_add_one (div_nonneg (by linarith) hd.le)]
  exact Nat.lt_succ_self _

variable {α : Type*} [Field α] [LinearOrder α] [IsStrictOrderedRing α] [FloorSemiring α]
  {d : α} (hd : 0 < d) {lo hi : α}

theorem steps_of_le (h : lo ≤ hi) : steps hd lo hi = lo :: steps hd (lo + d) hi := by
  rw [steps, if_pos h]

theorem steps_of_lt (h : hi < lo) : steps hd lo hi = [] := by
  rw [steps, if_neg (not_le.mpr h)]

/-- The values of the variable, written out. -/
theorem mem_steps {x : α} : x ∈ steps hd lo hi ↔ x ≤ hi ∧ ∃ k : ℕ, x = lo + k * d := by
  induction lo using steps.induct hd hi with
  | case1 lo h ih =>
      rw [steps_of_le hd h, List.mem_cons, ih]
      constructor
      · rintro (rfl | ⟨hx, k, rfl⟩)
        · exact ⟨h, 0, by simp⟩
        · exact ⟨hx, k + 1, by push_cast; ring⟩
      · rintro ⟨hx, k, rfl⟩
        cases k with
        | zero => simp
        | succ k => exact .inr ⟨hx, k, by push_cast; ring⟩
  | case2 lo h =>
      rw [steps_of_lt hd (not_le.mp h)]
      simp only [List.not_mem_nil, false_iff, not_and, not_exists]
      rintro hx k rfl
      have hk : 0 ≤ (k : α) * d := by positivity
      linarith

theorem le_of_mem_steps {x : α} (h : x ∈ steps hd lo hi) : lo ≤ x := by
  obtain ⟨-, k, rfl⟩ := (mem_steps hd).mp h
  have hk : 0 ≤ (k : α) * d := by positivity
  linarith

theorem le_hi_of_mem_steps {x : α} (h : x ∈ steps hd lo hi) : x ≤ hi := ((mem_steps hd).mp h).1

/-- Started half a step inside and ended half a step outside, the loop comes within
half a step of every number of the range. -/
theorem exists_steps_near {t : α} (hlo : lo ≤ t) (hhi : t ≤ hi) :
    ∃ x ∈ steps hd (lo + d / 2) (hi + d / 2), |t - x| ≤ d / 2 := by
  have hq : 0 ≤ (t - lo) / d := div_nonneg (by linarith) hd.le
  have hbelow : (⌊(t - lo) / d⌋₊ : α) * d ≤ t - lo := (le_div_iff₀ hd).mp (Nat.floor_le hq)
  have habove : t - lo < (⌊(t - lo) / d⌋₊ + 1 : α) * d :=
    (div_lt_iff₀ hd).mp (Nat.lt_floor_add_one _)
  refine ⟨lo + d / 2 + ⌊(t - lo) / d⌋₊ * d, (mem_steps hd).mpr ⟨by linarith, _, rfl⟩, ?_⟩
  rw [abs_le]
  constructor <;> linarith

/-- The loop itself, around a body that may fail, with a bound on its rounds. -/
def stepLoop {σ : Type*} (body : σ → α → Option σ) (d hi : α) :
    ℕ → α → σ → Option σ
  | 0, _, _ => none
  | rounds + 1, x, s =>
      if x ≤ hi then (body s x).bind (stepLoop body d hi rounds (x + d)) else some s

/-- The loop ends, and has gone through the values of its variable. -/
theorem stepLoop_eq {σ : Type*} (body : σ → α → Option σ) {rounds : ℕ}
    (h : (steps hd lo hi).length < rounds) (s : σ) :
    stepLoop body d hi rounds lo s = (steps hd lo hi).foldlM body s := by
  induction lo using steps.induct hd hi generalizing rounds s with
  | case1 lo hle ih =>
      rw [steps_of_le hd hle] at h ⊢
      cases rounds with
      | zero => exact absurd h (Nat.not_lt_zero _)
      | succ rounds =>
          rw [stepLoop, if_pos hle, List.foldlM_cons]
          exact congrArg _ (funext fun t ↦ ih (Nat.lt_of_succ_lt_succ h) t)
  | case2 lo hlt =>
      cases rounds with
      | zero => exact absurd h (Nat.not_lt_zero _)
      | succ rounds =>
          rw [steps_of_lt hd (not_le.mp hlt), stepLoop, if_neg hlt]
          rfl

end DroneComms.Lib
