import Mathlib.Order.Iterate
import Mathlib.Order.MinMax

/-!
# Capped growth

A delay grows from one attempt to the next and is capped.  Where growing is monotone and
does not lead below the cap again, capping at every attempt is capping at the last one.
-/

namespace DroneComms.CappedGrowth

universe u

variable {δ : Type u} [LinearOrder δ] {grow : δ → δ} {cap d : δ}

/-- The delay behind a delay. -/
def next (grow : δ → δ) (cap d : δ) : δ := min (grow d) cap

/-- The delays in closed form. -/
theorem iterate_next (hmono : Monotone grow) (hcap : cap ≤ grow cap) (d : δ) {n : ℕ}
    (hn : n ≠ 0) : (next grow cap)^[n] d = min (grow^[n] d) cap := by
  obtain ⟨n, rfl⟩ := Nat.exists_eq_succ_of_ne_zero hn
  induction n with
  | zero => rfl
  | succ n ih =>
      rw [Function.iterate_succ_apply', ih n.succ_ne_zero, next, hmono.map_min, min_assoc,
        min_eq_right hcap, Function.iterate_succ_apply' grow (n + 1)]

end DroneComms.CappedGrowth
