import Mathlib.Analysis.Convex.Deriv
import Mathlib.Analysis.SpecialFunctions.Trigonometric.ArctanDeriv

/-!
# The tangent is strictly convex

Between zero and a right angle the tangent is strictly convex, so that an angle cannot be
scaled by scaling its tangent: the two agree at the multiples by -1, 0 and 1 only.
-/

namespace DroneComms.Tangent

open Set

theorem cos_pos {x : ℝ} (h : x ∈ Ico 0 (Real.pi / 2)) : 0 < Real.cos x :=
  Real.cos_pos_of_mem_Ioo ⟨by linarith [h.1, Real.pi_pos], h.2⟩

theorem strictConvexOn_tan : StrictConvexOn ℝ (Ico 0 (Real.pi / 2)) Real.tan := by
  apply StrictMonoOn.strictConvexOn_of_deriv (convex_Ico _ _)
  · intro x hx
    exact (Real.continuousAt_tan.mpr (cos_pos hx).ne').continuousWithinAt
  · rw [interior_Ico]
    intro x hx y hy hlt
    have hy' : 0 < Real.cos y := cos_pos ⟨hy.1.le, hy.2⟩
    have hcos : Real.cos y < Real.cos x :=
      Real.cos_lt_cos_of_nonneg_of_le_pi_div_two hx.1.le hy.2.le hlt
    rw [Real.deriv_tan, Real.deriv_tan]
    gcongr

variable {θ f : ℝ}

/-- A part of an angle has less than that part of the tangent. -/
theorem tan_mul_lt (hpos : 0 < θ) (hright : θ < Real.pi / 2) (hf : 0 < f) (hlt : f < 1) :
    Real.tan (f * θ) < f * Real.tan θ := by
  have hzero : (0 : ℝ) ∈ Ico 0 (Real.pi / 2) := ⟨le_rfl, by linarith⟩
  have hconvex := strictConvexOn_tan.2 hzero ⟨hpos.le, hright⟩ hpos.ne (sub_pos.mpr hlt) hf
    (sub_add_cancel 1 f)
  simpa using hconvex

/-- The angle of a part of the tangent is larger than that part of the angle. -/
theorem lt_arctan_mul_tan (hpos : 0 < θ) (hright : θ < Real.pi / 2) (hf : 0 < f) (hlt : f < 1) :
    f * θ < Real.arctan (f * Real.tan θ) := by
  have hpart : f * θ < θ := mul_lt_of_lt_one_left hpos hlt
  calc f * θ = Real.arctan (Real.tan (f * θ)) :=
        (Real.arctan_tan (by linarith [mul_pos hf hpos]) (hpart.trans hright)).symm
    _ < Real.arctan (f * Real.tan θ) := Real.arctan_strictMono (tan_mul_lt hpos hright hf hlt)

/-- And that of a multiple is smaller than the multiple. -/
theorem arctan_mul_tan_lt (hpos : 0 < θ) (hright : θ < Real.pi / 2) (hf : 1 < f) :
    Real.arctan (f * Real.tan θ) < f * θ := by
  have hf0 : 0 < f := one_pos.trans hf
  by_contra hle
  have hmultiple : f * θ < Real.pi / 2 :=
    (not_lt.mp hle).trans_lt (Real.arctan_lt_pi_div_two _)
  have hpart := tan_mul_lt (mul_pos hf0 hpos) hmultiple (inv_pos.mpr hf0) (inv_lt_one_of_one_lt₀ hf)
  rw [inv_mul_cancel_left₀ hf0.ne', ← div_eq_inv_mul, lt_div_iff₀ hf0, mul_comm] at hpart
  have harctan := Real.arctan_strictMono hpart
  rw [Real.arctan_tan (by linarith [mul_pos hf0 hpos]) hmultiple] at harctan
  exact hle harctan

/-- Scaling an angle and scaling its tangent agree in three cases. -/
theorem arctan_mul_tan_eq_iff (hpos : 0 < θ) (hright : θ < Real.pi / 2) :
    Real.arctan (f * Real.tan θ) = f * θ ↔ f = -1 ∨ f = 0 ∨ f = 1 := by
  have hpositive : ∀ f : ℝ, 0 < f → Real.arctan (f * Real.tan θ) = f * θ → f = 1 := by
    intro f hf h
    by_contra hne
    rcases lt_or_gt_of_ne hne with hlt | hgt
    · exact (lt_arctan_mul_tan hpos hright hf hlt).ne h.symm
    · exact (arctan_mul_tan_lt hpos hright hgt).ne h
  constructor
  · intro h
    rcases lt_trichotomy f 0 with hneg | hzero | hf
    · refine .inl (neg_eq_iff_eq_neg.mp (hpositive (-f) (neg_pos.mpr hneg) ?_))
      rw [neg_mul, neg_mul, Real.arctan_neg, h]
    · exact .inr (.inl hzero)
    · exact .inr (.inr (hpositive f hf h))
  · have harctan : Real.arctan (Real.tan θ) = θ := Real.arctan_tan (by linarith) hright
    rintro (rfl | rfl | rfl)
    · rw [neg_one_mul, neg_one_mul, Real.arctan_neg, harctan]
    · rw [zero_mul, zero_mul, Real.arctan_zero]
    · rw [one_mul, one_mul, harctan]

end DroneComms.Tangent
