import Mathlib.Algebra.Order.Floor.Ring
import Mathlib.Tactic
import Mathlib.Topology.Algebra.Order.Floor
import Mathlib.Topology.Order.AtTopBotIxx

/-!
# Linear interpolation

A function with given values at the integers, its nodes, and linear between two of
them.  At a node both of its pieces have the value of the node, so the function is
continuous; between two nodes it does not leave their values.  On a grid the
interpolation is linear in one direction after the other.
-/

namespace DroneComms.Interpolation

variable {F : Type*} [Field F] [LinearOrder F]

/-- The value at `t` between `a` and `b`. -/
def lerp (a b t : F) : F := a * (1 - t) + b * t

omit [LinearOrder F] in
@[simp] theorem lerp_zero (a b : F) : lerp a b 0 = a := by simp [lerp]

omit [LinearOrder F] in
@[simp] theorem lerp_one (a b : F) : lerp a b 1 = b := by simp [lerp]

/-- The number of `[0, hi]` that is nearest to `x`. -/
def clamp (hi x : F) : F := max 0 (min x hi)

theorem clamp_of_nonpos {hi x : F} (h : 0 ≤ hi) (hx : x ≤ 0) : clamp hi x = 0 := by
  rw [clamp, min_eq_left (hx.trans h), max_eq_left hx]

theorem clamp_of_le {hi x : F} (h : 0 ≤ hi) (hx : hi ≤ x) : clamp hi x = hi := by
  rw [clamp, min_eq_right hx, max_eq_right h]

theorem clamp_eq_self {hi x : F} (h0 : 0 ≤ x) (hx : x ≤ hi) : clamp hi x = x := by
  rw [clamp, min_eq_left hx, max_eq_right h0]

theorem clamp_mem {hi : F} (h : 0 ≤ hi) (x : F) : clamp hi x ∈ Set.Icc 0 hi :=
  ⟨le_max_left _ _, max_le h (min_le_right _ _)⟩

variable [IsStrictOrderedRing F]

theorem clamp_div_of_nonpos {hi a d : F} (h : 0 ≤ hi) (hd : 0 < d) (ha : a ≤ 0) :
    clamp hi (a / d) = 0 :=
  clamp_of_nonpos h (div_nonpos_of_nonpos_of_nonneg ha hd.le)

theorem clamp_div_of_le {hi a d : F} (h : 0 ≤ hi) (hd : 0 < d) (ha : hi * d ≤ a) :
    clamp hi (a / d) = hi :=
  clamp_of_le h ((le_div_iff₀ hd).mpr ha)

/-- A value between two values lies in every interval that holds both. -/
theorem lerp_mem {a b t lo hi : F} (ha : a ∈ Set.Icc lo hi) (hb : b ∈ Set.Icc lo hi)
    (h0 : 0 ≤ t) (h1 : t ≤ 1) : lerp a b t ∈ Set.Icc lo hi := by
  have h1' : 0 ≤ 1 - t := sub_nonneg.mpr h1
  constructor
  · calc lo = lo * (1 - t) + lo * t := by ring
      _ ≤ lerp a b t :=
        add_le_add (mul_le_mul_of_nonneg_right ha.1 h1') (mul_le_mul_of_nonneg_right hb.1 h0)
  · calc lerp a b t ≤ hi * (1 - t) + hi * t :=
        add_le_add (mul_le_mul_of_nonneg_right ha.2 h1') (mul_le_mul_of_nonneg_right hb.2 h0)
      _ = hi := by ring

variable [FloorRing F]

/-- The function with the values `f` at the nodes. -/
def linear (f : ℤ → F) (x : F) : F := lerp (f ⌊x⌋) (f (⌊x⌋ + 1)) (Int.fract x)

/-- The function with the values `g` at the nodes of a grid. -/
def bilinear (g : ℤ → ℤ → F) (x y : F) : F := linear (fun r ↦ linear (g r) y) x

variable {f : ℤ → F} {x lo hi : F} {n m : ℤ}

@[simp] theorem linear_intCast (f : ℤ → F) (n : ℤ) : linear f n = f n := by
  rw [linear, Int.fract_intCast, lerp_zero, Int.floor_intCast]

/-- The piece between two nodes, which has the values of both. -/
theorem linear_of_mem (h : x ∈ Set.Icc (n : F) (n + 1)) :
    linear f x = lerp (f n) (f (n + 1)) (x - n) := by
  rcases h.2.lt_or_eq with hlt | rfl
  · have hfloor : ⌊x⌋ = n := Int.floor_eq_iff.mpr ⟨h.1, hlt⟩
    rw [linear, Int.fract, hfloor]
  · have hcast : ((n : F) + 1) = ((n + 1 : ℤ) : F) := by push_cast; rfl
    rw [add_sub_cancel_left, lerp_one, hcast, linear_intCast]

/-- In a range the function does not leave the values of its nodes. -/
theorem linear_mem (hx : x ∈ Set.Icc (n : F) m) (h : ∀ k, n ≤ k → k ≤ m → f k ∈ Set.Icc lo hi) :
    linear f x ∈ Set.Icc lo hi := by
  have hn : n ≤ ⌊x⌋ := Int.le_floor.mpr hx.1
  have hm : ⌊x⌋ ≤ m := Int.cast_le.mp ((Int.floor_le x).trans hx.2)
  rcases hm.lt_or_eq with hlt | heq
  · exact lerp_mem (h _ hn hm) (h _ (by omega) (by omega)) (Int.fract_nonneg x)
      (Int.fract_lt_one x).le
  · have hself : x = (m : F) := le_antisymm hx.2 (heq ▸ Int.floor_le x)
    rw [hself, linear_intCast]
    exact h m (heq ▸ hn) le_rfl

/-! ## Continuity -/

section Real

variable {X : Type*} [TopologicalSpace X]

/-- The pieces between neighbouring nodes are locally finite. -/
theorem locallyFinite_pieces : LocallyFinite fun n : ℤ ↦ Set.Icc (n : ℝ) (n + 1) :=
  locallyFinite_Icc_of_tendsto tendsto_intCast_atTop_atTop
    (Filter.tendsto_atBot_add_const_right _ _ (tendsto_intCast_atBot_iff.mpr Filter.tendsto_id))

/-- Values that move continuously, at a place that moves continuously. -/
theorem continuous_linear {f : ℤ → X → ℝ} (hf : ∀ n, Continuous (f n)) {p : X → ℝ}
    (hp : Continuous p) : Continuous fun x ↦ linear (fun n ↦ f n x) (p x) := by
  apply (locallyFinite_pieces.preimage_continuous hp).continuous
  · ext x
    simp only [Set.mem_iUnion, Set.mem_preimage, Set.mem_univ, iff_true]
    exact ⟨⌊p x⌋, Int.floor_le _, (Int.lt_floor_add_one _).le⟩
  · exact fun n ↦ isClosed_Icc.preimage hp
  · intro n
    have hpiece : ContinuousOn (fun x ↦ lerp (f n x) (f (n + 1) x) (p x - n))
        (Set.preimage p (Set.Icc (n : ℝ) (n + 1))) := by
      unfold lerp
      have := hf n
      have := hf (n + 1)
      fun_prop
    exact hpiece.congr fun x hx ↦ linear_of_mem hx

theorem continuous_bilinear (g : ℤ → ℤ → ℝ) {p q : X → ℝ} (hp : Continuous p)
    (hq : Continuous q) : Continuous fun x ↦ bilinear g (p x) (q x) :=
  continuous_linear (fun _ ↦ continuous_linear (fun _ ↦ continuous_const) hq) hp

theorem continuous_clamp (hi : ℝ) : Continuous (clamp hi) := by
  unfold clamp
  fun_prop

end Real

end DroneComms.Interpolation
