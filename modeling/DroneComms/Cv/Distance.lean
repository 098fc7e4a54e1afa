import DroneComms.Cv.Haversine
import DroneComms.Py.FloatOrder

/-!
# The distance as it is computed

`ground_distance_m` of `meshsa/cv/geo.py` on coordinates, in binary64: it is never
`nan`, it is zero from a point to itself, and it is the same in both directions,
as far as the functions of the platform are exact at zero and odd or even.
-/

namespace DroneComms.Cv

open Py PyFloat

variable [Libm]

/-- What the platform returns at zero, and the range of its cosine. -/
structure ExactAtZero [Libm] : Prop where
  sin : Libm.sin 0 = 0
  asin : Libm.asin 0 = 0
  sqrt : Libm.sqrt 0 = 0
  square : Libm.square 0 = .fin 0
  abs_cos_le : ∀ q, |Libm.cos q| ≤ 1

/-- The sine is odd and the square is even. -/
structure Symmetric [Libm] : Prop where
  sin : ∀ q, Libm.sin (-q) = -Libm.sin q
  square : ∀ q, Libm.square (-q) = Libm.square q

omit [Libm] in
/-- Half the difference of two angles, as it is squared below. -/
def half {F : Type} [Arith F] (x y : F) : Except MathError F :=
  Arith.div (Arith.radians (y - x)) (Arith.lit 2)

/-- The haversine of the difference of two angles. -/
def haversine (x y : PyFloat) : Except MathError PyFloat := do
  Arith.square (← Arith.sin (← half x y))

/-- The distance that belongs to a sum of haversines. -/
def arc (a : PyFloat) : Except MathError PyFloat := do
  return Arith.lit 2 * earthRM * (← Arith.asin (Arith.min (Arith.lit 1) (← Arith.sqrt a)))

theorem groundDistanceM_eq (lat₁ lon₁ lat₂ lon₂ : PyFloat) :
    groundDistanceM lat₁ lon₁ lat₂ lon₂ = (do
      let p ← haversine lat₁ lat₂
      let c₁ ← Arith.cos (Arith.radians lat₁)
      let c₂ ← Arith.cos (Arith.radians lat₂)
      let l ← haversine lon₁ lon₂
      arc (p + c₁ * c₂ * l)) := by
  simp only [groundDistanceM, haversine, half, arc, bind_assoc]

theorem lit_two : (Arith.lit 2 : PyFloat) = fin 2 := lit_natCast 2 (by norm_num)

theorem ofRat_zero : ofRat 0 = fin 0 := lit_natCast 0 (by norm_num)

theorem mul_fin (a b : ℚ) : (fin a * fin b : PyFloat) = ofRat (a * b) := rfl

theorem diameter : (Arith.lit 2 * earthRM : PyFloat) = fin 12742000 := by
  have hradius : (earthRM : PyFloat) = fin 6371000 := lit_natCast 6371000 (by norm_num)
  have hproduct : ofRat (2 * 6371000) = fin 12742000 := by
    norm_num
    exact lit_natCast 12742000 (by norm_num)
  rw [lit_two, hradius, mul_fin, hproduct]

/-- The cosine of a latitude. -/
theorem exists_cos_fin {a : ℚ} (ha : |a| ≤ 90) :
    ∃ q, Arith.cos (Arith.radians (fin a)) =
      (.ok (fin (Libm.cos q)) : Except MathError PyFloat) := by
  rw [radians_latitude ha]
  exact ⟨_, rfl⟩

/-! ## A distance is a number -/

theorem arc_ne_nan {a dist : PyFloat} (h : arc a = .ok dist) : dist ≠ nan := by
  obtain ⟨root, -, h⟩ := Py.bind_eq_ok.mp h
  obtain ⟨angle, hangle, h⟩ := Py.bind_eq_ok.mp h
  cases h
  have hfin : ∃ q, angle = fin q := by
    have hone : (Arith.lit 1 : PyFloat) = fin 1 := lit_natCast 1 (by norm_num)
    rw [Arith.min, hone] at hangle
    split at hangle
    next hlt =>
      cases root with
      | nan => cases hlt
      | posInf => cases hlt
      | negInf => cases hangle
      | fin q =>
          change (if 1 < |q| then _ else _) = _ at hangle
          split at hangle
          · cases hangle
          · cases hangle
            exact ⟨_, rfl⟩
    · rw [asin_fin (by norm_num)] at hangle
      cases hangle
      exact ⟨_, rfl⟩
  obtain ⟨q, rfl⟩ := hfin
  rw [diameter, mul_fin]
  exact ofRat_ne_nan _

/-- The distance between coordinates is never `nan`. -/
theorem groundDistanceM_ne_nan {lat₁ lon₁ lat₂ lon₂ dist : PyFloat}
    (h : groundDistanceM lat₁ lon₁ lat₂ lon₂ = .ok dist) : dist ≠ nan := by
  rw [groundDistanceM_eq] at h
  obtain ⟨_, -, h⟩ := Py.bind_eq_ok.mp h
  obtain ⟨_, -, h⟩ := Py.bind_eq_ok.mp h
  obtain ⟨_, -, h⟩ := Py.bind_eq_ok.mp h
  obtain ⟨_, -, h⟩ := Py.bind_eq_ok.mp h
  exact arc_ne_nan h

/-! ## From a point to itself -/

theorem haversine_self (h : ExactAtZero) (a : ℚ) : haversine (fin a) (fin a) = .ok (fin 0) := by
  have hhalf : half (fin a) (fin a) = .ok (fin 0) := by
    rw [half, sub_fin, add_neg_cancel, ofRat_zero, radians_fin, zero_mul, ofRat_zero, lit_two,
      div_fin _ two_ne_zero, zero_div, ofRat_zero]
  have hsin : (Arith.sin (fin 0) : Except MathError PyFloat) = .ok (fin 0) :=
    congrArg (fun q ↦ Except.ok (fin q)) h.sin
  have hsquare : Arith.square (fin 0) = (.ok (fin 0) : Except MathError PyFloat) := by
    change (if (Libm.square 0).isFinite then _ else _) = _
    rw [h.square]
    rfl
  rw [haversine, hhalf, Py.ok_bind, hsin, Py.ok_bind, hsquare]

theorem arc_zero (h : ExactAtZero) : arc (fin 0) = .ok (fin 0) := by
  have hroot : (Arith.sqrt (fin 0) : Except MathError PyFloat) = .ok (fin 0) :=
    congrArg (fun q ↦ Except.ok (fin q)) h.sqrt
  have hmin : (Arith.min (Arith.lit 1) (fin 0) : PyFloat) = fin 0 := by
    have hone : (Arith.lit 1 : PyFloat) = fin 1 := lit_natCast 1 (by norm_num)
    have hlt : (Arith.lt (fin 0) (fin 1 : PyFloat)) = true := rfl
    rw [Arith.min, hone, if_pos hlt]
  rw [arc, hroot, Py.ok_bind, hmin, asin_fin (by norm_num), h.asin, Py.ok_bind, diameter, mul_fin,
    mul_zero, ofRat_zero]
  rfl

/-- A point is at distance zero from itself. -/
theorem groundDistanceM_self (h : ExactAtZero) {lat lon : ℚ} (hlat : |lat| ≤ 90) :
    groundDistanceM (fin lat) (fin lon) (fin lat) (fin lon) = .ok (fin 0) := by
  obtain ⟨q, hcos⟩ := exists_cos_fin hlat
  have hproduct : |Libm.cos q * Libm.cos q| < 2 ^ 1 := by
    rw [abs_mul]
    calc |Libm.cos q| * |Libm.cos q| ≤ 1 * 1 :=
          mul_le_mul (h.abs_cos_le q) (h.abs_cos_le q) (abs_nonneg _) zero_le_one
      _ < 2 ^ 1 := by norm_num
  obtain ⟨hfin, -⟩ := exists_ofRat le_rfl (by norm_num) hproduct
  have hsum : (fin 0 + fin 0 : PyFloat) = fin 0 := by
    change ofRat (0 + 0) = fin 0
    rw [add_zero, ofRat_zero]
  rw [groundDistanceM_eq, haversine_self h, haversine_self h, hcos]
  simp only [Py.ok_bind]
  rw [mul_fin, hfin, mul_fin, mul_zero, ofRat_zero, hsum, arc_zero h]

/-! ## In both directions -/

variable {a b : ℚ}

theorem half_swap (ha : |a| ≤ 180) (hb : |b| ≤ 180) :
    ∃ q, half (fin a) (fin b) = .ok (fin q) ∧ half (fin b) (fin a) = .ok (fin (-q)) := by
  obtain ⟨q, hq⟩ := exists_half ha hb
  refine ⟨q, hq, ?_⟩
  have hsub : (fin a - fin b : PyFloat) = (fin b - fin a : PyFloat).neg := by
    rw [sub_fin, sub_fin, ← ofRat_neg, neg_add_rev, neg_neg]
  have hdiv (x : PyFloat) : Arith.div x (fin 2) =
      (.ok (x.div (fin 2)) : Except MathError PyFloat) := if_neg (by simp)
  rw [lit_two, hdiv] at hq
  have hmul : Arith.radians (fin b - fin a : PyFloat).neg = (Arith.radians (fin b - fin a)).neg :=
    neg_mul_fin _ _
  rw [half, hsub, hmul, lit_two, hdiv, neg_div_fin, Except.ok.inj hq]
  rfl

theorem haversine_swap (h : Symmetric) (ha : |a| ≤ 180) (hb : |b| ≤ 180) :
    haversine (fin a) (fin b) = haversine (fin b) (fin a) := by
  obtain ⟨q, hq, hq'⟩ := half_swap ha hb
  have hsin (r : ℚ) : (Arith.sin (fin r) : Except MathError PyFloat) = .ok (fin (Libm.sin r)) := rfl
  have hsquare (r : ℚ) : (Arith.square (fin (-r)) : Except MathError PyFloat) =
      Arith.square (fin r) := by
    change (if (Libm.square (-r)).isFinite then _ else _) = (if _ then _ else _)
    rw [h.square]
  rw [haversine, haversine, hq, hq', Py.ok_bind, Py.ok_bind, hsin, hsin, Py.ok_bind, Py.ok_bind,
    h.sin, hsquare]

/-- The distance is the same in both directions. -/
theorem groundDistanceM_swap (h : Symmetric) {lat₁ lon₁ lat₂ lon₂ : ℚ} (h₁ : |lat₁| ≤ 90)
    (h₂ : |lon₁| ≤ 180) (h₃ : |lat₂| ≤ 90) (h₄ : |lon₂| ≤ 180) :
    groundDistanceM (fin lat₁) (fin lon₁) (fin lat₂) (fin lon₂) =
      groundDistanceM (fin lat₂) (fin lon₂) (fin lat₁) (fin lon₁) := by
  obtain ⟨q₁, hcos₁⟩ := exists_cos_fin h₁
  obtain ⟨q₂, hcos₂⟩ := exists_cos_fin h₃
  have hmul : (fin (Libm.cos q₁) * fin (Libm.cos q₂) : PyFloat) =
      fin (Libm.cos q₂) * fin (Libm.cos q₁) := mul_swap _ _
  rw [groundDistanceM_eq, groundDistanceM_eq, haversine_swap h (h₁.trans (by norm_num))
    (h₃.trans (by norm_num)), haversine_swap h h₂ h₄, hcos₁, hcos₂]
  simp only [Py.ok_bind, hmul]

/-! ## A platform -/

omit [Libm]

theorem exists_square (q : ℚ) (_ : |q| ≤ 1) :
    ∃ r, 0 ≤ r ∧ PyFloat.fin (binary64 (q * q)) = .fin r :=
  ⟨_, binary64_nonneg (mul_self_nonneg q), rfl⟩

/-- The platform's functions where the distance of two points on the equator takes them, zero or
one degree apart. -/
@[reducible] def equator : Libm where
  sin q :=
    if q = 5030569068109113 / 2 ^ 59 then 5030505218395169 / 2 ^ 59
    else if q = -(5030569068109113 / 2 ^ 59) then -(5030505218395169 / 2 ^ 59) else 0
  cos _ := 1
  tan _ := 0
  atan _ := 0
  asin q := if q = 5030505218395169 / 2 ^ 59 then 5030569068109113 / 2 ^ 59 else 0
  sqrt q := if q = 2809528471237169 / 2 ^ 65 then 5030505218395169 / 2 ^ 59 else 0
  square q := .fin (binary64 (q * q))
  abs_sin_le q := by
    split_ifs <;> norm_num [abs_le]
  sqrt_nonneg q _ := by
    split_ifs <;> norm_num
  square_of_abs_le := exists_square
  cos_latitude_nonneg _ _ := zero_le_one

theorem exactAtZero_equator : @ExactAtZero equator := by
  refine @ExactAtZero.mk equator ?_ ?_ ?_ ?_ fun q ↦ ?_
  · exact (if_neg (by norm_num)).trans (if_neg (by norm_num))
  · exact if_neg (by norm_num)
  · exact if_neg (by norm_num)
  · change PyFloat.fin (binary64 (0 * 0)) = PyFloat.fin 0
    rw [mul_zero, binary64_zero]
  · change |(1 : ℚ)| ≤ 1
    rw [abs_one]

end DroneComms.Cv
