import DroneComms.Py.Arithmetic

/-!
# Floats in order

Rounding is odd and monotone, so the float of a difference is nearer to zero the
nearer the two numbers are.
-/

namespace DroneComms.Py

theorem roundEven_neg (q : ℚ) : roundEven (-q) = -roundEven q := by
  have hle := Int.floor_le q
  have hlt := Int.lt_floor_add_one q
  rcases hle.eq_or_lt with h | h
  · have hcast (n : ℤ) : roundEven (-(n : ℚ)) = -roundEven (n : ℚ) := by
      rw [roundEven_intCast, ← Int.cast_neg, roundEven_intCast]
    rw [← h]
    exact hcast ⌊q⌋
  · have hfloor : ⌊-q⌋ = -⌊q⌋ - 1 := by
      rw [Int.floor_eq_iff]
      push_cast
      constructor <;> linarith
    simp only [roundEven, hfloor]
    push_cast
    split_ifs <;> first | omega | linarith

theorem roundEven_mono {p q : ℚ} (h : p ≤ q) : roundEven p ≤ roundEven q := by
  have hp := Int.floor_le p
  have hp' := Int.lt_floor_add_one p
  have hq := Int.floor_le q
  have hq' := Int.lt_floor_add_one q
  rcases (Int.floor_mono h).eq_or_lt with hfloor | hfloor
  · rw [← hfloor] at hq hq'
    simp only [roundEven, ← hfloor]
    split_ifs <;> first | omega | linarith
  · simp only [roundEven]
    split_ifs <;> omega

theorem ulp_neg (q : ℚ) : ulp (-q) = ulp q := by rw [ulp, ulp, abs_neg]

theorem binary64_neg (q : ℚ) : binary64 (-q) = -binary64 q := by
  rw [binary64, binary64, ulp_neg, neg_div, roundEven_neg]
  push_cast
  exact neg_mul _ _

/-- Rounding does not cross a number of the grid. -/
theorem le_binary64 {q : ℚ} {n : ℤ} (h : n * ulp q ≤ q) : n * ulp q ≤ binary64 q := by
  have hround : n ≤ roundEven (q / ulp q) := by
    rw [← roundEven_intCast n]
    exact roundEven_mono ((le_div_iff₀ (ulp_pos q)).mpr h)
  exact mul_le_mul_of_nonneg_right (Int.cast_le.mpr hround) (ulp_pos q).le

theorem binary64_le {q : ℚ} {n : ℤ} (h : q ≤ n * ulp q) : binary64 q ≤ n * ulp q := by
  have hround : roundEven (q / ulp q) ≤ n := by
    rw [← roundEven_intCast n]
    exact roundEven_mono ((div_le_iff₀ (ulp_pos q)).mpr h)
  exact mul_le_mul_of_nonneg_right (Int.cast_le.mpr hround) (ulp_pos q).le

/-- A power of two that is not below the unit of a number is on its grid. -/
theorem exists_mul_ulp {q : ℚ} {k : ℤ} (h : max (Int.log 2 |q| - 52) (-1074) ≤ k) :
    ∃ n : ℤ, (2 : ℚ) ^ k = n * ulp q := by
  obtain ⟨d, hd⟩ := Int.eq_ofNat_of_zero_le (sub_nonneg.mpr h)
  refine ⟨2 ^ d, ?_⟩
  push_cast
  rw [ulp, ← zpow_natCast, ← hd, ← zpow_add₀ (by norm_num), sub_add_cancel]

theorem binary64_mono {p q : ℚ} (hp : 0 ≤ p) (h : p ≤ q) : binary64 p ≤ binary64 q := by
  rcases hp.eq_or_lt with rfl | hpos
  · have hzero : ((0 : ℤ) : ℚ) * ulp q ≤ q := by simpa using h
    simpa [binary64_zero] using le_binary64 hzero
  · have hqpos : 0 < q := hpos.trans_le h
    have hlog : Int.log 2 |p| ≤ Int.log 2 |q| := by
      rw [abs_of_pos hpos, abs_of_pos hqpos]
      exact Int.log_mono_right hpos h
    rcases eq_or_ne (max (Int.log 2 |p| - 52) (-1074)) (max (Int.log 2 |q| - 52) (-1074))
      with hexp | hexp
    · have hulp : ulp p = ulp q := congrArg (fun e : ℤ ↦ (2 : ℚ) ^ e) hexp
      rw [binary64, binary64, hulp]
      refine mul_le_mul_of_nonneg_right (Int.cast_le.mpr (roundEven_mono ?_)) (ulp_pos q).le
      exact (div_le_div_iff_of_pos_right (ulp_pos q)).mpr h
    · -- a power of two lies between the two numbers, on the grid of both
      obtain ⟨m, hm⟩ : ∃ m : ℤ, (2 : ℚ) ^ Int.log 2 |q| = m * ulp p := exists_mul_ulp (by omega)
      obtain ⟨n, hn⟩ : ∃ n : ℤ, (2 : ℚ) ^ Int.log 2 |q| = n * ulp q := exists_mul_ulp (by omega)
      have hlt : Int.log 2 |p| < Int.log 2 |q| := by omega
      have hlow : p ≤ 2 ^ Int.log 2 |q| := by
        rw [abs_of_pos hpos] at hlt
        exact ((Int.lt_zpow_iff_log_lt (by norm_num) hpos).mpr hlt).le
      have hhigh : (2 : ℚ) ^ Int.log 2 |q| ≤ q := by
        rw [abs_of_pos hqpos]
        exact Int.zpow_log_le_self (by norm_num) hqpos
      calc binary64 p ≤ m * ulp p := binary64_le (hlow.trans_eq hm)
        _ = n * ulp q := hm.symm.trans hn
        _ ≤ binary64 q := le_binary64 (hn.symm.trans_le hhigh)

namespace PyFloat

theorem ofRat_neg (q : ℚ) : ofRat (-q) = (ofRat q).neg := by
  have hpos : (0 : ℚ) < 2 ^ 1024 := pow_pos two_pos 1024
  simp only [ofRat, binary64_neg]
  generalize (2 : ℚ) ^ 1024 = bound at *
  split_ifs <;> first | rfl | linarith

theorem mul_swap (x y : PyFloat) : x.mul y = y.mul x := by
  cases x <;> cases y <;> simp [mul, mul_comm]

theorem ofRat_ne_nan (q : ℚ) : ofRat q ≠ nan := by
  unfold ofRat
  dsimp only
  split_ifs <;> simp

/-- An exact result that is not nearer to zero has a float that is not nearer to it. -/
theorem ofRat_mono {p q : ℚ} (hp : 0 ≤ p) (h : p ≤ q) : (ofRat p).le (ofRat q) = true := by
  have hmono := binary64_mono hp h
  have hnonneg : 0 ≤ binary64 p := by simpa [binary64_zero] using binary64_mono le_rfl hp
  have hbound : (0 : ℚ) < 2 ^ 1024 := pow_pos two_pos 1024
  simp only [ofRat]
  generalize (2 : ℚ) ^ 1024 = bound at *
  split_ifs <;> first | rfl | linarith | exact decide_eq_true hmono

/-- The first power of two that is no float. -/
theorem ofRat_two_pow : ofRat (2 ^ 1024) = posInf := by
  have hlog : Int.log 2 |((2 : ℕ) : ℚ) ^ (1024 : ℤ)| = 1024 := by
    rw [abs_of_pos (zpow_pos (by norm_num) _)]
    exact Int.log_zpow (by norm_num) _
  obtain ⟨n, hn⟩ : ∃ n : ℤ, (2 : ℚ) ^ (1024 : ℤ) = n * ulp (((2 : ℕ) : ℚ) ^ (1024 : ℤ)) :=
    exists_mul_ulp (by rw [hlog]; norm_num)
  have hle : (2 : ℚ) ^ 1024 ≤ binary64 (2 ^ 1024) := le_binary64 hn.symm.le |>.trans' hn.le
  exact if_pos hle

theorem neg_neg_eq (x : PyFloat) : x.neg.neg = x := by
  cases x with
  | fin q => exact congrArg fin (neg_neg q)
  | nan | posInf | negInf => rfl

/-- The result of an operation with an infinity. -/
theorem ofSign_flip (s : SignType) : ofSign (-1 * s) = (ofSign (1 * s)).neg := by
  cases s <;> rfl

theorem neg_mul_fin (x : PyFloat) (k : ℚ) : x.neg.mul (fin k) = (x.mul (fin k)).neg := by
  cases x with
  | fin q => simp only [neg, mul, neg_mul, ofRat_neg]
  | nan =>
      change ofSign (0 * SignType.sign k) = (ofSign (0 * SignType.sign k)).neg
      rw [zero_mul]
      rfl
  | posInf => exact ofSign_flip _
  | negInf => exact (neg_neg_eq _).symm.trans (congrArg neg (ofSign_flip _).symm)

theorem neg_div_fin (x : PyFloat) (k : ℚ) : x.neg.div (fin k) = (x.div (fin k)).neg := by
  cases x with
  | fin q => simp only [neg, div, neg_div, ofRat_neg]
  | nan => rfl
  | posInf => exact ofSign_flip _
  | negInf => exact (neg_neg_eq _).symm.trans (congrArg neg (ofSign_flip _).symm)

theorem le_trans' {x y z : PyFloat} (hxy : x.le y = true) (hyz : y.le z = true) :
    x.le z = true := by
  cases x <;> cases y <;> cases z <;> simp_all [le]
  exact hxy.trans hyz

/-- Floats other than `nan` are ordered. -/
theorem lt_of_not_le {x y : PyFloat} (hx : x ≠ nan) (hy : y ≠ nan) (h : x.le y = false) :
    y.lt x = true := by
  cases x with
  | nan => exact absurd rfl hx
  | negInf =>
      cases y with
      | nan => exact absurd rfl hy
      | negInf | posInf | fin _ => cases h
  | posInf =>
      cases y with
      | nan => exact absurd rfl hy
      | posInf => cases h
      | negInf | fin _ => rfl
  | fin a =>
      cases y with
      | nan => exact absurd rfl hy
      | posInf => cases h
      | negInf => rfl
      | fin b => simpa using h

theorem le_of_not_lt {x y : PyFloat} (hx : x ≠ nan) (hy : y ≠ nan) (h : x.lt y = false) :
    y.le x = true := by
  by_contra hle
  rw [lt_of_not_le hy hx (Bool.eq_false_iff.mpr hle)] at h
  cases h

theorem le_of_lt' {x y : PyFloat} (h : x.lt y = true) : x.le y = true :=
  (Bool.and_eq_true_iff.mp h).1

theorem not_le_of_lt {x y : PyFloat} (h : x.lt y = true) : y.le x = false := by
  have hnot := (Bool.and_eq_true_iff.mp h).2
  simpa using hnot

/-- Nothing but an infinity is not below it. -/
theorem eq_posInf_of_not_lt {x : PyFloat} (hx : x ≠ nan) (h : x.lt posInf = false) : x = posInf := by
  cases x with
  | nan => exact absurd rfl hx
  | posInf => rfl
  | negInf | fin _ => cases h

end PyFloat

end DroneComms.Py

