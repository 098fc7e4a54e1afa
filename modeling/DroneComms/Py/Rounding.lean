import DroneComms.Py.Value
import Mathlib.Data.Int.Log
import Mathlib.Tactic

/-!
# Rounding to a float

A result of float arithmetic is the exact result rounded to a binary64 number,
ties to even (`binary64`).  Rounding moves a number by at most half a unit in
the last place, and not at all if the number is a binary64 number already.
-/

namespace DroneComms.Py

/-- Rounding to an integer moves a number by at most one half. -/
theorem abs_roundEven_sub_le (q : ℚ) : |(roundEven q : ℚ) - q| ≤ 1 / 2 := by
  have hle := Int.floor_le q
  have hlt := Int.lt_floor_add_one q
  unfold roundEven
  rw [abs_le]
  dsimp only
  split_ifs with hlow hhigh heven
  · constructor <;> linarith
  · push_cast
    constructor <;> linarith
  · constructor <;> linarith
  · push_cast
    constructor <;> linarith

/-- The distance between two binary64 numbers at the magnitude of `q`. -/
def ulp (q : ℚ) : ℚ := 2 ^ max (Int.log 2 |q| - 52) (-1074)

/-- The nearest binary64 number, ties to even, without a bound on the exponent. -/
def binary64 (q : ℚ) : ℚ := roundEven (q / ulp q) * ulp q

theorem ulp_pos (q : ℚ) : 0 < ulp q := zpow_pos (by norm_num) _

theorem abs_binary64_sub_le (q : ℚ) : |binary64 q - q| ≤ ulp q / 2 := by
  have hpos := ulp_pos q
  have hround := abs_roundEven_sub_le (q / ulp q)
  calc |binary64 q - q|
      = |((roundEven (q / ulp q) : ℚ) - q / ulp q) * ulp q| := by
        rw [binary64, sub_mul, div_mul_cancel₀ q hpos.ne']
    _ = |(roundEven (q / ulp q) : ℚ) - q / ulp q| * ulp q := by
        rw [abs_mul, abs_of_pos hpos]
    _ ≤ 1 / 2 * ulp q := mul_le_mul_of_nonneg_right hround hpos.le
    _ = ulp q / 2 := by ring

/-- The exponent of a unit in the last place, below `2 ^ k`. -/
theorem ulpExponent_le {q : ℚ} {k : ℤ} (hk : 1 ≤ k) (h : |q| < 2 ^ k) :
    max (Int.log 2 |q| - 52) (-1074) ≤ k - 53 := by
  apply max_le
  · rcases (abs_nonneg q).eq_or_lt with hzero | hpos
    · rw [← hzero, Int.log_zero_right]
      omega
    · have hlog := (Int.lt_zpow_iff_log_lt (b := 2) (by norm_num) hpos).mp h
      omega
  · omega

/-- Below `2 ^ k` a unit in the last place is at most `2 ^ (k - 53)`. -/
theorem ulp_le {q : ℚ} {k : ℤ} (hk : 1 ≤ k) (h : |q| < 2 ^ k) : ulp q ≤ 2 ^ (k - 53) :=
  zpow_le_zpow_right₀ (by norm_num) (ulpExponent_le hk h)

/-- Below `2 ^ k` the multiples of `2 ^ (k - 53)` are binary64 numbers. -/
theorem binary64_eq_self {q : ℚ} {k m : ℤ} (hk : 1 ≤ k) (h : |q| < 2 ^ k)
    (hq : q = m * 2 ^ (k - 53)) : binary64 q = q := by
  obtain ⟨d, hd⟩ := Int.eq_ofNat_of_zero_le (sub_nonneg.mpr (ulpExponent_le hk h))
  have hgrid : (2 : ℚ) ^ (k - 53) = 2 ^ d * ulp q := by
    rw [ulp, ← zpow_natCast, ← hd, ← zpow_add₀ (by norm_num), sub_add_cancel]
  have hint : q / ulp q = ((m * 2 ^ d : ℤ) : ℚ) := by
    rw [div_eq_iff (ulp_pos q).ne']
    calc q = m * 2 ^ (k - 53) := hq
      _ = ((m * 2 ^ d : ℤ) : ℚ) * ulp q := by
        rw [hgrid]
        push_cast
        ring
  rw [binary64, hint, roundEven_intCast, ← hint, div_mul_cancel₀ q (ulp_pos q).ne']

theorem binary64_zero : binary64 0 = 0 := by
  rw [binary64, zero_div]
  simp [roundEven]

/-- `math.trunc`. -/
def truncate (q : ℚ) : ℤ := if 0 ≤ q then ⌊q⌋ else ⌈q⌉

/-- What truncation leaves over is smaller than one. -/
theorem abs_sub_truncate_lt (q : ℚ) : |q - truncate q| < 1 := by
  have hfloor := Int.floor_le q
  have hlt := Int.lt_floor_add_one q
  have hceil := Int.le_ceil q
  have hgt := Int.ceil_lt_add_one q
  unfold truncate
  rw [abs_lt]
  split_ifs
  · constructor <;> linarith
  · constructor <;> linarith

namespace PyFloat

/-- The float of an exact result. -/
def ofRat (q : ℚ) : PyFloat :=
  let x := binary64 q
  if 2 ^ 1024 ≤ x then posInf else if x ≤ -2 ^ 1024 then negInf else fin x

/-- `x + y`. -/
def add : PyFloat → PyFloat → PyFloat
  | nan, _ | _, nan | posInf, negInf | negInf, posInf => nan
  | posInf, _ | _, posInf => posInf
  | negInf, _ | _, negInf => negInf
  | fin a, fin b => ofRat (a + b)

/-- `x * k` for a positive `k`. -/
def scale (k : ℚ) : PyFloat → PyFloat
  | fin q => ofRat (q * k)
  | x => x

/-- In the range of the format the float of an exact result is finite. -/
theorem ofRat_eq_fin {q : ℚ} (h : |binary64 q| < 2 ^ 1024) : ofRat q = fin (binary64 q) := by
  obtain ⟨hlow, hhigh⟩ := abs_lt.mp h
  rw [ofRat, if_neg (not_le.mpr hhigh), if_neg (not_le.mpr hlow)]

/-- The float of an exact result below `2 ^ k`, and how far off it is. -/
theorem ofRat_of_abs_lt {q : ℚ} {k : ℤ} (hlow : 1 ≤ k) (hhigh : k ≤ 1022) (h : |q| < 2 ^ k) :
    ofRat q = fin (binary64 q) ∧ |binary64 q - q| ≤ 2 ^ (k - 54) := by
  have hhalf : (2 : ℚ) ^ (k - 53) / 2 = 2 ^ (k - 54) := by
    rw [show k - 53 = k - 54 + 1 by ring, zpow_add_one₀ (by norm_num)]
    ring
  have herror : |binary64 q - q| ≤ 2 ^ (k - 54) := by
    have hulp := ulp_le hlow h
    have hround := abs_binary64_sub_le q
    linarith
  refine ⟨ofRat_eq_fin ?_, herror⟩
  have hsmall : (2 : ℚ) ^ (k - 54) ≤ 2 ^ k := zpow_le_zpow_right₀ (by norm_num) (by omega)
  have hbig : (2 : ℚ) ^ k + 2 ^ k ≤ 2 ^ (1023 : ℤ) := by
    rw [← two_mul, mul_comm, ← zpow_add_one₀ (by norm_num)]
    exact zpow_le_zpow_right₀ (by norm_num) (by omega)
  have hlast : (2 : ℚ) ^ (1023 : ℤ) < 2 ^ 1024 := by
    rw [← zpow_natCast]
    exact zpow_lt_zpow_right₀ (by norm_num) (by norm_num)
  have habs : |binary64 q| ≤ |binary64 q - q| + |q| := by
    simpa using abs_add_le (binary64 q - q) q
  calc |binary64 q| ≤ |binary64 q - q| + |q| := habs
    _ ≤ 2 ^ k + 2 ^ k := add_le_add (herror.trans hsmall) h.le
    _ ≤ 2 ^ (1023 : ℤ) := hbig
    _ < 2 ^ 1024 := hlast

end PyFloat

/-! ## Numbers -/

/-- The smallest magnitude that `float(n)` refuses to convert. -/
def floatLimit : ℤ := 2 ^ 1024 - 2 ^ 970

/-- `float(n)` for an integer. -/
def floatOfInt (n : ℤ) : Except PyError PyFloat :=
  if floatLimit ≤ |n| then .error .overflowError else .ok (.ofRat n)

theorem floatOfInt_eq_error {n : ℤ} {e : PyError} :
    floatOfInt n = .error e ↔ floatLimit ≤ |n| ∧ e = .overflowError := by
  unfold floatOfInt
  split_ifs with h
  · simp [h, eq_comm]
  · simp [h]

/-- `float(v)`. -/
def toFloat (text : FloatText) : Value → Except PyError PyFloat
  | .bool b => .ok (.fin (if b then 1 else 0))
  | .int n => floatOfInt n
  | .float x => .ok x
  | .str s => (text.ofStr s).elim (.error .valueError) .ok
  | .none | .list _ | .dict _ => .error .typeError

/-- `v * k` for a positive float `k`, which only numbers support. -/
def mulFloat (k : ℚ) : Value → Except PyError PyFloat
  | .bool b => .ok (PyFloat.scale k (.fin (if b then 1 else 0)))
  | .int n => (floatOfInt n).map (PyFloat.scale k)
  | .float x => .ok (x.scale k)
  | .str _ | .none | .list _ | .dict _ => .error .typeError

/-- `int(round(x))`. -/
def intRound : PyFloat → Except PyError ℤ
  | .nan => .error .valueError
  | .posInf | .negInf => .error .overflowError
  | .fin q => .ok (roundEven q)

end DroneComms.Py
