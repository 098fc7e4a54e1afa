import DroneComms.Py.Rounding

/-!
# Rounding across a bound

Ties go to the even neighbour, so what rounds to an even bound at most is at most
half a unit above it.
-/

namespace DroneComms.Py

/-- A tie is rounded to an even integer. -/
theorem roundEven_tie {q : ℚ} (h : |(roundEven q : ℚ) - q| = 1 / 2) : roundEven q % 2 = 0 := by
  have hle := Int.floor_le q
  have hlt := Int.lt_floor_add_one q
  unfold roundEven at h ⊢
  dsimp only at h ⊢
  split_ifs at h ⊢ with hlow hhigh heven
  · rw [abs_sub_comm, abs_of_nonneg (by linarith)] at h
    exact absurd h hlow.ne
  · push_cast at h
    rw [abs_of_nonneg (by linarith)] at h
    linarith
  · exact heven
  · omega

/-- A number rounds to at most an even bound if it is at most one half above it. -/
theorem abs_roundEven_le_iff {q : ℚ} {b : ℤ} (hb : b % 2 = 0) :
    |roundEven q| ≤ b ↔ |q| ≤ b + 1 / 2 := by
  have hround := abs_roundEven_sub_le q
  constructor
  · intro h
    have hcast : |(roundEven q : ℚ)| ≤ b := by exact_mod_cast h
    have hsum := abs_add_le (roundEven q : ℚ) (q - roundEven q)
    rw [add_sub_cancel, abs_sub_comm] at hsum
    linarith
  · intro h
    by_contra hgt
    have hnext : b + 1 ≤ |roundEven q| := by omega
    have hcast : (b : ℚ) + 1 ≤ |(roundEven q : ℚ)| := by exact_mod_cast hnext
    have hsum := abs_add_le q ((roundEven q : ℚ) - q)
    rw [add_sub_cancel] at hsum
    -- only the tie above the bound is left, and it is rounded down
    have heven := roundEven_tie (le_antisymm hround (by linarith))
    have hexact : |roundEven q| ≤ b + 1 := by
      have : |(roundEven q : ℚ)| ≤ b + 1 := by linarith
      exact_mod_cast this
    rcases abs_choice (roundEven q) with habs | habs <;> omega

/-! ## Binary64 -/

/-- The unit in the last place in a binade. -/
theorem ulp_eq {q : ℚ} {e : ℤ} (he : -1022 ≤ e) (hlow : 2 ^ e ≤ |q|) (hhigh : |q| < 2 ^ (e + 1)) :
    ulp q = 2 ^ (e - 52) := by
  have hpos : 0 < |q| := lt_of_lt_of_le (zpow_pos (by norm_num) e) hlow
  have hlog : Int.log 2 |q| = e := by
    have hle := (Int.zpow_le_iff_le_log (b := 2) (by norm_num) hpos).mp hlow
    have hlt := (Int.lt_zpow_iff_log_lt (b := 2) (by norm_num) hpos).mp hhigh
    omega
  rw [ulp, hlog, max_eq_left (by omega)]

/-- From one on a unit in the last place is small beside the number. -/
theorem ulp_le_abs {q : ℚ} (h : 1 ≤ |q|) : ulp q ≤ |q| * 2 ^ (-52 : ℤ) := by
  have hpos : 0 < |q| := lt_of_lt_of_le one_pos h
  have hlog : 0 ≤ Int.log 2 |q| :=
    (Int.zpow_le_iff_le_log (b := 2) (by norm_num) hpos).mp (by simpa using h)
  have hself : (2 : ℚ) ^ Int.log 2 |q| ≤ |q| := Int.zpow_log_le_self (by norm_num) hpos
  rw [ulp, max_eq_left (by omega), sub_eq_add_neg, zpow_add₀ (by norm_num)]
  exact mul_le_mul_of_nonneg_right hself (zpow_nonneg (by norm_num) _)

/-- A number rounds to at most a binary64 number with an even significand if it is at most half
a unit above it. -/
theorem abs_binary64_le_iff {q c : ℚ} {e m : ℤ} (he : 1 ≤ e) (he' : e ≤ 51)
    (hc : c = m * 2 ^ (e - 52)) (hm : m % 2 = 0) (hlow : 2 ^ e + 1 ≤ c)
    (hhigh : c + 1 ≤ 2 ^ (e + 1)) : |binary64 q| ≤ c ↔ |q| ≤ c + 2 ^ (e - 53) := by
  have hround := abs_binary64_sub_le q
  have hhalf : (2 : ℚ) ^ (e - 52) / 2 = 2 ^ (e - 53) := by
    rw [show e - 52 = e - 53 + 1 by ring, zpow_add_one₀ (by norm_num)]
    ring
  have hunit : (2 : ℚ) ^ (e - 53) ≤ 1 / 2 := by
    calc (2 : ℚ) ^ (e - 53) ≤ 2 ^ (-1 : ℤ) := zpow_le_zpow_right₀ (by norm_num) (by omega)
      _ = 1 / 2 := by norm_num
  have hpos : (0 : ℚ) < 2 ^ (e - 53) := zpow_pos (by norm_num) _
  rcases lt_or_ge |q| (2 ^ e) with hbelow | habove
  · refine iff_of_true ?_ (by linarith)
    have hulp := ulp_le he hbelow
    have hsum := abs_add_le (binary64 q - q) q
    rw [sub_add_cancel] at hsum
    linarith
  rcases lt_or_ge |q| (2 ^ (e + 1)) with hinside | hbeyond
  · have hulp := ulp_eq (by omega) habove hinside
    have hulppos : (0 : ℚ) < 2 ^ (e - 52) := zpow_pos (by norm_num) _
    rw [binary64, hulp, abs_mul, abs_of_pos hulppos, hc, mul_le_mul_iff_of_pos_right hulppos]
    have hcast : |(roundEven (q / 2 ^ (e - 52)) : ℚ)| ≤ m ↔
        |roundEven (q / 2 ^ (e - 52))| ≤ m := by exact_mod_cast Iff.rfl
    rw [hcast, abs_roundEven_le_iff hm, abs_div, abs_of_pos hulppos, div_le_iff₀ hulppos, add_mul,
      one_div, inv_mul_eq_div, hhalf]
  · refine iff_of_false ?_ (by linarith)
    have hone : 1 ≤ |q| := by linarith [zpow_pos (by norm_num : (0 : ℚ) < 2) e]
    have hulp := ulp_le_abs hone
    have hsum := abs_add_le (binary64 q) (q - binary64 q)
    rw [add_sub_cancel, abs_sub_comm q] at hsum
    have hsmall : (2 : ℚ) ^ (e + 1) * 2 ^ (-52 : ℤ) ≤ 1 := by
      rw [← zpow_add₀ (by norm_num)]
      exact zpow_le_one_of_nonpos₀ (by norm_num) (by omega)
    have hleft : (0 : ℚ) ≤ 1 - 2 ^ (-52 : ℤ) / 2 := by norm_num
    generalize (2 : ℚ) ^ (-52 : ℤ) = δ at hulp hsmall hleft
    have hscaled := mul_le_mul_of_nonneg_right hbeyond hleft
    rw [not_le]
    calc c ≤ 2 ^ (e + 1) - 1 := by linarith
      _ < 2 ^ (e + 1) * (1 - δ / 2) := by linarith
      _ ≤ |q| * (1 - δ / 2) := hscaled
      _ ≤ |binary64 q| := by linarith

end DroneComms.Py
