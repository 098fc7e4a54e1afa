import DroneComms.Cv.Geo

/-!
# The distance between two coordinates never raises

`sin` and `cos` raise on infinities, `sqrt` and `asin` outside their domain.  The
differences of coordinates are finite, and what is added up below the root is a
square and a product of cosines of latitudes with a square.
-/

namespace DroneComms.Cv

open Py PyFloat

/-- A float that is not below zero; it may be `nan`. -/
def NotNeg : PyFloat → Prop
  | nan | posInf => True
  | negInf => False
  | fin q => 0 ≤ q

theorem binary64_nonneg {q : ℚ} (h : 0 ≤ q) : 0 ≤ binary64 q := by
  have hround : 0 ≤ roundEven (q / ulp q) := by
    have hfloor : 0 ≤ ⌊q / ulp q⌋ := Int.floor_nonneg.mpr (div_nonneg h (ulp_pos q).le)
    unfold roundEven
    dsimp only
    split_ifs <;> omega
  exact mul_nonneg (by exact_mod_cast hround) (ulp_pos q).le

theorem NotNeg.ofRat {q : ℚ} (h : 0 ≤ q) : NotNeg (ofRat q) := by
  have hbin := binary64_nonneg h
  have hlow : ¬ binary64 q ≤ -2 ^ 1024 := not_le.mpr
    ((neg_lt_zero.mpr (pow_pos two_pos 1024)).trans_le hbin)
  unfold PyFloat.ofRat
  by_cases hhigh : 2 ^ 1024 ≤ binary64 q
  · rw [if_pos hhigh]
    trivial
  · rw [if_neg hhigh, if_neg hlow]
    exact hbin

theorem NotNeg.add {x y : PyFloat} (hx : NotNeg x) (hy : NotNeg y) : NotNeg (x.add y) := by
  cases x <;> cases y <;> try trivial
  exact NotNeg.ofRat (add_nonneg hx hy)

theorem NotNeg.sign_nonneg {x : PyFloat} (h : NotNeg x) : x.sign = 0 ∨ x.sign = 1 := by
  cases x with
  | nan => exact .inl rfl
  | posInf => exact .inr rfl
  | negInf => cases h
  | fin q =>
      rcases (show 0 ≤ q from h).eq_or_lt with h | h
      · exact .inl (sign_eq_zero_iff.mpr h.symm)
      · exact .inr (sign_eq_one_iff.mpr h)

theorem NotNeg.ofSign {s : SignType} (h : s = 0 ∨ s = 1) : NotNeg (ofSign s) := by
  rcases h with rfl | rfl <;> trivial

theorem NotNeg.mul {x y : PyFloat} (hx : NotNeg x) (hy : NotNeg y) : NotNeg (x.mul y) := by
  have hsign : NotNeg (PyFloat.ofSign (x.sign * y.sign)) := by
    apply NotNeg.ofSign
    rcases hx.sign_nonneg with h | h <;> rcases hy.sign_nonneg with h' | h' <;> simp [h, h']
  cases x <;> cases y <;> first | exact NotNeg.ofRat (mul_nonneg hx hy) | exact hsign

/-- Below `2 ^ k` a float of an exact result is finite, and below `2 ^ (k + 1)`. -/
theorem exists_ofRat {q : ℚ} {k : ℕ} (hk : 1 ≤ k) (hk' : k ≤ 1000) (h : |q| < 2 ^ k) :
    ofRat q = fin (binary64 q) ∧ |binary64 q| < 2 ^ (k + 1) := by
  have hulp : ulp q ≤ 2 ^ k := by
    have hle := ulp_le (k := k) (by omega) (by simpa using h)
    refine hle.trans ?_
    rw [← zpow_natCast]
    exact zpow_le_zpow_right₀ (by norm_num) (by omega)
  have hsub := abs_binary64_sub_le q
  have hbound : |binary64 q| < 2 ^ (k + 1) := by
    rw [pow_succ]
    calc |binary64 q| ≤ |binary64 q - q| + |q| := by
          simpa using abs_add_le (binary64 q - q) q
      _ < 2 ^ k * 2 := by linarith [pow_pos (two_pos : (0 : ℚ) < 2) k]
  exact ⟨ofRat_eq_fin (hbound.trans_le (pow_le_pow_right₀ (by norm_num) (by omega))), hbound⟩

variable [Libm]

theorem lit_natCast (n : ℕ) (h : n < 2 ^ 53) : (Arith.lit n : PyFloat) = fin n := by
  have hself : binary64 n = n :=
    binary64_eq_self (k := 53) (m := n) (by norm_num) (by simpa using mod_cast h) (by simp)
  have hlit := ofRat_eq_fin (q := n) (by
    rw [hself, Nat.abs_cast]
    calc (n : ℚ) < 2 ^ 53 := by exact_mod_cast h
      _ ≤ 2 ^ 1024 := pow_le_pow_right₀ (by norm_num) (by norm_num))
  rw [hself] at hlit
  exact hlit

theorem sub_fin (a b : ℚ) : (fin a - fin b : PyFloat) = ofRat (a + -b) := rfl

theorem radians_fin (a : ℚ) : Arith.radians (fin a) = ofRat (a * degToRad) := rfl

theorem div_fin (a : ℚ) {b : ℚ} (hb : b ≠ 0) :
    Arith.div (fin a) (fin b) = (.ok (ofRat (a / b)) : Except MathError PyFloat) :=
  if_neg fun h ↦ hb (PyFloat.fin.inj h)

/-- Half a difference of angles is finite. -/
theorem exists_half {a b : ℚ} (ha : |a| ≤ 180) (hb : |b| ≤ 180) : ∃ q,
    Arith.div (Arith.radians (fin b - fin a)) (Arith.lit 2) =
      (.ok (fin q) : Except MathError PyFloat) := by
  have hdiff : |b + -a| < 2 ^ 9 := by
    rw [abs_lt]
    obtain ⟨ha₁, ha₂⟩ := abs_le.mp ha
    obtain ⟨hb₁, hb₂⟩ := abs_le.mp hb
    constructor <;> linarith
  obtain ⟨hsub, hsub'⟩ := exists_ofRat (by norm_num) (by norm_num) hdiff
  have hdeg : |binary64 (b + -a) * degToRad| < 2 ^ 10 := by
    have hunit : |degToRad| ≤ 1 := by norm_num [degToRad, abs_le]
    rw [abs_mul]
    exact (mul_le_of_le_one_right (abs_nonneg _) hunit).trans_lt hsub'
  obtain ⟨hrad, hrad'⟩ := exists_ofRat (by norm_num) (by norm_num) hdeg
  have hhalf : |binary64 (binary64 (b + -a) * degToRad) / 2| < 2 ^ 11 := by
    rw [abs_div, abs_two]
    exact (half_le_self (abs_nonneg _)).trans_lt hrad'
  obtain ⟨hdiv, -⟩ := exists_ofRat (by norm_num) (by norm_num) hhalf
  have htwo : (Arith.lit 2 : PyFloat) = fin 2 := lit_natCast 2 (by norm_num)
  rw [sub_fin, hsub, radians_fin, hrad, htwo, div_fin _ two_ne_zero, hdiv]
  exact ⟨_, rfl⟩

/-- The square of a sine is finite and not negative. -/
theorem exists_square_sin (q : ℚ) : ∃ s r, NotNeg r ∧ Arith.sin (fin q) = .ok s ∧
    Arith.square s = (.ok r : Except MathError PyFloat) := by
  obtain ⟨r, hr, hsq⟩ := Libm.square_of_abs_le _ (Libm.abs_sin_le q)
  refine ⟨fin (Libm.sin q), fin r, hr, rfl, ?_⟩
  change (if (Libm.square (Libm.sin q)).isFinite then _ else _) = _
  rw [hsq]
  rfl

/-- A latitude in radians is a float. -/
theorem radians_latitude {a : ℚ} (ha : |a| ≤ 90) :
    (Arith.radians (fin a) : PyFloat) = fin (binary64 (a * degToRad)) := by
  have hdeg : |a * degToRad| < 2 ^ 7 := by
    have hunit : |degToRad| ≤ 1 := by norm_num [degToRad, abs_le]
    rw [abs_mul]
    exact (mul_le_of_le_one_right (abs_nonneg _) hunit).trans_lt (by linarith)
  obtain ⟨hrad, -⟩ := exists_ofRat (by norm_num) (by norm_num) hdeg
  rw [radians_fin, hrad]

theorem exists_cos {a : ℚ} (ha : |a| ≤ 90) :
    ∃ r, NotNeg r ∧ Arith.cos (Arith.radians (fin a)) = (.ok r : Except MathError PyFloat) := by
  rw [radians_latitude ha]
  exact ⟨fin (Libm.cos (binary64 (a * degToRad))), Libm.cos_latitude_nonneg a ha, rfl⟩

theorem exists_sqrt {x : PyFloat} (h : NotNeg x) :
    ∃ r, NotNeg r ∧ Arith.sqrt x = (.ok r : Except MathError PyFloat) := by
  cases x with
  | nan => exact ⟨nan, trivial, rfl⟩
  | posInf => exact ⟨posInf, trivial, rfl⟩
  | negInf => cases h
  | fin q => exact ⟨fin (Libm.sqrt q), Libm.sqrt_nonneg q h, if_neg (not_lt.mpr h)⟩

theorem asin_fin {q : ℚ} (h : |q| ≤ 1) :
    Arith.asin (fin q) = (.ok (fin (Libm.asin q)) : Except MathError PyFloat) := by
  change (if 1 < |q| then _ else _) = _
  rw [if_neg (not_lt.mpr h)]

theorem exists_asin {x : PyFloat} (h : NotNeg x) :
    ∃ r, Arith.asin (Arith.min (Arith.lit 1) x) = (.ok r : Except MathError PyFloat) := by
  have hone : (Arith.lit 1 : PyFloat) = fin 1 := lit_natCast 1 (by norm_num)
  rw [Arith.min, hone]
  cases hlt : Arith.lt x (fin 1) with
  | false => exact ⟨_, asin_fin (by norm_num)⟩
  | true =>
      cases x with
      | nan => cases hlt
      | posInf => cases hlt
      | negInf => cases h
      | fin q =>
          have hq : q < 1 := by simpa using show PyFloat.lt (fin q) (fin 1) = true from hlt
          have hq' : 0 ≤ q := h
          exact ⟨_, asin_fin ((abs_of_nonneg hq').trans_le hq.le)⟩

/-- The distance between two coordinates. -/
theorem groundDistanceM_ok {lat₁ lon₁ lat₂ lon₂ : ℚ} (h₁ : |lat₁| ≤ 90) (h₂ : |lon₁| ≤ 180)
    (h₃ : |lat₂| ≤ 90) (h₄ : |lon₂| ≤ 180) :
    ∃ r, groundDistanceM (fin lat₁) (fin lon₁) (fin lat₂) (fin lon₂) = .ok r := by
  obtain ⟨p, hp⟩ := exists_half (h₁.trans (by norm_num)) (h₃.trans (by norm_num))
  obtain ⟨l, hl⟩ := exists_half h₂ h₄
  obtain ⟨sp, rp, hrp, hsp, hsp'⟩ := exists_square_sin p
  obtain ⟨sl, rl, hrl, hsl, hsl'⟩ := exists_square_sin l
  obtain ⟨c₁, hc₁, hcos₁⟩ := exists_cos h₁
  obtain ⟨c₂, hc₂, hcos₂⟩ := exists_cos h₃
  have hsum : NotNeg (rp + c₁ * c₂ * rl) := hrp.add ((hc₁.mul hc₂).mul hrl)
  obtain ⟨root, hroot, hsqrt⟩ := exists_sqrt hsum
  obtain ⟨r, hr⟩ := exists_asin hroot
  unfold groundDistanceM
  refine ⟨_, Py.bind_eq_ok.mpr ⟨_, hp, Py.bind_eq_ok.mpr ⟨_, hsp, Py.bind_eq_ok.mpr ⟨_, hsp',
    Py.bind_eq_ok.mpr ⟨_, hcos₁, Py.bind_eq_ok.mpr ⟨_, hcos₂, Py.bind_eq_ok.mpr ⟨_, hl,
      Py.bind_eq_ok.mpr ⟨_, hsl, Py.bind_eq_ok.mpr ⟨_, hsl', Py.bind_eq_ok.mpr ⟨_, hsqrt,
        Py.bind_eq_ok.mpr ⟨_, hr, rfl⟩⟩⟩⟩⟩⟩⟩⟩⟩⟩⟩

end DroneComms.Cv
