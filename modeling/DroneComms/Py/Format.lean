import DroneComms.Py.FloatOrder
import Mathlib.Data.List.TakeWhile

/-!
# Floats with a fixed number of decimals

`f"{x:.8f}"` and its like: the exact value of a float, rounded to a number of decimals with
ties to even.  A float has no negative zero here, but what rounds to zero keeps its sign.
-/

namespace DroneComms.Py

/-- The nearest multiple of the last decimal place, as a number of units. -/
def units (d : ℕ) (q : ℚ) : ℤ := roundEven (q * 10 ^ d)

/-- What is left of a float with `d` decimals. -/
def PyFloat.rounded (d : ℕ) : PyFloat → PyFloat
  | .fin q => .fin (units d q / 10 ^ d)
  | x => x

/-- A number of units in the last decimal place. -/
def unsignedChars (d m : ℕ) : List Char :=
  Nat.toDigits 10 (m / 10 ^ d) ++ if d = 0 then [] else '.' :: Decimal.pad d (m % 10 ^ d)

/-- `f"{x:.df}"` -/
def fixedChars (d : ℕ) : PyFloat → List Char
  | .nan => ['n', 'a', 'n']
  | .posInf => ['i', 'n', 'f']
  | .negInf => ['-', 'i', 'n', 'f']
  | .fin q => (if q < 0 then ['-'] else []) ++ unsignedChars d (units d |q|).toNat

/-- Read a numeral without a sign. -/
def readUnsigned (cs : List Char) : Option ℚ :=
  match cs.dropWhile (· ≠ '.') with
  | '.' :: frac => do
      let whole ← Decimal.digits (cs.takeWhile (· ≠ '.'))
      let part ← Decimal.digits frac
      some (whole + part / 10 ^ frac.length)
  | _ => (Decimal.digits cs).map fun n ↦ (n : ℚ)

/-- Read a number. -/
def readNumber : List Char → Option PyFloat
  | ['n', 'a', 'n'] => some .nan
  | ['i', 'n', 'f'] => some .posInf
  | ['-', 'i', 'n', 'f'] => some .negInf
  | '-' :: cs => (readUnsigned cs).map fun q ↦ .fin (-q)
  | cs => (readUnsigned cs).map .fin

/-! ## Rounding -/

theorem units_neg (d : ℕ) (q : ℚ) : units d (-q) = -units d q := by
  rw [units, units, neg_mul, roundEven_neg]

theorem units_nonneg (d : ℕ) {q : ℚ} (hq : 0 ≤ q) : 0 ≤ units d q := by
  have hround := (abs_le.mp (abs_roundEven_sub_le (q * 10 ^ d))).1
  have hpos : (0 : ℚ) ≤ q * 10 ^ d := by positivity
  have hgt : (-1 : ℚ) < (units d q : ℚ) := by
    unfold units
    linarith
  have hgt' : (-1 : ℤ) < units d q := by exact_mod_cast hgt
  omega

/-- Half a unit in the last place is the most that rounding moves a number. -/
theorem abs_units_sub_le (d : ℕ) (q : ℚ) :
    |(units d q : ℚ) / 10 ^ d - q| ≤ 1 / (2 * 10 ^ d) := by
  have hpos : (0 : ℚ) < 10 ^ d := by positivity
  have hround := abs_roundEven_sub_le (q * 10 ^ d)
  have heq : (units d q : ℚ) / 10 ^ d - q = (units d q - q * 10 ^ d) / 10 ^ d := by
    field_simp
  rw [heq, abs_div, abs_of_pos hpos, div_le_div_iff₀ hpos (by positivity)]
  calc |(units d q : ℚ) - q * 10 ^ d| * (2 * 10 ^ d) ≤ 1 / 2 * (2 * 10 ^ d) :=
        mul_le_mul_of_nonneg_right hround (by positivity)
    _ = 1 * 10 ^ d := by ring

/-- A float and what is left of it with `d` decimals. -/
inductive PyFloat.Near (d : ℕ) : PyFloat → PyFloat → Prop
  | fin {q r : ℚ} (h : |r - q| ≤ 1 / (2 * 10 ^ d)) : Near d (.fin q) (.fin r)
  | special {x : PyFloat} (h : x.isFinite = false) : Near d x x

theorem PyFloat.near_rounded (d : ℕ) (x : PyFloat) : Near d x (x.rounded d) := by
  cases x with
  | fin q => exact .fin (abs_units_sub_le d q)
  | nan => exact .special rfl
  | posInf => exact .special rfl
  | negInf => exact .special rfl

/-! ## Reading back -/

theorem isDigit_ne_dot {c : Char} (h : c.isDigit = true) : c ≠ '.' := by
  rintro rfl
  cases h

theorem readUnsigned_unsignedChars (d m : ℕ) :
    readUnsigned (unsignedChars d m) = some ((m : ℚ) / 10 ^ d) := by
  have hwhole : ∀ c ∈ Nat.toDigits 10 (m / 10 ^ d), decide (c ≠ '.') = true := by
    intro c hc
    exact decide_eq_true (isDigit_ne_dot (Decimal.isDigit_of_mem_toDigits hc))
  unfold unsignedChars readUnsigned
  split_ifs with hd
  · have hall : ∀ c ∈ Nat.toDigits 10 (m / 10 ^ d) ++ [], decide (c ≠ '.') = true := by
      rwa [List.append_nil]
    rw [List.dropWhile_eq_nil_iff.mpr hall, List.append_nil]
    simp [hd]
  · rw [List.dropWhile_append_of_pos hwhole, List.takeWhile_append_of_pos hwhole]
    have hpos : 0 < d := Nat.pos_of_ne_zero hd
    have hlt : m % 10 ^ d < 10 ^ d := Nat.mod_lt _ (by positivity)
    have hmod : ((m / 10 ^ d : ℕ) : ℚ) + ((m % 10 ^ d : ℕ) : ℚ) / 10 ^ d = (m : ℚ) / 10 ^ d := by
      have hdiv : (m : ℚ) = ((10 ^ d * (m / 10 ^ d) + m % 10 ^ d : ℕ) : ℚ) := by
        rw [Nat.div_add_mod]
      rw [hdiv]
      push_cast
      field_simp
    simp [Decimal.length_pad hpos hlt, hmod]

theorem unsignedChars_cons (d m : ℕ) : ∃ c cs, unsignedChars d m = c :: cs ∧ c.isDigit = true := by
  obtain ⟨c, cs, hcs⟩ := List.exists_cons_of_ne_nil (Nat.toDigits_ne_nil (b := 10) (n := m / 10 ^ d))
  refine ⟨c, cs ++ if d = 0 then [] else '.' :: Decimal.pad d (m % 10 ^ d), ?_, ?_⟩
  · rw [unsignedChars, hcs, List.cons_append]
  · exact Decimal.isDigit_of_mem_toDigits (n := m / 10 ^ d) (by rw [hcs]; exact List.mem_cons_self)

/-- A text that begins with a digit, with or without a sign. -/
theorem readNumber_of_isDigit {c : Char} (hc : c.isDigit = true) (cs : List Char) :
    readNumber (c :: cs) = (readUnsigned (c :: cs)).map .fin ∧
      readNumber ('-' :: c :: cs) = (readUnsigned (c :: cs)).map fun q ↦ .fin (-q) := by
  have hn : c ≠ 'n' := by
    rintro rfl
    cases hc
  have hi : c ≠ 'i' := by
    rintro rfl
    cases hc
  have hminus : c ≠ '-' := by
    rintro rfl
    cases hc
  constructor
  · unfold readNumber
    split <;> simp_all
  · unfold readNumber
    split <;> simp_all

/-- Reading a number with a fixed number of decimals returns the rounded number. -/
theorem readNumber_fixedChars (d : ℕ) (x : PyFloat) :
    readNumber (fixedChars d x) = some (x.rounded d) := by
  cases x with
  | nan => rfl
  | posInf => rfl
  | negInf => rfl
  | fin q =>
      obtain ⟨c, cs, hcs, hc⟩ := unsignedChars_cons d (units d |q|).toNat
      have hread := readUnsigned_unsignedChars d (units d |q|).toNat
      have hcast : (((units d |q|).toNat : ℕ) : ℚ) = (units d |q| : ℤ) := by
        exact_mod_cast Int.toNat_of_nonneg (units_nonneg d (abs_nonneg q))
      rw [hcs, hcast] at hread
      rw [fixedChars, hcs, PyFloat.rounded]
      split_ifs with hneg
      · rw [List.singleton_append, (readNumber_of_isDigit hc cs).2, hread, abs_of_neg hneg,
          units_neg]
        push_cast
        rw [Option.map_some, neg_div, neg_neg]
      · rw [List.nil_append, (readNumber_of_isDigit hc cs).1, hread,
          abs_of_nonneg (not_lt.mp hneg), Option.map_some]

/-- The characters of a number. -/
theorem mem_fixedChars {d : ℕ} {x : PyFloat} {c : Char} (h : c ∈ fixedChars d x) :
    c.isDigit = true ∨ c ∈ ['-', '.', 'n', 'a', 'i', 'f'] := by
  cases x with
  | nan =>
      have hsub : ['n', 'a', 'n'] ⊆ ['-', '.', 'n', 'a', 'i', 'f'] := by simp
      exact .inr (hsub h)
  | posInf =>
      have hsub : ['i', 'n', 'f'] ⊆ ['-', '.', 'n', 'a', 'i', 'f'] := by simp
      exact .inr (hsub h)
  | negInf =>
      have hsub : ['-', 'i', 'n', 'f'] ⊆ ['-', '.', 'n', 'a', 'i', 'f'] := by simp
      exact .inr (hsub h)
  | fin q =>
      rw [fixedChars, unsignedChars] at h
      rcases List.mem_append.mp h with h | h
      · split_ifs at h
        · rw [List.mem_singleton.mp h]
          exact .inr List.mem_cons_self
        · cases h
      · rcases List.mem_append.mp h with h | h
        · exact .inl (Decimal.isDigit_of_mem_toDigits h)
        · split_ifs at h
          · cases h
          · rcases List.mem_cons.mp h with rfl | h
            · exact .inr (by simp)
            · exact .inl (Decimal.isDigit_of_mem_pad h)

/-- What neither a digit nor a character of a special value is stands in no number. -/
theorem not_mem_fixedChars {c : Char} (hdigit : c.isDigit = false)
    (hspecial : c ∉ ['-', '.', 'n', 'a', 'i', 'f']) (d : ℕ) (x : PyFloat) : c ∉ fixedChars d x := by
  intro h
  rcases mem_fixedChars h with h | h
  · rw [hdigit] at h
    cases h
  · exact hspecial h

/-- The characters of an integer. -/
theorem not_mem_signed {c : Char} (hdigit : c.isDigit = false) (hminus : c ≠ '-') (n : ℤ) :
    c ∉ Decimal.signed n := by
  have hdigits (k : ℕ) : c ∉ Nat.toDigits 10 k := by
    intro h
    have hmem := Decimal.isDigit_of_mem_toDigits h
    rw [hdigit] at hmem
    cases hmem
  cases n with
  | ofNat k => exact hdigits k
  | negSucc k => exact List.not_mem_cons_of_ne_of_not_mem hminus (hdigits (k + 1))

end DroneComms.Py
