import DroneComms.Py.Math

/-!
# Real numbers with the special values of floats

A third arithmetic: numbers are exact, as in that of the real numbers, but there are the
two infinities and `nan`, which the operators treat, and with which the comparisons and
the functions of `math` end, as they do for floats.  The tangent of a right angle is
infinite.
-/

namespace DroneComms.Py

/-- A real number, an infinity or `nan`. -/
inductive Extended where
  | nan
  | posInf
  | negInf
  | fin (x : ℝ)

namespace Extended

/-- `-x`. -/
noncomputable def neg : Extended → Extended
  | nan => nan
  | posInf => negInf
  | negInf => posInf
  | fin a => fin (-a)

/-- `x + y`. -/
noncomputable def add : Extended → Extended → Extended
  | fin a, fin b => fin (a + b)
  | nan, _ | _, nan | posInf, negInf | negInf, posInf => nan
  | posInf, _ | _, posInf => posInf
  | negInf, _ | _, negInf => negInf

/-- The sign of a number, with 0 for `nan`. -/
noncomputable def sign : Extended → SignType
  | nan => 0
  | posInf => 1
  | negInf => -1
  | fin a => SignType.sign a

/-- The infinity with a sign, and `nan` for none. -/
def ofSign : SignType → Extended
  | .pos => posInf
  | .neg => negInf
  | .zero => nan

/-- `x * y`. -/
noncomputable def mul : Extended → Extended → Extended
  | fin a, fin b => fin (a * b)
  | x, y => ofSign (x.sign * y.sign)

/-- `x / y` for a `y` other than zero. -/
noncomputable def div : Extended → Extended → Extended
  | fin a, fin b => fin (a / b)
  | nan, _ | _, nan => nan
  | fin _, posInf | fin _, negInf => fin 0
  | _, posInf | _, negInf => nan
  | x, fin b => ofSign (x.sign * SignType.sign b)

/-- `x <= y`. -/
noncomputable def le : Extended → Extended → Bool
  | nan, _ | _, nan => false
  | negInf, _ | _, posInf => true
  | fin a, fin b => decide (a ≤ b)
  | _, _ => false

/-- `x < y`. -/
noncomputable def lt (x y : Extended) : Bool := le x y && !le y x

/-- What scales finite numbers and keeps the special ones. -/
def scaled (f : ℝ → ℝ) : Extended → Extended
  | fin a => fin (f a)
  | x => x

/-- A function that is refused at an infinity. -/
def atFinite (f : ℝ → Extended) : Extended → Except MathError Extended
  | fin a => .ok (f a)
  | nan => .ok nan
  | _ => .error (.python .valueError)

/-- The tangent, with its poles. -/
noncomputable def tan (a : ℝ) : Extended :=
  if Real.cos a = 0 then ofSign (SignType.sign (Real.sin a)) else fin (Real.tan a)

/-- `x % m` for a positive `m`. -/
noncomputable def mod : Extended → ℚ → Extended
  | fin a, m => fin (Arith.mod a m)
  | _, _ => nan

/-- `math.atan`. -/
noncomputable def atan : Extended → Extended
  | fin a => fin (Real.arctan a)
  | nan => nan
  | posInf => fin (Real.pi / 2.0)
  | negInf => fin (-(Real.pi / 2.0))

/-- `math.asin`. -/
noncomputable def asin : Extended → Except MathError Extended
  | fin a => if 1 < |a| then .error (.python .valueError) else .ok (fin (Real.arcsin a))
  | nan => .ok nan
  | _ => .error (.python .valueError)

/-- `math.sqrt`. -/
noncomputable def sqrt (x : Extended) : Except MathError Extended :=
  if lt x (fin 0) then .error (.python .valueError) else .ok (scaled Real.sqrt x)

/-- `x ** 2`. -/
noncomputable def square : Extended → Extended
  | fin a => fin (a ^ 2)
  | nan => nan
  | _ => posInf

noncomputable instance : Arith Extended where
  add := add
  sub x y := x.add y.neg
  mul := mul
  neg := neg
  lit q := fin q
  ofInt n := .ok (fin n)
  div x y := if le y (fin 0) && le (fin 0) y then .error .zeroDivisionError else .ok (x.div y)
  mod := mod
  lt := lt
  le := le
  square x := .ok x.square
  radians := scaled Arith.radians
  degrees := scaled Arith.degrees
  sin := atFinite fun a ↦ fin (Real.sin a)
  cos := atFinite fun a ↦ fin (Real.cos a)
  tan := atFinite tan
  atan := atan
  asin := asin
  sqrt := sqrt

/-! ## Finite numbers -/

@[simp] theorem fin_add (a b : ℝ) : fin a + fin b = fin (a + b) := rfl

@[simp] theorem fin_sub (a b : ℝ) : fin a - fin b = fin (a - b) :=
  congrArg fin (sub_eq_add_neg a b).symm

@[simp] theorem fin_mul (a b : ℝ) : fin a * fin b = fin (a * b) := rfl

@[simp] theorem lit_eq (q : ℚ) : (Arith.lit q : Extended) = fin q := rfl

@[simp] theorem ofInt_eq (n : ℤ) : (Arith.ofInt n : Except MathError Extended) = .ok (fin n) := rfl

@[simp] theorem le_fin (a b : ℝ) : Arith.le (fin a) (fin b) = decide (a ≤ b) := rfl

@[simp] theorem lt_fin (a b : ℝ) : Arith.lt (fin a) (fin b) = decide (a < b) := by
  show (decide (a ≤ b) && !decide (b ≤ a)) = _
  rw [← decide_not, ← Bool.decide_and, decide_eq_decide, lt_iff_le_not_ge]

@[simp] theorem mod_fin (a : ℝ) (m : ℚ) : Arith.mod (fin a) m = fin (Arith.mod a m) := rfl

@[simp] theorem radians_fin (a : ℝ) : Arith.radians (fin a) = fin (Arith.radians a) := rfl

@[simp] theorem degrees_fin (a : ℝ) : Arith.degrees (fin a) = fin (Arith.degrees a) := rfl

@[simp] theorem sin_fin (a : ℝ) : Arith.sin (fin a) = .ok (fin (Real.sin a)) := rfl

@[simp] theorem cos_fin (a : ℝ) : Arith.cos (fin a) = .ok (fin (Real.cos a)) := rfl

@[simp] theorem atan_fin (a : ℝ) : Arith.atan (fin a) = fin (Real.arctan a) := rfl

theorem tan_fin {a : ℝ} (h : Real.cos a ≠ 0) : Arith.tan (fin a) = .ok (fin (Real.tan a)) := by
  show Except.ok (tan a) = _
  rw [tan, if_neg h]

theorem div_fin (a : ℝ) {b : ℝ} (h : b ≠ 0) : Arith.div (fin a) (fin b) = .ok (fin (a / b)) := by
  show (if decide (b ≤ 0) && decide (0 ≤ b) then _ else _) = _
  rw [if_neg]
  · rfl
  · rw [← Bool.decide_and, decide_eq_true_eq]
    exact fun hzero ↦ h (le_antisymm hzero.1 hzero.2)

/-! ## `nan` -/

@[simp] theorem nan_add (x : Extended) : nan + x = nan := by
  cases x <;> rfl

@[simp] theorem add_nan (x : Extended) : x + nan = nan := by
  cases x <;> rfl

@[simp] theorem nan_mul (x : Extended) : nan * x = nan := by
  show mul nan x = nan
  cases x <;> simp [mul, sign, ofSign]

@[simp] theorem mul_nan (x : Extended) : x * nan = nan := by
  show mul x nan = nan
  cases x <;> simp [mul, sign, ofSign]

@[simp] theorem lt_nan (x : Extended) : Arith.lt x nan = false := by
  show (le x nan && !le nan x) = false
  cases x <;> rfl

@[simp] theorem nan_lt (x : Extended) : Arith.lt nan x = false := by
  show (le nan x && !le x nan) = false
  cases x <;> rfl

@[simp] theorem mod_nan (m : ℚ) : Arith.mod nan m = nan := rfl

@[simp] theorem radians_nan : Arith.radians nan = nan := rfl

@[simp] theorem cos_nan : Arith.cos nan = .ok nan := rfl

@[simp] theorem sin_nan : Arith.sin nan = .ok nan := rfl

@[simp] theorem tan_nan : Arith.tan nan = .ok nan := rfl

theorem div_nan (x : Extended) : Arith.div x nan = .ok nan := by
  cases x <;> rfl

end Extended

end DroneComms.Py
