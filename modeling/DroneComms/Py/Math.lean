import Mathlib.Analysis.SpecialFunctions.Trigonometric.Arctan
import DroneComms.Py.Arithmetic

/-!
# The `math` module

The geometry of the repository is written with the operators of floats and the
functions of `math`.  It is modelled over any arithmetic that has them.  There are
two: binary64, with the functions of the platform as a parameter, and the real
numbers, in which nothing is rounded and nothing overflows.
-/

namespace DroneComms.Py

/-- What an arithmetic operation raises. -/
inductive MathError where
  | python (e : PyError)
  | zeroDivisionError
deriving DecidableEq, Repr

/-- An arithmetic: the operators, and the functions of `math`. -/
class Arith (F : Type) extends Add F, Sub F, Mul F, Neg F where
  /-- A literal. -/
  lit : ℚ → F
  /-- An integer in an expression with floats. -/
  ofInt : ℤ → Except MathError F
  /-- `x / y`. -/
  div : F → F → Except MathError F
  /-- `x % m` for a positive literal. -/
  mod : F → ℚ → F
  lt : F → F → Bool
  le : F → F → Bool
  /-- `x ** 2`. -/
  square : F → Except MathError F
  radians : F → F
  degrees : F → F
  sin : F → Except MathError F
  cos : F → Except MathError F
  tan : F → Except MathError F
  atan : F → F
  asin : F → Except MathError F
  sqrt : F → Except MathError F

namespace Arith

variable {F : Type} [Arith F]

/-- `x == 0`. -/
def isZero (x : F) : Bool := le x (lit 0) && le (lit 0) x

/-- `abs(x)`. -/
def abs (x : F) : F := if lt x (lit 0) then -x else x

/-- `math.copysign(m, x)` for a positive `m` and an `x` other than zero. -/
def copysign (m x : F) : F := if lt x (lit 0) then -m else m

/-- `min(x, y)`. -/
def min (x y : F) : F := if lt y x then y else x

/-- `max(x, y)`. -/
def max (x y : F) : F := if lt x y then y else x

end Arith

/-! ## The real numbers -/

/-- Real division by zero, and the tangent of a right angle, are zero: with them
`h / tan θ` has at a right angle its limit there. -/
noncomputable instance : Arith ℝ where
  lit q := q
  ofInt n := .ok n
  div x y := .ok (x / y)
  mod x m := x - m * ⌊x / m⌋
  lt x y := decide (x < y)
  le x y := decide (x ≤ y)
  square x := .ok (x ^ 2)
  radians x := x * (Real.pi / 180)
  degrees x := x * (180 / Real.pi)
  sin x := .ok (Real.sin x)
  cos x := .ok (Real.cos x)
  tan x := .ok (Real.tan x)
  atan := Real.arctan
  asin x := .ok (Real.arcsin x)
  sqrt x := .ok (Real.sqrt x)

namespace Arith

@[simp] theorem real_lit (q : ℚ) : (lit q : ℝ) = q := rfl

@[simp] theorem real_ofInt (n : ℤ) : (ofInt n : Except MathError ℝ) = .ok n := rfl

@[simp] theorem real_div (x y : ℝ) : div x y = .ok (x / y) := rfl

@[simp] theorem real_lt (x y : ℝ) : lt x y = decide (x < y) := rfl

@[simp] theorem real_le (x y : ℝ) : le x y = decide (x ≤ y) := rfl

@[simp] theorem real_sin (x : ℝ) : sin x = .ok (Real.sin x) := rfl

@[simp] theorem real_cos (x : ℝ) : cos x = .ok (Real.cos x) := rfl

@[simp] theorem real_tan (x : ℝ) : tan x = .ok (Real.tan x) := rfl

@[simp] theorem real_atan (x : ℝ) : atan x = Real.arctan x := rfl

theorem real_radians (x : ℝ) : radians x = x * (Real.pi / 180) := rfl

theorem real_degrees (x : ℝ) : degrees x = x * (180 / Real.pi) := rfl

@[simp] theorem radians_degrees (x : ℝ) : radians (degrees x) = x := by
  rw [real_radians, real_degrees]
  field_simp

@[simp] theorem isZero_zero : isZero (0 : ℝ) = true := by
  simp [isZero]

theorem radians_add (x y : ℝ) : radians (x + y) = radians x + radians y := add_mul _ _ _

/-- Whole turns do not change a direction. -/
theorem cos_radians_mod (x : ℝ) : Real.cos (radians (mod x 360)) = Real.cos (radians x) := by
  rw [show radians (mod x 360) = radians x - ⌊x / 360⌋ * (2 * Real.pi) by
    simp only [real_radians, mod]
    push_cast
    ring]
  exact Real.cos_sub_int_mul_two_pi _ _

theorem sin_radians_mod (x : ℝ) : Real.sin (radians (mod x 360)) = Real.sin (radians x) := by
  rw [show radians (mod x 360) = radians x - ⌊x / 360⌋ * (2 * Real.pi) by
    simp only [real_radians, mod]
    push_cast
    ring]
  exact Real.sin_sub_int_mul_two_pi _ _

end Arith

/-! ## Binary64 -/

/-- The elementary functions of the platform, on finite arguments. -/
class Libm where
  sin : ℚ → ℚ
  cos : ℚ → ℚ
  tan : ℚ → ℚ
  atan : ℚ → ℚ
  /-- On `[-1, 1]`. -/
  asin : ℚ → ℚ
  /-- On numbers that are not negative. -/
  sqrt : ℚ → ℚ
  /-- `pow(x, 2.0)`. -/
  square : ℚ → PyFloat
  abs_sin_le : ∀ q, |sin q| ≤ 1
  sqrt_nonneg : ∀ q, 0 ≤ q → 0 ≤ sqrt q
  square_of_abs_le : ∀ q, |q| ≤ 1 → ∃ r, 0 ≤ r ∧ square q = .fin r
  /-- The cosine of a latitude, computed from degrees. -/
  cos_latitude_nonneg : ∀ q, |q| ≤ 90 →
    0 ≤ cos (binary64 (q * (5030569068109113 / 2 ^ 58)))

namespace PyFloat

/-- `math.pi / 180.0`, as a float. -/
def degToRad : ℚ := 5030569068109113 / 2 ^ 58

/-- `180.0 / math.pi`, as a float. -/
def radToDeg : ℚ := 8063664102031864 / 2 ^ 47

/-- `math.pi / 2`, as a float. -/
def halfPi : ℚ := 7074237752028440 / 2 ^ 52

/-- A function that the platform refuses to take at an infinity. -/
def atFinite (f : ℚ → ℚ) : PyFloat → Except MathError PyFloat
  | fin q => .ok (.fin (f q))
  | nan => .ok .nan
  | _ => .error (.python .valueError)

/-- `x % m` for a positive `m`. -/
def mod (x : PyFloat) (m : ℚ) : PyFloat :=
  match x with
  | fin q =>
      let r := q - m * truncate (q / m)
      if r < 0 then ofRat (r + m) else fin r
  | _ => nan

variable [Libm]

/-- `math.atan`. -/
def atan : PyFloat → PyFloat
  | fin q => fin (Libm.atan q)
  | nan => nan
  | posInf => fin halfPi
  | negInf => fin (-halfPi)

/-- `math.asin`. -/
def asin : PyFloat → Except MathError PyFloat
  | fin q => if 1 < |q| then .error (.python .valueError) else .ok (.fin (Libm.asin q))
  | nan => .ok .nan
  | _ => .error (.python .valueError)

/-- `math.sqrt`. -/
def sqrt : PyFloat → Except MathError PyFloat
  | fin q => if q < 0 then .error (.python .valueError) else .ok (.fin (Libm.sqrt q))
  | nan => .ok .nan
  | posInf => .ok .posInf
  | negInf => .error (.python .valueError)

/-- `x ** 2`. -/
def square : PyFloat → Except MathError PyFloat
  | fin q => if (Libm.square q).isFinite then .ok (Libm.square q) else .error (.python .overflowError)
  | nan => .ok .nan
  | _ => .ok .posInf

end PyFloat

instance [Libm] : Arith PyFloat where
  add := PyFloat.add
  sub := PyFloat.sub
  mul := PyFloat.mul
  neg := PyFloat.neg
  lit := PyFloat.ofRat
  ofInt n := (floatOfInt n).mapError .python
  div x y := if y = .fin 0 then .error .zeroDivisionError else .ok (x.div y)
  mod := PyFloat.mod
  lt := PyFloat.lt
  le := PyFloat.le
  square := PyFloat.square
  radians x := x.mul (.fin PyFloat.degToRad)
  degrees x := x.mul (.fin PyFloat.radToDeg)
  sin := PyFloat.atFinite Libm.sin
  cos := PyFloat.atFinite Libm.cos
  tan := PyFloat.atFinite Libm.tan
  atan := PyFloat.atan
  asin := PyFloat.asin
  sqrt := PyFloat.sqrt

end DroneComms.Py
