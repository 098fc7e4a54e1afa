import DroneComms.Py.Rounding

/-!
# Arithmetic on numbers

The operators of Python on floats, and on an integer or a float with an integer.
A mixed operation converts the integer first, which raises if it is too large.
-/

namespace DroneComms.Py

namespace PyFloat

/-- `-x`. -/
def neg : PyFloat → PyFloat
  | nan => nan
  | posInf => negInf
  | negInf => posInf
  | fin q => fin (-q)

/-- `x - y`. -/
def sub (x y : PyFloat) : PyFloat := x.add y.neg

/-- The sign of a float, with 0 for `nan`. -/
def sign : PyFloat → SignType
  | nan => 0
  | posInf => 1
  | negInf => -1
  | fin q => SignType.sign q

/-- The infinity with a sign, and `nan` for none. -/
def ofSign : SignType → PyFloat
  | .pos => posInf
  | .neg => negInf
  | .zero => nan

/-- `x * y`. -/
def mul : PyFloat → PyFloat → PyFloat
  | fin a, fin b => ofRat (a * b)
  | x, y => ofSign (x.sign * y.sign)

/-- `x / y` for a `y` other than zero. -/
def div : PyFloat → PyFloat → PyFloat
  | fin a, fin b => ofRat (a / b)
  | nan, _ | _, nan => nan
  | fin _, posInf | fin _, negInf => fin 0
  | _, posInf | _, negInf => nan
  | x, fin b => ofSign (x.sign * SignType.sign b)

theorem le_fin_mono {x : PyFloat} {a b : ℚ} (hab : a ≤ b) (h : x.le (.fin a) = true) :
    x.le (.fin b) = true := by
  cases x with
  | nan => cases h
  | posInf => cases h
  | negInf => rfl
  | fin q => exact decide_eq_true ((of_decide_eq_true h).trans hab)

theorem lt_fin_mono {x : PyFloat} {a b : ℚ} (hab : a ≤ b) (h : x.lt (.fin a) = true) :
    x.lt (.fin b) = true := by
  cases x with
  | nan => cases h
  | posInf => cases h
  | negInf => rfl
  | fin q =>
      simp only [lt, le, Bool.and_eq_true, decide_eq_true_eq, Bool.not_eq_true',
        decide_eq_false_iff_not, not_le] at h ⊢
      exact ⟨h.1.trans hab, h.2.trans_le hab⟩

end PyFloat

/-- An `int` or a `float`. -/
inductive Number where
  | int (n : ℤ)
  | float (x : PyFloat)

namespace Number

/-- `v - n`. -/
def subInt : Number → ℤ → Except PyError Number
  | int m, n => .ok (.int (m - n))
  | float x, n => (floatOfInt n).map fun y ↦ .float (x.sub y)

/-- `v / n` for an `n` other than zero. -/
def divInt : Number → ℤ → Except PyError PyFloat
  | int m, n =>
      match PyFloat.ofRat (m / n) with
      | .fin q => .ok (.fin q)
      | _ => .error .overflowError
  | float x, n => (floatOfInt n).map x.div

end Number

end DroneComms.Py
