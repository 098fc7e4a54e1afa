import DroneComms.Lib.Decimal
import Mathlib.Data.Rat.Floor
import Mathlib.Algebra.Order.Floor.Ring
import Mathlib.Data.Rat.Defs

/-!
# Python values

Floats are exact rationals extended with the two infinities and `nan`
(`PyFloat`), compared by Python's rules.  `Value` is what `json.loads` or a
caller's dictionary can hold; a dictionary keeps its insertion order.

Writing a float and reading a float from a string are properties of the
interpreter.  They are a parameter (`FloatText`) that carries the one law the
code relies on, `float(str(x)) = x`.
-/

namespace DroneComms.Py

/-- A Python `float`. -/
inductive PyFloat where
  | nan
  | posInf
  | negInf
  | fin (q : ℚ)
deriving DecidableEq, Repr

namespace PyFloat

/-- `x <= y`. -/
def le : PyFloat → PyFloat → Bool
  | nan, _ | _, nan => false
  | negInf, _ | _, posInf => true
  | fin a, fin b => decide (a ≤ b)
  | _, _ => false

/-- `x < y`. -/
def lt (x y : PyFloat) : Bool := le x y && !le y x

/-- `math.isfinite`. -/
def isFinite : PyFloat → Bool
  | fin _ => true
  | _ => false

@[simp] theorem le_fin (a b : ℚ) : le (fin a) (fin b) = decide (a ≤ b) := rfl

@[simp] theorem lt_fin (a b : ℚ) : lt (fin a) (fin b) = decide (a < b) := by
  rw [Bool.eq_iff_iff]
  simp only [lt, le_fin, Bool.and_eq_true, Bool.not_eq_true', decide_eq_false_iff_not,
    decide_eq_true_eq, not_le]
  exact ⟨fun h ↦ h.2, fun h ↦ ⟨le_of_lt h, h⟩⟩

end PyFloat

/-- `round(q)`: the nearest integer, ties to the even one. -/
def roundEven (q : ℚ) : Int :=
  let f := ⌊q⌋
  if q - f < 1 / 2 then f
  else if 1 / 2 < q - f then f + 1
  else if f % 2 = 0 then f else f + 1

theorem roundEven_intCast (n : Int) : roundEven (n : ℚ) = n := by
  simp [roundEven]

/-- A value of a JSON document or of a caller's dictionary. -/
inductive Value where
  | none
  | bool (b : Bool)
  | int (n : Int)
  | float (x : PyFloat)
  | str (s : String)
  | list (xs : List Value)
  | dict (kvs : List (String × Value))

/-- `str(x)` and `float(s)` of the interpreter. -/
structure FloatText where
  str : PyFloat → String
  ofStr : String → Option PyFloat
  ofStr_str : ∀ x, ofStr (str x) = some x

namespace FloatText

/-- How the interpreter writes the floats that closed runs use: integral ones,
the infinities and `nan`.  Any other float gets a code of its own. -/
def plainChars : PyFloat → List Char
  | .nan => ['n', 'a', 'n']
  | .posInf => ['i', 'n', 'f']
  | .negInf => ['-', 'i', 'n', 'f']
  | .fin q =>
      if q.den = 1 then Decimal.signed q.num ++ ['.', '0']
      else Nat.toDigits 10 (Encodable.encode q) ++ ['.', '1']

def readPlain (cs : List Char) : Option PyFloat :=
  match cs.reverse with
  | ['n', 'a', 'n'] => some .nan
  | ['f', 'n', 'i'] => some .posInf
  | ['f', 'n', 'i', '-'] => some .negInf
  | '0' :: '.' :: ds => (Decimal.readSigned ds.reverse).map fun n ↦ .fin n
  | '1' :: '.' :: ds => ((Decimal.digits ds.reverse).bind Encodable.decode).map .fin
  | _ => none

theorem readPlain_plainChars (x : PyFloat) : readPlain (plainChars x) = some x := by
  cases x with
  | nan => rfl
  | posInf => rfl
  | negInf => rfl
  | fin q =>
      rw [plainChars]
      split_ifs with hden
      · have hq : (q.num : ℚ) = q := Rat.coe_int_num_of_den_eq_one hden
        rw [readPlain, List.reverse_append]
        simp [hq]
      · rw [readPlain, List.reverse_append]
        simp

/-- An interpreter for closed runs. -/
def plain : FloatText where
  str x := String.ofList (plainChars x)
  ofStr s := readPlain s.toList
  ofStr_str x := by rw [String.toList_ofList, readPlain_plainChars]

end FloatText

/-- The built-in exceptions the modelled code meets. -/
inductive PyError where
  | typeError
  | valueError
  | overflowError
  | attributeError
  | keyError
deriving DecidableEq, Repr

theorem ok_bind {ε α β : Type} (a : α) (f : α → Except ε β) : (Except.ok a >>= f) = f a := rfl

/-- A sequence of fallible computations succeeds if each of them does. -/
theorem bind_eq_ok {ε α β : Type} {x : Except ε α} {f : α → Except ε β} {b : β} :
    x >>= f = .ok b ↔ ∃ a, x = .ok a ∧ f a = .ok b := by
  cases x with
  | error e =>
      constructor
      · intro h
        cases h
      · rintro ⟨a, ha, -⟩
        cases ha
  | ok a =>
      constructor
      · exact fun h ↦ ⟨a, rfl, h⟩
      · rintro ⟨a', ha, h⟩
        cases ha
        exact h

theorem toOption_eq_some {ε α : Type} {x : Except ε α} {a : α} :
    x.toOption = some a ↔ x = .ok a := by
  cases x with
  | error e => exact iff_of_false nofun nofun
  | ok b =>
      constructor
      · rintro ⟨⟩
        rfl
      · rintro ⟨⟩
        rfl

/-- A sequence of fallible computations fails where the first of them does. -/
theorem bind_eq_error {ε α β : Type} {x : Except ε α} {f : α → Except ε β} {e : ε} :
    x >>= f = .error e ↔ x = .error e ∨ ∃ a, x = .ok a ∧ f a = .error e := by
  cases x with
  | error e' =>
      constructor
      · intro h
        cases h
        exact .inl rfl
      · rintro (h | ⟨a, ha, -⟩)
        · cases h
          rfl
        · cases ha
  | ok a =>
      constructor
      · exact fun h ↦ .inr ⟨a, rfl, h⟩
      · rintro (h | ⟨a', ha, h⟩)
        · cases h
        · cases ha
          exact h

/-- Bind keyword arguments to the parameters of a function that takes exactly
`names`: an unexpected or missing keyword is a `TypeError`. -/
def bindKwargs (names : List String) (kwargs : List (String × Value)) :
    Except PyError (List Value) :=
  if kwargs.all fun kv ↦ names.contains kv.1 then
    names.mapM fun name ↦ (kwargs.lookup name).elim (.error .typeError) .ok
  else .error .typeError

end DroneComms.Py
