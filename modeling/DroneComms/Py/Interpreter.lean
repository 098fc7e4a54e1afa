import DroneComms.Py.Datetime

/-!
# The interpreter

What the codecs ask of the interpreter besides `float` and `str` of a float:
`int` of a string, formatting, and reading the many time formats that
`datetime.fromisoformat` knows beside the one that `_iso` writes (some depend on
the version and on the local zone).  They are parameters with the laws the code
relies on.
-/

namespace DroneComms.Py

/-- An interpreter. -/
structure Interpreter extends FloatText where
  /-- `int(s)`. -/
  intOfStr : String → Option ℤ
  intOfStr_signed : ∀ n, intOfStr (String.ofList (Decimal.signed n)) = some n
  /-- A small integer as a float. -/
  ofStr_signed : ∀ n : ℤ, |n| ≤ 2 ^ 53 → ofStr (String.ofList (Decimal.signed n)) = some (.fin n)
  str_printable : ∀ x, ∀ c ∈ (str x).toList, 32 ≤ c.toNat ∧ c.toNat < 127
  /-- `f"{x:.0f}"`. -/
  fixed0 : PyFloat → String
  fixed0_printable : ∀ x, ∀ c ∈ (fixed0 x).toList, 32 ≤ c.toNat ∧ c.toNat < 127
  /-- `repr` of a list or a dictionary. -/
  repr : Value → String
  /-- `datetime.fromisoformat(s).timestamp()` on other texts. -/
  fromisoformat : String → Option PyFloat
  /-- A text begins with the four digits of a year. -/
  fromisoformat_year : ∀ s, '-' ∈ s.toList.take 4 → fromisoformat s = none

namespace Interpreter

variable (py : Interpreter)

/-- `str(v)`. -/
def strOf : Value → String
  | .none => "None"
  | .bool true => "True"
  | .bool false => "False"
  | .int n => String.ofList (Decimal.signed n)
  | .float x => py.str x
  | .str s => s
  | v => py.repr v

/-- `_parse_ts` of `meshsa/cot.py`. -/
def parseTs (s : String) : Option PyFloat :=
  let cs := replaceZ s.toList
  match readIso cs with
  | some n => some (timestamp n)
  | none => py.fromisoformat (String.ofList cs)

/-- The house text of an instant is read back, up to rounding. -/
theorem parseTs_isoText {n : ℤ} (hfour : fourDigitMillis ≤ n) (hmax : n ≤ maxMillis) :
    py.parseTs (String.ofList (isoText n)) = some (timestamp n) := by
  rw [parseTs, String.toList_ofList, readIso_isoText hfour hmax]

/-- The text of an instant before year 1000 is not read. -/
theorem parseTs_isoText_early {n : ℤ} (hmin : minMillis ≤ n) (hfour : n < fourDigitMillis) :
    py.parseTs (String.ofList (isoText n)) = none := by
  have hdash := dash_mem_take_isoText hmin hfour
  rw [parseTs, String.toList_ofList, readIso_eq_none hdash]
  exact py.fromisoformat_year _ (by rwa [String.toList_ofList])

end Interpreter

/-- `bool(v)`. -/
def Value.truthy : Value → Bool
  | .none => false
  | .bool b => b
  | .int n => n ≠ 0
  | .float x => x ≠ .fin 0
  | .str s => s ≠ ""
  | .list xs => !xs.isEmpty
  | .dict kvs => !kvs.isEmpty

/-- The entries of a dictionary; anything else has no `get`. -/
def Value.entries : Value → Except PyError (List (String × Value))
  | .dict kvs => .ok kvs
  | _ => .error .attributeError

/-- Only a dictionary has entries. -/
theorem Value.eq_of_entries {v : Value} {d : List (String × Value)} (h : v.entries = .ok d) :
    v = .dict d := by
  cases v with
  | dict kvs => exact congrArg Value.dict (Except.ok.inj h)
  | none => cases h
  | bool b => cases h
  | int n => cases h
  | float x => cases h
  | str s => cases h
  | list xs => cases h

abbrev Dict := List (String × Value)

namespace Dict

/-- `d.get(key, default)`. -/
def get (d : Dict) (key : String) (default : Value) : Value := (d.lookup key).getD default

/-- `d.get(key)`, with `None` for a missing key or a `None`. -/
def get? (d : Dict) (key : String) : Option Value :=
  match d.lookup key with
  | some .none | none => none
  | some v => some v

/-- `d.get(key) or default`. -/
def getOr (d : Dict) (key : String) (default : Value) : Value :=
  match d.lookup key with
  | some v => if v.truthy then v else default
  | none => default

end Dict

/-- `int(x)` of a float. -/
def intOfFloat : PyFloat → Except PyError ℤ
  | .nan => .error .valueError
  | .posInf | .negInf => .error .overflowError
  | .fin q => .ok (truncate q)

/-- `float(s)`. -/
def floatOfStr (text : FloatText) (s : String) : Except PyError PyFloat :=
  (text.ofStr s).elim (.error .valueError) .ok

/-- `int(s)`. -/
def intOfString (py : Interpreter) (s : String) : Except PyError ℤ :=
  (py.intOfStr s).elim (.error .valueError) .ok

namespace FloatText

theorem toDigits_printable {n : ℕ} : ∀ c ∈ Nat.toDigits 10 n, 32 ≤ c.toNat ∧ c.toNat < 127 := by
  intro c hc
  have hdigit := Char.isDigit_iff_toNat.mp (Decimal.isDigit_of_mem_toDigits hc)
  have hcodes : '0'.toNat = 48 ∧ '9'.toNat = 57 := by decide
  omega

theorem signed_printable {n : ℤ} : ∀ c ∈ Decimal.signed n, 32 ≤ c.toNat ∧ c.toNat < 127 := by
  intro c hc
  cases n with
  | ofNat n => exact toDigits_printable c hc
  | negSucc n =>
      rcases List.mem_cons.mp hc with rfl | hc
      · decide
      · exact toDigits_printable c hc

/-- What the interpreter for closed runs writes is printable. -/
theorem plain_printable (x : PyFloat) :
    ∀ c ∈ (plain.str x).toList, 32 ≤ c.toNat ∧ c.toNat < 127 := by
  show ∀ c ∈ (String.ofList (plainChars x)).toList, _
  rw [String.toList_ofList]
  cases x with
  | nan => decide
  | posInf => decide
  | negInf => decide
  | fin q =>
      rw [plainChars]
      intro c hc
      split_ifs at hc
      · rcases List.mem_append.mp hc with hc | hc
        · exact signed_printable c hc
        · exact (by decide : ∀ c ∈ ['.', '0'], 32 ≤ c.toNat ∧ c.toNat < 127) c hc
      · rcases List.mem_append.mp hc with hc | hc
        · exact toDigits_printable c hc
        · exact (by decide : ∀ c ∈ ['.', '1'], 32 ≤ c.toNat ∧ c.toNat < 127) c hc

theorem readSigned_eq_none {cs : List Char} {c : Char} (hmem : c ∈ cs) (hc : c ≠ '-')
    (hdigit : c.isDigit = false) : Decimal.readSigned cs = none := by
  have hnone : ∀ ds : List Char, c ∈ ds → Decimal.digits ds = none := by
    intro ds hds
    rw [Decimal.digits, if_neg]
    rintro ⟨-, hall⟩
    rw [hall c hds] at hdigit
    cases hdigit
  unfold Decimal.readSigned
  split
  · rw [hnone _ (List.mem_of_ne_of_mem hc hmem)]
    rfl
  · rw [hnone _ hmem]
    rfl

/-- The text of a float is not that of an integer. -/
theorem readSigned_plainChars (x : PyFloat) : Decimal.readSigned (plainChars x) = none := by
  cases x with
  | nan => rfl
  | posInf => rfl
  | negInf => rfl
  | fin q =>
      have hdot : '.' ∈ plainChars (.fin q) := by
        rw [plainChars]
        split_ifs <;> simp
      exact readSigned_eq_none hdot (by decide) (by decide)

end FloatText

namespace Interpreter

/-- An interpreter for closed runs. -/
def plain : Interpreter where
  str := FloatText.plain.str
  ofStr s := match Decimal.readSigned s.toList with
    | some n => some (.fin n)
    | none => FloatText.plain.ofStr s
  ofStr_str x := by
    have hnone : Decimal.readSigned (FloatText.plain.str x).toList = none := by
      show Decimal.readSigned (String.ofList (FloatText.plainChars x)).toList = none
      rw [String.toList_ofList, FloatText.readSigned_plainChars]
    rw [hnone]
    exact FloatText.plain.ofStr_str x
  intOfStr s := Decimal.readSigned s.toList
  intOfStr_signed n := by rw [String.toList_ofList, Decimal.readSigned_signed]
  ofStr_signed n _ := by rw [String.toList_ofList, Decimal.readSigned_signed]
  str_printable := FloatText.plain_printable
  fixed0 x := match x with
    | .fin q => String.ofList (Decimal.signed (roundEven q))
    | x => FloatText.plain.str x
  fixed0_printable x := by
    cases x with
    | fin q =>
        rw [String.toList_ofList]
        exact FloatText.signed_printable
    | nan => exact FloatText.plain_printable _
    | posInf => exact FloatText.plain_printable _
    | negInf => exact FloatText.plain_printable _
  repr _ := ""
  fromisoformat _ := none
  fromisoformat_year _ _ := rfl

end Interpreter

end DroneComms.Py
