import DroneComms.Py.Value
import Mathlib.Tactic

/-!
# JSON text

`json.dumps` and `json.loads` of the standard library on `Value`s.  The writer
escapes everything outside of printable ASCII (`ensure_ascii`); `space` is what
it puts behind a comma or a colon, nothing for `separators=(",", ":")` and a
blank by default.  The reader is a recursive descent with fuel, for which the
length of the text is enough.

A dictionary has each key once (`WellKeyed`); a text may repeat a key, and the
last one wins.
-/

namespace DroneComms.Py.Json

/-! ## Strings -/

/-- The UTF-16 code units of a character. -/
def utf16 (c : Char) : List Nat :=
  if c.toNat < 0x10000 then [c.toNat]
  else [0xD800 + (c.toNat - 0x10000) / 1024, 0xDC00 + (c.toNat - 0x10000) % 1024]

def hexDigit (n : Nat) : Char :=
  if n < 10 then Char.ofNat (48 + n) else Char.ofNat (87 + n)

def hexVal (c : Char) : Option Nat :=
  if 48 ≤ c.toNat ∧ c.toNat ≤ 57 then some (c.toNat - 48)
  else if 97 ≤ c.toNat ∧ c.toNat ≤ 102 then some (c.toNat - 87)
  else if 65 ≤ c.toNat ∧ c.toNat ≤ 70 then some (c.toNat - 55)
  else none

/-- `\uXXXX`. -/
def escapeUnit (u : Nat) : List Char :=
  ['\\', 'u', hexDigit (u / 4096 % 16), hexDigit (u / 256 % 16), hexDigit (u / 16 % 16),
    hexDigit (u % 16)]

/-- The short escapes, with the character behind the backslash. -/
def shortEscape (c : Char) : Option Char :=
  if c = '"' then some '"'
  else if c = '\\' then some '\\'
  else if c = '\n' then some 'n'
  else if c = '\r' then some 'r'
  else if c = '\t' then some 't'
  else if c = '\x0c' then some 'f'
  else if c = '\x08' then some 'b'
  else none

/-- How a character stands in a string. -/
def escape (c : Char) : List Char :=
  match shortEscape c with
  | some e => ['\\', e]
  | none =>
      if 0x20 ≤ c.toNat ∧ c.toNat < 0x7f then [c] else (utf16 c).flatMap escapeUnit

/-- `json.dumps` of a string. -/
def quote (s : List Char) : List Char := '"' :: s.flatMap escape ++ ['"']

/-- The code unit an escape with one character stands for. -/
def unescape : Char → Option Nat
  | '"' => some 0x22
  | '\\' => some 0x5c
  | '/' => some 0x2f
  | 'n' => some 0x0a
  | 'r' => some 0x0d
  | 't' => some 0x09
  | 'f' => some 0x0c
  | 'b' => some 0x08
  | _ => none

def readHex (a b c d : Char) : Option Nat := do
  let a ← hexVal a
  let b ← hexVal b
  let c ← hexVal c
  let d ← hexVal d
  some (a * 4096 + b * 256 + c * 16 + d)

/-- Read up to the closing quote. -/
def readUnits : List Char → Option (List Nat × List Char)
  | [] => none
  | '"' :: rest => some ([], rest)
  | '\\' :: 'u' :: a :: b :: c :: d :: cs => do
      let u ← readHex a b c d
      let (us, rest) ← readUnits cs
      some (u :: us, rest)
  | '\\' :: e :: cs => do
      let u ← unescape e
      let (us, rest) ← readUnits cs
      some (u :: us, rest)
  | c :: cs =>
      -- a control character or a last backslash
      if c.toNat < 0x20 ∨ c = '\\' then none
      else do
        let (us, rest) ← readUnits cs
        some (utf16 c ++ us, rest)

/-- The characters of a string, in which surrogates must stand in pairs. -/
def ofUnits : List Nat → Option (List Char)
  | [] => some []
  | [u] => if 0xD800 ≤ u ∧ u < 0xE000 then none else some [Char.ofNat u]
  | u :: v :: us =>
      if 0xD800 ≤ u ∧ u < 0xDC00 then
        if 0xDC00 ≤ v ∧ v < 0xE000 then
          (ofUnits us).map (Char.ofNat (0x10000 + (u - 0xD800) * 1024 + (v - 0xDC00)) :: ·)
        else none
      else if 0xDC00 ≤ u ∧ u < 0xE000 then none
      else (ofUnits (v :: us)).map (Char.ofNat u :: ·)

/-- Read a string behind its opening quote. -/
def readString (cs : List Char) : Option (List Char × List Char) := do
  let (us, rest) ← readUnits cs
  let s ← ofUnits us
  some (s, rest)

/-! ## Numbers -/

def isNumberChar (c : Char) : Bool :=
  c.isDigit || c = '-' || c = '+' || c = '.' || c = 'e' || c = 'E'

def stripMinus : List Char → List Char
  | '-' :: cs => cs
  | cs => cs

/-- `0|[1-9]\d*`. -/
def isNatLiteral (cs : List Char) : Bool :=
  cs = ['0'] || (cs ≠ [] && cs.head? ≠ some '0' && cs.all Char.isDigit)

def isIntLiteral (cs : List Char) : Bool := isNatLiteral (stripMinus cs)

/-- `[-+]?\d+`. -/
def isExponent (cs : List Char) : Bool :=
  let ds := match cs with
    | '+' :: ds | '-' :: ds => ds
    | ds => ds
  !ds.isEmpty && ds.all Char.isDigit

/-- `(\.\d+)?([eE][-+]?\d+)?`, not empty. -/
def isFraction : List Char → Bool
  | '.' :: cs =>
      let (ds, tail) := cs.span Char.isDigit
      !ds.isEmpty && match tail with
        | [] => true
        | 'e' :: x | 'E' :: x => isExponent x
        | _ => false
  | 'e' :: x | 'E' :: x => isExponent x
  | _ => false

def isFloatLiteral (cs : List Char) : Bool :=
  let (ds, tail) := (stripMinus cs).span Char.isDigit
  isNatLiteral ds && isFraction tail

/-- Read a number.  No character that continues one may follow it. -/
def readNumber (text : FloatText) (cs : List Char) : Option (Value × List Char) :=
  let (literal, rest) := cs.span isNumberChar
  if isIntLiteral literal then
    (Decimal.readSigned literal).map fun n ↦ (.int n, rest)
  else if isFloatLiteral literal then
    (text.ofStr (String.ofList literal)).map fun x ↦ (.float x, rest)
  else none

/-- An interpreter that writes finite floats the way JSON reads them. -/
structure JsonText extends FloatText where
  literal_fin : ∀ q, isFloatLiteral (str (.fin q)).toList = true
  numberChars_fin : ∀ q, ∀ c ∈ (str (.fin q)).toList, isNumberChar c = true

/-! ## Values -/

/-- The text of a float, with the names `json` gives the special ones. -/
def dumpsFloat (text : FloatText) : PyFloat → List Char
  | .nan => ['N', 'a', 'N']
  | .posInf => ['I', 'n', 'f', 'i', 'n', 'i', 't', 'y']
  | .negInf => ['-', 'I', 'n', 'f', 'i', 'n', 'i', 't', 'y']
  | .fin q => (text.str (.fin q)).toList

mutual

/-- `json.dumps`. -/
def dumps (text : FloatText) (space : List Char) : Value → List Char
  | .none => ['n', 'u', 'l', 'l']
  | .bool true => ['t', 'r', 'u', 'e']
  | .bool false => ['f', 'a', 'l', 's', 'e']
  | .int n => Decimal.signed n
  | .float x => dumpsFloat text x
  | .str s => quote s.toList
  | .list [] => ['[', ']']
  | .list (x :: xs) => '[' :: dumps text space x ++ dumpsItems text space xs
  | .dict [] => ['{', '}']
  | .dict ((k, x) :: kvs) =>
      '{' :: quote k.toList ++ ':' :: space ++ dumps text space x ++
        dumpsMembers text space kvs

/-- The items behind the first one. -/
def dumpsItems (text : FloatText) (space : List Char) : List Value → List Char
  | [] => [']']
  | x :: xs => ',' :: space ++ dumps text space x ++ dumpsItems text space xs

def dumpsMembers (text : FloatText) (space : List Char) : List (String × Value) → List Char
  | [] => ['}']
  | (k, x) :: kvs =>
      ',' :: space ++ quote k.toList ++ ':' :: space ++ dumps text space x ++
        dumpsMembers text space kvs

end

def isSpace (c : Char) : Bool := c = ' ' || c = '\t' || c = '\n' || c = '\r'

def skip (cs : List Char) : List Char := cs.dropWhile isSpace

/-- `d[k] = x`. -/
def setKey (kvs : List (String × Value)) (k : String) (x : Value) : List (String × Value) :=
  if kvs.any (·.1 = k) then kvs.map fun kv ↦ if kv.1 = k then (k, x) else kv
  else kvs ++ [(k, x)]

/-- The dictionary of a list of pairs. -/
def ofPairs (kvs : List (String × Value)) : List (String × Value) :=
  kvs.foldl (fun d kv ↦ setKey d kv.1 kv.2) []

mutual

/-- Read a value at the start of the text. -/
def scan (text : FloatText) : Nat → List Char → Option (Value × List Char)
  | 0, _ => none
  | fuel + 1, cs =>
      match cs with
      | '"' :: cs => (readString cs).map fun p ↦ (.str (String.ofList p.1), p.2)
      | '[' :: cs =>
          match skip cs with
          | ']' :: rest => some (.list [], rest)
          | cs => do
              let (x, cs) ← scan text fuel cs
              let (xs, rest) ← scanItems text fuel (skip cs)
              some (.list (x :: xs), rest)
      | '{' :: cs =>
          match skip cs with
          | '}' :: rest => some (.dict [], rest)
          | cs => do
              let (kv, cs) ← scanMember text fuel cs
              let (kvs, rest) ← scanMembers text fuel (skip cs)
              some (.dict (ofPairs (kv :: kvs)), rest)
      | 'n' :: 'u' :: 'l' :: 'l' :: rest => some (.none, rest)
      | 't' :: 'r' :: 'u' :: 'e' :: rest => some (.bool true, rest)
      | 'f' :: 'a' :: 'l' :: 's' :: 'e' :: rest => some (.bool false, rest)
      | 'N' :: 'a' :: 'N' :: rest => some (.float .nan, rest)
      | 'I' :: 'n' :: 'f' :: 'i' :: 'n' :: 'i' :: 't' :: 'y' :: rest =>
          some (.float .posInf, rest)
      | '-' :: 'I' :: 'n' :: 'f' :: 'i' :: 'n' :: 'i' :: 't' :: 'y' :: rest =>
          some (.float .negInf, rest)
      | cs => readNumber text cs

/-- The items behind the first one. -/
def scanItems (text : FloatText) : Nat → List Char → Option (List Value × List Char)
  | 0, _ => none
  | fuel + 1, cs =>
      match cs with
      | ']' :: rest => some ([], rest)
      | ',' :: cs => do
          let (x, cs) ← scan text fuel (skip cs)
          let (xs, rest) ← scanItems text fuel (skip cs)
          some (x :: xs, rest)
      | _ => none

def scanMember (text : FloatText) : Nat → List Char → Option ((String × Value) × List Char)
  | 0, _ => none
  | fuel + 1, cs =>
      match cs with
      | '"' :: cs => do
          let (k, cs) ← readString cs
          match skip cs with
          | ':' :: cs => do
              let (x, rest) ← scan text fuel (skip cs)
              some ((String.ofList k, x), rest)
          | _ => none
      | _ => none

def scanMembers (text : FloatText) : Nat → List Char → Option (List (String × Value) × List Char)
  | 0, _ => none
  | fuel + 1, cs =>
      match cs with
      | '}' :: rest => some ([], rest)
      | ',' :: cs => do
          let (kv, cs) ← scanMember text fuel (skip cs)
          let (kvs, rest) ← scanMembers text fuel (skip cs)
          some (kv :: kvs, rest)
      | _ => none

end

/-- `json.loads`. -/
def loads (text : FloatText) (cs : List Char) : Option Value := do
  let (x, rest) ← scan text (2 * cs.length + 1) (skip cs)
  if skip rest = [] then some x else none

/-- What `json.loads` makes of a text.  It is not only a malformed text that it raises for:
an integer may have too many digits, and a document may be nested too deeply. -/
inductive Loaded where
  | value (x : Value)
  | decodeError
  /-- An exception that is no `JSONDecodeError`. -/
  | raises

/-- The document of a text. -/
def Loaded.document? : Loaded → Option Value
  | value x => some x
  | decodeError | raises => none

/-- `json.loads`, by an interpreter without limits. -/
def unlimited (text : FloatText) (cs : List Char) : Loaded :=
  (loads text cs).elim .decodeError .value

mutual

/-- Each dictionary has each key once. -/
def WellKeyed : Value → Prop
  | .list xs => WellKeyedItems xs
  | .dict kvs => (kvs.map Prod.fst).Nodup ∧ WellKeyedMembers kvs
  | _ => True

def WellKeyedItems : List Value → Prop
  | [] => True
  | x :: xs => WellKeyed x ∧ WellKeyedItems xs

def WellKeyedMembers : List (String × Value) → Prop
  | [] => True
  | (_, x) :: kvs => WellKeyed x ∧ WellKeyedMembers kvs

end

end DroneComms.Py.Json
