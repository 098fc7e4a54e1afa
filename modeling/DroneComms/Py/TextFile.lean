import DroneComms.Lib.Truncation
import Mathlib.Data.List.DropRight

/-!
# Text files

`open(path, encoding="utf-8")`: bytes are decoded, every kind of line end becomes
a line break, and iteration goes over the lines.  A text whose last line is open
and one whose last line is closed differ by a blank line in `lines`.
-/

namespace DroneComms.Py

/-- `c.isspace()`. -/
def isWhitespace (c : Char) : Bool :=
  let n := c.toNat
  (0x09 ≤ n && n ≤ 0x0d) || (0x1c ≤ n && n ≤ 0x20) || n = 0x85 || n = 0xa0 || n = 0x1680 ||
    (0x2000 ≤ n && n ≤ 0x200a) || n = 0x2028 || n = 0x2029 || n = 0x202f || n = 0x205f || n = 0x3000

/-- `s.strip()`. -/
def strip (cs : List Char) : List Char := (cs.dropWhile isWhitespace).rdropWhile isWhitespace

/-- Universal newlines. -/
def universalNewlines : List Char → List Char
  | [] => []
  | '\r' :: '\n' :: cs => '\n' :: universalNewlines cs
  | '\r' :: cs => '\n' :: universalNewlines cs
  | c :: cs => c :: universalNewlines cs

/-- The lines of a file, without their line breaks; `none` is a `UnicodeDecodeError`. -/
def lines (bytes : List UInt8) : Option (List (List Char)) :=
  (Wire.ofUtf8 bytes).map fun s ↦ (universalNewlines s.toList).splitOn '\n'

theorem universalNewlines_eq {cs : List Char} (h : '\r' ∉ cs) : universalNewlines cs = cs := by
  induction cs with
  | nil => rfl
  | cons c cs ih =>
      rw [List.mem_cons, not_or] at h
      rw [universalNewlines, ih h.2]
      · rintro ds rfl -
        exact h.1 rfl
      · rintro rfl
        exact h.1 rfl

/-- Nothing is stripped from a text between two characters that are no whitespace. -/
theorem strip_eq {c d : Char} {cs : List Char} (hc : isWhitespace c = false)
    (hd : isWhitespace d = false) : strip (c :: (cs ++ [d])) = c :: (cs ++ [d]) := by
  rw [strip, List.dropWhile_cons_of_neg (by simp [hc]), ← List.cons_append,
    List.rdropWhile_concat_neg _ _ _ (by simp [hd])]

/-- Only the end of a text that begins with no whitespace is stripped. -/
theorem strip_prefix {c : Char} {cs : List Char} (hc : isWhitespace c = false) :
    strip (c :: cs) <+: c :: cs := by
  rw [strip, List.dropWhile_cons_of_neg (by simp [hc])]
  exact List.rdropWhile_prefix _ _

/-! ## ASCII -/

theorem utf8EncodeChar_ascii {c : Char} (h : c.toNat < 0x80) :
    String.utf8EncodeChar c = [c.val.toUInt8] := by
  have hle : c.val.toNat ≤ 0x7f := by
    change c.toNat ≤ 0x7f
    omega
  rw [String.utf8EncodeChar, if_pos hle]
  rfl

/-- A cut of an ASCII text, in bytes, is a cut of the text. -/
theorem take_utf8 {cs : List Char} (h : ∀ c ∈ cs, c.toNat < 0x80) (n : ℕ) :
    (Wire.utf8 (String.ofList cs)).take n = Wire.utf8 (String.ofList (cs.take n)) := by
  rw [Wire.utf8_ofList, Wire.utf8_ofList]
  induction cs generalizing n with
  | nil => simp
  | cons c cs ih =>
      have hc := utf8EncodeChar_ascii (h c List.mem_cons_self)
      cases n with
      | zero => rfl
      | succ n =>
          simp [hc, ih (fun c hc ↦ h c (List.mem_cons_of_mem _ hc)) n]

/-- The lines of an ASCII text. -/
theorem lines_utf8 {cs : List Char} (h : '\r' ∉ cs) :
    lines (Wire.utf8 (String.ofList cs)) = some (cs.splitOn '\n') := by
  rw [lines, Wire.ofUtf8_utf8, Option.map_some, String.toList_ofList, universalNewlines_eq h]

end DroneComms.Py
