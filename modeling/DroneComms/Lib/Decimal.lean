import Mathlib.Tactic

/-!
# Decimal numerals

Writing and reading numbers in base ten, on lists of characters.  `digits` reads
an unsigned numeral, `pad` writes one with a fixed number of digits, and
`signed` and `readSigned` add a leading minus sign.  Each reader inverts its
writer.
-/

namespace DroneComms.Decimal

/-- A property of the characters of a list is decided on the list, also where there is an
instance that goes through all characters. -/
instance (priority := high) decidableForallMem (p : Char → Prop) [DecidablePred p]
    (cs : List Char) : Decidable (∀ c ∈ cs, p c) :=
  List.decidableBAll p cs

/-- Read a nonempty run of digits. -/
def digits (cs : List Char) : Option Nat :=
  if cs ≠ [] ∧ ∀ c ∈ cs, c.isDigit = true then some (Nat.ofDigitChars 10 cs 0) else none

/-- Write `n` with at least `w` digits. -/
def pad (w n : Nat) : List Char :=
  List.replicate (w - (Nat.toDigits 10 n).length) '0' ++ Nat.toDigits 10 n

/-- Write an integer. -/
def signed : Int → List Char
  | .ofNat n => Nat.toDigits 10 n
  | .negSucc n => '-' :: Nat.toDigits 10 (n + 1)

/-- Read an integer. -/
def readSigned : List Char → Option Int
  | '-' :: cs => (digits cs).map fun n : Nat ↦ -(n : Int)
  | cs => (digits cs).map fun n : Nat ↦ (n : Int)

theorem isDigit_of_mem_toDigits {n : Nat} {c : Char} (h : c ∈ Nat.toDigits 10 n) :
    c.isDigit = true :=
  Nat.isDigit_of_mem_toDigits (by decide) (by decide) h

@[simp] theorem digits_toDigits (n : Nat) : digits (Nat.toDigits 10 n) = some n := by
  have h : Nat.toDigits 10 n ≠ [] ∧ ∀ c ∈ Nat.toDigits 10 n, c.isDigit = true :=
    ⟨Nat.toDigits_ne_nil, fun c hc ↦ isDigit_of_mem_toDigits hc⟩
  rw [digits, if_pos h, Nat.ofDigitChars_ten_toDigits]

/-- Every character of a padded numeral is a digit. -/
theorem isDigit_of_mem_pad {w n : Nat} {c : Char} (h : c ∈ pad w n) : c.isDigit = true := by
  rcases List.mem_append.mp h with h | h
  · rw [List.eq_of_mem_replicate h]
    rfl
  · exact isDigit_of_mem_toDigits h

/-- Leading zeros do not change the number. -/
@[simp] theorem digits_pad (w n : Nat) : digits (pad w n) = some n := by
  have h : pad w n ≠ [] ∧ ∀ c ∈ pad w n, c.isDigit = true := by
    refine ⟨fun hnil ↦ ?_, fun c hc ↦ isDigit_of_mem_pad hc⟩
    exact Nat.toDigits_ne_nil (List.append_eq_nil_iff.mp hnil).2
  rw [digits, if_pos h, pad, Nat.ofDigitChars_append, Nat.ofDigitChars_replicate_zero,
    Nat.mul_zero, Nat.ofDigitChars_ten_toDigits]

/-- A number below `10 ^ w` is padded to exactly `w` digits. -/
theorem length_pad {w n : Nat} (hw : 0 < w) (h : n < 10 ^ w) : (pad w n).length = w := by
  have hle : (Nat.toDigits 10 n).length ≤ w := (Nat.length_toDigits_le_iff (by decide) hw).mpr h
  rw [pad, List.length_append, List.length_replicate]
  omega

/-- A numeral that is long enough is not padded. -/
theorem pad_eq_toDigits {w n : Nat} (h : 10 ^ w ≤ n) : pad (w + 1) n = Nat.toDigits 10 n := by
  have hlength : w < (Nat.toDigits 10 n).length := by
    rcases Nat.eq_zero_or_pos w with rfl | hw
    · exact List.length_pos_of_ne_nil Nat.toDigits_ne_nil
    · by_contra hle
      exact absurd h (not_le.mpr ((Nat.length_toDigits_le_iff (by decide) hw).mp (not_lt.mp hle)))
  rw [pad, Nat.sub_eq_zero_of_le hlength, List.replicate_zero, List.nil_append]

/-- An unsigned numeral has no sign. -/
theorem toDigits_ne_minus {n : Nat} {cs : List Char} : Nat.toDigits 10 n ≠ '-' :: cs := by
  intro h
  have hdigit := isDigit_of_mem_toDigits (n := n) (c := '-') (by rw [h]; exact List.mem_cons_self)
  exact absurd hdigit (by decide)

/-- Reading back an integer. -/
@[simp] theorem readSigned_signed (n : Int) : readSigned (signed n) = some n := by
  cases n with
  | negSucc n =>
      rw [signed, readSigned, digits_toDigits, Option.map_some]
      rfl
  | ofNat n =>
      rw [signed]
      unfold readSigned
      split
      · rename_i hcs
        exact absurd hcs toDigits_ne_minus
      · rw [digits_toDigits]
        rfl

end DroneComms.Decimal
