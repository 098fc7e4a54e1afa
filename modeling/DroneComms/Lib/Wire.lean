import Mathlib.Tactic

/-!
# Bytes on the wire

Big-endian integers, two's complement and UTF-8 on lists of bytes.  A reader
takes what it reads off the front and returns the rest; its lemma is about what
the writer wrote, with anything behind it.
-/

namespace DroneComms.Wire

/-! ## Big-endian integers -/

/-- The low `k` bytes of a number, the most significant first. -/
def bigEndian : ℕ → ℕ → List UInt8
  | 0, _ => []
  | k + 1, n => bigEndian k (n / 256) ++ [UInt8.ofNat (n % 256)]

/-- The number that bytes spell. -/
def ofBigEndian (bs : List UInt8) : ℕ := bs.foldl (fun n b ↦ n * 256 + b.toNat) 0

theorem length_bigEndian (k n : ℕ) : (bigEndian k n).length = k := by
  induction k generalizing n with
  | zero => rfl
  | succ k ih => rw [bigEndian, List.length_append, ih, List.length_singleton]

theorem ofBigEndian_bigEndian {k n : ℕ} (h : n < 256 ^ k) : ofBigEndian (bigEndian k n) = n := by
  induction k generalizing n with
  | zero =>
      rw [pow_zero, Nat.lt_one_iff] at h
      rw [h]
      rfl
  | succ k ih =>
      have hdiv : n / 256 < 256 ^ k := Nat.div_lt_of_lt_mul (by rw [pow_succ'] at h; exact h)
      have hlow : (UInt8.ofNat (n % 256)).toNat = n % 256 := by simp
      have hhigh := ih hdiv
      rw [ofBigEndian] at hhigh ⊢
      rw [bigEndian, List.foldl_append, hhigh, List.foldl_cons, List.foldl_nil, hlow]
      exact Nat.div_add_mod' n 256

theorem ofBigEndian_lt (bs : List UInt8) : ofBigEndian bs < 256 ^ bs.length := by
  induction bs using List.reverseRecOn with
  | nil => exact Nat.one_pos
  | append_singleton bs b ih =>
      have hb := b.toNat_lt
      rw [ofBigEndian] at ih ⊢
      rw [List.foldl_append, List.foldl_cons, List.foldl_nil, List.length_append,
        List.length_singleton, pow_succ]
      omega

/-- Read a number of `k` bytes. -/
def unpack (k : ℕ) (bs : List UInt8) : Option (ℕ × List UInt8) :=
  if k ≤ bs.length then some (ofBigEndian (bs.take k), bs.drop k) else none

theorem unpack_bigEndian {k n : ℕ} (h : n < 256 ^ k) (rest : List UInt8) :
    unpack k (bigEndian k n ++ rest) = some (n, rest) := by
  have hlength := length_bigEndian k n
  rw [unpack, if_pos (by rw [List.length_append]; omega), List.take_left' hlength,
    List.drop_left' hlength, ofBigEndian_bigEndian h]

/-- What is unpacked fits its bytes. -/
theorem unpack_lt {k n : ℕ} {bs rest : List UInt8} (h : unpack k bs = some (n, rest)) :
    n < 256 ^ k := by
  unfold unpack at h
  split_ifs at h with hlength
  cases h
  have hlt := ofBigEndian_lt (bs.take k)
  rwa [List.length_take_of_le hlength] at hlt

/-! ## Two's complement -/

/-- The unsigned number with the bits of a signed one. -/
def toUnsigned (w : ℕ) (n : ℤ) : ℕ := (n % 2 ^ w).toNat

/-- The signed number with the bits of an unsigned one. -/
def toSigned (w n : ℕ) : ℤ := if 2 * n < 2 ^ w then n else n - 2 ^ w

theorem toSigned_range {w n : ℕ} (h : n < 2 ^ w) :
    -2 ^ w ≤ 2 * toSigned w n ∧ 2 * toSigned w n < 2 ^ w := by
  unfold toSigned
  split_ifs <;> zify at * <;> omega

theorem toUnsigned_lt (w : ℕ) (n : ℤ) : toUnsigned w n < 2 ^ w := by
  have hpos : (0 : ℤ) < 2 ^ w := by positivity
  have hnonneg := Int.emod_nonneg n hpos.ne'
  have hlt := Int.emod_lt_of_pos n hpos
  rw [toUnsigned]
  zify
  rw [Int.toNat_of_nonneg hnonneg]
  exact hlt

theorem toSigned_toUnsigned {w : ℕ} {n : ℤ} (hlow : -2 ^ w ≤ 2 * n) (hhigh : 2 * n < 2 ^ w) :
    toSigned w (toUnsigned w n) = n := by
  have hpos : (0 : ℤ) < 2 ^ w := by positivity
  have hcast : ((toUnsigned w n : ℕ) : ℤ) = n % 2 ^ w :=
    Int.toNat_of_nonneg (Int.emod_nonneg n hpos.ne')
  have hlt : 2 * toUnsigned w n < 2 ^ w ↔ 2 * (n % 2 ^ w) < 2 ^ w := by
    rw [← hcast]
    norm_cast
  rw [toSigned, hcast]
  rcases lt_or_ge n 0 with hneg | hnonneg
  · have hmod : n % 2 ^ w = n + 2 ^ w := by
      rw [← Int.add_emod_right, Int.emod_eq_of_lt (by omega) (by omega)]
    rw [if_neg (by rw [hlt, hmod]; omega), hmod]
    omega
  · have hmod : n % 2 ^ w = n := Int.emod_eq_of_lt hnonneg (by omega)
    rw [if_pos (by rw [hlt, hmod]; exact hhigh), hmod]

/-! ## Strings -/

/-- `s.encode("utf-8")`. -/
def utf8 (s : String) : List UInt8 := s.toUTF8.data.toList

/-- `bs.decode("utf-8")`. -/
def ofUtf8 (bs : List UInt8) : Option String := String.fromUTF8? bs.toByteArray

theorem ofUtf8_utf8 (s : String) : ofUtf8 (utf8 s) = some s := by
  have hbytes : (utf8 s).toByteArray = s.toUTF8 := by
    apply ByteArray.ext
    apply Array.toList_inj.mp
    rw [List.toList_data_toByteArray]
    rfl
  have hvalid : s.toUTF8.IsValidUTF8 := s.isValidUTF8
  rw [ofUtf8, hbytes, String.fromUTF8?, dif_pos hvalid]
  rfl

/-- A text is what its bytes say. -/
theorem utf8_of_ofUtf8 {bs : List UInt8} {s : String} (h : ofUtf8 bs = some s) : utf8 s = bs := by
  rw [ofUtf8, String.fromUTF8?] at h
  split_ifs at h with hvalid
  cases h
  show bs.toByteArray.data.toList = bs
  exact List.toList_data_toByteArray

/-- Read a string behind its length of one byte.  A text that ends early is read
as far as it goes. -/
def getStr : List UInt8 → Option (String × List UInt8)
  | [] => none
  | n :: bs => (ofUtf8 (bs.take n.toNat)).map (·, bs.drop n.toNat)

theorem getStr_append {bs : List UInt8} {s : String} (hutf8 : utf8 s = bs) (h : bs.length < 256)
    (rest : List UInt8) : getStr (UInt8.ofNat bs.length :: (bs ++ rest)) = some (s, rest) := by
  have hlength : (UInt8.ofNat bs.length).toNat = bs.length := UInt8.toNat_ofNat_of_lt h
  rw [getStr, hlength, List.take_left, List.drop_left, ← hutf8, ofUtf8_utf8]
  rfl

/-- A string behind its length of one byte has at most 255 of them. -/
theorem getStr_length {bs rest : List UInt8} {s : String} (h : getStr bs = some (s, rest)) :
    (utf8 s).length ≤ 255 := by
  cases bs with
  | nil => cases h
  | cons n bs =>
      obtain ⟨s', hs, h⟩ := Option.map_eq_some_iff.mp h
      cases h
      rw [utf8_of_ofUtf8 hs, List.length_take]
      have hbyte : n.toNat < 256 := n.toNat_lt
      omega

end DroneComms.Wire
