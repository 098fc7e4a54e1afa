import DroneComms.Fpv.Framing
import DroneComms.Lib.BitPolynomial

/-!
# The checksum of a CRSF frame

`crc8_dvb_s2` of `meshsa/fpv/crsf/frame.py` is a table-driven division by the
DVB-S2 polynomial.  The shift that fills the table is a shift of an eight bit
register; eight of them take the remainder past one more byte.

From the remainder follow the linearity of the checksum and that `from_bytes`
refuses every frame in which a burst of at most eight bits was flipped behind the
length byte.
-/

namespace DroneComms.Fpv

open Polynomial BitPolynomial

/-- The bits of a byte, the most significant first. -/
def bits (b : UInt8) : List Bool := (List.range 8).map fun i ↦ b.toNat.testBit (7 - i)

/-- The bits of a byte string. -/
def message (d : List UInt8) : List Bool := d.flatMap bits

/-- The DVB-S2 generator. -/
noncomputable def dvbS2 : (ZMod 2)[X] := X ^ 8 + X ^ 7 + X ^ 6 + X ^ 4 + X ^ 2 + 1

@[simp] theorem length_bits (b : UInt8) : (bits b).length = 8 := by simp [bits]

@[simp] theorem length_message (d : List UInt8) : (message d).length = 8 * d.length := by
  simp [message, List.length_flatMap, mul_comm]

/-- The generator without its leading term is `_CRC_POLY`. -/
theorem monic_crcPoly : monic (bits crcPoly) = dvbS2 := by
  have hpoly : bits crcPoly = [true, true, false, true, false, true, false, true] := by decide
  simp only [hpoly, monic, ofBits_cons, ofBits_nil, List.length_cons, List.length_nil,
    Bool.toNat_true, Bool.toNat_false, Nat.cast_one, Nat.cast_zero, C_1, C_0, dvbS2]
  ring

theorem getElem?_bits (b : UInt8) {i : ℕ} (hi : i < 8) :
    (bits b)[i]? = some (b.toNat.testBit (7 - i)) := by
  simp [bits, hi]

/-- Two bytes are told apart by their bits. -/
theorem bits_injective : Function.Injective bits := by
  intro a b h
  apply UInt8.toNat_inj.mp
  apply Nat.eq_of_testBit_eq
  intro i
  by_cases hi : i < 8
  · have hbit : (bits a)[7 - i]? = (bits b)[7 - i]? := by rw [h]
    rw [getElem?_bits a (by omega), getElem?_bits b (by omega),
      Nat.sub_sub_self (by omega)] at hbit
    exact Option.some.inj hbit
  · have hpow : 2 ^ 8 ≤ 2 ^ i := Nat.pow_le_pow_right (by simp) (not_lt.mp hi)
    rw [Nat.testBit_lt_two_pow (a.toNat_lt.trans_le hpow),
      Nat.testBit_lt_two_pow (b.toNat_lt.trans_le hpow)]

theorem ofBits_bits_zero : ofBits (bits 0) = 0 := ofBits_eq_zero.mpr (by decide)

/-- A byte without a set bit is zero. -/
theorem eq_zero_of_bits {a : UInt8} (h : ∀ i : ℕ, (bits a)[i]? ≠ some true) : a = 0 := by
  apply bits_injective
  apply ofBits_injective (by simp)
  rw [ofBits_eq_zero_of_getElem? h, ofBits_bits_zero]

/-- Exclusive or works bit by bit. -/
theorem bits_xor (a b : UInt8) : bits (a ^^^ b) = List.zipWith xor (bits a) (bits b) := by
  simp [bits, List.zipWith_map]

theorem message_xor (d e : List UInt8) (h : d.length = e.length) :
    message (List.zipWith (· ^^^ ·) d e) = List.zipWith xor (message d) (message e) := by
  induction d generalizing e with
  | nil => simp [message]
  | cons a d ih =>
      cases e with
      | nil => cases h
      | cons b e =>
          have hlen : (bits a).length = (bits b).length := by simp
          show bits (a ^^^ b) ++ message _ =
            List.zipWith xor (bits a ++ message d) (bits b ++ message e)
          rw [List.zipWith_append hlen, ← bits_xor, ih e (Nat.succ.inj h)]

/-! ## The remainder -/

theorem bits_shiftLeft_one (c : UInt8) : bits (c <<< 1) = (bits c).tail ++ [false] := by
  have h : (c <<< 1).toNat = c.toNat <<< 1 % 2 ^ 8 := UInt8.toNat_shiftLeft c 1
  simp only [bits, h, Nat.testBit_mod_two_pow, Nat.testBit_shiftLeft]
  rfl

/-- The first bit is the one that a round tests. -/
theorem head?_bits (c : UInt8) : (bits c).head? = some (decide (c &&& 0x80 ≠ 0)) := by
  have h : c &&& 0x80 = 0 ↔ c.toNat.testBit 7 = false := by
    rw [← UInt8.toNat_inj, UInt8.toNat_and]
    change c.toNat &&& 2 ^ 7 = 0 ↔ _
    constructor
    · intro hand
      have hbit : (c.toNat &&& 2 ^ 7).testBit 7 = Nat.testBit 0 7 := by rw [hand]
      rwa [Nat.testBit_and, Nat.testBit_two_pow_self, Bool.and_true, Nat.zero_testBit] at hbit
    · intro hbit
      apply Nat.eq_of_testBit_eq
      intro i
      rw [Nat.testBit_and, Nat.testBit_two_pow, Nat.zero_testBit]
      by_cases hi : 7 = i
      · rw [← hi, hbit, Bool.false_and]
      · simp [hi]
  have hfirst : (bits c).head? = some (c.toNat.testBit 7) := rfl
  rw [hfirst]
  by_cases hc : c &&& 0x80 = 0
  · simp [hc, h.mp hc]
  · simp [hc, Bool.eq_true_of_not_eq_false (mt h.mpr hc)]

/-- One round for the table is a shift of the register. -/
theorem bits_crcShift (c : UInt8) : bits (crcShift c) = shift (bits crcPoly) (bits c) := by
  have hhead := head?_bits c
  obtain ⟨bit, rest, hbits⟩ := List.exists_cons_of_ne_nil (l := bits c) (by simp [bits])
  rw [hbits, List.head?_cons, Option.some.injEq] at hhead
  have hleft : bits (c <<< 1) = rest ++ [false] := by
    rw [bits_shiftLeft_one, hbits, List.tail_cons]
  rw [crcShift, hbits, shift, hhead]
  by_cases hc : c &&& 0x80 = 0
  · simp [hc, hleft]
  · simp [hc, bits_xor, hleft]

/-- Rounds for the table multiply by powers of `X`. -/
theorem mk_iterate_crcShift (n : ℕ) (c : UInt8) :
    AdjoinRoot.mk dvbS2 (ofBits (bits (crcShift^[n] c))) =
      AdjoinRoot.mk dvbS2 (ofBits (bits c) * X ^ n) := by
  induction n with
  | zero => simp
  | succ n ih =>
      have hlen : (bits (crcShift^[n] c)).length = (bits crcPoly).length := by simp
      rw [Function.iterate_succ_apply', bits_crcShift]
      have hshift := mk_shift hlen
      rw [monic_crcPoly] at hshift
      rw [hshift, map_mul, ih, ← map_mul, pow_succ, mul_assoc]

/-- The loop over the bytes divides their message. -/
theorem mk_crc8DvbS2 (d : List UInt8) :
    AdjoinRoot.mk dvbS2 (ofBits (bits (crc8DvbS2 d))) =
      AdjoinRoot.mk dvbS2 (ofBits (message d) * X ^ 8) := by
  induction d using List.reverseRecOn with
  | nil =>
      simp [crc8DvbS2, message, ofBits_bits_zero]
  | append_singleton d b ih =>
      have hstep : crc8DvbS2 (d ++ [b]) = crcTable (crc8DvbS2 d ^^^ b) := by
        simp [crc8DvbS2]
      have hmessage : ofBits (message (d ++ [b])) = ofBits (message d) * X ^ 8 + ofBits (bits b) := by
        simp [message, ofBits_append]
      have hlen : (bits (crc8DvbS2 d)).length = (bits b).length := by simp
      rw [hstep, crcTable, mk_iterate_crcShift, bits_xor, ofBits_zipWith_xor hlen, hmessage,
        map_mul, map_add, ih, ← map_add, ← map_mul]

/-- The checksum is the remainder of the message, shifted by eight. -/
theorem crc8DvbS2_eq_modByMonic (d : List UInt8) :
    ofBits (bits (crc8DvbS2 d)) = (ofBits (message d) * X ^ 8) %ₘ dvbS2 := by
  have hmk := mk_crc8DvbS2 d
  rw [← monic_crcPoly] at hmk ⊢
  exact ofBits_eq_modByMonic (by simp) hmk

/-- The checksum is linear in strings of one length. -/
theorem crc8DvbS2_xor {d e : List UInt8} (h : d.length = e.length) :
    crc8DvbS2 (List.zipWith (· ^^^ ·) d e) = crc8DvbS2 d ^^^ crc8DvbS2 e := by
  have hlen : (bits (crc8DvbS2 d)).length = (bits (crc8DvbS2 e)).length := by simp
  apply bits_injective
  apply ofBits_injective (by simp)
  rw [bits_xor, ofBits_zipWith_xor hlen, crc8DvbS2_eq_modByMonic, message_xor d e h,
    ofBits_zipWith_xor (by simp [h]), add_mul, add_modByMonic, crc8DvbS2_eq_modByMonic,
    crc8DvbS2_eq_modByMonic]

/-! ## Bursts -/

/-- An error pattern for `n` bytes: some bit is set, and the set bits lie within
eight consecutive ones behind the first two bytes. -/
structure Burst (n : ℕ) (e : List UInt8) : Prop where
  length : e.length = n
  nonzero : true ∈ message e
  covered : ∃ k, 16 ≤ k ∧ ∀ i : ℕ, (message e)[i]? = some true → k ≤ i ∧ i < k + 8

variable {n : ℕ} {e : List UInt8}

/-- A burst leaves the address and the length byte alone. -/
theorem Burst.eq_cons (h : Burst n e) (hn : 2 ≤ n) : ∃ e', e = 0 :: 0 :: e' := by
  obtain ⟨hlength, -, k, hk, hcovered⟩ := h
  obtain ⟨a, b, e', rfl⟩ : ∃ a b e', e = a :: b :: e' := by
    match e with
    | [] => simp at hlength; omega
    | [a] => simp at hlength; omega
    | a :: b :: e' => exact ⟨a, b, e', rfl⟩
  have hclear (i : ℕ) (hi : i < 16) : (message (a :: b :: e'))[i]? ≠ some true := fun hset ↦ by
    have := (hcovered i hset).1
    omega
  have hmessage : message (a :: b :: e') = bits a ++ (bits b ++ message e') := by
    simp [message]
  rw [hmessage] at hclear
  have ha : a = 0 := eq_zero_of_bits fun i hi ↦ by
    have hlt := (List.getElem?_eq_some_iff.mp hi).1
    rw [length_bits] at hlt
    refine hclear i (by omega) ?_
    rwa [List.getElem?_append_left (by simpa using hlt)]
  have hb : b = 0 := eq_zero_of_bits fun i hi ↦ by
    have hlt := (List.getElem?_eq_some_iff.mp hi).1
    rw [length_bits] at hlt
    refine hclear (8 + i) (by omega) ?_
    rwa [List.getElem?_append_right (by simp), length_bits, Nat.add_sub_cancel_left,
      List.getElem?_append_left (by simpa using hlt)]
  exact ⟨e', by rw [ha, hb]⟩

/-- The error pattern of a burst is no multiple of the generator. -/
theorem Burst.not_dvd (h : Burst n e) : ¬ dvbS2 ∣ ofBits (message e) := by
  obtain ⟨k, -, hcovered⟩ := h.covered
  rw [← monic_crcPoly]
  exact not_dvd_burst (by decide) h.nonzero hcovered

/-- A checksum that fits a pattern makes it a multiple of the generator. -/
theorem dvd_of_crc8DvbS2_eq {d : List UInt8} {c : UInt8} (h : crc8DvbS2 d = c) :
    dvbS2 ∣ ofBits (message (d ++ [c])) := by
  have hmessage : ofBits (message (d ++ [c])) = ofBits (message d) * X ^ 8 + ofBits (bits c) := by
    simp [message, ofBits_append]
  rw [← AdjoinRoot.mk_eq_zero, hmessage, map_add, ← mk_crc8DvbS2, h, ← map_add,
    CharTwo.add_self_eq_zero, map_zero]

namespace CrsfFrame

/-- A frame whose last byte is not its checksum is refused. -/
theorem fromBytes_crc {addr length ftype crc : UInt8} {payload : List UInt8}
    (hlength : length.toNat = payload.length + 2) (hcrc : crc8DvbS2 (ftype :: payload) ≠ crc) :
    ∃ m, fromBytes (addr :: length :: ftype :: (payload ++ [crc])) = .error (.crc m) := by
  rw [fromBytes_concat hlength]
  exact ⟨_, if_pos hcrc⟩

/-- A burst behind the length byte of a frame is found. -/
theorem fromBytes_burst {data : List UInt8} {f : CrsfFrame} (hf : fromBytes data = .ok f)
    {e : List UInt8} (he : Burst data.length e) :
    ∃ m, fromBytes (List.zipWith (· ^^^ ·) data e) = .error (.crc m) := by
  obtain ⟨addr, length, ftype, rfl, hlength, -, -⟩ := fromBytes_eq_ok.mp hf
  obtain ⟨e', rfl⟩ := he.eq_cons (by simp)
  have hlen := he.length
  -- the pattern has a part for the type, one for the payload and one for the checksum
  obtain ⟨t, p, c, rfl, hp⟩ : ∃ t p c, e' = t :: (p ++ [c]) ∧ p.length = f.payload.length := by
    simp only [List.length_cons, length_tail] at hlen
    obtain ⟨t, q, rfl⟩ := List.exists_cons_of_length_pos (by omega : 0 < e'.length)
    rcases List.eq_nil_or_concat' q with rfl | ⟨p, c, rfl⟩
    · simp at hlen
    · exact ⟨t, p, c, rfl, by simpa using hlen⟩
  have hdata : List.zipWith (· ^^^ ·) (addr :: length :: tail ftype f.payload)
      (0 :: 0 :: t :: (p ++ [c])) = addr :: length :: (ftype ^^^ t) ::
        (List.zipWith (· ^^^ ·) f.payload p ++ [crc8DvbS2 (ftype :: f.payload) ^^^ c]) := by
    simp [tail, List.zipWith_append hp.symm]
  rw [hdata]
  refine fromBytes_crc (by simp [hlength, hp]) fun hcrc ↦ he.not_dvd ?_
  have hbody : (ftype :: f.payload).length = (t :: p).length := by simp [hp]
  have hlinear : crc8DvbS2 ((ftype ^^^ t) :: List.zipWith (· ^^^ ·) f.payload p) =
      crc8DvbS2 (ftype :: f.payload) ^^^ crc8DvbS2 (t :: p) := crc8DvbS2_xor hbody
  rw [hlinear] at hcrc
  have hpattern : crc8DvbS2 (t :: p) = c := (UInt8.xor_right_inj _).mp hcrc
  have hmessage : ofBits (message (0 :: 0 :: t :: (p ++ [c]))) =
      ofBits (message ((t :: p) ++ [c])) := by
    simp only [message, List.flatMap_cons, ofBits_append, ofBits_bits_zero, zero_mul, zero_add,
      List.cons_append]
  rw [hmessage]
  exact dvd_of_crc8DvbS2_eq hpattern

end CrsfFrame

/-- **The checksum.**  It is the remainder of the polynomial of its bytes, hence
linear, and it catches every burst behind the length byte of a frame. -/
theorem checksum_is_remainder :
    (∀ d, ofBits (bits (crc8DvbS2 d)) = (ofBits (message d) * X ^ 8) %ₘ dvbS2) ∧
    (∀ d e : List UInt8, d.length = e.length →
      crc8DvbS2 (List.zipWith (· ^^^ ·) d e) = crc8DvbS2 d ^^^ crc8DvbS2 e) ∧
    ∀ data f, CrsfFrame.fromBytes data = .ok f → ∀ e, Burst data.length e →
      ∃ m, CrsfFrame.fromBytes (List.zipWith (· ^^^ ·) data e) = .error (.crc m) :=
  ⟨crc8DvbS2_eq_modByMonic, fun _ _ ↦ crc8DvbS2_xor, fun _ _ hf _ ↦ CrsfFrame.fromBytes_burst hf⟩

/-- A burst of eight bits over the end of a byte. -/
theorem burst_straddling : Burst 6 [0, 0, 0, 0x0F, 0xF0, 0] where
  length := rfl
  nonzero := by decide
  covered := by
    refine ⟨28, by decide, fun i hi ↦ ?_⟩
    have hlt := (List.getElem?_eq_some_iff.mp hi).1
    rw [length_message] at hlt
    simp only [List.length_cons, List.length_nil] at hlt
    interval_cases i <;> first | decide | exact absurd hi (by decide)

theorem checksum_catches_straddling : ∃ m, CrsfFrame.fromBytes
    (List.zipWith (· ^^^ ·) [0xC8, 4, 0x14, 1, 2, 30] [0, 0, 0, 0x0F, 0xF0, 0]) =
      .error (.crc m) := by
  have hvalid : CrsfFrame.fromBytes [0xC8, 4, 0x14, 1, 2, 30] = .ok ⟨0xC8, 0x14, [1, 2]⟩ := by
    decide +kernel
  exact checksum_is_remainder.2.2 _ _ hvalid _ burst_straddling

end DroneComms.Fpv
