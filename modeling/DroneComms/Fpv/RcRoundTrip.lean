import DroneComms.Fpv.Rc
import Mathlib.Data.Nat.Digits.Lemmas

/-!
# RC channels, there and back

`unpack_channels` of `meshsa/fpv/crsf/rc.py`, and what it makes of a payload of
`pack_channels`.

Both loops regroup the digits of one number: the bytes of a payload are its
digits to the base 256, the channels those to the base 2048 (`number`, `slots`).
The accumulator of either loop is the part of the number that was read and not
written yet.
-/

namespace DroneComms.Fpv

/-! ## Unpacking -/

/-- The exceptions of `unpack_channels`. -/
inductive UnpackError where
  | /-- `ValueError`. -/ value (message : String)
  | /-- `IndexError`. -/ index
deriving DecidableEq, Repr

/-- The variables of the loop of `unpack_channels`. -/
structure Unpacking where
  acc : ℕ := 0
  nbits : ℕ := 0
  channels : List ℤ := []
  idx : ℕ := 0
deriving DecidableEq, Repr

namespace Unpacking

/-- At most `fuel` iterations of the inner loop. -/
def fill (payload : List UInt8) : ℕ → Unpacking → Except UnpackError Unpacking
  | 0, u => .ok u
  | fuel + 1, u =>
      if u.nbits < 11 then
        match payload[u.idx]? with
        | none => .error .index
        | some byte => fill payload fuel
            { u with
              acc := u.acc ||| (byte.toNat <<< u.nbits)
              nbits := u.nbits + 8
              idx := u.idx + 1 }
      else .ok u

/-- The body of the outer loop.  The inner one adds eight bits at a time. -/
def pull (payload : List UInt8) (u : Unpacking) : Except UnpackError Unpacking := do
  let u ← fill payload 2 u
  return { u with
    channels := u.channels ++ [((u.acc % 2048 : ℕ) : ℤ)]
    acc := u.acc >>> 11
    nbits := u.nbits - 11 }

/-- The outer loop with `count` channels to go. -/
def loop (payload : List UInt8) : ℕ → Unpacking → Except UnpackError Unpacking
  | 0, u => .ok u
  | count + 1, u => pull payload u >>= loop payload count

end Unpacking

/-- `unpack_channels`. -/
def unpackChannels (payload : List UInt8) (count : ℤ) : Except UnpackError (List ℤ) :=
  let required := (count * 11 + 7) / 8
  if payload.length < required then
    .error (.value
      s!"payload too short for {count} channels: {payload.length} < {required} bytes")
  else do
    let u ← Unpacking.loop payload count.toNat {}
    return u.channels

/-! ## One number in two bases -/

/-- The number whose digits to the base 256 are the bytes, the lowest first. -/
def number (payload : List UInt8) : ℕ := Nat.ofDigits 256 (payload.map UInt8.toNat)

/-- The number whose digits to the base 2048 are the low bits of the values. -/
def slots (values : List ℤ) : ℕ := Nat.ofDigits 2048 (values.map fun v ↦ (v % 2048).toNat)

/-- A bit of a payload; those behind its end are clear. -/
def payloadBit (payload : List UInt8) (i : ℕ) : Bool :=
  ((payload[i / 8]?).getD 0).toNat.testBit (i % 8)

theorem number_append (p q : List UInt8) :
    number (p ++ q) = number p + 256 ^ p.length * number q := by
  simp [number, Nat.ofDigits_append]

theorem slots_append (vs ws : List ℤ) :
    slots (vs ++ ws) = slots vs + 2048 ^ vs.length * slots ws := by
  simp [slots, Nat.ofDigits_append]

theorem number_singleton (b : UInt8) : number [b] = b.toNat := by simp [number]

theorem slots_singleton (v : ℤ) : slots [v] = (v % 2048).toNat := by simp [slots]

theorem slots_lt (vs : List ℤ) : slots vs < 2048 ^ vs.length := by
  have h := Nat.ofDigits_lt_base_pow_length (b := 2048)
    (l := vs.map fun v ↦ (v % 2048).toNat) (by decide) (by
      intro x hx
      obtain ⟨v, -, rfl⟩ := List.mem_map.mp hx
      omega)
  rwa [List.length_map] at h

/-- The bits of a payload are those of its number. -/
theorem testBit_number (payload : List UInt8) (i : ℕ) :
    (number payload).testBit i = payloadBit payload i := by
  induction payload generalizing i with
  | nil => simp [number, payloadBit]
  | cons b payload ih =>
      have hnumber : number (b :: payload) = 2 ^ 8 * number payload + b.toNat := by
        simp [number, Nat.ofDigits_cons, Nat.add_comm]
      rw [hnumber, Nat.testBit_two_pow_mul_add _ b.toNat_lt]
      split_ifs with hi
      · simp [payloadBit, Nat.div_eq_of_lt hi, Nat.mod_eq_of_lt hi]
      · obtain ⟨j, rfl⟩ := Nat.exists_eq_add_of_le (not_lt.mp hi)
        have hdiv : (8 + j) / 8 = j / 8 + 1 := by omega
        have hmod : (8 + j) % 8 = j % 8 := by omega
        rw [Nat.add_sub_cancel_left, ih, payloadBit, payloadBit, hdiv, hmod,
          List.getElem?_cons_succ]

/-! ## What packing computes -/

namespace Packing

/-- The packing holds the values: its bytes and the rest of its bits are their
digits. -/
structure Carries (p : Packing) (vs : List ℤ) : Prop where
  holds : p.Holds (11 * vs.length)
  rest : p.acc < 2 ^ p.nbits
  sum : number p.out + 256 ^ p.out.length * p.acc = slots vs

/-- The bits written and held are as many as those of the values. -/
theorem Holds.pow {p : Packing} {k : ℕ} (h : p.Holds (11 * k)) :
    256 ^ p.out.length * 2 ^ p.nbits = 2048 ^ k := by
  have h256 : (256 : ℕ) = 2 ^ 8 := rfl
  have h2048 : (2048 : ℕ) = 2 ^ 11 := rfl
  rw [h256, h2048, ← pow_mul, ← pow_mul, ← pow_add, h]

/-- The inner loop moves digits. -/
theorem Carries.flush {p : Packing} {vs : List ℤ} (h : p.Carries vs) (fuel : ℕ) :
    (flush fuel p).Carries vs := by
  induction fuel generalizing p with
  | zero => exact h
  | succ fuel ih =>
      rw [Packing.flush]
      split_ifs with hbyte
      · obtain ⟨hholds, hrest, hsum⟩ := h
        apply ih
        constructor
        · rw [Holds] at hholds ⊢
          rw [List.length_append, List.length_singleton]
          dsimp only
          omega
        · have hsplit : 2 ^ p.nbits = 2 ^ (p.nbits - 8) * 2 ^ 8 := by
            rw [← pow_add, Nat.sub_add_cancel hbyte]
          rw [hsplit] at hrest
          rw [Nat.shiftRight_eq_div_pow]
          exact Nat.div_lt_of_lt_mul (by rwa [Nat.mul_comm])
        · have hbyte : (UInt8.ofNat (p.acc % 256)).toNat = p.acc % 256 :=
            UInt8.toNat_ofNat_of_lt (Nat.mod_lt _ (by decide))
          rw [← hsum, number_append, number_singleton, hbyte, List.length_append,
            List.length_singleton, Nat.shiftRight_eq_div_pow, pow_succ, mul_assoc, add_assoc,
            ← mul_add]
          rw [Nat.mod_add_div]
      · exact h

/-- The outer loop adds a value above the bits held. -/
theorem Carries.push {p : Packing} {vs : List ℤ} (h : p.Carries vs) (v : ℤ) :
    (p.push v).Carries (vs ++ [v]) := by
  obtain ⟨hholds, hrest, hsum⟩ := h
  apply Carries.flush
  have hor : p.acc ||| ((v % 2048).toNat <<< p.nbits) = 2 ^ p.nbits * (v % 2048).toNat + p.acc := by
    rw [Nat.or_comm, ← Nat.shiftLeft_add_eq_or_of_lt hrest, Nat.shiftLeft_eq, Nat.mul_comm]
  constructor
  · rw [Holds] at hholds ⊢
    rw [List.length_append, List.length_singleton]
    dsimp only
    omega
  · have hv : (v % 2048).toNat + 1 ≤ 2 ^ 11 := by omega
    rw [hor, pow_add]
    calc 2 ^ p.nbits * (v % 2048).toNat + p.acc
        < 2 ^ p.nbits * ((v % 2048).toNat + 1) := by rw [mul_add, mul_one]; omega
      _ ≤ 2 ^ p.nbits * 2 ^ 11 := Nat.mul_le_mul_left _ hv
  · rw [hor, slots_append, slots_singleton, ← hsum, ← hholds.pow]
    ring

theorem carries_foldl (vs : List ℤ) : (vs.foldl Packing.push {}).Carries vs := by
  induction vs using List.reverseRecOn with
  | nil => exact ⟨rfl, by decide, rfl⟩
  | append_singleton vs v ih =>
      rw [List.foldl_append]
      exact ih.push v

/-- What is left is the last digit. -/
theorem Carries.number_finish {p : Packing} {vs : List ℤ} (h : p.Carries vs) (hlt : p.nbits < 8) :
    number p.finish = slots vs := by
  obtain ⟨-, hrest, hsum⟩ := h
  unfold finish
  split_ifs with hbits
  · have hacc : p.acc < 256 := hrest.trans (Nat.pow_lt_pow_right (by decide) hlt)
    have hbyte : (UInt8.ofNat (p.acc % 256)).toNat = p.acc := by
      rw [Nat.mod_eq_of_lt hacc]
      exact UInt8.toNat_ofNat_of_lt hacc
    rw [number_append, number_singleton, hbyte, hsum]
  · have hzero : p.acc = 0 := by
      rw [Nat.eq_zero_of_not_pos hbits] at hrest
      exact Nat.lt_one_iff.mp hrest
    rw [← hsum, hzero, mul_zero, add_zero]

end Packing

/-- The slots of a payload: the first `count` ticks, then the padding. -/
def slotValues (ticks : List ℤ) (count : ℕ) (pad : ℤ) : List ℤ :=
  ticks.take count ++ List.replicate (count - ticks.length) pad

@[simp] theorem length_slotValues (ticks : List ℤ) (count : ℕ) (pad : ℤ) :
    (slotValues ticks count pad).length = count := by
  rw [slotValues, List.length_append, List.length_take, List.length_replicate]
  omega

/-- The payload and its slots are one number. -/
theorem number_packChannels (ticks : List ℤ) (count : ℕ) (pad : ℤ) :
    number (packChannels ticks count pad) = slots (slotValues ticks count pad) := by
  have hvalues : sliceTo ticks count ++ List.replicate ((count : ℤ) - ticks.length).toNat pad =
      slotValues ticks count pad := by
    rw [sliceTo, if_pos (Int.natCast_nonneg _), Int.toNat_natCast, slotValues, Int.toNat_sub]
  have hempty : Packing.Holds {} 0 := rfl
  rw [packChannels, hvalues]
  exact (Packing.carries_foldl _).number_finish
    (Packing.foldl_push_holds hempty (by decide) _).2

/-! ## What unpacking computes -/

/-- The channels of a number: its lowest digits to the base 2048. -/
def digits (n count : ℕ) : List ℤ :=
  (List.range count).map fun k ↦ ((n / 2048 ^ k % 2048 : ℕ) : ℤ)

theorem digits_succ (n count : ℕ) :
    digits n (count + 1) = digits n count ++ [((n / 2048 ^ count % 2048 : ℕ) : ℤ)] := by
  rw [digits, List.range_succ, List.map_append]
  rfl

@[simp] theorem length_digits (n count : ℕ) : (digits n count).length = count := by simp [digits]

namespace Unpacking

/-- The loop has read `count` channels of the payload. -/
structure Reads (payload : List UInt8) (u : Unpacking) (count : ℕ) : Prop where
  channels : u.channels = digits (number payload) count
  rest : u.acc < 2 ^ u.nbits
  position : 8 * u.idx = 11 * count + u.nbits
  sum : u.acc + 2 ^ u.nbits * number (payload.drop u.idx) = number payload / 2048 ^ count

variable {payload : List UInt8} {u : Unpacking} {count : ℕ}

/-- The inner loop adds the next byte above the bits held. -/
theorem Reads.feed (h : u.Reads payload count) {byte : UInt8} (hbyte : payload[u.idx]? = some byte) :
    Reads payload { u with acc := u.acc ||| (byte.toNat <<< u.nbits), nbits := u.nbits + 8,
                           idx := u.idx + 1 } count := by
  obtain ⟨hchannels, hrest, hposition, hsum⟩ := h
  have hor : u.acc ||| (byte.toNat <<< u.nbits) = 2 ^ u.nbits * byte.toNat + u.acc := by
    rw [Nat.or_comm, ← Nat.shiftLeft_add_eq_or_of_lt hrest, Nat.shiftLeft_eq, Nat.mul_comm]
  constructor
  · exact hchannels
  · have hlt : byte.toNat + 1 ≤ 2 ^ 8 := byte.toNat_lt
    rw [hor, pow_add]
    calc 2 ^ u.nbits * byte.toNat + u.acc
        < 2 ^ u.nbits * (byte.toNat + 1) := by rw [mul_add, mul_one]; omega
      _ ≤ 2 ^ u.nbits * 2 ^ 8 := Nat.mul_le_mul_left _ hlt
  · dsimp only
    omega
  · have hdrop : payload.drop u.idx = [byte] ++ payload.drop (u.idx + 1) :=
      List.drop_eq_getElem?_toList_append.trans (by rw [hbyte]; rfl)
    rw [← hsum, hdrop, number_append, number_singleton, hor, pow_add, List.length_singleton]
    ring

/-- The inner loop ends with enough bits for a channel, or after `fuel` bytes. -/
theorem Reads.fill (h : u.Reads payload count) (hlen : 11 * (count + 1) ≤ 8 * payload.length)
    (fuel : ℕ) : ∃ u', fill payload fuel u = .ok u' ∧ u'.Reads payload count ∧
      (11 ≤ u'.nbits ∨ u.nbits + 8 * fuel ≤ u'.nbits) := by
  induction fuel generalizing u with
  | zero => exact ⟨u, rfl, h, .inr le_rfl⟩
  | succ fuel ih =>
      rw [Unpacking.fill]
      split_ifs with hbits
      · have hposition := h.position
        have hidx : u.idx < payload.length := by omega
        have hbyte := List.getElem?_eq_getElem hidx
        obtain ⟨u', hfill, hreads, henough⟩ := ih (h.feed hbyte)
        rw [hbyte]
        refine ⟨u', hfill, hreads, henough.imp_right fun hmore ↦ ?_⟩
        dsimp only at hmore
        omega
      · exact ⟨u, rfl, h, .inl (not_lt.mp hbits)⟩

/-- An iteration of the outer loop reads the next channel. -/
theorem Reads.pull (h : u.Reads payload count) (hlen : 11 * (count + 1) ≤ 8 * payload.length) :
    ∃ u', pull payload u = .ok u' ∧ u'.Reads payload (count + 1) := by
  obtain ⟨v, hfill, ⟨hchannels, hrest, hposition, hsum⟩, henough⟩ := h.fill hlen 2
  have hbits : 11 ≤ v.nbits := by omega
  have hsplit : 2 ^ v.nbits = 2048 * 2 ^ (v.nbits - 11) := by
    rw [show (2048 : ℕ) = 2 ^ 11 from rfl, ← pow_add, Nat.add_sub_cancel' hbits]
  rw [hsplit] at hrest hsum
  refine ⟨_, by rw [Unpacking.pull, hfill]; rfl, ?_⟩
  constructor
  · have hchannel : v.acc % 2048 = number payload / 2048 ^ count % 2048 := by
      rw [← hsum, mul_assoc, Nat.add_mul_mod_self_left]
    dsimp only
    rw [hchannels, digits_succ, hchannel]
  · dsimp only
    rw [Nat.shiftRight_eq_div_pow]
    exact Nat.div_lt_of_lt_mul hrest
  · dsimp only
    omega
  · dsimp only
    rw [Nat.shiftRight_eq_div_pow, pow_succ 2048 count, ← Nat.div_div_eq_div_mul, ← hsum, mul_assoc]
    exact (Nat.add_mul_div_left _ _ (by decide)).symm

theorem Reads.loop (h : u.Reads payload count) {more : ℕ}
    (hlen : 11 * (count + more) ≤ 8 * payload.length) :
    ∃ u', loop payload more u = .ok u' ∧ u'.Reads payload (count + more) := by
  induction more generalizing u count with
  | zero => exact ⟨u, rfl, h⟩
  | succ more ih =>
      obtain ⟨v, hpull, hv⟩ := h.pull (by omega)
      obtain ⟨w, hloop, hw⟩ := ih hv (by omega)
      refine ⟨w, by rw [Unpacking.loop, hpull]; exact hloop, ?_⟩
      rwa [Nat.add_right_comm] at hw

theorem reads_start (payload : List UInt8) : Reads payload {} 0 := by
  refine ⟨rfl, by decide, rfl, ?_⟩
  simp

end Unpacking

/-- A payload that is long enough is unpacked into the digits of its number. -/
theorem unpackChannels_eq {payload : List UInt8} {count : ℕ}
    (h : (11 * count + 7) / 8 ≤ payload.length) :
    unpackChannels payload count = .ok (digits (number payload) count) := by
  have hlen : 11 * (0 + count) ≤ 8 * payload.length := by omega
  obtain ⟨u, hloop, hreads⟩ := (Unpacking.reads_start payload).loop hlen
  have hrequired : ¬ (payload.length : ℤ) < ((count : ℤ) * 11 + 7) / 8 := by omega
  rw [unpackChannels, if_neg hrequired, Int.toNat_natCast, hloop]
  show Except.ok u.channels = _
  rw [hreads.channels, Nat.zero_add]

/-! ## There and back -/

/-- The lowest digits are those of the remainder. -/
theorem slots_digits (n count : ℕ) : slots (digits n count) = n % 2048 ^ count := by
  induction count with
  | zero => simp [digits, slots, Nat.mod_one]
  | succ count ih =>
      rw [digits_succ, slots_append, ih, slots_singleton, length_digits]
      have hdigit : (((n / 2048 ^ count % 2048 : ℕ) : ℤ) % 2048).toNat = n / 2048 ^ count % 2048 := by
        omega
      rw [hdigit, pow_succ, Nat.mod_mul]

/-- Values are told apart by their number, up to the bits above the eleventh. -/
theorem digits_slots {vs : List ℤ} {n : ℕ} (h : n % 2048 ^ vs.length = slots vs) :
    digits n vs.length = vs.map (· % 2048) := by
  have hlow (ws : List ℤ) : ∀ x ∈ ws.map fun v ↦ (v % 2048).toNat, x < 2048 := by
    intro x hx
    obtain ⟨v, -, rfl⟩ := List.mem_map.mp hx
    omega
  have hcast (ws : List ℤ) : (ws.map fun v ↦ (v % 2048).toNat).map (Nat.cast : ℕ → ℤ) =
      ws.map (· % 2048) := by
    rw [List.map_map]
    refine List.map_congr_left fun v _ ↦ ?_
    exact Int.toNat_of_nonneg (Int.emod_nonneg v (by decide))
  have hsame : slots (digits n vs.length) = slots vs := (slots_digits n vs.length).trans h
  have hlists := Nat.ofDigits_inj_of_len_eq (by decide : 1 < 2048) (by simp) (hlow _) (hlow _) hsame
  have hmod : (digits n vs.length).map (· % 2048) = vs.map (· % 2048) := by
    rw [← hcast, ← hcast, hlists]
  rw [← hmod, digits, List.map_map]
  refine List.map_congr_left fun k _ ↦ ?_
  simp

/-- **RC channels, there and back.**  A payload has the whole bytes that its
channels need, with clear bits behind them; unpacking it, with anything behind
it, gives back the slots; and packing what was unpacked restores a payload up to
the bits behind its channels. -/
theorem rc_round_trip (count : ℕ) (ticks : List ℤ) (pad : ℤ) :
    (packChannels ticks count pad).length = (11 * count + 7) / 8 ∧
    (∀ i, 11 * count ≤ i → payloadBit (packChannels ticks count pad) i = false) ∧
    (∀ extra, unpackChannels (packChannels ticks count pad ++ extra) count =
      .ok ((slotValues ticks count pad).map (· % 2048))) ∧
    ∀ payload : List UInt8, payload.length = (11 * count + 7) / 8 →
      ∃ channels, unpackChannels payload count = .ok channels ∧
        (packChannels channels count pad).length = payload.length ∧
        ∀ i < 11 * count, payloadBit (packChannels channels count pad) i = payloadBit payload i := by
  have hpow : 2048 ^ count = 2 ^ (11 * count) := by
    rw [show (2048 : ℕ) = 2 ^ 11 from rfl, ← pow_mul]
  have hlength (ticks : List ℤ) : (packChannels ticks count pad).length = (11 * count + 7) / 8 :=
    length_packChannels ticks (Int.natCast_nonneg count) pad
  refine ⟨hlength ticks, ?_, ?_, ?_⟩
  · intro i hi
    have hlt := slots_lt (slotValues ticks count pad)
    rw [length_slotValues, hpow] at hlt
    rw [← testBit_number, number_packChannels]
    exact Nat.testBit_lt_two_pow (hlt.trans_le (Nat.pow_le_pow_right (by decide) hi))
  · intro extra
    have hbase : 2048 ^ count ∣ 256 ^ (packChannels ticks count pad).length := by
      rw [hpow, show (256 : ℕ) = 2 ^ 8 from rfl, ← pow_mul, hlength]
      exact pow_dvd_pow 2 (by omega)
    have hlow : number (packChannels ticks count pad ++ extra) %
        2048 ^ (slotValues ticks count pad).length = slots (slotValues ticks count pad) := by
      obtain ⟨factor, hfactor⟩ := hbase
      rw [number_append, number_packChannels, hfactor, length_slotValues, mul_assoc,
        Nat.add_mul_mod_self_left]
      have hlt := slots_lt (slotValues ticks count pad)
      rw [length_slotValues] at hlt
      exact Nat.mod_eq_of_lt hlt
    have hdigits := digits_slots hlow
    rw [length_slotValues] at hdigits
    rw [unpackChannels_eq (by rw [List.length_append, hlength]; omega), hdigits]
  · intro payload hpayload
    refine ⟨_, unpackChannels_eq hpayload.ge, (hlength _).trans hpayload.symm, fun i hi ↦ ?_⟩
    have hslots : slotValues (digits (number payload) count) count pad =
        digits (number payload) count := by
      simp [slotValues]
    rw [← testBit_number, ← testBit_number, number_packChannels, hslots, slots_digits, hpow,
      Nat.testBit_mod_two_pow]
    simp [hi]

end DroneComms.Fpv
