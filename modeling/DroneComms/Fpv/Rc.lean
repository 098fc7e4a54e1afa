import DroneComms.Py.Arithmetic

/-!
# RC channels

`us_to_ticks` and `pack_channels` of `meshsa/fpv/crsf/rc.py`.  The bits of the
channels, 11 for each, go into the payload from the lowest to the highest.
-/

namespace DroneComms.Fpv

open Py (PyError PyFloat Number)

/-- The endpoints of the map from microseconds to ticks. -/
structure TickMap where
  usMin : ℤ := 988
  usMax : ℤ := 2012
  ticksMin : ℤ := 172
  ticksMax : ℤ := 1811

/-- `us_to_ticks`. -/
def usToTicks (m : TickMap) (us : Number) : Except PyError ℤ :=
  let spanUs := m.usMax - m.usMin
  if spanUs = 0 then .ok m.ticksMin
  else do
    let offset ← us.subInt m.usMin
    let frac ← offset.divInt spanUs
    let span ← Py.floatOfInt (m.ticksMax - m.ticksMin)
    let base ← Py.floatOfInt m.ticksMin
    let tick ← Py.intRound (base.add (frac.mul span))
    .ok (max 0 (min 0x7FF tick))

/-! ## Packing -/

/-- The variables of the loop of `pack_channels`. -/
structure Packing where
  acc : ℕ := 0
  nbits : ℕ := 0
  out : List UInt8 := []
deriving DecidableEq, Repr

namespace Packing

/-- At most `fuel` iterations of the inner loop. -/
def flush : ℕ → Packing → Packing
  | 0, p => p
  | fuel + 1, p =>
      if 8 ≤ p.nbits then
        flush fuel
          { acc := p.acc >>> 8, nbits := p.nbits - 8, out := p.out ++ [UInt8.ofNat (p.acc % 256)] }
      else p

/-- The body of the outer loop; `& 0x7FF` keeps 11 bits of any integer. -/
def push (p : Packing) (value : ℤ) : Packing :=
  let nbits := p.nbits + 11
  flush nbits { p with acc := p.acc ||| ((value % 2048).toNat <<< p.nbits), nbits }

/-- What is left goes out as a last byte. -/
def finish (p : Packing) : List UInt8 :=
  if 0 < p.nbits then p.out ++ [UInt8.ofNat (p.acc % 256)] else p.out

end Packing

/-- `ticks[:count]`, where a negative `count` counts from the end. -/
def sliceTo (ticks : List ℤ) (count : ℤ) : List ℤ :=
  ticks.take (if 0 ≤ count then count else ticks.length + count).toNat

/-- `pack_channels`. -/
def packChannels (ticks : List ℤ) (count pad : ℤ) : List UInt8 :=
  let values := sliceTo ticks count ++ List.replicate (count - ticks.length).toNat pad
  (values.foldl Packing.push {}).finish

/-! ## The length of a payload -/

namespace Packing

/-- A packing that holds a number of bits. -/
def Holds (p : Packing) (bits : ℕ) : Prop := 8 * p.out.length + p.nbits = bits

/-- The inner loop moves bits, and leaves less than a byte. -/
theorem flush_holds {p : Packing} {bits fuel : ℕ} (h : p.Holds bits) (hfuel : p.nbits ≤ fuel) :
    (flush fuel p).Holds bits ∧ (flush fuel p).nbits < 8 := by
  induction fuel generalizing p with
  | zero =>
      refine ⟨h, ?_⟩
      rw [flush]
      omega
  | succ fuel ih =>
      rw [flush]
      split_ifs with hbyte
      · apply ih
        · rw [Holds] at h ⊢
          rw [List.length_append, List.length_singleton]
          dsimp only
          omega
        · dsimp only
          omega
      · exact ⟨h, by omega⟩

theorem foldl_push_holds {p : Packing} {bits : ℕ} (h : p.Holds bits) (hlt : p.nbits < 8)
    (values : List ℤ) : (values.foldl push p).Holds (bits + 11 * values.length) ∧
      (values.foldl push p).nbits < 8 := by
  induction values generalizing p bits with
  | nil => exact ⟨h, hlt⟩
  | cons value values ih =>
      have hmore : ({ p with acc := p.acc ||| ((value % 2048).toNat <<< p.nbits),
                             nbits := p.nbits + 11 } : Packing).Holds (bits + 11) := by
        rw [Holds] at h ⊢
        dsimp only
        omega
      obtain ⟨hholds, hless⟩ := flush_holds hmore le_rfl
      have hrest := ih hholds hless
      rw [List.length_cons, Nat.mul_succ, Nat.add_comm (11 * values.length), ← Nat.add_assoc]
      exact hrest

end Packing

/-- `count` channels take 11 bits each, in whole bytes. -/
theorem length_packChannels (ticks : List ℤ) {count : ℤ} (hcount : 0 ≤ count) (pad : ℤ) :
    (packChannels ticks count pad).length = (11 * count.toNat + 7) / 8 := by
  have hvalues : (sliceTo ticks count ++
      List.replicate (count - ticks.length).toNat pad).length = count.toNat := by
    rw [sliceTo, if_pos hcount, List.length_append, List.length_take, List.length_replicate]
    omega
  have hempty : Packing.Holds {} 0 := rfl
  obtain ⟨hholds, hlt⟩ := Packing.foldl_push_holds hempty (by decide)
    (sliceTo ticks count ++ List.replicate (count - ticks.length).toNat pad)
  rw [hvalues, Packing.Holds] at hholds
  rw [packChannels, Packing.finish]
  split_ifs with hbits
  · rw [List.length_append, List.length_singleton]
    omega
  · omega

end DroneComms.Fpv
