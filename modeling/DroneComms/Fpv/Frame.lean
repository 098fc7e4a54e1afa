import DroneComms.Py.Value
import Mathlib.Tactic

/-!
# CRSF frames

`CrsfFrame` of `meshsa/fpv/crsf/frame.py`, its bytes and its checksum, and
`extract_frames`, which drains the complete frames from a buffer.

The loop of `extract_frames` is an iteration of its body (`extractStep`), which
is `none` where the loop ends.  Every iteration deletes a slice from the front
of the buffer; `Extraction` remembers the slices, which no code reads.
-/

namespace DroneComms.Fpv

open Py (PyError)

/-! ## Constants of the wire -/

/-- `CRSF_MAX_FRAME_LEN`. -/
def crsfMaxFrameLen : ℤ := 64

/-- `_OVERHEAD`. -/
def overhead : ℕ := 4

/-- `_CRC_POLY`. -/
def crcPoly : UInt8 := 0xD5

/-- `CrsfAddress`. -/
inductive CrsfAddress where
  | broadcast
  | flightController
  | radioTransmitter
  | crsfReceiver
  | crsfTransmitter
deriving DecidableEq, Repr

namespace CrsfAddress

def value : CrsfAddress → ℤ
  | broadcast => 0x00
  | flightController => 0xC8
  | radioTransmitter => 0xEA
  | crsfReceiver => 0xEC
  | crsfTransmitter => 0xEE

/-- The members of the enumeration, in their order. -/
def members : List CrsfAddress :=
  [broadcast, flightController, radioTransmitter, crsfReceiver, crsfTransmitter]

end CrsfAddress

/-- `CrsfFrameType.LINK_STATISTICS` and `CrsfFrameType.RC_CHANNELS_PACKED`. -/
def linkStatisticsType : ℤ := 0x14

def rcChannelsPackedType : ℤ := 0x16

/-- `_SYNC_ADDRESSES`. -/
def syncAddresses : Finset ℤ :=
  ((CrsfAddress.members.filter (· ≠ .broadcast)).map CrsfAddress.value).toFinset

/-! ## The checksum -/

/-- One of the eight rounds for an entry of the table. -/
def crcShift (crc : UInt8) : UInt8 :=
  if crc &&& 0x80 ≠ 0 then (crc <<< 1) ^^^ crcPoly else crc <<< 1

/-- `_CRC_TABLE`, as a function of the index. -/
def crcTable (byte : UInt8) : UInt8 := crcShift^[8] byte

/-- `crc8_dvb_s2`. -/
def crc8DvbS2 (data : List UInt8) : UInt8 := data.foldl (fun crc byte ↦ crcTable (crc ^^^ byte)) 0

/-! ## One frame -/

/-- `CrsfFrame`. -/
structure CrsfFrame where
  addr : ℤ
  type : ℤ
  payload : List UInt8
deriving DecidableEq, Repr

/-- The exceptions of `from_bytes`. -/
inductive FrameError where
  | /-- `ValueError`. -/ value (message : String)
  | /-- `CrcError`. -/ crc (message : String)
deriving DecidableEq, Repr

/-- `bytes([n])`. -/
def byte (n : ℤ) : Except PyError UInt8 :=
  if 0 ≤ n ∧ n < 256 then .ok (UInt8.ofNat n.toNat) else .error .valueError

/-- `f"{b:02X}"`. -/
def hex (b : UInt8) : String :=
  String.ofList [(Nat.digitChar (b.toNat / 16)).toUpper, (Nat.digitChar (b.toNat % 16)).toUpper]

namespace CrsfFrame

/-- `to_bytes`. -/
def toBytes (f : CrsfFrame) : Except PyError (List UInt8) := do
  let type ← byte f.type
  let body := type :: f.payload
  let crc := crc8DvbS2 body
  let length := body.length + 1
  let addr ← byte f.addr
  let lengthByte ← byte length
  .ok ([addr, lengthByte] ++ body ++ [crc])

/-- `from_bytes`. -/
def fromBytes (data : List UInt8) : Except FrameError CrsfFrame :=
  match data with
  | addr :: length :: ftype :: b :: rest =>
      let total := length.toNat + 2
      if total ≠ data.length then
        .error (.value s!"length byte {length} != frame size {data.length - 2}")
      else
        let payload := (b :: rest).dropLast
        let expected := (b :: rest).getLast (List.cons_ne_nil b rest)
        let actual := crc8DvbS2 (ftype :: payload)
        if actual ≠ expected then
          .error (.crc s!"crc mismatch: got 0x{hex actual}, want 0x{hex expected}")
        else .ok { addr := addr.toNat, type := ftype.toNat, payload }
  | _ => .error (.value s!"frame too short: {data.length} bytes")

end CrsfFrame

/-! ## Extracting frames -/

/-- The buffer of `extract_frames` with what has been taken from it. -/
structure Extraction where
  buffer : List UInt8
  frames : List CrsfFrame := []
  /-- The number of calls of `on_crc_error`. -/
  crcErrors : ℕ := 0
  /-- The slices deleted from the front, the oldest first. -/
  deleted : List (List UInt8) := []
deriving DecidableEq, Repr

/-- `del buffer[:n]`. -/
def Extraction.del (x : Extraction) (n : ℕ) : Extraction :=
  { x with buffer := x.buffer.drop n, deleted := x.deleted ++ [x.buffer.take n] }

/-- The body of the loop of `extract_frames`. -/
def extractStep (maxFrameLen : ℤ) (sync : Finset ℤ) (x : Extraction) : Option Extraction :=
  match x.buffer with
  | addr :: length :: _ :: _ :: _ =>
      if (addr.toNat : ℤ) ∉ sync then some (x.del 1)
      else
        let total := length.toNat + 2
        if length.toNat < 2 ∨ maxFrameLen < total then some (x.del 1)
        else if x.buffer.length < total then none
        else
          match CrsfFrame.fromBytes (x.buffer.take total) with
          | .ok frame => some { x.del total with frames := x.frames ++ [frame] }
          | .error (.crc _) => some { x.del 1 with crcErrors := x.crcErrors + 1 }
          | .error (.value _) => some (x.del 1)
  | _ => none

/-- At most `fuel` iterations of the loop. -/
def extractLoop (maxFrameLen : ℤ) (sync : Finset ℤ) : ℕ → Extraction → Extraction
  | 0, x => x
  | fuel + 1, x =>
      match extractStep maxFrameLen sync x with
      | none => x
      | some y => extractLoop maxFrameLen sync fuel y

/-- `extract_frames`.  An iteration deletes at least one byte. -/
def extractFrames (maxFrameLen : ℤ) (sync : Finset ℤ) (buffer : List UInt8) : Extraction :=
  extractLoop maxFrameLen sync buffer.length { buffer }

/-- `extract_frames` on the buffer with a chunk behind it; the results are collected. -/
def Extraction.feed (maxFrameLen : ℤ) (sync : Finset ℤ) (x : Extraction) (chunk : List UInt8) :
    Extraction :=
  let y := extractFrames maxFrameLen sync (x.buffer ++ chunk)
  { buffer := y.buffer
    frames := x.frames ++ y.frames
    crcErrors := x.crcErrors + y.crcErrors
    deleted := x.deleted ++ y.deleted }

end DroneComms.Fpv
