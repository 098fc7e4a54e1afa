import DroneComms.Py.JsonReader

/-!
# Flight sources

`PollingSourceTransport` of `meshsa/transports/polling_source.py`: what an object
keeps of its source, and the frame that it makes of a position fix.  The sequence
counter lives in the object and starts with it.
-/

namespace DroneComms.Transports

open Py (PyFloat Value Dict Interpreter)

/-- A position fix, with the time of its frame. -/
structure SourceFix where
  ts : PyFloat
  lat : PyFloat
  lon : PyFloat
  hae : PyFloat
deriving DecidableEq

/-- `PollingSourceTransport`. -/
structure PollingSource where
  sourceUid : String
  callsign : String
  seq : ℕ := 0

namespace PollingSource

/-- `__init__`. -/
def init (sourceUid : String) (callsign : Option String := none) : PollingSource where
  sourceUid := sourceUid
  callsign := match callsign with
    | some c => if c = "" then sourceUid else c
    | none => sourceUid

/-- The id of the fix that has a number. -/
def msgId (sourceUid : String) (seq : ℕ) : String :=
  sourceUid ++ ":" ++ String.ofList (Decimal.signed seq)

/-- The JSON object of a frame. -/
def frame (s : PollingSource) (fix : SourceFix) : Dict :=
  [("src", .str s.sourceUid), ("callsign", .str s.callsign),
    ("msg_id", .str (msgId s.sourceUid s.seq)), ("ts", .float fix.ts), ("lat", .float fix.lat),
    ("lon", .float fix.lon), ("hae", .float fix.hae)]

/-- `_position_frame`. -/
def positionFrame (py : Interpreter) (s : PollingSource) (fix : SourceFix) :
    PollingSource × List UInt8 :=
  let s := { s with seq := s.seq + 1 }
  (s, Py.dumpsBytes py (.dict (s.frame fix)))

@[simp] theorem init_sourceUid (sourceUid : String) (callsign : Option String) :
    (init sourceUid callsign).sourceUid = sourceUid := rfl

@[simp] theorem init_seq (sourceUid : String) (callsign : Option String) :
    (init sourceUid callsign).seq = 0 := rfl

@[simp] theorem positionFrame_sourceUid (py : Interpreter) (s : PollingSource) (fix : SourceFix) :
    (s.positionFrame py fix).1.sourceUid = s.sourceUid := rfl

@[simp] theorem positionFrame_seq (py : Interpreter) (s : PollingSource) (fix : SourceFix) :
    (s.positionFrame py fix).1.seq = s.seq + 1 := rfl

/-- Fixes of one source have one id only if they have one number. -/
theorem msgId_injective (sourceUid : String) : Function.Injective (msgId sourceUid) := by
  intro m n h
  have htext := congrArg String.toList h
  simp only [msgId, String.toList_append, String.toList_ofList, List.append_cancel_left_eq] at htext
  have hread := congrArg Decimal.readSigned htext
  rw [Decimal.readSigned_signed, Decimal.readSigned_signed] at hread
  exact Int.ofNat.inj (Option.some.inj hread)

end PollingSource

end DroneComms.Transports
