import DroneComms.Mesh.Cot
import DroneComms.Py.JsonReader

/-!
# Telemetry and detection frames

`TelemetryCodec` of `meshsa/telemetry.py` and `DetectionCodec` of
`meshsa/detection_codec.py`: a JSON object with a position as an envelope, and
back.  Both decoders catch `TypeError` and `ValueError`, of which pydantic's
`ValidationError` is one, around the conversions of the fields.
-/

namespace DroneComms.Mesh

open Py (PyFloat Value Dict PyError Interpreter JsonReader Bytes)
open Cot (escapes guarded)

namespace Frames

/-- A model that pydantic accepts; its `ValidationError` is a `ValueError`. -/
def validated {α : Type} : Option α → Except PyError α
  | some a => .ok a
  | none => .error .valueError

/-- A position, checked by its validators. -/
def checkedPosition (p : Position) : Except PyError Position :=
  validated (if p.Valid then some p else none)

/-- A detection, checked by its validators. -/
def checkedDetection (d : Detection) : Except PyError Detection :=
  validated (if d.Valid then some d else none)

theorem checkedPosition_of_valid {p : Position} (h : p.Valid) : checkedPosition p = .ok p := by
  rw [checkedPosition, if_pos h]
  rfl

theorem checkedDetection_of_valid {d : Detection} (h : d.Valid) : checkedDetection d = .ok d := by
  rw [checkedDetection, if_pos h]
  rfl

/-- `frame[key]`. -/
def item (frame : Dict) (key : String) : Except PyError Value :=
  (frame.lookup key).elim (.error .keyError) .ok

/-- The object of a frame, with all of the required keys. -/
def loadFrame {py : Interpreter} (json : JsonReader py) (required : List String) (bs : Bytes) :
    Except CodecError Dict :=
  match json.loadsBytes bs with
  | some (.dict frame) =>
      if ∀ k ∈ required, (frame.lookup k).isSome then .ok frame else .error .meshSA
  | _ => .error .meshSA

/-- `float(frame[key])`. -/
def floatItem (py : Interpreter) (frame : Dict) (key : String) : Except PyError PyFloat :=
  item frame key >>= Py.toFloat py.toFloatText

/-- `float(frame.get(key, default))`. -/
def floatOr (py : Interpreter) (frame : Dict) (key : String) (default : PyFloat) :
    Except PyError PyFloat :=
  Py.toFloat py.toFloatText (Dict.get frame key (.float default))

end Frames

open Frames

/-! ## Telemetry -/

namespace TelemetryFrame

/-- `_REQUIRED` of `meshsa/telemetry.py`. -/
def required : List String := ["src", "msg_id", "ts", "lat", "lon"]

/-- The telemetry block that is written. -/
def block (pyd : Pydantic) (payload : Dict) : Except CodecError Dict :=
  match Dict.get? payload "telemetry" with
  | none => .ok []
  | some v =>
      match Telemetry.modelValidate pyd v with
      | some t => .ok t.dump
      | none => .error .meshSA

/-- `TelemetryCodec.encode`. -/
def encode (py : Interpreter) (pyd : Pydantic) (env : Envelope) : Except CodecError Bytes := do
  let node ← escapes (Dict.get env.payload "node" (.dict [])).entries
  let pos ← escapes (Dict.get env.payload "position" (.dict [])).entries
  let block ← block pyd env.payload
  .ok (Py.dumpsBytes py (.dict (
    [("src", .str env.sourceUid), ("callsign", Dict.get node "callsign" (.str env.sourceUid)),
      ("msg_id", .str env.msgId), ("ts", .float env.ts),
      ("lat", Dict.get pos "lat" (.float (.fin 0))), ("lon", Dict.get pos "lon" (.float (.fin 0))),
      ("hae", Dict.get pos "hae" (.float (.fin 0)))] ++
    dumped "course_deg" id (Dict.get? pos "course_deg") ++
    dumped "speed_ms" id (Dict.get? pos "speed_ms") ++
    if block.isEmpty then [] else [("telemetry", .dict block)])))

/-- What the guarded conversions of `decode` return. -/
structure Fields where
  src : String
  msgId : String
  ts : PyFloat
  position : Position
  telemetry : Option Telemetry

/-- The guarded conversions of `decode`. -/
def readFields (py : Interpreter) (pyd : Pydantic) (frame : Dict) : Except PyError Fields := do
  let src ← item frame "src"
  let msgId ← item frame "msg_id"
  let ts ← floatItem py frame "ts"
  let lat ← floatItem py frame "lat"
  let lon ← floatItem py frame "lon"
  let hae ← floatOr py frame "hae" (.fin 0)
  let courseDeg ← validated (optional pyd.float (frame.lookup "course_deg"))
  let speedMs ← validated (optional pyd.float (frame.lookup "speed_ms"))
  let position ← checkedPosition { lat, lon, hae, courseDeg, speedMs }
  let telemetry ← validated (optional (Telemetry.modelValidate pyd) (frame.lookup "telemetry"))
  .ok { src := py.strOf src, msgId := py.strOf msgId, ts, position, telemetry }

/-- The envelope of a frame; a telemetry block without a field is left out. -/
def envelope (py : Interpreter) (frame : Dict) (f : Fields) : Envelope where
  msgId := f.msgId
  ts := f.ts
  sourceUid := f.src
  kind := .pli
  payload := [("node", .dict [("uid", .str f.src),
      ("callsign", .str (py.strOf (Dict.get frame "callsign" (.str f.src))))]),
    ("position", .dict f.position.dump)] ++
      dumped "telemetry" .dict ((f.telemetry.map Telemetry.dump).filter fun d ↦ !d.isEmpty)

/-- `TelemetryCodec.decode`. -/
def decode {py : Interpreter} (json : JsonReader py) (pyd : Pydantic) (bs : Bytes) :
    Except CodecError Envelope := do
  let frame ← loadFrame json required bs
  let f ← guarded (readFields py pyd frame)
  .ok (envelope py frame f)

end TelemetryFrame

/-- `TelemetryCodec`. -/
def telemetryCodec (py : Interpreter) (json : JsonReader py) (pyd : Pydantic) : Codec Bytes where
  encode := TelemetryFrame.encode py pyd
  decode := TelemetryFrame.decode json pyd

/-! ## Detections -/

namespace DetectionFrame

/-- `_REQUIRED` of `meshsa/detection_codec.py`. -/
def required : List String := ["src", "msg_id", "ts", "lat", "lon", "label", "confidence"]

/-- A model that `encode` accepts. -/
def accepted {α : Type} : Option α → Except CodecError α
  | some a => .ok a
  | none => .error .meshSA

/-- `DetectionCodec.encode`. -/
def encode (py : Interpreter) (pyd : Pydantic) (env : Envelope) : Except CodecError Bytes := do
  let pos ← accepted (Position.modelValidate pyd (Dict.getOr env.payload "position" (.dict [])))
  let det ← accepted (Detection.modelValidate pyd (Dict.getOr env.payload "detection" (.dict [])))
  let node ← escapes (Dict.getOr env.payload "node" (.dict [])).entries
  .ok (Py.dumpsBytes py (.dict (
    [("src", .str env.sourceUid), ("callsign", Dict.get node "callsign" (.str det.label)),
      ("msg_id", .str env.msgId), ("ts", .float env.ts), ("lat", .float pos.lat),
      ("lon", .float pos.lon), ("hae", .float pos.hae), ("ce", .float pos.ce),
      ("le", .float pos.le), ("label", .str det.label), ("confidence", .float det.confidence)] ++
    dumped "track_id" .int det.trackId ++ dumped "bearing_deg" .float det.bearingDeg)))

/-- What the guarded conversions of `decode` return. -/
structure Fields where
  src : String
  msgId : String
  ts : PyFloat
  position : Position
  detection : Detection

/-- The guarded conversions of `decode`. -/
def readFields (py : Interpreter) (pyd : Pydantic) (frame : Dict) : Except PyError Fields := do
  let src ← item frame "src"
  let msgId ← item frame "msg_id"
  let ts ← floatItem py frame "ts"
  let lat ← floatItem py frame "lat"
  let lon ← floatItem py frame "lon"
  let hae ← floatOr py frame "hae" (.fin 0)
  let ce ← floatOr py frame "ce" unknownErrorM
  let le ← floatOr py frame "le" unknownErrorM
  let position ← checkedPosition { lat, lon, hae, ce, le }
  let label ← item frame "label"
  let confidence ← floatItem py frame "confidence"
  let trackId ← validated (optional pyd.int (frame.lookup "track_id"))
  let bearingDeg ← validated (optional pyd.float (frame.lookup "bearing_deg"))
  let detection ← checkedDetection { label := py.strOf label, confidence, trackId, bearingDeg }
  .ok { src := py.strOf src, msgId := py.strOf msgId, ts, position, detection }

/-- The envelope of a frame, by default with the label as its callsign. -/
def envelope (py : Interpreter) (frame : Dict) (f : Fields) : Envelope where
  msgId := f.msgId
  ts := f.ts
  sourceUid := f.src
  kind := .marker
  payload := [("node", .dict [("uid", .str f.src),
      ("callsign", .str (py.strOf (Dict.get frame "callsign" (.str f.detection.label))))]),
    ("position", .dict f.position.dump), ("detection", .dict f.detection.dump)]

/-- `DetectionCodec.decode`. -/
def decode {py : Interpreter} (json : JsonReader py) (pyd : Pydantic) (bs : Bytes) :
    Except CodecError Envelope := do
  let frame ← loadFrame json required bs
  let f ← guarded (readFields py pyd frame)
  .ok (envelope py frame f)

end DetectionFrame

/-- `DetectionCodec`. -/
def detectionCodec (py : Interpreter) (json : JsonReader py) (pyd : Pydantic) : Codec Bytes where
  encode := DetectionFrame.encode py pyd
  decode := DetectionFrame.decode json pyd

end DroneComms.Mesh
