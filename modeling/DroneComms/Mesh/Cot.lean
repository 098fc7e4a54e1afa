import DroneComms.Mesh.Payloads
import DroneComms.Py.ElementTree

/-!
# Cursor on Target

`CotCodec` of `meshsa/cot.py`: an envelope as a CoT event and back, one function
per event shape over the configured names.  An encoder builds an element, and
any exception of it leaves `encode` as it is.  A decoder turns most exceptions
into a `MeshSAError`, but not those of `_decode_point`, not an `OverflowError`
and not what the logging of a malformed detail raises.
-/

namespace DroneComms.Mesh

open Py (PyFloat Value Dict PyError Element Interpreter ElementTree Bytes)

/-- `_CotNaming`. -/
structure CotNaming where
  staleS : PyFloat := .fin 120
  how : String := "m-g"
  pliType : String := "a-f-G-U-C"
  chatType : String := "b-t-f"
  markerType : String := "a-u-G"
  cotVersion : String := "2.0"
  trackElement : String := "track"
  statusElement : String := "status"
  attitudeElement : String := "attitude"
  detectionElement : String := "_meshsa_det"
  batteryAttr : String := "battery"
  vendorElement : String := "_meshsa"
  emitDetail : Bool := true

/-- `s.startswith(p)`. -/
def startswith (s p : String) : Bool := p.toList.isPrefixOf s.toList

namespace CotNaming

/-- The attributes of `<event>`. -/
def event (naming : CotNaming) (uid etype : String) (ts : PyFloat) :
    Except PyError (List (String × String)) := do
  let time ← Py.iso ts
  let stale ← Py.iso (ts.add naming.staleS)
  .ok [("version", naming.cotVersion), ("uid", uid), ("type", etype), ("how", naming.how),
    ("time", time), ("start", time), ("stale", stale)]

/-- `kind_for`. -/
def kindFor (naming : CotNaming) (etype : String) : MessageKind :=
  if etype = naming.markerType then .marker
  else if etype = naming.pliType ∨ startswith etype "a-" then .pli
  else .marker

end CotNaming

namespace Cot

variable (py : Interpreter) (et : ElementTree) (naming : CotNaming)

/-! ## Encoding -/

/-- An element without text. -/
def node (tag : String) (attrib : List (String × String)) (children : List Element := []) :
    Element := .mk tag attrib "" children

/-- The attributes for those of the keys that are present, under their names. -/
def attrs (d : Dict) (names : List (String × String)) : List (String × String) :=
  names.filterMap fun p ↦ (Dict.get? d p.2).map fun v ↦ (p.1, py.strOf v)

/-- `_point`. -/
def point (pos : Dict) : Element :=
  node "point" [("lat", py.strOf (Dict.get pos "lat" (.float (.fin 0)))),
    ("lon", py.strOf (Dict.get pos "lon" (.float (.fin 0)))),
    ("hae", py.strOf (Dict.get pos "hae" (.float (.fin 0)))),
    ("ce", py.strOf (Dict.get pos "ce" (.float unknownErrorM))),
    ("le", py.strOf (Dict.get pos "le" (.float unknownErrorM)))]

/-- An element that is left out without attributes. -/
def nodeOfAttrs (tag : String) (attrib : List (String × String)) : List Element :=
  if attrib.isEmpty then [] else [node tag attrib]

/-- The track element, if both of its values are present. -/
def trackOf (pos : Dict) : List Element :=
  match Dict.get? pos "course_deg", Dict.get? pos "speed_ms" with
  | some course, some speed =>
      [node naming.trackElement [("course", py.strOf course), ("speed", py.strOf speed)]]
  | _, _ => []

/-- `_emit_richer_detail`. -/
def emitRicherDetail (pos : Dict) (telemetry : Value) : Except PyError (List Element) := do
  let telemetry ← telemetry.entries
  let attitude ← (Dict.getOr telemetry "attitude" (.dict [])).entries
  .ok (trackOf py naming pos ++
    nodeOfAttrs naming.statusElement (attrs py telemetry [(naming.batteryAttr, "battery_pct")]) ++
    nodeOfAttrs naming.vendorElement
      (attrs py telemetry [("battery_v", "battery_v"), ("current_a", "current_a")]) ++
    nodeOfAttrs naming.attitudeElement
      (attrs py attitude [("roll", "roll_deg"), ("pitch", "pitch_deg"), ("yaw", "yaw_deg")]))

/-- The richer detail, unless it is switched off. -/
def richerDetail (payload pos : Dict) : Except PyError (List Element) :=
  if naming.emitDetail then
    emitRicherDetail py naming pos (Dict.getOr payload "telemetry" (.dict []))
  else .ok []

/-- `encode_pli`. -/
def encodePli (env : Envelope) : Except PyError Element := do
  let attrib ← naming.event env.sourceUid naming.pliType env.ts
  let pos ← (Dict.get env.payload "position" (.dict [])).entries
  let info ← (Dict.get env.payload "node" (.dict [])).entries
  let richer ← richerDetail py naming env.payload pos
  .ok (node "event" attrib [point py pos, node "detail" []
    ([node "contact" [("callsign", py.strOf (Dict.get info "callsign" (.str env.sourceUid)))],
      node "__group" [("name", py.strOf (Dict.get info "tier" (.str ""))),
        ("role", "Team Member")]] ++ richer)])

/-- `_detection_attrs`; a detection without confidence has none. -/
def detectionAttrs (det : Dict) (label : String) : List (String × String) :=
  match Dict.get? det "confidence" with
  | none => []
  | some conf => [("label", label), ("confidence", py.strOf conf)] ++
      attrs py det [("track_id", "track_id"), ("bearing_deg", "bearing_deg")]

/-- The label with the confidence. -/
def confidenceRemarks (det : Dict) (label : String) : Except PyError String :=
  match Dict.get? det "confidence" with
  | none => .ok label
  | some conf => do
      let x ← Py.toFloat py.toFloatText conf
      .ok (label ++ " " ++ py.fixed0 (x.scale 100) ++ "%")

/-- `_marker_remarks`. -/
def markerRemarks (det : Dict) (label : String) : Except PyError String := do
  let remarks ← confidenceRemarks py det label
  match Dict.get? det "bearing_deg" with
  | none => .ok remarks
  | some bearing => do
      let x ← Py.toFloat py.toFloatText bearing
      .ok (remarks ++ " bearing " ++ py.fixed0 x ++ "°")

/-- The uid of a marker: one per tracked object. -/
def markerUid (sourceUid : String) (det : Dict) : String :=
  match Dict.get? det "track_id" with
  | none => sourceUid
  | some trackId => sourceUid ++ ":" ++ py.strOf trackId

/-- `encode_marker`. -/
def encodeMarker (env : Envelope) : Except PyError Element := do
  let pos ← (Dict.getOr env.payload "position" (.dict [])).entries
  let det ← (Dict.getOr env.payload "detection" (.dict [])).entries
  let info ← (Dict.getOr env.payload "node" (.dict [])).entries
  let label := py.strOf (Dict.get det "label" (.str "detection"))
  let callsign := py.strOf (Dict.get info "callsign" (.str label))
  let attrib ← naming.event (markerUid py env.sourceUid det) naming.markerType env.ts
  let remarks ← markerRemarks py det label
  .ok (node "event" attrib [point py pos, node "detail" []
    ([node "contact" [("callsign", callsign)]] ++
      nodeOfAttrs naming.detectionElement (detectionAttrs py det label) ++
      [.mk "remarks" [] remarks []])])

/-- The text of an element, which `tostring` refuses if it is no string. -/
def elementText : Value → Except PyError String
  | .str s => .ok s
  | v => if v.truthy then .error .typeError else .ok ""

/-- `encode_chat`. -/
def encodeChat (env : Envelope) : Except PyError Element := do
  let attrib ← naming.event env.msgId naming.chatType env.ts
  let text ← elementText (Dict.get env.payload "text" (.str ""))
  let unknown := py.str unknownErrorM
  let room (default : String) := py.strOf (Dict.getOr env.payload "to" (.str default))
  .ok (node "event" attrib [
    node "point" [("lat", "0.0"), ("lon", "0.0"), ("hae", "0.0"), ("ce", unknown),
      ("le", unknown)],
    node "detail" []
      [node "__chat" [("senderCallsign", env.sourceUid), ("id", room "All Chat Rooms")]
        [node "chatgrp" [("uid0", env.sourceUid), ("uid1", room "All")]],
      .mk "remarks" [] text []]])

/-- `encode_envelope`. -/
def encodeEnvelope (env : Envelope) : Except PyError Element :=
  match env.kind with
  | .chat => encodeChat py naming env
  | .marker => encodeMarker py naming env
  | _ => encodePli py naming env

/-! ## Decoding -/

/-- An exception that is not caught. -/
def escapes {α : Type} : Except PyError α → Except CodecError α
  | .ok a => .ok a
  | .error _ => .error .other

/-- `except (TypeError, ValueError)`. -/
def guarded {α : Type} : Except PyError α → Except CodecError α
  | .ok a => .ok a
  | .error .typeError | .error .valueError => .error .meshSA
  | .error _ => .error .other

/-- `except (TypeError, ValueError)` of `_decode_richer_detail`, where the handler writes the
detail for the log first. -/
def logged {α : Type} (detail : Option Element) (x : Except PyError α) : Except CodecError α :=
  match guarded x with
  | .error .meshSA => if detail.all et.serializes then .error .meshSA else .error .other
  | outcome => outcome

/-- What `_parse_event` returns. -/
structure Event where
  ev : Element
  uid : String
  etype : String
  ts : PyFloat

/-- `_parse_event`, where every exception is caught. -/
def parseEvent (data : Bytes) : Option Event := do
  let ev ← et.fromstring data
  if ev.tag ≠ "event" then none
  else do
    let uid ← ev.get "uid"
    let ts ← py.parseTs ((ev.get "time").getD (String.ofList (Py.isoText 0)))
    some { ev, uid, etype := (ev.get "type").getD "", ts }

/-- `_envelope`. -/
def envelope (e : Event) (kind : MessageKind) (payload : Dict) : Envelope where
  msgId := e.uid ++ ":" ++ (e.ev.get "time").getD ""
  ts := e.ts
  sourceUid := e.uid
  kind := kind
  payload := payload

/-- `_decode_chat`. -/
def decodeChat (e : Event) (detail : Option Element) : Envelope :=
  let text := ((detail.bind fun d ↦ d.find "remarks").map Element.text).getD ""
  envelope e .chat [("text", .str text), ("to", .none)]

/-- `float(el.attrib[key])` if the attribute is there. -/
def floatAttr (el : Element) (key : String) : Except PyError (Option PyFloat) :=
  match el.get key with
  | none => .ok none
  | some s => (Py.floatOfStr py.toFloatText s).map some

/-- `_decode_point`. -/
def decodePoint : Option Element → Except PyError Position
  | none => .ok { lat := .fin 0, lon := .fin 0 }
  | some pt => do
      let lat ← floatAttr py pt "lat"
      let lon ← floatAttr py pt "lon"
      let hae ← floatAttr py pt "hae"
      let ce ← floatAttr py pt "ce"
      let le ← floatAttr py pt "le"
      .ok { lat := lat.getD (.fin 0), lon := lon.getD (.fin 0), hae := hae.getD (.fin 0),
            ce := ce.getD unknownErrorM, le := le.getD unknownErrorM }

/-- `_decode_track`. -/
def decodeTrack (detail : Element) (pos : Position) : Except PyError Position :=
  match detail.find naming.trackElement with
  | none => .ok pos
  | some track => do
      let course ← floatAttr py track "course"
      let speed ← floatAttr py track "speed"
      .ok { pos with courseDeg := course, speedMs := speed }

/-- `int(float(...))` of the battery attribute. -/
def batteryAttr (detail : Element) : Except PyError (Option ℤ) :=
  match (detail.find naming.statusElement).bind fun status ↦ status.get naming.batteryAttr with
  | none => .ok none
  | some s => do
      let x ← Py.floatOfStr py.toFloatText s
      let n ← Py.intOfFloat x
      .ok (some n)

/-- `_decode_status_and_vendor`. -/
def decodeStatusAndVendor (detail : Element) : Except PyError Telemetry := do
  let batteryPct ← batteryAttr py naming detail
  match detail.find naming.vendorElement with
  | none => .ok { batteryPct }
  | some vendor => do
      let batteryV ← floatAttr py vendor "battery_v"
      let currentA ← floatAttr py vendor "current_a"
      .ok { batteryPct, batteryV, currentA }

/-- `_decode_attitude`; without an angle there is no attitude. -/
def decodeAttitude (detail : Element) (telemetry : Telemetry) : Except PyError Telemetry :=
  match detail.find naming.attitudeElement with
  | none => .ok telemetry
  | some attitude => do
      let rollDeg ← floatAttr py attitude "roll"
      let pitchDeg ← floatAttr py attitude "pitch"
      let yawDeg ← floatAttr py attitude "yaw"
      let a : Attitude := { rollDeg, pitchDeg, yawDeg }
      .ok (if a = {} then telemetry else { telemetry with attitude := some a })

/-- The conversions of `_decode_richer_detail`, if there is a detail. -/
def decodeRicherDetail (detail : Option Element) (pos : Position) :
    Except PyError (Position × Telemetry) :=
  match detail with
  | none => .ok (pos, {})
  | some detail => do
      let pos ← decodeTrack py naming detail pos
      let telemetry ← decodeStatusAndVendor py naming detail
      let telemetry ← decodeAttitude py naming detail telemetry
      .ok (pos, telemetry)

/-- `int(el.attrib["track_id"])` if the attribute is there. -/
def trackIdAttr (el : Element) : Except PyError (Option ℤ) :=
  match el.get "track_id" with
  | none => .ok none
  | some s => (Py.intOfString py s).map some

/-- `_decode_detection`. -/
def decodeDetection (detail : Option Element) : Except PyError (Option Detection) :=
  match detail.bind fun d ↦ d.find naming.detectionElement with
  | none => .ok none
  | some el =>
      match el.get "confidence" with
      | none => .ok none
      | some conf => do
          let confidence ← Py.floatOfStr py.toFloatText conf
          let trackId ← trackIdAttr py el
          let bearingDeg ← floatAttr py el "bearing_deg"
          let d : Detection :=
            { label := (el.get "label").getD "detection", confidence, trackId, bearingDeg }
          if d.Valid then .ok (some d) else .error .valueError

/-- The payload of a track or a marker. -/
def payload (uid callsign : String) (pos : Position) (telemetry : Telemetry)
    (detection : Option Detection) : Dict :=
  [("node", .dict [("uid", .str uid), ("callsign", .str callsign)]),
    ("position", .dict pos.dump)] ++
    (if telemetry = {} then [] else [("telemetry", .dict telemetry.dump)]) ++
      dumped "detection" (fun d : Detection ↦ .dict d.dump) detection

/-- The detection of a marker. -/
def detectionOf (kind : MessageKind) (detail : Option Element) :
    Except CodecError (Option Detection) :=
  if kind = .marker then guarded (decodeDetection py naming detail) else .ok none

/-- The callsign of an event. -/
def callsignOf (e : Event) : String :=
  (((e.ev.find "detail").bind fun d ↦ d.find "contact").bind fun c ↦ c.get "callsign").getD e.uid

/-- `_validated_track`. -/
def validatedTrack (track : Position × Telemetry) : Except CodecError (Position × Telemetry) :=
  if track.1.Valid ∧ track.2.Valid then .ok track else .error .meshSA

/-- A non-chat event. -/
def decodeTrackEvent (e : Event) : Except CodecError Envelope := do
  let pos ← escapes (decodePoint py (e.ev.find "point"))
  let detail := e.ev.find "detail"
  let track ← logged et detail (decodeRicherDetail py naming detail pos)
  let (pos, telemetry) ← validatedTrack track
  let kind := naming.kindFor e.etype
  let detection ← detectionOf py naming kind detail
  .ok (envelope e kind (payload e.uid (callsignOf e) pos telemetry detection))

/-- `decode_event`. -/
def decodeEvent (data : Bytes) : Except CodecError Envelope :=
  match parseEvent py et data with
  | none => .error .meshSA
  | some e =>
      if startswith e.etype "b-t-f" ∨ startswith e.etype "b.t.f" then
        .ok (decodeChat e (e.ev.find "detail"))
      else decodeTrackEvent py et naming e

end Cot

/-- `CotCodec`. -/
def cotCodec (py : Interpreter) (et : ElementTree) (naming : CotNaming := {}) : Codec Bytes where
  encode env := Cot.escapes ((Cot.encodeEnvelope py naming env).map Py.Xml.tostring)
  decode := Cot.decodeEvent py et naming

end DroneComms.Mesh
