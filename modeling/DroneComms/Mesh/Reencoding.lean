import DroneComms.Mesh.Decoding
import DroneComms.Mesh.Families

/-!
# What is decoded is written back

A decoder normalises: it converts, fills in defaults and drops what it does not know.  What it
returns is in a normal form, a `Track` or a `Mark` for the JSON frames.  A normal form is written
to a frame of its own, and that is read as the normal form again, so a second pass through the
codec changes nothing.  A compact frame holds the integers of a fix, and a degree that is read
from one scales to it exactly.
-/

namespace DroneComms.Mesh

open Py (PyFloat Value Dict Interpreter JsonReader Bytes ok_bind)
open Py.Json (WellKeyed)
open Cot (guarded guarded_eq_ok wellKeyed_of_keys wellKeyedMembers_append wellKeyedMembers_dumped
  keys_dumped wellKeyed_telemetry)
open Frames
open Decoding (HasKeys loadFrame_eq_ok telemetry_fields detection_fields)

/-- An envelope is encoded, and decoded as itself. -/
def Reencodes (codec : Codec Bytes) (e : Envelope) : Prop :=
  ∃ b, codec.encode e = .ok b ∧ codec.decode b = .ok e

/-! ## Telemetry -/

namespace TelemetryFrame

/-- The decoder leaves out a block without a field. -/
theorem dumped_filter (x : Option Telemetry) :
    dumped "telemetry" .dict ((x.map Telemetry.dump).filter fun d ↦ !d.isEmpty) =
      dumped "telemetry" (fun b : Telemetry ↦ .dict b.dump) (x.filter fun b ↦ !b.dump.isEmpty) := by
  rw [Option.filter_map, dumped_map]
  rfl

/-- What a telemetry frame is decoded to. -/
structure Track where
  src : String
  callsign : String
  msgId : String
  ts : PyFloat
  position : Position
  block : Option Telemetry
  valid : position.Valid
  errors : position.ce = unknownErrorM ∧ position.le = unknownErrorM
  block_valid : ∀ t ∈ block, t.Valid ∧ t.dump.isEmpty = false

namespace Track

def envelope (t : Track) : Envelope where
  msgId := t.msgId
  ts := t.ts
  sourceUid := t.src
  kind := .pli
  payload := [("node", .dict [("uid", .str t.src), ("callsign", .str t.callsign)]),
    ("position", .dict t.position.dump)] ++
      dumped "telemetry" (fun b : Telemetry ↦ .dict b.dump) t.block

/-- The frame that is written. -/
def frame (t : Track) : Dict :=
  [("src", .str t.src), ("callsign", .str t.callsign), ("msg_id", .str t.msgId),
    ("ts", .float t.ts), ("lat", .float t.position.lat), ("lon", .float t.position.lon),
    ("hae", .float t.position.hae)] ++
    dumped "course_deg" .float t.position.courseDeg ++
    dumped "speed_ms" .float t.position.speedMs ++
    dumped "telemetry" (fun b : Telemetry ↦ .dict b.dump) t.block

/-- The errors of a position are those that the decoder fills in. -/
theorem position_eq (t : Track) :
    ({ lat := t.position.lat, lon := t.position.lon, hae := t.position.hae,
       courseDeg := t.position.courseDeg, speedMs := t.position.speedMs } : Position) =
      t.position := by
  obtain ⟨hce, hle⟩ := t.errors
  generalize t.position = p at hce hle
  obtain ⟨lat, lon, hae, ce, le, course, speed⟩ := p
  cases hce
  cases hle
  rfl

/-- A normal form has no block without a field. -/
theorem filter_block (t : Track) : t.block.filter (fun b ↦ !b.dump.isEmpty) = t.block := by
  cases hblock : t.block with
  | none => rfl
  | some b =>
      obtain ⟨-, hdump⟩ := t.block_valid b hblock
      simp [Option.filter, hdump]

theorem wellKeyed_frame (t : Track) : WellKeyed (.dict t.frame) := by
  refine wellKeyed_of_keys ["src", "callsign", "msg_id", "ts", "lat", "lon", "hae", "course_deg",
    "speed_ms", "telemetry"] (by decide +kernel) ?_ ?_
  · rw [frame, List.map_append, List.map_append, List.map_append]
    exact (((List.Sublist.refl ["src", "callsign", "msg_id", "ts", "lat", "lon", "hae"]).append
      (keys_dumped "course_deg" _ _)).append (keys_dumped "speed_ms" _ _)).append
        (keys_dumped "telemetry" _ _)
  · refine wellKeyedMembers_append (wellKeyedMembers_append (wellKeyedMembers_append ?_ ?_) ?_) ?_
    · exact ⟨trivial, trivial, trivial, trivial, trivial, trivial, trivial, trivial⟩
    · exact wellKeyedMembers_dumped "course_deg" Value.float (fun _ ↦ trivial) _
    · exact wellKeyedMembers_dumped "speed_ms" Value.float (fun _ ↦ trivial) _
    · exact wellKeyedMembers_dumped "telemetry" _ wellKeyed_telemetry _

/-- The required members of a frame. -/
theorem lookup_frame (t : Track) :
    t.frame.lookup "src" = some (.str t.src) ∧ t.frame.lookup "msg_id" = some (.str t.msgId) ∧
      t.frame.lookup "ts" = some (.float t.ts) ∧
        t.frame.lookup "lat" = some (.float t.position.lat) ∧
          t.frame.lookup "lon" = some (.float t.position.lon) ∧
            t.frame.lookup "hae" = some (.float t.position.hae) ∧
              t.frame.lookup "callsign" = some (.str t.callsign) := by
  simp [frame, List.lookup_cons]

/-- The optional members of a frame. -/
theorem get?_frame (t : Track) :
    Dict.get? t.frame "course_deg" = t.position.courseDeg.map .float ∧
      Dict.get? t.frame "speed_ms" = t.position.speedMs.map .float ∧
        Dict.get? t.frame "telemetry" = t.block.map fun b ↦ .dict b.dump := by
  unfold frame
  cases t.position.courseDeg <;> cases t.position.speedMs <;> cases t.block <;>
    exact ⟨rfl, rfl, rfl⟩

variable {py : Interpreter} {json : JsonReader py} {pyd : Pydantic}

/-- A track is written as its frame. -/
theorem encode_envelope (t : Track) :
    encode py pyd t.envelope = .ok (Py.dumpsBytes py (.dict t.frame)) := by
  have hheld := t.position.heldBy_dump
  have hget : Dict.get? t.envelope.payload "telemetry" = t.block.map fun b ↦ .dict b.dump := by
    unfold envelope
    cases t.block with
    | none => rfl
    | some b => rfl
  have hblock : TelemetryFrame.block pyd t.envelope.payload =
      .ok ((t.block.map Telemetry.dump).getD []) := by
    rw [TelemetryFrame.block, hget]
    cases hb : t.block with
    | none => rfl
    | some b => simp [Telemetry.modelValidate_dump pyd (t.block_valid b hb).1]
  refine Py.bind_eq_ok.mpr ⟨_, rfl, Py.bind_eq_ok.mpr ⟨t.position.dump, rfl, ?_⟩⟩
  refine Py.bind_eq_ok.mpr ⟨_, hblock, ?_⟩
  have hlat : Dict.get t.position.dump "lat" (.float (.fin 0)) = .float t.position.lat := by
    rw [Dict.get, hheld.lat]
    rfl
  have hlon : Dict.get t.position.dump "lon" (.float (.fin 0)) = .float t.position.lon := by
    rw [Dict.get, hheld.lon]
    rfl
  have htelemetry : (if ((t.block.map Telemetry.dump).getD []).isEmpty then []
      else [("telemetry", Value.dict ((t.block.map Telemetry.dump).getD []))]) =
        dumped "telemetry" (fun b : Telemetry ↦ .dict b.dump) t.block := by
    cases hb : t.block with
    | none => rfl
    | some b =>
        obtain ⟨-, hdump⟩ := t.block_valid b hb
        rw [Option.map_some, Option.getD_some, if_neg (by simp [hdump])]
        rfl
  rw [hlat, hlon, hheld.hae, hheld.course, hheld.speed, dumped_map, dumped_map, htelemetry]
  rfl

theorem readFields_frame (t : Track) :
    readFields py pyd t.frame = .ok ⟨t.src, t.msgId, t.ts, t.position, t.block⟩ := by
  obtain ⟨hcourse, hspeed, htelemetry⟩ := t.get?_frame
  have hcourse' : optional pyd.float (t.frame.lookup "course_deg") = some t.position.courseDeg :=
    optional_of_get? (fun y _ ↦ pyd.float_float y) hcourse nofun
  have hspeed' : optional pyd.float (t.frame.lookup "speed_ms") = some t.position.speedMs :=
    optional_of_get? (fun y _ ↦ pyd.float_float y) hspeed nofun
  have hread : ∀ b ∈ t.block, Telemetry.modelValidate pyd (.dict b.dump) = some b := by
    intro b hb
    exact Telemetry.modelValidate_dump pyd (t.block_valid b hb).1
  have hdict : ∀ b : Telemetry, Value.dict b.dump ≠ .none := by
    intro b h
    cases h
  have htelemetry' := optional_of_get? hread htelemetry hdict
  obtain ⟨hsrc, hmsgId, hts, hlat, hlon, hhae, -⟩ := t.lookup_frame
  simp only [readFields, floatItem, floatOr, item, Dict.get, hsrc, hmsgId, hts, hlat, hlon, hhae,
    hcourse', hspeed', htelemetry', Option.elim_some, Option.getD_some, Py.toFloat, validated,
    ok_bind, position_eq, checkedPosition_of_valid t.valid, Interpreter.strOf]

theorem hasKeys_frame (t : Track) : HasKeys required t.frame := by
  simp only [HasKeys, required, List.forall_mem_cons]
  obtain ⟨hsrc, hmsgId, hts, hlat, hlon, -⟩ := t.lookup_frame
  rw [hsrc, hmsgId, hts, hlat, hlon]
  exact ⟨rfl, rfl, rfl, rfl, rfl, List.forall_mem_nil _⟩

/-- The frame of a track is read as the track. -/
theorem decode_frame (t : Track) :
    decode json pyd (Py.dumpsBytes py (.dict t.frame)) = .ok t.envelope := by
  have hload : loadFrame json required (Py.dumpsBytes py (.dict t.frame)) = .ok t.frame :=
    loadFrame_eq_ok.mpr ⟨json.loadsBytes_dumps _ t.wellKeyed_frame, t.hasKeys_frame⟩
  refine Py.bind_eq_ok.mpr ⟨t.frame, hload, ?_⟩
  refine Py.bind_eq_ok.mpr ⟨_, by rw [readFields_frame]; rfl, ?_⟩
  obtain ⟨-, -, -, -, -, -, hcallsign⟩ := t.lookup_frame
  rw [TelemetryFrame.envelope, dumped_filter, filter_block, Dict.get, hcallsign]
  rfl

end Track

variable {py : Interpreter} {json : JsonReader py} {pyd : Pydantic}

/-- A decoded envelope is a track. -/
theorem track_of_decode {b : Bytes} {e : Envelope} (h : decode json pyd b = .ok e) :
    ∃ t : Track, e = t.envelope := by
  obtain ⟨frame, -, h⟩ := Py.bind_eq_ok.mp h
  obtain ⟨f, hf, h⟩ := Py.bind_eq_ok.mp h
  cases h
  obtain ⟨hvalid, herrors, htelemetry⟩ := telemetry_fields (guarded_eq_ok hf)
  have hblock : ∀ t ∈ f.telemetry.filter (fun b ↦ !b.dump.isEmpty),
      t.Valid ∧ t.dump.isEmpty = false := by
    intro t ht
    obtain ⟨ht, hdump⟩ := Option.filter_eq_some_iff.mp ht
    exact ⟨htelemetry t ht, by simpa using hdump⟩
  refine ⟨⟨f.src, py.strOf (Dict.get frame "callsign" (.str f.src)), f.msgId, f.ts, f.position,
    _, hvalid, herrors, hblock⟩, ?_⟩
  rw [TelemetryFrame.envelope, dumped_filter]
  rfl

theorem reencodes {b : Bytes} {e : Envelope} (h : decode json pyd b = .ok e) :
    Reencodes (telemetryCodec py json pyd) e := by
  obtain ⟨t, rfl⟩ := track_of_decode h
  exact ⟨_, t.encode_envelope, t.decode_frame⟩

end TelemetryFrame

/-! ## Detections -/

namespace DetectionFrame

/-- What a detection frame is decoded to. -/
structure Mark where
  src : String
  callsign : String
  msgId : String
  ts : PyFloat
  position : Position
  detection : Detection
  valid : position.Valid
  bare : position.courseDeg = none ∧ position.speedMs = none
  detection_valid : detection.Valid

namespace Mark

def envelope (m : Mark) : Envelope where
  msgId := m.msgId
  ts := m.ts
  sourceUid := m.src
  kind := .marker
  payload := [("node", .dict [("uid", .str m.src), ("callsign", .str m.callsign)]),
    ("position", .dict m.position.dump), ("detection", .dict m.detection.dump)]

/-- The frame that is written. -/
def frame (m : Mark) : Dict :=
  [("src", .str m.src), ("callsign", .str m.callsign), ("msg_id", .str m.msgId),
    ("ts", .float m.ts), ("lat", .float m.position.lat), ("lon", .float m.position.lon),
    ("hae", .float m.position.hae), ("ce", .float m.position.ce), ("le", .float m.position.le),
    ("label", .str m.detection.label), ("confidence", .float m.detection.confidence)] ++
    dumped "track_id" .int m.detection.trackId ++
    dumped "bearing_deg" .float m.detection.bearingDeg

/-- A marker has neither course nor speed. -/
theorem position_eq (m : Mark) :
    ({ lat := m.position.lat, lon := m.position.lon, hae := m.position.hae,
       ce := m.position.ce, le := m.position.le } : Position) = m.position := by
  obtain ⟨hcourse, hspeed⟩ := m.bare
  generalize m.position = p at hcourse hspeed
  obtain ⟨lat, lon, hae, ce, le, course, speed⟩ := p
  cases hcourse
  cases hspeed
  rfl

theorem wellKeyed_frame (m : Mark) : WellKeyed (.dict m.frame) := by
  refine wellKeyed_of_keys ["src", "callsign", "msg_id", "ts", "lat", "lon", "hae", "ce", "le",
    "label", "confidence", "track_id", "bearing_deg"] (by decide +kernel) ?_ ?_
  · rw [frame, List.map_append, List.map_append]
    exact ((List.Sublist.refl ["src", "callsign", "msg_id", "ts", "lat", "lon", "hae", "ce", "le",
      "label", "confidence"]).append (keys_dumped "track_id" _ _)).append
        (keys_dumped "bearing_deg" _ _)
  · refine wellKeyedMembers_append (wellKeyedMembers_append ?_ ?_) ?_
    · exact ⟨trivial, trivial, trivial, trivial, trivial, trivial, trivial, trivial, trivial,
        trivial, trivial, trivial⟩
    · exact wellKeyedMembers_dumped "track_id" Value.int (fun _ ↦ trivial) _
    · exact wellKeyedMembers_dumped "bearing_deg" Value.float (fun _ ↦ trivial) _

/-- The required members of a frame. -/
theorem lookup_frame (m : Mark) :
    m.frame.lookup "src" = some (.str m.src) ∧ m.frame.lookup "msg_id" = some (.str m.msgId) ∧
      m.frame.lookup "ts" = some (.float m.ts) ∧
        m.frame.lookup "lat" = some (.float m.position.lat) ∧
          m.frame.lookup "lon" = some (.float m.position.lon) ∧
            m.frame.lookup "label" = some (.str m.detection.label) ∧
              m.frame.lookup "confidence" = some (.float m.detection.confidence) := by
  simp [frame, List.lookup_cons]

/-- The members of a frame that have a default. -/
theorem lookup_frame_default (m : Mark) :
    m.frame.lookup "hae" = some (.float m.position.hae) ∧
      m.frame.lookup "ce" = some (.float m.position.ce) ∧
        m.frame.lookup "le" = some (.float m.position.le) ∧
          m.frame.lookup "callsign" = some (.str m.callsign) := by
  simp [frame, List.lookup_cons]

/-- The optional members of a frame. -/
theorem get?_frame (m : Mark) :
    Dict.get? m.frame "track_id" = m.detection.trackId.map .int ∧
      Dict.get? m.frame "bearing_deg" = m.detection.bearingDeg.map .float := by
  unfold frame
  cases m.detection.trackId <;> cases m.detection.bearingDeg <;> exact ⟨rfl, rfl⟩

variable {py : Interpreter} {json : JsonReader py} {pyd : Pydantic}

/-- A marker is written as its frame. -/
theorem encode_envelope (m : Mark) :
    encode py pyd m.envelope = .ok (Py.dumpsBytes py (.dict m.frame)) := by
  have hposition : accepted (Position.modelValidate pyd
      (Dict.getOr m.envelope.payload "position" (.dict []))) = .ok m.position := by
    show accepted (Position.modelValidate pyd (.dict m.position.dump)) = _
    rw [Position.modelValidate_dump pyd m.valid]
    rfl
  have hdetection : accepted (Detection.modelValidate pyd
      (Dict.getOr m.envelope.payload "detection" (.dict []))) = .ok m.detection := by
    show accepted (Detection.modelValidate pyd (.dict m.detection.dump)) = _
    rw [Detection.modelValidate_dump pyd m.detection_valid]
    rfl
  rw [encode, hposition, hdetection]
  rfl

theorem readFields_frame (m : Mark) :
    readFields py pyd m.frame = .ok ⟨m.src, m.msgId, m.ts, m.position, m.detection⟩ := by
  obtain ⟨htrack, hbearing⟩ := m.get?_frame
  have htrack' : optional pyd.int (m.frame.lookup "track_id") = some m.detection.trackId :=
    optional_of_get? (fun y _ ↦ pyd.int_int y) htrack nofun
  have hbearing' : optional pyd.float (m.frame.lookup "bearing_deg") =
      some m.detection.bearingDeg :=
    optional_of_get? (fun y _ ↦ pyd.float_float y) hbearing nofun
  obtain ⟨hsrc, hmsgId, hts, hlat, hlon, hlabel, hconfidence⟩ := m.lookup_frame
  obtain ⟨hhae, hce, hle, -⟩ := m.lookup_frame_default
  simp only [readFields, floatItem, floatOr, item, Dict.get, hsrc, hmsgId, hts, hlat, hlon, hhae,
    hce, hle, hlabel, hconfidence, htrack', hbearing', Option.elim_some, Option.getD_some,
    Py.toFloat, validated, ok_bind, position_eq, checkedPosition_of_valid m.valid,
    checkedDetection_of_valid m.detection_valid, Interpreter.strOf]

theorem hasKeys_frame (m : Mark) : HasKeys required m.frame := by
  simp only [HasKeys, required, List.forall_mem_cons]
  obtain ⟨hsrc, hmsgId, hts, hlat, hlon, hlabel, hconfidence⟩ := m.lookup_frame
  rw [hsrc, hmsgId, hts, hlat, hlon, hlabel, hconfidence]
  exact ⟨rfl, rfl, rfl, rfl, rfl, rfl, rfl, List.forall_mem_nil _⟩

/-- The frame of a marker is read as the marker. -/
theorem decode_frame (m : Mark) :
    decode json pyd (Py.dumpsBytes py (.dict m.frame)) = .ok m.envelope := by
  have hload : loadFrame json required (Py.dumpsBytes py (.dict m.frame)) = .ok m.frame :=
    loadFrame_eq_ok.mpr ⟨json.loadsBytes_dumps _ m.wellKeyed_frame, m.hasKeys_frame⟩
  refine Py.bind_eq_ok.mpr ⟨m.frame, hload, ?_⟩
  refine Py.bind_eq_ok.mpr ⟨_, by rw [readFields_frame]; rfl, ?_⟩
  obtain ⟨-, -, -, hcallsign⟩ := m.lookup_frame_default
  rw [DetectionFrame.envelope, Dict.get, hcallsign]
  rfl

end Mark

variable {py : Interpreter} {json : JsonReader py} {pyd : Pydantic}

/-- A decoded envelope is a marker. -/
theorem mark_of_decode {b : Bytes} {e : Envelope} (h : decode json pyd b = .ok e) :
    ∃ m : Mark, e = m.envelope := by
  obtain ⟨frame, -, h⟩ := Py.bind_eq_ok.mp h
  obtain ⟨f, hf, h⟩ := Py.bind_eq_ok.mp h
  cases h
  obtain ⟨hvalid, hbare, hdetected⟩ := detection_fields (guarded_eq_ok hf)
  exact ⟨⟨f.src, py.strOf (Dict.get frame "callsign" (.str f.detection.label)), f.msgId, f.ts,
    f.position, f.detection, hvalid, hbare, hdetected⟩, rfl⟩

theorem reencodes {b : Bytes} {e : Envelope} (h : decode json pyd b = .ok e) :
    Reencodes (detectionCodec py json pyd) e := by
  obtain ⟨m, rfl⟩ := mark_of_decode h
  exact ⟨_, m.encode_envelope, m.decode_frame⟩

end DetectionFrame

/-! ## Compact frames -/

namespace Compact

variable {py : Interpreter} {json : JsonReader py}

/-- The integers of a fix are what its position is written as. -/
theorem positionBody_fix {env : Envelope} {fix : Fix} {callsign tier : String} (h : fix.InRange)
    (hcallsign : Fits callsign)
    (hpayload : env.payload = Decoding.fixPayload env.sourceUid callsign tier fix) :
    positionBody py env = .ok (positionBytes fix callsign (tierIndex tier)) := by
  obtain ⟨hlat, hlon, hhae, hce, hle⟩ := h
  have hlatE7 : scaledDegree (.float (degrees fix.latE7)) = .ok fix.latE7 :=
    scaledDegree_degrees (abs_le.mpr ⟨hlat.1, hlat.2.le⟩)
  have hlonE7 : scaledDegree (.float (degrees fix.lonE7)) = .ok fix.lonE7 :=
    scaledDegree_degrees (abs_le.mpr ⟨hlon.1, hlon.2.le⟩)
  have hround : ∀ n : ℤ, rounded (.float (.fin n)) = .ok n := by
    intro n
    show Except.ok (Py.roundEven n) = _
    rw [Py.roundEven_intCast]
  have hraised : ∀ {x : Except Py.PyError ℤ} {n : ℤ}, x = .ok n → raised x = .ok n := by
    rintro x n rfl
    rfl
  rw [positionBody, hpayload]
  refine Py.bind_eq_ok.mpr ⟨_, rfl, Py.bind_eq_ok.mpr ⟨fix.position.dump, rfl, ?_⟩⟩
  refine Py.bind_eq_ok.mpr ⟨fix.latE7, hraised hlatE7, ?_⟩
  refine Py.bind_eq_ok.mpr ⟨fix.lonE7, hraised hlonE7, ?_⟩
  refine Py.bind_eq_ok.mpr ⟨fix.hae, hraised (hround fix.hae), ?_⟩
  refine Py.bind_eq_ok.mpr ⟨_, packI32_eq_ok hlat.1 hlat.2, ?_⟩
  refine Py.bind_eq_ok.mpr ⟨_, packI32_eq_ok hlon.1 hlon.2, ?_⟩
  refine Py.bind_eq_ok.mpr ⟨_, packI32_eq_ok hhae.1 hhae.2, ?_⟩
  refine Py.bind_eq_ok.mpr ⟨fix.ce, hraised (hround fix.ce), ?_⟩
  refine Py.bind_eq_ok.mpr ⟨fix.le, hraised (hround fix.le), ?_⟩
  refine Py.bind_eq_ok.mpr ⟨_, putStr_eq_ok hcallsign, ?_⟩
  rw [clampU16_of_lt hce, clampU16_of_lt hle]
  rfl

/-- A position that is read is written to a body that is read as it. -/
theorem position_trip {env : Envelope} {rest : Bytes}
    (h : readPosition env.sourceUid rest = some (.dict env.payload)) :
    ∃ bytes, positionBody py env = .ok bytes ∧
      readPosition env.sourceUid bytes = some (.dict env.payload) := by
  obtain ⟨fix, rest', callsign, tierIdx, rest'', tier, hfix, hcallsign, htier, hpayload⟩ :=
    Decoding.readPosition_eq_some.mp h
  have hpayload := Value.dict.inj hpayload
  have hrange := readFix_inRange hfix
  have hfits : Fits callsign := Wire.getStr_length hcallsign
  have hmem : tier ∈ tiers := List.mem_of_getElem? htier
  obtain ⟨hbyte, hindex⟩ := tiers_tierIndex tier
  rw [if_pos hmem] at hindex
  refine ⟨_, positionBody_fix hrange hfits hpayload, ?_⟩
  rw [readPosition_bytes hrange hfits hbyte hindex, hpayload]
  rfl

/-- A chat that is read is written to a body that is read as it. -/
theorem chat_trip {env : Envelope} {rest : Bytes} (hkind : env.kind = .chat)
    (h : readChat rest = some (.dict env.payload)) :
    ∃ bytes, body py env = .ok bytes ∧
      readBody json env.kind env.sourceUid bytes = some (.dict env.payload) := by
  obtain ⟨text, room, hpayload, hroom, htext⟩ := readChat_cases h
  have hpayload := Value.dict.inj hpayload
  let addressee : Option String := if room = "" then none else some room
  have hcarries : CarriesChat env text addressee := by
    refine ⟨hkind, ?_, ?_, htext, ?_⟩
    · rw [hpayload]
      by_cases hempty : text = ""
      · subst hempty
        rfl
      · have htruthy : (Value.str text).truthy = true := by simpa [Value.truthy] using hempty
        exact if_pos htruthy
    · rw [hpayload]
      by_cases hempty : room = ""
      · simp [addressee, hempty, Dict.get?, List.lookup_cons]
      · simp [addressee, hempty, Dict.get?, List.lookup_cons]
    · intro room' hroom'
      obtain ⟨-, heq⟩ := Option.ite_none_left_eq_some.mp hroom'
      cases heq
      exact hroom
  have hcontent : (Content.chat text addressee).CarriedBy py env := hcarries
  obtain ⟨bytes, d, hbody, hread, hd⟩ := body_trip json hcontent
  refine ⟨bytes, hbody, ?_⟩
  have hroom : addressee.getD "" = room := by
    by_cases hempty : room = ""
    · simp [addressee, hempty]
    · simp [addressee, hempty]
  rw [Content.Normal, hroom] at hd
  rw [hread, hd, hpayload]

/-- The header of a frame that is read. -/
theorem readHeader_bounds {bs rest : Bytes} {kind : MessageKind} {ts : ℕ}
    {sourceUid msgId : String} (h : readHeader bs = some (kind, ts, sourceUid, msgId, rest)) :
    ts < 2 ^ 32 ∧ Fits sourceUid ∧ Fits msgId := by
  obtain ⟨kindIdx, -, h⟩ := Option.bind_eq_some_iff.mp h
  obtain ⟨kind', -, h⟩ := Option.bind_eq_some_iff.mp h
  obtain ⟨⟨ts', bs⟩, hts, h⟩ := Option.bind_eq_some_iff.mp h
  obtain ⟨⟨source', bs'⟩, hsource, h⟩ := Option.bind_eq_some_iff.mp h
  obtain ⟨⟨msgId', bs''⟩, hid, h⟩ := Option.bind_eq_some_iff.mp h
  cases h
  exact ⟨Wire.unpack_lt hts, Wire.getStr_length hsource, Wire.getStr_length hid⟩

/-- A body with a position or a chat is written to a body that is read as it. -/
theorem body_reencodes {env : Envelope} {rest : Bytes} (hkind : env.kind ≠ .status)
    (h : readBody json env.kind env.sourceUid rest = some (.dict env.payload)) :
    ∃ bytes, body py env = .ok bytes ∧
      readBody json env.kind env.sourceUid bytes = some (.dict env.payload) := by
  cases hk : env.kind with
  | pli =>
      rw [hk] at h
      rw [body, hk]
      exact position_trip h
  | marker =>
      rw [hk] at h
      rw [body, hk]
      exact position_trip h
  | chat =>
      rw [hk] at h
      rw [← hk]
      exact chat_trip hk h
  | status => exact absurd hk hkind

theorem reencodes {supported : List ℤ} {b : Bytes} {e : Envelope}
    (h : decode json supported b = .ok e) (hkind : e.kind ≠ .status) :
    Reencodes (compactCodec py json supported) e := by
  rcases decode_cases h with h | h | ⟨schema, bs, f, rfl, hschema, hf, h⟩
  · cases h
  · cases h
  · obtain ⟨rest, hheader, hbody⟩ := Decoding.readFields_eq_some.mp hf
    obtain ⟨hts, hsource, hid⟩ := readHeader_bounds hheader
    unfold Fields.envelope at h
    split at h
    next d hd =>
      cases h
      rw [hd] at hbody
      let env : Envelope := ⟨schema.toNat, f.msgId, .fin f.ts, f.sourceUid, f.kind, d⟩
      obtain ⟨bytes, hwritten, hread⟩ : ∃ bytes, body py env = .ok bytes ∧
          readBody json env.kind env.sourceUid bytes = some (.dict env.payload) :=
        body_reencodes hkind hbody
      have hbyte : schema.toNat < 256 := schema.toNat_lt
      have hint : Py.intOfFloat env.ts = .ok (f.ts : ℤ) := by
        show Except.ok (Py.truncate (f.ts : ℚ)) = _
        rw [Py.truncate, if_pos (Nat.cast_nonneg _), Int.floor_natCast]
      have hversion : 0 ≤ env.schemaVersion ∧ env.schemaVersion ≤ 255 := by
        show (0 : ℤ) ≤ schema.toNat ∧ (schema.toNat : ℤ) ≤ 255
        omega
      exact frame_trip json hschema hversion hint (by omega) hsource hid hwritten hread
    next => cases h

end Compact

/-! ## The three codecs -/

/-- **Fixpoint.**  What a codec decodes it encodes, and decodes from that again, up to the compact
frames with a JSON payload. -/
theorem decoded_reencodes (py : Interpreter) (json : JsonReader py) (pyd : Pydantic)
    (supported : List ℤ) :
    (∀ b e, (telemetryCodec py json pyd).decode b = .ok e →
      Reencodes (telemetryCodec py json pyd) e) ∧
    (∀ b e, (detectionCodec py json pyd).decode b = .ok e →
      Reencodes (detectionCodec py json pyd) e) ∧
    ∀ b e, (compactCodec py json supported).decode b = .ok e → e.kind ≠ .status →
      Reencodes (compactCodec py json supported) e := by
  refine ⟨?_, ?_, ?_⟩
  · intro b e h
    exact TelemetryFrame.reencodes h
  · intro b e h
    exact DetectionFrame.reencodes h
  · intro b e h hkind
    exact Compact.reencodes h hkind

/-- A telemetry frame without its optional members, with one that the decoder does not know. -/
def sparseFrame : Dict :=
  [("src", .int 7), ("msg_id", .str "m"), ("ts", .float (.fin 1)), ("lat", .float (.fin 2)),
    ("lon", .float (.fin 3)), ("course_deg", .none), ("telemetry", .dict []), ("vendor", .int 1)]

/-- What it is decoded to. -/
def sparseTrack : Envelope where
  msgId := "m"
  ts := .fin 1
  sourceUid := "7"
  kind := .pli
  payload := [("node", .dict [("uid", .str "7"), ("callsign", .str "7")]),
    ("position", .dict [("lat", .float (.fin 2)), ("lon", .float (.fin 3)),
      ("hae", .float (.fin 0)), ("ce", .float (.fin 9999999)), ("le", .float (.fin 9999999))])]

theorem valid_plainPosition : ({ lat := .fin 2, lon := .fin 3 } : Position).Valid := by
  decide +kernel

theorem decode_sparseFrame :
    (telemetryCodec Interpreter.plain JsonReader.plain Pydantic.plain).decode
      (Py.dumpsBytes Interpreter.plain (.dict sparseFrame)) = .ok sparseTrack := by
  have hwell : WellKeyed (.dict sparseFrame) := by decide +kernel
  have hkeys : HasKeys TelemetryFrame.required sparseFrame := by
    unfold HasKeys
    decide +kernel
  have hload : loadFrame JsonReader.plain TelemetryFrame.required
      (Py.dumpsBytes Interpreter.plain (.dict sparseFrame)) = .ok sparseFrame :=
    loadFrame_eq_ok.mpr ⟨JsonReader.plain.loadsBytes_dumps _ hwell, hkeys⟩
  have hposition : checkedPosition { lat := .fin 2, lon := .fin 3 } =
      .ok { lat := .fin 2, lon := .fin 3 } := checkedPosition_of_valid valid_plainPosition
  have htelemetry : Telemetry.modelValidate Pydantic.plain (.dict []) = some {} :=
    Telemetry.modelValidate_dump Pydantic.plain Telemetry.valid_empty
  have hsrc : String.ofList (Decimal.signed 7) = "7" := by decide +kernel
  have hfields : TelemetryFrame.readFields Interpreter.plain Pydantic.plain sparseFrame =
      .ok ⟨"7", "m", .fin 1, { lat := .fin 2, lon := .fin 3 }, some {}⟩ := by
    simp [TelemetryFrame.readFields, floatItem, floatOr, item, Dict.get, sparseFrame,
      List.lookup_cons, ok_bind, validated, optional, Py.toFloat, Interpreter.strOf, hposition,
      htelemetry, hsrc]
  refine Py.bind_eq_ok.mpr ⟨sparseFrame, hload, ?_⟩
  exact Py.bind_eq_ok.mpr ⟨_, by rw [hfields]; rfl, rfl⟩

theorem valid_plainDetection :
    ({ label := "person", confidence := .fin 1 } : Detection).Valid := by
  decide +kernel

/-- A detection of one object. -/
def plainMark : DetectionFrame.Mark where
  src := "d"
  callsign := "person"
  msgId := "m"
  ts := .fin 1
  position := { lat := .fin 2, lon := .fin 3 }
  detection := { label := "person", confidence := .fin 1 }
  valid := valid_plainPosition
  bare := ⟨rfl, rfl⟩
  detection_valid := valid_plainDetection

theorem decoded_reencodes_frames :
    Reencodes (telemetryCodec Interpreter.plain JsonReader.plain Pydantic.plain) sparseTrack ∧
      Reencodes (detectionCodec Interpreter.plain JsonReader.plain Pydantic.plain)
        plainMark.envelope ∧
      ∃ e, Compact.decode JsonReader.plain supportedSchemas Decoding.farNorth = .ok e ∧
        Reencodes (compactCodec Interpreter.plain JsonReader.plain) e := by
  obtain ⟨htelemetry, hdetection, hcompact⟩ :=
    decoded_reencodes Interpreter.plain JsonReader.plain Pydantic.plain supportedSchemas
  refine ⟨htelemetry _ _ decode_sparseFrame, hdetection _ _ plainMark.decode_frame, ?_⟩
  exact ⟨_, rfl, hcompact Decoding.farNorth _ rfl nofun⟩

end DroneComms.Mesh
