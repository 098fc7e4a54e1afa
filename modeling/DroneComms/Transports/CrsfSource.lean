import DroneComms.Fpv.Link
import DroneComms.Fpv.TelemetryParser
import DroneComms.Transports.FlightHistory

/-!
# An FPV aircraft as a track

`CrsfSourceTransport` of `meshsa/transports/crsf_source.py` on the reader thread of
`PollingSourceTransport`: the bytes on the wire as frames of the telemetry codec.  What
each `read` of the port returns is given, and so is what the clock says when the fix of a
number is framed.  Logging, and the clock it looks at, are left out.
-/

namespace DroneComms.Transports

open Fpv Mesh
open Py (PyFloat Value Dict Interpreter JsonReader Bytes)

/-! ## The transport -/

/-- `CrsfSourceTransport`, started. -/
structure CrsfSourceTransport where
  link : CrsfLink
  parser : TelemetryParser := {}
  source : PollingSource
  rxFrames : ℕ := 0
  /-- The reader has not left its loop. -/
  running : Bool := true
  /-- The frames given to `_ingest_nowait`, oldest first. -/
  emitted : List Bytes := []

namespace CrsfSourceTransport

variable (py : Interpreter) (clock : ℕ → PyFloat) (s : CrsfLinkSettings)

/-- The frame of a position. -/
def frameSensor (source : PollingSource) (msg : GpsSensor) :
    Except ParserError (PollingSource × Bytes) :=
  ((Py.floatOfInt msg.altitudeM).mapError .python).map fun hae ↦
    source.positionFrame py ⟨clock (source.seq + 1), msg.latDeg, msg.lonDeg, hae⟩

/-- The body of the loop of `_poll` behind the parser. -/
def framed (source : PollingSource) : Option GpsSensor →
    Except ParserError (PollingSource × List Bytes)
  | none => .ok (source, [])
  | some msg => (frameSensor py clock source msg).map fun f ↦ (f.1, [f.2])

/-- The loop of `_poll`. -/
def collect (parser : TelemetryParser) (source : PollingSource) :
    List CrsfFrame → Except ParserError ((TelemetryParser × PollingSource) × List Bytes)
  | [] => .ok ((parser, source), [])
  | frame :: frames => do
      let sensor ← gpsSensor? (parser.parse frame).1
      let (source, produced) ← framed py clock source sensor
      let (state, rest) ← collect (parser.parse frame).2 source frames
      return (state, produced ++ rest)

/-- `_poll`. -/
def poll (w : CrsfSourceTransport) (chunk : List UInt8) :
    Except ParserError (CrsfSourceTransport × List Bytes) := do
  let (link, frames) ← (w.link.pollInbound s chunk).mapError .python
  let ((parser, source), produced) ← collect py clock w.parser w.source frames
  return ({ w with link, parser, source }, produced)

/-- An iteration of `_reader`: it leaves its loop at an exception. -/
def read (w : CrsfSourceTransport) (chunk : List UInt8) : CrsfSourceTransport :=
  if w.running then
    match w.poll py clock s chunk with
    | .error _ => { w with running := false }
    | .ok (w, produced) =>
        { w with rxFrames := w.rxFrames + produced.length, emitted := w.emitted ++ produced }
  else w

end CrsfSourceTransport

/-! ## What should come out -/

/-- What the frame of the `k`th fix holds. -/
def fixDict (clock : ℕ → PyFloat) (source : PollingSource) (w : GpsWire) (k : ℕ) : Dict :=
  { source with seq := k }.frame
    ⟨clock k, Compact.degrees w.latE7, Compact.degrees w.lonE7, .fin (w.altitude - 1000)⟩

/-- The frame of a fix, as the transport builds it. -/
def fixFrame (py : Interpreter) (clock : ℕ → PyFloat) (source : PollingSource)
    (w : GpsWire × ℕ) : Bytes :=
  Py.dumpsBytes py (.dict (fixDict clock source w.1 w.2))

/-- The fixes in a stream of bytes: the GPS frames that `extract_frames` finds. -/
def fixesOf (s : CrsfLinkSettings) (stream : List UInt8) : List GpsWire :=
  (extractFrames s.crsfMaxFrameLen syncAddresses stream).frames.filterMap CrsfFrame.gps?

section

variable {py : Interpreter} (json : JsonReader py) (pyd : Pydantic)

/-- A frame holds an id. -/
def HasId (id : String) (data : Bytes) : Prop :=
  ∃ frame : Dict, json.loadsBytes data = some (.dict frame) ∧ frame.lookup "msg_id" = some (.str id)

/-- The codec reads a fix from a frame, or refuses it. -/
structure DecodesTo (w : GpsWire) (data : Bytes) : Prop where
  inRange : w.InRange → ∃ env position, (telemetryCodec py json pyd).decode data = .ok env ∧
    Dict.get? env.payload "position" = some (.dict position) ∧
      position.lookup "lat" = some (.float (.ofRat (w.latE7 / 10000000))) ∧
      position.lookup "lon" = some (.float (.ofRat (w.lonE7 / 10000000))) ∧
      position.lookup "hae" = some (.float (.fin (w.altitude - 1000)))
  outOfRange : ¬w.InRange → (telemetryCodec py json pyd).decode data = .error .meshSA

/-- The frames are those of the fixes, in order, with ids of their own. -/
structure MapsOneToOne (fixes : List GpsWire) (frames : List Bytes) : Prop where
  decodes : List.Forall₂ (DecodesTo json pyd) fixes frames
  fresh : ∃ ids : List String, ids.Nodup ∧ List.Forall₂ (HasId json) ids frames

end

namespace CrsfSourceTransport

variable {py : Interpreter} {clock : ℕ → PyFloat} {s : CrsfLinkSettings}

/-! ## One poll -/

/-- The altitude of a frame is a small number. -/
theorem frameSensor_eq (source : PollingSource) {w : GpsWire} {msg : GpsSensor}
    (hlat : msg.latDeg = Compact.degrees w.latE7) (hlon : msg.lonDeg = Compact.degrees w.lonE7)
    (haltitude : msg.altitudeM = w.altitude - 1000) (hw : w.altitude < 2 ^ 16) :
    frameSensor py clock source msg = .ok
      ({ source with seq := source.seq + 1 }, fixFrame py clock source (w, source.seq + 1)) := by
  have hsmall : |(w.altitude : ℤ) - 1000| < 2 ^ 53 := by
    rw [abs_lt]
    constructor <;> omega
  rw [frameSensor, haltitude, floatOfInt_small hsmall, hlat, hlon]
  push_cast
  rfl

/-- The frames of a poll are those of its fixes, numbered on. -/
theorem collect_eq (py : Interpreter) (clock : ℕ → PyFloat) {parser : TelemetryParser}
    (hparser : parser.settings = {}) (source : PollingSource) (frames : List CrsfFrame) :
    ∃ parser' : TelemetryParser, parser'.settings = {} ∧
      collect py clock parser source frames = .ok
        ((parser', { source with seq := source.seq + (frames.filterMap CrsfFrame.gps?).length }),
          ((frames.filterMap CrsfFrame.gps?).zipIdx (source.seq + 1)).map
            (fixFrame py clock source)) := by
  induction frames generalizing parser source with
  | nil => exact ⟨parser, hparser, rfl⟩
  | cons frame frames ih =>
      obtain ⟨o, hsensor, hparsed⟩ := TelemetryParser.parsed_parse hparser frame
      have hnext : (parser.parse frame).2.settings = {} := by
        rw [TelemetryParser.settings_parse, hparser]
      cases hparsed with
      | other hnone =>
          obtain ⟨parser', hparser', hrest⟩ := ih hnext source
          refine ⟨parser', hparser', ?_⟩
          rw [List.filterMap_cons_none hnone, collect, hsensor, Py.ok_bind, framed, Py.ok_bind]
          dsimp only
          rw [hrest]
          rfl
      | gps w msg hsome hlat hlon haltitude =>
          obtain ⟨-, -, hw⟩ := CrsfFrame.fields_of_gps hsome
          obtain ⟨parser', hparser', hrest⟩ := ih hnext { source with seq := source.seq + 1 }
          refine ⟨parser', hparser', ?_⟩
          rw [List.filterMap_cons_some hsome, collect, hsensor, Py.ok_bind, framed,
            frameSensor_eq source hlat hlon haltitude hw]
          show (collect py clock _ _ frames >>= _) = _
          rw [hrest, List.zipIdx_cons, List.length_cons, Nat.add_right_comm source.seq]
          rfl

/-! ## Whole streams -/

/-- No GPS frame is an echo. -/
theorem filterMap_gps_foreign (frames : List CrsfFrame) :
    (frames.filter fun f ↦ ¬OwnRc s f).filterMap CrsfFrame.gps? =
      frames.filterMap CrsfFrame.gps? := by
  rw [List.filterMap_filter]
  congr 1
  funext f
  by_cases hown : OwnRc s f
  · have hnone : f.gps? = none := by
      refine if_neg fun h ↦ ?_
      have htype := h.1.symm.trans hown.1
      cases htype
    simp [hown, hnone]
  · simp [hown]

/-- A transport that has read `stream`. -/
structure HasRead (py : Interpreter) (clock : ℕ → PyFloat) (s : CrsfLinkSettings)
    (source : PollingSource) (w : CrsfSourceTransport) (stream : List UInt8) : Prop where
  running : w.running = true
  settings : w.parser.settings = {}
  recent : w.link.recentTx = []
  buffer : w.link.buffer = (extractFrames s.crsfMaxFrameLen syncAddresses stream).buffer
  counted : w.source = { source with seq := (fixesOf s stream).length }
  rxFrames : w.rxFrames = (fixesOf s stream).length
  emitted : w.emitted = ((fixesOf s stream).zipIdx 1).map (fixFrame py clock source)

variable {source : PollingSource} {w : CrsfSourceTransport} {stream : List UInt8}

/-- A new transport has read nothing. -/
theorem hasRead_nil {link : CrsfLink} (hinit : CrsfLink.init s = .ok link)
    (hseq : source.seq = 0) : HasRead py clock s source { link, source } [] := by
  have hlink := Session.hasRead_nil hinit
  unfold CrsfLink.init at hinit
  split_ifs at hinit
  obtain ⟨tick, -, hlink'⟩ := Py.bind_eq_ok.mp hinit
  cases hlink'
  refine ⟨rfl, rfl, rfl, hlink.buffer, ?_, rfl, rfl⟩
  obtain ⟨uid, callsign, seq⟩ := source
  exact congrArg (PollingSource.mk uid callsign) hseq

/-- What an iteration of the reader makes of a chunk. -/
theorem HasRead.read (h : HasRead py clock s source w stream) (chunk : List UInt8) :
    HasRead py clock s source (w.read py clock s chunk) (stream ++ chunk) := by
  have hfeed := feed_extractFrames s.crsfMaxFrameLen syncAddresses stream chunk
  rw [Extraction.feed, ← h.buffer] at hfeed
  have hrecent : ∀ wire ∈ w.link.recentTx, OwnWire s wire := by simp [h.recent]
  have hsift := CrsfLink.sift_eq_ok hrecent
    (exists_fromBytes s.crsfMaxFrameLen syncAddresses (w.link.buffer ++ chunk))
  have hinbound : w.link.pollInbound s chunk = .ok _ := Py.bind_eq_ok.mpr ⟨_, hsift, rfl⟩
  have hfixes : fixesOf s (stream ++ chunk) = fixesOf s stream ++
      (extractFrames s.crsfMaxFrameLen syncAddresses (w.link.buffer ++ chunk)).frames.filterMap
        CrsfFrame.gps? := by
    rw [fixesOf, ← hfeed, List.filterMap_append]
    rfl
  obtain ⟨parser, hparser, hcollect⟩ := collect_eq py clock h.settings w.source
    ((extractFrames s.crsfMaxFrameLen syncAddresses (w.link.buffer ++ chunk)).frames.filter
      fun f ↦ ¬OwnRc s f)
  rw [filterMap_gps_foreign] at hcollect
  have hpoll : w.poll py clock s chunk = .ok _ :=
    Py.bind_eq_ok.mpr ⟨_, by rw [hinbound]; rfl, Py.bind_eq_ok.mpr ⟨_, hcollect, rfl⟩⟩
  rw [CrsfSourceTransport.read, if_pos h.running, hpoll]
  dsimp only
  have hseq : w.source.seq = (fixesOf s stream).length := by rw [h.counted]
  have hframe : fixFrame py clock w.source = fixFrame py clock source := by
    rw [h.counted]
    rfl
  refine ⟨h.running, hparser, h.recent, ?_, ?_, ?_, ?_⟩
  · rw [← hfeed]
  · rw [hfixes, List.length_append, ← hseq, h.counted]
  · rw [hfixes, List.length_append, h.rxFrames, List.length_map, List.length_zipIdx]
  · rw [hfixes, List.zipIdx_append, List.map_append, h.emitted, hseq, hframe, Nat.add_comm 1]

/-- However a stream is cut, its fixes are emitted and the reader goes on. -/
theorem HasRead.foldl (h : HasRead py clock s source w stream) (chunks : List (List UInt8)) :
    HasRead py clock s source (chunks.foldl (CrsfSourceTransport.read py clock s) w)
      (stream ++ chunks.flatten) := by
  induction chunks generalizing w stream with
  | nil =>
      rw [List.flatten_nil, List.append_nil]
      exact h
  | cons chunk chunks ih =>
      rw [List.flatten_cons, ← List.append_assoc]
      exact ih (h.read chunk)

end CrsfSourceTransport

/-! ## What the codec makes of a frame -/

section

variable {py : Interpreter} {clock : ℕ → PyFloat} {source : PollingSource} {w : GpsWire}
  (json : JsonReader py) (pyd : Pydantic)

theorem loadsBytes_fixFrame (k : ℕ) : json.loadsBytes (fixFrame py clock source (w, k)) =
    some (.dict (fixDict clock source w k)) :=
  json.loadsBytes_dumps _ (FlightHistory.wellKeyed_frame _ _)

theorem hasId_fixFrame (k : ℕ) :
    HasId json (PollingSource.msgId source.sourceUid k) (fixFrame py clock source (w, k)) :=
  ⟨_, loadsBytes_fixFrame json k, rfl⟩

/-- The position of a fix. -/
def positionOf (w : GpsWire) : Position where
  lat := Compact.degrees w.latE7
  lon := Compact.degrees w.lonE7
  hae := .fin (w.altitude - 1000)

/-- The wire form of a position in range. -/
theorem valid_positionOf_iff (hlat : |w.latE7| ≤ 2 ^ 31) (hlon : |w.lonE7| ≤ 2 ^ 31) :
    (positionOf w).Valid ↔ w.InRange := by
  have hlatRange := Decoding.degrees_range (k := 90) hlat (by norm_num)
  have hlonRange := Decoding.degrees_range (k := 180) hlon (by norm_num)
  norm_num at hlatRange hlonRange
  rw [Position.valid_iff, GpsWire.InRange, ← hlatRange, ← hlonRange]
  simp [positionOf]

/-- The conversions of a frame come down to the check of its position. -/
theorem readFields_fixDict (py : Interpreter) (pyd : Pydantic) (clock : ℕ → PyFloat)
    (source : PollingSource) (w : GpsWire) (k : ℕ) :
    TelemetryFrame.readFields py pyd (fixDict clock source w k) =
      Frames.checkedPosition (positionOf w) >>= fun position ↦
        .ok { src := source.sourceUid, msgId := PollingSource.msgId source.sourceUid k,
              ts := clock k, position, telemetry := none } := by
  unfold TelemetryFrame.readFields
  rfl

theorem decodesTo_fixFrame (k : ℕ) (hlat : |w.latE7| ≤ 2 ^ 31) (hlon : |w.lonE7| ≤ 2 ^ 31) :
    DecodesTo json pyd w (fixFrame py clock source (w, k)) := by
  have hframe : Frames.loadFrame json TelemetryFrame.required (fixFrame py clock source (w, k)) =
      .ok (fixDict clock source w k) := by
    refine Decoding.loadFrame_eq_ok.mpr ⟨loadsBytes_fixFrame json k, ?_⟩
    simp only [Decoding.HasKeys, TelemetryFrame.required, List.forall_mem_cons]
    exact ⟨rfl, rfl, rfl, rfl, rfl, List.forall_mem_nil _⟩
  have hread := readFields_fixDict py pyd clock source w k
  constructor
  · intro hrange
    rw [Frames.checkedPosition_of_valid ((valid_positionOf_iff hlat hlon).mpr hrange)] at hread
    have hdecode : (telemetryCodec py json pyd).decode (fixFrame py clock source (w, k)) =
        .ok (TelemetryFrame.envelope py (fixDict clock source w k)
          { src := source.sourceUid, msgId := PollingSource.msgId source.sourceUid k,
            ts := clock k, position := positionOf w, telemetry := none }) := by
      refine Py.bind_eq_ok.mpr ⟨_, hframe, ?_⟩
      rw [hread]
      rfl
    exact ⟨_, (positionOf w).dump, hdecode, rfl, rfl, rfl, rfl⟩
  · intro hrange
    have hinvalid : Frames.checkedPosition (positionOf w) = .error .valueError := by
      rw [Frames.checkedPosition, if_neg (mt (valid_positionOf_iff hlat hlon).mp hrange)]
      rfl
    rw [hinvalid] at hread
    refine Py.bind_eq_error.mpr (.inr ⟨_, hframe, ?_⟩)
    rw [hread]
    rfl

end

/-- The coordinates on the wire are 32-bit integers. -/
theorem abs_le_of_mem_fixesOf {s : CrsfLinkSettings} {stream : List UInt8} {w : GpsWire}
    (hw : w ∈ fixesOf s stream) : |w.latE7| ≤ 2 ^ 31 ∧ |w.lonE7| ≤ 2 ^ 31 := by
  obtain ⟨frame, -, hframe⟩ := List.mem_filterMap.mp hw
  obtain ⟨hlat, hlon, -⟩ := CrsfFrame.fields_of_gps hframe
  exact ⟨hlat, hlon⟩

/-- A relation between the numbered entries of a list and what is made of them. -/
theorem forall₂_map_zipIdx {α β : Type} {R : α → β → Prop} {f : α × ℕ → β} {l : List α} (n : ℕ)
    (h : ∀ x ∈ l, ∀ k, R x (f (x, k))) : List.Forall₂ R l ((l.zipIdx n).map f) := by
  induction l generalizing n with
  | nil => exact .nil
  | cons x l ih =>
      rw [List.zipIdx_cons, List.map_cons]
      exact .cons (h x List.mem_cons_self n) (ih (n + 1) fun y hy ↦ h y (List.mem_cons_of_mem x hy))

/-- The frames of numbered fixes. -/
theorem mapsOneToOne_zipIdx {py : Interpreter} (json : JsonReader py) (pyd : Pydantic)
    (clock : ℕ → PyFloat) (source : PollingSource) {fixes : List GpsWire}
    (hwire : ∀ w ∈ fixes, |w.latE7| ≤ 2 ^ 31 ∧ |w.lonE7| ≤ 2 ^ 31) :
    MapsOneToOne json pyd fixes ((fixes.zipIdx 1).map (fixFrame py clock source)) := by
  constructor
  · refine forall₂_map_zipIdx 1 fun w hw k ↦ ?_
    obtain ⟨hlat, hlon⟩ := hwire w hw
    exact decodesTo_fixFrame json pyd k hlat hlon
  · refine ⟨(List.range' 1 fixes.length).map (PollingSource.msgId source.sourceUid), ?_, ?_⟩
    · exact List.Nodup.map (PollingSource.msgId_injective source.sourceUid) List.nodup_range'
    · rw [← List.zipIdx_map_snd 1 fixes, List.map_map, List.forall₂_map_left_iff,
        List.forall₂_map_right_iff, List.forall₂_same]
      rintro ⟨w, k⟩ -
      exact hasId_fixFrame json k

/-! ## The reader -/

/-- **Survival.**  Whatever the bytes on the wire and the reads they come in, the reader
goes on, and its frames are those of the fixes that `extract_frames` finds in the stream. -/
theorem reader_maps_fixes {py : Interpreter} (json : JsonReader py) (pyd : Pydantic)
    (s : CrsfLinkSettings) (link : CrsfLink) (hinit : CrsfLink.init s = .ok link)
    (sourceUid : String) (callsign : Option String) (clock : ℕ → PyFloat)
    (chunks : List (List UInt8)) :
    let w := chunks.foldl (CrsfSourceTransport.read py clock s)
      { link, source := .init sourceUid callsign }
    w.running = true ∧ w.rxFrames = (fixesOf s chunks.flatten).length ∧
      MapsOneToOne json pyd (fixesOf s chunks.flatten) w.emitted := by
  intro w
  have hread : CrsfSourceTransport.HasRead py clock s (.init sourceUid callsign) w
      ([] ++ chunks.flatten) :=
    (CrsfSourceTransport.hasRead_nil hinit rfl).foldl chunks
  rw [List.nil_append] at hread
  refine ⟨hread.running, hread.rxFrames, ?_⟩
  rw [hread.emitted]
  exact mapsOneToOne_zipIdx json pyd clock _ fun _ hw ↦ abs_le_of_mem_fixesOf hw

/-- Noise and then a fix, cut in two. -/
theorem reader_maps_fix_in_two :
    let w := [[0xFF, 0xC8, 0x00, 0xC8, 0x11, 0x02, 0x05, 0xF5, 0xE1],
      [0x00, 0x0B, 0xEB, 0xC2, 0x00, 0x00, 0x00, 0x00, 0x00, 0x04, 0x4C, 0x07, 0xCC]].foldl
      (CrsfSourceTransport.read .plain (fun _ ↦ .fin 0) { rcChannelCount := 1, echoDedupeLen := 0 })
      { link := { centerTick := 992 }, source := .init "uav-1" none }
    w.running = true ∧ w.rxFrames = 1 ∧
      MapsOneToOne JsonReader.plain Pydantic.plain [⟨100000000, 200000000, 1100⟩] w.emitted := by
  have hfixes : fixesOf { rcChannelCount := 1, echoDedupeLen := 0 }
      [[0xFF, 0xC8, 0x00, 0xC8, 0x11, 0x02, 0x05, 0xF5, 0xE1],
      [0x00, 0x0B, 0xEB, 0xC2, 0x00, 0x00, 0x00, 0x00, 0x00, 0x04, 0x4C, 0x07, 0xCC]].flatten =
        [⟨100000000, 200000000, 1100⟩] := by
    decide +kernel
  have h := reader_maps_fixes JsonReader.plain Pydantic.plain
    { rcChannelCount := 1, echoDedupeLen := 0 } { centerTick := 992 } (by decide +kernel)
    "uav-1" none (fun _ ↦ .fin 0)
    [[0xFF, 0xC8, 0x00, 0xC8, 0x11, 0x02, 0x05, 0xF5, 0xE1],
      [0x00, 0x0B, 0xEB, 0xC2, 0x00, 0x00, 0x00, 0x00, 0x00, 0x04, 0x4C, 0x07, 0xCC]]
  rw [hfixes] at h
  exact h

end DroneComms.Transports
