import DroneComms.Mesh.Frames
import DroneComms.Scout.Dedup
import DroneComms.Scout.Store
import DroneComms.Scout.Sync

/-!
# The scout pipeline

`scout/pipeline.py`: each detection of a batch is aligned, projected, deduplicated,
stored and emitted.  A pipeline that raises leaves what it has done so far.
-/

namespace DroneComms.Scout

open Py (PyFloat Value Interpreter JsonReader)
open Mesh (Envelope Pydantic)

/-- The tunables that the pipeline reads. -/
structure ScoutConfig where
  dedupRadiusM : PyFloat
  syncMaxSkewS : PyFloat
  attitudeSigmaDeg : PyFloat
  posCepM : PyFloat

/-- A sink: whether it raises on an envelope, from what it was handed before. -/
abbrev EmitSink := List Envelope → Envelope → Bool

/-- A pipeline. -/
structure ScoutPipeline where
  camera : Cv.Camera PyFloat
  terrain : Cv.Terrain PyFloat
  params : ScoutConfig
  store : Store
  /-- The ids that `new_id` returns. -/
  ids : ℕ → String
  ids_injective : Function.Injective ids
  blockId : Option String
  emit : Option EmitSink
  py : Interpreter
  json : JsonReader py
  pyd : Pydantic

/-- `make_marker_codec`. -/
def makeMarkerCodec (py : Interpreter) (et : Py.ElementTree) (markerStaleS : PyFloat) :
    Mesh.Codec Py.Bytes :=
  Mesh.cotCodec py et { staleS := markerStaleS }

/-- The counters of a run. -/
structure PipelineStats where
  detectionsIn : ℕ := 0
  projected : ℕ := 0
  droppedSkew : ℕ := 0
  droppedHorizon : ℕ := 0
  merges : ℕ := 0
  pins : ℕ := 0
deriving DecidableEq, Repr

/-- The state of a pipeline, and of its store. -/
structure PipelineState (S : Store) where
  store : S.State
  /-- `_dedup`. -/
  clusters : List Cluster
  merges : ℕ
  /-- The number of ids that were drawn. -/
  nextId : ℕ
  /-- `_sync.dropped`. -/
  dropped : ℕ
  stats : PipelineStats
  /-- The envelopes that the sink was handed, each with its pin. -/
  emitted : List (String × Envelope)
  /-- The history of the deduplicator: each detection, with the pin it joined. -/
  placed : List (GeoDetection × String)

namespace ScoutPipeline

variable (p : ScoutPipeline)

/-- A new pipeline with an empty store. -/
def init : PipelineState p.store where
  store := p.store.empty
  clusters := []
  merges := 0
  nextId := 0
  dropped := 0
  stats := {}
  emitted := []
  placed := []

/-- The `src` of the frames of a detection. -/
def sourceOf (blockId : Option String) : String :=
  match blockId with
  | none => "scout"
  | some id => if id = "" then "scout" else id

/-- The detection frame of a pin. -/
def frame (d : GeoDetection) : Py.Dict :=
  [("src", .str (sourceOf d.blockId)), ("msg_id", .str d.id), ("ts", .float d.ts),
    ("lat", .float d.lat), ("lon", .float d.lon), ("ce", .float d.errorM), ("label", .str d.cls),
    ("confidence", .float d.conf)]

/-- `_to_envelope`. -/
def toEnvelope (d : GeoDetection) : Except Mesh.CodecError Envelope :=
  Mesh.DetectionFrame.decode p.json p.pyd (Py.dumpsBytes p.py (.dict (frame d)))

/-- `emit(_to_envelope(canonical))`, if there is a sink: what it was handed, and whether
that raised. -/
def emitPin (emitted : List (String × Envelope)) (d : GeoDetection) :
    List (String × Envelope) × Except ScoutError Unit :=
  match p.emit with
  | none => (emitted, .ok ())
  | some sink =>
      match p.toEnvelope d with
      | .error _ => (emitted, .error .codec)
      | .ok env => (emitted ++ [(d.id, env)],
          if sink (emitted.map Prod.snd) env then .error .sink else .ok ())

/-- The pin as it is stored: with the status that the operator gave it. -/
def triaged (existing : Option GeoDetection) (canonical : GeoDetection) :
    Except ScoutError GeoDetection :=
  match existing with
  | none => .ok canonical
  | some d => if d.status = .new then .ok canonical else canonical.withStatus d.status.text

/-- A detection that the deduplicator has placed: it is stored and emitted. -/
def storePin (s : PipelineState p.store) (canonical : GeoDetection) :
    PipelineState p.store × Except ScoutError Unit :=
  match triaged (p.store.get s.store canonical.id) canonical with
  | .error e => (s, .error e)
  | .ok d =>
      ({ s with store := p.store.add s.store d, emitted := (p.emitPin s.emitted d).1 },
        (p.emitPin s.emitted d).2)

variable [Py.Libm]

/-- A fix: it is validated, and placed by the deduplicator. -/
def place (s : PipelineState p.store) (det : PixelDetection) (fix : Cv.GroundFix PyFloat) :
    PipelineState p.store × Except ScoutError Unit :=
  let id := p.ids s.nextId
  let s := { s with
    stats.projected := s.stats.projected + 1
    nextId := s.nextId + 1 }
  match GeoDetection.ofFix id p.blockId det fix with
  | .error e => (s, .error e)
  | .ok geo =>
      match Deduplicator.add p.params.dedupRadiusM geo s.clusters with
      | .error e => (s, .error (.math e))
      | .ok added =>
          p.storePin { s with
            clusters := added.clusters
            merges := s.merges + if added.merged then 1 else 0
            placed := s.placed ++ [(geo, added.canonical.id)] } added.canonical

/-- `project_to_ground` of a detection at a pose. -/
def project (fused : FusedPose) (det : PixelDetection) :
    Except Py.MathError (Option (Cv.GroundFix PyFloat)) :=
  Cv.projectToGround fused.pose p.camera det.bbox.cx det.bbox.cy fused.rollDeg (some p.terrain)
    (some p.params.posCepM) (some p.params.attitudeSigmaDeg) Cv.defaultTerrainIters

/-- The round of the loop for a detection. -/
def observe (poses : List FusedPose) (s : PipelineState p.store) (det : PixelDetection) :
    PipelineState p.store × Except ScoutError Unit :=
  let s := { s with stats.detectionsIn := s.stats.detectionsIn + 1 }
  match TimeSync.align p.params.syncMaxSkewS poses det.ts with
  | none => ({ s with dropped := s.dropped + 1 }, .ok ())
  | some fused =>
      match p.project fused det with
      | .error e => (s, .error (.math e))
      | .ok none => ({ s with stats.droppedHorizon := s.stats.droppedHorizon + 1 }, .ok ())
      | .ok (some fix) => p.place s det fix

/-- The loop, which an exception ends. -/
def observeAll (poses : List FusedPose) :
    PipelineState p.store → List PixelDetection → PipelineState p.store × Except ScoutError Unit
  | s, [] => (s, .ok ())
  | s, det :: dets =>
      match p.observe poses s det with
      | (s, .error e) => (s, .error e)
      | (s, .ok ()) => observeAll poses s dets

/-- A batch of poses and detections. -/
structure Batch where
  poses : List FusedPose
  detections : List PixelDetection

/-- The detections of a batch in the order of their timestamps. -/
def Batch.inOrder (b : Batch) : List PixelDetection :=
  b.detections.insertionSort fun a b ↦ PyFloat.lt b.ts a.ts = false

/-- The poses that a batch buffers. -/
def Batch.buffered (b : Batch) : List FusedPose :=
  TimeSync.buffer (max 1 b.poses.length) b.poses

/-- `ingest`. -/
def ingest (s : PipelineState p.store) (b : Batch) :
    PipelineState p.store × Except ScoutError (List GeoDetection) :=
  match p.observeAll b.buffered { s with dropped := 0 } b.inOrder with
  | (s, .error e) => (s, .error e)
  | (s, .ok ()) =>
      let s := { s with
        stats.droppedSkew := s.stats.droppedSkew + s.dropped
        stats.merges := s.merges
        stats.pins := s.clusters.length }
      (s, .ok (s.clusters.map fun c ↦ (p.store.get s.store c.rep.id).getD c.rep))

end ScoutPipeline

/-! ## A sample -/

/-- The platform's functions, at the angles of the sample. -/
abbrev sampleLibm : Py.Libm where
  sin q :=
    if q = 884279719003555 / 562949953421312 then 1
    else if q = -884279719003555 / 1125899906842624 then -1592262918131443 / 2251799813685248
    else 0
  cos q :=
    if q = 884279719003555 / 562949953421312 then
      4967757600021511 / 81129638414606681695789005144064
    else 1
  tan q :=
    if q = 884279719003555 / 1125899906842624 then 9007199254740991 / 9007199254740992
    else if q = 5030569068109113 / 288230376151711744 then 2515539965006353 / 144115188075855872
    else 0
  atan _ := 0
  asin q :=
    if q = 1592262918131443 / 2251799813685248 then 7074237752028439 / 9007199254740992 else 0
  sqrt q :=
    if q = 4503599627370495 / 9007199254740992 then 1592262918131443 / 2251799813685248 else 0
  square q := .fin (Py.binary64 (q * q))
  abs_sin_le q := by split_ifs <;> norm_num
  sqrt_nonneg q _ := by split_ifs <;> norm_num
  square_of_abs_le q _ := ⟨_, Cv.binary64_nonneg (mul_self_nonneg q), rfl⟩
  cos_latitude_nonneg q _ := by split_ifs <;> norm_num

namespace ScoutPipeline

/-- A pipeline over flat ground. -/
def samplePipeline (emit : Option EmitSink) : ScoutPipeline where
  camera := { imgW := 2, imgH := 2, hFovDeg := .fin 90, vFovDeg := .fin 90 }
  terrain _ _ := .ok (.fin 0)
  params := {
    dedupRadiusM := .fin 1
    syncMaxSkewS := .fin (1 / 2)
    attitudeSigmaDeg := .fin 1
    posCepM := .fin (1 / 2) }
  store := inMemoryStore
  ids n := String.ofList (List.replicate n 'a')
  ids_injective m n h := by simpa using congrArg (fun s ↦ s.toList.length) h
  blockId := none
  emit := emit
  py := .plain
  json := .plain
  pyd := .plain

/-- The pose of a camera above the equator that looks down to the east. -/
def eastward (lon : ℚ) : FusedPose where
  pose := {
    lat := .fin 0
    lon := .fin lon
    altAglM := .fin 10
    headingDeg := .fin 90
    pitchDeg := .fin 45 }
  rollDeg := .fin 0
  ts := .fin 0

/-- A detection in the centre of the image. -/
def centred : PixelDetection where
  frameId := "f"
  ts := .fin 0
  bbox := {
    x1 := .fin 0
    y1 := .fin 0
    x2 := .fin 2
    y2 := .fin 2
    finite := by decide
    ordered := by decide }
  cls := "gap"
  conf := .fin 1
  conf_valid := by decide
  ts_finite := rfl

/-- The batch of this detection and a pose. -/
def eastwardBatch (lon : ℚ) : Batch := ⟨[eastward lon], [centred]⟩

end ScoutPipeline

end DroneComms.Scout
