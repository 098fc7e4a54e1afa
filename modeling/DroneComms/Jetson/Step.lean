import DroneComms.Jetson.LandingTarget
import DroneComms.Jetson.Pipeline
import DroneComms.Lib.Window

/-!
# One frame after the other

`Pipeline.step` and `Pipeline.snapshot` of `jetson_yolo_gcs/pipeline.py` as they run:
camera, detector, tracker, stream and bridge in turn, with every exit by an exception.
What the devices do is a parameter over a state of theirs (`Devices`), so that asking
one of them twice, or not at all, makes a difference to all that comes.  The tracker
is no device: what it does at a frame is part of the call (`TrackOutcome`).
-/

namespace DroneComms.Jetson

open Py Py.Arith

variable {F : Type}

/-- `Frame`, with its pixels. -/
structure CameraFrame (F D : Type) where
  t : F
  data : D

/-- How `detect` ends. -/
inductive Detect (F X : Type) where
  | detectionError
  | raised (x : X)
  | result (r : DetectionResult F)

/-- What the pipeline asks of its devices, over their state. -/
structure Devices (F D X W : Type) where
  readFrame : W → Except X (Option (CameraFrame F D)) × W
  now : W → ℚ × W
  detect : D → W → Detect F X × W
  /-- `stream.write`. -/
  write : D → W → Except X Unit × W
  pollHeartbeat : W → Except X Unit × W
  publish : Detection F → DetectionResult F → F → W → Except X Bool × W
  /-- `heartbeat_status()`, without its reasons. -/
  heartbeatFresh : W → Option Bool × W
  suppressedSnapshot : W → Suppression → ℕ

/-- What a tracker does at a frame: its tracks by their ids, or an exception. -/
inductive TrackOutcome where
  | raised
  | tracks (ids : List ℤ)
deriving DecidableEq, Repr

/-- What a `Pipeline` is built with. -/
structure StepSettings extends PipelineSettings where
  /-- There is a stream. -/
  stream : Bool := false
  /-- There is a bridge. -/
  bridge : Bool := true
  targetClasses : Option (List String) := none
  fpsWindow : ℕ := 30
  livenessTimeoutS : ℚ := 2

/-- A call of `bridge.publish` with its arguments, and how it ended. -/
structure Attempt (F X : Type) where
  target : Detection F
  result : DetectionResult F
  captureT : F
  outcome : Except X Bool

/-- A `Pipeline` and its devices. -/
structure Loop (F X W : Type) where
  world : W
  counters : Counters := {}
  droppedStream : ℕ := 0
  /-- `_times` of the `FpsCounter`. -/
  ticks : List ℚ := []
  lastFrameT : Option ℚ := none
  tracksActive : ℕ := 0
  tracksTotal : ℕ := 0
  droppedTracks : ℕ := 0
  maxTrackId : Option ℤ := none
  /-- The calls of `bridge.publish`, the latest first. -/
  attempts : List (Attempt F X) := []

namespace Loop

variable {D X W : Type}

/-- A frame has been read. -/
def noteFrame (s : StepSettings) (d : Devices F D X W) (p : Loop F X W) : Loop F X W :=
  let (tick, world) := d.now p.world
  let (t, world) := d.now world
  { p with world, ticks := Window.lastN s.fpsWindow (p.ticks ++ [tick]), lastFrameT := some t }

/-- A track of a frame is counted if its id is above those before the frame. -/
def countTrack (prevMax : Option ℤ) (p : Loop F X W) (id : ℤ) : Loop F X W :=
  { p with
    tracksTotal := if prevMax.all (· < id) then p.tracksTotal + 1 else p.tracksTotal
    maxTrackId := if p.maxTrackId.all (· < id) then some id else p.maxTrackId }

/-- `_update_tracks`. -/
def updateTracks (p : Loop F X W) : TrackOutcome → Loop F X W
  | .raised => { p with droppedTracks := p.droppedTracks + 1 }
  | .tracks ids =>
      ids.foldl (countTrack p.maxTrackId) { p with tracksActive := ids.length }

/-- The frame goes to the stream, if there is one. -/
def writeStream (s : StepSettings) (d : Devices F D X W) (p : Loop F X W) (data : D) :
    Loop F X W :=
  if s.stream then
    let written := d.write data p.world
    { p with
      world := written.2
      droppedStream := match written.1 with
        | .ok () => p.droppedStream
        | .error _ => p.droppedStream + 1 }
  else p

/-- `_select_target`. -/
def selectTarget [Arith F] (s : StepSettings) (r : DetectionResult F) : Option (Detection F) :=
  match s.targetClasses with
  | none => mostConfident r.detections
  | some classes => mostConfident (r.detections.filter fun d ↦ classes.contains d.className)

/-- The policy of `_publish_target` behind a call of `publish`.  The clock is read for
a message that was sent. -/
def settle (s : StepSettings) (d : Devices F D X W) (p : Loop F X W) :
    Except X Bool → Except X Bool × Loop F X W
  | .error x =>
      let settled := p.counters.published s.toPipelineSettings 0 .raised
      (if settled.2 then .error x else .ok true, { p with counters := settled.1 })
  | .ok false =>
      (.ok true, { p with
        counters := (p.counters.published s.toPipelineSettings 0 (.returned false)).1 })
  | .ok true =>
      (.ok true, { p with
        world := (d.now p.world).2
        counters :=
          (p.counters.published s.toPipelineSettings (d.now p.world).1 (.returned true)).1 })

/-- `_publish_target`. -/
def publishTarget (s : StepSettings) (d : Devices F D X W) (p : Loop F X W)
    (target : Detection F) (r : DetectionResult F) (captureT : F) : Except X Bool × Loop F X W :=
  let published := d.publish target r captureT p.world
  settle s d { p with
    world := published.2
    attempts := ⟨target, r, captureT, published.1⟩ :: p.attempts } published.1

/-- Behind `poll_heartbeat`. -/
def afterPoll [Arith F] (s : StepSettings) (d : Devices F D X W) (p : Loop F X W) (captureT : F)
    (r : DetectionResult F) : Except X Unit → Except X Bool × Loop F X W
  | .error x => (.error x, p)
  | .ok () => (selectTarget s r).elim (.ok true, p) fun target ↦ publishTarget s d p target r captureT

/-- The bridge is served, if there is one. -/
def serveBridge [Arith F] (s : StepSettings) (d : Devices F D X W) (p : Loop F X W) (captureT : F)
    (r : DetectionResult F) : Except X Bool × Loop F X W :=
  if s.bridge then
    let polled := d.pollHeartbeat p.world
    afterPoll s d { p with world := polled.2 } captureT r polled.1
  else (.ok true, p)

/-- A result is tracked, streamed and published. -/
def useResult [Arith F] (s : StepSettings) (d : Devices F D X W) (tracker : Option TrackOutcome)
    (p : Loop F X W) (frame : CameraFrame F D) (r : DetectionResult F) :
    Except X Bool × Loop F X W :=
  serveBridge s d (writeStream s d (tracker.elim p p.updateTracks) frame.data) frame.t r

/-- Behind `detect`. -/
def afterDetect [Arith F] (s : StepSettings) (d : Devices F D X W) (tracker : Option TrackOutcome)
    (p : Loop F X W) (frame : CameraFrame F D) : Detect F X → Except X Bool × Loop F X W
  | .detectionError =>
      (.ok true, { p with
        counters := { p.counters with droppedDetections := p.counters.droppedDetections + 1 } })
  | .raised x => (.error x, p)
  | .result r => useResult s d tracker p frame r

/-- Behind `read_frame`. -/
def afterRead [Arith F] (s : StepSettings) (d : Devices F D X W) (tracker : Option TrackOutcome)
    (p : Loop F X W) : Except X (Option (CameraFrame F D)) → Except X Bool × Loop F X W
  | .error x => (.error x, p)
  | .ok none => (.ok false, p)
  | .ok (some frame) =>
      let p := noteFrame s d p
      let detected := d.detect frame.data p.world
      afterDetect s d tracker { p with world := detected.2 } frame detected.1

/-- `step`, with or without a tracker. -/
def step [Arith F] (s : StepSettings) (d : Devices F D X W) (tracker : Option TrackOutcome)
    (p : Loop F X W) : Except X Bool × Loop F X W :=
  let read := d.readFrame p.world
  afterRead s d tracker { p with world := read.2 } read.1

end Loop

/-! ## Snapshots -/

/-- `round(x, digits)`, in exact arithmetic. -/
def roundTo (digits : ℕ) (x : ℚ) : ℚ := roundEven (x * 10 ^ digits) / 10 ^ digits

/-- `FpsCounter.fps`. -/
def fps (ticks : List ℚ) : ℚ :=
  match ticks, ticks.getLast? with
  | first :: _ :: _, some last =>
      if last - first ≤ 0 then 0 else ((ticks.length - 1 : ℕ) : ℚ) / (last - first)
  | _, _ => 0

/-- What `snapshot` returns. -/
structure Snapshot where
  fps : ℚ
  droppedDetections : ℕ
  droppedStream : ℕ
  landingTargetPublished : ℕ
  landingTargetSuppressed : ℕ
  landingTargetSuppressedByReason : Suppression → ℕ
  landingTargetCadenceViolations : ℕ
  landingTargetPublishFailures : ℕ
  landingTargetHeartbeatFresh : Option Bool
  tracksActive : ℕ
  tracksTotal : ℕ
  droppedTracks : ℕ
  lastFrameAgeS : Option ℚ
  live : Bool

namespace Loop

variable {D X W : Type}

/-- `snapshot`. -/
def snapshot (s : StepSettings) (d : Devices F D X W) (maxAgeS : Option ℚ) (p : Loop F X W) :
    Snapshot × Loop F X W :=
  let lastAge := p.lastFrameT.map ((d.now p.world).1 - ·)
  let world := p.lastFrameT.elim p.world fun _ ↦ (d.now p.world).2
  let status := if s.bridge then d.heartbeatFresh world else (none, world)
  ({ fps := roundTo 2 (fps p.ticks)
     droppedDetections := p.counters.droppedDetections
     droppedStream := p.droppedStream
     landingTargetPublished := p.counters.landingTargetPublished
     landingTargetSuppressed := p.counters.landingTargetSuppressed
     landingTargetSuppressedByReason :=
       if s.bridge then d.suppressedSnapshot status.2 else fun _ ↦ 0
     landingTargetCadenceViolations := p.counters.landingTargetCadenceViolations
     landingTargetPublishFailures := p.counters.landingTargetPublishFailures
     landingTargetHeartbeatFresh := status.1
     tracksActive := p.tracksActive
     tracksTotal := p.tracksTotal
     droppedTracks := p.droppedTracks
     lastFrameAgeS := lastAge.map (roundTo 3)
     live := lastAge.any (· ≤ maxAgeS.getD s.livenessTimeoutS) }, { p with world := status.2 })

end Loop

/-! ## Runs -/

/-- A call of the pipeline, with what the tracker does if there is one. -/
inductive PipelineCall where
  | step (tracked : TrackOutcome)
  | snapshot (maxAgeS : Option ℚ)

/-- What a call returns or raises. -/
inductive Returned (X : Type) where
  | step (r : Except X Bool)
  | snapshot (snap : Snapshot)

namespace Loop

variable {D X W : Type} [Arith F]

def call (s : StepSettings) (d : Devices F D X W) (tracking : Bool) (p : Loop F X W) :
    PipelineCall → Returned X × Loop F X W
  | .step tracked => Prod.map .step id (step s d (if tracking then some tracked else none) p)
  | .snapshot maxAgeS => Prod.map .snapshot id (snapshot s d maxAgeS p)

/-- The calls of a run, one after the other. -/
def run (s : StepSettings) (d : Devices F D X W) (tracking : Bool) :
    Loop F X W → List PipelineCall → List (Returned X) × Loop F X W
  | p, [] => ([], p)
  | p, c :: cs =>
      let called := call s d tracking p c
      Prod.map (called.1 :: ·) id (run s d tracking called.2 cs)

end Loop

/-! ## Tracking aside -/

/-- A snapshot without what comes from the tracker. -/
def Snapshot.untracked (snap : Snapshot) : Snapshot :=
  { snap with tracksActive := 0, tracksTotal := 0, droppedTracks := 0 }

def Returned.untracked {X : Type} : Returned X → Returned X
  | .step r => .step r
  | .snapshot snap => .snapshot snap.untracked

namespace Loop

variable {D X W : Type}

/-- A pipeline without what its tracker has brought it to. -/
def untracked (p : Loop F X W) : Loop F X W :=
  { p with tracksActive := 0, tracksTotal := 0, droppedTracks := 0, maxTrackId := none }

@[simp] theorem untracked_attempts (p : Loop F X W) : p.untracked.attempts = p.attempts := rfl

variable {s : StepSettings} {d : Devices F D X W}

@[simp] theorem untracked_untracked (p : Loop F X W) : p.untracked.untracked = p.untracked := rfl

theorem untracked_countTracks (prevMax : Option ℤ) (ids : List ℤ) (p : Loop F X W) :
    (ids.foldl (countTrack prevMax) p).untracked = p.untracked := by
  induction ids generalizing p with
  | nil => rfl
  | cons id ids ih => exact ih (countTrack prevMax p id)

/-- The tracker changes nothing else. -/
theorem untracked_updateTracks (p : Loop F X W) (o : TrackOutcome) :
    (p.updateTracks o).untracked = p.untracked := by
  cases o with
  | raised => rfl
  | tracks ids => exact untracked_countTracks _ _ _

theorem writeStream_untracked (p : Loop F X W) (data : D) :
    writeStream s d p.untracked data = (writeStream s d p data).untracked := by
  simp only [writeStream]
  cases s.stream <;> rfl

theorem settle_untracked (p : Loop F X W) (outcome : Except X Bool) :
    settle s d p.untracked outcome = Prod.map id untracked (settle s d p outcome) := by
  rcases outcome with _ | _ | _ <;> rfl

theorem publishTarget_untracked (p : Loop F X W) (target : Detection F) (r : DetectionResult F)
    (captureT : F) : publishTarget s d p.untracked target r captureT =
      Prod.map id untracked (publishTarget s d p target r captureT) :=
  settle_untracked { p with
    world := (d.publish target r captureT p.world).2
    attempts := ⟨target, r, captureT, (d.publish target r captureT p.world).1⟩ :: p.attempts } _

variable [Arith F]

theorem afterPoll_untracked (p : Loop F X W) (captureT : F) (r : DetectionResult F)
    (polled : Except X Unit) : afterPoll s d p.untracked captureT r polled =
      Prod.map id untracked (afterPoll s d p captureT r polled) := by
  cases polled with
  | error x => rfl
  | ok _ =>
      simp only [afterPoll]
      cases selectTarget s r with
      | none => rfl
      | some target => exact publishTarget_untracked p target r captureT

theorem serveBridge_untracked (p : Loop F X W) (captureT : F) (r : DetectionResult F) :
    serveBridge s d p.untracked captureT r =
      Prod.map id untracked (serveBridge s d p captureT r) := by
  simp only [serveBridge]
  cases s.bridge with
  | false => rfl
  | true =>
      exact afterPoll_untracked { p with world := (d.pollHeartbeat p.world).2 } captureT r
        (d.pollHeartbeat p.world).1

/-- Behind the tracker nothing depends on it. -/
theorem useResult_untracked (tracker : Option TrackOutcome) (p : Loop F X W)
    (frame : CameraFrame F D) (r : DetectionResult F) :
    useResult s d none p.untracked frame r =
      Prod.map id untracked (useResult s d tracker p frame r) := by
  have hstart : p.untracked = (tracker.elim p p.updateTracks).untracked := by
    cases tracker with
    | none => rfl
    | some o => exact (untracked_updateTracks p o).symm
  rw [useResult, Option.elim_none, hstart, writeStream_untracked, serveBridge_untracked, useResult]

theorem afterDetect_untracked (tracker : Option TrackOutcome) (p : Loop F X W)
    (frame : CameraFrame F D) (detected : Detect F X) :
    afterDetect s d none p.untracked frame detected =
      Prod.map id untracked (afterDetect s d tracker p frame detected) := by
  cases detected with
  | result r => exact useResult_untracked tracker p frame r
  | _ => rfl

theorem afterRead_untracked (tracker : Option TrackOutcome) (p : Loop F X W)
    (read : Except X (Option (CameraFrame F D))) : afterRead s d none p.untracked read =
      Prod.map id untracked (afterRead s d tracker p read) := by
  rcases read with _ | _ | frame
  · rfl
  · rfl
  · exact afterDetect_untracked tracker { noteFrame s d p with
      world := (d.detect frame.data (noteFrame s d p).world).2 } frame _

/-- One step does with a tracker what it does without one. -/
theorem step_untracked (tracker : Option TrackOutcome) (p : Loop F X W) :
    step s d none p.untracked = Prod.map id untracked (step s d tracker p) :=
  afterRead_untracked tracker { p with world := (d.readFrame p.world).2 } _

theorem call_untracked (tracking : Bool) (p : Loop F X W) (c : PipelineCall) :
    call s d false p.untracked c =
      Prod.map Returned.untracked untracked (call s d tracking p c) := by
  cases c with
  | step tracked =>
      show Prod.map Returned.step id (step s d none p.untracked) = _
      rw [step_untracked (if tracking then some tracked else none) p]
      rfl
  | snapshot maxAgeS => rfl

theorem run_untracked (tracking : Bool) (p : Loop F X W) (calls : List PipelineCall) :
    run s d false p.untracked calls =
      Prod.map (List.map Returned.untracked) untracked (run s d tracking p calls) := by
  induction calls generalizing p with
  | nil => rfl
  | cons c cs ih =>
      simp only [run]
      rw [call_untracked tracking p c]
      show Prod.map _ id (run s d false (call s d tracking p c).2.untracked cs) = _
      rw [ih (call s d tracking p c).2]
      rfl

/-- **Tracking does not interfere.**  Whatever the tracker does, the attempts to publish, what
the steps return or raise and the snapshots, but for the tracks in them, are those of the
run without a tracker. -/
theorem tracking_noninterference (s : StepSettings) (d : Devices F D X W) (p : Loop F X W)
    (calls : List PipelineCall) :
    (run s d true p calls).2.attempts = (run s d false p calls).2.attempts ∧
      (run s d true p calls).1.map Returned.untracked =
        (run s d false p calls).1.map Returned.untracked := by
  have hsame : Prod.map (List.map Returned.untracked) untracked (run s d true p calls) =
      Prod.map (List.map Returned.untracked) untracked (run s d false p calls) := by
    rw [← run_untracked true p calls, ← run_untracked false p calls]
  have hloop := congrArg (fun r ↦ r.2.attempts) hsame
  exact ⟨hloop, congrArg Prod.fst hsame⟩

end Loop

end DroneComms.Jetson
