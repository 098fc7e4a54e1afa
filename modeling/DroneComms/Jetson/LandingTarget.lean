import DroneComms.Jetson.Bridge
import DroneComms.Jetson.Ned

/-!
# Publishing a LANDING_TARGET

`LandingTargetBridge.publish` of `mavlink/bridge.py` with `poll_heartbeat`, call by
call.  `gate` and `send` of the bridge leave open what the connection, the pose
source and the projection do; here each of them is asked in the source's order.
What they answer is a parameter (`Link`) over a state of theirs, and the numbers are
those of any arithmetic.  `_compute_time_usec` is one of the answers.
-/

namespace DroneComms.Jetson

open Py Py.Arith

variable {F : Type} [Arith F]

/-! ## Detections -/

/-- `Detection`, with its `bbox`. -/
structure Detection (F : Type) where
  classId : ℤ
  className : String
  confidence : F
  x1 : F
  y1 : F
  x2 : F
  y2 : F

/-- `DetectionResult`. -/
structure DetectionResult (F : Type) where
  detections : List (Detection F)
  width : ℤ
  height : ℤ

/-- `Detection.center`. -/
def Detection.center (d : Detection F) : Except MathError (F × F) := do
  return (← div (d.x1 + d.x2) (lit 2), ← div (d.y1 + d.y2) (lit 2))

/-- `max(detections, key=confidence, default=None)`: the first of the largest. -/
def mostConfident : List (Detection F) → Option (Detection F)
  | [] => none
  | d :: ds => some (ds.foldl (fun best d ↦ if lt best.confidence d.confidence then d else best) d)

/-! ## Messages -/

/-- `MavlinkSettings` with the field of view. -/
structure LandingSettings (F : Type) extends MavlinkSettings where
  fovXRad : F
  fovYRad : F

/-- What the vehicle is told of a position. -/
structure NedFields (F : Type) where
  x : F
  y : F
  z : F
  q : ℤ × ℤ × ℤ × ℤ := (1, 0, 0, 0)
  type : ℤ := 0
  positionValid : ℤ := 1

/-- The arguments of `landing_target_send`. -/
structure LandingTarget (F : Type) where
  timeUsec : ℤ
  targetNum : ℤ := 0
  frame : ℤ
  angleX : F
  angleY : F
  distance : F
  sizeX : F
  sizeY : F
  position : Option (NedFields F) := none

/-- An offset in pixels as a fraction of an image side, or 0 for a side without
pixels. -/
def ofSide (c : F) (side : ℤ) (offset : F → F) : Except MathError F := do
  if side = 0 then return lit 0
  else return offset (← div c (← ofInt side))

/-- `compute_angles`. -/
def computeAngles (d : Detection F) (r : DetectionResult F) (fovXRad fovYRad : F) :
    Except MathError (F × F) := do
  let (cx, cy) ← d.center
  let normX ← ofSide cx r.width (· - lit (1 / 2))
  let normY ← ofSide cy r.height (· - lit (1 / 2))
  return (normX * fovXRad, normY * fovYRad)

/-- The message of `_send_body_frd`. -/
def bodyFrd (s : LandingSettings F) (d : Detection F) (r : DetectionResult F) (timeUsec : ℤ) :
    Except MathError (LandingTarget F) := do
  let (angleX, angleY) ← computeAngles d r s.fovXRad s.fovYRad
  let sizeX ← ofSide (Arith.abs (d.x2 - d.x1)) r.width id
  let sizeY ← ofSide (Arith.abs (d.y2 - d.y1)) r.height id
  return { timeUsec, frame := 12, angleX, angleY, distance := lit 0, sizeX := sizeX * s.fovXRad,
           sizeY := sizeY * s.fovYRad }

/-- `VehiclePose`. -/
structure VehiclePose (F : Type) where
  altAglM : F
  headingDeg : F
  pitchDeg : F
  rollDeg : F

/-- The message of `_send_local_ned`, if there is something to send. -/
def localNed (s : LandingSettings F) (d : Detection F) (r : DetectionResult F)
    (pose : VehiclePose F) (timeUsec : ℤ) : Except MathError (Option (LandingTarget F)) := do
  let (cx, cy) ← d.center
  let ned ← projectPixelToNed ⟨r.width, r.height, s.fovXRad, s.fovYRad⟩ cx cy pose.altAglM
    pose.headingDeg pose.pitchDeg pose.rollDeg
  return ned.map fun ned ↦
    { timeUsec, frame := 1, angleX := lit 0, angleY := lit 0, distance := lit 0, sizeX := lit 0,
      sizeY := lit 0, position := some { x := ned.northM, y := ned.eastM, z := ned.downM } }

/-! ## The collaborators -/

/-- What the bridge asks for, over the state of those it asks.  An exception is an
`X`. -/
structure Link (F X E : Type) where
  /-- The clock of the heartbeat monitor. -/
  now : E → ℚ × E
  /-- `_factory()`, and whether there is a connection. -/
  connect : E → Except X Bool × E
  /-- `recv_match`. -/
  recvMatch : E → Except X (Option Heartbeat) × E
  /-- `_compute_time_usec`. -/
  timeUsec : F → E → Except X ℤ × E
  /-- `_pose_source.latest()`; without a source there is no pose. -/
  latestPose : E → Except X (Option (VehiclePose F)) × E
  /-- `landing_target_send`. -/
  landingTargetSend : LandingTarget F → E → Except X Unit × E
  /-- The `MavlinkError` of a factory that yields nothing. -/
  noConnection : X
  /-- The exception of a computation. -/
  ofMath : MathError → X

/-- The bridge, those it asks, and the calls of `landing_target_send`, the latest
first. -/
structure LinkState (F E : Type) where
  bridge : Bridge
  env : E
  calls : List (LandingTarget F) := []

namespace LinkState

variable {X E : Type}

/-- `start`, if there is no connection. -/
def opened (l : Link F X E) (w : LinkState F E) : Except X Bool × LinkState F E :=
  if w.bridge.conn then (.ok true, w)
  else
    let connected := l.connect w.env
    (connected.1, { w with
      bridge := { w.bridge with conn := connected.1.toOption.getD false }
      env := connected.2 })

/-- Behind `recv_match`. -/
def received (s : LandingSettings F) (l : Link F X E) (w : LinkState F E) :
    Except X (Option Heartbeat) → LinkState F E
  | .ok (some msg) =>
      if isTargetHeartbeat s.toMavlinkSettings msg = some true then
        let beat := l.now w.env
        { w with bridge := w.bridge.beat beat.1, env := beat.2 }
      else w
  | _ => w

/-- A pending heartbeat is taken from the connection, if there is one. -/
def receive (s : LandingSettings F) (l : Link F X E) (w : LinkState F E) :
    Except X Bool → LinkState F E
  | .ok true =>
      let msg := l.recvMatch w.env
      received s l { w with env := msg.2 } msg.1
  | _ => w

/-- `poll_heartbeat`.  In the end the monitor is asked, for a log of its transitions. -/
def pollHeartbeat (s : LandingSettings F) (l : Link F X E) (w : LinkState F E) : LinkState F E :=
  if w.bridge.heartbeat.isNone then w
  else
    let w := receive s l (w.opened l).2 (w.opened l).1
    { w with env := (l.now w.env).2 }

/-- A suppression. -/
def suppress (w : LinkState F E) (reason : Suppression) : Except X Bool × LinkState F E :=
  (.ok false, { w with bridge := w.bridge.noteSuppressed reason })

/-- Behind `landing_target_send`. -/
def messageSent (w : LinkState F E) : Except X Unit → Except X Bool × LinkState F E
  | .ok () => (.ok true, { w with bridge := { w.bridge with suppressedCount := 0 } })
  | .error x => (.error x, w)

/-- A message is passed to `landing_target_send`. -/
def sendMessage (l : Link F X E) (w : LinkState F E) (msg : LandingTarget F) :
    Except X Bool × LinkState F E :=
  let sent := l.landingTargetSend msg w.env
  messageSent { w with env := sent.2, calls := msg :: w.calls } sent.1

/-- `_send_local_ned` behind the pose. -/
def sendLocalNed (s : LandingSettings F) (l : Link F X E) (w : LinkState F E) (d : Detection F)
    (r : DetectionResult F) (timeUsec : ℤ) :
    Except X (Option (VehiclePose F)) → Except X Bool × LinkState F E
  | .error x => (.error x, w)
  | .ok none => w.suppress .noPose
  | .ok (some pose) =>
      match localNed s d r pose timeUsec with
      | .error e => (.error (l.ofMath e), w)
      | .ok none => w.suppress .unprojectable
      | .ok (some msg) => w.sendMessage l msg

/-- The message of the configured frame. -/
def sendFrame (s : LandingSettings F) (l : Link F X E) (w : LinkState F E) (d : Detection F)
    (r : DetectionResult F) : Except X ℤ → Except X Bool × LinkState F E
  | .error x => (.error x, w)
  | .ok timeUsec =>
      match s.frame with
      | .localNed =>
          let pose := l.latestPose w.env
          sendLocalNed s l { w with env := pose.2 } d r timeUsec pose.1
      | .bodyFrd =>
          match bodyFrd s d r timeUsec with
          | .error e => (.error (l.ofMath e), w)
          | .ok msg => w.sendMessage l msg

/-- `publish` behind the connection. -/
def publishOpened (s : LandingSettings F) (l : Link F X E) (w : LinkState F E) (d : Detection F)
    (r : DetectionResult F) (captureT : F) : Except X Bool → Except X Bool × LinkState F E
  | .error x => (.error x, w)
  | .ok false => (.error l.noConnection, w)
  | .ok true =>
      let time := l.timeUsec captureT w.env
      sendFrame s l { w with env := time.2 } d r time.1

/-- `publish` behind the gate. -/
def publishFresh (s : LandingSettings F) (l : Link F X E) (w : LinkState F E) (d : Detection F)
    (r : DetectionResult F) (captureT : F) : Except X Bool × LinkState F E :=
  publishOpened s l (w.opened l).2 d r captureT (w.opened l).1

/-- `publish`. -/
def publish (s : LandingSettings F) (l : Link F X E) (w : LinkState F E) (d : Detection F)
    (r : DetectionResult F) (captureT : F) : Except X Bool × LinkState F E :=
  if !s.enableLandingTarget then (.ok false, w)
  else
    match w.bridge.heartbeat with
    | none => publishFresh s l w d r captureT
    | some monitor =>
        let report := l.now w.env
        if (monitor.report report.1).fresh then
          publishFresh s l { w with env := report.2 } d r captureT
        else suppress { w with env := report.2 } .noHeartbeat

/-! ## The two halves of `publish` -/

/-- How `publish` ends, without its exception. -/
def ending : Except X Bool → Published
  | .ok sent => .returned sent
  | .error _ => .raised

/-- What `send` knows of a call of `publish` behind the gate: some answer leads there, and
no message is passed on by a call that returns `False`. -/
structure Sends (s : LandingSettings F) (w : LinkState F E) (q : Except X Bool × LinkState F E) :
    Prop where
  send : ∃ r, w.bridge.send s.toMavlinkSettings r = some (q.2.bridge, ending q.1)
  calls : q.1 = .ok false → q.2.calls = w.calls

/-- A call of `publish` ends at the gate or behind it. -/
def Refines (s : LandingSettings F) (w : LinkState F E) (q : Except X Bool × LinkState F E) :
    Prop :=
  ∃ now, (w.bridge.gate s.toMavlinkSettings now = some (q.2.bridge, ending q.1) ∧
      q.2.calls = w.calls) ∨
    (w.bridge.gate s.toMavlinkSettings now = none ∧ Sends s w q)

variable {s : LandingSettings F} {l : Link F X E} {w w' : LinkState F E}

/-- The connection of the bridge is open. -/
structure Connected (w w' : LinkState F E) : Prop where
  bridge : w'.bridge = { w.bridge with conn := true }
  calls : w'.calls = w.calls

omit [Arith F] in
theorem Connected.withEnv (h : Connected w w') (env : E) : Connected w { w' with env } :=
  ⟨h.bridge, h.calls⟩

omit [Arith F] in
theorem sends_raised (h : w'.bridge = { w.bridge with conn := true }) (x : X) :
    Sends s w (.error x, w') where
  send := by
    refine ⟨.raises, ?_⟩
    rw [h]
    rfl
  calls := nofun

omit [Arith F] in
theorem Connected.raised (h : Connected w w') (x : X) : Sends s w (.error x, w') :=
  sends_raised h.bridge x

omit [Arith F] in
theorem Connected.suppress (h : Connected w w') (hframe : s.frame = .localNed)
    {reason : Suppression} (hreason : reason = .noPose ∨ reason = .unprojectable) :
    Sends s w (w'.suppress reason : Except X Bool × LinkState F E) where
  send := by
    rcases hreason with rfl | rfl
    · refine ⟨.noPose, ?_⟩
      rw [Bridge.send, if_pos hframe, LinkState.suppress, h.bridge]
      rfl
    · refine ⟨.unprojectable, ?_⟩
      rw [Bridge.send, if_pos hframe, LinkState.suppress, h.bridge]
      rfl
  calls _ := h.calls

omit [Arith F] in
theorem sends_messageSent (h : w'.bridge = { w.bridge with conn := true }) (sent : Except X Unit) :
    Sends s w (w'.messageSent sent) := by
  cases sent with
  | error x => exact sends_raised h x
  | ok _ =>
      refine ⟨⟨.sent, ?_⟩, nofun⟩
      rw [messageSent, h]
      rfl

omit [Arith F] in
theorem Connected.sendMessage (h : Connected w w') (msg : LandingTarget F) :
    Sends s w (w'.sendMessage l msg) := by
  apply sends_messageSent
  exact h.bridge

theorem Connected.sendLocalNed (h : Connected w w') (hframe : s.frame = .localNed)
    (d : Detection F) (r : DetectionResult F) (timeUsec : ℤ)
    (pose : Except X (Option (VehiclePose F))) :
    Sends s w (LinkState.sendLocalNed s l w' d r timeUsec pose) := by
  rcases pose with x | _ | pose
  · exact h.raised x
  · exact h.suppress hframe (.inl rfl)
  · simp only [LinkState.sendLocalNed]
    rcases localNed s d r pose timeUsec with e | _ | msg
    · exact h.raised _
    · exact h.suppress hframe (.inr rfl)
    · exact h.sendMessage msg

theorem Connected.sendFrame (h : Connected w w') (d : Detection F) (r : DetectionResult F)
    (time : Except X ℤ) : Sends s w (LinkState.sendFrame s l w' d r time) := by
  cases time with
  | error x => exact h.raised x
  | ok timeUsec =>
      simp only [LinkState.sendFrame]
      split
      · rename_i hframe
        exact (h.withEnv _).sendLocalNed hframe d r timeUsec _
      · cases bodyFrd s d r timeUsec with
        | error e => exact h.raised _
        | ok msg => exact h.sendMessage msg

/-- How the connection is opened lazily. -/
inductive Opened (w : LinkState F E) : Except X Bool × LinkState F E → Prop
  | failed (x : X) (env : E) (h : w.bridge.conn = false) : Opened w (.error x, { w with env })
  | nothing (env : E) (h : w.bridge.conn = false) : Opened w (.ok false, { w with env })
  | connection (w' : LinkState F E) (h : Connected w w') : Opened w (.ok true, w')

omit [Arith F] in
theorem opened_opened : Opened w (w.opened l) := by
  unfold opened
  cases hconn : w.bridge.conn with
  | true => exact .connection w ⟨by rw [← hconn], rfl⟩
  | false =>
      have hsame : { w.bridge with conn := false } = w.bridge := by rw [← hconn]
      simp only
      rcases (l.connect w.env).1 with x | conn
      · simp only [Except.toOption, Option.getD_none, hsame]
        exact .failed x _ hconn
      · cases conn with
        | false =>
            simp only [Except.toOption, Option.getD_some, hsame]
            exact .nothing _ hconn
        | true => exact .connection _ ⟨rfl, rfl⟩

/-- Behind the gate the answers of the collaborators make one of `send`'s. -/
theorem sends_publishFresh (d : Detection F) (r : DetectionResult F) (captureT : F) :
    Sends s w (publishFresh s l w d r captureT) := by
  have hopened := opened_opened (w := w) (l := l)
  unfold publishFresh
  generalize w.opened l = q at hopened
  cases hopened with
  | failed x env hconn =>
      refine ⟨⟨.openRaises, ?_⟩, ?_⟩
      · rw [Bridge.send, hconn]
        rfl
      · intro hok
        cases hok
  | nothing env hconn =>
      refine ⟨⟨.openNone, ?_⟩, ?_⟩
      · rw [Bridge.send, hconn]
        rfl
      · intro hok
        cases hok
  | connection w' h => exact (h.withEnv _).sendFrame d r _

/-- **`publish` refines its two halves.** -/
theorem publish_refines (d : Detection F) (r : DetectionResult F) (captureT : F) :
    Refines s w (w.publish s l d r captureT) := by
  unfold publish
  cases henable : s.enableLandingTarget with
  | false =>
      refine ⟨0, .inl ⟨?_, rfl⟩⟩
      rw [Bridge.gate, henable]
      rfl
  | true =>
      cases hmonitor : w.bridge.heartbeat with
      | none =>
          refine ⟨0, .inr ⟨?_, sends_publishFresh d r captureT⟩⟩
          rw [Bridge.gate, henable, hmonitor]
          rfl
      | some monitor =>
          have hgate : w.bridge.gate s.toMavlinkSettings (l.now w.env).1 =
              if (monitor.report (l.now w.env).1).fresh then none
              else some (w.bridge.noteSuppressed .noHeartbeat, .returned false) := by
            rw [Bridge.gate, henable, hmonitor]
            rfl
          refine ⟨(l.now w.env).1, ?_⟩
          rw [hgate]
          dsimp only
          cases hfresh : (monitor.report (l.now w.env).1).fresh with
          | false => exact .inl ⟨rfl, rfl⟩
          | true =>
              have hsends : Sends s { w with env := (l.now w.env).2 } _ :=
                sends_publishFresh (l := l) d r captureT
              exact .inr ⟨rfl, ⟨hsends.send, hsends.calls⟩⟩

end LinkState

end DroneComms.Jetson
