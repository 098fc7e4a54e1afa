import DroneComms.Jetson.Step

/-!
# The accounts of LANDING_TARGET

The pipeline on the bridge, its only caller.  Pipeline and bridge count apart: the
pipeline what became of its attempts, the bridge why it suppressed them.  An attempt
that raises is passed on once the failures since the last message that was sent are
more than tolerated.
-/

namespace DroneComms.Jetson

open Py Py.Arith

variable {F D E X : Type}

/-! ## The bridge as a device -/

/-- What is asked of a device other than the bridge. -/
def onEnv {α : Type} (ask : E → α × E) (w : LinkState F E) : α × LinkState F E :=
  ((ask w.env).1, { w with env := (ask w.env).2 })

/-- `heartbeat_status`. -/
def LinkState.heartbeatFresh (l : Link F X E) (w : LinkState F E) : Option Bool × LinkState F E :=
  match w.bridge.heartbeat with
  | none => (none, w)
  | some monitor =>
      let report := l.now w.env
      (some (monitor.report report.1).fresh, { w with env := report.2 })

/-- The devices with a `LandingTargetBridge` for a bridge. -/
def Devices.withBridge [Arith F] (d : Devices F D X E) (b : LandingSettings F) (l : Link F X E) :
    Devices F D X (LinkState F E) where
  readFrame := onEnv d.readFrame
  now := onEnv d.now
  detect data := onEnv (d.detect data)
  write data := onEnv (d.write data)
  pollHeartbeat w := (.ok (), w.pollHeartbeat b l)
  publish target r captureT w := w.publish b l target r captureT
  heartbeatFresh := LinkState.heartbeatFresh l
  suppressedSnapshot w := w.bridge.suppressed

/-! ## The books of the bridge -/

namespace Bridge

/-- The suppressions of all reasons. -/
def reasons (b : Bridge) : ℕ :=
  b.suppressed .noHeartbeat + b.suppressed .noPose + b.suppressed .unprojectable

@[simp] theorem reasons_noteSuppressed (b : Bridge) (reason : Suppression) :
    (b.noteSuppressed reason).reasons = b.reasons + 1 := by
  cases reason <;> simp [reasons, noteSuppressed, Function.update] <;> ring

variable {s : MavlinkSettings} {b b' : Bridge} {now : ℚ} {p : Published}

theorem reasons_gate (henable : s.enableLandingTarget = true)
    (h : b.gate s now = some (b', p)) : p = .returned false ∧ b'.reasons = b.reasons + 1 := by
  rw [gate, if_pos henable] at h
  split at h
  · cases h
  · split_ifs at h
    cases h
    exact ⟨rfl, reasons_noteSuppressed b _⟩

/-- `send` has noted a reason if it returns `False`. -/
theorem reasons_send {r : Sent} (h : b.send s r = some (b', p)) :
    b'.reasons = if p = .returned false then b.reasons + 1 else b.reasons := by
  cases r <;> simp only [send, Option.ite_none_left_eq_some, Option.ite_none_right_eq_some,
    Option.some.injEq, Prod.mk.injEq] at h
  case noPose | unprojectable =>
      obtain ⟨-, rfl, rfl⟩ := h
      rw [if_pos rfl, reasons_noteSuppressed]
      rfl
  case openRaises | openNone =>
      obtain ⟨-, rfl, rfl⟩ := h
      rfl
  case raises | sent =>
      obtain ⟨rfl, rfl⟩ := h
      rfl

end Bridge

namespace LinkState

variable {b : LandingSettings F} {l : Link F X E} {w : LinkState F E}

/-- A call of `publish` that returns `False` has passed no message on, and with the feature
enabled it has noted its reason. -/
theorem publish_accounts [Arith F] (target : Detection F) (r : DetectionResult F) (captureT : F) :
    ((w.publish b l target r captureT).1 = .ok false →
      (w.publish b l target r captureT).2.calls = w.calls) ∧
    (b.enableLandingTarget = true → (w.publish b l target r captureT).2.bridge.reasons =
      if ending (w.publish b l target r captureT).1 = .returned false then w.bridge.reasons + 1
      else w.bridge.reasons) := by
  obtain ⟨now, ⟨hgate, hcalls⟩ | ⟨-, ⟨answer, hsend⟩, hcalls⟩⟩ :=
    publish_refines (w := w) (s := b) (l := l) target r captureT
  · refine ⟨fun _ ↦ hcalls, fun henable ↦ ?_⟩
    obtain ⟨hending, hreasons⟩ := Bridge.reasons_gate henable hgate
    rw [if_pos hending, hreasons]
  · exact ⟨hcalls, fun _ ↦ Bridge.reasons_send hsend⟩

/-- No suppression is noted, and no message is passed on. -/
structure Quiet (w w' : LinkState F E) : Prop where
  suppressed : w'.bridge.suppressed = w.bridge.suppressed
  calls : w'.calls = w.calls

theorem Quiet.refl (w : LinkState F E) : Quiet w w := ⟨rfl, rfl⟩

theorem Quiet.trans {w' w'' : LinkState F E} (h : Quiet w w') (h' : Quiet w' w'') :
    Quiet w w'' := ⟨h'.1.trans h.1, h'.2.trans h.2⟩

theorem quiet_opened : Quiet w (w.opened l).2 := by
  unfold opened
  split <;> exact ⟨rfl, rfl⟩

theorem quiet_receive (conn : Except X Bool) : Quiet w (receive b l w conn) := by
  rcases conn with _ | _ | _
  · exact .refl w
  · exact .refl w
  · simp only [receive]
    rcases (l.recvMatch w.env).1 with _ | _ | msg
    · exact ⟨rfl, rfl⟩
    · exact ⟨rfl, rfl⟩
    · simp only [received]
      split <;> exact ⟨rfl, rfl⟩

theorem quiet_pollHeartbeat : Quiet w (w.pollHeartbeat b l) := by
  unfold pollHeartbeat
  split
  · exact .refl w
  · have hopened : Quiet w (w.opened l).2 := quiet_opened
    have hquiet := hopened.trans (quiet_receive (b := b) (l := l) (w.opened l).1)
    exact ⟨hquiet.suppressed, hquiet.calls⟩

theorem quiet_heartbeatFresh : Quiet w (w.heartbeatFresh l).2 := by
  unfold heartbeatFresh
  split
  · exact .refl w
  · exact ⟨rfl, rfl⟩

end LinkState

/-! ## The books of the pipeline -/

/-- The failures since the last message that was sent. -/
def streak : List (Attempt F X) → ℕ
  | [] => 0
  | a :: as =>
      match a.outcome with
      | .ok true => 0
      | .ok false => streak as
      | .error _ => streak as + 1

namespace Loop

/-- The books agree. -/
structure Accounted (b : LandingSettings F) (p : Loop F X (LinkState F E)) : Prop where
  streak : p.counters.consecutivePublishFailures = streak p.attempts
  attempts : p.counters.landingTargetPublished + p.counters.landingTargetSuppressed +
    p.counters.landingTargetPublishFailures = p.attempts.length
  reasons : b.enableLandingTarget = true →
    p.world.bridge.reasons = p.counters.landingTargetSuppressed

/-- No attempt has been made. -/
structure Idle (p q : Loop F X (LinkState F E)) : Prop where
  quiet : p.world.Quiet q.world
  attempts : q.attempts = p.attempts
  published : q.counters.landingTargetPublished = p.counters.landingTargetPublished
  suppressed : q.counters.landingTargetSuppressed = p.counters.landingTargetSuppressed
  failures : q.counters.landingTargetPublishFailures = p.counters.landingTargetPublishFailures
  consecutive : q.counters.consecutivePublishFailures = p.counters.consecutivePublishFailures

variable {p q q' : Loop F X (LinkState F E)}

theorem Idle.refl (p : Loop F X (LinkState F E)) : Idle p p :=
  ⟨.refl _, rfl, rfl, rfl, rfl, rfl⟩

theorem Idle.trans (h : Idle p q) (h' : Idle q q') : Idle p q' where
  quiet := h.quiet.trans h'.quiet
  attempts := h'.attempts.trans h.attempts
  published := h'.published.trans h.published
  suppressed := h'.suppressed.trans h.suppressed
  failures := h'.failures.trans h.failures
  consecutive := h'.consecutive.trans h.consecutive

theorem Idle.keeps_accounts {b : LandingSettings F} (h : Idle p q) (hp : p.Accounted b) :
    q.Accounted b where
  streak := by rw [h.consecutive, h.attempts, hp.streak]
  attempts := by rw [h.published, h.suppressed, h.failures, h.attempts, hp.attempts]
  reasons henable := by
    rw [h.suppressed, ← hp.reasons henable]
    simp only [Bridge.reasons, h.quiet.suppressed]

section Step

variable {s : StepSettings} {d : Devices F D X E} {b : LandingSettings F} {l : Link F X E}

theorem idle_countTracks (prevMax : Option ℤ) (ids : List ℤ) (p : Loop F X (LinkState F E)) :
    Idle p (ids.foldl (countTrack prevMax) p) := by
  induction ids generalizing p with
  | nil => exact .refl p
  | cons id ids ih =>
      have hfirst : Idle p (countTrack prevMax p id) := ⟨⟨rfl, rfl⟩, rfl, rfl, rfl, rfl, rfl⟩
      exact hfirst.trans (ih _)

theorem idle_tracker (tracker : Option TrackOutcome) : Idle p (tracker.elim p p.updateTracks) := by
  rcases tracker with _ | _ | ids
  · exact .refl p
  · exact ⟨⟨rfl, rfl⟩, rfl, rfl, rfl, rfl, rfl⟩
  · have hactive : Idle p { p with tracksActive := ids.length } :=
      ⟨⟨rfl, rfl⟩, rfl, rfl, rfl, rfl, rfl⟩
    exact hactive.trans (idle_countTracks _ ids _)

/-- A step makes no attempt, or it ends with one. -/
inductive Stepped (s : StepSettings) (d : Devices F D X (LinkState F E))
    (p : Loop F X (LinkState F E)) : Except X Bool × Loop F X (LinkState F E) → Prop
  | idle (r : Except X Bool) (q : Loop F X (LinkState F E)) (h : Idle p q) : Stepped s d p (r, q)
  | attempt (q : Loop F X (LinkState F E)) (h : Idle p q) (target : Detection F)
      (r : DetectionResult F) (captureT : F) :
      Stepped s d p (publishTarget s d q target r captureT)

theorem Stepped.of_idle {d : Devices F D X (LinkState F E)}
    {r : Except X Bool × Loop F X (LinkState F E)} (h : Idle p q) (hr : Stepped s d q r) :
    Stepped s d p r := by
  cases hr with
  | idle r q' h' => exact .idle r q' (h.trans h')
  | attempt q' h' target r captureT => exact .attempt q' (h.trans h') target r captureT

variable [Arith F]

theorem idle_writeStream (p : Loop F X (LinkState F E)) (data : D) :
    Idle p (writeStream s (d.withBridge b l) p data) := by
  unfold writeStream
  split
  · exact ⟨⟨rfl, rfl⟩, rfl, rfl, rfl, rfl, rfl⟩
  · exact .refl p

theorem stepped_serveBridge (p : Loop F X (LinkState F E)) (captureT : F)
    (r : DetectionResult F) :
    Stepped s (d.withBridge b l) p (serveBridge s (d.withBridge b l) p captureT r) := by
  unfold serveBridge
  split
  · have hpolled : Idle p { p with world := p.world.pollHeartbeat b l } :=
      ⟨LinkState.quiet_pollHeartbeat, rfl, rfl, rfl, rfl, rfl⟩
    show Stepped s _ p ((selectTarget s r).elim _ _)
    cases selectTarget s r with
    | none => exact .idle _ _ hpolled
    | some target => exact .attempt _ hpolled target r captureT
  · exact .idle _ _ (.refl p)

theorem stepped_afterDetect (tracker : Option TrackOutcome) (p : Loop F X (LinkState F E))
    (frame : CameraFrame F D) (detected : Detect F X) :
    Stepped s (d.withBridge b l) p (afterDetect s (d.withBridge b l) tracker p frame detected) := by
  cases detected with
  | detectionError => exact .idle _ _ ⟨⟨rfl, rfl⟩, rfl, rfl, rfl, rfl, rfl⟩
  | raised x => exact .idle _ _ (.refl p)
  | result r =>
      have hwritten := (idle_tracker (p := p) tracker).trans
        (idle_writeStream (s := s) (d := d) (b := b) (l := l) _ frame.data)
      exact .of_idle hwritten (stepped_serveBridge _ frame.t r)

theorem stepped_afterRead (tracker : Option TrackOutcome) (p : Loop F X (LinkState F E))
    (read : Except X (Option (CameraFrame F D))) :
    Stepped s (d.withBridge b l) p (afterRead s (d.withBridge b l) tracker p read) := by
  rcases read with x | _ | frame
  · exact .idle _ _ (.refl p)
  · exact .idle _ _ (.refl p)
  · have hnoted : Idle p { noteFrame s (d.withBridge b l) p with
        world := (onEnv (d.detect frame.data) (noteFrame s (d.withBridge b l) p).world).2 } :=
      ⟨⟨rfl, rfl⟩, rfl, rfl, rfl, rfl, rfl⟩
    exact .of_idle hnoted (stepped_afterDetect tracker _ frame _)

theorem stepped_step (tracker : Option TrackOutcome) (p : Loop F X (LinkState F E)) :
    Stepped s (d.withBridge b l) p (step s (d.withBridge b l) tracker p) := by
  have hread : Idle p { p with world := (onEnv d.readFrame p.world).2 } :=
    ⟨⟨rfl, rfl⟩, rfl, rfl, rfl, rfl, rfl⟩
  exact .of_idle hread (stepped_afterRead tracker _ _)

/-! ## One attempt -/

/-- What a step did to the books: it made no attempt and passed no message on, or it made one
and raised exactly if that failed once too often.  A suppression leaves the streak and the
messages as they are. -/
def Booked (s : StepSettings) (p : Loop F X (LinkState F E))
    (r : Except X Bool × Loop F X (LinkState F E)) : Prop :=
  (r.2.attempts = p.attempts ∧ r.2.world.calls = p.world.calls) ∨
    ∃ a, r.2.attempts = a :: p.attempts ∧
      (∀ x, r.1 = .error x ↔ a.outcome = .error x ∧
        s.publishFailureTolerance < streak r.2.attempts) ∧
      (a.outcome = .ok false → streak r.2.attempts = streak p.attempts ∧
        r.2.counters.consecutivePublishFailures = p.counters.consecutivePublishFailures ∧
        r.2.world.calls = p.world.calls)

/-- An attempt and where it has left the world, as the bridge has noted it. -/
structure Noted (b : LandingSettings F) (p : Loop F X (LinkState F E)) (outcome : Except X Bool)
    (w : LinkState F E) : Prop where
  calls : outcome = .ok false → w.calls = p.world.calls
  reasons : b.enableLandingTarget = true → w.bridge.reasons =
    if LinkState.ending outcome = .returned false then p.world.bridge.reasons + 1
    else p.world.bridge.reasons

variable (target : Detection F) (r : DetectionResult F) (captureT : F)

/-- The loop behind a call of `publish`. -/
def attempted (p : Loop F X (LinkState F E)) (outcome : Except X Bool) (w : LinkState F E) :
    Loop F X (LinkState F E) :=
  { p with world := w, attempts := ⟨target, r, captureT, outcome⟩ :: p.attempts }

variable {d' : Devices F D X (LinkState F E)} {w : LinkState F E}

omit [Arith F] in
theorem settle_raised (hp : p.Accounted b) {x : X} (hnoted : Noted b p (.error x) w) :
    (settle s d' (attempted target r captureT p (.error x) w) (.error x)).2.Accounted b ∧
      Booked s p (settle s d' (attempted target r captureT p (.error x) w) (.error x)) := by
  refine ⟨⟨?_, ?_, ?_⟩, .inr ⟨_, rfl, ?_, nofun⟩⟩
  · exact congrArg (· + 1) hp.streak
  · exact congrArg (· + 1) hp.attempts
  · intro henable
    have hreasons := hnoted.reasons henable
    rw [if_neg (by simp [LinkState.ending])] at hreasons
    exact hreasons.trans (hp.reasons henable)
  · intro y
    have hstreak : s.publishFailureTolerance < p.counters.consecutivePublishFailures + 1 ↔
        s.publishFailureTolerance < Jetson.streak p.attempts + 1 := by rw [hp.streak]
    simp [settle, attempted, Counters.published, Jetson.streak, ← hstreak]
    split_ifs with h <;> simp [h]

omit [Arith F] in
theorem settle_suppressed (hp : p.Accounted b) (hnoted : Noted b p (.ok false) w) :
    (settle s d' (attempted target r captureT p (.ok false) w) (.ok false)).2.Accounted b ∧
      Booked s p (settle s d' (attempted target r captureT p (.ok false) w) (.ok false)) := by
  refine ⟨⟨hp.streak, ?_, ?_⟩, .inr ⟨_, rfl, fun x ↦ by simp [settle],
    fun _ ↦ ⟨rfl, rfl, hnoted.calls rfl⟩⟩⟩
  · have hattempts := hp.attempts
    simp only [settle, attempted, Counters.published, List.length_cons]
    omega
  · intro henable
    have hreasons := hnoted.reasons henable
    rw [if_pos (by simp [LinkState.ending])] at hreasons
    exact hreasons.trans (congrArg (· + 1) (hp.reasons henable))

omit [Arith F] in
theorem settle_sent (hp : p.Accounted b) (hnoted : Noted b p (.ok true) w)
    (hnow : w.Quiet (d'.now w).2) :
    (settle s d' (attempted target r captureT p (.ok true) w) (.ok true)).2.Accounted b ∧
      Booked s p (settle s d' (attempted target r captureT p (.ok true) w) (.ok true)) := by
  refine ⟨⟨rfl, ?_, ?_⟩, .inr ⟨_, rfl, fun x ↦ by simp [settle], nofun⟩⟩
  · have hattempts := hp.attempts
    simp only [settle, attempted, Counters.published, Counters.notePublishCadence,
      List.length_cons]
    omega
  · intro henable
    have hquiet : (d'.now w).2.bridge.reasons = w.bridge.reasons := by
      simp only [Bridge.reasons, hnow.suppressed]
    have hreasons := hnoted.reasons henable
    rw [if_neg (by simp [LinkState.ending])] at hreasons
    exact hquiet.trans (hreasons.trans (hp.reasons henable))

theorem accounted_settle (hp : p.Accounted b) {outcome : Except X Bool}
    (hnoted : Noted b p outcome w) :
    (settle s (d.withBridge b l) (attempted target r captureT p outcome w) outcome).2.Accounted b ∧
      Booked s p
        (settle s (d.withBridge b l) (attempted target r captureT p outcome w) outcome) := by
  rcases outcome with x | _ | _
  · exact settle_raised target r captureT hp hnoted
  · exact settle_suppressed target r captureT hp hnoted
  · exact settle_sent target r captureT hp hnoted ⟨rfl, rfl⟩

/-- The books agree behind an attempt. -/
theorem accounted_publishTarget (hp : p.Accounted b) :
    (publishTarget s (d.withBridge b l) p target r captureT).2.Accounted b ∧
      Booked s p (publishTarget s (d.withBridge b l) p target r captureT) := by
  obtain ⟨hcalls, hreasons⟩ :=
    LinkState.publish_accounts (w := p.world) (b := b) (l := l) target r captureT
  exact accounted_settle target r captureT hp ⟨hcalls, hreasons⟩

omit [Arith F] in
theorem Idle.booked {r : Except X Bool × Loop F X (LinkState F E)} (h : Idle p q)
    (hq : Booked s q r) : Booked s p r := by
  rcases hq with ⟨hattempts, hcalls⟩ | ⟨a, hattempts, hraises, hsuppressed⟩
  · exact .inl ⟨hattempts.trans h.attempts, hcalls.trans h.quiet.calls⟩
  · refine .inr ⟨a, by rw [hattempts, h.attempts], hraises, fun ha ↦ ?_⟩
    rw [← h.attempts, ← h.consecutive, ← h.quiet.calls]
    exact hsuppressed ha

/-- The books agree behind a step. -/
theorem accounted_step (tracker : Option TrackOutcome) (hp : p.Accounted b) :
    (step s (d.withBridge b l) tracker p).2.Accounted b ∧
      Booked s p (step s (d.withBridge b l) tracker p) := by
  have hstepped := stepped_step (s := s) (d := d) (b := b) (l := l) tracker p
  generalize step s (d.withBridge b l) tracker p = q at hstepped
  cases hstepped with
  | idle r q h => exact ⟨h.keeps_accounts hp, .inl ⟨h.attempts, h.quiet.calls⟩⟩
  | attempt q h target r captureT =>
      obtain ⟨haccounted, hbooked⟩ :=
        accounted_publishTarget (s := s) (d := d) (l := l) target r captureT (h.keeps_accounts hp)
      exact ⟨haccounted, h.booked hbooked⟩

/-! ## Runs -/

theorem idle_snapshot (maxAgeS : Option ℚ) (p : Loop F X (LinkState F E)) :
    Idle p (snapshot s (d.withBridge b l) maxAgeS p).2 := by
  have hclock : p.world.Quiet (p.lastFrameT.elim p.world fun _ ↦ (onEnv d.now p.world).2) := by
    cases p.lastFrameT <;> exact ⟨rfl, rfl⟩
  refine ⟨hclock.trans ?_, rfl, rfl, rfl, rfl, rfl⟩
  rw [snapshot]
  cases s.bridge with
  | true => exact LinkState.quiet_heartbeatFresh
  | false => exact .refl _

theorem accounted_run (tracking : Bool) (calls : List PipelineCall) (hp : p.Accounted b) :
    (run s (d.withBridge b l) tracking p calls).2.Accounted b := by
  induction calls generalizing p with
  | nil => exact hp
  | cons c calls ih =>
      apply ih
      cases c with
      | step tracked => exact (accounted_step _ hp).1
      | snapshot maxAgeS => exact (idle_snapshot maxAgeS p).keeps_accounts hp

omit [Arith F] in
/-- The books of a pipeline and a bridge that nobody has used. -/
theorem accounted_start (b : LandingSettings F) (monitor : Option HeartbeatMonitor) (conn : Bool)
    (env : E) : Accounted (X := X) b
      { world := { bridge := { Bridge.init b.toMavlinkSettings monitor with conn }, env } } :=
  ⟨rfl, rfl, fun _ ↦ rfl⟩

/-- **Every LANDING_TARGET is accounted for.**  In every run the books of the pipeline and of
its bridge agree, and a step raises for its attempt exactly if that has failed once more than
is tolerated since the last message that was sent. -/
theorem landing_target_accounted (s : StepSettings) (d : Devices F D X E) (b : LandingSettings F)
    (l : Link F X E) (monitor : Option HeartbeatMonitor) (conn : Bool) (env : E) (tracking : Bool)
    (calls : List PipelineCall) (tracked : Option TrackOutcome) :
    let start : Loop F X (LinkState F E) :=
      { world := { bridge := { Bridge.init b.toMavlinkSettings monitor with conn }, env } }
    let p := (run s (d.withBridge b l) tracking start calls).2
    p.Accounted b ∧ Booked s p (step s (d.withBridge b l) tracked p) := by
  intro start p
  have hp : p.Accounted b := accounted_run tracking calls (accounted_start b monitor conn env)
  exact ⟨hp, (accounted_step tracked hp).2⟩

end Step

end Loop

end DroneComms.Jetson
