import DroneComms.Jetson.Bridge
import DroneComms.Lib.Automaton
import Mathlib.Tactic

/-!
# LANDING_TARGETs and heartbeats

One iteration after the other of `Pipeline.step` (`jetson_yolo_gcs/pipeline.py`)
with the bridge, beside a connection on which HEARTBEATs arrive at any time.  An
iteration is cut wherever it waits or reads the clock: `read_frame`, `detect`,
the read of `poll_heartbeat`, the stamp of `beat`, the gate and the send of
`publish`.  Time passes between any two of them, so a camera stall is just time
passing.  The stream and the tracker touch none of this and are left out.

`poll_heartbeat` takes one message from the connection and stamps it with the
time of taking.  The queue in front of it is what the model adds.
-/

namespace DroneComms.Jetson

/-- A HEARTBEAT that reached the link, and when. -/
structure Arrival where
  heartbeat : Heartbeat
  time : ℚ
deriving DecidableEq

/-- A heartbeat that `poll_heartbeat` accepted, and the stamp it got. -/
structure Beat where
  arrival : Arrival
  stamp : ℚ

/-- How long it lay unread. -/
def Beat.waited (b : Beat) : ℚ := b.stamp - b.arrival.time

/-- How `detect` ends; a result has a target to publish or not. -/
inductive Detected where
  | detectionError
  | raises
  | result (target : Bool)
deriving DecidableEq, Repr

/-- Where the loop stands. -/
inductive Phase where
  | readFrame
  | detect
  | poll (target : Bool)
  | beat (a : Arrival) (target : Bool)
  | gate
  | /-- The gate was passed on a report of this time. -/ send (reported : ℚ)
  | /-- An exception has left `run`. -/ raised

/-- What `Pipeline` is built with. -/
structure PipelineSettings where
  publishFailureTolerance : ℕ := 3
  minPublishRateHz : ℚ := 10

/-- The counters of a `Pipeline`. -/
structure Counters where
  droppedDetections : ℕ := 0
  landingTargetPublished : ℕ := 0
  landingTargetSuppressed : ℕ := 0
  landingTargetCadenceViolations : ℕ := 0
  landingTargetPublishFailures : ℕ := 0
  consecutivePublishFailures : ℕ := 0
  lastPublishT : Option ℚ := none

/-- `_note_publish_cadence`. -/
def Counters.notePublishCadence (p : PipelineSettings) (c : Counters) (now : ℚ) : Counters :=
  { c with
    landingTargetCadenceViolations := c.landingTargetCadenceViolations +
      if 0 < p.minPublishRateHz ∧ c.lastPublishT.any (1 / p.minPublishRateHz < now - ·)
      then 1 else 0
    lastPublishT := some now }

/-- The counters behind one `bridge.publish`, as `_publish_target` keeps them,
and whether the exception is passed on. -/
def Counters.published (p : PipelineSettings) (c : Counters) (now : ℚ) :
    Published → Counters × Bool
  | .returned true =>
      (Counters.notePublishCadence p { c with
        landingTargetPublished := c.landingTargetPublished + 1
        consecutivePublishFailures := 0 } now, false)
  | .returned false =>
      ({ c with landingTargetSuppressed := c.landingTargetSuppressed + 1 }, false)
  | .raised =>
      ({ c with
        landingTargetPublishFailures := c.landingTargetPublishFailures + 1
        consecutivePublishFailures := c.consecutivePublishFailures + 1 },
        p.publishFailureTolerance < c.consecutivePublishFailures + 1)

/-- The pipeline and its link. -/
structure Feed where
  now : ℚ := 0
  bridge : Bridge
  counters : Counters := {}
  phase : Phase := .readFrame
  /-- The unread heartbeats, oldest first. -/
  queue : List Arrival := []
  /-- Every heartbeat that ever arrived. -/
  arrivals : List Arrival := []
  /-- The last heartbeat the gate was given. -/
  beaten : Option Beat := none
  /-- The times at which LANDING_TARGETs were sent. -/
  sent : List ℚ := []

/-- What can happen next. -/
inductive FeedEvent where
  | advance (dt : ℚ)
  | arrive (msg : Heartbeat)
  | readFrame (frame : Bool)
  | detect (r : Detected)
  | poll (r : Polled)
  | beat
  | gate
  | send (r : Sent)

namespace Feed

def init (s : MavlinkSettings) : Feed := { bridge := .init s }

/-- Behind `poll_heartbeat`. -/
def polled (target : Bool) : Phase := if target then .gate else .readFrame

/-- `publish` has ended. -/
def published (p : PipelineSettings) (w : Feed) (bridge : Bridge) (r : Published) : Feed :=
  let (counters, raised) := w.counters.published p w.now r
  { w with bridge, counters, phase := if raised then .raised else .readFrame }

/-- `poll_heartbeat` up to the message.  An exception is swallowed, also one of
the message's accessors. -/
def poll (s : MavlinkSettings) (w : Feed) (target : Bool) (r : Polled) : Option Feed :=
  if w.bridge.heartbeat.isNone then some { w with phase := polled target }
  else do
    let (bridge, reads) ← w.bridge.opened r
    match reads, w.queue with
    | true, a :: queue =>
        if isTargetHeartbeat s a.heartbeat = some true then
          some { w with bridge, queue, phase := .beat a target }
        else some { w with bridge, queue, phase := polled target }
    | _, _ => some { w with bridge, phase := polled target }

/-- One step. -/
def step (s : MavlinkSettings) (p : PipelineSettings) (w : Feed) : FeedEvent → Option Feed
  | .advance dt => if 0 ≤ dt then some { w with now := w.now + dt } else none
  | .arrive msg =>
      some { w with
        queue := w.queue ++ [⟨msg, w.now⟩]
        arrivals := ⟨msg, w.now⟩ :: w.arrivals }
  | .readFrame frame =>
      match w.phase with
      | .readFrame => some { w with phase := if frame then .detect else .readFrame }
      | _ => none
  | .detect r =>
      match w.phase, r with
      | .detect, .detectionError =>
          some { w with
            counters := { w.counters with
              droppedDetections := w.counters.droppedDetections + 1 }
            phase := .readFrame }
      | .detect, .raises => some { w with phase := .raised }
      | .detect, .result target => some { w with phase := .poll target }
      | _, _ => none
  | .poll r =>
      match w.phase with
      | .poll target => w.poll s target r
      | _ => none
  | .beat =>
      match w.phase with
      | .beat a target =>
          some { w with
            bridge := w.bridge.beat w.now
            beaten := some ⟨a, w.now⟩
            phase := polled target }
      | _ => none
  | .gate =>
      match w.phase with
      | .gate =>
          match w.bridge.gate s w.now with
          | none => some { w with phase := .send w.now }
          | some (bridge, r) => some (w.published p bridge r)
      | _ => none
  | .send r =>
      match w.phase with
      | .send _ => do
          let (bridge, result) ← w.bridge.send s r
          let w' := w.published p bridge result
          some (if r = .sent then { w' with sent := w.now :: w.sent } else w')
      | _ => none

/-- Every LANDING_TARGET was sent within the timeout of a target heartbeat. -/
def Backed (s : MavlinkSettings) (w : Feed) : Prop :=
  ∀ t ∈ w.sent, ∃ a ∈ w.arrivals, FromTarget s a.heartbeat ∧
    a.time ≤ t ∧ t - a.time ≤ s.heartbeatTimeoutS

/-- The time of the report on which the gate was passed. -/
def reported (w : Feed) : Option ℚ :=
  match w.phase with
  | .send reported => some reported
  | _ => none

/-- What the timeout leaves, at a report, of the age that the stamp of a heartbeat may have. -/
def slack (s : MavlinkSettings) (b : Beat) (reported : ℚ) : ℚ :=
  max 0 (s.heartbeatTimeoutS - (reported - b.stamp))

/-- A message is sent promptly: the wait of the last accepted heartbeat in the
queue and the delay behind the gate are no more than its report leaves, or a
recent heartbeat of the target lies unread. -/
def SendsPromptly (s : MavlinkSettings) (w : Feed) : FeedEvent → Prop
  | .send .sent =>
      (∃ reported ∈ w.reported, ∃ b ∈ w.beaten,
        b.waited + (w.now - reported) ≤ slack s b reported) ∨
        ∃ a ∈ w.queue, FromTarget s a.heartbeat ∧ w.now - a.time ≤ s.heartbeatTimeoutS
  | _ => True

instance (s : MavlinkSettings) (w : Feed) (e : FeedEvent) : Decidable (w.SendsPromptly s e) := by
  unfold SendsPromptly
  split <;> infer_instance

end Feed

/-! ## What a step does to the heartbeats -/

/-- The heartbeat in hand, taken from the queue and not stamped yet. -/
def Phase.hand : Phase → List Arrival
  | .beat a _ => [a]
  | _ => []

/-- The heartbeats of a feed: what has arrived, what is not yet accounted for
by a stamp, and the last one stamped. -/
structure Ledger where
  now : ℚ
  unread : List Arrival
  arrivals : List Arrival
  beaten : Option Beat

/-- A ledger changes as time passes, as heartbeats arrive, and as the oldest
unread one is dropped or, if the target sent it, stamped. -/
inductive Ledger.Moves (s : MavlinkSettings) (l : Ledger) : Ledger → Prop where
  | pass (dt : ℚ) (h : 0 ≤ dt) : Moves s l { l with now := l.now + dt }
  | arrive (msg : Heartbeat) : Moves s l { l with
      unread := l.unread ++ [⟨msg, l.now⟩]
      arrivals := ⟨msg, l.now⟩ :: l.arrivals }
  | drop (a : Arrival) (unread : List Arrival) (h : l.unread = a :: unread)
      (ha : ¬ FromTarget s a.heartbeat) : Moves s l { l with unread }
  | beat (a : Arrival) (unread : List Arrival) (h : l.unread = a :: unread)
      (ha : FromTarget s a.heartbeat) : Moves s l { l with unread, beaten := some ⟨a, l.now⟩ }

namespace Ledger

variable {s : MavlinkSettings} {l l' : Ledger}

theorem Moves.refl (s : MavlinkSettings) (l : Ledger) : l.Moves s l := by
  have h := Moves.pass (s := s) (l := l) 0 le_rfl
  rwa [add_zero] at h

/-- No arrival is forgotten. -/
theorem Moves.arrivals (h : l.Moves s l') : ∀ a ∈ l.arrivals, a ∈ l'.arrivals := by
  cases h with
  | arrive msg => exact fun a ha ↦ List.mem_cons_of_mem _ ha
  | _ => exact fun a ha ↦ ha

/-- Heartbeats are taken in the order of their arrival, and every heartbeat of
the target is unread or no younger than the last one stamped. -/
structure Sound (s : MavlinkSettings) (l : Ledger) : Prop where
  past : ∀ a ∈ l.arrivals, a.time ≤ l.now
  unread : ∀ a ∈ l.unread, a ∈ l.arrivals
  sorted : l.unread.Pairwise (·.time ≤ ·.time)
  beaten : ∀ b ∈ l.beaten, b.arrival ∈ l.arrivals ∧ FromTarget s b.arrival.heartbeat
  before : ∀ b ∈ l.beaten, ∀ a ∈ l.unread, b.arrival.time ≤ a.time
  accounted : ∀ a ∈ l.arrivals, FromTarget s a.heartbeat →
    a ∈ l.unread ∨ ∃ b ∈ l.beaten, a.time ≤ b.arrival.time

/-- What is known of the oldest unread heartbeat and of those behind it. -/
theorem Sound.head (hl : l.Sound s) {a : Arrival} {unread : List Arrival}
    (h : l.unread = a :: unread) :
    a ∈ l.arrivals ∧ (∀ b ∈ unread, b ∈ l.unread) ∧ (∀ b ∈ unread, a.time ≤ b.time) ∧
      unread.Pairwise (·.time ≤ ·.time) := by
  have hsorted := hl.sorted
  rw [h, List.pairwise_cons] at hsorted
  refine ⟨hl.unread a ?_, fun b hb ↦ ?_, hsorted.1, hsorted.2⟩
  · rw [h]
    exact List.mem_cons_self
  · rw [h]
    exact List.mem_cons_of_mem a hb

theorem Sound.arrive (hl : l.Sound s) (msg : Heartbeat) :
    Sound s { l with
      unread := l.unread ++ [⟨msg, l.now⟩]
      arrivals := ⟨msg, l.now⟩ :: l.arrivals } := by
  have hnew : ∀ a ∈ l.unread ++ [⟨msg, l.now⟩], a ∈ l.unread ∨ a = ⟨msg, l.now⟩ := by
    intro a ha
    rwa [List.mem_append, List.mem_singleton] at ha
  refine ⟨fun a ha ↦ ?_, fun a ha ↦ ?_, ?_, fun b hb ↦ ?_, fun b hb a ha ↦ ?_,
    fun a ha htarget ↦ ?_⟩
  · rcases List.mem_cons.mp ha with rfl | ha
    · exact le_rfl
    · exact hl.past a ha
  · rcases hnew a ha with ha | rfl
    · exact List.mem_cons_of_mem _ (hl.unread a ha)
    · exact List.mem_cons_self
  · rw [List.pairwise_append]
    refine ⟨hl.sorted, List.pairwise_singleton .., fun a ha b hb ↦ ?_⟩
    rw [List.mem_singleton.mp hb]
    exact hl.past a (hl.unread a ha)
  · obtain ⟨hmem, htarget⟩ := hl.beaten b hb
    exact ⟨List.mem_cons_of_mem _ hmem, htarget⟩
  · rcases hnew a ha with ha | rfl
    · exact hl.before b hb a ha
    · exact hl.past _ (hl.beaten b hb).1
  · rcases List.mem_cons.mp ha with rfl | ha
    · exact .inl (List.mem_append_right _ (List.mem_singleton_self _))
    · exact (hl.accounted a ha htarget).imp_left (List.mem_append_left _)

/-- Stamping the oldest unread heartbeat accounts for all that were stamped
before, too. -/
theorem Sound.moves (hl : l.Sound s) (h : l.Moves s l') : l'.Sound s := by
  cases h with
  | pass dt hdt =>
      refine ⟨fun a ha ↦ ?_, hl.unread, hl.sorted, hl.beaten, hl.before, hl.accounted⟩
      exact le_add_of_le_of_nonneg (hl.past a ha) hdt
  | arrive msg => exact hl.arrive msg
  | drop a unread hunread hnot =>
      obtain ⟨-, hsub, -, hsorted⟩ := hl.head hunread
      refine ⟨hl.past, fun b hb ↦ hl.unread b (hsub b hb), hsorted, hl.beaten,
        fun b hb c hc ↦ hl.before b hb c (hsub c hc), fun b hb htarget ↦ ?_⟩
      refine (hl.accounted b hb htarget).imp_left fun hmem ↦ ?_
      rw [hunread] at hmem
      rcases List.mem_cons.mp hmem with rfl | hmem
      · exact absurd htarget hnot
      · exact hmem
  | beat a unread hunread htarget =>
      obtain ⟨ha, hsub, hle, hsorted⟩ := hl.head hunread
      refine ⟨hl.past, fun b hb ↦ hl.unread b (hsub b hb), hsorted, ?_, ?_, ?_⟩
      · rintro b ⟨⟩
        exact ⟨ha, htarget⟩
      · rintro b ⟨⟩
        exact hle
      · intro b hb hfrom
        rcases hl.accounted b hb hfrom with hmem | ⟨old, hold, hb⟩
        · rw [hunread] at hmem
          rcases List.mem_cons.mp hmem with rfl | hmem
          · exact .inr ⟨_, rfl, le_rfl⟩
          · exact .inl hmem
        · refine .inr ⟨_, rfl, hb.trans (hl.before old hold a ?_)⟩
          rw [hunread]
          exact List.mem_cons_self

/-- A heartbeat of the target is recent exactly if the last one stamped is, or
an unread one. -/
theorem Sound.recent_iff (hl : l.Sound s) :
    (∃ a ∈ l.arrivals, FromTarget s a.heartbeat ∧ a.time ≤ l.now ∧
        l.now - a.time ≤ s.heartbeatTimeoutS) ↔
      (∃ b ∈ l.beaten, b.waited + (l.now - b.stamp) ≤ s.heartbeatTimeoutS) ∨
        ∃ a ∈ l.unread, FromTarget s a.heartbeat ∧ l.now - a.time ≤ s.heartbeatTimeoutS := by
  have hwaited : ∀ b : Beat, b.waited + (l.now - b.stamp) = l.now - b.arrival.time := by
    intro b
    unfold Beat.waited
    ring
  simp only [hwaited]
  constructor
  · rintro ⟨a, ha, htarget, -, hrecent⟩
    rcases hl.accounted a ha htarget with hmem | ⟨b, hb, hle⟩
    · exact .inr ⟨a, hmem, htarget, hrecent⟩
    · exact .inl ⟨b, hb, (sub_le_sub_left hle _).trans hrecent⟩
  · rintro (⟨b, hb, hrecent⟩ | ⟨a, ha, htarget, hrecent⟩)
    · obtain ⟨hmem, htarget⟩ := hl.beaten b hb
      exact ⟨b.arrival, hmem, htarget, hl.past _ hmem, hrecent⟩
    · have hmem := hl.unread a ha
      exact ⟨a, hmem, htarget, hl.past a hmem, hrecent⟩

end Ledger

namespace Feed

variable {s : MavlinkSettings} {p : PipelineSettings} {w q : Feed} {e : FeedEvent}

/-- The ledger the model keeps beside the pipeline. -/
def ledger (w : Feed) : Ledger := ⟨w.now, w.phase.hand ++ w.queue, w.arrivals, w.beaten⟩

/-- The heartbeat in hand comes from the target. -/
def HandFromTarget (s : MavlinkSettings) (w : Feed) : Prop :=
  ∀ a ∈ w.phase.hand, FromTarget s a.heartbeat

@[simp] theorem hand_polled (target : Bool) : (polled target).hand = [] := by
  cases target <;> rfl

/-- Behind `publish` the loop goes on or has been left. -/
theorem phase_published (w : Feed) (bridge : Bridge) (r : Published) :
    (w.published p bridge r).phase = .raised ∨ (w.published p bridge r).phase = .readFrame :=
  ite_eq_or_eq _ _ _

@[simp] theorem hand_published (w : Feed) (bridge : Bridge) (r : Published) :
    (w.published p bridge r).phase.hand = [] := by
  rcases w.phase_published (p := p) bridge r with h | h <;> rw [h] <;> rfl

/-- Outside of `beat` the ledger does not see the phase. -/
theorem ledger_of_hand (hw : w.phase.hand = []) :
    w.ledger = ⟨w.now, w.queue, w.arrivals, w.beaten⟩ := by
  rw [ledger, hw, List.nil_append]

/-- `poll_heartbeat` takes at most the oldest unread heartbeat, and keeps it in
hand if the target sent it. -/
theorem poll_cases {target : Bool} {r : Polled} (hw : w.phase.hand = [])
    (h : w.poll s target r = some q) :
    q.HandFromTarget s ∧ w.ledger.Moves s q.ledger ∧ q.sent = w.sent := by
  rw [ledger_of_hand hw]
  unfold poll at h
  split at h
  · cases h
    exact ⟨by simp [HandFromTarget], by simpa [ledger] using Ledger.Moves.refl s _, rfl⟩
  · obtain ⟨⟨bridge, reads⟩, -, h⟩ := Option.bind_eq_some_iff.mp h
    dsimp only at h
    split at h
    · rename_i a queue hqueue
      split at h
      · rename_i htarget
        cases h
        refine ⟨fun b hb ↦ ?_, ?_, rfl⟩
        · rw [List.mem_singleton.mp hb]
          exact htarget
        · rw [hqueue]
          exact .refl s _
      · rename_i hnot
        cases h
        refine ⟨by simp [HandFromTarget], ?_, rfl⟩
        rw [ledger_of_hand (hand_polled target)]
        exact .drop a queue hqueue hnot
    · cases h
      exact ⟨by simp [HandFromTarget], by simpa [ledger] using Ledger.Moves.refl s _, rfl⟩

/-- With no heartbeat in hand before and after, and the other heartbeats
untouched, the ledger is the same. -/
theorem ledger_eq (hw : w.phase.hand = []) (hq : q.phase.hand = []) (hnow : q.now = w.now)
    (hqueue : q.queue = w.queue) (harrivals : q.arrivals = w.arrivals)
    (hbeaten : q.beaten = w.beaten) : q.ledger = w.ledger := by
  rw [ledger_of_hand hw, ledger_of_hand hq, hnow, hqueue, harrivals, hbeaten]

theorem moves_idle (hw : w.phase.hand = []) (hq : q.phase.hand = []) (hnow : q.now = w.now)
    (hqueue : q.queue = w.queue) (harrivals : q.arrivals = w.arrivals)
    (hbeaten : q.beaten = w.beaten) : w.ledger.Moves s q.ledger := by
  rw [ledger_eq hw hq hnow hqueue harrivals hbeaten]
  exact .refl s _

theorem handFromTarget_of_hand (hw : w.phase.hand = []) : w.HandFromTarget s := by
  simp [HandFromTarget, hw]

/-- A step sends a message, or moves the ledger. -/
theorem step_cases (hw : w.HandFromTarget s) (h : w.step s p e = some q) :
    q.HandFromTarget s ∧
      ((e = .send .sent ∧ w.phase.hand = [] ∧ q.ledger = w.ledger ∧ q.sent = w.now :: w.sent) ∨
        (e ≠ .send .sent ∧ w.ledger.Moves s q.ledger ∧ q.sent = w.sent)) := by
  cases e with
  | advance dt =>
      obtain ⟨hdt, h⟩ := Option.ite_none_right_eq_some.mp h
      cases h
      exact ⟨hw, .inr ⟨nofun, .pass dt hdt, rfl⟩⟩
  | arrive msg =>
      cases h
      refine ⟨hw, .inr ⟨nofun, ?_, rfl⟩⟩
      show w.ledger.Moves s ⟨_, w.phase.hand ++ (w.queue ++ [⟨msg, w.now⟩]), _, _⟩
      rw [← List.append_assoc]
      exact .arrive msg
  | readFrame frame =>
      simp only [step] at h
      split at h
      · rename_i hphase
        cases h
        have hhand : (if frame then Phase.detect else .readFrame).hand = [] := by
          cases frame <;> rfl
        refine ⟨handFromTarget_of_hand hhand, .inr ⟨nofun, ?_, rfl⟩⟩
        exact moves_idle (by rw [hphase]; rfl) hhand rfl rfl rfl rfl
      · cases h
  | detect r =>
      simp only [step] at h
      split at h
      case h_4 => cases h
      all_goals
        rename_i hphase
        cases h
        refine ⟨handFromTarget_of_hand rfl, .inr ⟨nofun, ?_, rfl⟩⟩
        exact moves_idle (by rw [hphase]; rfl) rfl rfl rfl rfl rfl
  | poll r =>
      simp only [step] at h
      split at h
      · rename_i target hphase
        obtain ⟨hq, hmoves, hsent⟩ := poll_cases (by rw [hphase]; rfl) h
        exact ⟨hq, .inr ⟨nofun, hmoves, hsent⟩⟩
      · cases h
  | beat =>
      simp only [step] at h
      split at h
      · rename_i a target hphase
        cases h
        refine ⟨handFromTarget_of_hand (hand_polled target), .inr ⟨nofun, ?_, rfl⟩⟩
        show w.ledger.Moves s ⟨_, (polled target).hand ++ w.queue, _, _⟩
        rw [hand_polled, List.nil_append]
        refine .beat a w.queue ?_ (hw a ?_)
        · rw [ledger, hphase]
          rfl
        · rw [hphase]
          exact List.mem_singleton_self a
      · cases h
  | gate =>
      simp only [step] at h
      split at h
      · rename_i hphase
        have hhand : w.phase.hand = [] := by rw [hphase]; rfl
        split at h
        · cases h
          refine ⟨handFromTarget_of_hand rfl, .inr ⟨nofun, ?_, rfl⟩⟩
          exact moves_idle hhand rfl rfl rfl rfl rfl
        · cases h
          refine ⟨handFromTarget_of_hand (hand_published ..), .inr ⟨nofun, ?_, rfl⟩⟩
          exact moves_idle hhand (hand_published ..) rfl rfl rfl rfl
      · cases h
  | send r =>
      simp only [step] at h
      split at h
      · rename_i reported hphase
        have hhand : w.phase.hand = [] := by rw [hphase]; rfl
        obtain ⟨⟨bridge, result⟩, -, h⟩ := Option.bind_eq_some_iff.mp h
        cases h
        by_cases hr : r = .sent
        · subst hr
          refine ⟨handFromTarget_of_hand (hand_published w bridge result),
            .inl ⟨rfl, hhand, ?_, rfl⟩⟩
          exact ledger_eq hhand (hand_published w bridge result) rfl rfl rfl rfl
        · rw [if_neg hr]
          refine ⟨handFromTarget_of_hand (hand_published w bridge result), .inr ⟨?_, ?_, rfl⟩⟩
          · rintro ⟨⟩
            exact hr rfl
          · exact moves_idle hhand (hand_published w bridge result) rfl rfl rfl rfl
      · cases h

/-- What every step keeps. -/
structure Sound (s : MavlinkSettings) (w : Feed) : Prop where
  hand : w.HandFromTarget s
  ledger : w.ledger.Sound s

theorem sound_init (s : MavlinkSettings) : (init s).Sound s where
  hand := handFromTarget_of_hand rfl
  ledger := ⟨nofun, nofun, .nil, nofun, nofun, nofun⟩

theorem Sound.step (hw : w.Sound s) (h : w.step s p e = some q) : q.Sound s := by
  obtain ⟨hhand, ⟨-, -, hledger, -⟩ | ⟨-, hmoves, -⟩⟩ := step_cases hw.hand h
  · exact ⟨hhand, hledger ▸ hw.ledger⟩
  · exact ⟨hhand, hw.ledger.moves hmoves⟩

/-- A message that is sent keeps every message backed exactly if it is backed
itself. -/
theorem backed_cons (hb : w.Backed s) (harrivals : q.arrivals = w.arrivals)
    (hsent : q.sent = w.now :: w.sent) :
    q.Backed s ↔ ∃ a ∈ w.arrivals, FromTarget s a.heartbeat ∧ a.time ≤ w.now ∧
      w.now - a.time ≤ s.heartbeatTimeoutS := by
  unfold Backed
  rw [hsent, harrivals, List.forall_mem_cons]
  exact and_iff_left hb

/-- Further arrivals keep every message backed. -/
theorem Backed.moves (hb : w.Backed s) (hmoves : w.ledger.Moves s q.ledger)
    (hsent : q.sent = w.sent) : q.Backed s := by
  intro t ht
  rw [hsent] at ht
  obtain ⟨a, ha, hrecent⟩ := hb t ht
  exact ⟨a, hmoves.arrivals a ha, hrecent⟩

/-! ## The gate -/

/-- The gate's monitor holds the stamp of the last heartbeat, and a gate that
was passed was passed on a fresh one. -/
structure Gated (s : MavlinkSettings) (w : Feed) : Prop where
  monitor : w.bridge.heartbeat = some ⟨s.heartbeatTimeoutS, w.beaten.map (·.stamp)⟩
  passed : ∀ reported, w.phase = .send reported →
    ∃ b ∈ w.beaten, reported - b.stamp ≤ s.heartbeatTimeoutS

theorem gated_init {s : MavlinkSettings} (hs : s.requireHeartbeat = true) : (init s).Gated s where
  monitor := by simp [init, Bridge.init, hs]
  passed := nofun

/-- Outside of the gate, a step that leaves the monitor alone keeps it. -/
theorem Gated.keep (hw : w.Gated s) (hmonitor : q.bridge.heartbeat = w.bridge.heartbeat)
    (hbeaten : q.beaten = w.beaten)
    (hphase : ∀ reported, q.phase = .send reported → w.phase = .send reported) :
    q.Gated s := by
  refine ⟨?_, fun reported hq ↦ ?_⟩
  · rw [hmonitor, hbeaten]
    exact hw.monitor
  · rw [hbeaten]
    exact hw.passed reported (hphase reported hq)

theorem polled_ne_send (target : Bool) (reported : ℚ) : polled target ≠ .send reported := by
  cases target <;> exact nofun

theorem published_ne_send (w : Feed) (bridge : Bridge) (r : Published) (reported : ℚ) :
    (w.published p bridge r).phase ≠ .send reported := by
  rcases w.phase_published (p := p) bridge r with h | h <;> rw [h] <;> exact nofun

theorem Gated.poll {target : Bool} {r : Polled} (hw : w.Gated s)
    (h : w.poll s target r = some q) : q.Gated s := by
  unfold Feed.poll at h
  split at h
  · cases h
    exact hw.keep rfl rfl fun reported hq ↦ absurd hq (polled_ne_send target reported)
  · obtain ⟨⟨bridge, reads⟩, hopened, h⟩ := Option.bind_eq_some_iff.mp h
    have hmonitor := Bridge.heartbeat_opened hopened
    dsimp only at h
    split at h
    · split at h
      · cases h
        exact hw.keep hmonitor rfl nofun
      · cases h
        exact hw.keep hmonitor rfl fun reported hq ↦ absurd hq (polled_ne_send target reported)
    · cases h
      exact hw.keep hmonitor rfl fun reported hq ↦ absurd hq (polled_ne_send target reported)

theorem Gated.step (hw : w.Gated s) (h : w.step s p e = some q) : q.Gated s := by
  cases e with
  | advance dt =>
      obtain ⟨-, h⟩ := Option.ite_none_right_eq_some.mp h
      cases h
      exact ⟨hw.monitor, hw.passed⟩
  | arrive msg =>
      cases h
      exact ⟨hw.monitor, hw.passed⟩
  | readFrame frame =>
      simp only [Feed.step] at h
      split at h
      · cases h
        exact hw.keep rfl rfl fun reported hq ↦ by cases frame <;> cases hq
      · cases h
  | detect r =>
      simp only [Feed.step] at h
      split at h
      case h_4 => cases h
      all_goals
        cases h
        exact hw.keep rfl rfl fun reported hq ↦ by cases hq
  | poll r =>
      simp only [Feed.step] at h
      split at h
      · exact hw.poll h
      · cases h
  | beat =>
      simp only [Feed.step] at h
      split at h
      · rename_i a target hphase
        cases h
        refine ⟨?_, fun reported hq ↦ absurd hq (polled_ne_send target reported)⟩
        show w.bridge.heartbeat.map _ = _
        rw [hw.monitor]
        rfl
      · cases h
  | gate =>
      simp only [Feed.step] at h
      split at h
      · split at h
        · rename_i hgate
          cases h
          refine ⟨hw.monitor, ?_⟩
          rintro reported ⟨⟩
          obtain ⟨last, hlast, hle⟩ := Bridge.gate_eq_none hgate hw.monitor
          obtain ⟨b, hb, rfl⟩ := Option.map_eq_some_iff.mp hlast
          exact ⟨b, hb, hle⟩
        · rename_i bridge r hgate
          cases h
          exact hw.keep (Bridge.gate_eq_some hgate).2 rfl fun reported hq ↦
            absurd hq (published_ne_send w bridge r reported)
      · cases h
  | send r =>
      simp only [Feed.step] at h
      split at h
      · obtain ⟨⟨bridge, result⟩, hsend, h⟩ := Option.bind_eq_some_iff.mp h
        have hmonitor := (Bridge.send_eq_some hsend).1
        cases h
        split_ifs with hr
        · exact hw.keep hmonitor rfl fun reported hq ↦
            absurd hq (published_ne_send w bridge result reported)
        · exact hw.keep hmonitor rfl fun reported hq ↦
            absurd hq (published_ne_send w bridge result reported)
      · cases h

/-- The gate has bounded the age of the stamp, so that a message is sent promptly exactly if a
heartbeat of the target is recent. -/
theorem Gated.promptly_iff (hw : w.Gated s) {reported : ℚ} (hphase : w.phase = .send reported) :
    w.SendsPromptly s (.send .sent) ↔
      (∃ b ∈ w.beaten, b.waited + (w.now - b.stamp) ≤ s.heartbeatTimeoutS) ∨
        ∃ a ∈ w.queue, FromTarget s a.heartbeat ∧ w.now - a.time ≤ s.heartbeatTimeoutS := by
  have hreported : w.reported = some reported := by
    unfold Feed.reported
    rw [hphase]
  obtain ⟨b, hb, hle⟩ := hw.passed reported hphase
  have hslack : slack s b reported = s.heartbeatTimeoutS - (reported - b.stamp) :=
    max_eq_right (sub_nonneg.mpr hle)
  have hage : b.waited + (w.now - reported) ≤ slack s b reported ↔
      b.waited + (w.now - b.stamp) ≤ s.heartbeatTimeoutS := by
    rw [hslack]
    constructor <;> intro h <;> linarith
  refine or_congr_left ⟨?_, fun ⟨b', hb', h⟩ ↦ ?_⟩
  · rintro ⟨r, hr, b', hb', h⟩
    cases hreported.symm.trans hr
    cases hb.symm.trans hb'
    exact ⟨b, hb, hage.mp h⟩
  · cases hb.symm.trans hb'
    exact ⟨reported, hreported, b, hb, hage.mpr h⟩

/-- Heartbeats stamped on their arrival and messages sent at the time of the report are prompt. -/
theorem Gated.promptly_of_at_once (hw : w.Gated s) {reported : ℚ}
    (hphase : w.phase = .send reported) (hwaited : ∀ b ∈ w.beaten, b.waited = 0)
    (hnow : w.now = reported) : w.SendsPromptly s (.send .sent) := by
  obtain ⟨b, hb, -⟩ := hw.passed reported hphase
  refine .inl ⟨reported, ?_, b, hb, ?_⟩
  · unfold Feed.reported
    rw [hphase]
    rfl
  · rw [hwaited b hb, hnow, sub_self, add_zero]
    exact le_max_left 0 _

/-- A step keeps every message backed exactly if it sends promptly. -/
theorem backed_step_iff (hw : w.Sound s) (hgated : w.Gated s) (hb : w.Backed s)
    (h : w.step s p e = some q) : q.Backed s ↔ w.SendsPromptly s e := by
  obtain ⟨-, ⟨rfl, hhand, hledger, hsent⟩ | ⟨hne, hmoves, hsent⟩⟩ := step_cases hw.hand h
  · have harrivals : q.arrivals = w.arrivals := congrArg Ledger.arrivals hledger
    have hrecent := hw.ledger.recent_iff
    rw [ledger_of_hand hhand] at hrecent
    obtain ⟨reported, hphase⟩ : ∃ reported, w.phase = .send reported := by
      simp only [Feed.step] at h
      split at h
      · exact ⟨_, ‹_›⟩
      · cases h
    rw [backed_cons hb harrivals hsent, hgated.promptly_iff hphase]
    exact hrecent
  · have hin : w.SendsPromptly s e := by
      unfold SendsPromptly
      split
      · exact absurd rfl hne
      · trivial
    exact iff_of_true (hb.moves hmoves hsent) hin

/-- **Fail closed.**  With the heartbeat required, in every run each LANDING_TARGET is sent within
the timeout of a heartbeat of the target if and only if each of them is sent promptly. -/
theorem backed_always_iff_sends_promptly {s : MavlinkSettings} (hs : s.requireHeartbeat = true)
    (p : PipelineSettings) (es : List FeedEvent) :
    Automaton.Always (step s p) (Backed s) (init s) es ↔
      Automaton.Along (step s p) (SendsPromptly s) (init s) es :=
  Automaton.always_iff_along (J := fun w ↦ w.Sound s ∧ w.Gated s)
    (fun _ _ _ hw h ↦ ⟨hw.1.step h, hw.2.step h⟩)
    (fun _ _ _ hw hb h ↦ backed_step_iff hw.1 hw.2 hb h) ⟨sound_init s, gated_init hs⟩ nofun es

/-- A heartbeat that lay unread for half a second, and a message sent a second behind the gate. -/
theorem backed_on_late_heartbeat :
    Automaton.Always (step { enableLandingTarget := true } {})
      (Backed { enableLandingTarget := true }) (init { enableLandingTarget := true })
      [.arrive ⟨some 1, some 1⟩, .readFrame true, .advance (1 / 2), .detect (.result true),
        .poll .received, .beat, .gate, .advance 1, .send .sent] :=
  (backed_always_iff_sends_promptly rfl {} _).mpr (by decide +kernel)

instance (s : MavlinkSettings) (w : Feed) : Decidable (w.Backed s) :=
  inferInstanceAs (Decidable (∀ t ∈ w.sent, ∃ a ∈ w.arrivals, _))

/-- Two heartbeats arrive at time 0 and the camera stalls behind the first
frame.  At time 10 the second heartbeat is taken for a fresh one. -/
theorem backlog_opens_gate :
    ¬ Automaton.Always (step { enableLandingTarget := true } {})
      (Backed { enableLandingTarget := true }) (init { enableLandingTarget := true })
      [.arrive ⟨some 1, some 1⟩, .arrive ⟨some 1, some 1⟩, .readFrame true,
        .detect (.result false), .poll .received, .beat, .advance 10, .readFrame true,
        .detect (.result true), .poll .received, .beat, .gate, .send .sent] := by
  intro h
  have hend : (Automaton.exec (step { enableLandingTarget := true } {})
      (init { enableLandingTarget := true })
      [.arrive ⟨some 1, some 1⟩, .arrive ⟨some 1, some 1⟩, .readFrame true,
        .detect (.result false), .poll .received, .beat, .advance 10, .readFrame true,
        .detect (.result true), .poll .received, .beat, .gate, .send .sent]).any
      (fun w ↦ !decide (w.Backed { enableLandingTarget := true })) = true := by
    decide +kernel
  obtain ⟨w, hw, hbad⟩ := (Option.any_eq_true _ _).mp hend
  have hgood := Automaton.always_iff_prefix.mp h _ w (List.prefix_refl _) hw
  simp [hgood] at hbad

end Feed

end DroneComms.Jetson
