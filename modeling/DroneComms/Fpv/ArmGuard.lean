import DroneComms.Fpv.Health
import DroneComms.Py.Sequence
import DroneComms.Lib.Automaton
import Mathlib.Tactic

/-!
# The arm guard

`ArmGuard` of `meshsa/fpv/arm_guard.py` wraps an RC link.  It holds the arm
channel low until a fresh report permits arming, and once an armed frame has
passed it latches and clamps nothing until the operator commands the channel
low.

`sendRc` is translated branch by branch.  What the surroundings do during one
call, the clock reading, the answer of the wrapped link and that of the event
sink, is a parameter (`Surroundings`), so that a raising link is an ordinary
input.  A `Flight` is a guard with its clock and the record of all frames that
reached the link.
-/

namespace DroneComms.Fpv

/-- `ArmGuardSettings`. -/
structure ArmGuardSettings where
  armChannelIndex : Int := 4
  armThresholdUs : Int := 1500
  armGuardReportMaxAgeS : ℚ := 1
  armClampUs : Int := 1000

/-- The mutable fields of an `ArmGuard`. -/
structure ArmGuard where
  latched : Bool := false
  lastReport : Option HealthReport := none
deriving DecidableEq, Repr

/-- The `data` dictionary of an `arm_blocked` event. -/
structure ArmBlocked where
  attemptedUs : Int
  clampedToUs : Int
  healthState : Option String
  reportReasons : List String
deriving DecidableEq, Repr

/-- The exceptions that leave `send_rc`. -/
inductive SendRcError where
  | /-- `ArmGuardError`: the frame has no arm channel. -/ armGuard (message : String)
  | /-- A negative index before the start of the frame. -/ index
  | /-- Raised by the wrapped link. -/ link
  | /-- Raised by the event sink. -/ sink
deriving DecidableEq, Repr

/-- What the surroundings of one `send_rc` call do. -/
structure Surroundings where
  /-- The reading of the clock. -/
  now : ℚ
  /-- Whether the wrapped link delivers the frame instead of raising. -/
  linkDelivers : Bool
  /-- Whether the event sink, if there is one, returns instead of raising. -/
  onEvent : Option Bool

/-- What one `send_rc` call leaves behind. -/
structure SendRc where
  guard : ArmGuard
  delivered : Option (List Int) := none
  event : Option ArmBlocked := none
  raised : Option SendRcError := none
deriving DecidableEq, Repr

namespace ArmGuard

def updateHealth (g : ArmGuard) (report : HealthReport) : ArmGuard :=
  { g with lastReport := some report }

/-- `_arm_allowed`. -/
def armAllowed (s : ArmGuardSettings) (g : ArmGuard) (now : ℚ) : Bool :=
  match g.lastReport with
  | none => false
  | some report =>
      decide (now - report.tMono ≤ s.armGuardReportMaxAgeS) && report.armPermitted

/-- The data that `_emit_blocked` hands to the sink. -/
def blocked (s : ArmGuardSettings) (g : ArmGuard) (attemptedUs : Int) : ArmBlocked where
  attemptedUs := attemptedUs
  clampedToUs := s.armClampUs
  healthState := g.lastReport.map (·.state.value)
  reportReasons := (g.lastReport.map (·.reasons)).getD []

/-- `self._link.send_rc(chans)` as the last statement of a branch. -/
def forward (w : Surroundings) (g : ArmGuard) (chans : List Int)
    (event : Option ArmBlocked := none) : SendRc :=
  if w.linkDelivers then { guard := g, delivered := some chans, event }
  else { guard := g, event, raised := some .link }

/-- `send_rc`. -/
def sendRc (s : ArmGuardSettings) (w : Surroundings) (g : ArmGuard)
    (channels : List Int) : SendRc :=
  let idx := s.armChannelIndex
  if (channels.length : Int) ≤ idx then
    { guard := g
      raised := some (.armGuard
        s!"channels length {channels.length} <= arm_channel_index {idx}") }
  else
    match Py.get channels idx with
    | none => { guard := g, raised := some .index }
    | some us =>
      if g.latched then
        -- in flight: the latch is released before the frame is handed on
        if s.armThresholdUs ≤ us then forward w g channels
        else forward w { g with latched := false } channels
      else if us < s.armThresholdUs then forward w g channels
      else if armAllowed s g w.now then
        forward w { g with latched := true } channels
      else
        let event := blocked s g us
        match w.onEvent, Py.set channels idx s.armClampUs with
        | some false, _ => { guard := g, event := some event, raised := some .sink }
        | _, some chans => forward w g chans (some event)
        | _, none => { guard := g, raised := some .index }

/-! ## What one call can do -/

@[simp] theorem forward_guard (w : Surroundings) (g : ArmGuard) (chans : List Int)
    (event : Option ArmBlocked) : (forward w g chans event).guard = g := by
  unfold forward; split <;> rfl

@[simp] theorem forward_delivered (w : Surroundings) (g : ArmGuard) (chans : List Int)
    (event : Option ArmBlocked) :
    (forward w g chans event).delivered = if w.linkDelivers then some chans else none := by
  unfold forward; split <;> rfl

end ArmGuard

/-- The frame commands the arm channel to or above the threshold. -/
def Armed (s : ArmGuardSettings) (frame : List Int) : Prop :=
  ∃ us, Py.get frame s.armChannelIndex = some us ∧ s.armThresholdUs ≤ us

instance (s : ArmGuardSettings) (frame : List Int) : Decidable (Armed s frame) :=
  match h : Py.get frame s.armChannelIndex with
  | none => .isFalse (by rintro ⟨us, hus, -⟩; rw [h] at hus; cases hus)
  | some us =>
      if hle : s.armThresholdUs ≤ us then .isTrue ⟨us, h, hle⟩
      else .isFalse (by
        rintro ⟨us', hus, hle'⟩
        rw [h] at hus
        cases hus
        exact hle hle')

/-- The claim's standing assumptions on the settings: the index counts from the
front and the clamp is below the threshold. -/
structure ArmGuardSettings.WellFormed (s : ArmGuardSettings) : Prop where
  index_nonneg : 0 ≤ s.armChannelIndex
  clamp_lt : s.armClampUs < s.armThresholdUs

/-- The call changes the latch: it releases it, or it sets it on a permitted
arming frame. -/
def FlipsLatch (s : ArmGuardSettings) (g : ArmGuard) (now : ℚ) (channels : List Int) : Prop :=
  s.armChannelIndex < channels.length ∧
    if g.latched then ¬ Armed s channels
    else Armed s channels ∧ ArmGuard.armAllowed s g now = true

instance (s : ArmGuardSettings) (g : ArmGuard) (now : ℚ) (channels : List Int) :
    Decidable (FlipsLatch s g now channels) := by
  unfold FlipsLatch
  infer_instance

namespace ArmGuard

variable {s : ArmGuardSettings}

/-- A blocked arming frame reaches the link clamped and hence not armed. -/
theorem not_armed_clamped (hs : s.WellFormed) {channels : List Int}
    (h : s.armChannelIndex < channels.length) :
    ¬ Armed s (channels.set s.armChannelIndex.toNat s.armClampUs) := by
  rintro ⟨us, hus, hle⟩
  rw [Py.get_set_self hs.index_nonneg h] at hus
  cases hus
  exact absurd hs.clamp_lt (not_lt.mpr hle)

/-- Everything a call of `send_rc` can do to the latch and to the wire: refuse
the frame, change the latch and forward the frame, keep the latch and forward
the frame, or block the arming and at most forward the clamped frame. -/
theorem sendRc_cases (hs : s.WellFormed) (w : Surroundings) (g : ArmGuard)
    (channels : List Int) :
    let r := sendRc s w g channels
    (¬ FlipsLatch s g w.now channels ∧ r.guard = g ∧ r.delivered = none ∧
        (channels.length : Int) ≤ s.armChannelIndex) ∨
    (FlipsLatch s g w.now channels ∧ r.guard = { g with latched := !g.latched } ∧
        r.delivered = if w.linkDelivers then some channels else none) ∨
    (¬ FlipsLatch s g w.now channels ∧ (g.latched = true ↔ Armed s channels) ∧ r.guard = g ∧
        r.delivered = if w.linkDelivers then some channels else none) ∨
    (¬ FlipsLatch s g w.now channels ∧ g.latched = false ∧ r.guard = g ∧
        (r.delivered = none ∨
          r.delivered = some (channels.set s.armChannelIndex.toNat s.armClampUs) ∧
            s.armChannelIndex < channels.length)) := by
  intro r
  by_cases hlen : (channels.length : Int) ≤ s.armChannelIndex
  · refine .inl ⟨fun h ↦ absurd h.1 (not_lt.mpr hlen), ?_, ?_, hlen⟩ <;>
      simp only [r, sendRc, if_pos hlen]
  have hlt : s.armChannelIndex < channels.length := not_le.mp hlen
  obtain ⟨us, hus⟩ := Py.exists_get hs.index_nonneg hlt
  have harmed : Armed s channels ↔ s.armThresholdUs ≤ us := by
    constructor
    · rintro ⟨us', hus', hle⟩
      rw [hus] at hus'
      cases hus'
      exact hle
    · exact fun h ↦ ⟨us, hus, h⟩
  by_cases hl : g.latched = true <;> by_cases ha : s.armThresholdUs ≤ us
  · -- latched and still armed
    refine .inr (.inr (.inl ⟨?_, ?_, ?_, ?_⟩))
    · simp [FlipsLatch, hl, harmed, ha]
    · simp [hl, harmed, ha]
    · simp [r, sendRc, hlen, hus, hl, ha]
    · simp [r, sendRc, hlen, hus, hl, ha]
  · -- the operator releases the latch
    refine .inr (.inl ⟨?_, ?_, ?_⟩)
    · simp [FlipsLatch, hl, harmed, ha, hlt]
    · simp [r, sendRc, hlen, hus, hl, ha]
    · simp [r, sendRc, hlen, hus, hl, ha]
  · -- an arming frame while disarmed
    have hnlt : ¬ us < s.armThresholdUs := not_lt.mpr ha
    by_cases hok : armAllowed s g w.now = true
    · refine .inr (.inl ⟨?_, ?_, ?_⟩)
      · simp [FlipsLatch, hl, harmed, ha, hlt, hok]
      · simp [r, sendRc, hlen, hus, hl, hnlt, hok]
      · simp [r, sendRc, hlen, hus, hl, hnlt, hok]
    · have hset := Py.set_of_nonneg hs.index_nonneg hlt s.armClampUs
      refine .inr (.inr (.inr ⟨?_, by simpa using hl, ?_, ?_⟩))
      · simp [FlipsLatch, hl, hok]
      · simp only [r, sendRc, hlen, hus, hl, hnlt, hok, hset, if_false]
        rcases w.onEvent with _ | _ | _ <;> simp
      · simp only [r, sendRc, hlen, hus, hl, hnlt, hok, hset, if_false]
        rcases w.onEvent with _ | _ | _ <;> cases w.linkDelivers <;> simp [hlt]
  · -- disarmed and not arming
    have hlt' : us < s.armThresholdUs := not_le.mp ha
    refine .inr (.inr (.inl ⟨?_, ?_, ?_, ?_⟩))
    · simp [FlipsLatch, hl, harmed, ha]
    · simp [hl, harmed, ha]
    · simp [r, sendRc, hlen, hus, hl, hlt']
    · simp [r, sendRc, hlen, hus, hl, hlt']

end ArmGuard

/-! ## Runs -/

/-- One frame that reached the link. -/
structure Delivery where
  time : ℚ
  /-- The most recent report at that time. -/
  report : Option HealthReport
  /-- Whether the guard was latched when `send_rc` was called. -/
  latched : Bool
  requested : List Int
  frame : List Int
deriving DecidableEq, Repr

/-- A guard with its clock and the frames delivered so far, newest first. -/
structure Flight where
  guard : ArmGuard := {}
  now : ℚ := 0
  log : List Delivery := []
deriving DecidableEq, Repr

/-- What can happen next: time passes, a report arrives, or `send_rc` is called
while the link and the sink answer as given. -/
inductive FlightEvent where
  | advance (time : ℚ)
  | updateHealth (report : HealthReport)
  | sendRc (channels : List Int) (linkDelivers : Bool) (onEvent : Option Bool)

namespace Flight

/-- One step of a flight; the clock never runs backwards. -/
def step (s : ArmGuardSettings) (f : Flight) : FlightEvent → Option Flight
  | .advance time => if f.now ≤ time then some { f with now := time } else none
  | .updateHealth report => some { f with guard := f.guard.updateHealth report }
  | .sendRc channels linkDelivers onEvent =>
      let r := f.guard.sendRc s ⟨f.now, linkDelivers, onEvent⟩ channels
      some { f with
        guard := r.guard
        log := (r.delivered.map fun frame ↦
          ⟨f.now, f.guard.lastReport, f.guard.latched, channels, frame⟩).toList ++ f.log }

end Flight

/-- The last frame of the log commands the arm channel. -/
def LastArmed (s : ArmGuardSettings) : List Delivery → Prop
  | [] => False
  | d :: _ => Armed s d.frame

/-- The most recent report at the delivery permitted arming and was fresh. -/
def Delivery.Authorised (s : ArmGuardSettings) (d : Delivery) : Prop :=
  ∃ r, d.report = some r ∧ r.armPermitted = true ∧
    d.time - r.tMono ≤ s.armGuardReportMaxAgeS

/-- Every armed frame that follows a disarmed one, or comes first, is authorised. -/
def EdgesAuthorised (s : ArmGuardSettings) : List Delivery → Prop
  | [] => True
  | d :: ds => (Armed s d.frame → ¬ LastArmed s ds → d.Authorised s) ∧ EdgesAuthorised s ds

/-- Whole-run safety of the guard: arming edges are authorised, the latch
mirrors the last frame on the wire, and nothing is clamped while latched. -/
structure Flight.Safe (s : ArmGuardSettings) (f : Flight) : Prop where
  edges : EdgesAuthorised s f.log
  latch : f.guard.latched = true ↔ LastArmed s f.log
  unchanged : ∀ d ∈ f.log, d.latched = true → d.frame = d.requested

/-- The step is not a `send_rc` whose frame changes the latch and then fails to
reach the link. -/
def Flight.FlipReachesLink (s : ArmGuardSettings) (f : Flight) : FlightEvent → Prop
  | .sendRc channels linkDelivers _ =>
      FlipsLatch s f.guard f.now channels → linkDelivers = true
  | _ => True

namespace Flight

variable {s : ArmGuardSettings}

/-- What `_arm_allowed` checks is what an arming edge needs. -/
theorem authorised_of_armAllowed {g : ArmGuard} {now : ℚ} {latched : Bool}
    {requested frame : List Int} (h : g.armAllowed s now = true) :
    Delivery.Authorised s ⟨now, g.lastReport, latched, requested, frame⟩ := by
  unfold ArmGuard.armAllowed at h
  cases hr : g.lastReport with
  | none => simp [hr] at h
  | some r =>
      simp only [hr, Bool.and_eq_true, decide_eq_true_eq] at h
      exact ⟨r, rfl, h.2, h.1⟩

/-- A flight that has just begun is safe. -/
theorem safe_init (now : ℚ) : Safe s { now } :=
  ⟨trivial, by simp [LastArmed], by simp⟩

/-- Delivering `frame` keeps a safe flight safe if the new latch mirrors the
frame, an arming edge is authorised, and a latched guard passed the frame on
as it was. -/
theorem Safe.deliver {f : Flight} (hf : f.Safe s) {g : ArmGuard} {d : Delivery}
    (hlatch : g.latched = true ↔ Armed s d.frame)
    (hedge : Armed s d.frame → f.guard.latched = false → d.Authorised s)
    (hsame : d.latched = true → d.frame = d.requested) :
    Safe s { f with guard := g, log := d :: f.log } where
  edges := ⟨fun ha hl ↦ hedge ha (by simpa using mt hf.latch.mp hl), hf.edges⟩
  latch := hlatch
  unchanged := by
    intro d' hd'
    rcases List.mem_cons.mp hd' with rfl | hd'
    · exact hsame
    · exact hf.unchanged d' hd'

/-- One step from a safe flight ends in a safe flight exactly if it is not a
latch-changing frame that the link failed to deliver. -/
theorem safe_step_iff (hs : s.WellFormed) {f f' : Flight} {e : FlightEvent} (hf : f.Safe s)
    (hstep : step s f e = some f') : f'.Safe s ↔ f.FlipReachesLink s e := by
  cases e with
  | advance time =>
      simp only [step, Option.ite_none_right_eq_some, Option.some.injEq] at hstep
      obtain ⟨-, rfl⟩ := hstep
      exact ⟨fun _ ↦ trivial, fun _ ↦ ⟨hf.edges, hf.latch, hf.unchanged⟩⟩
  | updateHealth report =>
      cases hstep
      exact ⟨fun _ ↦ trivial, fun _ ↦ ⟨hf.edges, hf.latch, hf.unchanged⟩⟩
  | sendRc channels linkDelivers onEvent =>
      cases hstep
      have hcases := ArmGuard.sendRc_cases hs ⟨f.now, linkDelivers, onEvent⟩ f.guard channels
      simp only [FlipReachesLink]
      rcases hcases with ⟨hnf, hg, hd, -⟩ | ⟨hfl, hg, hd⟩ | ⟨hnf, hl, hg, hd⟩ |
        ⟨hnf, hl, hg, hd⟩
      · -- refused: nothing changed
        rw [hg, hd]
        exact ⟨fun _ h ↦ absurd h hnf, fun _ ↦ ⟨hf.edges, hf.latch, hf.unchanged⟩⟩
      · -- the latch changed: only a delivered frame keeps it honest
        rw [hg, hd]
        cases linkDelivers with
        | false =>
            refine ⟨fun h ↦ ?_, fun h ↦ absurd (h hfl) Bool.false_ne_true⟩
            have hl := h.latch.trans hf.latch.symm
            simp at hl
        | true =>
            refine ⟨fun _ _ ↦ rfl, fun _ ↦ hf.deliver ?_ ?_ fun _ ↦ rfl⟩
            · have := hfl.2
              cases hb : f.guard.latched <;> simp_all
            · intro ha hb
              have := hfl.2
              rw [hb] at this
              exact authorised_of_armAllowed this.2
      · -- passed on with the latch as it was
        rw [hg, hd]
        refine ⟨fun _ h ↦ absurd h hnf, fun _ ↦ ?_⟩
        cases linkDelivers with
        | false => exact ⟨hf.edges, hf.latch, hf.unchanged⟩
        | true =>
            refine hf.deliver hl (fun ha hb ↦ ?_) fun _ ↦ rfl
            exact absurd (hl.mpr ha) (by simp [hb])
      · -- blocked: at most the clamped frame reaches the link
        rw [hg]
        refine ⟨fun _ h ↦ absurd h hnf, fun _ ↦ ?_⟩
        rcases hd with hd | ⟨hd, hlt⟩
        · rw [hd]
          exact ⟨hf.edges, hf.latch, hf.unchanged⟩
        · rw [hd]
          have hna := ArmGuard.not_armed_clamped hs hlt
          exact hf.deliver (by simp [hl, hna]) (fun ha ↦ absurd ha hna) (by simp [hl])

/-- **Whole-run safety.**  A flight is safe after every call if and only if no
frame that changes the latch is lost on the link. -/
theorem safe_always_iff_flips_reach_link (s : ArmGuardSettings) (hs : s.WellFormed) (now : ℚ)
    (es : List FlightEvent) :
    Automaton.Always (step s) (Safe s) { now } es ↔
      Automaton.Along (step s) (FlipReachesLink s) { now } es :=
  Automaton.always_iff_along (J := fun _ ↦ True) (fun _ _ _ _ _ ↦ trivial)
    (fun _ _ _ _ hf hstep ↦ safe_step_iff hs hf hstep) trivial (safe_init now) es

/-- The default guard arms on a fresh report and stays safe when its frames get
through. -/
theorem safe_arm_and_release :
    Automaton.Always (step {}) (Safe {}) { now := 0 }
      [.updateHealth ⟨.ok, true, [], 0⟩, .sendRc [0, 0, 0, 0, 2000] true none,
        .sendRc [0, 0, 0, 0, 1000] true none] := by
  refine (safe_always_iff_flips_reach_link {} ⟨by decide, by decide⟩ 0 _).mpr ?_
  rintro _ -
  refine ⟨trivial, ?_⟩
  rintro _ -
  refine ⟨fun _ ↦ rfl, ?_⟩
  rintro _ -
  exact ⟨fun _ ↦ rfl, trivial⟩

/-- A permitted arming frame is lost on the link.  Five seconds later the report
is stale, but the guard is latched and lets the next arming frame through. -/
theorem lost_arming_frame_unsafe :
    ({} : ArmGuardSettings).WellFormed ∧
      ¬ Automaton.Always (step {}) (Safe {}) { now := 0 }
        [.updateHealth ⟨.ok, true, [], 0⟩, .sendRc [0, 0, 0, 0, 2000] false none,
          .advance 5, .sendRc [0, 0, 0, 0, 2000] true none] := by
  refine ⟨⟨by decide, by decide⟩, fun h ↦ ?_⟩
  have hend : Automaton.exec (step {}) { now := 0 }
      [.updateHealth ⟨.ok, true, [], 0⟩, .sendRc [0, 0, 0, 0, 2000] false none,
        .advance 5, .sendRc [0, 0, 0, 0, 2000] true none] =
      some { guard := ⟨true, some ⟨.ok, true, [], 0⟩⟩, now := 5, log :=
        [⟨5, some ⟨.ok, true, [], 0⟩, true, [0, 0, 0, 0, 2000], [0, 0, 0, 0, 2000]⟩] } := by
    decide +kernel
  have hsafe := Automaton.always_iff_prefix.mp h _ _ (List.prefix_refl _) hend
  obtain ⟨r, hr, -, hfresh⟩ := hsafe.edges.1 (by decide) id
  cases hr
  exact absurd hfresh (by norm_num)

end Flight

end DroneComms.Fpv
