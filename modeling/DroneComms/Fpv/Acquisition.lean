import DroneComms.Fpv.Hysteresis

/-!
# Acquisition

The monitor starts at no data, the worst state, so that the first permission to
arm is held back for the hysteresis window.  That asks for a second frame exactly
if a frame is stale by the end of the window.
-/

namespace DroneComms.Fpv

open Automaton Debounce
open Py (PyFloat)

variable {s : HealthSettings} {w w' : Watch} {now : ℚ} {es : List WatchEvent}

/-! ## Staleness -/

/-- Whether link statistics of an age are stale. -/
def HealthSettings.stale (s : HealthSettings) (age : ℚ) : Bool :=
  (s.healthLinkstatsCriticalFactor.mul s.healthLinkstatsStaleS).lt (.fin age) ||
    s.healthLinkstatsStaleS.lt (.fin age)

theorem HealthSettings.stale_mono {a b : ℚ} (hab : a ≤ b) (h : s.stale a = true) :
    s.stale b = true := by
  rw [HealthSettings.stale, Bool.or_eq_true] at h ⊢
  exact h.imp (PyFloat.lt_fin_mono hab) (PyFloat.lt_fin_mono hab)

theorem rawState_stale {store : TelemetryStore} {msg : LinkStatistics} {tMono : ℚ}
    (hstore : store.linkStatistics = some (msg, tMono)) (h : s.stale (now - tMono) = true) :
    (rawState s store now).1 ≠ .ok := by
  rw [rawState, hstore]
  dsimp only
  split_ifs with hcritical hwarn
  · simp
  · simp
  · rw [HealthSettings.stale, Bool.or_eq_true] at h
    exact absurd h (not_or.mpr ⟨hcritical, hwarn⟩)

theorem rawState_fresh {store : TelemetryStore} {msg : LinkStatistics} {tMono : ℚ}
    (hstore : store.linkStatistics = some (msg, tMono)) (h : ¬s.stale (now - tMono) = true) :
    rawState s store now = freshState s msg := by
  rw [HealthSettings.stale, Bool.or_eq_true, not_or] at h
  rw [rawState, hstore]
  dsimp only
  rw [if_neg h.1, if_neg h.2]

/-! ## A watch that has seen one frame -/

/-- What a watch knows of the link before a second frame. -/
structure Watch.OneFrame (s : HealthSettings) (w : Watch) : Prop where
  received_le : ∀ e ∈ w.log, e.received ≤ w.received
  ascending : Ordered Evaluation.received w.log
  empty : w.received = 0 → w.store.linkStatistics = none
  received_pos : ∀ e ∈ w.log, e.raw = .ok → 0 < e.received
  /-- While there is one frame, every OK is about it. -/
  single : ∃ tMono, (w.received = 1 → tMono ≤ w.now ∧
      ∃ msg, w.store.linkStatistics = some (msg, tMono)) ∧
    ∀ e ∈ w.log, e.received = 1 → e.raw = .ok → tMono ≤ e.time ∧ ¬s.stale (e.time - tMono) = true

theorem Watch.OneFrame.step {event : WatchEvent} (hw : w.OneFrame s)
    (h : w.step s event = some w') : w'.OneFrame s := by
  obtain ⟨tMono, hstore, hlog⟩ := hw.single
  rcases Watch.step_cases h with ⟨sink, -, rfl⟩ | ⟨msg, tMono', -, hle, rfl⟩ | ⟨time, -, hle, rfl⟩
  · refine ⟨?_, ?_, hw.empty, ?_, tMono, hstore, ?_⟩
    · exact List.forall_mem_cons.mpr ⟨by simp, hw.received_le⟩
    · exact List.pairwise_cons.mpr ⟨by simpa using hw.received_le, hw.ascending⟩
    · refine List.forall_mem_cons.mpr ⟨fun hok ↦ ?_, hw.received_pos⟩
      rw [LinkHealthMonitor.evaluate_raw] at hok
      rw [LinkHealthMonitor.evaluate_received]
      refine Nat.pos_of_ne_zero fun hzero ↦ ?_
      rw [rawState, hw.empty hzero] at hok
      cases hok
    · refine List.forall_mem_cons.mpr ⟨fun hone hok ↦ ?_, hlog⟩
      rw [LinkHealthMonitor.evaluate_received] at hone
      rw [LinkHealthMonitor.evaluate_raw] at hok
      rw [LinkHealthMonitor.evaluate_time]
      obtain ⟨hle, msg, hmsg⟩ := hstore hone
      exact ⟨hle, fun hstale ↦ rawState_stale hmsg hstale hok⟩
  · cases hmsg : msg.isLinkStatistics with
    | false =>
        refine ⟨hw.received_le, hw.ascending, ?_, hw.received_pos, tMono, ?_, hlog⟩
        · rw [TelemetryStore.update_other hmsg]
          exact hw.empty
        · rw [TelemetryStore.update_other hmsg]
          exact hstore
    | true =>
        by_cases hfirst : w.received = 0
        · -- the first frame: no evaluation has seen one before
          refine ⟨fun e he ↦ (hw.received_le e he).trans (Nat.le_succ _), hw.ascending,
            fun hzero ↦ absurd hzero (Nat.succ_ne_zero _), hw.received_pos, tMono',
            fun _ ↦ ⟨hle, TelemetryStore.update_link hmsg⟩, fun e he hone ↦ ?_⟩
          exact absurd (hone ▸ hw.received_le e he) (by omega)
        · refine ⟨fun e he ↦ (hw.received_le e he).trans (Nat.le_succ _), hw.ascending,
            fun hzero ↦ absurd hzero (Nat.succ_ne_zero _), hw.received_pos, tMono,
            fun hone ↦ absurd (Nat.succ_injective hone) hfirst, hlog⟩
  · exact ⟨hw.received_le, hw.ascending, hw.empty, hw.received_pos, tMono,
      fun hone ↦ ⟨(hstore hone).1.trans hle, (hstore hone).2⟩, hlog⟩

theorem oneFrame_of_run (h : exec (Watch.step s) { now } es = some w) : w.OneFrame s := by
  refine exec_invariant (fun _ _ _ hw hstep ↦ hw.step hstep) ?_ h
  refine ⟨List.forall_mem_nil _, List.Pairwise.nil, fun _ ↦ rfl, List.forall_mem_nil _, 0,
    fun hone ↦ ?_, List.forall_mem_nil _⟩
  cases hone

/-- Until a second frame, OK is confirmed only when the frame was fresh for as long as the
hysteresis window. -/
theorem fresh_when_due (hw : w.OneFrame s) {log : List Evaluation} (hlog : log <:+ w.log)
    (hheld : HeldFor s.due Evaluation.time Evaluation.raw .ok log)
    (hone : ∀ e ∈ log, e.received ≤ 1) :
    ∃ age, 0 ≤ age ∧ s.healthHysteresisS.le (.fin age) = true ∧ ¬s.stale age = true := by
  obtain ⟨last, streak, first, rest, rfl, hlast, -, hfirst, hdue⟩ := hheld
  obtain ⟨tMono, -, hsingle⟩ := hw.single
  have hfirstMem : first ∈ last :: (streak ++ first :: rest) := by simp
  have hlastMem : last ∈ last :: (streak ++ first :: rest) := List.mem_cons_self
  have honce : ∀ e ∈ last :: (streak ++ first :: rest), e.raw = .ok → e.received = 1 :=
    fun e he hok ↦ le_antisymm (hone e he) (hw.received_pos e (hlog.subset he) hok)
  obtain ⟨hfirstTime, -⟩ :=
    hsingle first (hlog.subset hfirstMem) (honce first hfirstMem hfirst) hfirst
  obtain ⟨hlastTime, hfresh⟩ :=
    hsingle last (hlog.subset hlastMem) (honce last hlastMem hlast) hlast
  exact ⟨last.time - tMono, sub_nonneg.mpr hlastTime,
    PyFloat.le_fin_mono (sub_le_sub_left hfirstTime _) hdue, hfresh⟩

/-! ## Arming on one frame -/

/-- The evaluation permits arming. -/
def Evaluation.Arms (e : Evaluation) : Prop := ∃ r, e.report = some r ∧ r.armPermitted = true

theorem Watch.Sound.confirmed_of_arms (hw : w.Sound s) {e : Evaluation} (he : e ∈ w.log)
    (harms : e.Arms) : e.confirmed = .ok := by
  obtain ⟨r, hr, hpermitted⟩ := harms
  obtain ⟨hstate, hok⟩ := hw.report e he r hr
  rw [← hstate]
  exact hok.mp hpermitted

/-- A frame that is no worse than the thresholds. -/
def HealthSettings.thresholdLink (s : HealthSettings) : LinkStatistics where
  uplinkRssiAnt1Dbm := (s.sensitivityFloor s.elrsMajorVersion 0).getD 0 + s.healthRssiMarginDb
  uplinkRssiAnt2Dbm := 0
  uplinkLq := max s.healthLqCritical s.healthLqWarn
  uplinkSnrDb := 0
  activeAntenna := 0
  rfMode := 0
  uplinkTxPowerMw := none
  downlinkRssiDbm := 0
  downlinkLq := s.healthDownlinkLqWarn
  downlinkSnrDb := 0

theorem freshState_thresholdLink : freshState s s.thresholdLink = (.ok, []) := by
  have hcritical : ¬s.thresholdLink.uplinkLq < s.healthLqCritical := not_lt.mpr (le_max_left _ _)
  have hwarn : ¬s.thresholdLink.uplinkLq < s.healthLqWarn := not_lt.mpr (le_max_right _ _)
  rw [freshState, if_neg hcritical, if_neg hwarn]
  simp only [HealthSettings.thresholdLink, lt_self_iff_false, if_false]
  cases hfloor : s.sensitivityFloor s.elrsMajorVersion 0 with
  | none => rfl
  | some floor => simp

/-- One frame, and evaluations when it is new and when it has an age. -/
def oneFrame (s : HealthSettings) (age : ℚ) : List WatchEvent :=
  [.update (.linkStatistics s.thresholdLink) 0, .evaluate (some true), .advance age,
    .evaluate (some true)]

/-- A frame that is fresh at the end of the hysteresis window permits arming. -/
theorem oneFrame_arms {age : ℚ} (hage : 0 ≤ age) (hdue : s.healthHysteresisS.le (.fin age) = true)
    (hfresh : ¬s.stale age = true) :
    ∃ w e, exec (Watch.step s) {} (oneFrame s age) = some w ∧ e ∈ w.log ∧ e.Arms ∧
      e.received = 1 := by
  let store : TelemetryStore := ({} : TelemetryStore).update (.linkStatistics s.thresholdLink) 0
  have hnew : ¬s.stale (0 - 0) = true := fun h ↦ hfresh (HealthSettings.stale_mono (by simpa) h)
  have hraw : (rawState s store 0).1 = .ok := by
    rw [rawState_fresh rfl hnew, freshState_thresholdLink]
  have hraw' : (rawState s store age).1 = .ok := by
    rw [rawState_fresh rfl (by rwa [sub_zero]), freshState_thresholdLink]
  let m := (({} : LinkHealthMonitor).evaluate s store 0 (some true) 1).1
  have hm : m.debouncer = { state := .noData, pending := some .ok, since := 0 } := by
    rw [LinkHealthMonitor.evaluate_debouncer, hraw, observe_below (by decide)]
    rfl
  have hconfirmed : (m.evaluate s store age (some true) 1).2.confirmed = .ok := by
    rw [LinkHealthMonitor.evaluate_confirmed, hraw', hm, observe_below (by decide),
      if_neg (not_not.mpr rfl), if_pos]
    rw [HealthSettings.due, sub_zero]
    exact hdue
  obtain ⟨r, hr, -, -⟩ := LinkHealthMonitor.evaluate_alert s m store age 1
  obtain ⟨hstate, hpermitted⟩ := LinkHealthMonitor.evaluate_report hr
  let w : Watch := {
    store, now := age, received := 1
    monitor := (m.evaluate s store age (some true) 1).1
    log := [(m.evaluate s store age (some true) 1).2,
      (({} : LinkHealthMonitor).evaluate s store 0 (some true) 1).2] }
  refine ⟨w, (m.evaluate s store age (some true) 1).2, ?_, List.mem_cons_self,
    ⟨r, hr, hpermitted.mpr (hstate.trans hconfirmed)⟩, LinkHealthMonitor.evaluate_received ..⟩
  simp [oneFrame, Watch.step, hage]
  rfl

/-- **No arming on a single frame**, exactly if a frame as old as the hysteresis window is
stale. -/
theorem arming_takes_two_frames_iff (s : HealthSettings) :
    (∀ now es w, exec (Watch.step s) { now } es = some w →
      ∀ e ∈ w.log, e.Arms → 2 ≤ e.received) ↔
    ∀ age : ℚ, 0 ≤ age → s.healthHysteresisS.le (.fin age) = true → s.stale age = true := by
  constructor
  · intro h age hage hdue
    by_contra hfresh
    obtain ⟨w, e, hrun, he, harms, hone⟩ := oneFrame_arms hage hdue hfresh
    have htwo := h 0 (oneFrame s age) w hrun e he harms
    rw [hone] at htwo
    exact absurd htwo (by decide)
  · intro h now es w hrun e he harms
    by_contra hfew
    have hw := sound_of_run hrun
    have hone := oneFrame_of_run hrun
    obtain ⟨newer, older, hlog⟩ := List.append_of_mem he
    have hsuffix : (e :: older) <:+ w.log := ⟨newer, hlog.symm⟩
    obtain ⟨recent, entry, before, heq, -, -, hheld⟩ :=
      hw.entered hsuffix (hw.confirmed_of_arms he harms)
    have hentry : (entry :: before) <:+ e :: older := ⟨recent, heq.symm⟩
    have hreceived : ∀ o ∈ entry :: before, o.received ≤ 1 := by
      intro o ho
      have hle : ∀ o ∈ e :: older, o.received ≤ e.received := List.forall_mem_cons.mpr
        ⟨le_rfl, (List.pairwise_cons.mp (hone.ascending.sublist hsuffix.sublist)).1⟩
      exact (hle o (hentry.subset ho)).trans (by omega)
    obtain ⟨age, hage, hdue, hfresh⟩ :=
      fresh_when_due hone (hentry.trans hsuffix) hheld hreceived
    exact hfresh (h age hage hdue)

/-- Default settings but for statistics that stay fresh for ten seconds. -/
def slowlyStale : HealthSettings := { healthLinkstatsStaleS := .fin 10 }

/-- They arm on one frame after the two seconds of the hysteresis window. -/
theorem arming_on_one_frame : ∃ w e, exec (Watch.step slowlyStale) {} (oneFrame slowlyStale 2) =
    some w ∧ e ∈ w.log ∧ e.Arms ∧ e.received = 1 :=
  oneFrame_arms (by norm_num) (by decide +kernel) (by decide +kernel)

end DroneComms.Fpv
