import DroneComms.Fpv.LinkHealth

/-!
# Hysteresis

The monitor debounces the raw states: a worse one counts at once, a better one
when it was held for the hysteresis window.  The log of a watch is the history of
that debouncer, so what is true of debounced histories is true of the reports.
-/

namespace DroneComms.Fpv

open Automaton Debounce

/-! ## The monitor is a debouncer -/

theorem HealthSettings.due_mono (s : HealthSettings) (a b c : ℚ) (hab : a ≤ b)
    (h : s.due b c = true) : s.due a c = true :=
  Py.PyFloat.le_fin_mono (sub_le_sub_left hab c) h

namespace LinkHealthMonitor

/-- What the monitor remembers of the raw states. -/
def debouncer (m : LinkHealthMonitor) : Debouncer HealthState ℚ where
  state := m.state
  pending := m.pending
  since := m.pendingSince

theorem applyHysteresis_debouncer (s : HealthSettings) (m : LinkHealthMonitor) (raw : HealthState)
    (now : ℚ) :
    (m.applyHysteresis s raw now).debouncer = observe s.due m.debouncer raw now := by
  have hlt : m.state.severity < raw.severity ↔ m.state < raw := Iff.rfl
  rw [applyHysteresis, observe]
  simp only [debouncer, hlt]
  split_ifs with hsame habove hpending hdue <;> simp [*]

section

variable (s : HealthSettings) (m : LinkHealthMonitor) (store : TelemetryStore) (now : ℚ)
  (sink : Option Bool) (received : ℕ)

@[simp] theorem evaluate_time : (m.evaluate s store now sink received).2.time = now := by
  simp only [evaluate]
  split_ifs <;> rfl

@[simp] theorem evaluate_raw :
    (m.evaluate s store now sink received).2.raw = (rawState s store now).1 := by
  simp only [evaluate]
  split_ifs <;> rfl

@[simp] theorem evaluate_received :
    (m.evaluate s store now sink received).2.received = received := by
  simp only [evaluate]
  split_ifs <;> rfl

@[simp] theorem evaluate_confirmed : (m.evaluate s store now sink received).2.confirmed =
    (observe s.due m.debouncer (rawState s store now).1 now).state := by
  rw [← applyHysteresis_debouncer]
  simp only [evaluate]
  split_ifs <;> rfl

@[simp] theorem evaluate_debouncer : (m.evaluate s store now sink received).1.debouncer =
    observe s.due m.debouncer (rawState s store now).1 now := by
  rw [← applyHysteresis_debouncer]
  simp only [evaluate]
  split_ifs <;> rfl

end

variable {s : HealthSettings} {m : LinkHealthMonitor} {store : TelemetryStore} {now : ℚ}
  {sink : Option Bool} {received : ℕ}

/-- Only OK permits arming. -/
theorem evaluate_report {r : HealthReport}
    (h : (m.evaluate s store now sink received).2.report = some r) :
    r.state = (m.evaluate s store now sink received).2.confirmed ∧
      (r.armPermitted = true ↔ r.state = .ok) := by
  simp only [evaluate] at h ⊢
  split_ifs at h ⊢ <;> cases h <;> exact ⟨rfl, decide_eq_true_iff⟩

/-- Only a sink that raises takes the report away. -/
theorem evaluate_returns (s : HealthSettings) (m : LinkHealthMonitor) (store : TelemetryStore)
    (now : ℚ) (received : ℕ) (h : sink ≠ some false) :
    ∃ r, (m.evaluate s store now sink received).2.report = some r := by
  simp only [evaluate]
  rw [if_neg fun hraises ↦ h hraises.2]
  exact ⟨_, rfl⟩

/-- A sink that returns is told of every change. -/
theorem evaluate_alert (s : HealthSettings) (m : LinkHealthMonitor) (store : TelemetryStore)
    (now : ℚ) (received : ℕ) :
    ∃ r, (m.evaluate s store now (some true) received).2.report = some r ∧
      (m.evaluate s store now (some true) received).1.lastReport = some r ∧
      ((m.evaluate s store now (some true) received).2.alert.isSome ↔
        ∀ p ∈ m.lastReport, p.state ≠ r.state) := by
  simp only [evaluate]
  rw [if_neg (by simp)]
  refine ⟨_, rfl, rfl, ?_⟩
  cases m.lastReport with
  | none => simp
  | some p => by_cases hstate : p.state = (m.applyHysteresis s (rawState s store now).1 now).state <;>
      simp [hstate]

end LinkHealthMonitor

/-! ## The log -/

/-- The debouncer after the evaluations of a log. -/
def debounced (s : HealthSettings) (log : List Evaluation) : Debouncer HealthState ℚ :=
  confirm s.due Evaluation.time Evaluation.raw { state := .noData, since := 0 } log

/-- The state confirmed by the newest evaluation of a log. -/
def confirmedBy : List Evaluation → HealthState
  | [] => .noData
  | e :: _ => e.confirmed

/-- The newest report of a log. -/
def lastReport (log : List Evaluation) : Option HealthReport := log.head?.bind Evaluation.report

/-- What the reports of a watch go by. -/
structure Watch.Sound (s : HealthSettings) (w : Watch) : Prop where
  debouncer : w.monitor.debouncer = debounced s w.log
  confirmed : ∀ log, log <:+ w.log → confirmedBy log = (debounced s log).state
  report : ∀ e ∈ w.log, ∀ r, e.report = some r →
    r.state = e.confirmed ∧ (r.armPermitted = true ↔ r.state = .ok)
  ordered : Ordered Evaluation.time w.log
  time_le : ∀ e ∈ w.log, e.time ≤ w.now

variable {s : HealthSettings} {w w' : Watch} {now : ℚ} {es : List WatchEvent}

/-- Everything a step can do to the monitor and the log. -/
theorem Watch.step_cases {event : WatchEvent} (h : w.step s event = some w') :
    (∃ sink, event = .evaluate sink ∧ w' = { w with
      monitor := (w.monitor.evaluate s w.store w.now sink w.received).1
      log := (w.monitor.evaluate s w.store w.now sink w.received).2 :: w.log }) ∨
    (∃ msg tMono, event = .update msg tMono ∧ tMono ≤ w.now ∧ w' = { w with
      store := w.store.update msg tMono
      received := w.received + msg.isLinkStatistics.toNat }) ∨
    (∃ time, event = .advance time ∧ w.now ≤ time ∧ w' = { w with now := time }) := by
  cases event with
  | evaluate sink =>
      cases h
      exact .inl ⟨sink, rfl, rfl⟩
  | update msg tMono =>
      simp only [Watch.step, Option.ite_none_right_eq_some, Option.some.injEq] at h
      exact .inr (.inl ⟨msg, tMono, rfl, h.1, h.2.symm⟩)
  | advance time =>
      simp only [Watch.step, Option.ite_none_right_eq_some, Option.some.injEq] at h
      exact .inr (.inr ⟨time, rfl, h.1, h.2.symm⟩)

theorem Watch.Sound.step {event : WatchEvent} (hw : w.Sound s) (h : w.step s event = some w') :
    w'.Sound s := by
  rcases Watch.step_cases h with ⟨sink, -, rfl⟩ | ⟨msg, tMono, -, -, rfl⟩ | ⟨time, -, hle, rfl⟩
  · have hdebouncer : (w.monitor.evaluate s w.store w.now sink w.received).1.debouncer =
        debounced s ((w.monitor.evaluate s w.store w.now sink w.received).2 :: w.log) := by
      simp [debounced, confirm, hw.debouncer]
    refine ⟨hdebouncer, fun log hlog ↦ ?_, ?_, ?_, ?_⟩
    · rcases List.suffix_cons_iff.mp hlog with rfl | hold
      · rw [← hdebouncer]
        simp [confirmedBy]
      · exact hw.confirmed log hold
    · exact List.forall_mem_cons.mpr
        ⟨fun r hr ↦ LinkHealthMonitor.evaluate_report hr, hw.report⟩
    · refine List.pairwise_cons.mpr ⟨fun e he ↦ ?_, hw.ordered⟩
      simpa using hw.time_le e he
    · exact List.forall_mem_cons.mpr ⟨by simp, hw.time_le⟩
  · exact ⟨hw.debouncer, hw.confirmed, hw.report, hw.ordered, hw.time_le⟩
  · exact ⟨hw.debouncer, hw.confirmed, hw.report, hw.ordered,
      fun e he ↦ (hw.time_le e he).trans hle⟩

/-- Every run leaves a sound watch. -/
theorem sound_of_run (h : exec (Watch.step s) { now } es = some w) : w.Sound s := by
  refine exec_invariant (fun _ _ _ hw hstep ↦ hw.step hstep) ⟨rfl, fun log hlog ↦ ?_, ?_, ?_, ?_⟩ h
  · rw [List.suffix_nil.mp hlog]
    rfl
  · exact List.forall_mem_nil _
  · exact List.Pairwise.nil
  · exact List.forall_mem_nil _

/-! ## Recovery is slow -/

theorem Watch.Sound.confirmed_cons (hw : w.Sound s) {e : Evaluation} {older : List Evaluation}
    (h : (e :: older) <:+ w.log) : e.confirmed = (debounced s (e :: older)).state :=
  hw.confirmed _ h

/-- The report of a state as good as its raw state or worse. -/
theorem Watch.Sound.raw_le (hw : w.Sound s) {e : Evaluation} {older : List Evaluation}
    (h : (e :: older) <:+ w.log) : e.raw ≤ e.confirmed := by
  rw [hw.confirmed_cons h]
  exact le_observe _ _ _

theorem Watch.Sound.heldFor (hw : w.Sound s) {e : Evaluation} {older : List Evaluation}
    (h : (e :: older) <:+ w.log) (hlt : e.confirmed < confirmedBy older) :
    HeldFor s.due Evaluation.time Evaluation.raw e.confirmed (e :: older) := by
  rw [hw.confirmed _ ((List.suffix_cons e older).trans h), hw.confirmed_cons h] at hlt
  rw [hw.confirmed_cons h]
  exact heldFor_of_recovery rfl hlt

theorem Watch.Sound.entered (hw : w.Sound s) {e : Evaluation} {older : List Evaluation}
    (h : (e :: older) <:+ w.log) (hok : e.confirmed = .ok) :
    ∃ recent entry before, e :: older = recent ++ entry :: before ∧
      (∀ o ∈ recent, o.raw = .ok) ∧ confirmedBy before ≠ .ok ∧
      HeldFor s.due Evaluation.time Evaluation.raw .ok (entry :: before) := by
  rw [hw.confirmed_cons h] at hok
  obtain ⟨recent, entry, before, heq, hrecent, hbefore, hheld⟩ :=
    entered_of_state_eq rfl HealthState.ok_le (by decide) hok
  have hsuffix : before <:+ e :: older :=
    ⟨recent ++ [entry], by rw [heq, List.append_assoc, List.singleton_append]⟩
  refine ⟨recent, entry, before, heq, hrecent, ?_, hheld⟩
  rw [hw.confirmed _ (hsuffix.trans h)]
  exact hbefore

/-! ## The alerts -/

/-- The sink, when there is a call of it, is there and returns. -/
def WatchEvent.Heard : WatchEvent → Prop
  | .evaluate sink => sink = some true
  | .advance _ | .update _ _ => True

/-- What the sink is told when it returns. -/
structure Watch.Told (w : Watch) : Prop where
  last : w.monitor.lastReport = lastReport w.log
  alert : ∀ e older, (e :: older) <:+ w.log → ∃ r, e.report = some r ∧
    (e.alert.isSome ↔ ∀ p ∈ lastReport older, p.state ≠ r.state)

theorem Watch.Told.step {event : WatchEvent} (hw : w.Told) (heard : event.Heard)
    (h : w.step s event = some w') : w'.Told := by
  rcases Watch.step_cases h with ⟨sink, rfl, rfl⟩ | ⟨msg, tMono, -, -, rfl⟩ | ⟨time, -, -, rfl⟩
  · cases heard
    obtain ⟨r, hreport, hlast, halert⟩ :=
      LinkHealthMonitor.evaluate_alert s w.monitor w.store w.now w.received
    refine ⟨hlast.trans hreport.symm, fun e older hsuffix ↦ ?_⟩
    rcases List.suffix_cons_iff.mp hsuffix with heq | hold
    · cases heq
      rw [← hw.last]
      exact ⟨r, hreport, halert⟩
    · exact hw.alert e older hold
  · exact ⟨hw.last, hw.alert⟩
  · exact ⟨hw.last, hw.alert⟩

theorem told_of_run (heard : ∀ event ∈ es, event.Heard)
    (h : exec (Watch.step s) { now } es = some w) : w.Told := by
  have hstep : ∀ w event w', w.Told → event.Heard → Watch.step s w event = some w' → w'.Told :=
    fun _ _ _ ↦ Watch.Told.step
  refine exec_invariant_along hstep ⟨rfl, fun e older hsuffix ↦ ?_⟩ (Along.of_forall heard) h
  cases List.suffix_nil.mp hsuffix

/-- **Hysteresis is safe.**  In every run a report is never better than the raw state; the
confirmed state gets better only behind an evaluation that is older by the hysteresis window
and from which on the raw state was the new one; while arming is permitted the raw state has
been OK ever since such an evaluation before OK was entered; and a sink that returns is told
of the first report and of every change. -/
theorem hysteresis_safe (h : exec (Watch.step s) { now } es = some w) :
    Ordered Evaluation.time w.log ∧
    ∀ e older, (e :: older) <:+ w.log →
      (∀ r, e.report = some r → r.state = e.confirmed ∧ e.raw.severity ≤ r.state.severity) ∧
      (e.confirmed < confirmedBy older →
        HeldFor s.due Evaluation.time Evaluation.raw e.confirmed (e :: older)) ∧
      (∀ r, e.report = some r → r.armPermitted = true →
        ∃ recent entry before, e :: older = recent ++ entry :: before ∧
          (∀ o ∈ recent, o.raw = .ok) ∧ confirmedBy before ≠ .ok ∧
          HeldFor s.due Evaluation.time Evaluation.raw .ok (entry :: before)) ∧
      ((∀ event ∈ es, event.Heard) → ∃ r, e.report = some r ∧
        (e.alert.isSome ↔ ∀ p ∈ lastReport older, p.state ≠ r.state)) := by
  have hw := sound_of_run h
  refine ⟨hw.ordered, fun e older hsuffix ↦ ⟨fun r hr ↦ ?_, hw.heldFor hsuffix, fun r hr harm ↦ ?_,
    fun heard ↦ (told_of_run heard h).alert e older hsuffix⟩⟩
  · obtain ⟨hstate, -⟩ := hw.report e (hsuffix.subset List.mem_cons_self) r hr
    rw [hstate]
    exact ⟨rfl, hw.raw_le hsuffix⟩
  · obtain ⟨hstate, hpermitted⟩ := hw.report e (hsuffix.subset List.mem_cons_self) r hr
    exact hw.entered hsuffix (hstate ▸ hpermitted.mp harm)

/-- Good link statistics. -/
def strongLink : LinkStatistics where
  uplinkRssiAnt1Dbm := -60
  uplinkRssiAnt2Dbm := -60
  uplinkLq := 100
  uplinkSnrDb := 10
  activeAntenna := 0
  rfMode := 2
  uplinkTxPowerMw := none
  downlinkRssiDbm := -60
  downlinkLq := 100
  downlinkSnrDb := 10

/-- A good link is acquired. -/
def acquisition : List WatchEvent :=
  [.update (.linkStatistics strongLink) 0, .evaluate (some true), .advance 1,
    .update (.linkStatistics strongLink) 1, .evaluate (some true), .advance 2,
    .evaluate (some true)]

/-- The watch that has acquired it. -/
def acquired : Watch := (exec (Watch.step {}) {} acquisition).getD {}

theorem hysteresis_safe_acquisition : ∃ e older, acquired.log = e :: older ∧
    HeldFor ({} : HealthSettings).due Evaluation.time Evaluation.raw .ok (e :: older) ∧
    ∃ r, e.report = some r ∧ (e.alert.isSome ↔ ∀ p ∈ lastReport older, p.state ≠ r.state) := by
  have hrun : exec (Watch.step {}) {} acquisition = some acquired := by decide +kernel
  have hheard : ∀ event ∈ acquisition, event.Heard := by
    simp [acquisition, WatchEvent.Heard]
  have hstates : acquired.log.map Evaluation.confirmed = [.ok, .noData, .noData] := by
    decide +kernel
  obtain ⟨e, older, hlog, hok, holder⟩ := List.map_eq_cons_iff.mp hstates
  obtain ⟨e', older', rfl, hnoData, -⟩ := List.map_eq_cons_iff.mp holder
  obtain ⟨-, hbetter, -, hsink⟩ := (hysteresis_safe hrun).2 e (e' :: older') (hlog ▸ List.suffix_rfl)
  have hheld := hbetter (by rw [hok, confirmedBy, hnoData]; decide)
  exact ⟨e, e' :: older', hlog, hok ▸ hheld, hsink hheard⟩

end DroneComms.Fpv
