import DroneComms.Fpv.Dataset
import DroneComms.Fpv.Hysteresis

/-!
# Replay

The cycles of the live monitor (`meshsa/fpv/tools/monitor.py`), and the replay of
the telemetry they log (`meshsa/fpv/tools/replay.py`).

The live monitor evaluates once a cycle, the replay once a record.  Both debounce
the raw states of their evaluations, so they come to the same outcome exactly if
these raw states take the same turns.
-/

namespace DroneComms.Fpv

open Automaton Debounce
open Py (Value PyFloat)

/-! ## The replay -/

/-- A store and the monitor that reads it. -/
structure Station where
  store : TelemetryStore := {}
  monitor : LinkHealthMonitor := {}
deriving DecidableEq, Repr

/-- `evaluate`, and its report unless the sink raises. -/
def Station.evaluate (s : HealthSettings) (x : Station) (now : ℚ) (sink : Option Bool) :
    Station × List HealthReport :=
  let (monitor, e) := x.monitor.evaluate s x.store now sink 0
  ({ x with monitor }, e.report.toList)

/-- `rec["type"], rec["data"], rec["t"]`. -/
def readRecord (record : List (String × Value)) : Except ReplayError (Value × Value × Value) :=
  match record.lookup "type", record.lookup "data", record.lookup "t" with
  | some recType, some data, some t => .ok (recType, data, t)
  | _, _, _ => .error .telemetryParseError

/-- One turn of the loop of `replay_records`. -/
def replayRecord (s : HealthSettings) (x : Station) (record : List (String × Value)) :
    Except ReplayError (Station × List HealthReport) := do
  let (recType, data, t) ← readRecord record
  match recType, data, t with
  | .str typeName, .dict data, .float (.fin t) =>
      let msg ← messageFromRecord typeName data
      .ok ({ x with store := x.store.update msg t }.evaluate s t none)
  | _, _, _ => .error .untyped

/-- The loop of `replay_records`. -/
def replayLoop (s : HealthSettings) (x : Station) :
    List (List (String × Value)) → Except ReplayError (Station × List HealthReport)
  | [] => .ok (x, [])
  | record :: records => do
      let (x, reports) ← replayRecord s x record
      let (x, more) ← replayLoop s x records
      .ok (x, reports ++ more)

/-- `replay_records`. -/
def replayRecords (s : HealthSettings) (records : List (List (String × Value))) :
    Except ReplayError (List HealthReport) :=
  (replayLoop s {} records).map Prod.snd

/-! ## The live monitor -/

/-- What `parse` makes of a frame. -/
inductive Parsed where
  | malformed
  | ignored
  | message (msg : TelemetryMessage)

/-- The frames of a poll, each with the reading of the clock behind its parse, and the
reading of the evaluation. -/
structure Cycle where
  frames : List (Parsed × ℚ)
  now : ℚ

/-- The readings of the clock in a cycle. -/
def Cycle.readings (c : Cycle) : List ℚ := c.frames.map Prod.snd ++ [c.now]

/-- The live monitor, what it has logged and what it has reported. -/
structure Live where
  station : Station := {}
  now : ℚ := 0
  records : List (List (String × Value)) := []
  reports : List HealthReport := []

/-- A frame in the loop of `pump_once`. -/
def Live.take (l : Live) (frame : Parsed × ℚ) : Live :=
  match frame.1 with
  | .malformed | .ignored => l
  | .message msg =>
      { l with
        station := { l.station with store := l.station.store.update msg frame.2 }
        records := l.records ++ [telemetryRecord msg frame.2] }

/-- `pump_once`. -/
def Live.pumpOnce (s : HealthSettings) (l : Live) (c : Cycle) : Live :=
  let l := c.frames.foldl Live.take l
  let (station, reports) := l.station.evaluate s c.now (some true)
  { l with station, now := c.now, reports := l.reports ++ reports }

/-- A cycle; the clock never runs backwards. -/
def Live.step (s : HealthSettings) (l : Live) (c : Cycle) : Option Live :=
  if (l.now :: c.readings).Pairwise (· ≤ ·) then some (l.pumpOnce s c) else none

/-! ## What both observe -/

/-- The messages of a cycle. -/
def Cycle.messages (c : Cycle) : List (TelemetryMessage × ℚ) :=
  c.frames.filterMap fun frame ↦
    match frame.1 with
    | .message msg => some (msg, frame.2)
    | .malformed | .ignored => none

def TelemetryStore.updateAll (store : TelemetryStore) (msgs : List (TelemetryMessage × ℚ)) :
    TelemetryStore :=
  msgs.foldl (fun store m ↦ store.update m.1 m.2) store

/-- The messages that a session logs. -/
def logged (cycles : List Cycle) : List (TelemetryMessage × ℚ) := cycles.flatMap Cycle.messages

/-- The raw states at the ends of cycles. -/
def evaluations (s : HealthSettings) (store : TelemetryStore) : List Cycle → List (HealthState × ℚ)
  | [] => []
  | c :: cycles =>
      ((rawState s (store.updateAll c.messages) c.now).1, c.now) ::
        evaluations s (store.updateAll c.messages) cycles

/-- The raw states at the records of messages. -/
def observations (s : HealthSettings) (store : TelemetryStore) :
    List (TelemetryMessage × ℚ) → List (HealthState × ℚ)
  | [] => []
  | m :: msgs =>
      ((rawState s (store.update m.1 m.2) m.2).1, m.2) ::
        observations s (store.update m.1 m.2) msgs

variable {s : HealthSettings}

theorem TelemetryStore.updateAll_append (store : TelemetryStore)
    (msgs msgs' : List (TelemetryMessage × ℚ)) :
    store.updateAll (msgs ++ msgs') = (store.updateAll msgs).updateAll msgs' := List.foldl_append

theorem observations_eq_nil {store : TelemetryStore} {msgs : List (TelemetryMessage × ℚ)} :
    observations s store msgs = [] ↔ msgs = [] := by
  cases msgs <;> simp [observations]

/-- A station whose sink does not raise reports the state it confirms. -/
theorem Station.evaluate_eq (x : Station) (now : ℚ) {sink : Option Bool} (h : sink ≠ some false) :
    (x.evaluate s now sink).1.store = x.store ∧
    (x.evaluate s now sink).1.monitor.debouncer =
      observe s.due x.monitor.debouncer (rawState s x.store now).1 now ∧
    (x.evaluate s now sink).2.map HealthReport.state =
      [(observe s.due x.monitor.debouncer (rawState s x.store now).1 now).state] := by
  refine ⟨rfl, LinkHealthMonitor.evaluate_debouncer .., ?_⟩
  obtain ⟨r, hr⟩ := LinkHealthMonitor.evaluate_returns s x.monitor x.store now 0 h
  obtain ⟨hstate, -⟩ := LinkHealthMonitor.evaluate_report hr
  rw [LinkHealthMonitor.evaluate_confirmed] at hstate
  change (x.monitor.evaluate s x.store now sink 0).2.report.toList.map _ = _
  rw [hr, ← hstate]
  rfl

theorem replayRecord_logged (x : Station) (msg : TelemetryMessage) (t : ℚ) :
    replayRecord s x (telemetryRecord msg t) =
      .ok ({ x with store := x.store.update msg t }.evaluate s t none) := by
  have hread : readRecord (telemetryRecord msg t) =
      .ok (.str msg.typeName, .dict msg.asdict, .float (.fin t)) := rfl
  rw [replayRecord, hread]
  change (messageFromRecord msg.typeName msg.asdict >>= _) = _
  rw [messageFromRecord_asdict]
  rfl

/-- The replay of logged messages observes the raw states at their records. -/
theorem replayLoop_logged (x : Station) (msgs : List (TelemetryMessage × ℚ)) :
    ∃ y reports, replayLoop s x (msgs.map fun m ↦ telemetryRecord m.1 m.2) = .ok (y, reports) ∧
      y.monitor.debouncer = settle s.due x.monitor.debouncer (observations s x.store msgs) ∧
      reports.map HealthReport.state =
        states s.due x.monitor.debouncer (observations s x.store msgs) := by
  induction msgs generalizing x with
  | nil => exact ⟨x, [], rfl, rfl, rfl⟩
  | cons m msgs ih =>
      let x' : Station := { x with store := x.store.update m.1 m.2 }
      obtain ⟨hstore, hdebouncer, hreport⟩ : _ ∧ _ ∧ _ :=
        x'.evaluate_eq (s := s) m.2 (by simp : (none : Option Bool) ≠ some false)
      obtain ⟨y, reports, hloop, hy, hreports⟩ := ih (x'.evaluate s m.2 none).1
      rw [hstore, hdebouncer] at hy hreports
      refine ⟨y, (x'.evaluate s m.2 none).2 ++ reports, ?_, hy, ?_⟩
      · rw [List.map_cons, replayLoop, replayRecord_logged]
        change (replayLoop s (x'.evaluate s m.2 none).1 _ >>= _) = _
        rw [hloop]
        rfl
      · rw [List.map_append, hreport, hreports]
        rfl

/-! ## Sessions -/

/-- The debouncer of a monitor that has seen nothing. -/
def freshDebouncer : Debouncer HealthState ℚ := ({} : LinkHealthMonitor).debouncer

/-- A live monitor that has logged messages and has observed raw states. -/
structure Live.Has (s : HealthSettings) (l : Live) (msgs : List (TelemetryMessage × ℚ))
    (os : List (HealthState × ℚ)) : Prop where
  store : l.station.store = ({} : TelemetryStore).updateAll msgs
  records : l.records = msgs.map fun m ↦ telemetryRecord m.1 m.2
  debouncer : l.station.monitor.debouncer = settle s.due freshDebouncer os
  reports : l.reports.map HealthReport.state = states s.due freshDebouncer os

theorem Live.foldl_take (l : Live) (c : Cycle) :
    c.frames.foldl Live.take l = { l with
      station := { l.station with store := l.station.store.updateAll c.messages }
      records := l.records ++ c.messages.map fun m ↦ telemetryRecord m.1 m.2 } := by
  obtain ⟨frames, now⟩ := c
  induction frames generalizing l with
  | nil => simp [Cycle.messages, TelemetryStore.updateAll]
  | cons frame frames ih =>
      obtain ⟨parsed, t⟩ := frame
      rw [List.foldl_cons, ih]
      cases parsed <;> simp [Live.take, Cycle.messages, TelemetryStore.updateAll]

theorem Live.Has.pumpOnce {l : Live} {msgs : List (TelemetryMessage × ℚ)}
    {os : List (HealthState × ℚ)} (h : l.Has s msgs os) (c : Cycle) :
    (l.pumpOnce s c).Has s (msgs ++ c.messages)
      (os ++ [((rawState s (l.station.store.updateAll c.messages) c.now).1, c.now)]) := by
  let x : Station := { l.station with store := l.station.store.updateAll c.messages }
  obtain ⟨hstore, hdebouncer, hreport⟩ : _ ∧ _ ∧ _ :=
    x.evaluate_eq (s := s) c.now (by simp : some true ≠ some false)
  rw [Live.pumpOnce, l.foldl_take]
  refine ⟨?_, ?_, ?_, ?_⟩
  · exact hstore.trans (by rw [TelemetryStore.updateAll_append, ← h.store])
  · rw [h.records, ← List.map_append]
  · rw [settle_append, ← h.debouncer]
    exact hdebouncer
  · rw [List.map_append, h.reports, states_append, ← h.debouncer]
    exact congrArg _ hreport

/-! ## Outcomes -/

/-- The first state is no data. -/
theorem states_fresh_cons (o : HealthState × ℚ) (os : List (HealthState × ℚ)) :
    states s.due freshDebouncer (o :: os) =
      .noData :: states s.due (observe s.due freshDebouncer o.1 o.2) os := by
  rw [states, observe_moves, if_neg]
  · rfl
  · rintro (hgt | ⟨-, hpending, -⟩)
    · exact absurd hgt (not_lt.mpr (HealthState.le_noData _))
    · cases hpending

theorem destutter_states (os : List (HealthState × ℚ)) :
    (states s.due freshDebouncer os).destutter (· ≠ ·) =
      if os = [] then [] else .noData :: moves s.due freshDebouncer os := by
  cases os with
  | nil => rfl
  | cons o os =>
      rw [if_neg (List.cons_ne_nil _ _), ← changes_states, states_fresh_cons, destutter_cons]
      rfl

/-- There is no worse state than the first. -/
theorem worstState_states (os : List (HealthState × ℚ)) :
    worstState (states s.due freshDebouncer os) = .noData := by
  cases os with
  | nil => rfl
  | cons o os =>
      rw [states_fresh_cons]
      induction states s.due (observe s.due freshDebouncer o.1 o.2) os with
      | nil => rfl
      | cons a as ih =>
          have ha : ¬HealthState.noData.severity < a.severity :=
            not_lt.mpr (HealthState.le_noData a)
          rw [worstState, List.foldl_cons, if_neg ha]
          exact ih

/-- Replaying what was logged gives the worst state and the distinct consecutive states of
the live reports. -/
def Live.Reproduced (s : HealthSettings) (l : Live) : Prop :=
  ∃ reports, replayRecords s l.records = .ok reports ∧
    worstState (reports.map HealthReport.state) = worstState (l.reports.map HealthReport.state) ∧
    (reports.map HealthReport.state).destutter (· ≠ ·) =
      (l.reports.map HealthReport.state).destutter (· ≠ ·)

theorem Live.Has.reproduced_iff {l : Live} {msgs : List (TelemetryMessage × ℚ)}
    {os : List (HealthState × ℚ)} (h : l.Has s msgs os) :
    l.Reproduced s ↔ (msgs = [] ↔ os = []) ∧
      moves s.due freshDebouncer (observations s {} msgs) = moves s.due freshDebouncer os := by
  obtain ⟨y, reports, hloop, -, hreports⟩ := replayLoop_logged (s := s) {} msgs
  have hreplay : replayRecords s l.records = .ok reports := by
    rw [replayRecords, h.records, hloop]
    rfl
  have hdistinct : l.Reproduced s ↔
      (states s.due freshDebouncer (observations s {} msgs)).destutter (· ≠ ·) =
        (states s.due freshDebouncer os).destutter (· ≠ ·) := by
    constructor
    · rintro ⟨reports', hreplay', -, hstates⟩
      rw [hreplay] at hreplay'
      cases hreplay'
      rwa [hreports, h.reports] at hstates
    · intro hstates
      refine ⟨reports, hreplay, ?_, ?_⟩
      · rw [hreports, h.reports]
        exact (worstState_states _).trans (worstState_states _).symm
      · rw [hreports, h.reports]
        exact hstates
  rw [hdistinct, destutter_states, destutter_states]
  by_cases hmsgs : msgs = [] <;> by_cases hos : os = [] <;>
    simp [observations_eq_nil, hmsgs, hos, observations, moves]

theorem Live.step_eq {l l' : Live} {c : Cycle} (h : l.step s c = some l') :
    l' = l.pumpOnce s c := by
  simp only [Live.step, Option.ite_none_right_eq_some, Option.some.injEq] at h
  exact h.2.symm

theorem evaluations_eq_nil {store : TelemetryStore} {cycles : List Cycle} :
    evaluations s store cycles = [] ↔ cycles = [] := by
  cases cycles <;> simp [evaluations]

/-- What a session adds to what a live monitor has. -/
theorem Live.Has.exec {l l' : Live} {msgs : List (TelemetryMessage × ℚ)}
    {os : List (HealthState × ℚ)} {cycles : List Cycle} (hl : l.Has s msgs os)
    (h : exec (Live.step s) l cycles = some l') :
    l'.Has s (msgs ++ logged cycles) (os ++ evaluations s l.station.store cycles) := by
  induction cycles generalizing l msgs os with
  | nil =>
      cases h
      rwa [logged, List.flatMap_nil, evaluations, List.append_nil, List.append_nil]
  | cons c cycles ih =>
      obtain ⟨l₁, hstep, hrest⟩ := exec_cons_eq_some.mp h
      rw [Live.step_eq hstep] at hrest
      have hl' := ih (hl.pumpOnce c) hrest
      have hstore : (l.pumpOnce s c).station.store = l.station.store.updateAll c.messages := by
        rw [Live.pumpOnce, l.foldl_take]
        rfl
      rwa [hstore, List.append_assoc, List.append_assoc, List.singleton_append] at hl'

/-! ## Clocks -/

theorem Cycle.messages_sublist (c : Cycle) :
    (c.messages.map Prod.snd ++ [c.now]).Sublist c.readings := by
  obtain ⟨frames, now⟩ := c
  refine List.Sublist.append ?_ (List.Sublist.refl _)
  induction frames with
  | nil => exact List.Sublist.refl _
  | cons frame frames ih =>
      obtain ⟨parsed, t⟩ := frame
      cases parsed with
      | malformed | ignored => exact ih.cons _
      | message msg => exact ih.cons_cons _

/-- The clock of a session never runs backwards. -/
theorem readings_pairwise {l l' : Live} {cycles : List Cycle}
    (h : exec (Live.step s) l cycles = some l') :
    (l.now :: cycles.flatMap Cycle.readings).Pairwise (· ≤ ·) := by
  induction cycles generalizing l with
  | nil => exact List.pairwise_singleton _ _
  | cons c cycles ih =>
      obtain ⟨l₁, hstep, hrest⟩ := exec_cons_eq_some.mp h
      have hclock : (l.now :: c.readings).Pairwise (· ≤ ·) := by
        by_contra hclock
        rw [Live.step, if_neg hclock] at hstep
        cases hstep
      have hlater := ih hrest
      rw [Live.step_eq hstep] at hlater
      have hle : ∀ t ∈ l.now :: c.readings, t ≤ c.now := by
        rw [Cycle.readings, ← List.cons_append] at hclock ⊢
        intro t ht
        rcases List.mem_append.mp ht with ht | ht
        · exact (List.pairwise_append.mp hclock).2.2 t ht c.now (List.mem_singleton_self _)
        · exact (List.mem_singleton.mp ht).le
      rw [List.flatMap_cons, ← List.cons_append]
      refine List.pairwise_append.mpr ⟨hclock, hlater.of_cons, fun t ht t' ht' ↦ ?_⟩
      exact (hle t ht).trans (List.rel_of_pairwise_cons hlater ht')

theorem ordered_of_sublist {os : List (HealthState × ℚ)} {readings : List ℚ}
    (h : (os.map Prod.snd).Sublist readings) (hreadings : readings.Pairwise (· ≤ ·)) :
    Ordered Prod.snd (os.reverse ++ []) := by
  rw [List.append_nil, Ordered, List.pairwise_reverse]
  exact List.pairwise_map.mp (hreadings.sublist h)

theorem map_snd_observations (store : TelemetryStore) (msgs : List (TelemetryMessage × ℚ)) :
    (observations s store msgs).map Prod.snd = msgs.map Prod.snd := by
  induction msgs generalizing store with
  | nil => rfl
  | cons m msgs ih => exact congrArg _ (ih _)

theorem logged_sublist (cycles : List Cycle) :
    ((logged cycles).map Prod.snd).Sublist (cycles.flatMap Cycle.readings) := by
  induction cycles with
  | nil => exact List.Sublist.refl _
  | cons c cycles ih =>
      rw [logged, List.flatMap_cons, List.map_append]
      exact ((List.sublist_append_left _ _).trans c.messages_sublist).append ih

theorem evaluations_sublist (store : TelemetryStore) (cycles : List Cycle) :
    ((evaluations s store cycles).map Prod.snd).Sublist (cycles.flatMap Cycle.readings) := by
  induction cycles generalizing store with
  | nil => exact List.Sublist.refl _
  | cons c cycles ih =>
      exact ((List.sublist_append_right _ _).trans c.messages_sublist).append (ih _)

/-! ## The outcome of a session -/

/-- Something is logged, and the raw states take the same turns, from no data on, at the records
as at the ends of the cycles.  Neither monitor occurs in it: the raw states are those of the
latest statistics, their ages and the settings. -/
structure SameTurns (s : HealthSettings) (cycles : List Cycle) : Prop where
  begun : logged cycles = [] ↔ cycles = []
  turns : changes .noData (turns s.due [] (observations s {} (logged cycles))) =
    changes .noData (turns s.due [] (evaluations s {} cycles))

/-- The moves of a fresh monitor are the turns of what it observes. -/
theorem moves_fresh {os : List (HealthState × ℚ)} (h : Ordered Prod.snd (os.reverse ++ [])) :
    moves s.due freshDebouncer os = changes .noData (turns s.due [] os) :=
  moves_eq_changes_turns s.due_mono rfl HealthState.le_noData h

/-- A frame with an uplink quality. -/
def linkFrame (t : ℚ) (lq : ℤ) : Parsed × ℚ :=
  (.message (.linkStatistics { strongLink with uplinkLq := lq }), t)

/-- A link that comes up late, degrades and recovers, with idle cycles and with cycles of several
frames. -/
def watched : List Cycle := [
  { frames := [], now := 0 },
  { frames := [(.malformed, 1 / 2), linkFrame 1 100, linkFrame (5 / 4) 100], now := 3 / 2 },
  { frames := [linkFrame 3 100, linkFrame (13 / 4) 100], now := 7 / 2 },
  { frames := [], now := 4 },
  { frames := [linkFrame 5 60], now := 5 },
  { frames := [linkFrame 6 100], now := 25 / 4 },
  { frames := [(.ignored, 7), linkFrame 7 100, linkFrame 8 100], now := 17 / 2 }]

/-- A frame of a good link at a time, and a cycle that reads the clock then. -/
def strongCycle (t : ℚ) : Cycle where
  frames := [(.message (.linkStatistics strongLink), t)]
  now := t

/-- Two frames, a gap in which they get stale, and a third frame. -/
def gap : List Cycle := [strongCycle 0, strongCycle 2, { frames := [], now := 7 / 2 }, strongCycle 4]

/-- The live monitor behind them. -/
def gapped : Live := (exec (Live.step {}) {} gap).get (by decide +kernel)

end DroneComms.Fpv
