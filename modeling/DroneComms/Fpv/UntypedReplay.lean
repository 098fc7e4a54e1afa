import DroneComms.Fpv.Replay
import DroneComms.Lib.Fallible
import DroneComms.Py.Interpreter

/-!
# Replay of any values

`replay_records` on records that hold any JSON values.  A dataclass takes any value
for any of its fields, and the time of a record is kept as it is, so a value of a
wrong type is met where the monitor computes with it.  Which exceptions leave the
replay depends on how far an evaluation gets.

There is no alert sink, so a change of the state is only logged, and the last
report is left out.  Writing a value that was read from a document is taken to
return.
-/

namespace DroneComms.Py.Number

/-- The number that an instance of a number type is. -/
def ofValue : Value → Option Number
  | .bool b => some (.int b.toInt)
  | .int n => some (.int n)
  | .float x => some (.float x)
  | .none | .str _ | .list _ | .dict _ => none

/-- The exact value, which is what a comparison goes by. -/
def exact : Number → PyFloat
  | int n => .fin n
  | float x => x

/-- `x - y`. -/
def sub : Number → Number → Except PyError Number
  | int m, int n => .ok (.int (m - n))
  | int m, float y => (floatOfInt m).map fun x ↦ .float (x.sub y)
  | float x, int n => (floatOfInt n).map fun y ↦ .float (x.sub y)
  | float x, float y => .ok (.float (x.sub y))

/-- One is a float, and the other an integer that is too large for one. -/
def Clash : Number → Number → Prop
  | float _, int n | int n, float _ => floatLimit ≤ |n|
  | int _, int _ | float _, float _ => False

theorem exists_floatOfInt_iff {n : ℤ} : (∃ x, floatOfInt n = .ok x) ↔ ¬floatLimit ≤ |n| := by
  unfold floatOfInt
  split_ifs with h <;> simp [h]

theorem exists_map_floatOfInt_iff {n : ℤ} {f : PyFloat → Number} :
    (∃ z, (floatOfInt n).map f = .ok z) ↔ ¬floatLimit ≤ |n| := by
  rw [← exists_floatOfInt_iff]
  cases floatOfInt n <;> simp [Except.map]

theorem exists_sub_iff {x y : Number} : (∃ z, x.sub y = .ok z) ↔ ¬x.Clash y := by
  cases x with
  | int m =>
      cases y with
      | int n => exact iff_of_true ⟨_, rfl⟩ not_false
      | float b => exact exists_map_floatOfInt_iff
  | float a =>
      cases y with
      | int n => exact exists_map_floatOfInt_iff
      | float b => exact iff_of_true ⟨_, rfl⟩ not_false

end DroneComms.Py.Number

namespace DroneComms.Fpv.Untyped

open Py (PyError PyFloat Value Dict Interpreter Number bindKwargs)
open Fallible (Throughout bind_errors_iff errors_iff foldlM_invariant)

/-! ## Computing with a value -/

/-- `v < n`. -/
def ltInt (v : Value) (n : ℤ) : Except PyError Bool :=
  match Number.ofValue v with
  | some x => .ok (x.exact.lt (.fin n))
  | none => .error .typeError

/-- `v - w`. -/
def subtract (v w : Value) : Except PyError Number :=
  match Number.ofValue v, Number.ofValue w with
  | some x, some y => x.sub y
  | _, _ => .error .typeError

/-- `v == 1`. -/
def isOne (v : Value) : Bool := (Number.ofValue v).any fun x ↦ x.exact = .fin 1

def IsNumber (v : Value) : Prop := ∃ x, Number.ofValue v = some x

/-- Two numbers that have a difference. -/
def Subtractable (v w : Value) : Prop :=
  ∃ x y, Number.ofValue v = some x ∧ Number.ofValue w = some y ∧ ¬x.Clash y

/-- A value that a dictionary can be asked for. -/
def Hashable : Value → Prop
  | .list _ | .dict _ => False
  | .none | .bool _ | .int _ | .float _ | .str _ => True

theorem exists_ltInt_iff {v : Value} {n : ℤ} : (∃ b, ltInt v n = .ok b) ↔ IsNumber v := by
  rw [ltInt, IsNumber]
  cases Number.ofValue v <;> simp

theorem exists_subtract_iff {v w : Value} : (∃ z, subtract v w = .ok z) ↔ Subtractable v w := by
  rw [subtract, Subtractable]
  cases Number.ofValue v with
  | none => simp
  | some x =>
      cases Number.ofValue w with
      | none => simp
      | some y => simpa using Number.exists_sub_iff

/-! ## Messages -/

/-- The exceptions that leave a replay. -/
inductive Failure where
  | incompatibleDatasetError
  | jsonDecodeError
  | telemetryParseError
  | builtin (e : PyError)
  /-- Another exception of `json.loads`. -/
  | parser
deriving DecidableEq

/-- The errors that a replay announces. -/
def Failure.Own : Failure → Prop
  | incompatibleDatasetError | jsonDecodeError | telemetryParseError => True
  | builtin _ | parser => False

/-- An instance of a message class, with any values for its fields. -/
structure Message where
  cls : String
  attributes : Dict

/-- `getattr`; an instance has every field of its class. -/
def Message.attr (msg : Message) (name : String) : Value :=
  (msg.attributes.lookup name).getD .none

/-- `message_from_record`.  The `TypeError` of a constructor is caught, that of the lookup
is not. -/
def messageFromRecord (typeName data : Value) : Except Failure Message :=
  match typeName with
  | .list _ | .dict _ => .error (.builtin .typeError)
  | .str name =>
      match TelemetryMessage.fieldNames name, data with
      | some names, .dict data =>
          match bindKwargs names data with
          | .ok values => .ok { cls := name, attributes := names.zip values }
          | .error _ => .error .telemetryParseError
      | _, _ => .error .telemetryParseError
  | .none | .bool _ | .int _ | .float _ => .error .telemetryParseError

/-- `TelemetryStore`. -/
structure TelemetryStore where
  latest : String → Option (Message × Value) := fun _ ↦ none

/-- `update`. -/
def TelemetryStore.update (store : TelemetryStore) (msg : Message) (t : Value) : TelemetryStore where
  latest := Function.update store.latest msg.cls (some (msg, t))

/-! ## Evaluations -/

/-- `HealthReport`. -/
structure HealthReport where
  state : HealthState
  armPermitted : Bool
  reasons : List String
  tMono : Value

/-- `LinkHealthMonitor`. -/
structure LinkHealthMonitor where
  state : HealthState := .noData
  pending : Option HealthState := none
  pendingSince : Value := .float (.fin 0)

variable (py : Interpreter) (s : HealthSettings)

/-- `sensitivity_floor`. -/
def sensitivityFloor (elrsMajor : ℤ) (rfMode : Value) : Option ℤ :=
  s.sensitivityFloors.lookup (s!"{elrsMajor}:" ++ py.strOf rfMode)

/-- The signal of the antenna in use. -/
def activeRssi (msg : Message) : Value :=
  if isOne (msg.attr "active_antenna") then msg.attr "uplink_rssi_ant2_dbm"
  else msg.attr "uplink_rssi_ant1_dbm"

/-- Whether that signal is close to the floor, if there is one. -/
def rssiBelowMargin (msg : Message) : Except PyError Bool :=
  match sensitivityFloor py s s.elrsMajorVersion (msg.attr "rf_mode") with
  | none => .ok false
  | some floor => ltInt (activeRssi msg) (floor + s.healthRssiMarginDb)

/-- The thresholds for a fresh message. -/
def freshState (msg : Message) : Except PyError (HealthState × List String) := do
  let critical ← ltInt (msg.attr "uplink_lq") s.healthLqCritical
  if critical then .ok (.critical, ["lq_below_critical"])
  else
    let low ← ltInt (msg.attr "uplink_lq") s.healthLqWarn
    let (state, reasons) : HealthState × List String :=
      if low then (.warn, ["lq_below_warn"]) else (.ok, [])
    let degrading ← ltInt (msg.attr "downlink_lq") s.healthDownlinkLqWarn
    let (state, reasons) :=
      if degrading then (escalate state .warn, reasons ++ ["downlink_degrading"])
      else (state, reasons)
    let weak ← rssiBelowMargin py s msg
    .ok (if weak then (escalate state .warn, reasons ++ ["rssi_below_margin"])
      else (state, reasons))

/-- `_raw_state`. -/
def rawState (store : TelemetryStore) (now : Value) : Except PyError (HealthState × List String) :=
  match store.latest "LinkStatistics" with
  | none => .ok (.noData, ["no_telemetry"])
  | some (msg, tMono) => do
      let age ← subtract now tMono
      let stale := s.healthLinkstatsStaleS
      if (s.healthLinkstatsCriticalFactor.mul stale).lt age.exact then
        .ok (.critical, ["linkstats_stale"])
      else if stale.lt age.exact then .ok (.warn, ["linkstats_stale"])
      else freshState py s msg

/-- `_apply_hysteresis`. -/
def applyHysteresis (m : LinkHealthMonitor) (raw : HealthState) (now : Value) :
    Except PyError LinkHealthMonitor :=
  if raw = m.state then .ok { m with pending := none }
  else if m.state.severity < raw.severity then .ok { m with state := raw, pending := none }
  else if m.pending ≠ some raw then .ok { m with pending := some raw, pendingSince := now }
  else do
    let held ← subtract now m.pendingSince
    .ok (if s.healthHysteresisS.le held.exact then { m with state := raw, pending := none } else m)

/-- `evaluate`. -/
def evaluate (m : LinkHealthMonitor) (store : TelemetryStore) (now : Value) :
    Except PyError (LinkHealthMonitor × HealthReport) := do
  let (raw, rawReasons) ← rawState py s store now
  let m ← applyHysteresis s m raw now
  let reasons := if m.state ≠ raw then ["hysteresis_hold"] else rawReasons
  .ok (m, { state := m.state, armPermitted := decide (m.state = .ok), reasons, tMono := now })

/-! ## The replay -/

/-- The variables of the loop. -/
structure Replay where
  store : TelemetryStore := {}
  monitor : LinkHealthMonitor := {}
  reports : List HealthReport := []

/-- `rec["type"], rec["data"], rec["t"]`. -/
def readRecord : Value → Except Failure (Value × Value × Value)
  | .dict record =>
      match record.lookup "type", record.lookup "data", record.lookup "t" with
      | some recType, some data, some t => .ok (recType, data, t)
      | _, _, _ => .error .telemetryParseError
  | _ => .error (.builtin .typeError)

/-- The body of the loop of `replay_records`. -/
def replayRecord (x : Replay) (record : Value) : Except Failure Replay := do
  let (recType, data, t) ← readRecord record
  let msg ← messageFromRecord recType data
  let store := x.store.update msg t
  let (monitor, report) ← (evaluate py s x.monitor store t).mapError .builtin
  .ok { store, monitor, reports := x.reports ++ [report] }

/-- `replay_records`. -/
def replayRecords (records : List Value) : Except Failure (List HealthReport) :=
  (records.foldlM (replayRecord py s) {}).map Replay.reports

/-! ## What an evaluation needs -/

/-- What the thresholds reach are numbers. -/
structure Comparable (msg : Message) : Prop where
  uplink : IsNumber (msg.attr "uplink_lq")
  downlink : ltInt (msg.attr "uplink_lq") s.healthLqCritical = .ok false →
    IsNumber (msg.attr "downlink_lq")
  rssi : ltInt (msg.attr "uplink_lq") s.healthLqCritical = .ok false → ∀ floor,
    sensitivityFloor py s s.elrsMajorVersion (msg.attr "rf_mode") = some floor →
      IsNumber (activeRssi msg)

/-- A message of that time is not stale. -/
def Fresh (now t : Value) : Prop :=
  ∃ age, subtract now t = .ok age ∧ s.healthLinkstatsStaleS.lt age.exact = false ∧
    (s.healthLinkstatsCriticalFactor.mul s.healthLinkstatsStaleS).lt age.exact = false

/-- The times and the values that an evaluation reaches can be computed with. -/
structure Evaluable (m : LinkHealthMonitor) (store : TelemetryStore) (now : Value) : Prop where
  age : ∀ msg t, store.latest "LinkStatistics" = some (msg, t) → Subtractable now t
  fresh : ∀ msg t, store.latest "LinkStatistics" = some (msg, t) → Fresh s now t →
    Comparable py s msg
  held : ∀ raw reasons, rawState py s store now = .ok (raw, reasons) →
    raw.severity < m.state.severity → m.pending = some raw → Subtractable now m.pendingSince

variable {py s}

theorem exists_rssiBelowMargin_iff {msg : Message} : (∃ b, rssiBelowMargin py s msg = .ok b) ↔
    ∀ floor, sensitivityFloor py s s.elrsMajorVersion (msg.attr "rf_mode") = some floor →
      IsNumber (activeRssi msg) := by
  rw [rssiBelowMargin]
  cases sensitivityFloor py s s.elrsMajorVersion (msg.attr "rf_mode") with
  | none => simp
  | some floor => exact exists_ltInt_iff.trans (by simp)

theorem exists_freshState_iff {msg : Message} :
    (∃ z, freshState py s msg = .ok z) ↔ Comparable py s msg := by
  rw [freshState]
  cases hcritical : ltInt (msg.attr "uplink_lq") s.healthLqCritical with
  | error e =>
      refine iff_of_false ?_ fun h ↦ ?_
      · simp [bind, Except.bind]
      · obtain ⟨b, hb⟩ := exists_ltInt_iff.mpr h.uplink
        rw [hcritical] at hb
        cases hb
  | ok critical =>
      have huplink : IsNumber (msg.attr "uplink_lq") := exists_ltInt_iff.mp ⟨_, hcritical⟩
      rw [Py.ok_bind]
      cases critical with
      | true =>
          refine iff_of_true ⟨_, rfl⟩ ⟨huplink, fun h ↦ ?_, fun h ↦ ?_⟩
          · rw [hcritical] at h
            cases h
          · rw [hcritical] at h
            cases h
      | false =>
          rw [if_neg Bool.false_ne_true]
          obtain ⟨low, hlow⟩ : ∃ low, ltInt (msg.attr "uplink_lq") s.healthLqWarn = .ok low :=
            exists_ltInt_iff.mpr huplink
          rw [hlow, Py.ok_bind]
          constructor
          · rintro ⟨z, hz⟩
            obtain ⟨degrading, hdegrading, hz⟩ := Py.bind_eq_ok.mp hz
            obtain ⟨weak, hweak, -⟩ := Py.bind_eq_ok.mp hz
            exact ⟨huplink, fun _ ↦ exists_ltInt_iff.mp ⟨_, hdegrading⟩,
              fun _ ↦ exists_rssiBelowMargin_iff.mp ⟨_, hweak⟩⟩
          · intro h
            obtain ⟨degrading, hdegrading⟩ : ∃ degrading,
                ltInt (msg.attr "downlink_lq") s.healthDownlinkLqWarn = .ok degrading :=
              exists_ltInt_iff.mpr (h.downlink hcritical)
            obtain ⟨weak, hweak⟩ := exists_rssiBelowMargin_iff.mpr (h.rssi hcritical)
            exact ⟨_, Py.bind_eq_ok.mpr ⟨degrading, hdegrading,
              Py.bind_eq_ok.mpr ⟨weak, hweak, rfl⟩⟩⟩

theorem exists_rawState_iff {store : TelemetryStore} {now : Value} :
    (∃ z, rawState py s store now = .ok z) ↔
      ∀ msg t, store.latest "LinkStatistics" = some (msg, t) →
        Subtractable now t ∧ (Fresh s now t → Comparable py s msg) := by
  rw [rawState]
  cases store.latest "LinkStatistics" with
  | none => simp
  | some entry =>
      obtain ⟨msg, t⟩ := entry
      have hentry : (∀ msg' t', some (msg, t) = some (msg', t') →
          Subtractable now t' ∧ (Fresh s now t' → Comparable py s msg')) ↔
            Subtractable now t ∧ (Fresh s now t → Comparable py s msg) := by
        constructor
        · exact fun h ↦ h msg t rfl
        · rintro h msg' t' ⟨⟩
          exact h
      rw [hentry, ← exists_subtract_iff, Fresh]
      dsimp only
      cases hage : subtract now t with
      | error e => simp [bind, Except.bind]
      | ok age =>
          rw [Py.ok_bind]
          split_ifs with hcritical hstale
          · simp [hcritical]
          · simp [hstale]
          · rw [exists_freshState_iff]
            simp [hcritical, hstale]

theorem exists_applyHysteresis_iff {m : LinkHealthMonitor} {raw : HealthState} {now : Value} :
    (∃ m', applyHysteresis s m raw now = .ok m') ↔
      (raw.severity < m.state.severity → m.pending = some raw →
        Subtractable now m.pendingSince) := by
  rw [applyHysteresis]
  split_ifs with hsame hworse hpending
  · refine iff_of_true ⟨_, rfl⟩ fun h ↦ ?_
    rw [hsame] at h
    exact absurd h (lt_irrefl _)
  · exact iff_of_true ⟨_, rfl⟩ fun h ↦ absurd h hworse.not_gt
  · exact iff_of_true ⟨_, rfl⟩ fun _ h ↦ absurd h hpending
  · have hbetter : raw.severity < m.state.severity :=
      lt_of_le_of_ne (not_lt.mp hworse) fun h ↦ hsame (HealthState.severity_injective h)
    rw [← exists_subtract_iff]
    cases subtract now m.pendingSince with
    | error e => simp [bind, Except.bind, hbetter, not_not.mp hpending]
    | ok held => simp [bind, Except.bind]

/-- An evaluation returns exactly if it can compute with all it reaches. -/
theorem exists_evaluate_iff {m : LinkHealthMonitor} {store : TelemetryStore} {now : Value} :
    (∃ z, evaluate py s m store now = .ok z) ↔ Evaluable py s m store now := by
  constructor
  · rintro ⟨z, hz⟩
    obtain ⟨⟨raw, reasons⟩, hraw, hz⟩ := Py.bind_eq_ok.mp hz
    obtain ⟨m', hm', -⟩ := Py.bind_eq_ok.mp hz
    have hentry := exists_rawState_iff.mp ⟨_, hraw⟩
    refine ⟨fun msg t h ↦ (hentry msg t h).1, fun msg t h ↦ (hentry msg t h).2, ?_⟩
    intro raw' reasons' hraw'
    rw [hraw] at hraw'
    cases hraw'
    exact exists_applyHysteresis_iff.mp ⟨m', hm'⟩
  · intro h
    obtain ⟨⟨raw, reasons⟩, hraw⟩ :=
      exists_rawState_iff.mpr fun msg t hentry ↦ ⟨h.age msg t hentry, h.fresh msg t hentry⟩
    obtain ⟨m', hm'⟩ := exists_applyHysteresis_iff.mpr (h.held raw reasons hraw)
    exact ⟨_, Py.bind_eq_ok.mpr ⟨_, hraw, Py.bind_eq_ok.mpr ⟨m', hm', rfl⟩⟩⟩

/-! ## What a record needs -/

/-- A record that is replayed, or refused with an error of the replay. -/
structure Digestible (py : Interpreter) (s : HealthSettings) (x : Replay) (record : Value) :
    Prop where
  object : ∃ fields, record = .dict fields
  hashable : ∀ recType data t, readRecord record = .ok (recType, data, t) → Hashable recType
  evaluable : ∀ recType data t msg, readRecord record = .ok (recType, data, t) →
    messageFromRecord recType data = .ok msg →
      Evaluable py s x.monitor (x.store.update msg t) t

theorem readRecord_own_iff {record : Value} :
    (∀ e, readRecord record = .error e → e.Own) ↔ ∃ fields, record = .dict fields := by
  cases record with
  | dict fields =>
      refine iff_of_true (fun e h ↦ ?_) ⟨fields, rfl⟩
      rw [readRecord] at h
      split at h
      · cases h
      · cases h
        trivial
  | none | bool _ | int _ | float _ | str _ | list _ => simp [readRecord, Failure.Own]

theorem messageFromRecord_own_iff {recType data : Value} :
    (∀ e, messageFromRecord recType data = .error e → e.Own) ↔ Hashable recType := by
  cases recType with
  | str name =>
      refine iff_of_true (fun e h ↦ ?_) trivial
      unfold messageFromRecord at h
      dsimp only at h
      split at h
      · split at h
        · cases h
        · cases h
          trivial
      · cases h
        trivial
  | none | bool _ | int _ | float _ | list _ | dict _ =>
      simp [messageFromRecord, Failure.Own, Hashable]

theorem evaluate_own_iff {m : LinkHealthMonitor} {store : TelemetryStore} {now : Value} :
    (∀ e, (evaluate py s m store now).mapError Failure.builtin = .error e → e.Own) ↔
      Evaluable py s m store now := by
  rw [← exists_evaluate_iff]
  cases evaluate py s m store now <;> simp [Except.mapError, Failure.Own]

/-- **A record.**  What it raises is an error of the replay exactly if it is digestible. -/
theorem replayRecord_own_iff {x : Replay} {record : Value} :
    (∀ e, replayRecord py s x record = .error e → e.Own) ↔ Digestible py s x record := by
  rw [replayRecord, bind_errors_iff, readRecord_own_iff]
  constructor
  · rintro ⟨hobject, hrest⟩
    refine ⟨hobject, fun recType data t hread ↦ ?_, fun recType data t msg hread hmsg ↦ ?_⟩
    · exact messageFromRecord_own_iff.mp (bind_errors_iff.mp (hrest _ hread)).1
    · have hevaluate := (bind_errors_iff.mp (hrest _ hread)).2 msg hmsg
      exact evaluate_own_iff.mp (bind_errors_iff.mp hevaluate).1
  · intro h
    refine ⟨h.object, ?_⟩
    rintro ⟨recType, data, t⟩ hread
    refine bind_errors_iff.mpr ⟨messageFromRecord_own_iff.mpr (h.hashable _ _ _ hread), ?_⟩
    intro msg hmsg
    refine bind_errors_iff.mpr ⟨evaluate_own_iff.mpr (h.evaluable _ _ _ _ hread hmsg), ?_⟩
    rintro ⟨monitor, report⟩ - e he
    cases he

/-- A record that is replayed adds one report. -/
theorem length_replayRecord {x y : Replay} {record : Value}
    (h : replayRecord py s x record = .ok y) : y.reports.length = x.reports.length + 1 := by
  obtain ⟨⟨recType, data, t⟩, -, h⟩ := Py.bind_eq_ok.mp h
  obtain ⟨msg, -, h⟩ := Py.bind_eq_ok.mp h
  obtain ⟨⟨monitor, report⟩, -, h⟩ := Py.bind_eq_ok.mp h
  cases h
  simp

/-- One report for each record. -/
theorem length_replayRecords {records : List Value} {reports : List HealthReport}
    (h : replayRecords py s records = .ok reports) : reports.length = records.length := by
  rw [replayRecords] at h
  cases hloop : records.foldlM (replayRecord py s) {} with
  | error e =>
      rw [hloop] at h
      cases h
  | ok y =>
      rw [hloop] at h
      cases h
      refine foldlM_invariant (I := fun as x ↦ x.reports.length = as.length) ?_ rfl hloop
      intro as record x z hx hz
      rw [length_replayRecord hz, hx, List.length_append, List.length_singleton]

/-! ## Logged messages -/

/-- A message with values of the annotated types. -/
def Message.ofTyped (msg : TelemetryMessage) : Message where
  cls := msg.typeName
  attributes := msg.asdict

theorem messageFromRecord_logged (msg : TelemetryMessage) :
    messageFromRecord (.str msg.typeName) (.dict msg.asdict) = .ok (.ofTyped msg) := by
  obtain ⟨names, hnames, hbind⟩ := bindKwargs_asdict msg
  have hzip : names.zip msg.fieldValues = msg.asdict := by
    rw [TelemetryMessage.asdict, hnames]
    rfl
  unfold messageFromRecord
  dsimp only
  rw [hnames]
  dsimp only
  rw [hbind]
  dsimp only
  rw [hzip]
  rfl

theorem ltInt_int (m n : ℤ) : ltInt (.int m) n = .ok (decide (m < n)) := by
  rw [ltInt, Number.ofValue]
  simp [Number.exact]

theorem isOne_int (n : ℤ) : isOne (.int n) = decide (n = 1) := by
  simp [isOne, Number.ofValue, Number.exact]

/-- An integer is formatted as `str` writes it. -/
theorem sensitivityFloor_int (elrsMajor rfMode : ℤ) :
    sensitivityFloor py s elrsMajor (.int rfMode) = s.sensitivityFloor elrsMajor rfMode := by
  have htext : py.strOf (.int rfMode) = toString rfMode := by
    cases rfMode with
    | ofNat n => rfl
    | negSucc n =>
        apply String.toList_injective
        rw [Interpreter.strOf, Decimal.signed, String.toList_ofList]
        show _ = ("-" ++ Nat.repr (n + 1)).toList
        rw [String.toList_append, Nat.repr, String.toList_ofList, String.toList_ofList]
        rfl
  rw [sensitivityFloor, HealthSettings.sensitivityFloor, htext]

/-- The thresholds of the typed monitor. -/
theorem freshState_logged (m : LinkStatistics) :
    freshState py s (.ofTyped (.linkStatistics m)) = .ok (Fpv.freshState s m) := by
  have huplink : (Message.ofTyped (.linkStatistics m)).attr "uplink_lq" = .int m.uplinkLq := rfl
  have hdownlink : (Message.ofTyped (.linkStatistics m)).attr "downlink_lq" =
      .int m.downlinkLq := rfl
  have hmode : (Message.ofTyped (.linkStatistics m)).attr "rf_mode" = .int m.rfMode := rfl
  have hactive : activeRssi (.ofTyped (.linkStatistics m)) =
      .int (if m.activeAntenna = 1 then m.uplinkRssiAnt2Dbm else m.uplinkRssiAnt1Dbm) := by
    have hantenna : (Message.ofTyped (.linkStatistics m)).attr "active_antenna" =
        .int m.activeAntenna := rfl
    rw [activeRssi, hantenna, isOne_int]
    by_cases h : m.activeAntenna = 1
    · rw [if_pos h, if_pos (decide_eq_true h)]
      rfl
    · rw [if_neg h, if_neg (by simpa using h)]
      rfl
  rw [freshState, Fpv.freshState, rssiBelowMargin, huplink, hdownlink, hmode, hactive,
    sensitivityFloor_int]
  by_cases hcritical : m.uplinkLq < s.healthLqCritical
  · simp [ltInt_int, Py.ok_bind, hcritical]
  simp only [ltInt_int, Py.ok_bind, hcritical, decide_false, Bool.false_eq_true, if_false]
  cases s.sensitivityFloor s.elrsMajorVersion m.rfMode with
  | none => simp [Py.ok_bind]
  | some floor => simp [Py.ok_bind]

/-- A replay that has met nothing but logged messages. -/
structure Replay.Logged (x : Replay) : Prop where
  entry : ∀ msg t, x.store.latest "LinkStatistics" = some (msg, t) →
    (∃ m, msg = .ofTyped (.linkStatistics m)) ∧ ∃ q, t = .float (.fin q)
  since : ∃ q, x.monitor.pendingSince = .float (.fin q)

theorem subtractable_float (a b : PyFloat) : Subtractable (.float a) (.float b) :=
  ⟨.float a, .float b, rfl, rfl, not_false⟩

theorem pendingSince_of_evaluate {m m' : LinkHealthMonitor} {store : TelemetryStore} {now : Value}
    {report : HealthReport} (h : evaluate py s m store now = .ok (m', report)) :
    m'.pendingSince = m.pendingSince ∨ m'.pendingSince = now := by
  obtain ⟨⟨raw, reasons⟩, -, h⟩ := Py.bind_eq_ok.mp h
  obtain ⟨m₁, hm, h⟩ := Py.bind_eq_ok.mp h
  cases h
  rw [applyHysteresis] at hm
  split_ifs at hm
  · cases hm
    exact .inl rfl
  · cases hm
    exact .inl rfl
  · cases hm
    exact .inr rfl
  · obtain ⟨held, -, hm⟩ := Py.bind_eq_ok.mp hm
    cases hm
    split_ifs <;> exact .inl rfl

/-- The message of a class in a store that a message was recorded in. -/
theorem latest_update {store : TelemetryStore} {msg msg' : Message} {t t' : Value}
    (h : (store.update msg t).latest "LinkStatistics" = some (msg', t')) :
    (msg' = msg ∧ t' = t ∧ msg.cls = "LinkStatistics") ∨
      store.latest "LinkStatistics" = some (msg', t') := by
  rw [TelemetryStore.update] at h
  dsimp only at h
  rw [Function.update_apply] at h
  split_ifs at h with hcls
  · cases h
    exact .inl ⟨rfl, rfl, hcls.symm⟩
  · exact .inr h

/-- A logged message is replayed. -/
theorem replayRecord_logged {x : Replay} (hx : x.Logged) (msg : TelemetryMessage) (t : ℚ) :
    ∃ y, replayRecord py s x (.dict (telemetryRecord msg t)) = .ok y ∧ y.Logged := by
  have hentry : ∀ msg' t', (x.store.update (.ofTyped msg) (.float (.fin t))).latest
      "LinkStatistics" = some (msg', t') →
        (∃ m, msg' = .ofTyped (.linkStatistics m)) ∧ ∃ q, t' = .float (.fin q) := by
    intro msg' t' h
    rcases latest_update h with ⟨rfl, rfl, hcls⟩ | h
    · cases msg with
      | linkStatistics m => exact ⟨⟨m, rfl⟩, t, rfl⟩
      | batterySensor _ => exact absurd hcls (by decide : "BatterySensor" ≠ "LinkStatistics")
      | attitude _ => exact absurd hcls (by decide : "Attitude" ≠ "LinkStatistics")
      | flightMode _ => exact absurd hcls (by decide : "FlightMode" ≠ "LinkStatistics")
      | gpsSensor _ => exact absurd hcls (by decide : "GpsSensor" ≠ "LinkStatistics")
    · exact hx.entry msg' t' h
  obtain ⟨q, hq⟩ := hx.since
  obtain ⟨⟨m', report⟩, heval⟩ : ∃ z, evaluate py s x.monitor
      (x.store.update (.ofTyped msg) (.float (.fin t))) (.float (.fin t)) = .ok z := by
    refine exists_evaluate_iff.mpr ⟨fun msg' t' h ↦ ?_, fun msg' t' h _ ↦ ?_, fun _ _ _ _ _ ↦ ?_⟩
    · obtain ⟨-, r, rfl⟩ := hentry msg' t' h
      exact subtractable_float _ _
    · obtain ⟨⟨m, rfl⟩, -⟩ := hentry msg' t' h
      exact exists_freshState_iff.mp ⟨_, freshState_logged m⟩
    · rw [hq]
      exact subtractable_float _ _
  refine ⟨{ store := x.store.update (.ofTyped msg) (.float (.fin t)), monitor := m',
            reports := x.reports ++ [report] }, ?_, hentry, ?_⟩
  · refine Py.bind_eq_ok.mpr ⟨(.str msg.typeName, .dict msg.asdict, .float (.fin t)), rfl, ?_⟩
    refine Py.bind_eq_ok.mpr ⟨.ofTyped msg, messageFromRecord_logged msg, ?_⟩
    dsimp only
    rw [heval]
    rfl
  · rcases pendingSince_of_evaluate heval with h | h
    · exact ⟨q, h.trans hq⟩
    · exact ⟨t, h⟩

/-- **Logged messages.**  A log of what was received is replayed to its end. -/
theorem replayRecords_logged (py : Interpreter) (s : HealthSettings)
    (msgs : List (TelemetryMessage × ℚ)) : ∃ reports,
      replayRecords py s (msgs.map fun m ↦ .dict (telemetryRecord m.1 m.2)) = .ok reports ∧
        reports.length = msgs.length := by
  have hloop : ∀ x : Replay, x.Logged → ∃ y,
      (msgs.map fun m ↦ Value.dict (telemetryRecord m.1 m.2)).foldlM (replayRecord py s) x =
        .ok y := by
    induction msgs with
    | nil => exact fun x _ ↦ ⟨x, rfl⟩
    | cons m msgs ih =>
        intro x hx
        obtain ⟨y, hy, hlogged⟩ : ∃ y,
            replayRecord py s x (.dict (telemetryRecord m.1 m.2)) = .ok y ∧ y.Logged :=
          replayRecord_logged hx m.1 m.2
        obtain ⟨z, hz⟩ := ih y hlogged
        exact ⟨z, by rw [List.map_cons, Fallible.foldlM_cons_of_ok hy, hz]⟩
  obtain ⟨y, hy⟩ := hloop {} ⟨fun _ _ h ↦ (by cases h), 0, rfl⟩
  have hreports : replayRecords py s (msgs.map fun m ↦ .dict (telemetryRecord m.1 m.2)) =
      .ok y.reports := by
    rw [replayRecords, hy]
    rfl
  exact ⟨y.reports, hreports, by rw [length_replayRecords hreports, List.length_map]⟩

end DroneComms.Fpv.Untyped
