import DroneComms.Mesh.Decoding
import DroneComms.Mesh.Ledger
import DroneComms.Transports.PollingSource

/-!
# Restarted flight sources and a peer that remembers

The objects that are ever made for one source, one of them running at a time, and a
`Router` elsewhere that gets their frames through `TelemetryCodec`: late, repeated, in any
order or not at all, among other traffic.  The numbers of the fixes start again with each
object, and the peer remembers the ids.
-/

namespace DroneComms.Mesh.Node

variable {β : Type} {r : Router β} {w q : Node} {e : NodeEvent β} {id : String}

/-- A step marks the id of its message. -/
def Marks (r : Router β) (e : NodeEvent β) (id : String) : Prop :=
  match e with
  | .publish _ env => env.msgId = id
  | .frame source data => ∃ env, (r.codecFor source).decode data = .ok env ∧ env.msgId = id
  | _ => False

/-- An id that is remembered was remembered before, or the step has marked it. -/
theorem mem_seen_of_step (h : w.step r e = some q) (hid : id ∈ q.seen) :
    id ∈ w.seen ∨ Marks r e id := by
  cases e with
  | subscribe =>
      cases h
      exact .inl hid
  | publish i env =>
      obtain ⟨-, h⟩ := Option.ite_none_left_eq_some.mp h
      cases h
      have hmem : id ∈ (w.markSeen r env.msgId).1.seen := hid
      unfold markSeen at hmem
      split_ifs at hmem
      · exact .inl hmem
      · exact (mem_evict hmem).imp_right Eq.symm
  | frame source data =>
      obtain ⟨-, -, rfl⟩ := step_frame h
      rw [receive_eq] at hid
      cases hverdict : w.verdict r source data with
      | schemaMismatch => exact .inl (by simpa [hverdict] using hid)
      | undecodable => exact .inl (by simpa [hverdict] using hid)
      | duplicate env => exact .inl (by simpa [hverdict] using hid)
      | accepted env subscribers =>
          rw [hverdict] at hid
          dsimp only at hid
          rw [(seen_handling r _ source env subscribers).1] at hid
          refine (mem_evict hid).imp_right fun hmarked ↦ ⟨env, ?_, hmarked.symm⟩
          unfold verdict at hverdict
          split at hverdict
          · cases hverdict
          · cases hverdict
          · split_ifs at hverdict
            cases hverdict
            assumption
  | handled source ok =>
      obtain ⟨env, n, -, rfl⟩ := step_handled h
      rw [(seen_handling r w source env n).1] at hid
      exact .inl hid
  | sendPublished i ok =>
      obtain ⟨f, target, targets, -, -, ⟨-, -, rfl⟩ | ⟨-, rfl⟩⟩ := step_sendPublished h
      · exact .inl hid
      · exact .inl hid
  | sendForwarded source ok =>
      obtain ⟨f, target, targets, -, -, ⟨-, -, rfl⟩ | ⟨-, rfl⟩⟩ := step_sendForwarded h
      · rw [(seen_forwarding _ source _).1] at hid
        exact .inl hid
      · exact .inl hid

/-- A frame that is dropped as a duplicate has an id that is remembered. -/
theorem mem_seen_of_duplicate {source : ℕ} {data : β} {env : Envelope}
    (h : w.verdict r source data = .duplicate env) :
    (r.codecFor source).decode data = .ok env ∧ env.msgId ∈ w.seen := by
  unfold verdict at h
  split at h
  · cases h
  · cases h
  · split_ifs at h with hseen
    cases h
    exact ⟨‹_›, hseen⟩

end DroneComms.Mesh.Node

namespace DroneComms.Transports

open Automaton Mesh
open Py (Interpreter JsonReader Bytes Dict Value)

/-! ## The source, the link and the peer -/

/-- A source and the peer that hears it through a telemetry link. -/
structure FlightLink where
  py : Interpreter
  json : JsonReader py
  pyd : Pydantic
  sourceUid : String
  peer : Router Bytes
  transport : ℕ
  telemetry : peer.codecFor transport = telemetryCodec py json pyd

/-- An emitted fix. -/
structure Emission where
  /-- The object that has emitted it. -/
  object : ℕ
  msgId : String
  data : Bytes

/-- The objects of a source, in the order in which they were made, and the peer. -/
structure FlightHistory where
  objects : List PollingSource := []
  running : Option ℕ := none
  /-- The emitted fixes, oldest first. -/
  emitted : List Emission := []
  peer : Node := {}
  /-- The fixes of which a frame has come to the peer. -/
  delivered : List ℕ := []
  /-- The fixes that the peer took for duplicates when they came first. -/
  mistaken : List ℕ := []

/-- What can happen next. -/
inductive FlightEvent where
  | construct (callsign : Option String)
  | start (object : ℕ)
  | stop
  | /-- The running object emits a fix. -/ fix (fix : SourceFix)
  | /-- A frame of a fix comes to the peer. -/ deliver (k : ℕ)
  | /-- The peer goes on, or hears of something else. -/ peer (e : NodeEvent Bytes)

namespace FlightLink

variable (l : FlightLink)

/-- An id is none of the source's. -/
def foreignId (id : String) : Bool := !startswith id (l.sourceUid ++ ":")

/-- An event at the peer is about no fix of the source. -/
def foreign : NodeEvent Bytes → Bool
  | .publish _ env => l.foreignId env.msgId
  | .frame source data =>
      match (l.peer.codecFor source).decode data with
      | .ok env => l.foreignId env.msgId
      | .error _ => true
  | _ => true

end FlightLink

/-- A frame was dropped as a duplicate. -/
def isDuplicate : Verdict → Bool
  | .duplicate _ => true
  | _ => false

namespace FlightHistory

/-- An object emits a fix. -/
def emit (l : FlightLink) (w : FlightHistory) (fix : SourceFix) (object : ℕ) (s : PollingSource) :
    FlightHistory :=
  let framed := s.positionFrame l.py fix
  { w with
    objects := w.objects.set object framed.1
    emitted := w.emitted ++
      [⟨object, PollingSource.msgId framed.1.sourceUid framed.1.seq, framed.2⟩] }

/-- A frame has come to the peer. -/
def deliver (l : FlightLink) (w : FlightHistory) (k : ℕ) (data : Bytes) (peer : Node) :
    FlightHistory :=
  { w with
    peer
    delivered := k :: w.delivered
    mistaken :=
      if k ∉ w.delivered ∧ isDuplicate (w.peer.verdict l.peer l.transport data) then
        k :: w.mistaken
      else w.mistaken }

/-- One step. -/
def step (l : FlightLink) (w : FlightHistory) : FlightEvent → Option FlightHistory
  | .construct callsign =>
      some { w with objects := w.objects ++ [.init l.sourceUid callsign] }
  | .start object =>
      if w.running = none ∧ object < w.objects.length then some { w with running := some object }
      else none
  | .stop => some { w with running := none }
  | .fix fix =>
      w.running.bind fun object ↦ (w.objects[object]?).map (w.emit l fix object)
  | .deliver k =>
      (w.emitted[k]?).bind fun em ↦
        (w.peer.step l.peer (.frame l.transport em.data)).map (w.deliver l k em.data)
  | .peer e =>
      if l.foreign e then (w.peer.step l.peer e).map fun peer ↦ { w with peer } else none

/-! ## Ids -/

variable {l : FlightLink} {w w' : FlightHistory}

/-- The ids of the source are its own. -/
theorem not_foreignId (l : FlightLink) (n : ℕ) :
    l.foreignId (PollingSource.msgId l.sourceUid n) = false := by
  simp only [FlightLink.foreignId, startswith, PollingSource.msgId, String.toList_append,
    Bool.not_eq_false', List.isPrefixOf_iff_prefix]
  exact List.prefix_append _ _

theorem wellKeyed_frame (s : PollingSource) (fix : SourceFix) :
    Py.Json.WellKeyed (.dict (s.frame fix)) := by
  have hkeys : (s.frame fix).map Prod.fst =
      ["src", "callsign", "msg_id", "ts", "lat", "lon", "hae"] := rfl
  refine ⟨?_, trivial, trivial, trivial, trivial, trivial, trivial, trivial, trivial⟩
  rw [hkeys]
  decide +kernel

/-- The telemetry codec reads the id of a fix as it was. -/
theorem msgId_of_decode {s : PollingSource} {fix : SourceFix} {env : Envelope}
    (h : (telemetryCodec l.py l.json l.pyd).decode (s.positionFrame l.py fix).2 = .ok env) :
    env.msgId = PollingSource.msgId s.sourceUid (s.seq + 1) := by
  obtain ⟨frame, hframe, h⟩ := Py.bind_eq_ok.mp h
  obtain ⟨f, hf, h⟩ := Py.bind_eq_ok.mp h
  obtain ⟨hload, -⟩ := Decoding.loadFrame_eq_ok.mp hframe
  have hread := l.json.loadsBytes_dumps _ (wellKeyed_frame { s with seq := s.seq + 1 } fix)
  cases hread.symm.trans hload
  obtain ⟨src, -, hfields⟩ := Py.bind_eq_ok.mp (Cot.guarded_eq_ok hf)
  obtain ⟨msgId, hmsgId, hfields⟩ := Py.bind_eq_ok.mp hfields
  obtain ⟨ts, -, hfields⟩ := Py.bind_eq_ok.mp hfields
  obtain ⟨lat, -, hfields⟩ := Py.bind_eq_ok.mp hfields
  obtain ⟨lon, -, hfields⟩ := Py.bind_eq_ok.mp hfields
  obtain ⟨hae, -, hfields⟩ := Py.bind_eq_ok.mp hfields
  obtain ⟨course, -, hfields⟩ := Py.bind_eq_ok.mp hfields
  obtain ⟨speed, -, hfields⟩ := Py.bind_eq_ok.mp hfields
  obtain ⟨position, -, hfields⟩ := Py.bind_eq_ok.mp hfields
  obtain ⟨telemetry, -, hfields⟩ := Py.bind_eq_ok.mp hfields
  cases hfields
  cases h
  cases hmsgId
  rfl

/-! ## The objects and what the peer remembers -/

/-- How a step goes. -/
inductive Stepped (l : FlightLink) (w : FlightHistory) : FlightEvent → FlightHistory → Prop
  | construct (callsign : Option String) : Stepped l w (.construct callsign)
      { w with objects := w.objects ++ [.init l.sourceUid callsign] }
  | start (object : ℕ) : Stepped l w (.start object) { w with running := some object }
  | stop : Stepped l w .stop { w with running := none }
  | fix (fix : SourceFix) (object : ℕ) (s : PollingSource) (hrunning : w.running = some object)
      (hs : w.objects[object]? = some s) : Stepped l w (.fix fix) (w.emit l fix object s)
  | deliver (k : ℕ) (em : Emission) (peer : Node) (hem : w.emitted[k]? = some em)
      (hpeer : w.peer.step l.peer (.frame l.transport em.data) = some peer) :
      Stepped l w (.deliver k) (w.deliver l k em.data peer)
  | peer (e : NodeEvent Bytes) (peer : Node) (hforeign : l.foreign e = true)
      (hpeer : w.peer.step l.peer e = some peer) : Stepped l w (.peer e) { w with peer }

theorem stepped_of_step {e : FlightEvent} (h : step l w e = some w') : Stepped l w e w' := by
  cases e with
  | construct callsign =>
      cases h
      exact .construct callsign
  | start object =>
      obtain ⟨-, h⟩ := Option.ite_none_right_eq_some.mp h
      cases h
      exact .start object
  | stop =>
      cases h
      exact .stop
  | fix fix =>
      obtain ⟨object, hrunning, h⟩ := Option.bind_eq_some_iff.mp h
      obtain ⟨s, hs, rfl⟩ := Option.map_eq_some_iff.mp h
      exact .fix fix object s hrunning hs
  | deliver k =>
      obtain ⟨em, hem, h⟩ := Option.bind_eq_some_iff.mp h
      obtain ⟨peer, hpeer, rfl⟩ := Option.map_eq_some_iff.mp h
      exact .deliver k em peer hem hpeer
  | peer e =>
      obtain ⟨hforeign, h⟩ := Option.ite_none_right_eq_some.mp h
      obtain ⟨peer, hpeer, rfl⟩ := Option.map_eq_some_iff.mp h
      exact .peer e peer hforeign hpeer

/-- An emission has the id of a fix that its object has counted. -/
structure Counted (l : FlightLink) (objects : List PollingSource) (em : Emission) (n : ℕ) :
    Prop where
  msgId : em.msgId = PollingSource.msgId l.sourceUid n
  positive : 1 ≤ n
  counted : ∃ s, objects[em.object]? = some s ∧ n ≤ s.seq

/-- What holds in every history, whatever is emitted. -/
structure Accountable (l : FlightLink) (w : FlightHistory) : Prop where
  source : ∀ s ∈ w.objects, s.sourceUid = l.sourceUid
  counted : ∀ em ∈ w.emitted, ∃ n, Counted l w.objects em n
  /-- What an object has counted it has emitted. -/
  emits : ∀ i s, w.objects[i]? = some s → ∀ n, 1 ≤ n → n ≤ s.seq →
    ∃ em ∈ w.emitted, em.object = i ∧ em.msgId = PollingSource.msgId l.sourceUid n
  data : ∀ em ∈ w.emitted, ∀ env,
    (telemetryCodec l.py l.json l.pyd).decode em.data = .ok env → env.msgId = em.msgId
  /-- The peer remembers no id of the source but those of delivered fixes. -/
  seen : ∀ id ∈ w.peer.seen, l.foreignId id = false →
    ∃ k ∈ w.delivered, ∃ em, w.emitted[k]? = some em ∧ em.msgId = id

theorem accountable_init (l : FlightLink) : Accountable l {} where
  source := nofun
  counted := nofun
  emits _ _ hs := by cases hs
  data := nofun
  seen := nofun

theorem Counted.construct {objects : List PollingSource} {em : Emission} {n : ℕ}
    (h : Counted l objects em n) (s : PollingSource) : Counted l (objects ++ [s]) em n where
  msgId := h.msgId
  positive := h.positive
  counted := by
    obtain ⟨s', hs', hn⟩ := h.counted
    exact ⟨s', List.getElem?_append_left (List.getElem?_eq_some_iff.mp hs').1 ▸ hs', hn⟩

theorem Accountable.construct (h : w.Accountable l) (callsign : Option String) :
    Accountable l { w with objects := w.objects ++ [.init l.sourceUid callsign] } where
  source s hs := by
    rcases List.mem_append.mp hs with hs | hs
    · exact h.source s hs
    · rw [List.mem_singleton.mp hs, PollingSource.init_sourceUid]
  counted em hem := by
    obtain ⟨n, hn⟩ := h.counted em hem
    exact ⟨n, hn.construct _⟩
  emits i s hs n hpos hn := by
    rcases Nat.lt_or_ge i w.objects.length with hi | hi
    · rw [List.getElem?_append_left hi] at hs
      exact h.emits i s hs n hpos hn
    · rw [List.getElem?_append_right hi] at hs
      have hnew := List.mem_singleton.mp (List.mem_of_getElem? hs)
      rw [hnew, PollingSource.init_seq] at hn
      exact absurd (hpos.trans hn) (by simp)
  data := h.data
  seen := h.seen

section Emit

variable {fix : SourceFix} {object : ℕ} {s : PollingSource}

theorem getElem?_set_self (hs : w.objects[object]? = some s) (s' : PollingSource) :
    (w.objects.set object s')[object]? = some s' := by
  rw [List.getElem?_set, if_pos rfl, if_pos (List.getElem?_eq_some_iff.mp hs).1]

theorem Counted.emit {em : Emission} {n : ℕ} (h : Counted l w.objects em n)
    (hs : w.objects[object]? = some s) : Counted l (w.emit l fix object s).objects em n where
  msgId := h.msgId
  positive := h.positive
  counted := by
    obtain ⟨s', hs', hn⟩ := h.counted
    by_cases hobject : object = em.object
    · subst hobject
      cases hs.symm.trans hs'
      exact ⟨_, getElem?_set_self hs _, hn.trans (Nat.le_succ _)⟩
    · refine ⟨s', ?_, hn⟩
      rw [FlightHistory.emit, List.getElem?_set_ne hobject]
      exact hs'

theorem Accountable.emit (h : w.Accountable l) (hs : w.objects[object]? = some s) :
    (w.emit l fix object s).Accountable l := by
  have hsource : s.sourceUid = l.sourceUid := h.source s (List.mem_of_getElem? hs)
  have hself := getElem?_set_self hs (s.positionFrame l.py fix).1
  constructor
  · intro s' hs'
    rcases List.mem_or_eq_of_mem_set hs' with hs' | rfl
    · exact h.source s' hs'
    · rw [PollingSource.positionFrame_sourceUid, hsource]
  · intro em hem
    rcases List.mem_append.mp hem with hem | hem
    · obtain ⟨n, hn⟩ := h.counted em hem
      exact ⟨n, hn.emit hs⟩
    · rw [List.mem_singleton.mp hem]
      refine ⟨s.seq + 1, ?_, Nat.le_add_left 1 _, _, hself, le_rfl⟩
      rw [PollingSource.positionFrame_sourceUid, hsource, PollingSource.positionFrame_seq]
  · intro i s' hs' n hpos hn
    have hold : (∃ s', w.objects[i]? = some s' ∧ n ≤ s'.seq) →
        ∃ em ∈ (w.emit l fix object s).emitted, em.object = i ∧
          em.msgId = PollingSource.msgId l.sourceUid n := by
      rintro ⟨s', hs', hn⟩
      obtain ⟨em, hem, hi, hid⟩ := h.emits i s' hs' n hpos hn
      exact ⟨em, List.mem_append_left _ hem, hi, hid⟩
    by_cases hi : object = i
    · subst hi
      cases hself.symm.trans hs'
      rcases Nat.lt_or_ge s.seq n with hlt | hle
      · refine ⟨_, List.mem_append_right _ (List.mem_singleton_self _), rfl, ?_⟩
        rw [PollingSource.positionFrame_sourceUid, hsource, Nat.le_antisymm hn hlt]
      · exact hold ⟨s, hs, hle⟩
    · rw [FlightHistory.emit, List.getElem?_set_ne hi] at hs'
      exact hold ⟨s', hs', hn⟩
  · intro em hem env henv
    rcases List.mem_append.mp hem with hem | hem
    · exact h.data em hem env henv
    · rw [List.mem_singleton.mp hem] at henv ⊢
      exact msgId_of_decode henv
  · intro id hid hforeign
    obtain ⟨k, hk, em, hem, hemId⟩ := h.seen id hid hforeign
    refine ⟨k, hk, em, ?_, hemId⟩
    rw [FlightHistory.emit, List.getElem?_append_left (List.getElem?_eq_some_iff.mp hem).1]
    exact hem

end Emit

theorem Accountable.deliver (h : w.Accountable l) {k : ℕ} {em : Emission} {peer : Node}
    (hem : w.emitted[k]? = some em)
    (hpeer : w.peer.step l.peer (.frame l.transport em.data) = some peer) :
    (w.deliver l k em.data peer).Accountable l where
  source := h.source
  counted := h.counted
  emits := h.emits
  data := h.data
  seen id hid hforeign := by
    rcases Node.mem_seen_of_step hpeer hid with hid | ⟨env, henv, rfl⟩
    · obtain ⟨k', hk', hem'⟩ := h.seen id hid hforeign
      exact ⟨k', List.mem_cons_of_mem _ hk', hem'⟩
    · rw [l.telemetry] at henv
      exact ⟨k, List.mem_cons_self, em, hem, (h.data em (List.mem_of_getElem? hem) env henv).symm⟩

/-- What is none of the source's is not marked as one of its fixes. -/
theorem foreignId_of_marks {e : NodeEvent Bytes} {id : String} (h : l.foreign e = true)
    (hmarks : Node.Marks l.peer e id) : l.foreignId id = true := by
  cases e with
  | publish i env =>
      cases hmarks
      exact h
  | frame source data =>
      obtain ⟨env, henv, rfl⟩ := hmarks
      rw [FlightLink.foreign, henv] at h
      exact h
  | _ => cases hmarks

theorem Accountable.peer (h : w.Accountable l) {e : NodeEvent Bytes} {peer : Node}
    (hforeign : l.foreign e = true) (hpeer : w.peer.step l.peer e = some peer) :
    Accountable l { w with peer } where
  source := h.source
  counted := h.counted
  emits := h.emits
  data := h.data
  seen id hid hown := by
    rcases Node.mem_seen_of_step hpeer hid with hid | hmarks
    · exact h.seen id hid hown
    · cases hown.symm.trans (foreignId_of_marks hforeign hmarks)

theorem Accountable.step (h : w.Accountable l) {e : FlightEvent} (hstep : Stepped l w e w') :
    w'.Accountable l := by
  cases hstep with
  | construct callsign => exact h.construct callsign
  | start object => exact ⟨h.source, h.counted, h.emits, h.data, h.seen⟩
  | stop => exact ⟨h.source, h.counted, h.emits, h.data, h.seen⟩
  | fix fix object s _ hs => exact h.emit hs
  | deliver k em peer hem hpeer => exact h.deliver hem hpeer
  | peer e peer hforeign hpeer => exact h.peer hforeign hpeer

/-! ## Fixes and duplicates -/

/-- Fixes have ids of their own, and none was taken for a duplicate. -/
structure Recognised (w : FlightHistory) : Prop where
  distinct : (w.emitted.map Emission.msgId).Nodup
  accepted : w.mistaken = []

/-- No other object of the source has emitted a fix. -/
def SoleSource (w : FlightHistory) : FlightEvent → Prop
  | .fix _ => ∀ em ∈ w.emitted, w.running = some em.object
  | _ => True

theorem recognised_init : Recognised {} := ⟨List.nodup_nil, rfl⟩

/-- Of a source with distinct ids one object has emitted. -/
theorem object_eq (h : w.Accountable l) (hr : w.Recognised) {em em' : Emission}
    (hem : em ∈ w.emitted) (hem' : em' ∈ w.emitted) : em.object = em'.object := by
  have hfirst : ∀ em ∈ w.emitted, ∃ first ∈ w.emitted, first.object = em.object ∧
      first.msgId = PollingSource.msgId l.sourceUid 1 := by
    intro em hem
    obtain ⟨n, -, hpos, s, hs, hn⟩ := h.counted em hem
    exact h.emits em.object s hs 1 le_rfl (hpos.trans hn)
  obtain ⟨first, hmem, hobject, hid⟩ := hfirst em hem
  obtain ⟨first', hmem', hobject', hid'⟩ := hfirst em' hem'
  have hsame : first = first' :=
    List.inj_on_of_nodup_map hr.distinct hmem hmem' (hid.trans hid'.symm)
  rw [← hobject, ← hobject', hsame]

section Emit

variable {fix : SourceFix} {object : ℕ} {s : PollingSource}

theorem emit_map (h : w.Accountable l) (hs : w.objects[object]? = some s) :
    (w.emit l fix object s).emitted.map Emission.msgId =
      w.emitted.map Emission.msgId ++ [PollingSource.msgId l.sourceUid (s.seq + 1)] := by
  rw [FlightHistory.emit, List.map_append, ← h.source s (List.mem_of_getElem? hs)]
  rfl

/-- The next fix has an id of its own if no other object has emitted. -/
theorem Recognised.emit (h : w.Accountable l) (hr : w.Recognised)
    (hs : w.objects[object]? = some s) (hsole : ∀ em ∈ w.emitted, em.object = object) :
    (w.emit l fix object s).Recognised where
  distinct := by
    rw [emit_map h hs]
    refine List.nodup_append.mpr ⟨hr.distinct, List.nodup_singleton _, ?_⟩
    intro id hid id' hid' heq
    obtain ⟨em, hem, rfl⟩ := List.mem_map.mp hid
    obtain ⟨n, hn, -, s', hs', hle⟩ := h.counted em hem
    rw [hsole em hem] at hs'
    cases hs.symm.trans hs'
    rw [heq, List.mem_singleton.mp hid'] at hn
    rw [← PollingSource.msgId_injective _ hn] at hle
    exact absurd hle (Nat.not_succ_le_self _)
  accepted := hr.accepted

/-- The first fix of an object has the id of the first fix of any other. -/
theorem sole_of_recognised_emit (h : w.Accountable l) (hr : w.Recognised)
    (hs : w.objects[object]? = some s) (hr' : (w.emit l fix object s).Recognised) :
    ∀ em ∈ w.emitted, em.object = object := by
  intro em hem
  have hdistinct := hr'.distinct
  rw [emit_map h hs] at hdistinct
  obtain ⟨n, -, hpos, s', hs', hn⟩ := h.counted em hem
  cases hseq : s.seq with
  | zero =>
      obtain ⟨first, hfirst, -, hid⟩ := h.emits em.object s' hs' 1 le_rfl (hpos.trans hn)
      rw [hseq] at hdistinct
      have hnew := (List.nodup_append.mp hdistinct).2.2 first.msgId (List.mem_map_of_mem hfirst) _
        (List.mem_singleton_self _)
      exact absurd hid hnew
  | succ m =>
      obtain ⟨own, hown, hobject, -⟩ :=
        h.emits object s hs 1 le_rfl (by rw [hseq]; exact Nat.le_add_left 1 m)
      rw [← hobject]
      exact object_eq h hr hem hown

end Emit

/-- A frame that comes first is no duplicate if the ids are distinct. -/
theorem Recognised.deliver (h : w.Accountable l) (hr : w.Recognised) {k : ℕ} {em : Emission}
    (hem : w.emitted[k]? = some em) (peer : Node) : (w.deliver l k em.data peer).Recognised where
  distinct := hr.distinct
  accepted := by
    refine (if_neg ?_).trans hr.accepted
    rintro ⟨hnew, hduplicate⟩
    cases hverdict : w.peer.verdict l.peer l.transport em.data with
    | duplicate env =>
        obtain ⟨henv, hseen⟩ := Node.mem_seen_of_duplicate hverdict
        rw [l.telemetry] at henv
        rw [h.data em (List.mem_of_getElem? hem) env henv] at hseen
        obtain ⟨n, hn, -⟩ := h.counted em (List.mem_of_getElem? hem)
        obtain ⟨k', hk', em', hem', hid⟩ :=
          h.seen em.msgId hseen (by rw [hn]; exact not_foreignId l n)
        have hsame : (w.emitted.map Emission.msgId)[k']? = (w.emitted.map Emission.msgId)[k]? := by
          rw [List.getElem?_map, List.getElem?_map, hem, hem', Option.map_some, Option.map_some, hid]
        have hlength : k' < (w.emitted.map Emission.msgId).length := by
          rw [List.length_map]
          exact (List.getElem?_eq_some_iff.mp hem').1
        rw [(List.getElem?_inj hlength hr.distinct).mp hsame] at hk'
        exact hnew hk'
    | _ =>
        rw [hverdict] at hduplicate
        cases hduplicate

theorem recognised_step_iff (h : w.Accountable l) (hr : w.Recognised) {e : FlightEvent}
    (hstep : Stepped l w e w') : w'.Recognised ↔ SoleSource w e := by
  cases hstep with
  | fix fix object s hrunning hs =>
      rw [SoleSource, hrunning]
      constructor
      · intro hr' em hem
        rw [sole_of_recognised_emit h hr hs hr' em hem]
      · exact fun hsole ↦ Recognised.emit h hr hs fun em hem ↦ (Option.some.inj (hsole em hem)).symm
  | deliver k em peer hem _ => exact iff_of_true (Recognised.deliver h hr hem peer) trivial
  | construct _ | start _ | stop | peer _ _ _ _ =>
      exact iff_of_true ⟨hr.distinct, hr.accepted⟩ trivial

/-- **Fixes are recognised** throughout a history exactly if one object emits them all. -/
theorem recognised_iff_sole_source (l : FlightLink) (es : List FlightEvent) :
    Always (step l) Recognised {} es ↔ Along (step l) SoleSource {} es :=
  always_iff_along (fun _ _ _ h hstep ↦ h.step (stepped_of_step hstep))
    (fun _ _ _ h hr hstep ↦ recognised_step_iff h hr (stepped_of_step hstep))
    (accountable_init l) recognised_init es

/-- The source `u` and a peer with one telemetry link. -/
def plainLink : FlightLink where
  py := .plain
  json := .plain
  pyd := .plain
  sourceUid := "u"
  peer := { transports := ["udp"], codec := telemetryCodec .plain .plain .plain }
  transport := 0
  telemetry := rfl

/-- Behind a restart of the process the first fix has the id of the first one before. -/
theorem restarted_fix_unrecognised :
    ¬∀ (l : FlightLink) (es : List FlightEvent), Always (step l) Recognised {} es := by
  intro h
  have hreached := always_iff_prefix.mp (h plainLink
    [.construct none, .start 0, .fix ⟨.fin 0, .fin 1, .fin 2, .fin 3⟩, .stop,
      .construct none, .start 1, .fix ⟨.fin 9, .fin 4, .fin 5, .fin 6⟩]) _ _
    (List.prefix_refl _) rfl
  have hdistinct : [PollingSource.msgId "u" 1, PollingSource.msgId "u" 1].Nodup := hreached.distinct
  exact (List.nodup_cons.mp hdistinct).1 (List.mem_singleton_self _)

end FlightHistory

end DroneComms.Transports
