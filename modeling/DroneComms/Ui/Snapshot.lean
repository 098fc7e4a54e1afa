import DroneComms.Lib.Recency
import DroneComms.Mesh.Models
import DroneComms.Py.Json
import DroneComms.Py.Rounding

/-!
# The console snapshot

`SnapshotStore` of `meshsa/ui/snapshot.py`: the tracks and the detections of the
console, each in a dictionary with a cap and a lifetime.  Entries expire when
somebody looks.

The clock reads a rational number of seconds.  Formatting a track id, which
raises for an integer of too many digits, is a parameter.
-/

namespace DroneComms.Ui

open Mesh (Envelope MessageKind)
open Py (PyError PyFloat Value)
open Recency (touch evict sweep latest Keeps)

/-! ## Features -/

/-- A GeoJSON point feature. -/
structure Feature where
  coordinates : PyFloat × PyFloat
  properties : List (String × Value)

/-- `_is_scalar`. -/
def isScalar : Value → Bool
  | .float x => x.isFinite
  | .none | .str _ | .int _ | .bool _ => true
  | .list _ | .dict _ => false

/-- `_GEOMETRY_KEYS`. -/
def geometryKeys : List String := ["lat", "lon"]

/-- `_KNOWN_TOP_LEVEL`. -/
def knownTopLevel : List String := ["node", "position", "telemetry", "detection"]

/-- `properties.setdefault(key, value)`. -/
def setdefault (properties : List (String × Value)) (key : String) (value : Value) :
    List (String × Value) :=
  if properties.any (·.1 = key) then properties else properties ++ [(key, value)]

/-- `_merge_scalars`, with the count of the keys it ignores. -/
def mergeScalars (block : List (String × Value)) (skip : List String) (label : String)
    (acc : List (String × Value) × ℕ) : List (String × Value) × ℕ :=
  block.foldl (fun acc kv ↦
    if kv.1 ∈ skip then acc
    else if isScalar kv.2 then (setdefault acc.1 (label ++ kv.1) kv.2, acc.2)
    else (acc.1, acc.2 + 1)) acc

/-- `float(v)`, for an instance of `int | float`. -/
def floatOfNumber : Value → Option (Except PyError PyFloat)
  | .bool b => some (.ok (.fin (if b then 1 else 0)))
  | .int n => some (Py.floatOfInt n)
  | .float x => some (.ok x)
  | _ => none

/-- The longitude and the latitude of a position, if both are usable. -/
def coordinates (position : List (String × Value)) : Except PyError (Option (PyFloat × PyFloat)) :=
  match floatOfNumber ((position.lookup "lat").getD .none),
      floatOfNumber ((position.lookup "lon").getD .none) with
  | some lat, some lon => do
      let lat ← lat
      if lat.isFinite then
        let lon ← lon
        if lon.isFinite then .ok (some (lon, lat)) else .ok none
      else .ok none
  | _, _ => .ok none

/-- The properties of a feature, with the count of the keys that are ignored. -/
def properties (envelope : Envelope) (position : List (String × Value)) :
    List (String × Value) × ℕ :=
  let payload := envelope.payload
  let base := [("uid", .str envelope.sourceUid), ("ts", .float envelope.ts),
    ("kind", .str envelope.kind.value)]
  let named :=
    match payload.lookup "node" with
    | some (.dict node) =>
        let callsign := (node.lookup "callsign").getD .none
        if isScalar callsign then Py.Json.setKey base "callsign" callsign else base
    | _ => base
  let acc := mergeScalars position geometryKeys "" (named, 0)
  let acc :=
    match payload.lookup "detection" with
    | some (.dict detection) => mergeScalars detection [] "" acc
    | _ => acc
  let acc :=
    match payload.lookup "telemetry" with
    | some (.dict telemetry) => mergeScalars telemetry [] "telemetry_" acc
    | _ => acc
  -- the loop over the unknown keys of the payload does what `_merge_scalars` does
  mergeScalars payload knownTopLevel "" acc

/-- `_render_feature`, with the count of the keys that are ignored. -/
def renderFeature (envelope : Envelope) : Except PyError (Option Feature) × ℕ :=
  match envelope.payload.lookup "position" with
  | some (.dict position) =>
      match coordinates position with
      | .error e => (.error e, 0)
      | .ok none => (.ok none, 0)
      | .ok (some point) =>
          let merged := properties envelope position
          (.ok (some ⟨point, merged.1⟩), merged.2)
  | _ => (.ok none, 0)

/-! ## The store -/

/-- The two dictionaries. -/
inductive Picture where
  | tracks
  | detections
deriving DecidableEq, Repr

/-- The arguments that `__init__` accepts. -/
structure SnapshotSettings where
  cap : Picture → ℕ
  staleS : Picture → ℚ
  cap_pos : ∀ p, 0 < cap p
  staleS_pos : ∀ p, 0 < staleS p

/-- `_Entry`. -/
structure Entry where
  seenAt : ℚ
  feature : Feature

/-- An assignment to a dictionary: the envelope, when it came, and its rendering. -/
structure Upsert where
  key : String
  envelope : Envelope
  seenAt : ℚ
  feature : Feature
  rendered : (renderFeature envelope).1 = .ok (some feature)

def Upsert.entry (u : Upsert) : String × Entry := (u.key, ⟨u.seenAt, u.feature⟩)

/-- A dictionary and its counters. -/
structure Collection where
  entries : List (String × Entry) := []
  evicted : ℕ := 0
  expired : ℕ := 0
  /-- How many assignments found no entry of their key, which the source does not count. -/
  inserted : ℕ := 0

namespace Collection

/-- The end of `_upsert`. -/
def assign (cap : ℕ) (c : Collection) (entry : String × Entry) : Collection :=
  let kept := evict cap (touch Prod.fst c.entries entry)
  { c with
    entries := kept.1
    evicted := c.evicted + kept.2
    inserted := c.inserted + if entry.1 ∈ c.entries.map Prod.fst then 0 else 1 }

/-- `_sweep`. -/
def sweep (staleS now : ℚ) (c : Collection) : Collection :=
  let deadline := now - staleS
  let kept := Recency.sweep (fun entry ↦ decide (entry.2.seenAt < deadline)) c.entries
  { c with entries := kept.1, expired := c.expired + kept.2 }

/-- `_collection`. -/
def features (c : Collection) : List Feature := c.entries.map fun entry ↦ entry.2.feature

end Collection

/-- The state of a `SnapshotStore`. -/
structure SnapshotStore where
  collection : Picture → Collection := fun _ ↦ {}
  droppedInvalid : ℕ := 0
  ignoredNonscalarKeys : ℕ := 0

/-- What `counters` returns. -/
structure CountersView where
  evicted : Picture → ℕ
  expired : Picture → ℕ
  droppedInvalid : ℕ
  ignoredNonscalarKeys : ℕ
  live : Picture → ℕ

variable (cfg : SnapshotSettings) (format : Value → Except PyError String)

/-- `_detection_key`. -/
def detectionKey (envelope : Envelope) : Except PyError String :=
  let trackId :=
    match envelope.payload.lookup "detection" with
    | some (.dict detection) => (detection.lookup "track_id").getD .none
    | _ => .none
  match trackId with
  | .none => .ok envelope.msgId
  | trackId => (format trackId).map fun s ↦ envelope.sourceUid ++ ":" ++ s

namespace SnapshotStore

/-- Replace one of the dictionaries. -/
def set (st : SnapshotStore) (p : Picture) (c : Collection) : SnapshotStore :=
  { st with collection := Function.update st.collection p c }

/-- `_upsert`, with the exception it raises. -/
def upsert (p : Picture) (key : String) (envelope : Envelope) (now : ℚ) (st : SnapshotStore) :
    SnapshotStore × Option PyError :=
  let rendering := renderFeature envelope
  let st := { st with ignoredNonscalarKeys := st.ignoredNonscalarKeys + rendering.2 }
  match rendering.1 with
  | .error e => (st, some e)
  | .ok none => ({ st with droppedInvalid := st.droppedInvalid + 1 }, none)
  | .ok (some feature) =>
      (st.set p ((st.collection p).assign (cfg.cap p) (key, ⟨now, feature⟩)), none)

/-- `handle`, with the exception it raises. -/
def handle (envelope : Envelope) (now : ℚ) (st : SnapshotStore) : SnapshotStore × Option PyError :=
  match envelope.kind with
  | .pli => st.upsert cfg .tracks envelope.sourceUid envelope now
  | .marker =>
      match detectionKey format envelope with
      | .error e => (st, some e)
      | .ok key => st.upsert cfg .detections key envelope now
  | .chat | .status => (st, none)

/-- `handle` fails, counts the envelope as invalid or ignores its kind. -/
def Rejects (envelope : Envelope) (now : ℚ) (st : SnapshotStore) : Prop :=
  (st.handle cfg format envelope now).2 ≠ none ∨
    st.droppedInvalid < (st.handle cfg format envelope now).1.droppedInvalid ∨
    envelope.kind ∈ [.chat, .status]

/-- A sweep of one of the dictionaries. -/
def sweep (p : Picture) (now : ℚ) (st : SnapshotStore) : SnapshotStore :=
  st.set p ((st.collection p).sweep (cfg.staleS p) now)

/-- `tracks_geojson` and `detections_geojson`. -/
def geojson (p : Picture) (now : ℚ) (st : SnapshotStore) : SnapshotStore × List Feature :=
  let st := st.sweep cfg p now
  (st, (st.collection p).features)

/-- `counters`, which reads the clock twice. -/
def counters (now now' : ℚ) (st : SnapshotStore) : SnapshotStore × CountersView :=
  let st := (st.sweep cfg .tracks now).sweep cfg .detections now'
  (st, ⟨fun p ↦ (st.collection p).evicted, fun p ↦ (st.collection p).expired, st.droppedInvalid,
    st.ignoredNonscalarKeys, fun p ↦ (st.collection p).entries.length⟩)

end SnapshotStore

/-! ## Runs -/

/-- A call of a method, and what the clock says. -/
inductive Event where
  | handle (envelope : Envelope) (now : ℚ)
  | geojson (p : Picture) (now : ℚ)
  | counters (now now' : ℚ)

namespace Event

def times : Event → List ℚ
  | handle _ now => [now]
  | geojson _ now => [now]
  | counters now now' => [now, now']

/-- The call is not a read. -/
def isHandle : Event → Bool
  | handle _ _ => true
  | _ => false

/-- The state behind a call. -/
def perform (st : SnapshotStore) : Event → SnapshotStore
  | handle envelope now => (st.handle cfg format envelope now).1
  | geojson p now => (st.geojson cfg p now).1
  | counters now now' => (st.counters cfg now now').1

end Event

/-- The state behind a list of calls. -/
def SnapshotStore.run (events : List Event) : SnapshotStore :=
  events.foldl (Event.perform cfg format) {}

/-- The key of an envelope in a dictionary, unless it goes elsewhere or has none. -/
def keyIn (p : Picture) (envelope : Envelope) : Option String :=
  match p, envelope.kind with
  | .tracks, .pli => some envelope.sourceUid
  | .detections, .marker => (detectionKey format envelope).toOption
  | _, _ => none

/-- The upsert of an envelope, if it is rendered. -/
def upsertOf (key : String) (envelope : Envelope) (now : ℚ) : Option Upsert :=
  match h : (renderFeature envelope).1 with
  | .ok (some feature) => some ⟨key, envelope, now, feature, h⟩
  | _ => none

/-- What a call assigns to a dictionary. -/
def Event.upsert (p : Picture) : Event → Option Upsert
  | .handle envelope now => (keyIn format p envelope).bind fun key ↦ upsertOf key envelope now
  | _ => none

/-- The successful upserts of a dictionary. -/
def history (p : Picture) (events : List Event) : List Upsert :=
  events.filterMap (Event.upsert format p)

/-- The newest `cap` keys of a history whose last upsert is at most the lifetime old. -/
def current (p : Picture) (now : ℚ) (upserts : List Upsert) : List Upsert :=
  ((latest Upsert.key upserts).rtake (cfg.cap p)).filter fun u ↦ now - u.seenAt ≤ cfg.staleS p

/-! ## One dictionary -/

/-- The upsert is behind the deadline of a sweep. -/
def Upsert.Stale (staleS now : ℚ) (u : Upsert) : Prop := u.seenAt < now - staleS

instance (staleS now : ℚ) : DecidablePred (Upsert.Stale staleS now) :=
  fun u ↦ inferInstanceAs (Decidable (u.seenAt < now - staleS))

namespace Collection

/-- The dictionary is what its upserts come to, whenever it was swept, and every
insertion is accounted for. -/
structure Follows (cap : ℕ) (staleS : ℚ) (upserts : List Upsert) (times : List ℚ)
    (c : Collection) : Prop where
  keeps : ∃ held : List Upsert, c.entries = held.map Upsert.entry ∧
    ∀ now, (∀ t ∈ times, t ≤ now) → Keeps Upsert.key cap (Upsert.Stale staleS now) upserts held
  ordered : upserts.Pairwise fun u v ↦ u.seenAt ≤ v.seenAt
  seen : ∀ u ∈ upserts, u.seenAt ∈ times
  conserved : c.inserted = c.entries.length + c.evicted + c.expired

variable {cap : ℕ} {staleS now : ℚ} {upserts : List Upsert} {times times' : List ℚ}
  {c : Collection}

theorem Follows.nil : Follows cap staleS [] [] {} where
  keeps := ⟨[], rfl, fun _ _ ↦ Keeps.nil⟩
  ordered := List.Pairwise.nil
  seen := by simp
  conserved := rfl

theorem Follows.later (h : c.Follows cap staleS upserts times) (hsub : times ⊆ times') :
    c.Follows cap staleS upserts times' where
  keeps := by
    obtain ⟨held, hentries, hkeeps⟩ := h.keeps
    exact ⟨held, hentries, fun now hnow ↦ hkeeps now fun t ht ↦ hnow t (hsub ht)⟩
  ordered := h.ordered
  seen u hu := hsub (h.seen u hu)
  conserved := h.conserved

/-- An upsert keys its entry as the history does. -/
theorem touch_map (held : List Upsert) (u : Upsert) :
    touch Prod.fst (held.map Upsert.entry) u.entry = (touch Upsert.key held u).map Upsert.entry := by
  simp only [touch, List.filter_map, List.map_append, List.map_singleton]
  rfl

theorem Follows.assign (h : c.Follows cap staleS upserts times) {u : Upsert}
    (hnow : ∀ t ∈ times, t ≤ u.seenAt) (hsub : times ⊆ times') (hmem : u.seenAt ∈ times') :
    (c.assign cap u.entry).Follows cap staleS (upserts ++ [u]) times' := by
  obtain ⟨held, hentries, hkeeps⟩ := h.keeps
  have hnodup := (hkeeps _ hnow).nodup
  constructor
  · refine ⟨(touch Upsert.key held u).rtake cap, ?_, fun now hlater ↦ ?_⟩
    · rw [Collection.assign, Recency.evict_eq, hentries, touch_map]
      simp [List.rtake]
    · exact (hkeeps now fun t ht ↦ hlater t (hsub ht)).touch u
  · rw [List.pairwise_append]
    refine ⟨h.ordered, List.pairwise_singleton _ _, fun v hv w hw ↦ ?_⟩
    rw [List.mem_singleton.mp hw]
    exact hnow _ (h.seen v hv)
  · intro v hv
    rcases List.mem_append.mp hv with hv | hv
    · exact hsub (h.seen v hv)
    · rwa [List.mem_singleton.mp hv]
  · have hlength := Recency.length_touch hnodup u
    have hconserved := h.conserved
    have hkeys : (held.map Upsert.entry).map Prod.fst = held.map Upsert.key := by
      rw [List.map_map]
      rfl
    rw [hentries, List.length_map] at hconserved
    rw [Collection.assign, Recency.evict_eq, hentries, touch_map, hkeys]
    simp only [List.rtake, List.length_drop, List.length_map, hlength]
    show c.inserted + (if u.key ∈ held.map Upsert.key then 0 else 1) = _
    omega

theorem filter_map_entry (staleS now : ℚ) (held : List Upsert) :
    (held.map Upsert.entry).filter (fun entry ↦ !decide (entry.2.seenAt < now - staleS)) =
      (held.filter fun u ↦ ¬ u.Stale staleS now).map Upsert.entry := by
  rw [List.filter_map]
  congr 2
  funext u
  exact (decide_not).symm

theorem Follows.sweep (h : c.Follows cap staleS upserts times) (hnow : ∀ t ∈ times, t ≤ now)
    (hsub : times ⊆ times') (hmem : now ∈ times') :
    (c.sweep staleS now).Follows cap staleS upserts times' := by
  obtain ⟨held, hentries, hkeeps⟩ := h.keeps
  have horder : upserts.Pairwise fun u v ↦ v.Stale staleS now → u.Stale staleS now :=
    h.ordered.imp fun huv hv ↦ lt_of_le_of_lt huv hv
  constructor
  · refine ⟨held.filter fun u ↦ ¬ u.Stale staleS now, ?_, fun now' hlater ↦ ?_⟩
    · rw [Collection.sweep, Recency.sweep, hentries, filter_map_entry]
    · refine ((hkeeps now hnow).sweep horder).mono fun u hu ↦ ?_
      exact lt_of_lt_of_le hu (sub_le_sub_right (hlater now hmem) staleS)
  · exact h.ordered
  · exact fun u hu ↦ hsub (h.seen u hu)
  · have hconserved := h.conserved
    have hlength := List.length_eq_length_filter_add (l := c.entries)
      fun entry ↦ decide (entry.2.seenAt < now - staleS)
    simp only [Collection.sweep, Recency.sweep]
    omega

/-- What a sweep leaves is what is current. -/
theorem Follows.features_sweep (h : c.Follows (cfg.cap p) (cfg.staleS p) upserts times)
    (hnow : ∀ t ∈ times, t ≤ now) :
    (c.sweep (cfg.staleS p) now).features =
      (current cfg p now upserts).map Upsert.feature := by
  obtain ⟨held, hentries, hkeeps⟩ := h.keeps
  have hcurrent : current cfg p now upserts =
      held.filter fun u ↦ ¬ u.Stale (cfg.staleS p) now := by
    rw [(hkeeps now hnow).filter_eq, current]
    apply List.filter_congr
    intro u _
    simp only [Upsert.Stale, not_lt, sub_le_comm]
  rw [hcurrent, Collection.features, Collection.sweep, Recency.sweep, hentries, filter_map_entry,
    List.map_map]
  rfl

end Collection

/-! ## Calls -/

variable {cfg format} {st : SnapshotStore} {envelope : Envelope} {now : ℚ} {p q : Picture}

@[simp] theorem SnapshotStore.collection_set (c : Collection) :
    (st.set p c).collection q = if q = p then c else st.collection q :=
  Function.update_apply ..

theorem upsertOf_of_rendered {feature : Feature}
    (h : (renderFeature envelope).1 = .ok (some feature)) (key : String) :
    upsertOf key envelope now = some ⟨key, envelope, now, feature, h⟩ := by
  rw [upsertOf]
  split
  · rename_i feature' h'
    have hfeature : feature' = feature := by simpa [h'] using h
    subst hfeature
    rfl
  · rename_i hnot
    exact absurd h (hnot feature)

theorem upsertOf_of_not_rendered (h : ∀ feature, (renderFeature envelope).1 ≠ .ok (some feature))
    (key : String) : upsertOf key envelope now = none := by
  rw [upsertOf]
  split
  · rename_i feature h'
    exact absurd h' (h feature)
  · rfl

/-- The time of an upsert is the time of its call. -/
theorem seenAt_of_upsertOf {key : String} {u : Upsert} (h : upsertOf key envelope now = some u) :
    u.seenAt = now := by
  rw [upsertOf] at h
  split at h
  · cases h
    rfl
  · cases h

/-- An envelope that `_upsert` rejects or fails on is not assigned. -/
theorem SnapshotStore.upsert_rejects {key : String}
    (h : (st.upsert cfg p key envelope now).2 ≠ none ∨
      st.droppedInvalid < (st.upsert cfg p key envelope now).1.droppedInvalid) :
    upsertOf key envelope now = none := by
  apply upsertOf_of_not_rendered
  intro feature hfeature
  simp [upsert, hfeature, set] at h

theorem SnapshotStore.upsert_collection (key : String) :
    (st.upsert cfg p key envelope now).1.collection q =
      if q = p then (upsertOf key envelope now).elim (st.collection q)
        fun u ↦ (st.collection q).assign (cfg.cap q) u.entry
      else st.collection q := by
  cases hrender : (renderFeature envelope).1 with
  | error e =>
      rw [upsertOf_of_not_rendered (by simp [hrender])]
      simp [upsert, hrender]
  | ok rendered =>
      cases rendered with
      | none =>
          rw [upsertOf_of_not_rendered (by simp [hrender])]
          simp [upsert, hrender]
      | some feature =>
          rw [upsertOf_of_rendered hrender]
          simp only [upsert, hrender, collection_set, Option.elim_some]
          by_cases hq : q = p
          · subst hq
            simp [Upsert.entry]
          · simp [hq]

/-- An envelope goes to the dictionary that has a key for it. -/
theorem SnapshotStore.handle_collection (p : Picture) :
    (st.handle cfg format envelope now).1.collection p =
      ((Event.handle envelope now).upsert format p).elim (st.collection p)
        fun u ↦ (st.collection p).assign (cfg.cap p) u.entry := by
  cases hkind : envelope.kind with
  | pli => cases p <;> simp [handle, hkind, Event.upsert, keyIn, upsert_collection]
  | marker =>
      cases hkey : detectionKey format envelope with
      | error e => cases p <;> simp [handle, hkind, Event.upsert, keyIn, hkey, Except.toOption]
      | ok key =>
          cases p <;>
            simp [handle, hkind, Event.upsert, keyIn, hkey, Except.toOption, upsert_collection]
  | chat | status => simp [handle, hkind, Event.upsert, keyIn]

/-- An envelope that `handle` rejects or fails on goes to neither dictionary. -/
theorem SnapshotStore.handle_rejects (h : st.Rejects cfg format envelope now) (p : Picture) :
    (Event.handle envelope now).upsert format p = none := by
  cases hkind : envelope.kind with
  | pli =>
      simp only [Rejects, handle, hkind, List.mem_cons, reduceCtorEq, List.not_mem_nil, or_false] at h
      cases p with
      | tracks => simpa [Event.upsert, keyIn, hkind] using upsert_rejects h
      | detections => simp [Event.upsert, keyIn, hkind]
  | marker =>
      cases p with
      | tracks => simp [Event.upsert, keyIn, hkind]
      | detections =>
          cases hkey : detectionKey format envelope with
          | error e => simp [Event.upsert, keyIn, hkind, hkey, Except.toOption]
          | ok key =>
              simp only [Rejects, handle, hkind, hkey, List.mem_cons, reduceCtorEq, List.not_mem_nil,
                or_false] at h
              simpa [Event.upsert, keyIn, hkind, hkey, Except.toOption] using upsert_rejects h
  | chat | status => simp [Event.upsert, keyIn, hkind]

/-- What a call does to a dictionary: it assigns its upsert, or sweeps, or nothing. -/
theorem Event.perform_cases (e : Event) (st : SnapshotStore) (p : Picture) :
    (∃ u, e.upsert format p = some u ∧ u.seenAt ∈ e.times ∧
        (e.perform cfg format st).collection p = (st.collection p).assign (cfg.cap p) u.entry) ∨
      e.upsert format p = none ∧
        ((e.perform cfg format st).collection p = st.collection p ∨
          ∃ t ∈ e.times,
            (e.perform cfg format st).collection p = (st.collection p).sweep (cfg.staleS p) t) := by
  cases e with
  | handle envelope now =>
      cases hu : (Event.handle envelope now).upsert format p with
      | none =>
          refine .inr ⟨rfl, .inl ?_⟩
          rw [perform, SnapshotStore.handle_collection, hu, Option.elim_none]
      | some u =>
          refine .inl ⟨u, rfl, ?_, ?_⟩
          · obtain ⟨key, -, hkey⟩ := Option.bind_eq_some_iff.mp hu
            rw [seenAt_of_upsertOf hkey]
            exact List.mem_singleton_self now
          · rw [perform, SnapshotStore.handle_collection, hu, Option.elim_some]
  | geojson q now =>
      refine .inr ⟨rfl, ?_⟩
      by_cases hq : p = q
      · subst hq
        exact .inr ⟨now, List.mem_singleton_self now, by
          simp [perform, SnapshotStore.geojson, SnapshotStore.sweep]⟩
      · exact .inl (by simp [perform, SnapshotStore.geojson, SnapshotStore.sweep, hq])
  | counters now now' =>
      refine .inr ⟨rfl, .inr ?_⟩
      cases p with
      | tracks =>
          exact ⟨now, List.mem_cons_self, by
            simp [perform, SnapshotStore.counters, SnapshotStore.sweep]⟩
      | detections =>
          exact ⟨now', List.mem_cons_of_mem _ List.mem_cons_self, by
            simp [perform, SnapshotStore.counters, SnapshotStore.sweep]⟩

/-! ## Runs -/

/-- In every run on a monotone clock, the dictionaries follow their histories. -/
theorem SnapshotStore.run_follows (events : List Event)
    (hclock : (events.flatMap Event.times).Pairwise (· ≤ ·)) (p : Picture) :
    ((run cfg format events).collection p).Follows (cfg.cap p) (cfg.staleS p)
      (history format p events) (events.flatMap Event.times) := by
  induction events using List.reverseRecOn with
  | nil => exact Collection.Follows.nil
  | append_singleton events e ih =>
      rw [List.flatMap_append, List.flatMap_singleton] at hclock ⊢
      obtain ⟨hbefore, -, hlater⟩ := List.pairwise_append.mp hclock
      have hrun : run cfg format (events ++ [e]) = e.perform cfg format (run cfg format events) := by
        rw [run, List.foldl_concat]
        rfl
      have hsub : events.flatMap Event.times ⊆ events.flatMap Event.times ++ e.times :=
        List.subset_append_left _ _
      rw [hrun, history, List.filterMap_append]
      rcases e.perform_cases (run cfg format events) p with
        ⟨u, hu, hseen, hassign⟩ | ⟨hnone, hsame | ⟨t, ht, hsweep⟩⟩
      · rw [hassign, List.filterMap_cons_some hu, List.filterMap_nil]
        exact (ih hbefore).assign (fun t ht ↦ hlater t ht _ hseen) hsub
          (List.mem_append_right _ hseen)
      · rw [hsame, List.filterMap_cons_none hnone, List.filterMap_nil, List.append_nil]
        exact (ih hbefore).later hsub
      · rw [hsweep, List.filterMap_cons_none hnone, List.filterMap_nil, List.append_nil]
        exact (ih hbefore).sweep (fun t' ht' ↦ hlater t' ht' _ ht) hsub (List.mem_append_right _ ht)

/-- A read at a time behind all calls shows the current upserts. -/
theorem SnapshotStore.geojson_run {events : List Event}
    (hclock : (events.flatMap Event.times).Pairwise (· ≤ ·)) (p : Picture)
    (hnow : ∀ t ∈ events.flatMap Event.times, t ≤ now) :
    ((run cfg format events).geojson cfg p now).2 =
      (current cfg p now (history format p events)).map Upsert.feature := by
  rw [← (run_follows events hclock p).features_sweep cfg hnow]
  simp [geojson, sweep]

/-- Reads leave no trace in a history. -/
theorem history_filter (p : Picture) (events : List Event) :
    history format p (events.filter Event.isHandle) = history format p events := by
  rw [history, List.filterMap_filter]
  apply List.filterMap_congr
  intro e _
  cases e <;> rfl

/-- A dictionary behind a list of calls is an LRU with a TTL. -/
structure IsLru (cfg : SnapshotSettings) (format : Value → Except PyError String)
    (events : List Event) (p : Picture) : Prop where
  /-- There are at most `cap` entries. -/
  bounded : ((SnapshotStore.run cfg format events).collection p).entries.length ≤ cfg.cap p
  /-- A read renders the last envelope of each current key, in order. -/
  shown : ∀ now, (∀ t ∈ events.flatMap Event.times, t ≤ now) →
    ((SnapshotStore.run cfg format events).geojson cfg p now).2.map (fun f ↦ .ok (some f)) =
      (current cfg p now (history format p events)).map fun u ↦ (renderFeature u.envelope).1
  /-- It does not matter what was read before, or when. -/
  unread : ∀ events', events'.filter Event.isHandle = events.filter Event.isHandle →
    (events'.flatMap Event.times).Pairwise (· ≤ ·) →
    ∀ now, (∀ t ∈ events.flatMap Event.times ++ events'.flatMap Event.times, t ≤ now) →
      ((SnapshotStore.run cfg format events').geojson cfg p now).2 =
        ((SnapshotStore.run cfg format events).geojson cfg p now).2
  /-- An envelope that is rejected is not there. -/
  rejected : ∀ envelope now,
    (SnapshotStore.run cfg format events).Rejects cfg format envelope now →
    ((SnapshotStore.run cfg format events).handle cfg format envelope now).1.collection p =
      (SnapshotStore.run cfg format events).collection p
  /-- Every insertion of a new key is held, evicted or expired. -/
  conserved : ((SnapshotStore.run cfg format events).collection p).inserted =
    ((SnapshotStore.run cfg format events).collection p).entries.length +
      ((SnapshotStore.run cfg format events).collection p).evicted +
      ((SnapshotStore.run cfg format events).collection p).expired

/-- **The snapshot is an LRU with a TTL**, in every run on a monotone clock. -/
theorem snapshot_is_lru_with_ttl (cfg : SnapshotSettings) (format : Value → Except PyError String)
    (events : List Event) (hclock : (events.flatMap Event.times).Pairwise (· ≤ ·)) (p : Picture) :
    IsLru cfg format events p := by
  have hfollows : ((SnapshotStore.run cfg format events).collection p).Follows (cfg.cap p)
      (cfg.staleS p) (history format p events) (events.flatMap Event.times) :=
    SnapshotStore.run_follows events hclock p
  constructor
  · obtain ⟨held, hentries, hkeeps⟩ := hfollows.keeps
    obtain ⟨now, hnow⟩ := (events.flatMap Event.times).toFinset.exists_le
    rw [hentries, List.length_map]
    exact (hkeeps now fun t ht ↦ hnow t (List.mem_toFinset.mpr ht)).length_le
  · intro now hnow
    rw [SnapshotStore.geojson_run hclock p hnow, List.map_map]
    exact List.map_congr_left fun u _ ↦ u.rendered.symm
  · intro events' hsame hclock' now hnow
    obtain ⟨hevents, hevents'⟩ := List.forall_mem_append.mp hnow
    rw [SnapshotStore.geojson_run hclock p hevents, SnapshotStore.geojson_run hclock' p hevents',
      ← history_filter p events', hsame, history_filter]
  · intro envelope now hrejects
    rw [SnapshotStore.handle_collection, SnapshotStore.handle_rejects hrejects, Option.elim_none]
  · exact hfollows.conserved

/-- With room for one track, the second of two evicts the first, and a read in
between does not matter. -/
theorem snapshot_of_two_tracks :
    IsLru ⟨fun _ ↦ 1, fun _ ↦ 10, fun _ ↦ Nat.one_pos, fun _ ↦ by decide⟩ (fun _ ↦ .ok "7")
      [.handle ⟨1, "m1", .fin 0, "a", .pli,
          [("position", .dict [("lat", .float (.fin 1)), ("lon", .int 2)])]⟩ 0,
        .geojson .tracks 3,
        .handle ⟨1, "m2", .fin 4, "b", .pli,
          [("position", .dict [("lat", .float (.fin 1)), ("lon", .int 3)])]⟩ 4] .tracks :=
  snapshot_is_lru_with_ttl _ _ _ (by norm_num [Event.times]) _

end DroneComms.Ui
