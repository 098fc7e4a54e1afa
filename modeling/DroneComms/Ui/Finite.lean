import DroneComms.Mesh.Decoding
import DroneComms.Mesh.JsonCodec
import DroneComms.Py.XmlRoundTrip
import DroneComms.Ui.Snapshot

/-!
# Numbers of the console

What the console serves is JSON for a browser, which reads no `NaN` and no infinity.
Coordinates are checked and scalars are filtered, but a timestamp is not.
-/

namespace DroneComms

/-! ## Finite numbers -/

namespace Py.Value

mutual

/-- Every number in a value is finite. -/
def AllFinite : Value → Prop
  | .float x => x.isFinite = true
  | .list xs => AllFiniteItems xs
  | .dict kvs => AllFiniteMembers kvs
  | _ => True

def AllFiniteItems : List Value → Prop
  | [] => True
  | x :: xs => AllFinite x ∧ AllFiniteItems xs

def AllFiniteMembers : List (String × Value) → Prop
  | [] => True
  | (_, x) :: kvs => AllFinite x ∧ AllFiniteMembers kvs

end

theorem allFiniteItems_iff (xs : List Value) : AllFiniteItems xs ↔ ∀ x ∈ xs, x.AllFinite := by
  induction xs with
  | nil => simp [AllFiniteItems]
  | cons x xs ih => simp [AllFiniteItems, ih]

theorem allFiniteMembers_append (kvs kvs' : List (String × Value)) :
    AllFiniteMembers (kvs ++ kvs') ↔ AllFiniteMembers kvs ∧ AllFiniteMembers kvs' := by
  induction kvs with
  | nil => simp [AllFiniteMembers]
  | cons kv kvs ih => simp [AllFiniteMembers, ih, and_assoc]

end Py.Value

namespace Ui

open Mesh (Envelope MessageKind Pydantic EnvelopeJson jsonCodec)
open Mesh.Decoding (Format codecOf)
open Py (PyError PyFloat Value Interpreter ElementTree JsonReader Bytes Dict)
open Py.Value (AllFinite AllFiniteItems AllFiniteMembers allFiniteItems_iff allFiniteMembers_append)

/-! ## GeoJSON -/

def Feature.json (f : Feature) : Value :=
  .dict [("type", .str "Feature"),
    ("geometry", .dict [("type", .str "Point"),
      ("coordinates", .list [.float f.coordinates.1, .float f.coordinates.2])]),
    ("properties", .dict f.properties)]

/-- The `FeatureCollection` of `_collection`. -/
def collectionJson (features : List Feature) : Value :=
  .dict [("type", .str "FeatureCollection"), ("features", .list (features.map Feature.json))]

theorem allFinite_collectionJson (features : List Feature) :
    (collectionJson features).AllFinite ↔ ∀ f ∈ features, f.json.AllFinite := by
  simp [collectionJson, AllFinite, AllFiniteMembers, allFiniteItems_iff]

theorem Feature.allFinite_json (f : Feature) : f.json.AllFinite ↔
    (f.coordinates.1.isFinite = true ∧ f.coordinates.2.isFinite = true) ∧
      AllFiniteMembers f.properties := by
  simp [Feature.json, AllFinite, AllFiniteMembers, AllFiniteItems]

/-! ## One feature -/

theorem allFinite_of_isScalar {v : Value} (h : isScalar v = true) : v.AllFinite := by
  cases v with
  | float x => exact h
  | list xs => cases h
  | dict kvs => cases h
  | _ => trivial

/-- Properties with scalars behind them. -/
def Extends (base props : List (String × Value)) : Prop :=
  ∃ more, props = base ++ more ∧ ∀ kv ∈ more, isScalar kv.2 = true

variable {base props : List (String × Value)}

theorem Extends.refl (base : List (String × Value)) : Extends base base :=
  ⟨[], (List.append_nil base).symm, List.forall_mem_nil _⟩

theorem Extends.concat (h : Extends base props) {key : String} {v : Value}
    (hv : isScalar v = true) : Extends base (props ++ [(key, v)]) := by
  obtain ⟨more, rfl, hmore⟩ := h
  refine ⟨more ++ [(key, v)], List.append_assoc .., ?_⟩
  intro kv hkv
  rcases List.mem_append.mp hkv with hkv | hkv
  · exact hmore kv hkv
  · rw [List.mem_singleton.mp hkv]
    exact hv

theorem Extends.mergeScalars (block : List (String × Value)) (skip : List String) (label : String)
    {acc : List (String × Value) × ℕ} (h : Extends base acc.1) :
    Extends base (mergeScalars block skip label acc).1 := by
  induction block generalizing acc with
  | nil => exact h
  | cons kv block ih =>
      apply ih
      dsimp only
      split_ifs with hskip hscalar
      · exact h
      · show Extends base (setdefault acc.1 _ _)
        rw [setdefault]
        split_ifs
        · exact h
        · exact h.concat hscalar
      · exact h

theorem Extends.allFinite (h : Extends base props) :
    AllFiniteMembers props ↔ AllFiniteMembers base := by
  obtain ⟨more, rfl, hmore⟩ := h
  rw [allFiniteMembers_append, and_iff_left_iff_imp]
  intro _
  induction more with
  | nil => trivial
  | cons kv more ih =>
      obtain ⟨hkv, hrest⟩ := List.forall_mem_cons.mp hmore
      exact ⟨allFinite_of_isScalar hkv, ih hrest⟩

theorem extends_properties (e : Envelope) (position : List (String × Value)) :
    Extends [("uid", .str e.sourceUid), ("ts", .float e.ts), ("kind", .str e.kind.value)]
      (properties e position).1 := by
  unfold properties
  extract_lets payload base named acc acc' acc''
  have hnamed : Extends base named := by
    simp only [named]
    split
    · split_ifs with hscalar
      · exact (Extends.refl base).concat hscalar
      · exact .refl base
    · exact .refl base
  have hposition : Extends base acc.1 := hnamed.mergeScalars position geometryKeys ""
  have hdetection : Extends base acc'.1 := by
    simp only [acc']
    split
    · exact hposition.mergeScalars _ _ _
    · exact hposition
  have htelemetry : Extends base acc''.1 := by
    simp only [acc'']
    split
    · exact hdetection.mergeScalars _ _ _
    · exact hdetection
  exact htelemetry.mergeScalars _ _ _

theorem finite_of_coordinates {position : List (String × Value)} {point : PyFloat × PyFloat}
    (h : coordinates position = .ok (some point)) :
    point.1.isFinite = true ∧ point.2.isFinite = true := by
  unfold coordinates at h
  split at h
  · obtain ⟨lat, -, h⟩ := Py.bind_eq_ok.mp h
    split_ifs at h with hlat
    · obtain ⟨lon, -, h⟩ := Py.bind_eq_ok.mp h
      split_ifs at h with hlon
      · cases h
        exact ⟨hlon, hlat⟩
      · cases h
    · cases h
  · cases h

theorem renderFeature_eq_some {e : Envelope} {f : Feature} :
    (renderFeature e).1 = .ok (some f) ↔ ∃ position point,
      e.payload.lookup "position" = some (.dict position) ∧
        coordinates position = .ok (some point) ∧ f = ⟨point, (properties e position).1⟩ := by
  unfold renderFeature
  constructor
  · intro h
    split at h
    · rename_i position hposition
      split at h
      · cases h
      · cases h
      · rename_i point hpoint
        cases h
        exact ⟨position, point, hposition, hpoint, rfl⟩
    · cases h
  · rintro ⟨position, point, hposition, hpoint, rfl⟩
    simp only [hposition, hpoint]

/-- The numbers of a feature are finite if the timestamp is. -/
theorem allFinite_rendered {e : Envelope} {f : Feature}
    (h : (renderFeature e).1 = .ok (some f)) : f.json.AllFinite ↔ e.ts.isFinite = true := by
  obtain ⟨position, point, -, hpoint, rfl⟩ := renderFeature_eq_some.mp h
  rw [Feature.allFinite_json, and_iff_right (finite_of_coordinates hpoint),
    (extends_properties e position).allFinite]
  simp [AllFiniteMembers, AllFinite]

/-! ## Runs -/

variable (cfg : SnapshotSettings) (format : Value → Except PyError String)

/-- Whoever looks, and whenever, sees finite numbers only. -/
def AlwaysFinite (events : List Event) : Prop :=
  ∀ before, before <+: events → ∀ p now,
    (collectionJson ((SnapshotStore.run cfg format before).geojson cfg p now).2).AllFinite

/-- An envelope is a track or a marker with a usable key and a usable position. -/
structure Mapped (e : Envelope) : Prop where
  key : e.kind = .pli ∨ e.kind = .marker ∧ ∃ key, detectionKey format e = .ok key
  position : ∃ position point, e.payload.lookup "position" = some (.dict position) ∧
    coordinates position = .ok (some point)

/-- An envelope that gets on the map has a finite timestamp. -/
def Event.Timely : Event → Prop
  | .handle e _ => Mapped format e → e.ts.isFinite = true
  | _ => True

variable {cfg format}

/-- What is assigned to a dictionary is mapped. -/
theorem Event.upsert_eq_some {p : Picture} {e : Event} {u : Upsert}
    (h : e.upsert format p = some u) :
    ∃ now, e = .handle u.envelope now ∧ Mapped format u.envelope := by
  cases e with
  | handle envelope now =>
      obtain ⟨key, hkey, hu⟩ := Option.bind_eq_some_iff.mp h
      have henvelope : u.envelope = envelope := by
        rw [upsertOf] at hu
        split at hu
        · cases hu
          rfl
        · cases hu
      refine ⟨now, by rw [henvelope], ?_, ?_⟩
      · rw [henvelope]
        cases hkind : envelope.kind with
        | pli => exact .inl rfl
        | marker =>
            refine .inr ⟨rfl, ?_⟩
            cases p with
            | tracks => simp [keyIn, hkind] at hkey
            | detections =>
                cases hformat : detectionKey format envelope with
                | ok key => exact ⟨key, rfl⟩
                | error x => simp [keyIn, hkind, hformat, Except.toOption] at hkey
        | chat | status => cases p <;> simp [keyIn, hkind] at hkey
      · obtain ⟨position, point, hposition, hpoint, -⟩ := renderFeature_eq_some.mp u.rendered
        exact ⟨position, point, hposition, hpoint⟩
  | geojson _ _ => cases h
  | counters _ _ => cases h

/-- What is mapped is assigned to a dictionary. -/
theorem exists_upsert {e : Envelope} (h : Mapped format e) (now : ℚ) :
    ∃ p u, (Event.handle e now).upsert format p = some u ∧ u.envelope = e ∧ u.seenAt = now := by
  obtain ⟨hkey, position, point, hposition, hpoint⟩ := h
  have hrendered := renderFeature_eq_some.mpr ⟨position, point, hposition, hpoint, rfl⟩
  have hexists : ∃ p key, keyIn format p e = some key := by
    rcases hkey with hkind | ⟨hkind, key, hkey⟩
    · exact ⟨.tracks, e.sourceUid, by simp only [keyIn, hkind]⟩
    · exact ⟨.detections, key, by simp only [keyIn, hkind, hkey, Except.toOption]⟩
  obtain ⟨p, key, hkeyIn⟩ := hexists
  refine ⟨p, ⟨key, e, now, _, hrendered⟩, ?_, rfl, rfl⟩
  rw [Event.upsert, hkeyIn, Option.bind_some, upsertOf_of_rendered hrendered]

namespace Collection

variable {cap : ℕ} {c : Collection} {x y : String × Entry} {staleS now : ℚ}

theorem mem_assign (h : y ∈ (c.assign cap x).entries) : y ∈ c.entries ∨ y = x := by
  rw [assign, Recency.evict_eq] at h
  have hmem := (Recency.rtake_suffix _ _).subset h
  rw [Recency.touch, List.mem_append, List.mem_singleton] at hmem
  exact hmem.imp_left fun hy ↦ (List.mem_filter.mp hy).1

theorem mem_assign_self (hcap : 0 < cap) : x ∈ (c.assign cap x).entries := by
  have hlast : [x].rtake cap = [x] := Recency.rtake_of_length_le hcap
  rw [assign, Recency.evict_eq, Recency.touch, Recency.rtake_append, hlast]
  exact List.mem_append_right _ (List.mem_singleton_self x)

theorem mem_sweep : y ∈ (c.sweep staleS now).entries ↔
    y ∈ c.entries ∧ now - staleS ≤ y.2.seenAt := by
  simp [sweep, Recency.sweep]

end Collection

/-- The features of both dictionaries have finite numbers only. -/
def SnapshotStore.Finite (st : SnapshotStore) : Prop :=
  ∀ p, ∀ x ∈ (st.collection p).entries, x.2.feature.json.AllFinite

theorem SnapshotStore.Finite.perform {st : SnapshotStore} (h : st.Finite) {e : Event}
    (htimely : e.Timely format) : (e.perform cfg format st).Finite := by
  intro p x hx
  rcases e.perform_cases st p with ⟨u, hu, -, hassign⟩ | ⟨-, hsame | ⟨t, -, hsweep⟩⟩
  · rw [hassign] at hx
    rcases Collection.mem_assign hx with hx | rfl
    · exact h p x hx
    · obtain ⟨now, rfl, hmapped⟩ := Event.upsert_eq_some hu
      exact (allFinite_rendered u.rendered).mpr (htimely hmapped)
  · rw [hsame] at hx
    exact h p x hx
  · rw [hsweep] at hx
    exact h p x (Collection.mem_sweep.mp hx).1

theorem SnapshotStore.finite_run {events : List Event} (h : ∀ e ∈ events, e.Timely format) :
    (run cfg format events).Finite := by
  induction events using List.reverseRecOn with
  | nil => exact fun p x hx ↦ absurd hx List.not_mem_nil
  | append_singleton events e ih =>
      obtain ⟨hevents, he⟩ := List.forall_mem_append.mp h
      rw [run, List.foldl_concat]
      exact (ih hevents).perform (he e (List.mem_singleton_self e))

/-- Behind an upsert its feature is shown. -/
theorem SnapshotStore.mem_geojson {st : SnapshotStore} {p : Picture} {e : Event} {u : Upsert}
    (hu : e.upsert format p = some u) :
    u.feature ∈ ((e.perform cfg format st).geojson cfg p u.seenAt).2 := by
  rcases e.perform_cases st p with ⟨u', hu', -, hassign⟩ | ⟨hnone, -⟩
  · cases hu.symm.trans hu'
    rw [geojson, sweep, collection_set, if_pos rfl, hassign, Collection.features, List.mem_map]
    refine ⟨u.entry, Collection.mem_sweep.mpr ⟨Collection.mem_assign_self (cfg.cap_pos p), ?_⟩, rfl⟩
    exact sub_le_self _ (cfg.staleS_pos p).le
  · cases hu.symm.trans hnone

theorem finite_of_timely {events : List Event} (h : ∀ e ∈ events, e.Timely format) :
    AlwaysFinite cfg format events := by
  intro before hbefore p now
  have hfinite : (SnapshotStore.run cfg format before).Finite :=
    SnapshotStore.finite_run fun e he ↦ h e (hbefore.subset he)
  rw [allFinite_collectionJson]
  intro f hf
  rw [SnapshotStore.geojson, SnapshotStore.sweep, SnapshotStore.collection_set, if_pos rfl,
    Collection.features] at hf
  obtain ⟨x, hx, rfl⟩ := List.mem_map.mp hf
  exact hfinite p x (Collection.mem_sweep.mp hx).1

theorem timely_of_finite {events : List Event} (h : AlwaysFinite cfg format events) {e : Event}
    (he : e ∈ events) : e.Timely format := by
  cases e with
  | geojson _ _ => trivial
  | counters _ _ => trivial
  | handle envelope now =>
      intro hmapped
      obtain ⟨before, after, rfl⟩ := List.append_of_mem he
      obtain ⟨p, u, hu, rfl, rfl⟩ := exists_upsert hmapped now
      have hshown := h (before ++ [.handle u.envelope u.seenAt]) ⟨after, by simp⟩ p u.seenAt
      rw [SnapshotStore.run, List.foldl_concat, allFinite_collectionJson] at hshown
      exact (allFinite_rendered u.rendered).mp (hshown _ (SnapshotStore.mem_geojson hu))

/-- **The console serves finite numbers** exactly if every envelope on its map has a finite
timestamp. -/
theorem always_finite_iff (cfg : SnapshotSettings) (format : Value → Except PyError String)
    (events : List Event) : AlwaysFinite cfg format events ↔ ∀ e ∈ events, e.Timely format :=
  ⟨fun h _ he ↦ timely_of_finite h he, finite_of_timely⟩

/-! ## From the decoders -/

section Decoders

variable (py : Interpreter) (et : ElementTree) (json : JsonReader py) (pyd : Pydantic)
  (ej : EnvelopeJson)

/-- An envelope comes from a codec of the node. -/
def Produced (e : Envelope) : Prop :=
  (∃ format b, (codecOf py et json pyd format).decode b = .ok e) ∨
    ∃ b, (jsonCodec ej [Mesh.schemaVersion]).decode b = .ok e

/-- The time of a compact frame is an integer. -/
theorem compact_timely (format : Value → Except PyError String) {b : Bytes} {e : Envelope}
    (h : (codecOf py et json pyd .compact).decode b = .ok e) (now : ℚ) :
    (Event.handle e now).Timely format := by
  rcases Mesh.Compact.decode_cases h with h | h | ⟨schema, bs, f, -, -, -, h⟩
  · cases h
  · cases h
  · rw [Mesh.Compact.Fields.envelope] at h
    split at h
    · cases h
      exact fun _ ↦ rfl
    · cases h

/-- A telemetry frame whose time is no number. -/
def timeless : Dict :=
  [("src", .str "a"), ("msg_id", .str "m"), ("ts", .float .nan), ("lat", .float (.fin 1)),
    ("lon", .float (.fin 2))]

theorem timeless_decoded : ∃ position, ∃ e, (Mesh.TelemetryFrame.decode JsonReader.plain
    Pydantic.plain (Py.dumpsBytes Interpreter.plain (.dict timeless)) = .ok e ∧ e.kind = .pli ∧
      e.ts = .nan ∧ e.payload.lookup "position" = some (.dict position) ∧
        coordinates position = .ok (some (.fin 2, .fin 1))) := by
  have hload : Mesh.Frames.loadFrame JsonReader.plain Mesh.TelemetryFrame.required
      (Py.dumpsBytes Interpreter.plain (.dict timeless)) = .ok timeless := by
    refine Mesh.Decoding.loadFrame_eq_ok.mpr ⟨JsonReader.plain.loadsBytes_dumps _ ?_, ?_⟩
    · decide +kernel
    · unfold Mesh.Decoding.HasKeys
      decide +kernel
  rw [Mesh.TelemetryFrame.decode, hload]
  exact ⟨_, _, rfl, rfl, rfl, rfl, rfl⟩

/-- One frame of telemetry without a time brings `NaN` into the tracks. -/
theorem nan_on_map : ¬∀ (cfg : SnapshotSettings) (format : Value → Except PyError String)
    (events : List Event), (∀ envelope now, .handle envelope now ∈ events →
      Produced Interpreter.plain ElementTree.plain JsonReader.plain Pydantic.plain
        EnvelopeJson.plain envelope) → AlwaysFinite cfg format events := by
  intro h
  obtain ⟨position, e, hdecode, hkind, hts, hposition, hpoint⟩ := timeless_decoded
  have hfinite := h ⟨fun _ ↦ 1, fun _ ↦ 10, fun _ ↦ Nat.one_pos, fun _ ↦ by decide⟩
    (fun _ ↦ .ok "1") [.handle e 0] fun envelope now hmem ↦ by
      cases List.mem_singleton.mp hmem
      exact .inl ⟨.telemetry, _, hdecode⟩
  have htimely := timely_of_finite hfinite (List.mem_singleton_self _)
    ⟨.inl hkind, position, _, hposition, hpoint⟩
  rw [hts] at htimely
  cases htimely

end Decoders

end Ui

end DroneComms
