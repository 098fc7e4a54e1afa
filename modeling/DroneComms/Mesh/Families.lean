import DroneComms.Mesh.CotLink
import DroneComms.Mesh.Media

/-!
# What two links make of a message

The envelopes that come of a message on a `JsonCodec` link and a `CotCodec` link, in
any order and any number of times.  The JSON link keeps the header.  The CoT link makes
the uid of the event the source, and uid and time the id, so the ids are finitely many
if the uids are.  They are for a PLI, whose uid is its source, and for a marker whose
uid does not take up its tracker id a second time: the detection has no tracker id, or
no confidence and is therefore not sent.  The time drifts to the eighth of a second.
-/

namespace DroneComms.Mesh

open Py (PyFloat Value Dict Element Interpreter ElementTree Bytes)
open Py.Json (WellKeyed WellKeyedMembers)

/-! ## Detections on a JSON link -/

/-- The detection of a marker says nothing of a tracker. -/
def Untracked (payload : Dict) : Prop :=
  ∀ det, Dict.getOr payload "detection" (.dict []) = .dict det → Dict.get? det "track_id" = none

/-- The detection of a marker lacks its tracker id or its confidence. -/
def Faint (payload : Dict) : Prop :=
  ∀ det, Dict.getOr payload "detection" (.dict []) = .dict det →
    Dict.get? det "track_id" = none ∨ Dict.get? det "confidence" = none

theorem Untracked.faint {payload : Dict} (h : Untracked payload) : Faint payload :=
  fun det hdet ↦ .inl (h det hdet)

/-- What is missing is missing behind the link. -/
theorem get?_nulledMembers {d : Dict} {key : String} (h : Dict.get? d key = none) :
    Dict.get? (nulledMembers d) key = none := by
  unfold Dict.get? at h ⊢
  rw [lookup_nulledMembers]
  cases hlookup : d.lookup key with
  | none => rfl
  | some v =>
      rw [hlookup] at h
      cases v with
      | none => rfl
      | bool b => cases h
      | int n => cases h
      | float x => cases h
      | str s => cases h
      | list xs => cases h
      | dict kvs => cases h

/-- A dictionary behind the link is empty or was one before. -/
theorem getOr_nulledMembers {payload det : Dict} {key : String}
    (h : Dict.getOr (nulledMembers payload) key (.dict []) = .dict det) :
    det = [] ∨ ∃ d, Dict.getOr payload key (.dict []) = .dict d ∧ det = nulledMembers d := by
  unfold Dict.getOr at h ⊢
  rw [lookup_nulledMembers] at h
  cases hlookup : payload.lookup key with
  | none =>
      rw [hlookup] at h
      cases h
      exact .inl rfl
  | some v =>
      rw [hlookup, Option.map_some] at h
      dsimp only at h ⊢
      split_ifs at h
      · cases v with
        | dict kvs =>
            cases h
            cases kvs with
            | nil => exact .inl rfl
            | cons kv kvs => exact .inr ⟨kv :: kvs, rfl, rfl⟩
        | float x =>
            rw [nulled] at h
            split_ifs at h
        | none => cases h
        | bool b => cases h
        | int n => cases h
        | str s => cases h
        | list xs => cases h
      · cases h
        exact .inl rfl

theorem Untracked.nulled {payload : Dict} (h : Untracked payload) :
    Untracked (nulledMembers payload) := by
  intro det hdet
  rcases getOr_nulledMembers hdet with rfl | ⟨d, hd, rfl⟩
  · rfl
  · exact get?_nulledMembers (h d hd)

theorem Faint.nulled {payload : Dict} (h : Faint payload) : Faint (nulledMembers payload) := by
  intro det hdet
  rcases getOr_nulledMembers hdet with rfl | ⟨d, hd, rfl⟩
  · exact .inl rfl
  · exact (h d hd).imp get?_nulledMembers get?_nulledMembers

/-! ## Detections on a CoT link -/

namespace Cot

variable {py : Interpreter} {et : ElementTree} {naming : CotNaming} {env e' : Envelope}

/-- The detection of a marker detail. -/
theorem find_detectionElement (hstd : naming.Standard) (callsign remarks : String)
    (attrib : List (String × String)) :
    (node "detail" [] ([node "contact" [("callsign", callsign)]] ++
      nodeOfAttrs naming.detectionElement attrib ++ [.mk "remarks" [] remarks []])).find
        naming.detectionElement = (nodeOfAttrs naming.detectionElement attrib).head? := by
  have hcontact : (node "contact" [("callsign", callsign)]).tag ≠ naming.detectionElement := by
    rw [hstd.detection]
    exact (by decide +kernel : "contact" ≠ "_meshsa_det")
  have hremarks : (Element.mk "remarks" [] remarks []).tag ≠ naming.detectionElement := by
    rw [hstd.detection]
    exact (by decide +kernel : "remarks" ≠ "_meshsa_det")
  rw [List.append_assoc, List.singleton_append, find_of_ne hcontact, List.find?_append,
    find_nodeOfAttrs, if_pos rfl, List.find?_singleton, if_neg (by simpa using hremarks),
    Option.or_none]

/-- What is decoded from an element without tracker id has none. -/
theorem trackId_of_decodeDetection {detail : Option Element}
    (hget : ∀ el, (detail.bind fun d ↦ d.find naming.detectionElement) = some el →
      el.get "track_id" = none) {detection : Option Detection}
    (h : decodeDetection py naming detail = .ok detection) :
    ∀ d, detection = some d → d.trackId = none := by
  unfold decodeDetection at h
  split at h
  · cases h
    rintro d ⟨⟩
  · rename_i el hel
    split at h
    · cases h
      rintro d ⟨⟩
    · obtain ⟨confidence, -, h⟩ := Py.bind_eq_ok.mp h
      obtain ⟨trackId, htrackId, h⟩ := Py.bind_eq_ok.mp h
      obtain ⟨bearingDeg, -, h⟩ := Py.bind_eq_ok.mp h
      rw [trackIdAttr, hget el hel] at htrackId
      cases htrackId
      dsimp only at h
      split_ifs at h
      cases h
      rintro d ⟨⟩
      rfl

/-- The element of a faint detection has no tracker id. -/
theorem get_nodeOfAttrs_faint {det : Dict} {tag label : String}
    (hfaint : Dict.get? det "track_id" = none ∨ Dict.get? det "confidence" = none) {el : Element}
    (hel : (nodeOfAttrs tag (detectionAttrs py det label)).head? = some el) :
    el.get "track_id" = none := by
  unfold detectionAttrs at hel
  cases hconfidence : Dict.get? det "confidence" with
  | none =>
      rw [hconfidence] at hel
      cases hel
  | some conf =>
      have htrack : Dict.get? det "track_id" = none := by
        apply hfaint.resolve_right
        rw [hconfidence]
        rintro ⟨⟩
      rw [hconfidence] at hel
      cases hel
      show (attrs py det [("track_id", "track_id"), ("bearing_deg", "bearing_deg")]).lookup
        "track_id" = none
      rw [lookup_attrs det (by decide)]
      show (Dict.get? det "track_id").map py.strOf = none
      rw [htrack]
      rfl

/-- The payload of a decoded event names a tracker only if its detection does. -/
theorem untracked_payload {uid callsign : String} {pos : Position} {telemetry : Telemetry}
    {detection : Option Detection} (h : ∀ d, detection = some d → d.trackId = none) :
    Untracked (payload uid callsign pos telemetry detection) := by
  intro det hdet
  have hlookup : (payload uid callsign pos telemetry detection).lookup "detection" =
      detection.map fun d ↦ .dict d.dump := by
    unfold payload
    split_ifs <;> cases detection <;> rfl
  rw [Dict.getOr, hlookup] at hdet
  cases detection with
  | none =>
      cases hdet
      rfl
  | some d =>
      have hdump : Value.dict d.dump = .dict det := hdet
      cases hdump
      have htrack := d.heldBy_dump.track_id
      rwa [h d rfl] at htrack

theorem wellKeyedMembers_append {kvs kvs' : Dict} (h : WellKeyedMembers kvs)
    (h' : WellKeyedMembers kvs') : WellKeyedMembers (kvs ++ kvs') := by
  induction kvs with
  | nil => exact h'
  | cons kv kvs ih => exact ⟨h.1, ih h.2⟩

/-- A dictionary with keys of a list that has each once. -/
theorem wellKeyed_of_keys (keys : List String) {kvs : Dict} (hnodup : keys.Nodup)
    (hkeys : (kvs.map Prod.fst).Sublist keys) (hmembers : WellKeyedMembers kvs) :
    WellKeyed (.dict kvs) :=
  ⟨hnodup.sublist hkeys, hmembers⟩

/-- A member that is written only if it is there. -/
theorem wellKeyedMembers_dumped {α : Type} (key : String) (write : α → Value)
    (h : ∀ x, WellKeyed (write x)) (x : Option α) : WellKeyedMembers (dumped key write x) := by
  cases x with
  | none => trivial
  | some x => exact ⟨h x, trivial⟩

theorem keys_dumped {α : Type} (key : String) (write : α → Value) (x : Option α) :
    ((dumped key write x).map Prod.fst).Sublist [key] := by
  cases x with
  | none => exact List.nil_sublist _
  | some x => exact List.Sublist.refl _

theorem wellKeyed_position (p : Position) : WellKeyed (.dict p.dump) := by
  refine wellKeyed_of_keys ["lat", "lon", "hae", "ce", "le", "course_deg", "speed_ms"]
    (by decide +kernel) ?_ ?_
  · rw [Position.dump, List.map_append, List.map_append]
    exact ((List.Sublist.refl ["lat", "lon", "hae", "ce", "le"]).append
      (keys_dumped "course_deg" _ _)).append (keys_dumped "speed_ms" _ _)
  · refine wellKeyedMembers_append (wellKeyedMembers_append ?_ ?_) ?_
    · exact ⟨trivial, trivial, trivial, trivial, trivial, trivial⟩
    · exact wellKeyedMembers_dumped "course_deg" Value.float (fun _ ↦ trivial) _
    · exact wellKeyedMembers_dumped "speed_ms" Value.float (fun _ ↦ trivial) _

theorem wellKeyed_attitude (a : Attitude) : WellKeyed (.dict a.dump) := by
  refine wellKeyed_of_keys ["roll_deg", "pitch_deg", "yaw_deg"] (by decide +kernel) ?_ ?_
  · rw [Attitude.dump, List.map_append, List.map_append]
    exact ((keys_dumped "roll_deg" _ _).append (keys_dumped "pitch_deg" _ _)).append
      (keys_dumped "yaw_deg" _ _)
  · refine wellKeyedMembers_append (wellKeyedMembers_append ?_ ?_) ?_
    · exact wellKeyedMembers_dumped "roll_deg" Value.float (fun _ ↦ trivial) _
    · exact wellKeyedMembers_dumped "pitch_deg" Value.float (fun _ ↦ trivial) _
    · exact wellKeyedMembers_dumped "yaw_deg" Value.float (fun _ ↦ trivial) _

theorem wellKeyed_telemetry (t : Telemetry) : WellKeyed (.dict t.dump) := by
  refine wellKeyed_of_keys ["battery_v", "battery_pct", "current_a", "attitude"]
    (by decide +kernel) ?_ ?_
  · rw [Telemetry.dump, List.map_append, List.map_append, List.map_append]
    exact (((keys_dumped "battery_v" _ _).append (keys_dumped "battery_pct" _ _)).append
      (keys_dumped "current_a" _ _)).append (keys_dumped "attitude" _ _)
  · refine wellKeyedMembers_append (wellKeyedMembers_append (wellKeyedMembers_append ?_ ?_) ?_) ?_
    · exact wellKeyedMembers_dumped "battery_v" Value.float (fun _ ↦ trivial) _
    · exact wellKeyedMembers_dumped "battery_pct" Value.int (fun _ ↦ trivial) _
    · exact wellKeyedMembers_dumped "current_a" Value.float (fun _ ↦ trivial) _
    · exact wellKeyedMembers_dumped "attitude" _ wellKeyed_attitude _

theorem wellKeyed_detection (d : Detection) : WellKeyed (.dict d.dump) := by
  refine wellKeyed_of_keys ["label", "confidence", "track_id", "bearing_deg"]
    (by decide +kernel) ?_ ?_
  · rw [Detection.dump, List.map_append, List.map_append]
    exact ((List.Sublist.refl ["label", "confidence"]).append (keys_dumped "track_id" _ _)).append
      (keys_dumped "bearing_deg" _ _)
  · refine wellKeyedMembers_append (wellKeyedMembers_append ?_ ?_) ?_
    · exact ⟨trivial, trivial, trivial⟩
    · exact wellKeyedMembers_dumped "track_id" Value.int (fun _ ↦ trivial) _
    · exact wellKeyedMembers_dumped "bearing_deg" Value.float (fun _ ↦ trivial) _

/-- The payload of a decoded event has each key once. -/
theorem wellKeyed_payload (uid callsign : String) (pos : Position) (telemetry : Telemetry)
    (detection : Option Detection) :
    WellKeyed (.dict (payload uid callsign pos telemetry detection)) := by
  have hnode : WellKeyed (.dict [("uid", .str uid), ("callsign", .str callsign)]) :=
    wellKeyed_of_keys ["uid", "callsign"] (by decide +kernel) (List.Sublist.refl _)
      ⟨trivial, trivial, trivial⟩
  have htelemetry : ((if telemetry = {} then [] else [("telemetry", Value.dict telemetry.dump)]
      : Dict).map Prod.fst).Sublist ["telemetry"] := by
    split_ifs
    · exact List.nil_sublist _
    · exact List.Sublist.refl _
  refine wellKeyed_of_keys ["node", "position", "telemetry", "detection"] (by decide +kernel) ?_ ?_
  · rw [payload, List.map_append, List.map_append]
    exact ((List.Sublist.refl ["node", "position"]).append htelemetry).append
      (keys_dumped "detection" _ _)
  · refine wellKeyedMembers_append (wellKeyedMembers_append ?_ ?_) ?_
    · exact ⟨hnode, wellKeyed_position pos, trivial⟩
    · split_ifs
      · trivial
      · exact ⟨wellKeyed_telemetry telemetry, trivial⟩
    · exact wellKeyedMembers_dumped "detection" _ wellKeyed_detection _

/-- Whatever is decoded has the present schema version. -/
theorem schemaVersion_of_decodeEvent {b : Bytes} (h : decodeEvent py et naming b = .ok e') :
    e'.schemaVersion = schemaVersion := by
  unfold decodeEvent at h
  split at h
  · cases h
  · split_ifs at h
    · cases h
      rfl
    · obtain ⟨pos, track, detection, -, -, -, -, rfl⟩ := decodeTrackEvent_eq_ok.mp h
      rfl

/-- Whatever is decoded has each key once. -/
theorem wellKeyed_of_decodeEvent {b : Bytes} (h : decodeEvent py et naming b = .ok e') :
    WellKeyed (.dict e'.payload) := by
  unfold decodeEvent at h
  split at h
  · cases h
  · split_ifs at h
    · cases h
      exact wellKeyed_of_keys ["text", "to"] (by decide +kernel) (List.Sublist.refl _)
        ⟨trivial, trivial, trivial⟩
    · obtain ⟨pos, track, detection, -, -, -, -, rfl⟩ := decodeTrackEvent_eq_ok.mp h
      exact wellKeyed_payload _ _ _ _ _

/-- **Faint markers.**  A marker without tracker id or without confidence is decoded without
tracker id. -/
theorem Trip.untracked (hstd : naming.Standard) (hkind : env.kind = .marker)
    (hmarker : naming.decodedKind naming.markerType ≠ .chat) (hfaint : Faint env.payload)
    (h : Trip py et naming env e') : Untracked e'.payload := by
  obtain ⟨u, hu, hfour⟩ := h.dated hstd.wellNamed
  obtain ⟨b, henc, hdec⟩ := h
  obtain ⟨el, hel, rfl⟩ := encode_eq_ok.mp henc
  obtain ⟨ev, hev, -⟩ := decodeEvent_identity hdec
  rw [et.fromstring_tostring el ((encodeEnvelope_eq_ok hel).2.2 hstd.wellNamed)] at hev
  obtain ⟨hlegal, -⟩ := Option.ite_none_right_eq_some.mp hev
  have htype : naming.typeOf env.kind = naming.markerType := by
    rw [hkind]
    rfl
  have hdec' : decodeEvent py et naming (Py.Xml.tostring el) = .ok e' := hdec
  rw [decodeEvent_tostring hstd.wellNamed hel hlegal hu hfour, htype, if_neg hmarker] at hdec'
  obtain ⟨pos, track, detection, -, -, -, hdetection, rfl⟩ := decodeTrackEvent_eq_ok.mp hdec'
  apply untracked_payload
  rw [encodeEnvelope, hkind] at hel
  obtain ⟨attrib, pos', det, info, remarks, -, hdet, -, -, -, rfl⟩ := encodeMarker_eq_ok.mp hel
  have hdict : Dict.getOr env.payload "detection" (.dict []) = .dict det :=
    Py.Value.eq_of_entries hdet
  rw [detectionOf] at hdetection
  split_ifs at hdetection
  · refine trackId_of_decodeDetection ?_ (guarded_eq_ok hdetection)
    intro element helement
    rw [written, point, find_detail, Option.bind_some, find_detectionElement hstd] at helement
    exact get_nodeOfAttrs_faint (hfaint det hdict) helement
  · cases hdetection
    rintro d ⟨⟩

end Cot

/-! ## The family of a message -/

/-- An envelope behind the JSON link. -/
def Envelope.nulled (env : Envelope) : Envelope := { env with payload := nulledMembers env.payload }

/-- The uid of its event is its source, on every link. -/
def Settled (env : Envelope) : Prop :=
  env.kind = .pli ∨ (env.kind = .marker ∧ Untracked env.payload)

/-- A PLI, or a marker without tracker id or without confidence. -/
def Settling (env : Envelope) : Prop :=
  env.kind = .pli ∨ (env.kind = .marker ∧ Faint env.payload)

/-- The millisecond of a time, if it is in range. -/
def instant (ts : PyFloat) : ℤ :=
  match Py.fromtimestamp ts with
  | .ok u => u / 1000
  | .error _ => 0

section

variable {py : Interpreter} {et : ElementTree} {ej : EnvelopeJson} {env e e' : Envelope}

theorem Settled.settling (h : Settled env) : Settling env := h.imp_right fun h ↦ ⟨h.1, h.2.faint⟩

theorem Settled.nulled (h : Settled env) : Settled env.nulled :=
  h.imp_right fun h ↦ ⟨h.1, h.2.nulled⟩

theorem Settling.nulled (h : Settling env) : Settling env.nulled :=
  h.imp_right fun h ↦ ⟨h.1, h.2.nulled⟩

theorem Settled.eventUid (h : Settled env) : Cot.eventUid py env = env.sourceUid := by
  unfold Cot.eventUid
  rcases h with hkind | ⟨hkind, huntracked⟩
  · rw [hkind]
  · rw [hkind]
    dsimp only
    cases hdet : Dict.getOr env.payload "detection" (.dict []) with
    | dict det =>
        dsimp only
        rw [Cot.markerUid, huntracked det hdet]
    | none => rfl
    | bool b => rfl
    | int n => rfl
    | float x => rfl
    | str s => rfl
    | list xs => rfl

/-- The JSON link changes nothing but floats that are not finite. -/
theorem link_json (hkeys : WellKeyed (.dict env.payload))
    (h : Medium.Link py et ej .json env e') : e' = env.nulled := by
  obtain ⟨b, hdump, hvalidate⟩ := h
  obtain ⟨hversion, hid, hts, hsource, hkind⟩ := ej.header hdump hvalidate
  have hpayload := ej.payload hkeys hdump hvalidate
  cases e'
  subst hversion hid hts hsource hkind hpayload
  rfl

/-- A second time it changes nothing. -/
theorem link_json_nulled (hkeys : WellKeyed (.dict env.payload))
    (h : Medium.Link py et ej .json env.nulled e') : e' = env.nulled := by
  have hkeys' : WellKeyed (.dict env.nulled.payload) := wellKeyed_nulled _ hkeys
  rw [link_json hkeys' h, Envelope.nulled, Envelope.nulled, nulledMembers_nulledMembers]

/-- The CoT link settles. -/
theorem Cot.Trip.settled (hsettling : Settling env) (h : Cot.Trip py et {} env e') :
    Settled e' := by
  obtain ⟨-, -, -, -, -, hkind⟩ := h.identity (CotNaming.standard_default true).wellNamed
  rcases hsettling with hpli | ⟨hmarker, hfaint⟩
  · rw [hpli] at hkind
    exact .inl (hkind.trans (by decide +kernel))
  · have huntracked := h.untracked (CotNaming.standard_default true) hmarker (by decide +kernel)
      hfaint
    rw [hmarker] at hkind
    exact .inr ⟨hkind.trans (by decide +kernel), huntracked⟩

variable (py) in
/-- The uids of the events of a message. -/
def uids (env : Envelope) : Finset String := {Cot.eventUid py env, Cot.eventUid py env.nulled}

variable (py) in
/-- What the CoT link has made of a message. -/
structure Rebuilt (env e : Envelope) : Prop where
  keys : WellKeyed (.dict e.payload)
  settled : Settled e
  source : e.sourceUid ∈ uids py env
  range : Py.minMillis ≤ instant env.ts ∧ instant env.ts ≤ Py.maxMillis
  /-- The time of the event is at most an eighth of a second before that of the message. -/
  stamped : ∃ k, 125 * (instant env.ts / 125) ≤ k ∧ k ≤ instant env.ts ∧
    e.ts = Py.timestamp k ∧ e.msgId = e.sourceUid ++ ":" ++ String.ofList (Py.isoText k)

variable (py) in
/-- The ids of a message. -/
def ids (env : Envelope) : Finset String :=
  insert env.msgId ((uids py env ×ˢ Finset.range 125).image fun p ↦
    p.1 ++ ":" ++ String.ofList (Py.isoText (125 * (instant env.ts / 125) + p.2)))

variable (py) in
/-- A message has few ids. -/
theorem card_ids_le (env : Envelope) : (ids py env).card ≤ 251 := by
  have huids : (uids py env).card ≤ 2 := Finset.card_le_two
  calc (ids py env).card
      ≤ (uids py env ×ˢ Finset.range 125).card + 1 :=
        le_trans (Finset.card_insert_le _ _) (Nat.add_le_add_right Finset.card_image_le 1)
    _ ≤ 2 * 125 + 1 := by
        rw [Finset.card_product, Finset.card_range]
        exact Nat.add_le_add_right (Nat.mul_le_mul_right 125 huids) 1

theorem Rebuilt.msgId_mem (h : Rebuilt py env e) : e.msgId ∈ ids py env := by
  obtain ⟨k, hlow, hhigh, -, hid⟩ := h.stamped
  refine Finset.mem_insert_of_mem (Finset.mem_image.mpr
    ⟨(e.sourceUid, (k - 125 * (instant env.ts / 125)).toNat), ?_, ?_⟩)
  · rw [Finset.mem_product, Finset.mem_range]
    exact ⟨h.source, by omega⟩
  · have hk : 125 * (instant env.ts / 125) + ((k - 125 * (instant env.ts / 125)).toNat : ℤ) = k := by
      omega
    dsimp only
    rw [hk, hid]

/-- The CoT link stamps a message with its instant in milliseconds. -/
theorem stamped_of_trip (h : Cot.Trip py et {} e e') :
    ∃ u, Py.fromtimestamp e.ts = .ok u ∧ Py.minMillis ≤ u / 1000 ∧ u / 1000 ≤ Py.maxMillis ∧
      e'.sourceUid = Cot.eventUid py e ∧
        e'.msgId = Cot.eventUid py e ++ ":" ++ String.ofList (Py.isoText (u / 1000)) ∧
          e'.ts = Py.timestamp (u / 1000) := by
  have hnames : ({} : CotNaming).WellNamed := (CotNaming.standard_default true).wellNamed
  obtain ⟨u, hu, hfour⟩ := h.dated hnames
  obtain ⟨time, htime, hsource, hid, hparse, -⟩ := h.identity hnames
  obtain ⟨u', hu', rfl⟩ := Py.iso_eq_ok.mp htime
  rw [hu] at hu'
  cases hu'
  obtain ⟨hmin, hmax⟩ := Py.fromtimestamp_bounds hu
  rw [py.parseTs_isoText hfour hmax] at hparse
  exact ⟨u, hu, hmin, hmax, hsource, hid, (Option.some.inj hparse).symm⟩

/-- The CoT link makes something of a message itself. -/
theorem Rebuilt.of_message (hsettling : Settling e) (hts : e.ts = env.ts)
    (huid : Cot.eventUid py e ∈ uids py env) (h : Cot.Trip py et {} e e') :
    Rebuilt py env e' := by
  obtain ⟨u, hu, hmin, hmax, hsource, hid, hts'⟩ := stamped_of_trip h
  have hinstant : instant env.ts = u / 1000 := by
    rw [instant, ← hts, hu]
  obtain ⟨b, henc, hdec⟩ := id h
  exact {
    keys := Cot.wellKeyed_of_decodeEvent hdec
    settled := h.settled hsettling
    source := hsource ▸ huid
    range := hinstant ▸ ⟨hmin, hmax⟩
    stamped := ⟨u / 1000, by omega, hinstant.ge, hts', hsource ▸ hid⟩ }

/-- The CoT link makes something of what it has made. -/
theorem Rebuilt.trip (hrebuilt : Rebuilt py env e) (h : Cot.Trip py et {} e e') :
    Rebuilt py env e' := by
  obtain ⟨u, hu, hmin, hmax, hsource, hid, hts'⟩ := stamped_of_trip h
  obtain ⟨k, hlow, hhigh, hts, -⟩ := hrebuilt.stamped
  obtain ⟨hlowest, hhighest⟩ := hrebuilt.range
  have hdrift : u / 1000 = k ∨ (u / 1000 = k - 1 ∧ ¬125 ∣ k) := by
    rw [hts] at hu
    refine Py.fromtimestamp_timestamp ?_ (by omega) hu
    rw [Py.minMillis] at hlowest ⊢
    omega
  obtain ⟨b, henc, hdec⟩ := id h
  exact {
    keys := Cot.wellKeyed_of_decodeEvent hdec
    settled := h.settled hrebuilt.settled.settling
    source := by
      rw [hsource, hrebuilt.settled.eventUid]
      exact hrebuilt.source
    range := hrebuilt.range
    stamped := ⟨u / 1000, by omega, by omega, hts', hsource ▸ hid⟩ }

theorem Rebuilt.nulled (h : Rebuilt py env e) : Rebuilt py env e.nulled where
  keys := wellKeyed_nulled _ h.keys
  settled := h.settled.nulled
  source := h.source
  range := h.range
  stamped := h.stamped

variable (py et) in
/-- The CoT link settles the envelope or loses it. -/
def SettledOrLost (env : Envelope) : Prop := Settling env ∨ ∀ e', ¬Cot.Trip py et {} env e'

variable (py et) in
/-- So it does with a message, also with one that has been on the JSON link. -/
def Tame (env : Envelope) : Prop := SettledOrLost py et env ∧ SettledOrLost py et env.nulled

theorem Rebuilt.of_settledOrLost (htame : SettledOrLost py et e) (hts : e.ts = env.ts)
    (huid : Cot.eventUid py e ∈ uids py env) (h : Cot.Trip py et {} e e') : Rebuilt py env e' := by
  rcases htame with hsettling | hlost
  · exact .of_message hsettling hts huid h
  · exact absurd h (hlost e')

/-- A tame message has a closed family: itself, itself behind the JSON link, and what the CoT
link makes of them. -/
theorem Tame.closed (ej : EnvelopeJson) (hkeys : WellKeyed (.dict env.payload))
    (htame : Tame py et env) :
    Closed py et ej (fun e ↦ e = env ∨ e = env.nulled ∨ Rebuilt py env e) (ids py env) where
  msgId e he := by
    rcases he with rfl | rfl | hrebuilt
    · exact Finset.mem_insert_self _ _
    · exact Finset.mem_insert_self _ _
    · exact hrebuilt.msgId_mem
  link m e e' he hlink := by
    cases m with
    | json =>
        rcases he with rfl | rfl | hrebuilt
        · exact .inr (.inl (link_json hkeys hlink))
        · exact .inr (.inl (link_json_nulled hkeys hlink))
        · rw [link_json hrebuilt.keys hlink]
          exact .inr (.inr hrebuilt.nulled)
    | cot =>
        refine .inr (.inr ?_)
        rcases he with rfl | rfl | hrebuilt
        · exact .of_settledOrLost htame.1 rfl (Finset.mem_insert_self _ _) hlink
        · exact .of_settledOrLost htame.2 rfl
            (Finset.mem_insert_of_mem (Finset.mem_singleton_self _)) hlink
        · exact hrebuilt.trip hlink

/-- A message that settles is tame. -/
theorem Settling.tame (h : Settling env) : Tame py et env := ⟨.inl h, .inl h.nulled⟩

end

end DroneComms.Mesh
