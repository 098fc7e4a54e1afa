import DroneComms.Mesh.Cot

/-!
# What a CoT event identifies

A CoT event carries no `msg_id`.  The encoder puts the msg_id of a chat, the
source of a track or the source and the tracker id of a marker into its uid
(`eventUid`), and the decoder makes the source and, with the time, the msg_id
from that uid.  The kind is decided by the type (`decodedKind`).  This holds of
every envelope that makes the trip (`Trip`).
-/

namespace DroneComms.Mesh

open Py (PyFloat Value Dict PyError Element Interpreter ElementTree Bytes)

namespace CotNaming

/-- The type of the event for a kind. -/
def typeOf (naming : CotNaming) : MessageKind → String
  | .chat => naming.chatType
  | .marker => naming.markerType
  | _ => naming.pliType

/-- The kind that is decoded from a type. -/
def decodedKind (naming : CotNaming) (etype : String) : MessageKind :=
  if startswith etype "b-t-f" ∨ startswith etype "b.t.f" then .chat else naming.kindFor etype

/-- The configured element and attribute names are names. -/
def WellNamed (naming : CotNaming) : Prop :=
  ∀ name ∈ [naming.trackElement, naming.statusElement, naming.attitudeElement,
    naming.detectionElement, naming.batteryAttr, naming.vendorElement],
    Py.Xml.isName name = true

instance (naming : CotNaming) : Decidable naming.WellNamed :=
  inferInstanceAs (Decidable (∀ _ ∈ _, _))

theorem event_eq_ok {naming : CotNaming} {uid etype : String} {ts : PyFloat}
    {attrib : List (String × String)} : naming.event uid etype ts = .ok attrib ↔
      ∃ time stale, Py.iso ts = .ok time ∧ Py.iso (ts.add naming.staleS) = .ok stale ∧
        attrib = [("version", naming.cotVersion), ("uid", uid), ("type", etype),
          ("how", naming.how), ("time", time), ("start", time), ("stale", stale)] := by
  rw [event]
  constructor
  · intro h
    obtain ⟨time, htime, h⟩ := Py.bind_eq_ok.mp h
    obtain ⟨stale, hstale, h⟩ := Py.bind_eq_ok.mp h
    cases h
    exact ⟨time, stale, htime, hstale, rfl⟩
  · rintro ⟨time, stale, htime, hstale, rfl⟩
    rw [htime, hstale]
    rfl

end CotNaming

namespace Cot

variable {py : Interpreter} {et : ElementTree} {naming : CotNaming} {env e' : Envelope}
  {el : Element} {b : Bytes}

/-- The uid of the event for an envelope. -/
def eventUid (py : Interpreter) (env : Envelope) : String :=
  match env.kind with
  | .chat => env.msgId
  | .marker =>
      match Dict.getOr env.payload "detection" (.dict []) with
      | .dict det => markerUid py env.sourceUid det
      | _ => env.sourceUid
  | _ => env.sourceUid

/-! ## The names in an element -/

/-- An element whose own names can be read off. -/
theorem wellNamed_node (keys : List String) {tag text : String} {attrib : List (String × String)}
    {children : List Element} (hkeys : attrib.map Prod.fst = keys)
    (h : Py.Xml.isName tag = true ∧ (∀ key ∈ keys, Py.Xml.isName key = true) ∧ keys.Nodup)
    (hchildren : ∀ child ∈ children, Py.Xml.wellNamed child = true) :
    Py.Xml.wellNamed (.mk tag attrib text children) = true := by
  subst hkeys
  exact Py.Xml.wellNamed_iff.mpr
    ⟨h.1, fun kv hkv ↦ h.2.1 kv.1 (List.mem_map_of_mem hkv), h.2.2, hchildren⟩

theorem wellNamed_leaf (keys : List String) {tag text : String} {attrib : List (String × String)}
    (hkeys : attrib.map Prod.fst = keys)
    (h : Py.Xml.isName tag = true ∧ (∀ key ∈ keys, Py.Xml.isName key = true) ∧ keys.Nodup) :
    Py.Xml.wellNamed (.mk tag attrib text []) = true :=
  wellNamed_node keys hkeys h (List.forall_mem_nil _)

theorem attrs_keys (d : Dict) (names : List (String × String)) :
    ((attrs py d names).map Prod.fst).Sublist (names.map Prod.fst) := by
  induction names with
  | nil => exact List.Sublist.refl _
  | cons p names ih =>
      rw [attrs, List.filterMap_cons, List.map_cons]
      rw [attrs] at ih
      cases Dict.get? d p.2 with
      | none => exact ih.cons p.1
      | some v => exact ih.cons_cons p.1

/-- A node of those attributes that are present. -/
theorem wellNamed_nodeOfAttrs {tag : String} {attrib : List (String × String)}
    {keys : List String} (hkeys : (attrib.map Prod.fst).Sublist keys)
    (h : Py.Xml.isName tag = true ∧ (∀ key ∈ keys, Py.Xml.isName key = true) ∧ keys.Nodup) :
    ∀ child ∈ nodeOfAttrs tag attrib, Py.Xml.wellNamed child = true := by
  intro child hchild
  rw [nodeOfAttrs] at hchild
  split_ifs at hchild
  · cases hchild
  · rw [List.mem_singleton.mp hchild]
    exact wellNamed_leaf _ rfl
      ⟨h.1, fun key hkey ↦ h.2.1 key (hkeys.subset hkey), hkeys.nodup h.2.2⟩

theorem wellNamed_point (pos : Dict) : Py.Xml.wellNamed (point py pos) = true :=
  wellNamed_leaf ["lat", "lon", "hae", "ce", "le"] rfl (by decide +kernel)

/-! ## The element of an envelope -/

/-- The children of an event. -/
theorem emitRicherDetail_named (hnames : naming.WellNamed) {pos : Dict} {telemetry : Value}
    {els : List Element} (h : emitRicherDetail py naming pos telemetry = .ok els) :
    ∀ child ∈ els, Py.Xml.wellNamed child = true := by
  obtain ⟨d, -, h⟩ := Py.bind_eq_ok.mp h
  obtain ⟨a, -, h⟩ := Py.bind_eq_ok.mp h
  cases h
  have hname : ∀ name ∈ [naming.trackElement, naming.statusElement, naming.attitudeElement,
    naming.detectionElement, naming.batteryAttr, naming.vendorElement],
    Py.Xml.isName name = true := hnames
  simp only [List.forall_mem_cons] at hname
  obtain ⟨htrack, hstatus, hattitude, -, hbattery, hvendor, -⟩ := hname
  intro child hchild
  simp only [List.mem_append] at hchild
  rcases hchild with ((hchild | hchild) | hchild) | hchild
  · rw [trackOf] at hchild
    split at hchild
    · rw [List.mem_singleton.mp hchild]
      exact wellNamed_leaf ["course", "speed"] rfl ⟨htrack, by decide +kernel⟩
    · cases hchild
  · exact wellNamed_nodeOfAttrs (attrs_keys d _) ⟨hstatus, by simpa using hbattery, by simp⟩
      child hchild
  · exact wellNamed_nodeOfAttrs (attrs_keys d _) ⟨hvendor, by decide +kernel⟩ child hchild
  · exact wellNamed_nodeOfAttrs (attrs_keys a _) ⟨hattitude, by decide +kernel⟩ child hchild

/-- The parts of a track event. -/
theorem encodePli_eq_ok : encodePli py naming env = .ok el ↔ ∃ attrib pos info richer,
    naming.event env.sourceUid naming.pliType env.ts = .ok attrib ∧
      (Dict.get env.payload "position" (.dict [])).entries = .ok pos ∧
        (Dict.get env.payload "node" (.dict [])).entries = .ok info ∧
          richerDetail py naming env.payload pos = .ok richer ∧
          el = node "event" attrib [point py pos, node "detail" []
            ([node "contact" [("callsign", py.strOf (Dict.get info "callsign" (.str env.sourceUid)))],
              node "__group" [("name", py.strOf (Dict.get info "tier" (.str ""))),
                ("role", "Team Member")]] ++ richer)] := by
  rw [encodePli]
  constructor
  · intro h
    obtain ⟨attrib, hattrib, h⟩ := Py.bind_eq_ok.mp h
    obtain ⟨pos, hpos, h⟩ := Py.bind_eq_ok.mp h
    obtain ⟨info, hinfo, h⟩ := Py.bind_eq_ok.mp h
    obtain ⟨richer, hricher, h⟩ := Py.bind_eq_ok.mp h
    cases h
    exact ⟨attrib, pos, info, richer, hattrib, hpos, hinfo, hricher, rfl⟩
  · rintro ⟨attrib, pos, info, richer, hattrib, hpos, hinfo, hricher, rfl⟩
    exact Py.bind_eq_ok.mpr ⟨attrib, hattrib, Py.bind_eq_ok.mpr ⟨pos, hpos,
      Py.bind_eq_ok.mpr ⟨info, hinfo, Py.bind_eq_ok.mpr ⟨richer, hricher, rfl⟩⟩⟩⟩

/-- The parts of a marker event. -/
theorem encodeMarker_eq_ok : encodeMarker py naming env = .ok el ↔ ∃ attrib pos det info remarks,
    (Dict.getOr env.payload "position" (.dict [])).entries = .ok pos ∧
      (Dict.getOr env.payload "detection" (.dict [])).entries = .ok det ∧
        (Dict.getOr env.payload "node" (.dict [])).entries = .ok info ∧
          naming.event (markerUid py env.sourceUid det) naming.markerType env.ts = .ok attrib ∧
            markerRemarks py det (py.strOf (Dict.get det "label" (.str "detection"))) =
              .ok remarks ∧
            el = node "event" attrib [point py pos, node "detail" []
              ([node "contact" [("callsign", py.strOf (Dict.get info "callsign"
                (.str (py.strOf (Dict.get det "label" (.str "detection"))))))]] ++
                nodeOfAttrs naming.detectionElement (detectionAttrs py det
                  (py.strOf (Dict.get det "label" (.str "detection")))) ++
                [.mk "remarks" [] remarks []])] := by
  rw [encodeMarker]
  constructor
  · intro h
    obtain ⟨pos, hpos, h⟩ := Py.bind_eq_ok.mp h
    obtain ⟨det, hdet, h⟩ := Py.bind_eq_ok.mp h
    obtain ⟨info, hinfo, h⟩ := Py.bind_eq_ok.mp h
    obtain ⟨attrib, hattrib, h⟩ := Py.bind_eq_ok.mp h
    obtain ⟨remarks, hremarks, h⟩ := Py.bind_eq_ok.mp h
    cases h
    exact ⟨attrib, pos, det, info, remarks, hpos, hdet, hinfo, hattrib, hremarks, rfl⟩
  · rintro ⟨attrib, pos, det, info, remarks, hpos, hdet, hinfo, hattrib, hremarks, rfl⟩
    exact Py.bind_eq_ok.mpr ⟨pos, hpos, Py.bind_eq_ok.mpr ⟨det, hdet, Py.bind_eq_ok.mpr ⟨info, hinfo,
      Py.bind_eq_ok.mpr ⟨attrib, hattrib, Py.bind_eq_ok.mpr ⟨remarks, hremarks, rfl⟩⟩⟩⟩⟩

/-- What a chat event says of its addressee. -/
def room (py : Interpreter) (env : Envelope) (default : String) : String :=
  py.strOf (Dict.getOr env.payload "to" (.str default))

/-- The parts of a chat event. -/
theorem encodeChat_eq_ok : encodeChat py naming env = .ok el ↔ ∃ attrib text,
    naming.event env.msgId naming.chatType env.ts = .ok attrib ∧
      elementText (Dict.get env.payload "text" (.str "")) = .ok text ∧
        el = node "event" attrib [
          node "point" [("lat", "0.0"), ("lon", "0.0"), ("hae", "0.0"),
            ("ce", py.str unknownErrorM), ("le", py.str unknownErrorM)],
          node "detail" []
            [node "__chat" [("senderCallsign", env.sourceUid),
                ("id", room py env "All Chat Rooms")]
              [node "chatgrp" [("uid0", env.sourceUid), ("uid1", room py env "All")]],
            .mk "remarks" [] text []]] := by
  rw [encodeChat]
  constructor
  · intro h
    obtain ⟨attrib, hattrib, h⟩ := Py.bind_eq_ok.mp h
    obtain ⟨text, htext, h⟩ := Py.bind_eq_ok.mp h
    cases h
    exact ⟨attrib, text, hattrib, htext, rfl⟩
  · rintro ⟨attrib, text, hattrib, htext, rfl⟩
    rw [hattrib, htext]
    rfl

theorem wellNamed_detail {els : List Element} (h : ∀ el ∈ els, Py.Xml.wellNamed el = true) :
    Py.Xml.wellNamed (node "detail" [] els) = true :=
  wellNamed_node [] rfl (by decide +kernel) h

theorem detectionAttrs_keys (det : Dict) (label : String) :
    ((detectionAttrs py det label).map Prod.fst).Sublist
      ["label", "confidence", "track_id", "bearing_deg"] := by
  rw [detectionAttrs]
  split
  · exact List.nil_sublist _
  · exact ((attrs_keys det [("track_id", "track_id"), ("bearing_deg", "bearing_deg")]).cons_cons
      "confidence").cons_cons "label"

theorem encodePli_named (hnames : naming.WellNamed) (h : encodePli py naming env = .ok el) :
    ∀ child ∈ el.children, Py.Xml.wellNamed child = true := by
  obtain ⟨attrib, pos, info, richer, -, -, -, hricher, rfl⟩ := encodePli_eq_ok.mp h
  have hrich : ∀ child ∈ richer, Py.Xml.wellNamed child = true := by
    rw [richerDetail] at hricher
    split_ifs at hricher
    · exact emitRicherDetail_named hnames hricher
    · cases hricher
      exact List.forall_mem_nil _
  refine List.forall_mem_cons.mpr ⟨wellNamed_point pos, List.forall_mem_singleton.mpr ?_⟩
  apply wellNamed_detail
  refine List.forall_mem_cons.mpr ⟨?_, List.forall_mem_cons.mpr ⟨?_, hrich⟩⟩
  · exact wellNamed_leaf ["callsign"] rfl (by decide +kernel)
  · exact wellNamed_leaf ["name", "role"] rfl (by decide +kernel)

theorem encodeMarker_named (hnames : naming.WellNamed) (h : encodeMarker py naming env = .ok el) :
    ∀ child ∈ el.children, Py.Xml.wellNamed child = true := by
  obtain ⟨attrib, pos, det, info, remarks, -, -, -, -, -, rfl⟩ := encodeMarker_eq_ok.mp h
  have hdetection : Py.Xml.isName naming.detectionElement = true := hnames _ (by simp)
  refine List.forall_mem_cons.mpr ⟨wellNamed_point pos, List.forall_mem_singleton.mpr ?_⟩
  apply wellNamed_detail
  intro child hchild
  rw [List.mem_append, List.mem_append] at hchild
  rcases hchild with (hchild | hchild) | hchild
  · rw [List.mem_singleton.mp hchild]
    exact wellNamed_leaf ["callsign"] rfl (by decide +kernel)
  · exact wellNamed_nodeOfAttrs (detectionAttrs_keys det _) ⟨hdetection, by decide +kernel⟩
      child hchild
  · rw [List.mem_singleton.mp hchild]
    exact wellNamed_leaf [] rfl (by decide +kernel)

theorem encodeChat_named (h : encodeChat py naming env = .ok el) :
    ∀ child ∈ el.children, Py.Xml.wellNamed child = true := by
  obtain ⟨attrib, text, -, -, rfl⟩ := encodeChat_eq_ok.mp h
  refine List.forall_mem_cons.mpr ⟨?_, List.forall_mem_singleton.mpr ?_⟩
  · exact wellNamed_leaf ["lat", "lon", "hae", "ce", "le"] rfl (by decide +kernel)
  · apply wellNamed_detail
    refine List.forall_mem_cons.mpr ⟨?_, List.forall_mem_singleton.mpr ?_⟩
    · apply wellNamed_node ["senderCallsign", "id"] rfl (by decide +kernel)
      exact List.forall_mem_singleton.mpr (wellNamed_leaf ["uid0", "uid1"] rfl (by decide +kernel))
    · exact wellNamed_leaf [] rfl (by decide +kernel)

theorem event_keys {uid etype : String} {ts : PyFloat} {attrib : List (String × String)}
    (h : naming.event uid etype ts = .ok attrib) :
    attrib.map Prod.fst = ["version", "uid", "type", "how", "time", "start", "stale"] := by
  obtain ⟨time, stale, -, -, rfl⟩ := CotNaming.event_eq_ok.mp h
  rfl

/-- The event of an envelope has its uid and its type, and names all over. -/
theorem encodeEnvelope_eq_ok (h : encodeEnvelope py naming env = .ok el) :
    el.tag = "event" ∧
      naming.event (eventUid py env) (naming.typeOf env.kind) env.ts = .ok el.attrib ∧
        (naming.WellNamed → Py.Xml.wellNamed el = true) := by
  have hpli : encodePli py naming env = .ok el → el.tag = "event" ∧
      naming.event env.sourceUid naming.pliType env.ts = .ok el.attrib ∧
        (naming.WellNamed → Py.Xml.wellNamed el = true) := by
    intro h
    have hchildren := fun hnames ↦ encodePli_named hnames h
    obtain ⟨attrib, pos, info, richer, hattrib, -, -, -, rfl⟩ := encodePli_eq_ok.mp h
    exact ⟨rfl, hattrib, fun hnames ↦
      wellNamed_node _ (event_keys hattrib) (by decide +kernel) (hchildren hnames)⟩
  unfold encodeEnvelope at h
  unfold eventUid CotNaming.typeOf
  cases hkind : env.kind with
  | chat =>
      rw [hkind] at h
      have hchildren := encodeChat_named h
      obtain ⟨attrib, text, hattrib, -, rfl⟩ := encodeChat_eq_ok.mp h
      exact ⟨rfl, hattrib, fun _ ↦
        wellNamed_node _ (event_keys hattrib) (by decide +kernel) hchildren⟩
  | marker =>
      rw [hkind] at h
      have hchildren := fun hnames ↦ encodeMarker_named hnames h
      obtain ⟨attrib, pos, det, info, remarks, -, hdet, -, hattrib, -, rfl⟩ :=
        encodeMarker_eq_ok.mp h
      rw [Py.Value.eq_of_entries hdet]
      exact ⟨rfl, hattrib, fun hnames ↦
        wellNamed_node _ (event_keys hattrib) (by decide +kernel) (hchildren hnames)⟩
  | pli =>
      rw [hkind] at h
      exact hpli h
  | status =>
      rw [hkind] at h
      exact hpli h

/-! ## What is decoded -/

theorem guarded_eq_ok {α : Type} {x : Except PyError α} {a : α} (h : guarded x = .ok a) :
    x = .ok a := by
  cases x with
  | ok a' =>
      cases h
      rfl
  | error e => cases e <;> cases h

theorem logged_eq_ok {α : Type} {detail : Option Element} {x : Except PyError α} {a : α} :
    logged et detail x = .ok a ↔ guarded x = .ok a := by
  unfold logged
  split
  next h =>
    rw [h]
    split_ifs <;> exact iff_of_false nofun nofun
  next => exact Iff.rfl

/-- The parts of a parsed event. -/
theorem parseEvent_eq_some {e : Event} (h : parseEvent py et b = some e) :
    et.fromstring b = some e.ev ∧ e.ev.tag = "event" ∧ e.ev.get "uid" = some e.uid ∧
      e.etype = (e.ev.get "type").getD "" ∧
        py.parseTs ((e.ev.get "time").getD (String.ofList (Py.isoText 0))) = some e.ts := by
  obtain ⟨ev, hev, h⟩ := Option.bind_eq_some_iff.mp h
  split_ifs at h with htag
  obtain ⟨uid, huid, h⟩ := Option.bind_eq_some_iff.mp h
  obtain ⟨ts, hts, h⟩ := Option.bind_eq_some_iff.mp h
  cases h
  exact ⟨hev, not_not.mp htag, huid, rfl, hts⟩

/-- The parts of a decoded track or marker. -/
theorem decodeTrackEvent_eq_ok {e : Event} : decodeTrackEvent py et naming e = .ok e' ↔
    ∃ pos track detection, escapes (decodePoint py (e.ev.find "point")) = .ok pos ∧
      guarded (decodeRicherDetail py naming (e.ev.find "detail") pos) = .ok track ∧
        (track.1.Valid ∧ track.2.Valid) ∧
          detectionOf py naming (naming.kindFor e.etype) (e.ev.find "detail") = .ok detection ∧
            e' = envelope e (naming.kindFor e.etype)
              (payload e.uid (callsignOf e) track.1 track.2 detection) := by
  constructor
  · intro h
    obtain ⟨pos, hpos, h⟩ := Py.bind_eq_ok.mp h
    obtain ⟨track, htrack, h⟩ := Py.bind_eq_ok.mp h
    obtain ⟨valid, hvalid, h⟩ := Py.bind_eq_ok.mp h
    obtain ⟨detection, hdetection, h⟩ := Py.bind_eq_ok.mp h
    rw [validatedTrack] at hvalid
    split_ifs at hvalid with hcond
    cases hvalid
    cases h
    exact ⟨pos, track, detection, hpos, logged_eq_ok.mp htrack, hcond, hdetection, rfl⟩
  · rintro ⟨pos, track, detection, hpos, htrack, hcond, hdetection, rfl⟩
    refine Py.bind_eq_ok.mpr ⟨pos, hpos, Py.bind_eq_ok.mpr ⟨track, logged_eq_ok.mpr htrack, ?_⟩⟩
    exact Py.bind_eq_ok.mpr ⟨track, if_pos hcond,
      Py.bind_eq_ok.mpr ⟨detection, hdetection, rfl⟩⟩

/-- The identity of a decoded envelope, from the attributes of its event. -/
theorem decodeEvent_identity (h : decodeEvent py et naming b = .ok e') :
    ∃ ev, et.fromstring b = some ev ∧ ev.get "uid" = some e'.sourceUid ∧
      e'.msgId = e'.sourceUid ++ ":" ++ (ev.get "time").getD "" ∧
        py.parseTs ((ev.get "time").getD (String.ofList (Py.isoText 0))) = some e'.ts ∧
          e'.kind = naming.decodedKind ((ev.get "type").getD "") := by
  rw [decodeEvent] at h
  cases hparse : parseEvent py et b with
  | none =>
      rw [hparse] at h
      cases h
  | some e =>
      rw [hparse] at h
      obtain ⟨hev, -, huid, htype, hts⟩ := parseEvent_eq_some hparse
      dsimp only at h
      refine ⟨e.ev, hev, ?_⟩
      rw [← htype, CotNaming.decodedKind]
      split_ifs at h ⊢ with hchat
      · cases h
        exact ⟨huid, rfl, hts, rfl⟩
      · obtain ⟨pos, track, detection, -, -, -, -, rfl⟩ := decodeTrackEvent_eq_ok.mp h
        exact ⟨huid, rfl, hts, rfl⟩

/-! ## The trip -/

/-- An envelope is encoded and what was encoded is decoded. -/
def Trip (py : Interpreter) (et : ElementTree) (naming : CotNaming) (env e' : Envelope) : Prop :=
  ∃ b, (cotCodec py et naming).encode env = .ok b ∧ (cotCodec py et naming).decode b = .ok e'

/-- An encoded envelope is the text of its element. -/
theorem encode_eq_ok : (cotCodec py et naming).encode env = .ok b ↔
    ∃ el, encodeEnvelope py naming env = .ok el ∧ b = Py.Xml.tostring el := by
  show escapes _ = _ ↔ _
  cases encodeEnvelope py naming env with
  | error e =>
      constructor
      · intro h
        cases h
      · rintro ⟨el, h, -⟩
        cases h
  | ok el =>
      constructor
      · intro h
        cases h
        exact ⟨el, rfl, rfl⟩
      · rintro ⟨el', h, rfl⟩
        cases h
        rfl

/-- What the trip does to the identity of an envelope. -/
theorem Trip.identity (hnames : naming.WellNamed) (h : Trip py et naming env e') :
    ∃ time, Py.iso env.ts = .ok time ∧ e'.sourceUid = eventUid py env ∧
      e'.msgId = eventUid py env ++ ":" ++ time ∧ py.parseTs time = some e'.ts ∧
        e'.kind = naming.decodedKind (naming.typeOf env.kind) := by
  obtain ⟨b, henc, hdec⟩ := h
  obtain ⟨el, hel, rfl⟩ := encode_eq_ok.mp henc
  obtain ⟨-, hattrib, hnamed⟩ := encodeEnvelope_eq_ok hel
  obtain ⟨ev, hev, huid, hid, hts, hkind⟩ := decodeEvent_identity hdec
  obtain ⟨time, stale, htime, -, hlist⟩ := CotNaming.event_eq_ok.mp hattrib
  rw [et.fromstring_tostring el (hnamed hnames)] at hev
  split_ifs at hev
  cases hev
  rw [Py.Xml.get_normalize] at huid hid hts hkind
  have hget : ∀ key, el.get key = el.attrib.lookup key := fun _ ↦ rfl
  rw [hget, hlist] at huid hid hts hkind
  have hsource : e'.sourceUid = eventUid py env := (Option.some.inj huid).symm
  refine ⟨time, htime, hsource, ?_, hts, hkind⟩
  rw [hid, hsource]
  rfl

/-- An envelope that makes the trip is from year 1000 or later. -/
theorem Trip.dated (hnames : naming.WellNamed) (h : Trip py et naming env e') :
    ∃ u, Py.fromtimestamp env.ts = .ok u ∧ Py.fourDigitMillis ≤ u / 1000 := by
  obtain ⟨time, htime, -, -, hparse, -⟩ := h.identity hnames
  obtain ⟨u, hu, rfl⟩ := Py.iso_eq_ok.mp htime
  refine ⟨u, hu, not_lt.mp fun hearly ↦ ?_⟩
  rw [py.parseTs_isoText_early (Py.fromtimestamp_bounds hu).1 hearly] at hparse
  cases hparse

end Cot

end DroneComms.Mesh
