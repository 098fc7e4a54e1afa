import DroneComms.Mesh.CotTrip
import DroneComms.Py.XmlRoundTrip

/-!
# What a CoT link keeps

The three kinds of envelope on a CoT link.  A PLI keeps its source, callsign,
position and telemetry.  A marker keeps its identity if it has no tracker id: with
one, its uid becomes the source.  A chat keeps its sender only if that is its
msg_id, and never its addressee.  In each case the stale stamp has to be in range.
-/

namespace DroneComms.Mesh

open Py (PyFloat Value Dict PyError Element Interpreter ElementTree Bytes)

namespace Cot

variable {py : Interpreter} {et : ElementTree} {naming : CotNaming} {env e' : Envelope}
  {el : Element}

/-! ## Legal events -/

theorem legal_event (hlegal : naming.Legal) {uid : String} {kind : MessageKind} {ts : PyFloat}
    {attrib : List (String × String)} (huid : Py.Xml.isLegal uid = true)
    (h : naming.event uid (naming.typeOf kind) ts = .ok attrib) :
    ∀ kv ∈ attrib, Py.Xml.isLegal kv.2 = true := by
  obtain ⟨time, stale, htime, hstale, rfl⟩ := CotNaming.event_eq_ok.mp h
  simp only [List.forall_mem_cons]
  exact ⟨hlegal.cotVersion, huid, hlegal.types kind, hlegal.how, isLegal_iso htime,
    isLegal_iso htime, isLegal_iso hstale, List.forall_mem_nil _⟩

theorem exists_event {uid etype : String} {ts : PyFloat} {u v : ℤ}
    (hu : Py.fromtimestamp ts = .ok u) (hv : Py.fromtimestamp (ts.add naming.staleS) = .ok v) :
    ∃ attrib, naming.event uid etype ts = .ok attrib :=
  ⟨_, CotNaming.event_eq_ok.mpr ⟨_, _, Py.iso_eq_ok.mpr ⟨u, hu, rfl⟩,
    Py.iso_eq_ok.mpr ⟨v, hv, rfl⟩, rfl⟩⟩

theorem legal_point {p : Position} {d : Dict} (h : p.HeldBy d) :
    Py.Xml.legal (point py d) = true := by
  apply legal_node
  · rw [Dict.get, h.lat, Dict.get, h.lon, h.hae, h.ce, h.le]
    simp only [List.forall_mem_cons]
    exact ⟨isLegal_str _, isLegal_str _, isLegal_str _, isLegal_str _, isLegal_str _,
      List.forall_mem_nil _⟩
  · rfl
  · exact List.forall_mem_nil _

/-- A value that is written as a number. -/
def Numeric (d : Dict) (key : String) : Prop :=
  (∃ x : Option PyFloat, Dict.get? d key = x.map .float) ∨
    ∃ n : Option ℤ, Dict.get? d key = n.map .int

theorem Numeric.legal {d : Dict} {key : String} (h : Numeric d key) {v : Value}
    (hv : Dict.get? d key = some v) : Py.Xml.isLegal (py.strOf v) = true := by
  rcases h with ⟨x, hx⟩ | ⟨n, hn⟩
  · obtain ⟨x, -, rfl⟩ := Option.map_eq_some_iff.mp (hx ▸ hv)
    exact isLegal_str x
  · obtain ⟨n, -, rfl⟩ := Option.map_eq_some_iff.mp (hn ▸ hv)
    exact isLegal_signed n

theorem legal_attrs {d : Dict} {names : List (String × String)}
    (h : ∀ p ∈ names, Numeric d p.2) :
    ∀ kv ∈ attrs py d names, Py.Xml.isLegal kv.2 = true := by
  intro kv hkv
  obtain ⟨p, hp, hkv⟩ := List.mem_filterMap.mp hkv
  obtain ⟨v, hv, rfl⟩ := Option.map_eq_some_iff.mp hkv
  exact (h p hp).legal hv

theorem legal_nodeOfAttrs {tag : String} {attrib : List (String × String)}
    (h : ∀ kv ∈ attrib, Py.Xml.isLegal kv.2 = true) :
    ∀ child ∈ nodeOfAttrs tag attrib, Py.Xml.legal child = true := by
  intro child hchild
  rw [nodeOfAttrs] at hchild
  split_ifs at hchild
  · cases hchild
  · rw [List.mem_singleton.mp hchild]
    exact legal_node h rfl (List.forall_mem_nil _)

theorem legal_trackOf {p : Position} {d : Dict} (h : p.HeldBy d) :
    ∀ child ∈ trackOf py naming d, Py.Xml.legal child = true := by
  intro child hchild
  rw [trackOf] at hchild
  split at hchild
  next course speed hcourse hspeed =>
    rw [List.mem_singleton.mp hchild]
    have hlegalCourse : Py.Xml.isLegal (py.strOf course) = true :=
      Numeric.legal (.inl ⟨_, h.course⟩) hcourse
    have hlegalSpeed : Py.Xml.isLegal (py.strOf speed) = true :=
      Numeric.legal (.inl ⟨_, h.speed⟩) hspeed
    apply legal_node
    · simp only [List.forall_mem_cons]
      exact ⟨hlegalCourse, hlegalSpeed, List.forall_mem_nil _⟩
    · rfl
    · exact List.forall_mem_nil _
  next => cases hchild

/-! ## PLI -/

/-- A valid PLI envelope. -/
structure ValidPli (py : Interpreter) (env : Envelope) (callsign tier : String) (p : Position)
    (t : Telemetry) : Prop where
  kind : env.kind = .pli
  node : ∃ info, Dict.get env.payload "node" (.dict []) = .dict info ∧
    Dict.get info "callsign" (.str env.sourceUid) = .str callsign ∧
      py.strOf (Dict.get info "tier" (.str "")) = tier
  position : ∃ d, Dict.get env.payload "position" (.dict []) = .dict d ∧ p.HeldBy d
  position_valid : p.Valid
  telemetry : ∃ d, Dict.getOr env.payload "telemetry" (.dict []) = .dict d ∧ t.HeldBy d
  telemetry_valid : t.Valid

/-- A valid PLI envelope with legal texts. -/
structure IsPli (py : Interpreter) (env : Envelope) (callsign : String) (p : Position)
    (t : Telemetry) : Prop where
  kind : env.kind = .pli
  source_legal : Py.Xml.isLegal env.sourceUid = true
  callsign_legal : Py.Xml.isLegal callsign = true
  node : ∃ info, Dict.get env.payload "node" (.dict []) = .dict info ∧
    Dict.get info "callsign" (.str env.sourceUid) = .str callsign ∧
      Py.Xml.isLegal (py.strOf (Dict.get info "tier" (.str ""))) = true
  position : ∃ d, Dict.get env.payload "position" (.dict []) = .dict d ∧ p.HeldBy d
  position_valid : p.Valid
  telemetry : ∃ d, Dict.getOr env.payload "telemetry" (.dict []) = .dict d ∧ t.HeldBy d
  telemetry_valid : t.Valid
  /-- Course and speed are both there or both not. -/
  paired : p.courseDeg.isSome = p.speedMs.isSome

theorem IsPli.valid {callsign : String} {p : Position} {t : Telemetry}
    (h : IsPli py env callsign p t) :
    ∃ tier, ValidPli py env callsign tier p t ∧ Py.Xml.isLegal tier = true := by
  obtain ⟨info, hinfo, hcallsign, htier⟩ := h.node
  exact ⟨_, {
    kind := h.kind
    node := ⟨info, hinfo, hcallsign, rfl⟩
    position := h.position
    position_valid := h.position_valid
    telemetry := h.telemetry
    telemetry_valid := h.telemetry_valid }, htier⟩

/-- The children that carry the richer detail. -/
def richerNodes (py : Interpreter) (naming : CotNaming) (pos telemetry attitude : Dict) :
    List Element :=
  trackOf py naming pos ++
    nodeOfAttrs naming.statusElement (attrs py telemetry [(naming.batteryAttr, "battery_pct")]) ++
    nodeOfAttrs naming.vendorElement
      (attrs py telemetry [("battery_v", "battery_v"), ("current_a", "current_a")]) ++
    nodeOfAttrs naming.attitudeElement
      (attrs py attitude [("roll", "roll_deg"), ("pitch", "pitch_deg"), ("yaw", "yaw_deg")])

theorem legal_richerNodes {p : Position} {t : Telemetry} {a : Attitude}
    {pos telemetry attitude : Dict} (hp : p.HeldBy pos) (ht : t.HeldBy telemetry)
    (ha : a.HeldBy attitude) :
    ∀ child ∈ richerNodes py naming pos telemetry attitude, Py.Xml.legal child = true := by
  intro child hchild
  simp only [richerNodes, List.mem_append] at hchild
  rcases hchild with ((hchild | hchild) | hchild) | hchild
  · exact legal_trackOf hp child hchild
  · refine legal_nodeOfAttrs (legal_attrs ?_) child hchild
    exact List.forall_mem_singleton.mpr (.inr ⟨_, ht.battery_pct⟩)
  · refine legal_nodeOfAttrs (legal_attrs ?_) child hchild
    exact List.forall_mem_cons.mpr
      ⟨.inl ⟨_, ht.battery_v⟩, List.forall_mem_singleton.mpr (.inl ⟨_, ht.current⟩)⟩
  · refine legal_nodeOfAttrs (legal_attrs ?_) child hchild
    exact List.forall_mem_cons.mpr ⟨.inl ⟨_, ha.roll⟩, List.forall_mem_cons.mpr
      ⟨.inl ⟨_, ha.pitch⟩, List.forall_mem_singleton.mpr (.inl ⟨_, ha.yaw⟩)⟩⟩

/-- Each of the four elements is found under its name. -/
theorem find_richerNodes (py : Interpreter) (hstd : naming.Standard) (pos telemetry attitude : Dict) :
    (richerNodes py naming pos telemetry attitude).find? (·.tag = naming.trackElement) =
        (trackOf py naming pos).head? ∧
      (richerNodes py naming pos telemetry attitude).find? (·.tag = naming.statusElement) =
        (nodeOfAttrs naming.statusElement
          (attrs py telemetry [(naming.batteryAttr, "battery_pct")])).head? ∧
      (richerNodes py naming pos telemetry attitude).find? (·.tag = naming.vendorElement) =
        (nodeOfAttrs naming.vendorElement
          (attrs py telemetry [("battery_v", "battery_v"), ("current_a", "current_a")])).head? ∧
      (richerNodes py naming pos telemetry attitude).find? (·.tag = naming.attitudeElement) =
        (nodeOfAttrs naming.attitudeElement (attrs py attitude
          [("roll", "roll_deg"), ("pitch", "pitch_deg"), ("yaw", "yaw_deg")])).head? := by
  simp only [richerNodes, List.find?_append, find_trackOf, find_nodeOfAttrs, hstd.track,
    hstd.status, hstd.vendor, hstd.attitude, String.reduceEq, if_true, if_false, Option.or_none,
    Option.none_or, and_self]

/-- The position and the telemetry come back from the richer detail. -/
theorem decodeRicherDetail_nodes (hstd : naming.Standard) {detail : Element} {p : Position}
    {t : Telemetry} {pos telemetry attitude : Dict} (hp : p.HeldBy pos)
    (hpaired : p.courseDeg.isSome = p.speedMs.isSome) (ht : t.HeldBy telemetry)
    (ha : (t.attitude.getD {}).HeldBy attitude) (hvalid : t.Valid)
    (hfind : ∀ name ∈ [naming.trackElement, naming.statusElement, naming.vendorElement,
      naming.attitudeElement], detail.find name =
        (richerNodes py naming pos telemetry attitude).find? (·.tag = name)) :
    decodeRicherDetail py naming (some detail) { p with courseDeg := none, speedMs := none } =
      .ok (p, t.pruned) := by
  obtain ⟨htrack, hstatus, hvendor, hattitude⟩ := find_richerNodes py hstd pos telemetry attitude
  simp only [List.forall_mem_cons] at hfind
  rw [htrack, hstatus, hvendor, hattitude] at hfind
  have hpruned : (if t.attitude.getD {} = {} then { t with attitude := none }
      else { t with attitude := some (t.attitude.getD {}) } : Telemetry) = t.pruned := by
    obtain ⟨v, pct, current, attitude⟩ := t
    cases attitude with
    | none => rfl
    | some a =>
        by_cases h : a = {}
        · subst h
          rfl
        · rw [Telemetry.pruned, Option.getD_some, if_neg h,
            if_neg fun heq ↦ h (Option.some.inj heq)]
  show (decodeTrack py naming detail _ >>= _) = _
  rw [decodeTrack_trackOf hp hpaired hfind.1]
  show (decodeStatusAndVendor py naming detail >>= _) = _
  rw [decodeStatusAndVendor_nodes ht hvalid.battery_pct_range hfind.2.1 hfind.2.2.1]
  show (decodeAttitude py naming detail { t with attitude := none } >>= _) = _
  rw [decodeAttitude_node ha _ hfind.2.2.2.1, ← hpruned]
  rfl

/-! ## Finding the parts of an event -/

theorem find_point (attrib pointAttrib : List (String × String)) (els : List Element) :
    (node "event" attrib [node "point" pointAttrib, node "detail" [] els]).find "point" =
      some (node "point" pointAttrib) := by
  simp [Element.find, node, Element.tag, Element.children]

theorem find_detail (attrib pointAttrib : List (String × String)) (els : List Element) :
    (node "event" attrib [node "point" pointAttrib, node "detail" [] els]).find "detail" =
      some (node "detail" [] els) := by
  simp [Element.find, node, Element.tag, Element.children]

/-- An element behind others of another name. -/
theorem find_of_ne {tag name : String} {attrib : List (String × String)} {el : Element}
    {els : List Element} (h : el.tag ≠ name) :
    (node tag attrib (el :: els)).find name = els.find? (·.tag = name) := by
  show List.find? _ (el :: els) = List.find? _ els
  rw [List.find?_cons, decide_eq_false h]

theorem find_first {tag name : String} {attrib : List (String × String)} {el : Element}
    {els : List Element} (h : el.tag = name) :
    (node tag attrib (el :: els)).find name = some el := by
  show List.find? _ (el :: els) = _
  rw [List.find?_cons, decide_eq_true h]

/-! ## Tracks and markers -/

/-- The detail of a track or a marker. -/
def contactDetail (callsign : String) (els : List Element) : Element :=
  node "detail" [] (node "contact" [("callsign", callsign)] :: els)

/-- The event of a track or a marker. -/
def trackElement (py : Interpreter) (attrib : List (String × String)) (pos : Dict)
    (callsign : String) (els : List Element) : Element :=
  node "event" attrib [point py pos, contactDetail callsign els]

theorem legal_node_iff {tag : String} {attrib : List (String × String)} {children : List Element} :
    Py.Xml.legal (node tag attrib children) = true ↔
      (∀ kv ∈ attrib, Py.Xml.isLegal kv.2 = true) ∧
        ∀ child ∈ children, Py.Xml.legal child = true := by
  rw [Py.Xml.legal_iff]
  exact and_congr_right fun _ ↦ and_iff_right rfl

theorem legal_group {tier : String} :
    Py.Xml.legal (node "__group" [("name", tier), ("role", "Team Member")]) = true ↔
      Py.Xml.isLegal tier = true := by
  have hrole : Py.Xml.isLegal "Team Member" = true := by decide +kernel
  simp [legal_node_iff, hrole]

theorem legal_trackElement_iff {attrib : List (String × String)} {pos : Dict} {callsign : String}
    {els : List Element} {p : Position} (hp : p.HeldBy pos) :
    Py.Xml.legal (trackElement py attrib pos callsign els) = true ↔
      (∀ kv ∈ attrib, Py.Xml.isLegal kv.2 = true) ∧ Py.Xml.isLegal callsign = true ∧
        ∀ child ∈ els, Py.Xml.legal child = true := by
  simp [trackElement, contactDetail, legal_node_iff, legal_point hp]

theorem callsignOf_trackElement {attrib : List (String × String)} {pos : Dict} {callsign : String}
    {els : List Element} {n : ℤ} :
    callsignOf (written py naming env (trackElement py attrib pos callsign els) n) = callsign := by
  have hdetail : (trackElement py attrib pos callsign els).find "detail" =
      some (contactDetail callsign els) := find_detail _ _ _
  have hcontact : (contactDetail callsign els).find "contact" =
      some (node "contact" [("callsign", callsign)]) := find_first rfl
  rw [callsignOf, written, hdetail, Option.bind_some, hcontact]
  rfl

/-- A legal track or marker arrives if its detail does. -/
theorem trip_of_parts (hnames : naming.WellNamed) {attrib : List (String × String)} {pos : Dict}
    {callsign : String} {els : List Element} {p : Position}
    (hel : encodeEnvelope py naming env = .ok (trackElement py attrib pos callsign els))
    (hlegal : Py.Xml.legal (trackElement py attrib pos callsign els) = true) {u : ℤ}
    (hu : Py.fromtimestamp env.ts = .ok u) (hfour : Py.fourDigitMillis ≤ u / 1000)
    (hp : p.HeldBy pos) {kind : MessageKind}
    (hkind : naming.decodedKind (naming.typeOf env.kind) = kind) (hchat : kind ≠ .chat)
    {track : Position × Telemetry} {detection : Option Detection}
    (htrack : decodeRicherDetail py naming (some (contactDetail callsign els))
      { p with courseDeg := none, speedMs := none } = .ok track)
    (hvalid : track.1.Valid ∧ track.2.Valid)
    (hdetection : detectionOf py naming kind (some (contactDetail callsign els)) =
      .ok detection) :
    ∃ e', Trip py et naming env e' ∧ e'.kind = kind ∧ e'.sourceUid = eventUid py env ∧
      e'.ts = Py.timestamp (u / 1000) ∧
        e'.payload = payload (eventUid py env) callsign track.1 track.2 detection := by
  have hkindFor : naming.kindFor (naming.typeOf env.kind) = kind := by
    rw [← hkind, ne_eq, isChat_iff] at hchat
    rw [← hkind, CotNaming.decodedKind, if_neg hchat]
  have hpoint : (trackElement py attrib pos callsign els).find "point" = some (point py pos) :=
    find_point _ _ _
  have hdetail : (trackElement py attrib pos callsign els).find "detail" =
      some (contactDetail callsign els) := find_detail _ _ _
  refine ⟨envelope (written py naming env (trackElement py attrib pos callsign els) (u / 1000))
    kind (payload (eventUid py env) callsign track.1 track.2 detection),
    trip_of_decodeEvent hel ?_, rfl, rfl, rfl, rfl⟩
  rw [decodeEvent_tostring hnames hel hlegal hu hfour, hkind, if_neg hchat]
  refine decodeTrackEvent_eq_ok.mpr ⟨{ p with courseDeg := none, speedMs := none }, track,
    detection, ?_, ?_, hvalid, ?_, ?_⟩
  · show escapes (decodePoint py ((trackElement py attrib pos callsign els).find "point")) = _
    rw [hpoint, decodePoint_point hp]
    rfl
  · show guarded (decodeRicherDetail py naming
      ((trackElement py attrib pos callsign els).find "detail") _) = _
    rw [hdetail, htrack]
    rfl
  · show detectionOf py naming (naming.kindFor (naming.typeOf env.kind))
      ((trackElement py attrib pos callsign els).find "detail") = _
    rw [hkindFor, hdetail, hdetection]
  · rw [callsignOf_trackElement]
    show _ = envelope _ (naming.kindFor (naming.typeOf env.kind)) _
    rw [hkindFor]
    rfl

/-- Without richer detail there is neither course nor telemetry. -/
theorem decodeRicherDetail_bare {detail : Element} (p : Position)
    (hfind : ∀ name ∈ [naming.trackElement, naming.statusElement, naming.vendorElement,
      naming.attitudeElement], detail.find name = none) :
    decodeRicherDetail py naming (some detail) p = .ok (p, {}) := by
  simp only [List.forall_mem_cons] at hfind
  obtain ⟨htrack, hstatus, hvendor, hattitude, -⟩ := hfind
  have hbattery : batteryAttr py naming detail = .ok none := by
    rw [batteryAttr, hstatus]
    rfl
  show (decodeTrack py naming detail p >>= _) = _
  rw [decodeTrack, htrack]
  show (decodeStatusAndVendor py naming detail >>= _) = _
  rw [decodeStatusAndVendor, hbattery, hvendor]
  show (decodeAttitude py naming detail {} >>= _) = _
  rw [decodeAttitude, hattitude]
  rfl

/-- The children of a PLI that carry the richer detail, if any. -/
def pliNodes (py : Interpreter) (naming : CotNaming) (pos telemetry attitude : Dict) :
    List Element :=
  if naming.emitDetail then richerNodes py naming pos telemetry attitude else []

theorem legal_pliNodes {p : Position} {t : Telemetry} {a : Attitude}
    {pos telemetry attitude : Dict} (hp : p.HeldBy pos) (ht : t.HeldBy telemetry)
    (ha : a.HeldBy attitude) :
    ∀ child ∈ pliNodes py naming pos telemetry attitude, Py.Xml.legal child = true := by
  rw [pliNodes]
  split_ifs
  · exact legal_richerNodes hp ht ha
  · exact List.forall_mem_nil _

/-- What is decoded from the detail of a PLI. -/
theorem decodeRicherDetail_pliNodes (hstd : naming.Standard) {callsign : String}
    {groupAttrib : List (String × String)} {p : Position} {t : Telemetry}
    {pos telemetry attitude : Dict} (hp : p.HeldBy pos)
    (hpaired : p.courseDeg.isSome = p.speedMs.isSome) (ht : t.HeldBy telemetry)
    (ha : (t.attitude.getD {}).HeldBy attitude) (hvalid : t.Valid) :
    decodeRicherDetail py naming (some (contactDetail callsign
      (node "__group" groupAttrib :: pliNodes py naming pos telemetry attitude)))
        { p with courseDeg := none, speedMs := none } =
      .ok (if naming.emitDetail then p else { p with courseDeg := none, speedMs := none },
        if naming.emitDetail then t.pruned else {}) := by
  have hfind : ∀ name ∈ [naming.trackElement, naming.statusElement, naming.vendorElement,
      naming.attitudeElement], (contactDetail callsign (node "__group" groupAttrib ::
        pliNodes py naming pos telemetry attitude)).find name =
          (pliNodes py naming pos telemetry attitude).find? (·.tag = name) := by
    rw [hstd.track, hstd.status, hstd.vendor, hstd.attitude]
    intro name hname
    have hne : "contact" ≠ name ∧ "__group" ≠ name := by
      simp only [List.mem_cons, List.not_mem_nil, or_false] at hname
      rcases hname with rfl | rfl | rfl | rfl <;> decide +kernel
    rw [contactDetail, find_of_ne (by exact hne.1), List.find?_cons,
      decide_eq_false (by exact hne.2)]
  by_cases hemit : naming.emitDetail = true
  · simp only [if_pos hemit]
    apply decodeRicherDetail_nodes hstd hp hpaired ht ha hvalid
    rw [pliNodes, if_pos hemit] at hfind
    rw [pliNodes, if_pos hemit]
    exact hfind
  · simp only [if_neg hemit]
    apply decodeRicherDetail_bare
    intro name hname
    rw [hfind name hname, pliNodes, if_neg hemit]
    rfl

/-- The element of a valid PLI. -/
theorem encodeEnvelope_pli {callsign tier : String} {p : Position} {t : Telemetry}
    (h : ValidPli py env callsign tier p t) {u v : ℤ} (hu : Py.fromtimestamp env.ts = .ok u)
    (hv : Py.fromtimestamp (env.ts.add naming.staleS) = .ok v) :
    ∃ attrib pos telemetry attitude,
      naming.event env.sourceUid naming.pliType env.ts = .ok attrib ∧ p.HeldBy pos ∧
        t.HeldBy telemetry ∧ (t.attitude.getD {}).HeldBy attitude ∧
          encodeEnvelope py naming env = .ok (trackElement py attrib pos callsign
            (node "__group" [("name", tier), ("role", "Team Member")] ::
              pliNodes py naming pos telemetry attitude)) := by
  obtain ⟨info, hinfo, hcallsign, rfl⟩ := h.node
  obtain ⟨pos, hpos, hp⟩ := h.position
  obtain ⟨telemetry, htelemetry, ht⟩ := h.telemetry
  obtain ⟨attitude, hattitude, ha⟩ := ht.attitude
  obtain ⟨attrib, hattrib⟩ : ∃ attrib, naming.event env.sourceUid naming.pliType env.ts =
    .ok attrib := exists_event hu hv
  have hricher : richerDetail py naming env.payload pos =
      .ok (pliNodes py naming pos telemetry attitude) := by
    rw [richerDetail, pliNodes]
    split_ifs
    · rw [htelemetry, emitRicherDetail]
      show ((Dict.getOr telemetry "attitude" (.dict [])).entries >>= _) = _
      rw [hattitude]
      rfl
    · rfl
  refine ⟨attrib, pos, telemetry, attitude, hattrib, hp, ht, ha, ?_⟩
  rw [encodeEnvelope, h.kind]
  refine encodePli_eq_ok.mpr ⟨attrib, pos, info, _, hattrib, ?_, ?_, hricher, ?_⟩
  · rw [hpos]
    rfl
  · rw [hinfo]
    rfl
  · rw [hcallsign]
    rfl

/-- **A PLI makes the trip.**  Its source, callsign and position arrive, with course, speed
and telemetry unless the detail is switched off. -/
theorem pli_trip (et : ElementTree) (naming : CotNaming) (hstd : naming.Standard)
    (hlegal : naming.Legal) (hkind : naming.decodedKind naming.pliType = .pli)
    {callsign : String} {p : Position} {t : Telemetry} (h : IsPli py env callsign p t) {u v : ℤ}
    (hu : Py.fromtimestamp env.ts = .ok u) (hfour : Py.fourDigitMillis ≤ u / 1000)
    (hv : Py.fromtimestamp (env.ts.add naming.staleS) = .ok v) :
    ∃ e', Trip py et naming env e' ∧ e'.kind = .pli ∧ e'.sourceUid = env.sourceUid ∧
      e'.payload = payload env.sourceUid callsign
        (if naming.emitDetail then p else { p with courseDeg := none, speedMs := none })
        (if naming.emitDetail then t.pruned else {}) none := by
  obtain ⟨tier, hvalidPli, htier⟩ := h.valid
  obtain ⟨attrib, pos, telemetry, attitude, hattrib, hp, ht, ha, hel⟩ :=
    encodeEnvelope_pli hvalidPli hu hv
  have huid : eventUid py env = env.sourceUid := by
    rw [eventUid, h.kind]
  have htype : naming.typeOf env.kind = naming.pliType := by
    rw [h.kind]
    rfl
  have hlegalEl : Py.Xml.legal (trackElement py attrib pos callsign
      (node "__group" [("name", tier), ("role", "Team Member")] ::
        pliNodes py naming pos telemetry attitude)) = true := by
    rw [← htype] at hattrib
    refine (legal_trackElement_iff hp).mpr ⟨legal_event hlegal h.source_legal hattrib,
      h.callsign_legal, List.forall_mem_cons.mpr ⟨?_, legal_pliNodes hp ht ha⟩⟩
    exact legal_group.mpr htier
  have hvalid : (if naming.emitDetail then p
      else { p with courseDeg := none, speedMs := none } : Position).Valid ∧
        (if naming.emitDetail then t.pruned else {} : Telemetry).Valid := by
    split_ifs
    · exact ⟨h.position_valid, h.telemetry_valid.pruned⟩
    · exact ⟨h.position_valid.bare, Telemetry.valid_empty⟩
  rw [← htype] at hkind
  obtain ⟨e', htrip, hkind', hsource, -, hpayload⟩ :=
    trip_of_parts hstd.wellNamed hel hlegalEl hu hfour hp hkind (by decide)
      (decodeRicherDetail_pliNodes hstd hp h.paired ht ha h.telemetry_valid) hvalid rfl
  rw [huid] at hsource hpayload
  exact ⟨e', htrip, hkind', hsource, hpayload⟩

/-- **Rich PLI round trip.**  By default a PLI keeps its source, callsign, position and
telemetry, where an attitude without an angle is no attitude; with the detail switched off
it keeps neither course nor speed nor telemetry. -/
theorem pli_round_trip (py : Interpreter) (et : ElementTree) {env : Envelope} {callsign : String}
    {p : Position} {t : Telemetry} {q : ℚ} (h : IsPli py env callsign p t) (hts : env.ts = .fin q)
    (hfloat : Py.binary64 q = q) (hepoch : 0 ≤ q) (hstale : q + 120 < Py.epochEnd) :
    (∃ e', Trip py et {} env e' ∧ e'.kind = .pli ∧ e'.sourceUid = env.sourceUid ∧
      e'.payload.lookup "node" =
        some (.dict [("uid", .str env.sourceUid), ("callsign", .str callsign)]) ∧
      e'.payload.lookup "position" = some (.dict p.dump) ∧
      e'.payload.lookup "telemetry" =
        if t.pruned = {} then none else some (.dict t.pruned.dump)) ∧
    ∃ e', Trip py et { emitDetail := false } env e' ∧ e'.kind = .pli ∧
      e'.sourceUid = env.sourceUid ∧
      e'.payload.lookup "node" =
        some (.dict [("uid", .str env.sourceUid), ("callsign", .str callsign)]) ∧
      e'.payload.lookup "position" =
        some (.dict { p with courseDeg := none, speedMs := none : Position }.dump) ∧
      e'.payload.lookup "telemetry" = none := by
  have hend : q < Py.epochEnd := by linarith
  obtain ⟨u, hu, hu0⟩ := Py.exists_fromtimestamp hepoch hfloat hend
  obtain ⟨v, hv⟩ := (Py.exists_fromtimestamp_add_iff hepoch hfloat hend).mpr hstale
  have hfour := Py.fourDigitMillis_le hu0
  rw [← hts] at hu hv
  constructor
  · obtain ⟨e', htrip, hkind, hsource, hpayload⟩ :=
      pli_trip et {} (CotNaming.standard_default true) (CotNaming.legal_default true)
        (by decide +kernel) h hu hfour hv
    refine ⟨e', htrip, hkind, hsource, ?_⟩
    rw [hpayload]
    refine ⟨rfl, rfl, ?_⟩
    show List.lookup "telemetry" (payload env.sourceUid callsign p t.pruned none) = _
    rw [payload]
    split_ifs <;> rfl
  · obtain ⟨e', htrip, hkind, hsource, hpayload⟩ :=
      pli_trip et { emitDetail := false } (CotNaming.standard_default false)
        (CotNaming.legal_default false) (by decide +kernel) h hu hfour hv
    refine ⟨e', htrip, hkind, hsource, ?_⟩
    rw [hpayload]
    exact ⟨rfl, rfl, rfl⟩

/-- A moving drone with a battery and an attitude. -/
def flying : Envelope where
  msgId := "m1"
  ts := .fin 0
  sourceUid := "uav1"
  kind := .pli
  payload := [("node", .dict [("uid", .str "uav1"), ("callsign", .str "ALPHA"), ("tier", .str "user")]),
    ("position", .dict [("lat", .float (.fin 48)), ("lon", .float (.fin 11)),
      ("course_deg", .float (.fin 90)), ("speed_ms", .float (.fin 5))]),
    ("telemetry", .dict [("battery_pct", .int 80),
      ("attitude", .dict [("roll_deg", .float (.fin 2))])])]

def cruise : Position where
  lat := .fin 48
  lon := .fin 11
  courseDeg := some (.fin 90)
  speedMs := some (.fin 5)

theorem isPli_flying (py : Interpreter) :
    IsPli py flying "ALPHA" cruise
      { batteryPct := some 80, attitude := some { rollDeg := some (.fin 2) } } where
  kind := rfl
  source_legal := by decide +kernel
  callsign_legal := by decide +kernel
  node := ⟨_, rfl, rfl, (by decide +kernel : Py.Xml.isLegal "user" = true)⟩
  position := ⟨_, rfl, rfl, rfl, rfl, rfl, rfl, rfl, rfl⟩
  position_valid := by decide +kernel
  telemetry := ⟨_, rfl, rfl, rfl, rfl, _, rfl, rfl, rfl, rfl⟩
  telemetry_valid := by decide +kernel
  paired := rfl

theorem pli_round_trip_flying :
    ∃ e', Trip Interpreter.plain ElementTree.plain {} flying e' ∧ e'.kind = .pli ∧
      e'.sourceUid = "uav1" ∧
      e'.payload.lookup "node" = some (.dict [("uid", .str "uav1"), ("callsign", .str "ALPHA")]) ∧
      e'.payload.lookup "position" = some (.dict cruise.dump) ∧
      e'.payload.lookup "telemetry" = some (.dict [("battery_pct", .int 80),
        ("attitude", .dict [("roll_deg", .float (.fin 2))])]) :=
  (pli_round_trip Interpreter.plain ElementTree.plain (isPli_flying _) rfl Py.binary64_zero le_rfl
    (by norm_num [Py.epochEnd])).1

/-! ## Markers -/

/-- The label of a marker. -/
def labelOf (det : Option Detection) : String := (det.map Detection.label).getD "detection"

/-- A dictionary holds a detection, or nothing. -/
def DetectionHeldBy : Option Detection → Dict → Prop
  | none, d => d = []
  | some det, d => det.HeldBy d

/-- A valid marker envelope, with or without a detection. -/
structure ValidMarker (env : Envelope) (callsign : String) (p : Position)
    (det : Option Detection) : Prop where
  kind : env.kind = .marker
  node : ∃ info, Dict.getOr env.payload "node" (.dict []) = .dict info ∧
    Dict.get info "callsign" (.str (labelOf det)) = .str callsign
  position : ∃ d, Dict.getOr env.payload "position" (.dict []) = .dict d ∧ p.HeldBy d
  position_valid : p.Valid
  detection : ∃ d, Dict.getOr env.payload "detection" (.dict []) = .dict d ∧ DetectionHeldBy det d
  detection_valid : ∀ d ∈ det, d.Valid

/-- A valid marker envelope without course and speed, with legal texts. -/
structure IsMarker (env : Envelope) (callsign : String) (p : Position) (det : Detection) :
    Prop where
  kind : env.kind = .marker
  source_legal : Py.Xml.isLegal env.sourceUid = true
  callsign_legal : Py.Xml.isLegal callsign = true
  label_legal : Py.Xml.isLegal det.label = true
  node : ∃ info, Dict.getOr env.payload "node" (.dict []) = .dict info ∧
    Dict.get info "callsign" (.str det.label) = .str callsign
  position : ∃ d, Dict.getOr env.payload "position" (.dict []) = .dict d ∧ p.HeldBy d
  position_valid : p.Valid
  bare : p.courseDeg = none ∧ p.speedMs = none
  detection : ∃ d, Dict.getOr env.payload "detection" (.dict []) = .dict d ∧ det.HeldBy d
  detection_valid : det.Valid

theorem IsMarker.valid {callsign : String} {p : Position} {det : Detection}
    (h : IsMarker env callsign p det) : ValidMarker env callsign p (some det) where
  kind := h.kind
  node := h.node
  position := h.position
  position_valid := h.position_valid
  detection := h.detection
  detection_valid _ hd := Option.mem_some.mp hd ▸ h.detection_valid

theorem bare_eq_self {p : Position} (h : p.courseDeg = none ∧ p.speedMs = none) :
    ({ p with courseDeg := none, speedMs := none } : Position) = p := by
  obtain ⟨lat, lon, hae, ce, le, course, speed⟩ := p
  obtain ⟨hcourse, hspeed⟩ := h
  cases hcourse
  cases hspeed
  rfl

/-- The uid of a marker, with the tracker id if there is one. -/
def trackUid (sourceUid : String) : Option ℤ → String
  | none => sourceUid
  | some k => sourceUid ++ ":" ++ String.ofList (Decimal.signed k)

theorem markerUid_eq {det : Detection} {d : Dict} (h : det.HeldBy d) (sourceUid : String) :
    markerUid py sourceUid d = trackUid sourceUid det.trackId := by
  rw [markerUid, h.track_id]
  cases det.trackId <;> rfl

theorem isLegal_trackUid {sourceUid : String} (h : Py.Xml.isLegal sourceUid = true)
    (trackId : Option ℤ) : Py.Xml.isLegal (trackUid sourceUid trackId) = true := by
  cases trackId with
  | none => exact h
  | some k =>
      rw [trackUid, isLegal_append, isLegal_append, h, isLegal_signed]
      decide +kernel

/-- A uid with a tracker id is longer than the source. -/
theorem trackUid_eq_self {sourceUid : String} {trackId : Option ℤ} :
    trackUid sourceUid trackId = sourceUid ↔ trackId = none := by
  cases trackId with
  | none => exact iff_of_true rfl rfl
  | some k =>
      refine iff_of_false ?_ nofun
      intro h
      have hlength := congrArg String.length h
      rw [trackUid, String.length_append, String.length_append] at hlength
      have hcolon : ":".length = 1 := by decide +kernel
      omega

/-- The element that carries a detection. -/
def detectionNode (py : Interpreter) (naming : CotNaming) (det : Detection) (d : Dict) : Element :=
  node naming.detectionElement ([("label", det.label), ("confidence", py.str det.confidence)] ++
    attrs py d [("track_id", "track_id"), ("bearing_deg", "bearing_deg")])

theorem nodeOfAttrs_detection {det : Detection} {d : Dict} (h : det.HeldBy d) :
    nodeOfAttrs naming.detectionElement (detectionAttrs py d det.label) =
      [detectionNode py naming det d] := by
  have hconfidence : Dict.get? d "confidence" = some (.float det.confidence) := by
    rw [Dict.get?, h.confidence]
  rw [nodeOfAttrs, detectionAttrs, hconfidence]
  rfl

theorem legal_detectionNode {det : Detection} {d : Dict} (h : det.HeldBy d)
    (hlabel : Py.Xml.isLegal det.label = true) :
    Py.Xml.legal (detectionNode py naming det d) = true := by
  refine legal_node ?_ rfl (List.forall_mem_nil _)
  intro kv hkv
  rcases List.mem_append.mp hkv with hkv | hkv
  · simp only [List.mem_cons, List.not_mem_nil, or_false] at hkv
    rcases hkv with rfl | rfl
    · exact hlabel
    · exact isLegal_str _
  · refine legal_attrs ?_ kv hkv
    exact List.forall_mem_cons.mpr
      ⟨.inr ⟨_, h.track_id⟩, List.forall_mem_singleton.mpr (.inl ⟨_, h.bearing⟩)⟩

/-- The remarks of a marker. -/
theorem exists_remarks (py : Interpreter) {det : Option Detection} {d : Dict}
    (h : DetectionHeldBy det d) : ∃ remarks, markerRemarks py d (labelOf det) = .ok remarks ∧
      Py.Xml.isLegal remarks = Py.Xml.isLegal (labelOf det) := by
  cases det with
  | none =>
      cases h
      exact ⟨"detection", rfl, rfl⟩
  | some det =>
      have h : det.HeldBy d := h
      have hconfidence : Dict.get? d "confidence" = some (.float det.confidence) := by
        rw [Dict.get?, h.confidence]
      have hspace : Py.Xml.isLegal " " = true := by decide +kernel
      have hpercent : Py.Xml.isLegal "%" = true := by decide +kernel
      have hbearing : Py.Xml.isLegal " bearing " = true := by decide +kernel
      have hdegree : Py.Xml.isLegal "°" = true := by decide +kernel
      have hfirst : confidenceRemarks py d det.label =
          .ok (det.label ++ " " ++ py.fixed0 (det.confidence.scale 100) ++ "%") := by
        rw [confidenceRemarks, hconfidence]
        rfl
      show ∃ remarks, markerRemarks py d det.label = .ok remarks ∧
        Py.Xml.isLegal remarks = Py.Xml.isLegal det.label
      rw [markerRemarks, hfirst, h.bearing]
      cases det.bearingDeg with
      | none =>
          refine ⟨_, rfl, ?_⟩
          simp only [isLegal_append, hspace, isLegal_fixed0, hpercent, Bool.and_true]
      | some bearing =>
          refine ⟨_, rfl, ?_⟩
          simp only [isLegal_append, hspace, isLegal_fixed0, hpercent, hbearing, hdegree, Bool.and_true]

/-- A detection is read back. -/
theorem decodeDetection_node {detail : Element} {det : Detection} {d : Dict} (h : det.HeldBy d)
    (hvalid : det.Valid)
    (hfind : detail.find naming.detectionElement = some (detectionNode py naming det d)) :
    decodeDetection py naming (some detail) = .ok (some det) := by
  have htrack : (detectionNode py naming det d).get "track_id" =
      det.trackId.map fun k ↦ String.ofList (Decimal.signed k) := by
    show (attrs py d [("track_id", "track_id"), ("bearing_deg", "bearing_deg")]).lookup
      "track_id" = _
    rw [lookup_attrs d (by decide)]
    show (Dict.get? d "track_id").map py.strOf = _
    rw [h.track_id, Option.map_map]
    rfl
  have hbearing : (detectionNode py naming det d).get "bearing_deg" =
      det.bearingDeg.map py.str :=
    lookup_attrs_float (by decide) rfl h.bearing
  have hid : trackIdAttr py (detectionNode py naming det d) = .ok det.trackId := by
    rw [trackIdAttr, htrack]
    cases det.trackId with
    | none => rfl
    | some k =>
        rw [Option.map_some]
        dsimp only
        rw [Py.intOfString, py.intOfStr_signed]
        rfl
  have hconfidence : (detectionNode py naming det d).get "confidence" =
    some (py.str det.confidence) := rfl
  have hlabel : (detectionNode py naming det d).get "label" = some det.label := rfl
  rw [decodeDetection, Option.bind_some, hfind]
  dsimp only
  rw [hconfidence]
  dsimp only
  rw [floatOfStr_str, hid, floatAttr_of_get hbearing, hlabel]
  exact if_pos hvalid

theorem eventUid_marker (py : Interpreter) {callsign : String} {p : Position}
    {det : Option Detection} (h : ValidMarker env callsign p det) :
    eventUid py env = trackUid env.sourceUid (det.bind Detection.trackId) := by
  obtain ⟨d, hd, hdet⟩ := h.detection
  rw [eventUid, h.kind]
  dsimp only
  rw [hd]
  cases det with
  | none =>
      cases hdet
      rfl
  | some det => exact markerUid_eq hdet _

/-- The element of a valid marker. -/
theorem encodeEnvelope_marker (py : Interpreter) (naming : CotNaming) {callsign : String}
    {p : Position} {det : Option Detection} (h : ValidMarker env callsign p det) {u v : ℤ}
    (hu : Py.fromtimestamp env.ts = .ok u)
    (hv : Py.fromtimestamp (env.ts.add naming.staleS) = .ok v) :
    ∃ attrib pos d remarks, naming.event (trackUid env.sourceUid (det.bind Detection.trackId))
        naming.markerType env.ts = .ok attrib ∧
      p.HeldBy pos ∧ DetectionHeldBy det d ∧
        Py.Xml.isLegal remarks = Py.Xml.isLegal (labelOf det) ∧
          encodeEnvelope py naming env = .ok (trackElement py attrib pos callsign
            (nodeOfAttrs naming.detectionElement (detectionAttrs py d (labelOf det)) ++
              [.mk "remarks" [] remarks []])) := by
  obtain ⟨info, hinfo, hcallsign⟩ := h.node
  obtain ⟨pos, hpos, hp⟩ := h.position
  obtain ⟨d, hd, hdet⟩ := h.detection
  obtain ⟨attrib, hattrib⟩ : ∃ attrib, naming.event
    (trackUid env.sourceUid (det.bind Detection.trackId)) naming.markerType env.ts = .ok attrib :=
      exists_event hu hv
  obtain ⟨remarks, hremarks, hlegal⟩ := exists_remarks py hdet
  have hlabel : py.strOf (Dict.get d "label" (.str "detection")) = labelOf det := by
    cases det with
    | none =>
        cases hdet
        rfl
    | some det =>
        rw [Dict.get, Detection.HeldBy.label hdet]
        rfl
  have huid : markerUid py env.sourceUid d =
      trackUid env.sourceUid (det.bind Detection.trackId) := by
    rw [← eventUid_marker py h, eventUid, h.kind]
    dsimp only
    rw [hd]
  refine ⟨attrib, pos, d, remarks, hattrib, hp, hdet, hlegal, ?_⟩
  rw [encodeEnvelope, h.kind]
  refine encodeMarker_eq_ok.mpr ⟨attrib, pos, d, info, remarks, ?_, ?_, ?_, ?_, ?_, ?_⟩
  · rw [hpos]
    rfl
  · rw [hd]
    rfl
  · rw [hinfo]
    rfl
  · rw [huid, hattrib]
  · rw [hlabel, hremarks]
  · rw [hlabel, hcallsign]
    rfl

/-- **A marker makes the trip.**  Its uid becomes its source; position and detection
arrive. -/
theorem marker_trip (py : Interpreter) (et : ElementTree) (hstd : naming.Standard)
    (hlegal : naming.Legal) (hkind : naming.decodedKind naming.markerType = .marker)
    {callsign : String} {p : Position} {det : Detection} (h : IsMarker env callsign p det) {u v : ℤ}
    (hu : Py.fromtimestamp env.ts = .ok u) (hfour : Py.fourDigitMillis ≤ u / 1000)
    (hv : Py.fromtimestamp (env.ts.add naming.staleS) = .ok v) :
    ∃ e', Trip py et naming env e' ∧ e'.kind = .marker ∧
      e'.sourceUid = trackUid env.sourceUid det.trackId ∧ e'.ts = Py.timestamp (u / 1000) ∧
        e'.payload = payload (trackUid env.sourceUid det.trackId) callsign p {} (some det) := by
  obtain ⟨attrib, pos, d, remarks, hattrib, hp, hdet, hremarks, hel⟩ :=
    encodeEnvelope_marker py naming h.valid hu hv
  have hdet : det.HeldBy d := hdet
  rw [labelOf, Option.map_some, Option.getD_some, nodeOfAttrs_detection hdet] at hel
  have huid : eventUid py env = trackUid env.sourceUid det.trackId := eventUid_marker py h.valid
  have htype : naming.typeOf env.kind = naming.markerType := by
    rw [h.kind]
    rfl
  have hlegalEl : Py.Xml.legal (trackElement py attrib pos callsign
      [detectionNode py naming det d, .mk "remarks" [] remarks []]) = true := by
    rw [← htype] at hattrib
    refine (legal_trackElement_iff hp).mpr
      ⟨legal_event hlegal (isLegal_trackUid h.source_legal _) hattrib, h.callsign_legal,
        List.forall_mem_cons.mpr ⟨legal_detectionNode hdet h.label_legal,
          List.forall_mem_singleton.mpr ?_⟩⟩
    exact legal_node (List.forall_mem_nil _) (hremarks.trans h.label_legal) (List.forall_mem_nil _)
  have htrack : decodeRicherDetail py naming (some (contactDetail callsign
      [detectionNode py naming det d, .mk "remarks" [] remarks []]))
        { p with courseDeg := none, speedMs := none } = .ok (p, {}) := by
    rw [bare_eq_self h.bare]
    apply decodeRicherDetail_bare
    rw [hstd.track, hstd.status, hstd.vendor, hstd.attitude]
    intro name hname
    have hne : "contact" ≠ name ∧ "_meshsa_det" ≠ name ∧ "remarks" ≠ name := by
      simp only [List.mem_cons, List.not_mem_nil, or_false] at hname
      rcases hname with rfl | rfl | rfl | rfl <;> decide +kernel
    have htag : (detectionNode py naming det d).tag = "_meshsa_det" := hstd.detection
    rw [contactDetail, find_of_ne (by exact hne.1), List.find?_cons, htag,
      decide_eq_false hne.2.1, List.find?_singleton, if_neg]
    exact fun heq ↦ hne.2.2 (of_decide_eq_true heq)
  have hdetection : detectionOf py naming .marker (some (contactDetail callsign
      [detectionNode py naming det d, .mk "remarks" [] remarks []])) = .ok (some det) := by
    have hfind : (contactDetail callsign [detectionNode py naming det d,
        .mk "remarks" [] remarks []]).find naming.detectionElement =
          some (detectionNode py naming det d) := by
      rw [contactDetail, find_of_ne, List.find?_cons, decide_eq_true]
      · rfl
      · rw [hstd.detection]
        exact (by decide +kernel : "contact" ≠ "_meshsa_det")
    rw [detectionOf, if_pos rfl, decodeDetection_node hdet h.detection_valid hfind]
    rfl
  rw [← htype] at hkind
  obtain ⟨e', htrip, hkind', hsource, hts, hpayload⟩ :=
    trip_of_parts hstd.wellNamed hel hlegalEl hu hfour hp hkind (by decide) htrack
      ⟨h.position_valid, Telemetry.valid_empty⟩ hdetection
  rw [huid] at hsource hpayload
  exact ⟨e', htrip, hkind', hsource, hts, hpayload⟩

end Cot

end DroneComms.Mesh
