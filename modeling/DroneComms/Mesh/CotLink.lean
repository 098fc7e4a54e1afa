import DroneComms.Mesh.CotRelay

/-!
# Chats and repeated trips

A chat keeps its sender only if that is its msg_id, and never its addressee.  A
marker is one entity over any number of trips if it has no tracker id; with one its
source grows at every trip.
-/

namespace DroneComms.Mesh

open Py (PyFloat Value Dict PyError Element Interpreter ElementTree Bytes)

namespace Cot

variable {py : Interpreter} {et : ElementTree} {naming : CotNaming} {env e' : Envelope}

/-! ## Chats -/

/-- A valid chat envelope. -/
structure ValidChat (env : Envelope) (text : String) (addressee : Option String) : Prop where
  kind : env.kind = .chat
  text : env.payload.lookup "text" = some (.str text)
  addressee : Dict.get? env.payload "to" = addressee.map .str

/-- A valid chat envelope with legal texts. -/
structure IsChat (env : Envelope) (text : String) (addressee : Option String) : Prop where
  kind : env.kind = .chat
  source_legal : Py.Xml.isLegal env.sourceUid = true
  id_legal : Py.Xml.isLegal env.msgId = true
  text_legal : Py.Xml.isLegal text = true
  addressee_legal : ∀ room ∈ addressee, Py.Xml.isLegal room = true
  text : env.payload.lookup "text" = some (.str text)
  addressee : Dict.get? env.payload "to" = addressee.map .str

theorem IsChat.valid {text : String} {addressee : Option String} (h : IsChat env text addressee) :
    ValidChat env text addressee := ⟨h.kind, h.text, h.addressee⟩

/-- A room is the addressee, or a default of legal characters. -/
theorem isLegal_room (py : Interpreter) {text : String} {addressee : Option String}
    (h : ValidChat env text addressee) {default : String} (hdefault : Py.Xml.isLegal default = true) :
    Py.Xml.isLegal (room py env default) = true ↔ ∀ room ∈ addressee, Py.Xml.isLegal room = true := by
  have hto := h.addressee
  rw [room, Dict.getOr]
  rw [Dict.get?] at hto
  cases addressee with
  | none =>
      split at hto
      next heq =>
        rw [heq]
        exact iff_of_true hdefault fun _ hroom ↦ absurd hroom (Option.not_mem_none _)
      next heq =>
        rw [heq]
        exact iff_of_true hdefault fun _ hroom ↦ absurd hroom (Option.not_mem_none _)
      next => cases hto
  | some r =>
      have hroom : (∀ room ∈ some r, Py.Xml.isLegal room = true) ↔ Py.Xml.isLegal r = true := by simp
      rw [hroom]
      split at hto
      next => cases hto
      next => cases hto
      next v _ heq =>
        cases hto
        rw [heq]
        dsimp only
        split_ifs with htruthy
        · exact Iff.rfl
        · have hempty : r = "" := by simpa [Value.truthy] using htruthy
          rw [hempty]
          exact iff_of_true hdefault rfl

/-- The event of a chat. -/
def chatElement (py : Interpreter) (env : Envelope) (attrib : List (String × String))
    (text : String) : Element :=
  node "event" attrib [
    node "point" [("lat", "0.0"), ("lon", "0.0"), ("hae", "0.0"),
      ("ce", py.str unknownErrorM), ("le", py.str unknownErrorM)],
    node "detail" []
      [node "__chat" [("senderCallsign", env.sourceUid), ("id", room py env "All Chat Rooms")]
        [node "chatgrp" [("uid0", env.sourceUid), ("uid1", room py env "All")]],
      .mk "remarks" [] text []]]

theorem legal_chatElement_iff {text : String} {addressee : Option String}
    (h : ValidChat env text addressee) {attrib : List (String × String)} :
    Py.Xml.legal (chatElement py env attrib text) = true ↔
      (∀ kv ∈ attrib, Py.Xml.isLegal kv.2 = true) ∧ Py.Xml.isLegal env.sourceUid = true ∧
        (∀ room ∈ addressee, Py.Xml.isLegal room = true) ∧ Py.Xml.isLegal text = true := by
  have hroom := isLegal_room py h (by decide +kernel : Py.Xml.isLegal "All" = true)
  have hrooms := isLegal_room py h
    (by decide +kernel : Py.Xml.isLegal "All Chat Rooms" = true)
  have hzero : Py.Xml.isLegal "0.0" = true := by decide +kernel
  have hremarks : Py.Xml.legal (.mk "remarks" [] text []) = true ↔ Py.Xml.isLegal text = true := by
    rw [Py.Xml.legal_iff]
    exact ⟨fun hlegal ↦ hlegal.2.1, fun htext ↦ ⟨nofun, htext, nofun⟩⟩
  simp only [chatElement, legal_node_iff, List.forall_mem_cons, List.not_mem_nil, false_imp_iff,
    implies_true, and_true, hzero, isLegal_str, hroom, hrooms, hremarks, true_and]
  tauto

/-- The element of a valid chat. -/
theorem encodeEnvelope_chat (py : Interpreter) {text : String} {addressee : Option String}
    (h : ValidChat env text addressee) {u v : ℤ} (hu : Py.fromtimestamp env.ts = .ok u)
    (hv : Py.fromtimestamp (env.ts.add naming.staleS) = .ok v) :
    ∃ attrib, naming.event env.msgId naming.chatType env.ts = .ok attrib ∧
      encodeEnvelope py naming env = .ok (chatElement py env attrib text) := by
  obtain ⟨attrib, hattrib⟩ : ∃ attrib, naming.event env.msgId naming.chatType env.ts =
    .ok attrib := exists_event hu hv
  have htext : elementText (Dict.get env.payload "text" (.str "")) = .ok text := by
    rw [Dict.get, h.text]
    rfl
  refine ⟨attrib, hattrib, ?_⟩
  rw [encodeEnvelope, h.kind]
  exact encodeChat_eq_ok.mpr ⟨attrib, text, hattrib, htext, rfl⟩

/-- The text is found in the remarks. -/
theorem remarks_chatElement (env : Envelope) (attrib : List (String × String)) (text : String) :
    (((((chatElement py env attrib text).find "detail").map Py.Xml.normalize).bind fun d ↦
      d.find "remarks").map Element.text).getD "" =
        String.ofList (Py.Xml.normalizeNewlines text.toList) := by
  have hne : (node "__chat" [("senderCallsign", env.sourceUid),
      ("id", room py env "All Chat Rooms")]
        [node "chatgrp" [("uid0", env.sourceUid), ("uid1", room py env "All")]]).tag ≠ "remarks" :=
    (by decide +kernel : "__chat" ≠ "remarks")
  have htag : (Element.mk "remarks" [] text []).tag = "remarks" := rfl
  rw [chatElement, find_detail, Option.map_some, Option.bind_some, Py.Xml.find_normalize,
    find_of_ne hne, List.find?_singleton, if_pos (decide_eq_true htag), Option.map_some,
    Option.map_some, Py.Xml.text_normalize]
  rfl

/-- **A chat makes the trip.**  Its msg_id becomes its source, and nobody is
addressed. -/
theorem chat_trip (et : ElementTree) (hnames : naming.WellNamed) (hlegal : naming.Legal)
    (hkind : naming.decodedKind naming.chatType = .chat) {text : String}
    {addressee : Option String} (h : IsChat env text addressee) {u v : ℤ}
    (hu : Py.fromtimestamp env.ts = .ok u) (hfour : Py.fourDigitMillis ≤ u / 1000)
    (hv : Py.fromtimestamp (env.ts.add naming.staleS) = .ok v) :
    ∃ e', Trip py et naming env e' ∧ e'.kind = .chat ∧ e'.sourceUid = env.msgId ∧
      e'.payload = [("text", .str (String.ofList (Py.Xml.normalizeNewlines text.toList))),
        ("to", .none)] := by
  obtain ⟨attrib, hattrib, hel⟩ := encodeEnvelope_chat py h.valid hu hv
  have htype : naming.typeOf env.kind = naming.chatType := by
    rw [h.kind]
    rfl
  have huid : eventUid py env = env.msgId := by
    rw [eventUid, h.kind]
  have hlegalEl : Py.Xml.legal (chatElement py env attrib text) = true := by
    rw [← htype] at hattrib
    exact (legal_chatElement_iff h.valid).mpr ⟨legal_event hlegal h.id_legal hattrib,
      h.source_legal, h.addressee_legal, h.text_legal⟩
  refine ⟨decodeChat (written py naming env
    (Py.Xml.normalize (chatElement py env attrib text)) (u / 1000))
      (((chatElement py env attrib text).find "detail").map Py.Xml.normalize),
    trip_of_decodeEvent hel ?_, rfl, huid, ?_⟩
  · rw [decodeEvent_tostring hnames hel hlegalEl hu hfour, htype, if_pos hkind]
  · show [("text", Value.str _), ("to", Value.none)] = _
    rw [remarks_chatElement]

/-- A stamp that cannot be written stops the trip. -/
theorem Trip.stale (h : Trip py et naming env e') :
    ∃ v, Py.fromtimestamp (env.ts.add naming.staleS) = .ok v := by
  obtain ⟨b, henc, -⟩ := h
  obtain ⟨el, hel, -⟩ := encode_eq_ok.mp henc
  obtain ⟨-, hattrib, -⟩ := encodeEnvelope_eq_ok hel
  obtain ⟨-, stale, -, hstale, -⟩ := CotNaming.event_eq_ok.mp hattrib
  obtain ⟨v, hv, -⟩ := Py.iso_eq_ok.mp hstale
  exact ⟨v, hv⟩

/-- The trip has one outcome. -/
theorem Trip.unique {e'' : Envelope} (h : Trip py et naming env e')
    (h' : Trip py et naming env e'') : e' = e'' := by
  obtain ⟨b, henc, hdec⟩ := h
  obtain ⟨b', henc', hdec'⟩ := h'
  rw [henc] at henc'
  cases henc'
  rw [hdec] at hdec'
  exact Except.ok.inj hdec'

/-- **What a chat keeps.**  Source, text and addressee survive the trip exactly if the
source is the msg_id, nobody is addressed, the text has no carriage return and the stale
stamp is before year 10000. -/
theorem chat_kept_iff (py : Interpreter) (et : ElementTree) {env : Envelope} {text : String}
    {addressee : Option String} {q : ℚ} (h : IsChat env text addressee) (hts : env.ts = .fin q)
    (hfloat : Py.binary64 q = q) (hepoch : 0 ≤ q) (hend : q < Py.epochEnd) :
    (∃ e', Trip py et {} env e' ∧ e'.kind = .chat ∧ e'.sourceUid = env.sourceUid ∧
      e'.payload.lookup "text" = some (.str text) ∧
        Dict.get? e'.payload "to" = addressee.map .str) ↔
      env.sourceUid = env.msgId ∧ addressee = none ∧ '\r' ∉ text.toList ∧
        q + 120 < Py.epochEnd := by
  obtain ⟨u, hu, hu0⟩ := Py.exists_fromtimestamp hepoch hfloat hend
  have hstale := Py.exists_fromtimestamp_add_iff hepoch hfloat hend
  have hfour := Py.fourDigitMillis_le hu0
  rw [← hts] at hu hstale
  have htrip : ∀ v, Py.fromtimestamp (env.ts.add (.fin 120)) = .ok v →
      ∃ e', Trip py et {} env e' ∧ e'.kind = .chat ∧ e'.sourceUid = env.msgId ∧
        e'.payload = [("text", .str (String.ofList (Py.Xml.normalizeNewlines text.toList))),
          ("to", .none)] := fun v hv ↦
    chat_trip et (CotNaming.standard_default true).wellNamed (CotNaming.legal_default true)
      (by decide +kernel) h hu hfour hv
  constructor
  · rintro ⟨e', hgot, -, hsource, htext, hto⟩
    obtain ⟨v, hv⟩ := hgot.stale
    obtain ⟨e'', hgot', -, hsource', hpayload⟩ := htrip v hv
    cases hgot.unique hgot'
    rw [hpayload] at htext hto
    refine ⟨hsource.symm.trans hsource', ?_, ?_, hstale.mp ⟨v, hv⟩⟩
    · cases addressee with
      | none => rfl
      | some r => cases hto
    · have hsame : String.ofList (Py.Xml.normalizeNewlines text.toList) = text :=
        Value.str.inj (Option.some.inj htext)
      apply Py.Xml.normalizeNewlines_eq_self.mp
      rw [← String.toList_ofList (l := Py.Xml.normalizeNewlines text.toList), hsame]
  · rintro ⟨hsource, rfl, hcr, hlt⟩
    obtain ⟨v, hv⟩ := hstale.mpr hlt
    obtain ⟨e', hgot, hkind, hsource', hpayload⟩ := htrip v hv
    refine ⟨e', hgot, hkind, hsource'.trans hsource.symm, ?_, ?_⟩
    · rw [hpayload, Py.Xml.normalizeNewlines_eq_self.mpr hcr, String.ofList_toList]
      rfl
    · rw [hpayload]
      rfl

/-- A chat to somebody. -/
def whisper : Envelope where
  msgId := "m1"
  ts := .fin 0
  sourceUid := "alice"
  kind := .chat
  payload := [("text", .str "hi"), ("to", .str "bob")]

theorem isChat_whisper : IsChat whisper "hi" (some "bob") where
  kind := rfl
  source_legal := by decide +kernel
  id_legal := by decide +kernel
  text_legal := by decide +kernel
  addressee_legal _ hroom := by
    cases hroom
    decide +kernel
  text := rfl
  addressee := rfl

theorem chat_loses_sender_and_addressee :
    IsChat whisper "hi" (some "bob") ∧ whisper.ts = .fin 0 ∧
      ¬∃ e', Trip Interpreter.plain ElementTree.plain {} whisper e' ∧ e'.kind = .chat ∧
        e'.sourceUid = whisper.sourceUid ∧ e'.payload.lookup "text" = some (.str "hi") ∧
          Dict.get? e'.payload "to" = some (.str "bob") := by
  refine ⟨isChat_whisper, rfl, ?_⟩
  rintro ⟨e', htrip, -, hsource, -, -⟩
  obtain ⟨-, -, hsource', -⟩ := htrip.identity (CotNaming.standard_default true).wellNamed
  rw [hsource'] at hsource
  exact absurd hsource (by decide +kernel)

/-- A chat whose msg_id is its source, to nobody. -/
def shout : Envelope where
  msgId := "alice"
  ts := .fin 0
  sourceUid := "alice"
  kind := .chat
  payload := [("text", .str "hi")]

theorem isChat_shout : IsChat shout "hi" none where
  kind := rfl
  source_legal := by decide +kernel
  id_legal := by decide +kernel
  text_legal := by decide +kernel
  addressee_legal _ hroom := nomatch hroom
  text := rfl
  addressee := rfl

theorem chat_kept_shout :
    ∃ e', Trip Interpreter.plain ElementTree.plain {} shout e' ∧ e'.kind = .chat ∧
      e'.sourceUid = "alice" ∧ e'.payload.lookup "text" = some (.str "hi") ∧
        Dict.get? e'.payload "to" = none :=
  (chat_kept_iff Interpreter.plain ElementTree.plain isChat_shout rfl Py.binary64_zero le_rfl
    (by norm_num [Py.epochEnd])).mpr
      ⟨rfl, rfl, by decide +kernel, by norm_num [Py.epochEnd]⟩

/-! ## Repeated trips -/

/-- A number of trips, one after the other. -/
def Trips (py : Interpreter) (et : ElementTree) (naming : CotNaming) :
    ℕ → Envelope → Envelope → Prop
  | 0, env, e' => e' = env
  | k + 1, env, e'' => ∃ e', Trip py et naming env e' ∧ Trips py et naming k e' e''

/-- The stamps of an envelope are those of an instant, with room for the stale window. -/
structure Stampable (ts : PyFloat) (n : ℤ) : Prop where
  instant : ∃ u, Py.fromtimestamp ts = .ok u ∧ u / 1000 = n
  stale : ∃ v, Py.fromtimestamp (ts.add (.fin 120)) = .ok v
  epoch : 0 ≤ n
  room : n + 120000 ≤ Py.maxMillis

theorem stampable_of_lt {q : ℚ} (hfloat : Py.binary64 q = q) (hepoch : 0 ≤ q)
    (hstale : q + 120 < Py.epochEnd) : ∃ n, Stampable (.fin q) n := by
  have hend : q < Py.epochEnd := by linarith
  obtain ⟨u, hu, hu0⟩ := Py.exists_fromtimestamp hepoch hfloat hend
  obtain ⟨v, hv⟩ := (Py.exists_fromtimestamp_add_iff hepoch hfloat hend).mpr hstale
  exact ⟨u / 1000, ⟨u, hu, rfl⟩, ⟨v, hv⟩, Int.ediv_nonneg hu0 (by norm_num),
    Py.room_of_fromtimestamp_add hu hv⟩

/-- What was read from a stamp can be stamped again, with the same instant or, if that is no
eighth of a second, the one before. -/
theorem stampable_timestamp {n : ℤ} (hepoch : 0 ≤ n) (hroom : n + 120000 ≤ Py.maxMillis) :
    ∃ n', Stampable (Py.timestamp n) n' ∧ (n' = n ∨ (n' = n - 1 ∧ ¬125 ∣ n)) := by
  have hmin : Py.minMillis ≤ n := le_trans (by decide) hepoch
  have hmax : n ≤ Py.maxMillis := by omega
  obtain ⟨u, hu, hu0, hun⟩ := Py.exists_fromtimestamp_timestamp hepoch hmax
  exact ⟨u / 1000, ⟨⟨u, hu, rfl⟩, Py.exists_fromtimestamp_add hmin hroom, hu0, by omega⟩,
    Py.fromtimestamp_timestamp hmin hmax hu⟩

/-- A marker without a tracker id, as it is decoded. -/
structure IsRelayed (env : Envelope) (sourceUid callsign : String) (p : Position)
    (det : Detection) : Prop where
  source : env.sourceUid = sourceUid
  marker : IsMarker env callsign p det
  payload : env.payload = Cot.payload sourceUid callsign p {} (some det)
  stampable : ∃ n, Stampable env.ts n

/-- The payload of a decoded marker holds what it was made from. -/
theorem isMarker_of_payload {callsign : String} {p : Position} {det : Detection}
    (h : IsMarker env callsign p det) (hkind : e'.kind = .marker)
    (hsource : Py.Xml.isLegal e'.sourceUid = true) {uid : String}
    (hpayload : e'.payload = payload uid callsign p {} (some det)) :
    IsMarker e' callsign p det where
  kind := hkind
  source_legal := hsource
  callsign_legal := h.callsign_legal
  label_legal := h.label_legal
  node := by
    rw [hpayload]
    exact ⟨_, rfl, rfl⟩
  position := by
    rw [hpayload]
    exact ⟨_, rfl, p.heldBy_dump⟩
  position_valid := h.position_valid
  bare := h.bare
  detection := by
    rw [hpayload]
    exact ⟨_, rfl, det.heldBy_dump⟩
  detection_valid := h.detection_valid

/-- One trip of a marker without a tracker id. -/
theorem marker_trip_relayed (py : Interpreter) (et : ElementTree) {callsign : String}
    {p : Position} {det : Detection} (h : IsMarker env callsign p det) (htrack : det.trackId = none)
    (hstamp : ∃ n, Stampable env.ts n) :
    ∃ e', Trip py et {} env e' ∧ IsRelayed e' env.sourceUid callsign p det := by
  obtain ⟨n, ⟨u, hu, rfl⟩, ⟨v, hv⟩, hepoch, hroom⟩ := hstamp
  obtain ⟨e', htrip, hkind, hsource, hts, hpayload⟩ :=
    marker_trip py et (CotNaming.standard_default true) (CotNaming.legal_default true)
      (by decide +kernel) h hu (le_trans (by decide) hepoch) hv
  rw [htrack] at hsource hpayload
  obtain ⟨n', hn', -⟩ := stampable_timestamp hepoch hroom
  have hlegal : Py.Xml.isLegal e'.sourceUid = true := hsource ▸ h.source_legal
  exact ⟨e', htrip, hsource, isMarker_of_payload h hkind hlegal hpayload, hpayload,
    n', hts ▸ hn'⟩

/-- A relayed marker stays what it is. -/
theorem trips_relayed (py : Interpreter) (et : ElementTree) {sourceUid callsign : String}
    {p : Position} {det : Detection} (htrack : det.trackId = none) (k : ℕ) :
    ∀ {env : Envelope}, IsRelayed env sourceUid callsign p det →
      ∃ e', Trips py et {} k env e' ∧ IsRelayed e' sourceUid callsign p det := by
  induction k with
  | zero => exact fun h ↦ ⟨_, rfl, h⟩
  | succ k ih =>
      intro env h
      obtain ⟨e', htrip, hrelayed⟩ := marker_trip_relayed py et h.marker htrack h.stampable
      rw [h.source] at hrelayed
      obtain ⟨e'', htrips, hrelayed'⟩ := ih hrelayed
      exact ⟨e'', ⟨e', htrip, htrips⟩, hrelayed'⟩

/-- The element of a marker that can be stamped has its uid. -/
theorem encodeEnvelope_uid (py : Interpreter) {callsign : String} {p : Position} {det : Detection}
    (h : IsMarker env callsign p det) (hstamp : ∃ n, Stampable env.ts n) :
    ∃ el, encodeEnvelope py {} env = .ok el ∧
      el.get "uid" = some (trackUid env.sourceUid det.trackId) := by
  obtain ⟨n, ⟨u, hu, -⟩, ⟨v, hv⟩, -, -⟩ := hstamp
  obtain ⟨attrib, pos, d, remarks, hattrib, -, -, -, hel⟩ :=
    encodeEnvelope_marker py {} h.valid hu hv
  refine ⟨_, hel, ?_⟩
  obtain ⟨time, stale, -, -, rfl⟩ := CotNaming.event_eq_ok.mp hattrib
  rfl

/-- A marker after some trips is the one before: kind, source, position, detection and the
uid of its next event. -/
structure Same (py : Interpreter) (env e' : Envelope) (p : Position) (det : Detection) : Prop where
  kind : e'.kind = .marker
  source : e'.sourceUid = env.sourceUid
  position : e'.payload.lookup "position" = some (.dict p.dump)
  detection : e'.payload.lookup "detection" = some (.dict det.dump)
  uid : ∃ el el' : Element, encodeEnvelope py {} env = .ok el ∧
    encodeEnvelope py {} e' = .ok el' ∧ el'.get "uid" = el.get "uid"

/-- **When a marker stays one entity.**  A marker is the same after every number of trips
exactly if it has no tracker id and its stale stamp is before year 10000. -/
theorem marker_same_iff (py : Interpreter) (et : ElementTree) {env : Envelope}
    {callsign : String} {p : Position} {det : Detection} {q : ℚ}
    (h : IsMarker env callsign p det) (hts : env.ts = .fin q) (hfloat : Py.binary64 q = q)
    (hepoch : 0 ≤ q) (hend : q < Py.epochEnd) :
    (∀ k, 0 < k → ∃ e', Trips py et {} k env e' ∧ Same py env e' p det) ↔
      det.trackId = none ∧ q + 120 < Py.epochEnd := by
  constructor
  · intro hsame
    obtain ⟨e', ⟨e'', htrip, rfl⟩, hkept⟩ := hsame 1 Nat.one_pos
    obtain ⟨u, hu, -⟩ := Py.exists_fromtimestamp hepoch hfloat hend
    obtain ⟨v, hv⟩ := htrip.stale
    have hstale : q + 120 < Py.epochEnd := by
      apply (Py.exists_fromtimestamp_add_iff hepoch hfloat hend).mp
      exact ⟨v, hts ▸ hv⟩
    obtain ⟨-, -, hsource, -⟩ := htrip.identity (CotNaming.standard_default true).wellNamed
    have huid : eventUid py env = trackUid env.sourceUid det.trackId := eventUid_marker py h.valid
    rw [hkept.source, huid] at hsource
    exact ⟨trackUid_eq_self.mp hsource.symm, hstale⟩
  · rintro ⟨htrack, hstale⟩ k hk
    have hstamp : ∃ n, Stampable env.ts n := by
      rw [hts]
      exact stampable_of_lt hfloat hepoch hstale
    obtain ⟨j, rfl⟩ := Nat.exists_eq_add_of_lt hk
    rw [zero_add]
    obtain ⟨e', htrip, hrelayed⟩ := marker_trip_relayed py et h htrack hstamp
    obtain ⟨e'', htrips, hrelayed'⟩ := trips_relayed py et htrack j hrelayed
    obtain ⟨el, hel, huid⟩ := encodeEnvelope_uid py h hstamp
    obtain ⟨el', hel', huid'⟩ := encodeEnvelope_uid py hrelayed'.marker hrelayed'.stampable
    refine ⟨e'', ⟨e', htrip, htrips⟩, hrelayed'.marker.kind, hrelayed'.source, ?_, ?_, el, el',
      hel, hel', ?_⟩
    · rw [hrelayed'.payload]
      rfl
    · rw [hrelayed'.payload]
      rfl
    · rw [huid, huid', hrelayed'.source]

/-- A detection of the tracker's object 7. -/
def car (trackId : Option ℤ) : Detection where
  label := "car"
  confidence := .fin (1 / 2)
  trackId := trackId

def here : Position where
  lat := .fin 48
  lon := .fin 11

/-- A marker for a detection. -/
def spotted (trackId : Option ℤ) : Envelope where
  msgId := "m1"
  ts := .fin 0
  sourceUid := "cam1"
  kind := .marker
  payload := payload "cam1" "car" here {} (some (car trackId))

theorem isMarker_spotted (trackId : Option ℤ) :
    IsMarker (spotted trackId) "car" here (car trackId) where
  kind := rfl
  source_legal := (by decide +kernel : Py.Xml.isLegal "cam1" = true)
  callsign_legal := by decide +kernel
  label_legal := (by decide +kernel : Py.Xml.isLegal "car" = true)
  node := ⟨_, rfl, rfl⟩
  position := ⟨_, rfl, here.heldBy_dump⟩
  position_valid := by decide +kernel
  bare := ⟨rfl, rfl⟩
  detection := ⟨_, rfl, (car trackId).heldBy_dump⟩
  detection_valid := ⟨(by decide +kernel : (PyFloat.fin (1 / 2)).isFinite = true ∧
    PyFloat.le (.fin 0) (.fin (1 / 2)) = true ∧ PyFloat.le (.fin (1 / 2)) (.fin 1) = true), nofun⟩

theorem marker_same_untracked :
    ∃ e', Trips Interpreter.plain ElementTree.plain {} 2 (spotted none) e' ∧
      Same Interpreter.plain (spotted none) e' here (car none) :=
  (marker_same_iff Interpreter.plain ElementTree.plain (isMarker_spotted none) rfl
    Py.binary64_zero le_rfl (by norm_num [Py.epochEnd])).mpr
      ⟨rfl, by norm_num [Py.epochEnd]⟩ 2 (by norm_num)

/-- With a tracker id the source of a marker changes at the first trip. -/
theorem tracked_marker_changes_source :
    IsMarker (spotted (some 7)) "car" here (car (some 7)) ∧
      ¬∃ e', Trip Interpreter.plain ElementTree.plain {} (spotted (some 7)) e' ∧
        e'.sourceUid = (spotted (some 7)).sourceUid := by
  refine ⟨isMarker_spotted (some 7), ?_⟩
  rintro ⟨e', htrip, hsource⟩
  obtain ⟨-, -, hsource', -⟩ := htrip.identity (CotNaming.standard_default true).wellNamed
  rw [hsource'] at hsource
  exact absurd hsource (by decide +kernel)

end Cot

end DroneComms.Mesh
