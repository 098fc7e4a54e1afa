import DroneComms.Mesh.CotIdentity

/-!
# The trip of an event

How a legal event is parsed back.  A decoder looks at tags and attributes, which
reading leaves alone, and at the text of a chat.  The elements have their default
names here (`Standard`); the types, the stamps and the detail switch are free.
-/

namespace DroneComms.Mesh

open Py (PyFloat Value Dict PyError Element Interpreter ElementTree Bytes)

namespace CotNaming

/-- The default names of elements and attributes. -/
structure Standard (naming : CotNaming) : Prop where
  track : naming.trackElement = "track"
  status : naming.statusElement = "status"
  attitude : naming.attitudeElement = "attitude"
  detection : naming.detectionElement = "_meshsa_det"
  battery : naming.batteryAttr = "battery"
  vendor : naming.vendorElement = "_meshsa"

/-- The configured texts are legal. -/
structure Legal (naming : CotNaming) : Prop where
  how : Py.Xml.isLegal naming.how = true
  cotVersion : Py.Xml.isLegal naming.cotVersion = true
  types : ∀ kind, Py.Xml.isLegal (naming.typeOf kind) = true

theorem Standard.wellNamed {naming : CotNaming} (h : naming.Standard) : naming.WellNamed := by
  rw [WellNamed, h.track, h.status, h.attitude, h.detection, h.battery, h.vendor]
  decide +kernel

theorem standard_default (emitDetail : Bool) : ({ emitDetail } : CotNaming).Standard :=
  ⟨rfl, rfl, rfl, rfl, rfl, rfl⟩

theorem legal_default (emitDetail : Bool) : ({ emitDetail } : CotNaming).Legal where
  how := (by decide +kernel : Py.Xml.isLegal "m-g" = true)
  cotVersion := (by decide +kernel : Py.Xml.isLegal "2.0" = true)
  types kind := by
    have hpli : Py.Xml.isLegal "a-f-G-U-C" = true := by decide +kernel
    have hchat : Py.Xml.isLegal "b-t-f" = true := by decide +kernel
    have hmarker : Py.Xml.isLegal "a-u-G" = true := by decide +kernel
    cases kind
    · exact hpli
    · exact hchat
    · exact hmarker
    · exact hpli

end CotNaming

namespace Cot

variable {py : Interpreter} {et : ElementTree} {naming : CotNaming} {env e' : Envelope}
  {el : Element} {b : Bytes}

/-! ## Legal texts -/

theorem isLegal_of_printable {s : String} (h : ∀ c ∈ s.toList, 32 ≤ c.toNat ∧ c.toNat < 127) :
    Py.Xml.isLegal s = true := by
  rw [Py.Xml.isLegal, List.all_eq_true]
  intro c hc
  have hcode := h c hc
  simp only [Py.Xml.isXmlChar, Py.Xml.isXmlCode, Bool.or_eq_true, Bool.and_eq_true,
    decide_eq_true_eq]
  omega

theorem isLegal_append (s t : String) :
    Py.Xml.isLegal (s ++ t) = (Py.Xml.isLegal s && Py.Xml.isLegal t) := by
  rw [Py.Xml.isLegal, String.toList_append, List.all_append]
  rfl

theorem isLegal_str (x : PyFloat) : Py.Xml.isLegal (py.str x) = true :=
  isLegal_of_printable (py.str_printable x)

theorem isLegal_fixed0 (x : PyFloat) : Py.Xml.isLegal (py.fixed0 x) = true :=
  isLegal_of_printable (py.fixed0_printable x)

theorem isLegal_signed (n : ℤ) : Py.Xml.isLegal (String.ofList (Decimal.signed n)) = true :=
  isLegal_of_printable (by
    rw [String.toList_ofList]
    exact Py.FloatText.signed_printable)

theorem isLegal_iso {x : PyFloat} {s : String} (h : Py.iso x = .ok s) :
    Py.Xml.isLegal s = true := by
  obtain ⟨u, -, rfl⟩ := Py.iso_eq_ok.mp h
  apply isLegal_of_printable
  rw [String.toList_ofList]
  exact Py.isoText_printable

theorem legal_node {tag text : String} {attrib : List (String × String)}
    {children : List Element} (hattrib : ∀ kv ∈ attrib, Py.Xml.isLegal kv.2 = true)
    (htext : Py.Xml.isLegal text = true)
    (hchildren : ∀ child ∈ children, Py.Xml.legal child = true) :
    Py.Xml.legal (.mk tag attrib text children) = true :=
  Py.Xml.legal_iff.mpr ⟨hattrib, htext, hchildren⟩

/-! ## Decoding what was read -/

theorem decodePoint_normalize (pt : Option Element) :
    decodePoint py (pt.map Py.Xml.normalize) = decodePoint py pt := by
  cases pt with
  | none => rfl
  | some pt =>
      simp only [Option.map_some, decodePoint, floatAttr, Py.Xml.get_normalize]

theorem floatAttr_normalize (el : Element) (key : String) :
    floatAttr py (Py.Xml.normalize el) key = floatAttr py el key := by
  rw [floatAttr, Py.Xml.get_normalize]
  rfl

theorem decodeTrack_normalize (detail : Element) (pos : Position) :
    decodeTrack py naming (Py.Xml.normalize detail) pos = decodeTrack py naming detail pos := by
  rw [decodeTrack, decodeTrack, Py.Xml.find_normalize]
  cases detail.find naming.trackElement with
  | none => rfl
  | some track => simp only [Option.map_some, floatAttr_normalize]

theorem decodeStatusAndVendor_normalize (detail : Element) :
    decodeStatusAndVendor py naming (Py.Xml.normalize detail) =
      decodeStatusAndVendor py naming detail := by
  have hbattery : batteryAttr py naming (Py.Xml.normalize detail) = batteryAttr py naming detail := by
    rw [batteryAttr, batteryAttr, Py.Xml.find_normalize]
    cases detail.find naming.statusElement with
    | none => rfl
    | some status => simp only [Option.map_some, Option.bind_some, Py.Xml.get_normalize]
  rw [decodeStatusAndVendor, decodeStatusAndVendor, hbattery, Py.Xml.find_normalize]
  cases detail.find naming.vendorElement with
  | none => rfl
  | some vendor => simp only [Option.map_some, floatAttr_normalize]

theorem decodeAttitude_normalize (detail : Element) (t : Telemetry) :
    decodeAttitude py naming (Py.Xml.normalize detail) t = decodeAttitude py naming detail t := by
  rw [decodeAttitude, decodeAttitude, Py.Xml.find_normalize]
  cases detail.find naming.attitudeElement with
  | none => rfl
  | some attitude => simp only [Option.map_some, floatAttr_normalize]

theorem decodeRicherDetail_normalize (detail : Option Element) (pos : Position) :
    decodeRicherDetail py naming (detail.map Py.Xml.normalize) pos =
      decodeRicherDetail py naming detail pos := by
  cases detail with
  | none => rfl
  | some detail =>
      simp only [Option.map_some, decodeRicherDetail, decodeTrack_normalize,
        decodeStatusAndVendor_normalize, decodeAttitude_normalize]

theorem decodeDetection_normalize (detail : Option Element) :
    decodeDetection py naming (detail.map Py.Xml.normalize) = decodeDetection py naming detail := by
  cases detail with
  | none => rfl
  | some detail =>
      rw [decodeDetection, decodeDetection, Option.map_some, Option.bind_some, Option.bind_some,
        Py.Xml.find_normalize]
      cases detail.find naming.detectionElement with
      | none => rfl
      | some el =>
          simp only [Option.map_some, floatAttr_normalize, Py.Xml.get_normalize, trackIdAttr]

theorem callsignOf_normalize (e : Event) :
    callsignOf { e with ev := Py.Xml.normalize e.ev } = callsignOf e := by
  rw [callsignOf, callsignOf, Py.Xml.find_normalize]
  cases e.ev.find "detail" with
  | none => rfl
  | some detail =>
      simp only [Option.map_some, Option.bind_some, Py.Xml.find_normalize]
      cases detail.find "contact" with
      | none => rfl
      | some contact => simp only [Option.map_some, Option.bind_some, Py.Xml.get_normalize]

theorem logged_normalize {α : Type} (detail : Option Element) (x : Except PyError α) :
    logged et (detail.map Py.Xml.normalize) x = logged et detail x := by
  cases detail with
  | none => rfl
  | some detail =>
      rw [logged, logged, Option.map_some, Option.all_some, Option.all_some,
        et.serializes_normalize]

/-- Reading an event back does not change what is decoded from it. -/
theorem decodeTrackEvent_normalize (e : Event) :
    decodeTrackEvent py et naming { e with ev := Py.Xml.normalize e.ev } =
      decodeTrackEvent py et naming e := by
  rw [decodeTrackEvent, decodeTrackEvent, callsignOf_normalize]
  simp only [Py.Xml.find_normalize, decodePoint_normalize, decodeRicherDetail_normalize,
    logged_normalize, detectionOf, decodeDetection_normalize, envelope, Py.Xml.get_normalize]

/-! ## Reading a written event -/

/-- The event of an element that stands for an envelope. -/
def written (py : Interpreter) (naming : CotNaming) (env : Envelope) (el : Element) (n : ℤ) :
    Event where
  ev := el
  uid := eventUid py env
  etype := naming.typeOf env.kind
  ts := Py.timestamp n

theorem isChat_iff (naming : CotNaming) {etype : String} : naming.decodedKind etype = .chat ↔
    startswith etype "b-t-f" ∨ startswith etype "b.t.f" := by
  rw [CotNaming.decodedKind]
  split_ifs with h
  · exact iff_of_true rfl h
  · refine iff_of_false ?_ h
    rw [CotNaming.kindFor]
    split_ifs <;> decide

/-- The attributes of a legal event are read back. -/
theorem parseEvent_tostring (hnames : naming.WellNamed)
    (hel : encodeEnvelope py naming env = .ok el) (hlegal : Py.Xml.legal el = true) {u : ℤ}
    (hts : Py.fromtimestamp env.ts = .ok u) (hfour : Py.fourDigitMillis ≤ u / 1000) :
    parseEvent py et (Py.Xml.tostring el) =
      some (written py naming env (Py.Xml.normalize el) (u / 1000)) := by
  obtain ⟨htag, hattrib, hnamed⟩ := encodeEnvelope_eq_ok hel
  obtain ⟨time, stale, htime, -, hlist⟩ := CotNaming.event_eq_ok.mp hattrib
  obtain ⟨u', hu', rfl⟩ := Py.iso_eq_ok.mp htime
  rw [hts] at hu'
  cases hu'
  obtain ⟨-, hmax⟩ := Py.fromtimestamp_bounds hts
  have hget : ∀ key, (Py.Xml.normalize el).get key = el.attrib.lookup key :=
    fun _ ↦ Py.Xml.get_normalize _ _
  have huid : (Py.Xml.normalize el).get "uid" = some (eventUid py env) := by
    rw [hget, hlist]
    rfl
  have htype : (Py.Xml.normalize el).get "type" = some (naming.typeOf env.kind) := by
    rw [hget, hlist]
    rfl
  have hstamp : (Py.Xml.normalize el).get "time" = some (String.ofList (Py.isoText (u / 1000))) := by
    rw [hget, hlist]
    rfl
  rw [parseEvent, et.fromstring_tostring el (hnamed hnames), if_pos hlegal]
  simp only [Option.bind_eq_bind, Option.bind_some, Py.Xml.tag_normalize, htag, huid, htype, hstamp,
    Option.getD_some, py.parseTs_isoText hfour hmax, ne_eq, not_true_eq_false, if_false]
  rfl

/-- What is decoded from a legal event. -/
theorem decodeEvent_tostring (hnames : naming.WellNamed)
    (hel : encodeEnvelope py naming env = .ok el) (hlegal : Py.Xml.legal el = true) {u : ℤ}
    (hts : Py.fromtimestamp env.ts = .ok u) (hfour : Py.fourDigitMillis ≤ u / 1000) :
    decodeEvent py et naming (Py.Xml.tostring el) =
      if naming.decodedKind (naming.typeOf env.kind) = .chat then
        .ok (decodeChat (written py naming env (Py.Xml.normalize el) (u / 1000))
          ((el.find "detail").map Py.Xml.normalize))
      else decodeTrackEvent py et naming (written py naming env el (u / 1000)) := by
  rw [decodeEvent, parseEvent_tostring hnames hel hlegal hts hfour]
  have hnormalize : decodeTrackEvent py et naming
      (written py naming env (Py.Xml.normalize el) (u / 1000)) =
        decodeTrackEvent py et naming (written py naming env el (u / 1000)) :=
    decodeTrackEvent_normalize (written py naming env el (u / 1000))
  have hdetail : (Py.Xml.normalize el).find "detail" = (el.find "detail").map Py.Xml.normalize :=
    Py.Xml.find_normalize _ _
  simp only [isChat_iff]
  rw [hnormalize, ← hdetail]
  rfl

/-- A legal event that is decoded makes the trip. -/
theorem trip_of_decodeEvent (hel : encodeEnvelope py naming env = .ok el)
    (h : decodeEvent py et naming (Py.Xml.tostring el) = .ok e') : Trip py et naming env e' :=
  ⟨Py.Xml.tostring el, encode_eq_ok.mpr ⟨el, hel, rfl⟩, h⟩

/-! ## Decoding what was encoded -/

theorem floatOfStr_str (x : PyFloat) : Py.floatOfStr py.toFloatText (py.str x) = .ok x := by
  rw [Py.floatOfStr, py.ofStr_str]
  rfl

theorem floatAttr_of_get {key : String} {x : Option PyFloat} (h : el.get key = x.map py.str) :
    floatAttr py el key = .ok x := by
  rw [floatAttr, h]
  cases x with
  | none => rfl
  | some x =>
      rw [Option.map_some]
      dsimp only
      rw [floatOfStr_str]
      rfl

/-- The position without course and speed is read back from a point. -/
theorem decodePoint_point {p : Position} {d : Dict} (h : p.HeldBy d) :
    decodePoint py (some (point py d)) = .ok { p with courseDeg := none, speedMs := none } := by
  have hlat : (point py d).get "lat" = (some p.lat).map py.str := by
    show some (py.strOf (Dict.get d "lat" (.float (.fin 0)))) = _
    rw [Dict.get, h.lat]
    rfl
  have hlon : (point py d).get "lon" = (some p.lon).map py.str := by
    show some (py.strOf (Dict.get d "lon" (.float (.fin 0)))) = _
    rw [Dict.get, h.lon]
    rfl
  have hhae : (point py d).get "hae" = (some p.hae).map py.str := by
    show some (py.strOf (Dict.get d "hae" (.float (.fin 0)))) = _
    rw [h.hae]
    rfl
  have hce : (point py d).get "ce" = (some p.ce).map py.str := by
    show some (py.strOf (Dict.get d "ce" (.float unknownErrorM))) = _
    rw [h.ce]
    rfl
  have hle : (point py d).get "le" = (some p.le).map py.str := by
    show some (py.strOf (Dict.get d "le" (.float unknownErrorM))) = _
    rw [h.le]
    rfl
  rw [decodePoint, floatAttr_of_get hlat, floatAttr_of_get hlon, floatAttr_of_get hhae,
    floatAttr_of_get hce, floatAttr_of_get hle]
  rfl

/-- An attribute is there if its key is. -/
theorem lookup_attrs (d : Dict) {names : List (String × String)}
    (hnodup : (names.map Prod.fst).Nodup) (name : String) :
    (attrs py d names).lookup name =
      (names.lookup name).bind fun key ↦ (Dict.get? d key).map py.strOf := by
  induction names with
  | nil => rfl
  | cons p names ih =>
      obtain ⟨hnotin, hnodup'⟩ := List.nodup_cons.mp hnodup
      have htail := ih hnodup'
      rw [attrs] at htail ⊢
      rw [List.filterMap_cons, List.lookup_cons]
      by_cases hname : name = p.1
      · subst hname
        rw [beq_self_eq_true]
        cases hkey : Dict.get? d p.2 with
        | none =>
            have hmiss : names.lookup p.1 = none := by
              rw [List.lookup_eq_none_iff]
              intro q hq
              rw [bne_iff_ne]
              intro heq
              exact hnotin (heq ▸ List.mem_map_of_mem hq)
            simp only [Option.map_none, htail, hmiss, Option.bind_none, Option.bind_some, hkey]
        | some v =>
            simp only [Option.map_some, List.lookup_cons, beq_self_eq_true, Option.bind_some, hkey]
      · rw [beq_eq_false_iff_ne.mpr hname]
        cases Dict.get? d p.2 with
        | none => exact htail
        | some v =>
            simp only [Option.map_some, List.lookup_cons, beq_eq_false_iff_ne.mpr hname]
            exact htail

theorem find_nodeOfAttrs (tag name : String) (attrib : List (String × String)) :
    (nodeOfAttrs tag attrib).find? (·.tag = name) =
      if tag = name then (nodeOfAttrs tag attrib).head? else none := by
  rw [nodeOfAttrs]
  cases attrib with
  | nil => simp
  | cons kv attrib =>
      have htag : (node tag (kv :: attrib)).tag = tag := rfl
      rw [List.isEmpty_cons, if_neg Bool.false_ne_true, List.find?_singleton, htag]
      by_cases h : tag = name
      · rw [if_pos (decide_eq_true h), if_pos h]
        rfl
      · rw [if_neg (by simpa using h), if_neg h]

theorem find_trackOf (d : Dict) (name : String) :
    (trackOf py naming d).find? (·.tag = name) =
      if naming.trackElement = name then (trackOf py naming d).head? else none := by
  rw [trackOf]
  split
  next course speed _ _ =>
    have htag : (node naming.trackElement [("course", py.strOf course),
      ("speed", py.strOf speed)]).tag = naming.trackElement := rfl
    rw [List.find?_singleton, htag]
    by_cases h : naming.trackElement = name
    · rw [if_pos (decide_eq_true h), if_pos h]
      rfl
    · rw [if_neg (by simpa using h), if_neg h]
  next => simp

/-- A float among the attributes. -/
theorem lookup_attrs_float {d : Dict} {names : List (String × String)} {name key : String}
    {x : Option PyFloat} (hnodup : (names.map Prod.fst).Nodup) (hkey : names.lookup name = some key)
    (h : Dict.get? d key = x.map .float) : (attrs py d names).lookup name = x.map py.str := by
  rw [lookup_attrs d hnodup, hkey, Option.bind_some, h, Option.map_map]
  rfl

theorem decodeTrack_trackOf {detail : Element} {d : Dict} {p : Position} (h : p.HeldBy d)
    (hpaired : p.courseDeg.isSome = p.speedMs.isSome)
    (hfind : detail.find naming.trackElement = (trackOf py naming d).head?) :
    decodeTrack py naming detail { p with courseDeg := none, speedMs := none } = .ok p := by
  obtain ⟨lat, lon, hae, ce, le, course, speed⟩ := p
  have hcourse : Dict.get? d "course_deg" = course.map .float := h.course
  have hspeed : Dict.get? d "speed_ms" = speed.map .float := h.speed
  rw [decodeTrack, hfind, trackOf, hcourse, hspeed]
  cases course with
  | none =>
      cases speed with
      | none => rfl
      | some speed => cases hpaired
  | some course =>
      cases speed with
      | none => cases hpaired
      | some speed =>
          have hcourseAttr : floatAttr py (node naming.trackElement
              [("course", py.str course), ("speed", py.str speed)]) "course" = .ok (some course) :=
            floatAttr_of_get rfl
          have hspeedAttr : floatAttr py (node naming.trackElement
              [("course", py.str course), ("speed", py.str speed)]) "speed" = .ok (some speed) :=
            floatAttr_of_get rfl
          show (floatAttr py (node naming.trackElement
            [("course", py.str course), ("speed", py.str speed)]) "course" >>= _) = _
          rw [hcourseAttr]
          show (floatAttr py (node naming.trackElement
            [("course", py.str course), ("speed", py.str speed)]) "speed" >>= _) = _
          rw [hspeedAttr]
          rfl

/-- A percentage goes through `int(float(str(n)))`. -/
theorem batteryAttr_status {detail : Element} {d : Dict} {pct : Option ℤ}
    (h : Dict.get? d "battery_pct" = pct.map .int) (hrange : ∀ v ∈ pct, 0 ≤ v ∧ v ≤ 100)
    (hfind : detail.find naming.statusElement = (nodeOfAttrs naming.statusElement
      (attrs py d [(naming.batteryAttr, "battery_pct")])).head?) :
    batteryAttr py naming detail = .ok pct := by
  have hattrs : attrs py d [(naming.batteryAttr, "battery_pct")] =
      (pct.map fun n ↦ (naming.batteryAttr, String.ofList (Decimal.signed n))).toList := by
    rw [attrs, List.filterMap_cons, List.filterMap_nil, h]
    cases pct <;> rfl
  rw [batteryAttr, hfind, hattrs]
  cases pct with
  | none => rfl
  | some n =>
      have hn := hrange n rfl
      have hsmall : |n| ≤ 2 ^ 53 := by
        rw [abs_of_nonneg hn.1]
        omega
      have hget : (node naming.statusElement
          [(naming.batteryAttr, String.ofList (Decimal.signed n))]).get naming.batteryAttr =
            some (String.ofList (Decimal.signed n)) := by
        show List.lookup _ [_] = _
        rw [List.lookup_cons_self]
      have htrunc : Py.truncate (n : ℚ) = n := by
        rw [Py.truncate, if_pos (by exact_mod_cast hn.1), Int.floor_intCast]
      have hstatus : ((nodeOfAttrs naming.statusElement
          ((some n).map fun n ↦ (naming.batteryAttr, String.ofList (Decimal.signed n))).toList).head?.bind
            fun status ↦ status.get naming.batteryAttr) =
              some (String.ofList (Decimal.signed n)) := hget
      rw [hstatus]
      dsimp only
      rw [Py.floatOfStr, py.ofStr_signed n hsmall]
      change (Py.intOfFloat (.fin (n : ℚ)) >>= fun n ↦ .ok (some n)) = _
      rw [Py.intOfFloat, htrunc]
      rfl

theorem decodeStatusAndVendor_nodes {detail : Element} {d : Dict} {t : Telemetry}
    (ht : t.HeldBy d) (hrange : ∀ v ∈ t.batteryPct, 0 ≤ v ∧ v ≤ 100)
    (hstatus : detail.find naming.statusElement = (nodeOfAttrs naming.statusElement
      (attrs py d [(naming.batteryAttr, "battery_pct")])).head?)
    (hvendor : detail.find naming.vendorElement = (nodeOfAttrs naming.vendorElement
      (attrs py d [("battery_v", "battery_v"), ("current_a", "current_a")])).head?) :
    decodeStatusAndVendor py naming detail = .ok { t with attitude := none } := by
  have hv : (attrs py d [("battery_v", "battery_v"), ("current_a", "current_a")]).lookup
      "battery_v" = t.batteryV.map py.str :=
    lookup_attrs_float (by decide) rfl ht.battery_v
  have hc : (attrs py d [("battery_v", "battery_v"), ("current_a", "current_a")]).lookup
      "current_a" = t.currentA.map py.str :=
    lookup_attrs_float (by decide) rfl ht.current
  rw [decodeStatusAndVendor, batteryAttr_status ht.battery_pct hrange hstatus, hvendor]
  cases hattrs : attrs py d [("battery_v", "battery_v"), ("current_a", "current_a")] with
  | nil =>
      rw [hattrs] at hv hc
      have hvnone := Option.map_eq_none_iff.mp hv.symm
      have hcnone := Option.map_eq_none_iff.mp hc.symm
      show Except.ok { batteryPct := t.batteryPct : Telemetry } = _
      rw [hvnone, hcnone]
  | cons kv attrib =>
      rw [hattrs] at hv hc
      have hvAttr : floatAttr py (node naming.vendorElement (kv :: attrib)) "battery_v" =
        .ok t.batteryV := floatAttr_of_get hv
      have hcAttr : floatAttr py (node naming.vendorElement (kv :: attrib)) "current_a" =
        .ok t.currentA := floatAttr_of_get hc
      show (floatAttr py (node naming.vendorElement (kv :: attrib)) "battery_v" >>= _) = _
      rw [hvAttr]
      show (floatAttr py (node naming.vendorElement (kv :: attrib)) "current_a" >>= _) = _
      rw [hcAttr]
      rfl

theorem decodeAttitude_node {detail : Element} {d : Dict} {a : Attitude} (ha : a.HeldBy d)
    (t : Telemetry) (hfind : detail.find naming.attitudeElement =
      (nodeOfAttrs naming.attitudeElement
        (attrs py d [("roll", "roll_deg"), ("pitch", "pitch_deg"), ("yaw", "yaw_deg")])).head?) :
    decodeAttitude py naming detail t =
      .ok (if a = {} then t else { t with attitude := some a }) := by
  have hroll : (attrs py d [("roll", "roll_deg"), ("pitch", "pitch_deg"), ("yaw", "yaw_deg")]).lookup
      "roll" = a.rollDeg.map py.str := lookup_attrs_float (by decide) rfl ha.roll
  have hpitch : (attrs py d [("roll", "roll_deg"), ("pitch", "pitch_deg"),
      ("yaw", "yaw_deg")]).lookup "pitch" = a.pitchDeg.map py.str :=
    lookup_attrs_float (by decide) rfl ha.pitch
  have hyaw : (attrs py d [("roll", "roll_deg"), ("pitch", "pitch_deg"), ("yaw", "yaw_deg")]).lookup
      "yaw" = a.yawDeg.map py.str := lookup_attrs_float (by decide) rfl ha.yaw
  rw [decodeAttitude, hfind]
  cases hattrs : attrs py d [("roll", "roll_deg"), ("pitch", "pitch_deg"), ("yaw", "yaw_deg")] with
  | nil =>
      rw [hattrs] at hroll hpitch hyaw
      have hempty : a = {} := by
        obtain ⟨roll, pitch, yaw⟩ := a
        cases Option.map_eq_none_iff.mp hroll.symm
        cases Option.map_eq_none_iff.mp hpitch.symm
        cases Option.map_eq_none_iff.mp hyaw.symm
        rfl
      rw [if_pos hempty]
      rfl
  | cons kv attrib =>
      rw [hattrs] at hroll hpitch hyaw
      have hrollAttr : floatAttr py (node naming.attitudeElement (kv :: attrib)) "roll" =
        .ok a.rollDeg := floatAttr_of_get hroll
      have hpitchAttr : floatAttr py (node naming.attitudeElement (kv :: attrib)) "pitch" =
        .ok a.pitchDeg := floatAttr_of_get hpitch
      have hyawAttr : floatAttr py (node naming.attitudeElement (kv :: attrib)) "yaw" =
        .ok a.yawDeg := floatAttr_of_get hyaw
      show (floatAttr py (node naming.attitudeElement (kv :: attrib)) "roll" >>= _) = _
      rw [hrollAttr]
      show (floatAttr py (node naming.attitudeElement (kv :: attrib)) "pitch" >>= _) = _
      rw [hpitchAttr]
      show (floatAttr py (node naming.attitudeElement (kv :: attrib)) "yaw" >>= _) = _
      rw [hyawAttr]
      rfl

end Cot

end DroneComms.Mesh
