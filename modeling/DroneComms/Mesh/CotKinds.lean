import DroneComms.Mesh.CotLink

/-!
# Kinds on a CoT link

The kind of an envelope is written as one of the configured types and read from the
literal prefix of a chat and the types for tracks and markers.  Any valid envelope
is followed here under any configured names.  A detail is a table of its children
(`Content.detail`), and what a decoder finds in it is the first child of a name
(`shown`): names that coincide make it read another attribute as the battery, and
that is the only one that may then be out of range.
-/

namespace DroneComms.Mesh

open Py (PyFloat Value Dict PyError Element Interpreter ElementTree Bytes)

namespace Cot

variable {py : Interpreter} {et : ElementTree} {naming : CotNaming} {env e' : Envelope}

/-! ## Types -/

/-- The type for a kind is read as a chat if and only if the kind is chat. -/
def KeepsKind (naming : CotNaming) (kind : MessageKind) : Prop :=
  (startswith (naming.typeOf kind) "b-t-f" ∨ startswith (naming.typeOf kind) "b.t.f") ↔
    kind = .chat

instance (naming : CotNaming) (kind : MessageKind) : Decidable (KeepsKind naming kind) :=
  inferInstanceAs (Decidable (_ ↔ _))

/-- With different types for tracks and markers, a type stands for its kind except for the
prefix of a chat. -/
theorem decodedKind_typeOf (hdistinct : naming.pliType ≠ naming.markerType) {kind : MessageKind}
    (hstatus : kind ≠ .status) :
    naming.decodedKind (naming.typeOf kind) = kind ↔ KeepsKind naming kind := by
  have hmarker : ¬MessageKind.marker = .chat := nofun
  have hpli : ¬MessageKind.pli = .chat := nofun
  rw [KeepsKind, ← isChat_iff naming]
  cases kind with
  | status => exact absurd rfl hstatus
  | chat => exact ⟨fun h ↦ iff_of_true h rfl, fun h ↦ h.mpr rfl⟩
  | marker =>
      rw [iff_false_right hmarker, CotNaming.decodedKind]
      split_ifs
      · simp
      · simp [CotNaming.kindFor, CotNaming.typeOf]
  | pli =>
      rw [iff_false_right hpli, CotNaming.decodedKind]
      split_ifs
      · simp
      · simp [CotNaming.kindFor, CotNaming.typeOf, hdistinct]

/-! ## Valid envelopes -/

/-- What an envelope says. -/
inductive Content where
  | pli (callsign tier : String) (p : Position) (t : Telemetry)
  | chat (text : String) (addressee : Option String)
  | marker (callsign : String) (p : Position) (det : Option Detection)

/-- A valid envelope says something. -/
def Content.HeldBy (py : Interpreter) (env : Envelope) : Content → Prop
  | pli callsign tier p t => ValidPli py env callsign tier p t
  | chat text addressee => ValidChat env text addressee
  | marker callsign p det => ValidMarker env callsign p det

theorem Content.HeldBy.not_status {content : Content} (h : content.HeldBy py env) :
    env.kind ≠ .status := by
  cases content with
  | pli callsign tier p t =>
      rw [ValidPli.kind h]
      nofun
  | chat text addressee =>
      rw [ValidChat.kind h]
      nofun
  | marker callsign p det =>
      rw [ValidMarker.kind h]
      nofun

/-! ## The table of a detail -/

/-- A child of a detail: its name and its attributes. -/
abbrev Part := String × List (String × String)

/-- The attributes that have a value. -/
def present (attrib : List (String × Option String)) : List (String × String) :=
  attrib.filterMap fun kv ↦ kv.2.map (kv.1, ·)

/-- Course and speed are written together. -/
def trackPart (py : Interpreter) (naming : CotNaming) (p : Position) : Part :=
  (naming.trackElement, match p.courseDeg, p.speedMs with
    | some course, some speed => [("course", py.str course), ("speed", py.str speed)]
    | _, _ => [])

def telemetryParts (py : Interpreter) (naming : CotNaming) (t : Telemetry) : List Part :=
  let attitude := t.attitude.getD {}
  [(naming.statusElement,
      present [(naming.batteryAttr, t.batteryPct.map fun n ↦ String.ofList (Decimal.signed n))]),
    (naming.vendorElement,
      present [("battery_v", t.batteryV.map py.str), ("current_a", t.currentA.map py.str)]),
    (naming.attitudeElement, present [("roll", attitude.rollDeg.map py.str),
      ("pitch", attitude.pitchDeg.map py.str), ("yaw", attitude.yawDeg.map py.str)])]

def detectionPart (py : Interpreter) (naming : CotNaming) (det : Detection) : Part :=
  (naming.detectionElement, present [("label", some det.label),
    ("confidence", some (py.str det.confidence)),
    ("track_id", det.trackId.map fun n ↦ String.ofList (Decimal.signed n)),
    ("bearing_deg", det.bearingDeg.map py.str)])

/-- The children of the detail that have attributes; a part without one is left out. -/
def Content.detail (py : Interpreter) (naming : CotNaming) : Content → List Part
  | pli callsign tier p t =>
      [("contact", [("callsign", callsign)]), ("__group", [("name", tier), ("role", "Team Member")])] ++
        if naming.emitDetail then trackPart py naming p :: telemetryParts py naming t else []
  | chat _ _ => []
  | marker callsign _ det =>
      ("contact", [("callsign", callsign)]) :: (det.map (detectionPart py naming)).toList

/-- The text under a key of the first child of a name. -/
def shown (parts : List Part) (tag key : String) : Option String :=
  (parts.find? fun part ↦ part.1 = tag ∧ part.2 ≠ []).bind fun part ↦ part.2.lookup key

/-- The elements of a table. -/
def elements (parts : List Part) : List Element :=
  parts.flatMap fun part ↦ nodeOfAttrs part.1 part.2

theorem find_elements (parts : List Part) (tag : String) :
    (elements parts).find? (·.tag = tag) =
      (parts.find? fun part ↦ part.1 = tag ∧ part.2 ≠ []).map fun part ↦ node part.1 part.2 := by
  induction parts with
  | nil => rfl
  | cons part parts ih =>
      obtain ⟨name, attrib⟩ := part
      rw [elements, List.flatMap_cons, List.find?_append, find_nodeOfAttrs, List.find?_cons]
      rw [elements] at ih
      rw [ih]
      cases attrib with
      | nil => simp [nodeOfAttrs]
      | cons kv attrib =>
          by_cases htag : name = tag
          · simp [nodeOfAttrs, htag]
          · simp [htag]

/-- What is found in a detail is what is shown; elements without attributes show nothing. -/
theorem get_find_detail {parts : List Part} {rest : List Element}
    (hrest : ∀ el ∈ rest, el.attrib = []) (tag key : String) :
    ((node "detail" [] (elements parts ++ rest)).find tag).bind (·.get key) = shown parts tag key := by
  show ((elements parts ++ rest).find? (·.tag = tag)).bind _ = _
  rw [List.find?_append, find_elements, shown]
  cases parts.find? fun part ↦ part.1 = tag ∧ part.2 ≠ [] with
  | some part => rfl
  | none =>
      rw [Option.map_none, Option.none_or, Option.bind_none]
      cases hel : rest.find? (·.tag = tag) with
      | none => rfl
      | some el =>
          rw [Option.bind_some, Element.get, hrest el (List.mem_of_find?_eq_some hel)]
          rfl

/-- What is shown is the text of a part of that name. -/
theorem mem_of_shown {parts : List Part} {tag key s : String} (h : shown parts tag key = some s) :
    ∃ part ∈ parts, part.2.lookup key = some s := by
  obtain ⟨part, hpart, hs⟩ := Option.bind_eq_some_iff.mp h
  exact ⟨part, List.mem_of_find?_eq_some hpart, hs⟩

/-! ## What is shown is in range -/

/-- A value that passes the validator of a numeric key. -/
def InRange : String → PyFloat → Prop
  | "course", x => PyFloat.le (.fin 0) x = true ∧ PyFloat.lt x (.fin 360) = true
  | "speed", x => x.isFinite = true ∧ PyFloat.lt x (.fin 0) = false
  | "battery_v", x => x.isFinite = true ∧ PyFloat.lt x (.fin 0) = false
  | "current_a", x => x.isFinite = true
  | _, _ => True

/-- The keys that are read as floats. -/
def numericKeys : List String :=
  ["course", "speed", "battery_v", "current_a", "roll", "pitch", "yaw"]

/-- A percentage is in range under any of them. -/
theorem inRange_percent (key : String) {n : ℤ} (hmin : 0 ≤ n) (hmax : n ≤ 100) :
    InRange key (.fin n) := by
  have hlow : (0 : ℚ) ≤ n := by exact_mod_cast hmin
  have hhigh : (n : ℚ) < 360 := by
    have : n < 360 := by omega
    exact_mod_cast this
  have hcourse : PyFloat.le (.fin 0) (.fin (n : ℚ)) = true ∧
      PyFloat.lt (.fin (n : ℚ)) (.fin 360) = true := by
    simp [PyFloat.le, PyFloat.lt, hlow, hhigh, hhigh.le]
  have hspeed : (PyFloat.fin (n : ℚ)).isFinite = true ∧
      PyFloat.lt (.fin (n : ℚ)) (.fin 0) = false := by
    simp [PyFloat.isFinite, PyFloat.le, PyFloat.lt, hlow]
  unfold InRange
  split
  · exact hcourse
  · exact hspeed
  · exact hspeed
  · exact hspeed.1
  · trivial

/-- A text that is read as a value in range. -/
def ReadsInRange (py : Interpreter) (key s : String) : Prop :=
  ∃ x, py.ofStr s = some x ∧ InRange key x

theorem lookup_present {attrib : List (String × Option String)} {key s : String}
    (h : (present attrib).lookup key = some s) : (key, some s) ∈ attrib := by
  induction attrib with
  | nil => cases h
  | cons kv attrib ih =>
      obtain ⟨k, v⟩ := kv
      rw [present, List.filterMap_cons] at h
      rw [present] at ih
      cases v with
      | none => exact List.mem_cons_of_mem _ (ih h)
      | some v =>
          rw [Option.map_some, List.lookup_cons] at h
          by_cases hkey : key = k
          · subst hkey
            rw [beq_self_eq_true] at h
            cases h
            exact List.mem_cons_self
          · rw [beq_eq_false_iff_ne.mpr hkey] at h
            exact List.mem_cons_of_mem _ (ih h)

theorem readsInRange_str {key : String} {x : PyFloat} (h : InRange key x) :
    ReadsInRange py key (py.str x) := ⟨x, py.ofStr_str x, h⟩

/-- The course and the speed of a valid position are in range. -/
theorem readsInRange_trackPart {p : Position} (hp : p.Valid) {key s : String}
    (h : (trackPart py naming p).2.lookup key = some s) : ReadsInRange py key s := by
  unfold trackPart at h
  dsimp only at h
  split at h
  next course speed hcourse hspeed =>
    simp only [List.lookup_cons, List.lookup_nil] at h
    split at h
    next hkey =>
      cases h
      rw [beq_iff_eq.mp hkey]
      exact readsInRange_str (hp.course_range course hcourse)
    next =>
      split at h
      next hkey =>
        cases h
        rw [beq_iff_eq.mp hkey]
        exact readsInRange_str (hp.speed_nonneg speed hspeed)
      next => cases h
  next => cases h

/-- The values of a valid telemetry are in range, and the percentage is whatever its
attribute is called. -/
theorem readsInRange_telemetryParts {t : Telemetry} (ht : t.Valid) {part : Part}
    (hpart : part ∈ telemetryParts py naming t) {key s : String}
    (h : part.2.lookup key = some s) : ReadsInRange py key s := by
  have hangle : ∀ x : Option PyFloat, some s = x.map py.str → key = "roll" ∨ key = "pitch" ∨
      key = "yaw" → ReadsInRange py key s := by
    intro x hx hkey
    obtain ⟨x, -, rfl⟩ := Option.map_eq_some_iff.mp hx.symm
    rcases hkey with rfl | rfl | rfl <;> exact readsInRange_str trivial
  simp only [telemetryParts, List.mem_cons, List.not_mem_nil, or_false] at hpart
  rcases hpart with rfl | rfl | rfl
  · have hmem := lookup_present h
    simp only [List.mem_singleton, Prod.mk.injEq] at hmem
    obtain ⟨n, hn, rfl⟩ := Option.map_eq_some_iff.mp hmem.2.symm
    obtain ⟨hmin, hmax⟩ := ht.battery_pct_range n hn
    refine ⟨.fin n, py.ofStr_signed n ?_, inRange_percent key hmin hmax⟩
    rw [abs_of_nonneg hmin]
    omega
  · have hmem := lookup_present h
    simp only [List.mem_cons, List.not_mem_nil, or_false, Prod.mk.injEq] at hmem
    rcases hmem with ⟨rfl, hv⟩ | ⟨rfl, hv⟩
    · obtain ⟨x, hx, rfl⟩ := Option.map_eq_some_iff.mp hv.symm
      exact readsInRange_str (ht.battery_v_nonneg x hx)
    · obtain ⟨x, hx, rfl⟩ := Option.map_eq_some_iff.mp hv.symm
      exact readsInRange_str (ht.current_finite x hx)
  · have hmem := lookup_present h
    simp only [List.mem_cons, List.not_mem_nil, or_false, Prod.mk.injEq] at hmem
    rcases hmem with ⟨hkey, hv⟩ | ⟨hkey, hv⟩ | ⟨hkey, hv⟩
    · exact hangle _ hv (.inl hkey)
    · exact hangle _ hv (.inr (.inl hkey))
    · exact hangle _ hv (.inr (.inr hkey))

/-- **What is read as a float is in range**, whatever the elements are called. -/
theorem readsInRange_shown {content : Content} (h : content.HeldBy py env) {tag key s : String}
    (hkey : key ∈ numericKeys) (hs : shown (content.detail py naming) tag key = some s) :
    ReadsInRange py key s := by
  obtain ⟨part, hpart, hlookup⟩ := mem_of_shown hs
  have hconst : ∀ attrib : List (String × String),
      (∀ kv ∈ attrib, kv.1 ∉ numericKeys) → attrib.lookup key ≠ some s := by
    intro attrib hnone hfound
    obtain ⟨l₁, l₂, rfl, -⟩ := List.lookup_eq_some_iff.mp hfound
    exact hnone (key, s) (by simp) hkey
  cases content with
  | pli callsign tier p t =>
      have hvalid : ValidPli py env callsign tier p t := h
      rw [Content.detail, List.mem_append] at hpart
      rcases hpart with hpart | hpart
      · simp only [List.mem_cons, List.not_mem_nil, or_false] at hpart
        rcases hpart with rfl | rfl
        · exact absurd hlookup (hconst _ (by simp [numericKeys]))
        · exact absurd hlookup (hconst _ (by simp [numericKeys]))
      · split_ifs at hpart
        · rcases List.mem_cons.mp hpart with rfl | hpart
          · exact readsInRange_trackPart hvalid.position_valid hlookup
          · exact readsInRange_telemetryParts hvalid.telemetry_valid hpart hlookup
        · cases hpart
  | chat text addressee => cases hpart
  | marker callsign p det =>
      rcases List.mem_cons.mp hpart with rfl | hpart
      · exact absurd hlookup (hconst _ (by simp [numericKeys]))
      · obtain ⟨d, -, rfl⟩ := Option.map_eq_some_iff.mp (Option.mem_toList.mp hpart)
        have hmem := lookup_present hlookup
        simp only [List.mem_cons, List.not_mem_nil, or_false, Prod.mk.injEq] at hmem
        rcases hmem with ⟨rfl, -⟩ | ⟨rfl, -⟩ | ⟨rfl, -⟩ | ⟨rfl, -⟩ <;>
          exact absurd hkey (by decide +kernel)

/-! ## Reading the detail -/

/-- The text in the place of the battery is a number with an integer part from 0 to 100. -/
def SoundBattery (py : Interpreter) (naming : CotNaming) (content : Content) : Prop :=
  ∀ s, shown (content.detail py naming) naming.statusElement naming.batteryAttr = some s →
    ∃ q, py.ofStr s = some (.fin q) ∧ 0 ≤ Py.truncate q ∧ Py.truncate q ≤ 100

/-- A detail with the attributes of a content. -/
def Shows (py : Interpreter) (naming : CotNaming) (content : Content) (detail : Element) : Prop :=
  ∀ tag key, (detail.find tag).bind (·.get key) = shown (content.detail py naming) tag key

variable {content : Content} {detail : Element}

/-- An attribute that is read as a float is one in range. -/
theorem floatAttr_inRange (h : content.HeldBy py env) (hshows : Shows py naming content detail)
    {tag : String} (key : String) (hkey : key ∈ numericKeys) {el : Element}
    (hel : detail.find tag = some el) :
    ∃ x, floatAttr py el key = .ok x ∧ ∀ v ∈ x, InRange key v := by
  have hget : el.get key = shown (content.detail py naming) tag key := by
    rw [← hshows tag key, hel]
    rfl
  rw [floatAttr, hget]
  cases hs : shown (content.detail py naming) tag key with
  | none => exact ⟨none, rfl, fun _ hv ↦ absurd hv (Option.not_mem_none _)⟩
  | some s =>
      obtain ⟨x, hx, hrange⟩ := readsInRange_shown h hkey hs
      refine ⟨some x, ?_, fun v hv ↦ Option.mem_some.mp hv ▸ hrange⟩
      dsimp only
      rw [Py.floatOfStr, hx]
      rfl

theorem decodeTrack_shows (h : content.HeldBy py env) (hshows : Shows py naming content detail)
    {pos : Position} (hpos : pos.Valid) :
    ∃ pos', decodeTrack py naming detail pos = .ok pos' ∧ pos'.Valid := by
  rw [decodeTrack]
  cases hel : detail.find naming.trackElement with
  | none => exact ⟨pos, rfl, hpos⟩
  | some track =>
      obtain ⟨course, hcourse, hcourseRange⟩ :=
        floatAttr_inRange h hshows "course" (by decide +kernel) hel
      obtain ⟨speed, hspeed, hspeedRange⟩ :=
        floatAttr_inRange h hshows "speed" (by decide +kernel) hel
      refine ⟨{ pos with courseDeg := course, speedMs := speed }, ?_, ?_⟩
      · exact Py.bind_eq_ok.mpr ⟨course, hcourse, Py.bind_eq_ok.mpr ⟨speed, hspeed, rfl⟩⟩
      · exact ⟨hpos.lat_range, hpos.lon_range, hcourseRange, hspeedRange⟩

/-- The battery is read exactly if it is sound. -/
theorem batteryAttr_shows (hshows : Shows py naming content detail) :
    (∃ pct, batteryAttr py naming detail = .ok pct ∧ ∀ v ∈ pct, 0 ≤ v ∧ v ≤ 100) ↔
      SoundBattery py naming content := by
  rw [batteryAttr, SoundBattery, hshows]
  cases shown (content.detail py naming) naming.statusElement naming.batteryAttr with
  | none =>
      refine iff_of_true ⟨none, rfl, fun _ hv ↦ absurd hv (Option.not_mem_none _)⟩ fun _ hv ↦ ?_
      exact absurd hv (Option.not_mem_none _)
  | some s =>
      dsimp only
      rw [Py.floatOfStr]
      cases hs : py.ofStr s with
      | none =>
          refine iff_of_false ?_ ?_
          · rintro ⟨pct, hpct, -⟩
            cases hpct
          · intro hsound
            obtain ⟨q, hq, -⟩ := hsound s rfl
            rw [hs] at hq
            cases hq
      | some x =>
          cases x with
          | fin q =>
              constructor
              · rintro ⟨pct, hpct, hrange⟩ s' hs'
                cases hs'
                cases hpct
                exact ⟨q, hs, hrange _ rfl⟩
              · intro hsound
                obtain ⟨q', hq', hrange⟩ := hsound s rfl
                rw [hs] at hq'
                cases hq'
                refine ⟨some (Py.truncate q), rfl, fun v hv ↦ ?_⟩
                rwa [← Option.mem_some.mp hv]
          | nan | posInf | negInf =>
              refine iff_of_false ?_ ?_
              · rintro ⟨pct, hpct, -⟩
                cases hpct
              · intro hsound
                obtain ⟨q, hq, -⟩ := hsound s rfl
                rw [hs] at hq
                cases hq

/-- What is decoded has the battery that was read. -/
theorem decodeStatusAndVendor_battery {t : Telemetry}
    (h : decodeStatusAndVendor py naming detail = .ok t) :
    batteryAttr py naming detail = .ok t.batteryPct := by
  obtain ⟨pct, hpct, h⟩ := Py.bind_eq_ok.mp h
  rw [hpct]
  split at h
  · cases h
    rfl
  · obtain ⟨v, -, h⟩ := Py.bind_eq_ok.mp h
    obtain ⟨c, -, h⟩ := Py.bind_eq_ok.mp h
    cases h
    rfl

/-- An attitude changes nothing that is validated. -/
theorem decodeAttitude_shows (h : content.HeldBy py env) (hshows : Shows py naming content detail)
    {t : Telemetry} (ht : t.Valid) :
    ∃ t', decodeAttitude py naming detail t = .ok t' ∧ t'.Valid := by
  rw [decodeAttitude]
  cases hel : detail.find naming.attitudeElement with
  | none => exact ⟨t, rfl, ht⟩
  | some attitude =>
      obtain ⟨roll, hroll, -⟩ := floatAttr_inRange h hshows "roll" (by decide +kernel) hel
      obtain ⟨pitch, hpitch, -⟩ :=
        floatAttr_inRange h hshows "pitch" (by decide +kernel) hel
      obtain ⟨yaw, hyaw, -⟩ := floatAttr_inRange h hshows "yaw" (by decide +kernel) hel
      refine ⟨_, Py.bind_eq_ok.mpr ⟨roll, hroll, Py.bind_eq_ok.mpr ⟨pitch, hpitch,
        Py.bind_eq_ok.mpr ⟨yaw, hyaw, rfl⟩⟩⟩, ?_⟩
      split_ifs
      · exact ht
      · exact ⟨ht.1, ht.2, ht.3⟩

theorem decodeStatusAndVendor_shows (h : content.HeldBy py env)
    (hshows : Shows py naming content detail) (hbattery : SoundBattery py naming content) :
    ∃ t, decodeStatusAndVendor py naming detail = .ok t ∧ t.Valid := by
  obtain ⟨pct, hpct, hrange⟩ := (batteryAttr_shows hshows).mpr hbattery
  rw [decodeStatusAndVendor, hpct]
  cases hel : detail.find naming.vendorElement with
  | none =>
      exact ⟨{ batteryPct := pct }, rfl, fun _ hv ↦ absurd hv (Option.not_mem_none _), hrange,
        fun _ hv ↦ absurd hv (Option.not_mem_none _)⟩
  | some vendor =>
      obtain ⟨v, hv, hvRange⟩ :=
        floatAttr_inRange h hshows "battery_v" (by decide +kernel) hel
      obtain ⟨c, hc, hcRange⟩ :=
        floatAttr_inRange h hshows "current_a" (by decide +kernel) hel
      refine ⟨{ batteryPct := pct, batteryV := v, currentA := c }, ?_, hvRange, hrange, hcRange⟩
      exact Py.bind_eq_ok.mpr ⟨pct, rfl, Py.bind_eq_ok.mpr ⟨v, hv,
        Py.bind_eq_ok.mpr ⟨c, hc, rfl⟩⟩⟩

/-- **The detail is read and valid** exactly if the battery is sound. -/
theorem decodeRicherDetail_shows_iff (h : content.HeldBy py env)
    (hshows : Shows py naming content detail) {pos : Position} (hpos : pos.Valid) :
    (∃ track, decodeRicherDetail py naming (some detail) pos = .ok track ∧ track.1.Valid ∧
      track.2.Valid) ↔ SoundBattery py naming content := by
  constructor
  · rintro ⟨track, htrack, -, hvalid⟩
    obtain ⟨pos', -, htrack⟩ := Py.bind_eq_ok.mp htrack
    obtain ⟨t, ht, htrack⟩ := Py.bind_eq_ok.mp htrack
    obtain ⟨t', ht', htrack⟩ := Py.bind_eq_ok.mp htrack
    cases htrack
    have hsame : t'.batteryPct = t.batteryPct := by
      rw [decodeAttitude] at ht'
      split at ht'
      · cases ht'
        rfl
      · obtain ⟨roll, -, ht'⟩ := Py.bind_eq_ok.mp ht'
        obtain ⟨pitch, -, ht'⟩ := Py.bind_eq_ok.mp ht'
        obtain ⟨yaw, -, ht'⟩ := Py.bind_eq_ok.mp ht'
        cases ht'
        split_ifs <;> rfl
    refine (batteryAttr_shows hshows).mp ⟨t'.batteryPct, ?_, hvalid.battery_pct_range⟩
    rw [hsame]
    exact decodeStatusAndVendor_battery ht
  · intro hbattery
    obtain ⟨pos', hpos', hvalid⟩ := decodeTrack_shows h hshows hpos
    obtain ⟨t, ht, htvalid⟩ := decodeStatusAndVendor_shows h hshows hbattery
    obtain ⟨t', ht', htvalid'⟩ := decodeAttitude_shows h hshows htvalid
    refine ⟨(pos', t'), ?_, hvalid, htvalid'⟩
    exact Py.bind_eq_ok.mpr ⟨pos', hpos', Py.bind_eq_ok.mpr ⟨t, ht,
      Py.bind_eq_ok.mpr ⟨t', ht', rfl⟩⟩⟩

/-! ## Writing the event -/

theorem attrs_eq_present (d : Dict) (names : List (String × String)) :
    attrs py d names = present (names.map fun p ↦ (p.1, (Dict.get? d p.2).map py.strOf)) := by
  rw [attrs, present, List.filterMap_map]
  congr 1
  funext p
  exact (Option.map_map _ _ _).symm

theorem trackOf_eq {p : Position} {d : Dict} (h : p.HeldBy d) :
    trackOf py naming d = nodeOfAttrs (trackPart py naming p).1 (trackPart py naming p).2 := by
  rw [trackOf, h.course, h.speed, trackPart]
  cases p.courseDeg <;> cases p.speedMs <;> rfl

/-- The richer detail is written as its table says. -/
theorem richerNodes_eq {p : Position} {t : Telemetry} {pos telemetry attitude : Dict}
    (hp : p.HeldBy pos) (ht : t.HeldBy telemetry) (ha : (t.attitude.getD {}).HeldBy attitude) :
    richerNodes py naming pos telemetry attitude =
      elements (trackPart py naming p :: telemetryParts py naming t) := by
  simp only [richerNodes, trackOf_eq hp, attrs_eq_present, List.map_cons, List.map_nil,
    ht.battery_pct, ht.battery_v, ht.current, ha.roll, ha.pitch, ha.yaw, Option.map_map]
  simp only [elements, telemetryParts, List.flatMap_cons, List.flatMap_nil, List.append_nil,
    List.append_assoc]
  rfl

/-- So is a detection. -/
theorem nodeOfAttrs_detectionAttrs {det : Option Detection} {d : Dict} (h : DetectionHeldBy det d) :
    nodeOfAttrs naming.detectionElement (detectionAttrs py d (labelOf det)) =
      elements (det.map (detectionPart py naming)).toList := by
  cases det with
  | none =>
      cases h
      rfl
  | some det =>
      have h : det.HeldBy d := h
      rw [labelOf, Option.map_some, Option.getD_some, nodeOfAttrs_detection h, detectionNode,
        attrs_eq_present]
      simp only [List.map_cons, List.map_nil, h.track_id, h.bearing, Option.map_map]
      rfl

/-- The texts of an envelope and of its event. -/
def Content.texts (naming : CotNaming) (env : Envelope) : Content → List String
  | pli callsign tier _ _ =>
      [naming.cotVersion, naming.how, naming.pliType, env.sourceUid, callsign, tier]
  | chat text addressee =>
      [naming.cotVersion, naming.how, naming.chatType, env.msgId, env.sourceUid, text] ++
        addressee.toList
  | marker callsign _ det =>
      [naming.cotVersion, naming.how, naming.markerType, env.sourceUid, callsign, labelOf det]

/-- All texts are made of XML characters. -/
def Legible (naming : CotNaming) (env : Envelope) (content : Content) : Prop :=
  ∀ s ∈ content.texts naming env, Py.Xml.isLegal s = true

/-- The stamps can be written, and the time is of a year with four digits. -/
def Dated (naming : CotNaming) (ts : PyFloat) : Prop :=
  ∃ u v, Py.fromtimestamp ts = .ok u ∧ Py.fourDigitMillis ≤ u / 1000 ∧
    Py.fromtimestamp (ts.add naming.staleS) = .ok v

theorem legal_event_iff {uid etype : String} {ts : PyFloat} {attrib : List (String × String)}
    (h : naming.event uid etype ts = .ok attrib) :
    (∀ kv ∈ attrib, Py.Xml.isLegal kv.2 = true) ↔ Py.Xml.isLegal naming.cotVersion = true ∧
      Py.Xml.isLegal uid = true ∧ Py.Xml.isLegal etype = true ∧
        Py.Xml.isLegal naming.how = true := by
  obtain ⟨time, stale, htime, hstale, rfl⟩ := CotNaming.event_eq_ok.mp h
  simp [isLegal_iso htime, isLegal_iso hstale]

theorem isLegal_trackUid_iff {sourceUid : String} {trackId : Option ℤ} :
    Py.Xml.isLegal (trackUid sourceUid trackId) = true ↔ Py.Xml.isLegal sourceUid = true := by
  have hcolon : Py.Xml.isLegal ":" = true := by decide +kernel
  cases trackId with
  | none => exact Iff.rfl
  | some k => simp [trackUid, isLegal_append, isLegal_signed, hcolon]

/-- The event of a valid track or marker: its detail shows the content, and it is legal if
the envelope is legible. -/
structure Written (py : Interpreter) (naming : CotNaming) (env : Envelope) (content : Content)
    (attrib : List (String × String)) (pos : Dict) (callsign : String) (els : List Element) :
    Prop where
  encoded : encodeEnvelope py naming env = .ok (trackElement py attrib pos callsign els)
  shows : Shows py naming content (contactDetail callsign els)
  legal : Py.Xml.legal (trackElement py attrib pos callsign els) = true ↔ Legible naming env content

theorem written_pli {callsign tier : String} {p : Position} {t : Telemetry}
    (h : ValidPli py env callsign tier p t) (hdated : Dated naming env.ts) :
    ∃ attrib pos els, p.HeldBy pos ∧
      Written py naming env (.pli callsign tier p t) attrib pos callsign els := by
  obtain ⟨u, v, hu, -, hv⟩ := hdated
  obtain ⟨attrib, pos, telemetry, attitude, hattrib, hp, ht, ha, hel⟩ := encodeEnvelope_pli h hu hv
  have hels : pliNodes py naming pos telemetry attitude = elements (if naming.emitDetail then
      trackPart py naming p :: telemetryParts py naming t else []) := by
    rw [pliNodes]
    split_ifs
    · exact richerNodes_eq hp ht ha
    · rfl
  refine ⟨attrib, pos, _, hp, hel, ?_, ?_⟩
  · have hdetail : contactDetail callsign (node "__group" [("name", tier), ("role", "Team Member")] ::
        pliNodes py naming pos telemetry attitude) =
          node "detail" [] (elements ((Content.pli callsign tier p t).detail py naming) ++ []) := by
      rw [hels, List.append_nil]
      rfl
    rw [Shows, hdetail]
    exact get_find_detail (List.forall_mem_nil _)
  · rw [legal_trackElement_iff hp, legal_event_iff hattrib, List.forall_mem_cons, legal_group,
      and_iff_left (legal_pliNodes hp ht ha)]
    simp only [Legible, Content.texts, List.forall_mem_cons, List.not_mem_nil, false_imp_iff,
      implies_true, and_true]
    tauto

/-- The children of a marker are legal if its label is. -/
theorem legal_markerNodes {det : Option Detection} {d : Dict} (h : DetectionHeldBy det d)
    {remarks : String} (hremarks : Py.Xml.isLegal remarks = Py.Xml.isLegal (labelOf det)) :
    (∀ child ∈ nodeOfAttrs naming.detectionElement (detectionAttrs py d (labelOf det)) ++
      [.mk "remarks" [] remarks []], Py.Xml.legal child = true) ↔
        Py.Xml.isLegal (labelOf det) = true := by
  rw [← hremarks]
  constructor
  · intro hall
    exact (Py.Xml.legal_iff.mp (hall (.mk "remarks" [] remarks []) (by simp))).2.1
  · intro hlegal
    refine List.forall_mem_append.mpr ⟨?_, List.forall_mem_singleton.mpr ?_⟩
    · cases det with
      | none =>
          cases h
          exact List.forall_mem_nil _
      | some det =>
          have hdet : det.HeldBy d := h
          rw [hremarks] at hlegal
          rw [labelOf, Option.map_some, Option.getD_some, nodeOfAttrs_detection hdet]
          exact List.forall_mem_singleton.mpr (legal_detectionNode hdet hlegal)
    · exact legal_node (List.forall_mem_nil _) hlegal (List.forall_mem_nil _)

/-- An element without a confidence is no detection. -/
theorem decodeDetection_of_get {detail : Element}
    (h : (detail.find naming.detectionElement).bind (·.get "confidence") = none) :
    decodeDetection py naming (some detail) = .ok none := by
  rw [decodeDetection, Option.bind_some]
  cases hel : detail.find naming.detectionElement with
  | none => rfl
  | some el =>
      rw [hel, Option.bind_some] at h
      dsimp only
      rw [h]

/-- The detection of a marker is read back, or none is. -/
theorem exists_decodeDetection {callsign : String} {det : Option Detection} {d : Dict}
    (h : DetectionHeldBy det d) (hvalid : ∀ d ∈ det, d.Valid) (remarks : String) :
    ∃ found, decodeDetection py naming (some (contactDetail callsign
      (nodeOfAttrs naming.detectionElement (detectionAttrs py d (labelOf det)) ++
        [.mk "remarks" [] remarks []]))) = .ok found := by
  by_cases hcontact : naming.detectionElement = "contact"
  · have hfirst : ∀ els, (contactDetail callsign els).find "contact" =
        some (node "contact" [("callsign", callsign)]) := fun _ ↦ find_first rfl
    refine ⟨none, decodeDetection_of_get ?_⟩
    rw [hcontact, hfirst]
    rfl
  · cases det with
    | none =>
        cases h
        refine ⟨none, decodeDetection_of_get ?_⟩
        rw [contactDetail, find_of_ne (Ne.symm hcontact)]
        show ([Element.mk "remarks" [] remarks []].find? (·.tag = naming.detectionElement)).bind _ = _
        rw [List.find?_singleton]
        split_ifs <;> rfl
    | some det =>
        have hdet : det.HeldBy d := h
        refine ⟨some det, decodeDetection_node hdet (hvalid det rfl) ?_⟩
        rw [labelOf, Option.map_some, Option.getD_some, nodeOfAttrs_detection hdet, contactDetail,
          find_of_ne (Ne.symm hcontact)]
        exact List.find?_cons_of_pos (decide_eq_true rfl)

theorem written_marker {callsign : String} {p : Position} {det : Option Detection}
    (h : ValidMarker env callsign p det) (hdated : Dated naming env.ts) :
    ∃ attrib pos els, p.HeldBy pos ∧
      Written py naming env (.marker callsign p det) attrib pos callsign els ∧
        ∃ found, decodeDetection py naming (some (contactDetail callsign els)) = .ok found := by
  obtain ⟨u, v, hu, -, hv⟩ := hdated
  obtain ⟨attrib, pos, d, remarks, hattrib, hp, hdet, hremarks, hel⟩ :=
    encodeEnvelope_marker py naming h hu hv
  refine ⟨attrib, pos, _, hp, ⟨hel, ?_, ?_⟩, ?_⟩
  · have hdetail : contactDetail callsign (nodeOfAttrs naming.detectionElement
        (detectionAttrs py d (labelOf det)) ++ [.mk "remarks" [] remarks []]) =
          node "detail" [] (elements ((Content.marker callsign p det).detail py naming) ++
            [.mk "remarks" [] remarks []]) := by
      rw [nodeOfAttrs_detectionAttrs hdet]
      rfl
    rw [Shows, hdetail]
    exact get_find_detail (List.forall_mem_singleton.mpr rfl)
  · rw [legal_trackElement_iff hp, legal_event_iff hattrib, legal_markerNodes hdet hremarks,
      isLegal_trackUid_iff]
    simp only [Legible, Content.texts, List.forall_mem_cons, List.not_mem_nil, false_imp_iff,
      implies_true, and_true]
    tauto
  · exact exists_decodeDetection hdet h.detection_valid remarks

/-! ## The trip -/

theorem Trip.dated_stale (hnames : naming.WellNamed) (h : Trip py et naming env e') :
    Dated naming env.ts := by
  obtain ⟨u, hu, hfour⟩ := h.dated hnames
  obtain ⟨v, hv⟩ := h.stale
  exact ⟨u, v, hu, hfour, hv⟩

/-- The event of an envelope that makes the trip is legal. -/
theorem Trip.legal (hnames : naming.WellNamed) {el : Element}
    (hel : encodeEnvelope py naming env = .ok el) (h : Trip py et naming env e') :
    Py.Xml.legal el = true := by
  obtain ⟨b, henc, hdec⟩ := h
  obtain ⟨el', hel', rfl⟩ := encode_eq_ok.mp henc
  rw [hel] at hel'
  cases hel'
  obtain ⟨ev, hev, -⟩ := decodeEvent_identity hdec
  rw [et.fromstring_tostring el ((encodeEnvelope_eq_ok hel).2.2 hnames)] at hev
  exact (Option.ite_none_right_eq_some.mp hev).1

/-- A written track or marker makes the trip exactly if it is legible and its battery is
sound. -/
theorem trip_iff_of_written (et : ElementTree) (hnames : naming.WellNamed)
    (hvalid : content.HeldBy py env) (hchat : naming.decodedKind (naming.typeOf env.kind) ≠ .chat)
    (hdated : Dated naming env.ts) {attrib : List (String × String)} {pos : Dict}
    {callsign : String} {els : List Element} {p : Position} (hp : p.HeldBy pos) (hpvalid : p.Valid)
    (hwritten : Written py naming env content attrib pos callsign els)
    (hdetection : ∃ found, detectionOf py naming (naming.decodedKind (naming.typeOf env.kind))
      (some (contactDetail callsign els)) = .ok found) :
    (∃ e', Trip py et naming env e') ↔
      Legible naming env content ∧ SoundBattery py naming content := by
  have hbattery := decodeRicherDetail_shows_iff hvalid hwritten.shows hpvalid.bare
  obtain ⟨u, v, hu, hfour, hv⟩ := hdated
  constructor
  · rintro ⟨e', htrip⟩
    have hlegal := htrip.legal hnames hwritten.encoded
    refine ⟨hwritten.legal.mp hlegal, hbattery.mp ?_⟩
    obtain ⟨b, henc, hdec⟩ := htrip
    obtain ⟨el, hel, rfl⟩ := encode_eq_ok.mp henc
    rw [hwritten.encoded] at hel
    cases hel
    have hdec' : decodeEvent py et naming (Py.Xml.tostring (trackElement py attrib pos callsign els)) =
      .ok e' := hdec
    rw [decodeEvent_tostring hnames hwritten.encoded hlegal hu hfour, if_neg hchat] at hdec'
    obtain ⟨pos', track, detection, hpos', htrack, htrackValid, -⟩ :=
      decodeTrackEvent_eq_ok.mp hdec'
    have hpoint : (trackElement py attrib pos callsign els).find "point" = some (point py pos) :=
      find_point _ _ _
    have hdetail : (trackElement py attrib pos callsign els).find "detail" =
        some (contactDetail callsign els) := find_detail _ _ _
    rw [written, hpoint, decodePoint_point hp] at hpos'
    cases hpos'
    rw [written, hdetail] at htrack
    exact ⟨track, guarded_eq_ok htrack, htrackValid⟩
  · rintro ⟨hlegible, hsound⟩
    obtain ⟨track, htrack, htrackValid⟩ := hbattery.mpr hsound
    obtain ⟨found, hfound⟩ := hdetection
    obtain ⟨e', htrip, -⟩ := trip_of_parts hnames hwritten.encoded (hwritten.legal.mpr hlegible) hu
      hfour hp rfl hchat htrack htrackValid hfound
    exact ⟨e', htrip⟩

/-- A chat makes the trip exactly if it is legible. -/
theorem trip_iff_of_chat (et : ElementTree) (hnames : naming.WellNamed) {text : String}
    {addressee : Option String} (h : ValidChat env text addressee)
    (hchat : naming.decodedKind (naming.typeOf env.kind) = .chat) (hdated : Dated naming env.ts) :
    (∃ e', Trip py et naming env e') ↔ Legible naming env (.chat text addressee) := by
  obtain ⟨u, v, hu, hfour, hv⟩ := hdated
  obtain ⟨attrib, hattrib, hel⟩ := encodeEnvelope_chat py h hu hv
  have hlegal : Py.Xml.legal (chatElement py env attrib text) = true ↔
      Legible naming env (.chat text addressee) := by
    rw [legal_chatElement_iff h, legal_event_iff hattrib]
    simp only [Legible, Content.texts, List.cons_append, List.nil_append, List.forall_mem_cons,
      Option.mem_toList]
    tauto
  rw [← hlegal]
  constructor
  · rintro ⟨e', htrip⟩
    exact htrip.legal hnames hel
  · intro hlegalEl
    have hdecode : decodeEvent py et naming (Py.Xml.tostring (chatElement py env attrib text)) =
        .ok _ := (decodeEvent_tostring hnames hel hlegalEl hu hfour).trans (if_pos hchat)
    exact ⟨_, trip_of_decodeEvent hel hdecode⟩

/-- A legible envelope with a sound battery makes the trip, and no other does. -/
theorem trip_iff (et : ElementTree) (hnames : naming.WellNamed) (h : content.HeldBy py env)
    (hkeeps : naming.decodedKind (naming.typeOf env.kind) = env.kind)
    (hdated : Dated naming env.ts) :
    (∃ e', Trip py et naming env e') ↔
      Legible naming env content ∧ SoundBattery py naming content := by
  cases content with
  | pli callsign tier p t =>
      have hvalid : ValidPli py env callsign tier p t := h
      have hkind := hvalid.kind
      obtain ⟨attrib, pos, els, hp, hwritten⟩ := written_pli hvalid hdated
      rw [hkind] at hkeeps
      refine trip_iff_of_written et hnames h ?_ hdated hp hvalid.position_valid hwritten ⟨none, ?_⟩
      · rw [hkind, hkeeps]
        nofun
      · rw [hkind, hkeeps]
        rfl
  | chat text addressee =>
      have hvalid : ValidChat env text addressee := h
      rw [hvalid.kind] at hkeeps
      rw [trip_iff_of_chat et hnames hvalid (by rwa [hvalid.kind]) hdated]
      exact (and_iff_left nofun).symm
  | marker callsign p det =>
      have hvalid : ValidMarker env callsign p det := h
      have hkind := hvalid.kind
      obtain ⟨attrib, pos, els, hp, hwritten, found, hfound⟩ := written_marker hvalid hdated
      rw [hkind] at hkeeps
      refine trip_iff_of_written et hnames h ?_ hdated hp hvalid.position_valid hwritten ⟨found, ?_⟩
      · rw [hkind, hkeeps]
        nofun
      · rw [hkind, hkeeps, detectionOf, if_pos rfl, hfound]
        rfl

/-- The speed of a drone in the place of its battery, and a chat type of its own. -/
def crossed : CotNaming := { statusElement := "track", batteryAttr := "speed", chatType := "b-t-f-d" }

def charged : Telemetry where
  batteryPct := some 80
  attitude := some { rollDeg := some (.fin 2) }

theorem validPli_flying (py : Interpreter) :
    ValidPli py flying "ALPHA" "user" cruise charged where
  kind := rfl
  node := ⟨_, rfl, rfl, rfl⟩
  position := (isPli_flying py).position
  position_valid := (isPli_flying py).position_valid
  telemetry := (isPli_flying py).telemetry
  telemetry_valid := (isPli_flying py).telemetry_valid

end Cot

end DroneComms.Mesh
