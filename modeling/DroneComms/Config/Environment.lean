import DroneComms.Py.Interpreter
import DroneComms.Py.Json
import DroneComms.Py.TextFile

/-!
# Settings from the environment

The loader of `meshsa/_envconfig.py` and what is built on it: `NodeConfig.from_env` and
`ScoutConfig.from_env` of `meshsa/config.py`, `resolve_config` of `llm/server.py` and
`resolve_agent_knobs` of `llm/agent.py`, up to the data that pydantic validates.  A variable sets
a field of a section over a JSON document, which sets it over the default.
-/

namespace DroneComms.Config

open Py (PyFloat Value Dict)
open Py.Json (setKey Loaded)

/-- The readers of the interpreter: `int(s)`, `float(s)` and `json.loads`. -/
structure Readers where
  int : String → Option ℤ
  float : String → Option PyFloat
  loads : List Char → Loaded

/-- `os.environ`. -/
abbrev Environ := String → Option String

/-- The `ValueError` of a caster: `{key}: expected {expected}, got {raw!r}`, or
`{key}: {value} is below the minimum {bound}`, or above the maximum. -/
inductive CastError where
  | expected (key expected raw : String)
  | below (key : String) (value bound : ℤ)
  | above (key : String) (value bound : ℤ)
deriving DecidableEq

/-- The variable that an error names. -/
def CastError.key : CastError → String
  | expected key _ _ => key
  | below key _ _ => key
  | above key _ _ => key

/-- A `Caster`: from the key and the raw text. -/
abbrev Caster := String → String → Except CastError Value

/-! ## The casters -/

variable (r : Readers)

/-- `raw.strip().lower()`, as far as it decides a boolean. -/
def cleaned (raw : String) : String := String.ofList ((Py.strip raw.toList).map Char.toLower)

/-- `parse_bool`. -/
def parseBool : Caster := fun key raw ↦
  if cleaned raw ∈ ["true", "1", "yes"] then .ok (.bool true)
  else if cleaned raw ∈ ["false", "0", "no", ""] then .ok (.bool false)
  else .error (.expected key "a boolean" raw)

/-- `parse_int`, with the range that is to be checked. -/
def parseInt (lo hi : Option ℤ) : Caster := fun key raw ↦
  match r.int raw with
  | none => .error (.expected key "an integer" raw)
  | some n =>
      match lo.filter (n < ·), hi.filter (· < n) with
      | some lo, _ => .error (.below key n lo)
      | none, some hi => .error (.above key n hi)
      | none, none => .ok (.int n)

/-- `parse_float`, which no loader gives a range. -/
def parseFloat : Caster := fun key raw ↦
  match r.float raw with
  | none => .error (.expected key "a number" raw)
  | some x => if x.isFinite then .ok (.float x) else .error (.expected key "a finite number" raw)

/-- `parse_str`. -/
def parseStr : Caster := fun _ raw ↦ .ok (.str raw)

/-- `parse_token`. -/
def parseToken : Caster := fun _ raw ↦
  let stripped := Py.strip raw.toList
  .ok (if stripped = [] then .none else .str (String.ofList stripped))

/-- `parse_csv`. -/
def parseCsv : Caster := fun _ raw ↦
  .ok (.list (((raw.toList.splitOn ',').map Py.strip).filter (· ≠ []) |>.map fun item ↦
    .str (String.ofList item)))

/-- The annotations for which there is a caster, without `None`. -/
inductive FieldType where
  | bool
  | int
  | float
  | /-- `str`, a `Literal` or an enumeration of texts -/ text
  | /-- `tuple[str, ...]` or `frozenset[str]` -/ csv
deriving DecidableEq

/-- `caster_for`. -/
def casterFor : FieldType → Caster
  | .bool => parseBool
  | .int => parseInt r none none
  | .float => parseFloat r
  | .text => parseStr
  | .csv => parseCsv

theorem parseInt_eq_ok {lo hi : Option ℤ} {key raw : String} {v : Value}
    (h : parseInt r lo hi key raw = .ok v) :
    ∃ n, v = .int n ∧ (∀ bound ∈ lo, bound ≤ n) ∧ ∀ bound ∈ hi, n ≤ bound := by
  unfold parseInt at h
  split at h
  next => cases h
  next n _ =>
    split at h <;> cases h
    rename_i hlo hhi
    rw [Option.filter_eq_none_iff] at hlo hhi
    exact ⟨n, rfl, fun bound hbound ↦ by simpa using hlo bound hbound,
      fun bound hbound ↦ by simpa using hhi bound hbound⟩

/-- A token is no token, or a text that is not blank. -/
theorem parseToken_eq_ok {key raw : String} {v : Value} (h : parseToken key raw = .ok v) :
    v = .none ∨ ∃ token, v = .str token ∧ token ≠ "" := by
  simp only [parseToken, Except.ok.injEq] at h
  split_ifs at h with hblank
  · exact .inl h.symm
  · refine .inr ⟨_, h.symm, fun hempty ↦ hblank ?_⟩
    rw [← String.toList_ofList (l := Py.strip raw.toList), hempty]
    rfl

/-! ## The loader -/

/-- The fields of a model, with their annotations. -/
abbrev Fields := List (String × FieldType)

/-- `env_key`. -/
def envKey (pre : String) (inSection : Option String) (field : String) : String :=
  let upper (s : String) : String := String.ofList (s.toList.map Char.toUpper)
  pre ++ (inSection.elim "" fun s ↦ upper s ++ "_") ++ upper field

/-- A field that a variable binds. -/
structure Binding where
  name : String
  key : String
  cast : Caster

/-- The bindings that `apply_overrides` goes through. -/
def bindings (pre : String) (inSection : Option String) (casters : List (String × Caster))
    (aliases : List (String × String)) (fields : Fields) : List Binding :=
  fields.map fun f ↦ {
    name := f.1
    key := (aliases.lookup f.1).getD (envKey pre inSection f.1)
    cast := (casters.lookup f.1).getD (casterFor r f.2) }

/-- `apply_overrides`. -/
def applyOverrides (env : Environ) : List Binding → Dict → Except CastError Dict
  | [], data => .ok data
  | b :: bs, data =>
      match env b.key with
      | none => applyOverrides env bs data
      | some raw => do applyOverrides env bs (setKey data b.name (← b.cast b.key raw))

/-- Why there are no settings. -/
inductive ConfigError where
  | cast (e : CastError)
  | /-- `json.loads` or the `update` raises. -/ json
  | /-- `dict` of the section raises. -/ notObject (name : String)

/-- `dict(data.get(section, {}))`.  Anything but an object is left to an error, also what `dict`
takes for a sequence of pairs. -/
def sectionOf (data : Dict) (name : String) : Except ConfigError Dict :=
  match data.lookup name with
  | none => .ok []
  | some (.dict d) => .ok d
  | some _ => .error (.notObject name)

/-- A section of a configuration, with what binds its fields. -/
structure Section where
  name : String
  bindings : List Binding

/-- The values of a section: the overrides over the document. -/
def Section.values (env : Environ) (s : Section) (data : Dict) : Except ConfigError Dict := do
  let d ← sectionOf data s.name
  (applyOverrides env s.bindings d).mapError .cast

/-- `load_sections`. -/
def loadSections (env : Environ) : List Section → Dict → Except ConfigError Dict
  | [], data => .ok data
  | s :: ss, data => do
      let values ← s.values env data
      loadSections env ss (if values = [] then data else setKey data s.name (.dict values))

/-- `merge_config_json`, into an empty dictionary. -/
def mergeConfigJson (env : Environ) (pre : String) : Except ConfigError Dict :=
  match env (pre ++ "CONFIG_JSON") with
  | none => .ok []
  | some blob =>
      if blob = "" then .ok []
      else match r.loads blob.toList with
        | .value (.dict d) => .ok d
        | _ => .error .json

/-! ## The models -/

/-- `MeshConfig`. -/
def meshFields : Fields :=
  [("channel", .text), ("psk", .text), ("region", .text), ("freq_khz", .int)]

/-- `RouterConfig`. -/
def routerFields : Fields := [("dedupe_cache_size", .int), ("queue_maxsize", .int)]

/-- `HealthConfig`. -/
def healthFields : Fields :=
  [("enabled", .bool), ("host", .text), ("port", .int), ("token", .text),
    ("metrics_enabled", .bool), ("metrics_path", .text), ("metrics_format", .text)]

/-- `NemotronConfig`. -/
def inferenceFields : Fields :=
  [("enabled", .bool), ("api_key", .text), ("base_url", .text), ("model", .text),
    ("system_prompt", .text), ("temperature", .float), ("max_tokens", .int),
    ("timeout_s", .float), ("max_retries", .int), ("backoff_base", .float),
    ("backoff_max_s", .float), ("insight_prefix", .text), ("min_interval_s", .float),
    ("max_concurrent_requests", .int), ("response_format", .text),
    ("guided_json_schema", .text), ("guided_json_summary_field", .text), ("models", .csv),
    ("offline_queue_max", .int), ("max_pending_tasks", .int)]

/-- `ScoutConfig`. -/
def scoutFields : Fields :=
  [("enabled", .bool), ("rtk_enabled", .bool), ("vine_spacing_m", .float),
    ("row_spacing_m", .float), ("dedup_radius_m", .float), ("sync_max_skew_s", .float),
    ("attitude_sigma_deg", .float), ("pos_cep_m", .float), ("marker_stale_s", .float),
    ("forward_overlap", .float), ("side_overlap", .float), ("survey_alt_agl_m", .float),
    ("survey_cruise_speed_ms", .float), ("survey_hover_speed_ms", .float),
    ("camera_img_w", .int), ("camera_img_h", .int), ("camera_h_fov_deg", .float),
    ("camera_v_fov_deg", .float), ("dem_path", .text), ("store_path", .text),
    ("station_host", .text), ("station_port", .int), ("station_token", .text)]

/-- `UIConfig`. -/
def uiFields : Fields :=
  [("enabled", .bool), ("host", .text), ("port", .int), ("token", .text),
    ("map_style_url", .text), ("poll_interval_s", .float), ("track_stale_s", .float),
    ("detection_stale_s", .float), ("max_tracks", .int), ("max_detections", .int),
    ("chat_enabled", .bool), ("log_ring_enabled", .bool), ("log_ring_size", .int),
    ("log_ring_level", .text), ("metrics_format", .text), ("title", .text)]

/-- `NODE_ENV_SCALARS`. -/
def nodeEnvScalars : Fields :=
  [("uid", .text), ("callsign", .text), ("tier", .text), ("pli_interval_s", .float),
    ("default_stale_s", .float)]

/-- `NODE_ENV_SECTIONS`. -/
def nodeEnvSections : List (String × Fields) :=
  [("mesh", meshFields), ("router", routerFields), ("health", healthFields),
    ("inference", inferenceFields), ("scout", scoutFields), ("ui", uiFields)]

/-- The section of a model under the prefix. -/
def sectionBindings (pre : String) (s : String × Fields) : Section where
  name := s.1
  bindings := bindings r pre (some s.1) [] [] s.2

/-- `NodeConfig.from_env`, up to the validation. -/
def nodeFromEnv (env : Environ) (pre : String) : Except ConfigError Dict := do
  let data ← mergeConfigJson r env pre
  let data ← (applyOverrides env (bindings r pre none [] [] nodeEnvScalars) data).mapError .cast
  loadSections env (nodeEnvSections.map (sectionBindings r pre)) data

/-- `ScoutConfig.from_env`, up to the validation. -/
def scoutFromEnv (env : Environ) (pre : String) : Except ConfigError Dict := do
  let data ← mergeConfigJson r env pre
  (sectionBindings r pre ("scout", scoutFields)).values env data

/-- `node_env_inventory`. -/
def nodeEnvInventory (pre : String) : List String :=
  (pre ++ "CONFIG_JSON") :: nodeEnvScalars.map (fun f ↦ envKey pre none f.1) ++
    nodeEnvSections.flatMap fun s ↦ s.2.map fun f ↦ envKey pre (some s.1) f.1

/-- `resolve_config`, up to the validation. -/
def resolveConfig (env : Environ) : Except CastError Dict :=
  applyOverrides env (bindings r "MESHSA_LLM_" none
    [("port", parseInt r (some 1) (some 65535)), ("max_prompt_chars", parseInt r (some 1) none),
      ("token", parseToken)]
    [("mavlink2rest_url", "MESHSA_MAVLINK2REST_URL"), ("drone_uid", "MESHSA_DRONE_UID"),
      ("fts_tracks_url", "MESHSA_FTS_TRACKS_URL")]
    [("host", .text), ("port", .int), ("token", .text), ("mavlink2rest_url", .text),
      ("drone_uid", .text), ("fts_tracks_url", .text), ("max_prompt_chars", .int)]) []

/-- `resolve_agent_knobs`, up to the validation. -/
def resolveAgentKnobs (env : Environ) : Except CastError Dict :=
  applyOverrides env (bindings r "MESHSA_LLM_" none
    [("max_tokens", parseInt r (some 1) none), ("max_iterations", parseInt r (some 1) none)] []
    [("model", .text), ("max_tokens", .int), ("max_iterations", .int)]) []

/-! ## What an override does -/

theorem lookup_replaced (d : Dict) (k : String) (v : Value) (k' : String) :
    (d.map fun kv ↦ if kv.1 = k then (k, v) else kv).lookup k' =
      if k' = k then (d.lookup k').map fun _ ↦ v else d.lookup k' := by
  induction d with
  | nil => exact (ite_self _).symm
  | cons kv d ih =>
      obtain ⟨key, value⟩ := kv
      rw [List.map_cons, List.lookup_cons, List.lookup_cons, ih]
      by_cases hk : key = k
      · subst hk
        by_cases hkey : k' = key
        · simp [hkey]
        · simp only [if_pos, if_neg hkey, beq_false_of_ne hkey]
      · by_cases hkey : k' = key
        · subst hkey
          simp [hk]
        · simp only [if_neg hk, beq_false_of_ne hkey]

theorem lookup_setKey (d : Dict) (k : String) (v : Value) (k' : String) :
    (setKey d k v).lookup k' = if k' = k then some v else d.lookup k' := by
  unfold setKey
  split_ifs with hany hk hk
  · obtain ⟨kv, hkv, hkey⟩ := List.any_eq_true.mp hany
    have hsome : (d.lookup k').isSome := by
      rw [List.lookup_isSome_iff]
      exact ⟨kv, hkv, beq_iff_eq.mpr (hk.trans (of_decide_eq_true hkey).symm)⟩
    obtain ⟨old, hold⟩ := Option.isSome_iff_exists.mp hsome
    rw [lookup_replaced, if_pos hk, hold]
    rfl
  · rw [lookup_replaced, if_neg hk]
  · have hnone : d.lookup k' = none := by
      rw [List.lookup_eq_none_iff]
      intro kv hkv
      refine bne_iff_ne.mpr fun hkey ↦ hany ?_
      exact List.any_eq_true.mpr ⟨kv, hkv, decide_eq_true (hkey.symm.trans hk)⟩
    rw [List.lookup_append, hnone, hk, List.lookup_cons_self]
    rfl
  · rw [List.lookup_append, List.lookup_cons, beq_false_of_ne hk]
    exact Option.or_none

/-- What a binding makes of the value of its field. -/
def overlaid (env : Environ) (b? : Option Binding) (old : Option Value) : Option Value :=
  match b? with
  | none => old
  | some b =>
      match env b.key with
      | none => old
      | some raw => (b.cast b.key raw).toOption

/-- A variable that is not set, or can be cast. -/
def Binding.Casts (env : Environ) (b : Binding) : Prop :=
  ∀ raw, env b.key = some raw → ∃ v, b.cast b.key raw = .ok v

variable {env : Environ}

theorem applyOverrides_cons_some {b : Binding} {bs : List Binding} {data : Dict} {raw : String}
    (h : env b.key = some raw) : applyOverrides env (b :: bs) data =
      b.cast b.key raw >>= fun v ↦ applyOverrides env bs (setKey data b.name v) := by
  rw [applyOverrides, h]

theorem applyOverrides_cons_none {b : Binding} {bs : List Binding} {data : Dict}
    (h : env b.key = none) : applyOverrides env (b :: bs) data = applyOverrides env bs data := by
  rw [applyOverrides, h]

/-- The overrides succeed if every variable that is set can be cast. -/
theorem exists_applyOverrides {bs : List Binding} {data : Dict} :
    (∃ data', applyOverrides env bs data = .ok data') ↔ ∀ b ∈ bs, b.Casts env := by
  induction bs generalizing data with
  | nil => exact ⟨fun _ ↦ List.forall_mem_nil _, fun _ ↦ ⟨data, rfl⟩⟩
  | cons b bs ih =>
      rw [List.forall_mem_cons]
      cases hkey : env b.key with
      | none =>
          rw [applyOverrides_cons_none hkey, ih]
          refine (and_iff_right fun raw hraw ↦ ?_).symm
          rw [hkey] at hraw
          cases hraw
      | some raw =>
          rw [applyOverrides_cons_some hkey]
          constructor
          · rintro ⟨data', h⟩
            obtain ⟨v, hv, h⟩ := Py.bind_eq_ok.mp h
            refine ⟨fun raw' hraw ↦ ?_, ih.mp ⟨data', h⟩⟩
            rw [hkey] at hraw
            cases hraw
            exact ⟨v, hv⟩
          · rintro ⟨hb, hbs⟩
            obtain ⟨v, hv⟩ := hb raw hkey
            obtain ⟨data', h⟩ := ih.mpr hbs
            exact ⟨data', Py.bind_eq_ok.mpr ⟨v, hv, h⟩⟩

/-- The overrides set the fields whose variables are set. -/
theorem lookup_applyOverrides {bs : List Binding} (hnodup : (bs.map Binding.name).Nodup)
    {data data' : Dict} (h : applyOverrides env bs data = .ok data') (name : String) :
    data'.lookup name = overlaid env (bs.find? (·.name = name)) (data.lookup name) := by
  induction bs generalizing data with
  | nil =>
      cases h
      rfl
  | cons b bs ih =>
      rw [List.map_cons, List.nodup_cons] at hnodup
      obtain ⟨hnew, hnodup⟩ := hnodup
      have hnone : b.name = name → bs.find? (·.name = name) = none := by
        rintro rfl
        rw [List.find?_eq_none]
        intro b' hb' hname
        exact hnew (List.mem_map.mpr ⟨b', hb', of_decide_eq_true hname⟩)
      cases hkey : env b.key with
      | none =>
          rw [applyOverrides_cons_none hkey] at h
          rw [ih hnodup h]
          by_cases hname : b.name = name
          · rw [hnone hname, List.find?_cons_of_pos (by simpa using hname)]
            simp only [overlaid, hkey]
          · rw [List.find?_cons_of_neg (by simpa using hname)]
      | some raw =>
          rw [applyOverrides_cons_some hkey] at h
          obtain ⟨v, hv, h⟩ := Py.bind_eq_ok.mp h
          rw [ih hnodup h, lookup_setKey]
          by_cases hname : b.name = name
          · rw [hnone hname, List.find?_cons_of_pos (by simpa using hname), if_pos hname.symm]
            simp only [overlaid, hkey, hv]
            rfl
          · rw [List.find?_cons_of_neg (by simpa using hname), if_neg (Ne.symm hname)]

/-- A binding whose variable is set and cannot be cast. -/
def Binding.Fails (env : Environ) (e : CastError) (b : Binding) : Prop :=
  ∃ raw, env b.key = some raw ∧ b.cast b.key raw = .error e

theorem fails_of_applyOverrides {bs : List Binding} {data : Dict} {e : CastError}
    (h : applyOverrides env bs data = .error e) : ∃ b ∈ bs, b.Fails env e := by
  induction bs generalizing data with
  | nil => cases h
  | cons b bs ih =>
      cases hkey : env b.key with
      | none =>
          rw [applyOverrides_cons_none hkey] at h
          obtain ⟨b', hb', hfails⟩ := ih h
          exact ⟨b', List.mem_cons_of_mem b hb', hfails⟩
      | some raw =>
          rw [applyOverrides_cons_some hkey] at h
          cases hcast : b.cast b.key raw with
          | error e' =>
              rw [hcast] at h
              cases h
              exact ⟨b, List.mem_cons_self, raw, hkey, hcast⟩
          | ok v =>
              rw [hcast] at h
              obtain ⟨b', hb', hfails⟩ := ih h
              exact ⟨b', List.mem_cons_of_mem b hb', hfails⟩

/-- The overrides read no variables but those of the bindings. -/
theorem applyOverrides_congr {env' : Environ} {bs : List Binding} {data : Dict}
    (h : ∀ b ∈ bs, env b.key = env' b.key) :
    applyOverrides env bs data = applyOverrides env' bs data := by
  induction bs generalizing data with
  | nil => rfl
  | cons b bs ih =>
      obtain ⟨hb, hbs⟩ := List.forall_mem_cons.mp h
      cases hkey : env b.key with
      | none =>
          rw [applyOverrides_cons_none hkey, applyOverrides_cons_none (hb.symm.trans hkey), ih hbs]
      | some raw =>
          rw [applyOverrides_cons_some hkey, applyOverrides_cons_some (hb.symm.trans hkey)]
          exact congrArg _ (funext fun v ↦ ih hbs)

/-! ## Sections -/

theorem mapError_eq_ok {α ε ε' : Type} {x : Except ε α} {f : ε → ε'} {a : α} :
    x.mapError f = .ok a ↔ x = .ok a := by
  cases x <;> simp [Except.mapError]

/-- The values of a section depend on what the data has in its place. -/
theorem Section.values_congr {s : Section} {data data' : Dict}
    (h : data'.lookup s.name = data.lookup s.name) : s.values env data' = s.values env data := by
  unfold Section.values sectionOf
  rw [h]

theorem Section.values_eq_ok {s : Section} {data values : Dict} :
    s.values env data = .ok values ↔ ∃ d, sectionOf data s.name = .ok d ∧
      applyOverrides env s.bindings d = .ok values := by
  unfold Section.values
  simp only [Py.bind_eq_ok, mapError_eq_ok]

/-- What a section leaves behind. -/
def stored (data : Dict) (name : String) (values : Dict) : Dict :=
  if values = [] then data else setKey data name (.dict values)

theorem lookup_stored (data values : Dict) (name name' : String) :
    (stored data name values).lookup name' =
      if name' = name ∧ values ≠ [] then some (.dict values) else data.lookup name' := by
  unfold stored
  split_ifs with hvalues h h
  · exact absurd hvalues h.2
  · rfl
  · rw [lookup_setKey, if_pos h.1]
  · rw [lookup_setKey, if_neg fun hname ↦ h ⟨hname, hvalues⟩]

theorem loadSections_cons {s : Section} {ss : List Section} {data data' : Dict} :
    loadSections env (s :: ss) data = .ok data' ↔ ∃ values, s.values env data = .ok values ∧
      loadSections env ss (stored data s.name values) = .ok data' := by
  rw [loadSections]
  exact Py.bind_eq_ok

/-- Loading sections stores the values of each, and changes nothing else. -/
theorem loadSections_spec {ss : List Section} (hnodup : (ss.map Section.name).Nodup)
    {data data' : Dict} (h : loadSections env ss data = .ok data') :
    (∀ s ∈ ss, ∃ values, s.values env data = .ok values ∧ data'.lookup s.name =
      if values ≠ [] then some (.dict values) else data.lookup s.name) ∧
    ∀ name ∉ ss.map Section.name, data'.lookup name = data.lookup name := by
  induction ss generalizing data with
  | nil =>
      cases h
      exact ⟨List.forall_mem_nil _, fun name _ ↦ rfl⟩
  | cons s ss ih =>
      rw [List.map_cons, List.nodup_cons] at hnodup
      obtain ⟨hnew, hnodup⟩ := hnodup
      obtain ⟨values, hvalues, h⟩ := loadSections_cons.mp h
      obtain ⟨hloaded, hframe⟩ := ih hnodup h
      have hsame : ∀ name, name ≠ s.name →
          (stored data s.name values).lookup name = data.lookup name := by
        intro name hname
        rw [lookup_stored, if_neg fun h ↦ hname h.1]
      constructor
      · rw [List.forall_mem_cons]
        refine ⟨⟨values, hvalues, ?_⟩, fun s' hs' ↦ ?_⟩
        · rw [hframe s.name hnew, lookup_stored]
          simp only [true_and]
        · obtain ⟨values', hvalues', hlookup⟩ := hloaded s' hs'
          have hne : s'.name ≠ s.name := fun hname ↦ hnew (hname ▸ List.mem_map_of_mem hs')
          rw [Section.values_congr (hsame _ hne)] at hvalues'
          rw [hsame _ hne] at hlookup
          exact ⟨values', hvalues', hlookup⟩
      · intro name hname
        rw [List.map_cons, List.mem_cons, not_or] at hname
        rw [hframe name hname.2, hsame name hname.1]

/-- All sections load if each of them does. -/
theorem exists_loadSections {ss : List Section} (hnodup : (ss.map Section.name).Nodup)
    {data : Dict} : (∃ data', loadSections env ss data = .ok data') ↔
      ∀ s ∈ ss, ∃ values, s.values env data = .ok values := by
  constructor
  · rintro ⟨data', h⟩ s hs
    obtain ⟨values, hvalues, -⟩ := (loadSections_spec hnodup h).1 s hs
    exact ⟨values, hvalues⟩
  · intro h
    induction ss generalizing data with
    | nil => exact ⟨data, rfl⟩
    | cons s ss ih =>
        rw [List.map_cons, List.nodup_cons] at hnodup
        obtain ⟨⟨values, hvalues⟩, hloads⟩ := List.forall_mem_cons.mp h
        have hrest : ∀ s' ∈ ss, ∃ values', s'.values env (stored data s.name values) =
            .ok values' := by
          intro s' hs'
          have hne : s'.name ≠ s.name := fun hname ↦ hnodup.1 (hname ▸ List.mem_map_of_mem hs')
          have hsame : (stored data s.name values).lookup s'.name = data.lookup s'.name := by
            rw [lookup_stored, if_neg fun h ↦ hne h.1]
          rw [Section.values_congr hsame]
          exact hloads s' hs'
        obtain ⟨data', h'⟩ := ih hnodup.2 hrest
        exact ⟨data', loadSections_cons.mpr ⟨values, hvalues, h'⟩⟩

theorem loadSections_congr {env' : Environ} {ss : List Section} {data : Dict}
    (h : ∀ s ∈ ss, ∀ b ∈ s.bindings, env b.key = env' b.key) :
    loadSections env ss data = loadSections env' ss data := by
  induction ss generalizing data with
  | nil => rfl
  | cons s ss ih =>
      obtain ⟨hs, hss⟩ := List.forall_mem_cons.mp h
      have hvalues : s.values env data = s.values env' data := by
        unfold Section.values
        exact congrArg _ (funext fun d ↦ congrArg _ (applyOverrides_congr hs))
      rw [loadSections, loadSections, hvalues]
      exact congrArg _ (funext fun values ↦ ih hss)

/-! ## The data of a node -/

/-- A place in the data of a node: a scalar, or a field of a section. -/
structure Place where
  inSection : Option String
  field : String
deriving DecidableEq

/-- The value in a place. -/
def valueAt (data : Dict) (p : Place) : Option Value :=
  match p.inSection with
  | none => data.lookup p.field
  | some s =>
      match data.lookup s with
      | some (.dict d) => d.lookup p.field
      | _ => none

/-- The binding of a place. -/
def bindingAt (pre : String) (p : Place) : Option Binding :=
  match p.inSection with
  | none => (bindings r pre none [] [] nodeEnvScalars).find? (·.name = p.field)
  | some s => (nodeEnvSections.lookup s).bind fun fields ↦
      (bindings r pre (some s) [] [] fields).find? (·.name = p.field)

/-- A place that is no section as a whole, nor in anything else than a section. -/
def Place.IsField (p : Place) : Prop :=
  match p.inSection with
  | none => p.field ∉ nodeEnvSections.map Prod.fst
  | some s => s ∈ nodeEnvSections.map Prod.fst

theorem nodup_sections : (nodeEnvSections.map Prod.fst).Nodup := by decide

theorem nodup_scalars : (nodeEnvScalars.map Prod.fst).Nodup := by decide

theorem nodup_fields : ∀ s ∈ nodeEnvSections, (s.2.map Prod.fst).Nodup := by decide

theorem disjoint_scalars : ∀ f ∈ nodeEnvScalars, f.1 ∉ nodeEnvSections.map Prod.fst := by decide

section

variable {r : Readers} {pre : String}

theorem names_bindings (inSection : Option String) (casters : List (String × Caster))
    (aliases : List (String × String)) (fields : Fields) :
    (bindings r pre inSection casters aliases fields).map Binding.name = fields.map Prod.fst := by
  rw [bindings, List.map_map]
  rfl

/-- A value that is loaded over nothing has come from the caster of its field. -/
theorem cast_of_resolved {inSection : Option String} {casters : List (String × Caster)}
    {aliases : List (String × String)} {fields : Fields} {data : Dict}
    (h : applyOverrides env (bindings r pre inSection casters aliases fields) [] = .ok data)
    (hnodup : (fields.map Prod.fst).Nodup) {name : String} {v : Value}
    (hv : data.lookup name = some v) {cast : Caster} (hcast : casters.lookup name = some cast) :
    ∃ key raw, cast key raw = .ok v := by
  rw [lookup_applyOverrides (by rwa [names_bindings]) h] at hv
  unfold overlaid at hv
  split at hv
  next => cases hv
  next b hb =>
    split at hv
    next => cases hv
    next raw _ =>
      obtain ⟨f, -, rfl⟩ := List.mem_map.mp (List.mem_of_find?_eq_some hb)
      have hname : f.1 = name := by simpa using List.find?_some hb
      rw [hname, hcast] at hv
      exact ⟨_, raw, Py.toOption_eq_some.mp hv⟩

/-- **The assistant's server** is not loaded with a blank token, a port that is none, or a bound on
prompts that nothing meets. -/
theorem resolveConfig_sound {data : Dict} (h : resolveConfig r env = .ok data) :
    (∀ v, data.lookup "token" = some v → v = .none ∨ ∃ token, v = .str token ∧ token ≠ "") ∧
    (∀ v, data.lookup "port" = some v → ∃ n, v = .int n ∧ 1 ≤ n ∧ n ≤ 65535) ∧
    ∀ v, data.lookup "max_prompt_chars" = some v → ∃ n, v = .int n ∧ 1 ≤ n := by
  refine ⟨fun v hv ↦ ?_, fun v hv ↦ ?_, fun v hv ↦ ?_⟩
  · obtain ⟨key, raw, hcast⟩ := cast_of_resolved h (by decide) hv rfl
    exact parseToken_eq_ok hcast
  · obtain ⟨key, raw, hcast⟩ := cast_of_resolved h (by decide) hv rfl
    obtain ⟨n, hn, hlo, hhi⟩ := parseInt_eq_ok r hcast
    exact ⟨n, hn, hlo 1 rfl, hhi 65535 rfl⟩
  · obtain ⟨key, raw, hcast⟩ := cast_of_resolved h (by decide) hv rfl
    obtain ⟨n, hn, hlo, -⟩ := parseInt_eq_ok r hcast
    exact ⟨n, hn, hlo 1 rfl⟩

/-- The knobs of the agent are positive. -/
theorem resolveAgentKnobs_sound {data : Dict} (h : resolveAgentKnobs r env = .ok data)
    {name : String} (hname : name = "max_tokens" ∨ name = "max_iterations") {v : Value}
    (hv : data.lookup name = some v) : ∃ n, v = .int n ∧ 1 ≤ n := by
  have hcast : ∃ key raw, parseInt r (some 1) none key raw = .ok v := by
    rcases hname with rfl | rfl <;> exact cast_of_resolved h (by decide) hv rfl
  obtain ⟨key, raw, hcast⟩ := hcast
  obtain ⟨n, hn, hlo, -⟩ := parseInt_eq_ok r hcast
  exact ⟨n, hn, hlo 1 rfl⟩

/-- The steps of `from_env`. -/
theorem nodeFromEnv_eq_ok {data : Dict} : nodeFromEnv r env pre = .ok data ↔ ∃ blob scalars,
    mergeConfigJson r env pre = .ok blob ∧
      applyOverrides env (bindings r pre none [] [] nodeEnvScalars) blob = .ok scalars ∧
      loadSections env (nodeEnvSections.map (sectionBindings r pre)) scalars = .ok data := by
  unfold nodeFromEnv
  simp only [Py.bind_eq_ok, mapError_eq_ok, exists_and_left]

/-- The scalars leave the sections alone. -/
theorem lookup_section {blob scalars : Dict}
    (h : applyOverrides env (bindings r pre none [] [] nodeEnvScalars) blob = .ok scalars)
    {s : String} (hs : s ∈ nodeEnvSections.map Prod.fst) : scalars.lookup s = blob.lookup s := by
  have hnone : (bindings r pre none [] [] nodeEnvScalars).find? (·.name = s) = none := by
    rw [List.find?_eq_none]
    intro b hb hname
    have hmem := List.mem_map_of_mem (f := Binding.name) hb
    rw [names_bindings, of_decide_eq_true hname] at hmem
    obtain ⟨f, hf, rfl⟩ := List.mem_map.mp hmem
    exact disjoint_scalars f hf hs
  have hnodup : ((bindings r pre none [] [] nodeEnvScalars).map Binding.name).Nodup := by
    rw [names_bindings]
    exact nodup_scalars
  rw [lookup_applyOverrides hnodup h s, hnone]
  rfl

theorem names_sectionBindings :
    (nodeEnvSections.map (sectionBindings r pre)).map Section.name =
      nodeEnvSections.map Prod.fst := by
  rw [List.map_map]
  rfl

theorem setKey_ne_nil (d : Dict) (k : String) (v : Value) : setKey d k v ≠ [] := by
  intro hnil
  have hlookup := lookup_setKey d k v k
  rw [hnil, if_pos rfl] at hlookup
  cases hlookup

/-- Overrides remove nothing. -/
theorem eq_nil_of_applyOverrides {bs : List Binding} {data : Dict}
    (h : applyOverrides env bs data = .ok []) : data = [] := by
  induction bs generalizing data with
  | nil =>
      cases h
      rfl
  | cons b bs ih =>
      cases hkey : env b.key with
      | none => exact ih ((applyOverrides_cons_none hkey).symm.trans h)
      | some raw =>
          rw [applyOverrides_cons_some hkey] at h
          obtain ⟨v, -, h⟩ := Py.bind_eq_ok.mp h
          exact absurd (ih h) (setKey_ne_nil _ _ _)

/-- A section of the data is what its model loads from the document alone. -/
theorem sectionOf_nodeFromEnv {data blob : Dict} (h : nodeFromEnv r env pre = .ok data)
    (hblob : mergeConfigJson r env pre = .ok blob) {s : String × Fields}
    (hs : s ∈ nodeEnvSections) :
    (sectionBindings r pre s).values env blob = sectionOf data s.1 := by
  obtain ⟨blob', scalars, hblob', hscalars, hload⟩ := nodeFromEnv_eq_ok.mp h
  cases hblob.symm.trans hblob'
  have hnodup : ((nodeEnvSections.map (sectionBindings r pre)).map Section.name).Nodup := by
    rw [names_sectionBindings]
    exact nodup_sections
  obtain ⟨values, hvalues, hlookup⟩ :=
    (loadSections_spec hnodup hload).1 _ (List.mem_map_of_mem hs)
  rw [← Section.values_congr (lookup_section hscalars (List.mem_map_of_mem hs)), hvalues]
  unfold sectionOf
  have hname : (sectionBindings r pre s).name = s.1 := rfl
  rw [hname] at hlookup
  rw [hlookup]
  split_ifs with hnil
  · rfl
  · obtain ⟨d, hd, hvalues⟩ := Section.values_eq_ok.mp hvalues
    rw [not_not] at hnil
    subst hnil
    obtain rfl := eq_nil_of_applyOverrides hvalues
    exact hd.symm

/-- The field of a section. -/
theorem valueAt_member {data d : Dict} {s : String} (h : sectionOf data s = .ok d)
    (field : String) : valueAt data ⟨some s, field⟩ = d.lookup field := by
  unfold sectionOf at h
  unfold valueAt
  dsimp only
  split at h
  · rename_i hnone
    cases h
    rw [hnone]
    rfl
  · rename_i hsome
    cases h
    rw [hsome]
  · cases h

theorem bindingAt_member (s : String × Fields) (hs : s ∈ nodeEnvSections) (field : String) :
    bindingAt r pre ⟨some s.1, field⟩ =
      (sectionBindings r pre s).bindings.find? (·.name = field) := by
  have hlookup : nodeEnvSections.lookup s.1 = some s.2 := by
    have hall : ∀ s ∈ nodeEnvSections, nodeEnvSections.lookup s.1 = some s.2 := by decide
    exact hall s hs
  unfold bindingAt
  dsimp only
  rw [hlookup]
  rfl

theorem find?_name_of_mem {bs : List Binding} (hnodup : (bs.map Binding.name).Nodup) {b : Binding}
    (hb : b ∈ bs) : bs.find? (·.name = b.name) = some b := by
  have hsome : (bs.find? (·.name = b.name)).isSome := by
    rw [List.find?_isSome]
    exact ⟨b, hb, decide_eq_true rfl⟩
  obtain ⟨b', hb'⟩ := Option.isSome_iff_exists.mp hsome
  rw [hb']
  have hname : b'.name = b.name := by simpa using List.find?_some hb'
  exact congrArg some (List.inj_on_of_nodup_map hnodup (List.mem_of_find?_eq_some hb') hb hname)

theorem nodup_sectionBindings {s : String × Fields} (hs : s ∈ nodeEnvSections) :
    ((sectionBindings r pre s).bindings.map Binding.name).Nodup := by
  show ((bindings r pre (some s.1) [] [] s.2).map Binding.name).Nodup
  rw [names_bindings]
  exact nodup_fields s hs

/-- The bindings of the places are those of the scalars and of the sections. -/
theorem forall_bindingAt {P : Binding → Prop} : (∀ p, ∀ b ∈ bindingAt r pre p, P b) ↔
    (∀ b ∈ bindings r pre none [] [] nodeEnvScalars, P b) ∧
      ∀ s ∈ nodeEnvSections, ∀ b ∈ (sectionBindings r pre s).bindings, P b := by
  constructor
  · refine fun h ↦ ⟨fun b hb ↦ h ⟨none, b.name⟩ b ?_, fun s hs b hb ↦ h ⟨some s.1, b.name⟩ b ?_⟩
    · refine find?_name_of_mem ?_ hb
      rw [names_bindings]
      exact nodup_scalars
    · rw [bindingAt_member s hs]
      exact find?_name_of_mem (nodup_sectionBindings hs) hb
  · rintro ⟨hscalars, hsections⟩ ⟨inSection, field⟩ b hb
    cases inSection with
    | none =>
        have hb : (bindings r pre none [] [] nodeEnvScalars).find? (·.name = field) = some b := hb
        exact hscalars b (List.mem_of_find?_eq_some hb)
    | some s =>
        obtain ⟨fields, hfields, hb⟩ := Option.bind_eq_some_iff.mp hb
        obtain ⟨l₁, l₂, hmem, -⟩ := List.lookup_eq_some_iff.mp hfields
        refine hsections (s, fields) ?_ b (List.mem_of_find?_eq_some hb)
        rw [hmem]
        exact List.mem_append_right _ List.mem_cons_self

/-- Every field is its variable over the document. -/
theorem overlaid_of_nodeFromEnv {data : Dict} (h : nodeFromEnv r env pre = .ok data) :
    ∃ blob, mergeConfigJson r env pre = .ok blob ∧ ∀ p : Place, p.IsField →
      valueAt data p = overlaid env (bindingAt r pre p) (valueAt blob p) := by
  have hnodup : ((nodeEnvSections.map (sectionBindings r pre)).map Section.name).Nodup := by
    rw [names_sectionBindings]
    exact nodup_sections
  obtain ⟨blob, scalars, hblob, hscalars, hload⟩ := nodeFromEnv_eq_ok.mp h
  refine ⟨blob, hblob, fun ⟨inSection, field⟩ hfield ↦ ?_⟩
  cases inSection with
  | none =>
      have hframe := (loadSections_spec hnodup hload).2 field
      rw [names_sectionBindings] at hframe
      have hnames : ((bindings r pre none [] [] nodeEnvScalars).map Binding.name).Nodup := by
        rw [names_bindings]
        exact nodup_scalars
      exact (hframe hfield).trans (lookup_applyOverrides hnames hscalars field)
  | some s =>
      obtain ⟨s, hs, rfl⟩ := List.mem_map.mp hfield
      have hvalues := sectionOf_nodeFromEnv h hblob hs
      obtain ⟨values, hs', -⟩ := (loadSections_spec hnodup hload).1 _ (List.mem_map_of_mem hs)
      rw [Section.values_congr (lookup_section hscalars (List.mem_map_of_mem hs))] at hs'
      obtain ⟨d, hd, happly⟩ := Section.values_eq_ok.mp hs'
      rw [valueAt_member (hvalues.symm.trans hs'), valueAt_member (s := s.1) hd, bindingAt_member s hs]
      exact lookup_applyOverrides (nodup_sectionBindings hs) happly field

/-- **The settings of a node are its variables, over its document.**  Over a document with objects
for sections they load if every variable that is set can be cast. -/
theorem nodeFromEnv_overlays {blob : Dict} (hblob : mergeConfigJson r env pre = .ok blob)
    (hobjects : ∀ s ∈ nodeEnvSections.map Prod.fst, ∃ d, sectionOf blob s = .ok d) :
    ((∃ data, nodeFromEnv r env pre = .ok data) ↔ ∀ p, ∀ b ∈ bindingAt r pre p, b.Casts env) ∧
    ∀ data, nodeFromEnv r env pre = .ok data → ∀ p : Place, p.IsField →
      valueAt data p = overlaid env (bindingAt r pre p) (valueAt blob p) := by
  have hnodup : ((nodeEnvSections.map (sectionBindings r pre)).map Section.name).Nodup := by
    rw [names_sectionBindings]
    exact nodup_sections
  refine ⟨⟨?_, fun hcasts ↦ ?_⟩, fun data h ↦ ?_⟩
  · rintro ⟨data, h⟩
    obtain ⟨_, scalars, -, hscalars, hload⟩ := nodeFromEnv_eq_ok.mp h
    have hvalues := (exists_loadSections hnodup).mp ⟨data, hload⟩
    refine forall_bindingAt.mpr ⟨exists_applyOverrides.mp ⟨scalars, hscalars⟩, fun s hs ↦ ?_⟩
    obtain ⟨values, hs'⟩ := hvalues _ (List.mem_map_of_mem hs)
    obtain ⟨d, -, happly⟩ := Section.values_eq_ok.mp hs'
    exact exists_applyOverrides.mp ⟨values, happly⟩
  · obtain ⟨hcasts, hsections⟩ := forall_bindingAt.mp hcasts
    obtain ⟨scalars, hscalars⟩ := exists_applyOverrides.mpr hcasts
    have hvalues : ∀ s ∈ nodeEnvSections.map (sectionBindings r pre), ∃ values,
        s.values env scalars = .ok values := by
      rw [List.forall_mem_map]
      intro s hs
      obtain ⟨d, hd⟩ := hobjects s.1 (List.mem_map_of_mem hs)
      obtain ⟨values, happly⟩ := exists_applyOverrides.mpr (hsections s hs)
      rw [Section.values_congr (lookup_section hscalars (List.mem_map_of_mem hs))]
      exact ⟨values, Section.values_eq_ok.mpr ⟨d, hd, happly⟩⟩
    obtain ⟨data, hload⟩ := (exists_loadSections hnodup).mpr hvalues
    exact ⟨data, nodeFromEnv_eq_ok.mpr ⟨blob, scalars, hblob, hscalars, hload⟩⟩
  · obtain ⟨blob', hblob', hat⟩ := overlaid_of_nodeFromEnv h
    cases hblob.symm.trans hblob'
    exact hat

/-- Readers for closed runs. -/
def plainReaders : Readers where
  int s := Decimal.readSigned s.toList
  float := Py.FloatText.plain.ofStr
  loads := Py.Json.unlimited Py.FloatText.plain

/-- The environment of a unit in the field: a document, and a variable that wins over it. -/
def fieldUnit : Environ := fun key ↦
  if key = "MESHSA_CONFIG_JSON" then some "\x7b\"scout\": \x7b\"rtk_enabled\": true\x7d\x7d"
  else if key = "MESHSA_UID" then some "n1"
  else if key = "MESHSA_SCOUT_RTK_ENABLED" then some "no"
  else none

/-- What its document says. -/
def fieldDocument : Dict := (mergeConfigJson plainReaders fieldUnit "MESHSA_").toOption.getD []

/-- A setting that is in the document and in a variable. -/
def rtkEnabled : Place := ⟨some "scout", "rtk_enabled"⟩

theorem nodeFromEnv_overlays_fieldUnit :
    (∃ data, nodeFromEnv plainReaders fieldUnit "MESHSA_" = .ok data ∧
      (valueAt fieldDocument rtkEnabled).map Value.truthy = some true ∧
      (valueAt data rtkEnabled).map Value.truthy = some false) ∧
    ∀ data, nodeFromEnv plainReaders fieldUnit "MESHSA_" = .ok data → ∀ p : Place, p.IsField →
      valueAt data p =
        overlaid fieldUnit (bindingAt plainReaders "MESHSA_" p) (valueAt fieldDocument p) := by
  have hmerges : (mergeConfigJson plainReaders fieldUnit "MESHSA_").toOption.isSome = true := by
    decide +kernel
  have hblob : mergeConfigJson plainReaders fieldUnit "MESHSA_" = .ok fieldDocument := by
    obtain ⟨blob, hblob⟩ := Option.isSome_iff_exists.mp hmerges
    rw [fieldDocument, hblob]
    exact Py.toOption_eq_some.mp hblob
  have hsections : ∀ s ∈ nodeEnvSections.map Prod.fst,
      (sectionOf fieldDocument s).toOption.isSome = true := by
    decide +kernel
  have hobjects : ∀ s ∈ nodeEnvSections.map Prod.fst, ∃ d, sectionOf fieldDocument s = .ok d := by
    intro s hs
    obtain ⟨d, hd⟩ := Option.isSome_iff_exists.mp (hsections s hs)
    exact ⟨d, Py.toOption_eq_some.mp hd⟩
  have hloads : (nodeFromEnv plainReaders fieldUnit "MESHSA_").toOption.any
      (fun data ↦ (valueAt data rtkEnabled).map Value.truthy = some false) = true := by
    decide +kernel
  obtain ⟨data, hdata, hvalue⟩ := (Option.any_eq_true _ _).mp hloads
  refine ⟨⟨data, Py.toOption_eq_some.mp hdata, by decide +kernel, of_decide_eq_true hvalue⟩, ?_⟩
  exact (nodeFromEnv_overlays hblob hobjects).2

/-- **A scout that starts alone has the settings of its node.** -/
theorem scoutFromEnv_eq {data : Dict} (h : nodeFromEnv r env pre = .ok data) :
    scoutFromEnv r env pre = sectionOf data "scout" := by
  obtain ⟨blob, -, hblob, -⟩ := nodeFromEnv_eq_ok.mp h
  unfold scoutFromEnv
  rw [hblob]
  exact sectionOf_nodeFromEnv h hblob (s := ("scout", scoutFields)) (by decide)

theorem scoutFromEnv_eq_fieldUnit : ∃ data,
    nodeFromEnv plainReaders fieldUnit "MESHSA_" = .ok data ∧
      scoutFromEnv plainReaders fieldUnit "MESHSA_" = sectionOf data "scout" := by
  have hok : (nodeFromEnv plainReaders fieldUnit "MESHSA_").isOk = true := by decide +kernel
  cases h : nodeFromEnv plainReaders fieldUnit "MESHSA_" with
  | error e =>
      rw [h] at hok
      cases hok
  | ok data => exact ⟨data, rfl, scoutFromEnv_eq h⟩

/-! ## The inventory -/

/-- The places that are bound. -/
def boundPlaces : List Place :=
  nodeEnvScalars.map (fun f ↦ ⟨none, f.1⟩) ++
    nodeEnvSections.flatMap fun s ↦ s.2.map fun f ↦ ⟨some s.1, f.1⟩

/-- The variable of a place. -/
def Place.key (pre : String) (p : Place) : String := envKey pre p.inSection p.field

theorem nodeEnvInventory_eq (pre : String) :
    nodeEnvInventory pre = (pre ++ "CONFIG_JSON") :: boundPlaces.map (Place.key pre) := by
  simp only [nodeEnvInventory, boundPlaces, List.map_append, List.map_map, List.map_flatMap,
    List.cons_append]
  rfl

theorem envKey_eq (pre : String) (inSection : Option String) (field : String) :
    envKey pre inSection field = pre ++ envKey "" inSection field := by
  simp only [envKey, String.empty_append, String.append_assoc]

theorem nodup_nodeEnvInventory (pre : String) : (nodeEnvInventory pre).Nodup := by
  have hempty : (nodeEnvInventory "").Nodup := by decide +kernel
  have hmap : nodeEnvInventory pre = (nodeEnvInventory "").map (pre ++ ·) := by
    rw [nodeEnvInventory_eq, nodeEnvInventory_eq, List.map_cons, List.map_map]
    refine congrArg₂ List.cons ?_ (List.map_congr_left fun p _ ↦ ?_)
    · rw [String.empty_append]
    · exact envKey_eq pre p.inSection p.field
  rw [hmap]
  exact hempty.map fun s t hst ↦ (String.append_right_inj pre).mp hst

/-- A binding is that of a place in the inventory. -/
theorem mem_boundPlaces {p : Place} {b : Binding} (h : bindingAt r pre p = some b) :
    p ∈ boundPlaces ∧ b.key = p.key pre ∧ ∃ t, b.cast = casterFor r t := by
  have hfind {inSection : Option String} {fields : Fields} {field : String}
      (h : (bindings r pre inSection [] [] fields).find? (·.name = field) = some b) :
      ∃ f ∈ fields, f.1 = field ∧ b.key = envKey pre inSection field ∧
        ∃ t, b.cast = casterFor r t := by
    obtain ⟨f, hf, rfl⟩ := List.mem_map.mp (List.mem_of_find?_eq_some h)
    obtain rfl : f.1 = field := by simpa using List.find?_some h
    exact ⟨f, hf, rfl, rfl, f.2, rfl⟩
  obtain ⟨inSection, field⟩ := p
  cases inSection with
  | none =>
      obtain ⟨f, hf, rfl, hkey⟩ := hfind h
      exact ⟨List.mem_append_left _ (List.mem_map.mpr ⟨f, hf, rfl⟩), hkey⟩
  | some s =>
      obtain ⟨fields, hfields, h⟩ := Option.bind_eq_some_iff.mp h
      obtain ⟨f, hf, rfl, hkey⟩ := hfind h
      refine ⟨List.mem_append_right _ (List.mem_flatMap.mpr ⟨(s, fields), ?_, ?_⟩), hkey⟩
      · obtain ⟨l₁, l₂, hmem, -⟩ := List.lookup_eq_some_iff.mp hfields
        rw [hmem]
        exact List.mem_append_right _ List.mem_cons_self
      · exact List.mem_map.mpr ⟨f, hf, rfl⟩

theorem key_of_casterFor {t : FieldType} {key raw : String} {e : CastError}
    (h : casterFor r t key raw = .error e) : e.key = key := by
  cases t with
  | bool =>
      simp only [casterFor, parseBool] at h
      split_ifs at h
      cases h
      rfl
  | int =>
      simp only [casterFor, parseInt] at h
      split at h
      · cases h
        rfl
      · cases h
  | float =>
      simp only [casterFor, parseFloat] at h
      split at h
      · cases h
        rfl
      · split_ifs at h
        cases h
        rfl
  | text => cases h
  | csv => cases h

theorem mapError_eq_error {α ε ε' : Type} {x : Except ε α} {f : ε → ε'} {e : ε'} :
    x.mapError f = .error e ↔ ∃ e', x = .error e' ∧ f e' = e := by
  cases x <;> simp [Except.mapError]

theorem fails_of_loadSections {ss : List Section} {data : Dict} {e : CastError}
    (h : loadSections env ss data = .error (.cast e)) :
    ∃ s ∈ ss, ∃ b ∈ s.bindings, b.Fails env e := by
  induction ss generalizing data with
  | nil => cases h
  | cons s ss ih =>
      rcases Py.bind_eq_error.mp h with h | ⟨values, -, h⟩
      · refine ⟨s, List.mem_cons_self, ?_⟩
        rcases Py.bind_eq_error.mp h with h | ⟨d, -, h⟩
        · unfold sectionOf at h
          split at h <;> cases h
        · obtain ⟨e', happly, he⟩ := mapError_eq_error.mp h
          cases he
          exact fails_of_applyOverrides happly
      · obtain ⟨s', hs', hfails⟩ := ih h
        exact ⟨s', List.mem_cons_of_mem s hs', hfails⟩

/-- An error of a caster names a variable of the inventory, which is set. -/
theorem key_of_nodeFromEnv {e : CastError} (h : nodeFromEnv r env pre = .error (.cast e)) :
    e.key ∈ nodeEnvInventory pre ∧ ∃ raw, env e.key = some raw := by
  have hfails : ∃ p, ∃ b ∈ bindingAt r pre p, b.Fails env e := by
    by_contra hnone
    push Not at hnone
    obtain ⟨hscalars, hsections⟩ := forall_bindingAt.mp hnone
    rcases Py.bind_eq_error.mp h with h | ⟨blob, -, h⟩
    · unfold mergeConfigJson at h
      split at h
      · cases h
      · split_ifs at h
        split at h <;> cases h
    · rcases Py.bind_eq_error.mp h with h | ⟨scalars, -, h⟩
      · obtain ⟨e', happly, he⟩ := mapError_eq_error.mp h
        cases he
        obtain ⟨b, hb, hfails⟩ := fails_of_applyOverrides happly
        exact hscalars b hb hfails
      · obtain ⟨_, hmem, b, hb, hfails⟩ := fails_of_loadSections h
        obtain ⟨s, hs, rfl⟩ := List.mem_map.mp hmem
        exact hsections s hs b hb hfails
  obtain ⟨p, b, hb, raw, hraw, hcast⟩ := hfails
  obtain ⟨hp, hkey, t, hcaster⟩ := mem_boundPlaces hb
  rw [hcaster] at hcast
  have hname := key_of_casterFor hcast
  rw [hname]
  refine ⟨?_, raw, hraw⟩
  rw [nodeEnvInventory_eq, hkey]
  exact List.mem_cons_of_mem _ (List.mem_map_of_mem hp)

/-- The document is a variable of its own. -/
theorem mergeConfigJson_congr {env' : Environ}
    (h : env (pre ++ "CONFIG_JSON") = env' (pre ++ "CONFIG_JSON")) :
    mergeConfigJson r env pre = mergeConfigJson r env' pre := by
  unfold mergeConfigJson
  rw [h]

/-- A field is that of its variable, if the document is the same. -/
theorem overlaid_congr {env' : Environ} {b? : Option Binding} {old : Option Value}
    (h : ∀ b ∈ b?, env b.key = env' b.key) : overlaid env b? old = overlaid env' b? old := by
  cases b? with
  | none => rfl
  | some b =>
      unfold overlaid
      dsimp only
      rw [h b rfl]

/-- No variable outside the inventory is read. -/
theorem nodeFromEnv_congr {env' : Environ}
    (h : ∀ key ∈ nodeEnvInventory pre, env key = env' key) :
    nodeFromEnv r env pre = nodeFromEnv r env' pre := by
  rw [nodeEnvInventory_eq] at h
  obtain ⟨hjson, hplaces⟩ := List.forall_mem_cons.mp h
  rw [List.forall_mem_map] at hplaces
  have hbindings : ∀ p, ∀ b ∈ bindingAt r pre p, env b.key = env' b.key := by
    intro p b hb
    obtain ⟨hp, hkey, -⟩ := mem_boundPlaces hb
    rw [hkey]
    exact hplaces p hp
  obtain ⟨hscalars, hsections⟩ := forall_bindingAt.mp hbindings
  unfold nodeFromEnv
  rw [mergeConfigJson_congr hjson]
  refine congrArg _ (funext fun blob ↦ ?_)
  rw [applyOverrides_congr hscalars]
  refine congrArg _ (funext fun scalars ↦ loadSections_congr ?_)
  exact List.forall_mem_map.mpr hsections

/-- A variable is that of one place at most. -/
theorem exists_place (pre key : String) :
    ∃ p₀ : Place, ∀ p ∈ boundPlaces, p.key pre = key → p = p₀ := by
  have hnodup := nodup_nodeEnvInventory pre
  rw [nodeEnvInventory_eq, List.nodup_cons] at hnodup
  by_cases hplace : ∃ p₀ ∈ boundPlaces, p₀.key pre = key
  · obtain ⟨p₀, hmem, rfl⟩ := hplace
    exact ⟨p₀, fun p hp hsame ↦ List.inj_on_of_nodup_map hnodup.2 hp hmem hsame⟩
  · exact ⟨⟨none, ""⟩, fun p hp hsame ↦ absurd ⟨p, hp, hsame⟩ hplace⟩

/-- **The inventory is exact.**  No two places share a variable, and no other variable is read:
setting one of them changes at most one field. -/
theorem nodeEnvInventory_exact (r : Readers) (pre : String) :
    (nodeEnvInventory pre).Nodup ∧
    (∀ env env' : Environ, (∀ key ∈ nodeEnvInventory pre, env key = env' key) →
      nodeFromEnv r env pre = nodeFromEnv r env' pre) ∧
    ∀ key ≠ pre ++ "CONFIG_JSON", ∃ p₀, ∀ env env' : Environ,
      (∀ key' ≠ key, env key' = env' key') → ∀ data data',
      nodeFromEnv r env pre = .ok data → nodeFromEnv r env' pre = .ok data' →
      ∀ p : Place, p ≠ p₀ → p.IsField → valueAt data p = valueAt data' p := by
  refine ⟨nodup_nodeEnvInventory pre, fun env env' h ↦ nodeFromEnv_congr h, fun key hkey ↦ ?_⟩
  obtain ⟨p₀, hp₀⟩ := exists_place pre key
  refine ⟨p₀, fun env env' h data data' hdata hdata' p hne hfield ↦ ?_⟩
  obtain ⟨blob, hblob, hat⟩ := overlaid_of_nodeFromEnv hdata
  obtain ⟨blob', hblob', hat'⟩ := overlaid_of_nodeFromEnv hdata'
  rw [mergeConfigJson_congr (h _ hkey.symm), hblob'] at hblob
  cases hblob
  rw [hat p hfield, hat' p hfield]
  refine overlaid_congr fun b hb ↦ h _ fun hsame ↦ ?_
  obtain ⟨hp, hplace, -⟩ := mem_boundPlaces hb
  exact hne (hp₀ p hp (hplace.symm.trans hsame))

end

end DroneComms.Config
