import DroneComms.Mesh.Compact
import DroneComms.Mesh.JsonCodec
import DroneComms.Mesh.Router

/-!
# The assembly of a node

`build_node` of `meshsa/node.py` with the `Registry` of `meshsa/registry.py`: the
router of a configuration.  Its transports are a list and its codecs a map from
names, so transports of one name get one codec.

Every registered factory gives its transport the name it is called with, so a
transport is its name here, and a factory just accepts its keywords or raises.
-/

namespace DroneComms.Mesh

open Py (Value Dict)

/-! ## Registries -/

/-- What `create` raises. -/
inductive BuildError where
  | /-- `UnknownComponentError`. -/ unknownComponent
  | /-- Any exception of the call. -/ raised
deriving DecidableEq, Repr

/-- `Registry`. -/
structure Registry (α : Type) where
  factories : String → Option (Dict → Except BuildError α)

namespace Registry

variable {α : Type}

/-- `has`. -/
def has (reg : Registry α) (name : String) : Bool := (reg.factories name).isSome

/-- `create`, which has two parameters of its own. -/
def create (reg : Registry α) (key : String) (kwargs : Dict) : Except BuildError α :=
  if (kwargs.lookup "self").isSome || (kwargs.lookup "key").isSome then .error .raised
  else
    match reg.factories key with
    | none => .error .unknownComponent
    | some factory => factory kwargs

end Registry

/-! ## Configurations -/

/-- `TransportConfig`. -/
structure TransportConfig where
  name : String
  type : String
  enabled : Bool := true
  options : Dict := []
  codec : Option String := none
  codecOptions : Dict := []

/-- `DEFAULT_QUEUE_MAXSIZE`. -/
def defaultQueueMaxsize : ℤ := 1000

/-- `RouterConfig`. -/
structure RouterConfig where
  dedupeCacheSize : ℕ := 2048
  queueMaxsize : ℤ := defaultQueueMaxsize

/-- What `build_node` reads of a `NodeConfig` for its router. -/
structure NodeConfig where
  transports : List TransportConfig := []
  router : RouterConfig := {}
  /-- `mesh.model_dump()`. -/
  mesh : Dict := []

/-- `kwargs.setdefault(key, value)`. -/
def setDefault (kwargs : Dict) (key : String) (value : Value) : Dict :=
  if (kwargs.lookup key).isSome then kwargs else kwargs ++ [(key, value)]

/-- The keywords of a transport's factory. -/
def transportKwargs (config : NodeConfig) (tc : TransportConfig) : Dict :=
  let kwargs := ("name", .str tc.name) :: tc.options.filter fun kv ↦ kv.1 ≠ "name"
  setDefault (setDefault kwargs "queue_maxsize" (.int config.router.queueMaxsize)) "mesh"
    (.dict config.mesh)

variable {β : Type}

/-- The registries and the default codec. -/
structure Components (β : Type) where
  transports : Registry Unit
  codecs : Registry (Codec β)
  codec : Codec β

namespace Components

variable (c : Components β)

/-- An entry that gets a transport. -/
def Kept (tc : TransportConfig) : Bool := tc.enabled && c.transports.has tc.type

/-- The codec of an entry's own configuration. -/
def own (tc : TransportConfig) : Except BuildError (Codec β) :=
  match tc.codec with
  | none => .ok c.codec
  | some key => c.codecs.create key tc.codecOptions

/-- One round of the loop.  A later codec of a name hides an earlier one. -/
def place (config : NodeConfig) (r : Router β) (tc : TransportConfig) :
    Except BuildError (Router β) :=
  if !c.Kept tc then .ok r
  else do
    c.transports.create tc.type (transportKwargs config tc)
    let r := { r with transports := r.transports ++ [tc.name] }
    match tc.codec with
    | none => return r
    | some key =>
        return { r with codecs := (tc.name, ← c.codecs.create key tc.codecOptions) :: r.codecs }

/-- The router in front of the loop. -/
def start (config : NodeConfig) : Router β where
  transports := []
  codec := c.codec
  dedupeCacheSize := config.router.dedupeCacheSize

/-- `build_node`. -/
def buildNode (config : NodeConfig) : Except BuildError (Router β) :=
  config.transports.foldlM (c.place config) (c.start config)

/-- The entries that get a transport, in order. -/
def kept (config : NodeConfig) : List TransportConfig := config.transports.filter c.Kept

/-! ## What the loop has built -/

/-- Every codec in the map is the own codec of an entry of its name, and a name without
a codec is that of entries without one. -/
structure Built (done : List TransportConfig) (r : Router β) : Prop where
  transports : r.transports = done.map (·.name)
  codec : r.codec = c.codec
  found : ∀ name codec, r.codecs.lookup name = some codec →
    ∃ tc ∈ done, tc.name = name ∧ c.own tc = .ok codec
  missing : ∀ tc ∈ done, r.codecs.lookup tc.name = none → tc.codec = none

variable {c} {config : NodeConfig} {r r' : Router β} {done : List TransportConfig}

/-- A round either drops the entry or appends its transport. -/
theorem place_eq_ok {tc : TransportConfig} (h : c.place config r tc = .ok r') :
    (c.Kept tc = false ∧ r' = r) ∨ c.Kept tc = true ∧
      ((tc.codec = none ∧ r' = { r with transports := r.transports ++ [tc.name] }) ∨
        ∃ codec, tc.codec.isSome ∧ c.own tc = .ok codec ∧ r' = { r with
          transports := r.transports ++ [tc.name], codecs := (tc.name, codec) :: r.codecs }) := by
  unfold place at h
  cases hkept : c.Kept tc with
  | false =>
      rw [hkept] at h
      cases h
      exact .inl ⟨rfl, rfl⟩
  | true =>
      rw [hkept] at h
      obtain ⟨-, -, h⟩ := Py.bind_eq_ok.mp h
      refine .inr ⟨rfl, ?_⟩
      cases hcodec : tc.codec with
      | none =>
          rw [hcodec] at h
          cases h
          exact .inl ⟨rfl, rfl⟩
      | some key =>
          rw [hcodec] at h
          obtain ⟨codec, hcreate, h⟩ := Py.bind_eq_ok.mp h
          cases h
          refine .inr ⟨codec, rfl, ?_, rfl⟩
          rw [own, hcodec]
          exact hcreate

/-- An entry without a codec leaves the map as it is. -/
theorem Built.plain (h : c.Built done r) {tc : TransportConfig} (hcodec : tc.codec = none) :
    c.Built (done ++ [tc]) { r with transports := r.transports ++ [tc.name] } where
  transports := by simp [h.transports]
  codec := h.codec
  found name codec hlookup := by
    obtain ⟨tc', htc', hname⟩ := h.found name codec hlookup
    exact ⟨tc', List.mem_append_left _ htc', hname⟩
  missing tc' htc' hlookup := by
    rcases List.mem_append.mp htc' with htc' | htc'
    · exact h.missing tc' htc' hlookup
    · rw [List.mem_singleton.mp htc']
      exact hcodec

/-- An entry with a codec hides what its name had. -/
theorem Built.named (h : c.Built done r) {tc : TransportConfig} {codec : Codec β}
    (hown : c.own tc = .ok codec) : c.Built (done ++ [tc]) { r with
      transports := r.transports ++ [tc.name], codecs := (tc.name, codec) :: r.codecs } where
  transports := by simp [h.transports]
  codec := h.codec
  found name codec' hlookup := by
    rw [List.lookup_cons] at hlookup
    by_cases hname : name = tc.name
    · rw [beq_iff_eq.mpr hname] at hlookup
      cases hlookup
      exact ⟨tc, List.mem_append_right _ (List.mem_singleton_self tc), hname.symm, hown⟩
    · rw [beq_false_of_ne hname] at hlookup
      obtain ⟨tc', htc', hfound⟩ := h.found name codec' hlookup
      exact ⟨tc', List.mem_append_left _ htc', hfound⟩
  missing tc' htc' hlookup := by
    rw [List.lookup_cons] at hlookup
    by_cases hname : tc'.name = tc.name
    · rw [beq_iff_eq.mpr hname] at hlookup
      cases hlookup
    · rw [beq_false_of_ne hname] at hlookup
      rcases List.mem_append.mp htc' with htc' | htc'
      · exact h.missing tc' htc' hlookup
      · rw [List.mem_singleton.mp htc'] at hname
        exact absurd rfl hname

theorem Built.place (h : c.Built done r) {tc : TransportConfig}
    (hplace : c.place config r tc = .ok r') : c.Built (done ++ [tc].filter c.Kept) r' := by
  obtain ⟨hkept, rfl⟩ | ⟨hkept, ⟨hcodec, rfl⟩ | ⟨codec, -, hown, rfl⟩⟩ := place_eq_ok hplace
  · rw [List.filter_cons_of_neg (by simp [hkept]), List.filter_nil, List.append_nil]
    exact h
  · rw [List.filter_cons_of_pos hkept, List.filter_nil]
    exact h.plain hcodec
  · rw [List.filter_cons_of_pos hkept, List.filter_nil]
    exact h.named hown

theorem Built.foldlM (tcs : List TransportConfig) (h : c.Built done r)
    (hfold : tcs.foldlM (c.place config) r = .ok r') : c.Built (done ++ tcs.filter c.Kept) r' := by
  induction tcs generalizing done r with
  | nil =>
      cases hfold
      rw [List.filter_nil, List.append_nil]
      exact h
  | cons tc tcs ih =>
      rw [List.foldlM_cons] at hfold
      obtain ⟨r'', hplace, hfold⟩ := Py.bind_eq_ok.mp hfold
      have hrest := ih (h.place hplace) hfold
      rwa [List.append_assoc, ← List.filter_append] at hrest

theorem built_of_buildNode (h : c.buildNode config = .ok r) : c.Built (c.kept config) r := by
  have hstart : c.Built [] (c.start config) := by
    refine ⟨rfl, rfl, ?_, ?_⟩
    · intro name codec hlookup
      cases hlookup
    · intro tc htc
      cases htc
  exact hstart.foldlM config.transports h

/-! ## The codec of a transport -/

theorem Built.codecFor_eq (h : c.Built done r) {i : ℕ} {tc : TransportConfig}
    (htc : done[i]? = some tc) :
    r.codecFor i = (r.codecs.lookup tc.name).getD c.codec := by
  rw [Router.codecFor, h.transports, List.getElem?_map, htc, Option.map_some, Option.bind_some,
    h.codec]

/-- The codec of a transport is the own one of some entry of its name. -/
theorem Built.exists_own (h : c.Built done r) {i : ℕ} {tc : TransportConfig}
    (htc : done[i]? = some tc) : ∃ tc' ∈ done, tc'.name = tc.name ∧
      c.own tc' = .ok (r.codecFor i) := by
  rw [h.codecFor_eq htc]
  cases hlookup : r.codecs.lookup tc.name with
  | some codec => exact h.found tc.name codec hlookup
  | none =>
      have hmem := List.mem_of_getElem? htc
      refine ⟨tc, hmem, rfl, ?_⟩
      rw [own, h.missing tc hmem hlookup]
      rfl

/-- Every transport of a built node speaks the codec of its own entry. -/
def SpeaksOwn (c : Components β) (config : NodeConfig) (r : Router β) : Prop :=
  ∀ i tc, (c.kept config)[i]? = some tc → c.own tc = .ok (r.codecFor i)

/-- **Per-transport codecs.**  They are those of their own entries exactly if entries of one
name have one codec. -/
theorem speaks_own_iff (h : c.buildNode config = .ok r) : SpeaksOwn c config r ↔
    ∀ a ∈ c.kept config, ∀ b ∈ c.kept config, a.name = b.name → c.own a = c.own b := by
  have hbuilt := built_of_buildNode h
  constructor
  · intro hown a ha b hb hname
    obtain ⟨i, hi⟩ := List.mem_iff_getElem?.mp ha
    obtain ⟨j, hj⟩ := List.mem_iff_getElem?.mp hb
    rw [hown i a hi, hown j b hj, hbuilt.codecFor_eq hi, hbuilt.codecFor_eq hj, hname]
  · intro hsame i tc htc
    obtain ⟨tc', htc', hname, hown⟩ := hbuilt.exists_own htc
    rw [← hown]
    exact hsame tc (List.mem_of_getElem? htc) tc' htc' hname.symm

/-- Two transports and two codecs, for closed runs. -/
def plain : Components (List UInt8) where
  transports := { factories := fun name ↦
    if name = "loopback" ∨ name = "null" then some fun _ ↦ .ok () else none }
  codecs := { factories := fun name ↦
    if name = "json" then some fun _ ↦ .ok (jsonCodec .plain supportedSchemas)
    else if name = "compact" then some fun _ ↦ .ok (compactCodec .plain .plain)
    else none }
  codec := jsonCodec .plain supportedSchemas

/-- A bridge from a compact link to a link with the default codec, with a disabled
transport and one of an unknown type. -/
def bridgeConfig : NodeConfig where
  transports := [
    { name := "lora", type := "loopback", codec := some "compact" },
    { name := "tak", type := "null" },
    { name := "tak", type := "loopback", enabled := false, codec := some "compact" },
    { name := "tak", type := "quantum", codec := some "compact" }]

theorem speaks_own_bridge : ∃ r, plain.buildNode bridgeConfig = .ok r ∧
    (SpeaksOwn plain bridgeConfig r ↔ ∀ a ∈ plain.kept bridgeConfig,
      ∀ b ∈ plain.kept bridgeConfig, a.name = b.name → plain.own a = plain.own b) :=
  ⟨_, rfl, speaks_own_iff rfl⟩

/-- Two links of one name. -/
def homonymConfig : NodeConfig where
  transports := [
    { name := "link", type := "loopback", codec := some "compact" },
    { name := "link", type := "null", codec := some "json" }]

/-- The first of them reads and writes JSON. -/
theorem homonym_speaks_other :
    ∃ r, plain.buildNode homonymConfig = .ok r ∧ ¬SpeaksOwn plain homonymConfig r := by
  refine ⟨_, rfl, fun h ↦ ?_⟩
  have hown := h 0 _ rfl
  have hcodec := Except.ok.inj hown
  have hdecode := congrArg (fun codec ↦ codec.decode [9]) hcodec
  cases hdecode

end Components

end DroneComms.Mesh
