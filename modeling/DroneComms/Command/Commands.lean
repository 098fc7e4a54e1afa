import DroneComms.Py.Rounding

/-!
# The bounded command set

`CommandSpec`, the builders and `build_command` of `meshsa/command/commands.py`.
The builders take keyword arguments that a client supplies as arbitrary JSON
values, so a bad name or value is an exception of the builder, not a case the
model leaves out.
-/

namespace DroneComms.Command

open Py

def mavCmdNavReturnToLaunch : Int := 20
def mavCmdDoSetMode : Int := 176
def mavCmdDoReposition : Int := 192
def mavCmdComponentArmDisarm : Int := 400

def mavModeFlagCustomModeEnabled : ℚ := 1
def mavFrameGlobalRelativeAltInt : Int := 6

/-- The `param2` that turns ARM_DISARM into the interlock-bypassing force path. -/
def forceDisarmMagic : PyFloat := .fin 21196

/-- degE7 scaling of the positional fields. -/
def degE7 : ℚ := 10000000

/-- The wire message a spec is packed into. -/
inductive CommandKind where
  | long
  | int
deriving DecidableEq, Repr

def noParams : List PyFloat := List.replicate 7 (.fin 0)

/-- `CommandSpec`: one MAVLink command, ready for the link layer to pack. -/
structure CommandSpec where
  name : String
  command : Int
  kind : CommandKind
  params : List PyFloat := noParams
  frame : Int := 0
  x : Int := 0
  y : Int := 0
  z : Value := .float (.fin 0)
  requiresForceConfirm : Bool := false

/-- `CommanderSettings`: the policy. -/
structure CommanderSettings where
  allowed : List String := ["set_mode", "rtl"]
  allowForceDisarm : Bool := false
  ackTimeoutS : ℚ := 2
  maxAttempts : Int := 3
  armReportMaxAgeS : ℚ := 2
deriving DecidableEq, Repr

/-- What `build_command` raises: the three refusals, or an exception of the
builder itself. -/
inductive BuildError where
  | unknownCommand (name : String)
  | commandNotAllowed (name : String)
  | forceDisarmDisabled (name : String)
  | builder (error : PyError)
deriving DecidableEq, Repr

/-! ## Builders -/

/-- `_arm`. -/
def arm : CommandSpec where
  name := "arm"
  command := mavCmdComponentArmDisarm
  kind := .long
  params := [.fin 1, .fin 0, .fin 0, .fin 0, .fin 0, .fin 0, .fin 0]

/-- `_disarm`. -/
def disarm : CommandSpec where
  name := "disarm"
  command := mavCmdComponentArmDisarm
  kind := .long
  params := [.fin 0, .fin 0, .fin 0, .fin 0, .fin 0, .fin 0, .fin 0]

/-- `_force_disarm`. -/
def forceDisarm : CommandSpec where
  name := "force_disarm"
  command := mavCmdComponentArmDisarm
  kind := .long
  params := [.fin 0, forceDisarmMagic, .fin 0, .fin 0, .fin 0, .fin 0, .fin 0]
  requiresForceConfirm := true

/-- `_rtl`. -/
def rtl : CommandSpec where
  name := "rtl"
  command := mavCmdNavReturnToLaunch
  kind := .long

/-- `_set_mode`. -/
def setMode (text : FloatText) (customMode : Value) : Except PyError CommandSpec := do
  let mode ← toFloat text customMode
  return {
    name := "set_mode"
    command := mavCmdDoSetMode
    kind := .long
    params := [.fin mavModeFlagCustomModeEnabled, mode, .fin 0, .fin 0, .fin 0, .fin 0, .fin 0] }

/-- `_goto`. -/
def goto (latDeg lonDeg altM : Value) : Except PyError CommandSpec := do
  let x ← mulFloat degE7 latDeg >>= intRound
  let y ← mulFloat degE7 lonDeg >>= intRound
  return {
    name := "goto"
    command := mavCmdDoReposition
    kind := .int
    params := [.fin (-1), .fin 0, .fin 0, .fin 0]
    frame := mavFrameGlobalRelativeAltInt
    x := x
    y := y
    z := altM }

/-- A builder called with keyword arguments. -/
abbrev Builder := List (String × Value) → Except PyError CommandSpec

/-- A builder without parameters. -/
def constant (spec : CommandSpec) : Builder := fun params ↦ do
  let _ ← bindKwargs [] params
  return spec

/-- `_BUILDERS`. -/
def builders (text : FloatText) : List (String × Builder) :=
  [("arm", constant arm),
   ("disarm", constant disarm),
   ("force_disarm", constant forceDisarm),
   ("rtl", constant rtl),
   ("set_mode", fun params ↦ do
      match ← bindKwargs ["custom_mode"] params with
      | [customMode] => setMode text customMode
      | _ => .error .typeError),
   ("goto", fun params ↦ do
      match ← bindKwargs ["lat_deg", "lon_deg", "alt_m"] params with
      | [latDeg, lonDeg, altM] => goto latDeg lonDeg altM
      | _ => .error .typeError)]

/-- `build_command`.  A keyword that repeats a positional parameter of
`build_command` itself is a `TypeError` of the call. -/
def buildCommand (text : FloatText) (name : String) (settings : CommanderSettings)
    (params : List (String × Value)) : Except BuildError CommandSpec :=
  if params.any fun kv ↦ kv.1 = "name" || kv.1 = "settings" then
    .error (.builder .typeError)
  else
    match (builders text).lookup name with
    | none => .error (.unknownCommand name)
    | some builder =>
        if name ∉ settings.allowed then .error (.commandNotAllowed name)
        else if name = "force_disarm" ∧ settings.allowForceDisarm = false then
          .error (.forceDisarmDisabled name)
        else (builder params).mapError .builder

/-! ## What a built spec can be -/

theorem constant_eq_ok {spec spec' : CommandSpec} {params : List (String × Value)}
    (h : constant spec params = .ok spec') : spec' = spec := by
  obtain ⟨-, -, h⟩ := bind_eq_ok.mp h
  cases h
  rfl

theorem setMode_eq_ok {text : FloatText} {customMode : Value} {spec : CommandSpec}
    (h : setMode text customMode = .ok spec) :
    spec.name = "set_mode" ∧ spec.command = mavCmdDoSetMode ∧
      spec.requiresForceConfirm = false := by
  obtain ⟨mode, -, h⟩ := bind_eq_ok.mp h
  cases h
  exact ⟨rfl, rfl, rfl⟩

theorem goto_eq_ok {latDeg lonDeg altM : Value} {spec : CommandSpec}
    (h : goto latDeg lonDeg altM = .ok spec) :
    spec.name = "goto" ∧ spec.command = mavCmdDoReposition ∧
      spec.requiresForceConfirm = false := by
  obtain ⟨x, -, h⟩ := bind_eq_ok.mp h
  obtain ⟨y, -, h⟩ := bind_eq_ok.mp h
  cases h
  exact ⟨rfl, rfl, rfl⟩

theorem mem_builders {text : FloatText} {name : String} {builder : Builder}
    (hb : (builders text).lookup name = some builder) : (name, builder) ∈ builders text := by
  obtain ⟨l₁, l₂, heq, -⟩ := List.lookup_eq_some_iff.mp hb
  rw [heq]
  exact List.mem_append_right l₁ List.mem_cons_self

/-- A builder of the table builds one of the four fixed specs, a mode change or
a reposition, under the name it is listed by. -/
theorem builders_cases {text : FloatText} {name : String} {builder : Builder}
    {params : List (String × Value)} {spec : CommandSpec}
    (hb : (builders text).lookup name = some builder) (h : builder params = .ok spec) :
    spec.name = name ∧
      (spec = arm ∨ spec = disarm ∨ spec = forceDisarm ∨ spec = rtl ∨
        (spec.command = mavCmdDoSetMode ∧ spec.requiresForceConfirm = false) ∨
        (spec.command = mavCmdDoReposition ∧ spec.requiresForceConfirm = false)) := by
  have hmem := mem_builders hb
  simp only [builders, List.mem_cons, Prod.mk.injEq, List.not_mem_nil, or_false] at hmem
  rcases hmem with ⟨rfl, rfl⟩ | ⟨rfl, rfl⟩ | ⟨rfl, rfl⟩ | ⟨rfl, rfl⟩ | ⟨rfl, rfl⟩ | ⟨rfl, rfl⟩
  · obtain rfl := constant_eq_ok h
    exact ⟨rfl, .inl rfl⟩
  · obtain rfl := constant_eq_ok h
    exact ⟨rfl, .inr (.inl rfl)⟩
  · obtain rfl := constant_eq_ok h
    exact ⟨rfl, .inr (.inr (.inl rfl))⟩
  · obtain rfl := constant_eq_ok h
    exact ⟨rfl, .inr (.inr (.inr (.inl rfl)))⟩
  · obtain ⟨vs, -, h⟩ := bind_eq_ok.mp h
    split at h
    · obtain ⟨hn, hc⟩ := setMode_eq_ok h
      exact ⟨hn, .inr (.inr (.inr (.inr (.inl hc))))⟩
    · cases h
  · obtain ⟨vs, -, h⟩ := bind_eq_ok.mp h
    split at h
    · obtain ⟨hn, hc⟩ := goto_eq_ok h
      exact ⟨hn, .inr (.inr (.inr (.inr (.inr hc))))⟩
    · cases h

/-- What is built is built by a builder of the table, under an allowed name. -/
theorem builder_of_buildCommand {text : FloatText} {name : String} {settings : CommanderSettings}
    {params : List (String × Value)} {spec : CommandSpec}
    (h : buildCommand text name settings params = .ok spec) :
    ∃ builder, (builders text).lookup name = some builder ∧ builder params = .ok spec ∧
      name ∈ settings.allowed ∧ (name = "force_disarm" → settings.allowForceDisarm = true) := by
  unfold buildCommand at h
  split at h
  · cases h
  split at h
  · cases h
  · rename_i builder hb
    split_ifs at h with hall hforce
    cases hr : builder params with
    | error e => simp [hr, Except.mapError] at h
    | ok spec' =>
        simp only [hr, Except.mapError, Except.ok.injEq] at h
        subst h
        exact ⟨builder, hb, hr, hall, fun hf ↦ by simpa [hf] using hforce⟩

/-- Everything a successful `build_command` says about its spec: the name is
allowed and names the spec's builder, and force-disarm had its flag set. -/
theorem buildCommand_cases {text : FloatText} {name : String} {settings : CommanderSettings}
    {params : List (String × Value)} {spec : CommandSpec}
    (h : buildCommand text name settings params = .ok spec) :
    spec.name = name ∧ name ∈ settings.allowed ∧
      (name = "force_disarm" → settings.allowForceDisarm = true) ∧
      (spec = arm ∨ spec = disarm ∨ spec = forceDisarm ∨ spec = rtl ∨
        (spec.command = mavCmdDoSetMode ∧ spec.requiresForceConfirm = false) ∨
        (spec.command = mavCmdDoReposition ∧ spec.requiresForceConfirm = false)) := by
  obtain ⟨builder, hb, hbuilt, hall, hforce⟩ := builder_of_buildCommand h
  obtain ⟨hn, hc⟩ := builders_cases hb hbuilt
  exact ⟨hn, hall, hforce, hc⟩

/-- Only the force-disarm builder produces the force magic in an ARM_DISARM,
and it asks for the force confirmation. -/
theorem force_of_buildCommand {text : FloatText} {name : String}
    {settings : CommanderSettings} {params : List (String × Value)} {spec : CommandSpec}
    (h : buildCommand text name settings params = .ok spec)
    (hcmd : spec.command = mavCmdComponentArmDisarm)
    (hmagic : spec.params[1]? = some forceDisarmMagic) :
    name = "force_disarm" ∧ "force_disarm" ∈ settings.allowed ∧
      settings.allowForceDisarm = true ∧ spec.requiresForceConfirm = true := by
  obtain ⟨hname, hallowed, hflag, hcases⟩ := buildCommand_cases h
  rcases hcases with rfl | rfl | rfl | rfl | ⟨hc, -⟩ | ⟨hc, -⟩
  · exact absurd hmagic (by decide)
  · exact absurd hmagic (by decide)
  · obtain rfl : "force_disarm" = name := hname
    exact ⟨rfl, hallowed, hflag rfl, rfl⟩
  · exact absurd hcmd (by decide)
  · exact absurd (hc.symm.trans hcmd) (by decide)
  · exact absurd (hc.symm.trans hcmd) (by decide)

/-- Only the arm builder produces an ARM_DISARM that arms. -/
theorem arm_of_buildCommand {text : FloatText} {name : String}
    {settings : CommanderSettings} {params : List (String × Value)} {spec : CommandSpec}
    (h : buildCommand text name settings params = .ok spec)
    (hcmd : spec.command = mavCmdComponentArmDisarm)
    (harm : spec.params[0]? = some (.fin 1)) : name = "arm" ∧ spec.name = "arm" := by
  obtain ⟨hname, -, -, hcases⟩ := buildCommand_cases h
  rcases hcases with rfl | rfl | rfl | rfl | ⟨hc, -⟩ | ⟨hc, -⟩
  · exact ⟨hname.symm, rfl⟩
  · exact absurd harm (by decide)
  · exact absurd harm (by decide)
  · exact absurd hcmd (by decide)
  · exact absurd (hc.symm.trans hcmd) (by decide)
  · exact absurd (hc.symm.trans hcmd) (by decide)

end DroneComms.Command
