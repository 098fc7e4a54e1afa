import DroneComms.Command.Commands
import DroneComms.Py.Ties

/-!
# Packing a command

`MavlinkCommandLink.send` hands the fields of a spec to `command_int_send` or
`command_long_send`, which pack them into 32-bit floats and integers.  A builder
converts `custom_mode` and the two coordinates to a number but checks no range,
and hands `alt_m` on as it is.  So whether a staged command can be packed is
decided by the values that a client supplied.
-/

namespace DroneComms.Command

open Py

/-! ## Fields -/

/-- The smallest magnitude that is rounded beyond the 32-bit floats. -/
def float32Limit : ℚ := 2 ^ 128 - 2 ^ 103

/-- A finite number that fits a 32-bit float. -/
def Float32 : PyFloat → Prop
  | .fin q => |q| < float32Limit
  | .nan | .posInf | .negInf => False

instance : DecidablePred Float32
  | .fin q => inferInstanceAs (Decidable (|q| < float32Limit))
  | .nan | .posInf | .negInf => inferInstanceAs (Decidable False)

/-- The float of a number. -/
def number : Value → Option PyFloat
  | .bool b => some (.fin (if b then 1 else 0))
  | .int n => (floatOfInt n).toOption
  | .float x => some x
  | .str _ | .none | .list _ | .dict _ => none

/-- A value that stands for a number that fits a 32-bit float. -/
def IsFloat32 (v : Value) : Prop := ∃ x, number v = some x ∧ Float32 x

def InInt32 (n : ℤ) : Prop := -2 ^ 31 ≤ n ∧ n < 2 ^ 31

/-- The degE7 value of an angle of at most `limit` degrees. -/
def IsDegE7 (limit : ℕ) (n : ℤ) : Prop := ∃ deg : ℚ, |deg| ≤ limit ∧ n = roundEven (deg * degE7)

/-- How many parameters a kind takes. -/
def CommandKind.arity : CommandKind → ℕ
  | .long => 7
  | .int => 4

/-- A spec whose values are in the ranges of their fields; a 32-bit float rounds what it takes. -/
structure Encodable (spec : CommandSpec) : Prop where
  arity : spec.params.length = spec.kind.arity
  params : ∀ p ∈ spec.params, Float32 p
  z : IsFloat32 spec.z
  position : spec.kind = .int →
    (IsDegE7 90 spec.x ∧ IsDegE7 180 spec.y) ∧ InInt32 spec.x ∧ InInt32 spec.y

/-! ## Sending -/

/-- The arguments of `command_int_send` and `command_long_send`. -/
inductive Message where
  | commandInt (targetSystem targetComponent frame command : ℤ) (params : List PyFloat)
      (x y : ℤ) (z : Value)
  | commandLong (targetSystem targetComponent command : ℤ) (params : List PyFloat)

/-- `send`; a spec with too few parameters is an `IndexError`. -/
def send (targetSystem targetComponent : ℤ) (spec : CommandSpec) : Option Message :=
  if spec.params.length < spec.kind.arity then none
  else
    let p := spec.params.take spec.kind.arity
    match spec.kind with
    | .int => some (.commandInt targetSystem targetComponent spec.frame spec.command p
        spec.x spec.y spec.z)
    | .long => some (.commandLong targetSystem targetComponent spec.command p)

/-- A value that is packed as a 32-bit float: also the infinities and `nan` are. -/
def Packs : Value → Prop := fun v ↦ ∃ x, number v = some x ∧ (x.isFinite → Float32 x)

def IsByte (n : ℤ) : Prop := 0 ≤ n ∧ n < 2 ^ 8

instance : DecidablePred IsByte := fun _ ↦ inferInstanceAs (Decidable (_ ∧ _))

def IsUInt16 (n : ℤ) : Prop := 0 ≤ n ∧ n < 2 ^ 16

instance : DecidablePred IsUInt16 := fun _ ↦ inferInstanceAs (Decidable (_ ∧ _))

/-- Every argument fits its field. -/
def Message.Fits : Message → Prop
  | commandInt targetSystem targetComponent frame command params x y z =>
      (IsByte targetSystem ∧ IsByte targetComponent ∧ IsByte frame ∧ IsUInt16 command) ∧
        (∀ p ∈ params, Packs (.float p)) ∧ InInt32 x ∧ InInt32 y ∧ Packs z
  | commandLong targetSystem targetComponent command params =>
      (IsByte targetSystem ∧ IsByte targetComponent ∧ IsUInt16 command) ∧
        ∀ p ∈ params, Packs (.float p)

theorem IsFloat32.packs {v : Value} (h : IsFloat32 v) : Packs v := by
  obtain ⟨x, hx, hfits⟩ := h
  exact ⟨x, hx, fun _ ↦ hfits⟩

/-! ## The values of a client -/

/-- A coordinate in degrees, up to what is rounded away. -/
def OnGlobe (limit : ℕ) (slack : ℚ) (v : Value) : Prop :=
  ∃ q, number v = some (.fin q) ∧ |q| * degE7 ≤ limit * degE7 + 1 / 2 + slack

/-- The values that a builder turns into an encodable spec. -/
structure InRange (text : FloatText) (name : String) (params : List (String × Value)) : Prop where
  mode : name = "set_mode" → ∀ v, params.lookup "custom_mode" = some v →
    ∃ x, toFloat text v = .ok x ∧ Float32 x
  latitude : name = "goto" → ∀ v, params.lookup "lat_deg" = some v → OnGlobe 90 (2 ^ (-24 : ℤ)) v
  longitude : name = "goto" → ∀ v, params.lookup "lon_deg" = some v → OnGlobe 180 (2 ^ (-23 : ℤ)) v
  altitude : name = "goto" → ∀ v, params.lookup "alt_m" = some v → IsFloat32 v

/-- The arguments of a builder are the values of its keywords. -/
theorem bindKwargs_eq_ok {names : List String} {params : List (String × Value)} {vs : List Value}
    (h : bindKwargs names params = .ok vs) :
    names.map (fun name ↦ params.lookup name) = vs.map some := by
  rw [bindKwargs] at h
  split_ifs at h with hknown
  clear hknown
  induction names generalizing vs with
  | nil =>
      cases h
      rfl
  | cons name names ih =>
      rw [List.mapM_cons] at h
      obtain ⟨v, hv, h⟩ := bind_eq_ok.mp h
      obtain ⟨ws, hws, h⟩ := bind_eq_ok.mp h
      cases h
      have hvalue : params.lookup name = some v := by
        cases hlookup : params.lookup name with
        | none =>
            rw [hlookup] at hv
            cases hv
        | some w =>
            rw [hlookup] at hv
            cases hv
            rfl
      rw [List.map_cons, List.map_cons, hvalue, ih hws]

theorem mulFloat_eq_ok {k : ℚ} {v : Value} {y : PyFloat} :
    mulFloat k v = .ok y ↔ ∃ x, number v = some x ∧ y = x.scale k := by
  cases v with
  | int n =>
      rw [mulFloat, number]
      cases floatOfInt n with
      | error e => simp [Except.map, Except.toOption]
      | ok x => simp [Except.map, Except.toOption, eq_comm]
  | bool b => simp [mulFloat, number, eq_comm]
  | float x => simp [mulFloat, number, eq_comm]
  | none | str _ | list _ | dict _ => simp [mulFloat, number]

/-- The integer of a coordinate. -/
theorem coordinate_eq_ok {v : Value} {n : ℤ} (h : (mulFloat degE7 v >>= intRound) = .ok n) :
    ∃ q, number v = some (.fin q) ∧ n = roundEven (binary64 (q * degE7)) := by
  obtain ⟨y, hy, hn⟩ := bind_eq_ok.mp h
  obtain ⟨x, hx, rfl⟩ := mulFloat_eq_ok.mp hy
  cases x with
  | nan => cases hn
  | posInf => cases hn
  | negInf => cases hn
  | fin q =>
      refine ⟨q, hx, ?_⟩
      rw [PyFloat.scale, PyFloat.ofRat] at hn
      split_ifs at hn
      · cases hn
      · cases hn
      · cases hn
        rfl

theorem isDegE7_iff {limit : ℕ} {n : ℤ} : IsDegE7 limit n ↔ |n| ≤ limit * 10000000 := by
  have heven : ((limit : ℤ) * 10000000) % 2 = 0 := by omega
  constructor
  · rintro ⟨deg, hdeg, rfl⟩
    rw [abs_roundEven_le_iff heven, abs_mul, degE7]
    push_cast
    norm_num
    linarith
  · intro h
    refine ⟨n / degE7, ?_, ?_⟩
    · have hcast : |(n : ℚ)| ≤ limit * 10000000 := by exact_mod_cast h
      rw [abs_div, degE7, div_le_iff₀ (by norm_num)]
      norm_num
      exact hcast
    · rw [div_mul_cancel₀ _ (by norm_num [degE7]), roundEven_intCast]

theorem inInt32_of_isDegE7 {limit : ℕ} (hlimit : limit ≤ 180) {n : ℤ} (h : IsDegE7 limit n) :
    InInt32 n := by
  have habs := abs_le.mp (isDegE7_iff.mp h)
  constructor <;> omega

/-- **A coordinate.**  It is on the globe exactly if it was before it was scaled and
rounded, up to half a unit of both roundings. -/
theorem isDegE7_iff_onGlobe {limit : ℕ} {e : ℤ} (he : 1 ≤ e) (he' : e ≤ 50)
    (hlow : (2 : ℚ) ^ e + 1 ≤ limit * degE7 + 1 / 2)
    (hhigh : limit * degE7 + 1 / 2 + 1 ≤ (2 : ℚ) ^ (e + 1)) {v : Value} {n : ℤ}
    (h : (mulFloat degE7 v >>= intRound) = .ok n) :
    IsDegE7 limit n ↔ OnGlobe limit (2 ^ (e - 53)) v := by
  obtain ⟨q, hq, rfl⟩ := coordinate_eq_ok h
  have heven : ((limit : ℤ) * 10000000) % 2 = 0 := by omega
  have honGlobe : OnGlobe limit (2 ^ (e - 53)) v ↔
      |q| * degE7 ≤ limit * degE7 + 1 / 2 + 2 ^ (e - 53) := by
    constructor
    · rintro ⟨q', hq', hle⟩
      rw [hq] at hq'
      cases hq'
      exact hle
    · exact fun hle ↦ ⟨q, hq, hle⟩
  -- the bound and a half is itself a float, with an even significand
  obtain ⟨d, hd⟩ := Int.eq_ofNat_of_zero_le (show 0 ≤ 50 - e by omega)
  have hgrid : limit * degE7 + 1 / 2 =
      (((2 * (limit * 10000000) + 1) * 2 ^ (d + 1) : ℤ) : ℚ) * 2 ^ (e - 52) := by
    have hunit : (2 : ℚ) ^ (d + 1) * 2 ^ (e - 52) = 1 / 2 := by
      rw [← zpow_natCast, ← zpow_add₀ (by norm_num)]
      have hexp : ((d + 1 : ℕ) : ℤ) + (e - 52) = -1 := by
        push_cast
        omega
      rw [hexp]
      norm_num
    push_cast
    rw [mul_assoc, hunit, degE7]
    ring
  have hsignificand : (2 * ((limit : ℤ) * 10000000) + 1) * 2 ^ (d + 1) % 2 = 0 := by
    rw [pow_succ, ← mul_assoc]
    exact Int.mul_emod_left _ 2
  have hround : |binary64 (q * degE7)| ≤ limit * degE7 + 1 / 2 ↔
      |q * degE7| ≤ limit * degE7 + 1 / 2 + 2 ^ (e - 53) :=
    abs_binary64_le_iff he (by omega) hgrid hsignificand hlow hhigh
  have hdeg : |degE7| = degE7 := abs_of_pos (by norm_num [degE7])
  rw [abs_mul, hdeg] at hround
  rw [isDegE7_iff, abs_roundEven_le_iff heven, honGlobe, ← hround]
  push_cast
  rfl

/-! ## What is built -/

/-- What a builder makes of the values of a client. -/
inductive BuiltFrom (text : FloatText) (params : List (String × Value)) : String → CommandSpec → Prop
  | fixed {name spec} (h : (name, spec) ∈ [("arm", arm), ("disarm", disarm),
      ("force_disarm", forceDisarm), ("rtl", rtl)]) : BuiltFrom text params name spec
  | setMode {customMode mode spec} (h : params.lookup "custom_mode" = some customMode)
      (hmode : toFloat text customMode = .ok mode) (hspec : setMode text customMode = .ok spec) :
      BuiltFrom text params "set_mode" spec
  | goto {latDeg lonDeg altM x y spec} (hlat : params.lookup "lat_deg" = some latDeg)
      (hlon : params.lookup "lon_deg" = some lonDeg) (halt : params.lookup "alt_m" = some altM)
      (hx : (mulFloat degE7 latDeg >>= intRound) = .ok x)
      (hy : (mulFloat degE7 lonDeg >>= intRound) = .ok y)
      (hspec : goto latDeg lonDeg altM = .ok spec) : BuiltFrom text params "goto" spec

variable {text : FloatText} {name : String} {settings : CommanderSettings}
  {params : List (String × Value)} {spec : CommandSpec}

theorem builtFrom_of_builder {builder : Builder} (hb : (builders text).lookup name = some builder)
    (h : builder params = .ok spec) : BuiltFrom text params name spec := by
  have hmem := mem_builders hb
  simp only [builders, List.mem_cons, Prod.mk.injEq, List.not_mem_nil, or_false] at hmem
  rcases hmem with ⟨rfl, rfl⟩ | ⟨rfl, rfl⟩ | ⟨rfl, rfl⟩ | ⟨rfl, rfl⟩ | ⟨rfl, rfl⟩ | ⟨rfl, rfl⟩
  · obtain rfl := constant_eq_ok h
    exact .fixed (by simp)
  · obtain rfl := constant_eq_ok h
    exact .fixed (by simp)
  · obtain rfl := constant_eq_ok h
    exact .fixed (by simp)
  · obtain rfl := constant_eq_ok h
    exact .fixed (by simp)
  · obtain ⟨vs, hvs, h⟩ := bind_eq_ok.mp h
    have hvalues := bindKwargs_eq_ok hvs
    split at h
    · rename_i customMode
      obtain ⟨mode, hmode, -⟩ := bind_eq_ok.mp h
      simp only [List.map_cons, List.map_nil, List.cons.injEq, and_true] at hvalues
      exact .setMode hvalues hmode h
    · cases h
  · obtain ⟨vs, hvs, h⟩ := bind_eq_ok.mp h
    have hvalues := bindKwargs_eq_ok hvs
    split at h
    · rename_i latDeg lonDeg altM
      obtain ⟨x, hx, h'⟩ := bind_eq_ok.mp h
      obtain ⟨y, hy, -⟩ := bind_eq_ok.mp h'
      simp only [List.map_cons, List.map_nil, List.cons.injEq, and_true] at hvalues
      exact .goto hvalues.1 hvalues.2.1 hvalues.2.2 hx hy h
    · cases h

theorem encodable_fixed (h : (name, spec) ∈ [("arm", arm), ("disarm", disarm),
    ("force_disarm", forceDisarm), ("rtl", rtl)]) : Encodable spec := by
  have hz : IsFloat32 (.float (.fin 0)) := ⟨.fin 0, rfl, by decide +kernel⟩
  simp only [List.mem_cons, Prod.mk.injEq, List.not_mem_nil, or_false] at h
  rcases h with ⟨-, rfl⟩ | ⟨-, rfl⟩ | ⟨-, rfl⟩ | ⟨-, rfl⟩
  · exact ⟨rfl, by decide +kernel, hz, fun h ↦ absurd h (by decide)⟩
  · exact ⟨rfl, by decide +kernel, hz, fun h ↦ absurd h (by decide)⟩
  · exact ⟨rfl, by decide +kernel, hz, fun h ↦ absurd h (by decide)⟩
  · exact ⟨rfl, by decide +kernel, hz, fun h ↦ absurd h (by decide)⟩

theorem encodable_setMode {customMode : Value} {mode : PyFloat}
    (hmode : toFloat text customMode = .ok mode) (h : setMode text customMode = .ok spec) :
    Encodable spec ↔ Float32 mode := by
  rw [setMode, hmode] at h
  cases h
  constructor
  · intro h
    exact h.params mode (by simp)
  · intro h
    have hone : Float32 (.fin mavModeFlagCustomModeEnabled) := by decide +kernel
    have hzero : Float32 (.fin 0) := by decide +kernel
    exact ⟨rfl, by simp [hone, hzero, h], ⟨.fin 0, rfl, hzero⟩, fun h ↦ by cases h⟩

theorem encodable_goto {latDeg lonDeg altM : Value} {x y : ℤ}
    (hx : (mulFloat degE7 latDeg >>= intRound) = .ok x)
    (hy : (mulFloat degE7 lonDeg >>= intRound) = .ok y) (h : goto latDeg lonDeg altM = .ok spec) :
    Encodable spec ↔ IsFloat32 altM ∧ IsDegE7 90 x ∧ IsDegE7 180 y := by
  rw [goto, hx, ok_bind, hy] at h
  cases h
  constructor
  · intro h
    exact ⟨h.z, (h.position rfl).1⟩
  · rintro ⟨hz, hlat, hlon⟩
    have hparams : ∀ p ∈ [PyFloat.fin (-1), .fin 0, .fin 0, .fin 0], Float32 p := by decide +kernel
    exact ⟨rfl, hparams, hz, fun _ ↦ ⟨⟨hlat, hlon⟩,
      inInt32_of_isDegE7 (by decide) hlat, inInt32_of_isDegE7 (by decide) hlon⟩⟩

theorem BuiltFrom.header (h : BuiltFrom text params name spec) :
    IsByte spec.frame ∧ IsUInt16 spec.command := by
  cases h with
  | fixed hfixed =>
      simp only [List.mem_cons, Prod.mk.injEq, List.not_mem_nil, or_false] at hfixed
      rcases hfixed with ⟨-, rfl⟩ | ⟨-, rfl⟩ | ⟨-, rfl⟩ | ⟨-, rfl⟩ <;> decide
  | setMode _ hmode hspec =>
      rw [Command.setMode, hmode] at hspec
      cases hspec
      exact (by decide : IsByte 0 ∧ IsUInt16 mavCmdDoSetMode)
  | goto _ _ _ hx hy hspec =>
      rw [Command.goto, hx, ok_bind, hy] at hspec
      cases hspec
      exact (by decide : IsByte mavFrameGlobalRelativeAltInt ∧ IsUInt16 mavCmdDoReposition)

/-- Nothing that `send` hands on fails to be packed if the spec is encodable. -/
theorem fits_of_encodable {targetSystem targetComponent : ℤ}
    (h : buildCommand text name settings params = .ok spec) (hencodable : Encodable spec)
    (hsystem : IsByte targetSystem) (hcomponent : IsByte targetComponent) :
    ∃ m, send targetSystem targetComponent spec = some m ∧ m.Fits := by
  obtain ⟨builder, hb, hbuilt, -, -⟩ := builder_of_buildCommand h
  obtain ⟨hframe, hcommand⟩ := (builtFrom_of_builder hb hbuilt).header
  have hparams : ∀ p ∈ spec.params.take spec.kind.arity, Packs (.float p) := fun p hp ↦
    IsFloat32.packs ⟨p, rfl, hencodable.params p (List.mem_of_mem_take hp)⟩
  rw [send, if_neg hencodable.arity.not_lt]
  cases hkind : spec.kind with
  | long =>
      rw [hkind] at hparams
      exact ⟨_, rfl, ⟨hsystem, hcomponent, hcommand⟩, hparams⟩
  | int =>
      rw [hkind] at hparams
      obtain ⟨-, hx, hy⟩ := hencodable.position hkind
      exact ⟨_, rfl, ⟨hsystem, hcomponent, hframe, hcommand⟩, hparams, hx, hy, hencodable.z.packs⟩

/-- A command without parameters has nothing out of range. -/
theorem inRange_fixed (h : (name, spec) ∈ [("arm", arm), ("disarm", disarm),
    ("force_disarm", forceDisarm), ("rtl", rtl)]) : InRange text name params := by
  have hname : name ≠ "set_mode" ∧ name ≠ "goto" := by
    simp only [List.mem_cons, Prod.mk.injEq, List.not_mem_nil, or_false] at h
    rcases h with ⟨rfl, -⟩ | ⟨rfl, -⟩ | ⟨rfl, -⟩ | ⟨rfl, -⟩ <;> decide
  exact ⟨fun h ↦ absurd h hname.1, fun h ↦ absurd h hname.2, fun h ↦ absurd h hname.2,
    fun h ↦ absurd h hname.2⟩

theorem inRange_setMode_iff {customMode : Value} {mode : PyFloat}
    (h : params.lookup "custom_mode" = some customMode) (hmode : toFloat text customMode = .ok mode) :
    InRange text "set_mode" params ↔ Float32 mode := by
  constructor
  · intro hrange
    obtain ⟨mode', hmode', hfits⟩ := hrange.mode rfl customMode h
    rw [hmode] at hmode'
    cases hmode'
    exact hfits
  · intro hfits
    refine ⟨fun _ v hv ↦ ?_, ?_, ?_, ?_⟩
    · rw [h] at hv
      cases hv
      exact ⟨mode, hmode, hfits⟩
    · exact fun h ↦ absurd h (by decide)
    · exact fun h ↦ absurd h (by decide)
    · exact fun h ↦ absurd h (by decide)

theorem inRange_goto_iff {latDeg lonDeg altM : Value} (hlat : params.lookup "lat_deg" = some latDeg)
    (hlon : params.lookup "lon_deg" = some lonDeg) (halt : params.lookup "alt_m" = some altM) :
    InRange text "goto" params ↔ IsFloat32 altM ∧ OnGlobe 90 (2 ^ (-24 : ℤ)) latDeg ∧
      OnGlobe 180 (2 ^ (-23 : ℤ)) lonDeg := by
  constructor
  · intro h
    exact ⟨h.altitude rfl _ halt, h.latitude rfl _ hlat, h.longitude rfl _ hlon⟩
  · rintro ⟨hz, hgloblat, hgloblon⟩
    refine ⟨?_, fun _ v hv ↦ ?_, fun _ v hv ↦ ?_, fun _ v hv ↦ ?_⟩
    · exact fun h ↦ absurd h (by decide)
    · rw [hlat] at hv
      cases hv
      exact hgloblat
    · rw [hlon] at hv
      cases hv
      exact hgloblon
    · rw [halt] at hv
      cases hv
      exact hz

/-- **Packing a command.**  What is built can be packed exactly if the values of the client are
in range. -/
theorem encodable_iff (h : buildCommand text name settings params = .ok spec) :
    Encodable spec ↔ InRange text name params := by
  obtain ⟨builder, hb, hbuilt, -, -⟩ := builder_of_buildCommand h
  cases builtFrom_of_builder hb hbuilt with
  | fixed hfixed => exact iff_of_true (encodable_fixed hfixed) (inRange_fixed hfixed)
  | setMode hmode hfloat hspec =>
      rw [encodable_setMode hfloat hspec, inRange_setMode_iff hmode hfloat]
  | goto hlat hlon halt hx hy hspec =>
      -- ninety degrees are between `2 ^ 29` and `2 ^ 30` units, the rest of them above
      have hlatitude : IsDegE7 90 _ ↔ OnGlobe 90 (2 ^ (-24 : ℤ)) _ :=
        isDegE7_iff_onGlobe (e := 29) (by norm_num) (by norm_num) (by norm_num [degE7])
          (by norm_num [degE7]) hx
      have hlongitude : IsDegE7 180 _ ↔ OnGlobe 180 (2 ^ (-23 : ℤ)) _ :=
        isDegE7_iff_onGlobe (e := 30) (by norm_num) (by norm_num) (by norm_num [degE7])
          (by norm_num [degE7]) hy
      rw [encodable_goto hx hy hspec, hlatitude, hlongitude, inRange_goto_iff hlat hlon halt]

def gotoSettings : CommanderSettings := { allowed := ["goto"] }

theorem coordinate_zero : (mulFloat degE7 (.float (.fin 0)) >>= intRound) = .ok 0 := by
  have hzero : PyFloat.scale degE7 (.fin 0) = .fin 0 := by
    rw [PyFloat.scale, zero_mul, PyFloat.ofRat_eq_fin (by simp [binary64_zero]), binary64_zero]
  rw [mulFloat, hzero, ok_bind, intRound]
  simp [roundEven]

/-- A reposition to the origin, at an altitude. -/
def toOrigin (alt : Value) : List (String × Value) :=
  [("lat_deg", .float (.fin 0)), ("lon_deg", .float (.fin 0)), ("alt_m", alt)]

theorem buildCommand_toOrigin (alt : Value) :
    buildCommand .plain "goto" gotoSettings (toOrigin alt) =
      (goto (.float (.fin 0)) (.float (.fin 0)) alt).mapError .builder := by
  rfl

theorem goto_zero (alt : Value) : goto (.float (.fin 0)) (.float (.fin 0)) alt = .ok
    { name := "goto", command := mavCmdDoReposition, kind := .int,
      params := [.fin (-1), .fin 0, .fin 0, .fin 0], frame := mavFrameGlobalRelativeAltInt,
      z := alt } := by
  rw [goto, coordinate_zero]
  rfl

theorem encodable_iff_toOrigin : ∃ spec,
    buildCommand .plain "goto" gotoSettings (toOrigin (.int 100)) = .ok spec ∧
      (Encodable spec ↔ InRange .plain "goto" (toOrigin (.int 100))) := by
  have hspec := buildCommand_toOrigin (.int 100)
  rw [goto_zero] at hspec
  exact ⟨_, hspec, encodable_iff hspec⟩

/-- An altitude that is no number is staged, and cannot be packed. -/
theorem altitude_not_packed : ∃ spec,
    buildCommand .plain "goto" gotoSettings (toOrigin (.str "high")) = .ok spec ∧
      ¬Encodable spec ∧ ∃ m, send 1 1 spec = some m ∧ ¬m.Fits := by
  have hspec := buildCommand_toOrigin (.str "high")
  rw [goto_zero] at hspec
  refine ⟨_, hspec, ?_, _, rfl, ?_⟩
  · rintro ⟨-, -, ⟨x, hx, -⟩, -⟩
    cases hx
  · rintro ⟨-, -, -, -, x, hx, -⟩
    cases hx

end DroneComms.Command
