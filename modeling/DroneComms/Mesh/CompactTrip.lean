import DroneComms.Mesh.Compact

/-!
# The normal form of a compact frame

What a frame keeps of an envelope.  Strings are exact, a fix is rounded: degrees
to a multiple of 1e-7, up to what the two float operations on the way add.
-/

namespace DroneComms.Mesh

open Py (PyFloat Value Dict PyError Interpreter JsonReader)
open Wire (bigEndian ofBigEndian unpack toUnsigned toSigned utf8 ofUtf8 getStr)

namespace Compact

/-! ## Degrees -/

/-- Scaling a degree rounds to the nearest integer, nearly. -/
theorem scaledDegree_fin {q : ℚ} (h : |q| ≤ 180) : ∃ n : ℤ,
    scaledDegree (.float (.fin q)) = .ok n ∧ |(n : ℚ) - q * latlonScale| ≤ 1 / 2 + 1 / 2 ^ 23 := by
  have hscale : latlonScale = 10000000 := rfl
  have hlt : |q * latlonScale| < 2 ^ (31 : ℤ) := by
    rw [abs_mul, hscale, abs_of_pos (by norm_num : (0 : ℚ) < 10000000)]
    norm_num
    linarith
  obtain ⟨hfin, hfloat⟩ := PyFloat.ofRat_of_abs_lt (by norm_num) (by norm_num) hlt
  obtain ⟨hlow, hhigh⟩ := abs_le.mp hfloat
  have hround := abs_le.mp (Py.abs_roundEven_sub_le (Py.binary64 (q * latlonScale)))
  refine ⟨Py.roundEven (Py.binary64 (q * latlonScale)), ?_, ?_⟩
  · show (Except.ok (PyFloat.ofRat (q * latlonScale)) >>= Py.intRound) = _
    rw [hfin]
    rfl
  · norm_num at hlow hhigh
    rw [abs_le]
    constructor <;> norm_num <;> linarith [hround.1, hround.2]

/-- The float of a scaled degree of 4 bytes. -/
theorem degrees_eq {n : ℤ} (h : |n| ≤ 2 ^ 31) :
    degrees n = .fin (Py.binary64 (n / latlonScale)) ∧
      |Py.binary64 (n / latlonScale) - n / latlonScale| ≤ 1 / 2 ^ 46 := by
  have hscale : latlonScale = 10000000 := rfl
  have habs : |(n : ℚ)| ≤ 2 ^ 31 := by exact_mod_cast h
  have hlt : |(n : ℚ) / latlonScale| < 2 ^ (8 : ℤ) := by
    rw [abs_div, hscale, abs_of_pos (by norm_num : (0 : ℚ) < 10000000),
      div_lt_iff₀ (by norm_num)]
    norm_num at habs ⊢
    linarith
  obtain ⟨hfin, hfloat⟩ := PyFloat.ofRat_of_abs_lt (by norm_num) (by norm_num) hlt
  refine ⟨hfin, le_trans hfloat ?_⟩
  norm_num

/-- A scaled degree of 4 bytes is what its float scales to. -/
theorem scaledDegree_degrees {n : ℤ} (h : |n| ≤ 2 ^ 31) :
    scaledDegree (.float (degrees n)) = .ok n := by
  have hscale : latlonScale = 10000000 := rfl
  obtain ⟨hdegrees, herror⟩ := degrees_eq h
  generalize Py.binary64 (n / latlonScale) = q at hdegrees herror
  have habs : |(n : ℚ)| ≤ 2 ^ 31 := by exact_mod_cast h
  have hclose : |q * latlonScale - n| ≤ 10000000 / 2 ^ 46 := by
    have hfactor : q * latlonScale - n = (q - n / latlonScale) * 10000000 := by
      rw [hscale]
      ring
    rw [hfactor, abs_mul, abs_of_pos (by norm_num : (0 : ℚ) < 10000000)]
    linarith
  have hlt : |q * latlonScale| < 2 ^ (32 : ℤ) := by
    have htriangle : |q * latlonScale| ≤ |q * latlonScale - n| + |(n : ℚ)| := by
      simpa using abs_add_le (q * latlonScale - n) n
    refine lt_of_le_of_lt htriangle ?_
    norm_num at habs hclose ⊢
    linarith
  obtain ⟨hfin, hfloat⟩ := PyFloat.ofRat_of_abs_lt (by norm_num) (by norm_num) hlt
  have hround := abs_le.mp (Py.abs_roundEven_sub_le (Py.binary64 (q * latlonScale)))
  have hexact : Py.roundEven (Py.binary64 (q * latlonScale)) = n := by
    obtain ⟨hlow, hhigh⟩ := abs_le.mp hfloat
    obtain ⟨hclow, hchigh⟩ := abs_le.mp hclose
    norm_num at hlow hhigh hclow hchigh
    have hlower : ((n - 1 : ℤ) : ℚ) < Py.roundEven (Py.binary64 (q * latlonScale)) := by
      push_cast
      linarith [hround.1]
    have hupper : (Py.roundEven (Py.binary64 (q * latlonScale)) : ℚ) < ((n + 1 : ℤ) : ℚ) := by
      push_cast
      linarith [hround.2]
    have hlower' := Int.cast_lt.mp hlower
    have hupper' := Int.cast_lt.mp hupper
    omega
  rw [hdegrees]
  show (Except.ok (PyFloat.ofRat (q * latlonScale)) >>= Py.intRound) = _
  rw [hfin]
  exact congrArg Except.ok hexact

/-- A whole degree is a float. -/
theorem binary64_whole {k : ℤ} (hk : |k| < 256) : Py.binary64 (k : ℚ) = k := by
  have hlt : |(k : ℚ)| < 2 ^ (8 : ℤ) := by
    rw [← Int.cast_abs]
    norm_num
    exact_mod_cast hk
  apply Py.binary64_eq_self (m := k * 2 ^ 45) (by norm_num) hlt
  push_cast
  norm_num
  ring

/-- A scaled degree is in a range of whole degrees if and only if its float is. -/
theorem abs_degrees_le_iff {n k : ℤ} (h : |n| ≤ 2 ^ 31) (hk : |k| < 256) :
    |Py.binary64 ((n : ℚ) / latlonScale)| ≤ k ↔ |n| ≤ k * 10000000 := by
  have hscale : latlonScale = ((10000000 : ℤ) : ℚ) := rfl
  obtain ⟨-, herror⟩ := degrees_eq h
  have habs : |(n : ℚ) / latlonScale| = ((|n| : ℤ) : ℚ) / latlonScale := by
    rw [abs_div, hscale, ← Int.cast_abs, ← Int.cast_abs]
    rfl
  have hclose := abs_le.mp (le_trans (abs_abs_sub_abs_le_abs_sub _ _) herror)
  rw [habs] at hclose
  have hscale' : latlonScale = 10000000 := rfl
  rcases lt_trichotomy |n| (k * 10000000) with hlt | heq | hgt
  · refine iff_of_true ?_ hlt.le
    have hle : ((|n| : ℤ) : ℚ) ≤ ((k * 10000000 - 1 : ℤ) : ℚ) :=
      Int.cast_le.mpr (Int.le_sub_one_of_lt hlt)
    push_cast at hle
    have hdiv : ((|n| : ℤ) : ℚ) / latlonScale ≤ k - 1 / 10000000 := by
      rw [hscale', div_le_iff₀ (by norm_num)]
      push_cast
      linarith
    have hsmall : (1 : ℚ) / 2 ^ 46 ≤ 1 / 10000000 := by norm_num
    linarith [hclose.2]
  · refine iff_of_true ?_ heq.le
    have hwhole : (n : ℚ) / latlonScale = ((k : ℤ) : ℚ) ∨ (n : ℚ) / latlonScale = ((-k : ℤ) : ℚ) := by
      rcases abs_choice n with hn | hn
      · left
        rw [hscale, div_eq_iff (by norm_num), ← Int.cast_mul, ← heq, hn]
      · right
        rw [hscale, div_eq_iff (by norm_num), ← Int.cast_mul, neg_mul, ← heq, hn, neg_neg]
    have hnonneg : 0 ≤ k := by
      have := abs_nonneg n
      omega
    rcases hwhole with hn | hn
    · rw [hn, binary64_whole hk, ← Int.cast_abs, abs_of_nonneg hnonneg]
    · rw [hn, binary64_whole (by rwa [abs_neg]), ← Int.cast_abs, abs_neg, abs_of_nonneg hnonneg]
  · refine iff_of_false ?_ (not_le.mpr hgt)
    rw [not_le]
    have hle : ((k * 10000000 + 1 : ℤ) : ℚ) ≤ ((|n| : ℤ) : ℚ) :=
      Int.cast_le.mpr (Int.add_one_le_of_lt hgt)
    push_cast at hle
    have hdiv : (k : ℚ) + 1 / 10000000 ≤ ((|n| : ℤ) : ℚ) / latlonScale := by
      rw [hscale', le_div_iff₀ (by norm_num)]
      push_cast
      linarith
    have hsmall : (1 : ℚ) / 2 ^ 46 < 1 / 10000000 := by norm_num
    linarith [hclose.1]

/-- An integer next to a scaled degree is within the range of the degree. -/
theorem abs_le_of_close {n k : ℤ} {q : ℚ} (h : |q| ≤ k)
    (hclose : |(n : ℚ) - q * latlonScale| ≤ 1 / 2 + 1 / 2 ^ 23) : |n| ≤ k * 10000000 := by
  have hscale : latlonScale = 10000000 := rfl
  rw [hscale] at hclose
  obtain ⟨hlow, hhigh⟩ := abs_le.mp h
  obtain ⟨hlow', hhigh'⟩ := abs_le.mp hclose
  have hsmall : (1 : ℚ) / 2 + 1 / 2 ^ 23 < 1 := by norm_num
  have hlt : (n : ℚ) < ((k * 10000000 + 1 : ℤ) : ℚ) := by
    push_cast
    linarith
  have hgt : ((-(k * 10000000) - 1 : ℤ) : ℚ) < n := by
    push_cast
    linarith
  have hlt' : n < k * 10000000 + 1 := Int.cast_lt.mp hlt
  have hgt' : -(k * 10000000) - 1 < n := Int.cast_lt.mp hgt
  rw [abs_le]
  omega

/-! ## Strings and integers -/

/-- A string with a length of one byte. -/
def Fits (s : String) : Prop := (utf8 s).length ≤ 255

theorem putStr_eq_ok {s : String} (h : Fits s) :
    putStr s = .ok (UInt8.ofNat (utf8 s).length :: utf8 s) := by
  rw [Fits] at h
  rw [putStr, if_neg (by omega)]

theorem putStr_fits {s : String} {bs : List UInt8} (h : putStr s = .ok bs) :
    Fits s ∧ bs = UInt8.ofNat (utf8 s).length :: utf8 s := by
  unfold putStr at h
  split_ifs at h with hlength
  cases h
  exact ⟨not_lt.mp hlength, rfl⟩

theorem getStr_putStr {s : String} (h : Fits s) (rest : List UInt8) :
    getStr (UInt8.ofNat (utf8 s).length :: utf8 s ++ rest) = some (s, rest) := by
  rw [Fits] at h
  exact Wire.getStr_append rfl (by omega) rest

theorem packI32_eq_ok {n : ℤ} (hlow : -2 ^ 31 ≤ n) (hhigh : n < 2 ^ 31) :
    packI32 n = .ok (bigEndian 4 (toUnsigned 32 n)) := if_pos ⟨hlow, hhigh⟩

theorem unpackI32_packI32 {n : ℤ} (hlow : -2 ^ 31 ≤ n) (hhigh : n < 2 ^ 31)
    (rest : List UInt8) :
    unpackI32 (bigEndian 4 (toUnsigned 32 n) ++ rest) = some (n, rest) := by
  have hsigned : toSigned 32 (toUnsigned 32 n) = n :=
    Wire.toSigned_toUnsigned (by omega) (by omega)
  rw [unpackI32, Wire.unpack_bigEndian (lt_of_lt_of_eq (Wire.toUnsigned_lt 32 n) (by norm_num)),
    Option.map_some, hsigned]

/-- What is read for 4 bytes fits 4 bytes. -/
theorem unpackI32_range {bs rest : List UInt8} {n : ℤ} (h : unpackI32 bs = some (n, rest)) :
    -2 ^ 31 ≤ n ∧ n < 2 ^ 31 := by
  obtain ⟨⟨m, rest'⟩, hm, h⟩ := Option.map_eq_some_iff.mp h
  cases h
  have hlt := Wire.unpack_lt hm
  have hrange := Wire.toSigned_range (w := 32) (n := m) (by omega)
  show -2 ^ 31 ≤ toSigned 32 m ∧ toSigned 32 m < 2 ^ 31
  omega

theorem clampU16_lt (n : ℤ) : clampU16 n < 256 ^ 2 := by
  unfold clampU16 u16Max
  omega

theorem clampU16_of_lt {n : ℕ} (h : n < 256 ^ 2) : clampU16 n = n := by
  unfold clampU16 u16Max
  omega

/-! ## The content of an envelope -/

/-- The content of an envelope as far as a frame carries it. -/
inductive Content where
  | fix (callsign tier : String) (lat lon hae ce le : ℚ)
  | chat (text : String) (addressee : Option String)
  | other (payload : Dict)

/-- A position in range with a node. -/
structure CarriesFix (py : Interpreter) (env : Envelope) (callsign tier : String)
    (lat lon hae ce le : ℚ) : Prop where
  kind : env.kind = .pli ∨ env.kind = .marker
  node : ∃ d, Dict.get env.payload "node" (.dict []) = .dict d ∧
    Dict.get d "callsign" (.str env.sourceUid) = .str callsign ∧
      py.strOf (Dict.get d "tier" (.str NodeTier.user.value)) = tier
  callsign_fits : Fits callsign
  position : ∃ d, Dict.get env.payload "position" (.dict []) = .dict d ∧
    ∃ p : Position, p.HeldBy d ∧ p.lat = .fin lat ∧ p.lon = .fin lon ∧ p.hae = .fin hae ∧
      p.ce = .fin ce ∧ p.le = .fin le
  lat_range : |lat| ≤ 90
  lon_range : |lon| ≤ 180
  hae_range : -2 ^ 31 ≤ hae ∧ hae ≤ 2 ^ 31 - 1

/-- A text with an addressee. -/
structure CarriesChat (env : Envelope) (text : String) (addressee : Option String) : Prop where
  kind : env.kind = .chat
  text_held : Dict.getOr env.payload "text" (.str "") = .str text
  addressee_held : Dict.get? env.payload "to" = addressee.map .str
  text_fits : (utf8 text).length ≤ 65535
  addressee_fits : ∀ room ∈ addressee, Fits room

/-- Any payload as JSON. -/
structure CarriesJson (py : Interpreter) (env : Envelope) : Prop where
  kind : env.kind = .status
  keys : Py.Json.WellKeyed (.dict env.payload)
  fits : (Py.dumpsCompact py (.dict env.payload)).length ≤ 65535

/-- The content of an envelope that fits a frame. -/
def Content.CarriedBy (py : Interpreter) (env : Envelope) : Content → Prop
  | .fix callsign tier lat lon hae ce le => CarriesFix py env callsign tier lat lon hae ce le
  | .chat text addressee => CarriesChat env text addressee
  | .other payload => payload = env.payload ∧ CarriesJson py env

/-- How close a degree comes back: half of 1e-7 and what two float operations add. -/
def tolerance : ℚ := 1 / 2 / 10 ^ 7 + 1 / 10 ^ 13

/-- The payload that a content comes back as. -/
def Content.Normal (sourceUid : String) : Content → Dict → Prop
  | .fix callsign tier lat lon hae ce le, d => ∃ lat' lon' : ℚ,
      d = [("node", .dict [("uid", .str sourceUid), ("callsign", .str callsign),
          ("tier", .str (if tier ∈ tiers then tier else NodeTier.user.value))]),
        ("position", .dict [("lat", .float (.fin lat')), ("lon", .float (.fin lon')),
          ("hae", .float (.fin (Py.roundEven hae))),
          ("ce", .float (.fin (clampU16 (Py.roundEven ce)))),
          ("le", .float (.fin (clampU16 (Py.roundEven le))))])] ∧
        |lat' - lat| ≤ tolerance ∧ |lat'| ≤ 90 ∧ |lon' - lon| ≤ tolerance ∧ |lon'| ≤ 180
  | .chat text addressee, d =>
      d = [("text", .str text),
        ("to", if addressee.getD "" = "" then .none else .str (addressee.getD ""))]
  | .other payload, d => d = payload

/-! ## Bodies -/

/-- A degree goes out as an integer of 4 bytes and comes back close. -/
theorem degree_trip {q : ℚ} {k : ℤ} (h : |q| ≤ k) (hk : k = 90 ∨ k = 180) :
    ∃ n : ℤ, ∃ q' : ℚ, scaledDegree (.float (.fin q)) = .ok n ∧ (-2 ^ 31 ≤ n ∧ n < 2 ^ 31) ∧
      degrees n = .fin q' ∧ |q' - q| ≤ tolerance ∧ |q'| ≤ k := by
  have h180 : |q| ≤ 180 := by
    rcases hk with rfl | rfl
    · exact le_trans h (by norm_num)
    · exact_mod_cast h
  obtain ⟨n, hn, hclose⟩ := scaledDegree_fin h180
  have hrange := abs_le_of_close h hclose
  have hsmall : |n| ≤ 1800000000 := by
    rcases hk with rfl | rfl
    · omega
    · omega
  have hn31 : |n| ≤ 2 ^ 31 := by omega
  obtain ⟨hfin, hfloat⟩ := degrees_eq hn31
  obtain ⟨hlow, hhigh⟩ := abs_le.mp hsmall
  refine ⟨n, _, hn, ⟨by omega, by omega⟩, hfin, ?_, ?_⟩
  · have hscale : latlonScale = 10000000 := rfl
    rw [hscale] at hclose hfloat ⊢
    obtain ⟨hclow, hchigh⟩ := abs_le.mp hclose
    obtain ⟨hflow, hfhigh⟩ := abs_le.mp hfloat
    have hq : (n : ℚ) / 10000000 - q = (n - q * 10000000) / 10000000 := by ring
    unfold tolerance
    rw [abs_le]
    constructor <;> norm_num at * <;> linarith
  · exact (abs_degrees_le_iff hn31 (by rcases hk with rfl | rfl <;> decide)).mpr hrange

theorem roundEven_bounds {q : ℚ} {a b : ℤ} (hlow : (a : ℚ) ≤ q) (hhigh : q ≤ b) :
    a ≤ Py.roundEven q ∧ Py.roundEven q ≤ b := by
  have hround := abs_le.mp (Py.abs_roundEven_sub_le q)
  have hlt : ((a - 1 : ℤ) : ℚ) < Py.roundEven q := by
    push_cast
    linarith [hround.1]
  have hgt : (Py.roundEven q : ℚ) < ((b + 1 : ℤ) : ℚ) := by
    push_cast
    linarith [hround.2]
  have hlt' : a - 1 < Py.roundEven q := Int.cast_lt.mp hlt
  have hgt' : Py.roundEven q < b + 1 := Int.cast_lt.mp hgt
  omega

/-- An error in metres that is missing and the one that stands for it are clamped alike. -/
theorem clamped_error {d : Dict} {key : String} {x : ℚ}
    (h : Dict.get d key (.float unknownErrorM) = .float (.fin x)) :
    ∃ n, rounded (Dict.get d key (.int u16Max)) = .ok n ∧
      clampU16 n = clampU16 (Py.roundEven x) := by
  rw [Dict.get] at h ⊢
  cases hkey : d.lookup key with
  | some v =>
      rw [hkey, Option.getD_some] at h
      subst h
      exact ⟨Py.roundEven x, rfl, rfl⟩
  | none =>
      rw [hkey, Option.getD_none] at h
      refine ⟨u16Max, rfl, ?_⟩
      have hx : x = ((9999999 : ℤ) : ℚ) := by
        have := PyFloat.fin.inj (Value.float.inj h)
        rw [← this]
        norm_num
      rw [hx, Py.roundEven_intCast]
      decide

/-- A tier is found again, or is the first one. -/
theorem tiers_tierIndex (tier : String) : (UInt8.ofNat (tierIndex tier)).toNat = tierIndex tier ∧
    tiers[tierIndex tier]? = some (if tier ∈ tiers then tier else NodeTier.user.value) := by
  rw [tierIndex]
  by_cases h : tier ∈ tiers
  · rw [if_pos h, if_pos h]
    have hlt : tiers.idxOf tier < tiers.length := List.idxOf_lt_length_of_mem h
    have hlength : tiers.length = 3 := rfl
    refine ⟨UInt8.toNat_ofNat_of_lt (by change _ < 256; omega), ?_⟩
    rw [List.getElem?_eq_getElem hlt, List.getElem_idxOf]
  · rw [if_neg h, if_neg h]
    exact ⟨rfl, rfl⟩

/-- A fix whose fields fit their bytes. -/
structure Fix.InRange (fix : Fix) : Prop where
  latE7 : -2 ^ 31 ≤ fix.latE7 ∧ fix.latE7 < 2 ^ 31
  lonE7 : -2 ^ 31 ≤ fix.lonE7 ∧ fix.lonE7 < 2 ^ 31
  hae : -2 ^ 31 ≤ fix.hae ∧ fix.hae < 2 ^ 31
  ce : fix.ce < 256 ^ 2
  le : fix.le < 256 ^ 2

/-- What is read for a fix fits its bytes. -/
theorem readFix_inRange {bs rest : List UInt8} {fix : Fix} (h : readFix bs = some (fix, rest)) :
    fix.InRange := by
  obtain ⟨⟨lat, bs⟩, hlat, h⟩ := Option.bind_eq_some_iff.mp h
  obtain ⟨⟨lon, bs'⟩, hlon, h⟩ := Option.bind_eq_some_iff.mp h
  obtain ⟨⟨hae, bs''⟩, hhae, h⟩ := Option.bind_eq_some_iff.mp h
  obtain ⟨⟨ce, cs⟩, hce, h⟩ := Option.bind_eq_some_iff.mp h
  obtain ⟨⟨le, cs'⟩, hle, h⟩ := Option.bind_eq_some_iff.mp h
  cases h
  exact ⟨unpackI32_range hlat, unpackI32_range hlon, unpackI32_range hhae, Wire.unpack_lt hce,
    Wire.unpack_lt hle⟩

/-- The bytes of a fix, a callsign and a tier. -/
def positionBytes (fix : Fix) (callsign : String) (tier : ℕ) : List UInt8 :=
  bigEndian 4 (toUnsigned 32 fix.latE7) ++ (bigEndian 4 (toUnsigned 32 fix.lonE7) ++
    (bigEndian 4 (toUnsigned 32 fix.hae) ++ (bigEndian 2 fix.ce ++ (bigEndian 2 fix.le ++
      ((UInt8.ofNat (utf8 callsign).length :: utf8 callsign) ++ [UInt8.ofNat tier])))))

theorem readFix_bytes {fix : Fix} (h : fix.InRange) (rest : List UInt8) :
    readFix (bigEndian 4 (toUnsigned 32 fix.latE7) ++ (bigEndian 4 (toUnsigned 32 fix.lonE7) ++
      (bigEndian 4 (toUnsigned 32 fix.hae) ++ (bigEndian 2 fix.ce ++
        (bigEndian 2 fix.le ++ rest))))) = some (fix, rest) := by
  simp only [readFix, unpackI32_packI32 h.latE7.1 h.latE7.2, unpackI32_packI32 h.lonE7.1 h.lonE7.2,
    unpackI32_packI32 h.hae.1 h.hae.2, Wire.unpack_bigEndian h.ce, Wire.unpack_bigEndian h.le,
    Option.bind_eq_bind, Option.bind_some]

theorem readPosition_bytes {fix : Fix} (h : fix.InRange) {callsign tier : String} {tierIdx : ℕ}
    (hcallsign : Fits callsign) (hbyte : (UInt8.ofNat tierIdx).toNat = tierIdx)
    (htier : tiers[tierIdx]? = some tier) (sourceUid : String) :
    readPosition sourceUid (positionBytes fix callsign tierIdx) =
      some (.dict [("node", .dict [("uid", .str sourceUid), ("callsign", .str callsign),
        ("tier", .str tier)]), ("position", .dict fix.position.dump)]) := by
  rw [readPosition, positionBytes, readFix_bytes h]
  simp only [Option.bind_eq_bind, Option.bind_some, getStr_putStr hcallsign, List.head?_cons,
    hbyte, htier]

/-- The body for a position. -/
theorem positionBody_eq_ok {py : Interpreter} {env : Envelope} {callsign tier : String}
    {lat lon hae ce le : ℚ} (h : CarriesFix py env callsign tier lat lon hae ce le) :
    ∃ fix : Fix, ∃ lat' lon' : ℚ,
      positionBody py env = .ok (positionBytes fix callsign (tierIndex tier)) ∧ fix.InRange ∧
        fix.position = { lat := .fin lat', lon := .fin lon', hae := .fin (Py.roundEven hae),
                         ce := .fin (clampU16 (Py.roundEven ce)),
                         le := .fin (clampU16 (Py.roundEven le)) } ∧
          |lat' - lat| ≤ tolerance ∧ |lat'| ≤ 90 ∧ |lon' - lon| ≤ tolerance ∧ |lon'| ≤ 180 := by
  obtain ⟨node, hnode, hcallsign, htier⟩ := h.node
  obtain ⟨pos, hpos, p, hp, hlat, hlon, hhae, hce, hle⟩ := h.position
  obtain ⟨latE7, lat', hlatE7, hlatRange, hlat', hlatClose, hlatBound⟩ :=
    degree_trip (k := 90) (by exact_mod_cast h.lat_range) (.inl rfl)
  obtain ⟨lonE7, lon', hlonE7, hlonRange, hlon', hlonClose, hlonBound⟩ :=
    degree_trip (k := 180) (by exact_mod_cast h.lon_range) (.inr rfl)
  obtain ⟨hlow, hhigh⟩ : -2147483648 ≤ Py.roundEven hae ∧ Py.roundEven hae ≤ 2147483647 := by
    obtain ⟨hlow, hhigh⟩ := h.hae_range
    norm_num at hlow hhigh
    exact roundEven_bounds (by exact_mod_cast hlow) (by exact_mod_cast hhigh)
  have hhaeRange : -2 ^ 31 ≤ Py.roundEven hae ∧ Py.roundEven hae < 2 ^ 31 := ⟨by omega, by omega⟩
  have hceHeld := hp.ce
  have hleHeld := hp.le
  rw [hce] at hceHeld
  rw [hle] at hleHeld
  obtain ⟨ceN, hceN, hceClamp⟩ := clamped_error hceHeld
  obtain ⟨leN, hleN, hleClamp⟩ := clamped_error hleHeld
  have hlatGet : Dict.get pos "lat" (.float (.fin 0)) = .float (.fin lat) := by
    rw [Dict.get, hp.lat, hlat]
    rfl
  have hlonGet : Dict.get pos "lon" (.float (.fin 0)) = .float (.fin lon) := by
    rw [Dict.get, hp.lon, hlon]
    rfl
  have hhaeGet : rounded (Dict.get pos "hae" (.float (.fin 0))) = .ok (Py.roundEven hae) := by
    rw [hp.hae, hhae]
    rfl
  refine ⟨⟨latE7, lonE7, Py.roundEven hae, clampU16 ceN, clampU16 leN⟩, lat', lon', ?_,
    ⟨hlatRange, hlonRange, hhaeRange, clampU16_lt _, clampU16_lt _⟩, ?_, hlatClose,
    by exact_mod_cast hlatBound, hlonClose, by exact_mod_cast hlonBound⟩
  · refine Py.bind_eq_ok.mpr ⟨node, by rw [hnode]; rfl, ?_⟩
    refine Py.bind_eq_ok.mpr ⟨pos, by rw [hpos]; rfl, ?_⟩
    refine Py.bind_eq_ok.mpr ⟨latE7, by rw [hlatGet, hlatE7]; rfl, ?_⟩
    refine Py.bind_eq_ok.mpr ⟨lonE7, by rw [hlonGet, hlonE7]; rfl, ?_⟩
    refine Py.bind_eq_ok.mpr ⟨Py.roundEven hae, by rw [hhaeGet]; rfl, ?_⟩
    refine Py.bind_eq_ok.mpr ⟨_, packI32_eq_ok hlatRange.1 hlatRange.2, ?_⟩
    refine Py.bind_eq_ok.mpr ⟨_, packI32_eq_ok hlonRange.1 hlonRange.2, ?_⟩
    refine Py.bind_eq_ok.mpr ⟨_, packI32_eq_ok hhaeRange.1 hhaeRange.2, ?_⟩
    refine Py.bind_eq_ok.mpr ⟨ceN, by rw [hceN]; rfl, ?_⟩
    refine Py.bind_eq_ok.mpr ⟨leN, by rw [hleN]; rfl, ?_⟩
    refine Py.bind_eq_ok.mpr ⟨_, by rw [hcallsign]; exact putStr_eq_ok h.callsign_fits, ?_⟩
    rw [htier]
    rfl
  · rw [Fix.position, hlat', hlon', hceClamp, hleClamp]

/-- What is packed with its length is read back. -/
theorem packBlob_eq_ok {bs : List UInt8} (h : bs.length ≤ 65535) :
    packBlob bs = .ok (bigEndian 2 bs.length ++ bs) := if_pos h

theorem unpack_blob {bs : List UInt8} (h : bs.length ≤ 65535) :
    unpack 2 (bigEndian 2 bs.length ++ bs) = some (bs.length, bs) :=
  Wire.unpack_bigEndian (by omega) bs

/-- The bytes of a chat. -/
def chatBytes (text room : String) : List UInt8 :=
  (UInt8.ofNat (utf8 room).length :: utf8 room) ++ (bigEndian 2 (utf8 text).length ++ utf8 text)

/-- A chat that is read. -/
theorem readChat_cases {rest : List UInt8} {v : Value} (h : readChat rest = some v) :
    ∃ text room, v = .dict [("text", .str text), ("to", if room = "" then .none else .str room)] ∧
      Fits room ∧ (utf8 text).length ≤ 65535 := by
  obtain ⟨⟨room, bs⟩, hroom, h⟩ := Option.bind_eq_some_iff.mp h
  obtain ⟨⟨length, bs'⟩, hlength, h⟩ := Option.bind_eq_some_iff.mp h
  obtain ⟨text, htext, h⟩ := Option.bind_eq_some_iff.mp h
  cases h
  refine ⟨text, room, rfl, Wire.getStr_length hroom, ?_⟩
  have hlt := Wire.unpack_lt hlength
  rw [Wire.utf8_of_ofUtf8 htext, List.length_take]
  omega

/-- The body for a chat. -/
theorem chatBody_eq_ok {env : Envelope} {text : String} {addressee : Option String}
    (h : CarriesChat env text addressee) :
    chatBody env = .ok (chatBytes text (addressee.getD "")) ∧ Fits (addressee.getD "") := by
  have hfits : Fits (addressee.getD "") := by
    cases haddressee : addressee with
    | none =>
        rw [Option.getD_none, Fits]
        decide +kernel
    | some room => exact h.addressee_fits room haddressee
  have hto : textOf (Dict.getOr env.payload "to" (.str "")) = .ok (addressee.getD "") := by
    have hheld := h.addressee_held
    rw [Dict.get?] at hheld
    rw [Dict.getOr]
    cases addressee with
    | none =>
        split at hheld
        next heq =>
          rw [heq]
          rfl
        next heq =>
          rw [heq]
          rfl
        next => cases hheld
    | some room =>
        split at hheld
        next => cases hheld
        next => cases hheld
        next v _ heq =>
          cases hheld
          rw [heq, Option.getD_some]
          dsimp only
          by_cases hempty : room = ""
          · subst hempty
            rfl
          · have htruthy : (Value.str room).truthy = true := by simpa [Value.truthy] using hempty
            rw [if_pos htruthy]
            rfl
  refine ⟨?_, hfits⟩
  refine Py.bind_eq_ok.mpr ⟨_, hto, Py.bind_eq_ok.mpr ⟨_, putStr_eq_ok hfits, ?_⟩⟩
  refine Py.bind_eq_ok.mpr ⟨text, by rw [h.text_held]; rfl, ?_⟩
  exact Py.bind_eq_ok.mpr ⟨_, packBlob_eq_ok h.text_fits, rfl⟩

/-- Every body is read back in its normal form. -/
theorem body_trip {py : Interpreter} (json : JsonReader py) {env : Envelope} {content : Content}
    (h : content.CarriedBy py env) :
    ∃ bytes d, body py env = .ok bytes ∧
      readBody json env.kind env.sourceUid bytes = some (.dict d) ∧
        content.Normal env.sourceUid d := by
  cases content with
  | fix callsign tier lat lon hae ce le =>
      have hfix : CarriesFix py env callsign tier lat lon hae ce le := h
      obtain ⟨fix, lat', lon', hbody, hrange, hposition, hclose⟩ := positionBody_eq_ok hfix
      obtain ⟨hbyte, htier⟩ := tiers_tierIndex tier
      have hread := readPosition_bytes hrange hfix.callsign_fits hbyte htier env.sourceUid
      rw [hposition] at hread
      refine ⟨positionBytes fix callsign (tierIndex tier), _, ?_, ?_, lat', lon', rfl, hclose⟩
      · rw [body]
        rcases hfix.kind with hkind | hkind <;> rw [hkind] <;> exact hbody
      · rcases hfix.kind with hkind | hkind <;> rw [hkind] <;> exact hread
  | chat text addressee =>
      have hchat : CarriesChat env text addressee := h
      obtain ⟨hbody, hfits⟩ := chatBody_eq_ok hchat
      refine ⟨chatBytes text (addressee.getD ""), _, ?_, ?_, rfl⟩
      · rw [body, hchat.kind]
        exact hbody
      · rw [hchat.kind, readBody, readChat, chatBytes]
        simp only [Option.bind_eq_bind, Option.bind_some, getStr_putStr hfits,
          unpack_blob hchat.text_fits, List.take_length, Wire.ofUtf8_utf8]
  | other payload =>
      obtain ⟨rfl, hjson⟩ := h
      refine ⟨bigEndian 2 (Py.dumpsCompact py (.dict env.payload)).length ++
        Py.dumpsCompact py (.dict env.payload), env.payload, ?_, ?_, rfl⟩
      · rw [body, hjson.kind]
        exact packBlob_eq_ok hjson.fits
      · rw [hjson.kind, readBody, readJson]
        simp only [Option.bind_eq_bind, Option.bind_some, unpack_blob hjson.fits, List.take_length]
        rw [Py.dumpsCompact, Wire.ofUtf8_utf8, Option.bind_some, json.loads_dumps _ hjson.keys]

/-! ## Frames -/

theorem kinds_idxOf (kind : MessageKind) :
    kinds[(UInt8.ofNat (kinds.idxOf kind)).toNat]? = some kind := by
  cases kind <;> rfl

/-- The header of a frame is read back. -/
theorem readHeader_bytes {kind : MessageKind} {ts : ℕ} {sourceUid msgId : String} (hts : ts < 2 ^ 32)
    (hsource : Fits sourceUid) (hmsgId : Fits msgId) (rest : List UInt8) :
    readHeader (UInt8.ofNat (kinds.idxOf kind) :: (bigEndian 4 ts ++
      ((UInt8.ofNat (utf8 sourceUid).length :: utf8 sourceUid) ++
        ((UInt8.ofNat (utf8 msgId).length :: utf8 msgId) ++ rest)))) =
      some (kind, ts, sourceUid, msgId, rest) := by
  have hts' : ts < 256 ^ 4 := lt_of_lt_of_eq hts (by norm_num)
  simp only [readHeader, List.head?_cons, List.tail_cons, Option.bind_eq_bind, Option.bind_some,
    kinds_idxOf, Wire.unpack_bigEndian hts', getStr_putStr hsource, getStr_putStr hmsgId]

/-- What a frame is made of. -/
theorem encode_eq_ok {py : Interpreter} {env : Envelope} {b : List UInt8}
    (h : encode py env = .ok b) :
    ∃ ts bytes, body py env = .ok bytes ∧ Fits env.sourceUid ∧ Fits env.msgId ∧
      b = UInt8.ofNat (env.schemaVersion % 256).toNat :: UInt8.ofNat (kinds.idxOf env.kind) ::
        (bigEndian 4 (toUnsigned 32 ts) ++
          ((UInt8.ofNat (utf8 env.sourceUid).length :: utf8 env.sourceUid) ++
            ((UInt8.ofNat (utf8 env.msgId).length :: utf8 env.msgId) ++ bytes))) := by
  obtain ⟨ts, -, h⟩ := Py.bind_eq_ok.mp h
  obtain ⟨source, hsource, h⟩ := Py.bind_eq_ok.mp h
  obtain ⟨msgId, hmsgId, h⟩ := Py.bind_eq_ok.mp h
  obtain ⟨bytes, hbytes, h⟩ := Py.bind_eq_ok.mp h
  obtain ⟨hsourceFits, rfl⟩ := putStr_fits hsource
  obtain ⟨hidFits, rfl⟩ := putStr_fits hmsgId
  cases h
  exact ⟨ts, bytes, hbytes, hsourceFits, hidFits, rfl⟩

/-- What is read behind a supported schema decides. -/
theorem decode_cons {py : Interpreter} {json : JsonReader py} {supported : List ℤ} {schema : UInt8}
    {bs : List UInt8} {f : Fields} (hschema : (schema.toNat : ℤ) ∈ supported)
    (hf : readFields json bs = some f) :
    decode json supported (schema :: bs) = f.envelope schema.toNat := by
  rw [decode, if_neg (not_not.mpr hschema), hf]

/-- Nothing else but a `MeshSAError` comes of other frames. -/
theorem decode_cases {py : Interpreter} {json : JsonReader py} {supported : List ℤ}
    {b : List UInt8} {r : Except CodecError Envelope} (h : decode json supported b = r) :
    r = .error .meshSA ∨ r = .error .incompatibleSchema ∨
      ∃ schema bs f, b = schema :: bs ∧ (schema.toNat : ℤ) ∈ supported ∧
        readFields json bs = some f ∧ r = f.envelope schema.toNat := by
  unfold decode at h
  split at h
  · exact .inl h.symm
  · rename_i schema bs
    by_cases hschema : (schema.toNat : ℤ) ∈ supported
    · rw [if_neg (not_not.mpr hschema)] at h
      cases hf : readFields json bs with
      | none =>
          rw [hf] at h
          exact .inl h.symm
      | some f =>
          rw [hf] at h
          exact .inr (.inr ⟨schema, bs, f, rfl, hschema, hf, h.symm⟩)
    · rw [if_pos hschema] at h
      exact .inr (.inl h.symm)

/-- An envelope that fits a frame of a codec with the given schemas. -/
structure Packable (py : Interpreter) (supported : List ℤ) (env : Envelope) (t : ℚ)
    (content : Content) : Prop where
  schema : env.schemaVersion ∈ supported
  schema_byte : 0 ≤ env.schemaVersion ∧ env.schemaVersion ≤ 255
  ts : env.ts = .fin t
  ts_range : 0 ≤ t ∧ t < 2 ^ 32
  source_fits : Fits env.sourceUid
  id_fits : Fits env.msgId
  content : content.CarriedBy py env

/-- An envelope is read back with its timestamp as an integer and with the payload that its
body is read as. -/
theorem frame_trip {py : Interpreter} (json : JsonReader py) {supported : List ℤ} {env : Envelope}
    {ts : ℤ} {bytes : List UInt8} {d : Dict} (hschema : env.schemaVersion ∈ supported)
    (hbyte : 0 ≤ env.schemaVersion ∧ env.schemaVersion ≤ 255)
    (hts : Py.intOfFloat env.ts = .ok ts) (htsRange : 0 ≤ ts ∧ ts < 2 ^ 32)
    (hsource : Fits env.sourceUid) (hid : Fits env.msgId) (hbody : body py env = .ok bytes)
    (hread : readBody json env.kind env.sourceUid bytes = some (.dict d)) :
    ∃ b, (compactCodec py json supported).encode env = .ok b ∧
      (compactCodec py json supported).decode b = .ok
        { env with ts := .fin ts, payload := d } := by
  obtain ⟨hlow, hhigh⟩ := hbyte
  obtain ⟨hts0, hts1⟩ := htsRange
  have hunsigned : toUnsigned 32 ts = ts.toNat := by
    rw [toUnsigned, Int.emod_eq_of_lt hts0 hts1]
  have hversion : ((UInt8.ofNat (env.schemaVersion % 256).toNat).toNat : ℤ) =
      env.schemaVersion := by
    have hbyte : (UInt8.ofNat env.schemaVersion.toNat).toNat = env.schemaVersion.toNat :=
      UInt8.toNat_ofNat_of_lt (by change _ < 256; omega)
    rw [Int.emod_eq_of_lt hlow (by omega), hbyte, Int.toNat_of_nonneg hlow]
  have henc : encode py env = .ok (UInt8.ofNat (env.schemaVersion % 256).toNat ::
      UInt8.ofNat (kinds.idxOf env.kind) :: (bigEndian 4 ts.toNat ++
        ((UInt8.ofNat (utf8 env.sourceUid).length :: utf8 env.sourceUid) ++
          ((UInt8.ofNat (utf8 env.msgId).length :: utf8 env.msgId) ++ bytes)))) := by
    refine Py.bind_eq_ok.mpr ⟨ts, by rw [hts]; rfl, ?_⟩
    refine Py.bind_eq_ok.mpr ⟨_, putStr_eq_ok hsource, ?_⟩
    refine Py.bind_eq_ok.mpr ⟨_, putStr_eq_ok hid, ?_⟩
    refine Py.bind_eq_ok.mpr ⟨bytes, hbody, ?_⟩
    rw [hunsigned]
  have hfields : readFields json (UInt8.ofNat (kinds.idxOf env.kind) :: (bigEndian 4 ts.toNat ++
      ((UInt8.ofNat (utf8 env.sourceUid).length :: utf8 env.sourceUid) ++
        ((UInt8.ofNat (utf8 env.msgId).length :: utf8 env.msgId) ++ bytes)))) =
      some ⟨env.kind, ts.toNat, env.sourceUid, env.msgId, .dict d⟩ := by
    rw [readFields, readHeader_bytes (by omega) hsource hid]
    simp only [Option.bind_eq_bind, Option.bind_some, hread]
  have hcast : ((ts.toNat : ℕ) : ℚ) = ts := by
    rw [← Int.cast_natCast, Int.toNat_of_nonneg hts0]
  have hdec := decode_cons (by rw [hversion]; exact hschema) hfields
  rw [hversion, Fields.envelope, hcast] at hdec
  exact ⟨_, henc, hdec⟩

/-- A position half a unit of 1e-7 degrees off the grid of the scaled degrees. -/
def offGrid : Envelope where
  msgId := "m"
  ts := .fin 0
  sourceUid := "u"
  kind := .pli
  payload := [("node", .dict [("callsign", .str "c"), ("tier", .str "backbone")]),
    ("position", .dict [("lat", .float (.fin (1 / 256))), ("lon", .float (.fin 0))])]

theorem packable_offGrid : Packable Interpreter.plain supportedSchemas offGrid 0
    (.fix "c" "backbone" (1 / 256) 0 0 9999999 9999999) where
  schema := List.mem_singleton_self _
  schema_byte := by decide
  ts := rfl
  ts_range := by norm_num
  source_fits := by unfold Fits; decide +kernel
  id_fits := by unfold Fits; decide +kernel
  content := {
    kind := .inl rfl
    node := ⟨_, rfl, rfl, rfl⟩
    callsign_fits := by unfold Fits; decide +kernel
    position := ⟨_, rfl, { lat := .fin (1 / 256), lon := .fin 0, hae := .fin 0,
                           ce := unknownErrorM, le := unknownErrorM },
      ⟨rfl, rfl, rfl, rfl, rfl, rfl, rfl⟩, rfl, rfl, rfl, rfl, rfl⟩
    lat_range := by norm_num [abs_of_pos]
    lon_range := by norm_num
    hae_range := by norm_num }

/-- The latitude of an envelope. -/
def latitude (env : Envelope) : Option ℚ :=
  match env.payload.lookup "position" with
  | some (.dict d) =>
      match d.lookup "lat" with
      | some (.float (.fin q)) => some q
      | _ => none
  | _ => none

end Compact

end DroneComms.Mesh
