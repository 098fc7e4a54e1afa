import DroneComms.Cv.Pinhole
import Mathlib.Analysis.SpecialFunctions.Complex.Arg

/-!
# The replay harness

`_truth_to_pixel` of `scout/replay.py` in exact arithmetic: the pixel on which a known
point lands.  A pixel that it returns is cast back by `project_to_ground` along the
bearing of the point and over its distance.
-/

namespace DroneComms.Cv

open Py.Arith (radians degrees mod)

/-- `math.atan2`. -/
noncomputable def atan2 (y x : ℝ) : ℝ := Complex.arg ⟨x, y⟩

/-- `initial_bearing`. -/
noncomputable def initialBearing (lat1 lon1 lat2 lon2 : ℝ) : ℝ :=
  let p1 := radians lat1
  let p2 := radians lat2
  let dl := radians (lon2 - lon1)
  let y := Real.sin dl * Real.cos p2
  let x := Real.cos p1 * Real.sin p2 - Real.sin p1 * Real.cos p2 * Real.cos dl
  mod (degrees (atan2 y x)) 360

end DroneComms.Cv

namespace DroneComms.Scout

open Cv (Camera Pose atan2 initialBearing groundDistanceM imageOffset)
open Py (MathError)
open Py.Arith (radians degrees mod)

/-- `NADIR_DEPRESSION_DEG`. -/
noncomputable def nadirDepressionDeg : ℝ := 90.0

/-- A point with these offsets is in front of the camera. -/
def Forward (yawOff pitchOff : ℝ) : Prop :=
  (-90.0 < yawOff ∧ yawOff < 90.0) ∧ -90.0 < pitchOff ∧ pitchOff < 90.0

/-- These normalised offsets are in the image. -/
def InFrame (fx fy : ℝ) : Prop := (-1 ≤ fx ∧ fx ≤ 1) ∧ -1 ≤ fy ∧ fy ≤ 1

/-- The offset of a point at this bearing from the heading, in half a turn to each side. -/
noncomputable def yawOffset (brg headingDeg : ℝ) : ℝ :=
  mod (brg - headingDeg + 180.0) 360 - 180.0

/-- The normalised offset at which an angle off the axis is seen. -/
noncomputable def normalised (offDeg fovDeg : ℝ) : ℝ :=
  Real.tan (radians offDeg) / Real.tan (radians (fovDeg / 2.0))

open Classical in
/-- The pixel at these offsets, if the point is in front of the camera and in the image.  The
tangent would see a point behind the camera as one in front of it. -/
noncomputable def pixelAt (cam : Camera ℝ) (yawOff pitchOff : ℝ) : Option (ℝ × ℝ) :=
  let fx := normalised yawOff cam.hFovDeg
  let fy := normalised pitchOff cam.vFovDeg
  if ¬Forward yawOff pitchOff then none
  else if ¬InFrame fx fy then none
  else some ((fx + 1) / 2.0 * cam.imgW, (fy + 1) / 2.0 * cam.imgH)

open Classical in
/-- `_truth_to_pixel`. -/
noncomputable def truthToPixel (pose : Pose ℝ) (cam : Camera ℝ) (tlat tlon : ℝ) :
    Except MathError (Option (ℝ × ℝ)) := do
  let rng ← groundDistanceM pose.lat pose.lon tlat tlon
  let depression := if rng ≤ 0 then nadirDepressionDeg else degrees (atan2 pose.altAglM rng)
  let brg := if rng ≤ 0 then pose.headingDeg else initialBearing pose.lat pose.lon tlat tlon
  return pixelAt cam (yawOffset brg pose.headingDeg) (depression - pose.pitchDeg)

/-- A camera above the ground, and a point at some distance that is not too near the horizon. -/
structure Sighting where
  pose : Pose ℝ
  cam : Camera ℝ
  tlat : ℝ
  tlon : ℝ
  rng : ℝ
  alt_pos : 0 < pose.altAglM
  imgW_pos : 0 < cam.imgW
  imgH_pos : 0 < cam.imgH
  hFov_mem : 0 < cam.hFovDeg ∧ cam.hFovDeg < 180
  vFov_mem : 0 < cam.vFovDeg ∧ cam.vFovDeg < 180
  rng_eq : groundDistanceM pose.lat pose.lon tlat tlon = .ok rng
  rng_pos : 0 < rng
  depression_le : 1 / 10 ≤ degrees (atan2 pose.altAglM rng)

/-! ## Angles -/

theorem forward_iff {yawOff pitchOff : ℝ} : Forward yawOff pitchOff ↔
    (-90 < yawOff ∧ yawOff < 90) ∧ -90 < pitchOff ∧ pitchOff < 90 := by
  norm_num [Forward]

theorem yawOffset_eq (brg headingDeg : ℝ) :
    yawOffset brg headingDeg = mod (brg - headingDeg + 180) 360 - 180 := by
  norm_num [yawOffset]

theorem normalised_eq (offDeg fovDeg : ℝ) : normalised offDeg fovDeg =
    Real.tan (radians offDeg) / Real.tan (radians (fovDeg / 2)) := by
  norm_num [normalised]

theorem pixelAt_eq_some {cam : Camera ℝ} {yawOff pitchOff px py : ℝ} :
    pixelAt cam yawOff pitchOff = some (px, py) ↔ Forward yawOff pitchOff ∧
      InFrame (normalised yawOff cam.hFovDeg) (normalised pitchOff cam.vFovDeg) ∧
      px = (normalised yawOff cam.hFovDeg + 1) / 2 * cam.imgW ∧
      py = (normalised pitchOff cam.vFovDeg + 1) / 2 * cam.imgH := by
  have htwo : (2.0 : ℝ) = 2 := by norm_num
  rw [pixelAt, htwo]
  split_ifs with hforward hframe
  · simp only [Option.some.injEq, Prod.mk.injEq, hforward, hframe, true_and, eq_comm]
  · simp [hframe]
  · simp [hforward]

theorem mod_nonneg (x : ℝ) : 0 ≤ mod x 360 := by
  have h := Int.floor_le (x / 360)
  rw [le_div_iff₀ (by norm_num)] at h
  change 0 ≤ x - ((360 : ℚ) : ℝ) * ⌊x / ((360 : ℚ) : ℝ)⌋
  push_cast
  linarith

theorem mod_lt (x : ℝ) : mod x 360 < 360 := by
  have h := Int.lt_floor_add_one (x / 360)
  rw [div_lt_iff₀ (by norm_num)] at h
  change x - ((360 : ℚ) : ℝ) * ⌊x / ((360 : ℚ) : ℝ)⌋ < 360
  push_cast
  linarith

/-- An angle of a whole turn that another one differs from by whole turns. -/
theorem mod_eq_of_turns {x y : ℝ} (k : ℤ) (hy : 0 ≤ y) (hy' : y < 360) (h : x = y - 360 * k) :
    mod x 360 = y := by
  have hfloor : ⌊x / 360⌋ = -k := by
    rw [Int.floor_eq_iff, h]
    push_cast
    constructor
    · rw [le_div_iff₀ (by norm_num)]
      linarith
    · rw [div_lt_iff₀ (by norm_num)]
      linarith
  change x - ((360 : ℚ) : ℝ) * ⌊x / ((360 : ℚ) : ℝ)⌋ = y
  push_cast
  rw [hfloor, h]
  push_cast
  ring

/-- The heading and the offset of a bearing make up the bearing. -/
theorem mod_heading_add_yawOffset {brg : ℝ} (h : 0 ≤ brg) (h' : brg < 360) (headingDeg : ℝ) :
    mod (headingDeg + yawOffset brg headingDeg) 360 = brg := by
  refine mod_eq_of_turns ⌊(brg - headingDeg + 180) / 360⌋ h h' ?_
  have hmod : mod (brg - headingDeg + 180) 360 =
      brg - headingDeg + 180 - 360 * ⌊(brg - headingDeg + 180) / 360⌋ := by
    change _ - ((360 : ℚ) : ℝ) * ⌊_ / ((360 : ℚ) : ℝ)⌋ = _
    push_cast
    rfl
  rw [yawOffset_eq, hmod]
  ring

theorem initialBearing_mem (lat1 lon1 lat2 lon2 : ℝ) :
    0 ≤ initialBearing lat1 lon1 lat2 lon2 ∧ initialBearing lat1 lon1 lat2 lon2 < 360 :=
  ⟨mod_nonneg _, mod_lt _⟩

/-- Half a field of view has a tangent. -/
theorem tan_half_pos {fovDeg : ℝ} (h : 0 < fovDeg ∧ fovDeg < 180) :
    0 < Real.tan (radians (fovDeg / 2)) := by
  have hpi := Real.pi_pos
  apply Real.tan_pos_of_pos_of_lt_pi_div_two
  · rw [Py.Arith.real_radians]
    have := h.1
    positivity
  · rw [Py.Arith.real_radians]
    nlinarith [h.2]

/-- The column of an offset is in the image. -/
theorem pixel_mem {f : ℝ} {img : ℤ} (himg : 0 < img) (h : -1 ≤ f ∧ f ≤ 1) :
    0 ≤ (f + 1) / 2 * img ∧ (f + 1) / 2 * img ≤ img := by
  have hcast : (0 : ℝ) < img := Int.cast_pos.mpr himg
  constructor
  · have := h.1
    apply mul_nonneg _ hcast.le
    linarith
  · have := h.2
    nlinarith

/-- Of the pixel of an angle off the axis the angle is read again. -/
theorem arctan_imageOffset {offDeg fovDeg : ℝ} {img : ℤ} (himg : 0 < img)
    (hfov : 0 < fovDeg ∧ fovDeg < 180) (hoff : -90 < offDeg ∧ offDeg < 90) :
    degrees (Real.arctan (imageOffset ((normalised offDeg fovDeg + 1) / 2 * img) img fovDeg)) =
      offDeg := by
  have hpi := Real.pi_pos
  have hcast : (img : ℝ) ≠ 0 := (Int.cast_pos.mpr himg).ne'
  have htan := (tan_half_pos hfov).ne'
  have hhalf : radians fovDeg / 2 = radians (fovDeg / 2) := by
    rw [Py.Arith.real_radians, Py.Arith.real_radians]
    ring
  have hoffset : imageOffset ((normalised offDeg fovDeg + 1) / 2 * img) img fovDeg =
      Real.tan (radians offDeg) := by
    rw [imageOffset, normalised_eq, hhalf]
    field_simp
    ring
  have hrad : -(Real.pi / 2) < radians offDeg ∧ radians offDeg < Real.pi / 2 := by
    rw [Py.Arith.real_radians]
    constructor <;> nlinarith [hoff.1, hoff.2]
  rw [hoffset, Real.arctan_tan hrad.1 hrad.2, Py.Arith.real_degrees, Py.Arith.real_radians]
  field_simp

namespace Sighting

variable (s : Sighting)

/-- The depression of the point. -/
noncomputable def depression : ℝ := degrees (atan2 s.pose.altAglM s.rng)

noncomputable def bearing : ℝ := initialBearing s.pose.lat s.pose.lon s.tlat s.tlon

noncomputable def yawOff : ℝ := yawOffset s.bearing s.pose.headingDeg

noncomputable def pitchOff : ℝ := s.depression - s.pose.pitchDeg

theorem depression_lt : s.depression < 90 := by
  have hpi := Real.pi_pos
  have harg : |atan2 s.pose.altAglM s.rng| < Real.pi / 2 :=
    Complex.abs_arg_lt_pi_div_two_iff.mpr (.inl s.rng_pos)
  have hlt := (abs_lt.mp harg).2
  rw [depression, Py.Arith.real_degrees]
  calc atan2 s.pose.altAglM s.rng * (180 / Real.pi) < Real.pi / 2 * (180 / Real.pi) :=
        mul_lt_mul_of_pos_right hlt (by positivity)
    _ = 90 := by
        field_simp
        norm_num

/-- The range of the depression is the distance. -/
theorem range_eq : s.pose.altAglM / Real.tan (radians s.depression) = s.rng := by
  have htan : Real.tan (atan2 s.pose.altAglM s.rng) = s.pose.altAglM / s.rng := Complex.tan_arg _
  rw [depression, Py.Arith.radians_degrees, htan]
  have halt := s.alt_pos.ne'
  have hrng := s.rng_pos.ne'
  field_simp

/-- The line of sight at the offsets of the point, which is never past straight down. -/
theorem lineOfSight_eq : Cv.lineOfSight s.pose s.yawOff s.pitchOff = (s.depression, s.bearing) := by
  have hdown : s.pose.pitchDeg + s.pitchOff = s.depression := by
    rw [pitchOff]
    ring
  obtain ⟨hlo, hhi⟩ := initialBearing_mem s.pose.lat s.pose.lon s.tlat s.tlon
  have hazimuth : mod (s.pose.headingDeg + s.yawOff) 360 = s.bearing :=
    mod_heading_add_yawOffset hlo hhi s.pose.headingDeg
  have hnot : ¬Py.Arith.lt (Py.Arith.lit 90) s.depression = true := by
    simpa using s.depression_lt.le
  unfold Cv.lineOfSight
  dsimp only
  rw [hdown, hazimuth, if_neg hnot]

/-- The pixel of the point, if it is in front of the camera and in the image. -/
theorem truthToPixel_eq_some {px py : ℝ}
    (h : truthToPixel s.pose s.cam s.tlat s.tlon = .ok (some (px, py))) :
    Forward s.yawOff s.pitchOff ∧
      InFrame (normalised s.yawOff s.cam.hFovDeg) (normalised s.pitchOff s.cam.vFovDeg) ∧
      px = (normalised s.yawOff s.cam.hFovDeg + 1) / 2 * s.cam.imgW ∧
      py = (normalised s.pitchOff s.cam.vFovDeg + 1) / 2 * s.cam.imgH := by
  have hfar : ¬s.rng ≤ 0 := not_le.mpr s.rng_pos
  rw [truthToPixel, s.rng_eq, Py.ok_bind, if_neg hfar, if_neg hfar] at h
  have hpixel : pixelAt s.cam s.yawOff s.pitchOff = some (px, py) := Except.ok.inj h
  exact pixelAt_eq_some.mp hpixel

/-- **Replay.**  A pixel on which the harness puts a point lies in the image, and is cast back over
the distance of the point along its bearing. -/
theorem projection_inverts_replay {px py : ℝ}
    (h : truthToPixel s.pose s.cam s.tlat s.tlon = .ok (some (px, py)))
    (posCepM attSigmaDeg : Option ℝ) (terrainIters : ℤ) :
    (∃ fix, Cv.projectToGround s.pose s.cam px py 0 none posCepM attSigmaDeg terrainIters =
        .ok (some fix) ∧ fix.rangeM = s.rng ∧
      Cv.destination s.pose.lat s.pose.lon (initialBearing s.pose.lat s.pose.lon s.tlat s.tlon)
        s.rng = .ok (fix.lat, fix.lon)) ∧
    (0 ≤ px ∧ px ≤ s.cam.imgW) ∧ 0 ≤ py ∧ py ≤ s.cam.imgH := by
  obtain ⟨hforward, hframe, rfl, rfl⟩ := s.truthToPixel_eq_some h
  refine ⟨?_, pixel_mem s.imgW_pos hframe.1, pixel_mem s.imgH_pos hframe.2⟩
  have hsight := s.lineOfSight_eq
  obtain ⟨hyaw, hpitch⟩ := forward_iff.mp hforward
  rw [← arctan_imageOffset s.imgW_pos s.hFov_mem hyaw,
    ← arctan_imageOffset s.imgH_pos s.vFov_mem hpitch] at hsight
  obtain ⟨fix, hfix, hrange, hdest⟩ :=
    Cv.projectToGround_fix s.alt_pos hsight s.depression_le posCepM attSigmaDeg terrainIters
  rw [s.range_eq] at hrange
  rw [hrange] at hdest
  exact ⟨fix, hfix, hrange, hdest⟩

end Sighting

/-! ## A point to the north -/

/-- A degree of a meridian. -/
noncomputable def degreeM : ℝ := Cv.earthRM * radians 1

theorem degreeM_pos : 0 < degreeM := by
  rw [degreeM, Cv.earthRM, Py.Arith.real_lit, Py.Arith.real_radians]
  have hpi := Real.pi_pos
  positivity

theorem groundDistanceM_north : groundDistanceM (0 : ℝ) 0 1 0 = .ok degreeM := by
  have hpi := Real.pi_pos
  have hhalf : 0 < Real.pi / 180 / 2 ∧ Real.pi / 180 / 2 < Real.pi / 2 := by
    constructor <;> linarith
  have hsin : 0 < Real.sin (Real.pi / 180 / 2) :=
    Real.sin_pos_of_pos_of_lt_pi hhalf.1 (by linarith)
  have hle := Real.sin_le_one (Real.pi / 180 / 2)
  have hmin : Py.Arith.min (1 : ℝ) (Real.sin (Real.pi / 180 / 2)) = Real.sin (Real.pi / 180 / 2) := by
    rcases hle.lt_or_eq with h | h
    · simp [Py.Arith.min, h]
    · simp [Py.Arith.min, h]
  have harcsin := Real.arcsin_sin (by linarith [hhalf.1]) hhalf.2.le
  have hone : radians ((1 : ℝ) - 0) / 2 = Real.pi / 180 / 2 := by
    rw [sub_zero, Py.Arith.real_radians, one_mul]
  have hzero : radians ((0 : ℝ) - 0) / 2 = 0 := by
    rw [sub_zero, Py.Arith.real_radians, zero_mul, zero_div]
  have hsquare (x : ℝ) : Py.Arith.square x = (.ok (x ^ 2) : Except MathError ℝ) := rfl
  have hsqrt (x : ℝ) : Py.Arith.sqrt x = (.ok (√x) : Except MathError ℝ) := rfl
  have hasin (x : ℝ) : Py.Arith.asin x = (.ok (Real.arcsin x) : Except MathError ℝ) := rfl
  simp only [groundDistanceM, Py.Arith.real_lit, Py.Arith.real_div, Py.ok_bind, Rat.cast_ofNat,
    hone, hzero, Py.Arith.real_sin, Py.Arith.real_cos, hsquare, hsqrt, hasin, Real.sin_zero,
    zero_pow two_ne_zero, mul_zero, add_zero, Real.sqrt_sq hsin.le, Rat.cast_one, hmin, harcsin]
  refine congrArg Except.ok ?_
  rw [degreeM, Cv.earthRM, Py.Arith.real_radians, Py.Arith.real_lit]
  push_cast
  ring

/-- At the height of its distance a point is seen half a right angle below the horizon. -/
theorem degrees_atan2_self {d : ℝ} (h : 0 < d) : degrees (atan2 d d) = 45 := by
  have hpi := Real.pi_pos
  have habs : |Complex.arg ⟨d, d⟩| < Real.pi / 2 := Complex.abs_arg_lt_pi_div_two_iff.mpr (.inl h)
  have htan : Real.tan (Complex.arg ⟨d, d⟩) = 1 := (Complex.tan_arg _).trans (div_self h.ne')
  obtain ⟨hlo, hhi⟩ := abs_lt.mp habs
  rw [atan2, ← Real.arctan_tan hlo hhi, htan, Real.arctan_one, Py.Arith.real_degrees]
  field_simp
  norm_num

theorem initialBearing_north : initialBearing 0 0 1 0 = 0 := by
  have hpi := Real.pi_pos
  have hsin : 0 < Real.sin (Real.pi / 180) :=
    Real.sin_pos_of_pos_of_lt_pi (by positivity) (by linarith)
  have harg : atan2 0 (Real.sin (Real.pi / 180)) = 0 := Complex.arg_ofReal_of_nonneg hsin.le
  have hmod : mod (0 : ℝ) 360 = 0 := mod_eq_of_turns 0 le_rfl (by norm_num) (by simp)
  simp [initialBearing, Py.Arith.real_radians, Py.Arith.real_degrees, harg, hmod]

theorem hFov_ahead : 0 < (70 : ℝ) ∧ (70 : ℝ) < 180 := by norm_num

theorem vFov_ahead : 0 < (42 : ℝ) ∧ (42 : ℝ) < 180 := by norm_num

theorem depression_ahead : 1 / 10 ≤ degrees (atan2 degreeM degreeM) := by
  rw [degrees_atan2_self degreeM_pos]
  norm_num

/-- A camera that flies north and looks down by half a right angle, and a point in front of it. -/
noncomputable def ahead : Sighting where
  pose := { lat := 0, lon := 0, altAglM := degreeM, headingDeg := 0, pitchDeg := 45 }
  cam := { imgW := 1920, imgH := 1080, hFovDeg := 70, vFovDeg := 42 }
  tlat := 1
  tlon := 0
  rng := degreeM
  alt_pos := degreeM_pos
  imgW_pos := by norm_num
  imgH_pos := by norm_num
  hFov_mem := hFov_ahead
  vFov_mem := vFov_ahead
  rng_eq := groundDistanceM_north
  rng_pos := degreeM_pos
  depression_le := depression_ahead

theorem truthToPixel_ahead :
    truthToPixel ahead.pose ahead.cam ahead.tlat ahead.tlon = .ok (some (960, 540)) := by
  have hturn : mod (180 : ℝ) 360 = 180 := mod_eq_of_turns 0 (by norm_num) (by norm_num) (by simp)
  have hyaw : yawOffset (initialBearing 0 0 1 0) 0 = 0 := by
    rw [initialBearing_north, yawOffset_eq, sub_zero, zero_add, hturn, sub_self]
  have hfar : ¬ahead.rng ≤ 0 := not_le.mpr degreeM_pos
  have hcentre (fovDeg : ℝ) : normalised 0 fovDeg = 0 := by
    rw [normalised_eq, Py.Arith.real_radians, zero_mul, Real.tan_zero, zero_div]
  have hforward : Forward 0 0 := by norm_num [forward_iff]
  have hframe : InFrame 0 0 := by norm_num [InFrame]
  have hpixel : pixelAt ahead.cam 0 0 = some (960, 540) := by
    refine pixelAt_eq_some.mpr ⟨hforward, by rwa [hcentre, hcentre], ?_, ?_⟩
    · norm_num [hcentre, ahead]
    · norm_num [hcentre, ahead]
  rw [truthToPixel, ahead.rng_eq, Py.ok_bind, if_neg hfar, if_neg hfar]
  dsimp only [ahead] at hpixel ⊢
  rw [hyaw, degrees_atan2_self degreeM_pos, sub_self, hpixel]
  rfl

theorem replay_ahead_is_inverted :
    (∃ fix, Cv.projectToGround ahead.pose ahead.cam 960 540 0 none none none 2 = .ok (some fix) ∧
      fix.rangeM = ahead.rng ∧
      Cv.destination ahead.pose.lat ahead.pose.lon
        (initialBearing ahead.pose.lat ahead.pose.lon ahead.tlat ahead.tlon) ahead.rng =
          .ok (fix.lat, fix.lon)) ∧
    (0 ≤ (960 : ℝ) ∧ (960 : ℝ) ≤ ahead.cam.imgW) ∧ 0 ≤ (540 : ℝ) ∧ (540 : ℝ) ≤ ahead.cam.imgH :=
  ahead.projection_inverts_replay truthToPixel_ahead none none 2

end DroneComms.Scout
