import Mathlib.Analysis.SpecialFunctions.Trigonometric.Bounds
import DroneComms.Cv.Geo

/-!
# The pinhole camera

The ray through a pixel of a rectilinear camera, and the point where it meets the
flat ground, in exact arithmetic.  `project_to_ground` adds the two angles of the
pixel to the heading and to the depression.  Adding the vertical one is the right
rotation of the ray; adding the horizontal one is not, unless it is zero.
-/

namespace DroneComms.Cv

open Py Py.Arith

/-- A ray from the camera: its components ahead along the heading, to the right
and down. -/
structure Ray where
  ahead : ℝ
  right : ℝ
  down : ℝ

namespace Ray

/-- The ray at the offsets `a` to the right and `b` down in the image plane of a
camera whose axis dips by `θ`. -/
noncomputable def ofOffsets (θ a b : ℝ) : Ray where
  ahead := Real.cos θ - b * Real.sin θ
  right := a
  down := Real.sin θ + b * Real.cos θ

noncomputable def length (r : Ray) : ℝ := √(r.ahead ^ 2 + r.right ^ 2 + r.down ^ 2)

/-- How far a ray dips below the horizon (deg). -/
noncomputable def dip (r : Ray) : ℝ := degrees (Real.arcsin (r.down / r.length))

/-- The point north where a ray meets the ground `alt` below, the heading being `H`. -/
noncomputable def north (r : Ray) (alt H : ℝ) : ℝ :=
  alt / r.down * (r.ahead * Real.cos H - r.right * Real.sin H)

/-- The point east where a ray meets the ground. -/
noncomputable def east (r : Ray) (alt H : ℝ) : ℝ :=
  alt / r.down * (r.ahead * Real.sin H + r.right * Real.cos H)

/-- The ground range of that point. -/
theorem sqrt_north_sq_add_east_sq {r : Ray} {alt : ℝ} (halt : 0 < alt) (hdown : 0 < r.down) (H : ℝ) :
    √(r.north alt H ^ 2 + r.east alt H ^ 2) = alt / r.down * √(r.ahead ^ 2 + r.right ^ 2) := by
  have hscale : 0 ≤ alt / r.down := (div_pos halt hdown).le
  have hsq : r.north alt H ^ 2 + r.east alt H ^ 2 =
      (alt / r.down) ^ 2 * (r.ahead ^ 2 + r.right ^ 2) := by
    have hH := Real.sin_sq_add_cos_sq H
    simp only [north, east]
    linear_combination (alt / r.down) ^ 2 * (r.ahead ^ 2 + r.right ^ 2) * hH
  rw [hsq, Real.sqrt_mul (sq_nonneg _), Real.sqrt_sq hscale]

theorem down_pos_of_dip {r : Ray} (h : 0 < r.dip) : 0 < r.down := by
  have harcsin : 0 < Real.arcsin (r.down / r.length) := by
    rw [dip, real_degrees] at h
    exact pos_of_mul_pos_left h (by positivity)
  by_contra hdown
  have hdiv : r.down / r.length ≤ 0 :=
    div_nonpos_of_nonpos_of_nonneg (not_lt.mp hdown) (Real.sqrt_nonneg _)
  exact hdiv.not_gt (Real.arcsin_pos.mp harcsin)

/-- A ray that falls by a tenth of its length dips by at least 0.1 degree. -/
theorem dip_of_tenth {r : Ray} (h : 1 / 10 ≤ r.down / r.length) : 1 / 10 ≤ r.dip := by
  have hpi := Real.pi_pos
  have hfour := Real.pi_le_four
  have hsin : Real.sin (1 / 10) ≤ r.down / r.length :=
    (Real.sin_lt (by norm_num)).le.trans h
  have harcsin := (Real.le_arcsin_iff_sin_le' (by constructor <;> linarith [Real.two_le_pi])).mpr hsin
  rw [dip, real_degrees]
  calc 1 / 10 ≤ 1 / 10 * (180 / Real.pi) :=
        le_mul_of_one_le_right (by norm_num) ((one_le_div hpi).mpr (by linarith))
    _ ≤ Real.arcsin (r.down / r.length) * (180 / Real.pi) := by gcongr

section Offsets

variable (θ a b : ℝ)

/-- The vertical offset rotates the axis by its angle: the component ahead. -/
theorem ahead_ofOffsets :
    (ofOffsets θ a b).ahead = √(1 + b ^ 2) * Real.cos (θ + Real.arctan b) := by
  have hpos : 0 < √(1 + b ^ 2) := by positivity
  rw [Real.cos_add, Real.cos_arctan, Real.sin_arctan, ofOffsets]
  field_simp

/-- And the component down. -/
theorem down_ofOffsets :
    (ofOffsets θ a b).down = √(1 + b ^ 2) * Real.sin (θ + Real.arctan b) := by
  have hpos : 0 < √(1 + b ^ 2) := by positivity
  rw [Real.sin_add, Real.cos_arctan, Real.sin_arctan, ofOffsets]
  field_simp

end Offsets

end Ray

/-! ## The view of a camera -/

/-- The offset of a pixel in the image plane, the focal length being one. -/
noncomputable def imageOffset (c : ℝ) (img : ℤ) (fovDeg : ℝ) : ℝ :=
  (2 * c / img - 1) * Real.tan (radians fovDeg / 2)

/-- The ray through a pixel of a level camera. -/
noncomputable def viewingRay (pose : Pose ℝ) (cam : Camera ℝ) (cx cy : ℝ) : Ray :=
  .ofOffsets (radians pose.pitchDeg) (imageOffset cx cam.imgW cam.hFovDeg)
    (imageOffset cy cam.imgH cam.vFovDeg)

/-- A pixel in the image of a level rectilinear camera over flat ground, at least
0.1 degree below the horizon. -/
structure View where
  pose : Pose ℝ
  cam : Camera ℝ
  cx : ℝ
  cy : ℝ
  alt_pos : 0 < pose.altAglM
  pitch_nonneg : 0 ≤ pose.pitchDeg
  pitch_le : pose.pitchDeg ≤ 90
  imgW_pos : 0 < cam.imgW
  imgH_pos : 0 < cam.imgH
  hFov_pos : 0 < cam.hFovDeg
  hFov_lt : cam.hFovDeg < 180
  vFov_pos : 0 < cam.vFovDeg
  vFov_lt : cam.vFovDeg < 180
  cx_mem : 0 ≤ cx ∧ cx ≤ cam.imgW
  cy_mem : 0 ≤ cy ∧ cy ≤ cam.imgH
  dip_le : 1 / 10 ≤ (viewingRay pose cam cx cy).dip

namespace View

variable (v : View)

noncomputable def ray : Ray := viewingRay v.pose v.cam v.cx v.cy

noncomputable def heading : ℝ := radians v.pose.headingDeg

/-- The point north of the camera where the viewing ray meets the ground. -/
noncomputable def north : ℝ := v.ray.north v.pose.altAglM v.heading

noncomputable def east : ℝ := v.ray.east v.pose.altAglM v.heading

/-- The projection returns a fix at the range and the azimuth of the point where the
viewing ray meets the ground. -/
def Meets (posCepM attSigmaDeg : Option ℝ) (terrainIters : ℤ) : Prop :=
  ∃ fix azimuth, projectToGround v.pose v.cam v.cx v.cy 0 none posCepM attSigmaDeg terrainIters =
      .ok (some fix) ∧
    fix.rangeM = √(v.north ^ 2 + v.east ^ 2) ∧
    v.north = fix.rangeM * Real.cos (radians azimuth) ∧
    v.east = fix.rangeM * Real.sin (radians azimuth) ∧
    destination v.pose.lat v.pose.lon azimuth fix.rangeM = .ok (fix.lat, fix.lon)

end View

/-! ## The code on real numbers -/

section Real

variable (pose : Pose ℝ) (cam : Camera ℝ) (cx cy : ℝ)

theorem offsets_level : offsets cam cx cy 0 =
    .ok (degrees (Real.arctan (imageOffset cx cam.imgW cam.hFovDeg)),
      degrees (Real.arctan (imageOffset cy cam.imgH cam.vFovDeg))) := by
  simp [offsets, angleOffAxis, fraction, imageOffset, pure, Except.pure, bind,
    Except.bind]

theorem destination_ok (lat lon bearingDeg rangeM : ℝ) :
    ∃ p, destination lat lon bearingDeg rangeM = .ok p := by
  simp [destination, guardedCos, pure, Except.pure, bind, Except.bind]

theorem circularError_ok (rangeM : ℝ) (posCepM attSigmaDeg : Option ℝ) :
    ∃ ce, circularError rangeM posCepM attSigmaDeg = .ok ce := by
  cases posCepM <;> cases attSigmaDeg <;>
    simp [circularError, groundError, pure, Except.pure, bind, Except.bind]

variable {pose cam cx cy} {depression azimuth : ℝ}

/-- A line of sight near the horizon or above it is dropped. -/
theorem projectToGround_near_horizon (halt : 0 < pose.altAglM)
    (hsight : lineOfSight pose (degrees (Real.arctan (imageOffset cx cam.imgW cam.hFovDeg)))
      (degrees (Real.arctan (imageOffset cy cam.imgH cam.vFovDeg))) = (depression, azimuth))
    (hdep : depression < 1 / 10) (posCepM attSigmaDeg : Option ℝ) (terrainIters : ℤ) :
    projectToGround pose cam cx cy 0 none posCepM attSigmaDeg terrainIters = .ok none := by
  simp only [projectToGround, offsets_level, bind, Except.bind, hsight]
  have hlow : ¬ 10⁻¹ ≤ depression := by linarith
  simp [minDepressionDeg, not_le.mpr halt, hlow, pure, Except.pure]

/-- Any other one is projected to its range and its azimuth. -/
theorem projectToGround_fix (halt : 0 < pose.altAglM)
    (hsight : lineOfSight pose (degrees (Real.arctan (imageOffset cx cam.imgW cam.hFovDeg)))
      (degrees (Real.arctan (imageOffset cy cam.imgH cam.vFovDeg))) = (depression, azimuth))
    (hdep : 1 / 10 ≤ depression) (posCepM attSigmaDeg : Option ℝ) (terrainIters : ℤ) :
    ∃ fix, projectToGround pose cam cx cy 0 none posCepM attSigmaDeg terrainIters =
        .ok (some fix) ∧
      fix.rangeM = pose.altAglM / Real.tan (radians depression) ∧
      destination pose.lat pose.lon azimuth fix.rangeM = .ok (fix.lat, fix.lon) := by
  obtain ⟨⟨lat, lon⟩, hdest⟩ := destination_ok pose.lat pose.lon azimuth
    (pose.altAglM / Real.tan (radians depression))
  obtain ⟨ce, hce⟩ := circularError_ok (pose.altAglM / Real.tan (radians depression)) posCepM
    attSigmaDeg
  refine ⟨⟨lat, lon, ce, _⟩, ?_, rfl, hdest⟩
  simp only [projectToGround, offsets_level, bind, Except.bind, hsight]
  have hlow : ¬ depression < 10⁻¹ := by linarith
  simp [minDepressionDeg, not_le.mpr halt, hlow, groundRange, pure, Except.pure, bind, Except.bind,
    hdest, hce]

end Real

/-! ## Where the two agree -/

namespace View

variable (v : View)

/-- The angle of the pixel below the horizon in the vertical plane of the axis, past a
right angle beyond straight down. -/
noncomputable def slant : ℝ :=
  radians v.pose.pitchDeg + Real.arctan (imageOffset v.cy v.cam.imgH v.cam.vFovDeg)

/-- The length of the ray without its component to the right. -/
noncomputable def inPlane : ℝ := √(1 + imageOffset v.cy v.cam.imgH v.cam.vFovDeg ^ 2)

theorem inPlane_pos : 0 < v.inPlane := by
  unfold inPlane
  positivity

theorem ahead_eq : v.ray.ahead = v.inPlane * Real.cos v.slant := Ray.ahead_ofOffsets _ _ _

theorem down_eq : v.ray.down = v.inPlane * Real.sin v.slant := Ray.down_ofOffsets _ _ _

theorem down_pos : 0 < v.ray.down := Ray.down_pos_of_dip (lt_of_lt_of_le (by norm_num) v.dip_le)

theorem sin_slant_pos : 0 < Real.sin v.slant := by
  have h := v.down_pos
  rw [down_eq] at h
  exact pos_of_mul_pos_right h v.inPlane_pos.le

theorem slant_pos : 0 < v.slant := by
  by_contra h
  have hpitch : 0 ≤ radians v.pose.pitchDeg :=
    mul_nonneg v.pitch_nonneg (by positivity)
  have harctan := Real.neg_pi_div_two_lt_arctan (imageOffset v.cy v.cam.imgH v.cam.vFovDeg)
  refine v.sin_slant_pos.not_ge (Real.sin_nonpos_of_nonpos_of_neg_pi_le (not_lt.mp h) ?_)
  unfold slant
  linarith [Real.pi_pos]

theorem slant_lt_pi : v.slant < Real.pi := by
  have hpitch : radians v.pose.pitchDeg ≤ Real.pi / 2 := by
    rw [real_radians]
    nlinarith [v.pitch_le, Real.pi_pos]
  have harctan := Real.arctan_lt_pi_div_two (imageOffset v.cy v.cam.imgH v.cam.vFovDeg)
  unfold slant
  linarith

/-- The line of sight of the code lies in the vertical plane of the axis, turned by
the yaw of the pixel. -/
theorem exists_lineOfSight (yawOff : ℝ) : ∃ depression azimuth,
    lineOfSight v.pose yawOff
        (degrees (Real.arctan (imageOffset v.cy v.cam.imgH v.cam.vFovDeg))) =
      (degrees depression, azimuth) ∧
    0 < depression ∧ depression ≤ Real.pi / 2 ∧
    Real.sin depression = Real.sin v.slant ∧
    Real.cos depression = |Real.cos v.slant| ∧
    (yawOff = 0 →
      Real.cos v.slant * Real.cos v.heading = |Real.cos v.slant| * Real.cos (radians azimuth) ∧
      Real.cos v.slant * Real.sin v.heading = |Real.cos v.slant| * Real.sin (radians azimuth)) := by
  have hslant : v.pose.pitchDeg +
      degrees (Real.arctan (imageOffset v.cy v.cam.imgH v.cam.vFovDeg)) = degrees v.slant := by
    simp only [slant, real_degrees, real_radians]
    field_simp
  have hright : (90 : ℝ) = degrees (Real.pi / 2) := by
    rw [real_degrees]
    field_simp
    norm_num
  have hscale : (0 : ℝ) < 180 / Real.pi := by positivity
  simp only [lineOfSight, hslant, real_lit, real_lt]
  push_cast
  by_cases h : v.slant ≤ Real.pi / 2
  · have hcos : 0 ≤ Real.cos v.slant :=
      Real.cos_nonneg_of_neg_pi_div_two_le_of_le (by linarith [v.slant_pos, Real.pi_pos]) h
    have hfold : ¬ 90 < degrees v.slant := by
      rw [hright, not_lt]
      exact mul_le_mul_of_nonneg_right h hscale.le
    refine ⟨v.slant, _, by simp [hfold]; rfl, v.slant_pos, h, rfl, (abs_of_nonneg hcos).symm, ?_⟩
    rintro rfl
    rw [abs_of_nonneg hcos, add_zero, cos_radians_mod, sin_radians_mod]
    exact ⟨rfl, rfl⟩
  · have hcos : Real.cos v.slant < 0 :=
      Real.cos_neg_of_pi_div_two_lt_of_lt (not_le.mp h) (by linarith [v.slant_lt_pi, Real.pi_pos])
    have hfold : 90 < degrees v.slant := by
      rw [hright]
      exact mul_lt_mul_of_pos_right (not_le.mp h) hscale
    have hflat : 180 - degrees v.slant = degrees (Real.pi - v.slant) := by
      simp only [real_degrees]
      field_simp
    have hback : radians (180 : ℝ) = Real.pi := by
      rw [real_radians]
      ring
    refine ⟨Real.pi - v.slant, mod (mod (v.pose.headingDeg + yawOff) 360 + 180) 360,
      by simp [hfold, hflat], by linarith [v.slant_lt_pi], by linarith [not_le.mp h],
      Real.sin_pi_sub _, by rw [Real.cos_pi_sub, abs_of_neg hcos], ?_⟩
    rintro rfl
    rw [abs_of_neg hcos, add_zero, cos_radians_mod, sin_radians_mod, radians_add, hback,
      Real.cos_add_pi, Real.sin_add_pi, cos_radians_mod, sin_radians_mod, neg_mul_neg, neg_mul_neg]
    exact ⟨rfl, rfl⟩

/-- The range to the ground point, off the axis by the component to the right. -/
theorem range_eq : √(v.north ^ 2 + v.east ^ 2) =
    v.pose.altAglM / v.ray.down * √(v.ray.ahead ^ 2 + v.ray.right ^ 2) :=
  Ray.sqrt_north_sq_add_east_sq v.alt_pos v.down_pos _

/-- The range that the code computes leaves that component out. -/
theorem alt_div_tan {depression : ℝ} (hsin : Real.sin depression = Real.sin v.slant)
    (hcos : Real.cos depression = |Real.cos v.slant|) :
    v.pose.altAglM / Real.tan depression = v.pose.altAglM / v.ray.down * |v.ray.ahead| := by
  have hplane := v.inPlane_pos
  rw [Real.tan_eq_sin_div_cos, hsin, hcos, div_div_eq_mul_div, ahead_eq, down_eq, abs_mul,
    abs_of_pos hplane, div_mul_eq_mul_div, mul_left_comm, mul_div_mul_left _ _ hplane.ne']

/-- On the centre column the ray dips by the folded angle. -/
theorem dip_eq (hright : v.ray.right = 0) {depression : ℝ} (hpos : 0 < depression)
    (hle : depression ≤ Real.pi / 2) (hsin : Real.sin depression = Real.sin v.slant) :
    v.ray.dip = degrees depression := by
  have hlen : v.ray.length = v.inPlane := by
    have hsq : v.ray.ahead ^ 2 + v.ray.right ^ 2 + v.ray.down ^ 2 = v.inPlane ^ 2 := by
      rw [hright, ahead_eq, down_eq]
      linear_combination v.inPlane ^ 2 * Real.sin_sq_add_cos_sq v.slant
    rw [Ray.length, hsq, Real.sqrt_sq v.inPlane_pos.le]
  rw [Ray.dip, hlen, down_eq, mul_div_cancel_left₀ _ v.inPlane_pos.ne', ← hsin,
    Real.arcsin_sin (by linarith [Real.pi_pos]) hle]

theorem right_eq_zero_iff : v.ray.right = 0 ↔ 2 * v.cx = v.cam.imgW := by
  have hhalf : 0 < radians v.cam.hFovDeg / 2 ∧ radians v.cam.hFovDeg / 2 < Real.pi / 2 := by
    rw [real_radians]
    constructor
    · have := v.hFov_pos
      positivity
    · nlinarith [v.hFov_lt, Real.pi_pos]
  have htan : Real.tan (radians v.cam.hFovDeg / 2) ≠ 0 :=
    (Real.tan_pos_of_pos_of_lt_pi_div_two hhalf.1 hhalf.2).ne'
  have hW : (v.cam.imgW : ℝ) ≠ 0 := Int.cast_ne_zero.mpr v.imgW_pos.ne'
  change (2 * v.cx / v.cam.imgW - 1) * _ = 0 ↔ _
  rw [mul_eq_zero, or_iff_left htan, sub_eq_zero, div_eq_one_iff_eq hW]

/-- A right range needs a ray without a component to the right: the code leaves that
component out of the range. -/
theorem Meets.right_eq_zero {v : View} {posCepM attSigmaDeg : Option ℝ} {terrainIters : ℤ}
    (h : v.Meets posCepM attSigmaDeg terrainIters) : v.ray.right = 0 := by
  obtain ⟨depression, azimuth, hsight, -, -, hsin, hcos, -⟩ := v.exists_lineOfSight
    (degrees (Real.arctan (imageOffset v.cx v.cam.imgW v.cam.hFovDeg)))
  obtain ⟨fix, -, hfix, hmeets, -⟩ := h
  by_cases hdep : degrees depression < 1 / 10
  · rw [projectToGround_near_horizon v.alt_pos hsight hdep] at hfix
    cases hfix
  · obtain ⟨fix', hfix', hrange, -⟩ := projectToGround_fix v.alt_pos hsight (not_lt.mp hdep)
      posCepM attSigmaDeg terrainIters
    rw [hfix'] at hfix
    cases hfix
    rw [hrange, radians_degrees, v.alt_div_tan hsin hcos, range_eq] at hmeets
    have habs := mul_left_cancel₀ (div_pos v.alt_pos v.down_pos).ne' hmeets
    have hsq : |v.ray.ahead| ^ 2 = v.ray.ahead ^ 2 + v.ray.right ^ 2 := by
      rw [habs, Real.sq_sqrt (by positivity)]
    simpa using hsq

/-- On the centre column the vertical plane of the axis holds the ray, and the code
rotates it rightly. -/
theorem meets_of_right_eq_zero (hright : v.ray.right = 0) (posCepM attSigmaDeg : Option ℝ)
    (terrainIters : ℤ) : v.Meets posCepM attSigmaDeg terrainIters := by
  obtain ⟨depression, azimuth, hsight, hpos, hle, hsin, hcos, hyaw⟩ := v.exists_lineOfSight
    (degrees (Real.arctan (imageOffset v.cx v.cam.imgW v.cam.hFovDeg)))
  have hdep : 1 / 10 ≤ degrees depression := by
    rw [← v.dip_eq hright hpos hle hsin]
    exact v.dip_le
  obtain ⟨fix, hfix, hrange, hdest⟩ := projectToGround_fix v.alt_pos hsight hdep
    posCepM attSigmaDeg terrainIters
  rw [radians_degrees, v.alt_div_tan hsin hcos] at hrange
  have hcentre : degrees (Real.arctan (imageOffset v.cx v.cam.imgW v.cam.hFovDeg)) = 0 := by
    rw [show imageOffset v.cx v.cam.imgW v.cam.hFovDeg = 0 from hright, Real.arctan_zero,
      real_degrees, zero_mul]
  obtain ⟨hnorth, heast⟩ := hyaw hcentre
  refine ⟨fix, azimuth, hfix, ?_, ?_, ?_, hdest⟩
  · rw [hrange, range_eq, hright]
    simp [Real.sqrt_sq_eq_abs]
  · rw [hrange, north, Ray.north, hright, ahead_eq, abs_mul, abs_of_pos v.inPlane_pos]
    linear_combination v.pose.altAglM / v.ray.down * v.inPlane * hnorth
  · rw [hrange, east, Ray.east, hright, ahead_eq, abs_mul, abs_of_pos v.inPlane_pos]
    linear_combination v.pose.altAglM / v.ray.down * v.inPlane * heast

/-- The projection is the pinhole intersection on the centre column of the image, and
on no other. -/
theorem projectToGround_is_intersection_iff (posCepM attSigmaDeg : Option ℝ) (terrainIters : ℤ) :
    v.Meets posCepM attSigmaDeg terrainIters ↔ 2 * v.cx = v.cam.imgW := by
  rw [← right_eq_zero_iff]
  exact ⟨Meets.right_eq_zero, fun h ↦ v.meets_of_right_eq_zero h _ _ _⟩

theorem right_angle_lt : (90 : ℝ) < 180 := by norm_num

/-- A survey camera that looks straight down from 10 m, at a pixel three quarters to the
right: the ray meets the ground 5 m to the right of the camera. -/
noncomputable def survey : View where
  pose := { lat := 0, lon := 0, altAglM := 10, headingDeg := 0, pitchDeg := 90 }
  cam := { imgW := 4, imgH := 4, hFovDeg := 90, vFovDeg := 90 }
  cx := 3
  cy := 2
  alt_pos := by norm_num
  pitch_nonneg := by norm_num
  pitch_le := le_rfl
  imgW_pos := by norm_num
  imgH_pos := by norm_num
  hFov_pos := by norm_num
  hFov_lt := right_angle_lt
  vFov_pos := by norm_num
  vFov_lt := right_angle_lt
  cx_mem := by norm_num
  cy_mem := by norm_num
  dip_le := by
    have hright : radians (90 : ℝ) = Real.pi / 2 := by
      rw [real_radians]
      ring
    have hray : viewingRay ⟨0, 0, 10, 0, 90⟩ ⟨4, 4, 90, 90⟩ 3 2 = ⟨0, 1 / 2, 1⟩ := by
      rw [viewingRay, imageOffset, imageOffset, hright, div_div, show (2 : ℝ) * 2 = 4 by norm_num,
        Real.tan_pi_div_four, Ray.ofOffsets]
      norm_num
    rw [hray]
    apply Ray.dip_of_tenth
    rw [Ray.length, div_le_div_iff₀ (by norm_num) (by positivity)]
    have hlen : √((0 : ℝ) ^ 2 + (1 / 2) ^ 2 + 1 ^ 2) ≤ 10 :=
      Real.sqrt_le_iff.mpr (by norm_num)
    linarith

theorem nadir_side_pixel_misplaced : ¬ survey.Meets none none 2 := by
  intro h
  have hcol := survey.right_eq_zero_iff.mp h.right_eq_zero
  norm_num [survey] at hcol

end View

end DroneComms.Cv
