import Mathlib.Tactic
import DroneComms.Cv.Pinhole

/-!
# Pixels in local NED

`geometry/ned.py` of `jetson_yolo_gcs`: the cast of the ray through a pixel onto the
ground, relative to the vehicle.  It mirrors `project_to_ground` of `cv/geo.py`
without importing it, in radians where that takes degrees and in metres where that
gives a latitude and a longitude.
-/

namespace DroneComms.Jetson

open Py Py.Arith

variable {F : Type} [Arith F]

/-- Image size (px) and field of view (rad). -/
structure CameraFov (F : Type) where
  imgW : ℤ
  imgH : ℤ
  hFovRad : F
  vFovRad : F

/-- Target position relative to the vehicle (metres, down positive). -/
@[ext] structure NedOffset (F : Type) where
  northM : F
  eastM : F
  downM : F

/-- `_MIN_DEPRESSION_DEG`. -/
def minDepressionDeg : F := lit (1 / 10)

/-- `_angle_off_axis_rad`. -/
def angleOffAxisRad (frac fovRad : F) : Except MathError F := do
  return atan (frac * (← tan (← div fovRad (lit 2))))

/-- The angles of a pixel off the axis (rad). -/
def offAxisRad (cam : CameraFov F) (cx cy : F) : Except MathError (F × F) := do
  let yawOff ← angleOffAxisRad ((← div (lit 2 * cx) (← ofInt cam.imgW)) - lit 1) cam.hFovRad
  let pitchOff ← angleOffAxisRad ((← div (lit 2 * cy) (← ofInt cam.imgH)) - lit 1) cam.vFovRad
  return (yawOff, pitchOff)

/-- The rotation by the roll. -/
def rolled (rollDeg yawOff pitchOff : F) : Except MathError (F × F) := do
  if !isZero rollDeg then
    let r := radians rollDeg
    let cosR ← cos r
    let sinR ← sin r
    return (yawOff * cosR - pitchOff * sinR, yawOff * sinR + pitchOff * cosR)
  else return (yawOff, pitchOff)

/-- The angles of a pixel off the axis (deg), rotated by the roll. -/
def offsetsDeg (cam : CameraFov F) (cx cy rollDeg : F) : Except MathError (F × F) := do
  let (yawOff, pitchOff) ← offAxisRad cam cx cy
  rolled rollDeg (degrees yawOff) (degrees pitchOff)

/-- A ray past straight down is reflected onto the opposite azimuth. -/
def reflected (depressionDeg azimuth : F) : F × F :=
  if lt (lit 90) depressionDeg then (lit 180 - depressionDeg, mod (azimuth + lit 180) 360)
  else (depressionDeg, azimuth)

/-- Project pixel `(cx, cy)` onto the ground; none if it cannot be. -/
def projectPixelToNed (cam : CameraFov F) (cx cy altAglM headingDeg pitchDeg rollDeg : F) :
    Except MathError (Option (NedOffset F)) := do
  if le altAglM (lit 0) || decide (cam.imgW ≤ 0) || decide (cam.imgH ≤ 0) then return none
  let (yawOff, pitchOff) ← offsetsDeg cam cx cy rollDeg
  let (depressionDeg, azimuth) :=
    reflected (pitchDeg + pitchOff) (mod (headingDeg + yawOff) 360)
  if lt depressionDeg minDepressionDeg then return none
  let groundRange ← div altAglM (← tan (radians depressionDeg))
  let az := radians azimuth
  return some {
    northM := groundRange * (← cos az)
    eastM := groundRange * (← sin az)
    downM := altAglM }

/-! ## The copy in `cv/geo.py` -/

/-- The camera of `cv/geo.py`, with its fields of view in radians. -/
def CameraFov.ofDegrees (cam : Cv.Camera F) : CameraFov F where
  imgW := cam.imgW
  imgH := cam.imgH
  hFovRad := radians cam.hFovDeg
  vFovRad := radians cam.vFovDeg

@[simp] theorem imgW_ofDegrees (cam : Cv.Camera F) :
    (CameraFov.ofDegrees cam).imgW = cam.imgW := rfl

@[simp] theorem imgH_ofDegrees (cam : Cv.Camera F) :
    (CameraFov.ofDegrees cam).imgH = cam.imgH := rfl

/-- The two copies compute the same angles, in whatever arithmetic. -/
theorem offsetsDeg_ofDegrees (cam : Cv.Camera F) (cx cy rollDeg : F) :
    offsetsDeg (.ofDegrees cam) cx cy rollDeg = Cv.offsets cam cx cy rollDeg := by
  simp only [offsetsDeg, offAxisRad, rolled, Cv.offsets, angleOffAxisRad, Cv.angleOffAxis, Cv.fraction,
    CameraFov.ofDegrees, bind_assoc, pure_bind]
  cases isZero rollDeg <;> rfl

/-- And they look along the same line. -/
theorem reflected_eq_lineOfSight (pose : Cv.Pose F) (yawOff pitchOff : F) :
    reflected (pose.pitchDeg + pitchOff) (mod (pose.headingDeg + yawOff) 360) =
      Cv.lineOfSight pose yawOff pitchOff := rfl

/-! ## The two on real numbers -/

/-- The fix lies where the offset leads from the camera, by the equirectangular
displacement. -/
structure Displaced (pose : Cv.Pose ℝ) (n : NedOffset ℝ) (f : Cv.GroundFix ℝ) : Prop where
  lat : f.lat = pose.lat + degrees (n.northM / Cv.earthRM)
  lon : f.lon = pose.lon + degrees (n.eastM / (Cv.earthRM * Real.cos (radians pose.lat)))
  range : f.rangeM = √(n.northM ^ 2 + n.eastM ^ 2)
  down : n.downM = pose.altAglM

theorem guardedCos_of_le {lat : ℝ} (h : 1e-6 ≤ |Real.cos (radians lat)|) :
    Cv.guardedCos lat = .ok (Real.cos (radians lat)) := by
  have habs : Arith.abs (Real.cos (radians lat)) = |Real.cos (radians lat)| := by
    unfold Arith.abs
    split_ifs with hneg
    · exact (abs_of_neg (by simpa using hneg)).symm
    · exact (abs_of_nonneg (by simpa using hneg)).symm
  have hlow : ¬ |Real.cos (radians lat)| < ((10 : ℝ) ^ 6)⁻¹ := by
    norm_num at h ⊢
    exact h
  simp [Cv.guardedCos, habs, hlow, bind, Except.bind, pure, Except.pure]

/-- A point at a bearing and a range, by its two legs. -/
theorem destination_of_le {lat : ℝ} (h : 1e-6 ≤ |Real.cos (radians lat)|)
    (lon bearingDeg rangeM : ℝ) :
    Cv.destination lat lon bearingDeg rangeM = .ok
      (lat + degrees (rangeM * Real.cos (radians bearingDeg) / Cv.earthRM),
        lon + degrees (rangeM * Real.sin (radians bearingDeg) /
          (Cv.earthRM * Real.cos (radians lat)))) := by
  simp [Cv.destination, guardedCos_of_le h, bind, Except.bind, pure, Except.pure]

/-- A depression that is neither near the horizon nor past straight down has a
range that is not negative. -/
theorem range_nonneg {alt depression : ℝ} (halt : 0 < alt) (hlow : 1 / 10 ≤ depression)
    (hhigh : depression ≤ 90) : 0 ≤ alt / Real.tan (radians depression) := by
  have hpi := Real.pi_pos
  apply div_nonneg halt.le
  apply Real.tan_nonneg_of_nonneg_of_le_pi_div_two <;> rw [real_radians]
  · exact mul_nonneg (by linarith) (by positivity)
  · nlinarith

theorem depression_le (pose : Cv.Pose ℝ) (yawOff pitchOff : ℝ) :
    (Cv.lineOfSight pose yawOff pitchOff).1 ≤ 90 := by
  simp only [Cv.lineOfSight, real_lit, real_lt]
  push_cast
  split_ifs with h
  · have hpast := of_decide_eq_true h
    dsimp only
    linarith
  · exact not_lt.mp fun hpast ↦ h (decide_eq_true hpast)

/-- The range is the length of its two legs. -/
theorem sqrt_legs {range : ℝ} (h : 0 ≤ range) (θ : ℝ) :
    range = √((range * Real.cos θ) ^ 2 + (range * Real.sin θ) ^ 2) := by
  have hsq : (range * Real.cos θ) ^ 2 + (range * Real.sin θ) ^ 2 = range ^ 2 := by
    linear_combination range ^ 2 * Real.sin_sq_add_cos_sq θ
  rw [hsq, Real.sqrt_sq h]

/-- No angle of a pixel fails to be computed. -/
theorem offsets_ok (cam : Cv.Camera ℝ) (cx cy rollDeg : ℝ) :
    ∃ yawOff pitchOff, Cv.offsets cam cx cy rollDeg = .ok (yawOff, pitchOff) := by
  simp only [Cv.offsets, Cv.angleOffAxis, Cv.fraction, real_ofInt, real_div, real_tan, real_cos,
    real_sin, bind, Except.bind, pure, Except.pure]
  split_ifs <;> exact ⟨_, _, rfl⟩

section Sight

variable {pose : Cv.Pose ℝ} {cam : Cv.Camera ℝ} {cx cy rollDeg yawOff pitchOff depression azimuth : ℝ}

/-- The offset of a line of sight. -/
theorem projectPixelToNed_eq (hW : 0 < cam.imgW) (hH : 0 < cam.imgH)
    (hoff : Cv.offsets cam cx cy rollDeg = .ok (yawOff, pitchOff))
    (hsight : Cv.lineOfSight pose yawOff pitchOff = (depression, azimuth)) :
    projectPixelToNed (.ofDegrees cam) cx cy pose.altAglM pose.headingDeg pose.pitchDeg rollDeg =
      .ok (if pose.altAglM ≤ 0 ∨ depression < 1 / 10 then none else
        let range := pose.altAglM / Real.tan (radians depression)
        some ⟨range * Real.cos (radians azimuth), range * Real.sin (radians azimuth),
          pose.altAglM⟩) := by
  simp only [projectPixelToNed, offsetsDeg_ofDegrees, hoff, reflected_eq_lineOfSight, hsight,
    bind, Except.bind]
  by_cases halt : pose.altAglM ≤ 0
  · simp [halt, pure, Except.pure]
  · by_cases hdep : depression < 10⁻¹ <;>
      simp [halt, hdep, hW.not_ge, hH.not_ge, minDepressionDeg, pure, Except.pure]

/-- The fix of a line of sight over flat ground. -/
theorem projectToGround_eq (hcos : 1e-6 ≤ |Real.cos (radians pose.lat)|)
    (hoff : Cv.offsets cam cx cy rollDeg = .ok (yawOff, pitchOff))
    (hsight : Cv.lineOfSight pose yawOff pitchOff = (depression, azimuth))
    (posCepM attSigmaDeg : Option ℝ) (terrainIters : ℤ) : ∃ ce,
    Cv.projectToGround pose cam cx cy rollDeg none posCepM attSigmaDeg terrainIters =
      .ok (if pose.altAglM ≤ 0 ∨ depression < 1 / 10 then none else
        let range := pose.altAglM / Real.tan (radians depression)
        some ⟨pose.lat + degrees (range * Real.cos (radians azimuth) / Cv.earthRM),
          pose.lon + degrees (range * Real.sin (radians azimuth) /
            (Cv.earthRM * Real.cos (radians pose.lat))), ce, range⟩) := by
  obtain ⟨ce, hce⟩ := Cv.circularError_ok (pose.altAglM / Real.tan (radians depression)) posCepM
    attSigmaDeg
  refine ⟨ce, ?_⟩
  simp only [Cv.projectToGround, hoff, hsight, bind, Except.bind]
  by_cases halt : pose.altAglM ≤ 0
  · simp [halt, pure, Except.pure]
  · by_cases hdep : depression < 10⁻¹ <;>
      simp [halt, hdep, Cv.minDepressionDeg, Cv.groundRange, destination_of_le hcos, hce, bind,
        Except.bind, pure, Except.pure]

end Sight

/-- The two projections miss the ground together, and otherwise hit it at the same
point. -/
theorem projections_agree (pose : Cv.Pose ℝ) (cam : Cv.Camera ℝ) (cx cy rollDeg : ℝ)
    (posCepM attSigmaDeg : Option ℝ) (terrainIters : ℤ) (hW : 0 < cam.imgW) (hH : 0 < cam.imgH)
    (hcos : 1e-6 ≤ |Real.cos (radians pose.lat)|) :
    ∃ ned fix,
      projectPixelToNed (.ofDegrees cam) cx cy pose.altAglM pose.headingDeg pose.pitchDeg
        rollDeg = .ok ned ∧
      Cv.projectToGround pose cam cx cy rollDeg none posCepM attSigmaDeg terrainIters = .ok fix ∧
      (ned = none ↔ fix = none) ∧ ∀ n ∈ ned, ∀ f ∈ fix, Displaced pose n f := by
  obtain ⟨yawOff, pitchOff, hoff⟩ := offsets_ok cam cx cy rollDeg
  obtain ⟨⟨depression, azimuth⟩, hsight⟩ : ∃ l, Cv.lineOfSight pose yawOff pitchOff = l := ⟨_, rfl⟩
  have hned := projectPixelToNed_eq hW hH hoff hsight
  obtain ⟨ce, hfix⟩ := projectToGround_eq hcos hoff hsight posCepM attSigmaDeg terrainIters
  refine ⟨_, _, hned, hfix, ?_⟩
  split_ifs with hmiss
  · simp
  · refine ⟨by simp, ?_⟩
    rintro _ ⟨⟩ _ ⟨⟩
    rw [not_or, not_le, not_lt] at hmiss
    have hhigh : depression ≤ 90 := by
      have hle := depression_le pose yawOff pitchOff
      rwa [hsight] at hle
    exact ⟨rfl, rfl, sqrt_legs (range_nonneg hmiss.1 hmiss.2 hhigh) _, rfl⟩

/-- A level camera at the equator, looking at its left upper corner. -/
theorem projections_agree_corner : ∃ ned fix,
    projectPixelToNed (.ofDegrees ⟨4, 4, 90, 60⟩) 0 0 10 0 45 (0 : ℝ) = .ok ned ∧
    Cv.projectToGround ⟨0, 0, 10, 0, 45⟩ ⟨4, 4, 90, 60⟩ 0 0 0 none none none 2 = .ok fix ∧
    (ned = none ↔ fix = none) ∧ ∀ n ∈ ned, ∀ f ∈ fix, Displaced ⟨0, 0, 10, 0, 45⟩ n f := by
  refine projections_agree ⟨0, 0, 10, 0, 45⟩ ⟨4, 4, 90, 60⟩ 0 0 0 none none 2 (by decide)
    (by decide) ?_
  rw [real_radians, zero_mul, Real.cos_zero, abs_one]
  norm_num

end DroneComms.Jetson
