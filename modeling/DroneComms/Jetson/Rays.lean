import DroneComms.Jetson.LandingTarget
import DroneComms.Lib.Tangent

/-!
# The rays of the two frames

`publish` describes a detection by two angles in the frame `body_frd`, and by a point on
the ground in `local_ned`, for which `project_pixel_to_ned` has angles of its own.  Both
are looked at in exact arithmetic.
-/

namespace DroneComms.Jetson

open Py Py.Arith

/-! ## One side of the image -/

/-- The middle of an image side, or one of its ends. -/
def CentreOrEdge (c : ℝ) (side : ℤ) : Prop := c = 0 ∨ c = side / 2.0 ∨ c = side

/-- The angle that `compute_angles` scales is the one that the projection takes. -/
theorem angle_eq_iff {side : ℤ} (hside : 0 < side) {fovRad : ℝ} (hfov : fovRad ∈ Set.Ioo 0 Real.pi)
    (c : ℝ) : (c / side - 1 / 2) * fovRad =
      Real.arctan ((2 * c / side - 1) * Real.tan (fovRad / 2)) ↔ CentreOrEdge c side := by
  have hpos : (0 : ℝ) < side := Int.cast_pos.mpr hside
  have hscaled : (c / side - 1 / 2) * fovRad = (2 * c / side - 1) * (fovRad / 2) := by ring
  rw [hscaled, eq_comm, Tangent.arctan_mul_tan_eq_iff (half_pos hfov.1) (by linarith [hfov.2])]
  refine or_congr ?_ (or_congr ?_ ?_)
  · rw [sub_eq_neg_self, div_eq_zero_iff]
    simp [hpos.ne']
  · rw [sub_eq_zero, div_eq_one_iff_eq hpos.ne']
    constructor
    · intro h
      norm_num
      linarith
    · rintro rfl
      norm_num
      ring
  · rw [sub_eq_iff_eq_add, div_eq_iff hpos.ne']
    constructor <;> intro h <;> linarith

/-! ## One detection -/

section

variable {s : LandingSettings ℝ} {d : Detection ℝ} {r : DetectionResult ℝ}

/-- The frames describe a detection by the same angles. -/
def SameRay (s : LandingSettings ℝ) (d : Detection ℝ) (r : DetectionResult ℝ) : Prop :=
  ∃ cx cy yawOff pitchOff, d.center = .ok (cx, cy) ∧
    offAxisRad ⟨r.width, r.height, s.fovXRad, s.fovYRad⟩ cx cy = .ok (yawOff, pitchOff) ∧
      ∀ timeUsec, ∃ msg, bodyFrd s d r timeUsec = .ok msg ∧ msg.angleX = yawOff ∧
        msg.angleY = pitchOff

theorem center_real (d : Detection ℝ) :
    d.center = .ok ((d.x1 + d.x2) / 2, (d.y1 + d.y2) / 2) := by
  simp [Detection.center, bind, Except.bind, pure, Except.pure]

theorem offAxisRad_real (cam : CameraFov ℝ) (cx cy : ℝ) : offAxisRad cam cx cy =
    .ok (Real.arctan ((2 * cx / cam.imgW - 1) * Real.tan (cam.hFovRad / 2)),
      Real.arctan ((2 * cy / cam.imgH - 1) * Real.tan (cam.vFovRad / 2))) := by
  simp [offAxisRad, angleOffAxisRad, bind, Except.bind, pure, Except.pure]

theorem bodyFrd_real (hW : r.width ≠ 0) (hH : r.height ≠ 0) (timeUsec : ℤ) :
    ∃ msg, bodyFrd s d r timeUsec = .ok msg ∧
      msg.angleX = ((d.x1 + d.x2) / 2 / r.width - 1 / 2) * s.fovXRad ∧
      msg.angleY = ((d.y1 + d.y2) / 2 / r.height - 1 / 2) * s.fovYRad := by
  simp [bodyFrd, computeAngles, center_real, ofSide, hW, hH, bind, Except.bind, pure, Except.pure]

/-- The rays are the same if the two angles are. -/
theorem sameRay_iff_angles (hW : r.width ≠ 0) (hH : r.height ≠ 0) :
    SameRay s d r ↔
      ((d.x1 + d.x2) / 2 / r.width - 1 / 2) * s.fovXRad =
          Real.arctan ((2 * ((d.x1 + d.x2) / 2) / r.width - 1) * Real.tan (s.fovXRad / 2)) ∧
        ((d.y1 + d.y2) / 2 / r.height - 1 / 2) * s.fovYRad =
          Real.arctan ((2 * ((d.y1 + d.y2) / 2) / r.height - 1) * Real.tan (s.fovYRad / 2)) := by
  constructor
  · rintro ⟨cx, cy, yawOff, pitchOff, hcenter, hoff, hbody⟩
    rw [center_real] at hcenter
    cases hcenter
    rw [offAxisRad_real] at hoff
    cases hoff
    obtain ⟨msg, hmsg, hx, hy⟩ := hbody 0
    obtain ⟨msg', hmsg', hx', hy'⟩ := bodyFrd_real (s := s) (d := d) hW hH 0
    cases hmsg.symm.trans hmsg'
    exact ⟨hx'.symm.trans hx, hy'.symm.trans hy⟩
  · rintro ⟨hx, hy⟩
    refine ⟨_, _, _, _, center_real d, offAxisRad_real _ _ _, fun timeUsec ↦ ?_⟩
    obtain ⟨msg, hmsg, hx', hy'⟩ := bodyFrd_real (s := s) (d := d) hW hH timeUsec
    exact ⟨msg, hmsg, hx'.trans hx, hy'.trans hy⟩

/-- **The two frames describe the same ray** exactly for a box in the middle of the image or,
along either side, on one of its edges. -/
theorem sameRay_iff_centreOrEdge (s : LandingSettings ℝ) (d : Detection ℝ) (r : DetectionResult ℝ)
    (hW : 0 < r.width) (hH : 0 < r.height) (hX : s.fovXRad ∈ Set.Ioo 0 Real.pi)
    (hY : s.fovYRad ∈ Set.Ioo 0 Real.pi) :
    SameRay s d r ↔ CentreOrEdge ((d.x1 + d.x2) / 2) r.width ∧
      CentreOrEdge ((d.y1 + d.y2) / 2) r.height := by
  rw [sameRay_iff_angles hW.ne' hH.ne', angle_eq_iff hW hX, angle_eq_iff hH hY]

/-- A camera of one radian, and a point in its image of four by four pixels. -/
def pointSettings : LandingSettings ℝ := { fovXRad := 1, fovYRad := 1 }

def point (x y : ℝ) : Detection ℝ where
  classId := 0
  className := "pad"
  confidence := 1
  x1 := x
  y1 := y
  x2 := x
  y2 := y

def pointResult : DetectionResult ℝ where
  detections := []
  width := 4
  height := 4

theorem sameRay_upper_edge : SameRay pointSettings (point 2.0 0) pointResult := by
  have hfov : (1 : ℝ) ∈ Set.Ioo 0 Real.pi := ⟨one_pos, by linarith [Real.two_le_pi]⟩
  refine (sameRay_iff_centreOrEdge pointSettings (point 2.0 0) pointResult (by decide) (by decide)
    hfov hfov).mpr ⟨.inr (.inl ?_), .inl ?_⟩
  · norm_num [point, pointResult]
  · norm_num [point]

/-- Half way between the middle and the right edge they differ. -/
theorem quarter_rays_differ : ¬∀ (s : LandingSettings ℝ) (d : Detection ℝ) (r : DetectionResult ℝ),
    0 < r.width → 0 < r.height → s.fovXRad ∈ Set.Ioo 0 Real.pi → s.fovYRad ∈ Set.Ioo 0 Real.pi →
      SameRay s d r := by
  intro h
  have hfov : (1 : ℝ) ∈ Set.Ioo 0 Real.pi := ⟨one_pos, by linarith [Real.two_le_pi]⟩
  have hsame := h pointSettings (point 3.0 2.0) pointResult (by decide) (by decide) hfov hfov
  rw [sameRay_iff_angles (by decide) (by decide)] at hsame
  have hedge := (angle_eq_iff (by decide) hfov _).mp hsame.1
  rcases hedge with hedge | hedge | hedge
  · norm_num [point] at hedge
  · norm_num [point, pointResult] at hedge
  · norm_num [point, pointResult] at hedge

end

end DroneComms.Jetson
