import DroneComms.Jetson.LandingTarget
import DroneComms.Py.Extended

/-!
# What keeps a bogus position from being sent

`publish` in the frame `local_ned`, with poses that hold whatever the AGL source and the
ATTITUDE have said.  The guards of `project_pixel_to_ned` are tests that reject, and
`nan` passes each of them.
-/

namespace DroneComms.Jetson

open Py Py.Arith
open Extended (fin nan posInf negInf)

/-! ## The projection behind its angles -/

section

variable {F : Type} [Arith F]

/-- The end of `project_pixel_to_ned`: where a line of sight meets the ground. -/
def landing (altAglM depressionDeg azimuth : F) : Except MathError (Option (NedOffset F)) := do
  if lt depressionDeg minDepressionDeg then return none
  let groundRange ← div altAglM (← tan (radians depressionDeg))
  let az := radians azimuth
  return some {
    northM := groundRange * (← cos az)
    eastM := groundRange * (← sin az)
    downM := altAglM }

theorem projectPixelToNed_eq_bind {cam : CameraFov F} {cx cy alt heading pitch roll : F}
    (halt : le alt (lit 0) = false) (hW : 0 < cam.imgW) (hH : 0 < cam.imgH) :
    projectPixelToNed cam cx cy alt heading pitch roll = offsetsDeg cam cx cy roll >>= fun o ↦
      landing alt (reflected (pitch + o.2) (mod (heading + o.1) 360)).1
        (reflected (pitch + o.2) (mod (heading + o.1) 360)).2 := by
  have hguard : (le alt (lit 0) || decide (cam.imgW ≤ 0) || decide (cam.imgH ≤ 0)) = false := by
    simp [halt, hW, hH]
  simp only [projectPixelToNed, hguard, landing]
  rfl

/-- Without a height or an image there is nothing to send. -/
theorem projectPixelToNed_eq_none {cam : CameraFov F} {cx cy alt heading pitch roll : F}
    (h : le alt (lit 0) = true ∨ cam.imgW ≤ 0 ∨ cam.imgH ≤ 0) :
    projectPixelToNed cam cx cy alt heading pitch roll = .ok none := by
  have hguard : (le alt (lit 0) || decide (cam.imgW ≤ 0) || decide (cam.imgH ≤ 0)) = true := by
    simpa [or_assoc] using h
  simp only [projectPixelToNed, hguard]
  rfl

end

/-! ## Lines of sight -/

/-- A position that can be flown to: finite, below the vehicle, and no farther away than where
the lowest usable ray meets the ground. -/
def Usable (north east down : Extended) : Prop :=
  ∃ n e d : ℝ, north = fin n ∧ east = fin e ∧ down = fin d ∧ 0 < d ∧
    √(n ^ 2 + e ^ 2) ≤ d / Real.tan (radians 0.1)

/-- Where the ray meets the ground, if it dips by `depression` before it is reflected. -/
def HitsGround (depression : ℝ) : Prop := 0.1 ≤ depression ∧ depression ≤ 179.9

/-- A finite depression is reflected into the front. -/
theorem reflected_fin (depression : ℝ) (azimuth : Extended) :
    reflected (fin depression) azimuth =
      if 90 < depression then (fin (180 - depression), mod (azimuth + fin 180) 360)
      else (fin depression, azimuth) := by
  simp [reflected]

/-- The heading decides whether the azimuth is a number. -/
theorem azimuth_fin (depression heading yaw : ℝ) : ∃ azimuth,
    (reflected (fin depression) (mod (fin heading + fin yaw) 360)).2 = fin azimuth := by
  rw [reflected_fin]
  split_ifs
  · exact ⟨_, rfl⟩
  · exact ⟨_, rfl⟩

theorem azimuth_nan {heading : Extended} (h : ∀ a, heading ≠ fin a) (depression yaw : ℝ) :
    (reflected (fin depression) (mod (heading + fin yaw) 360)).2 = nan := by
  have hmod : mod (heading + fin yaw) 360 = (nan : Extended) := by
    cases heading with
    | fin a => exact absurd rfl (h a)
    | nan | posInf | negInf => rfl
  rw [reflected_fin, hmod]
  split_ifs <;> simp

theorem minDepressionDeg_eq : (minDepressionDeg : Extended) = fin 0.1 := by
  show fin ((1 / 10 : ℚ) : ℝ) = fin 0.1
  norm_num

/-- A ray that does not hit the ground has no landing. -/
theorem landing_eq_none {depression : ℝ} (h : ¬HitsGround depression) (alt azimuth : Extended) :
    landing alt (reflected (fin depression) azimuth).1 (reflected (fin depression) azimuth).2 =
      .ok none := by
  have hlow : lt (reflected (fin depression) azimuth).1 minDepressionDeg = true := by
    rw [reflected_fin, minDepressionDeg_eq]
    rw [HitsGround, not_and_or, not_le, not_le] at h
    split_ifs with hpast
    · rw [Extended.lt_fin, decide_eq_true_eq]
      rcases h with h | h <;> linarith
    · rw [Extended.lt_fin, decide_eq_true_eq]
      rcases h with h | h <;> linarith
  rw [landing, hlow]
  rfl

/-- And one that hits it has a depression between the horizon and straight down. -/
theorem depression_of_hits {depression : ℝ} (h : HitsGround depression) (azimuth : Extended) :
    ∃ d : ℝ, (reflected (fin depression) azimuth).1 = fin d ∧ 0.1 ≤ d ∧ d ≤ 90 := by
  rw [reflected_fin]
  obtain ⟨hlow, hhigh⟩ := h
  split_ifs with hpast
  · exact ⟨180 - depression, rfl, by linarith, by linarith⟩
  · exact ⟨depression, rfl, hlow, not_lt.mp hpast⟩

/-! ## Landings -/

theorem landing_eq_some {F : Type} [Arith F] {alt depression azimuth t range c s : F}
    (hlow : lt depression minDepressionDeg = false) (ht : tan (radians depression) = .ok t)
    (hrange : div alt t = .ok range) (hc : cos (radians azimuth) = .ok c)
    (hs : sin (radians azimuth) = .ok s) :
    landing alt depression azimuth = .ok (some ⟨range * c, range * s, alt⟩) := by
  simp [landing, hlow, ht, hrange, hc, hs, bind, Except.bind, pure, Except.pure]

section Angles

variable {d : ℝ}

theorem radians_mem (hlow : 0.1 ≤ d) (hhigh : d < 90) :
    radians d ∈ Set.Ioo (-(Real.pi / 2)) (Real.pi / 2) := by
  have hpi := Real.pi_pos
  rw [real_radians]
  constructor <;> nlinarith

theorem radians_pos (hlow : 0.1 ≤ d) : 0 < radians d := by
  rw [real_radians]
  exact mul_pos (by linarith) (by positivity)

/-- A usable depression has a positive tangent, infinite straight down. -/
theorem tan_usable (hlow : 0.1 ≤ d) (hhigh : d ≤ 90) :
    tan (radians (fin d)) = .ok posInf ∨
      (tan (radians (fin d)) = .ok (fin (Real.tan (radians d))) ∧
        Real.tan (radians 0.1) ≤ Real.tan (radians d)) := by
  rw [Extended.radians_fin]
  rcases hhigh.eq_or_lt with rfl | hhigh
  · have hright : radians (90 : ℝ) = Real.pi / 2 := by
      rw [real_radians]
      ring
    refine .inl ?_
    show Except.ok (Extended.tan _) = _
    rw [hright, Extended.tan, if_pos Real.cos_pi_div_two, Real.sin_pi_div_two, sign_one]
    rfl
  · have hmem := radians_mem hlow hhigh
    refine .inr ⟨Extended.tan_fin (Real.cos_pos_of_mem_Ioo hmem).ne', ?_⟩
    refine Real.strictMonoOn_tan.monotoneOn (radians_mem le_rfl (by norm_num)) hmem ?_
    rw [real_radians, real_radians]
    gcongr

theorem tan_lowest_pos : 0 < Real.tan (radians 0.1) := by
  have hmem := radians_mem le_rfl (by norm_num : (0.1 : ℝ) < 90)
  exact Real.tan_pos_of_pos_of_lt_pi_div_two (radians_pos le_rfl) hmem.2

theorem not_low (hlow : 0.1 ≤ d) : lt (fin d) minDepressionDeg = false := by
  rw [minDepressionDeg_eq, Extended.lt_fin, decide_eq_false_iff_not, not_lt]
  exact hlow

/-- The ground range of a usable depression. -/
theorem range_fin {alt : ℝ} (halt : 0 < alt) (hlow : 0.1 ≤ d) (hhigh : d ≤ 90) :
    ∃ t r, tan (radians (fin d)) = .ok t ∧ div (fin alt) t = .ok (fin r) ∧
      0 ≤ r ∧ r ≤ alt / Real.tan (radians 0.1) := by
  have hlowest := tan_lowest_pos
  rcases tan_usable hlow hhigh with ht | ⟨ht, hle⟩
  · exact ⟨_, 0, ht, rfl, le_rfl, (div_pos halt hlowest).le⟩
  · have hpos := hlowest.trans_le hle
    exact ⟨_, _, ht, Extended.div_fin alt hpos.ne', (div_pos halt hpos).le,
      div_le_div_of_nonneg_left halt.le hlowest hle⟩

/-- Whatever the height is, there is a range. -/
theorem exists_range (alt : Extended) (hlow : 0.1 ≤ d) (hhigh : d ≤ 90) :
    ∃ t range, tan (radians (fin d)) = .ok t ∧ div alt t = .ok range := by
  rcases tan_usable hlow hhigh with ht | ⟨ht, hle⟩
  · refine ⟨_, alt.div posInf, ht, ?_⟩
    rfl
  · refine ⟨_, alt.div (fin (Real.tan (radians d))), ht, ?_⟩
    have hne : ¬Real.tan (radians d) ≤ 0 := (tan_lowest_pos.trans_le hle).not_ge
    show (if decide (Real.tan (radians d) ≤ 0) && _ then _ else _) = _
    rw [decide_eq_false hne]
    rfl

end Angles

/-- An azimuth as the projection computes it is a number or `nan`. -/
theorem azimuth_cases (pitch heading yaw : Extended) :
    (reflected pitch (mod (heading + yaw) 360)).2 = nan ∨
      ∃ a, (reflected pitch (mod (heading + yaw) 360)).2 = fin a := by
  have hmod : ∀ x : Extended, mod x 360 = nan ∨ ∃ a, mod x 360 = fin a := by
    intro x
    cases x with
    | fin a => exact .inr ⟨_, rfl⟩
    | nan | posInf | negInf => exact .inl rfl
  unfold reflected
  split_ifs
  · exact hmod _
  · exact hmod _

/-- The finite case. -/
theorem landing_usable {alt d a : ℝ} (halt : 0 < alt) (hlow : 0.1 ≤ d) (hhigh : d ≤ 90) :
    ∃ p, landing (fin alt) (fin d) (fin a) = .ok (some p) ∧ Usable p.northM p.eastM p.downM := by
  obtain ⟨t, r, ht, hr, hpos, hle⟩ := range_fin halt hlow hhigh
  refine ⟨_, landing_eq_some (not_low hlow) ht hr rfl rfl, _, _, _, rfl, rfl, rfl, halt, ?_⟩
  rw [← sqrt_legs hpos]
  exact hle

/-- In the others something is sent that is no position. -/
theorem landing_bogus {alt depression azimuth : Extended}
    (hdepression : depression = nan ∨ ∃ d, depression = fin d ∧ 0.1 ≤ d ∧ d ≤ 90)
    (hazimuth : azimuth = nan ∨ ∃ a, azimuth = fin a)
    (hspecial : depression = nan ∨ azimuth = nan ∨ ∀ h, alt ≠ fin h) :
    ∃ p, landing alt depression azimuth = .ok (some p) ∧ ¬Usable p.northM p.eastM p.downM := by
  obtain ⟨c, s, hc, hs, hcnan⟩ : ∃ c s, cos (radians azimuth) = .ok c ∧
      sin (radians azimuth) = .ok s ∧ (azimuth = nan → c = nan) := by
    rcases hazimuth with rfl | ⟨a, rfl⟩
    · exact ⟨nan, nan, rfl, rfl, fun _ ↦ rfl⟩
    · exact ⟨_, _, rfl, rfl, fun h ↦ by cases h⟩
  obtain ⟨t, range, hlow, ht, hrange, hrnan⟩ : ∃ t range, lt depression minDepressionDeg = false ∧
      tan (radians depression) = .ok t ∧ div alt t = .ok range ∧
        (depression = nan → range = nan) := by
    rcases hdepression with rfl | ⟨d, rfl, hlow, hhigh⟩
    · exact ⟨nan, nan, Extended.nan_lt _, rfl, Extended.div_nan alt, fun _ ↦ rfl⟩
    · obtain ⟨t, range, ht, hrange⟩ := exists_range alt hlow hhigh
      exact ⟨t, range, not_low hlow, ht, hrange, fun h ↦ by cases h⟩
  refine ⟨_, landing_eq_some hlow ht hrange hc hs, ?_⟩
  rintro ⟨n, e, h, hn, -, hh, -⟩
  rcases hspecial with hnan | hnan | halt
  · rw [hrnan hnan, Extended.nan_mul] at hn
    cases hn
  · rw [hcnan hnan, Extended.mul_nan] at hn
    cases hn
  · exact halt h hh

/-! ## The views of a camera -/

/-- A finite bounding box in an image, and the camera. -/
structure View where
  x1 : ℝ
  y1 : ℝ
  x2 : ℝ
  y2 : ℝ
  width : ℕ
  height : ℕ
  fovXRad : ℝ
  fovYRad : ℝ
  fovX_mem : fovXRad ∈ Set.Ioo 0 Real.pi
  fovY_mem : fovYRad ∈ Set.Ioo 0 Real.pi

/-- The angle off the axis (deg) of a pixel, along one side of the image. -/
noncomputable def pixelAngle (c : ℝ) (side : ℕ) (fovRad : ℝ) : ℝ :=
  degrees (Real.arctan ((2.0 * c / side - 1) * Real.tan (fovRad / 2.0)))

namespace View

variable (v : View)

/-- The middle of the box. -/
noncomputable def center : ℝ × ℝ := ((v.x1 + v.x2) / 2.0, (v.y1 + v.y2) / 2.0)

/-- How far the ray through the middle turns away from the axis to the side, in a camera that
rolls by `roll`. -/
noncomputable def rayYaw (roll : ℝ) : ℝ :=
  pixelAngle v.center.1 v.width v.fovXRad * Real.cos (radians roll) -
    pixelAngle v.center.2 v.height v.fovYRad * Real.sin (radians roll)

/-- And how far down. -/
noncomputable def rayPitch (roll : ℝ) : ℝ :=
  pixelAngle v.center.1 v.width v.fovXRad * Real.sin (radians roll) +
    pixelAngle v.center.2 v.height v.fovYRad * Real.cos (radians roll)

/-- The camera of the projection. -/
noncomputable def cam : CameraFov Extended := ⟨v.width, v.height, fin v.fovXRad, fin v.fovYRad⟩

/-- Nothing bogus comes of a pose: it has no height, or there is no image; or the roll is a number
and the ray misses the ground, or hits it from a finite height under a finite heading. -/
def Harmless (pose : VehiclePose Extended) : Prop :=
  le pose.altAglM (fin 0) = true ∨ v.width = 0 ∨ v.height = 0 ∨
    ∃ roll, pose.rollDeg = fin roll ∧ pose.pitchDeg ≠ nan ∧
      ∀ pitch, pose.pitchDeg = fin pitch → HitsGround (pitch + v.rayPitch roll) →
        (∃ alt, pose.altAglM = fin alt) ∧ ∃ heading, pose.headingDeg = fin heading

end View

/-- The tangent of half a field of view. -/
theorem angleOffAxisRad_fin {fovRad : ℝ} (h : fovRad ∈ Set.Ioo 0 Real.pi) (frac : ℝ) :
    angleOffAxisRad (fin frac) (fin fovRad) =
      .ok (fin (Real.arctan (frac * Real.tan (fovRad / 2.0)))) := by
  have hhalf : Real.cos (fovRad / 2) ≠ 0 := by
    apply ne_of_gt
    apply Real.cos_pos_of_mem_Ioo
    constructor <;> linarith [h.1, h.2, Real.pi_pos]
  have hdiv : div (fin fovRad) (lit 2 : Extended) = .ok (fin (fovRad / 2)) := by
    rw [Extended.lit_eq, Extended.div_fin _ (by norm_num)]
    norm_num
  rw [angleOffAxisRad, hdiv, Py.ok_bind, Extended.tan_fin hhalf]
  norm_num [pure, Except.pure, bind, Except.bind]

/-- The fraction of an image side. -/
theorem fraction_fin {side : ℕ} (h : side ≠ 0) (c : ℝ) :
    div (lit 2 * fin c) (fin ((side : ℤ) : ℝ)) = .ok (fin (2.0 * c / side)) := by
  have hside : ((side : ℤ) : ℝ) ≠ 0 := by exact_mod_cast h
  rw [Extended.lit_eq, Extended.fin_mul, Extended.div_fin _ hside]
  norm_num

section Offsets

variable {v : View}

/-- The angles of a view, up to the roll. -/
theorem offsetsDeg_eq (hW : v.width ≠ 0) (hH : v.height ≠ 0) (roll : Extended) :
    offsetsDeg v.cam (fin v.center.1) (fin v.center.2) roll =
      if !isZero roll then do
        let c ← cos (radians roll)
        let s ← sin (radians roll)
        return (fin (pixelAngle v.center.1 v.width v.fovXRad) * c -
            fin (pixelAngle v.center.2 v.height v.fovYRad) * s,
          fin (pixelAngle v.center.1 v.width v.fovXRad) * s +
            fin (pixelAngle v.center.2 v.height v.fovYRad) * c)
      else return (fin (pixelAngle v.center.1 v.width v.fovXRad),
        fin (pixelAngle v.center.2 v.height v.fovYRad)) := by
  have hx := angleOffAxisRad_fin v.fovX_mem (2.0 * v.center.1 / v.width - 1)
  have hy := angleOffAxisRad_fin v.fovY_mem (2.0 * v.center.2 / v.height - 1)
  simp only [offsetsDeg, offAxisRad, rolled, View.cam, Extended.ofInt_eq, Py.ok_bind,
    fraction_fin hW, fraction_fin hH, Extended.lit_eq (1 : ℚ), Rat.cast_one, Extended.fin_sub, hx, hy]
  rfl

theorem offsetsDeg_fin (hW : v.width ≠ 0) (hH : v.height ≠ 0) (roll : ℝ) :
    offsetsDeg v.cam (fin v.center.1) (fin v.center.2) (fin roll) =
      .ok (fin (v.rayYaw roll), fin (v.rayPitch roll)) := by
  rw [offsetsDeg_eq hW hH]
  by_cases hzero : roll = 0
  · subst hzero
    simp [isZero, View.rayYaw, View.rayPitch, real_radians, pure, Except.pure]
  · have hnot : isZero (fin roll) = false := by
      have : ¬(roll ≤ 0 ∧ 0 ≤ roll) := fun h ↦ hzero (le_antisymm h.1 h.2)
      simpa [isZero] using this
    simp [hnot, View.rayYaw, View.rayPitch, pure, Except.pure, bind, Except.bind]

/-- A roll that is `nan` takes both angles with it. -/
theorem offsetsDeg_nan (hW : v.width ≠ 0) (hH : v.height ≠ 0) :
    offsetsDeg v.cam (fin v.center.1) (fin v.center.2) nan = .ok (nan, nan) := by
  rw [offsetsDeg_eq hW hH]
  have hnot : isZero nan = false := rfl
  have hsub : ∀ x : Extended, nan - x = nan := by
    intro x
    cases x <;> rfl
  simp [hnot, hsub, pure, Except.pure, bind, Except.bind]

/-- An infinite roll has no cosine. -/
theorem offsetsDeg_infinite (hW : v.width ≠ 0) (hH : v.height ≠ 0) {roll : Extended}
    (h : roll = posInf ∨ roll = negInf) :
    offsetsDeg v.cam (fin v.center.1) (fin v.center.2) roll = .error (.python .valueError) := by
  rw [offsetsDeg_eq hW hH]
  rcases h with rfl | rfl
  · rfl
  · rfl

end Offsets

/-! ## The projection of a view -/

/-- A projection that leads to no bogus message. -/
def Sound (projected : Except MathError (Option (NedOffset Extended))) : Prop :=
  projected = .ok none ∨
    ∃ p, projected = .ok (some p) ∧ Usable p.northM p.eastM p.downM

theorem sound_none : Sound (.ok none) := .inl rfl

theorem not_sound_error (e : MathError) : ¬Sound (.error e) := by
  rintro (h | ⟨p, h, -⟩)
  · cases h
  · cases h

theorem sound_some {projected : Except MathError (Option (NedOffset Extended))}
    {p : NedOffset Extended} (h : projected = .ok (some p)) :
    Sound projected ↔ Usable p.northM p.eastM p.downM := by
  constructor
  · rintro (hnone | ⟨q, hq, hp⟩)
    · rw [h] at hnone
      cases hnone
    · rw [h] at hq
      cases hq
      exact hp
  · exact fun hp ↦ .inr ⟨p, h, hp⟩

section Projection

variable {v : View} {alt heading pitch roll : Extended}

/-- A projection that is not rejected at once. -/
theorem projection_eq (halt : le alt (fin 0) = false) (hW : v.width ≠ 0) (hH : v.height ≠ 0) :
    projectPixelToNed v.cam (fin v.center.1) (fin v.center.2) alt heading pitch roll =
      offsetsDeg v.cam (fin v.center.1) (fin v.center.2) roll >>= fun o ↦
        landing alt (reflected (pitch + o.2) (mod (heading + o.1) 360)).1
          (reflected (pitch + o.2) (mod (heading + o.1) 360)).2 := by
  apply projectPixelToNed_eq_bind
  · rw [Extended.lit_eq, Rat.cast_zero]
    exact halt
  · exact Int.natCast_pos.mpr (Nat.pos_of_ne_zero hW)
  · exact Int.natCast_pos.mpr (Nat.pos_of_ne_zero hH)

/-- A depression that is `nan` passes all tests. -/
theorem not_sound_nan (azimuth : Extended) (h : azimuth = nan ∨ ∃ a, azimuth = fin a) :
    ¬Sound (landing alt nan azimuth) := by
  obtain ⟨p, hp, hbogus⟩ := @landing_bogus alt nan azimuth (.inl rfl) h (.inl rfl)
  rwa [sound_some hp]

theorem reflected_nan (azimuth : Extended) : reflected nan azimuth = (nan, azimuth) := by
  simp [reflected]

/-- An infinite depression is above the horizon on either side. -/
theorem landing_infinite (h : pitch = posInf ∨ pitch = negInf) (yaw : ℝ) (azimuth : Extended) :
    landing alt (reflected (pitch + fin yaw) azimuth).1 (reflected (pitch + fin yaw) azimuth).2 =
      .ok none := by
  rcases h with rfl | rfl
  · rfl
  · rfl

/-- What becomes of a ray that hits the ground. -/
theorem sound_hits_iff (halt : le alt (fin 0) = false) {depression : ℝ}
    (hhits : HitsGround depression) (yaw : ℝ) :
    Sound (landing alt (reflected (fin depression) (mod (heading + fin yaw) 360)).1
      (reflected (fin depression) (mod (heading + fin yaw) 360)).2) ↔
        (∃ h, alt = fin h) ∧ ∃ a, heading = fin a := by
  obtain ⟨d, hd, hlow, hhigh⟩ := depression_of_hits hhits (mod (heading + fin yaw) 360)
  by_cases hfinite : (∃ h, alt = fin h) ∧ ∃ a, heading = fin a
  · refine iff_of_true ?_ hfinite
    obtain ⟨⟨h, rfl⟩, a, rfl⟩ := hfinite
    obtain ⟨azimuth, hazimuth⟩ := azimuth_fin depression a yaw
    have hpos : 0 < h := by simpa using halt
    rw [hd, hazimuth]
    exact .inr (landing_usable hpos hlow hhigh)
  · refine iff_of_false ?_ hfinite
    have hspecial : (reflected (fin depression) (mod (heading + fin yaw) 360)).2 = nan ∨
        ∀ h, alt ≠ fin h := by
      rcases not_and_or.mp hfinite with halt | hheading
      · exact .inr fun h hh ↦ halt ⟨h, hh⟩
      · exact .inl (azimuth_nan (fun a ha ↦ hheading ⟨a, ha⟩) depression yaw)
    obtain ⟨p, hp, hbogus⟩ := landing_bogus (.inr ⟨d, hd, hlow, hhigh⟩)
      (azimuth_cases (fin depression) heading (fin yaw)) (.inr hspecial)
    rwa [sound_some hp]

/-- What becomes of a ray with finite offsets from the axis of the camera. -/
theorem sound_rolled_iff (halt : le alt (fin 0) = false) (yaw rise : ℝ) :
    Sound (landing alt (reflected (pitch + fin rise) (mod (heading + fin yaw) 360)).1
      (reflected (pitch + fin rise) (mod (heading + fin yaw) 360)).2) ↔
        pitch ≠ nan ∧ ∀ p, pitch = fin p → HitsGround (p + rise) →
          (∃ h, alt = fin h) ∧ ∃ a, heading = fin a := by
  cases pitch with
  | nan =>
      rw [Extended.nan_add]
      have hazimuth := azimuth_cases nan heading (fin yaw)
      rw [reflected_nan] at hazimuth ⊢
      refine iff_of_false (not_sound_nan _ hazimuth) ?_
      rintro ⟨hnan, -⟩
      exact hnan rfl
  | posInf =>
      rw [landing_infinite (.inl rfl)]
      exact iff_of_true sound_none (by simp)
  | negInf =>
      rw [landing_infinite (.inr rfl)]
      exact iff_of_true sound_none (by simp)
  | fin p =>
      rw [Extended.fin_add]
      by_cases hhits : HitsGround (p + rise)
      · rw [sound_hits_iff halt hhits]
        simp [hhits]
      · rw [landing_eq_none hhits]
        exact iff_of_true sound_none (by simp [hhits])

/-- The projection of a view is sound exactly for the harmless poses. -/
theorem sound_iff_harmless (v : View) (pose : VehiclePose Extended) :
    Sound (projectPixelToNed v.cam (fin v.center.1) (fin v.center.2) pose.altAglM pose.headingDeg
      pose.pitchDeg pose.rollDeg) ↔ v.Harmless pose := by
  obtain ⟨alt, heading, pitch, roll⟩ := pose
  by_cases hreject : le alt (fin 0) = true ∨ v.width = 0 ∨ v.height = 0
  · have hnone : le alt (lit 0) = true ∨ v.cam.imgW ≤ 0 ∨ v.cam.imgH ≤ 0 := by
      rw [Extended.lit_eq, Rat.cast_zero]
      refine hreject.imp_right (Or.imp ?_ ?_)
      · exact fun h ↦ by simp [View.cam, h]
      · exact fun h ↦ by simp [View.cam, h]
    rw [projectPixelToNed_eq_none hnone]
    refine iff_of_true sound_none ?_
    rcases hreject with h | h | h
    · exact .inl h
    · exact .inr (.inl h)
    · exact .inr (.inr (.inl h))
  · obtain ⟨halt, hW, hH⟩ : le alt (fin 0) = false ∧ v.width ≠ 0 ∧ v.height ≠ 0 := by
      simpa [not_or] using hreject
    have hcondition : v.Harmless ⟨alt, heading, pitch, roll⟩ ↔ ∃ r, roll = fin r ∧ pitch ≠ nan ∧
        ∀ p, pitch = fin p → HitsGround (p + v.rayPitch r) →
          (∃ h, alt = fin h) ∧ ∃ a, heading = fin a := by
      simp [View.Harmless, halt, hW, hH]
    rw [hcondition, projection_eq halt hW hH]
    cases roll with
    | posInf =>
        rw [offsetsDeg_infinite hW hH (.inl rfl)]
        exact iff_of_false (not_sound_error _) (by rintro ⟨r, ⟨⟩, -⟩)
    | negInf =>
        rw [offsetsDeg_infinite hW hH (.inr rfl)]
        exact iff_of_false (not_sound_error _) (by rintro ⟨r, ⟨⟩, -⟩)
    | nan =>
        rw [offsetsDeg_nan hW hH, Py.ok_bind, Extended.add_nan, reflected_nan]
        refine iff_of_false (not_sound_nan _ ?_) (by rintro ⟨r, ⟨⟩, -⟩)
        rw [Extended.add_nan]
        exact .inl rfl
    | fin r =>
        rw [offsetsDeg_fin hW hH, Py.ok_bind, sound_rolled_iff halt]
        simp

end Projection

/-! ## Calls of `publish` -/

namespace View

variable (v : View)

/-- The settings of the camera. -/
noncomputable def settings (m : MavlinkSettings) : LandingSettings Extended :=
  { m with fovXRad := fin v.fovXRad, fovYRad := fin v.fovYRad }

/-- The detection of the box. -/
def detection (classId : ℤ) (className : String) (confidence : Extended) : Detection Extended where
  classId := classId
  className := className
  confidence := confidence
  x1 := fin v.x1
  y1 := fin v.y1
  x2 := fin v.x2
  y2 := fin v.y2

/-- The result of its image. -/
def result (detections : List (Detection Extended)) : DetectionResult Extended where
  detections := detections
  width := v.width
  height := v.height

end View

namespace LinkState

variable {X E : Type}

/-- Behind a gate that has looked at the clock. -/
def gated (l : Link Extended X E) (w : LinkState Extended E) : LinkState Extended E :=
  if w.bridge.heartbeat.isSome then { w with env := (l.now w.env).2 } else w

/-- The call of `publish` comes to the pose source, which answers with `pose`, and what is sent
goes out. -/
structure Working (m : MavlinkSettings) (l : Link Extended X E) (w : LinkState Extended E)
    (captureT : Extended) (pose : Option (VehiclePose Extended)) : Prop where
  enabled : m.enableLandingTarget = true
  frame : m.frame = .localNed
  fresh : ∀ monitor ∈ w.bridge.heartbeat, (monitor.report (l.now w.env).1).fresh = true
  connected : ((w.gated l).opened l).1 = .ok true
  stamped : ∃ t, (l.timeUsec captureT ((w.gated l).opened l).2.env).1 = .ok t
  answered :
    (l.latestPose (l.timeUsec captureT ((w.gated l).opened l).2.env).2).1 = .ok pose
  sent : ∀ msg, (l.landingTargetSend msg
    (l.latestPose (l.timeUsec captureT ((w.gated l).opened l).2.env).2).2).1 = .ok ()

/-- A call of `publish` sends a usable position or returns `False`. -/
def Guarded (w : LinkState Extended E) (q : Except X Bool × LinkState Extended E) : Prop :=
  (q.1 = .ok false ∧ q.2.calls = w.calls) ∨
    (q.1 = .ok true ∧ ∃ msg position, q.2.calls = msg :: w.calls ∧ msg.frame = 1 ∧
      msg.position = some position ∧ position.positionValid = 1 ∧
        Usable position.x position.y position.z)

variable {m : MavlinkSettings} {l : Link Extended X E} {w : LinkState Extended E}
  {captureT : Extended} {pose : Option (VehiclePose Extended)}

/-- What `publish` comes to where everything works. -/
theorem publish_eq (h : Working m l w captureT pose) (v : View) (d : Detection Extended)
    (r : DetectionResult Extended) : ∃ t w', w'.calls = w.calls ∧
      (∀ msg, (l.landingTargetSend msg w'.env).1 = .ok ()) ∧
        w.publish (v.settings m) l d r captureT =
          sendLocalNed (v.settings m) l w' d r t (.ok pose) := by
  obtain ⟨t, ht⟩ := h.stamped
  have hcalls : ((w.gated l).opened l).2.calls = w.calls := by
    have hopened := opened_opened (w := w.gated l) (l := l)
    have hgated : (w.gated l).calls = w.calls := by
      unfold gated
      split_ifs <;> rfl
    rw [← hgated]
    cases hq : (w.gated l).opened l with
    | mk result w' =>
        rw [hq] at hopened
        cases hopened with
        | connection _ hconnected => exact hconnected.calls
        | failed _ _ _ | nothing _ _ => rfl
  refine ⟨t, { ((w.gated l).opened l).2 with env :=
    (l.latestPose (l.timeUsec captureT ((w.gated l).opened l).2.env).2).2 }, hcalls, h.sent, ?_⟩
  have hpublish : w.publish (v.settings m) l d r captureT =
      publishFresh (v.settings m) l (w.gated l) d r captureT := by
    have henabled : (v.settings m).enableLandingTarget = true := h.enabled
    simp only [publish, henabled, gated]
    cases hmonitor : w.bridge.heartbeat with
    | none => rfl
    | some monitor => simp [h.fresh monitor hmonitor]
  have hframe : (v.settings m).frame = .localNed := h.frame
  rw [hpublish, publishFresh, h.connected]
  simp only [publishOpened, ht, sendFrame, hframe, h.answered]

/-- The message of a view is that of its projection. -/
theorem localNed_view (v : View) (classId : ℤ) (className : String) (confidence : Extended)
    (detections : List (Detection Extended)) (pose : VehiclePose Extended) (t : ℤ) :
    localNed (v.settings m) (v.detection classId className confidence) (v.result detections)
        pose t =
      (projectPixelToNed v.cam (fin v.center.1) (fin v.center.2) pose.altAglM pose.headingDeg
        pose.pitchDeg pose.rollDeg).map (Option.map fun ned ↦
          { timeUsec := t, frame := 1, angleX := lit 0, angleY := lit 0, distance := lit 0,
            sizeX := lit 0, sizeY := lit 0,
            position := some { x := ned.northM, y := ned.eastM, z := ned.downM } }) := by
  have hhalf : ∀ a : ℝ, div (fin a) (lit 2 : Extended) = .ok (fin (a / 2.0)) := by
    intro a
    rw [Extended.lit_eq, Extended.div_fin _ (by norm_num)]
    norm_num
  have hcenter : (v.detection classId className confidence).center =
      .ok (fin v.center.1, fin v.center.2) := by
    simp only [Detection.center, View.detection, Extended.fin_add, hhalf]
    rfl
  simp only [localNed, hcenter, Py.ok_bind]
  rfl

/-- A call is guarded if the projection is sound. -/
theorem guarded_iff_sound (v : View) (classId : ℤ) (className : String) (confidence : Extended)
    (detections : List (Detection Extended)) (h : Working m l w captureT pose) :
    Guarded w (w.publish (v.settings m) l (v.detection classId className confidence)
      (v.result detections) captureT) ↔ ∀ p ∈ pose, Sound (projectPixelToNed v.cam
        (fin v.center.1) (fin v.center.2) p.altAglM p.headingDeg p.pitchDeg p.rollDeg) := by
  obtain ⟨t, w', hcalls, hsent, hpublish⟩ :=
    publish_eq h v (v.detection classId className confidence) (v.result detections)
  rw [hpublish]
  cases pose with
  | none => exact iff_of_true (.inl ⟨rfl, hcalls⟩) (by simp)
  | some pose =>
      simp only [Option.mem_some_iff, forall_eq']
      rw [sendLocalNed, localNed_view]
      cases projectPixelToNed v.cam (fin v.center.1) (fin v.center.2) pose.altAglM
        pose.headingDeg pose.pitchDeg pose.rollDeg with
      | error e =>
          refine iff_of_false ?_ (not_sound_error e)
          rintro (⟨hq, -⟩ | ⟨hq, -⟩)
          · cases hq
          · cases hq
      | ok ned =>
          cases ned with
          | none => exact iff_of_true (.inl ⟨rfl, hcalls⟩) sound_none
          | some ned =>
              rw [sound_some rfl]
              simp only [Except.map, Option.map_some, sendMessage, hsent, messageSent]
              constructor
              · rintro (⟨hq, -⟩ | ⟨-, msg, position, hmsg, -, hposition, -, husable⟩)
                · cases hq
                · obtain ⟨rfl, -⟩ := List.cons.inj hmsg
                  cases hposition
                  exact husable
              · intro husable
                exact .inr ⟨rfl, _, _, congrArg (_ :: ·) hcalls, rfl, rfl, rfl, husable⟩

/-- **No position is bogus** exactly for the poses that are harmless to the view. -/
theorem guarded_iff_harmless (v : View) (classId : ℤ) (className : String) (confidence : Extended)
    (detections : List (Detection Extended)) (h : Working m l w captureT pose) :
    Guarded w (w.publish (v.settings m) l (v.detection classId className confidence)
      (v.result detections) captureT) ↔ ∀ p ∈ pose, v.Harmless p := by
  rw [guarded_iff_sound v classId className confidence detections h]
  exact forall₂_congr fun p _ ↦ sound_iff_harmless v p

end LinkState

/-! ## A camera that looks straight down -/

theorem one_mem_fov : (1 : ℝ) ∈ Set.Ioo 0 Real.pi := ⟨one_pos, by linarith [Real.two_le_pi]⟩

namespace View

/-- A point in the middle of a small image. -/
noncomputable def middle : View where
  x1 := 1
  y1 := 1
  x2 := 1
  y2 := 1
  width := 2
  height := 2
  fovXRad := 1
  fovYRad := 1
  fovX_mem := one_mem_fov
  fovY_mem := one_mem_fov

theorem pixelAngle_middle : pixelAngle middle.center.2 middle.height middle.fovYRad = 0 := by
  norm_num [pixelAngle, center, middle, real_degrees]

theorem rayPitch_middle : middle.rayPitch 0 = 0 := by
  rw [rayPitch, pixelAngle_middle, real_radians]
  simp

end View

namespace LinkState

/-- A link with one pose, on which everything works. -/
def steady (pose : VehiclePose Extended) : Link Extended MathError Unit where
  now _ := (0, ())
  connect _ := (.ok true, ())
  recvMatch _ := (.ok none, ())
  timeUsec _ _ := (.ok 0, ())
  latestPose _ := (.ok (some pose), ())
  landingTargetSend _ _ := (.ok (), ())
  noConnection := .zeroDivisionError
  ofMath e := e

/-- Landing targets in the local frame. -/
def enabled : MavlinkSettings := { enableLandingTarget := true, frame := .localNed }

/-- A bridge without a gate. -/
def ungated : LinkState Extended Unit := { bridge := { heartbeat := none }, env := () }

theorem working_steady (pose : VehiclePose Extended) :
    Working enabled (steady pose) ungated (fin 0) (some pose) where
  enabled := rfl
  frame := rfl
  fresh := by simp [ungated]
  connected := rfl
  stamped := ⟨0, rfl⟩
  answered := rfl
  sent _ := rfl

/-- Ten metres above the point. -/
theorem guarded_ten_metres :
    Guarded ungated (ungated.publish (View.middle.settings enabled)
      (steady ⟨fin 10, fin 0, fin 90, fin 0⟩) (View.middle.detection 0 "pad" (fin 1))
      (View.middle.result []) (fin 0)) := by
  refine (guarded_iff_harmless View.middle 0 "pad" (fin 1) [] (working_steady _)).mpr ?_
  rintro _ ⟨⟩
  exact .inr (.inr (.inr ⟨0, rfl, nofun, fun _ _ _ ↦ ⟨⟨10, rfl⟩, 0, rfl⟩⟩))

/-- A height that is `nan` is sent as a position. -/
theorem nan_height_is_sent :
    ¬∀ (v : View) (classId : ℤ) (className : String) (confidence : Extended)
      (detections : List (Detection Extended)) (m : MavlinkSettings)
      (l : Link Extended MathError Unit) (w : LinkState Extended Unit) (captureT : Extended)
      (pose : Option (VehiclePose Extended)), Working m l w captureT pose →
        Guarded w (w.publish (v.settings m) l (v.detection classId className confidence)
          (v.result detections) captureT) := by
  intro h
  have hguarded := h View.middle 0 "pad" (fin 1) [] enabled (steady ⟨nan, fin 0, fin 90, fin 0⟩)
    ungated (fin 0) _ (working_steady _)
  rw [guarded_iff_sound View.middle 0 "pad" (fin 1) [] (working_steady _)] at hguarded
  have hharmless := (sound_iff_harmless View.middle _).mp (hguarded _ rfl)
  rcases hharmless with halt | hwidth | hheight | ⟨roll, hroll, -, hsight⟩
  · cases halt
  · cases hwidth
  · cases hheight
  · cases hroll
    have hhits : HitsGround (90 + View.middle.rayPitch 0) := by
      rw [View.rayPitch_middle]
      constructor <;> norm_num
    obtain ⟨alt, halt⟩ := (hsight 90 rfl hhits).1
    cases halt

end LinkState

end DroneComms.Jetson
