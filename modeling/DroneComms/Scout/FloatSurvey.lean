import DroneComms.Py.Math
import DroneComms.Scout.MissionFile

/-!
# The planner as it runs

`plan_boustrophedon` of `scout/survey.py` over any arithmetic.  Its loop raises a variable by
steps, so that rounding decides how many transects there are and whether the loop ends at all:
the model bounds its rounds.  Whatever the arithmetic does, a path that comes out of the loop is
numbered from 0 on, which is what the two mission files need to agree.
-/

namespace DroneComms.Scout

open Py (PyFloat Arith MathError)
open Lib

/-- What planning a survey raises, in any arithmetic. -/
inductive PlanError where
  /-- `side_overlap must be in [0, 1)`. -/
  | sideOverlap
  /-- A waypoint that is not a coordinate. -/
  | validation
  | math (e : MathError)

/-! ## The loop -/

section

variable {F W E : Type} [Arith F] (waypointAt : ℕ → F → F → Except E W)

/-- The turn points of a transect, there or back. -/
def turnPoints (umin umax : F) (forward : Bool) (seq : ℕ) (v : F) : Except E (List W) := do
  let first ← waypointAt seq (if forward then umin else umax) v
  let second ← waypointAt (seq + 1) (if forward then umax else umin) v
  return [first, second]

/-- The loop over the transects; `none` if it has not ended after so many rounds. -/
def transectLoop (umin umax rowStep stop : F) :
    ℕ → F → Bool → ℕ → Option (Except E (List W))
  | 0, _, _, _ => none
  | rounds + 1, v, forward, seq =>
      if Arith.le v stop then
        match turnPoints waypointAt umin umax forward seq v with
        | .error e => some (.error e)
        | .ok ends =>
            (transectLoop umin umax rowStep stop rounds (v + rowStep) (!forward) (seq + 2)).map
              (Except.map (ends ++ ·))
      else some (.ok [])

variable {waypointAt} {umin umax rowStep stop v : F} {forward : Bool} {seq rounds : ℕ}

omit [Arith F] in
/-- Two waypoints come out of a transect, with the next two numbers. -/
theorem turnPoints_eq_ok {ends : List W}
    (h : turnPoints waypointAt umin umax forward seq v = .ok ends) :
    ∃ first second u u', ends = [first, second] ∧ waypointAt seq u v = .ok first ∧
      waypointAt (seq + 1) u' v = .ok second := by
  obtain ⟨first, hfirst, h⟩ := Py.bind_eq_ok.mp h
  obtain ⟨second, hsecond, h⟩ := Py.bind_eq_ok.mp h
  cases h
  exact ⟨first, second, _, _, rfl, hfirst, hsecond⟩

/-- **What the loop emits is numbered** from `seq` on, whatever the arithmetic does. -/
theorem numbered_of_transectLoop (number : W → ℤ)
    (hnumber : ∀ seq u v w, waypointAt seq u v = .ok w → number w = seq) {path : List W}
    (h : transectLoop waypointAt umin umax rowStep stop rounds v forward seq = some (.ok path))
    {k : ℕ} {w : W} (hw : path[k]? = some w) : number w = seq + k := by
  induction rounds generalizing v forward seq path k with
  | zero => cases h
  | succ rounds ih =>
      rw [transectLoop] at h
      split at h
      · split at h
        · cases h
        · rename_i ends hends
          obtain ⟨first, second, u, u', rfl, hfirst, hsecond⟩ := turnPoints_eq_ok hends
          obtain ⟨outcome, hloop, h⟩ := Option.map_eq_some_iff.mp h
          obtain ⟨rest, rfl, rfl⟩ : ∃ rest, outcome = .ok rest ∧ first :: second :: rest = path := by
            cases outcome with
            | error e => cases h
            | ok rest => exact ⟨rest, rfl, Except.ok.inj h⟩
          match k with
          | 0 =>
              cases hw
              exact (hnumber _ _ _ _ hfirst).trans (add_zero _).symm
          | 1 =>
              cases hw
              exact (hnumber _ _ _ _ hsecond).trans (by push_cast; rfl)
          | k + 2 =>
              rw [ih hloop hw]
              push_cast
              ring
      · cases h
        cases hw

end

/-- In exact arithmetic the loop ends, and has gone through the transects of the path. -/
theorem transectLoop_real (frame : LocalFrame) (altAglM umin umax : ℝ) {step : ℝ} (hstep : 0 < step)
    {v stop : ℝ} {rounds : ℕ} (hrounds : (steps hstep v stop).length < rounds) (forward : Bool)
    (seq : ℕ) :
    transectLoop (waypointAt frame altAglM) umin umax step stop rounds v forward seq =
      some (transects frame altAglM umin umax forward seq (steps hstep v stop)) := by
  induction rounds generalizing v forward seq with
  | zero => exact absurd hrounds (Nat.not_lt_zero _)
  | succ rounds ih =>
      rw [transectLoop]
      by_cases hv : v ≤ stop
      · rw [steps_of_le hstep hv] at hrounds ⊢
        rw [if_pos (by simpa using hv), transects, turnPoints]
        have hrest := ih (v := v + step) (Nat.lt_of_succ_lt_succ hrounds) (!forward) (seq + 2)
        cases waypointAt frame altAglM seq (if forward then umin else umax) v with
        | error e => rfl
        | ok first =>
            cases waypointAt frame altAglM (seq + 1) (if forward then umax else umin) v with
            | error e => rfl
            | ok second =>
                show (transectLoop _ _ _ _ _ _ _ _ _).map _ = _
                rw [hrest]
                cases transects frame altAglM umin umax (!forward) (seq + 2)
                  (steps hstep (v + step) stop) <;> rfl
      · rw [if_neg (by simpa using hv), steps_of_lt hstep (not_le.mp hv)]
        rfl

/-! ## The planner -/

section

variable {F : Type} [Arith F]

/-- A block, with a boundary that is not empty. -/
structure BlockOver (F : Type) where
  first : F × F
  others : List (F × F)
  rowAzimuthDeg : F

/-- `_LocalFrame`. -/
structure LocalFrameOver (F : Type) where
  lat0 : F
  lon0 : F
  cosLat0 : F
  sinAz : F
  cosAz : F

namespace LocalFrameOver

def make (lat0 lon0 azimuthDeg : F) : Except MathError (LocalFrameOver F) := do
  let cosLat0 ← Arith.cos (Arith.radians lat0)
  let az := Arith.radians azimuthDeg
  let sinAz ← Arith.sin az
  let cosAz ← Arith.cos az
  return { lat0, lon0, cosLat0, sinAz, cosAz }

variable (frame : LocalFrameOver F)

/-- `_EARTH_R_M`. -/
def earth : F := Arith.lit 6371000

def toUv (p : F × F) : F × F :=
  let east := Arith.radians (p.2 - frame.lon0) * frame.cosLat0 * earth
  let north := Arith.radians (p.1 - frame.lat0) * earth
  (east * frame.sinAz + north * frame.cosAz, east * frame.cosAz - north * frame.sinAz)

def toLatlon (u v : F) : Except MathError (F × F) := do
  let east := u * frame.sinAz + v * frame.cosAz
  let north := u * frame.cosAz - v * frame.sinAz
  let dlat ← Arith.div north earth
  let dlon ← Arith.div east (earth * frame.cosLat0)
  return (frame.lat0 + Arith.degrees dlat, frame.lon0 + Arith.degrees dlon)

end LocalFrameOver

/-- `footprints_m`. -/
def footprintsOver (hFovDeg vFovDeg altM : F) : Except MathError (F × F) := do
  let half := fun x : F ↦ Arith.div x (Arith.lit 2)
  let cross ← Arith.tan (Arith.radians (← half hFovDeg))
  let along ← Arith.tan (Arith.radians (← half vFovDeg))
  return (Arith.lit 2 * altM * cross, Arith.lit 2 * altM * along)

/-- What the loop over the transects runs with. -/
structure Sweep (F : Type) where
  frame : LocalFrameOver F
  umin : F
  umax : F
  rowStep : F
  start : F
  stop : F

/-- `plan_boustrophedon` up to its loop. -/
def sweep (block : BlockOver F) (hFovDeg vFovDeg altAglM sideOverlap : F) :
    Except MathError (Sweep F) := do
  let frame ← LocalFrameOver.make block.first.1 block.first.2 block.rowAzimuthDeg
  let uv := frame.toUv block.first
  let others := block.others.map frame.toUv
  let (cross, _) ← footprintsOver hFovDeg vFovDeg altAglM
  let rowStep := Arith.max (Arith.lit 1) (cross * (Arith.lit 1 - sideOverlap))
  let half ← Arith.div rowStep (Arith.lit 2)
  return {
    frame
    umin := (others.map Prod.fst).foldl Arith.min uv.1
    umax := (others.map Prod.fst).foldl Arith.max uv.1
    rowStep
    start := (others.map Prod.snd).foldl Arith.min uv.2 + half
    stop := (others.map Prod.snd).foldl Arith.max uv.2 + half }

end

section

variable [Arith PyFloat]

/-- `Waypoint(seq=…, lat=…, lon=…, alt_agl_m=…)`. -/
def FloatWaypoint.make (seq : ℕ) (lat lon altAglM : PyFloat) : Except PlanError FloatWaypoint :=
  if h : LatValid lat ∧ LonValid lon ∧ PyFloat.lt (.fin 0) altAglM = true then
    .ok ⟨seq, lat, lon, altAglM, h.1, h.2.1, h.2.2⟩
  else .error .validation

/-- A turn point of the loop. -/
def floatWaypointAt (frame : LocalFrameOver PyFloat) (altAglM : PyFloat) (seq : ℕ)
    (u v : PyFloat) : Except PlanError FloatWaypoint := do
  let (lat, lon) ← (frame.toLatlon u v).mapError .math
  FloatWaypoint.make seq lat lon altAglM

/-- `plan_boustrophedon`, in floats that any arithmetic may work on. -/
def planInFloats (block : BlockOver PyFloat) (hFovDeg vFovDeg altAglM sideOverlap : PyFloat)
    (rounds : ℕ) : Option (Except PlanError (List FloatWaypoint)) :=
  if Arith.le (Arith.lit 0) sideOverlap && Arith.lt sideOverlap (Arith.lit 1) then
    match sweep block hFovDeg vFovDeg altAglM sideOverlap with
    | .error e => some (.error (.math e))
    | .ok p => transectLoop (floatWaypointAt p.frame altAglM) p.umin p.umax p.rowStep p.stop rounds
        p.start true 0
  else some (.error .sideOverlap)

omit [Arith PyFloat] in
theorem FloatWaypoint.seq_of_make {seq : ℕ} {lat lon altAglM : PyFloat} {w : FloatWaypoint}
    (h : FloatWaypoint.make seq lat lon altAglM = .ok w) : w.seq = seq := by
  unfold FloatWaypoint.make at h
  split_ifs at h
  cases h
  rfl

theorem seq_of_floatWaypointAt {frame : LocalFrameOver PyFloat} {altAglM u v : PyFloat} {seq : ℕ}
    {w : FloatWaypoint} (h : floatWaypointAt frame altAglM seq u v = .ok w) : w.seq = seq := by
  obtain ⟨⟨lat, lon⟩, -, h⟩ := Py.bind_eq_ok.mp h
  exact FloatWaypoint.seq_of_make h

/-- A planned survey is numbered from 0 on. -/
theorem numbered_of_planInFloats {block : BlockOver PyFloat}
    {hFovDeg vFovDeg altAglM sideOverlap : PyFloat} {rounds : ℕ} {waypoints : List FloatWaypoint}
    (h : planInFloats block hFovDeg vFovDeg altAglM sideOverlap rounds = some (.ok waypoints)) :
    Numbered waypoints := by
  unfold planInFloats at h
  split at h
  · split at h
    · cases h
    · rintro ⟨w, k⟩ hp
      have hw := List.mem_zipIdx_iff_getElem?.mp hp
      have hnumber := numbered_of_transectLoop FloatWaypoint.seq
        (fun _ _ _ _ ↦ seq_of_floatWaypointAt) h hw
      simpa using hnumber
  · cases h

end

/-- **The two files of a mission agree** exactly if its waypoints are numbered from 0 on, and
those of a planned survey are, whatever the arithmetic of the planner does. -/
theorem mission_files_agree :
    (∀ waypoints home cruiseSpeedMs hoverSpeedMs,
      (readWpl (toArdupilotWaypoints waypoints home)).bind missionOfWpl =
          (readPlan (toQgcPlan waypoints home cruiseSpeedMs hoverSpeedMs)).map Mission.rounded ↔
        Numbered waypoints) ∧
    ∀ [Arith PyFloat] (block : BlockOver PyFloat) hFovDeg vFovDeg altAglM sideOverlap rounds
      waypoints, planInFloats block hFovDeg vFovDeg altAglM sideOverlap rounds =
        some (.ok waypoints) → Numbered waypoints :=
  ⟨wpl_eq_plan_iff, fun _ _ _ _ _ _ _ h ↦ numbered_of_planInFloats h⟩

theorem flat_cos (q : ℚ) (_ : |q| ≤ 90) : (0 : ℚ) ≤ 1 := zero_le_one

/-- A platform on which every angle is small. -/
abbrev flatLibm : Py.Libm where
  sin _ := 0
  cos _ := 1
  tan _ := 1
  atan _ := 0
  asin _ := 0
  sqrt _ := 0
  square _ := .fin 0
  abs_sin_le _ := abs_zero.trans_le zero_le_one
  sqrt_nonneg _ _ := le_rfl
  square_of_abs_le _ _ := ⟨0, le_rfl, rfl⟩
  cos_latitude_nonneg := flat_cos

/-- A plot, thirty-three metres wide. -/
def widePlot : BlockOver PyFloat where
  first := (.fin 0, .fin 0)
  others := [(.fin 0, .ofRat (3 / 10000)), (.ofRat (1 / 10000), .ofRat (3 / 10000))]
  rowAzimuthDeg := .fin 0

/-- Two transects of it are four waypoints. -/
theorem mission_files_agree_plot : ∃ waypoints,
    @planInFloats (@Py.instArithPyFloatOfLibm flatLibm) widePlot (.fin 90) (.fin 90) (.fin 10)
        (.fin 0) 3 = some (.ok waypoints) ∧ waypoints.length = 4 ∧ Numbered waypoints := by
  let := flatLibm
  have hplan : (planInFloats widePlot (.fin 90) (.fin 90) (.fin 10) (.fin 0) 3).any
      (fun r ↦ r.toOption.any (·.length = 4)) = true := by
    decide +kernel
  obtain ⟨outcome, hplanned, hok⟩ := (Option.any_eq_true _ _).mp hplan
  obtain ⟨waypoints, hwaypoints, hlength⟩ := (Option.any_eq_true _ _).mp hok
  have hsome := hplanned.trans (congrArg some (Py.toOption_eq_some.mp hwaypoints))
  exact ⟨waypoints, hsome, of_decide_eq_true hlength, mission_files_agree.2 _ _ _ _ _ _ _ hsome⟩

end DroneComms.Scout
