import Mathlib.Analysis.Convex.Segment
import DroneComms.Lib.Stepping
import DroneComms.Py.Bisect
import DroneComms.Py.Math

/-!
# Survey geometry

`scout/survey.py` in exact arithmetic: the lawnmower path over a block and the
fraction of the block that it covers.
-/

namespace DroneComms.Scout

open Py.Arith (radians degrees)
open Lib

/-- What planning a survey raises. -/
inductive SurveyError where
  /-- `side_overlap must be in [0, 1)`. -/
  | sideOverlap
  /-- A waypoint that is not a coordinate. -/
  | validation
  | zeroDivision
deriving DecidableEq, Repr

/-- A vineyard block. -/
structure Block where
  /-- The boundary as `(lat, lon)` vertices, not closed. -/
  polygon : List (ℝ × ℝ)
  rowAzimuthDeg : ℝ
  three_le : 3 ≤ polygon.length
  lat_mem : ∀ p ∈ polygon, -90 ≤ p.1 ∧ p.1 ≤ 90
  lon_mem : ∀ p ∈ polygon, -180 ≤ p.2 ∧ p.2 ≤ 180
  azimuth_mem : 0 ≤ rowAzimuthDeg ∧ rowAzimuthDeg < 360

/-- A survey waypoint. -/
structure Waypoint where
  seq : ℕ
  lat : ℝ
  lon : ℝ
  altAglM : ℝ
  lat_mem : -90 ≤ lat ∧ lat ≤ 90
  lon_mem : -180 ≤ lon ∧ lon ≤ 180
  alt_pos : 0 < altAglM

/-- What the model of a waypoint checks. -/
structure Waypoint.Valid (lat lon altAglM : ℝ) : Prop where
  lat_mem : -90 ≤ lat ∧ lat ≤ 90
  lon_mem : -180 ≤ lon ∧ lon ≤ 180
  alt_pos : 0 < altAglM

open Classical in
/-- `Waypoint(seq=…, lat=…, lon=…, alt_agl_m=…)`. -/
noncomputable def Waypoint.make (seq : ℕ) (lat lon altAglM : ℝ) : Except SurveyError Waypoint :=
  if h : Valid lat lon altAglM then .ok ⟨seq, lat, lon, altAglM, h.lat_mem, h.lon_mem, h.alt_pos⟩
  else .error .validation

theorem two_eq : (2.0 : ℝ) = 2 := by norm_num

/-! ## The local frame -/

/-- `_EARTH_R_M`. -/
noncomputable def earthRM : ℝ := 6371000

/-- `_LocalFrame`: local metres, turned to the row azimuth. -/
structure LocalFrame where
  lat0 : ℝ
  lon0 : ℝ
  cosLat0 : ℝ
  sinAz : ℝ
  cosAz : ℝ

namespace LocalFrame

noncomputable def make (lat0 lon0 azimuthDeg : ℝ) : LocalFrame where
  lat0 := lat0
  lon0 := lon0
  cosLat0 := Real.cos (radians lat0)
  sinAz := Real.sin (radians azimuthDeg)
  cosAz := Real.cos (radians azimuthDeg)

variable (frame : LocalFrame)

noncomputable def toUv (lat lon : ℝ) : ℝ × ℝ :=
  let east := radians (lon - frame.lon0) * frame.cosLat0 * earthRM
  let north := radians (lat - frame.lat0) * earthRM
  (east * frame.sinAz + north * frame.cosAz, east * frame.cosAz - north * frame.sinAz)

noncomputable def toLatlon (u v : ℝ) : Except SurveyError (ℝ × ℝ) :=
  let east := u * frame.sinAz + v * frame.cosAz
  let north := u * frame.cosAz - v * frame.sinAz
  if earthRM * frame.cosLat0 = 0 then .error .zeroDivision
  else .ok (frame.lat0 + degrees (north / earthRM),
    frame.lon0 + degrees (east / (earthRM * frame.cosLat0)))

end LocalFrame

/-- The frame of a block, anchored at its first vertex. -/
noncomputable def Block.frame (block : Block) : LocalFrame :=
  .make (block.polygon.head?.getD (0, 0)).1 (block.polygon.head?.getD (0, 0)).2 block.rowAzimuthDeg

/-- The boundary of a block in its frame. -/
noncomputable def Block.uv (block : Block) : List (ℝ × ℝ) :=
  block.polygon.map fun p ↦ block.frame.toUv p.1 p.2

/-- `min` of a list that is not empty. -/
noncomputable def lowest (xs : List ℝ) : ℝ := xs.min?.getD 0

/-- `max` of a list that is not empty. -/
noncomputable def highest (xs : List ℝ) : ℝ := xs.max?.getD 0

namespace Block

variable (block : Block)

noncomputable def umin : ℝ := lowest (block.uv.map Prod.fst)

noncomputable def umax : ℝ := highest (block.uv.map Prod.fst)

noncomputable def vmin : ℝ := lowest (block.uv.map Prod.snd)

noncomputable def vmax : ℝ := highest (block.uv.map Prod.snd)

end Block

/-- `footprints_m`: the ground footprint across the track and along it of a camera that
looks straight down. -/
noncomputable def footprintsM (hFovDeg vFovDeg altM : ℝ) : ℝ × ℝ :=
  (2.0 * altM * Real.tan (radians (hFovDeg / 2.0)),
    2.0 * altM * Real.tan (radians (vFovDeg / 2.0)))

/-! ## The path -/

/-- The spacing of the transects. -/
noncomputable def rowStep (crossM sideOverlap : ℝ) : ℝ := max 1 (crossM * (1 - sideOverlap))

theorem rowStep_pos (crossM sideOverlap : ℝ) : 0 < rowStep crossM sideOverlap :=
  lt_max_of_lt_left one_pos

noncomputable def waypointAt (frame : LocalFrame) (altAglM : ℝ) (seq : ℕ) (u v : ℝ) :
    Except SurveyError Waypoint := do
  let (lat, lon) ← frame.toLatlon u v
  Waypoint.make seq lat lon altAglM

/-- The rounds of the loop over the transects: the turn points of each, there and back in
turn. -/
noncomputable def transects (frame : LocalFrame) (altAglM umin umax : ℝ) :
    Bool → ℕ → List ℝ → Except SurveyError (List Waypoint)
  | _, _, [] => .ok []
  | forward, seq, v :: vs => do
      let first ← waypointAt frame altAglM seq (if forward then umin else umax) v
      let second ← waypointAt frame altAglM (seq + 1) (if forward then umax else umin) v
      let rest ← transects frame altAglM umin umax (!forward) (seq + 2) vs
      return first :: second :: rest

open Classical in
/-- `plan_boustrophedon`. -/
noncomputable def planBoustrophedon (block : Block) (hFovDeg vFovDeg altAglM sideOverlap : ℝ) :
    Except SurveyError (List Waypoint) :=
  let crossM := (footprintsM hFovDeg vFovDeg altAglM).1
  let step := rowStep crossM sideOverlap
  if 0 ≤ sideOverlap ∧ sideOverlap < 1 then
    transects block.frame altAglM block.umin block.umax true 0
      (steps (rowStep_pos crossM sideOverlap) (block.vmin + step / 2.0) (block.vmax + step / 2.0))
  else .error .sideOverlap

/-! ## The coverage -/

/-- The edges that end in the vertices of a list, the first from `p`. -/
def chain {α : Type} : α → List α → List (α × α)
  | _, [] => []
  | p, q :: qs => (p, q) :: chain q qs

/-- The edges of a closed polygon, each with the vertex `j` before `i`. -/
def edges {α : Type} (poly : List α) : List (α × α) :=
  match poly.getLast? with
  | none => []
  | some p => chain p poly

open Classical in
/-- The ray from `(u, v)` crosses an edge. -/
noncomputable def crosses (u v : ℝ) (e : (ℝ × ℝ) × (ℝ × ℝ)) : Bool :=
  let (uj, vj) := e.1
  let (ui, vi) := e.2
  (decide (vi > v) != decide (vj > v)) && decide (u < ui + (v - vi) / (vj - vi) * (uj - ui))

/-- `_point_in_polygon`. -/
noncomputable def pointInPolygon (u v : ℝ) (poly : List (ℝ × ℝ)) : Bool :=
  (edges poly).foldl (fun inside e ↦ if crosses u v e then !inside else inside) false

/-- The pairs of consecutive entries at even positions. -/
def pairs {α : Type} : List α → List (α × α)
  | a :: b :: xs => (a, b) :: pairs xs
  | _ => []

/-- A transect: its `v`, and its extent along the row. -/
abbrev Band := ℝ ×ₗ ℝ ×ₗ ℝ

namespace Band

/-- The transect between two turn points. -/
noncomputable def ofEnds (e : (ℝ × ℝ) × (ℝ × ℝ)) : Band :=
  toLex (e.1.2, toLex (min e.1.1 e.2.1, max e.1.1 e.2.1))

def v (b : Band) : ℝ := (ofLex b).1

def uLo (b : Band) : ℝ := (ofLex (ofLex b).2).1

def uHi (b : Band) : ℝ := (ofLex (ofLex b).2).2

end Band

/-- The transects of a path, in the order of the path. -/
noncomputable def bands (frame : LocalFrame) (path : List Waypoint) : List Band :=
  (pairs (path.map fun w ↦ frame.toUv w.lat w.lon)).map Band.ofEnds

/-- The samples of a block that lie in its interior. -/
noncomputable def interiorSamples (block : Block) {sampleM : ℝ} (hs : 0 < sampleM) : List (ℝ × ℝ) :=
  ((steps hs block.umin block.umax).flatMap fun u ↦
    (steps hs block.vmin block.vmax).map fun v ↦ (u, v)).filter fun p ↦
      pointInPolygon p.1 p.2 block.uv

open Classical in
/-- A sample is within half a footprint of a transect, among those that a search by `v`
selects from the sorted ones. -/
noncomputable def sampleCovered (sorted : List Band) (half u v : ℝ) : Bool :=
  let bandV := sorted.map Band.v
  let lo := Py.bisectLeft (fun a b ↦ decide (a < b)) bandV (v - half)
  let hi := Py.bisectRight (fun a b ↦ decide (a < b)) bandV (v + half)
  ((sorted.take hi).drop lo).any fun b ↦ b.uLo - half ≤ u ∧ u ≤ b.uHi + half

/-- `coverage_fraction`. -/
noncomputable def coverageFraction (block : Block) (path : List Waypoint)
    (hFovDeg vFovDeg altAglM : ℝ) {sampleM : ℝ} (hs : 0 < sampleM) : ℝ :=
  if path = [] then 0
  else
    let half := (footprintsM hFovDeg vFovDeg altAglM).1 / 2.0
    let sorted := (bands block.frame path).insertionSort (· ≤ ·)
    let inside := interiorSamples block hs
    let covered := inside.filter fun p ↦ sampleCovered sorted half p.1 p.2
    if inside = [] then 0 else covered.length / inside.length

end DroneComms.Scout
