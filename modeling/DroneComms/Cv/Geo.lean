import DroneComms.Py.Math

/-!
# Geo-referencing a pixel

`cv/geo.py`: the cast of the ray through a pixel onto the ground, over any
arithmetic.
-/

namespace DroneComms.Cv

open Py Py.Arith

variable {F : Type} [Arith F]

/-- The elevation model: metres above the datum at a point. -/
abbrev Terrain (F : Type) := F → F → Except MathError F

/-- Image size (px) and field of view (deg). -/
structure Camera (F : Type) where
  imgW : ℤ
  imgH : ℤ
  hFovDeg : F
  vFovDeg : F

/-- Camera pose; `pitchDeg` is the depression below the horizontal. -/
structure Pose (F : Type) where
  lat : F
  lon : F
  altAglM : F
  headingDeg : F
  pitchDeg : F

/-- A detection on the ground with a circular error (metres). -/
@[ext] structure GroundFix (F : Type) where
  lat : F
  lon : F
  ceM : F
  rangeM : F

/-- `_EARTH_R_M`. -/
def earthRM : F := lit 6371000

/-- `_POINTING_UNCERTAINTY_DEG`. -/
def pointingUncertaintyDeg : F := lit 1

/-- `_LEGACY_ERROR_FLOOR_M`. -/
def legacyErrorFloorM : F := lit 5

/-- `_MIN_DEPRESSION_DEG`. -/
def minDepressionDeg : F := lit (1 / 10)

/-- `_DEFAULT_TERRAIN_ITERS`. -/
def defaultTerrainIters : ℤ := 2

/-- The cosine of a latitude, kept away from zero near the poles. -/
def guardedCos (lat : F) : Except MathError F := do
  let cosLat ← cos (radians lat)
  return if lt (abs cosLat) (lit (1 / 10 ^ 6)) then
    if isZero cosLat then lit (1 / 10 ^ 6) else copysign (lit (1 / 10 ^ 6)) cosLat
  else cosLat

/-- The point `rangeM` from `(lat, lon)` along `bearingDeg`. -/
def destination (lat lon bearingDeg rangeM : F) : Except MathError (F × F) := do
  let brg := radians bearingDeg
  let north := rangeM * (← cos brg)
  let east := rangeM * (← sin brg)
  let dlat := degrees (← div north earthRM)
  let cosLat ← guardedCos lat
  let dlon := degrees (← div east (earthRM * cosLat))
  return (lat + dlat, lon + dlon)

/-- Great-circle distance (m) by the haversine formula. -/
def groundDistanceM (lat1 lon1 lat2 lon2 : F) : Except MathError F := do
  let p1 := radians lat1
  let p2 := radians lat2
  let dp := radians (lat2 - lat1)
  let dl := radians (lon2 - lon1)
  let sp ← square (← sin (← div dp (lit 2)))
  let c1 ← cos p1
  let c2 ← cos p2
  let sl ← square (← sin (← div dl (lit 2)))
  let a := sp + c1 * c2 * sl
  return lit 2 * earthRM * (← asin (min (lit 1) (← sqrt a)))

/-- The angle (deg) from the optical axis at a normalised offset. -/
def angleOffAxis (frac fovDeg : F) : Except MathError F := do
  return degrees (atan (frac * (← tan (← div (radians fovDeg) (lit 2)))))

/-- The normalised offset of a pixel from the centre of an image. -/
def fraction (c : F) (img : ℤ) : Except MathError F := do
  return (← div (lit 2 * c) (← ofInt img)) - lit 1

/-- Covariance-based ground circular error (m). -/
def groundError (rangeM posCepM attSigmaDeg : F) : Except MathError F := do
  return posCepM + rangeM * (← tan (radians attSigmaDeg))

/-- The angular offset of a pixel, rotated by the camera roll. -/
def offsets (cam : Camera F) (cx cy rollDeg : F) : Except MathError (F × F) := do
  let yawOff ← angleOffAxis (← fraction cx cam.imgW) cam.hFovDeg
  let pitchOff ← angleOffAxis (← fraction cy cam.imgH) cam.vFovDeg
  if isZero rollDeg then
    return (yawOff, pitchOff)
  else
    let r := radians rollDeg
    let cosR ← cos r
    let sinR ← sin r
    return (yawOff * cosR - pitchOff * sinR, yawOff * sinR + pitchOff * cosR)

/-- The depression and the azimuth of a pixel; past straight down it is the
complementary depression on the opposite azimuth. -/
def lineOfSight (pose : Pose F) (yawOff pitchOff : F) : F × F :=
  let depression := pose.pitchDeg + pitchOff
  let azimuth := mod (pose.headingDeg + yawOff) 360
  if lt (lit 90) depression then (lit 180 - depression, mod (azimuth + lit 180) 360)
  else (depression, azimuth)

/-- The refinement over sloped ground: `iters` rounds from a range, none if the
terrain rises above the camera. -/
def refineRange (pose : Pose F) (elevation : Terrain F) (camElev azimuth tanDep : F) :
    ℕ → F → Except MathError (Option F)
  | 0, range => return some range
  | iters + 1, range => do
      let (hitLat, hitLon) ← destination pose.lat pose.lon azimuth range
      let effectiveAgl := pose.altAglM - ((← elevation hitLat hitLon) - camElev)
      if le effectiveAgl (lit 0) then return none
      else refineRange pose elevation camElev azimuth tanDep iters (← div effectiveAgl tanDep)

/-- The ground range along a line of sight. -/
def groundRange (pose : Pose F) (terrain : Option (Terrain F)) (terrainIters : ℤ)
    (depression azimuth : F) : Except MathError (Option F) := do
  let tanDep ← tan (radians depression)
  let range ← div pose.altAglM tanDep
  match terrain with
  | none => return some range
  | some elevation =>
      let camElev ← elevation pose.lat pose.lon
      refineRange pose elevation camElev azimuth tanDep terrainIters.toNat range

/-- The circular error, by the covariance model or by the legacy one. -/
def circularError (rangeM : F) : Option F → Option F → Except MathError F
  | none, none => do
      return rangeM * (← tan (radians pointingUncertaintyDeg)) + legacyErrorFloorM
  | posCepM, attSigmaDeg =>
      groundError rangeM (posCepM.getD (lit 0)) (attSigmaDeg.getD pointingUncertaintyDeg)

/-- Cast the ray through pixel `(cx, cy)` onto the ground; none if it misses. -/
def projectToGround (pose : Pose F) (cam : Camera F) (cx cy rollDeg : F)
    (terrain : Option (Terrain F)) (posCepM attSigmaDeg : Option F) (terrainIters : ℤ) :
    Except MathError (Option (GroundFix F)) := do
  if le pose.altAglM (lit 0) then return none
  let (yawOff, pitchOff) ← offsets cam cx cy rollDeg
  let (depression, azimuth) := lineOfSight pose yawOff pitchOff
  if lt depression minDepressionDeg then return none
  match ← groundRange pose terrain terrainIters depression azimuth with
  | none => return none
  | some range =>
      let (lat, lon) ← destination pose.lat pose.lon azimuth range
      let ce ← circularError range posCepM attSigmaDeg
      return some { lat := lat, lon := lon, ceM := ce, rangeM := range }

end DroneComms.Cv
