import DroneComms.Cv.Geo
import DroneComms.Py.Bisect

/-!
# Alignment of detections to poses

`scout/sync.py`: the pose nearest to a detection in time, if it is near enough.
-/

namespace DroneComms.Scout

open Py (PyFloat)

/-- A pose, with the camera roll to apply. -/
structure FusedPose where
  pose : Cv.Pose PyFloat
  rollDeg : PyFloat
  ts : PyFloat

namespace TimeSync

/-- The buffer after a number of `add_pose`: a queue that forgets its oldest entries. -/
def buffer (size : ℕ) (poses : List FusedPose) : List FusedPose :=
  poses.foldl (fun buf p ↦ (buf ++ [p]).drop (buf.length + 1 - size)) []

/-- A buffer of the size of the batch holds all of its poses. -/
theorem buffer_eq_self {size : ℕ} {poses : List FusedPose} (h : poses.length ≤ size) :
    buffer size poses = poses := by
  have hfold : ∀ buf : List FusedPose, buf.length + poses.length ≤ size →
      poses.foldl (fun buf p ↦ (buf ++ [p]).drop (buf.length + 1 - size)) buf = buf ++ poses := by
    clear h
    induction poses with
    | nil => simp
    | cons p poses ih =>
        intro buf hlen
        rw [List.length_cons] at hlen
        have hkeep : buf.length + 1 - size = 0 := by omega
        rw [List.foldl_cons, hkeep, List.drop_zero, ih (buf ++ [p]) (by simp; omega),
          List.append_assoc, List.singleton_append]
  exact hfold [] (by simpa using h)

/-- The poses in the order of their timestamps. -/
def sorted (poses : List FusedPose) : List FusedPose :=
  poses.insertionSort fun a b ↦ PyFloat.lt b.ts a.ts = false

variable [Py.Libm]

/-- One round of the search: a candidate that is strictly nearer than the best. -/
def closer (ts : PyFloat) (best : Option FusedPose × PyFloat) (p : FusedPose) :
    Option FusedPose × PyFloat :=
  let skew := Py.Arith.abs (p.ts - ts)
  if PyFloat.lt skew best.2 then (some p, skew) else best

/-- The two poses around a timestamp. -/
def straddling (sorted : List FusedPose) (ts : PyFloat) : List FusedPose :=
  let i := Py.bisectLeft PyFloat.lt (sorted.map FusedPose.ts) ts
  (if i = 0 then [] else (sorted[i - 1]?).toList) ++ (sorted[i]?).toList

/-- `align`: none is counted as dropped. -/
def align (maxSkewS : PyFloat) (poses : List FusedPose) (ts : PyFloat) : Option FusedPose :=
  let (best, skew) := (straddling (sorted poses) ts).foldl (closer ts) (none, .posInf)
  if PyFloat.lt maxSkewS skew then none else best

end TimeSync

end DroneComms.Scout
