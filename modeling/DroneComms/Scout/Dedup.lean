import DroneComms.Cv.Haversine
import DroneComms.Scout.Schemas

/-!
# Spatial deduplication

`scout/dedup.py`: a detection joins the first cluster whose anchor is near, and
replaces its representative if its confidence is higher.
-/

namespace DroneComms.Scout

open Py (PyFloat)

/-- A cluster: the position of its first detection, and its representative. -/
structure Cluster where
  anchorLat : PyFloat
  anchorLon : PyFloat
  anchor_valid : LatValid anchorLat ∧ LonValid anchorLon
  rep : GeoDetection

namespace Cluster

/-- The cluster that a detection starts. -/
def start (d : GeoDetection) : Cluster := ⟨d.lat, d.lon, ⟨d.lat_valid, d.lon_valid⟩, d⟩

/-- The representative after a detection has joined. -/
def merged (c : Cluster) (d : GeoDetection) : GeoDetection :=
  if PyFloat.lt c.rep.conf d.conf then
    { d with id := c.rep.id, status := c.rep.status, blockId := c.rep.blockId }
  else c.rep

/-- The cluster after a detection has joined. -/
def join (c : Cluster) (d : GeoDetection) : Cluster := { c with rep := c.merged d }

@[simp] theorem merged_id (c : Cluster) (d : GeoDetection) : (c.merged d).id = c.rep.id := by
  unfold merged
  split_ifs <;> rfl

@[simp] theorem merged_blockId (c : Cluster) (d : GeoDetection) :
    (c.merged d).blockId = c.rep.blockId := by
  unfold merged
  split_ifs <;> rfl

@[simp] theorem join_id (c : Cluster) (d : GeoDetection) : (c.join d).rep.id = c.rep.id :=
  c.merged_id d

variable [Py.Libm]

/-- Membership is tested against the anchor. -/
def near (radiusM : PyFloat) (d : GeoDetection) (c : Cluster) : Except Py.MathError Bool := do
  let dist ← Cv.groundDistanceM d.lat d.lon c.anchorLat c.anchorLon
  return PyFloat.le dist radiusM

theorem near_ok (radiusM : PyFloat) (d : GeoDetection) (c : Cluster) :
    ∃ b, c.near radiusM d = .ok b := by
  obtain ⟨lat₁, hlat₁, h₁⟩ := d.lat_valid.exists_fin
  obtain ⟨lon₁, hlon₁, h₂⟩ := d.lon_valid.exists_fin
  obtain ⟨lat₂, hlat₂, h₃⟩ := c.anchor_valid.1.exists_fin
  obtain ⟨lon₂, hlon₂, h₄⟩ := c.anchor_valid.2.exists_fin
  obtain ⟨dist, hdist⟩ := Cv.groundDistanceM_ok h₁ h₂ h₃ h₄
  rw [near, hlat₁, hlon₁, hlat₂, hlon₂]
  exact ⟨_, Py.bind_eq_ok.mpr ⟨dist, hdist, rfl⟩⟩

end Cluster

namespace Deduplicator

variable [Py.Libm]

/-- What `add` leaves: the clusters, the canonical detection and whether it merged. -/
structure Added where
  clusters : List Cluster
  canonical : GeoDetection
  merged : Bool

/-- `add`. -/
def add (radiusM : PyFloat) (d : GeoDetection) : List Cluster → Except Py.MathError Added
  | [] => .ok ⟨[.start d], d, false⟩
  | c :: clusters => do
      if ← c.near radiusM d then
        return ⟨c.join d :: clusters, c.merged d, true⟩
      else
        let rest ← add radiusM d clusters
        return { rest with clusters := c :: rest.clusters }

variable {radiusM : PyFloat} {d : GeoDetection} {clusters : List Cluster} {added : Added}

/-- A detection is near no anchor and starts a cluster, or it joins the first cluster whose
anchor is near. -/
theorem add_cases (h : add radiusM d clusters = .ok added) :
    ((∀ c ∈ clusters, c.near radiusM d = .ok false) ∧
      added = ⟨clusters ++ [.start d], d, false⟩) ∨
    ∃ pre c post, clusters = pre ++ c :: post ∧ (∀ c' ∈ pre, c'.near radiusM d = .ok false) ∧
      c.near radiusM d = .ok true ∧ added = ⟨pre ++ c.join d :: post, c.merged d, true⟩ := by
  induction clusters generalizing added with
  | nil =>
      cases h
      exact .inl ⟨List.forall_mem_nil _, rfl⟩
  | cons c clusters ih =>
      obtain ⟨hit, hnear, h⟩ := Py.bind_eq_ok.mp h
      cases hit with
      | true =>
          cases h
          exact .inr ⟨[], c, clusters, rfl, List.forall_mem_nil _, hnear, rfl⟩
      | false =>
          obtain ⟨rest, hrest, h⟩ := Py.bind_eq_ok.mp h
          cases h
          rcases ih hrest with ⟨hfar, rfl⟩ | ⟨pre, c', post, rfl, hfar, hjoin, rfl⟩
          · exact .inl ⟨List.forall_mem_cons.mpr ⟨hnear, hfar⟩, rfl⟩
          · exact .inr ⟨c :: pre, c', post, rfl, List.forall_mem_cons.mpr ⟨hnear, hfar⟩, hjoin, rfl⟩

/-- It never raises: the positions are coordinates. -/
theorem add_ok (radiusM : PyFloat) (d : GeoDetection) (clusters : List Cluster) :
    ∃ added, add radiusM d clusters = .ok added := by
  induction clusters with
  | nil => exact ⟨_, rfl⟩
  | cons c clusters ih =>
      obtain ⟨rest, hrest⟩ := ih
      obtain ⟨hit, hnear⟩ := c.near_ok radiusM d
      cases hit with
      | true => exact ⟨_, Py.bind_eq_ok.mpr ⟨true, hnear, rfl⟩⟩
      | false =>
          exact ⟨_, Py.bind_eq_ok.mpr ⟨false, hnear, Py.bind_eq_ok.mpr ⟨rest, hrest, rfl⟩⟩⟩

end Deduplicator

end DroneComms.Scout
