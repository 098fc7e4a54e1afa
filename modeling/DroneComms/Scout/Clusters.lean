import DroneComms.Cv.Distance
import DroneComms.Lib.Fallible
import DroneComms.Scout.Dedup
import Mathlib.Data.List.MinMax

/-!
# What a deduplicator holds

`Deduplicator` of `scout/dedup.py` over a whole sequence of `add` calls.  A cluster
does not remember its members; a group does, in the order in which they came, and a
cluster is what its group comes to (`Group.cluster`): the anchor, the id, the status
and the block of the first member, and the fix of the earliest member with the
highest confidence.
-/

namespace DroneComms.Scout

open Py (PyFloat)

/-- The confidence as a number; it is never an infinity or `nan`. -/
def GeoDetection.confidence (d : GeoDetection) : ℚ :=
  match d.conf with
  | .fin q => q
  | _ => 0

theorem GeoDetection.conf_eq (d : GeoDetection) : d.conf = .fin d.confidence := by
  obtain ⟨q, hq⟩ := d.conf_fin
  rw [confidence, hq]

theorem GeoDetection.lt_conf (d d' : GeoDetection) :
    PyFloat.lt d.conf d'.conf = decide (d.confidence < d'.confidence) := by
  rw [d.conf_eq, d'.conf_eq, PyFloat.lt_fin]

/-- The detections that a cluster stands for, in the order in which they were added. -/
structure Group where
  first : GeoDetection
  others : List GeoDetection := []

namespace Group

/-- All members. -/
def members (g : Group) : List GeoDetection := g.first :: g.others

/-- The earliest member with the highest confidence. -/
def best (g : Group) : GeoDetection := (g.members.argmax GeoDetection.confidence).getD g.first

/-- The detection is the first of those with the highest confidence. -/
def EarliestBest (d : GeoDetection) (ds : List GeoDetection) : Prop :=
  ∃ before after, ds = before ++ d :: after ∧ (∀ d' ∈ before, d'.confidence < d.confidence) ∧
    ∀ d' ∈ after, d'.confidence ≤ d.confidence

/-- The group with one more member. -/
def push (g : Group) (d : GeoDetection) : Group := { g with others := g.others ++ [d] }

/-- What the deduplicator keeps of a group. -/
def cluster (g : Group) : Cluster where
  anchorLat := g.first.lat
  anchorLon := g.first.lon
  anchor_valid := ⟨g.first.lat_valid, g.first.lon_valid⟩
  rep := { g.best with id := g.first.id, status := g.first.status, blockId := g.first.blockId }

theorem best_mem_argmax (g : Group) : g.best ∈ g.members.argmax GeoDetection.confidence := by
  have hne : g.members.argmax GeoDetection.confidence ≠ none := by
    rw [Ne, List.argmax_eq_none]
    exact List.cons_ne_nil _ _
  obtain ⟨d, hd⟩ := Option.ne_none_iff_exists'.mp hne
  rw [best, hd]
  rfl

theorem best_mem (g : Group) : g.best ∈ g.members := List.argmax_mem g.best_mem_argmax

@[simp] theorem push_first (g : Group) (d : GeoDetection) : (g.push d).first = g.first := rfl

@[simp] theorem push_members (g : Group) (d : GeoDetection) :
    (g.push d).members = g.members ++ [d] := rfl

/-- Only a higher confidence is better. -/
theorem best_push (g : Group) (d : GeoDetection) :
    (g.push d).best = if g.best.confidence < d.confidence then d else g.best := by
  have hbest : g.members.argmax GeoDetection.confidence = some g.best := g.best_mem_argmax
  have hpush := List.argmax_concat GeoDetection.confidence d g.members
  rw [hbest] at hpush
  rw [best, push_members, hpush]
  dsimp only
  split_ifs <;> rfl

/-- A detection joins a cluster as it joins the group. -/
theorem cluster_push (g : Group) (d : GeoDetection) : (g.push d).cluster = g.cluster.join d := by
  have hconf : PyFloat.lt g.cluster.rep.conf d.conf = decide (g.best.confidence < d.confidence) :=
    g.best.lt_conf d
  by_cases h : g.best.confidence < d.confidence
  · rw [cluster, best_push, if_pos h, Cluster.join, Cluster.merged, hconf, if_pos (decide_eq_true h)]
    rfl
  · rw [cluster, best_push, if_neg h, Cluster.join, Cluster.merged, hconf, if_neg (by simpa using h)]
    rfl

theorem best_spec (g : Group) : EarliestBest g.best g.members := by
  obtain ⟨hmem, hle, hfirst⟩ := List.mem_argmax_iff.mp g.best_mem_argmax
  obtain ⟨before, after, hsplit, hnew⟩ := List.eq_append_cons_of_mem hmem
  refine ⟨before, after, hsplit, fun d hd ↦ ?_, fun d hd ↦ hle d (by simp [hsplit, hd])⟩
  by_contra hge
  have hindex := hfirst d (by simp [hsplit, hd]) (not_lt.mp hge)
  rw [hsplit, List.idxOf_append_of_notMem hnew, List.idxOf_append_of_mem hd,
    List.idxOf_cons_self] at hindex
  exact absurd (List.idxOf_lt_length_of_mem hd) (by omega)

end Group

/-- What stays of a cluster for ever: its anchor, and what it has from its first member. -/
def Cluster.identity (c : Cluster) :
    PyFloat × PyFloat × String × DetectionStatus × Option String :=
  (c.anchorLat, c.anchorLon, c.rep.id, c.rep.status, c.rep.blockId)

/-- The fields of a `Deduplicator`. -/
structure DedupState where
  clusters : List Cluster := []
  merges : ℕ := 0

variable [Py.Libm]

namespace Deduplicator

/-- One `add` call. -/
def step (radiusM : PyFloat) (s : DedupState) (d : GeoDetection) : Except Py.MathError DedupState := do
  let added ← add radiusM d s.clusters
  return { clusters := added.clusters, merges := if added.merged then s.merges + 1 else s.merges }

/-- A sequence of `add` calls. -/
def run (radiusM : PyFloat) (ds : List GeoDetection) : Except Py.MathError DedupState :=
  ds.foldlM (step radiusM) {}

end Deduplicator

/-! ## Groups -/

namespace Group

/-- The test for membership, which looks at the first member only. -/
def near (radiusM : PyFloat) (d : GeoDetection) (g : Group) : Except Py.MathError Bool :=
  g.cluster.near radiusM d

@[simp] theorem push_near (radiusM : PyFloat) (d d' : GeoDetection) (g : Group) :
    (g.push d').near radiusM d = g.near radiusM d := rfl

end Group

/-- The groups of the detections so far. -/
structure Grouped (radiusM : PyFloat) (ds : List GeoDetection) (s : DedupState) (gs : List Group) :
    Prop where
  clusters : s.clusters = gs.map Group.cluster
  conserved : gs.length + s.merges = ds.length
  perm : (gs.flatMap Group.members).Perm ds
  ordered : ∀ g ∈ gs, g.members.Sublist ds
  near : ∀ g ∈ gs, ∀ d ∈ g.members, g.near radiusM d = .ok true
  first : gs.Pairwise fun g g' ↦ ∀ d ∈ g'.members, g.near radiusM d = .ok false

namespace Grouped

variable {radiusM : PyFloat} {ds : List GeoDetection} {s : DedupState} {gs pre post : List Group}
  {g : Group} {d : GeoDetection}

theorem nil (radiusM : PyFloat) : Grouped radiusM [] {} [] where
  clusters := rfl
  conserved := rfl
  perm := List.Perm.refl _
  ordered := List.forall_mem_nil _
  near := List.forall_mem_nil _
  first := List.Pairwise.nil

/-- A detection that is near no anchor. -/
theorem start (h : Grouped radiusM ds s gs) (hfar : ∀ g ∈ gs, g.near radiusM d = .ok false)
    (hself : (⟨d, []⟩ : Group).near radiusM d = .ok true) :
    Grouped radiusM (ds ++ [d]) { s with clusters := s.clusters ++ [.start d] }
      (gs ++ [⟨d, []⟩]) where
  clusters := by
    rw [List.map_append, ← h.clusters]
    rfl
  conserved := by
    have hcount := h.conserved
    simp only [List.length_append, List.length_singleton]
    omega
  perm := by
    rw [List.flatMap_append]
    exact h.perm.append_right [d]
  ordered := by
    rw [List.forall_mem_append, List.forall_mem_singleton]
    exact ⟨fun g hg ↦ (h.ordered g hg).trans (List.sublist_append_left ds [d]),
      List.sublist_append_right ds [d]⟩
  near := by
    rw [List.forall_mem_append, List.forall_mem_singleton]
    refine ⟨h.near, ?_⟩
    exact List.forall_mem_singleton.mpr hself
  first := by
    rw [List.pairwise_append]
    refine ⟨h.first, List.pairwise_singleton _ _, fun g hg g' hg' ↦ ?_⟩
    rw [List.mem_singleton.mp hg']
    exact List.forall_mem_singleton.mpr (hfar g hg)

/-- A detection that joins the first group that is near. -/
theorem join (h : Grouped radiusM ds s (pre ++ g :: post))
    (hfar : ∀ g' ∈ pre, g'.near radiusM d = .ok false) (hnear : g.near radiusM d = .ok true) :
    Grouped radiusM (ds ++ [d])
      { clusters := (pre ++ g.push d :: post).map Group.cluster, merges := s.merges + 1 }
      (pre ++ g.push d :: post) where
  clusters := rfl
  conserved := by
    have hcount := h.conserved
    simp only [List.length_append, List.length_cons, List.length_nil] at hcount ⊢
    omega
  perm := by
    have hperm := h.perm.append_right [d]
    simp only [List.flatMap_append, List.flatMap_cons, Group.push_members, List.append_assoc]
      at hperm ⊢
    refine List.Perm.trans ?_ hperm
    apply List.Perm.append_left
    apply List.Perm.append_left
    exact List.perm_append_comm
  ordered := by
    intro g' hg'
    have hweak : ∀ g' ∈ pre ++ g :: post, g'.members.Sublist (ds ++ [d]) := fun g' hg' ↦
      (h.ordered g' hg').trans (List.sublist_append_left ds [d])
    rcases List.mem_append.mp hg' with hg' | hg'
    · exact hweak g' (List.mem_append_left _ hg')
    · rcases List.mem_cons.mp hg' with rfl | hg'
      · exact (h.ordered g (by simp)).append_right [d]
      · exact hweak g' (by simp [hg'])
  near := by
    have hold := h.near
    simp only [List.forall_mem_append, List.forall_mem_cons, Group.push_members,
      Group.push_near] at hold ⊢
    exact ⟨hold.1, ⟨hold.2.1, hnear, List.forall_mem_nil _⟩, hold.2.2⟩
  first := by
    have hold := h.first
    simp only [List.pairwise_append, List.pairwise_cons, List.forall_mem_cons, Group.push_members,
      Group.push_near, List.forall_mem_append] at hold ⊢
    exact ⟨hold.1, hold.2.1, fun g' hg' ↦
      ⟨⟨(hold.2.2 g' hg').1, hfar g' hg', List.forall_mem_nil _⟩, (hold.2.2 g' hg').2⟩⟩

/-! ## Runs -/

/-- A detection is at its own position. -/
theorem near_self (hexact : Cv.ExactAtZero) (hradius : PyFloat.lt (.fin 0) radiusM = true)
    (d : GeoDetection) : (⟨d, []⟩ : Group).near radiusM d = .ok true := by
  obtain ⟨lat, hlat, hlat'⟩ := d.lat_valid.exists_fin
  obtain ⟨lon, hlon, -⟩ := d.lon_valid.exists_fin
  have hdist : Cv.groundDistanceM d.lat d.lon d.lat d.lon = .ok (.fin 0) := by
    rw [hlat, hlon]
    exact Cv.groundDistanceM_self hexact hlat'
  have hle : PyFloat.le (.fin 0) radiusM = true := (Bool.and_eq_true_iff.mp hradius).1
  exact Py.bind_eq_ok.mpr ⟨.fin 0, hdist, congrArg Except.ok hle⟩

theorem step (hexact : Cv.ExactAtZero) (hradius : PyFloat.lt (.fin 0) radiusM = true)
    (h : Grouped radiusM ds s gs) (d : GeoDetection) :
    ∃ s' gs', Deduplicator.step radiusM s d = .ok s' ∧ Grouped radiusM (ds ++ [d]) s' gs' := by
  obtain ⟨added, hadded⟩ := Deduplicator.add_ok radiusM d s.clusters
  rcases Deduplicator.add_cases hadded with ⟨hfar, rfl⟩ | ⟨pre, c, post, hsplit, hfar, hnear, rfl⟩
  · refine ⟨_, _, Py.bind_eq_ok.mpr ⟨_, hadded, rfl⟩, h.start (d := d) ?_ (near_self hexact hradius d)⟩
    rw [h.clusters, List.forall_mem_map] at hfar
    exact hfar
  · rw [h.clusters, List.map_eq_append_iff] at hsplit
    obtain ⟨gpre, grest, rfl, rfl, hrest⟩ := hsplit
    rw [List.map_eq_cons_iff] at hrest
    obtain ⟨g, gpost, rfl, rfl, rfl⟩ := hrest
    have hjoin := h.join (List.forall_mem_map.mp hfar) hnear
    rw [List.map_append, List.map_cons, Group.cluster_push] at hjoin
    exact ⟨_, _, Py.bind_eq_ok.mpr ⟨_, hadded, rfl⟩, hjoin⟩

/-- A sequence of `add` calls never raises, and keeps the groups. -/
theorem run (hexact : Cv.ExactAtZero) (hradius : PyFloat.lt (.fin 0) radiusM = true)
    (ds : List GeoDetection) :
    ∃ s gs, Deduplicator.run radiusM ds = .ok s ∧ Grouped radiusM ds s gs := by
  induction ds using List.reverseRecOn with
  | nil => exact ⟨_, _, rfl, nil radiusM⟩
  | append_singleton ds d ih =>
      obtain ⟨s, gs, hrun, h⟩ := ih
      obtain ⟨s', gs', hstep, h'⟩ := h.step hexact hradius d
      exact ⟨s', gs', Fallible.foldlM_concat_eq_ok.mpr ⟨s, hrun, hstep⟩, h'⟩

end Grouped

/-! ## What stays -/

namespace Cluster

omit [Py.Libm] in
@[simp] theorem merged_status (c : Cluster) (d : GeoDetection) :
    (c.merged d).status = c.rep.status := by
  unfold merged
  split_ifs <;> rfl

omit [Py.Libm] in
@[simp] theorem identity_join (c : Cluster) (d : GeoDetection) :
    (c.join d).identity = c.identity := by
  simp [identity, join]

end Cluster

namespace Deduplicator

variable {radiusM : PyFloat} {s s' : DedupState} {d : GeoDetection} {ds : List GeoDetection}

theorem step_identity (h : step radiusM s d = .ok s') :
    s.clusters.map Cluster.identity <+: s'.clusters.map Cluster.identity := by
  obtain ⟨added, hadded, h⟩ := Py.bind_eq_ok.mp h
  cases h
  rcases add_cases hadded with ⟨-, rfl⟩ | ⟨pre, c, post, hsplit, -, -, rfl⟩
  · simp
  · simp [hsplit]

theorem foldlM_identity (h : ds.foldlM (step radiusM) s = .ok s') :
    s.clusters.map Cluster.identity <+: s'.clusters.map Cluster.identity := by
  induction ds generalizing s with
  | nil =>
      cases h
      exact List.prefix_refl _
  | cons d ds ih =>
      obtain ⟨t, ht, h⟩ := Py.bind_eq_ok.mp h
      exact (step_identity ht).trans (ih h)

end Deduplicator

/-! ## The invariants -/

/-- The anchor of the later cluster is more than the radius away from that of the earlier. -/
def Cluster.Apart (radiusM : PyFloat) (c c' : Cluster) : Prop :=
  ∃ dist, Cv.groundDistanceM c'.anchorLat c'.anchorLon c.anchorLat c.anchorLon = .ok dist ∧
    PyFloat.lt radiusM dist = true

/-- What holds of a deduplicator that was given these detections. -/
structure Deduplicates (radiusM : PyFloat) (ds : List GeoDetection) (s : DedupState) : Prop where
  conserved : s.clusters.length + s.merges = ds.length
  apart : s.clusters.Pairwise (Cluster.Apart radiusM)
  /-- So far as the platform computes distances in both directions alike. -/
  apart_swap : Cv.Symmetric →
    s.clusters.Pairwise fun c c' ↦ Cluster.Apart radiusM c c' ∧ Cluster.Apart radiusM c' c
  /-- A representative is within the radius of its anchor. -/
  represented : ∀ c ∈ s.clusters, ∃ dist,
    Cv.groundDistanceM c.rep.lat c.rep.lon c.anchorLat c.anchorLon = .ok dist ∧
      PyFloat.le dist radiusM = true
  /-- Every detection is in one group, the first whose anchor is within the radius. -/
  grouped : ∃ gs : List Group, s.clusters = gs.map Group.cluster ∧
    (gs.flatMap Group.members).Perm ds ∧
    (∀ g ∈ gs, g.members.Sublist ds ∧ Group.EarliestBest g.best g.members) ∧
    ∀ pre g post, gs = pre ++ g :: post → ∀ d ∈ g.members,
      (∀ g' ∈ pre, g'.cluster.near radiusM d = .ok false) ∧ g.cluster.near radiusM d = .ok true

namespace Grouped

variable {radiusM : PyFloat} {ds : List GeoDetection} {s : DedupState} {gs : List Group} {c : Cluster}
  {d : GeoDetection}

theorem near_true (h : c.near radiusM d = .ok true) : ∃ dist,
    Cv.groundDistanceM d.lat d.lon c.anchorLat c.anchorLon = .ok dist ∧
      PyFloat.le dist radiusM = true := by
  obtain ⟨dist, hdist, h⟩ := Py.bind_eq_ok.mp h
  exact ⟨dist, hdist, Except.ok.inj h⟩

/-- Whoever is not near is further away than the radius: a distance is never `nan`. -/
theorem near_false (hradius : PyFloat.lt (.fin 0) radiusM = true)
    (h : c.near radiusM d = .ok false) : ∃ dist,
    Cv.groundDistanceM d.lat d.lon c.anchorLat c.anchorLon = .ok dist ∧
      PyFloat.lt radiusM dist = true := by
  obtain ⟨dist, hdist, h⟩ := Py.bind_eq_ok.mp h
  have hnan : radiusM ≠ .nan := by
    rintro rfl
    cases hradius
  exact ⟨dist, hdist, PyFloat.lt_of_not_le (Cv.groundDistanceM_ne_nan hdist) hnan (Except.ok.inj h)⟩

theorem apart (hradius : PyFloat.lt (.fin 0) radiusM = true) (h : Grouped radiusM ds s gs) :
    s.clusters.Pairwise (Cluster.Apart radiusM) := by
  rw [h.clusters, List.pairwise_map]
  exact h.first.imp fun hfar ↦ near_false hradius (hfar _ List.mem_cons_self)

theorem apart_swap (hsymm : Cv.Symmetric) {c c' : Cluster} (h : Cluster.Apart radiusM c c') :
    Cluster.Apart radiusM c' c := by
  obtain ⟨dist, hdist, hlt⟩ := h
  obtain ⟨lat₁, hlat₁, h₁⟩ := c.anchor_valid.1.exists_fin
  obtain ⟨lon₁, hlon₁, h₂⟩ := c.anchor_valid.2.exists_fin
  obtain ⟨lat₂, hlat₂, h₃⟩ := c'.anchor_valid.1.exists_fin
  obtain ⟨lon₂, hlon₂, h₄⟩ := c'.anchor_valid.2.exists_fin
  refine ⟨dist, ?_, hlt⟩
  rw [hlat₁, hlon₁, hlat₂, hlon₂] at hdist ⊢
  rw [Cv.groundDistanceM_swap hsymm h₁ h₂ h₃ h₄, hdist]

theorem firstMatch (h : Grouped radiusM ds s gs) {pre post : List Group} {g : Group}
    (hsplit : gs = pre ++ g :: post) (hd : d ∈ g.members) :
    (∀ g' ∈ pre, g'.cluster.near radiusM d = .ok false) ∧ g.cluster.near radiusM d = .ok true := by
  subst hsplit
  have hfirst := (List.pairwise_append.mp h.first).2.2
  exact ⟨fun g' hg' ↦ hfirst g' hg' g List.mem_cons_self d hd, h.near g (by simp) d hd⟩

theorem deduplicates (hradius : PyFloat.lt (.fin 0) radiusM = true) (h : Grouped radiusM ds s gs) :
    Deduplicates radiusM ds s where
  conserved := by rw [h.clusters, List.length_map, h.conserved]
  apart := h.apart hradius
  apart_swap hsymm := (h.apart hradius).imp fun hapart ↦ ⟨hapart, apart_swap hsymm hapart⟩
  represented := by
    rw [h.clusters, List.forall_mem_map]
    exact fun g hg ↦ near_true (h.near g hg g.best g.best_mem)
  grouped := ⟨gs, h.clusters, h.perm, fun g hg ↦ ⟨h.ordered g hg, g.best_spec⟩,
    fun _ _ _ hsplit _ hd ↦ h.firstMatch hsplit hd⟩

end Grouped

/-- **Deduplication.**  After every sequence of `add` calls the clusters are apart, stand for the
groups of the detections that are nearest first, and have kept their identities. -/
theorem deduplication_never_drifts {radiusM : PyFloat} (hexact : Cv.ExactAtZero)
    (hradius : PyFloat.lt (.fin 0) radiusM = true) (ds : List GeoDetection) :
    ∃ s, Deduplicator.run radiusM ds = .ok s ∧ Deduplicates radiusM ds s ∧
      ∀ more, ∃ s', Deduplicator.run radiusM (ds ++ more) = .ok s' ∧
        s.clusters.map Cluster.identity <+: s'.clusters.map Cluster.identity := by
  obtain ⟨s, gs, hrun, h⟩ := Grouped.run hexact hradius ds
  refine ⟨s, hrun, h.deduplicates hradius, fun more ↦ ?_⟩
  obtain ⟨s', gs', hrun', -⟩ := Grouped.run hexact hradius (ds ++ more)
  refine ⟨s', hrun', ?_⟩
  rw [Deduplicator.run, Fallible.foldlM_append_of_ok hrun] at hrun'
  exact Deduplicator.foldlM_identity hrun'

/-- A detection on the equator. -/
def pin (id : String) (lon : PyFloat) (h : LonValid lon) (conf : PyFloat) (hconf : ConfValid conf) :
    GeoDetection where
  id := id
  lat := .fin 0
  lon := lon
  cls := "vine"
  conf := conf
  errorM := .fin 0
  srcFrame := "f"
  ts := .fin 0
  lat_valid := latValid_zero
  lon_valid := h
  conf_valid := hconf
  error_valid := errorValid_zero

/-- Two sightings of one pin, and a pin one degree further. -/
def sightings : List GeoDetection :=
  [pin "a" (.fin 0) lonValid_zero (.fin 0) (by decide),
    pin "b" (.fin 1) (by decide) (.fin 1) confValid_one,
    pin "c" (.fin 0) lonValid_zero (.fin 1) confValid_one]

omit [Py.Libm] in
theorem sightings_never_drift :
    ∃ s, @Deduplicator.run Cv.equator (.fin 5) sightings = .ok s ∧
      @Deduplicates Cv.equator (.fin 5) sightings s ∧
      ∀ more, ∃ s', @Deduplicator.run Cv.equator (.fin 5) (sightings ++ more) = .ok s' ∧
        s.clusters.map Cluster.identity <+: s'.clusters.map Cluster.identity :=
  @deduplication_never_drifts Cv.equator (.fin 5) Cv.exactAtZero_equator (by decide) sightings

end DroneComms.Scout
