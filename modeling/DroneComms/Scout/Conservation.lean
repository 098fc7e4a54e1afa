import DroneComms.Scout.Rounds

/-!
# Detections are conserved

With a sink that does not raise, a batch goes through exactly when every detection in it
is placeable: dropped for its skew, dropped at the horizon, or projected to a valid
position.  Then the counters add up.  A fix beyond the antimeridian is no valid position,
and one such detection loses the rest of its batch.
-/

namespace DroneComms.Scout

/-- Every detection is counted once, and every projected one is a pin or a merge. -/
def PipelineStats.Conserved (stats : PipelineStats) : Prop :=
  stats.detectionsIn = stats.projected + stats.droppedSkew + stats.droppedHorizon ∧
    stats.projected = stats.pins + stats.merges

namespace ScoutPipeline

open Py (PyFloat)

section

variable [Py.Libm] (p : ScoutPipeline)

/-- The sink does not raise. -/
def Quiet : Prop := ∀ sink ∈ p.emit, ∀ handed env, sink handed env = false

/-- A detection is dropped, or projected to a valid position. -/
def placeable (poses : List FusedPose) (det : PixelDetection) : Bool :=
  match TimeSync.align p.params.syncMaxSkewS poses det.ts with
  | none => true
  | some fused =>
      match p.project fused det with
      | .error _ => false
      | .ok none => true
      | .ok (some fix) => decide (GeoDetection.FixValid fix)

/-- The batches of a run, until one raises. -/
def ingestAll : PipelineState p.store → List Batch → Except ScoutError (PipelineState p.store)
  | s, [] => .ok s
  | s, b :: bs =>
      match p.ingest s b with
      | (_, .error e) => .error e
      | (s, .ok _) => ingestAll s bs

/-- A run does not raise, and conserves detections. -/
def Conserves (batches : List Batch) : Prop :=
  ∃ s, p.ingestAll p.init batches = .ok s ∧ s.stats.Conserved

variable {p}

/-! ## One round -/

/-- A round ends without an exception exactly for a placeable detection. -/
theorem Round.ok_iff (hquiet : p.Quiet) {poses : List FusedPose} {det : PixelDetection}
    {s s' : PipelineState p.store} {r : Except ScoutError Unit} (h : Round p poses det s s' r) :
    r = .ok () ↔ p.placeable poses det = true := by
  unfold placeable
  cases h with
  | skew h => simp [h]
  | raised fused e h hproject => simp [h, hproject]
  | horizon fused h hproject => simp [h, hproject]
  | invalid fused fix h hproject hfix => simp [h, hproject, hfix]
  | placed fused fix geo added d h hproject hfix =>
      simp only [h, hproject, hfix, decide_true, iff_true, emitPin_eq]
      cases hemit : p.emit with
      | none => rfl
      | some sink => simp [hquiet sink (by simp [hemit])]

/-- The counters inside a batch, whose drops for skew are not yet summed up. -/
structure Sums (s : PipelineState p.store) : Prop where
  detections : s.stats.detectionsIn =
    s.stats.projected + s.stats.droppedSkew + s.stats.droppedHorizon + s.dropped
  projected : s.stats.projected = s.clusters.length + s.merges

theorem length_add {radiusM : PyFloat} {d : GeoDetection} {clusters : List Cluster}
    {added : Deduplicator.Added} (h : Deduplicator.add radiusM d clusters = .ok added) :
    added.clusters.length + (if added.merged then 1 else 0) = clusters.length + 1 := by
  rcases Deduplicator.add_cases h with ⟨-, rfl⟩ | ⟨pre, c, post, rfl, -, -, rfl⟩
  · simp
  · simp only [List.length_append, List.length_cons]
    rfl

/-- A round without an exception keeps the sums. -/
theorem Sums.round {poses : List FusedPose} {det : PixelDetection} {s s' : PipelineState p.store}
    (hround : Round p poses det s s' (.ok ())) (h : Sums s) : Sums s' := by
  obtain ⟨hdet, hproj⟩ := h
  generalize hr : (Except.ok () : Except ScoutError Unit) = r at hround
  cases hround with
  | skew => constructor <;> simp only <;> omega
  | raised => cases hr
  | horizon => constructor <;> simp only <;> omega
  | invalid => cases hr
  | placed fused fix geo added d _ _ _ _ hadd =>
      have hlen := length_add hadd
      constructor <;> simp only <;> omega

/-! ## Batches -/

/-- The loop goes through exactly when every detection is placeable. -/
theorem observeAll_ok_iff (hquiet : p.Quiet) (poses : List FusedPose) (s : PipelineState p.store)
    (dets : List PixelDetection) : (p.observeAll poses s dets).2 = .ok () ↔
      ∀ det ∈ dets, p.placeable poses det = true := by
  induction dets generalizing s with
  | nil => simp [observeAll]
  | cons det dets ih =>
      have hround := (observe_round poses s det).ok_iff hquiet
      unfold observeAll
      rw [List.forall_mem_cons, ← hround]
      rcases p.observe poses s det with ⟨s', e | u⟩
      · simp
      · simpa using ih s'

theorem Sums.observeAll {poses : List FusedPose} {s : PipelineState p.store} (h : Sums s)
    {dets : List PixelDetection} (hok : (p.observeAll poses s dets).2 = .ok ()) :
    Sums (p.observeAll poses s dets).1 := by
  induction dets generalizing s with
  | nil => exact h
  | cons det dets ih =>
      have hround := observe_round poses s det
      unfold ScoutPipeline.observeAll at hok ⊢
      rcases hobserve : p.observe poses s det with ⟨s', e | u⟩
      · rw [hobserve] at hok
        cases hok
      · rw [hobserve] at hok hround
        exact ih (h.round hround) hok

/-- The counters between two batches. -/
structure Settled (s : PipelineState p.store) : Prop where
  conserved : s.stats.Conserved
  pins : s.stats.pins = s.clusters.length
  merges : s.stats.merges = s.merges

/-- A batch goes through exactly when every detection in it is placeable, and conserves
them. -/
theorem ingest_settled (hquiet : p.Quiet) {s : PipelineState p.store} (h : Settled s) (b : Batch) :
    (∃ s' pins, p.ingest s b = (s', .ok pins) ∧ Settled s' ∧
      ∀ det ∈ b.detections, p.placeable b.poses det = true) ∨
    ∃ s' e, p.ingest s b = (s', .error e) ∧
      ∃ det ∈ b.detections, p.placeable b.poses det = false := by
  have hbuffer : b.buffered = b.poses := TimeSync.buffer_eq_self (le_max_right _ _)
  have hmem : ∀ det, det ∈ b.inOrder ↔ det ∈ b.detections := fun _ ↦ List.mem_insertionSort _
  have hok := observeAll_ok_iff hquiet b.buffered { s with dropped := 0 } b.inOrder
  have hsums : Sums { s with dropped := 0 } :=
    ⟨h.conserved.1, by rw [h.conserved.2, h.pins, h.merges]⟩
  simp only [hbuffer, hmem] at hok
  rcases ingest_cases s b with ⟨s', e, hloop, hingest⟩ | ⟨s', hloop, hingest⟩
  · refine .inr ⟨s', e, hingest, ?_⟩
    rw [hbuffer] at hloop
    rw [hloop] at hok
    by_contra hall
    push Not at hall
    have hend := hok.mpr fun det hdet ↦ by simpa using hall det hdet
    cases hend
  · rw [hbuffer] at hloop
    have hend : (p.observeAll b.poses { s with dropped := 0 } b.inOrder).2 = .ok () := by
      rw [hloop]
    have hafter : Sums s' := by
      have hsums' := hsums.observeAll hend
      rwa [hloop] at hsums'
    refine .inl ⟨_, _, hingest, ⟨⟨?_, hafter.projected⟩, rfl, rfl⟩, hok.mp hend⟩
    have hdetections := hafter.detections
    simp only
    omega

/-- The batches go through exactly when every detection in them is placeable, and conserve
them. -/
theorem ingestAll_iff (hquiet : p.Quiet) {s : PipelineState p.store} (h : Settled s)
    (batches : List Batch) : (∃ s', p.ingestAll s batches = .ok s' ∧ s'.stats.Conserved) ↔
      ∀ b ∈ batches, ∀ det ∈ b.detections, p.placeable b.poses det = true := by
  induction batches generalizing s with
  | nil => simp [ingestAll, h.conserved]
  | cons b bs ih =>
      rw [List.forall_mem_cons]
      rcases ingest_settled hquiet h b with
        ⟨s', pins, hingest, hsettled, hall⟩ | ⟨s', e, hingest, det, hdet, hno⟩
      · simp only [ingestAll, hingest, ih hsettled, and_iff_right hall]
      · simp only [ingestAll, hingest, reduceCtorEq, false_and, exists_false, false_iff]
        intro hall
        rw [hall.1 det hdet] at hno
        cases hno

omit [Py.Libm] in
theorem settled_init : Settled p.init := ⟨⟨rfl, rfl⟩, rfl, rfl⟩

/-- A run does not raise and conserves detections exactly when every detection of every
batch is placeable. -/
theorem conserves_iff (hquiet : p.Quiet) (batches : List Batch) : p.Conserves batches ↔
    ∀ b ∈ batches, ∀ det ∈ b.detections, p.placeable b.poses det = true :=
  ingestAll_iff hquiet settled_init batches

end

theorem samplePipeline_quiet : (samplePipeline none).Quiet := by
  rintro sink ⟨⟩

/-- On the equator, away from the antimeridian, the detection is placed. -/
theorem conserves_eastward : @Conserves sampleLibm (samplePipeline none) [eastwardBatch 0] := by
  refine (@conserves_iff sampleLibm _ samplePipeline_quiet _).mpr ?_
  simp only [eastwardBatch, List.forall_mem_singleton]
  decide +kernel

/-- A camera on the antimeridian looks at a longitude beyond it, which is refused. -/
theorem antimeridian_aborts : ¬ @Conserves sampleLibm (samplePipeline none) [eastwardBatch 180] := by
  intro h
  have hplaceable := (@ingestAll_iff sampleLibm _ samplePipeline_quiet _ settled_init _).mp h
  simp only [eastwardBatch, List.forall_mem_singleton] at hplaceable
  revert hplaceable
  decide +kernel

end ScoutPipeline

end DroneComms.Scout
