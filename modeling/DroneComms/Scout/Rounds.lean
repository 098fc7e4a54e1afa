import DroneComms.Scout.Pipeline

/-!
# What a round of the pipeline can do

The round of the loop for a detection drops it, raises before it is placed, or places,
stores and emits it.  Everything about runs is derived from this case analysis
(`observe_round`) and from what a detection frame of a pin is decoded to.
-/

namespace DroneComms.Scout.ScoutPipeline

open Py (PyFloat Value Interpreter JsonReader)
open Mesh (Envelope Pydantic)

variable {p : ScoutPipeline}

/-! ## The envelope of a pin -/

/-- The envelope that the frame of a pin is decoded to. -/
def envelopeOf (d : GeoDetection) : Envelope where
  msgId := d.id
  ts := d.ts
  sourceUid := sourceOf d.blockId
  kind := .marker
  payload := [("node", .dict [("uid", .str (sourceOf d.blockId)), ("callsign", .str d.cls)]),
    ("position", .dict (Mesh.Position.dump { lat := d.lat, lon := d.lon, ce := d.errorM })),
    ("detection", .dict (Mesh.Detection.dump { label := d.cls, confidence := d.conf }))]

theorem position_valid (d : GeoDetection) :
    (Mesh.Position.mk d.lat d.lon (.fin 0) d.errorM Mesh.unknownErrorM none none).Valid :=
  ⟨d.lat_valid, d.lon_valid, by simp, by simp⟩

theorem detection_valid (d : GeoDetection) : (Mesh.Detection.mk d.cls d.conf none none).Valid :=
  ⟨d.conf_valid, by simp⟩

/-- The fields of the frame of a pin are read back. -/
theorem readFields_frame (py : Interpreter) (pyd : Pydantic) (d : GeoDetection) :
    Mesh.DetectionFrame.readFields py pyd (frame d) =
      .ok { src := sourceOf d.blockId, msgId := d.id, ts := d.ts,
            position := { lat := d.lat, lon := d.lon, ce := d.errorM },
            detection := { label := d.cls, confidence := d.conf } } := by
  have hposition : Mesh.Frames.checkedPosition { lat := d.lat, lon := d.lon, ce := d.errorM } =
      .ok { lat := d.lat, lon := d.lon, ce := d.errorM } :=
    Mesh.Frames.checkedPosition_of_valid (position_valid d)
  have hdetection : Mesh.Frames.checkedDetection { label := d.cls, confidence := d.conf } =
      .ok { label := d.cls, confidence := d.conf } :=
    Mesh.Frames.checkedDetection_of_valid (detection_valid d)
  unfold Mesh.DetectionFrame.readFields
  exact Py.bind_eq_ok.mpr ⟨_, rfl, Py.bind_eq_ok.mpr ⟨_, rfl, Py.bind_eq_ok.mpr ⟨_, rfl,
    Py.bind_eq_ok.mpr ⟨_, rfl, Py.bind_eq_ok.mpr ⟨_, rfl, Py.bind_eq_ok.mpr ⟨_, rfl,
    Py.bind_eq_ok.mpr ⟨_, rfl, Py.bind_eq_ok.mpr ⟨_, rfl, Py.bind_eq_ok.mpr ⟨_, hposition,
    Py.bind_eq_ok.mpr ⟨_, rfl, Py.bind_eq_ok.mpr ⟨_, rfl, Py.bind_eq_ok.mpr ⟨_, rfl,
    Py.bind_eq_ok.mpr ⟨_, rfl, Py.bind_eq_ok.mpr ⟨_, hdetection, rfl⟩⟩⟩⟩⟩⟩⟩⟩⟩⟩⟩⟩⟩⟩

/-- The codec accepts the frame of every pin. -/
theorem toEnvelope_eq (d : GeoDetection) : p.toEnvelope d = .ok (envelopeOf d) := by
  have hkeys : Py.Json.WellKeyed (.dict (frame d)) := by
    simp [frame, Py.Json.WellKeyed, Py.Json.WellKeyedMembers]
  have hload : Mesh.Frames.loadFrame p.json Mesh.DetectionFrame.required
      (Py.dumpsBytes p.py (.dict (frame d))) = .ok (frame d) := by
    rw [Mesh.Frames.loadFrame, p.json.loadsBytes_dumps _ hkeys]
    rfl
  have hread := congrArg Mesh.Cot.guarded (readFields_frame p.py p.pyd d)
  rw [toEnvelope, Mesh.DetectionFrame.decode, hload]
  exact Py.bind_eq_ok.mpr ⟨_, rfl, Py.bind_eq_ok.mpr ⟨_, hread, rfl⟩⟩

/-- What the sink is handed. -/
theorem emitPin_eq (emitted : List (String × Envelope)) (d : GeoDetection) :
    p.emitPin emitted d = match p.emit with
      | none => (emitted, .ok ())
      | some sink => (emitted ++ [(d.id, envelopeOf d)],
          if sink (emitted.map Prod.snd) (envelopeOf d) then .error .sink else .ok ()) := by
  unfold emitPin
  cases p.emit with
  | none => rfl
  | some sink => simp only [toEnvelope_eq]

/-! ## The pin that is stored -/

/-- The status of an operator is kept. -/
theorem triaged_eq (existing : Option GeoDetection) {canonical : GeoDetection}
    (hnew : canonical.status = .new) : triaged existing canonical =
      .ok { canonical with status := (existing.map GeoDetection.status).getD .new } := by
  cases existing with
  | none =>
      simp only [triaged, Option.map_none, Option.getD_none, ← hnew]
  | some d =>
      by_cases h : d.status = .new
      · rw [Option.map_some, Option.getD_some, h, ← hnew]
        exact if_pos h
      · simp only [triaged, if_neg h, GeoDetection.withStatus_text, Option.map_some,
          Option.getD_some]

theorem exists_triaged (existing : Option GeoDetection) (canonical : GeoDetection) :
    ∃ status, triaged existing canonical = .ok { canonical with status := status } := by
  cases existing with
  | none => exact ⟨canonical.status, rfl⟩
  | some d =>
      by_cases h : d.status = .new
      · exact ⟨canonical.status, if_pos h⟩
      · exact ⟨d.status, (if_neg h).trans (GeoDetection.withStatus_text _ _)⟩

/-! ## The round -/

variable [Py.Libm]

/-- What a round of the loop can do to a state, and how it ends. -/
inductive Round (p : ScoutPipeline) (poses : List FusedPose) (det : PixelDetection)
    (s : PipelineState p.store) : PipelineState p.store → Except ScoutError Unit → Prop
  /-- No pose is near in time. -/
  | skew (h : TimeSync.align p.params.syncMaxSkewS poses det.ts = none) :
      Round p poses det s
        { s with stats.detectionsIn := s.stats.detectionsIn + 1, dropped := s.dropped + 1 } (.ok ())
  /-- The projection raises. -/
  | raised (fused : FusedPose) (e : Py.MathError)
      (h : TimeSync.align p.params.syncMaxSkewS poses det.ts = some fused)
      (hproject : p.project fused det = .error e) :
      Round p poses det s
        { s with stats.detectionsIn := s.stats.detectionsIn + 1 } (.error (.math e))
  /-- The ray does not meet the ground. -/
  | horizon (fused : FusedPose)
      (h : TimeSync.align p.params.syncMaxSkewS poses det.ts = some fused)
      (hproject : p.project fused det = .ok none) :
      Round p poses det s
        { s with
          stats.detectionsIn := s.stats.detectionsIn + 1
          stats.droppedHorizon := s.stats.droppedHorizon + 1 } (.ok ())
  /-- The fix is no valid position. -/
  | invalid (fused : FusedPose) (fix : Cv.GroundFix PyFloat)
      (h : TimeSync.align p.params.syncMaxSkewS poses det.ts = some fused)
      (hproject : p.project fused det = .ok (some fix)) (hfix : ¬ GeoDetection.FixValid fix) :
      Round p poses det s
        { s with
          stats.detectionsIn := s.stats.detectionsIn + 1
          stats.projected := s.stats.projected + 1
          nextId := s.nextId + 1 } (.error .validation)
  /-- The detection is placed, stored and emitted. -/
  | placed (fused : FusedPose) (fix : Cv.GroundFix PyFloat) (geo : GeoDetection)
      (added : Deduplicator.Added) (d : GeoDetection)
      (h : TimeSync.align p.params.syncMaxSkewS poses det.ts = some fused)
      (hproject : p.project fused det = .ok (some fix)) (hfix : GeoDetection.FixValid fix)
      (hgeo : GeoDetection.ofFix (p.ids s.nextId) p.blockId det fix = .ok geo)
      (hadd : Deduplicator.add p.params.dedupRadiusM geo s.clusters = .ok added)
      (htriaged : triaged (p.store.get s.store added.canonical.id) added.canonical = .ok d) :
      Round p poses det s
        { s with
          stats.detectionsIn := s.stats.detectionsIn + 1
          stats.projected := s.stats.projected + 1
          nextId := s.nextId + 1
          clusters := added.clusters
          merges := s.merges + if added.merged then 1 else 0
          placed := s.placed ++ [(geo, added.canonical.id)]
          store := p.store.add s.store d
          emitted := (p.emitPin s.emitted d).1 } (p.emitPin s.emitted d).2

/-- Every round is one of these. -/
theorem observe_round (poses : List FusedPose) (s : PipelineState p.store) (det : PixelDetection) :
    Round p poses det s (p.observe poses s det).1 (p.observe poses s det).2 := by
  unfold observe
  cases halign : TimeSync.align p.params.syncMaxSkewS poses det.ts with
  | none => exact .skew halign
  | some fused =>
      simp only
      cases hproject : p.project fused det with
      | error e => exact .raised fused e halign hproject
      | ok r =>
          cases r with
          | none => exact .horizon fused halign hproject
          | some fix =>
              simp only [place]
              by_cases hfix : GeoDetection.FixValid fix
              · obtain ⟨geo, hgeo⟩ : ∃ geo,
                    GeoDetection.ofFix (p.ids s.nextId) p.blockId det fix = .ok geo :=
                  ⟨_, dif_pos hfix⟩
                obtain ⟨added, hadd⟩ :=
                  Deduplicator.add_ok p.params.dedupRadiusM geo s.clusters
                obtain ⟨status, htriaged⟩ :=
                  exists_triaged (p.store.get s.store added.canonical.id) added.canonical
                rw [hgeo]
                simp only [hadd, storePin, htriaged]
                exact .placed fused fix geo added _ halign hproject hfix hgeo hadd htriaged
              · have hgeo : GeoDetection.ofFix (p.ids s.nextId) p.blockId det fix =
                    .error .validation := dif_neg hfix
                rw [hgeo]
                exact .invalid fused fix halign hproject hfix

/-- What every round keeps is kept by the loop, also by one that an exception ends. -/
theorem observeAll_invariant {poses : List FusedPose} {I : PipelineState p.store → Prop}
    (hround : ∀ {det s s' r}, Round p poses det s s' r → I s → I s') {s : PipelineState p.store}
    (h : I s) (dets : List PixelDetection) : I (p.observeAll poses s dets).1 := by
  induction dets generalizing s with
  | nil => exact h
  | cons det dets ih =>
      have hnext := hround (observe_round poses s det) h
      unfold observeAll
      rcases hobserve : p.observe poses s det with ⟨s', e | u⟩
      · rw [hobserve] at hnext
        exact hnext
      · rw [hobserve] at hnext
        exact ih hnext

/-- A batch is the loop, and the sums of its counters if nothing raised. -/
theorem ingest_cases (s : PipelineState p.store) (b : Batch) :
    (∃ s' e, p.observeAll b.buffered { s with dropped := 0 } b.inOrder = (s', .error e) ∧
      p.ingest s b = (s', .error e)) ∨
    ∃ s', p.observeAll b.buffered { s with dropped := 0 } b.inOrder = (s', .ok ()) ∧
      p.ingest s b = ({ s' with
        stats.droppedSkew := s'.stats.droppedSkew + s'.dropped
        stats.merges := s'.merges
        stats.pins := s'.clusters.length },
        .ok (s'.clusters.map fun c ↦ (p.store.get s'.store c.rep.id).getD c.rep)) := by
  unfold ingest
  rcases hloop : p.observeAll b.buffered { s with dropped := 0 } b.inOrder with ⟨s', e | u⟩
  · exact .inl ⟨s', e, rfl, rfl⟩
  · exact .inr ⟨s', rfl, rfl⟩

/-- What every round and every change of the counters keeps is kept by a batch. -/
theorem ingest_invariant {I : PipelineState p.store → Prop}
    (hround : ∀ {poses det s s' r}, Round p poses det s s' r → I s → I s')
    (hcounters : ∀ {s} dropped stats, I s → I { s with dropped := dropped, stats := stats })
    {s : PipelineState p.store} (h : I s) (b : Batch) : I (p.ingest s b).1 := by
  have hloop : I (p.observeAll b.buffered { s with dropped := 0 } b.inOrder).1 :=
    observeAll_invariant hround (hcounters 0 s.stats h) b.inOrder
  rcases ingest_cases s b with ⟨s', e, hloop', hingest⟩ | ⟨s', hloop', hingest⟩
  · rw [hingest]
    rwa [hloop'] at hloop
  · rw [hingest]
    rw [hloop'] at hloop
    exact hcounters _ _ hloop

end DroneComms.Scout.ScoutPipeline
