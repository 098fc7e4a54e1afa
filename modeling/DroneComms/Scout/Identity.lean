import DroneComms.Mesh.CotIdentity
import DroneComms.Scout.Conservation
import DroneComms.Scout.Triage

/-!
# The identity of a pin on the map

A marker is identified on the map by the uid of its CoT event, which is the source of the
envelope, with the id of a track behind it if there is one.  The frame of a pin has no
track, and its source is that of the whole pipeline.  So all pins have one uid.
-/

namespace DroneComms.Scout.ScoutPipeline

open Py (PyFloat)
open Mesh (Envelope)

variable {p : ScoutPipeline}

/-! ## The uid of an event -/

/-- The marker codec writes the uid that is computed from an envelope. -/
def WritesUid (py : Py.Interpreter) (env : Envelope) : Prop :=
  ∀ et markerStaleS b, (makeMarkerCodec py et markerStaleS).encode env = .ok b →
    ∃ el, b = Py.Xml.tostring el ∧ el.get "uid" = some (Mesh.Cot.eventUid py env)

theorem writesUid (py : Py.Interpreter) (env : Envelope) : WritesUid py env := by
  intro et markerStaleS b h
  obtain ⟨el, hel, rfl⟩ := Mesh.Cot.encode_eq_ok.mp h
  obtain ⟨-, hevent, -⟩ := Mesh.Cot.encodeEnvelope_eq_ok hel
  obtain ⟨time, stale, -, -, hattrib⟩ := Mesh.CotNaming.event_eq_ok.mp hevent
  refine ⟨el, rfl, ?_⟩
  rw [Py.Element.get, hattrib]
  rfl

/-- The uid of a pin is the source of the pipeline. -/
theorem eventUid_envelopeOf (py : Py.Interpreter) (d : GeoDetection) :
    Mesh.Cot.eventUid py (envelopeOf d) = sourceOf d.blockId := rfl

/-- Two events have one uid exactly when they are about one pin. -/
def Identifies (p : ScoutPipeline) (emitted : List (String × Envelope)) : Prop :=
  ∀ a ∈ emitted, ∀ b ∈ emitted,
    Mesh.Cot.eventUid p.py a.2 = Mesh.Cot.eventUid p.py b.2 ↔ a.1 = b.1

/-! ## What a run hands to the sink -/

/-- The sink is handed the pin of every detection that is placed, under one uid. -/
structure Emits (s : PipelineState p.store) : Prop where
  silent : p.emit = none → s.emitted = []
  pins : p.emit ≠ none → s.emitted.map Prod.fst = s.placed.map Prod.snd
  source : ∀ e ∈ s.emitted, Mesh.Cot.eventUid p.py e.2 = sourceOf p.blockId

theorem Emits.frame {s s' : PipelineState p.store} (h : Emits s) (hemitted : s'.emitted = s.emitted)
    (hplaced : s'.placed = s.placed) : Emits s' where
  silent hnone := hemitted.trans (h.silent hnone)
  pins hsome := by
    rw [hemitted, hplaced]
    exact h.pins hsome
  source e he := h.source e (hemitted ▸ he)

/-- A stored pin has the id and the block of the canonical detection. -/
theorem of_triaged {existing : Option GeoDetection} {canonical d : GeoDetection}
    (h : triaged existing canonical = .ok d) : d.id = canonical.id ∧ d.blockId = canonical.blockId := by
  obtain ⟨status, hstatus⟩ := exists_triaged existing canonical
  rw [hstatus] at h
  cases h
  exact ⟨rfl, rfl⟩

/-- A placed detection is handed over with its pin. -/
theorem Emits.place {s s' : PipelineState p.store} (h : Emits s) (geo d : GeoDetection)
    (hblock : d.blockId = p.blockId) (hplaced : s'.placed = s.placed ++ [(geo, d.id)])
    (hemitted : s'.emitted = (p.emitPin s.emitted d).1) : Emits s' := by
  rw [emitPin_eq] at hemitted
  cases hemit : p.emit with
  | none =>
      rw [hemit] at hemitted
      refine ⟨fun _ ↦ hemitted.trans (h.silent hemit), fun hsome ↦ (hsome hemit).elim, ?_⟩
      intro e he
      rw [hemitted] at he
      exact h.source e he
  | some sink =>
      rw [hemit] at hemitted
      refine ⟨fun hnone ↦ ?_, fun hsome ↦ ?_, fun e he ↦ ?_⟩
      · rw [hemit] at hnone
        cases hnone
      · rw [hemitted, hplaced, List.map_append, List.map_append, h.pins hsome]
        rfl
      · rw [hemitted] at he
        rcases List.mem_append.mp he with he | he
        · exact h.source e he
        · rw [List.mem_singleton.mp he, eventUid_envelopeOf, hblock]

/-- The pins of what is emitted are those of what is placed. -/
theorem Emits.onePin_iff {s : PipelineState p.store} (h : Emits s) (hemit : p.emit ≠ none) :
    (∀ a ∈ s.emitted, ∀ b ∈ s.emitted, a.1 = b.1) ↔ ∀ a ∈ s.placed, ∀ b ∈ s.placed, a.2 = b.2 :=
  calc (∀ a ∈ s.emitted, ∀ b ∈ s.emitted, a.1 = b.1)
    _ ↔ ∀ a ∈ s.emitted.map Prod.fst, ∀ b ∈ s.emitted.map Prod.fst, a = b := by
        simp only [List.forall_mem_map]
    _ ↔ ∀ a ∈ s.placed.map Prod.snd, ∀ b ∈ s.placed.map Prod.snd, a = b := by
        rw [h.pins hemit]
    _ ↔ ∀ a ∈ s.placed, ∀ b ∈ s.placed, a.2 = b.2 := by
        simp only [List.forall_mem_map]

/-! ## Without a sink -/

/-- The pipeline without its sink. -/
abbrev silent (p : ScoutPipeline) : ScoutPipeline := { p with emit := none }

/-- The state without what the sink was handed. -/
def muted {S : Store} (s : PipelineState S) : PipelineState S :=
  { s with emitted := [] }

theorem storePin_silent (hquiet : p.Quiet) (s : PipelineState p.store) (canonical : GeoDetection) :
    p.silent.storePin (muted s) canonical = (p.storePin s canonical).map muted id := by
  unfold storePin
  have htriaged : triaged (p.silent.store.get (muted s).store canonical.id) canonical =
    triaged (p.store.get s.store canonical.id) canonical := rfl
  rw [htriaged]
  cases triaged (p.store.get s.store canonical.id) canonical with
  | error e => rfl
  | ok d =>
      simp only [emitPin_eq]
      cases hemit : p.emit with
      | none => rfl
      | some sink =>
          simp only [hquiet sink (by simp [hemit])]
          rfl

section

variable [Py.Libm]

theorem place_silent (hquiet : p.Quiet) (s : PipelineState p.store) (det : PixelDetection)
    (fix : Cv.GroundFix PyFloat) :
    p.silent.place (muted s) det fix = (p.place s det fix).map muted id := by
  unfold place
  have hgeo : GeoDetection.ofFix (p.silent.ids (muted s).nextId) p.silent.blockId det fix =
    GeoDetection.ofFix (p.ids s.nextId) p.blockId det fix := rfl
  simp only [hgeo]
  cases GeoDetection.ofFix (p.ids s.nextId) p.blockId det fix with
  | error e => rfl
  | ok geo =>
      have hadd : Deduplicator.add p.silent.params.dedupRadiusM geo (muted s).clusters =
        Deduplicator.add p.params.dedupRadiusM geo s.clusters := rfl
      simp only [hadd]
      cases Deduplicator.add p.params.dedupRadiusM geo s.clusters with
      | error e => rfl
      | ok added =>
          simp only [← storePin_silent hquiet]
          rfl

/-- A sink that does not raise changes nothing but what it is handed. -/
theorem observe_silent (hquiet : p.Quiet) (poses : List FusedPose) (s : PipelineState p.store)
    (det : PixelDetection) :
    p.silent.observe poses (muted s) det = (p.observe poses s det).map muted id := by
  unfold observe
  have hproject : ∀ fused, p.silent.project fused det = p.project fused det := fun _ ↦ rfl
  cases halign : TimeSync.align p.params.syncMaxSkewS poses det.ts with
  | none => rfl
  | some fused =>
      simp only [hproject]
      cases p.project fused det with
      | error e => rfl
      | ok r =>
          cases r with
          | none => rfl
          | some fix =>
              simp only [← place_silent hquiet]
              rfl

theorem observeAll_silent (hquiet : p.Quiet) (poses : List FusedPose) (s : PipelineState p.store)
    (dets : List PixelDetection) : p.silent.observeAll poses (muted s) dets =
      (p.observeAll poses s dets).map muted id := by
  induction dets generalizing s with
  | nil => rfl
  | cons det dets ih =>
      unfold observeAll
      rw [observe_silent hquiet]
      rcases p.observe poses s det with ⟨s', e | u⟩
      · rfl
      · exact ih s'

theorem ingest_silent (hquiet : p.Quiet) (s : PipelineState p.store) (b : Batch) :
    p.silent.ingest (muted s) b = (p.ingest s b).map muted id := by
  have hloop := observeAll_silent hquiet b.buffered { s with dropped := 0 } b.inOrder
  unfold ingest
  have hstart : ({ muted s with dropped := 0 } : PipelineState p.silent.store) =
    muted { s with dropped := 0 } := rfl
  rw [hstart, hloop]
  rcases p.observeAll b.buffered { s with dropped := 0 } b.inOrder with ⟨s', e | u⟩
  · rfl
  · rfl

/-- What a sink is handed does not change where detections are placed. -/
theorem placed_silent (hquiet : p.Quiet) (batches : List Batch) :
    (p.sessionAfter (batches.map .ingest)).pipeline.placed =
      (p.silent.sessionAfter (batches.map .ingest)).pipeline.placed := by
  have hmuted : (p.silent.sessionAfter (batches.map .ingest)).pipeline =
      muted (p.sessionAfter (batches.map .ingest)).pipeline := by
    unfold sessionAfter
    induction batches using List.reverseRecOn with
    | nil => rfl
    | append_singleton batches b ih =>
        rw [List.map_append, List.foldl_append, List.foldl_append]
        change (p.silent.ingest _ b).1 = muted (p.ingest _ b).1
        rw [ih, ingest_silent hquiet]
        rfl
  rw [hmuted]
  rfl

/-! ## The first pin -/

/-- A detection lies within the radius of another one. -/
def Within (p : ScoutPipeline) (first d : GeoDetection) : Prop :=
  (Cluster.start first).near p.params.dedupRadiusM d = .ok true

/-- The first cluster is that of the first detection, and has those of the others that lie
within the radius of it. -/
inductive Anchored (s : PipelineState p.store) : Prop
  | empty (hclusters : s.clusters = []) (hplaced : s.placed = [])
  | pin (c : Cluster) (cs : List Cluster) (first : GeoDetection)
      (rest : List (GeoDetection × String)) (hclusters : s.clusters = c :: cs)
      (hplaced : s.placed = (first, c.rep.id) :: rest)
      (hlat : c.anchorLat = first.lat) (hlon : c.anchorLon = first.lon)
      (hrest : ∀ e ∈ rest, e.2 = c.rep.id ↔ Within p first e.1)

theorem Anchored.frame {s s' : PipelineState p.store} (h : Anchored s)
    (hclusters : s'.clusters = s.clusters) (hplaced : s'.placed = s.placed) : Anchored s' := by
  cases h with
  | empty hc hp => exact .empty (hclusters.trans hc) (hplaced.trans hp)
  | pin c cs first rest hc hp hlat hlon hrest =>
      exact .pin c cs first rest (hclusters.trans hc) (hplaced.trans hp) hlat hlon hrest

theorem near_iff_within {c : Cluster} {first d : GeoDetection} (hlat : c.anchorLat = first.lat)
    (hlon : c.anchorLon = first.lon) :
    c.near p.params.dedupRadiusM d = .ok true ↔ Within p first d := by
  rw [Within, Cluster.near, Cluster.near, hlat, hlon]
  rfl

/-- A detection that is placed joins the first pin exactly if it lies within the radius of
the first detection. -/
theorem Anchored.place {s s' : PipelineState p.store} {edits : List (String × String)}
    (h : Anchored s) (htracks : Tracks s edits) {geo : GeoDetection} {added : Deduplicator.Added}
    (hid : geo.id = p.ids s.nextId)
    (hadd : Deduplicator.add p.params.dedupRadiusM geo s.clusters = .ok added)
    (hclusters : s'.clusters = added.clusters)
    (hplaced : s'.placed = s.placed ++ [(geo, added.canonical.id)]) : Anchored s' := by
  have hfresh : ∀ c ∈ s.clusters, c.rep.id ≠ geo.id := hid ▸ htracks.fresh
  have hnodup := htracks.nodup
  cases h with
  | empty hc hp =>
      rw [hc] at hadd
      cases hadd
      rw [hp] at hplaced
      exact .pin (.start geo) [] geo [] hclusters hplaced rfl rfl (List.forall_mem_nil _)
  | pin c cs first rest hc hp hlat hlon hrest =>
      rw [hc] at hadd hfresh hnodup
      rw [hp, List.cons_append] at hplaced
      have hlast : ∀ {id}, (id = c.rep.id ↔ Within p first geo) →
          ∀ e ∈ rest ++ [(geo, id)], e.2 = c.rep.id ↔ Within p first e.1 := by
        intro id hiff e he
        rcases List.mem_append.mp he with he | he
        · exact hrest e he
        · rw [List.mem_singleton.mp he]
          exact hiff
      rcases Deduplicator.add_cases hadd with ⟨hfar, rfl⟩ | ⟨pre, c', post, hsplit, hfar, hnear, rfl⟩
      · refine .pin c (cs ++ [Cluster.start geo]) first _ hclusters hplaced hlat hlon (hlast ?_)
        have hno := hfar c List.mem_cons_self
        rw [← near_iff_within hlat hlon, hno]
        simpa using Ne.symm (hfresh c List.mem_cons_self)
      · cases pre with
        | nil =>
            cases hsplit
            refine .pin (c.join geo) cs first (rest ++ [(geo, c.rep.id)]) hclusters ?_ hlat hlon ?_
            · rw [hplaced, Cluster.merged_id, Cluster.join_id]
            · rw [Cluster.join_id]
              exact hlast (iff_of_true rfl ((near_iff_within hlat hlon).mp hnear))
        | cons c'' pre =>
            cases hsplit
            refine .pin c (pre ++ c'.join geo :: post) first _ hclusters hplaced hlat hlon
              (hlast ?_)
            have hno := hfar c List.mem_cons_self
            rw [← near_iff_within hlat hlon, hno, Cluster.merged_id]
            have hne : c'.rep.id ≠ c.rep.id := by
              intro heq
              exact (List.nodup_cons.mp hnodup).1
                (List.mem_map.mpr ⟨c', List.mem_append_right _ List.mem_cons_self, heq⟩)
            simpa using hne

/-! ## Runs -/

/-- What is known of the pins and of the envelopes of a session. -/
structure Mapped (s : PipelineState p.store) (edits : List (String × String)) : Prop where
  tracks : Tracks s edits
  emits : Emits s
  anchored : Anchored s

theorem Mapped.round {poses : List FusedPose} {det : PixelDetection} {s s' : PipelineState p.store}
    {r : Except ScoutError Unit} {edits : List (String × String)}
    (hround : Round p poses det s s' r) (h : Mapped s edits) : Mapped s' edits := by
  refine ⟨h.tracks.round hround, ?_, ?_⟩
  · cases hround with
    | placed fused fix geo added d _ _ _ hgeo hadd htriaged =>
        obtain ⟨-, -, hblock⟩ := GeoDetection.of_ofFix hgeo
        obtain ⟨hid, hd⟩ := of_triaged htriaged
        refine h.emits.place geo d ?_ (by rw [hid]) rfl
        rw [hd]
        rcases Deduplicator.add_cases hadd with ⟨-, rfl⟩ | ⟨pre, c, post, hsplit, -, -, rfl⟩
        · exact hblock
        · rw [Cluster.merged_blockId]
          exact (h.tracks.tracked c (hsplit ▸ List.mem_append_right _ List.mem_cons_self)).block
    | _ => exact h.emits.frame rfl rfl
  · cases hround with
    | placed fused fix geo added d _ _ _ hgeo hadd _ =>
        exact h.anchored.place h.tracks (GeoDetection.of_ofFix hgeo).1 hadd rfl rfl
    | _ => exact h.anchored.frame rfl rfl

theorem Mapped.ingest {s : PipelineState p.store} {edits : List (String × String)}
    (h : Mapped s edits) (b : Batch) : Mapped (p.ingest s b).1 edits :=
  ingest_invariant (I := fun s ↦ Mapped s edits) Mapped.round
    (fun _ _ hs ↦ ⟨hs.tracks.frame rfl rfl rfl le_rfl, hs.emits.frame rfl rfl,
      hs.anchored.frame rfl rfl⟩) h b

/-- An edit of a status hands nothing over and moves no pin. -/
theorem Mapped.edit {session : Session p} (h : Mapped session.pipeline session.edits)
    (id status : String) : Mapped (p.editStatus session id status).pipeline
      (p.editStatus session id status).edits := by
  refine ⟨h.tracks.edit id status, ?_, ?_⟩
  all_goals
    rcases editStatus_cases session id status with hsame | ⟨d, st, -, -, hedit⟩
  · rw [hsame]
    exact h.emits
  · rw [hedit]
    exact h.emits.frame rfl rfl
  · rw [hsame]
    exact h.anchored
  · rw [hedit]
    exact h.anchored.frame rfl rfl

theorem mapped_session (p : ScoutPipeline) (commands : List Command) :
    Mapped (p.sessionAfter commands).pipeline (p.sessionAfter commands).edits :=
  session_invariant (I := fun session ↦ Mapped session.pipeline session.edits)
    ⟨tracks_init, ⟨fun _ ↦ rfl, fun _ ↦ rfl, List.forall_mem_nil _⟩, .empty rfl rfl⟩
    (fun b h ↦ h.ingest b) (fun id status h ↦ h.edit id status) commands

/-- Every detection lies within the radius of the first one. -/
def AllWithin (p : ScoutPipeline) : List GeoDetection → Prop
  | [] => True
  | first :: rest => ∀ d ∈ rest, Within p first d

instance (p : ScoutPipeline) (first d : GeoDetection) : Decidable (Within p first d) :=
  inferInstanceAs (Decidable (_ = _))

instance (p : ScoutPipeline) : DecidablePred (AllWithin p)
  | [] => inferInstanceAs (Decidable True)
  | first :: rest => inferInstanceAs (Decidable (∀ d ∈ rest, Within p first d))

/-- There is one pin exactly if every detection lies within the radius of the first one. -/
theorem Anchored.onePin_iff {s : PipelineState p.store} (h : Anchored s) :
    (∀ a ∈ s.placed, ∀ b ∈ s.placed, a.2 = b.2) ↔ AllWithin p (s.placed.map Prod.fst) := by
  cases h with
  | empty hclusters hplaced => simp [hplaced, AllWithin]
  | pin c cs first rest hclusters hplaced hlat hlon hrest =>
      rw [hplaced, List.map_cons, AllWithin, List.forall_mem_map]
      constructor
      · intro hall e he
        exact (hrest e he).mp (hall e (List.mem_cons_of_mem _ he) _ List.mem_cons_self)
      · intro hall
        have hsame : ∀ e ∈ (first, c.rep.id) :: rest, e.2 = c.rep.id :=
          List.forall_mem_cons.mpr ⟨rfl, fun e he ↦ (hrest e he).mpr (hall e he)⟩
        exact fun a ha b hb ↦ (hsame a ha).trans (hsame b hb).symm

/-- Since all pins have one uid, it identifies them exactly if there is at most one. -/
theorem Mapped.identifies_iff {s : PipelineState p.store} {edits : List (String × String)}
    (h : Mapped s edits) : Identifies p s.emitted ↔
      p.emit = none ∨ AllWithin p (s.placed.map Prod.fst) := by
  have hone : Identifies p s.emitted ↔ ∀ a ∈ s.emitted, ∀ b ∈ s.emitted, a.1 = b.1 := by
    refine forall₂_congr fun a ha ↦ forall₂_congr fun b hb ↦ ?_
    rw [h.emits.source a ha, h.emits.source b hb]
    exact iff_true_left rfl
  rw [hone]
  by_cases hemit : p.emit = none
  · rw [h.emits.silent hemit]
    exact iff_of_true (List.forall_mem_nil _) (.inl hemit)
  · rw [or_iff_right hemit, h.emits.onePin_iff hemit, h.anchored.onePin_iff]

/-- In every session the marker codec writes the uid of each envelope, and the uids identify
the pins exactly if nothing is emitted, or if every detection that is placed lies within the
radius of the first one. -/
theorem uids_identify_pins_iff (p : ScoutPipeline) (commands : List Command) :
    (∀ e ∈ (p.sessionAfter commands).pipeline.emitted, WritesUid p.py e.2) ∧
      (Identifies p (p.sessionAfter commands).pipeline.emitted ↔
        p.emit = none ∨ AllWithin p ((p.sessionAfter commands).pipeline.placed.map Prod.fst)) :=
  ⟨fun e _ ↦ writesUid p.py e.2, (mapped_session p commands).identifies_iff⟩

end

/-- Two batches, a quarter of the equator apart. -/
def apart : List Batch := [eastwardBatch 0, eastwardBatch 90]

/-- Their pins have one uid. -/
theorem pins_share_uid : ¬ @Identifies (samplePipeline (some fun _ _ ↦ false))
    (@sessionAfter sampleLibm (samplePipeline (some fun _ _ ↦ false))
      (apart.map .ingest)).pipeline.emitted := by
  let := sampleLibm
  intro h
  rcases (mapped_session _ _).identifies_iff.mp h with hnone | hwithin
  · cases hnone
  · have hquiet : (samplePipeline (some fun _ _ ↦ false)).Quiet := by
      rintro sink ⟨⟩ handed env
      rfl
    rw [placed_silent hquiet] at hwithin
    revert hwithin
    decide +kernel

end DroneComms.Scout.ScoutPipeline
