import Mathlib.Data.List.Forall2
import DroneComms.Scout.Rounds

/-!
# Operator triage

The status of a pin lives in the store, and its position in the deduplicator; each holds
a copy of the other's field that is never read.  One invariant reconciles the two over
every interleaving of batches with edits of a status.
-/

namespace DroneComms.Scout.ScoutPipeline

open Py (PyFloat)

variable {p : ScoutPipeline}

/-! ## What a pin should show -/

/-- The status of the last edit of a pin. -/
def statusOf (edits : List (String × String)) (id : String) : String :=
  (edits.reverse.lookup id).getD "new"

/-- The detections that joined a pin, in order. -/
def members (placed : List (GeoDetection × String)) (id : String) : List GeoDetection :=
  (placed.filter fun e ↦ e.2 = id).map Prod.fst

/-- A detection has the highest confidence, and is the earliest that does. -/
def IsBest (ms : List GeoDetection) (g : GeoDetection) : Prop :=
  ∃ pre post, ms = pre ++ g :: post ∧ (∀ m ∈ pre, PyFloat.lt m.conf g.conf = true) ∧
    ∀ m ∈ post, PyFloat.lt g.conf m.conf = false

/-- A detection shows a pin: the status of its last edit, and the fields of its best
member. -/
structure Shows (s : PipelineState p.store) (edits : List (String × String)) (id : String)
    (d : GeoDetection) : Prop where
  status : d.status.text = statusOf edits id
  best : ∃ g, IsBest (members s.placed id) g ∧ d = { g with id := id, status := d.status }

theorem statusOf_append_self (edits : List (String × String)) (id status : String) :
    statusOf (edits ++ [(id, status)]) id = status := by
  simp [statusOf]

theorem statusOf_append_of_ne (edits : List (String × String)) {id id' : String} (status : String)
    (hne : id' ≠ id) : statusOf (edits ++ [(id, status)]) id' = statusOf edits id' := by
  simp [statusOf, List.lookup_cons, beq_eq_false_iff_ne.mpr hne]

theorem members_append_self (placed : List (GeoDetection × String)) (g : GeoDetection)
    (id : String) : members (placed ++ [(g, id)]) id = members placed id ++ [g] := by
  simp [members]

theorem members_append_of_ne (placed : List (GeoDetection × String)) (g : GeoDetection)
    {id id' : String} (hne : id' ≠ id) :
    members (placed ++ [(g, id)]) id' = members placed id' := by
  simp [members, Ne.symm hne]

/-! ## The best member -/

theorem IsBest.singleton (g : GeoDetection) : IsBest [g] g :=
  ⟨[], [], rfl, List.forall_mem_nil _, List.forall_mem_nil _⟩

/-- A member with a higher confidence than the best one is the best one. -/
theorem IsBest.higher {ms : List GeoDetection} {g d : GeoDetection} (h : IsBest ms g)
    (hlt : PyFloat.lt g.conf d.conf = true) : IsBest (ms ++ [d]) d := by
  obtain ⟨pre, post, rfl, hpre, hpost⟩ := h
  refine ⟨pre ++ g :: post, [], rfl, ?_, List.forall_mem_nil _⟩
  obtain ⟨b, hb⟩ := g.conf_fin
  obtain ⟨c, hc⟩ := d.conf_fin
  intro m hm
  obtain ⟨a, ha⟩ := m.conf_fin
  rw [hb, hc, PyFloat.lt_fin, decide_eq_true_eq] at hlt
  rw [ha, hc, PyFloat.lt_fin, decide_eq_true_eq]
  rcases List.mem_append.mp hm with hm | hm
  · have hless := hpre m hm
    rw [ha, hb, PyFloat.lt_fin, decide_eq_true_eq] at hless
    exact hless.trans hlt
  · rcases List.mem_cons.mp hm with rfl | hm
    · rw [ha] at hb
      cases hb
      exact hlt
    · have hless := hpost m hm
      rw [ha, hb, PyFloat.lt_fin, decide_eq_false_iff_not, not_lt] at hless
      exact hless.trans_lt hlt

/-- Any other one leaves it the best. -/
theorem IsBest.lower {ms : List GeoDetection} {g d : GeoDetection} (h : IsBest ms g)
    (hlt : PyFloat.lt g.conf d.conf = false) : IsBest (ms ++ [d]) g := by
  obtain ⟨pre, post, rfl, hpre, hpost⟩ := h
  refine ⟨pre, post ++ [d], by simp, hpre, fun m hm ↦ ?_⟩
  rcases List.mem_append.mp hm with hm | hm
  · exact hpost m hm
  · rw [List.mem_singleton.mp hm]
    exact hlt

/-! ## The two copies of a pin -/

/-- The representative of a cluster is its best member, and the store has it with the
status of the last edit. -/
structure Tracked (s : PipelineState p.store) (edits : List (String × String)) (c : Cluster) :
    Prop where
  new : c.rep.status = .new
  block : c.rep.blockId = p.blockId
  best : ∃ g, IsBest (members s.placed c.rep.id) g ∧ c.rep = { g with id := c.rep.id, status := .new }
  stored : ∃ d, p.store.get s.store c.rep.id = some d ∧ d = { c.rep with status := d.status } ∧
    d.status.text = statusOf edits c.rep.id

/-- Every pin is tracked; ids are distinct and drawn; only pins are stored, edited and
joined. -/
structure Tracks (s : PipelineState p.store) (edits : List (String × String)) : Prop where
  tracked : ∀ c ∈ s.clusters, Tracked s edits c
  nodup : (s.clusters.map fun c ↦ c.rep.id).Nodup
  drawn : ∀ c ∈ s.clusters, ∃ n < s.nextId, c.rep.id = p.ids n
  stored_known : ∀ {id d}, p.store.get s.store id = some d → ∃ c ∈ s.clusters, c.rep.id = id
  placed_known : ∀ e ∈ s.placed, ∃ c ∈ s.clusters, c.rep.id = e.2
  edits_known : ∀ e ∈ edits, ∃ c ∈ s.clusters, c.rep.id = e.1

theorem Tracked.shows {s : PipelineState p.store} {edits : List (String × String)} {c : Cluster}
    (h : Tracked s edits c) : ∃ d, p.store.get s.store c.rep.id = some d ∧
      Shows s edits c.rep.id d := by
  obtain ⟨d, hget, hd, hstatus⟩ := h.stored
  obtain ⟨g, hg, hrep⟩ := h.best
  refine ⟨d, hget, hstatus, g, hg, ?_⟩
  rw [hd, hrep]

/-- A cluster stays tracked where its pin is not touched. -/
theorem Tracked.congr {s s' : PipelineState p.store} {edits edits' : List (String × String)}
    {c : Cluster} (h : Tracked s edits c)
    (hplaced : members s'.placed c.rep.id = members s.placed c.rep.id)
    (hstore : p.store.get s'.store c.rep.id = p.store.get s.store c.rep.id)
    (hedits : statusOf edits' c.rep.id = statusOf edits c.rep.id) : Tracked s' edits' c where
  new := h.new
  block := h.block
  best := hplaced ▸ h.best
  stored := by
    rw [hstore, hedits]
    exact h.stored

/-- What is drawn next is no id of a pin. -/
theorem Tracks.fresh {s : PipelineState p.store} {edits : List (String × String)}
    (h : Tracks s edits) : ∀ c ∈ s.clusters, c.rep.id ≠ p.ids s.nextId := by
  intro c hc heq
  obtain ⟨n, hn, hid⟩ := h.drawn c hc
  rw [hid] at heq
  exact hn.ne (p.ids_injective heq)

/-- A round that touches no pin. -/
theorem Tracks.frame {s s' : PipelineState p.store} {edits : List (String × String)}
    (h : Tracks s edits) (hstore : s'.store = s.store) (hclusters : s'.clusters = s.clusters)
    (hplaced : s'.placed = s.placed) (hnext : s.nextId ≤ s'.nextId) : Tracks s' edits where
  tracked c hc := (h.tracked c (hclusters ▸ hc)).congr (by rw [hplaced]) (by rw [hstore]) rfl
  nodup := hclusters ▸ h.nodup
  drawn c hc := by
    obtain ⟨n, hn, hid⟩ := h.drawn c (hclusters ▸ hc)
    exact ⟨n, hn.trans_le hnext, hid⟩
  stored_known hget := by
    rw [hclusters]
    exact h.stored_known (hstore ▸ hget)
  placed_known e he := by
    rw [hclusters]
    exact h.placed_known e (hplaced ▸ he)
  edits_known e he := by
    rw [hclusters]
    exact h.edits_known e he

section Place

variable {s s' : PipelineState p.store} {edits : List (String × String)} {geo d : GeoDetection}
  (h : Tracks s edits) (hid : geo.id = p.ids s.nextId) (hnew : geo.status = .new)
  (hblock : geo.blockId = p.blockId) (hnext : s'.nextId = s.nextId + 1)

include h hid in
/-- A detection with a new id has neither members nor edits nor an entry in the store. -/
theorem Tracks.unknown : p.store.get s.store geo.id = none ∧ members s.placed geo.id = [] ∧
    statusOf edits geo.id = "new" := by
  have hfresh : ∀ c ∈ s.clusters, c.rep.id ≠ geo.id := hid ▸ h.fresh
  refine ⟨?_, ?_, ?_⟩
  · cases hget : p.store.get s.store geo.id with
    | none => rfl
    | some d =>
        obtain ⟨c, hc, heq⟩ := h.stored_known hget
        exact (hfresh c hc heq).elim
  · rw [members, List.map_eq_nil_iff, List.filter_eq_nil_iff]
    intro e he heq
    obtain ⟨c, hc, hc'⟩ := h.placed_known e he
    exact hfresh c hc (hc'.trans (of_decide_eq_true heq))
  · have hnone : edits.reverse.lookup geo.id = none := by
      rw [List.lookup_eq_none_iff]
      intro e he
      obtain ⟨c, hc, hc'⟩ := h.edits_known e (List.mem_reverse.mp he)
      simpa [← hc'] using Ne.symm (hfresh c hc)
    rw [statusOf, hnone, Option.getD_none]

omit h in
/-- A round about another pin. -/
theorem Tracked.of_ne {c : Cluster} {id : String} (h : Tracked s edits c) (hne : c.rep.id ≠ id)
    (hdid : d.id = id) (hplaced : s'.placed = s.placed ++ [(geo, id)])
    (hstore : s'.store = p.store.add s.store d) : Tracked s' edits c := by
  apply h.congr
  · rw [hplaced, members_append_of_ne _ _ hne]
  · rw [hstore, p.store.get_add_of_ne _ (hdid ▸ hne)]
  · rfl

include h hid hnew hblock in
/-- A pin of one detection is tracked. -/
theorem Tracks.tracked_start (hplaced : s'.placed = s.placed ++ [(geo, geo.id)])
    (hstore : s'.store = p.store.add s.store geo) : Tracked s' edits (.start geo) := by
  obtain ⟨-, hmembers, hstatus⟩ := h.unknown hid
  refine ⟨hnew, hblock, ⟨geo, ?_, ?_⟩, geo, ?_, rfl, ?_⟩
  · change IsBest (members s'.placed geo.id) geo
    rw [hplaced, members_append_self, hmembers]
    exact IsBest.singleton geo
  · rw [← hnew]
    rfl
  · rw [hstore]
    exact p.store.get_add_self _ _
  · rw [hnew]
    exact hstatus.symm

include h in
/-- What is stored and where detections are placed stays known. -/
theorem Tracks.known {id : String} (hdid : d.id = id)
    (hplaced : s'.placed = s.placed ++ [(geo, id)]) (hstore : s'.store = p.store.add s.store d)
    (hkeep : ∀ {id}, (∃ c ∈ s.clusters, c.rep.id = id) → ∃ c ∈ s'.clusters, c.rep.id = id)
    (hmine : ∃ c ∈ s'.clusters, c.rep.id = id) :
    (∀ {id d'}, p.store.get s'.store id = some d' → ∃ c ∈ s'.clusters, c.rep.id = id) ∧
    (∀ e ∈ s'.placed, ∃ c ∈ s'.clusters, c.rep.id = e.2) ∧
    ∀ e ∈ edits, ∃ c ∈ s'.clusters, c.rep.id = e.1 := by
  refine ⟨?_, ?_, fun e he ↦ hkeep (h.edits_known e he)⟩
  · intro id' d' hget
    by_cases heq : id' = id
    · rw [heq]
      exact hmine
    · rw [hstore, p.store.get_add_of_ne _ (hdid ▸ heq)] at hget
      exact hkeep (h.stored_known hget)
  · rw [hplaced, List.forall_mem_append, List.forall_mem_singleton]
    exact ⟨fun e he ↦ hkeep (h.placed_known e he), hmine⟩

include h hid hnew hblock hnext in
/-- The detection starts a pin. -/
theorem Tracks.start (hclusters : s'.clusters = s.clusters ++ [.start geo])
    (hplaced : s'.placed = s.placed ++ [(geo, geo.id)])
    (hstore : s'.store = p.store.add s.store geo) : Tracks s' edits := by
  have hfresh : ∀ c ∈ s.clusters, c.rep.id ≠ geo.id := hid ▸ h.fresh
  obtain ⟨hstored, hjoined, hedited⟩ := h.known rfl hplaced hstore
    (fun ⟨c, hc, hc'⟩ ↦ ⟨c, hclusters ▸ List.mem_append_left _ hc, hc'⟩)
    ⟨.start geo, hclusters ▸ List.mem_append_right _ List.mem_cons_self, rfl⟩
  refine ⟨?_, ?_, ?_, hstored, hjoined, hedited⟩
  · rw [hclusters, List.forall_mem_append, List.forall_mem_singleton]
    exact ⟨fun c hc ↦ (h.tracked c hc).of_ne (hfresh c hc) rfl hplaced hstore,
      h.tracked_start hid hnew hblock hplaced hstore⟩
  · rw [hclusters, List.map_append, List.nodup_append]
    refine ⟨h.nodup, by simp, ?_⟩
    intro x hx y hy
    obtain ⟨c, hc, rfl⟩ := List.mem_map.mp hx
    obtain rfl := List.mem_singleton.mp hy
    exact hfresh c hc
  · rw [hclusters, hnext, List.forall_mem_append, List.forall_mem_singleton]
    refine ⟨fun c hc ↦ ?_, s.nextId, Nat.lt_succ_self _, hid⟩
    obtain ⟨n, hn, hc⟩ := h.drawn c hc
    exact ⟨n, hn.trans (Nat.lt_succ_self _), hc⟩

omit h in
/-- The representative after a detection has joined is the best member again. -/
theorem Tracked.merged {c : Cluster} (h : Tracked s edits c) (hblock : geo.blockId = p.blockId) :
    ∃ g, IsBest (members s.placed c.rep.id ++ [geo]) g ∧
      c.merged geo = { g with id := c.rep.id, status := .new } := by
  obtain ⟨g, hg, hrep⟩ := h.best
  have hconf : c.rep.conf = g.conf := by rw [hrep]
  unfold Cluster.merged
  by_cases hlt : PyFloat.lt c.rep.conf geo.conf = true
  · rw [if_pos hlt]
    refine ⟨geo, hg.higher (hconf ▸ hlt), ?_⟩
    rw [h.new, h.block, ← hblock]
  · rw [if_neg hlt]
    exact ⟨g, hg.lower (hconf ▸ Bool.eq_false_iff.mpr hlt), hrep⟩

omit h in
/-- What is stored for the pin has the status that was stored before. -/
theorem Tracked.of_triaged {c : Cluster} (h : Tracked s edits c) (hblock : geo.blockId = p.blockId)
    (htriaged : triaged (p.store.get s.store c.rep.id) (c.merged geo) = .ok d) :
    d = { c.merged geo with status := d.status } ∧ d.status.text = statusOf edits c.rep.id := by
  obtain ⟨g, -, hmerged⟩ := h.merged hblock
  obtain ⟨e, hget, -, hstatus⟩ := h.stored
  rw [hget, triaged_eq _ (by rw [hmerged])] at htriaged
  cases htriaged
  exact ⟨rfl, hstatus⟩

omit h in
/-- A pin that a detection has joined is tracked. -/
theorem Tracked.join {c : Cluster} (h : Tracked s edits c) (hblock : geo.blockId = p.blockId)
    (hplaced : s'.placed = s.placed ++ [(geo, c.rep.id)])
    (htriaged : triaged (p.store.get s.store c.rep.id) (c.merged geo) = .ok d)
    (hstore : s'.store = p.store.add s.store d) : Tracked s' edits (c.join geo) := by
  obtain ⟨g, hg, hmerged⟩ := h.merged hblock
  obtain ⟨hd, hstatus⟩ := h.of_triaged hblock htriaged
  have hdid : d.id = c.rep.id := by
    rw [hd]
    exact c.merged_id geo
  refine ⟨?_, ?_, ⟨g, ?_, ?_⟩, d, ?_, hd, ?_⟩
  · exact congrArg GeoDetection.status hmerged
  · exact (c.merged_blockId geo).trans h.block
  · rw [hplaced, Cluster.join_id, members_append_self]
    exact hg
  · rw [Cluster.join_id]
    exact hmerged
  · rw [hstore, Cluster.join_id, ← hdid]
    exact p.store.get_add_self _ _
  · rw [Cluster.join_id]
    exact hstatus

include h hblock hnext in
/-- The detection joins a pin. -/
theorem Tracks.join {pre post : List Cluster} {c : Cluster}
    (hbefore : s.clusters = pre ++ c :: post) (hclusters : s'.clusters = pre ++ c.join geo :: post)
    (hplaced : s'.placed = s.placed ++ [(geo, c.rep.id)])
    (htriaged : triaged (p.store.get s.store c.rep.id) (c.merged geo) = .ok d)
    (hstore : s'.store = p.store.add s.store d) : Tracks s' edits := by
  have hc : c ∈ s.clusters := hbefore ▸ List.mem_append_right _ List.mem_cons_self
  have hdid : d.id = c.rep.id := by
    rw [((h.tracked c hc).of_triaged hblock htriaged).1]
    exact c.merged_id geo
  have hids : s'.clusters.map (fun c ↦ c.rep.id) = s.clusters.map fun c ↦ c.rep.id := by
    rw [hbefore, hclusters]
    simp
  -- A pin stays known: the ids are the same.
  have hknown : ∀ {id}, (∃ c ∈ s.clusters, c.rep.id = id) → ∃ c ∈ s'.clusters, c.rep.id = id := by
    intro id hid
    rwa [← List.mem_map, hids, List.mem_map]
  obtain ⟨hstored, hjoined, hedited⟩ := h.known hdid hplaced hstore hknown (hknown ⟨c, hc, rfl⟩)
  refine ⟨?_, hids ▸ h.nodup, ?_, hstored, hjoined, hedited⟩
  · have htracked := h.tracked
    have hnodup := h.nodup
    rw [hbefore, List.forall_mem_append, List.forall_mem_cons] at htracked
    rw [hbefore, List.map_append, List.map_cons, List.nodup_middle, List.nodup_cons,
      List.mem_append, not_or] at hnodup
    obtain ⟨hpre, hmine, hpost⟩ := htracked
    obtain ⟨⟨hnotpre, hnotpost⟩, -⟩ := hnodup
    rw [hclusters, List.forall_mem_append, List.forall_mem_cons]
    refine ⟨fun c' hc' ↦ ?_, hmine.join hblock hplaced htriaged hstore, fun c' hc' ↦ ?_⟩
    · refine (hpre c' hc').of_ne (fun heq ↦ hnotpre ?_) hdid hplaced hstore
      exact heq ▸ List.mem_map_of_mem hc'
    · refine (hpost c' hc').of_ne (fun heq ↦ hnotpost ?_) hdid hplaced hstore
      exact heq ▸ List.mem_map_of_mem hc'
  · intro c' hc'
    obtain ⟨c'', hc'', heq⟩ : ∃ c'' ∈ s.clusters, c''.rep.id = c'.rep.id := by
      rw [← List.mem_map, ← hids]
      exact List.mem_map_of_mem hc'
    obtain ⟨n, hn, hid⟩ := h.drawn c'' hc''
    exact ⟨n, hnext ▸ hn.trans (Nat.lt_succ_self _), heq ▸ hid⟩

end Place

/-! ## Sessions -/

/-- What an operator and the pipeline do. -/
inductive Command where
  | ingest (b : Batch)
  | setStatus (id status : String)

/-- A pipeline in use, with the history of the edits that succeeded. -/
structure Session (p : ScoutPipeline) where
  pipeline : PipelineState p.store
  edits : List (String × String)

/-- `store.set_status`; an edit that raises changes nothing. -/
def editStatus (p : ScoutPipeline) (s : Session p) (id status : String) : Session p :=
  match p.store.setStatus s.pipeline.store id status with
  | .ok (store, some _) => ⟨{ s.pipeline with store := store }, s.edits ++ [(id, status)]⟩
  | .ok (store, none) => ⟨{ s.pipeline with store := store }, s.edits⟩
  | .error _ => s


/-- What an edit does: nothing, or it gives a status to a stored detection. -/
theorem editStatus_cases (session : Session p) (id status : String) :
    p.editStatus session id status = session ∨
    ∃ d st, p.store.get session.pipeline.store id = some d ∧ DetectionStatus.text st = status ∧
      p.editStatus session id status =
        ⟨{ session.pipeline with
            store := p.store.add session.pipeline.store { d with status := st } },
          session.edits ++ [(id, status)]⟩ := by
  unfold editStatus
  rw [p.store.setStatus_eq]
  cases hget : p.store.get session.pipeline.store id with
  | none => exact .inl rfl
  | some d =>
      cases hstatus : DetectionStatus.ofText status with
      | none =>
          simp only [setFound, GeoDetection.withStatus, hstatus]
          exact .inl rfl
      | some st =>
          simp only [setFound, GeoDetection.withStatus, hstatus]
          exact .inr ⟨d, st, rfl, DetectionStatus.text_of_ofText hstatus, rfl⟩

/-- An edit keeps the invariant. -/
theorem Tracks.edit {session : Session p} (h : Tracks session.pipeline session.edits)
    (id status : String) : Tracks (p.editStatus session id status).pipeline
      (p.editStatus session id status).edits := by
  rcases editStatus_cases session id status with hsame | ⟨d, st, hget, htext, hedit⟩
  · rw [hsame]
    exact h
  · rw [hedit]
    have hdid := p.store.get_id hget
    obtain ⟨c₀, hc₀, hid⟩ := h.stored_known hget
    constructor
    case tracked =>
      intro c hc
      have htracked := h.tracked c hc
      by_cases heq : c.rep.id = id
      · refine ⟨htracked.new, htracked.block, htracked.best, { d with status := st }, ?_, ?_, ?_⟩
        · rw [heq, ← hdid]
          exact p.store.get_add_self _ _
        · obtain ⟨d', hget', hd', -⟩ := htracked.stored
          rw [heq, hget] at hget'
          cases hget'
          rw [hd']
        · rw [heq, statusOf_append_self]
          exact htext
      · refine htracked.congr rfl ?_ (statusOf_append_of_ne _ _ heq)
        exact p.store.get_add_of_ne _ (by rw [hdid]; exact heq)
    case nodup => exact h.nodup
    case drawn => exact h.drawn
    case stored_known =>
      intro id' d' hget'
      by_cases heq : id' = id
      · exact ⟨c₀, hc₀, hid.trans heq.symm⟩
      · have hsame : p.store.get (p.store.add session.pipeline.store { d with status := st }) id' =
            p.store.get session.pipeline.store id' :=
          p.store.get_add_of_ne _ (by rw [hdid]; exact heq)
        exact h.stored_known (hsame.symm.trans hget')
    case placed_known => exact h.placed_known
    case edits_known =>
      intro e he
      rcases List.mem_append.mp he with he | he
      · exact h.edits_known e he
      · rw [List.mem_singleton.mp he]
        exact ⟨c₀, hc₀, hid⟩

/-! ## Batches -/

variable [Py.Libm]

/-- A round keeps the invariant. -/
theorem Tracks.round {poses : List FusedPose} {det : PixelDetection} {s s' : PipelineState p.store}
    {r : Except ScoutError Unit} {edits : List (String × String)}
    (hround : Round p poses det s s' r) (h : Tracks s edits) : Tracks s' edits := by
  cases hround with
  | skew => exact h.frame rfl rfl rfl le_rfl
  | raised => exact h.frame rfl rfl rfl le_rfl
  | horizon => exact h.frame rfl rfl rfl le_rfl
  | invalid => exact h.frame rfl rfl rfl (Nat.le_succ _)
  | placed fused fix geo added d _ _ _ hgeo hadd htriaged =>
      obtain ⟨hid, hnew, hblock⟩ := GeoDetection.of_ofFix hgeo
      rcases Deduplicator.add_cases hadd with ⟨-, rfl⟩ | ⟨pre, c, post, hbefore, -, -, rfl⟩
      · have hd : d = geo := by
          rw [(h.unknown hid).1] at htriaged
          exact (Except.ok.inj htriaged).symm
        exact h.start hid hnew hblock rfl rfl rfl (hd ▸ rfl)
      · have hcanonical := c.merged_id geo
        rw [hcanonical] at htriaged
        refine h.join hblock rfl hbefore rfl ?_ htriaged rfl
        rw [hcanonical]

/-- The loop of a batch keeps the invariant, wherever it ends. -/
theorem Tracks.observeAll {s : PipelineState p.store} {edits : List (String × String)}
    (h : Tracks s edits) (poses : List FusedPose) (dets : List PixelDetection) :
    Tracks (p.observeAll poses { s with dropped := 0 } dets).1 edits := by
  have hstart : Tracks { s with dropped := 0 } edits := h.frame rfl rfl rfl le_rfl
  exact observeAll_invariant (I := fun s ↦ Tracks s edits) Tracks.round hstart dets

/-- A batch keeps the invariant, also one that raises. -/
theorem Tracks.ingest {s : PipelineState p.store} {edits : List (String × String)}
    (h : Tracks s edits) (b : Batch) : Tracks (p.ingest s b).1 edits :=
  ingest_invariant (I := fun s ↦ Tracks s edits) Tracks.round
    (fun _ _ hs ↦ hs.frame rfl rfl rfl le_rfl) h b

omit [Py.Libm] in
theorem tracks_init : Tracks p.init [] where
  tracked := List.forall_mem_nil _
  nodup := List.nodup_nil
  drawn := List.forall_mem_nil _
  stored_known hget := by
    rw [init, p.store.get_empty] at hget
    cases hget
  placed_known := List.forall_mem_nil _
  edits_known := List.forall_mem_nil _

/-- A command of a session. -/
def perform (p : ScoutPipeline) (session : Session p) : Command → Session p
  | .ingest b => { session with pipeline := (p.ingest session.pipeline b).1 }
  | .setStatus id status => p.editStatus session id status

/-- The session after a number of commands. -/
def sessionAfter (p : ScoutPipeline) (commands : List Command) : Session p :=
  commands.foldl p.perform ⟨p.init, []⟩

/-- What every command keeps holds after every number of commands. -/
theorem session_invariant {I : Session p → Prop} (hinit : I ⟨p.init, []⟩)
    (hingest : ∀ {session} b, I session →
      I { session with pipeline := (p.ingest session.pipeline b).1 })
    (hedit : ∀ {session} id status, I session → I (p.editStatus session id status))
    (commands : List Command) : I (p.sessionAfter commands) := by
  unfold sessionAfter
  induction commands using List.reverseRecOn with
  | nil => exact hinit
  | append_singleton commands command ih =>
      rw [List.foldl_append]
      cases command with
      | ingest b => exact hingest b ih
      | setStatus id status => exact hedit id status ih

theorem tracks_session (p : ScoutPipeline) (commands : List Command) :
    Tracks (p.sessionAfter commands).pipeline (p.sessionAfter commands).edits :=
  session_invariant (I := fun session ↦ Tracks session.pipeline session.edits) tracks_init
    (fun b h ↦ h.ingest b) (fun id status h ↦ h.edit id status) commands

/-- The store shows every pin. -/
def StoresPins (s : PipelineState p.store) (edits : List (String × String)) : Prop :=
  ∀ c ∈ s.clusters, ∃ d, p.store.get s.store c.rep.id = some d ∧ Shows s edits c.rep.id d

/-- The store shows every pin, also while a next batch is processed, and so does the list
that it returns. -/
structure KeepsTriage (session : Session p) : Prop where
  stored : StoresPins session.pipeline session.edits
  during : ∀ poses dets, StoresPins
    (p.observeAll poses { session.pipeline with dropped := 0 } dets).1 session.edits
  returned : ∀ b pins, (p.ingest session.pipeline b).2 = .ok pins →
    List.Forall₂ (fun c d ↦ Shows (p.ingest session.pipeline b).1 session.edits c.rep.id d)
      (p.ingest session.pipeline b).1.clusters pins

omit [Py.Libm] in
theorem Tracks.storesPins {s : PipelineState p.store} {edits : List (String × String)}
    (h : Tracks s edits) : StoresPins s edits := fun c hc ↦ (h.tracked c hc).shows

/-- Over every interleaving of batches with edits no triage is lost: each pin is stored
with the status of its last edit and the fields of its best member, and returned so. -/
theorem triage_never_lost (p : ScoutPipeline) (commands : List Command) :
    KeepsTriage (p.sessionAfter commands) where
  stored := (tracks_session p commands).storesPins
  during poses dets := ((tracks_session p commands).observeAll poses dets).storesPins
  returned b pins hpins := by
    have hafter := (tracks_session p commands).ingest b
    rcases ingest_cases (p.sessionAfter commands).pipeline b with
      ⟨s', e, -, hingest⟩ | ⟨s', -, hingest⟩
    · rw [hingest] at hpins
      cases hpins
    · rw [hingest] at hpins hafter ⊢
      cases hpins
      rw [List.forall₂_map_right_iff, List.forall₂_same]
      intro c hc
      obtain ⟨d, hget, hshows⟩ := (hafter.tracked c hc).shows
      have hget' : p.store.get s'.store c.rep.id = some d := hget
      rw [hget', Option.getD_some]
      exact hshows

end DroneComms.Scout.ScoutPipeline
