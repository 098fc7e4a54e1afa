import DroneComms.Jetson.Step
import DroneComms.Lib.Automaton
import Mathlib.Data.Finset.Card

/-!
# The count of tracks

`_update_tracks` of `jetson_yolo_gcs/pipeline.py` behind a tracker that keeps the contract
of `TrackerBase`: ids are assigned in increasing order and never again, a frame shows each
of some of the assigned tracks once, and any frame may raise.

The pipeline keeps the highest id it has been given and counts what is above it.  It does
not count a track that shows up behind one with a higher id.
-/

namespace DroneComms.Jetson

open Automaton (exec Along exec_iff_along)

/-- The ids that an update returns. -/
def TrackOutcome.ids : TrackOutcome → List ℤ
  | raised => []
  | tracks ids => ids

/-- A frame for the tracker: the ids that it assigns, and how its update ends. -/
structure TrackedFrame where
  assigned : List ℤ
  outcome : TrackOutcome

/-- A pipeline, the ids that its tracker has assigned, and those it has been given. -/
structure Tracking (F X W : Type) where
  loop : Loop F X W
  assigned : List ℤ := []
  given : Finset ℤ := ∅

namespace Tracking

variable {F X W : Type}

/-- What the contract lets a tracker do. -/
structure Keeps (s : Tracking F X W) (f : TrackedFrame) : Prop where
  monotone : (s.assigned ++ f.assigned).Pairwise (· < ·)
  once : f.outcome.ids.Nodup
  known : ∀ id ∈ f.outcome.ids, id ∈ s.assigned ++ f.assigned

instance (s : Tracking F X W) (f : TrackedFrame) : Decidable (Keeps s f) :=
  decidable_of_iff ((s.assigned ++ f.assigned).Pairwise (· < ·) ∧ f.outcome.ids.Nodup ∧
    ∀ id ∈ f.outcome.ids, id ∈ s.assigned ++ f.assigned)
    ⟨fun h ↦ ⟨h.1, h.2.1, h.2.2⟩, fun h ↦ ⟨h.monotone, h.once, h.known⟩⟩

/-- A frame of a tracker that keeps the contract. -/
def step (s : Tracking F X W) (f : TrackedFrame) : Option (Tracking F X W) :=
  if Keeps s f then
    some
      { loop := s.loop.updateTracks f.outcome
        assigned := s.assigned ++ f.assigned
        given := s.given ∪ f.outcome.ids.toFinset }
  else none

/-- A pipeline that has just been built. -/
def start (w : W) : Tracking F X W := { loop := { world := w } }

/-- The tracks that are new at a frame are above all that were given before. -/
def OnTop (s : Tracking F X W) (f : TrackedFrame) : Prop :=
  ∀ id ∈ f.outcome.ids, id ∉ s.given → ∀ g ∈ s.given, g < id

/-- The count is the number of tracks that were given. -/
def Exact (s : Tracking F X W) : Prop := s.loop.tracksTotal = s.given.card

/-- The high-water mark is that of the given ids, and nothing is counted twice. -/
structure HighWater (s : Tracking F X W) : Prop where
  mark : ∀ id, s.loop.maxTrackId.all (· < id) = true ↔ ∀ g ∈ s.given, g < id
  total_le : s.loop.tracksTotal ≤ s.given.card

end Tracking

/-! ## The loop over the tracks -/

namespace Loop

variable {F X W : Type} (prevMax : Option ℤ)

theorem tracksTotal_countTracks (ids : List ℤ) (p : Loop F X W) :
    (ids.foldl (countTrack prevMax) p).tracksTotal =
      p.tracksTotal + ids.countP fun id ↦ prevMax.all (· < id) := by
  induction ids generalizing p with
  | nil => rfl
  | cons id ids ih =>
      rw [List.foldl_cons, ih, countTrack, List.countP_cons]
      dsimp only
      split_ifs <;> omega

theorem maxTrackId_countTracks (ids : List ℤ) (p : Loop F X W) (x : ℤ) :
    (ids.foldl (countTrack prevMax) p).maxTrackId.all (· < x) = true ↔
      p.maxTrackId.all (· < x) = true ∧ ∀ id ∈ ids, id < x := by
  induction ids generalizing p with
  | nil => simp
  | cons id ids ih =>
      have hone : (countTrack prevMax p id).maxTrackId.all (· < x) = true ↔
          p.maxTrackId.all (· < x) = true ∧ id < x := by
        rw [countTrack]
        cases p.maxTrackId with
        | none => simp
        | some m =>
            by_cases hm : m < id
            · simp only [Option.all_some, hm, decide_true, if_true, decide_eq_true_eq]
              exact ⟨fun hx ↦ ⟨hm.trans hx, hx⟩, fun hx ↦ hx.2⟩
            · simp only [Option.all_some, hm, decide_false, Bool.false_eq_true, if_false,
                decide_eq_true_eq]
              exact ⟨fun hx ↦ ⟨hx, (not_lt.mp hm).trans_lt hx⟩, fun hx ↦ hx.1⟩
      rw [List.foldl_cons, ih, hone, List.forall_mem_cons, and_assoc]

/-- The ids above the mark are counted, and the mark is raised to all. -/
theorem updateTracks_spec (p : Loop F X W) (o : TrackOutcome) :
    (p.updateTracks o).tracksTotal =
        p.tracksTotal + o.ids.countP (fun id ↦ p.maxTrackId.all (· < id)) ∧
      ∀ x, (p.updateTracks o).maxTrackId.all (· < x) = true ↔
        p.maxTrackId.all (· < x) = true ∧ ∀ id ∈ o.ids, id < x := by
  cases o with
  | raised => exact ⟨rfl, fun x ↦ by simp [updateTracks, TrackOutcome.ids]⟩
  | tracks ids =>
      exact ⟨tracksTotal_countTracks _ ids _, maxTrackId_countTracks _ ids _⟩

end Loop

/-- Counting a part of what is counted otherwise. -/
theorem countP_eq_iff {α : Type} {p q : α → Bool} {xs : List α} (h : ∀ x ∈ xs, p x → q x) :
    xs.countP p = xs.countP q ↔ ∀ x ∈ xs, q x → p x := by
  induction xs with
  | nil => simp
  | cons x xs ih =>
      obtain ⟨hx, hxs⟩ := List.forall_mem_cons.mp h
      have hle := List.countP_mono_left hxs
      rw [List.countP_cons, List.countP_cons, List.forall_mem_cons, ← ih hxs]
      by_cases hq : q x = true
      · by_cases hp : p x = true
        · simp [hp, hq]
        · simp [hp, hq]
          omega
      · have hp : ¬p x = true := fun hp ↦ hq (hx hp)
        simp [hp, hq]

/-! ## Runs -/

namespace Tracking

variable {F X W : Type} {s t : Tracking F X W} {f : TrackedFrame}

theorem highWater_start (w : W) : (start w : Tracking F X W).HighWater where
  mark id := by simp [start]
  total_le := le_rfl

/-- How many ids are new. -/
theorem card_union (s : Tracking F X W) (h : f.outcome.ids.Nodup) :
    (s.given ∪ f.outcome.ids.toFinset).card =
      s.given.card + f.outcome.ids.countP (· ∉ s.given) := by
  have hnew : f.outcome.ids.toFinset \ s.given =
      (f.outcome.ids.filter (· ∉ s.given)).toFinset := by
    ext id
    simp
  rw [← Finset.union_sdiff_self_eq_union, Finset.card_union_of_disjoint Finset.disjoint_sdiff, hnew,
    List.toFinset_card_of_nodup (h.filter _), List.countP_eq_length_filter]

/-- What a frame brings. -/
theorem of_step (h : step s f = some t) : s.Keeps f ∧
    t.loop = s.loop.updateTracks f.outcome ∧ t.given = s.given ∪ f.outcome.ids.toFinset := by
  rw [step, Option.ite_none_right_eq_some] at h
  obtain ⟨hkeeps, h⟩ := h
  cases h
  exact ⟨hkeeps, rfl, rfl⟩

/-- Only what is above the mark is counted, and that is new. -/
theorem counted_le (hs : s.HighWater) :
    ∀ id ∈ f.outcome.ids, s.loop.maxTrackId.all (· < id) = true → decide (id ∉ s.given) = true := by
  intro id _ habove
  rw [decide_eq_true_eq]
  exact fun hgiven ↦ absurd ((hs.mark id).mp habove id hgiven) (lt_irrefl id)

theorem HighWater.step (hs : s.HighWater) (h : step s f = some t) : t.HighWater := by
  obtain ⟨hkeeps, hloop, hgiven⟩ := of_step h
  obtain ⟨htotal, hmark⟩ := s.loop.updateTracks_spec f.outcome
  constructor
  · intro id
    rw [hloop, hmark, hs.mark, hgiven]
    simp only [Finset.mem_union, List.mem_toFinset, or_imp, forall_and]
  · have hcounted := List.countP_mono_left (counted_le (f := f) hs)
    have hle := hs.total_le
    rw [hloop, htotal, hgiven, card_union s hkeeps.once]
    omega

/-- A frame keeps the count exact if what is new is on top. -/
theorem exact_step_iff (hs : s.HighWater) (h : step s f = some t) :
    t.Exact ↔ s.Exact ∧ s.OnTop f := by
  obtain ⟨hkeeps, hloop, hgiven⟩ := of_step h
  obtain ⟨htotal, -⟩ := s.loop.updateTracks_spec f.outcome
  have hcounted := List.countP_mono_left (counted_le (f := f) hs)
  have hiff := countP_eq_iff (counted_le (f := f) hs)
  have hle := hs.total_le
  have htop : s.OnTop f ↔ f.outcome.ids.countP (fun id ↦ s.loop.maxTrackId.all (· < id)) =
      f.outcome.ids.countP (· ∉ s.given) := by
    rw [hiff, OnTop]
    simp only [decide_eq_true_eq, hs.mark]
  rw [htop, Exact, Exact, hloop, htotal, hgiven, card_union s hkeeps.once]
  omega

theorem exact_iff {w : W} {frames : List TrackedFrame} (h : exec step (start w) frames = some t) :
    t.Exact ↔ Along step OnTop (start w : Tracking F X W) frames := by
  rw [exec_iff_along (J := HighWater) (fun _ _ _ hs hstep ↦ hs.step hstep)
    (fun _ _ _ hs hstep ↦ exact_step_iff hs hstep) (highWater_start w) h]
  exact and_iff_right rfl

/-- **Tracks.**  After a run `tracks_total` is the number of tracks that were given exactly if at
every frame those that were new had higher ids than all that were given before. -/
theorem tracksTotal_eq_card_iff (w : W) {frames : List TrackedFrame} {t : Tracking F X W}
    (h : exec step (start w) frames = some t) :
    t.loop.tracksTotal = t.given.card ↔ Along step OnTop (start w : Tracking F X W) frames :=
  exact_iff h

/-- Two tracks, of which the second is matched first. -/
def crossing : List TrackedFrame := [⟨[1, 2], .tracks [2]⟩, ⟨[], .tracks [1, 2]⟩]

/-- Two tracks that are matched one after the other. -/
def inOrder : List TrackedFrame := [⟨[1], .tracks [1]⟩, ⟨[2], .raised⟩, ⟨[], .tracks [1, 2]⟩]

theorem inOrder_is_counted : ∃ t : Tracking ℚ Unit Unit, exec step (start ()) inOrder = some t ∧
    (t.loop.tracksTotal = t.given.card ↔
      Along step OnTop (start () : Tracking ℚ Unit Unit) inOrder) :=
  ⟨_, rfl, tracksTotal_eq_card_iff () rfl⟩

theorem late_track_is_not_counted : ∃ t : Tracking ℚ Unit Unit,
    exec step (start ()) crossing = some t ∧ t.loop.tracksTotal = 1 ∧ t.given.card = 2 :=
  ⟨_, rfl, rfl, by decide⟩

end Tracking

end DroneComms.Jetson
