import DroneComms.Cv.Distance
import DroneComms.Py.FloatOrder
import DroneComms.Scout.Sync
import Mathlib.Data.List.DropRight
import Mathlib.Data.List.Sort

/-!
# The lazily sorted poses

`TimeSync` of `scout/sync.py` with its state: a deque of poses, a sorted copy that
`add_pose` throws away and `align` makes anew, and a counter.  It is compared with
the plain scan of the last poses.

The scan and the search measure a skew in the same way, by a float.
-/

namespace DroneComms.Scout

open Py (PyFloat)

/-- The fields of a `TimeSync`. -/
structure SyncState where
  poses : List FusedPose := []
  sorted : Option (List FusedPose) := none
  sortedTs : List PyFloat := []
  dropped : ℕ := 0

/-- A call. -/
inductive SyncCall where
  | addPose (pose : FusedPose)
  | align (ts : PyFloat)

namespace SyncState

variable (bufferSize : ℕ) (maxSkewS : PyFloat)

/-- `add_pose`. -/
def addPose (pose : FusedPose) (s : SyncState) : SyncState :=
  { s with
    poses := (s.poses ++ [pose]).drop (s.poses.length + 1 - bufferSize)
    sorted := none }

/-- The sorted copy, made if there is none. -/
def index (s : SyncState) : List FusedPose × SyncState :=
  match s.sorted with
  | some sorted => (sorted, s)
  | none =>
      let sorted := TimeSync.sorted s.poses
      (sorted, { s with sorted := some sorted, sortedTs := sorted.map FusedPose.ts })

/-- The candidates at the insertion point. -/
def candidates (sorted : List FusedPose) (sortedTs : List PyFloat) (ts : PyFloat) :
    List FusedPose :=
  let i := Py.bisectLeft PyFloat.lt sortedTs ts
  (if i = 0 then [] else (sorted[i - 1]?).toList) ++ (sorted[i]?).toList

/-- No pose, and a warning. -/
def drop (s : SyncState) : Option FusedPose × SyncState :=
  (none, { s with dropped := s.dropped + 1 })

variable [Py.Libm]

/-- `align`. -/
def align (ts : PyFloat) (s : SyncState) : Option FusedPose × SyncState :=
  if s.poses.isEmpty then s.drop
  else
    let (sorted, s) := s.index
    match (candidates sorted s.sortedTs ts).foldl (TimeSync.closer ts) (none, .posInf) with
    | (none, _) => s.drop
    | (some best, bestSkew) => if PyFloat.lt maxSkewS bestSkew then s.drop else (some best, s)

/-- A call, without what it returns. -/
def step (s : SyncState) : SyncCall → SyncState
  | .addPose pose => s.addPose bufferSize pose
  | .align ts => (s.align maxSkewS ts).2

/-- A sequence of calls. -/
def run (calls : List SyncCall) : SyncState := calls.foldl (step bufferSize maxSkewS) {}

end SyncState

/-! ## The index -/

namespace SyncCall

/-- The pose that a call adds. -/
def pose? : SyncCall → Option FusedPose
  | addPose pose => some pose
  | align _ => none

/-- The timestamp of a call is finite. -/
def Finite : SyncCall → Prop
  | addPose pose => pose.ts.isFinite = true
  | align ts => ts.isFinite = true

end SyncCall

namespace SyncState

variable {bufferSize : ℕ} {maxSkewS ts : PyFloat} {s : SyncState} {calls : List SyncCall}

/-- The last of the poses that were added. -/
def window (bufferSize : ℕ) (calls : List SyncCall) : List FusedPose :=
  (calls.filterMap SyncCall.pose?).rtake bufferSize

/-- If there is a sorted copy, it is one of these poses. -/
def Indexed (s : SyncState) : Prop :=
  ∀ sorted, s.sorted = some sorted →
    sorted = TimeSync.sorted s.poses ∧ s.sortedTs = sorted.map FusedPose.ts

/-- A queue with a bound keeps the last entries. -/
theorem rtake_concat {α : Type*} (n : ℕ) (xs : List α) (x : α) :
    (xs.rtake n ++ [x]).drop ((xs.rtake n).length + 1 - n) = (xs ++ [x]).rtake n := by
  simp only [List.rtake, List.length_drop, List.length_append, List.length_singleton]
  rcases Nat.lt_or_ge xs.length n with h | h
  · have hkeep : xs.length - n = 0 := by omega
    rw [hkeep, List.drop_zero, Nat.sub_zero]
  · have hone : xs.length - (xs.length - n) + 1 - n = 1 := by omega
    have hmore : xs.length + 1 - n = xs.length - n + 1 := by omega
    rw [hone, hmore, ← List.drop_append_of_le_length (Nat.sub_le _ _), List.drop_drop]

theorem index_of_indexed (h : s.Indexed) : s.index =
    (TimeSync.sorted s.poses, { s with
      sorted := some (TimeSync.sorted s.poses)
      sortedTs := (TimeSync.sorted s.poses).map FusedPose.ts }) := by
  rw [index]
  cases hsorted : s.sorted with
  | none => rfl
  | some sorted =>
      obtain ⟨rfl, hts⟩ := h sorted hsorted
      dsimp only
      rw [← hts, ← hsorted]

variable [Py.Libm]

/-- The search in a sorted copy of the poses. -/
def search (ts : PyFloat) (poses : List FusedPose) : Option FusedPose × PyFloat :=
  (TimeSync.straddling (TimeSync.sorted poses) ts).foldl (TimeSync.closer ts) (none, .posInf)

/-- The answer to a search. -/
def answer (maxSkewS : PyFloat) (found : Option FusedPose × PyFloat) : Option FusedPose :=
  if PyFloat.lt maxSkewS found.2 then none else found.1

/-- What `align` returns and leaves, whether or not there was a sorted copy. -/
theorem align_spec (h : s.Indexed) : (s.align maxSkewS ts).1 = answer maxSkewS (search ts s.poses) ∧
    (s.align maxSkewS ts).2.poses = s.poses ∧ (s.align maxSkewS ts).2.Indexed ∧
    (s.align maxSkewS ts).2.dropped =
      s.dropped + if (answer maxSkewS (search ts s.poses)).isNone then 1 else 0 := by
  by_cases hempty : s.poses.isEmpty = true
  · have hnone : answer maxSkewS (search ts s.poses) = none := by
      rw [List.isEmpty_iff.mp hempty]
      exact ite_self _
    rw [align, if_pos hempty, hnone]
    exact ⟨rfl, rfl, h, rfl⟩
  · rw [align, if_neg hempty, index_of_indexed h]
    have hsearch : (candidates (TimeSync.sorted s.poses)
        ((TimeSync.sorted s.poses).map FusedPose.ts) ts).foldl (TimeSync.closer ts) (none, .posInf) =
          search ts s.poses := rfl
    have hindexed (dropped : ℕ) : Indexed { s with
        sorted := some (TimeSync.sorted s.poses)
        sortedTs := (TimeSync.sorted s.poses).map FusedPose.ts
        dropped := dropped } := by
      rintro sorted ⟨⟩
      exact ⟨rfl, rfl⟩
    dsimp only
    rw [hsearch]
    obtain ⟨best, skew⟩ := search ts s.poses
    cases best with
    | none =>
        have hanswer : answer maxSkewS (none, skew) = none := ite_self _
        rw [hanswer]
        exact ⟨rfl, rfl, hindexed _, rfl⟩
    | some best =>
        by_cases hskew : PyFloat.lt maxSkewS skew = true
        · have hanswer : answer maxSkewS (some best, skew) = none := if_pos hskew
          rw [hanswer]
          dsimp only
          rw [if_pos hskew]
          exact ⟨rfl, rfl, hindexed _, rfl⟩
        · have hanswer : answer maxSkewS (some best, skew) = some best := if_neg hskew
          rw [hanswer]
          dsimp only
          rw [if_neg hskew]
          exact ⟨rfl, rfl, hindexed _, rfl⟩

/-- After any calls the poses are the last ones and the index, if there is one, is theirs. -/
theorem run_spec (bufferSize : ℕ) (maxSkewS : PyFloat) (calls : List SyncCall) :
    (run bufferSize maxSkewS calls).Indexed ∧
      (run bufferSize maxSkewS calls).poses = window bufferSize calls := by
  induction calls using List.reverseRecOn with
  | nil =>
      refine ⟨?_, by simp [run, window]⟩
      rintro sorted ⟨⟩
  | append_singleton calls call ih =>
      obtain ⟨hindexed, hposes⟩ := ih
      have hrun : run bufferSize maxSkewS (calls ++ [call]) =
          (run bufferSize maxSkewS calls).step bufferSize maxSkewS call := by
        rw [run, List.foldl_append]
        rfl
      rw [hrun, window, List.filterMap_append]
      cases call with
      | addPose pose =>
          refine ⟨?_, ?_⟩
          · rintro sorted ⟨⟩
          · rw [step, addPose, hposes]
            exact rtake_concat bufferSize _ pose
      | align ts =>
          obtain ⟨-, hkeep, hindexed', -⟩ := @align_spec maxSkewS ts _ _ hindexed
          refine ⟨hindexed', hkeep.trans ?_⟩
          rw [hposes]
          exact congrArg (List.rtake · bufferSize) (List.append_nil _).symm

end SyncState

/-! ## The nearest pose -/

namespace FusedPose

/-- The timestamp as a number. -/
def time (p : FusedPose) : ℚ :=
  match p.ts with
  | .fin q => q
  | _ => 0

theorem ts_eq {p : FusedPose} (h : p.ts.isFinite = true) : p.ts = .fin p.time := by
  rw [time]
  cases hts : p.ts with
  | fin q => rfl
  | nan | posInf | negInf =>
      rw [hts] at h
      cases h

variable [Py.Libm]

/-- `abs(pose.ts - ts)`. -/
def skew (ts : PyFloat) (p : FusedPose) : PyFloat := Py.Arith.abs (p.ts - ts)

theorem abs_neg_eq {x : PyFloat} (h : PyFloat.le (.fin 0) x = true) :
    Py.Arith.abs x.neg = x ∧ Py.Arith.abs x = x := by
  have hzero : (Py.Arith.lit 0 : PyFloat) = .fin 0 := Cv.ofRat_zero
  rw [Py.Arith.abs, Py.Arith.abs, hzero]
  cases x with
  | nan => cases h
  | negInf => cases h
  | posInf => exact ⟨rfl, rfl⟩
  | fin q =>
      have hq : 0 ≤ q := of_decide_eq_true h
      have hlt (a b : ℚ) : Py.Arith.lt (PyFloat.fin a) (.fin b) = decide (a < b) := PyFloat.lt_fin a b
      rw [PyFloat.neg, hlt, hlt, decide_eq_false (not_lt.mpr hq)]
      refine ⟨?_, rfl⟩
      rcases hq.eq_or_lt with rfl | hpos
      · rw [neg_zero, decide_eq_false (lt_irrefl _)]
        rfl
      · rw [decide_eq_true (neg_lt_zero.mpr hpos)]
        exact congrArg PyFloat.fin (neg_neg q)

theorem abs_ofRat (q : ℚ) : Py.Arith.abs (PyFloat.ofRat q) = PyFloat.ofRat |q| := by
  have hzero {r : ℚ} (hr : 0 ≤ r) : PyFloat.le (.fin 0) (.ofRat r) = true := by
    rw [← Cv.ofRat_zero]
    exact PyFloat.ofRat_mono le_rfl hr
  rcases le_total 0 q with h | h
  · rw [abs_of_nonneg h]
    exact (abs_neg_eq (hzero h)).2
  · rw [abs_of_nonpos h]
    have hneg : PyFloat.ofRat q = (PyFloat.ofRat (-q)).neg := by rw [← PyFloat.ofRat_neg, neg_neg]
    rw [hneg]
    exact (abs_neg_eq (hzero (neg_nonneg.mpr h))).1

/-- The skew is the float of the distance in time. -/
theorem skew_eq {p : FusedPose} (h : p.ts.isFinite = true) (t : ℚ) :
    p.skew (.fin t) = PyFloat.ofRat |p.time - t| := by
  rw [skew, ts_eq h, Cv.sub_fin, ← sub_eq_add_neg, abs_ofRat]

/-- Whoever is not further away in time does not have a larger skew. -/
theorem skew_mono {p q : FusedPose} (hp : p.ts.isFinite = true) (hq : q.ts.isFinite = true) {t : ℚ}
    (h : |p.time - t| ≤ |q.time - t|) : (p.skew (.fin t)).le (q.skew (.fin t)) = true := by
  rw [skew_eq hp, skew_eq hq]
  exact PyFloat.ofRat_mono (abs_nonneg _) h

theorem skew_ne_nan {p : FusedPose} (h : p.ts.isFinite = true) (t : ℚ) : p.skew (.fin t) ≠ .nan := by
  rw [skew_eq h]
  exact PyFloat.ofRat_ne_nan _

end FusedPose

namespace TimeSync

variable {poses : List FusedPose} {p q : FusedPose} {t : ℚ}

theorem mem_sorted : p ∈ sorted poses ↔ p ∈ poses := List.mem_insertionSort _

theorem sorted_pairwise (h : ∀ p ∈ poses, p.ts.isFinite = true) :
    (sorted poses).Pairwise fun a b ↦ a.time ≤ b.time := by
  have hcongr : sorted poses = poses.insertionSort fun a b ↦ a.time ≤ b.time := by
    have hmap := List.map_insertionSort (r := fun a b ↦ PyFloat.lt b.ts a.ts = false)
      (s := fun a b : FusedPose ↦ a.time ≤ b.time) id poses fun a ha b hb ↦ by
        rw [FusedPose.ts_eq (h a ha), FusedPose.ts_eq (h b hb), PyFloat.lt_fin,
          decide_eq_false_iff_not, not_lt]
        rfl
    rw [List.map_id, List.map_id] at hmap
    exact hmap
  have htotal : Std.Total fun a b : FusedPose ↦ a.time ≤ b.time := ⟨fun a b ↦ le_total _ _⟩
  have htrans : IsTrans FusedPose fun a b ↦ a.time ≤ b.time := ⟨fun _ _ _ ↦ le_trans⟩
  rw [hcongr]
  exact List.pairwise_insertionSort _ poses

/-- The insertion point is behind the poses that come before the timestamp. -/
theorem lt_insertion_iff (h : ∀ p ∈ poses, p.ts.isFinite = true) {k : ℕ}
    (hk : k < (sorted poses).length) :
    k < Py.bisectLeft PyFloat.lt ((sorted poses).map FusedPose.ts) (.fin t) ↔
      (sorted poses)[k].time < t := by
  have hfin {p : FusedPose} (hp : p ∈ sorted poses) : p.ts = .fin p.time :=
    FusedPose.ts_eq (h p (mem_sorted.mp hp))
  have hmono : ((sorted poses).map FusedPose.ts).Pairwise fun a b ↦
      PyFloat.lt b (.fin t) = true → PyFloat.lt a (.fin t) = true := by
    rw [List.pairwise_map]
    refine (sorted_pairwise h).imp_of_mem fun ha hb hab ↦ ?_
    rw [hfin ha, hfin hb, PyFloat.lt_fin, PyFloat.lt_fin, decide_eq_true_eq, decide_eq_true_eq]
    exact hab.trans_lt
  have hk' : k < ((sorted poses).map FusedPose.ts).length := by rwa [List.length_map]
  rw [Py.bisectLeft, Py.lt_bisect_iff hmono hk' (by omega) le_rfl (fun h ↦ absurd h (Nat.not_lt_zero k))
    (fun h ↦ absurd hk' (not_lt.mpr h)), List.getElem_map, hfin (List.getElem_mem hk),
    PyFloat.lt_fin, decide_eq_true_eq]

theorem mem_of_mem_straddling {xs : List FusedPose} {ts : PyFloat} (h : p ∈ straddling xs ts) :
    p ∈ xs := by
  rcases List.mem_append.mp h with h | h
  · split_ifs at h
    · cases h
    · exact List.mem_of_getElem? (Option.mem_toList.mp h)
  · exact List.mem_of_getElem? (Option.mem_toList.mp h)

/-- No pose is nearer in time than both around the timestamp. -/
theorem exists_straddling (h : ∀ p ∈ poses, p.ts.isFinite = true) (hq : q ∈ poses) (t : ℚ) :
    ∃ c ∈ straddling (sorted poses) (.fin t), |c.time - t| ≤ |q.time - t| := by
  obtain ⟨k, hk, rfl⟩ := List.getElem_of_mem (mem_sorted.mpr hq)
  have hiff {j : ℕ} (hj : j < (sorted poses).length) := lt_insertion_iff (t := t) h hj
  have hle : Py.bisectLeft PyFloat.lt ((sorted poses).map FusedPose.ts) (.fin t) ≤
      (sorted poses).length := (Py.bisect_le (Nat.zero_le _)).trans_eq (List.length_map _)
  have hsorted := List.pairwise_iff_getElem.mp (sorted_pairwise h)
  rw [straddling]
  generalize Py.bisectLeft PyFloat.lt ((sorted poses).map FusedPose.ts) (.fin t) = i at hiff hle ⊢
  by_cases hlt : (sorted poses)[k].time < t
  · -- the pose before the insertion point is not earlier
    have hki := (hiff hk).mpr hlt
    have hi : i - 1 < (sorted poses).length := by omega
    refine ⟨(sorted poses)[i - 1], ?_, ?_⟩
    · rw [if_neg (by omega), List.getElem?_eq_getElem hi]
      simp
    · have hbefore : (sorted poses)[i - 1].time < t := (hiff hi).mp (by omega)
      have horder : (sorted poses)[k].time ≤ (sorted poses)[i - 1].time := by
        rcases (show k ≤ i - 1 by omega).eq_or_lt with heq | hlt'
        · simp [heq]
        · exact hsorted k (i - 1) hk hi hlt'
      rw [abs_of_neg (sub_neg.mpr hbefore), abs_of_neg (sub_neg.mpr hlt)]
      linarith
  · have hik : i ≤ k := not_lt.mp fun hki ↦ hlt ((hiff hk).mp hki)
    have hi : i < (sorted poses).length := hik.trans_lt hk
    refine ⟨(sorted poses)[i], ?_, ?_⟩
    · rw [List.getElem?_eq_getElem hi]
      simp
    · have hbehind : t ≤ (sorted poses)[i].time :=
        not_lt.mp fun hbefore ↦ absurd ((hiff hi).mpr hbefore) (lt_irrefl i)
      have horder : (sorted poses)[i].time ≤ (sorted poses)[k].time := by
        rcases hik.eq_or_lt with heq | hlt'
        · simp [heq]
        · exact hsorted i k hi hk hlt'
      rw [abs_of_nonneg (sub_nonneg.mpr hbehind), abs_of_nonneg (sub_nonneg.mpr (not_lt.mp hlt))]
      linarith

variable [Py.Libm]

/-- What the search has found among these candidates. -/
inductive Found (ts : PyFloat) (cs : List FusedPose) : Option FusedPose × PyFloat → Prop where
  | nothing (h : ∀ c ∈ cs, c.skew ts = .posInf) : Found ts cs (none, .posInf)
  | nearest (p : FusedPose) (hmem : p ∈ cs) (hlt : (p.skew ts).lt .posInf = true)
      (hle : ∀ c ∈ cs, (p.skew ts).le (c.skew ts) = true) : Found ts cs (some p, p.skew ts)

/-- One round of the search. -/
theorem Found.closer {ts : PyFloat} {cs : List FusedPose} {found : Option FusedPose × PyFloat}
    (h : Found ts cs found) (hnan : ∀ c ∈ cs ++ [p], c.skew ts ≠ .nan) :
    Found ts (cs ++ [p]) (closer ts found p) := by
  have hp : p.skew ts ≠ .nan := hnan p (by simp)
  have hcloser : TimeSync.closer ts found p =
      if PyFloat.lt (p.skew ts) found.2 then (some p, p.skew ts) else found := rfl
  have hself : (p.skew ts).le (p.skew ts) = true := PyFloat.le_of_not_lt hp hp (by simp [PyFloat.lt])
  rw [hcloser]
  cases h with
  | nothing hinf =>
      dsimp only
      split_ifs with hlt
      · refine .nearest p (by simp) hlt ?_
        rw [List.forall_mem_append, List.forall_mem_singleton]
        refine ⟨fun c hc ↦ ?_, hself⟩
        rw [hinf c hc]
        exact PyFloat.le_of_lt' hlt
      · refine .nothing ?_
        rw [List.forall_mem_append, List.forall_mem_singleton]
        exact ⟨hinf, PyFloat.eq_posInf_of_not_lt hp (Bool.eq_false_iff.mpr hlt)⟩
  | nearest b hmem hfin hle =>
      dsimp only
      split_ifs with hlt
      · refine .nearest p (by simp) ?_ ?_
        · by_contra hge
          have heq := PyFloat.eq_posInf_of_not_lt hp (Bool.eq_false_iff.mpr hge)
          have hle' := PyFloat.le_of_lt' hlt
          rw [heq] at hle'
          rw [PyFloat.not_le_of_lt hfin] at hle'
          cases hle'
        · rw [List.forall_mem_append, List.forall_mem_singleton]
          exact ⟨fun c hc ↦ PyFloat.le_trans' (PyFloat.le_of_lt' hlt) (hle c hc), hself⟩
      · refine .nearest b (by simp [hmem]) hfin ?_
        rw [List.forall_mem_append, List.forall_mem_singleton]
        exact ⟨hle, PyFloat.le_of_not_lt hp (hnan b (by simp [hmem])) (Bool.eq_false_iff.mpr hlt)⟩

theorem found_foldl {ts : PyFloat} {cs : List FusedPose} (hnan : ∀ c ∈ cs, c.skew ts ≠ .nan) :
    Found ts cs (cs.foldl (closer ts) (none, .posInf)) := by
  induction cs using List.reverseRecOn with
  | nil => exact .nothing (List.forall_mem_nil _)
  | append_singleton cs c ih =>
      rw [List.foldl_append]
      exact (ih fun c hc ↦ hnan c (by simp [hc])).closer hnan

/-- The search finds what a scan of all poses finds. -/
theorem found_search (h : ∀ p ∈ poses, p.ts.isFinite = true) (t : ℚ) :
    Found (.fin t) poses (SyncState.search (.fin t) poses) := by
  have hmem {c : FusedPose} (hc : c ∈ straddling (sorted poses) (.fin t)) : c ∈ poses :=
    mem_sorted.mp (mem_of_mem_straddling hc)
  have hnearest {q : FusedPose} (hq : q ∈ poses) : ∃ c ∈ straddling (sorted poses) (.fin t),
      (c.skew (.fin t)).le (q.skew (.fin t)) = true := by
    obtain ⟨c, hc, hle⟩ := exists_straddling h hq t
    exact ⟨c, hc, FusedPose.skew_mono (h c (hmem hc)) (h q hq) hle⟩
  have hnan : ∀ c ∈ straddling (sorted poses) (.fin t), c.skew (.fin t) ≠ .nan := fun c hc ↦
    FusedPose.skew_ne_nan (h c (hmem hc)) t
  have hfound := found_foldl hnan
  rw [SyncState.search]
  generalize (straddling (sorted poses) (.fin t)).foldl (closer (.fin t)) (none, .posInf) = found
    at hfound ⊢
  cases hfound with
  | nothing hinf =>
      refine .nothing fun q hq ↦ ?_
      obtain ⟨c, hc, hle⟩ := hnearest hq
      rw [hinf c hc] at hle
      refine PyFloat.eq_posInf_of_not_lt (FusedPose.skew_ne_nan (h q hq) t) ?_
      rw [PyFloat.lt, hle, Bool.not_true, Bool.and_false]
  | nearest p hp hlt hle =>
      refine .nearest p (hmem hp) hlt fun q hq ↦ ?_
      obtain ⟨c, hc, hcq⟩ := hnearest hq
      exact PyFloat.le_trans' (hle c hc) hcq

/-! ## The scan -/

/-- The answer of a plain scan, and the counter before and after it: a pose with the least skew,
if that is not too large. -/
def Matches (maxSkewS : PyFloat) (poses : List FusedPose) (ts : PyFloat) (before after : ℕ) :
    Option FusedPose → Prop
  | some p => p ∈ poses ∧ (∀ q ∈ poses, (p.skew ts).le (q.skew ts) = true) ∧
      (p.skew ts).le maxSkewS = true ∧ after = before
  | none => (∀ p ∈ poses, (∀ q ∈ poses, (p.skew ts).le (q.skew ts) = true) →
      (p.skew ts).le maxSkewS = false) ∧ after = before + 1

/-- Any skew is allowed, and that of every pose overflows. -/
def Overflows (maxSkewS : PyFloat) (poses : List FusedPose) (ts : PyFloat) : Prop :=
  maxSkewS = .posInf ∧ poses ≠ [] ∧ ∀ p ∈ poses, p.skew ts = .posInf

/-- The search answers as the scan unless every skew overflows. -/
theorem matches_answer_iff {maxSkewS : PyFloat} (hmax : PyFloat.le (.fin 0) maxSkewS = true)
    (h : ∀ p ∈ poses, p.ts.isFinite = true) (t : ℚ) (before : ℕ) :
    Matches maxSkewS poses (.fin t) before
        (before + if (SyncState.answer maxSkewS (SyncState.search (.fin t) poses)).isNone then 1 else 0)
        (SyncState.answer maxSkewS (SyncState.search (.fin t) poses)) ↔
      ¬Overflows maxSkewS poses (.fin t) := by
  have hfound := found_search h t
  have hnan : maxSkewS ≠ .nan := by
    rintro rfl
    cases hmax
  generalize SyncState.search (.fin t) poses = found at hfound ⊢
  cases hfound with
  | nothing hinf =>
      have hanswer : SyncState.answer maxSkewS (none, .posInf) = none := ite_self _
      rw [hanswer, Matches, Overflows]
      constructor
      · rintro ⟨hfar, -⟩ ⟨rfl, hne, -⟩
        obtain ⟨p, hp⟩ := List.exists_mem_of_ne_nil poses hne
        have hleast : ∀ q ∈ poses, (p.skew (.fin t)).le (q.skew (.fin t)) = true := fun q hq ↦ by
          rw [hinf p hp, hinf q hq]
          rfl
        have hle := hfar p hp hleast
        rw [hinf p hp] at hle
        cases hle
      · refine fun hnot ↦ ⟨fun p hp _ ↦ ?_, rfl⟩
        rw [hinf p hp]
        cases maxSkewS with
        | nan => rfl
        | negInf | fin _ => rfl
        | posInf => exact absurd ⟨rfl, List.ne_nil_of_mem hp, hinf⟩ hnot
  | nearest p hp hlt hle =>
      refine iff_of_true ?_ fun hover ↦ ?_
      · by_cases hskew : PyFloat.lt maxSkewS (p.skew (.fin t)) = true
        · have hanswer : SyncState.answer maxSkewS (some p, p.skew (.fin t)) = none := if_pos hskew
          rw [hanswer]
          refine ⟨fun q hq hleast ↦ ?_, rfl⟩
          by_contra hnear
          have hback := PyFloat.le_trans' (hle q hq) (Bool.not_eq_false _ ▸ hnear)
          rw [PyFloat.not_le_of_lt hskew] at hback
          cases hback
        · have hanswer : SyncState.answer maxSkewS (some p, p.skew (.fin t)) = some p := if_neg hskew
          rw [hanswer]
          exact ⟨hp, hle, PyFloat.le_of_not_lt hnan (FusedPose.skew_ne_nan (h p hp) t)
            (Bool.eq_false_iff.mpr hskew), rfl⟩
      · rw [hover.2.2 p hp] at hlt
        cases hlt

end TimeSync

namespace SyncState

open TimeSync (Matches Overflows)

variable {bufferSize : ℕ} {maxSkewS ts : PyFloat} {calls : List SyncCall}

theorem window_finite (h : ∀ call ∈ calls, call.Finite) :
    ∀ p ∈ window bufferSize calls, p.ts.isFinite = true := by
  intro p hp
  obtain ⟨call, hcall, hpose⟩ := List.mem_filterMap.mp (List.mem_of_mem_drop hp)
  cases call with
  | addPose pose =>
      cases hpose
      exact h _ hcall
  | align ts => cases hpose

variable [Py.Libm]

theorem matches_iff (hmax : PyFloat.le (.fin 0) maxSkewS = true) (h : ∀ call ∈ calls, call.Finite)
    (hts : ts.isFinite = true) :
    Matches maxSkewS (window bufferSize calls) ts (run bufferSize maxSkewS calls).dropped
        ((run bufferSize maxSkewS calls).align maxSkewS ts).2.dropped
        ((run bufferSize maxSkewS calls).align maxSkewS ts).1 ↔
      ¬Overflows maxSkewS (window bufferSize calls) ts := by
  cases ts with
  | fin t =>
      obtain ⟨hindexed, hposes⟩ := run_spec bufferSize maxSkewS calls
      obtain ⟨hanswer, -, -, hdropped⟩ := @align_spec maxSkewS (.fin t) _ _ hindexed
      rw [hanswer, hdropped, hposes]
      exact TimeSync.matches_answer_iff hmax (window_finite h) t _
  | nan | posInf | negInf => cases hts

/-- **Alignment.**  After any calls the index is not stale, and `align` answers and counts as a
scan of the last poses, unless any skew is allowed and that of every pose overflows. -/
theorem aligns_as_scan_iff (bufferSize : ℕ) {maxSkewS : PyFloat}
    (hmax : PyFloat.le (.fin 0) maxSkewS = true) (calls : List SyncCall)
    (h : ∀ call ∈ calls, call.Finite) {ts : PyFloat} (hts : ts.isFinite = true) :
    (run bufferSize maxSkewS calls).Indexed ∧
      (Matches maxSkewS (window bufferSize calls) ts (run bufferSize maxSkewS calls).dropped
          ((run bufferSize maxSkewS calls).align maxSkewS ts).2.dropped
          ((run bufferSize maxSkewS calls).align maxSkewS ts).1 ↔
        ¬Overflows maxSkewS (window bufferSize calls) ts) :=
  ⟨(run_spec bufferSize maxSkewS calls).1, matches_iff hmax h hts⟩

omit [Py.Libm]

/-- A pose at this time. -/
def poseAt (ts : PyFloat) : FusedPose where
  pose := ⟨.fin 0, .fin 0, .fin 30, .fin 0, .fin (-90)⟩
  rollDeg := .fin 0
  ts := ts

/-- Two poses that come late and early. -/
theorem aligns_with_the_later_pose :
    letI := Cv.equator
    (run 256 (.fin 1) [.addPose (poseAt (.fin 2)), .addPose (poseAt (.fin 1))]).Indexed ∧
      (Matches (.fin 1) (window 256 [.addPose (poseAt (.fin 2)), .addPose (poseAt (.fin 1))]) (.fin 2)
          (run 256 (.fin 1) [.addPose (poseAt (.fin 2)), .addPose (poseAt (.fin 1))]).dropped
          ((run 256 (.fin 1) [.addPose (poseAt (.fin 2)), .addPose (poseAt (.fin 1))]).align
            (.fin 1) (.fin 2)).2.dropped
          ((run 256 (.fin 1) [.addPose (poseAt (.fin 2)), .addPose (poseAt (.fin 1))]).align
            (.fin 1) (.fin 2)).1 ↔
        ¬Overflows (.fin 1) (window 256 [.addPose (poseAt (.fin 2)), .addPose (poseAt (.fin 1))])
          (.fin 2)) :=
  @aligns_as_scan_iff Cv.equator 256 (.fin 1) (by decide) _
    (by simp [SyncCall.Finite, poseAt, PyFloat.isFinite]) (.fin 2) rfl

/-- A pose and a detection so far apart that their distance in time is no float. -/
theorem infinite_skew_is_dropped :
    letI := Cv.equator
    (SyncCall.addPose (poseAt (.fin (-2 ^ 1023)))).Finite ∧
      ¬Matches .posInf (window 256 [.addPose (poseAt (.fin (-2 ^ 1023)))]) (.fin (2 ^ 1023))
        (run 256 .posInf [.addPose (poseAt (.fin (-2 ^ 1023)))]).dropped
        ((run 256 .posInf [.addPose (poseAt (.fin (-2 ^ 1023)))]).align .posInf
          (.fin (2 ^ 1023))).2.dropped
        ((run 256 .posInf [.addPose (poseAt (.fin (-2 ^ 1023)))]).align .posInf
          (.fin (2 ^ 1023))).1 := by
  refine ⟨rfl, ?_⟩
  rw [@matches_iff 256 .posInf (.fin (2 ^ 1023)) _ Cv.equator rfl (by simp [SyncCall.Finite, poseAt,
    PyFloat.isFinite]) rfl, not_not]
  refine ⟨rfl, List.cons_ne_nil _ _, List.forall_mem_singleton.mpr ?_⟩
  have hdist : |-(2 : ℚ) ^ 1023 - 2 ^ 1023| = 2 ^ 1024 := by
    rw [← neg_add', abs_neg, ← two_mul, ← pow_succ', abs_of_pos (pow_pos two_pos 1024)]
  rw [@FusedPose.skew_eq Cv.equator _ rfl]
  exact (congrArg PyFloat.ofRat hdist).trans PyFloat.ofRat_two_pow

end SyncState

end DroneComms.Scout
