import DroneComms.Scout.Coverage

/-!
# The coverage by brute force

`coverage_fraction` of `scout/survey.py` as its two loops compute it, and what they
compute: the share of the interior samples that some transect reaches, where every
sample is tested against every transect.
-/

namespace DroneComms.Scout

open Lib

/-! ## The loops -/

/-- The counters `total` and `covered` after a sample. -/
def tally (inside covered : ℝ × ℝ → Bool) (counters : ℕ × ℕ) (p : ℝ × ℝ) : ℕ × ℕ :=
  if inside p then (counters.1 + 1, if covered p then counters.2 + 1 else counters.2) else counters

open Classical in
/-- The loops of `coverage_fraction`, with a bound on the rounds of each. -/
noncomputable def coverageLoops (block : Block) (path : List Waypoint)
    (hFovDeg vFovDeg altAglM sampleM : ℝ) (rounds : ℕ) : Option ℝ :=
  if path = [] then some 0
  else
    let half := (footprintsM hFovDeg vFovDeg altAglM).1 / 2.0
    let sorted := (bands block.frame path).insertionSort (· ≤ ·)
    let row (counters : ℕ × ℕ) (u : ℝ) : Option (ℕ × ℕ) :=
      stepLoop (fun counters v ↦ some (tally (fun p ↦ pointInPolygon p.1 p.2 block.uv)
        (fun p ↦ sampleCovered sorted half p.1 p.2) counters (u, v)))
        sampleM block.vmax rounds block.vmin counters
    (stepLoop row sampleM block.umax rounds block.umin (0, 0)).map fun (total, covered) ↦
      if total = 0 then 0 else covered / total

/-- All samples, those of the interior and the others. -/
noncomputable def Block.grid (block : Block) {sampleM : ℝ} (hs : 0 < sampleM) : List (ℝ × ℝ) :=
  (steps hs block.umin block.umax).flatMap fun u ↦
    (steps hs block.vmin block.vmax).map fun v ↦ (u, v)

/-! ## Brute force -/

/-- A sample is within half a footprint of a transect, across it and along it. -/
def Reaches (half : ℝ) (p : ℝ × ℝ) (transect : (ℝ × ℝ) × (ℝ × ℝ)) : Prop :=
  |p.2 - transect.1.2| ≤ half ∧ min transect.1.1 transect.2.1 - half ≤ p.1 ∧
    p.1 ≤ max transect.1.1 transect.2.1 + half

open Classical in
/-- The share of the interior samples that some transect of the path reaches. -/
noncomputable def directCoverage (block : Block) (path : List Waypoint)
    (hFovDeg vFovDeg altAglM : ℝ) {sampleM : ℝ} (hs : 0 < sampleM) : ℝ :=
  let half := (footprintsM hFovDeg vFovDeg altAglM).1 / 2.0
  let transects := pairs (path.map fun w ↦ block.frame.toUv w.lat w.lon)
  let inside := interiorSamples block hs
  let covered := inside.filter fun p ↦ ∃ transect ∈ transects, Reaches half p transect
  covered.length / inside.length

/-! ## The search -/

/-- The transects that the search goes through are those of the path. -/
theorem sampleCovered_eq (frame : LocalFrame) (path : List Waypoint) (half : ℝ) (p : ℝ × ℝ) :
    sampleCovered ((bands frame path).insertionSort (· ≤ ·)) half p.1 p.2 = true ↔
      ∃ transect ∈ pairs (path.map fun w ↦ frame.toUv w.lat w.lon), Reaches half p transect := by
  rw [sampleCovered_iff List.sortedLE_insertionSort]
  simp only [List.mem_insertionSort, bands, List.mem_map]
  constructor
  · rintro ⟨_, ⟨transect, hmem, rfl⟩, h⟩
    exact ⟨transect, hmem, h⟩
  · rintro ⟨transect, hmem, h⟩
    exact ⟨_, ⟨transect, hmem, rfl⟩, h⟩

section

variable (block : Block) (path : List Waypoint) (hFovDeg vFovDeg altAglM : ℝ) {sampleM : ℝ}
  (hs : 0 < sampleM)

open Classical in
theorem coverageFraction_eq : coverageFraction block path hFovDeg vFovDeg altAglM hs =
    directCoverage block path hFovDeg vFovDeg altAglM hs := by
  have hcovered (p : ℝ × ℝ) : sampleCovered ((bands block.frame path).insertionSort (· ≤ ·))
      ((footprintsM hFovDeg vFovDeg altAglM).1 / 2.0) p.1 p.2 =
        decide (∃ transect ∈ pairs (path.map fun w ↦ block.frame.toUv w.lat w.lon),
          Reaches ((footprintsM hFovDeg vFovDeg altAglM).1 / 2.0) p transect) := by
    rw [Bool.eq_iff_iff, decide_eq_true_eq]
    exact sampleCovered_eq block.frame path _ p
  rw [coverageFraction, directCoverage]
  split_ifs with hpath
  · simp [hpath, pairs]
  · simp only [hcovered]
    split_ifs with hinside
    · simp [hinside]
    · rfl

/-- It is a fraction. -/
theorem directCoverage_mem :
    directCoverage block path hFovDeg vFovDeg altAglM hs ∈ Set.Icc (0 : ℝ) 1 := by
  constructor
  · exact div_nonneg (Nat.cast_nonneg _) (Nat.cast_nonneg _)
  · exact div_le_one_of_le₀ (Nat.cast_le.mpr (List.length_filter_le _ _)) (Nat.cast_nonneg _)

/-- What the counters are after some samples. -/
theorem foldl_tally (inside covered : ℝ × ℝ → Bool) (ps : List (ℝ × ℝ)) (counters : ℕ × ℕ) :
    ps.foldl (tally inside covered) counters =
      (counters.1 + (ps.filter inside).length,
        counters.2 + ((ps.filter inside).filter covered).length) := by
  induction ps generalizing counters with
  | nil => rfl
  | cons p ps ih =>
      rw [List.foldl_cons, ih, tally]
      by_cases hp : inside p = true
      · by_cases hc : covered p = true
        · simp [hp, hc]
          omega
        · simp [hp, hc]
          omega
      · simp [hp]

/-- The loops end, with the fraction. -/
theorem coverageLoops_eq {rounds : ℕ} (hu : (steps hs block.umin block.umax).length < rounds)
    (hv : (steps hs block.vmin block.vmax).length < rounds) :
    coverageLoops block path hFovDeg vFovDeg altAglM sampleM rounds =
      some (coverageFraction block path hFovDeg vFovDeg altAglM hs) := by
  rw [coverageLoops, coverageFraction]
  split_ifs with hpath
  · rfl
  · have hrow (inside covered : ℝ × ℝ → Bool) (counters : ℕ × ℕ) (u : ℝ) :
        stepLoop (fun counters v ↦ some (tally inside covered counters (u, v))) sampleM block.vmax
          rounds block.vmin counters =
        some ((steps hs block.vmin block.vmax).foldl (fun counters v ↦
          tally inside covered counters (u, v)) counters) := by
      rw [stepLoop_eq hs _ hv]
      exact List.foldlM_pure
    have hgrid (inside covered : ℝ × ℝ → Bool) :
        stepLoop (fun counters u ↦ stepLoop (fun counters v ↦
          some (tally inside covered counters (u, v))) sampleM block.vmax rounds block.vmin counters)
            sampleM block.umax rounds block.umin (0, 0) =
        some (((block.grid hs).filter inside).length,
          (((block.grid hs).filter inside).filter covered).length) := by
      have htally := foldl_tally inside covered (block.grid hs) (0, 0)
      simp only [Nat.zero_add] at htally
      rw [← htally, Block.grid]
      simp only [List.foldl_flatMap, List.foldl_map]
      simp only [hrow]
      rw [stepLoop_eq hs _ hu]
      exact List.foldlM_pure
    dsimp only
    rw [hgrid]
    simp only [Option.map_some, List.length_eq_zero_iff]
    rfl

/-- **Coverage.**  The loops end and the search gives what testing every interior sample against
every transect gives, a fraction between zero and one. -/
theorem coverage_is_brute_force :
    coverageFraction block path hFovDeg vFovDeg altAglM hs =
        directCoverage block path hFovDeg vFovDeg altAglM hs ∧
      (∃ enough, ∀ rounds > enough,
        coverageLoops block path hFovDeg vFovDeg altAglM sampleM rounds =
          some (coverageFraction block path hFovDeg vFovDeg altAglM hs)) ∧
      coverageFraction block path hFovDeg vFovDeg altAglM hs ∈ Set.Icc (0 : ℝ) 1 := by
  have heq := coverageFraction_eq block path hFovDeg vFovDeg altAglM hs
  refine ⟨heq, ⟨max (steps hs block.umin block.umax).length
    (steps hs block.vmin block.vmax).length, fun rounds hrounds ↦ ?_⟩, ?_⟩
  · obtain ⟨hu, hv⟩ := max_lt_iff.mp hrounds
    exact coverageLoops_eq block path hFovDeg vFovDeg altAglM hs hu hv
  · rw [heq]
    exact directCoverage_mem block path hFovDeg vFovDeg altAglM hs

end

/-- A pass over a small block, sampled every metre. -/
theorem lowPass_coverage_is_brute_force :
    coverageFraction plot lowPass.path 90 90 0.4 one_pos =
        directCoverage plot lowPass.path 90 90 0.4 one_pos ∧
      (∃ enough, ∀ rounds > enough, coverageLoops plot lowPass.path 90 90 0.4 1 rounds =
        some (coverageFraction plot lowPass.path 90 90 0.4 one_pos)) ∧
      coverageFraction plot lowPass.path 90 90 0.4 one_pos ∈ Set.Icc (0 : ℝ) 1 :=
  coverage_is_brute_force plot lowPass.path 90 90 0.4 one_pos

end DroneComms.Scout
