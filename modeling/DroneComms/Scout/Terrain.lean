import DroneComms.Lib.Interpolation
import DroneComms.Py.Sequence

/-!
# Gridded terrain

`scout/terrain.py`: the elevation at a point of an elevation grid, in exact
arithmetic.  The cell and the weights of a query are clamped by rules of their own,
which come to interpolation at the clamped indices.
-/

namespace DroneComms.Scout

open Interpolation

variable {F : Type} [Field F] [LinearOrder F]

/-- `GridTransform`: the map from a point to its fractional indices. -/
structure GridTransform (F : Type) [Field F] [LinearOrder F] where
  /-- The longitude of the western edge. -/
  x0 : F
  /-- The latitude of the northern edge. -/
  y0 : F
  /-- Degrees per column. -/
  dx : F
  /-- Degrees per row. -/
  dy : F
  dx_pos : 0 < dx
  dy_pos : 0 < dy

/-- `to_indices`: row and column. -/
def GridTransform.toIndices (t : GridTransform F) (lat lon : F) : F × F :=
  ((t.y0 - lat) / t.dy, (lon - t.x0) / t.dx)

/-- What `GriddedTerrain.__init__` raises. -/
inductive TerrainError where
  /-- `grid must be non-empty`. -/
  | empty
  /-- `grid rows must be equal length`. -/
  | ragged
deriving DecidableEq, Repr

/-- `GriddedTerrain`: the elevations, row by row from the north. -/
structure GriddedTerrain (F : Type) [Field F] [LinearOrder F] where
  grid : List (List F)
  cols : ℕ
  transform : GridTransform F
  rows_pos : 0 < grid.length
  cols_pos : 0 < cols
  rectangular : ∀ row ∈ grid, row.length = cols

namespace GriddedTerrain

/-- `GriddedTerrain(grid, transform)`. -/
def make (grid : List (List F)) (transform : GridTransform F) :
    Except TerrainError (GriddedTerrain F) :=
  let cols := (grid.head?.getD []).length
  if h : 0 < grid.length ∧ 0 < cols then
    if hrows : ∀ row ∈ grid, row.length = cols then
      .ok { grid, cols, transform, rows_pos := h.1, cols_pos := h.2, rectangular := hrows }
    else .error .ragged
  else .error .empty

def rows (t : GriddedTerrain F) : ℕ := t.grid.length

/-- `_clampi`. -/
def clampi (i hi : ℤ) : ℤ := if i < 0 then 0 else if hi < i then hi else i

/-- `self._grid[r][c]`. -/
def at? (t : GriddedTerrain F) (r c : ℤ) : Option F := (Py.get t.grid r).bind (Py.get · c)

/-- The two neighbours of a fractional index in one direction, and the weight of the second. -/
structure Neighbours (F : Type) where
  lower : ℤ
  upper : ℤ
  weight : F

variable [FloorRing F]

/-- `int(x)`. -/
def truncated (x : F) : ℤ := if 0 ≤ x then ⌊x⌋ else ⌈x⌉

/-- The neighbours among `n` nodes: `r0`, `r1` and `fr`, or `c0`, `c1` and `fc`. -/
def neighbours (x : F) (n : ℤ) : Neighbours F :=
  let lower := clampi (if 0 ≤ x then truncated x else truncated x - 1) (n - 1)
  { lower
    upper := clampi (lower + 1) (n - 1)
    weight := if x ≤ 0 then 0 else if (n - 1 : ℤ) ≤ x then 1 else x - lower }

/-- `elevation_m`; `none` is an `IndexError`. -/
def elevationM (t : GriddedTerrain F) (lat lon : F) : Option F := do
  let (rf, cf) := t.transform.toIndices lat lon
  let r := neighbours rf t.rows
  let c := neighbours cf t.cols
  let top := (← t.at? r.lower c.lower) * (1 - c.weight) + (← t.at? r.lower c.upper) * c.weight
  let bot := (← t.at? r.upper c.lower) * (1 - c.weight) + (← t.at? r.upper c.upper) * c.weight
  return top * (1 - r.weight) + bot * r.weight

/-! ## The neighbours -/

variable [IsStrictOrderedRing F]

theorem clampi_mem (i : ℤ) {hi : ℤ} (h : 0 ≤ hi) : 0 ≤ clampi i hi ∧ clampi i hi ≤ hi := by
  unfold clampi
  split_ifs <;> omega

theorem clampi_eq_self {i hi : ℤ} (h0 : 0 ≤ i) (h : i ≤ hi) : clampi i hi = i := by
  rw [clampi, if_neg (by omega), if_neg (by omega)]

theorem clampi_of_le {i hi : ℤ} (h0 : 0 ≤ hi) (h : hi ≤ i) : clampi i hi = hi := by
  unfold clampi
  split_ifs <;> omega

omit [IsStrictOrderedRing F] in
/-- Both neighbours are nodes. -/
theorem neighbours_mem (x : F) {n : ℤ} (hn : 0 < n) :
    (0 ≤ (neighbours x n).lower ∧ (neighbours x n).lower < n) ∧
      0 ≤ (neighbours x n).upper ∧ (neighbours x n).upper < n := by
  have hlower := clampi_mem (if 0 ≤ x then truncated x else truncated x - 1)
    (show 0 ≤ n - 1 by omega)
  have hupper := clampi_mem ((neighbours x n).lower + 1) (show 0 ≤ n - 1 by omega)
  exact ⟨⟨hlower.1, by unfold neighbours; dsimp only; omega⟩, hupper.1,
    by unfold neighbours at hupper ⊢; dsimp only at hupper ⊢; omega⟩

/-- Before the first node, its value is held. -/
theorem lower_of_nonpos {x : F} (hx : x ≤ 0) {n : ℤ} (hn : 0 < n) :
    (neighbours x n).lower = 0 := by
  unfold neighbours
  dsimp only
  rcases hx.lt_or_eq with hneg | rfl
  · have hceil : truncated x ≤ 0 := by
      rw [truncated, if_neg (not_le.mpr hneg)]
      exact Int.ceil_le.mpr (by simpa using hx)
    rw [if_neg (not_le.mpr hneg), clampi, if_pos (by omega)]
  · have hzero : truncated (0 : F) = 0 := by simp [truncated]
    rw [if_pos le_rfl, hzero, clampi_eq_self le_rfl (by omega)]

/-- The weighted neighbours are the interpolation at the clamped index. -/
theorem lerp_neighbours (f : ℤ → F) (x : F) {n : ℤ} (hn : 0 < n) :
    lerp (f (neighbours x n).lower) (f (neighbours x n).upper) (neighbours x n).weight =
      linear f (clamp ((n - 1 : ℤ) : F) x) := by
  have hlast : (0 : F) ≤ ((n - 1 : ℤ) : F) := Int.cast_nonneg (by omega)
  rcases le_or_gt x 0 with hx | hx
  · have hweight : (neighbours x n).weight = 0 := if_pos hx
    have hnode := linear_intCast f 0
    rw [Int.cast_zero] at hnode
    rw [hweight, lerp_zero, lower_of_nonpos hx hn, clamp_of_nonpos hlast hx, hnode]
  · have htrunc : (if 0 ≤ x then truncated x else truncated x - 1) = ⌊x⌋ := by
      rw [if_pos hx.le, truncated, if_pos hx.le]
    rcases le_or_gt ((n - 1 : ℤ) : F) x with hhi | hhi
    · have hfloor : n - 1 ≤ ⌊x⌋ := Int.le_floor.mpr hhi
      have hweight : (neighbours x n).weight = 1 := by
        unfold neighbours
        dsimp only
        rw [if_neg (not_le.mpr hx), if_pos hhi]
      have hupper : (neighbours x n).upper = n - 1 := by
        unfold neighbours
        dsimp only
        rw [htrunc, clampi_of_le (by omega) hfloor, clampi_of_le (by omega) (by omega)]
      rw [hweight, lerp_one, hupper, clamp_of_le hlast hhi, linear_intCast]
    · have hfloor : 0 ≤ ⌊x⌋ := Int.floor_nonneg.mpr hx.le
      have hbelow : ⌊x⌋ < n - 1 := Int.floor_lt.mpr hhi
      have hlower : (neighbours x n).lower = ⌊x⌋ := by
        unfold neighbours
        dsimp only
        rw [htrunc, clampi_eq_self hfloor hbelow.le]
      have hupper : (neighbours x n).upper = ⌊x⌋ + 1 := by
        unfold neighbours
        dsimp only
        rw [htrunc, clampi_eq_self hfloor hbelow.le, clampi_eq_self (by omega) (by omega)]
      have hweight : (neighbours x n).weight = Int.fract x := by
        unfold neighbours
        dsimp only
        rw [if_neg (not_le.mpr hx), if_neg (not_le.mpr hhi), htrunc,
          clampi_eq_self hfloor hbelow.le, Int.fract]
      rw [hlower, hupper, hweight, clamp_eq_self hx.le hhi.le, linear]

/-! ## The elevation -/

variable (t : GriddedTerrain F)

/-- The elevation at a node. -/
def node (r c : ℤ) : F := (t.at? r c).getD 0

omit [FloorRing F] [IsStrictOrderedRing F] in
/-- A subscript in the grid is read. -/
theorem at?_eq_node {r c : ℤ} (hr : 0 ≤ r) (hr' : r < t.rows) (hc : 0 ≤ c) (hc' : c < t.cols) :
    t.at? r c = some (t.node r c) := by
  obtain ⟨row, hrow⟩ := Py.exists_get hr hr'
  have hmem : row ∈ t.grid := by
    rw [Py.get_of_nonneg hr] at hrow
    exact List.mem_of_getElem? hrow
  have hlength : c < row.length := by rwa [t.rectangular row hmem]
  obtain ⟨z, hz⟩ := Py.exists_get hc hlength
  have hat : t.at? r c = some z := by rw [at?, hrow, Option.bind_some, hz]
  rw [node, hat, Option.getD_some]

/-- The fractional row and column, clamped to the grid. -/
def clampedIndices (lat lon : F) : F × F :=
  (clamp ((t.rows - 1 : ℤ) : F) (t.transform.toIndices lat lon).1,
    clamp ((t.cols - 1 : ℤ) : F) (t.transform.toIndices lat lon).2)

/-- **The elevation** is the bilinear interpolation at the clamped indices. -/
theorem elevationM_eq (lat lon : F) : t.elevationM lat lon =
    some (bilinear t.node (t.clampedIndices lat lon).1 (t.clampedIndices lat lon).2) := by
  have hrows : (0 : ℤ) < t.rows := Int.natCast_pos.mpr t.rows_pos
  have hcols : (0 : ℤ) < t.cols := Int.natCast_pos.mpr t.cols_pos
  obtain ⟨⟨hr0, hr0'⟩, hr1, hr1'⟩ := neighbours_mem (t.transform.toIndices lat lon).1 hrows
  obtain ⟨⟨hc0, hc0'⟩, hc1, hc1'⟩ := neighbours_mem (t.transform.toIndices lat lon).2 hcols
  rw [bilinear, clampedIndices, ← lerp_neighbours _ _ hrows]
  simp only [← lerp_neighbours _ _ hcols]
  unfold elevationM
  dsimp only
  rw [t.at?_eq_node hr0 hr0' hc0 hc0', t.at?_eq_node hr0 hr0' hc1 hc1',
    t.at?_eq_node hr1 hr1' hc0 hc0', t.at?_eq_node hr1 hr1' hc1 hc1']
  rfl

theorem clampedIndices_mem (lat lon : F) :
    (t.clampedIndices lat lon).1 ∈ Set.Icc ((0 : ℤ) : F) ((t.rows - 1 : ℤ) : F) ∧
      (t.clampedIndices lat lon).2 ∈ Set.Icc ((0 : ℤ) : F) ((t.cols - 1 : ℤ) : F) := by
  have hrows : (0 : F) ≤ ((t.rows - 1 : ℤ) : F) := by
    have := t.rows_pos
    exact Int.cast_nonneg (by unfold rows; omega)
  have hcols : (0 : F) ≤ ((t.cols - 1 : ℤ) : F) := by
    have := t.cols_pos
    exact Int.cast_nonneg (by omega)
  rw [Int.cast_zero]
  exact ⟨clamp_mem hrows _, clamp_mem hcols _⟩

/-- A bound on the grid is one on every elevation. -/
theorem elevationM_mem {lo hi : F} (h : ∀ row ∈ t.grid, ∀ z ∈ row, z ∈ Set.Icc lo hi)
    (lat lon : F) : ∃ z, t.elevationM lat lon = some z ∧ z ∈ Set.Icc lo hi := by
  have hnode : ∀ r, 0 ≤ r → r ≤ (t.rows - 1 : ℤ) → ∀ c, 0 ≤ c → c ≤ (t.cols - 1 : ℤ) →
      t.node r c ∈ Set.Icc lo hi := by
    intro r hr hr' c hc hc'
    have hread := t.at?_eq_node hr (by omega) hc (by omega)
    obtain ⟨row, hrow, hz⟩ := Option.bind_eq_some_iff.mp hread
    rw [Py.get_of_nonneg hr] at hrow
    rw [Py.get_of_nonneg hc] at hz
    exact h row (List.mem_of_getElem? hrow) _ (List.mem_of_getElem? hz)
  obtain ⟨hrow, hcol⟩ := t.clampedIndices_mem lat lon
  exact ⟨_, t.elevationM_eq lat lon, linear_mem hrow fun r hr hr' ↦
    linear_mem hcol (hnode r hr hr')⟩

/-- The point of a node. -/
def point (r c : ℤ) : F × F :=
  (t.transform.y0 - r * t.transform.dy, t.transform.x0 + c * t.transform.dx)

omit [FloorRing F] [IsStrictOrderedRing F] in
theorem toIndices_point (r c : ℤ) :
    t.transform.toIndices (t.point r c).1 (t.point r c).2 = ((r : F), (c : F)) := by
  have hdx := t.transform.dx_pos.ne'
  have hdy := t.transform.dy_pos.ne'
  simp only [GridTransform.toIndices, point, sub_sub_cancel, add_sub_cancel_left]
  rw [mul_div_cancel_right₀ _ hdx, mul_div_cancel_right₀ _ hdy]

/-- At the point of a node it is the value of the node. -/
theorem elevationM_point {r c : ℤ} (hr : 0 ≤ r) (hr' : r < t.rows) (hc : 0 ≤ c)
    (hc' : c < t.cols) : t.elevationM (t.point r c).1 (t.point r c).2 = t.at? r c := by
  have hrow : clamp ((t.rows - 1 : ℤ) : F) r = r :=
    clamp_eq_self (Int.cast_nonneg hr) (Int.cast_le.mpr (by omega))
  have hcol : clamp ((t.cols - 1 : ℤ) : F) c = c :=
    clamp_eq_self (Int.cast_nonneg hc) (Int.cast_le.mpr (by omega))
  rw [elevationM_eq, clampedIndices, t.toIndices_point, hrow, hcol, bilinear, linear_intCast,
    linear_intCast, t.at?_eq_node hr hr' hc hc']

/-- Points with the same clamped indices have the same elevation. -/
theorem elevationM_congr {lat lon lat' lon' : F}
    (h : t.clampedIndices lat lon = t.clampedIndices lat' lon') :
    t.elevationM lat lon = t.elevationM lat' lon' := by
  rw [elevationM_eq, elevationM_eq, h]

/-- The latitude of the southern row. -/
def south : F := t.transform.y0 - ((t.rows - 1 : ℤ) : F) * t.transform.dy

/-- The longitude of the eastern column. -/
def east : F := t.transform.x0 + ((t.cols - 1 : ℤ) : F) * t.transform.dx

/-- Beyond an edge of the grid the elevation of the edge is held. -/
structure HoldsEdges : Prop where
  north : ∀ lat lon, t.transform.y0 ≤ lat → t.elevationM lat lon = t.elevationM t.transform.y0 lon
  south : ∀ lat lon, lat ≤ t.south → t.elevationM lat lon = t.elevationM t.south lon
  west : ∀ lat lon, lon ≤ t.transform.x0 → t.elevationM lat lon = t.elevationM lat t.transform.x0
  east : ∀ lat lon, t.east ≤ lon → t.elevationM lat lon = t.elevationM lat t.east

theorem holdsEdges : t.HoldsEdges := by
  have hrows : (0 : F) ≤ ((t.rows - 1 : ℤ) : F) := by
    have := (t.clampedIndices_mem 0 0).1
    rw [Int.cast_zero] at this
    exact this.1.trans this.2
  have hcols : (0 : F) ≤ ((t.cols - 1 : ℤ) : F) := by
    have := (t.clampedIndices_mem 0 0).2
    rw [Int.cast_zero] at this
    exact this.1.trans this.2
  have hdx := t.transform.dx_pos
  have hdy := t.transform.dy_pos
  refine ⟨fun lat lon h ↦ ?_, fun lat lon h ↦ ?_, fun lat lon h ↦ ?_, fun lat lon h ↦ ?_⟩
  all_goals
    apply t.elevationM_congr
    simp only [clampedIndices, GridTransform.toIndices]
  · rw [clamp_div_of_nonpos hrows hdy (by linarith), clamp_div_of_nonpos hrows hdy (by linarith)]
  · unfold south at h ⊢
    rw [clamp_div_of_le hrows hdy (by linarith), clamp_div_of_le hrows hdy (by linarith)]
  · rw [clamp_div_of_nonpos hcols hdx (by linarith), clamp_div_of_nonpos hcols hdx (by linarith)]
  · unfold east at h ⊢
    rw [clamp_div_of_le hcols hdx (by linarith), clamp_div_of_le hcols hdx (by linarith)]

/-- The subscripts of a query. -/
def Inside (lat lon : F) : Prop :=
  let r := neighbours (t.transform.toIndices lat lon).1 t.rows
  let c := neighbours (t.transform.toIndices lat lon).2 t.cols
  ((0 ≤ r.lower ∧ r.lower < t.rows) ∧ 0 ≤ r.upper ∧ r.upper < t.rows) ∧
    (0 ≤ c.lower ∧ c.lower < t.cols) ∧ 0 ≤ c.upper ∧ c.upper < t.cols

/-- In exact arithmetic the elevation is the clamped bilinear interpolation of the grid. -/
structure ClampedBilinear (t : GriddedTerrain ℝ) : Prop where
  value : ∀ lat lon, t.elevationM lat lon =
    some (bilinear t.node (t.clampedIndices lat lon).1 (t.clampedIndices lat lon).2)
  inside : ∀ lat lon, t.Inside lat lon
  node : ∀ r c : ℤ, 0 ≤ r → r < t.rows → 0 ≤ c → c < t.cols →
    t.elevationM (t.point r c).1 (t.point r c).2 = t.at? r c
  continuous : ∃ z : ℝ × ℝ → ℝ, Continuous z ∧ ∀ p, t.elevationM p.1 p.2 = some (z p)
  edges : t.HoldsEdges
  bounded : ∀ lo hi, (∀ row ∈ t.grid, ∀ z ∈ row, z ∈ Set.Icc lo hi) →
    ∀ lat lon, ∃ z, t.elevationM lat lon = some z ∧ z ∈ Set.Icc lo hi

theorem continuous_elevation (t : GriddedTerrain ℝ) :
    ∃ z : ℝ × ℝ → ℝ, Continuous z ∧ ∀ p, t.elevationM p.1 p.2 = some (z p) := by
  have hrow : Continuous fun p : ℝ × ℝ ↦ (t.clampedIndices p.1 p.2).1 := by
    apply (continuous_clamp _).comp
    unfold GridTransform.toIndices
    fun_prop
  have hcol : Continuous fun p : ℝ × ℝ ↦ (t.clampedIndices p.1 p.2).2 := by
    apply (continuous_clamp _).comp
    unfold GridTransform.toIndices
    fun_prop
  exact ⟨fun p ↦ bilinear t.node (t.clampedIndices p.1 p.2).1 (t.clampedIndices p.1 p.2).2,
    continuous_bilinear t.node hrow hcol, fun p ↦ t.elevationM_eq p.1 p.2⟩

/-- **Gridded terrain** is clamped bilinear interpolation. -/
theorem elevation_is_clamped_bilinear (t : GriddedTerrain ℝ) : t.ClampedBilinear where
  value := t.elevationM_eq
  inside _ _ := ⟨neighbours_mem _ (Int.natCast_pos.mpr t.rows_pos),
    neighbours_mem _ (Int.natCast_pos.mpr t.cols_pos)⟩
  node _ _ := t.elevationM_point
  continuous := t.continuous_elevation
  edges := t.holdsEdges
  bounded _ _ h := t.elevationM_mem h

end GriddedTerrain

end DroneComms.Scout
