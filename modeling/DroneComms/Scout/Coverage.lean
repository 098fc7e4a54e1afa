import DroneComms.Scout.Survey

/-!
# The survey covers the block

The transects of a planned path lie half a step inside the block and a step apart, so
every point of the block is within half a step of one.  It is within half a footprint
as long as the step, which is at least a metre, is at most the footprint.
-/

namespace DroneComms.Scout

open Lib

/-! ## The extent of a block -/

theorem lowest_mem {xs : List ℝ} (h : xs ≠ []) : lowest xs ∈ xs := by
  obtain ⟨m, hm⟩ := Option.ne_none_iff_exists'.mp (mt List.min?_eq_none_iff.mp h)
  rw [lowest, hm]
  exact List.min?_mem hm

theorem highest_mem {xs : List ℝ} (h : xs ≠ []) : highest xs ∈ xs := by
  obtain ⟨m, hm⟩ := Option.ne_none_iff_exists'.mp (mt List.max?_eq_none_iff.mp h)
  rw [highest, hm]
  exact List.max?_mem hm

theorem lowest_le {xs : List ℝ} {x : ℝ} (h : x ∈ xs) : lowest xs ≤ x := by
  obtain ⟨m, hm⟩ := Option.ne_none_iff_exists'.mp (mt List.min?_eq_none_iff.mp (List.ne_nil_of_mem h))
  rw [lowest, hm]
  exact (List.min?_eq_some_iff.mp hm).2 x h

theorem le_highest {xs : List ℝ} {x : ℝ} (h : x ∈ xs) : x ≤ highest xs := by
  obtain ⟨m, hm⟩ := Option.ne_none_iff_exists'.mp (mt List.max?_eq_none_iff.mp (List.ne_nil_of_mem h))
  rw [highest, hm]
  exact (List.max?_eq_some_iff.mp hm).2 x h

namespace Block

variable (block : Block)

theorem uv_ne_nil : block.uv ≠ [] := by
  have h := block.three_le
  intro hnil
  rw [uv, List.map_eq_nil_iff] at hnil
  simp [hnil] at h

variable {block} {p : ℝ × ℝ}

theorem umin_le (h : p ∈ block.uv) : block.umin ≤ p.1 := lowest_le (List.mem_map_of_mem h)

theorem le_umax (h : p ∈ block.uv) : p.1 ≤ block.umax := le_highest (List.mem_map_of_mem h)

theorem vmin_le (h : p ∈ block.uv) : block.vmin ≤ p.2 := lowest_le (List.mem_map_of_mem h)

theorem le_vmax (h : p ∈ block.uv) : p.2 ≤ block.vmax := le_highest (List.mem_map_of_mem h)

variable (block)

/-! Some vertex of the block lies on each of its sides. -/

theorem exists_umin : ∃ p ∈ block.uv, p.1 = block.umin :=
  List.mem_map.mp (lowest_mem (by simpa using block.uv_ne_nil))

theorem exists_umax : ∃ p ∈ block.uv, p.1 = block.umax :=
  List.mem_map.mp (highest_mem (by simpa using block.uv_ne_nil))

theorem exists_vmin : ∃ p ∈ block.uv, p.2 = block.vmin :=
  List.mem_map.mp (lowest_mem (by simpa using block.uv_ne_nil))

theorem exists_vmax : ∃ p ∈ block.uv, p.2 = block.vmax :=
  List.mem_map.mp (highest_mem (by simpa using block.uv_ne_nil))

theorem umin_le_umax : block.umin ≤ block.umax := by
  obtain ⟨p, hp, -⟩ := block.exists_vmin
  exact (umin_le hp).trans (le_umax hp)

theorem vmin_le_vmax : block.vmin ≤ block.vmax := by
  obtain ⟨p, hp, -⟩ := block.exists_vmin
  exact (vmin_le hp).trans (le_vmax hp)

end Block

/-! ## The points of a polygon -/

theorem mem_chain {α : Type} {p : α} {qs : List α} {e : α × α} (h : e ∈ chain p qs) :
    e.1 ∈ p :: qs ∧ e.2 ∈ qs := by
  induction qs generalizing p with
  | nil => cases h
  | cons q qs ih =>
      rcases List.mem_cons.mp h with rfl | h
      · simp
      · obtain ⟨h₁, h₂⟩ := ih h
        exact ⟨List.mem_cons_of_mem _ h₁, List.mem_cons_of_mem _ h₂⟩

/-- An edge joins two vertices. -/
theorem mem_edges {α : Type} {poly : List α} {e : α × α} (h : e ∈ edges poly) :
    e.1 ∈ poly ∧ e.2 ∈ poly := by
  unfold edges at h
  cases hlast : poly.getLast? with
  | none => simp [hlast] at h
  | some p =>
      rw [hlast] at h
      obtain ⟨h₁, h₂⟩ := mem_chain h
      refine ⟨?_, h₂⟩
      rcases List.mem_cons.mp h₁ with h₁ | h₁
      · exact h₁ ▸ List.mem_of_getLast? hlast
      · exact h₁

/-- Every vertex ends an edge. -/
theorem exists_edge {α : Type} {poly : List α} {q : α} (h : q ∈ poly) :
    ∃ e ∈ edges poly, e.2 = q := by
  have hchain : ∀ (p : α) (qs : List α), q ∈ qs → ∃ e ∈ chain p qs, e.2 = q := by
    intro p qs hq
    induction qs generalizing p with
    | nil => cases hq
    | cons r qs ih =>
        rcases List.mem_cons.mp hq with rfl | hq
        · exact ⟨(p, q), by simp [chain], rfl⟩
        · obtain ⟨e, he, heq⟩ := ih r hq
          exact ⟨e, List.mem_cons_of_mem _ he, heq⟩
  rw [edges, List.getLast?_eq_some_getLast (List.ne_nil_of_mem h)]
  exact hchain _ _ h

section Crossing

variable {u v : ℝ} {e : (ℝ × ℝ) × (ℝ × ℝ)}

/-- The crossing point of an edge whose ends lie on different sides of `v`. -/
theorem exists_crossing (h : decide (e.2.2 > v) ≠ decide (e.1.2 > v)) : ∃ t : ℝ, 0 ≤ t ∧ t ≤ 1 ∧
    e.2.1 + (v - e.2.2) / (e.1.2 - e.2.2) * (e.1.1 - e.2.1) = (1 - t) * e.2.1 + t * e.1.1 ∧
    v = (1 - t) * e.2.2 + t * e.1.2 := by
  refine ⟨(v - e.2.2) / (e.1.2 - e.2.2), ?_⟩
  by_cases hi : e.2.2 > v
  · have hj : e.1.2 ≤ v := by simpa [hi] using h
    have hne : e.1.2 - e.2.2 < 0 := by linarith
    refine ⟨div_nonneg_of_nonpos (by linarith) hne.le, ?_, by ring, ?_⟩
    · rw [div_le_one_of_neg hne]
      linarith
    · field_simp [hne.ne]
      ring
  · have hj : v < e.1.2 := by simpa [hi] using h
    have hne : 0 < e.1.2 - e.2.2 := by linarith
    refine ⟨div_nonneg (by linarith) hne.le, ?_, by ring, ?_⟩
    · rw [div_le_one hne]
      linarith
    · field_simp [hne.ne']
      ring

theorem crosses_eq : crosses u v e = ((decide (e.2.2 > v) != decide (e.1.2 > v)) &&
    decide (u < e.2.1 + (v - e.2.2) / (e.1.2 - e.2.2) * (e.1.1 - e.2.1))) := rfl

/-- The ray of a point crosses an edge that reaches to its right, above and below it. -/
theorem crosses_bounds (h : crosses u v e) :
    u ≤ max e.1.1 e.2.1 ∧ min e.1.2 e.2.2 ≤ v ∧ v ≤ max e.1.2 e.2.2 := by
  rw [crosses_eq, Bool.and_eq_true, bne_iff_ne, decide_eq_true_eq] at h
  obtain ⟨t, h₀, h₁, hu, hv⟩ := exists_crossing h.1
  have hright := h.2
  rw [hu] at hright
  refine ⟨hright.le.trans ?_, ?_, ?_⟩
  · nlinarith [le_max_left e.1.1 e.2.1, le_max_right e.1.1 e.2.1]
  · nlinarith [min_le_left e.1.2 e.2.2, min_le_right e.1.2 e.2.2]
  · nlinarith [le_max_left e.1.2 e.2.2, le_max_right e.1.2 e.2.2]

/-- The ray of a point to the left of an edge crosses it if the edge changes sides. -/
theorem crosses_of_lt (h₁ : u < e.1.1) (h₂ : u < e.2.1) :
    crosses u v e = (decide (e.2.2 > v) != decide (e.1.2 > v)) := by
  rw [crosses_eq]
  by_cases h : decide (e.2.2 > v) = decide (e.1.2 > v)
  · simp [h]
  · obtain ⟨t, ht₀, ht₁, hu, -⟩ := exists_crossing h
    have hright : u < (1 - t) * e.2.1 + t * e.1.1 :=
      (lt_min h₁ h₂).trans_le (by nlinarith [min_le_left e.1.1 e.2.1, min_le_right e.1.1 e.2.1])
    simp [hu, hright]

end Crossing

/-- What the edges of a chain toggle for a point to the left of all of them. -/
theorem foldl_chain {u v : ℝ} {p : ℝ × ℝ} {qs : List (ℝ × ℝ)} (h : ∀ q ∈ p :: qs, u < q.1)
    (inside : Bool) :
    (chain p qs).foldl (fun inside e ↦ if crosses u v e then !inside else inside) inside =
      (inside ^^ (decide (p.2 > v) ^^ decide (((p :: qs).getLast (by simp)).2 > v))) := by
  induction qs generalizing p inside with
  | nil => simp [chain]
  | cons q qs ih =>
      have htail := fun r hr ↦ h r (List.mem_cons_of_mem _ hr)
      have hlast : (p :: q :: qs).getLast (by simp) = (q :: qs).getLast (by simp) :=
        List.getLast_cons _
      rw [chain, List.foldl_cons, ih htail, hlast, crosses_of_lt (h p (by simp)) (h q (by simp))]
      generalize decide (((q :: qs).getLast (by simp)).2 > v) = last
      cases inside <;> cases decide (p.2 > v) <;> cases decide (q.2 > v) <;> cases last <;> rfl

/-- Nothing to the left of a polygon is inside it: around a closed polygon the sides
change an even number of times. -/
theorem pointInPolygon_of_lt {u v : ℝ} {poly : List (ℝ × ℝ)} (h : ∀ q ∈ poly, u < q.1) :
    pointInPolygon u v poly = false := by
  unfold pointInPolygon edges
  cases hlast : poly.getLast? with
  | none => rfl
  | some p =>
      have hmem := List.mem_of_getLast? hlast
      have hall : ∀ q ∈ p :: poly, u < q.1 := List.forall_mem_cons.mpr ⟨h p hmem, h⟩
      have hend : (p :: poly).getLast (by simp) = p := by
        rw [List.getLast_cons (List.ne_nil_of_mem hmem)]
        exact Option.some.inj ((List.getLast?_eq_some_getLast _).symm.trans hlast)
      simp only
      rw [foldl_chain hall, hend]
      simp

theorem foldl_toggle {α : Type} {f : α → Bool} {xs : List α} (h : ∀ x ∈ xs, f x = false)
    (inside : Bool) : xs.foldl (fun inside x ↦ if f x then !inside else inside) inside = inside := by
  induction xs with
  | nil => rfl
  | cons x xs ih =>
      rw [List.foldl_cons, h x (by simp)]
      exact ih fun y hy ↦ h y (List.mem_cons_of_mem _ hy)

theorem exists_crosses {u v : ℝ} {poly : List (ℝ × ℝ)} (h : pointInPolygon u v poly = true) :
    ∃ e ∈ edges poly, crosses u v e = true := by
  by_contra hnone
  push Not at hnone
  rw [pointInPolygon, foldl_toggle fun e he ↦ by simpa using hnone e he] at h
  cases h

/-- The points of a block in its frame: the boundary, and what the ray-casting test finds
inside. -/
def Block.Contains (block : Block) (p : ℝ × ℝ) : Prop :=
  pointInPolygon p.1 p.2 block.uv = true ∨ ∃ e ∈ edges block.uv, p ∈ segment ℝ e.1 e.2

namespace Block

variable {block : Block} {p : ℝ × ℝ}

/-- The block lies in its extent. -/
theorem Contains.bounds (h : block.Contains p) :
    block.umin ≤ p.1 ∧ p.1 ≤ block.umax ∧ block.vmin ≤ p.2 ∧ p.2 ≤ block.vmax := by
  rcases h with hin | ⟨e, he, hseg⟩
  · obtain ⟨e, he, hcross⟩ := exists_crosses hin
    obtain ⟨h₁, h₂⟩ := mem_edges he
    obtain ⟨hu, hlo, hhi⟩ := crosses_bounds hcross
    refine ⟨?_, hu.trans (max_le (le_umax h₁) (le_umax h₂)),
      (le_min (vmin_le h₁) (vmin_le h₂)).trans hlo, hhi.trans (max_le (le_vmax h₁) (le_vmax h₂))⟩
    by_contra hleft
    rw [pointInPolygon_of_lt fun q hq ↦ (not_le.mp hleft).trans_le (umin_le hq)] at hin
    cases hin
  · obtain ⟨h₁, h₂⟩ := mem_edges he
    obtain ⟨a, b, ha, hb, hab, rfl⟩ := hseg
    obtain rfl : b = 1 - a := by linarith
    have hconv : ∀ {lo hi x y : ℝ}, lo ≤ x → lo ≤ y → x ≤ hi → y ≤ hi →
        lo ≤ a * x + (1 - a) * y ∧ a * x + (1 - a) * y ≤ hi := by
      intro lo hi x y hx hy hx' hy'
      constructor <;> nlinarith
    obtain ⟨hu₁, hu₂⟩ := hconv (umin_le h₁) (umin_le h₂) (le_umax h₁) (le_umax h₂)
    obtain ⟨hv₁, hv₂⟩ := hconv (vmin_le h₁) (vmin_le h₂) (le_vmax h₁) (le_vmax h₂)
    exact ⟨hu₁, hu₂, hv₁, hv₂⟩

theorem contains_vertex (h : p ∈ block.uv) : block.Contains p := by
  obtain ⟨e, he, rfl⟩ := exists_edge h
  exact .inr ⟨e, he, right_mem_segment ℝ _ _⟩

end Block

/-! ## The transects of a path -/

section Transects

variable {block : Block}

/-- The frame is undone exactly. -/
theorem toUv_toLatlon {u v : ℝ} {p : ℝ × ℝ} (h : block.frame.toLatlon u v = .ok p) :
    block.frame.toUv p.1 p.2 = (u, v) := by
  have hrot : block.frame.sinAz ^ 2 + block.frame.cosAz ^ 2 = 1 := Real.sin_sq_add_cos_sq _
  have hearth : earthRM ≠ 0 := by norm_num [earthRM]
  unfold LocalFrame.toLatlon at h
  split at h
  · cases h
  · rename_i hne
    cases h
    have hcos := (mul_ne_zero_iff.mp hne).2
    simp only [LocalFrame.toUv, add_sub_cancel_left, Py.Arith.radians_degrees, Prod.mk.injEq]
    constructor
    · field_simp
      linear_combination u * hrot
    · field_simp
      linear_combination v * hrot

theorem Waypoint.of_make {seq : ℕ} {lat lon altAglM : ℝ} {w : Waypoint}
    (h : Waypoint.make seq lat lon altAglM = .ok w) : w.lat = lat ∧ w.lon = lon := by
  by_cases hv : Waypoint.Valid lat lon altAglM
  · rw [Waypoint.make, dif_pos hv] at h
    cases h
    exact ⟨rfl, rfl⟩
  · rw [Waypoint.make, dif_neg hv] at h
    cases h

theorem toUv_waypointAt {altAglM u v : ℝ} {seq : ℕ} {w : Waypoint}
    (h : waypointAt block.frame altAglM seq u v = .ok w) :
    block.frame.toUv w.lat w.lon = (u, v) := by
  obtain ⟨⟨lat, lon⟩, hp, h⟩ := Py.bind_eq_ok.mp h
  obtain ⟨rfl, rfl⟩ := Waypoint.of_make h
  exact toUv_toLatlon hp

/-- The bands of the path are its transects, each over the whole extent of the rows. -/
theorem bands_transects {altAglM umin umax : ℝ} (hle : umin ≤ umax) {forward : Bool} {seq : ℕ}
    {vs : List ℝ} {path : List Waypoint}
    (h : transects block.frame altAglM umin umax forward seq vs = .ok path) :
    bands block.frame path = vs.map fun v ↦ toLex (v, toLex (umin, umax)) := by
  induction vs generalizing forward seq path with
  | nil =>
      cases h
      rfl
  | cons v vs ih =>
      obtain ⟨first, hfirst, h⟩ := Py.bind_eq_ok.mp h
      obtain ⟨second, hsecond, h⟩ := Py.bind_eq_ok.mp h
      obtain ⟨rest, hrest, h⟩ := Py.bind_eq_ok.mp h
      cases h
      have hends : Band.ofEnds (block.frame.toUv first.lat first.lon,
          block.frame.toUv second.lat second.lon) = toLex (v, toLex (umin, umax)) := by
        rw [toUv_waypointAt hfirst, toUv_waypointAt hsecond]
        cases forward <;> simp [Band.ofEnds, hle]
      have htail := ih hrest
      simp only [bands, List.map_cons, pairs] at htail ⊢
      rw [hends, htail]

/-- A path whose turn points are coordinates is planned. -/
theorem exists_transects {frame : LocalFrame} {altAglM umin umax : ℝ} {vs : List ℝ}
    (h : ∀ v ∈ vs, ∀ u, u = umin ∨ u = umax → ∀ seq, ∃ w, waypointAt frame altAglM seq u v = .ok w)
    (forward : Bool) (seq : ℕ) :
    ∃ path, transects frame altAglM umin umax forward seq vs = .ok path := by
  induction vs generalizing forward seq with
  | nil => exact ⟨[], rfl⟩
  | cons v vs ih =>
      have hrow := h v (by simp)
      obtain ⟨first, hfirst⟩ := hrow (if forward then umin else umax) (by cases forward <;> simp) seq
      obtain ⟨second, hsecond⟩ :=
        hrow (if forward then umax else umin) (by cases forward <;> simp) (seq + 1)
      obtain ⟨rest, hrest⟩ := ih (fun w hw ↦ h w (List.mem_cons_of_mem _ hw)) (!forward) (seq + 2)
      exact ⟨first :: second :: rest, Py.bind_eq_ok.mpr ⟨first, hfirst,
        Py.bind_eq_ok.mpr ⟨second, hsecond, Py.bind_eq_ok.mpr ⟨rest, hrest, rfl⟩⟩⟩⟩

end Transects

/-! ## The search -/

/-- The search finds a transect exactly if one reaches the sample. -/
theorem sampleCovered_iff {sorted : List Band} (hsorted : sorted.SortedLE) {half u v : ℝ} :
    sampleCovered sorted half u v = true ↔
      ∃ b ∈ sorted, |v - b.v| ≤ half ∧ b.uLo - half ≤ u ∧ u ≤ b.uHi + half := by
  have hv : (sorted.map Band.v).SortedLE := by
    refine List.Pairwise.sortedLE (List.pairwise_map.mpr (hsorted.pairwise.imp ?_))
    exact fun hab ↦ Prod.Lex.monotone_fst_ofLex hab
  have hright {k : ℕ} (hk : k < sorted.length) : k < Py.bisectRight (fun a b ↦ decide (a < b))
      (sorted.map Band.v) (v + half) ↔ sorted[k].v ≤ v + half := by
    rw [Py.lt_bisectRight_iff hv (by simpa using hk), List.getElem_map]
  have hleft {k : ℕ} (hk : k < sorted.length) : k < Py.bisectLeft (fun a b ↦ decide (a < b))
      (sorted.map Band.v) (v - half) ↔ sorted[k].v < v - half := by
    rw [Py.lt_bisectLeft_iff hv (by simpa using hk), List.getElem_map]
  rw [sampleCovered, List.any_eq_true]
  constructor
  · rintro ⟨b, hb, hext⟩
    obtain ⟨j, hj, rfl⟩ := List.mem_drop_iff_getElem.mp hb
    rw [List.length_take] at hj
    simp only [List.getElem_take] at hext ⊢
    have hk : Py.bisectLeft (fun a b ↦ decide (a < b)) (sorted.map Band.v) (v - half) + j <
        sorted.length := by omega
    have hlow := mt (hleft hk).mpr (not_lt.mpr (Nat.le_add_right _ _))
    have hhigh := (hright hk).mp (by omega)
    refine ⟨_, List.getElem_mem hk, abs_le.mpr ⟨?_, ?_⟩, of_decide_eq_true hext⟩
    · linarith
    · linarith
  · rintro ⟨b, hb, hnear, hext⟩
    obtain ⟨k, hk, rfl⟩ := List.getElem_of_mem hb
    obtain ⟨hl, hr⟩ := abs_le.mp hnear
    refine ⟨sorted[k], Py.getElem_mem_slice hk ?_ ?_, decide_eq_true hext⟩
    · exact not_lt.mp (mt (hleft hk).mp (by linarith))
    · exact (hright hk).mpr (by linarith)

/-! ## Surveys -/

/-- A survey whose waypoints are valid coordinates. -/
structure Survey where
  block : Block
  hFovDeg : ℝ
  vFovDeg : ℝ
  altAglM : ℝ
  sideOverlap : ℝ
  hFov_mem : 0 < hFovDeg ∧ hFovDeg < 180
  vFov_mem : 0 < vFovDeg ∧ vFovDeg < 180
  alt_pos : 0 < altAglM
  overlap_mem : 0 ≤ sideOverlap ∧ sideOverlap < 1
  path : List Waypoint
  planned : planBoustrophedon block hFovDeg vFovDeg altAglM sideOverlap = .ok path

namespace Survey

variable (survey : Survey)

/-- The footprint across the track. -/
noncomputable def crossM : ℝ :=
  (footprintsM survey.hFovDeg survey.vFovDeg survey.altAglM).1

/-- The spacing of the transects. -/
noncomputable def step : ℝ := rowStep survey.crossM survey.sideOverlap

/-- A point is within half a footprint of a transect, and inside its extent. -/
def CoveredAt (p : ℝ × ℝ) : Prop :=
  ∃ b ∈ bands survey.block.frame survey.path,
    |p.2 - b.v| ≤ survey.crossM / 2.0 ∧ b.uLo ≤ p.1 ∧ p.1 ≤ b.uHi

/-- The plan covers the block, and the coverage that is measured is whole at every sampling
step that hits the interior. -/
def Covers : Prop :=
  (∀ p, survey.block.Contains p → survey.CoveredAt p) ∧
  ∀ (sampleM : ℝ) (hs : 0 < sampleM), interiorSamples survey.block hs ≠ [] →
    coverageFraction survey.block survey.path survey.hFovDeg survey.vFovDeg survey.altAglM hs = 1

theorem step_pos : 0 < survey.step := rowStep_pos _ _

theorem crossM_pos : 0 < survey.crossM := by
  have hfov := survey.hFov_mem
  have hhalf : 0 < Py.Arith.radians (survey.hFovDeg / 2) ∧
      Py.Arith.radians (survey.hFovDeg / 2) < Real.pi / 2 := by
    rw [Py.Arith.real_radians]
    have hpi := Real.pi_pos
    constructor <;> nlinarith
  have htan := Real.tan_pos_of_pos_of_lt_pi_div_two hhalf.1 hhalf.2
  have halt := survey.alt_pos
  unfold crossM footprintsM
  rw [two_eq]
  positivity

/-- From a footprint of a metre on the transects are no further apart than a footprint. -/
theorem step_le_crossM (h : 1 ≤ survey.crossM) : survey.step ≤ survey.crossM :=
  max_le h (by nlinarith [survey.crossM_pos, survey.overlap_mem.1])

theorem bands_path : bands survey.block.frame survey.path =
    (steps survey.step_pos (survey.block.vmin + survey.step / 2)
      (survey.block.vmax + survey.step / 2)).map
        fun v ↦ toLex (v, toLex (survey.block.umin, survey.block.umax)) := by
  have h := survey.planned
  rw [planBoustrophedon, if_pos survey.overlap_mem, two_eq] at h
  exact bands_transects survey.block.umin_le_umax h

/-- Every point of the extent is within half a step of a transect. -/
theorem exists_band_near {p : ℝ × ℝ} (hlo : survey.block.vmin ≤ p.2)
    (hhi : p.2 ≤ survey.block.vmax) : ∃ b ∈ bands survey.block.frame survey.path,
      |p.2 - b.v| ≤ survey.step / 2 ∧ b.uLo = survey.block.umin ∧ b.uHi = survey.block.umax := by
  obtain ⟨v, hv, hnear⟩ := exists_steps_near survey.step_pos hlo hhi
  rw [bands_path]
  exact ⟨_, List.mem_map_of_mem hv, hnear, rfl, rfl⟩

/-- The transects start half a step inside the block. -/
theorem band_ge {b : Band} (h : b ∈ bands survey.block.frame survey.path) :
    survey.block.vmin + survey.step / 2 ≤ b.v := by
  rw [bands_path] at h
  obtain ⟨v, hv, rfl⟩ := List.mem_map.mp h
  exact le_of_mem_steps survey.step_pos hv

/-- The binary search selects every transect within half a footprint of a sample. -/
theorem sampleCovered_of_near {sorted : List Band} (hsorted : sorted.SortedLE) {half u v : ℝ}
    {b : Band} (hb : b ∈ sorted) (hnear : |v - b.v| ≤ half) (hlo : b.uLo ≤ u) (hhi : u ≤ b.uHi) :
    sampleCovered sorted half u v = true := by
  have hhalf : 0 ≤ half := (abs_nonneg _).trans hnear
  exact (sampleCovered_iff hsorted).mpr ⟨b, hb, hnear, by linarith, by linarith⟩

theorem path_ne_nil : survey.path ≠ [] := by
  intro hnil
  obtain ⟨b, hb, -⟩ := survey.exists_band_near (p := (0, survey.block.vmin)) le_rfl
    survey.block.vmin_le_vmax
  rw [hnil] at hb
  cases hb

variable {survey}

/-- From a footprint of a metre on every sample in the interior is covered. -/
theorem coverageFraction_eq_one (h : 1 ≤ survey.crossM) {sampleM : ℝ} (hs : 0 < sampleM)
    (hne : interiorSamples survey.block hs ≠ []) :
    coverageFraction survey.block survey.path survey.hFovDeg survey.vFovDeg survey.altAglM hs =
      1 := by
  have hall : ∀ p ∈ interiorSamples survey.block hs,
      sampleCovered ((bands survey.block.frame survey.path).insertionSort (· ≤ ·))
        (survey.crossM / 2) p.1 p.2 = true := by
    rintro ⟨u, v⟩ hp
    obtain ⟨hgrid, -⟩ := List.mem_filter.mp hp
    simp only [List.mem_flatMap, List.mem_map, Prod.mk.injEq] at hgrid
    obtain ⟨u, hu, v, hv, rfl, rfl⟩ := hgrid
    obtain ⟨b, hb, hnear, hlo, hhi⟩ := survey.exists_band_near (p := (u, v))
      (le_of_mem_steps hs hv) (le_hi_of_mem_steps hs hv)
    refine sampleCovered_of_near List.sortedLE_insertionSort
      ((List.mem_insertionSort _).mpr hb) ?_ ?_ ?_
    · linarith [survey.step_le_crossM h]
    · rw [hlo]
      exact le_of_mem_steps hs hu
    · rw [hhi]
      exact le_hi_of_mem_steps hs hu
  have hcovered := List.filter_eq_self.mpr hall
  rw [coverageFraction, if_neg survey.path_ne_nil, two_eq]
  simp only [if_neg hne]
  unfold crossM at hcovered
  rw [hcovered, div_self]
  exact Nat.cast_ne_zero.mpr (List.length_eq_zero_iff.not.mpr hne)

theorem covers_of_one_le (h : 1 ≤ survey.crossM) : survey.Covers := by
  refine ⟨fun p hp ↦ ?_, fun sampleM hs hne ↦ coverageFraction_eq_one h hs hne⟩
  obtain ⟨hulo, huhi, hvlo, hvhi⟩ := hp.bounds
  obtain ⟨b, hb, hnear, hlo, hhi⟩ := survey.exists_band_near hvlo hvhi
  refine ⟨b, hb, ?_, hlo ▸ hulo, hhi ▸ huhi⟩
  rw [two_eq]
  linarith [survey.step_le_crossM h]

/-- The vertex on the lower side of the block is half a step from the first transect. -/
theorem Covers.step_le (h : survey.Covers) : survey.step ≤ survey.crossM := by
  obtain ⟨p, hp, hlow⟩ := survey.block.exists_vmin
  obtain ⟨b, hb, hnear, -⟩ := h.1 p (Block.contains_vertex hp)
  have hge := survey.band_ge hb
  rw [hlow, two_eq] at hnear
  linarith [(abs_le.mp hnear).1]

variable (survey)

/-- The plan covers the block exactly when the footprint is at least the metre that the
spacing is clamped to. -/
theorem plan_covers_block_iff : survey.Covers ↔ 1 ≤ survey.crossM :=
  ⟨fun h ↦ (le_max_left _ _).trans h.step_le, covers_of_one_le⟩

end Survey

noncomputable def corners : List (ℝ × ℝ) := [(0, 0), (0, 1e-6), (1e-6, 0)]

theorem corners_lat : ∀ p ∈ corners, -90 ≤ p.1 ∧ p.1 ≤ 90 := by norm_num [corners]

theorem corners_lon : ∀ p ∈ corners, -180 ≤ p.2 ∧ p.2 ≤ 180 := by norm_num [corners]

theorem azimuth_zero : 0 ≤ (0 : ℝ) ∧ (0 : ℝ) < 360 := by norm_num

/-- A block of 11 cm on each side. -/
noncomputable def plot : Block where
  polygon := corners
  rowAzimuthDeg := 0
  three_le := le_rfl
  lat_mem := corners_lat
  lon_mem := corners_lon
  azimuth_mem := azimuth_zero

theorem plot_frame : plot.frame = ⟨0, 0, 1, 0, 1⟩ := by
  simp [Block.frame, LocalFrame.make, plot, corners, Py.Arith.real_radians]

theorem plot_uv_mem {p : ℝ × ℝ} (h : p ∈ plot.uv) :
    (0 ≤ p.1 ∧ p.1 ≤ 1 / 2) ∧ 0 ≤ p.2 ∧ p.2 ≤ 1 / 2 := by
  have hpi := Real.pi_pos
  have hfour := Real.pi_le_four
  rw [Block.uv, plot_frame] at h
  simp only [plot, corners, LocalFrame.toUv, Py.Arith.real_radians, earthRM, List.map_cons,
    List.map_nil, List.mem_cons, List.not_mem_nil, or_false] at h
  rcases h with rfl | rfl | rfl <;> norm_num <;> constructor <;> linarith

theorem footprint_lowPass : (footprintsM 90.0 90.0 0.4).1 = 4 / 5 := by
  have hquarter : Py.Arith.radians ((90.0 : ℝ) / 2.0) = Real.pi / 4 := by
    rw [Py.Arith.real_radians]
    norm_num
    ring
  rw [footprintsM, hquarter, Real.tan_pi_div_four]
  norm_num

/-- Near that block every turn point is a coordinate. -/
theorem exists_waypointAt_plot {u v : ℝ} (hu : 0 ≤ u ∧ u ≤ 1) (hv : 0 ≤ v ∧ v ≤ 1) (seq : ℕ) :
    ∃ w, waypointAt plot.frame 0.4 seq u v = .ok w := by
  have hdeg : ∀ x : ℝ, 0 ≤ x ∧ x ≤ 1 → 0 ≤ Py.Arith.degrees (x / earthRM) ∧
      Py.Arith.degrees (x / earthRM) ≤ 90 := by
    rintro x ⟨h₀, h₁⟩
    have hpi := Real.two_le_pi
    have hscale : 180 / Real.pi ≤ 90 := by
      rw [div_le_iff₀ Real.pi_pos]
      linarith
    have hsmall : x / earthRM ≤ 1 := by
      rw [earthRM, div_le_one (by norm_num)]
      linarith
    have hnonneg : 0 ≤ x / earthRM := div_nonneg h₀ (by norm_num [earthRM])
    rw [Py.Arith.real_degrees]
    constructor
    · positivity
    · nlinarith [mul_le_mul hsmall hscale (by positivity) one_pos.le]
  obtain ⟨hlat₀, hlat₁⟩ := hdeg u hu
  obtain ⟨hlon₀, hlon₁⟩ := hdeg v hv
  have hto : plot.frame.toLatlon u v =
      .ok (Py.Arith.degrees (u / earthRM), Py.Arith.degrees (v / earthRM)) := by
    simp [LocalFrame.toLatlon, plot_frame, earthRM]
  have hvalid : Waypoint.Valid (Py.Arith.degrees (u / earthRM)) (Py.Arith.degrees (v / earthRM))
      0.4 := by
    refine ⟨⟨?_, hlat₁⟩, ⟨?_, ?_⟩, by norm_num⟩ <;> linarith
  exact ⟨_, Py.bind_eq_ok.mpr ⟨_, hto, dif_pos hvalid⟩⟩

/-- A pass over that block at 40 cm with a field of view of 90 degrees. -/
theorem exists_lowPass : ∃ path, planBoustrophedon plot 90.0 90.0 0.4 0 = .ok path := by
  rw [planBoustrophedon, if_pos (by norm_num), two_eq]
  have hstep : rowStep (footprintsM 90.0 90.0 0.4).1 0 = 1 := by
    rw [footprint_lowPass, rowStep]
    norm_num
  have hulo : 0 ≤ plot.umin ∧ plot.umin ≤ 1 / 2 := by
    obtain ⟨p, hp, heq⟩ := plot.exists_umin
    exact heq ▸ (plot_uv_mem hp).1
  have huhi : 0 ≤ plot.umax ∧ plot.umax ≤ 1 / 2 := by
    obtain ⟨p, hp, heq⟩ := plot.exists_umax
    exact heq ▸ (plot_uv_mem hp).1
  have hvlo : 0 ≤ plot.vmin := by
    obtain ⟨p, hp, heq⟩ := plot.exists_vmin
    exact heq ▸ (plot_uv_mem hp).2.1
  have hvhi : plot.vmax ≤ 1 / 2 := by
    obtain ⟨p, hp, heq⟩ := plot.exists_vmax
    exact heq ▸ (plot_uv_mem hp).2.2
  apply exists_transects
  intro v hv u hu seq
  have hlo := le_of_mem_steps _ hv
  have hhi := le_hi_of_mem_steps _ hv
  rw [hstep] at hlo hhi
  refine exists_waypointAt_plot ?_ ⟨by linarith, by linarith⟩ seq
  rcases hu with rfl | rfl
  · exact ⟨hulo.1, by linarith [hulo.2]⟩
  · exact ⟨huhi.1, by linarith [huhi.2]⟩

theorem lowPass_fov : (0 : ℝ) < 90.0 ∧ (90.0 : ℝ) < 180 := by norm_num

noncomputable def lowPass : Survey where
  block := plot
  hFovDeg := 90.0
  vFovDeg := 90.0
  altAglM := 0.4
  sideOverlap := 0
  hFov_mem := lowPass_fov
  vFov_mem := lowPass_fov
  alt_pos := by norm_num
  overlap_mem := by norm_num
  path := exists_lowPass.choose
  planned := exists_lowPass.choose_spec

theorem lowPass_leaves_edge_uncovered : ¬ lowPass.Covers := by
  intro h
  have hclamp : 1 ≤ lowPass.crossM := (le_max_left _ _).trans h.step_le
  have hcross : lowPass.crossM = 4 / 5 := footprint_lowPass
  norm_num [hcross] at hclamp

end DroneComms.Scout
