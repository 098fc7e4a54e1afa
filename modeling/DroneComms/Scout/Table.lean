import DroneComms.Lib.Automaton
import DroneComms.Scout.Store
import Mathlib.Data.List.Nodup
import Mathlib.Data.List.Perm.Basic

/-!
# The stores side by side

`InMemoryStore` and `SqliteStore` of `scout/store.py`, call by call.  The table is the
one SQLite holds: a column is a text, a real or NULL, a float that is NaN is stored as
NULL, and every row that is read goes through the validators again.

The validators let a NaN pass as the time of a detection.  The dictionary returns such
a detection; the row of it cannot be read.
-/

namespace DroneComms.Scout

open Automaton
open Py (PyFloat)

/-! ## Rows -/

/-- What SQLite stores for a float. -/
def sqlReal (x : PyFloat) : Option PyFloat := if x = .nan then none else some x

/-- A row of the table `detections`; NULL is `none`. -/
structure Row where
  id : Option String
  lat : Option PyFloat
  lon : Option PyFloat
  cls : Option String
  conf : Option PyFloat
  errorM : Option PyFloat
  srcFrame : Option String
  ts : Option PyFloat
  status : Option String
  blockId : Option String
deriving DecidableEq

namespace Row

/-- The row of a detection. -/
def ofDetection (d : GeoDetection) : Row where
  id := some d.id
  lat := sqlReal d.lat
  lon := sqlReal d.lon
  cls := some d.cls
  conf := sqlReal d.conf
  errorM := sqlReal d.errorM
  srcFrame := some d.srcFrame
  ts := sqlReal d.ts
  status := some d.status.text
  blockId := d.blockId

/-- A field of a model that is not optional. -/
def required {α : Type} : Option α → Except ScoutError α
  | some x => .ok x
  | none => .error .validation

/-- `_row_to_detection`: `GeoDetection(**row)`. -/
def toDetection (r : Row) : Except ScoutError GeoDetection := do
  let id ← required r.id
  let lat ← required r.lat
  let lon ← required r.lon
  let cls ← required r.cls
  let conf ← required r.conf
  let errorM ← required r.errorM
  let srcFrame ← required r.srcFrame
  let ts ← required r.ts
  let status ← required (r.status.bind DetectionStatus.ofText)
  if h : LatValid lat ∧ LonValid lon ∧ ConfValid conf ∧ ErrorValid errorM then
    .ok { id, lat, lon, cls, conf, errorM, srcFrame, ts, status, blockId := r.blockId,
          lat_valid := h.1, lon_valid := h.2.1, conf_valid := h.2.2.1, error_valid := h.2.2.2 }
  else .error .validation

end Row

/-! ## Calls -/

inductive StoreCall where
  | add (d : GeoDetection)
  | get (id : String)
  | all
  | byBlock (blockId : String)
  | setStatus (id status : String)

/-- What a call returns. -/
inductive StoreAnswer where
  | done
  | one (d : Option GeoDetection)
  | many (ds : List GeoDetection)

namespace InMemoryStore.State

/-- `all`. -/
def all (s : State) : List GeoDetection := s.byId.map Prod.snd

/-- `by_block`. -/
def byBlock (s : State) (blockId : String) : List GeoDetection :=
  s.all.filter fun d ↦ d.blockId = some blockId

/-- A call of an `InMemoryStore`. -/
def call (s : State) : StoreCall → Except ScoutError StoreAnswer × State
  | .add d => (.ok .done, s.add d)
  | .get id => (.ok (.one (s.get id)), s)
  | .all => (.ok (.many s.all), s)
  | .byBlock blockId => (.ok (.many (s.byBlock blockId)), s)
  | .setStatus id status =>
      match s.setStatus id status with
      | .error e => (.error e, s)
      | .ok (s', d) => (.ok (.one d), s')

end InMemoryStore.State

/-- The rows of `detections`. -/
abbrev Table := List Row

namespace Table

/-- `INSERT OR REPLACE`. -/
def add (rows : Table) (d : GeoDetection) : Table :=
  rows.filter (fun r ↦ r.id ≠ some d.id) ++ [.ofDetection d]

/-- `SELECT * FROM detections WHERE id = ?`, and the first row of it. -/
def get (rows : Table) (id : String) : Except ScoutError (Option GeoDetection) :=
  match rows.find? fun r ↦ r.id = some id with
  | none => .ok none
  | some r => r.toDetection.map some

/-- The order of SQLite on the column of times. -/
def tsLe : Option PyFloat → Option PyFloat → Bool
  | none, _ => true
  | some _, none => false
  | some x, some y => PyFloat.le x y

/-- `ORDER BY ts`. -/
def orderByTs (rows : Table) : Table := rows.mergeSort fun r r' ↦ tsLe r.ts r'.ts

/-- `all`. -/
def all (rows : Table) : Except ScoutError (List GeoDetection) :=
  (orderByTs rows).mapM Row.toDetection

/-- `by_block`. -/
def byBlock (rows : Table) (blockId : String) : Except ScoutError (List GeoDetection) :=
  (orderByTs (rows.filter fun r ↦ r.blockId = some blockId)).mapM Row.toDetection

/-- `set_status`. -/
def setStatus (rows : Table) (id status : String) :
    Except ScoutError (Option GeoDetection) × Table :=
  match rows.get id with
  | .error e => (.error e, rows)
  | .ok none => (.ok none, rows)
  | .ok (some current) =>
      match current.withStatus status with
      | .error e => (.error e, rows)
      | .ok updated => (.ok (some updated), rows.add updated)

/-- A call of a `SqliteStore`. -/
def call (rows : Table) : StoreCall → Except ScoutError StoreAnswer × Table
  | .add d => (.ok .done, rows.add d)
  | .get id => ((rows.get id).map .one, rows)
  | .all => (rows.all.map .many, rows)
  | .byBlock blockId => ((rows.byBlock blockId).map .many, rows)
  | .setStatus id status => ((rows.setStatus id status).1.map .one, (rows.setStatus id status).2)

end Table

/-! ## Reading a row back -/

theorem sqlReal_of_ne {x : PyFloat} (h : x ≠ .nan) : sqlReal x = some x := if_neg h

namespace Row

variable (d : GeoDetection)

/-- A row is read back, unless the time of the detection is NaN. -/
theorem toDetection_ofDetection :
    (ofDetection d).toDetection = if d.ts = .nan then .error .validation else .ok d := by
  have hlat : d.lat ≠ .nan := by
    obtain ⟨q, hq, -⟩ := d.lat_valid.exists_fin
    simp [hq]
  have hlon : d.lon ≠ .nan := by
    obtain ⟨q, hq, -⟩ := d.lon_valid.exists_fin
    simp [hq]
  have hconf : d.conf ≠ .nan := by
    obtain ⟨q, hq⟩ := d.conf_fin
    simp [hq]
  have herror : d.errorM ≠ .nan := by
    intro h
    have hfinite := d.error_valid.1
    rw [h] at hfinite
    cases hfinite
  have hstatus : (some d.status.text).bind DetectionStatus.ofText = some d.status := by
    cases d.status <;> rfl
  have hvalid : LatValid d.lat ∧ LonValid d.lon ∧ ConfValid d.conf ∧ ErrorValid d.errorM :=
    ⟨d.lat_valid, d.lon_valid, d.conf_valid, d.error_valid⟩
  split_ifs with hts
  · have hnull : sqlReal d.ts = none := if_pos hts
    simp only [toDetection, ofDetection, sqlReal_of_ne hlat, sqlReal_of_ne hlon,
      sqlReal_of_ne hconf, sqlReal_of_ne herror, hnull, required]
    rfl
  · simp only [toDetection, ofDetection, sqlReal_of_ne hlat, sqlReal_of_ne hlon,
      sqlReal_of_ne hconf, sqlReal_of_ne herror, sqlReal_of_ne hts, hstatus, required]
    exact dif_pos hvalid

/-- Rows are read back, unless one of the times is NaN. -/
theorem mapM_toDetection (ds : List GeoDetection) : (ds.map ofDetection).mapM toDetection =
    if ∀ d ∈ ds, d.ts ≠ .nan then .ok ds else .error .validation := by
  induction ds with
  | nil => rfl
  | cons d ds ih =>
      rw [List.map_cons, List.mapM_cons, ih, toDetection_ofDetection]
      by_cases hd : d.ts = .nan
      · simp [hd]
        rfl
      · by_cases hds : ∀ d ∈ ds, d.ts ≠ .nan
        · have hall : ∀ e ∈ d :: ds, e.ts ≠ .nan := List.forall_mem_cons.mpr ⟨hd, hds⟩
          rw [if_neg hd, if_pos hds, if_pos hall]
          rfl
        · rw [if_neg hd, if_neg hds, if_neg fun h ↦ hds (List.forall_mem_cons.mp h).2]
          rfl

end Row

/-! ## The table of a list of detections -/

namespace Table

variable (ds : List GeoDetection)

theorem add_map (d : GeoDetection) : add (ds.map .ofDetection) d =
    (SqliteStore.insertOrReplace ds d).map .ofDetection := by
  rw [add, SqliteStore.insertOrReplace, List.filter_map, List.map_append]
  congr 3
  funext e
  simp [Row.ofDetection]

/-- Ids stay unique. -/
theorem nodup_insertOrReplace {ds : List GeoDetection} (hnodup : (ds.map GeoDetection.id).Nodup)
    (d : GeoDetection) : ((SqliteStore.insertOrReplace ds d).map GeoDetection.id).Nodup := by
  rw [SqliteStore.insertOrReplace, List.map_append, List.nodup_append]
  refine ⟨hnodup.sublist (List.filter_sublist.map _), List.nodup_singleton _, ?_⟩
  intro id hid id' hid'
  obtain ⟨e, he, rfl⟩ := List.mem_map.mp hid
  rw [List.mem_singleton.mp hid']
  exact of_decide_eq_true (List.mem_filter.mp he).2

/-- Where ids are unique, a row is found by its id. -/
theorem select_eq_some_iff {ds : List GeoDetection} (hnodup : (ds.map GeoDetection.id).Nodup)
    {id : String} {d : GeoDetection} :
    SqliteStore.select ds id = some d ↔ d ∈ ds ∧ d.id = id := by
  constructor
  · exact fun h ↦ ⟨List.mem_of_find?_eq_some h, SqliteStore.select_id h⟩
  · rintro ⟨hd, hid⟩
    cases hselect : SqliteStore.select ds id with
    | none => exact absurd hid (by simpa using List.find?_eq_none.mp hselect d hd)
    | some e =>
        have hsame : e.id = d.id := (SqliteStore.select_id hselect).trans hid.symm
        exact congrArg some
          (List.inj_on_of_nodup_map hnodup (List.mem_of_find?_eq_some hselect) hd hsame)

/-- What reading the row of an id gives. -/
theorem get_map (hnodup : (ds.map GeoDetection.id).Nodup) (id : String) :
    get (ds.map .ofDetection) id =
      if ∀ d ∈ ds, d.id = id → d.ts ≠ .nan then .ok (SqliteStore.select ds id)
      else .error .validation := by
  have hid : ((fun r : Row ↦ decide (r.id = some id)) ∘ Row.ofDetection) =
      fun d ↦ decide (d.id = id) := by
    funext d
    simp [Row.ofDetection]
  have hget : get (ds.map .ofDetection) id = (SqliteStore.select ds id).elim (.ok none)
      fun d ↦ (Row.ofDetection d).toDetection.map some := by
    rw [get, List.find?_map, hid, SqliteStore.select]
    cases ds.find? fun d ↦ d.id = id <;> rfl
  rw [hget]
  cases hselect : SqliteStore.select ds id with
  | none =>
      have hnone : ∀ d ∈ ds, d.id = id → d.ts ≠ .nan := fun d hd hid ↦ by
        rw [(select_eq_some_iff hnodup).mpr ⟨hd, hid⟩] at hselect
        cases hselect
      rw [if_pos hnone, Option.elim_none]
  | some d =>
      obtain ⟨hd, hid⟩ := (select_eq_some_iff hnodup).mp hselect
      rw [Option.elim_some, Row.toDetection_ofDetection]
      by_cases hts : d.ts = .nan
      · rw [if_pos hts, if_neg fun h ↦ h d hd hid hts]
        rfl
      · have hread : ∀ e ∈ ds, e.id = id → e.ts ≠ .nan := fun e he heid ↦ by
          rw [(select_eq_some_iff hnodup).mpr ⟨he, heid⟩] at hselect
          cases hselect
          exact hts
        rw [if_neg hts, if_pos hread]
        rfl

/-- A detection with a time is read back, and the rows of other ids are as before. -/
theorem get_insertOrReplace (hnodup : (ds.map GeoDetection.id).Nodup) {d : GeoDetection}
    (hts : d.ts ≠ .nan) (id : String) :
    get ((SqliteStore.insertOrReplace ds d).map .ofDetection) id =
      if id = d.id then .ok (some d) else get (ds.map .ofDetection) id := by
  have hmem : ∀ e, e ∈ SqliteStore.insertOrReplace ds d ↔ (e ∈ ds ∧ e.id ≠ d.id) ∨ e = d := by
    intro e
    simp [SqliteStore.insertOrReplace]
  rw [get_map _ (nodup_insertOrReplace hnodup d), get_map ds hnodup]
  by_cases hid : id = d.id
  · subst hid
    rw [if_pos rfl, SqliteStore.select_insertOrReplace_self, if_pos fun e he heid ↦ ?_]
    rcases (hmem e).mp he with ⟨-, hne⟩ | rfl
    · exact absurd heid hne
    · exact hts
  · rw [if_neg hid, SqliteStore.select_insertOrReplace_of_ne ds hid]
    refine if_congr ⟨fun h e he heid ↦ ?_, fun h e he heid ↦ ?_⟩ rfl rfl
    · exact h e ((hmem e).mpr (.inl ⟨he, fun heq ↦ hid (heid.symm.trans heq)⟩)) heid
    · rcases (hmem e).mp he with ⟨he, -⟩ | rfl
      · exact h e he heid
      · exact hts

/-- What `set_status` does to the table. -/
theorem setStatus_map (id status : String) :
    setStatus (ds.map .ofDetection) id status =
      match get (ds.map .ofDetection) id with
      | .error e => (.error e, ds.map .ofDetection)
      | .ok none => (.ok none, ds.map .ofDetection)
      | .ok (some current) =>
          match current.withStatus status with
          | .error e => (.error e, ds.map .ofDetection)
          | .ok updated => (.ok (some updated),
              (SqliteStore.insertOrReplace ds updated).map .ofDetection) := by
  simp only [setStatus, add_map]

/-- **The table is the lawful store**, operation by operation, as long as all detections in it
have a time. -/
theorem simulates_sqliteStore (hnodup : (ds.map GeoDetection.id).Nodup)
    (htimed : ∀ d ∈ ds, d.ts ≠ .nan) :
    (∀ id, get (ds.map .ofDetection) id = .ok (sqliteStore.get ds id)) ∧
      (∀ d, add (ds.map .ofDetection) d = List.map .ofDetection (sqliteStore.add ds d)) ∧
      ∀ id status, setStatus (ds.map .ofDetection) id status =
        match sqliteStore.setStatus ds id status with
        | .error e => (.error e, ds.map .ofDetection)
        | .ok (ds', found) => (.ok found, List.map .ofDetection ds') := by
  have hget : ∀ id, get (ds.map .ofDetection) id = .ok (SqliteStore.select ds id) := fun id ↦
    (get_map ds hnodup id).trans (if_pos fun d hd _ ↦ htimed d hd)
  refine ⟨hget, add_map ds, fun id status ↦ ?_⟩
  have hset : sqliteStore.setStatus ds id status = SqliteStore.setStatus ds id status := rfl
  rw [setStatus_map, hget, hset, SqliteStore.setStatus]
  cases SqliteStore.select ds id with
  | none => rfl
  | some current =>
      dsimp only
      cases current.withStatus status <;> rfl

/-- The detections in the order of their rows. -/
theorem exists_orderByTs_map : ∃ ds' : List GeoDetection, ds'.Perm ds ∧
    orderByTs (ds.map .ofDetection) = ds'.map .ofDetection := by
  let le (d d' : GeoDetection) : Bool := tsLe (sqlReal d.ts) (sqlReal d'.ts)
  have hsort : (ds.mergeSort le).map .ofDetection = orderByTs (ds.map .ofDetection) :=
    List.map_mergeSort fun _ _ _ _ ↦ rfl
  exact ⟨ds.mergeSort le, List.mergeSort_perm ds le, hsort.symm⟩

/-- What reading all rows gives. -/
theorem all_map : ∃ ds' : List GeoDetection, ds'.Perm ds ∧ all (ds.map .ofDetection) =
    if ∀ d ∈ ds, d.ts ≠ .nan then .ok ds' else .error .validation := by
  obtain ⟨ds', hperm, hrows⟩ := exists_orderByTs_map ds
  refine ⟨ds', hperm, ?_⟩
  rw [all, hrows, Row.mapM_toDetection]
  simp only [hperm.mem_iff]

/-- What reading the rows of a block gives. -/
theorem byBlock_map (blockId : String) :
    ∃ ds' : List GeoDetection, ds'.Perm (ds.filter fun d ↦ d.blockId = some blockId) ∧
      byBlock (ds.map .ofDetection) blockId =
        if ∀ d ∈ ds, d.blockId = some blockId → d.ts ≠ .nan then .ok ds'
        else .error .validation := by
  have hrows : (ds.map Row.ofDetection).filter (fun r ↦ r.blockId = some blockId) =
      (ds.filter fun d ↦ d.blockId = some blockId).map .ofDetection := List.filter_map
  obtain ⟨ds', hperm, hread⟩ := all_map (ds.filter fun d ↦ d.blockId = some blockId)
  refine ⟨ds', hperm, ?_⟩
  rw [all] at hread
  rw [byBlock, hrows, hread]
  simp only [List.mem_filter, decide_eq_true_eq, and_imp]

end Table

/-! ## The dictionary beside the table -/

namespace InMemoryStore

/-- The values after an assignment. -/
theorem map_snd_assign {byId : List (String × GeoDetection)} (hkeyed : ∀ p ∈ byId, p.1 = p.2.id)
    (hnodup : (byId.map fun p ↦ p.2.id).Nodup) (d : GeoDetection) :
    ((assign byId d.id d).map Prod.snd).Perm
      (SqliteStore.insertOrReplace (byId.map Prod.snd) d) := by
  induction byId with
  | nil => exact List.Perm.refl _
  | cons p rest ih =>
      obtain ⟨key, e⟩ := p
      obtain ⟨hkey, hrest⟩ := List.forall_mem_cons.mp hkeyed
      obtain ⟨hfresh, hnodup'⟩ := List.nodup_cons.mp hnodup
      dsimp only at hkey
      subst hkey
      rw [assign]
      split_ifs with hid
      · have hrest : ∀ e' ∈ rest.map Prod.snd, decide (e'.id ≠ d.id) = true := by
          intro e' he'
          obtain ⟨p, hp, rfl⟩ := List.mem_map.mp he'
          refine decide_eq_true fun hsame ↦ hfresh ?_
          exact List.mem_map.mpr ⟨p, hp, hsame.trans hid.symm⟩
        have hreplace : SqliteStore.insertOrReplace (e :: rest.map Prod.snd) d =
            rest.map Prod.snd ++ [d] := by
          rw [SqliteStore.insertOrReplace, List.filter_cons_of_neg (by simp [hid]),
            List.filter_eq_self.mpr hrest]
        rw [List.map_cons, List.map_cons, hreplace]
        exact (List.perm_append_singleton d _).symm
      · have hkeep : SqliteStore.insertOrReplace (e :: rest.map Prod.snd) d =
            e :: SqliteStore.insertOrReplace (rest.map Prod.snd) d := by
          rw [SqliteStore.insertOrReplace, List.filter_cons_of_pos (by simp [hid])]
          rfl
        rw [List.map_cons, List.map_cons, hkeep]
        exact (ih hrest hnodup').cons e

end InMemoryStore

/-- The dictionary and the list hold the same detections, each id once. -/
structure Holds (s : InMemoryStore.State) (ds : List GeoDetection) : Prop where
  perm : s.all.Perm ds
  nodup : (ds.map GeoDetection.id).Nodup

namespace Holds

variable {s : InMemoryStore.State} {ds : List GeoDetection}

/-- Both find the same detection. -/
theorem get_eq (h : Holds s ds) (id : String) : s.get id = SqliteStore.select ds id := by
  cases hget : s.get id with
  | none =>
      refine (List.find?_eq_none.mpr fun d hd ↦ ?_).symm
      obtain ⟨p, hp, rfl⟩ := List.mem_map.mp (h.perm.mem_iff.mpr hd)
      have hkey : id ≠ p.1 := bne_iff_ne.mp (List.lookup_eq_none_iff.mp hget p hp)
      rw [← s.keyed p hp]
      simpa using hkey.symm
  | some d =>
      have hd : d ∈ ds :=
        h.perm.mem_iff.mp (List.mem_map.mpr ⟨_, InMemoryStore.mem_of_lookup hget, rfl⟩)
      exact ((Table.select_eq_some_iff h.nodup).mpr ⟨hd, InMemoryStore.State.get_id hget⟩).symm

theorem add (h : Holds s ds) (d : GeoDetection) :
    Holds (s.add d) (SqliteStore.insertOrReplace ds d) where
  perm := by
    have hnodup : (s.byId.map fun p ↦ p.2.id).Nodup := by
      have hall := (h.perm.map GeoDetection.id).nodup_iff.mpr h.nodup
      rwa [InMemoryStore.State.all, List.map_map] at hall
    refine (InMemoryStore.map_snd_assign s.keyed hnodup d).trans ?_
    exact (h.perm.filter _).append_right [d]
  nodup := Table.nodup_insertOrReplace h.nodup d

end Holds

/-! ## Interchangeability -/

/-- Lists are compared up to their order. -/
def StoreAnswer.Same : StoreAnswer → StoreAnswer → Prop
  | .many ds, .many ds' => ds.Perm ds'
  | a, a' => a = a'

/-- The same answer, or the same exception. -/
def Agree : Except ScoutError StoreAnswer → Except ScoutError StoreAnswer → Prop
  | .ok a, .ok a' => a.Same a'
  | .error e, .error e' => e = e'
  | _, _ => False

/-- The two stores. -/
structure Backends where
  dict : InMemoryStore.State := inMemoryStore.empty
  table : Table := []

namespace Backends

/-- The same call of both. -/
def step (w : Backends) (c : StoreCall) : Option Backends :=
  some { dict := (w.dict.call c).2, table := (w.table.call c).2 }

/-- The stores answer alike, and one that raises is left as it was. -/
structure Interchangeable (w : Backends) (c : StoreCall) : Prop where
  agree : Agree (w.dict.call c).1 (w.table.call c).1
  dict : ∀ e, (w.dict.call c).1 = .error e → (w.dict.call c).2 = w.dict
  table : ∀ e, (w.table.call c).1 = .error e → (w.table.call c).2 = w.table

end Backends

/-- The call has to read the detection, if it is stored. -/
def StoreCall.Reads : StoreCall → GeoDetection → Prop
  | add _, _ => False
  | get id, d => d.id = id
  | all, _ => True
  | byBlock blockId, d => d.blockId = some blockId
  | setStatus id status, d => d.id = id ∧ DetectionStatus.ofText status ≠ none

/-- No detection that the call reads has a NaN for its time. -/
def Backends.Readable (w : Backends) (c : StoreCall) : Prop :=
  ∀ p ∈ w.dict.byId, c.Reads p.2 → p.2.ts ≠ .nan

/-! ### Calls that raise -/

theorem InMemoryStore.State.call_error {s : InMemoryStore.State} {c : StoreCall} {e : ScoutError}
    (h : (s.call c).1 = .error e) : (s.call c).2 = s := by
  cases c with
  | setStatus id status =>
      rw [call] at h ⊢
      split at h <;> simp_all
  | add d => cases h
  | _ => rfl

theorem Table.call_error {rows : Table} {c : StoreCall} {e : ScoutError}
    (h : (rows.call c).1 = .error e) : (rows.call c).2 = rows := by
  cases c with
  | add d => cases h
  | setStatus id status =>
      rw [call, setStatus] at h ⊢
      split at h
      · simp_all
      · simp_all
      · split at h <;> simp_all [Except.map]
  | _ => rfl

theorem InMemoryStore.State.call_setStatus (s : InMemoryStore.State) (id status : String) :
    s.call (.setStatus id status) =
      match s.get id with
      | none => (.ok (.one none), s)
      | some d =>
          match d.withStatus status with
          | .error e => (.error e, s)
          | .ok updated => (.ok (.one (some updated)), s.add updated) := by
  have hset : s.setStatus id status = setFound add s status (s.get id) := s.update_eq id status rfl
  rw [call, hset]
  cases s.get id with
  | none => rfl
  | some d =>
      rw [setFound]
      dsimp only
      cases d.withStatus status <;> rfl

/-! ### Answers -/

/-- An answer that is there if all rows can be read. -/
theorem agree_ite {a a' : StoreAnswer} (h : a.Same a') (p : Prop) [Decidable p] (e : ScoutError) :
    Agree (.ok a) (if p then .ok a' else .error e) ↔ p := by
  split_ifs with hp
  · exact iff_of_true h hp
  · exact iff_of_false id hp

namespace Holds

variable {s : InMemoryStore.State} {ds : List GeoDetection}

/-- `set_status` agrees unless it finds a row that it cannot read and the status is one. -/
theorem agree_setStatus (h : Holds s ds) (id status : String) :
    Agree (s.call (.setStatus id status)).1
        (Table.call (ds.map .ofDetection) (.setStatus id status)).1 ↔
      ∀ d ∈ ds, d.id = id ∧ DetectionStatus.ofText status ≠ none → d.ts ≠ .nan := by
  rw [s.call_setStatus, h.get_eq, Table.call, Table.setStatus, Table.get_map ds h.nodup]
  by_cases hread : ∀ d ∈ ds, d.id = id → d.ts ≠ .nan
  · -- the row can be read, and both go on with the same detection
    refine iff_of_true ?_ fun d hd hid ↦ hread d hd hid.1
    rw [if_pos hread]
    cases SqliteStore.select ds id with
    | none => rfl
    | some d =>
        dsimp only
        cases d.withStatus status <;> rfl
  · rw [if_neg hread]
    push Not at hread
    obtain ⟨d, hd, hid, hts⟩ := hread
    rw [(Table.select_eq_some_iff h.nodup).mpr ⟨hd, hid⟩]
    dsimp only
    rw [GeoDetection.withStatus]
    cases hstatus : DetectionStatus.ofText status with
    | none => exact iff_of_true rfl fun _ _ hvalid ↦ absurd rfl hvalid.2
    | some st => exact iff_of_false (fun hagree ↦ hagree) fun hall ↦ hall d hd ⟨hid, by simp⟩ hts

/-- **The answers agree** exactly if all detections that are read can be. -/
theorem agree_iff (h : Holds s ds) (c : StoreCall) :
    Agree (s.call c).1 (Table.call (ds.map .ofDetection) c).1 ↔
      ∀ d ∈ ds, c.Reads d → d.ts ≠ .nan := by
  cases c with
  | add d => exact iff_of_true rfl fun d' _ hread ↦ hread.elim
  | get id =>
      rw [Table.call, Table.get_map ds h.nodup, apply_ite (Except.map StoreAnswer.one)]
      refine agree_ite ?_ _ _
      rw [← h.get_eq]
      rfl
  | all =>
      obtain ⟨ds', hperm, hall⟩ := Table.all_map ds
      rw [Table.call, hall, apply_ite (Except.map StoreAnswer.many)]
      have hsame : StoreAnswer.Same (.many s.all) (.many ds') := h.perm.trans hperm.symm
      refine (agree_ite hsame _ _).trans ?_
      simp [StoreCall.Reads]
  | byBlock blockId =>
      obtain ⟨ds', hperm, hblock⟩ := Table.byBlock_map ds blockId
      rw [Table.call, hblock, apply_ite (Except.map StoreAnswer.many)]
      have hsame : StoreAnswer.Same (.many (s.byBlock blockId)) (.many ds') :=
        (h.perm.filter _).trans hperm.symm
      exact agree_ite hsame _ _
  | setStatus id status => exact h.agree_setStatus id status

/-- The states after a call whose detections can all be read. -/
theorem call (h : Holds s ds) {c : StoreCall} (hread : ∀ d ∈ ds, c.Reads d → d.ts ≠ .nan) :
    ∃ ds', Holds (s.call c).2 ds' ∧
      (Table.call (ds.map .ofDetection) c).2 = ds'.map .ofDetection := by
  cases c with
  | add d => exact ⟨_, h.add d, Table.add_map ds d⟩
  | setStatus id status =>
      rw [s.call_setStatus, h.get_eq, Table.call, Table.setStatus, Table.get_map ds h.nodup]
      cases hselect : SqliteStore.select ds id with
      | none =>
          refine ⟨ds, h, ?_⟩
          split_ifs <;> rfl
      | some d =>
          obtain ⟨hd, hid⟩ := (Table.select_eq_some_iff h.nodup).mp hselect
          dsimp only
          rw [GeoDetection.withStatus]
          cases hstatus : DetectionStatus.ofText status with
          | none =>
              refine ⟨ds, h, ?_⟩
              split_ifs <;> simp [GeoDetection.withStatus, hstatus]
          | some st =>
              have hids : ∀ e ∈ ds, e.id = id → e.ts ≠ .nan := fun e he heid ↦
                hread e he ⟨heid, by simp [hstatus]⟩
              rw [if_pos hids]
              dsimp only
              rw [GeoDetection.withStatus, hstatus]
              exact ⟨_, h.add _, Table.add_map ds _⟩
  | _ => exact ⟨ds, h, rfl⟩

end Holds

/-! ### Runs -/

namespace Backends

variable {w w' : Backends} {c : StoreCall}

/-- Both stores hold the same detections. -/
def Mirrors (w : Backends) : Prop := ∃ ds, Holds w.dict ds ∧ w.table = ds.map .ofDetection

theorem mirrors_empty : Mirrors {} := ⟨[], ⟨List.Perm.refl _, List.nodup_nil⟩, rfl⟩

theorem readable_iff {ds : List GeoDetection} (h : Holds w.dict ds) :
    w.Readable c ↔ ∀ d ∈ ds, c.Reads d → d.ts ≠ .nan := by
  simp only [Readable, ← h.perm.mem_iff, InMemoryStore.State.all, List.forall_mem_map]

theorem Mirrors.step (h : w.Mirrors) (hread : w.Readable c) (hstep : w.step c = some w') :
    w'.Mirrors := by
  obtain ⟨ds, hds, htable⟩ := h
  cases hstep
  obtain ⟨ds', hds', htable'⟩ := hds.call ((readable_iff hds).mp hread)
  exact ⟨ds', hds', by rw [htable, htable']⟩

theorem Mirrors.interchangeable_iff (h : w.Mirrors) : w.Interchangeable c ↔ w.Readable c := by
  obtain ⟨ds, hds, htable⟩ := h
  rw [readable_iff hds, ← hds.agree_iff c, ← htable]
  refine ⟨fun h ↦ h.agree, fun hagree ↦ ⟨hagree, ?_, ?_⟩⟩
  · exact fun e he ↦ InMemoryStore.State.call_error he
  · exact fun e he ↦ Table.call_error he

/-- **The stores are interchangeable** exactly in the runs where no call reads a detection
whose time is NaN. -/
theorem interchangeable_iff_readable (cs : List StoreCall) :
    Along step Interchangeable {} cs ↔ Along step Readable {} cs := by
  have hmirrors (w : Backends) (c : StoreCall) (w' : Backends) (hw : w.Mirrors)
      (hread : w.Readable c) (hstep : w.step c = some w') : w'.Mirrors := hw.step hread hstep
  constructor
  · intro h
    refine Along.imp (fun w c w' hw hc hstep ↦ ?_) (fun w c w' hw hc _ ↦ ?_) mirrors_empty h
    · exact hmirrors w c w' hw (hw.interchangeable_iff.mp hc) hstep
    · exact hw.interchangeable_iff.mp hc
  · intro h
    exact Along.imp hmirrors (fun w c w' hw hc _ ↦ hw.interchangeable_iff.mpr hc) mirrors_empty h

/-- A sighting without a time. -/
def untimed : GeoDetection where
  id := "a"
  lat := .fin 0
  lon := .fin 0
  cls := "vine"
  conf := .fin 1
  errorM := .fin 0
  srcFrame := "f"
  ts := .nan
  lat_valid := latValid_zero
  lon_valid := lonValid_zero
  conf_valid := confValid_one
  error_valid := errorValid_zero

/-- The dictionary returns it, and the table raises. -/
theorem untimed_is_not_readable : ¬∀ cs, Along step Interchangeable {} cs := by
  intro h
  have hget := (h [.add untimed, .get "a"] _ rfl).2 _ rfl
  exact hget.1.agree

end Backends

end DroneComms.Scout
