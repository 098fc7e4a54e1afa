import DroneComms.Scout.Schemas

/-!
# The stores of the scout pipeline

`scout/store.py`: a dictionary and a table, each as a mapping from ids to
detections.  The pipeline works with either through the laws of `Store`.  The
table is here the list of the detections in its rows, which it is as long as each
has a time (`Table.simulates_sqliteStore`).
-/

namespace DroneComms.Scout

/-- What `set_status` does with the detection it found: a missing one is left alone, and
a known one gets the status, if it is one. -/
def setFound {σ : Type} (add : σ → GeoDetection → σ) (s : σ) (status : String) :
    Option GeoDetection → Except ScoutError (σ × Option GeoDetection)
  | none => .ok (s, none)
  | some d => (d.withStatus status).map fun d' ↦ (add s d', some d')

/-- A store: its operations, and what they do to the detection of an id. -/
structure Store where
  State : Type
  empty : State
  add : State → GeoDetection → State
  get : State → String → Option GeoDetection
  /-- `set_status`: the new state, with what is returned. -/
  setStatus : State → String → String → Except ScoutError (State × Option GeoDetection)
  get_empty : ∀ id, get empty id = none
  get_id : ∀ {s id d}, get s id = some d → d.id = id
  get_add_self : ∀ s d, get (add s d) d.id = some d
  get_add_of_ne : ∀ s {d id}, id ≠ d.id → get (add s d) id = get s id
  setStatus_eq : ∀ s id status, setStatus s id status = setFound add s status (get s id)

/-! ## The dictionary -/

namespace InMemoryStore

/-- The entries of `_by_id`, each under the id of its detection. -/
structure State where
  byId : List (String × GeoDetection)
  keyed : ∀ p ∈ byId, p.1 = p.2.id

/-- `d[key] = value`: in place, or at the end. -/
def assign (byId : List (String × GeoDetection)) (id : String) (d : GeoDetection) :
    List (String × GeoDetection) :=
  match byId with
  | [] => [(id, d)]
  | (key, e) :: rest => if key = id then (key, d) :: rest else (key, e) :: assign rest id d

theorem lookup_assign_self (byId : List (String × GeoDetection)) (id : String) (d : GeoDetection) :
    (assign byId id d).lookup id = some d := by
  induction byId with
  | nil => simp [assign]
  | cons p rest ih =>
      obtain ⟨key, e⟩ := p
      rw [assign]
      split_ifs with h
      · subst h
        simp
      · rw [List.lookup_cons, beq_eq_false_iff_ne.mpr (Ne.symm h)]
        exact ih

theorem lookup_assign_of_ne (byId : List (String × GeoDetection)) {id id' : String}
    (d : GeoDetection) (hne : id' ≠ id) : (assign byId id d).lookup id' = byId.lookup id' := by
  induction byId with
  | nil => simp [assign, hne]
  | cons p rest ih =>
      obtain ⟨key, e⟩ := p
      rw [assign]
      split_ifs with h
      · subst h
        rw [List.lookup_cons, List.lookup_cons, beq_eq_false_iff_ne.mpr hne]
      · rw [List.lookup_cons, List.lookup_cons, ih]

theorem mem_assign {byId : List (String × GeoDetection)} {id : String} {d : GeoDetection}
    {p : String × GeoDetection} (h : p ∈ assign byId id d) : p ∈ byId ∨ p = (id, d) := by
  induction byId with
  | nil => exact .inr (List.mem_singleton.mp h)
  | cons q rest ih =>
      obtain ⟨key, e⟩ := q
      rw [assign] at h
      split_ifs at h with hkey
      · subst hkey
        rcases List.mem_cons.mp h with rfl | h
        · exact .inr rfl
        · exact .inl (List.mem_cons_of_mem _ h)
      · rcases List.mem_cons.mp h with rfl | h
        · exact .inl List.mem_cons_self
        · exact (ih h).imp_left (List.mem_cons_of_mem _)

theorem mem_of_lookup {byId : List (String × GeoDetection)} {id : String} {d : GeoDetection}
    (h : byId.lookup id = some d) : (id, d) ∈ byId := by
  induction byId with
  | nil => cases h
  | cons q rest ih =>
      obtain ⟨key, e⟩ := q
      rw [List.lookup_cons] at h
      split at h
      · rename_i hkey
        cases h
        rw [beq_iff_eq.mp hkey]
        exact List.mem_cons_self
      · exact List.mem_cons_of_mem _ (ih h)

namespace State

def get (s : State) (id : String) : Option GeoDetection := s.byId.lookup id

theorem get_id {s : State} {id : String} {d : GeoDetection} (h : s.get id = some d) : d.id = id :=
  (s.keyed _ (mem_of_lookup h)).symm

def put (s : State) (id : String) (d : GeoDetection) (h : id = d.id) : State where
  byId := assign s.byId id d
  keyed p hp := (mem_assign hp).elim (s.keyed p) fun heq ↦ heq ▸ h

/-- `add`. -/
def add (s : State) (d : GeoDetection) : State := s.put d.id d rfl

theorem withStatus_id {d d' : GeoDetection} {status : String} (h : d.withStatus status = .ok d') :
    d'.id = d.id := by
  rw [GeoDetection.withStatus] at h
  split at h
  · cases h
    rfl
  · cases h

/-- `self._by_id[detection_id] = updated`, unless the copy raises. -/
def store (s : State) (id : String) : (updated : Except ScoutError GeoDetection) →
    (∀ d, updated = .ok d → id = d.id) → Except ScoutError (State × Option GeoDetection)
  | .error e, _ => .error e
  | .ok d, h => .ok (s.put id d (h d rfl), some d)

theorem withStatus_id_of_get {s : State} {id : String} {current : GeoDetection}
    (hget : s.get id = some current) (status : String) :
    ∀ d, current.withStatus status = .ok d → id = d.id :=
  fun _ h ↦ (get_id hget).symm.trans (withStatus_id h).symm

/-- The branches of `set_status` on what is found. -/
def update (s : State) (id status : String) : (found : Option GeoDetection) →
    s.get id = found → Except ScoutError (State × Option GeoDetection)
  | none, _ => .ok (s, none)
  | some current, hget => s.store id (current.withStatus status) (withStatus_id_of_get hget status)

/-- `set_status`. -/
def setStatus (s : State) (id status : String) : Except ScoutError (State × Option GeoDetection) :=
  s.update id status (s.get id) rfl

theorem store_eq (s : State) {id : String} {updated : Except ScoutError GeoDetection}
    (h : ∀ d, updated = .ok d → id = d.id) :
    s.store id updated h = updated.map fun d ↦ (s.add d, some d) := by
  cases updated with
  | error e => rfl
  | ok d =>
      obtain rfl := h d rfl
      rfl

theorem update_eq (s : State) (id status : String) {found : Option GeoDetection}
    (hget : s.get id = found) : s.update id status found hget = setFound add s status found := by
  cases found with
  | none => rfl
  | some current => exact s.store_eq _

end State

end InMemoryStore

/-- `InMemoryStore`. -/
def inMemoryStore : Store where
  State := InMemoryStore.State
  empty := ⟨[], List.forall_mem_nil _⟩
  add := InMemoryStore.State.add
  get := InMemoryStore.State.get
  setStatus := InMemoryStore.State.setStatus
  get_empty _ := rfl
  get_id := InMemoryStore.State.get_id
  get_add_self s d := InMemoryStore.lookup_assign_self s.byId d.id d
  get_add_of_ne s _ _ hne := InMemoryStore.lookup_assign_of_ne s.byId _ hne
  setStatus_eq s id status := s.update_eq id status rfl

/-! ## The table -/

namespace SqliteStore

/-- `SELECT * FROM detections WHERE id = ?`. -/
def select (rows : List GeoDetection) (id : String) : Option GeoDetection :=
  rows.find? fun d ↦ d.id = id

/-- `INSERT OR REPLACE`: the row with that key is deleted, and the new one appended. -/
def insertOrReplace (rows : List GeoDetection) (d : GeoDetection) : List GeoDetection :=
  rows.filter (fun e ↦ e.id ≠ d.id) ++ [d]

/-- `set_status`. -/
def setStatus (rows : List GeoDetection) (id status : String) :
    Except ScoutError (List GeoDetection × Option GeoDetection) :=
  match select rows id with
  | none => .ok (rows, none)
  | some current => do
      let updated ← current.withStatus status
      return (insertOrReplace rows updated, some updated)

theorem setStatus_eq (rows : List GeoDetection) (id status : String) :
    setStatus rows id status = setFound insertOrReplace rows status (select rows id) := by
  unfold setStatus setFound
  cases select rows id with
  | none => rfl
  | some current => cases current.withStatus status <;> rfl

theorem select_id {rows : List GeoDetection} {id : String} {d : GeoDetection}
    (h : select rows id = some d) : d.id = id := by
  simpa using List.find?_some h

theorem select_insertOrReplace_self (rows : List GeoDetection) (d : GeoDetection) :
    select (insertOrReplace rows d) d.id = some d := by
  have hnone : (rows.filter fun e ↦ e.id ≠ d.id).find? (fun e ↦ e.id = d.id) = none :=
    List.find?_eq_none.mpr fun e he ↦ by simpa using (List.mem_filter.mp he).2
  rw [select, insertOrReplace, List.find?_append, hnone]
  simp

theorem select_insertOrReplace_of_ne (rows : List GeoDetection) {d : GeoDetection} {id : String}
    (hne : id ≠ d.id) : select (insertOrReplace rows d) id = select rows id := by
  have hlast : [d].find? (fun e ↦ e.id = id) = none := by simpa using Ne.symm hne
  rw [select, insertOrReplace, List.find?_append, hlast, Option.or_none, List.find?_filter, select]
  congr 1
  funext e
  by_cases h : e.id = id <;> simp [h, hne]

end SqliteStore

/-- `SqliteStore`, for detections with a time. -/
def sqliteStore : Store where
  State := List GeoDetection
  empty := []
  add := SqliteStore.insertOrReplace
  get := SqliteStore.select
  setStatus := SqliteStore.setStatus
  get_empty _ := rfl
  get_id := SqliteStore.select_id
  get_add_self := SqliteStore.select_insertOrReplace_self
  get_add_of_ne s _ _ hne := SqliteStore.select_insertOrReplace_of_ne s hne
  setStatus_eq := SqliteStore.setStatus_eq

end DroneComms.Scout
