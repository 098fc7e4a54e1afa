import DroneComms.Scout.Exports
import DroneComms.Web.Kit

/-!
# The scout station

`build_app` of `scout/station/app.py` and its handlers, over either of the stores: the
dictionary, or the table, in which a detection without a time can be stored and not be read.  A
run is any number of requests, each with its response.
-/

namespace DroneComms.Web

open Py (Value Interpreter)
open Scout

/-! ## The stores behind it -/

/-- A store as the station calls it, and what `set_status` does to the detections that `get`
returns. -/
structure StationStore where
  State : Type
  all : State → Except ScoutError (List GeoDetection)
  get : State → String → Except ScoutError (Option GeoDetection)
  /-- `set_status`: the new state, with what is returned. -/
  setStatus : State → String → String → Except ScoutError (State × Option GeoDetection)
  setStatus_error : ∀ {s id e}, get s id = .error e → ∀ status, setStatus s id status = .error e
  setStatus_none : ∀ {s id}, get s id = .ok none → ∀ status, setStatus s id status = .ok (s, none)
  setStatus_some : ∀ {s id d}, get s id = .ok (some d) → ∀ status : DetectionStatus, ∃ s',
    setStatus s id status.text = .ok (s', some { d with status }) ∧
      get s' id = .ok (some { d with status }) ∧ ∀ id', id' ≠ id → get s' id' = get s id'

/-- `InMemoryStore`. -/
def stationDict : StationStore where
  State := InMemoryStore.State
  all s := .ok s.all
  get s id := .ok (s.get id)
  setStatus := InMemoryStore.State.setStatus
  setStatus_error := nofun
  setStatus_none {s id} h status := by
    rw [InMemoryStore.State.setStatus, s.update_eq, Except.ok.inj h, setFound]
  setStatus_some {s id d} h status := by
    have hget : s.get id = some d := Except.ok.inj h
    obtain rfl := InMemoryStore.State.get_id hget
    refine ⟨s.add { d with status }, ?_, ?_, fun id' hne ↦ ?_⟩
    · rw [InMemoryStore.State.setStatus, s.update_eq, hget]
      simp [setFound, Except.map]
    · exact congrArg Except.ok (inMemoryStore.get_add_self s { d with status })
    · exact congrArg Except.ok (inMemoryStore.get_add_of_ne s (d := { d with status }) hne)

/-- The rows of a `SqliteStore`: those of detections, each id once. -/
structure SqliteRows where
  rows : Table
  stored : ∃ ds : List GeoDetection, rows = ds.map Row.ofDetection ∧ (ds.map GeoDetection.id).Nodup

namespace SqliteRows

variable (s : SqliteRows)

theorem add_stored (d : GeoDetection) :
    ∃ ds : List GeoDetection, s.rows.add d = ds.map Row.ofDetection ∧
      (ds.map GeoDetection.id).Nodup := by
  obtain ⟨ds, hrows, hnodup⟩ := s.stored
  exact ⟨_, by rw [hrows, Table.add_map], Table.nodup_insertOrReplace hnodup d⟩

/-- `add`. -/
def add (d : GeoDetection) : SqliteRows := ⟨s.rows.add d, s.add_stored d⟩

/-- `set_status`. -/
def setStatus (id status : String) : Except ScoutError (SqliteRows × Option GeoDetection) := do
  match ← s.rows.get id with
  | none => return (s, none)
  | some current =>
      let updated ← current.withStatus status
      return (s.add updated, some updated)

/-- What is read has a time. -/
theorem timed_of_get {id : String} {d : GeoDetection} (h : s.rows.get id = .ok (some d)) :
    d.id = id ∧ d.ts ≠ .nan := by
  obtain ⟨ds, hrows, hnodup⟩ := s.stored
  rw [hrows, Table.get_map ds hnodup] at h
  split_ifs at h with hread
  obtain ⟨hd, hid⟩ := (Table.select_eq_some_iff hnodup).mp (Except.ok.inj h)
  exact ⟨hid, hread d hd hid⟩

/-- What is put in its place is read back, and nothing else changes. -/
theorem get_add {d : GeoDetection} (hts : d.ts ≠ .nan) (id : String) :
    (s.add d).rows.get id = if id = d.id then .ok (some d) else s.rows.get id := by
  obtain ⟨ds, hrows, hnodup⟩ := s.stored
  show (s.rows.add d).get id = _
  rw [hrows, Table.add_map, Table.get_insertOrReplace ds hnodup hts]

end SqliteRows

/-- `SqliteStore`. -/
def stationTable : StationStore where
  State := SqliteRows
  all s := s.rows.all
  get s id := s.rows.get id
  setStatus s id status := s.setStatus id status
  setStatus_error h status := by
    rw [SqliteRows.setStatus, h]
    rfl
  setStatus_none h status := by
    rw [SqliteRows.setStatus, h]
    rfl
  setStatus_some {s id d} h status := by
    obtain ⟨rfl, hts⟩ := s.timed_of_get h
    have hget := s.get_add (d := { d with status }) hts
    refine ⟨s.add { d with status }, ?_, (hget d.id).trans (if_pos rfl), fun id' hne ↦ ?_⟩
    · rw [SqliteRows.setStatus, h]
      show (do let updated ← d.withStatus status.text; pure (s.add updated, some updated)) = _
      rw [GeoDetection.withStatus_text]
      rfl
    · exact (hget id').trans (if_neg hne)

/-! ## The app -/

/-- The routes of the station. -/
inductive StationRoute where
  | index
  | healthz
  | detections
  | exportGeojson
  | exportCsv
  | block
  | setStatus (detId : String)
deriving DecidableEq

/-- What `build_app` closes over. -/
structure Station where
  auth : ServiceAuth
  store : StationStore
  blockGeojson : Option Value
  py : Interpreter
  /-- `render_page(token)` -/
  page : List Char

/-- `validate_bind` of the station. -/
def validateStationBind (host : List Char) (token : Option String) :
    Except Transports.BindRefused Unit :=
  Transports.validateBind host token "meshsa-scout station"
    "the station discloses detection positions. Set a station token, or bind to 127.0.0.1."

/-- `build_app`, which checks the bind if a host is given. -/
def buildStation (store : StationStore) (py : Interpreter)
    (renderPage : Option String → List Char) (host : Option (List Char)) (token : Option String)
    (blockGeojson : Option Value) : Except Transports.BindRefused Station :=
  (host.elim (.ok ()) fun host ↦ validateStationBind host token).map fun _ ↦
    { auth := ⟨"meshsa-scout", token⟩, store, blockGeojson, py, page := renderPage token }

/-- The statuses, as `list(DETECTION_STATUSES)` is written. -/
def statusesText : String := "['new', 'tagged', 'rejected', 'inspected']"

/-- The status that a payload asks for. -/
def requestedStatus (payload : Option Value) : Except String DetectionStatus :=
  match payload with
  | some (.dict d) =>
      match d.lookup "status" with
      | some (.str text) =>
          match DetectionStatus.ofText text with
          | some status => .ok status
          | none => .error ("status must be one of " ++ statusesText)
      | _ => .error ("status must be one of " ++ statusesText)
  | _ => .error "expected a JSON object"

namespace Station

variable (st : Station)

/-- A handler that serves the detections. -/
def serve (render : List GeoDetection → Response) (s : st.store.State)
    (_ : Request StationRoute) : st.store.State × Response :=
  match st.store.all s with
  | .ok ds => (s, render ds)
  | .error _ => (s, serverError)

/-- `block`. -/
def block (s : st.store.State) (_ : Request StationRoute) : st.store.State × Response :=
  match st.blockGeojson with
  | none => (s, apiJson (.dict [("error", .str "no block loaded")]) 404)
  | some block => (s, apiJson block)

/-- `set_status`, with `set_status_body`. -/
def setStatus (detId : String) (s : st.store.State) (r : Request StationRoute) :
    st.store.State × Response :=
  match requestedStatus r.json with
  | .error message => (s, apiJson (.dict [("error", .str message)]) 400)
  | .ok status =>
      match st.store.setStatus s detId status.text with
      | .error _ => (s, serverError)
      | .ok (s', none) => (s', apiJson (.dict [("error", .str "unknown detection id")]) 404)
      | .ok (s', some updated) =>
          (s', apiJson (.dict [("id", .str updated.id), ("status", .str updated.status.text)]))

/-- The table of routes. -/
def app : App st.store.State StationRoute where
  auth := st.auth
  gate
    | .index => .page
    | .healthz => .free
    | _ => .bearer
  handler s r :=
    match r.route with
    | .index => (s, htmlPage st.page)
    | .healthz => (s, healthz)
    | .detections | .exportGeojson => st.serve (fun ds ↦ apiJson (toGeojson ds)) s r
    | .exportCsv => st.serve (fun ds ↦ textBody "text/csv" (toCsv st.py ds)) s r
    | .block => st.block s r
    | .setStatus detId => st.setStatus detId s r

/-! ## Triage -/

/-- The status that a request gives a detection, if it is admitted. -/
def triaged (id : String) (r : Request StationRoute) : Option DetectionStatus :=
  if st.app.Admitted r ∧ r.route = .setStatus id then (requestedStatus r.json).toOption else none

/-- The status that a run gives a detection. -/
def lastTriaged (id : String) (rs : List (Request StationRoute)) : Option DetectionStatus :=
  (rs.filterMap (st.triaged id)).getLast?

/-- A detection with the status that it was given, if it was given one. -/
def withTriaged (d : GeoDetection) (status : Option DetectionStatus) : GeoDetection :=
  { d with status := status.getD d.status }

theorem withTriaged_withTriaged (d : GeoDetection) (first second : Option DetectionStatus) :
    withTriaged (withTriaged d first) second = withTriaged d (second.or first) := by
  cases second <;> rfl

/-- What `get` returns with the status that was given. -/
def readTriaged (found : Except ScoutError (Option GeoDetection))
    (status : Option DetectionStatus) : Except ScoutError (Option GeoDetection) :=
  found.map (Option.map fun d ↦ withTriaged d status)

@[simp] theorem readTriaged_none (found : Except ScoutError (Option GeoDetection)) :
    readTriaged found none = found := by
  rcases found with e | _ | d <;> rfl

theorem readTriaged_readTriaged (found : Except ScoutError (Option GeoDetection))
    (first second : Option DetectionStatus) :
    readTriaged (readTriaged found first) second = readTriaged found (second.or first) := by
  rcases found with e | _ | d
  · rfl
  · rfl
  · exact congrArg (fun d ↦ Except.ok (some d)) (withTriaged_withTriaged d first second)

theorem get_setStatus (detId : String) (s : st.store.State) (r : Request StationRoute)
    (id : String) : st.store.get (st.setStatus detId s r).1 id =
      readTriaged (st.store.get s id)
        (if detId = id then (requestedStatus r.json).toOption else none) := by
  unfold setStatus
  cases requestedStatus r.json with
  | error message =>
      have hnone : (Except.error message : Except String DetectionStatus).toOption = none := rfl
      simp only [hnone, ite_self, readTriaged_none]
  | ok status =>
      have hsome : (Except.ok status : Except String DetectionStatus).toOption = some status := rfl
      dsimp only
      rw [hsome]
      cases hget : st.store.get s detId with
      | error e =>
          rw [st.store.setStatus_error hget]
          split_ifs with hid
          · rw [← hid, hget]
            rfl
          · exact (readTriaged_none _).symm
      | ok found =>
          cases found with
          | none =>
              rw [st.store.setStatus_none hget]
              split_ifs with hid
              · rw [← hid, hget]
                rfl
              · exact (readTriaged_none _).symm
          | some d =>
              obtain ⟨s', hset, hself, hother⟩ := st.store.setStatus_some hget status
              rw [hset]
              split_ifs with hid
              · rw [← hid, hget]
                exact hself
              · rw [readTriaged_none]
                exact hother id (Ne.symm hid)

theorem handle_fst_of_ne (s : st.store.State) {r : Request StationRoute}
    (h : ∀ detId, r.route ≠ .setStatus detId) : (st.app.handle s r).1 = s := by
  have hserve (render : List GeoDetection → Response) : (st.serve render s r).1 = s := by
    unfold serve
    split <;> rfl
  have hblock : (st.block s r).1 = s := by
    unfold block
    split <;> rfl
  by_cases hr : st.app.Admitted r
  · rw [st.app.handle_of_admitted s hr]
    unfold app
    dsimp only
    cases hroute : r.route with
    | index => rfl
    | healthz => rfl
    | detections => exact hserve _
    | exportGeojson => exact hserve _
    | exportCsv => exact hserve _
    | block => exact hblock
    | setStatus detId => exact absurd hroute (h detId)
  · rw [st.app.refuses s r hr]

/-- A request changes no more than the status of the detection it is about. -/
theorem get_handle (s : st.store.State) (r : Request StationRoute) (id : String) :
    st.store.get (st.app.handle s r).1 id =
      readTriaged (st.store.get s id) (st.triaged id r) := by
  by_cases hr : st.app.Admitted r
  · by_cases hroute : ∃ detId, r.route = .setStatus detId
    · obtain ⟨detId, hroute⟩ := hroute
      have hhandle : st.app.handle s r = st.setStatus detId s r := by
        rw [st.app.handle_of_admitted s hr]
        unfold app
        dsimp only
        rw [hroute]
      rw [hhandle, get_setStatus, triaged, hroute]
      simp [hr]
    · have hne : ∀ detId, r.route ≠ .setStatus detId := fun detId h ↦ hroute ⟨detId, h⟩
      rw [st.handle_fst_of_ne s hne, triaged, if_neg fun h ↦ hne id h.2, readTriaged_none]
  · rw [st.app.refuses s r hr, triaged, if_neg fun h ↦ hr h.1, readTriaged_none]

/-- **What a run of requests makes of the detections.**  Each has all of its fields, and the
status that the last admitted request for it asked for; there are no others, and what cannot be
read stays so. -/
theorem get_run (s : st.store.State) (rs : List (Request StationRoute)) (id : String) :
    st.store.get (Purging.run st.app.handle s rs).1 id =
      readTriaged (st.store.get s id) (st.lastTriaged id rs) := by
  induction rs generalizing s with
  | nil => exact (readTriaged_none _).symm
  | cons r rs ih =>
      have hlast : st.lastTriaged id (r :: rs) = (st.lastTriaged id rs).or (st.triaged id r) := by
        unfold lastTriaged
        cases htriaged : st.triaged id r with
        | none => rw [List.filterMap_cons_none htriaged, Option.or_none]
        | some status =>
            rw [List.filterMap_cons_some htriaged, List.getLast?_cons]
            cases (rs.filterMap (st.triaged id)).getLast? <;> rfl
      rw [Purging.run, ih, get_handle, readTriaged_readTriaged, hlast]

end Station

end DroneComms.Web
