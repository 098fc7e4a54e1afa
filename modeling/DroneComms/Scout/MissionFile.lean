import DroneComms.Lib.LineLog
import DroneComms.Py.Format
import DroneComms.Scout.Coverage
import DroneComms.Scout.Schemas

/-!
# Mission files

`scout/export_mission.py`: the waypoints of a survey as a QGroundControl plan and as a
`QGC WPL 110` text.  A reader for each says what a ground station loads: the home position, and
the items with their numbers.  The plan has the numbers of the waypoints, the text those of its
rows.
-/

namespace DroneComms.Scout

open Py (PyFloat Value fixedChars readNumber)

/-- `Waypoint`, in floats. -/
structure FloatWaypoint where
  seq : ℤ
  lat : PyFloat
  lon : PyFloat
  altAglM : PyFloat
  lat_valid : LatValid lat
  lon_valid : LonValid lon
  alt_pos : PyFloat.lt (.fin 0) altAglM = true

/-- A position with its altitude. -/
structure MissionPoint where
  lat : PyFloat
  lon : PyFloat
  alt : PyFloat
deriving DecidableEq

def FloatWaypoint.point (wp : FloatWaypoint) : MissionPoint := ⟨wp.lat, wp.lon, wp.altAglM⟩

/-- `_MAV_CMD_NAV_WAYPOINT`. -/
def mavCmdNavWaypoint : ℤ := 16

/-- `_MAV_FRAME_GLOBAL_RELATIVE_ALT`. -/
def mavFrameGlobalRelativeAlt : ℤ := 3

/-- `_MAV_FRAME_GLOBAL`. -/
def mavFrameGlobal : ℤ := 0

/-- `_WPL_HEADER`. -/
def wplHeader : List Char := "QGC WPL 110".toList

/-- The home position: the first waypoint if none is given. -/
def homeOf (waypoints : List FloatWaypoint) (home : Option MissionPoint) : MissionPoint :=
  match home, waypoints with
  | some home, _ => home
  | none, wp :: _ => wp.point
  | none, [] => ⟨.fin 0, .fin 0, .fin 0⟩

/-! ## The plan -/

def planItem (wp : FloatWaypoint) : Value :=
  .dict [("type", .str "SimpleItem"), ("command", .int mavCmdNavWaypoint),
    ("frame", .int mavFrameGlobalRelativeAlt),
    ("params", .list [.int 0, .int 0, .int 0, .none, .float wp.lat, .float wp.lon,
      .float wp.altAglM]),
    ("autoContinue", .bool true), ("doJumpId", .int (wp.seq + 1)),
    ("Altitude", .float wp.altAglM), ("AltitudeMode", .int 1)]

def toQgcPlan (waypoints : List FloatWaypoint) (home : Option MissionPoint)
    (cruiseSpeedMs hoverSpeedMs : PyFloat) : Value :=
  let home := homeOf waypoints home
  .dict [("fileType", .str "Plan"), ("version", .int 1), ("groundStation", .str "meshsa-scout"),
    ("geoFence", .dict [("circles", .list []), ("polygons", .list []), ("version", .int 2)]),
    ("rallyPoints", .dict [("points", .list []), ("version", .int 2)]),
    ("mission", .dict [("version", .int 2), ("firmwareType", .int 12), ("vehicleType", .int 2),
      ("cruiseSpeed", .float cruiseSpeedMs), ("hoverSpeed", .float hoverSpeedMs),
      ("globalPlanAltitudeMode", .int 1),
      ("plannedHomePosition", .list [.float home.lat, .float home.lon, .float home.alt]),
      ("items", .list (waypoints.map planItem))])]

/-! ## The text -/

/-- A row of the text behind its number. -/
structure WplRow where
  frame : ℤ
  current : ℤ
  point : MissionPoint

/-- The rows of the text: row 0 is the home position. -/
def wplRows (waypoints : List FloatWaypoint) (home : Option MissionPoint) : List WplRow :=
  ⟨mavFrameGlobal, 1, homeOf waypoints home⟩ ::
    waypoints.map fun wp ↦ ⟨mavFrameGlobalRelativeAlt, 0, wp.point⟩

def wplFields (p : WplRow × ℕ) : List (List Char) :=
  [Decimal.signed p.2, Decimal.signed p.1.current, Decimal.signed p.1.frame,
    Decimal.signed mavCmdNavWaypoint, Decimal.signed 0, Decimal.signed 0, Decimal.signed 0,
    Decimal.signed 0, fixedChars 8 p.1.point.lat, fixedChars 8 p.1.point.lon,
    fixedChars 2 p.1.point.alt, Decimal.signed 1]

def wplLine (p : WplRow × ℕ) : List Char := List.intercalate ['\t'] (wplFields p)

def toArdupilotWaypoints (waypoints : List FloatWaypoint) (home : Option MissionPoint) :
    List Char :=
  List.intercalate ['\n'] (wplHeader :: (wplRows waypoints home).zipIdx.map wplLine) ++ ['\n']

/-! ## What a ground station reads -/

/-- An item of a mission. -/
structure MissionItem where
  number : ℤ
  frame : ℤ
  command : ℤ
  point : MissionPoint
deriving DecidableEq

structure Mission where
  home : MissionPoint
  items : List MissionItem
deriving DecidableEq

/-- A row of a text. -/
structure WplItem extends MissionItem where
  current : ℤ
  params : List PyFloat
  autoContinue : ℤ
deriving DecidableEq

def readWplLine (line : List Char) : Option WplItem :=
  match line.splitOn '\t' with
  | [number, current, frame, command, p1, p2, p3, p4, lat, lon, alt, autoContinue] => do
      let number ← Decimal.readSigned number
      let current ← Decimal.readSigned current
      let frame ← Decimal.readSigned frame
      let command ← Decimal.readSigned command
      let params ← [p1, p2, p3, p4].mapM readNumber
      let lat ← readNumber lat
      let lon ← readNumber lon
      let alt ← readNumber alt
      let autoContinue ← Decimal.readSigned autoContinue
      some { number, frame, command, point := ⟨lat, lon, alt⟩, current, params, autoContinue }
  | _ => none

/-- Read the rows of a text whose lines are closed. -/
def readWpl (text : List Char) : Option (List WplItem) :=
  match text.splitOn '\n' with
  | header :: rows => if header = wplHeader then rows.dropLast.mapM readWplLine else none
  | [] => none

/-- Row 0 is the home position. -/
def missionOfWpl : List WplItem → Option Mission
  | home :: items => some ⟨home.point, items.map WplItem.toMissionItem⟩
  | [] => none

def readPlanItem (item : Value) : Option MissionItem := do
  let .dict d := item | none
  let .int number ← d.lookup "doJumpId" | none
  let .int frame ← d.lookup "frame" | none
  let .int command ← d.lookup "command" | none
  let .list [_, _, _, _, .float lat, .float lon, .float alt] ← d.lookup "params" | none
  some { number, frame, command, point := ⟨lat, lon, alt⟩ }

/-- Read a plan. -/
def readPlan (plan : Value) : Option Mission := do
  let .dict d := plan | none
  let .dict mission ← d.lookup "mission" | none
  let .list [.float lat, .float lon, .float alt] ← mission.lookup "plannedHomePosition" | none
  let .list items ← mission.lookup "items" | none
  let items ← items.mapM readPlanItem
  some ⟨⟨lat, lon, alt⟩, items⟩

/-! ## Reading back -/

/-- What the text keeps of a position. -/
def MissionPoint.rounded (p : MissionPoint) : MissionPoint :=
  ⟨p.lat.rounded 8, p.lon.rounded 8, p.alt.rounded 2⟩

def MissionItem.rounded (item : MissionItem) : MissionItem :=
  { item with point := item.point.rounded }

def Mission.rounded (m : Mission) : Mission := ⟨m.home.rounded, m.items.map MissionItem.rounded⟩

/-- A row with its number as it is read. -/
def wplItem (p : WplRow × ℕ) : WplItem where
  number := p.2
  frame := p.1.frame
  command := mavCmdNavWaypoint
  point := p.1.point.rounded
  current := p.1.current
  params := [.fin 0, .fin 0, .fin 0, .fin 0]
  autoContinue := 1

/-- No field of a row has a tab or a line break in it. -/
theorem not_mem_wplFields {c : Char} (hdigit : c.isDigit = false)
    (hspecial : c ∉ ['-', '.', 'n', 'a', 'i', 'f']) (p : WplRow × ℕ) :
    ∀ field ∈ wplFields p, c ∉ field := by
  have hsigned := Py.not_mem_signed hdigit (List.ne_of_not_mem_cons hspecial)
  have hfixed := Py.not_mem_fixedChars hdigit hspecial
  simp only [wplFields, List.forall_mem_cons]
  simp [hsigned, hfixed]

theorem splitOn_wplLine (p : WplRow × ℕ) : (wplLine p).splitOn '\t' = wplFields p :=
  List.splitOn_intercalate '\t' (not_mem_wplFields (by decide) (by decide) p) (List.cons_ne_nil _ _)

/-- What stands neither in the separator nor in a field stands nowhere. -/
theorem not_mem_intercalate {α : Type} {sep : List α} {fields : List (List α)} {c : α}
    (hsep : c ∉ sep) (h : ∀ field ∈ fields, c ∉ field) : c ∉ List.intercalate sep fields := by
  induction fields with
  | nil => exact List.not_mem_nil
  | cons field fields ih =>
      obtain ⟨hfield, hfields⟩ := List.forall_mem_cons.mp h
      cases fields with
      | nil => rwa [List.intercalate_singleton]
      | cons next fields =>
          rw [List.intercalate_cons_cons, List.append_assoc]
          exact List.not_mem_append hfield (List.not_mem_append hsep (ih hfields))

theorem newline_not_mem_wplLine (p : WplRow × ℕ) : '\n' ∉ wplLine p :=
  not_mem_intercalate (by decide) (not_mem_wplFields (by decide) (by decide) p)

/-- Reading back a row. -/
theorem readWplLine_wplLine (p : WplRow × ℕ) : readWplLine (wplLine p) = some (wplItem p) := by
  have hzero : readNumber (Decimal.signed 0) = some (.fin 0) := by rfl
  rw [readWplLine, splitOn_wplLine]
  simp [wplFields, Py.readNumber_fixedChars, hzero, wplItem, MissionPoint.rounded]

/-- Reading back the text: the rows are numbered from 0, the home position. -/
theorem readWpl_rows (waypoints : List FloatWaypoint) (home : Option MissionPoint) :
    readWpl (toArdupilotWaypoints waypoints home) =
      some ((wplRows waypoints home).zipIdx.map wplItem) := by
  have hread : readWplLine ∘ wplLine = fun p ↦ pure (wplItem p) := funext readWplLine_wplLine
  generalize hlines : wplHeader :: (wplRows waypoints home).zipIdx.map wplLine = lines
  have hsep : ∀ line ∈ lines, '\n' ∉ line := by
    rw [← hlines]
    intro line hline
    rcases List.mem_cons.mp hline with rfl | hline
    · decide
    · obtain ⟨p, -, rfl⟩ := List.mem_map.mp hline
      exact newline_not_mem_wplLine p
  have hclosed : toArdupilotWaypoints waypoints home = LineLog.closed '\n' id lines := by
    have hne : lines ≠ [] := by
      rw [← hlines]
      exact List.cons_ne_nil _ _
    rw [← LineLog.intercalate_append_singleton hne, List.map_id, ← hlines]
    rfl
  have hsplit : (LineLog.closed '\n' id lines).splitOn '\n' = lines.map id ++ [[]] :=
    LineLog.splitOn_closed hsep
  rw [List.map_id, ← hlines, List.cons_append] at hsplit
  rw [readWpl, hclosed, ← hlines, hsplit]
  dsimp only
  rw [if_pos rfl, List.dropLast_concat, List.mapM_map, hread, List.mapM_pure]
  rfl

/-- The item of a waypoint under a number. -/
def missionItem (number : ℤ) (wp : FloatWaypoint) : MissionItem where
  number := number
  frame := mavFrameGlobalRelativeAlt
  command := mavCmdNavWaypoint
  point := wp.point

/-- The mission of the text: the waypoints are numbered from 1. -/
theorem missionOfWpl_rows (waypoints : List FloatWaypoint) (home : Option MissionPoint) :
    (readWpl (toArdupilotWaypoints waypoints home)).bind missionOfWpl =
      some (Mission.rounded ⟨homeOf waypoints home,
        (waypoints.zipIdx 1).map fun p ↦ missionItem p.2 p.1⟩) := by
  rw [readWpl_rows, Option.bind_some, wplRows, List.zipIdx_cons, List.map_cons, missionOfWpl,
    List.zipIdx_map, List.map_map, List.map_map, Mission.rounded, List.map_map]
  rfl

/-- A position that is read from the text. -/
structure MissionPoint.Near (p p' : MissionPoint) : Prop where
  lat : PyFloat.Near 8 p.lat p'.lat
  lon : PyFloat.Near 8 p.lon p'.lon
  alt : PyFloat.Near 2 p.alt p'.alt

theorem MissionPoint.near_rounded (p : MissionPoint) : p.Near p.rounded where
  lat := PyFloat.near_rounded 8 p.lat
  lon := PyFloat.near_rounded 8 p.lon
  alt := PyFloat.near_rounded 2 p.alt

/-- A waypoint with its number and the item that is read from the text. -/
structure Loads (p : FloatWaypoint × ℕ) (item : MissionItem) : Prop where
  number : item.number = p.2
  frame : item.frame = mavFrameGlobalRelativeAlt
  command : item.command = mavCmdNavWaypoint
  point : p.1.point.Near item.point

/-- A ground station reads the home position and all waypoints from the text, in order and under
the numbers from 1, each within half of the last decimal place. -/
theorem loads_wpl (waypoints : List FloatWaypoint) (home : Option MissionPoint) :
    ∃ m, (readWpl (toArdupilotWaypoints waypoints home)).bind missionOfWpl = some m ∧
      (homeOf waypoints home).Near m.home ∧ List.Forall₂ Loads (waypoints.zipIdx 1) m.items := by
  refine ⟨_, missionOfWpl_rows waypoints home, MissionPoint.near_rounded _, ?_⟩
  rw [Mission.rounded, List.map_map, List.forall₂_map_right_iff, List.forall₂_same]
  intro p _
  exact ⟨rfl, rfl, rfl, p.1.point.near_rounded⟩

theorem readPlanItem_planItem (wp : FloatWaypoint) :
    readPlanItem (planItem wp) = some (missionItem (wp.seq + 1) wp) := rfl

/-- The mission of the plan: the waypoints have their own numbers. -/
theorem readPlan_toQgcPlan (waypoints : List FloatWaypoint) (home : Option MissionPoint)
    (cruiseSpeedMs hoverSpeedMs : PyFloat) :
    readPlan (toQgcPlan waypoints home cruiseSpeedMs hoverSpeedMs) =
      some ⟨homeOf waypoints home, waypoints.map fun wp ↦ missionItem (wp.seq + 1) wp⟩ := by
  have hread : readPlanItem ∘ planItem = fun wp ↦ pure (missionItem (wp.seq + 1) wp) :=
    funext readPlanItem_planItem
  have hitems : (waypoints.map planItem).mapM readPlanItem =
      some (waypoints.map fun wp ↦ missionItem (wp.seq + 1) wp) := by
    rw [List.mapM_map, hread, List.mapM_pure]
    rfl
  have hplan : readPlan (toQgcPlan waypoints home cruiseSpeedMs hoverSpeedMs) =
      ((waypoints.map planItem).mapM readPlanItem).bind fun items ↦
        some ⟨homeOf waypoints home, items⟩ := rfl
  rw [hplan, hitems, Option.bind_some]

/-! ## The two files -/

/-- The waypoints have the numbers that a plan of a survey gives them. -/
def Numbered (waypoints : List FloatWaypoint) : Prop :=
  ∀ p ∈ waypoints.zipIdx, p.1.seq = p.2

/-- The two files of a survey are one mission, up to the rounding of the text, if and only if
the waypoints are numbered from 0 on. -/
theorem wpl_eq_plan_iff (waypoints : List FloatWaypoint) (home : Option MissionPoint)
    (cruiseSpeedMs hoverSpeedMs : PyFloat) :
    (readWpl (toArdupilotWaypoints waypoints home)).bind missionOfWpl =
        (readPlan (toQgcPlan waypoints home cruiseSpeedMs hoverSpeedMs)).map Mission.rounded ↔
      Numbered waypoints := by
  have hzip : waypoints.map (fun wp ↦ missionItem (wp.seq + 1) wp) =
      waypoints.zipIdx.map fun p ↦ missionItem (p.1.seq + 1) p.1 := by
    conv_lhs => rw [← List.zipIdx_map_fst 0 waypoints, List.map_map]
    rfl
  rw [missionOfWpl_rows, readPlan_toQgcPlan, hzip, List.zipIdx_succ, List.map_map, Option.map_some,
    Option.some_inj, Mission.rounded, Mission.rounded, Mission.mk.injEq, List.map_map,
    List.map_map, List.map_inj_left]
  constructor
  · rintro ⟨-, h⟩ p hp
    have hnumber := congrArg MissionItem.number (h p hp)
    have hsucc : ((p.2 + 1 : ℕ) : ℤ) = p.1.seq + 1 := hnumber
    push_cast at hsucc
    exact (add_right_cancel hsucc).symm
  · intro h
    refine ⟨rfl, fun p hp ↦ ?_⟩
    show (missionItem ((p.2 + 1 : ℕ) : ℤ) p.1).rounded = (missionItem (p.1.seq + 1) p.1).rounded
    rw [h p hp, Nat.cast_succ]

end DroneComms.Scout
