import DroneComms.Lib.Csv
import DroneComms.Py.Interpreter
import DroneComms.Scout.Table

/-!
# The exports of the stores

`to_csv` and `to_geojson` of `scout/store.py`.  The table is read back into the detections it
was made from, through the validators, but has no way to tell a detection without a block from
one in a block without a name.
-/

namespace DroneComms.Scout

open Py (PyFloat Value Interpreter)

/-- `_FIELDS`. -/
def exportFields : List String :=
  ["id", "lat", "lon", "cls", "conf", "error_m", "src_frame", "ts", "status", "block_id"]

/-- The row of a detection with all of its columns. -/
def fullRow (d : GeoDetection) (blockId : Option String) : Row where
  id := some d.id
  lat := some d.lat
  lon := some d.lon
  cls := some d.cls
  conf := some d.conf
  errorM := some d.errorM
  srcFrame := some d.srcFrame
  ts := some d.ts
  status := some d.status.text
  blockId := blockId

/-- The fields of a detection pass its validators. -/
theorem toDetection_fullRow (d : GeoDetection) (blockId : Option String) :
    (fullRow d blockId).toDetection = .ok { d with blockId } := by
  have hstatus : (some d.status.text).bind DetectionStatus.ofText = some d.status := by
    cases d.status <;> rfl
  have hvalid : LatValid d.lat ∧ LonValid d.lon ∧ ConfValid d.conf ∧ ErrorValid d.errorM :=
    ⟨d.lat_valid, d.lon_valid, d.conf_valid, d.error_valid⟩
  simp only [Row.toDetection, fullRow, hstatus, Row.required]
  exact dif_pos hvalid

/-! ## The table -/

variable (py : Interpreter)

def csvRow (d : GeoDetection) : List String :=
  [d.id, py.str d.lat, py.str d.lon, d.cls, py.str d.conf, py.str d.errorM, d.srcFrame,
    py.str d.ts, d.status.text, d.blockId.getD ""]

def toCsv (ds : List GeoDetection) : List Char :=
  Csv.write ((exportFields :: ds.map (csvRow py)).map (List.map String.toList))

/-- A detection of a row of the table. -/
def readCsvRow : List String → Option GeoDetection
  | [id, lat, lon, cls, conf, errorM, srcFrame, ts, status, blockId] =>
      Except.toOption <| Row.toDetection {
        id := some id, lat := py.ofStr lat, lon := py.ofStr lon, cls := some cls,
        conf := py.ofStr conf, errorM := py.ofStr errorM, srcFrame := some srcFrame,
        ts := py.ofStr ts, status := some status, blockId := some blockId }
  | _ => none

/-- The detections of a table with the header of the export. -/
def readCsv (text : List Char) : Option (List GeoDetection) :=
  match (Csv.read text).map (List.map String.ofList) with
  | header :: rows => if header = exportFields then rows.mapM (readCsvRow py) else none
  | [] => none

theorem readCsvRow_csvRow (d : GeoDetection) :
    readCsvRow py (csvRow py d) = some { d with blockId := some (d.blockId.getD "") } := by
  have hrow := toDetection_fullRow d (some (d.blockId.getD ""))
  simp only [readCsvRow, csvRow, py.ofStr_str]
  exact Py.toOption_eq_some.mpr hrow

/-- The table is read back, with an empty name for the block of a detection that has none. -/
theorem readCsv_toCsv (ds : List GeoDetection) : readCsv py (toCsv py ds) =
    some (ds.map fun d ↦ { d with blockId := some (d.blockId.getD "") }) := by
  have hread : readCsvRow py ∘ csvRow py =
      fun d ↦ pure { d with blockId := some (d.blockId.getD "") } :=
    funext (readCsvRow_csvRow py)
  have htexts (rows : List (List String)) :
      (rows.map (List.map String.toList)).map (List.map String.ofList) = rows := by
    rw [List.map_map]
    simp [Function.comp_def]
  rw [readCsv, toCsv, Csv.read_write, htexts]
  dsimp only
  rw [if_pos rfl, List.mapM_map, hread, List.mapM_pure]
  rfl

/-! ## The features -/

def feature (d : GeoDetection) : Value :=
  .dict [("type", .str "Feature"),
    ("geometry", .dict [("type", .str "Point"), ("coordinates", .list [.float d.lon, .float d.lat])]),
    ("properties", .dict [("id", .str d.id), ("cls", .str d.cls), ("conf", .float d.conf),
      ("error_m", .float d.errorM), ("src_frame", .str d.srcFrame), ("ts", .float d.ts),
      ("status", .str d.status.text), ("block_id", d.blockId.elim .none .str)])]

def toGeojson (ds : List GeoDetection) : Value :=
  .dict [("type", .str "FeatureCollection"), ("features", .list (ds.map feature))]

end DroneComms.Scout
