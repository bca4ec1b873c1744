import Transit.Record.Scalar
set_option autoImplicit false

/-!
Census datasets: geographies, tables and their values.
-/

namespace Transit

structure CensusDataset where
  id : Int := 0
  name : String := ""
  description : Option String := none
  url : Option String := none
  deriving DecidableEq, Repr, Inhabited

def CensusDataset.ofJson? (j : Json) : Option CensusDataset := do
  let f ← j.fields?
  some {
    id := ← f.withDefault Json.readInt64 "id" 0
    name := ← f.withDefault Json.readText "name" ""
    description := ← f.optional Json.readText "description"
    url := ← f.optional Json.readText "url" }

def CensusDataset.toJson (c : CensusDataset) : Json := .obj [
  ("id", .int c.id),
  ("name", .str c.name),
  ("description", .ofOption .str c.description),
  ("url", .ofOption .str c.url)]

/-- A file of a dataset. -/
structure CensusSource where
  id : Int := 0
  datasetId : Int := 0
  name : String := ""
  url : Option String := none
  sha1 : Option String := none
  deriving DecidableEq, Repr, Inhabited

def CensusSource.ofJson? (j : Json) : Option CensusSource := do
  let f ← j.fields?
  some {
    id := ← f.withDefault Json.readInt64 "id" 0
    datasetId := ← f.withDefault Json.readInt64 "dataset_id" 0
    name := ← f.withDefault Json.readText "name" ""
    url := ← f.optional Json.readText "url"
    sha1 := ← f.optional Json.readText "sha1" }

def CensusSource.toJson (c : CensusSource) : Json := .obj [
  ("id", .int c.id),
  ("dataset_id", .int c.datasetId),
  ("name", .str c.name),
  ("url", .ofOption .str c.url),
  ("sha1", .ofOption .str c.sha1)]

/-- An area for which a dataset has values. -/
structure CensusGeography where
  id : Int := 0
  datasetId : Int := 0
  sourceId : Int := 0
  layerName : String := ""
  geoid : String := ""
  name : Option String := none
  aland : Option Float := none
  awater : Option Float := none
  adm0Iso : Option String := none
  adm1Iso : Option String := none
  geometry : Option (List Polygon) := none
  deriving DecidableEq, Repr, Inhabited

def CensusGeography.ofJson? (j : Json) : Option CensusGeography := do
  let f ← j.fields?
  some {
    id := ← f.withDefault Json.readInt64 "id" 0
    datasetId := ← f.withDefault Json.readInt64 "dataset_id" 0
    sourceId := ← f.withDefault Json.readInt64 "source_id" 0
    layerName := ← f.withDefault Json.readText "layer_name" ""
    geoid := ← f.withDefault Json.readText "geoid" ""
    name := ← f.optional Json.readText "name"
    aland := ← f.optional Json.readFloat "aland"
    awater := ← f.optional Json.readFloat "awater"
    adm0Iso := ← f.optional Json.readText "adm0_iso"
    adm1Iso := ← f.optional Json.readText "adm1_iso"
    geometry := ← f.optional (Json.readList Polygon.ofJson?) "geometry" }

def CensusGeography.toJson (c : CensusGeography) : Json := .obj [
  ("id", .int c.id),
  ("dataset_id", .int c.datasetId),
  ("source_id", .int c.sourceId),
  ("layer_name", .str c.layerName),
  ("geoid", .str c.geoid),
  ("name", .ofOption .str c.name),
  ("aland", .ofOption .float c.aland),
  ("awater", .ofOption .float c.awater),
  ("adm0_iso", .ofOption .str c.adm0Iso),
  ("adm1_iso", .ofOption .str c.adm1Iso),
  ("geometry", .ofOption (Json.ofList Polygon.toJson) c.geometry)]

structure CensusTable where
  id : Int := 0
  datasetId : Int := 0
  tableName : String := ""
  tableTitle : String := ""
  tableGroup : Option String := none
  deriving DecidableEq, Repr, Inhabited

def CensusTable.ofJson? (j : Json) : Option CensusTable := do
  let f ← j.fields?
  some {
    id := ← f.withDefault Json.readInt64 "id" 0
    datasetId := ← f.withDefault Json.readInt64 "dataset_id" 0
    tableName := ← f.withDefault Json.readText "table_name" ""
    tableTitle := ← f.withDefault Json.readText "table_title" ""
    tableGroup := ← f.optional Json.readText "table_group" }

def CensusTable.toJson (c : CensusTable) : Json := .obj [
  ("id", .int c.id),
  ("dataset_id", .int c.datasetId),
  ("table_name", .str c.tableName),
  ("table_title", .str c.tableTitle),
  ("table_group", .ofOption .str c.tableGroup)]

/-- A column of a table. -/
structure CensusField where
  id : Int := 0
  tableId : Int := 0
  fieldName : String := ""
  fieldTitle : String := ""
  columnOrder : Float := 0
  deriving DecidableEq, Repr, Inhabited

def CensusField.ofJson? (j : Json) : Option CensusField := do
  let f ← j.fields?
  some {
    id := ← f.withDefault Json.readInt64 "id" 0
    tableId := ← f.withDefault Json.readInt64 "table_id" 0
    fieldName := ← f.withDefault Json.readText "field_name" ""
    fieldTitle := ← f.withDefault Json.readText "field_title" ""
    columnOrder := ← f.withDefault Json.readFloat "column_order" 0 }

def CensusField.toJson (c : CensusField) : Json := .obj [
  ("id", .int c.id),
  ("table_id", .int c.tableId),
  ("field_name", .str c.fieldName),
  ("field_title", .str c.fieldTitle),
  ("column_order", .float c.columnOrder)]

/-- The values of one table for one geography, by field name. -/
structure CensusValue where
  geoid : String := ""
  tableId : Int := 0
  values : List (String × Float) := []
  deriving DecidableEq, Repr, Inhabited

def CensusValue.ofJson? (j : Json) : Option CensusValue := do
  let f ← j.fields?
  some {
    geoid := ← f.withDefault Json.readText "geoid" ""
    tableId := ← f.withDefault Json.readInt64 "table_id" 0
    values := ← f.withDefault (Json.readMap Json.readFloat) "values" [] }

def CensusValue.toJson (c : CensusValue) : Json := .obj [
  ("geoid", .str c.geoid),
  ("table_id", .int c.tableId),
  ("values", .ofMap .float c.values)]

/-- What kind of row a geography is looked up for. -/
inductive CensusEntityKind
  | stop
  | route
  | agency
  deriving DecidableEq, Repr, Inhabited

namespace CensusEntityKind

def name : CensusEntityKind → String
  | .stop => "stop"
  | .route => "route"
  | .agency => "agency"

def all : List CensusEntityKind := [.stop, .route, .agency]

def ofJson? (j : Json) : Option CensusEntityKind := do
  let name ← Json.readText j
  all.find? (·.name == name)

def toJson (k : CensusEntityKind) : Json := .str k.name

end CensusEntityKind

end Transit
