import Transit.Loader.Param
import Transit.Warehouse.Matching
set_option autoImplicit false

/-!
Rows looked up for a batch of keys: one row for each id, or a list of rows for each parent.
-/

namespace Transit.Warehouse

/-- A row list for each parent: the rows that belong to it and that its filter admits. -/
def children {κ ω τ : Type} [Json.Encoded ω] (rows : List τ) (belongs : κ → τ → Bool)
    (keep : ω → τ → Bool) (params : List (Param κ ω)) : List (Except LookupError (List τ)) :=
  Param.groupQuery (fun keys filter _ =>
    .ok (keys.map fun k => rows.filter fun r => belongs k r && filter.all (keep · r))) params

/-- Parents whose rows no filter restricts. -/
def anyRow {τ : Type} (_ : Unit) (_ : τ) : Bool := true

/-- The active target of a stop's first active reference to another feed. -/
def targetStop? (w : Warehouse) (stopId : Int) : Option Stop := do
  let r ← w.stopExternalReferences.find? fun r => r.stopId == stopId && !r.inactive
  let feed ← w.feedByOnestopId? r.targetFeedOnestopId
  let version ← w.activeVersion? feed.id
  w.stops.find? fun s => s.feedVersionId == version && s.stopId == r.targetStopId

/-- The latest first. -/
def newestFirst {τ : Type} (time : τ → Instant) (rows : List τ) : List τ :=
  rows.mergeSort fun a b => !(time a < time b : Bool)

def agenciesByFeedVersion (w : Warehouse) := children w.agencies
  (fun (k : Int) a => a.feedVersionId == k) w.agencyMatches

def agenciesByOnestopId (w : Warehouse) := children w.agencies
  (fun (k : String) a => a.onestopId == k) w.agencyMatches

def agencyPlacesByAgency (w : Warehouse) := children w.agencyPlaces
  (fun (k : Int) p => p.agencyId == k)
  fun (f : AgencyPlaceFilter) p => f.minRank.all (· ≤ p.rank)

def calendarDatesByService (w : Warehouse) := children w.calendarDates
  (fun (k : Int) d => d.serviceId == k)
  fun (f : CalendarDateFilter) d =>
    Match.equals f.date d.date && Match.equals f.exceptionType d.exceptionType

def censusGeographiesByEntity (w : Warehouse)
    (params : List (Param (CensusEntityKind × Int) CensusGeographyFilter)) :
    List (Except LookupError (List CensusGeography)) :=
  Param.groupQuery (fun keys filter _ =>
    .ok (keys.map fun (kind, id) =>
      w.censusGeographies.filter (censusGeographyMatches filter (w.censusPoints kind id)))) params

/-- The key is an area's id and the names of tables with commas between them. -/
def censusValuesByGeography (w : Warehouse) := children w.censusValues
  (fun ((geoid, tables) : String × String) v =>
    v.geoid == geoid && w.censusTables.any fun t =>
      t.id == v.tableId && (Text.split ',' tables).any fun n => Text.trim n == t.tableName) anyRow

def censusFieldsByTable (w : Warehouse) := children w.censusFields
  (fun (k : Int) f => f.tableId == k) anyRow

def censusSourcesByDataset (w : Warehouse) := children w.censusSources
  (fun (k : Int) s => s.datasetId == k)
  fun (f : CensusSourceFilter) s => Match.equals f.name s.name

def feedFetchesByFeed (w : Warehouse) := children (newestFirst (·.fetchedAt) w.feedFetches)
  (fun (k : Int) f => f.feedId == k)
  fun (f : FeedFetchFilter) row => Match.equals f.success row.success

def feedInfosByFeedVersion (w : Warehouse) := children w.feedInfos
  (fun (k : Int) i => i.feedVersionId == k) anyRow

def feedVersionsByFeed (w : Warehouse) := children (newestFirst (·.fetchedAt) w.feedVersions)
  (fun (k : Int) v => v.feedId == k) w.feedVersionMatches

def feedsByOperator (w : Warehouse) := children w.feeds
  (fun (k : String) feed => w.operators.any fun o => o.onestopId == k && o.feedId == some feed.id)
  w.feedMatches

def serviceLevelsByFeedVersion (w : Warehouse) := children
  (w.serviceLevels.mergeSort fun a b => a.startDate ≤ b.startDate)
  (fun (k : Int) l => l.feedVersionId == k)
  fun (f : ServiceLevelFilter) l => f.startDate.all (· ≤ l.endDate) && f.endDate.all (l.startDate ≤ ·)

def frequenciesByTrip (w : Warehouse) := children w.frequencies
  (fun (k : Int) f => f.tripId == k) anyRow

def levelsByParent (w : Warehouse) := children w.levels
  (fun (k : Int) l => l.parentStation == some k) anyRow

def operatorsByFeed (w : Warehouse) := children w.operators
  (fun (k : Int) o => o.feedId == some k) w.operatorMatches

def pathwayMatches (f : PathwayFilter) (p : Pathway) : Bool :=
  Match.equals f.pathwayMode p.pathwayMode

def pathwaysByFromStop (w : Warehouse) := children w.pathways
  (fun (k : Int) p => p.fromStopId == k) pathwayMatches

def pathwaysByToStop (w : Warehouse) := children w.pathways
  (fun (k : Int) p => p.toStopId == k) pathwayMatches

def routeGeometriesByRoute (w : Warehouse) := children w.routeGeometries
  (fun (k : Int) g => g.routeId == k) anyRow

def routeHeadwaysByRoute (w : Warehouse) := children w.routeHeadways
  (fun (k : Int) h => h.routeId == k) anyRow

def routeStopPatternsByRoute (w : Warehouse) := children w.routeStopPatterns
  (fun (k : Int) p => p.routeId == k) anyRow

def routeStopsByRoute (w : Warehouse) := children w.routeStops
  (fun (k : Int) r => r.routeId == k) anyRow

def routeStopsByStop (w : Warehouse) := children w.routeStops
  (fun (k : Int) r => r.stopId == k) anyRow

def routesByAgency (w : Warehouse) := children w.routes
  (fun (k : Int) r => r.agencyId == k) w.routeMatches

def routesByFeedVersion (w : Warehouse) := children w.routes
  (fun (k : Int) r => r.feedVersionId == k) w.routeMatches

def stopsByFeedVersion (w : Warehouse) := children w.stops
  (fun (k : Int) s => s.feedVersionId == k) w.stopMatches

def stopsByLevel (w : Warehouse) := children w.stops
  (fun (k : Int) s => s.levelId == some k) w.stopMatches

def stopsByParent (w : Warehouse) := children w.stops
  (fun (k : Int) s => s.parentStation == some k) w.stopMatches

def stopsByRoute (w : Warehouse) := children w.stops
  (fun (k : Int) s => w.routeStops.any fun r => r.routeId == k && r.stopId == s.id) w.stopMatches

/-- By time, rows without one first, and then by trip. -/
def timeLe (a b : StopTime) : Bool :=
  match a.seconds?, b.seconds? with
  | none, some _ => true
  | some _, none => false
  | none, none => a.tripId ≤ b.tripId
  | some s, some t => s < t || (s == t && a.tripId ≤ b.tripId)

/-- The keys are a feed version and a stop. -/
def stopTimesByStop (w : Warehouse) := children (w.stopTimes.mergeSort timeLe)
  (fun ((version, stop) : Int × Int) r => r.feedVersionId == version && r.stopId == stop)
  w.stopTimeMatches

/-- By trip and then by stop sequence. -/
def sequenceLe (a b : StopTime) : Bool :=
  a.tripId < b.tripId || (a.tripId == b.tripId && a.stopSequence ≤ b.stopSequence)

/-- The keys are a feed version and a trip. -/
def stopTimesByTrip (w : Warehouse) := children (w.stopTimes.mergeSort sequenceLe)
  (fun ((version, trip) : Int × Int) r => r.feedVersionId == version && r.tripId == trip)
  tripStopTimeMatches

def tripsByFeedVersion (w : Warehouse) := children w.trips
  (fun (k : Int) t => t.feedVersionId == k) w.tripMatches

def tripsByRoute (w : Warehouse) := children w.trips
  (fun (k : Int) t => t.routeId == k) w.tripMatches

end Transit.Warehouse
