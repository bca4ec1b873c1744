import Transit.Warehouse.Basic
import Transit.Record.Filter
import Transit.Geo.Orientation
import Transit.Text.Blank
import Transit.Text.Search
set_option autoImplicit false

/-!
Which rows a filter admits. A part of a filter that is absent, or an empty list in it, admits every
row.
-/

namespace Transit

namespace Match

/-- The value is the wanted one. -/
def equals {α : Type} [DecidableEq α] (want : Option α) (have' : α) : Bool :=
  want.all (· == have')

/-- The value is there and is the wanted one. -/
def present {α : Type} [DecidableEq α] (want have' : Option α) : Bool :=
  want.all (have' == some ·)

def oneOf {α : Type} [DecidableEq α] (want : List α) (have' : α) : Bool :=
  want.isEmpty || want.contains have'

/-- One of the texts holds the search text, letter case and white space around it disregarded. -/
def search (want : Option String) (texts : List String) : Bool :=
  match want.map Text.trim with
  | none => true
  | some needle => needle == "" || texts.any fun t => Text.containsFolded t needle

/-- Some point is near enough, and some point is in the box. -/
def area (near : Option PointRadius) (bbox : Option BoundingBox) (points : List Point) : Bool :=
  near.all (fun n => points.any n.contains) && bbox.all (fun b => points.any b.contains)

/-- Every wanted tag is there. -/
def tags (want have' : List (String × String)) : Bool :=
  want.all fun (k, v) => have'.lookup k == some v

end Match

namespace Warehouse

/-- The calendar of a service runs on a date: by the first exception for the date, else by its
range and weekdays. -/
def runsOn (w : Warehouse) (serviceId : Int) (d : Date) : Bool :=
  match w.calendarDates.find? fun c => c.serviceId == serviceId && c.date == d with
  | some c => c.exceptionType == 1
  | none =>
    match w.calendars.find? (·.id == serviceId) with
    | none => false
    | some c =>
      c.startDate ≤ d && d ≤ c.endDate
        && [c.monday, c.tuesday, c.wednesday, c.thursday, c.friday, c.saturday, c.sunday].getD
          d.weekday false

/-- The place of a filter on agencies or operators. -/
structure PlaceWanted where
  adm0Iso : Option String
  adm1Iso : Option String
  adm0Name : Option String
  adm1Name : Option String
  cityName : Option String
  deriving DecidableEq, Repr

namespace PlaceWanted

def isAny (p : PlaceWanted) : Bool :=
  p.adm0Iso.isNone && p.adm1Iso.isNone && p.adm0Name.isNone && p.adm1Name.isNone
    && p.cityName.isNone

def holds (p : PlaceWanted) (row : AgencyPlace) : Bool :=
  Match.present p.adm0Iso row.adm0Iso && Match.present p.adm1Iso row.adm1Iso
    && Match.present p.adm0Name row.adm0Name && Match.present p.adm1Name row.adm1Name
    && Match.present p.cityName row.cityName

end PlaceWanted

/-- One of the places that the agency serves has all the wanted parts. -/
def servesPlace (w : Warehouse) (agencyId : Int) (p : PlaceWanted) : Bool :=
  p.isAny || w.agencyPlaces.any fun row => row.agencyId == agencyId && p.holds row

def agencyMatches (w : Warehouse) (f : AgencyFilter) (a : Agency) : Bool :=
  Match.equals f.onestopId a.onestopId
    && Match.equals f.feedVersionSha1 a.feedVersionSha1
    && Match.equals f.feedOnestopId a.feedOnestopId
    && Match.equals f.agencyId a.agencyId
    && Match.equals f.agencyName a.agencyName
    && Match.search f.search [a.agencyName, a.agencyId]
    && Match.area f.near f.bbox (w.agencyPoints a.id)
    && w.servesPlace a.id ⟨f.adm0Iso, f.adm1Iso, f.adm0Name, f.adm1Name, f.cityName⟩

def routeMatches (w : Warehouse) (f : RouteFilter) (r : Route) : Bool :=
  Match.equals f.onestopId r.onestopId
    && Match.oneOf f.onestopIds r.onestopId
    && Match.equals f.feedVersionSha1 r.feedVersionSha1
    && Match.equals f.feedOnestopId r.feedOnestopId
    && Match.equals f.routeId r.routeId
    && Match.equals f.routeType r.routeType
    && Match.search f.search [r.routeShortName, r.routeLongName, r.routeId]
    && Match.oneOf f.agencyIds r.agencyId
    && Match.area f.near f.bbox (w.routePoints r.id)

def stopMatches (w : Warehouse) (f : StopFilter) (s : Stop) : Bool :=
  Match.equals f.onestopId s.onestopId
    && Match.oneOf f.onestopIds s.onestopId
    && Match.equals f.feedVersionSha1 s.feedVersionSha1
    && Match.equals f.feedOnestopId s.feedOnestopId
    && Match.equals f.stopId s.stopId
    && Match.present f.stopCode s.stopCode
    && Match.equals f.locationType s.locationType
    && Match.search f.search [s.stopName, s.stopId]
    && Match.area f.near f.bbox [s.geometry]
    && (f.agencyIds.isEmpty
      || w.routeStops.any fun r => r.stopId == s.id && f.agencyIds.contains r.agencyId)

def tripMatches (w : Warehouse) (f : TripFilter) (t : Trip) : Bool :=
  Match.equals f.tripId t.tripId
    && Match.equals f.stopPatternId t.stopPatternId
    && Match.oneOf f.routeIds t.routeId
    && f.serviceDate.all (w.runsOn t.serviceId)
    && (f.routeOnestopIds.isEmpty
      || (w.route? t.routeId).any fun r => f.routeOnestopIds.contains r.onestopId)
    && Match.present f.feedVersionSha1 ((w.feedVersion? t.feedVersionId).map (·.sha1))
    && Match.present f.feedOnestopId ((w.feedOfVersion? t.feedVersionId).map (·.onestopId))

/-- The last fetch of a feed, by time and then by place in the table. -/
def latestFetch? (w : Warehouse) (feedId : Int) : Option FeedFetch :=
  (w.feedFetches.filter (·.feedId == feedId)).foldl (fun best f =>
    match best with
    | none => some f
    | some b => if f.fetchedAt < b.fetchedAt then some b else some f) none

def feedMatches (w : Warehouse) (f : FeedFilter) (feed : Feed) : Bool :=
  let urls := feed.urls.staticCurrent.toList ++ feed.urls.staticHistoric
    ++ feed.urls.realtimeTripUpdates.toList ++ feed.urls.realtimeAlerts.toList
    ++ feed.urls.realtimeVehiclePositions.toList ++ feed.urls.gbfsAutoDiscovery.toList
  Match.equals f.onestopId feed.onestopId
    && Match.oneOf f.spec feed.spec
    && Match.search f.search [feed.onestopId, feed.name.getD ""]
    && f.fetchError.all (fun want => (w.latestFetch? feed.id).any (·.fetchError.isSome == want))
    && Match.tags f.tags feed.tags
    && f.sourceUrl.all urls.contains

def feedVersionMatches (w : Warehouse) (f : FeedVersionFilter) (v : FeedVersion) : Bool :=
  Match.equals f.sha1 v.sha1
    && Match.present f.feedOnestopId ((w.feed? v.feedId).map (·.onestopId))
    && Match.oneOf f.feedIds v.feedId
    && Match.present f.file v.file
    && f.covers.all fun d =>
      v.earliestCalendarDate.any (· ≤ d) && v.latestCalendarDate.any (d ≤ ·)

def operatorMatches (w : Warehouse) (f : OperatorFilter) (o : Operator) : Bool :=
  let feed := o.feedId.bind w.feed?
  let agency := o.agencyId.bind w.agency?
  let place : PlaceWanted := ⟨f.adm0Iso, f.adm1Iso, f.adm0Name, f.adm1Name, f.cityName⟩
  Match.equals f.onestopId o.onestopId
    && Match.present f.feedOnestopId (feed.map (·.onestopId))
    && Match.present f.agencyId (agency.map (·.agencyId))
    && Match.search f.search [o.onestopId, o.name.getD "", o.shortName.getD ""]
    && Match.tags f.tags o.tags
    && (place.isAny || agency.any fun a => w.servesPlace a.id place)

/-- The points that stand for an entity when census areas are looked up. -/
def censusPoints (w : Warehouse) (kind : CensusEntityKind) (id : Int) : List Point :=
  match kind with
  | .stop => ((w.stop? id).map (·.geometry)).toList
  | .route => w.routePoints id
  | .agency => w.agencyPoints id

/-- An area around one of the points, or with a corner within the radius of one. -/
def censusGeographyMatches (f : Option CensusGeographyFilter) (points : List Point)
    (g : CensusGeography) : Bool :=
  let radius := (f.bind (·.radius)).getD 0.0
  g.geometry.any fun areas =>
    f.all (fun f => Match.equals f.layer g.layerName
      && Match.search f.search [g.name.getD "", g.geoid])
    && points.any fun p => Geo.multiPolygonContains areas p
      || (0.0 < radius
        && areas.any fun area => area.exterior.any fun corner => Geo.distance corner p ≤ radius)

end Warehouse

namespace StopTime

/-- The seconds of the departure, else of the arrival. -/
def seconds? (r : StopTime) : Option Int :=
  (r.departureTime.or r.arrivalTime).map fun t => (t.seconds : Int)

end StopTime

namespace Warehouse

/-- The first and the last stop sequence of a trip. -/
def sequenceRange (w : Warehouse) (tripId : Int) : Int × Int :=
  ((w.stopTimes.filter (·.tripId == tripId)).map (·.stopSequence)).foldl
    (fun (lo, hi) n => (min lo n, max hi n)) (Number.Range.int32.hi, Number.Range.int32.lo)

/-- The time of a row is in the window, whose end does not belong to it. A row without a time is in
no window. -/
def inWindow (f : StopTimeFilter) (r : StopTime) : Bool :=
  let start := f.startTime.or (f.start.map fun t => (t.seconds : Int))
  let stop := f.endTime.or (f.stop.map fun t => (t.seconds : Int))
  (start.isNone && stop.isNone)
    || r.seconds?.any fun t => start.all (· ≤ t) && stop.all (t < ·)

/-- The filter says something about the trip of a row. -/
def asksForTrip (f : StopTimeFilter) : Bool :=
  f.serviceDate.isSome || !f.routeOnestopIds.isEmpty || f.excludeFirst == some true
    || f.excludeLast == some true

def stopTimeMatches (w : Warehouse) (f : StopTimeFilter) (r : StopTime) : Bool :=
  inWindow f r
    && (!asksForTrip f
      || (w.trip? r.tripId).any fun trip =>
        f.serviceDate.all (w.runsOn trip.serviceId)
          && (f.routeOnestopIds.isEmpty
            || (w.route? trip.routeId).any fun route => f.routeOnestopIds.contains route.onestopId)
          && !(f.excludeFirst == some true && r.stopSequence == (w.sequenceRange r.tripId).1)
          && !(f.excludeLast == some true && r.stopSequence == (w.sequenceRange r.tripId).2))

/-- Both ends of the window belong to it here; rows without a time are in the unbounded window
only. -/
def tripStopTimeMatches (f : TripStopTimeFilter) (r : StopTime) : Bool :=
  match r.seconds? with
  | none => f.start.isNone && f.stop.isNone
  | some t => f.start.all (fun s => (s.seconds : Int) ≤ t) && f.stop.all fun s => t ≤ s.seconds

end Warehouse

end Transit
