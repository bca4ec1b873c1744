import Transit.Record.Scalar
set_option autoImplicit false

/-!
Agencies, the places they serve, and the operators that group agencies across feeds.
-/

namespace Transit

/-- A transit agency of one feed version. -/
structure Agency where
  id : Int := 0
  feedVersionId : Int := 0
  feedVersionSha1 : String := ""
  feedOnestopId : String := ""
  onestopId : String := ""
  agencyId : String := ""
  agencyName : String := ""
  agencyUrl : String := ""
  agencyTimezone : String := ""
  agencyLang : Option String := none
  agencyPhone : Option String := none
  agencyFareUrl : Option String := none
  agencyEmail : Option String := none
  geometry : Option Polygon := none
  deriving DecidableEq, Repr, Inhabited

def Agency.ofJson? (j : Json) : Option Agency := do
  let f ← j.fields?
  some {
    id := ← f.withDefault Json.readInt64 "id" 0
    feedVersionId := ← f.withDefault Json.readInt64 "feed_version_id" 0
    feedVersionSha1 := ← f.withDefault Json.readText "feed_version_sha1" ""
    feedOnestopId := ← f.withDefault Json.readText "feed_onestop_id" ""
    onestopId := ← f.withDefault Json.readText "onestop_id" ""
    agencyId := ← f.withDefault Json.readText "agency_id" ""
    agencyName := ← f.withDefault Json.readText "agency_name" ""
    agencyUrl := ← f.withDefault Json.readText "agency_url" ""
    agencyTimezone := ← f.withDefault Json.readText "agency_timezone" ""
    agencyLang := ← f.optional Json.readText "agency_lang"
    agencyPhone := ← f.optional Json.readText "agency_phone"
    agencyFareUrl := ← f.optional Json.readText "agency_fare_url"
    agencyEmail := ← f.optional Json.readText "agency_email"
    geometry := ← f.optional Polygon.ofJson? "geometry" }

def Agency.toJson (a : Agency) : Json := .obj [
  ("id", .int a.id),
  ("feed_version_id", .int a.feedVersionId),
  ("feed_version_sha1", .str a.feedVersionSha1),
  ("feed_onestop_id", .str a.feedOnestopId),
  ("onestop_id", .str a.onestopId),
  ("agency_id", .str a.agencyId),
  ("agency_name", .str a.agencyName),
  ("agency_url", .str a.agencyUrl),
  ("agency_timezone", .str a.agencyTimezone),
  ("agency_lang", .ofOption .str a.agencyLang),
  ("agency_phone", .ofOption .str a.agencyPhone),
  ("agency_fare_url", .ofOption .str a.agencyFareUrl),
  ("agency_email", .ofOption .str a.agencyEmail),
  ("geometry", .ofOption Polygon.toJson a.geometry)]

/-- A place that an agency serves; `rank` is the share of its stops there. -/
structure AgencyPlace where
  agencyId : Int := 0
  cityName : Option String := none
  adm0Name : Option String := none
  adm1Name : Option String := none
  adm0Iso : Option String := none
  adm1Iso : Option String := none
  rank : Float := 0
  deriving DecidableEq, Repr, Inhabited

def AgencyPlace.ofJson? (j : Json) : Option AgencyPlace := do
  let f ← j.fields?
  some {
    agencyId := ← f.withDefault Json.readInt64 "agency_id" 0
    cityName := ← f.optional Json.readText "city_name"
    adm0Name := ← f.optional Json.readText "adm0_name"
    adm1Name := ← f.optional Json.readText "adm1_name"
    adm0Iso := ← f.optional Json.readText "adm0_iso"
    adm1Iso := ← f.optional Json.readText "adm1_iso"
    rank := ← f.withDefault Json.readFloat "rank" 0 }

def AgencyPlace.toJson (a : AgencyPlace) : Json := .obj [
  ("agency_id", .int a.agencyId),
  ("city_name", .ofOption .str a.cityName),
  ("adm0_name", .ofOption .str a.adm0Name),
  ("adm1_name", .ofOption .str a.adm1Name),
  ("adm0_iso", .ofOption .str a.adm0Iso),
  ("adm1_iso", .ofOption .str a.adm1Iso),
  ("rank", .float a.rank)]

/-- An operator, known by one onestop id across feed versions. -/
structure Operator where
  id : Int := 0
  onestopId : String := ""
  name : Option String := none
  shortName : Option String := none
  website : Option String := none
  generated : Bool := false
  feedId : Option Int := none
  agencyId : Option Int := none
  tags : List (String × String) := []
  deriving DecidableEq, Repr, Inhabited

def Operator.ofJson? (j : Json) : Option Operator := do
  let f ← j.fields?
  some {
    id := ← f.withDefault Json.readInt64 "id" 0
    onestopId := ← f.withDefault Json.readText "onestop_id" ""
    name := ← f.optional Json.readText "name"
    shortName := ← f.optional Json.readText "short_name"
    website := ← f.optional Json.readText "website"
    generated := ← f.withDefault Json.readBool "generated" false
    feedId := ← f.optional Json.readInt64 "feed_id"
    agencyId := ← f.optional Json.readInt64 "agency_id"
    tags := ← f.withDefault Json.readTextMap "tags" [] }

def Operator.toJson (o : Operator) : Json := .obj [
  ("id", .int o.id),
  ("onestop_id", .str o.onestopId),
  ("name", .ofOption .str o.name),
  ("short_name", .ofOption .str o.shortName),
  ("website", .ofOption .str o.website),
  ("generated", .bool o.generated),
  ("feed_id", .ofOption .int o.feedId),
  ("agency_id", .ofOption .int o.agencyId),
  ("tags", .ofMap .str o.tags)]

/-- A place, or a group of places, with the operators that serve it. -/
structure Place where
  adm0Name : Option String := none
  adm1Name : Option String := none
  cityName : Option String := none
  count : Int := 0
  operatorOnestopIds : List String := []
  deriving DecidableEq, Repr, Inhabited

def Place.ofJson? (j : Json) : Option Place := do
  let f ← j.fields?
  some {
    adm0Name := ← f.optional Json.readText "adm0_name"
    adm1Name := ← f.optional Json.readText "adm1_name"
    cityName := ← f.optional Json.readText "city_name"
    count := ← f.withDefault Json.readInt64 "count" 0
    operatorOnestopIds := ← f.withDefault Json.readTexts "operator_onestop_ids" [] }

def Place.toJson (p : Place) : Json := .obj [
  ("adm0_name", .ofOption .str p.adm0Name),
  ("adm1_name", .ofOption .str p.adm1Name),
  ("city_name", .ofOption .str p.cityName),
  ("count", .int p.count),
  ("operator_onestop_ids", .ofTexts p.operatorOnestopIds)]

/-- The granularity at which places are grouped. -/
inductive PlaceLevel
  | adm0
  | adm0Adm1
  | adm0Adm1City
  | adm0City
  | adm1City
  | city
  deriving DecidableEq, Repr, Inhabited

namespace PlaceLevel

def name : PlaceLevel → String
  | .adm0 => "ADM0"
  | .adm0Adm1 => "ADM0_ADM1"
  | .adm0Adm1City => "ADM0_ADM1_CITY"
  | .adm0City => "ADM0_CITY"
  | .adm1City => "ADM1_CITY"
  | .city => "CITY"

def all : List PlaceLevel := [.adm0, .adm0Adm1, .adm0Adm1City, .adm0City, .adm1City, .city]

def ofJson? (j : Json) : Option PlaceLevel := do
  let name ← Json.readText j
  all.find? (·.name == name)

def toJson (l : PlaceLevel) : Json := .str l.name

/-- Places of one group have the country in common. -/
def byAdm0 (l : PlaceLevel) : Bool :=
  l == .adm0 || l == .adm0Adm1 || l == .adm0Adm1City || l == .adm0City

/-- Places of one group have the subdivision in common. -/
def byAdm1 (l : PlaceLevel) : Bool :=
  l == .adm0Adm1 || l == .adm0Adm1City || l == .adm1City

/-- Places of one group have the city in common. -/
def byCity (l : PlaceLevel) : Bool :=
  l == .adm0Adm1City || l == .adm0City || l == .adm1City || l == .city

end PlaceLevel

end Transit
