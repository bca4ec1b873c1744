import Transit.Field.Agency
import Transit.Field.Feed
import Transit.Field.Root
import Transit.Field.Route
import Transit.Field.Stop
import Transit.Field.Trip
import Transit.Proofs.Gateway.Running
import Transit.Proofs.Warehouse.Select
set_option autoImplicit false

/-!
# The listings that are paged by cursors

Root selections of seven kinds list a table of the warehouse page by page. What one of them answers
is the selection of rows that its arguments ask for (`Listing.run_ask`), unless it refuses the area
of its filter (`Listing.run_refused`).
-/

namespace Transit

inductive Listing
  | agencies
  | routes
  | stops
  | trips
  | feeds
  | feedVersions
  | operators
  deriving DecidableEq, Repr

namespace Listing

def Row : Listing → Type
  | .agencies => Agency
  | .routes => Route
  | .stops => Stop
  | .trips => Trip
  | .feeds => Feed
  | .feedVersions => FeedVersion
  | .operators => Operator

def Filter : Listing → Type
  | .agencies => AgencyFilter
  | .routes => RouteFilter
  | .stops => StopFilter
  | .trips => TripFilter
  | .feeds => FeedFilter
  | .feedVersions => FeedVersionFilter
  | .operators => OperatorFilter

/-- The root selection. -/
def ask : (l : Listing) → RootArgs l.Filter → Resolve (List l.Row)
  | .agencies => Root.agencies
  | .routes => Root.routes
  | .stops => Root.stops
  | .trips => Root.trips
  | .feeds => Root.feeds
  | .feedVersions => Root.feedVersions
  | .operators => Root.operators

def cursor : (l : Listing) → l.Row → Cursor
  | .agencies => Agency.cursor
  | .routes => Route.cursor
  | .stops => Stop.cursor
  | .trips => Trip.cursor
  | .feeds => Feed.cursor
  | .feedVersions => FeedVersion.cursor
  | .operators => Operator.cursor

def table : (l : Listing) → Warehouse → List l.Row
  | .agencies => Warehouse.agencies
  | .routes => Warehouse.routes
  | .stops => Warehouse.stops
  | .trips => Warehouse.trips
  | .feeds => Warehouse.feeds
  | .feedVersions => Warehouse.feedVersions
  | .operators => Warehouse.operators

def rowId : (l : Listing) → l.Row → Int
  | .agencies => Agency.id
  | .routes => Route.id
  | .stops => Stop.id
  | .trips => Trip.id
  | .feeds => Feed.id
  | .feedVersions => FeedVersion.id
  | .operators => Operator.id

/-- The feed version that a row belongs to, 0 for rows that belong to none. -/
def versionId : (l : Listing) → l.Row → Int
  | .agencies => Agency.feedVersionId
  | .routes => Route.feedVersionId
  | .stops => Stop.feedVersionId
  | .trips => Trip.feedVersionId
  | .feeds => fun _ => 0
  | .feedVersions => fun _ => 0
  | .operators => fun _ => 0

/-- The rows belong to feed versions. -/
def isVersioned : Listing → Bool
  | .agencies => true
  | .routes => true
  | .stops => true
  | .trips => true
  | .feeds => false
  | .feedVersions => false
  | .operators => false

def key (l : Listing) (r : l.Row) : Int × Int := (l.versionId r, l.rowId r)

def keep : (l : Listing) → Warehouse → l.Filter → l.Row → Bool
  | .agencies => Warehouse.agencyMatches
  | .routes => Warehouse.routeMatches
  | .stops => Warehouse.stopMatches
  | .trips => Warehouse.tripMatches
  | .feeds => Warehouse.feedMatches
  | .feedVersions => Warehouse.feedVersionMatches
  | .operators => Warehouse.operatorMatches

/-- The box of a filter. -/
def box? : (l : Listing) → l.Filter → Option BoundingBox
  | .agencies => AgencyFilter.bbox
  | .routes => RouteFilter.bbox
  | .stops => StopFilter.bbox
  | .trips => fun _ => none
  | .feeds => fun _ => none
  | .feedVersions => fun _ => none
  | .operators => fun _ => none

/-- The filter with its circle brought to the greatest radius. -/
def capped : (l : Listing) → Settings → l.Filter → l.Filter
  | .agencies => fun s f => { f with near := f.near.map (Request.checkRadius · s.maxRadius) }
  | .routes => fun s f => { f with near := f.near.map (Request.checkRadius · s.maxRadius) }
  | .stops => fun s f => { f with near := f.near.map (Request.checkRadius · s.maxRadius) }
  | .trips => fun _ f => f
  | .feeds => fun _ f => f
  | .feedVersions => fun _ f => f
  | .operators => fun _ f => f

/-- The listing gives one row for several, so that it does not show all rows. -/
def merges : (l : Listing) → l.Filter → Bool
  | .operators => fun f => f.merged == some true
  | _ => fun _ => false

def limit : Listing → Gateway → Option Int → Nat
  | .stops => Gateway.largeLimit
  | .trips => Gateway.largeLimit
  | _ => Gateway.limit

theorem limit_pos (l : Listing) (g : Gateway) (limit : Option Int) : 0 < l.limit g limit := by
  have positive : ∀ absent maximum, 0 < Request.checkLimit limit absent maximum := by
    intro absent maximum
    unfold Request.checkLimit
    dsimp only
    split
    · split <;> omega
    · omega
  cases l <;> exact positive _ _

theorem cursor_eq (l : Listing) (r : l.Row) : l.cursor r = ⟨l.versionId r, l.rowId r⟩ := by
  cases l <;> rfl

/-- Operators are listed like other rows unless they are merged. -/
theorem listOperators_eq (w : Warehouse) {args : ListArgs OperatorFilter}
    (unmerged : (args.filter.bind (·.merged) == some true) = false) :
    w.listOperators args =
      Warehouse.select w.operators args (fun o => (0, o.id)) w.operatorMatches := by
  have whole := Warehouse.select_eq w.operators { args with limit := w.operators.length }
    (fun o => (0, o.id)) w.operatorMatches
  rw [List.take_of_length_le] at whole
  · rw [Warehouse.listOperators, unmerged]
    simp only [Bool.false_eq_true, if_false, whole]
    rfl
  · rw [Warehouse.ranked, List.length_mergeSort]
    exact List.length_filter_le _ _

/-! ## Runs -/

section
variable {g : Gateway}

theorem run_list {ω τ : Type} {after : Option Cursor} (method : String) (args : RootArgs ω)
    (limit : Gateway → Option Int → Nat) (query : Warehouse → ListArgs ω → List τ) (g : Gateway)
    (read : Request.checkCursor args.after = .ok after) :
    (Root.list method args limit query).run.run g =
      (.ok (query g.warehouse ⟨limit g args.limit, after, args.ids, args.filter⟩),
        g.record method) := by
  have cursor : (Resolve.ofExcept (Request.checkCursor args.after)).run.run g = (.ok after, g) := by
    rw [read]
    rfl
  rw [Root.list, Resolve.run_bind_of_ok (Resolve.run_look _ g), Resolve.run_bind_of_ok cursor]
  rfl

/-- A listing whose filter has no area. -/
theorem run_plain {ω τ : Type} {after : Option Cursor} (name method : String) (args : RootArgs ω)
    (limit : Gateway → Option Int → Nat) (query : Warehouse → ListArgs ω → List τ) (g : Gateway)
    (read : Request.checkCursor args.after = .ok after) :
    (do Root.meter name; Root.list method args limit query : Resolve (List τ)).run.run g =
      (.ok (query g.warehouse ⟨limit (g.meterRoot name) args.limit, after, args.ids, args.filter⟩),
        (g.meterRoot name).record method) := by
  have metered : (Root.meter name).run.run g = (.ok (), g.meterRoot name) := rfl
  exact (Resolve.run_bind_of_ok metered).trans (run_list method args limit query _ read)

theorem run_checkArea (near : Option PointRadius) (box : Option BoundingBox) (g : Gateway) :
    (Root.checkArea near box).run.run g =
      match box with
      | none => (.ok (near.map (Request.checkRadius · g.settings.maxRadius)), g)
      | some b =>
        match Request.checkBox b g.settings.maxRadius with
        | .ok _ => (.ok (near.map (Request.checkRadius · g.settings.maxRadius)), g)
        | .error e => (.error e, g) := by
  rw [Root.checkArea, Resolve.run_bind_of_ok (Resolve.run_look _ g)]
  cases box with
  | none => rfl
  | some b =>
    have area : (Resolve.ofExcept (Request.checkBox b g.settings.maxRadius)).run.run g =
        (Request.checkBox b g.settings.maxRadius, g) := rfl
    refine (Resolve.run_bind _ _ g).trans ?_
    rw [area]
    dsimp only
    cases Request.checkBox b g.settings.maxRadius <;> rfl

/-- What the check of a filter's area makes of the filter. -/
theorem run_checked {ω : Type} (filter : Option ω) (near : ω → Option PointRadius)
    (box : ω → Option BoundingBox) (set : ω → Option PointRadius → ω) (g : Gateway)
    (accepted : ∀ f b, filter = some f → box f = some b →
      Request.checkBox b g.settings.maxRadius = .ok ()) :
    (filter.mapM fun f => do return set f (← Root.checkArea (near f) (box f)) : Resolve _).run.run g
      = (.ok (filter.map fun f => set f ((near f).map (Request.checkRadius · g.settings.maxRadius))),
        g) := by
  cases filter with
  | none => rfl
  | some f =>
    have area : (Root.checkArea (near f) (box f)).run.run g =
        (.ok ((near f).map (Request.checkRadius · g.settings.maxRadius)), g) := by
      rw [run_checkArea]
      cases isBox : box f with
      | none => rfl
      | some b => simp only [accepted f b rfl isBox]
    have checked : (do return set f (← Root.checkArea (near f) (box f)) : Resolve ω).run.run g =
        (.ok (set f ((near f).map (Request.checkRadius · g.settings.maxRadius))), g) :=
      Resolve.run_bind_of_ok area
    exact Resolve.run_bind_of_ok checked

/-- A listing whose filter has an area. -/
theorem run_area {ω τ : Type} {after : Option Cursor} (name method : String) (args : RootArgs ω)
    (near : ω → Option PointRadius) (box : ω → Option BoundingBox)
    (set : ω → Option PointRadius → ω) (limit : Gateway → Option Int → Nat)
    (query : Warehouse → ListArgs ω → List τ) (g : Gateway)
    (accepted : ∀ f b, args.filter = some f → box f = some b →
      Request.checkBox b g.settings.maxRadius = .ok ())
    (read : Request.checkCursor args.after = .ok after) :
    (do
      Root.meter name
      let filter ← args.filter.mapM fun f => do return set f (← Root.checkArea (near f) (box f))
      Root.list method { args with filter } limit query : Resolve (List τ)).run.run g =
      (.ok (query g.warehouse ⟨limit (g.meterRoot name) args.limit, after, args.ids,
          args.filter.map fun f => set f ((near f).map (Request.checkRadius · g.settings.maxRadius))⟩),
        (g.meterRoot name).record method) := by
  have metered : (Root.meter name).run.run g = (.ok (), g.meterRoot name) := rfl
  have checked := run_checked args.filter near box set (g.meterRoot name) accepted
  refine (Resolve.run_bind_of_ok metered).trans ?_
  exact (Resolve.run_bind_of_ok checked).trans (run_list method _ limit query _ read)

/-- A box that is refused ends a listing. -/
theorem run_area_error {ω τ : Type} {f : ω} {b : BoundingBox} {e : FieldError}
    (name method : String) (args : RootArgs ω) (near : ω → Option PointRadius) (box : ω → Option BoundingBox)
    (set : ω → Option PointRadius → ω) (limit : Gateway → Option Int → Nat)
    (query : Warehouse → ListArgs ω → List τ) (g : Gateway) (given : args.filter = some f)
    (isBox : box f = some b) (refused : Request.checkBox b g.settings.maxRadius = .error e) :
    ((do
      Root.meter name
      let filter ← args.filter.mapM fun f => do return set f (← Root.checkArea (near f) (box f))
      Root.list method { args with filter } limit query : Resolve (List τ)).run.run g).1 =
      .error e := by
  have metered : (Root.meter name).run.run g = (.ok (), g.meterRoot name) := rfl
  have stillRefused : Request.checkBox b (g.meterRoot name).settings.maxRadius = .error e := refused
  have area : (Root.checkArea (near f) (box f)).run.run (g.meterRoot name) =
      (.error e, g.meterRoot name) := by
    rw [run_checkArea, isBox]
    simp only [stillRefused]
  have one : (do return set f (← Root.checkArea (near f) (box f)) : Resolve ω).run.run
      (g.meterRoot name) = (.error e, g.meterRoot name) := by
    rw [Resolve.run_bind, area]
  have checked : (args.filter.mapM fun f => do return set f (← Root.checkArea (near f) (box f)) :
      Resolve (Option ω)).run.run (g.meterRoot name) = (.error e, g.meterRoot name) := by
    rw [given]
    refine (Resolve.run_bind _ _ _).trans ?_
    rw [one]
  rw [Resolve.run_bind_of_ok metered, Resolve.run_bind, checked]

end

/-- A listing answers with the rows that are asked for. -/
theorem run_ask {l : Listing} {args : RootArgs l.Filter} {after : Option Cursor} (g : Gateway)
    (accepted : ∀ f b, args.filter = some f → l.box? f = some b →
      Request.checkBox b g.settings.maxRadius = .ok ())
    (unmerged : ∀ f, args.filter = some f → l.merges f = false)
    (read : Request.checkCursor args.after = .ok after) :
    ((l.ask args).run.run g).1 = .ok (Warehouse.select (l.table g.warehouse)
      ⟨l.limit g args.limit, after, args.ids, args.filter.map (l.capped g.settings)⟩ l.key
      (l.keep g.warehouse)) := by
  cases l with
  | agencies =>
    have ran := run_area "agencies" "find_agencies" args (·.near) (·.bbox)
      (fun f near => { f with near }) Gateway.limit Warehouse.listAgencies g accepted read
    exact congrArg Prod.fst ran
  | routes =>
    have ran := run_area "routes" "find_routes" args (·.near) (·.bbox)
      (fun f near => { f with near }) Gateway.limit Warehouse.listRoutes g accepted read
    exact congrArg Prod.fst ran
  | stops =>
    have ran := run_area "stops" "find_stops" args (·.near) (·.bbox)
      (fun f near => { f with near }) Gateway.largeLimit Warehouse.listStops g accepted read
    exact congrArg Prod.fst ran
  | trips =>
    have ran := run_plain "trips" "find_trips" args Gateway.largeLimit Warehouse.listTrips g read
    rw [← Option.map_id' (x := args.filter)] at ran
    exact congrArg Prod.fst ran
  | feeds =>
    have ran := run_plain "feeds" "find_feeds" args Gateway.limit Warehouse.listFeeds g read
    rw [← Option.map_id' (x := args.filter)] at ran
    exact congrArg Prod.fst ran
  | feedVersions =>
    have ran := run_plain "feed_versions" "find_feed_versions" args Gateway.limit
      Warehouse.listFeedVersions g read
    rw [← Option.map_id' (x := args.filter)] at ran
    exact congrArg Prod.fst ran
  | operators =>
    have ran := run_plain "operators" "find_operators" args Gateway.limit Warehouse.listOperators g
      read
    have plain : (args.filter.bind (·.merged) == some true) = false := by
      cases given : args.filter with
      | none => rfl
      | some f => exact unmerged f given
    have listed := @listOperators_eq g.warehouse
      ⟨(g.meterRoot "operators").limit args.limit, after, args.ids, args.filter⟩ plain
    conv_rhs at listed => rw [← Option.map_id' (x := args.filter)]
    exact (congrArg Prod.fst ran).trans (congrArg Except.ok listed)

/-- A listing refuses a box that is too large. -/
theorem run_refused {l : Listing} {args : RootArgs l.Filter} {f : l.Filter} {b : BoundingBox}
    {e : FieldError} (g : Gateway) (given : args.filter = some f) (isBox : l.box? f = some b)
    (refused : Request.checkBox b g.settings.maxRadius = .error e) :
    ((l.ask args).run.run g).1 = .error e := by
  cases l with
  | agencies =>
    exact run_area_error "agencies" "find_agencies" args (·.near) (·.bbox)
      (fun f near => { f with near }) Gateway.limit Warehouse.listAgencies g given isBox refused
  | routes =>
    exact run_area_error "routes" "find_routes" args (·.near) (·.bbox)
      (fun f near => { f with near }) Gateway.limit Warehouse.listRoutes g given isBox refused
  | stops =>
    exact run_area_error "stops" "find_stops" args (·.near) (·.bbox)
      (fun f near => { f with near }) Gateway.largeLimit Warehouse.listStops g given isBox refused
  | trips => cases isBox
  | feeds => cases isBox
  | feedVersions => cases isBox
  | operators => cases isBox

/-! ## Listings only read -/

open Resolve in
theorem reads_checkArea (near : Option PointRadius) (box : Option BoundingBox) :
    (Root.checkArea near box).Reads := by
  refine (reads_look _).bind fun maxRadius => ?_
  cases box with
  | none => exact (reads_ofExcept (.ok ())).bind fun _ => reads_ofExcept (.ok _)
  | some b => exact (reads_ofExcept _).bind fun _ => reads_ofExcept (.ok _)

open Resolve in
theorem reads_checked {ω : Type} (filter : Option ω) (near : ω → Option PointRadius)
    (box : ω → Option BoundingBox) (set : ω → Option PointRadius → ω) :
    (filter.mapM fun f => do return set f (← Root.checkArea (near f) (box f)) :
      Resolve (Option ω)).Reads := by
  cases filter with
  | none => exact reads_ofExcept (.ok none)
  | some f =>
    have checked : (do return set f (← Root.checkArea (near f) (box f)) : Resolve ω).Reads :=
      (reads_checkArea _ _).bind fun _ => reads_ofExcept (.ok _)
    exact checked.bind fun _ => reads_ofExcept (.ok _)

open Resolve in
theorem reads_list {ω τ : Type} (method : String) (args : RootArgs ω)
    (limit : Gateway → Option Int → Nat) (query : Warehouse → ListArgs ω → List τ) :
    (Root.list method args limit query).Reads :=
  (reads_look _).bind fun _ => (reads_ofExcept _).bind fun _ => reads_ask _ _

theorem reads_meter (name : String) : (Root.meter name).Reads :=
  ⟨fun _ => rfl, fun _ => rfl⟩

theorem reads (l : Listing) (args : RootArgs l.Filter) : (l.ask args).Reads := by
  cases l with
  | agencies =>
    refine (reads_meter _).bind fun _ => (reads_checked _ _ _ _).bind fun _ => ?_
    exact reads_list ..
  | routes =>
    refine (reads_meter _).bind fun _ => (reads_checked _ _ _ _).bind fun _ => ?_
    exact reads_list ..
  | stops =>
    refine (reads_meter _).bind fun _ => (reads_checked _ _ _ _).bind fun _ => ?_
    exact reads_list ..
  | trips => exact (reads_meter _).bind fun _ => reads_list ..
  | feeds => exact (reads_meter _).bind fun _ => reads_list ..
  | feedVersions => exact (reads_meter _).bind fun _ => reads_list ..
  | operators => exact (reads_meter _).bind fun _ => reads_list ..

end Listing

end Transit
