import Transit.Proofs.Field.Listing
set_option autoImplicit false

/-!
# The greatest number of rows of a root selection

Each root selection answers with at most as many rows as its greatest limit
(`RootListing.atMost_most`), and with any smaller number when there are rows enough
(`RootListing.run_full`). The cap on rows is a part of the greatest limit for stops and trips only.
The other listings obey it as long as the settings do not go beyond it (`RootListing.capped_iff`).
-/

namespace Transit

namespace Request

theorem checkLimit_bounds (limit : Option Int) (absent maximum : Nat) :
    0 < checkLimit limit absent maximum ∧ checkLimit limit absent maximum ≤ max maximum 1 := by
  unfold checkLimit
  dsimp only
  split
  · split <;> omega
  · omega

theorem checkLimit_of_pos {n : Nat} (positive : 0 < n) (absent maximum : Nat) :
    checkLimit (some n) absent maximum = min n (max maximum 1) := by
  unfold checkLimit
  dsimp only
  rw [if_pos (by omega), Int.toNat_natCast]

end Request

namespace Resolve

variable {α τ : Type} {n : Settings → Nat}

/-- A list that has, when it is there, no more rows than the settings allow. -/
def AtMost (r : Resolve (List τ)) (n : Settings → Nat) : Prop :=
  ∀ g rows last, r.run.run g = (.ok rows, last) → rows.length ≤ n g.settings

theorem AtMost.bind {r : Resolve α} {f : α → Resolve (List τ)} (first : r.Reads)
    (rest : ∀ a, (f a).AtMost n) : (r >>= f).AtMost n := by
  intro g rows last ran
  obtain ⟨a, next, firstRan, restRan⟩ := run_bind_ok ran
  have same := first.settings g
  rw [firstRan] at same
  rw [← same]
  exact rest a next rows last restRan

/-- The limit that is read from the settings bounds the rows that are asked for with it. -/
theorem AtMost.limited {limit : Gateway → Nat} {f : Nat → Resolve (List τ)}
    (bounded : ∀ g, 0 < limit g ∧ limit g ≤ n g.settings)
    (rest : ∀ k, 0 < k → (f k).AtMost fun _ => k) : (look limit >>= f).AtMost n := by
  intro g rows last ran
  rw [run_bind_of_ok (run_look limit g)] at ran
  obtain ⟨positive, bound⟩ := bounded g
  exact Nat.le_trans (rest (limit g) positive g rows last ran) bound

theorem atMost_ask {query : Warehouse → List τ} {k : Nat} (method : String)
    (bounded : ∀ w, (query w).length ≤ k) : (ask method query).AtMost fun _ => k := by
  intro g rows last ran
  obtain ⟨same, -⟩ := Prod.mk.inj ran
  obtain rfl := Except.ok.inj same
  exact bounded g.warehouse

theorem atMost_look {view : Gateway → List τ} {k : Nat} (bounded : ∀ g, (view g).length ≤ k) :
    (look view).AtMost fun _ => k := by
  intro g rows last ran
  obtain ⟨same, -⟩ := Prod.mk.inj ran
  obtain rfl := Except.ok.inj same
  exact bounded g

end Resolve

namespace Warehouse

variable {τ ω : Type} {rows : List τ} {key : τ → Int × Int} {keep : ω → τ → Bool}

theorem length_select_le (rows : List τ) (args : ListArgs ω) (key : τ → Int × Int)
    (keep : ω → τ → Bool) : (select rows args key keep).length ≤ args.limit := by
  rw [select_eq]
  exact List.length_take_le _ _

theorem length_select_all (rows : List τ) (limit : Nat) (key : τ → Int × Int)
    (keep : ω → τ → Bool) :
    (select rows ⟨limit, none, [], none⟩ key keep).length = min limit rows.length := by
  have all : rows.filter (asked ⟨limit, none, [], none⟩ key keep) = rows :=
    List.filter_eq_self.mpr fun _ _ => rfl
  rw [select_eq, List.length_take, ranked, List.length_mergeSort, all]

theorem length_listOperators_le (w : Warehouse) (args : ListArgs OperatorFilter) :
    (w.listOperators args).length ≤ args.limit :=
  List.length_take_le _ _

theorem length_listPlaces_le (w : Warehouse) (limit : Nat) (level : PlaceLevel)
    (filter : Option PlaceFilter) : (w.listPlaces limit level filter).length ≤ limit := by
  rw [listPlaces, List.length_map]
  exact List.length_take_le _ _

theorem length_findBikes_le (w : Warehouse) (limit : Nat) (request : BikeRequest) :
    (w.findBikes limit request).length ≤ limit :=
  List.length_take_le _ _

theorem length_findBikes_all (w : Warehouse) (limit : Nat) :
    (w.findBikes limit {}).length = min limit w.bikes.length := by
  have all : w.bikes.filter (fun _ => true) = w.bikes := List.filter_true _
  rw [findBikes, List.length_take]
  exact congrArg (min limit ·.length) all

theorem length_findDocks_le (w : Warehouse) (limit : Nat) (request : DockRequest) :
    (w.findDocks limit request).length ≤ limit :=
  List.length_take_le _ _

theorem length_findDocks_all (w : Warehouse) (limit : Nat) :
    (w.findDocks limit {}).length = min limit w.docks.length := by
  have all : w.docks.filter (fun _ => true) = w.docks := List.filter_true _
  rw [findDocks, List.length_take]
  exact congrArg (min limit ·.length) all

/-! ## Places -/

namespace PlaceKey

theorem eq_of_order {a b : PlaceKey} (same : order a b = .eq) : a = b := by
  have name : ∀ x y : Option String, nameOrder x y = .eq → x = y := by
    intro x y equal
    cases x with
    | none =>
      cases y with
      | none => rfl
      | some v => cases equal
    | some u =>
      cases y with
      | none => cases equal
      | some v => exact congrArg some (Std.LawfulEqOrd.eq_of_compare equal)
  obtain ⟨adm0, rest⟩ := Ordering.then_eq_eq.mp same
  obtain ⟨adm1, city⟩ := Ordering.then_eq_eq.mp rest
  cases a
  cases b
  rw [mk.injEq]
  exact ⟨name _ _ adm0, name _ _ adm1, name _ _ city⟩

end PlaceKey

section
variable {k : PlaceKey} {groups : List (PlaceKey × List Int)} {group : PlaceKey × List Int}

/-- Adding an agency makes no group but that of its key. -/
theorem key_of_mem_addPlace {agencyId : Int} (member : group ∈ addPlace k agencyId groups) :
    group.1 = k ∨ ∃ before ∈ groups, before.1 = group.1 := by
  fun_induction addPlace k agencyId groups with
  | case1 =>
    obtain rfl := List.mem_singleton.mp member
    exact .inl rfl
  | case2 =>
    rcases List.mem_cons.mp member with rfl | old
    · exact .inl rfl
    · exact .inr ⟨group, old, rfl⟩
  | case3 k' ids rest =>
    rcases List.mem_cons.mp member with rfl | old
    · exact .inr ⟨(k', ids), List.mem_cons_self, rfl⟩
    · exact .inr ⟨group, List.mem_cons_of_mem _ old, rfl⟩
  | case4 k' ids rest _ ih =>
    rcases List.mem_cons.mp member with rfl | later
    · exact .inr ⟨(k', ids), List.mem_cons_self, rfl⟩
    · rcases ih later with new | ⟨before, old, same⟩
      · exact .inl new
      · exact .inr ⟨before, List.mem_cons_of_mem _ old, same⟩

theorem length_addPlace (agencyId : Int) (fresh : ∀ group ∈ groups, group.1 ≠ k) :
    (addPlace k agencyId groups).length = groups.length + 1 := by
  fun_induction addPlace k agencyId groups with
  | case1 => rfl
  | case2 => rfl
  | case3 k' ids rest same =>
    have known := PlaceKey.eq_of_order same
    exact absurd known.symm (fresh _ List.mem_cons_self)
  | case4 k' ids rest _ ih =>
    have later := ih fun group member => fresh group (List.mem_cons_of_mem _ member)
    rw [List.length_cons, later, List.length_cons]

/-- Places with keys of their own make a group each. -/
theorem length_foldl_addPlace (key : AgencyPlace → PlaceKey) {places : List AgencyPlace}
    (distinct : (places.map key).Nodup)
    (fresh : ∀ p ∈ places, ∀ group ∈ groups, group.1 ≠ key p) :
    (places.foldl (fun gs p => addPlace (key p) p.agencyId gs) groups).length =
      groups.length + places.length := by
  induction places generalizing groups with
  | nil => rfl
  | cons p rest ih =>
    obtain ⟨new, apart⟩ := List.nodup_cons.mp distinct
    have first := length_addPlace p.agencyId (fresh p List.mem_cons_self)
    have stillFresh : ∀ q ∈ rest, ∀ group ∈ addPlace (key p) p.agencyId groups,
        group.1 ≠ key q := by
      intro q later group member
      rcases key_of_mem_addPlace member with own | ⟨before, old, same⟩
      · intro taken
        exact new (List.mem_map.mpr ⟨q, later, taken.symm.trans own⟩)
      · rw [← same]
        exact fresh q (List.mem_cons_of_mem _ later) before old
    rw [List.foldl_cons, ih apart stillFresh, first, List.length_cons]
    omega

theorem length_listPlaces_all (w : Warehouse) (limit : Nat) (level : PlaceLevel)
    (distinct : (w.agencyPlaces.map (PlaceKey.ofPlace level)).Nodup) :
    (w.listPlaces limit level none).length = min limit w.agencyPlaces.length := by
  have fresh : ∀ p ∈ w.agencyPlaces, ∀ group ∈ ([] : List (PlaceKey × List Int)),
      group.1 ≠ PlaceKey.ofPlace level p := by
    intro p _ group none
    cases none
  have grouped := length_foldl_addPlace (PlaceKey.ofPlace level) distinct fresh
  rw [List.length_nil, Nat.zero_add] at grouped
  simp only [listPlaces, Option.bind_none, Option.any_none, Bool.not_false, Option.all_none,
    List.filter_true, List.length_map, List.length_take, grouped]

end

end Warehouse

namespace Gateway

theorem limit_bounds (g : Gateway) (asked : Option Int) :
    0 < g.limit asked ∧ g.limit asked ≤ max g.settings.maxLimit 1 :=
  Request.checkLimit_bounds asked _ _

theorem largeLimit_bounds (g : Gateway) (asked : Option Int) :
    0 < g.largeLimit asked ∧ g.largeLimit asked ≤ max g.settings.largeLimit 1 :=
  Request.checkLimit_bounds asked _ _

theorem length_vehiclePositions_le (g : Gateway) {limit : Nat} (positive : 0 < limit)
    (filter : Option VehiclePositionFilter) : (g.vehiclePositions limit filter).length ≤ limit := by
  rw [vehiclePositions, List.length_take]
  omega

end Gateway

/-- The listings with which a query begins. -/
inductive RootListing
  | paged (l : Listing)
  | censusDatasets
  | places
  | vehiclePositions
  | bikes
  | docks
  deriving DecidableEq, Repr

namespace RootListing

def Row : RootListing → Type
  | .paged l => l.Row
  | .censusDatasets => CensusDataset
  | .places => Place
  | .vehiclePositions => VehiclePosition
  | .bikes => FreeBike
  | .docks => DockingStation

def Arguments : RootListing → Type
  | .paged l => RootArgs l.Filter
  | .censusDatasets => RootArgs CensusDatasetFilter
  | .places => Option Int × Option PlaceLevel × Option PlaceFilter
  | .vehiclePositions => Option Int × Option VehiclePositionFilter
  | .bikes => Option Int × BikeRequest
  | .docks => Option Int × DockRequest

/-- The root selection. -/
def ask : (l : RootListing) → l.Arguments → Resolve (List l.Row)
  | .paged l => l.ask
  | .censusDatasets => Root.censusDatasets
  | .places => fun (limit, level, filter) => Root.places limit level filter
  | .vehiclePositions => fun (limit, filter) => Root.vehiclePositions limit filter
  | .bikes => fun (limit, request) => Root.bikes limit request
  | .docks => fun (limit, request) => Root.docks limit request

/-- The listings with a greatest limit of their own. -/
def isLarge : RootListing → Bool
  | .paged .stops => true
  | .paged .trips => true
  | _ => false

/-- The greatest limit of a listing. -/
def most (l : RootListing) (s : Settings) : Nat :=
  max (if l.isLarge then s.largeLimit else s.maxLimit) 1

/-- Ask for so many rows, whatever they are. -/
def upTo (n : Nat) : (l : RootListing) → l.Arguments
  | .paged _ => { limit := some n }
  | .censusDatasets => { limit := some n }
  | .places => (some n, none, none)
  | .vehiclePositions => (some n, none)
  | .bikes => (some n, {})
  | .docks => (some n, {})

/-! ## No more rows than the greatest limit -/

open Resolve

theorem atMost_list {ω τ : Type} {n : Settings → Nat} {limit : Gateway → Option Int → Nat}
    {query : Warehouse → ListArgs ω → List τ} (method : String) (args : RootArgs ω)
    (bounded : ∀ g asked, 0 < limit g asked ∧ limit g asked ≤ n g.settings)
    (taken : ∀ w a, (query w a).length ≤ a.limit) :
    (Root.list method args limit query).AtMost n := by
  refine AtMost.limited (fun g => bounded g args.limit) fun k _ => ?_
  refine AtMost.bind (reads_ofExcept _) fun after => ?_
  exact atMost_ask method fun w => taken w ⟨k, after, args.ids, args.filter⟩

theorem atMost_plain {ω τ : Type} {n : Settings → Nat} {limit : Gateway → Option Int → Nat}
    {query : Warehouse → ListArgs ω → List τ} (name method : String) (args : RootArgs ω)
    (bounded : ∀ g asked, 0 < limit g asked ∧ limit g asked ≤ n g.settings)
    (taken : ∀ w a, (query w a).length ≤ a.limit) :
    (do Root.meter name; Root.list method args limit query : Resolve (List τ)).AtMost n :=
  AtMost.bind (Listing.reads_meter name) fun _ => atMost_list method args bounded taken

theorem atMost_checked {ω τ : Type} {n : Settings → Nat} {limit : Gateway → Option Int → Nat}
    {query : Warehouse → ListArgs ω → List τ} (name method : String) (args : RootArgs ω)
    (near : ω → Option PointRadius) (box : ω → Option BoundingBox)
    (set : ω → Option PointRadius → ω)
    (bounded : ∀ g asked, 0 < limit g asked ∧ limit g asked ≤ n g.settings)
    (taken : ∀ w a, (query w a).length ≤ a.limit) :
    (do
      Root.meter name
      let filter ← args.filter.mapM fun f => do return set f (← Root.checkArea (near f) (box f))
      Root.list method { args with filter } limit query : Resolve (List τ)).AtMost n := by
  refine AtMost.bind (Listing.reads_meter name) fun _ => ?_
  refine AtMost.bind (Listing.reads_checked _ _ _ _) fun filter => ?_
  exact atMost_list method { args with filter } bounded taken

theorem atMost_paged (l : Listing) (args : RootArgs l.Filter) :
    (l.ask args).AtMost (most (.paged l)) := by
  have selects {ω τ : Type} (rows : Warehouse → List τ) (key : τ → Int × Int)
      (keep : Warehouse → ω → τ → Bool) (w : Warehouse) (a : ListArgs ω) :
      (Warehouse.select (rows w) a key (keep w)).length ≤ a.limit :=
    Warehouse.length_select_le _ _ _ _
  cases l with
  | agencies => exact atMost_checked _ _ _ _ _ _ Gateway.limit_bounds (selects _ _ _)
  | routes => exact atMost_checked _ _ _ _ _ _ Gateway.limit_bounds (selects _ _ _)
  | stops => exact atMost_checked _ _ _ _ _ _ Gateway.largeLimit_bounds (selects _ _ _)
  | trips => exact atMost_plain _ _ _ Gateway.largeLimit_bounds (selects _ _ _)
  | feeds => exact atMost_plain _ _ _ Gateway.limit_bounds (selects _ _ _)
  | feedVersions => exact atMost_plain _ _ _ Gateway.limit_bounds (selects _ _ _)
  | operators => exact atMost_plain _ _ _ Gateway.limit_bounds Warehouse.length_listOperators_le

/-- No listing answers with more rows than its greatest limit. -/
theorem atMost_most (l : RootListing) (args : l.Arguments) : (l.ask args).AtMost l.most := by
  cases l with
  | paged l => exact atMost_paged l args
  | censusDatasets =>
    exact atMost_plain _ _ _ Gateway.limit_bounds fun w a => Warehouse.length_select_le _ _ _ _
  | places =>
    obtain ⟨limit, level, filter⟩ := args
    refine AtMost.bind (Listing.reads_meter _) fun _ => ?_
    refine AtMost.limited (·.limit_bounds limit) fun k _ => ?_
    exact atMost_ask _ fun w => w.length_listPlaces_le k _ filter
  | vehiclePositions =>
    obtain ⟨limit, filter⟩ := args
    refine AtMost.bind (Listing.reads_meter _) fun _ => ?_
    refine AtMost.bind (Listing.reads_checked _ _ _ _) fun filter => ?_
    refine AtMost.limited (·.limit_bounds limit) fun k positive => ?_
    exact atMost_look fun g => g.length_vehiclePositions_le positive filter
  | bikes =>
    obtain ⟨limit, request⟩ := args
    refine AtMost.bind (Listing.reads_meter _) fun _ => ?_
    refine AtMost.bind (Listing.reads_checkArea _ _) fun near => ?_
    refine AtMost.limited (·.limit_bounds limit) fun k _ => ?_
    exact atMost_ask _ fun w => w.length_findBikes_le k ⟨near⟩
  | docks =>
    obtain ⟨limit, request⟩ := args
    refine AtMost.bind (Listing.reads_meter _) fun _ => ?_
    refine AtMost.bind (Listing.reads_checkArea _ _) fun near => ?_
    refine AtMost.limited (·.limit_bounds limit) fun k _ => ?_
    exact atMost_ask _ fun w => w.length_findDocks_le k ⟨near⟩

/-! ## As many rows as are asked for -/

end RootListing

/-- Every table that is listed has the same number of rows. -/
def Warehouse.ofRows (n : Nat) : Warehouse where
  agencies := (List.range n).map fun (i : Nat) => { id := i + 1 }
  routes := (List.range n).map fun (i : Nat) => { id := i + 1 }
  stops := (List.range n).map fun (i : Nat) => { id := i + 1 }
  trips := (List.range n).map fun (i : Nat) => { id := i + 1 }
  feeds := (List.range n).map fun (i : Nat) => { id := i + 1 }
  feedVersions := (List.range n).map fun (i : Nat) => { id := i + 1 }
  operators := (List.range n).map fun (i : Nat) => { id := i + 1 }
  censusDatasets := (List.range n).map fun (i : Nat) => { id := i + 1 }
  agencyPlaces := (List.range n).map fun i =>
    { adm0Name := some (String.ofList (List.replicate i 'a')) }
  bikes := List.replicate n {}
  docks := List.replicate n {}

/-- A gateway with so many rows for each listing. -/
def Gateway.ofRows (s : Settings) (n : Nat) : Gateway where
  warehouse := Warehouse.ofRows n
  settings := s
  topics := [("rtdata:BA:realtime_vehicle_positions", { vehicles := List.replicate n {} })]
  request := .start s {}

namespace Warehouse

theorem places_apart (n : Nat) (level : PlaceLevel) (byCountry : level.byAdm0 = true) :
    ((Warehouse.ofRows n).agencyPlaces.map (PlaceKey.ofPlace level)).Nodup := by
  rw [Warehouse.ofRows, List.map_map]
  refine List.Nodup.map ?_ List.nodup_range
  intro i j same
  have names := congrArg PlaceKey.adm0 same
  simp only [Function.comp_apply, PlaceKey.ofPlace, byCountry, if_true, Option.some.injEq] at names
  exact (List.replicate_inj.mp (String.ofList_injective names)).1

end Warehouse

theorem Gateway.vehiclePositions_ofRows (s : Settings) (n limit : Nat) (positive : 0 < limit) :
    ((Gateway.ofRows s n).vehiclePositions limit none).length = min limit n := by
  have topic : Realtime.Topic.ofKey? "rtdata:BA:realtime_vehicle_positions" =
      some ⟨"BA", .vehiclePositions⟩ := by
    decide
  unfold vehiclePositions
  simp only [ofRows, List.mergeSort_singleton, List.flatMap_cons, List.flatMap_nil,
    List.append_nil, topic, Option.all_none, if_true, List.filter_true, List.length_take,
    List.length_map, List.length_replicate]
  omega

namespace RootListing

theorem length_table_ofRows (l : Listing) (n : Nat) :
    (l.table (Warehouse.ofRows n)).length = n := by
  cases l <;> exact (List.length_map _).trans List.length_range

theorem limit_ofRows {s : Settings} {n : Nat} (positive : 0 < n) {maximum : Nat}
    (allowed : n ≤ max maximum 1) : Request.checkLimit (some n) s.defaultLimit maximum = n := by
  rw [Request.checkLimit_of_pos positive]
  omega

/-- Any number of rows up to the greatest limit is an answer. -/
theorem run_full (l : RootListing) (s : Settings) {n : Nat} (positive : 0 < n)
    (allowed : n ≤ l.most s) :
    ∃ rows, ((l.ask (upTo n l)).run.run (Gateway.ofRows s n)).1 = .ok rows ∧ rows.length = n := by
  have full : ∀ {length limit total : Nat}, length = min limit total → limit = n → total = n →
      length = n := by
    intros
    omega
  cases l with
  | paged l =>
    have limit : l.limit (Gateway.ofRows s n) (some n) = n := by
      cases l <;> exact limit_ofRows positive allowed
    have ran := @Listing.run_ask l (upTo n (.paged l)) none (Gateway.ofRows s n)
      (fun _ _ none => nomatch none) (fun _ none => nomatch none) rfl
    exact ⟨_, ran, full (Warehouse.length_select_all _ _ _ _) limit (length_table_ofRows l n)⟩
  | censusDatasets =>
    have ran := Listing.run_plain "census_datasets" "find_census_datasets"
      (upTo n .censusDatasets) Gateway.limit Warehouse.listCensusDatasets (Gateway.ofRows s n) rfl
    refine ⟨_, congrArg Prod.fst ran, full (Warehouse.length_select_all _ _ _ _)
      (limit_ofRows positive allowed) ?_⟩
    exact (List.length_map _).trans List.length_range
  | places =>
    refine ⟨_, rfl, full (Warehouse.length_listPlaces_all _ _ _ ?_)
      (limit_ofRows positive allowed) ?_⟩
    · exact Warehouse.places_apart n _ rfl
    · exact (List.length_map _).trans List.length_range
  | vehiclePositions =>
    have limit : (Gateway.ofRows s n).limit (some n) = n := limit_ofRows positive allowed
    refine ⟨_, rfl, full (Gateway.vehiclePositions_ofRows s n _ ?_) limit rfl⟩
    exact Nat.lt_of_lt_of_eq positive limit.symm
  | bikes =>
    refine ⟨_, rfl, full (Warehouse.length_findBikes_all _ _) (limit_ofRows positive allowed) ?_⟩
    exact List.length_replicate
  | docks =>
    refine ⟨_, rfl, full (Warehouse.length_findDocks_all _ _) (limit_ofRows positive allowed) ?_⟩
    exact List.length_replicate

/-- The answers of a listing are held to the cap on rows exactly if it is one of those whose
greatest limit is, or the settings do not ask for more. -/
theorem capped_iff (l : RootListing) (s : Settings) :
    (∀ (g last : Gateway) (args : l.Arguments) (rows : List l.Row), g.settings = s →
      (l.ask args).run.run g = (.ok rows, last) → rows.length ≤ Settings.rowCap) ↔
      l.isLarge = true ∨ s.maxLimit ≤ Settings.rowCap := by
  constructor
  · intro capped
    by_cases large : l.isLarge = true
    · exact .inl large
    · refine .inr (Nat.le_of_not_lt fun beyond => ?_)
      have allowed : Settings.rowCap + 1 ≤ l.most s := by
        rw [most, if_neg large]
        omega
      obtain ⟨rows, ran, length⟩ := run_full l s (Nat.succ_pos _) allowed
      obtain ⟨last, ran⟩ := Resolve.run_of_answer ran
      have bound := capped _ last _ rows rfl ran
      omega
  · rintro within g last args rows rfl ran
    have bound := atMost_most l args g rows last ran
    have capped : l.most g.settings ≤ Settings.rowCap := by
      have positive : 1 ≤ Settings.rowCap := by decide
      unfold most
      rcases within with large | small
      · rw [if_pos large, Settings.largeLimit]
        omega
      · split
        · rw [Settings.largeLimit]
          omega
        · omega
    exact Nat.le_trans bound capped

/-- Variables that raise the greatest limit beyond the cap. -/
def raised (name : String) : Option String :=
  if name = "TRANSIT_GATEWAY_MAX_LIMIT" then some "20000" else none

/-- With such settings 10001 docks are listed at once. -/
theorem docks_beyond_cap :
    Settings.ofVariables raised = .ok { maxLimit := 20000 } ∧ ∃ rows last,
      (Root.docks (some 20000) {}).run.run (Gateway.ofRows { maxLimit := 20000 } 10001) =
        (.ok rows, last) ∧ ¬ rows.length ≤ Settings.rowCap := by
  refine ⟨rfl, _, _, rfl, ?_⟩
  have listed := Warehouse.length_findDocks_all (Warehouse.ofRows 10001) 20000
  have docks : (Warehouse.ofRows 10001).docks.length = 10001 := List.length_replicate
  rw [docks] at listed
  refine Nat.not_le_of_lt (Nat.lt_of_lt_of_eq ?_ listed.symm)
  decide

end RootListing

end Transit
