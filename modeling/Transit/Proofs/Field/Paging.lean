import Mathlib.Data.List.Infix
import Transit.Proofs.Cursor
import Transit.Proofs.Field.Listing
import Transit.Proofs.Field.StopCommands
import Transit.Proofs.Warehouse.Paging
set_option autoImplicit false

/-!
# Paging through a listing

A client follows the cursors of a listing from page to page until a page is empty, while users edit
stops between the pages. What it asks of the gateway is what a `Pager` selects (`Paging.pages_eq`),
so that it has every steady row once in the end (`Paging.each_row_once`).
-/

namespace Transit

/-- A client that asks for the pages of a listing, each in a request of its own. -/
structure Paging (l : Listing) where
  client : User := {}
  limit : Option Int := none
  ids : List Int := []
  filter : Option l.Filter := none
  /-- The commands between a page and the next one. -/
  commands : Nat → List StopCommand

namespace Listing

/-- All ids, also those of feed versions, are positive and fit into cursors. -/
def Fits (l : Listing) (w : Warehouse) : Prop :=
  ∀ r ∈ l.table w, 0 < l.rowId r ∧ l.rowId r ≤ Cursor.maxValue ∧
    (l.isVersioned = true → 0 < l.versionId r ∧ l.versionId r ≤ Cursor.maxValue)

variable {l : Listing} {w : Warehouse} {commands : List StopCommand}

instance : Decidable (l.Fits w) :=
  inferInstanceAs (Decidable (∀ r ∈ l.table w, _))

theorem versionId_of_bare (bare : l.isVersioned = false) (r : l.Row) : l.versionId r = 0 := by
  cases l <;> first | rfl | cases bare

theorem limit_of_settings {g h : Gateway} (same : g.settings = h.settings) (limit : Option Int) :
    l.limit g limit = l.limit h limit := by
  cases l <;> simp only [Listing.limit, Gateway.limit, Gateway.largeLimit, same]

/-- Commands on stops leave ids unique in every table. -/
theorem obey_nodup (fit : ∀ done, done <+: commands → l.Fits (w.obey done))
    (distinct : ((l.table w).map l.rowId).Nodup) :
    ((l.table (w.obey commands)).map l.rowId).Nodup := by
  have others : ∀ stops, w.obey commands = { w with stops } → l ≠ .stops →
      l.table (w.obey commands) = l.table w := by
    intro stops same differs
    rw [same]
    cases l <;> first | rfl | exact absurd rfl differs
  by_cases isStops : l = .stops
  · subst isStops
    refine Warehouse.obey_nodup (fun done before s member => ?_) distinct
    obtain ⟨positive, bound, _⟩ := fit done before s member
    exact ⟨positive, bound⟩
  · obtain ⟨stops, same⟩ := w.obey_eq commands
    rw [others stops same isStops]
    exact distinct

end Listing

namespace Paging

variable {l : Listing}

/-- The answer to a request for a page, and the gateway after it. -/
def ask (p : Paging l) (after : Option String) (g : Gateway) :
    Except FieldError (List l.Row) × Gateway :=
  (l.ask ⟨p.limit, after, p.ids, p.filter⟩).run.run (g.startRequest p.client)

/-- The cursor to go on with: that of the last row, or the same when there is no row. -/
def next (after : Option String) : Except FieldError (List l.Row) → Option String
  | .ok page => (page.getLast?.map fun r => (l.cursor r).encode).or after
  | .error _ => after

/-- The client's cursor and the gateway at the time of each page. -/
def state (p : Paging l) (start : Gateway) : Nat → Option String × Gateway
  | 0 => (none, start)
  | n + 1 =>
    let (after, g) := p.state start n
    let (answer, g) := p.ask after g
    (next after answer, g.obey (p.commands n))

def gateway (p : Paging l) (start : Gateway) (n : Nat) : Gateway := (p.state start n).2

def page (p : Paging l) (start : Gateway) (n : Nat) : Except FieldError (List l.Row) :=
  (p.ask (p.state start n).1 (p.gateway start n)).1

/-- The row is what the client looks for. -/
def wants (p : Paging l) (g : Gateway) (r : l.Row) : Bool :=
  (p.ids.isEmpty || p.ids.contains (l.rowId r)) &&
    p.filter.all fun f => l.keep g.warehouse (l.capped g.settings f) r

variable {p : Paging l} {start : Gateway} {n : Nat}

/-! ## The gateway from page to page -/

theorem settings_gateway (p : Paging l) (start : Gateway) (n : Nat) :
    (p.gateway start n).settings = start.settings := by
  induction n with
  | zero => rfl
  | succ n ih =>
    have asked := (l.reads ⟨p.limit, (p.state start n).1, p.ids, p.filter⟩).settings
      ((p.gateway start n).startRequest p.client)
    have obeyed := ((p.ask (p.state start n).1 (p.gateway start n)).2.obey_spec (p.commands n)).2
    exact obeyed.trans (asked.trans ih)

theorem warehouse_succ (p : Paging l) (start : Gateway) (n : Nat) :
    (p.gateway start (n + 1)).warehouse = (p.gateway start n).warehouse.obey (p.commands n) := by
  have asked := (l.reads ⟨p.limit, (p.state start n).1, p.ids, p.filter⟩).warehouse
    ((p.gateway start n).startRequest p.client)
  have obeyed := ((p.ask (p.state start n).1 (p.gateway start n)).2.obey_spec (p.commands n)).1
  exact obeyed.trans (congrArg (Warehouse.obey · (p.commands n)) asked)

/-- The selection that the client pages through. -/
def pager (p : Paging l) (start : Gateway) : Pager l.Row l.Filter where
  limit := l.limit start p.limit
  ids := p.ids
  filter := p.filter.map (l.capped start.settings)
  key := l.key
  tables n := l.table (p.gateway start n).warehouse
  keeps n := l.keep (p.gateway start n).warehouse

theorem wants_pager (p : Paging l) (start : Gateway) (n : Nat) (r : l.Row) :
    (p.pager start).wants n r = p.wants (p.gateway start n) r := by
  rw [wants, settings_gateway, Pager.wants, pager, Option.all_map]
  rfl

variable (fit : ∀ n done, done <+: p.commands n →
    l.Fits ((p.gateway start n).obey done).warehouse)
  (distinct : ((l.table start.warehouse).map l.rowId).Nodup)

include fit in
theorem fits (n : Nat) : l.Fits (p.gateway start n).warehouse :=
  fit n [] List.nil_prefix

include fit distinct in
theorem ids_nodup (n : Nat) : ((l.table (p.gateway start n).warehouse).map l.rowId).Nodup := by
  induction n with
  | zero => exact distinct
  | succ n ih =>
    rw [warehouse_succ]
    refine Listing.obey_nodup (fun done before => ?_) ih
    rw [← ((p.gateway start n).obey_spec done).1]
    exact fit n done before

include fit distinct in
theorem pager_sound : (p.pager start).Sound where
  positive := l.limit_pos start p.limit
  distinct n := by
    refine List.Nodup.of_map Prod.snd ?_
    rw [List.map_map]
    exact ids_nodup fit distinct n
  alike := by
    cases versioned : l.isVersioned with
    | false => exact .inl fun _ r _ => Listing.versionId_of_bare versioned r
    | true => exact .inr fun n r member => ((fits fit n r member).2.2 versioned).1
  bounded n r member := by
    obtain ⟨positive, bound, version⟩ := fits fit n r member
    refine ⟨?_, positive, bound⟩
    cases versioned : l.isVersioned with
    | false =>
      have bare : l.versionId r = 0 := Listing.versionId_of_bare versioned r
      exact Int.le_trans (Int.le_of_eq bare) (by decide)
    | true => exact (version versioned).2

/-! ## Pages -/

theorem valid_after {c : Cursor} (sound : (p.pager start).Sound)
    (there : (p.pager start).after n = some c) : c.Valid := by
  obtain ⟨m, _, r, inPage, rfl⟩ := Pager.row_of_after there
  obtain ⟨version, positive, bound⟩ := sound.bounded m r (Pager.mem_table inPage)
  refine ⟨⟨?_, version⟩, Int.le_of_lt positive, bound⟩
  rcases sound.alike with bare | versioned
  · exact Int.le_of_eq (bare m r (Pager.mem_table inPage)).symm
  · exact Int.le_of_lt (versioned m r (Pager.mem_table inPage))

section
variable (sound : (p.pager start).Sound)
  (accepted : ∀ f b, p.filter = some f → l.box? f = some b →
    Request.checkBox b start.settings.maxRadius = .ok ())
  (unmerged : ∀ f, p.filter = some f → l.merges f = false)
include sound accepted unmerged

/-- A client with the cursor of the pager gets its page. -/
theorem page_of_cursor
    (cursor : (p.state start n).1 = ((p.pager start).after n).map Cursor.encode) :
    p.page start n = .ok ((p.pager start).page n) := by
  have read : Request.checkCursor (p.state start n).1 = .ok ((p.pager start).after n) := by
    rw [cursor]
    cases there : (p.pager start).after n with
    | none => rfl
    | some c => exact Cursor.check_encode (valid_after sound there)
  have settings : ((p.gateway start n).startRequest p.client).settings = start.settings :=
    settings_gateway p start n
  have limit := Listing.limit_of_settings settings p.limit (l := l)
  rw [page, ask, Listing.run_ask _ (settings.symm ▸ accepted) unmerged read, limit, settings]
  rfl

theorem pages_eq (n : Nat) :
    (p.state start n).1 = ((p.pager start).after n).map Cursor.encode ∧
      p.page start n = .ok ((p.pager start).page n) := by
  induction n with
  | zero => exact ⟨rfl, page_of_cursor sound accepted unmerged rfl⟩
  | succ n ih =>
    obtain ⟨cursor, paged⟩ := ih
    have moved : (p.state start (n + 1)).1 =
        ((p.pager start).after (n + 1)).map Cursor.encode := by
      have step : (p.state start (n + 1)).1 = next (p.state start n).1 (p.page start n) := rfl
      rw [step, paged, cursor, Pager.after_succ, next]
      cases ((p.pager start).page n).getLast? with
      | none => rfl
      | some r =>
        have encoded : l.cursor r = Cursor.ofKey (l.key r) := l.cursor_eq r
        simp only [Option.map_some, Option.some_or, encoded]
        rfl
    exact ⟨moved, page_of_cursor sound accepted unmerged moved⟩

end

/-- Unless the box of its filter is refused, the client reaches an empty page. The pages before hold
rows with growing keys, each of them wanted when its page was asked for, and among them exactly once
each row that is there and wanted at the time of every page. -/
theorem each_row_once (unmerged : ∀ f, p.filter = some f → l.merges f = false)
    (distinct : ((l.table start.warehouse).map l.rowId).Nodup)
    (fit : ∀ n done, done <+: p.commands n →
      l.Fits ((p.gateway start n).obey done).warehouse) :
    (∃ f b e, p.filter = some f ∧ l.box? f = some b ∧
      Request.checkBox b start.settings.maxRadius = .error e ∧ ∀ n, p.page start n = .error e) ∨
    ∃ (last : Nat) (pages : Nat → List l.Row),
      (∀ n, p.page start n = .ok (pages n)) ∧ pages last = [] ∧ (∀ n < last, pages n ≠ []) ∧
      (∀ n, ∀ r ∈ pages n, r ∈ l.table (p.gateway start n).warehouse ∧
        p.wants (p.gateway start n) r = true) ∧
      let returned := (List.range last).flatMap pages
      returned.Pairwise (fun a b => Precedes (l.key a) (l.key b)) ∧
        ∀ k, (∀ n ≤ last, ∃ r ∈ l.table (p.gateway start n).warehouse, l.key r = k ∧
          p.wants (p.gateway start n) r = true) → (returned.map l.key).count k = 1 := by
  by_cases refused : ∃ f b e, p.filter = some f ∧ l.box? f = some b ∧
      Request.checkBox b start.settings.maxRadius = .error e
  · obtain ⟨f, b, e, given, isBox, error⟩ := refused
    refine .inl ⟨f, b, e, given, isBox, error, fun n => ?_⟩
    have settings := settings_gateway p start n
    exact Listing.run_refused _ given isBox (settings.symm ▸ error)
  · have accepted : ∀ f b, p.filter = some f → l.box? f = some b →
        Request.checkBox b start.settings.maxRadius = .ok () := by
      intro f b given isBox
      cases checked : Request.checkBox b start.settings.maxRadius with
      | error e => exact absurd ⟨f, b, e, given, isBox, checked⟩ refused
      | ok _ => rfl
    have sound := pager_sound fit distinct
    obtain ⟨last, empty, filled, ordered, complete⟩ := sound.pages_complete
    refine .inr ⟨last, (p.pager start).page,
      fun n => (pages_eq sound accepted unmerged n).2, empty, filled, ?_, ordered, ?_⟩
    · intro n r member
      have inTable := Pager.mem_table member
      have asked := (Warehouse.mem_of_mem_select member).2
      rw [← wants_pager]
      exact ⟨inTable, ((sound.asked_iff inTable).mp asked).1⟩
    · intro k steady
      refine complete k fun n before => ?_
      obtain ⟨r, inTable, isKey, wanted⟩ := steady n before
      exact ⟨r, inTable, isKey, (wants_pager p start n r).trans wanted⟩

/-- Three stops, and a client who asks for two at a time. After the first page an administrator
deletes the first stop and adds another one. -/
def islandGateway : Gateway where
  warehouse := {
    feedVersions := [{ id := 1 }]
    stops := [{ id := 1, feedVersionId := 1 }, { id := 2, feedVersionId := 1 },
      { id := 3, feedVersionId := 1 }] }
  request := .start {} {}

def islandPaging : Paging .stops where
  limit := some 2
  commands n := if n = 0 then
    [⟨{ roles := [Role.admin] }, .delete 1⟩,
      ⟨{ roles := [Role.admin] }, .create { feedVersionId := some 1, stopId := some "pier" }⟩]
    else []

theorem warehouse_islandGateway (n : Nat) : (islandPaging.gateway islandGateway (n + 1)).warehouse =
    islandGateway.warehouse.obey (islandPaging.commands 0) := by
  induction n with
  | zero => exact warehouse_succ islandPaging islandGateway 0
  | succ n ih => exact (warehouse_succ islandPaging islandGateway (n + 1)).trans ih

theorem each_row_once_of_edited_stops :
    (∀ f, islandPaging.filter = some f → Listing.stops.merges f = false) ∧
      ((Listing.stops.table islandGateway.warehouse).map Listing.stops.rowId).Nodup ∧
      (∀ n done, done <+: islandPaging.commands n →
        Listing.stops.Fits ((islandPaging.gateway islandGateway n).obey done).warehouse) ∧
      ∃ (last : Nat) (pages : Nat → List Stop),
        (∀ n, islandPaging.page islandGateway n = .ok (pages n)) ∧ pages last = [] ∧
        let returned := (List.range last).flatMap pages
        (returned.map fun s => (s.feedVersionId, s.id)).count (1, 2) = 1 ∧
          (returned.map fun s => (s.feedVersionId, s.id)).count (1, 3) = 1 := by
  have unmerged : ∀ f, islandPaging.filter = some f → Listing.stops.merges f = false :=
    fun _ _ => rfl
  have distinct : ((Listing.stops.table islandGateway.warehouse).map
      Listing.stops.rowId).Nodup := by decide
  have fit : ∀ n done, done <+: islandPaging.commands n →
      Listing.stops.Fits ((islandPaging.gateway islandGateway n).obey done).warehouse := by
    intro n done before
    rw [(Gateway.obey_spec _ done).1]
    cases n with
    | zero =>
      have all : ∀ done ∈ (islandPaging.commands 0).inits,
          Listing.stops.Fits (islandGateway.warehouse.obey done) := by decide
      exact all done ((List.mem_inits _ _).mpr before)
    | succ n =>
      obtain rfl := List.prefix_nil.mp before
      rw [warehouse_islandGateway]
      decide
  have steady : ∀ id, id = 2 ∨ id = 3 → ∀ n, ∃ s ∈ Listing.stops.table
      (islandPaging.gateway islandGateway n).warehouse, Listing.stops.key s = (1, id) ∧
        islandPaging.wants (islandPaging.gateway islandGateway n) s = true := by
    intro id known n
    have there : ({ id, feedVersionId := 1 } : Stop) ∈
        (islandPaging.gateway islandGateway n).warehouse.stops := by
      cases n with
      | zero => rcases known with rfl | rfl <;> decide
      | succ n =>
        rw [warehouse_islandGateway]
        rcases known with rfl | rfl <;> decide
    exact ⟨_, there, rfl, rfl⟩
  rcases each_row_once unmerged distinct fit with ⟨_, _, _, given, _⟩ | complete
  · cases given
  · obtain ⟨last, pages, paged, empty, _, _, _, once⟩ := complete
    exact ⟨unmerged, distinct, fit, last, pages, paged, empty,
      once (1, 2) fun n _ => steady 2 (.inl rfl) n, once (1, 3) fun n _ => steady 3 (.inr rfl) n⟩

end Paging

end Transit
