import Transit.Proofs.Field.Paging
import Transit.Proofs.Warehouse.MergedPages
set_option autoImplicit false

/-!
# Paging through merged operators

A client who asks for merged operators page by page gets each onestop id that matches, but the
cursor is the id of a row, and each page merges only the rows after it. `merged_once_iff` says for
which onestop ids the client gets a second row.
-/

namespace Transit

namespace Warehouse

/-- A merged listing holds the first row of each onestop id among those that are asked for. -/
theorem listOperators_merged (w : Warehouse) {args : ListArgs OperatorFilter}
    (merged : (args.filter.bind (·.merged) == some true) = true) :
    w.listOperators args = (firstBy (fun o : Operator => o.onestopId) []
      (ranked w.operators args (fun o => (0, o.id)) w.operatorMatches)).take args.limit := by
  have whole := select_eq w.operators { args with limit := w.operators.length }
    (fun o => (0, o.id)) w.operatorMatches
  rw [List.take_of_length_le] at whole
  · rw [Warehouse.listOperators, merged, whole]
    rfl
  · rw [ranked, List.length_mergeSort]
    exact List.length_filter_le _ _

/-- The rows after a cursor are those of all rows that are asked for. -/
theorem ranked_after {τ ω : Type} {rows : List τ} {args : ListArgs ω} {key : τ → Int × Int}
    {keep : ω → τ → Bool} (distinct : (rows.map key).Nodup) :
    ranked rows args key keep = (ranked rows { args with after := none } key keep).filter
      fun r => args.after.all fun c => c.admits (key r).1 (key r).2 := by
  have perm : (ranked rows args key keep).Perm
      ((ranked rows { args with after := none } key keep).filter
        fun r => args.after.all fun c => c.admits (key r).1 (key r).2) := by
    have split : rows.filter (asked args key keep) =
        (rows.filter (asked { args with after := none } key keep)).filter
          fun r => args.after.all fun c => c.admits (key r).1 (key r).2 := by
      rw [List.filter_filter]
      refine List.filter_congr fun r _ => ?_
      simp only [asked, Option.all_none, Bool.and_true]
      ac_rfl
    refine (List.mergeSort_perm _ _).trans ?_
    rw [split]
    exact ((List.mergeSort_perm _ _).filter _).symm
  refine perm.eq_of_pairwise ?_ (ranked_ordered distinct) ((ranked_ordered distinct).filter _)
  intro a b _ _ first second
  exact absurd (first.trans second) (Precedes.irrefl _)

/-- The merged pages of the operators with one of some ids that a filter admits. -/
def mergedOperators (w : Warehouse) (limit : Nat) (ids : List Int)
    (filter : Option OperatorFilter) : MergedPager Operator where
  limit
  value o := o.onestopId
  id o := o.id
  rows := ranked w.operators ⟨limit, none, ids, filter⟩ (fun o => (0, o.id)) w.operatorMatches

variable {w : Warehouse} {limit : Nat} {ids : List Int} {filter : Option OperatorFilter}

theorem mem_mergedOperators {o : Operator} :
    o ∈ (w.mergedOperators limit ids filter).rows ↔ o ∈ w.operators ∧
      ((ids.isEmpty || ids.contains o.id) && filter.all (w.operatorMatches · o)) = true := by
  refine mem_ranked.trans (and_congr_right fun _ => ?_)
  simp only [asked, Option.all_none, Bool.and_true]

theorem keys_nodup (distinct : (w.operators.map (·.id)).Nodup) :
    (w.operators.map fun o => ((0 : Int), o.id)).Nodup := by
  refine List.Nodup.of_map Prod.snd ?_
  rw [List.map_map]
  exact distinct

theorem mergedOperators_sound (positive : 0 < limit) (distinct : (w.operators.map (·.id)).Nodup)
    (fit : ∀ o ∈ w.operators, 0 < o.id ∧ o.id ≤ Cursor.maxValue) :
    (w.mergedOperators limit ids filter).Sound where
  positive
  ordered := by
    refine (ranked_ordered (keys_nodup distinct)).imp ?_
    intro a b order
    simpa [Precedes, mergedOperators] using order
  bounded o member := fit o (mem_ranked.mp member).1

/-- A merged listing answers with a merged page. -/
theorem listOperators_pageAfter (merged : (filter.bind (·.merged) == some true) = true)
    (distinct : (w.operators.map (·.id)).Nodup) (after : Option Int) :
    w.listOperators ⟨limit, after.map MergedPager.cursor, ids, filter⟩ =
      (w.mergedOperators limit ids filter).pageAfter after := by
  have left : ranked w.operators ⟨limit, after.map MergedPager.cursor, ids, filter⟩
      (fun o => (0, o.id)) w.operatorMatches = (w.mergedOperators limit ids filter).left after := by
    rw [ranked_after (keys_nodup distinct)]
    refine List.filter_congr fun o _ => ?_
    cases after with
    | none => rfl
    | some c => rfl
  rw [listOperators_merged w merged, left]
  rfl

end Warehouse

namespace Paging

variable {p : Paging .operators} {start : Gateway} {f : OperatorFilter} {n : Nat}

/-- Commands on stops leave all other tables as they are. -/
theorem warehouse_eq (p : Paging .operators) (start : Gateway) (n : Nat) :
    ∃ stops, (p.gateway start n).warehouse = { start.warehouse with stops } := by
  induction n with
  | zero => exact ⟨start.warehouse.stops, rfl⟩
  | succ n ih =>
    obtain ⟨stops, before⟩ := ih
    obtain ⟨later, after⟩ := (p.gateway start n).warehouse.obey_eq (p.commands n)
    refine ⟨later, ?_⟩
    rw [warehouse_succ, after, before]

/-- What the client pages through. -/
def mergedPager (p : Paging .operators) (start : Gateway) : MergedPager Operator :=
  start.warehouse.mergedOperators (start.limit p.limit) p.ids p.filter

/-- The operators that the client looks for. -/
def matching (p : Paging .operators) (start : Gateway) : List Operator :=
  start.warehouse.operators.filter fun o => p.wants start o

theorem mem_matching {o : Operator} : o ∈ p.matching start ↔ o ∈ (p.mergedPager start).rows :=
  List.mem_filter.trans Warehouse.mem_mergedOperators.symm

section
variable (given : p.filter = some f) (merged : f.merged = some true)
  (distinct : (start.warehouse.operators.map (·.id)).Nodup)
include given merged distinct

/-- A client with the cursor of the merged pages gets the next of them. -/
theorem merged_page_of_cursor {after : Option Int}
    (read : Request.checkCursor (p.state start n).1 = .ok (after.map MergedPager.cursor)) :
    p.page start n = .ok ((p.mergedPager start).pageAfter after) := by
  have settings : (p.gateway start n).settings = start.settings := settings_gateway p start n
  have limit : (p.gateway start n).limit p.limit = start.limit p.limit :=
    Listing.limit_of_settings (l := .operators) settings p.limit
  have ran := Listing.run_plain "operators" "find_operators"
    ⟨p.limit, (p.state start n).1, p.ids, p.filter⟩ Gateway.limit Warehouse.listOperators
    ((p.gateway start n).startRequest p.client) read
  have merges : (Option.bind (α := OperatorFilter) p.filter (·.merged) == some true) = true := by
    rw [given]
    simp [merged]
  have listed : (p.gateway start n).warehouse.listOperators
      ⟨(p.gateway start n).limit p.limit, after.map MergedPager.cursor, p.ids, p.filter⟩ =
        (p.mergedPager start).pageAfter after := by
    obtain ⟨stops, same⟩ := warehouse_eq p start n
    rw [same, limit]
    exact Warehouse.listOperators_pageAfter (w := { start.warehouse with stops }) merges distinct
      after
  exact (congrArg Prod.fst ran).trans (congrArg Except.ok listed)

variable (fit : Listing.operators.Fits start.warehouse)
include fit

omit given merged in
theorem mergedPager_sound : (p.mergedPager start).Sound :=
  Warehouse.mergedOperators_sound (Listing.limit_pos .operators start p.limit) distinct
    fun o member => ⟨(fit o member).1, (fit o member).2.1⟩

theorem merged_pages_eq (n : Nat) :
    (p.state start n).1 = ((p.mergedPager start).after n).map (MergedPager.cursor · |>.encode) ∧
      p.page start n = .ok ((p.mergedPager start).page n) := by
  have sound := mergedPager_sound distinct fit (p := p)
  have paged {n : Nat} (cursor : (p.state start n).1 =
      ((p.mergedPager start).after n).map (MergedPager.cursor · |>.encode)) :
      p.page start n = .ok ((p.mergedPager start).page n) := by
    refine merged_page_of_cursor given merged distinct ?_
    rw [cursor]
    cases there : (p.mergedPager start).after n with
    | none => rfl
    | some id =>
      obtain ⟨positive, bound⟩ := sound.bounded_after there
      refine Cursor.check_encode ⟨⟨?_, ?_⟩, Int.le_of_lt positive, bound⟩
      · exact Int.le_refl 0
      · show (0 : Int) ≤ Cursor.maxValue
        decide
  induction n with
  | zero => exact ⟨rfl, paged rfl⟩
  | succ n ih =>
    obtain ⟨cursor, page⟩ := ih
    have moved : (p.state start (n + 1)).1 =
        ((p.mergedPager start).after (n + 1)).map (MergedPager.cursor · |>.encode) := by
      have step : (p.state start (n + 1)).1 = next (p.state start n).1 (p.page start n) := rfl
      rw [step, page, cursor, MergedPager.after]
      show ((((p.mergedPager start).page n).getLast?.map fun o : Operator => o.cursor.encode).or _) =
        _
      cases isLast : ((p.mergedPager start).page n).getLast? with
      | none =>
        rw [show ((p.mergedPager start).pageAfter _).getLast? = none from isLast]
        rfl
      | some final =>
        rw [show ((p.mergedPager start).pageAfter _).getLast? = some final from isLast]
        rfl
    exact ⟨moved, paged moved⟩

end

/-- A client of merged operators reaches an empty page. The pages before hold matching rows with
growing ids, and each onestop id that matches at least once. It comes exactly once if and only if no
page ends between two matching rows of it. -/
theorem merged_once_iff (p : Paging .operators) (start : Gateway) (f : OperatorFilter)
    (given : p.filter = some f) (merged : f.merged = some true)
    (distinct : (start.warehouse.operators.map (·.id)).Nodup)
    (fit : Listing.operators.Fits start.warehouse) :
    ∃ (last : Nat) (pages : Nat → List Operator),
      (∀ n, p.page start n = .ok (pages n)) ∧ pages last = [] ∧ (∀ n < last, pages n ≠ []) ∧
      let returned := (List.range last).flatMap pages
      returned.Pairwise (fun a b => a.id < b.id) ∧ (∀ o ∈ returned, o ∈ p.matching start) ∧
        ∀ o ∈ p.matching start, (∃ s ∈ returned, s.onestopId = o.onestopId) ∧
          ((∃! s, s ∈ returned ∧ s.onestopId = o.onestopId) ↔
            ∀ n < last, ∀ final, (pages n).getLast? = some final →
              ∀ s ∈ p.matching start, ∀ t ∈ p.matching start, s.onestopId = o.onestopId →
                t.onestopId = o.onestopId → s.id ≤ final.id → t.id ≤ final.id) := by
  have sound := mergedPager_sound distinct fit (p := p)
  obtain ⟨last, empty, filled, ordered⟩ := sound.pages_end
  refine ⟨last, (p.mergedPager start).page,
    fun n => (merged_pages_eq given merged distinct fit n).2, empty, filled, ordered, ?_, ?_⟩
  · intro o member
    obtain ⟨n, _, onPage⟩ := List.mem_flatMap.mp member
    rw [mem_matching]
    exact (MergedPager.mem_left.mp (MergedPager.mem_left_of_mem_page onPage)).1
  · intro o member
    simp only [mem_matching] at member ⊢
    refine ⟨?_, sound.returned_once_iff empty member⟩
    obtain ⟨j, _, before, s, onPage, same⟩ := sound.value_returned empty (Nat.zero_le last)
      (MergedPager.mem_left.mpr ⟨member, nofun⟩)
    exact ⟨s, List.mem_flatMap.mpr ⟨j, List.mem_range.mpr before, onPage⟩, same⟩

/-- An operator that two feeds describe, and one between them. -/
def ferries : List Operator :=
  [{ id := 1, onestopId := "o-a" }, { id := 2, onestopId := "o-b" }, { id := 3, onestopId := "o-a" }]

def ferryGateway : Gateway where
  warehouse := { operators := ferries }
  request := .start {} {}

/-- A client that asks for one merged operator at a time. -/
def ferryPaging : Paging .operators where
  limit := some 1
  filter := some { merged := some true }
  commands _ := []

def ferryPager : MergedPager Operator where
  limit := 1
  value o := o.onestopId
  id o := o.id
  rows := ferries

theorem mergedPager_ferryPaging : ferryPaging.mergedPager ferryGateway = ferryPager := by
  have rows : (ferryPaging.mergedPager ferryGateway).rows = ferries :=
    List.mergeSort_of_pairwise (by decide)
  calc
    ferryPaging.mergedPager ferryGateway =
        { ferryPager with rows := (ferryPaging.mergedPager ferryGateway).rows } := rfl
    _ = ferryPager := by rw [rows]; rfl

theorem after_ferryPager (n : Nat) : ferryPager.after (n + 3) = some 3 := by
  induction n with
  | zero => rfl
  | succ n ih =>
    rw [MergedPager.after, ih]
    rfl

theorem fits_ferryGateway : Listing.operators.Fits ferryGateway.warehouse := by decide

theorem page_ferryPaging (n : Nat) :
    ferryPaging.page ferryGateway n = .ok ((ferries.drop n).take 1) := by
  rw [(merged_pages_eq rfl rfl (by decide) fits_ferryGateway n).2, mergedPager_ferryPaging]
  match n with
  | 0 => rfl
  | 1 => rfl
  | 2 => rfl
  | n + 3 =>
    have passed : ferries.drop (n + 3) = [] := List.drop_eq_nil_of_le (Nat.le_add_left 3 n)
    rw [MergedPager.page, after_ferryPager, passed]
    rfl

/-- The second operator comes once. The first page ends between the two rows of the other one. -/
theorem merged_once_iff_of_ferries :
    ferryPaging.filter = some { merged := some true } ∧
      (ferryGateway.warehouse.operators.map (·.id)).Nodup ∧
      Listing.operators.Fits ferryGateway.warehouse ∧
      ∃ (last : Nat) (pages : Nat → List Operator),
        (∀ n, ferryPaging.page ferryGateway n = .ok (pages n)) ∧ pages last = [] ∧
        let returned := (List.range last).flatMap pages
        (∃! s, s ∈ returned ∧ s.onestopId = "o-b") ∧
          (∃ s ∈ returned, s.onestopId = "o-a") ∧
          ¬ ∃! s, s ∈ returned ∧ s.onestopId = "o-a" := by
  have distinct : (ferryGateway.warehouse.operators.map (·.id)).Nodup := by decide
  refine ⟨rfl, distinct, fits_ferryGateway, ?_⟩
  obtain ⟨last, pages, paged, empty, filled, _, _, complete⟩ :=
    merged_once_iff ferryPaging ferryGateway { merged := some true } rfl rfl distinct
      fits_ferryGateway
  have whole : ferryPaging.matching ferryGateway = ferries := by decide
  rw [whole] at complete
  have first : pages 0 = [{ id := 1, onestopId := "o-a" }] :=
    Except.ok.inj ((paged 0).symm.trans (page_ferryPaging 0))
  refine ⟨last, pages, paged, empty, ?_, ?_, ?_⟩
  · refine (complete { id := 2, onestopId := "o-b" } (by decide)).2.mpr ?_
    intro n _ final _ s isFerry t alsoFerry isB same passed
    have second : ∀ o ∈ ferries, o.onestopId = "o-b" → o.id = 2 := by decide
    rw [second t alsoFerry same, ← second s isFerry isB]
    exact passed
  · exact (complete { id := 1, onestopId := "o-a" } (by decide)).1
  · rw [(complete { id := 1, onestopId := "o-a" } (by decide)).2]
    intro together
    have begun : 0 < last := by
      refine Nat.pos_of_ne_zero fun none => ?_
      rw [none, first] at empty
      cases empty
    have passed := together 0 begun _ (by rw [first]; rfl) { id := 1, onestopId := "o-a" }
      (by decide) { id := 3, onestopId := "o-a" } (by decide) rfl rfl (by decide)
    exact absurd passed (by decide)

/-- The client gets the operator of two feeds on its first page and on its third. -/
theorem onestop_id_on_two_pages :
    (ferryGateway.warehouse.operators.map (·.id)).Nodup ∧
      (∀ o ∈ ferryGateway.warehouse.operators, 0 < o.id) ∧
      ferryPaging.page ferryGateway 0 = .ok [{ id := 1, onestopId := "o-a" }] ∧
      ferryPaging.page ferryGateway 1 = .ok [{ id := 2, onestopId := "o-b" }] ∧
      ferryPaging.page ferryGateway 2 = .ok [{ id := 3, onestopId := "o-a" }] ∧
      ferryPaging.page ferryGateway 3 = .ok [] :=
  ⟨by decide, by decide, page_ferryPaging 0, page_ferryPaging 1, page_ferryPaging 2,
    page_ferryPaging 3⟩

end Paging

end Transit
