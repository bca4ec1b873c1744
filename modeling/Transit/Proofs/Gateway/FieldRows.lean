import Transit.Proofs.Gateway.Running
import Transit.Proofs.Warehouse.Rows
set_option autoImplicit false

/-!
# What fields get from the warehouse

As long as a request goes on, a field that loads the row of an id gets that row (`run_row`). A field
that loads the rows of a parent without a filter gets them in their order, up to the limit, whatever
filters the other parents of the batch come with (`run_rows`).
-/

namespace Transit

namespace Relation

/-- The relation gives each parent the rows that belong to it, and every filter of it has a text. -/
structure Gathers (r : Relation) [Json.Encoded r.Filter] (rows : Warehouse → List r.Row)
    (belongs : Warehouse → r.Parent → r.Row → Bool) (keep : Warehouse → r.Filter → r.Row → Bool) :
    Prop where
  finds : ∀ w params, r.find w params = Warehouse.children (rows w) (belongs w) (keep w) params
  written : ∀ f : r.Filter, (Json.Encoded.toJson f).text ≠ ""

variable {r : Relation} [Json.Encoded r.Filter] {rows : Warehouse → List r.Row}
  {belongs : Warehouse → r.Parent → r.Row → Bool} {keep : Warehouse → r.Filter → r.Row → Bool}

/-- A parent without a filter is looked up on its own. -/
theorem Gathers.apart (gathers : r.Gathers rows belongs keep) (parent : r.Parent)
    (limit : Option Int) :
    Gateway.Apart (.many r)
      (fun w p => .ok (((rows w).filter (belongs w p.key)).take (groupLimit p.limit)))
      ⟨parent, limit, none⟩ := by
  refine ⟨?_, ?_⟩
  · intro w params
    exact (congrArg List.length (gathers.finds w params)).trans (Warehouse.length_children _ _ _)
  · intro w params index carried
    have found := Warehouse.getElem?_children (rows w) (belongs w) (keep w) carried
      (Param.apart_of_unfiltered rfl gathers.written params)
    simp only [Option.all_none, Bool.and_true] at found
    exact (congrArg (·[index]?) (gathers.finds w params)).trans found

end Relation

namespace Gateway

/-- A fresh request on a gateway of which only the warehouse is given. -/
def ofWarehouse (warehouse : Warehouse) : Gateway where
  warehouse
  request := .start {} {}

theorem ready_ofWarehouse (w : Warehouse) (l : Lookup) : (ofWarehouse w).Ready l :=
  ready_startRequest (ofWarehouse w) {} l

end Gateway

namespace Resolve

variable {g : Gateway}

/-- A request that goes on gets what the warehouse has for a key that is looked up on its own. -/
theorem run_load {l : Lookup} {value : Warehouse → l.Key → Except LookupError l.Value} {key : l.Key}
    (ready : g.Ready l) (apart : Gateway.Apart l value key) (field : String) :
    ((load l key field).run.run g).1 =
      ofLoaded field (LoadError.ofEntry (value g.warehouse key)) := by
  have alone : ∀ other ∈ [key], Gateway.Apart l value other := by
    intro other member
    obtain rfl := List.mem_singleton.mp member
    exact apart
  have got := Gateway.loadAll_complete ready alone
  refine (congrArg Prod.fst (Task.run_load l [key] _ g)).trans ?_
  rw [got]
  rfl

theorem separate_reference (r : Reference) :
    Gateway.Separate (.one r) fun w id => .ok (r.find? w id) :=
  fun _ _ => rfl

theorem run_row {r : Reference} (ready : g.Ready (.one r)) (id : Int) (field : String) :
    ((row r id field).run.run g).1 = .ok (r.find? g.warehouse id) :=
  run_load ready ((separate_reference r).apart id) field

theorem run_rows {r : Relation} [Json.Encoded r.Filter] {rows : Warehouse → List r.Row}
    {belongs : Warehouse → r.Parent → r.Row → Bool} {keep : Warehouse → r.Filter → r.Row → Bool}
    (gathers : r.Gathers rows belongs keep) (ready : g.Ready (.many r)) (parent : r.Parent)
    (limit : Option Int) (field : String) :
    ((Resolve.rows r parent field limit none).run.run g).1 =
      .ok (((rows g.warehouse).filter (belongs g.warehouse parent)).take (groupLimit limit)) :=
  run_load ready (gathers.apart parent limit) field

end Resolve

end Transit
