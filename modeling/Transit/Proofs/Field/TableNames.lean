import Transit.Field.Census
import Transit.Proofs.Gateway.FieldRows
import Transit.Proofs.Text.Blank
import Transit.Proofs.Text.Separator
set_option autoImplicit false

/-!
# Census values by the names of tables

The names for which an area is asked come to the warehouse in one text, with commas between them,
and are read from it without blanks around them. The names read are those given exactly if there is
one, and none holds a comma or begins or ends with a blank (`readBack_same_iff`). For these lists,
and for no others, the values are those in the tables of the names
(`CensusGeography.values_named_iff`).
-/

namespace Transit

namespace TableNames

/-- The names that the warehouse reads from the text of a list. -/
def readBack (names : List String) : List String :=
  (Text.split ',' (",".intercalate names)).map Text.trim

/-- A name that stands for itself in the text of a list. -/
def Plain (name : String) : Prop :=
  ',' ∉ name.toList ∧ Text.trim name = name

variable {names : List String} {name : String}

theorem readBack_nil : readBack [] = [""] := by
  decide

theorem contains_readBack (names : List String) (table : String) : (readBack names).contains table =
    (Text.split ',' (",".intercalate names)).any fun part => Text.trim part == table := by
  rw [readBack, List.contains_eq_any_beq, List.any_map]
  simp only [Function.comp_def, BEq.comm]

/-- Each name of a list counts as its parts between commas, trimmed. -/
theorem readBack_of_ne_nil (some : names ≠ []) :
    readBack names = names.flatMap fun name => (Text.split ',' name).map Text.trim := by
  have mapped : names.map String.toList ≠ [] := by simpa using some
  have joined : (",".intercalate names).toList = [','].intercalate (names.map String.toList) :=
    String.toList_intercalate
  simp only [readBack, Text.split, joined, Text.splitChars_intercalate ',' mapped,
    List.flatMap_map, List.map_flatMap]

/-- Whatever is read is trimmed and free of commas. -/
theorem plain_of_mem_readBack (member : name ∈ readBack names) : Plain name := by
  obtain ⟨part, inParts, rfl⟩ := List.mem_map.mp member
  obtain ⟨cs, inSplit, rfl⟩ := List.mem_map.mp inParts
  refine ⟨?_, Text.trim_trim _⟩
  intro comma
  rw [Text.trim, String.toList_ofList, String.toList_ofList] at comma
  exact Text.not_mem_of_mem_splitChars inSplit (Text.mem_of_mem_trimChars comma)

theorem split_of_plain (plain : Plain name) : (Text.split ',' name).map Text.trim = [name] := by
  obtain ⟨without, trimmed⟩ := plain
  rw [Text.split, Text.splitChars_of_without without, List.map_singleton, String.ofList_toList,
    List.map_singleton, trimmed]

theorem readBack_of_plain (some : names ≠ []) (plain : ∀ name ∈ names, Plain name) :
    readBack names = names :=
  calc
    readBack names = names.flatMap fun name => (Text.split ',' name).map Text.trim :=
      readBack_of_ne_nil some
    _ = names.flatMap fun name => [name] :=
      List.flatMap_congr fun name member => split_of_plain (plain name member)
    _ = names := List.flatMap_singleton' names

/-- The names that are read are those that are given just if each stands for itself, and there is
one. -/
theorem readBack_same_iff :
    (∀ name, name ∈ readBack names ↔ name ∈ names) ↔ names ≠ [] ∧ ∀ name ∈ names, Plain name := by
  constructor
  · intro same
    refine ⟨?_, fun name member => plain_of_mem_readBack ((same name).mpr member)⟩
    rintro rfl
    have empty := (same "").mp (by simp [readBack_nil])
    contradiction
  · rintro ⟨some, plain⟩ name
    rw [readBack_of_plain some plain]

end TableNames

namespace Warehouse

variable {w : Warehouse} {names : List String}

/-- The values of an area in the tables of some names. -/
def valuesNamed (w : Warehouse) (geoid : String) (names : List String) : List CensusValue :=
  w.censusValues.filter fun v =>
    v.geoid == geoid && w.censusTables.any fun t => t.id == v.tableId && names.contains t.tableName

theorem valuesNamed_congr {others : List String} (same : ∀ name, name ∈ names ↔ name ∈ others)
    (w : Warehouse) (geoid : String) : w.valuesNamed geoid names = w.valuesNamed geoid others := by
  have contained : ∀ name, names.contains name = others.contains name := by
    intro name
    rw [Bool.eq_iff_iff, List.contains_iff_mem, List.contains_iff_mem]
    exact same name
  simp only [valuesNamed, contained]

def ofTable (name : String) : Warehouse where
  censusTables := [{ id := 1, tableName := name }]
  censusValues := [{ tableId := 1 }]

theorem take_valuesNamed_ofTable (name : String) (names : List String) :
    ((ofTable name).valuesNamed "" names).take (groupLimit none) ≠ [] ↔ name ∈ names := by
  by_cases member : name ∈ names <;> simp [valuesNamed, ofTable, member, groupLimit, maxGroupLimit]

end Warehouse

namespace CensusGeography

open TableNames

theorem gathers_values : Relation.censusValuesByGeography.Gathers (·.censusValues)
    (fun w key v => v.geoid == key.1 && w.censusTables.any fun t =>
      t.id == v.tableId && (Text.split ',' key.2).any fun n => Text.trim n == t.tableName)
    fun _ => Warehouse.anyRow :=
  ⟨fun _ _ => rfl, by decide⟩

theorem run_values {g : Gateway} (ready : g.Ready (.many .censusValuesByGeography))
    (area : CensusGeography) (names : List String) (limit : Option Int) :
    ((area.values names limit).run.run g).1 =
      .ok ((g.warehouse.valuesNamed area.geoid (readBack names)).take (groupLimit limit)) := by
  have ran := Resolve.run_rows gathers_values ready (area.geoid, ",".intercalate names) limit
    "values"
  simp only [← contains_readBack] at ran
  exact ran

/-- An area gets the values in the tables whose names are read back from the list. These are the
values in the tables of the list itself, whatever the warehouse, exactly if the list has a name and
each of its names stands for itself. -/
theorem values_named_iff (names : List String) :
    (∀ g : Gateway, g.Ready (.many .censusValuesByGeography) → ∀ area limit,
      ((values area names limit).run.run g).1 =
        .ok ((g.warehouse.valuesNamed area.geoid (readBack names)).take (groupLimit limit))) ∧
    (names ≠ [] →
      readBack names = names.flatMap fun name => (Text.split ',' name).map Text.trim) ∧
    ((∀ g : Gateway, g.Ready (.many .censusValuesByGeography) → ∀ area limit,
      ((values area names limit).run.run g).1 =
        .ok ((g.warehouse.valuesNamed area.geoid names).take (groupLimit limit))) ↔
      names ≠ [] ∧ ∀ name ∈ names, Plain name) := by
  refine ⟨fun g ready area limit => run_values ready area names limit, readBack_of_ne_nil, ?_⟩
  rw [← readBack_same_iff]
  constructor
  · intro named name
    -- A warehouse with one table tells whether the name of the table is read.
    have ready := Gateway.ready_ofWarehouse (.ofTable name) (.many .censusValuesByGeography)
    have same : ((Warehouse.ofTable name).valuesNamed "" (readBack names)).take (groupLimit none) =
        ((Warehouse.ofTable name).valuesNamed "" names).take (groupLimit none) :=
      Except.ok.inj ((run_values ready {} names none).symm.trans (named _ ready {} none))
    rw [← Warehouse.take_valuesNamed_ofTable, same, Warehouse.take_valuesNamed_ofTable]
  · intro same g ready area limit
    rw [run_values ready, Warehouse.valuesNamed_congr same]

/-- Tables with a value each for one area. -/
def oddlyNamed : Warehouse where
  censusTables := [{ id := 1, tableName := "" }, { id := 2, tableName := "a" },
    { id := 3, tableName := "b" }, { id := 4, tableName := "a,b" }, { id := 5, tableName := " a" }]
  censusValues := [1, 2, 3, 4, 5].map fun table => { geoid := "g", tableId := table }

theorem values_named_iff_of_plain :
    (Gateway.ofWarehouse oddlyNamed).Ready (.many .censusValuesByGeography) ∧
      (["b", "a"] ≠ [] ∧ ∀ name ∈ ["b", "a"], Plain name) ∧
      ((values { geoid := "g" } ["b", "a"] none).run.run (Gateway.ofWarehouse oddlyNamed)).1 =
        .ok [{ geoid := "g", tableId := 2 }, { geoid := "g", tableId := 3 }] := by
  have ready := Gateway.ready_ofWarehouse oddlyNamed (.many .censusValuesByGeography)
  have plain : ["b", "a"] ≠ [] ∧ ∀ name ∈ ["b", "a"], Plain name := by
    refine ⟨by simp, ?_⟩
    intro name member
    rcases List.mem_pair.mp member with rfl | rfl <;> exact ⟨by decide, by decide⟩
  exact ⟨ready, plain, (values_named_iff ["b", "a"]).2.2.mpr plain _ ready { geoid := "g" } none⟩

/-- No name stands for the table without a name, a name with a comma for the tables of its parts, and
a name with a blank for the table of the name without it. -/
theorem names_altered_in_key :
    ((values { geoid := "g" } [] none).run.run (Gateway.ofWarehouse oddlyNamed)).1 =
        .ok [{ geoid := "g", tableId := 1 }] ∧
      oddlyNamed.valuesNamed "g" [] = [] ∧
      ((values { geoid := "g" } ["a,b"] none).run.run (Gateway.ofWarehouse oddlyNamed)).1 =
        .ok [{ geoid := "g", tableId := 2 }, { geoid := "g", tableId := 3 }] ∧
      oddlyNamed.valuesNamed "g" ["a,b"] = [{ geoid := "g", tableId := 4 }] ∧
      ((values { geoid := "g" } [" a"] none).run.run (Gateway.ofWarehouse oddlyNamed)).1 =
        .ok [{ geoid := "g", tableId := 2 }] ∧
      oddlyNamed.valuesNamed "g" [" a"] = [{ geoid := "g", tableId := 5 }] := by
  have ready := Gateway.ready_ofWarehouse oddlyNamed (.many .censusValuesByGeography)
  have ran := fun names => run_values ready { geoid := "g" } names none
  exact ⟨ran [], rfl, ran ["a,b"], rfl, ran [" a"], rfl⟩

end CensusGeography

end Transit
