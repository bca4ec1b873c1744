import Transit.Gateway.Resolve
set_option autoImplicit false

/-!
Fields of census datasets, areas, values and tables.
-/

namespace Transit

def CensusDataset.sources (d : CensusDataset) (limit : Option Int)
    (filter : Option CensusSourceFilter) : Resolve (List CensusSource) :=
  Resolve.rows .censusSourcesByDataset d.id "sources" limit filter

/-- The values of an area in the tables of some names. The names are part of what identifies the
parent, with commas between them. -/
def CensusGeography.values (g : CensusGeography) (tableNames : List String) (limit : Option Int) :
    Resolve (List CensusValue) :=
  Resolve.rows .censusValuesByGeography (g.geoid, ",".intercalate tableNames) "values" limit none

def CensusValue.table (v : CensusValue) : Resolve (Option CensusTable) :=
  Resolve.row .censusTable v.tableId "table"

def CensusTable.fields (t : CensusTable) (limit : Option Int) : Resolve (List CensusField) :=
  Resolve.rows .censusFieldsByTable t.id "fields" limit none

end Transit
