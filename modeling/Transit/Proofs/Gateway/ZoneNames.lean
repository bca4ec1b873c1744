import Transit.Proofs.Gateway.Remembered
import Transit.Proofs.Realtime.Merge
set_option autoImplicit false

/-!
# The names that give a stop its zone

Four names may give the zone of a stop: the known one, its own, that of its parent station and that
of the first agency of its feed version. A look-up goes by the first name that is set and by none
after it, whether it names a zone or not (`answer_stopZone_eq`). So the answer is the first zone that
is named exactly if the first name that is set names one, or no name does (`Task.first_zone_iff`).
-/

namespace Transit

namespace IdCache

/-- The names in the records of a stop, foremost first. -/
def recordedNames (w : Warehouse) (id : Int) : List String :=
  (w.stop? id).elim [] fun stop =>
    stop.stopTimezone :: (((stop.parentStation.bind w.stop?).map (·.stopTimezone)).toList ++
      ((w.agencies.find? (·.feedVersionId == stop.feedVersionId)).map (·.agencyTimezone)).toList)

/-- All names that may give the zone of a stop, foremost first. -/
def zoneNames (w : Warehouse) (id : Int) (known : String) : List String :=
  known :: recordedNames w id

/-- The name that decides: the first that is set. The records of id 0 are not looked up. -/
def decisive? (w : Warehouse) (id : Int) (known : String) : Option String :=
  if known != "" then some known
  else if id == 0 then none
  else (recordedNames w id).find? (· != "")

/-- The first zone among those that some names stand for. -/
def firstZone? (names : List String) : Option Zone := names.findSome? zoneNamed?

variable {w : Warehouse} {c : IdCache} {id : Int} {known name : String} {names : List String}
  {zone : Zone}

theorem zoneNamed?_empty : zoneNamed? "" = none := by
  rfl

/-- The name of an agency decides when nothing before it does, and then it may be empty. -/
theorem agencyZone?_eq (w : Warehouse) (version : Int) :
    agencyZone? w version =
      (((w.agencies.find? (·.feedVersionId == version)).map (·.agencyTimezone)).toList.find?
        (· != "")).bind zoneNamed? := by
  unfold agencyZone?
  cases w.agencies.find? (·.feedVersionId == version) with
  | none => rfl
  | some agency =>
    show zoneNamed? agency.agencyTimezone =
      ([agency.agencyTimezone].find? (· != "")).bind zoneNamed?
    rw [List.find?_cons]
    split
    · rfl
    · next unset =>
      have empty : agency.agencyTimezone = "" := by simpa using unset
      rw [empty]
      exact zoneNamed?_empty

theorem zoneOfStop_eq (w : Warehouse) (id : Int) :
    (zoneOfStop w id).1 = ((recordedNames w id).find? (· != "")).bind zoneNamed? := by
  unfold zoneOfStop recordedNames
  cases w.stop? id with
  | none => rfl
  | some stop =>
    dsimp only [Option.elim_some]
    rw [List.find?_cons]
    cases own : stop.stopTimezone != "" with
    | true => rfl
    | false =>
      simp only [Bool.false_eq_true, if_false]
      cases stop.parentStation with
      | none => exact agencyZone?_eq w stop.feedVersionId
      | some parentId =>
        dsimp only [Option.bind_some]
        cases w.stop? parentId with
        | none => exact agencyZone?_eq w stop.feedVersionId
        | some parent =>
          simp only [Option.map_some, Option.toList_some, List.cons_append, List.nil_append,
            Option.filter_some]
          rw [List.find?_cons]
          cases parent.stopTimezone != "" with
          | true => rfl
          | false => exact agencyZone?_eq w stop.feedVersionId

/-- A zone that has not been looked up yet is that of the name that decides. -/
theorem answer_stopZone_eq (fresh : c.stopZones.lookup id = none) (known : String) :
    (stopZone id known w c).answer = .ok ((decisive? w id known).bind zoneNamed?) := by
  rw [answer_stopZone, stopZone?, zone?, fresh, Option.getD_none, zoneOfStop_eq]
  unfold decisive?
  split
  · rfl
  · split <;> rfl

/-- Names that are not set stand for no zone. -/
theorem firstZone?_of_find? (first : names.find? (· != "") = some name)
    (named : zoneNamed? name = some zone) : firstZone? names = some zone := by
  unfold firstZone?
  induction names with
  | nil => cases first
  | cons other rest ih =>
    rw [List.find?_cons] at first
    rw [List.findSome?_cons]
    split at first
    · obtain rfl := Option.some.inj first
      rw [named]
    · next unset =>
      obtain rfl : other = "" := by simpa using unset
      rw [zoneNamed?_empty]
      exact ih first

theorem firstZone?_of_decisive (first : decisive? w id known = some name)
    (named : zoneNamed? name = some zone) : firstZone? (zoneNames w id known) = some zone := by
  refine firstZone?_of_find? ?_ named
  unfold decisive? at first
  rw [zoneNames, List.find?_cons]
  cases set : known != "" with
  | true => simpa [set] using first
  | false =>
    rw [set] at first
    simp only [Bool.false_eq_true, if_false] at first
    split at first
    · cases first
    · exact first

/-- Going by the name that decides finds the first zone if that name is one of a zone, and also if
there is nothing to find. -/
theorem decisive_zone_iff (w : Warehouse) (id : Int) (known : String) :
    (decisive? w id known).bind zoneNamed? = firstZone? (zoneNames w id known) ↔
      (∃ name zone, decisive? w id known = some name ∧ zoneNamed? name = some zone) ∨
        ∀ name ∈ zoneNames w id known, zoneNamed? name = none := by
  cases decided : (decisive? w id known).bind zoneNamed? with
  | some zone =>
    obtain ⟨name, first, named⟩ := Option.bind_eq_some_iff.mp decided
    exact iff_of_true (firstZone?_of_decisive first named).symm (.inl ⟨name, zone, first, named⟩)
  | none =>
    rw [eq_comm, firstZone?, List.findSome?_eq_none_iff]
    refine ⟨.inr, fun reached => reached.resolve_left ?_⟩
    rintro ⟨name, zone, first, named⟩
    rw [first, Option.bind_some, named] at decided
    cases decided

end IdCache

namespace Task

open IdCache

/-- A look-up of the zone of a stop that has not been looked up yet succeeds. It finds the zone of
the first name that is set, if it is the name of one. This is the first zone that the known name,
the stop's own, its parent station's and the first agency's stand for exactly if the first name that
is set stands for a zone, or none of them does. -/
theorem first_zone_iff {g : Gateway} {id : Int} (fresh : g.ids.stopZones.lookup id = none)
    (known : String) :
    ∃ found, ((stopZone id known).run g).1 = .ok found ∧
      found = (decisive? g.warehouse id known).bind zoneNamed? ∧
      (found = firstZone? (zoneNames g.warehouse id known) ↔
        (∃ name zone, decisive? g.warehouse id known = some name ∧ zoneNamed? name = some zone) ∨
          ∀ name ∈ zoneNames g.warehouse id known, zoneNamed? name = none) := by
  refine ⟨_, ?_, rfl, decisive_zone_iff g.warehouse id known⟩
  rw [stopZone, run_remember]
  exact answer_stopZone_eq fresh known

/-- Stop 7 lies in station 8. Only the agency has a zone, and the name of stop 9 is that of none. -/
def platforms : Gateway where
  warehouse := {
    agencies := [{ id := 1, feedVersionId := 1, agencyTimezone := "UTC" }]
    stops := [
      { id := 7, feedVersionId := 1, stopId := "S", parentStation := some 8 },
      { id := 8, feedVersionId := 1, stopId := "P" },
      { id := 9, feedVersionId := 1, stopId := "M", stopTimezone := "Mars/Olympus_Mons" }] }
  request := .start {} {}

theorem first_zone_iff_of_platform :
    platforms.ids.stopZones.lookup 7 = none ∧
      ((stopZone 7 "").run platforms).1 = .ok (some ⟨"UTC", 0, []⟩) ∧
      firstZone? (zoneNames platforms.warehouse 7 "") = some ⟨"UTC", 0, []⟩ := by
  have fresh : platforms.ids.stopZones.lookup 7 = none := rfl
  obtain ⟨found, ran, decided, first⟩ := first_zone_iff (g := platforms) fresh ""
  have named : zoneNamed? "UTC" = some ⟨"UTC", 0, []⟩ := rfl
  have set : decisive? platforms.warehouse 7 "" = some "UTC" := rfl
  rw [set, Option.bind_some, named] at decided
  obtain rfl := decided
  exact ⟨fresh, ran, (first.mpr (.inl ⟨"UTC", _, set, named⟩)).symm⟩

/-- The agency's name stands for a zone, but the stop's own is set, and so is a known one. -/
theorem no_zone_behind_unknown_name :
    firstZone? (zoneNames platforms.warehouse 9 "") = some ⟨"UTC", 0, []⟩ ∧
      ((stopZone 9 "").run platforms).1 = .ok none ∧
      firstZone? (zoneNames platforms.warehouse 7 "Mars/Olympus_Mons") = some ⟨"UTC", 0, []⟩ ∧
      ((stopZone 7 "Mars/Olympus_Mons").run platforms).1 = .ok none :=
  ⟨rfl, rfl, rfl, rfl⟩

end Task

end Transit
