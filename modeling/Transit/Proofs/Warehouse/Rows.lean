import Transit.Proofs.Loader.GroupedQuery
import Transit.Warehouse.ByKey
set_option autoImplicit false

/-!
# The rows of a parent

The warehouse answers a batch of parents one by one (`children_eq`). For a stop and a filter the
answer consists of the rows of `rowsAt`, and in a window with two ends these are the rows whose time
lies between them (`inWindow_iff`).
-/

namespace Transit.Warehouse

section Children

variable {κ ω τ : Type} [Json.Encoded ω] (rows : List τ) (belongs : κ → τ → Bool)
  (keep : ω → τ → Bool) {params : List (Param κ ω)}

theorem length_children : (children rows belongs keep params).length = params.length :=
  Param.length_groupQuery _ _

theorem getElem?_children {i : Nat} {p : Param κ ω} (at_i : params[i]? = some p)
    (apart : Param.Apart params p) : (children rows belongs keep params)[i]? = some (.ok
      ((rows.filter fun r => belongs p.key r && p.filter.all (keep · r)).take
        (groupLimit p.limit))) :=
  Param.getElem?_groupQuery
    (fun filter _ key => rows.filter fun r => belongs key r && filter.all (keep · r))
    (fun _ _ _ => rfl) at_i apart

theorem children_eq (separated : Param.Separated params) :
    children rows belongs keep params = params.map fun p => .ok
      ((rows.filter fun r => belongs p.key r && p.filter.all (keep · r)).take
        (groupLimit p.limit)) :=
  Param.groupQuery_pointwise
    (fun filter _ key => rows.filter fun r => belongs key r && filter.all (keep · r))
    (fun _ _ _ => rfl) separated

end Children

/-- No field of a filter of stop times holds a floating point number. -/
theorem finite_stopTimeFilter (f : StopTimeFilter) : f.toJson.IsFinite := by
  unfold StopTimeFilter.toJson
  refine ⟨?_, ?_, ?_, ?_, ?_, ?_, ?_, ?_, ?_, ?_, ?_, Json.isFinite_ofTexts _, trivial⟩
  all_goals
    refine Json.isFinite_ofOption ?_ _
    intro _
    trivial

/-- The rows at a stop of a feed version that a filter admits, by time. -/
def rowsAt (w : Warehouse) (key : Int × Int) (filter : Option StopTimeFilter) : List StopTime :=
  (w.stopTimes.mergeSort timeLe).filter fun r =>
    (r.feedVersionId == key.1 && r.stopId == key.2) && filter.all (w.stopTimeMatches · r)

def stopTimesOf (w : Warehouse) (p : Param (Int × Int) StopTimeFilter) :
    Except LookupError (List StopTime) :=
  .ok ((w.rowsAt p.key p.filter).take (groupLimit p.limit))

theorem stopTimesByStop_eq (w : Warehouse) (params : List (Param (Int × Int) StopTimeFilter)) :
    w.stopTimesByStop params = params.map w.stopTimesOf :=
  children_eq _ _ _ (Param.separated_of_finite fun _ _ f _ => finite_stopTimeFilter f)

theorem mem_rowsAt {w : Warehouse} {key : Int × Int} {f : StopTimeFilter} {r : StopTime} :
    r ∈ w.rowsAt key (some f) ↔
      r ∈ w.stopTimes ∧ r.feedVersionId = key.1 ∧ r.stopId = key.2 ∧
        w.stopTimeMatches f r = true := by
  simp only [rowsAt, List.mem_filter, List.mem_mergeSort, Option.all_some,
    Bool.and_eq_true, beq_iff_eq, and_assoc]

theorem length_rowsAt_le (w : Warehouse) (key : Int × Int) (filter : Option StopTimeFilter) :
    (w.rowsAt key filter).length ≤ w.stopTimes.length :=
  calc
    _ ≤ (w.stopTimes.mergeSort timeLe).length := List.length_filter_le _ _
    _ = w.stopTimes.length := List.length_mergeSort _

theorem rowsAt_of_single {w : Warehouse} {row : StopTime} (only : w.stopTimes = [row])
    (key : Int × Int) (filter : Option StopTimeFilter) :
    w.rowsAt key filter = [row].filter fun r =>
      (r.feedVersionId == key.1 && r.stopId == key.2) && filter.all (w.stopTimeMatches · r) := by
  rw [rowsAt, only, List.mergeSort_singleton]

theorem timeLe_trans (a b c : StopTime) :
    timeLe a b = true → timeLe b c = true → timeLe a c = true := by
  unfold timeLe
  cases a.seconds? <;> cases b.seconds? <;> cases c.seconds? <;> simp <;> omega

theorem timeLe_total (a b : StopTime) : (timeLe a b || timeLe b a) = true := by
  unfold timeLe
  cases a.seconds? <;> cases b.seconds? <;> simp <;> omega

theorem le_of_timeLe {a b : StopTime} {t u : Int} (before : timeLe a b = true)
    (time : a.seconds? = some t) (later : b.seconds? = some u) : t ≤ u := by
  simp only [timeLe, time, later, Bool.or_eq_true, Bool.and_eq_true, decide_eq_true_eq,
    beq_iff_eq] at before
  omega

theorem rowsAt_ordered (w : Warehouse) (key : Int × Int) (filter : Option StopTimeFilter) :
    (w.rowsAt key filter).Pairwise fun a b => timeLe a b = true :=
  (List.pairwise_mergeSort timeLe_trans timeLe_total _).filter _

/-- A window with two ends holds the rows with a time between them. -/
theorem inWindow_iff {f : StopTimeFilter} {start stop : Int} {r : StopTime}
    (begins : f.startTime = some start) (ends : f.endTime = some stop) :
    inWindow f r = true ↔ ∃ t, r.seconds? = some t ∧ start ≤ t ∧ t < stop := by
  cases time : r.seconds? <;> simp [inWindow, begins, ends, time]

end Transit.Warehouse
