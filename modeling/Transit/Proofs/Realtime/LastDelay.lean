import Transit.Proofs.Realtime.Visits
set_option autoImplicit false

/-!
# The delay that reaches a call

A call gets the delay that an earlier stop of its trip has reported. Which stop is earlier goes by
the place of the entries: before the call's own entry if it has one, else the last of those with a
lower stop sequence (`lastDelay_iff`). So the delay is that of the nearest earlier stop where the
entries are listed in the order of their sequences and a call's entry carries the sequence of the
call, and in general exactly where the last such entry is the one with the greatest sequence below
the call's (`last_delay_nearest_iff`).
-/

namespace Transit

open Realtime

/-- The last value that a function finds along a list comes from the last element for which it finds
one. -/
theorem getLast?_filterMap_eq_some_iff {α β : Type} (f : α → Option β) (xs : List α) (b : β) :
    (xs.filterMap f).getLast? = some b ↔
      ∃ i, xs[i]?.bind f = some b ∧ ∀ j : Nat, i < j → xs[j]?.bind f = none := by
  rw [List.getLast?_filterMap, List.findSome?_eq_some_iff]
  constructor
  · rintro ⟨after, a, before, split, found, none⟩
    have whole : xs = before.reverse ++ a :: after.reverse := by
      rw [← List.reverse_reverse xs, split]
      simp
    refine ⟨before.reverse.length, ?_, ?_⟩
    · rw [whole, List.getElem?_append_right (Nat.le_refl _), Nat.sub_self]
      exact found
    · intro j later
      obtain ⟨k, rfl⟩ := Nat.exists_eq_add_of_lt later
      have place : before.reverse.length + k + 1 - before.reverse.length = k + 1 := by omega
      rw [whole, List.getElem?_append_right (Nat.le_of_lt later), place, List.getElem?_cons_succ,
        Option.bind_eq_none_iff]
      intro c inside
      exact none c (List.mem_reverse.mp (List.mem_of_getElem? inside))
  · rintro ⟨i, here, none⟩
    obtain ⟨a, at_i, found⟩ := Option.bind_eq_some_iff.mp here
    obtain ⟨inside, rfl⟩ := List.getElem?_eq_some_iff.mp at_i
    refine ⟨(xs.drop (i + 1)).reverse, xs[i], (xs.take i).reverse, ?_, found, ?_⟩
    · have whole : xs = xs.take i ++ xs[i] :: xs.drop (i + 1) := by
        rw [← List.drop_eq_getElem_cons inside, List.take_append_drop]
      have reversed := congrArg List.reverse whole
      rwa [List.reverse_append, List.reverse_cons, List.append_assoc] at reversed
    · intro c member
      obtain ⟨k, at_k⟩ := List.mem_iff_getElem?.mp (List.mem_reverse.mp member)
      rw [List.getElem?_drop] at at_k
      have nothing := none (i + 1 + k) (by omega)
      rwa [at_k] at nothing

namespace Realtime.TripUpdate

/-- What an update says apart from times: the stop sequence and the stop of each entry, and whether
it reports a delay. -/
def shape (t : TripUpdate) : List (Option Nat × Option String × Bool) :=
  t.stopTimeUpdates.map fun u => (u.stopSequence, u.stopId, u.reportedDelay?.isSome)

def sequenceAt? (t : TripUpdate) (i : Nat) : Option Int :=
  (t.stopTimeUpdates[i]?.bind (·.stopSequence)).map fun (n : Nat) => (n : Int)

def delayAt? (t : TripUpdate) (i : Nat) : Option Int :=
  t.stopTimeUpdates[i]?.bind (·.reportedDelay?)

def reportsAt (t : TripUpdate) (i : Nat) : Bool :=
  (t.delayAt? i).isSome

variable {t t' : TripUpdate} {sequence d : Int} {stopId : Option String} {i : Nat}

/-- The entry is one of those that may pass its delay on to a call: it stands before the call's own
entry, or has a lower stop sequence where the call has no entry. -/
def Heeds (t : TripUpdate) (sequence : Int) (stopId : Option String) (i : Nat) : Prop :=
  match t.visitIndex? sequence stopId with
  | some own => i < own
  | none => ∃ n, t.sequenceAt? i = some n ∧ n < sequence

/-- The entry is the last of them that reports a delay. -/
structure PassesOn (t : TripUpdate) (sequence : Int) (stopId : Option String) (i : Nat) : Prop where
  heeded : t.Heeds sequence stopId i
  reports : t.reportsAt i = true
  last : ∀ j, i < j → t.Heeds sequence stopId j → t.reportsAt j = false

/-- The entry has the greatest stop sequence below the call's among those that report a delay. -/
structure Nearest (t : TripUpdate) (sequence : Int) (i : Nat) : Prop where
  reports : t.reportsAt i = true
  earlier : ∃ n, t.sequenceAt? i = some n ∧ n < sequence ∧
    ∀ j m, t.sequenceAt? j = some m → m < sequence → t.reportsAt j = true → m ≤ n

/-- The delay that reaches a call is one that a nearest entry reports. -/
def GivesNearest (t : TripUpdate) (sequence : Int) (stopId : Option String) : Prop :=
  ∀ d, (t.visit? sequence stopId).bind (·.lastDelay) = some d →
    ∃ i, t.Nearest sequence i ∧ t.delayAt? i = some d

/-- Every entry carries a stop sequence, greater than those before it. -/
structure InOrder (t : TripUpdate) : Prop where
  numbered : ∀ u ∈ t.stopTimeUpdates, u.stopSequence.isSome = true
  growing : ∀ i j m n, i < j → t.sequenceAt? i = some m → t.sequenceAt? j = some n → m < n

theorem lastDelay?_take_iff (own : Nat) :
    lastDelay? (t.stopTimeUpdates.take own) = some d ↔
      ∃ i, (i < own ∧ t.delayAt? i = some d) ∧ ∀ j, i < j → j < own → t.delayAt? j = none := by
  have taken (j : Nat) : (t.stopTimeUpdates.take own)[j]?.bind (·.reportedDelay?) =
      if j < own then t.delayAt? j else none := by
    rw [List.getElem?_take, delayAt?]
    split <;> rfl
  rw [lastDelay?, getLast?_filterMap_eq_some_iff]
  simp only [taken, Option.ite_none_right_eq_some, ite_eq_right_iff]

theorem lastDelay?_earlier_iff :
    lastDelay? (t.stopTimeUpdates.filter fun u =>
        u.stopSequence.any fun s => (s : Int) < sequence) = some d ↔
      ∃ i, ((∃ n, t.sequenceAt? i = some n ∧ n < sequence) ∧ t.delayAt? i = some d) ∧
        ∀ j, i < j → (∃ n, t.sequenceAt? j = some n ∧ n < sequence) → t.delayAt? j = none := by
  have kept (j : Nat) : (t.stopTimeUpdates[j]?.bind fun u =>
      if u.stopSequence.any fun s => (s : Int) < sequence then u.reportedDelay? else none) =
        if (t.sequenceAt? j).any (· < sequence) then t.delayAt? j else none := by
    rw [sequenceAt?, delayAt?]
    cases t.stopTimeUpdates[j]? with
    | none => rfl
    | some u => cases numbered : u.stopSequence <;> simp [numbered]
  rw [lastDelay?, List.filterMap_filter, getLast?_filterMap_eq_some_iff]
  simp only [kept]
  simp only [Option.ite_none_right_eq_some, ite_eq_right_iff, Option.any_eq_true,
    decide_eq_true_eq]

theorem delayAt?_eq_none_iff : t.delayAt? i = none ↔ t.reportsAt i = false := by
  rw [reportsAt, Option.isSome_eq_false_iff, Option.isNone_iff_eq_none]

/-- The delay that reaches a call is that of the entry that passes it on. -/
theorem lastDelay_iff : (t.visit? sequence stopId).bind (·.lastDelay) = some d ↔
    ∃ i, t.PassesOn sequence stopId i ∧ t.delayAt? i = some d := by
  have passes (i : Nat) : t.PassesOn sequence stopId i ∧ t.delayAt? i = some d ↔
      (t.Heeds sequence stopId i ∧ t.delayAt? i = some d) ∧
        ∀ j, i < j → t.Heeds sequence stopId j → t.delayAt? j = none := by
    simp only [delayAt?_eq_none_iff]
    constructor
    · rintro ⟨source, known⟩
      exact ⟨⟨source.heeded, known⟩, source.last⟩
    · rintro ⟨⟨heeded, known⟩, last⟩
      exact ⟨⟨heeded, by rw [reportsAt, known]; rfl, last⟩, known⟩
  simp only [passes]
  unfold visit? Heeds
  cases t.visitIndex? sequence stopId with
  | some own => exact lastDelay?_take_iff own
  | none =>
    rw [← lastDelay?_earlier_iff]
    simp [Option.bind_map]

/-- A call without an entry gets a delay if an entry with a lower stop sequence reports one. -/
theorem exists_lastDelay (unvisited : t.visitIndex? sequence stopId = none) {n : Int}
    (numbered : t.sequenceAt? i = some n) (earlier : n < sequence) (reports : t.reportsAt i = true) :
    ∃ d, t.visit? sequence stopId = some ⟨none, some d⟩ := by
  obtain ⟨d, known⟩ := Option.isSome_iff_exists.mp reports
  obtain ⟨u, at_i, reported⟩ := Option.bind_eq_some_iff.mp known
  unfold visit?
  rw [unvisited]
  cases found : lastDelay? (t.stopTimeUpdates.filter fun u =>
      u.stopSequence.any fun s => (s : Int) < sequence) with
  | some d => exact ⟨d, by simp only [found, Option.map_some]⟩
  | none =>
    rw [lastDelay?, List.getLast?_eq_none_iff, List.filterMap_eq_nil_iff] at found
    have kept : u ∈ t.stopTimeUpdates.filter fun u =>
        u.stopSequence.any fun s => (s : Int) < sequence := by
      refine List.mem_filter.mpr ⟨List.mem_of_getElem? at_i, ?_⟩
      rw [sequenceAt?, at_i, Option.bind_some] at numbered
      obtain ⟨m, carries, rfl⟩ := Option.map_eq_some_iff.mp numbered
      simpa [carries] using earlier
    rw [found u kept] at reported
    cases reported

/-! ## Only the shape matters -/

section Shape

variable (same : t'.shape = t.shape)
include same

theorem sequenceAt?_congr (i : Nat) : t'.sequenceAt? i = t.sequenceAt? i := by
  have ofShape (t : TripUpdate) : t.sequenceAt? i =
      (t.shape[i]?.bind (·.1)).map fun (n : Nat) => (n : Int) := by
    rw [sequenceAt?, shape, List.getElem?_map, Option.bind_map]
    rfl
  rw [ofShape, ofShape, same]

theorem reportsAt_congr (i : Nat) : t'.reportsAt i = t.reportsAt i := by
  have ofShape (t : TripUpdate) : t.reportsAt i = t.shape[i]?.any (·.2.2) := by
    rw [reportsAt, delayAt?, shape, List.getElem?_map]
    cases t.stopTimeUpdates[i]? <;> rfl
  rw [ofShape, ofShape, same]

theorem visitIndex?_congr (sequence : Int) (stopId : Option String) :
    t'.visitIndex? sequence stopId = t.visitIndex? sequence stopId := by
  have ofShape (t : TripUpdate) : t.visitIndex? sequence stopId =
      (t.shape.findIdx? fun e => e.1.any fun n => (n : Int) == sequence).or
        (stopId.bind fun id =>
          if (t.shape.filter (·.2.1 == some id)).length == 1 then
            t.shape.findIdx? (·.2.1 == some id)
          else none) := by
    rw [visitIndex?_eq, sequenceIndex?, shape]
    simp only [List.findIdx?_map, List.filter_map, List.length_map]
    rfl
  rw [ofShape, ofShape, same]

theorem heeds_congr : t'.Heeds sequence stopId i ↔ t.Heeds sequence stopId i := by
  unfold Heeds
  rw [visitIndex?_congr same]
  simp only [sequenceAt?_congr same]

theorem passesOn_congr : t'.PassesOn sequence stopId i ↔ t.PassesOn sequence stopId i := by
  constructor
  · rintro ⟨heeded, reports, last⟩
    simp only [heeds_congr same, reportsAt_congr same] at heeded reports last
    exact ⟨heeded, reports, last⟩
  · rintro ⟨heeded, reports, last⟩
    simp only [← heeds_congr same, ← reportsAt_congr same] at heeded reports last
    exact ⟨heeded, reports, last⟩

theorem nearest_congr : t'.Nearest sequence i ↔ t.Nearest sequence i := by
  constructor
  · rintro ⟨reports, earlier⟩
    simp only [sequenceAt?_congr same, reportsAt_congr same] at reports earlier
    exact ⟨reports, earlier⟩
  · rintro ⟨reports, earlier⟩
    simp only [← sequenceAt?_congr same, ← reportsAt_congr same] at reports earlier
    exact ⟨reports, earlier⟩

end Shape

/-- The same entries, of which one reports a delay of a second and the others none, if they report
any. -/
def singling (t : TripUpdate) (i : Nat) : TripUpdate :=
  { t with
    stopTimeUpdates := t.stopTimeUpdates.mapIdx fun j u =>
      if u.reportedDelay?.isSome then
        { u with departure := some { delay := some (if j = i then 1 else 0) } }
      else u }

theorem shape_singling (t : TripUpdate) (i : Nat) : (t.singling i).shape = t.shape := by
  refine List.ext_getElem? fun j => ?_
  rw [shape, shape, List.getElem?_map, List.getElem?_map, singling, List.getElem?_mapIdx,
    Option.map_map]
  refine Option.map_congr fun u _ => ?_
  rw [Function.comp_apply]
  split
  · next reports =>
    rw [reports]
    rfl
  · rfl

theorem delayAt?_singling (t : TripUpdate) (i j : Nat) :
    (t.singling i).delayAt? j = (t.delayAt? j).map fun _ => if j = i then 1 else 0 := by
  rw [delayAt?, delayAt?, singling, List.getElem?_mapIdx]
  cases t.stopTimeUpdates[j]? with
  | none => rfl
  | some u =>
    rw [Option.map_some, Option.bind_some, Option.bind_some]
    cases reported : u.reportedDelay? with
    | none => simpa using reported
    | some d => rfl

/-! ## Entries in order -/

theorem Numbered.sequenceAt?_eq (numbered : t.Numbered sequence i) :
    t.sequenceAt? i = some sequence := by
  obtain ⟨u, at_i, carries⟩ := numbered.carries
  rw [sequenceAt?, at_i, Option.bind_some]
  unfold StopTimeUpdate.Carries at carries
  cases known : u.stopSequence <;> simp_all

section
variable (ordered : t.InOrder)
include ordered

theorem InOrder.lt_iff {j : Nat} {m n : Int} (at_i : t.sequenceAt? i = some m)
    (at_j : t.sequenceAt? j = some n) : i < j ↔ m < n := by
  constructor
  · intro before
    exact ordered.growing i j m n before at_i at_j
  · intro less
    rcases Nat.lt_trichotomy i j with before | rfl | after
    · exact before
    · obtain rfl := Option.some.inj (at_i.symm.trans at_j)
      exact absurd less (Int.lt_irrefl _)
    · exact absurd (ordered.growing j i n m after at_j at_i)
        (Int.not_lt.mpr (Int.le_of_lt less))

variable (own : ∀ k, t.visitIndex? sequence stopId = some k → t.Numbered sequence k)
include own

/-- Where the call's entry is the one with its stop sequence, the entries below the call are those
that may pass on their delays. -/
theorem heeds_iff_lt {n : Int} (numbered : t.sequenceAt? i = some n) :
    t.Heeds sequence stopId i ↔ n < sequence := by
  unfold Heeds
  cases visit : t.visitIndex? sequence stopId with
  | some k => exact ordered.lt_iff numbered (own k visit).sequenceAt?_eq
  | none =>
    constructor
    · rintro ⟨m, same, before⟩
      obtain rfl := Option.some.inj (numbered.symm.trans same)
      exact before
    · intro before
      exact ⟨n, numbered, before⟩

/-- So the entry that passes its delay on is the nearest. -/
theorem nearest_of_inOrder (passes : t.PassesOn sequence stopId i) : t.Nearest sequence i := by
  obtain ⟨heeded, reports, last⟩ := passes
  obtain ⟨n, numbered⟩ : ∃ n, t.sequenceAt? i = some n := by
    obtain ⟨d, known⟩ := Option.isSome_iff_exists.mp reports
    obtain ⟨u, at_i, _⟩ := Option.bind_eq_some_iff.mp known
    obtain ⟨n, known⟩ :=
      Option.isSome_iff_exists.mp (ordered.numbered u (List.mem_of_getElem? at_i))
    exact ⟨n, by rw [sequenceAt?, at_i, Option.bind_some, known]; rfl⟩
  refine ⟨reports, n, numbered, (heeds_iff_lt ordered own numbered).mp heeded, ?_⟩
  intro j m at_j before reports_j
  refine Int.not_lt.mp fun greater => ?_
  -- a later entry below the call would pass its delay on instead
  have later := (ordered.lt_iff numbered at_j).mpr greater
  rw [last j later ((heeds_iff_lt ordered own at_j).mpr before)] at reports_j
  cases reports_j

end

/-- A delay reaches every call without an entry that has one reported below it. Whatever delays the
entries report, the one that reaches a call is that of the nearest earlier stop, if and only if the
entry that passes it on has the greatest stop sequence below the call's among those that report one.
So it is where the entries are listed in the order of their sequences and the call does not take an
entry with another sequence by its stop. -/
theorem last_delay_nearest_iff (t : TripUpdate) (sequence : Int) (stopId : Option String) :
    (t.visitIndex? sequence stopId = none →
      (∃ i n, t.sequenceAt? i = some n ∧ n < sequence ∧ t.reportsAt i = true) →
        ∃ d, t.visit? sequence stopId = some ⟨none, some d⟩) ∧
    ((∀ t' : TripUpdate, t'.shape = t.shape → t'.GivesNearest sequence stopId) ↔
      ∀ i, t.PassesOn sequence stopId i → t.Nearest sequence i) ∧
    (t.InOrder → (∀ own, t.visitIndex? sequence stopId = some own → t.Numbered sequence own) →
      t.GivesNearest sequence stopId) := by
  have enough {t' : TripUpdate} (same : t'.shape = t.shape)
      (nearest : ∀ i, t.PassesOn sequence stopId i → t.Nearest sequence i) :
      t'.GivesNearest sequence stopId := by
    intro d reached
    obtain ⟨i, passes, reported⟩ := lastDelay_iff.mp reached
    exact ⟨i, (nearest_congr same).mpr (nearest i ((passesOn_congr same).mp passes)), reported⟩
  refine ⟨?_, ⟨fun every i passes => ?_, fun nearest t' same => enough same nearest⟩, ?_⟩
  · rintro unvisited ⟨i, n, numbered, earlier, reports⟩
    exact exists_lastDelay unvisited numbered earlier reports
  · -- a delay that only this entry reports must come from a nearest one
    have same := t.shape_singling i
    obtain ⟨d, known⟩ := Option.isSome_iff_exists.mp passes.reports
    have alone : (t.singling i).delayAt? i = some 1 := by
      rw [delayAt?_singling, known, Option.map_some, if_pos rfl]
    obtain ⟨j, nearest, reported⟩ := every _ same 1
      (lastDelay_iff.mpr ⟨i, (passesOn_congr same).mpr passes, alone⟩)
    rw [delayAt?_singling] at reported
    obtain ⟨_, _, one⟩ := Option.map_eq_some_iff.mp reported
    have isSource : j = i := by
      by_contra other
      rw [if_neg other] at one
      cases one
    exact isSource ▸ (nearest_congr same).mp nearest
  · intro ordered own
    exact enough rfl fun i => nearest_of_inOrder ordered own

/-- An update that lists the second call of a trip before the first. -/
def backward : TripUpdate where
  trip := { tripId := some "T" }
  stopTimeUpdates := [
    { stopSequence := some 2, departure := some { delay := some 20 } },
    { stopSequence := some 1, departure := some { delay := some 10 } }]

/-- The third call gets the delay of the first and not that of the second. -/
theorem first_call_passes_on :
    backward.visit? 3 none = some ⟨none, some 10⟩ ∧ backward.Nearest 3 0 ∧
      backward.delayAt? 0 = some 20 ∧ ¬ backward.GivesNearest 3 none := by
  have second : backward.Nearest 3 0 :=
    ⟨rfl, 2, rfl, by decide, fun _ _ _ below _ => Int.le_of_lt_add_one below⟩
  refine ⟨rfl, second, rfl, fun gives => ?_⟩
  obtain ⟨i, ⟨_, n, numbered, _, greatest⟩, reported⟩ := gives 10 rfl
  have atLeast : 2 ≤ n := greatest 0 2 rfl (by decide) rfl
  match i, numbered, reported with
  | 1, first, _ =>
    obtain rfl := Option.some.inj first
    exact absurd atLeast (by decide)

end Realtime.TripUpdate

end Transit
