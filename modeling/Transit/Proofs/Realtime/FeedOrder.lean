import Transit.Proofs.Realtime.LastDelay
set_option autoImplicit false

/-!
# Which feed answers for a call

A feed may lack the trip of a call, have an entry for the call, or only pass on a delay of an
earlier stop (`FeedSources.Tells`). The look-up in a snapshot goes through the feeds one by one, and
ends early at an entry (`Snapshot.visit?_eq_search`). So the first entry answers, and a delay only
where no feed has an entry (`Snapshot.match_before_delay`).
-/

namespace Transit.Realtime

namespace TripUpdate

variable {t : TripUpdate} {sequence : Int} {stopId : Option String} {v : VisitUpdate} {i : Nat}

/-- The entry belongs to the call. -/
def Owns (t : TripUpdate) (sequence : Int) (stopId : Option String) (i : Nat) : Prop :=
  t.Numbered sequence i ∨ t.Named sequence stopId i

/-- What an update tells about a call: its own entry, with the delay that reaches it, or else the
delay of an earlier stop alone. -/
inductive Tells (t : TripUpdate) (sequence : Int) (stopId : Option String) : VisitUpdate → Prop
  | entry {i : Nat} {u : StopTimeUpdate} {lastDelay : Option Int}
      (owned : t.Owns sequence stopId i) (listed : t.stopTimeUpdates[i]? = some u)
      (reached : ∀ d, lastDelay = some d ↔
        ∃ j, t.PassesOn sequence stopId j ∧ t.delayAt? j = some d) :
      Tells t sequence stopId ⟨some u, lastDelay⟩
  | delay {j : Nat} {d : Int} (alone : ∀ i, ¬ t.Owns sequence stopId i)
      (passes : t.PassesOn sequence stopId j) (reported : t.delayAt? j = some d) :
      Tells t sequence stopId ⟨none, some d⟩

theorem owns_iff : t.Owns sequence stopId i ↔ t.visitIndex? sequence stopId = some i :=
  visitIndex?_eq_some_iff.symm

theorem visit?_of_owned {u : StopTimeUpdate} (owned : t.Owns sequence stopId i)
    (listed : t.stopTimeUpdates[i]? = some u) :
    t.visit? sequence stopId = some ⟨some u, lastDelay? (t.stopTimeUpdates.take i)⟩ := by
  unfold visit?
  rw [owns_iff.mp owned]
  dsimp only
  rw [listed]

theorem visit?_of_alone (alone : ∀ i, ¬ t.Owns sequence stopId i) :
    t.visit? sequence stopId =
      (lastDelay? (t.stopTimeUpdates.filter fun u =>
        u.stopSequence.any fun s => (s : Int) < sequence)).map fun d => ⟨none, some d⟩ := by
  have unvisited : t.visitIndex? sequence stopId = none := by
    rw [Option.eq_none_iff_forall_ne_some]
    intro i taken
    exact alone i (owns_iff.mpr taken)
  unfold visit?
  rw [unvisited]

theorem tells_iff : t.Tells sequence stopId v ↔ t.visit? sequence stopId = some v := by
  constructor
  · intro tells
    cases tells with
    | entry owned listed reached =>
      have visit := visit?_of_owned owned listed
      have same : lastDelay? _ = _ := Option.ext fun d => by
        rw [reached d, ← lastDelay_iff, visit]
        rfl
      rw [visit, same]
    | delay alone passes reported =>
      have reaches := lastDelay_iff.mpr ⟨_, passes, reported⟩
      rw [visit?_of_alone alone] at reaches ⊢
      obtain ⟨w, found, carries⟩ := Option.bind_eq_some_iff.mp reaches
      obtain ⟨d, _, rfl⟩ := Option.map_eq_some_iff.mp found
      rw [found, ← Option.some.inj carries]
  · intro visit
    by_cases owned : ∃ i, t.Owns sequence stopId i
    · obtain ⟨i, owned⟩ := owned
      have listed : ∃ u, t.stopTimeUpdates[i]? = some u := by
        rcases owned with numbered | named
        · exact numbered.carries.imp fun _ => And.left
        · exact named.listed.imp fun _ => And.left
      obtain ⟨u, listed⟩ := listed
      have found := visit?_of_owned owned listed
      obtain rfl := Option.some.inj (found.symm.trans visit)
      apply Tells.entry owned listed
      intro d
      rw [← lastDelay_iff, found]
      rfl
    · simp only [not_exists] at owned
      have found := visit
      rw [visit?_of_alone owned] at found
      obtain ⟨d, _, rfl⟩ := Option.map_eq_some_iff.mp found
      have reached : (t.visit? sequence stopId).bind (·.lastDelay) = some d := by rw [visit]; rfl
      obtain ⟨j, passes, reported⟩ := lastDelay_iff.mp reached
      exact .delay owned passes reported

end TripUpdate

namespace FeedSources

variable {f : FeedSources} {tripId : String} {sequence : Int} {stopId : Option String}
  {v : VisitUpdate}

/-- What the update of the trip in a feed says about a call. -/
def Tells (f : FeedSources) (tripId : String) (sequence : Int) (stopId : Option String)
    (v : VisitUpdate) : Prop :=
  ∃ source t, f.tripUpdates = some source ∧ source.trip? tripId = some t ∧
    t.Tells sequence stopId v

def visit? (f : FeedSources) (tripId : String) (sequence : Int) (stopId : Option String) :
    Option VisitUpdate := do
  (← (← f.tripUpdates).trip? tripId).visit? sequence stopId

theorem tells_iff : f.Tells tripId sequence stopId v ↔ f.visit? tripId sequence stopId = some v := by
  simp only [Tells, visit?, TripUpdate.tells_iff, Option.bind_eq_bind, Option.bind_eq_some_iff,
    exists_and_left]

theorem visit?_eq_none_iff :
    f.visit? tripId sequence stopId = none ↔ ∀ w, ¬ f.Tells tripId sequence stopId w := by
  simp only [tells_iff, Option.eq_none_iff_forall_ne_some, ne_eq]

end FeedSources

namespace Snapshot

section
variable (tripId : String) (sequence : Int) (stopId : Option String)

/-- Go through the feeds one by one: end with the first entry for the call, and keep the first delay
that stands alone for the case that there is none. -/
def search (kept : Option VisitUpdate) : List FeedSources → Option VisitUpdate
  | [] => kept
  | f :: rest =>
    match f.visit? tripId sequence stopId with
    | none => search kept rest
    | some v => if v.update.isSome then some v else search (kept.or (some v)) rest

/-- The entry that a feed has for the call. -/
def ownVisit? (f : FeedSources) : Option VisitUpdate :=
  (f.visit? tripId sequence stopId).filter (·.update.isSome)

/-- A search ends with the first entry, else with what has been kept, else with the first delay. -/
theorem search_eq (kept : Option VisitUpdate) (feeds : List FeedSources) :
    search tripId sequence stopId kept feeds =
      (feeds.findSome? (ownVisit? tripId sequence stopId)).or
        (kept.or (feeds.findSome? (·.visit? tripId sequence stopId))) := by
  induction feeds generalizing kept with
  | nil => simp [search]
  | cons f rest ih =>
    rw [search, List.findSome?_cons, List.findSome?_cons, ownVisit?]
    cases f.visit? tripId sequence stopId with
    | none => exact ih kept
    | some v =>
      rw [Option.filter_some]
      dsimp only
      by_cases own : v.update.isSome = true
      · rw [if_pos own, if_pos own, Option.some_or]
      · rw [if_neg own, if_neg own, ih, Option.or_assoc, Option.some_or]

theorem visit?_eq_search (s : Snapshot) :
    s.visit? tripId sequence stopId = search tripId sequence stopId none s.feeds := by
  have found : (s.tripSources.filterMap fun source => do
      (← source.trip? tripId).visit? sequence stopId) =
        s.feeds.filterMap (·.visit? tripId sequence stopId) :=
    List.filterMap_filterMap
  have own : ((s.feeds.filterMap (·.visit? tripId sequence stopId)).find? (·.update.isSome)) =
      s.feeds.findSome? (ownVisit? tripId sequence stopId) := by
    rw [← List.head?_filter, List.filter_filterMap, List.head?_filterMap]
    rfl
  rw [search_eq, visit?, found, own, List.head?_filterMap, Option.none_or]

end

variable {tripId : String} {sequence : Int} {stopId : Option String} {s : Snapshot}
  {v : VisitUpdate}

theorem ownVisit?_eq_some_iff {f : FeedSources} :
    ownVisit? tripId sequence stopId f = some v ↔
      f.Tells tripId sequence stopId v ∧ v.update.isSome = true := by
  rw [ownVisit?, Option.filter_eq_some_iff, FeedSources.tells_iff]

theorem ownVisit?_eq_none_iff {f : FeedSources} :
    ownVisit? tripId sequence stopId f = none ↔
      ∀ w, f.Tells tripId sequence stopId w → w.update = none := by
  simp only [ownVisit?, Option.filter_eq_none_iff, FeedSources.tells_iff,
    Option.not_isSome_iff_eq_none]

/-- The first feed that has an entry for the call. -/
theorem first_entry_iff :
    s.feeds.findSome? (ownVisit? tripId sequence stopId) = some v ↔
      v.update.isSome = true ∧ ∃ before f after, s.feeds = before ++ f :: after ∧
        f.Tells tripId sequence stopId v ∧
        ∀ e ∈ before, ∀ w, e.Tells tripId sequence stopId w → w.update = none := by
  simp only [List.findSome?_eq_some_iff, ownVisit?_eq_some_iff, ownVisit?_eq_none_iff]
  constructor
  · rintro ⟨before, f, after, split, ⟨tells, own⟩, none⟩
    exact ⟨own, before, f, after, split, tells, none⟩
  · rintro ⟨own, before, f, after, split, tells, none⟩
    exact ⟨before, f, after, split, ⟨tells, own⟩, none⟩

theorem no_entry_iff :
    s.feeds.findSome? (ownVisit? tripId sequence stopId) = none ↔
      ∀ f ∈ s.feeds, ∀ w, f.Tells tripId sequence stopId w → w.update = none := by
  simp only [List.findSome?_eq_none_iff, ownVisit?_eq_none_iff]

/-- The first feed that tells anything about the call. -/
theorem first_answer_iff :
    s.feeds.findSome? (·.visit? tripId sequence stopId) = some v ↔
      ∃ before f after, s.feeds = before ++ f :: after ∧ f.Tells tripId sequence stopId v ∧
        ∀ e ∈ before, ∀ w, ¬ e.Tells tripId sequence stopId w := by
  simp only [List.findSome?_eq_some_iff, FeedSources.visit?_eq_none_iff, ← FeedSources.tells_iff]

/-- The answer for a call is the first entry, else the first delay. -/
theorem visit?_eq (s : Snapshot) :
    s.visit? tripId sequence stopId =
      (s.feeds.findSome? (ownVisit? tripId sequence stopId)).or
        (s.feeds.findSome? (·.visit? tripId sequence stopId)) := by
  rw [visit?_eq_search, search_eq, Option.none_or]

theorem visit?_entry_iff (own : v.update.isSome = true) :
    s.visit? tripId sequence stopId = some v ↔
      ∃ before f after, s.feeds = before ++ f :: after ∧ f.Tells tripId sequence stopId v ∧
        ∀ e ∈ before, ∀ w, e.Tells tripId sequence stopId w → w.update = none := by
  rw [visit?_eq, Option.or_eq_some_iff, first_entry_iff]
  constructor
  · rintro (⟨_, first⟩ | ⟨none, answer⟩)
    · exact first
    · obtain ⟨before, f, after, split, tells, _⟩ := first_answer_iff.mp answer
      have lacks := no_entry_iff.mp none f (by simp [split]) v tells
      simp [lacks] at own
  · intro first
    exact .inl ⟨own, first⟩

theorem visit?_delay_iff (alone : v.update = none) :
    s.visit? tripId sequence stopId = some v ↔
      (∀ f ∈ s.feeds, ∀ w, f.Tells tripId sequence stopId w → w.update = none) ∧
        ∃ before f after, s.feeds = before ++ f :: after ∧ f.Tells tripId sequence stopId v ∧
          ∀ e ∈ before, ∀ w, ¬ e.Tells tripId sequence stopId w := by
  rw [visit?_eq, Option.or_eq_some_iff, no_entry_iff, first_answer_iff]
  constructor
  · rintro (first | answer)
    · have own := (first_entry_iff.mp first).1
      simp [alone] at own
    · exact answer
  · exact .inr

theorem visit?_eq_none_iff :
    s.visit? tripId sequence stopId = none ↔
      ∀ f ∈ s.feeds, ∀ w, ¬ f.Tells tripId sequence stopId w := by
  rw [visit?_eq, Option.or_eq_none_iff, no_entry_iff]
  simp only [List.findSome?_eq_none_iff, FeedSources.visit?_eq_none_iff]
  constructor
  · exact And.right
  · intro silent
    refine ⟨fun f member w tells => ?_, silent⟩
    exact absurd tells (silent f member w)

/-- A feed that comes last does not take the place of an entry. -/
theorem visit?_append (own : v.update.isSome = true)
    (visit : s.visit? tripId sequence stopId = some v) (last : FeedSources) :
    (⟨s.feeds ++ [last]⟩ : Snapshot).visit? tripId sequence stopId = some v := by
  rw [visit?_entry_iff own] at visit ⊢
  obtain ⟨before, f, after, split, tells, none⟩ := visit
  refine ⟨before, f, after ++ [last], ?_, tells, none⟩
  rw [split, List.append_assoc, List.cons_append]

/-- The answer for a call is the entry of the first feed that has one. If none has, it is the delay
of the first feed that passes one on, and there is no answer exactly if no feed tells anything about
the call. More feeds at the end leave an entry as it is. -/
theorem match_before_delay (s : Snapshot) (tripId : String) (sequence : Int)
    (stopId : Option String) :
    let tells (f : FeedSources) := f.Tells tripId sequence stopId
    (∀ v : VisitUpdate, v.update.isSome = true →
      (s.visit? tripId sequence stopId = some v ↔
        ∃ before f after, s.feeds = before ++ f :: after ∧ tells f v ∧
          ∀ e ∈ before, ∀ w, tells e w → w.update = none)) ∧
    (∀ v : VisitUpdate, v.update = none →
      (s.visit? tripId sequence stopId = some v ↔
        (∀ f ∈ s.feeds, ∀ w, tells f w → w.update = none) ∧
          ∃ before f after, s.feeds = before ++ f :: after ∧ tells f v ∧
            ∀ e ∈ before, ∀ w, ¬ tells e w)) ∧
    (s.visit? tripId sequence stopId = none ↔ ∀ f ∈ s.feeds, ∀ w, ¬ tells f w) ∧
    ∀ (v : VisitUpdate) (last : FeedSources), v.update.isSome = true →
      s.visit? tripId sequence stopId = some v →
        (⟨s.feeds ++ [last]⟩ : Snapshot).visit? tripId sequence stopId = some v := by
  refine ⟨?_, ?_, visit?_eq_none_iff, ?_⟩
  · intro v own
    exact visit?_entry_iff own
  · intro v alone
    exact visit?_delay_iff alone
  · intro v last own visit
    exact visit?_append own visit last

/-- A feed with one entry for the trip `T`. -/
def oneEntry (name : String) (entry : StopTimeUpdate) : FeedSources where
  feed := name
  tripUpdates := some { trips := [("T", { stopTimeUpdates := [entry] })] }

def fifthCall : StopTimeUpdate := { stopSequence := some 5, departure := some { delay := some 120 } }

/-- A feed that knows nothing of the trip, one with a delay of its first call, and one with an entry
for its fifth. -/
def threeFeeds : Snapshot where
  feeds := [{ feed := "BA", tripUpdates := some {} },
    oneEntry "BB" { stopSequence := some 1, departure := some { delay := some 45 } },
    oneEntry "BC" fifthCall]

theorem match_before_delay_of_three_feeds :
    let entry : VisitUpdate := ⟨some fifthCall, none⟩
    let late := oneEntry "BD" { fifthCall with departure := none }
    entry.update.isSome = true ∧ threeFeeds.visit? "T" 5 none = some entry ∧
      (∃ before f after, threeFeeds.feeds = before ++ f :: after ∧ f.Tells "T" 5 none entry ∧
        ∀ e ∈ before, ∀ w, e.Tells "T" 5 none w → w.update = none) ∧
      (⟨threeFeeds.feeds ++ [late]⟩ : Snapshot).visit? "T" 5 none = some entry := by
  intro entry late
  have visit : threeFeeds.visit? "T" 5 none = some entry := by decide
  obtain ⟨entries, _, _, keeps⟩ := match_before_delay threeFeeds "T" 5 none
  exact ⟨rfl, visit, (entries entry rfl).mp visit, keeps entry late rfl visit⟩

/-- The sixth call has an entry in none of the feeds, and gets the first delay. -/
example : threeFeeds.visit? "T" 6 none = some ⟨none, some 45⟩ := by decide

end Snapshot

end Transit.Realtime
