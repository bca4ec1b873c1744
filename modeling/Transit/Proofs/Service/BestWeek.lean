import Transit.Service.Window
set_option autoImplicit false

/-!
# The best week of a window

The search for the best week begins with the earliest week of all, whether or not it has a day in
the window, and goes on to weeks with more service that have one. So the best week is a busiest week
of the window unless the earliest week lies outside and has at least as much service as any week of
the window (`bestWeek_busiest_iff`).
-/

namespace Transit.ServiceWindow

/-- A week has a day in the window. -/
def meets (w : ServiceWindow) (l : ServiceLevel) : Bool :=
  l.startDate ≤ w.endDate && w.startDate ≤ l.endDate

/-- A week has the most service of those with a day in the window. -/
structure IsBusiest (w : ServiceWindow) (levels : List ServiceLevel) (l : ServiceLevel) : Prop where
  listed : l ∈ levels
  meets : w.meets l = true
  most : ∀ k ∈ levels, w.meets k = true → k.total ≤ l.total

variable {w : ServiceWindow} {levels : List ServiceLevel}

/-- One step of the search: a week of the window with more service takes the place of the best. -/
def busier (w : ServiceWindow) (best : Int × Date) (l : ServiceLevel) : Int × Date :=
  if w.meets l && best.1 < l.total then (l.total, l.startDate) else best

theorem bestWeekIn_eq (w : ServiceWindow) (first : ServiceLevel) (weeks : List ServiceLevel) :
    bestWeekIn first weeks w.startDate w.endDate =
      (weeks.foldl w.busier (first.total, first.startDate)).2 :=
  rfl

theorem busier_of_more {best : Int × Date} {l : ServiceLevel} (inside : w.meets l = true)
    (more : best.1 < l.total) : w.busier best l = (l.total, l.startDate) := by
  simp [busier, inside, more]

theorem busier_of_not {best : Int × Date} {l : ServiceLevel}
    (not : ¬ (w.meets l = true ∧ best.1 < l.total)) : w.busier best l = best := by
  unfold busier
  rw [if_neg]
  simpa using not

/-- The search ends with the best that it began with, or with a week of the window that has more
service, and no week of the window has more than it ends with. -/
theorem foldl_busier (w : ServiceWindow) (weeks : List ServiceLevel) (best : Int × Date) :
    best.1 ≤ (weeks.foldl w.busier best).1 ∧
      (∀ k ∈ weeks, w.meets k = true → k.total ≤ (weeks.foldl w.busier best).1) ∧
      (weeks.foldl w.busier best = best ∨ ∃ l ∈ weeks, w.meets l = true ∧ best.1 < l.total ∧
        weeks.foldl w.busier best = (l.total, l.startDate)) := by
  induction weeks generalizing best with
  | nil => simp
  | cons l rest ih =>
    rw [List.foldl_cons]
    obtain ⟨grows, most, ends⟩ := ih (w.busier best l)
    by_cases better : w.meets l = true ∧ best.1 < l.total
    · rw [busier_of_more better.1 better.2] at grows most ends ⊢
      refine ⟨by omega, ?_, .inr ?_⟩
      · intro k member meets
        rcases List.mem_cons.mp member with rfl | later
        · exact grows
        · exact most k later meets
      · rcases ends with same | ⟨k, later, meets, more, last⟩
        · exact ⟨l, List.mem_cons_self, better.1, better.2, same⟩
        · exact ⟨k, List.mem_cons_of_mem l later, meets, by omega, last⟩
    · rw [busier_of_not better] at grows most ends ⊢
      refine ⟨grows, ?_, ?_⟩
      · intro k member meets
        rcases List.mem_cons.mp member with rfl | later
        · have less : ¬ best.1 < k.total := fun more => better ⟨meets, more⟩
          omega
        · exact most k later meets
      · rcases ends with same | ⟨k, later, meets, more, last⟩
        · exact .inl same
        · exact .inr ⟨k, List.mem_cons_of_mem l later, meets, more, last⟩

/-- What the search finds over weeks of which the given one is the first. -/
theorem bestWeekIn_busiest_iff {first : ServiceLevel} (listed : first ∈ levels) :
    (∃ l, w.IsBusiest levels l ∧
        l.startDate = bestWeekIn first levels w.startDate w.endDate) ↔
      w.meets first = true ∨ (∃ l ∈ levels, w.meets l = true ∧ first.total < l.total) ∨
        ∃ l, w.IsBusiest levels l ∧ l.startDate = first.startDate := by
  rw [bestWeekIn_eq]
  obtain ⟨_, most, ends⟩ := foldl_busier w levels (first.total, first.startDate)
  rcases ends with same | ⟨l, inLevels, meets, more, last⟩
  · rw [same] at most ⊢
    constructor
    · intro busiest
      exact .inr (.inr busiest)
    · rintro (meets | ⟨l, inLevels, meets, more⟩ | busiest)
      · exact ⟨first, ⟨listed, meets, most⟩, rfl⟩
      · exact absurd more (Int.not_lt.mpr (most l inLevels meets))
      · exact busiest
  · rw [last] at most ⊢
    constructor
    · intro _
      exact .inr (.inl ⟨l, inLevels, meets, more⟩)
    · intro _
      exact ⟨l, ⟨inLevels, meets, most⟩, rfl⟩

/-! ## Windows from service levels -/

/-- Weeks in the order of their first days. -/
def inOrder (levels : List ServiceLevel) : List ServiceLevel :=
  levels.mergeSort fun a b => a.startDate ≤ b.startDate

theorem mem_inOrder {l : ServiceLevel} : l ∈ inOrder levels ↔ l ∈ levels :=
  List.mem_mergeSort

theorem inOrder_ordered (levels : List ServiceLevel) :
    (inOrder levels).Pairwise fun a b => a.startDate ≤ b.startDate := by
  have trans (a b c : ServiceLevel) : decide (a.startDate ≤ b.startDate) = true →
      decide (b.startDate ≤ c.startDate) = true → decide (a.startDate ≤ c.startDate) = true := by
    simp only [decide_eq_true_eq]
    exact Int.le_trans
  have total (a b : ServiceLevel) :
      (decide (a.startDate ≤ b.startDate) || decide (b.startDate ≤ a.startDate)) = true := by
    simp only [Bool.or_eq_true, decide_eq_true_eq]
    exact Int.le_total _ _
  exact (List.pairwise_mergeSort trans total levels).imp of_decide_eq_true

/-- The busiest weeks do not depend on the order of the weeks. -/
theorem isBusiest_inOrder {l : ServiceLevel} :
    w.IsBusiest (inOrder levels) l ↔ w.IsBusiest levels l := by
  constructor
  · rintro ⟨listed, inside, most⟩
    exact ⟨mem_inOrder.mp listed, inside, fun k member => most k (mem_inOrder.mpr member)⟩
  · rintro ⟨listed, inside, most⟩
    exact ⟨mem_inOrder.mpr listed, inside, fun k member => most k (mem_inOrder.mp member)⟩

theorem inOrder_of_ordered (ordered : levels.Pairwise fun a b => a.startDate ≤ b.startDate) :
    inOrder levels = levels :=
  List.mergeSort_of_pairwise (ordered.imp decide_eq_true)

/-- The days of a window that begins and ends as the feed says, or else as the weeks do. -/
def days (fetched : Date) (info : Option FeedInfo) (weeks : List ServiceLevel) : Date × Date :=
  (declared? info).getD (grow weeks fetched)

theorem derive?_of_inOrder (fetched : Date) (info : Option FeedInfo) {first : ServiceLevel}
    {rest : List ServiceLevel} (weeks : inOrder levels = first :: rest) :
    derive? fetched info levels = some
      ⟨(days fetched info (first :: rest)).1, (days fetched info (first :: rest)).2,
        bestWeekIn first (first :: rest) (days fetched info (first :: rest)).1
          (days fetched info (first :: rest)).2⟩ := by
  unfold derive?
  unfold inOrder at weeks
  rw [weeks]
  rfl

/-- Service levels give a window, whose best week is searched from the earliest week on. -/
theorem exists_derive (fetched : Date) (info : Option FeedInfo) (given : levels ≠ []) :
    ∃ first rest w, inOrder levels = first :: rest ∧ derive? fetched info levels = some w ∧
      w.bestWeek = bestWeekIn first (inOrder levels) w.startDate w.endDate := by
  cases weeks : inOrder levels with
  | nil =>
    obtain ⟨l, listed⟩ := List.exists_mem_of_ne_nil levels given
    have member := mem_inOrder.mpr listed
    rw [weeks] at member
    cases member
  | cons first rest => exact ⟨first, rest, _, rfl, derive?_of_inOrder fetched info weeks, rfl⟩

/-- Any service levels give a window. Its best week is the first day of a week that has the most
service in the window if and only if the earliest week of all has a day in the window, or some week
of the window has more service than the earliest, or a busiest week of the window begins on the same
day as the earliest. Otherwise it is the earliest week, which lies outside the window. -/
theorem bestWeek_busiest_iff (fetched : Date) (info : Option FeedInfo) {levels : List ServiceLevel}
    (given : levels ≠ []) :
    ∃ first ∈ levels, (∀ l ∈ levels, first.startDate ≤ l.startDate) ∧
      ∃ w, derive? fetched info levels = some w ∧
        ((∃ l, w.IsBusiest levels l ∧ l.startDate = w.bestWeek) ↔
          w.meets first = true ∨ (∃ l ∈ levels, w.meets l = true ∧ first.total < l.total) ∨
            ∃ l, w.IsBusiest levels l ∧ l.startDate = first.startDate) ∧
        ((∃ l, w.IsBusiest levels l ∧ l.startDate = w.bestWeek) ∨
          w.bestWeek = first.startDate ∧ w.meets first = false) := by
  obtain ⟨first, rest, w, weeks, derived, best⟩ := exists_derive fetched info given
  have leads : first ∈ inOrder levels := weeks ▸ List.mem_cons_self
  have busiest := bestWeekIn_busiest_iff (w := w) leads
  rw [← best] at busiest
  simp only [isBusiest_inOrder, mem_inOrder] at busiest
  refine ⟨first, mem_inOrder.mp leads, ?_, w, derived, busiest, ?_⟩
  · intro l listed
    have ordered := inOrder_ordered levels
    have member := mem_inOrder.mpr listed
    rw [weeks] at ordered member
    rcases List.mem_cons.mp member with rfl | later
    · exact Int.le_refl _
    · exact List.rel_of_pairwise_cons ordered later
  · by_cases right : ∃ l, w.IsBusiest levels l ∧ l.startDate = w.bestWeek
    · exact .inl right
    · refine .inr ⟨?_, ?_⟩
      · obtain ⟨_, most, same | ⟨l, inLevels, inside, more, _⟩⟩ :=
          foldl_busier w (inOrder levels) (first.total, first.startDate)
        · rw [best, bestWeekIn_eq, same]
        · exact absurd (busiest.mpr (.inr (.inl ⟨l, mem_inOrder.mp inLevels, inside, more⟩))) right
      · cases inside : w.meets first with
        | false => rfl
        | true => exact absurd (busiest.mpr (.inl inside)) right

/-- A week with the same service on each day. -/
def evenWeek (start service : Int) : ServiceLevel where
  startDate := ⟨start⟩
  endDate := ⟨start + 6⟩
  monday := service
  tuesday := service
  wednesday := service
  thursday := service
  friday := service
  saturday := service
  sunday := service

/-- Three weeks from 4 June 2018 on, the second of which is poor. -/
def juneWeeks (last : Int) : List ServiceLevel :=
  [evenWeek 17686 10, evenWeek 17693 1, evenWeek 17700 last]

theorem inOrder_juneWeeks (last : Int) : inOrder (juneWeeks last) = juneWeeks last := by
  have second : (⟨17686⟩ : Date) ≤ ⟨17693⟩ := by decide
  have third : (⟨17693⟩ : Date) ≤ ⟨17700⟩ := by decide
  have both : (⟨17686⟩ : Date) ≤ ⟨17700⟩ := by decide
  apply inOrder_of_ordered
  simp [juneWeeks, evenWeek, second, third, both]

/-- Fetched in the third week, which has the most service of all. -/
theorem bestWeek_busiest_iff_of_june :
    juneWeeks 12 ≠ [] ∧ ∃ w, derive? ⟨17702⟩ none (juneWeeks 12) = some w ∧
      ∃ l, w.IsBusiest (juneWeeks 12) l ∧ l.startDate = w.bestWeek := by
  have given : juneWeeks 12 ≠ [] := List.cons_ne_nil _ _
  obtain ⟨first, listed, earliest, w, derived, busiest, _⟩ :=
    bestWeek_busiest_iff ⟨17702⟩ none given
  have window : derive? ⟨17702⟩ none (juneWeeks 12) = some ⟨⟨17700⟩, ⟨17706⟩, ⟨17700⟩⟩ :=
    derive?_of_inOrder _ _ (inOrder_juneWeeks 12)
  obtain rfl := Option.some.inj (derived.symm.trans window)
  have isFirst : first = evenWeek 17686 10 := by
    have starts := earliest (evenWeek 17686 10) List.mem_cons_self
    simp only [juneWeeks, List.mem_cons, List.not_mem_nil, or_false] at listed
    rcases listed with rfl | rfl | rfl
    · rfl
    · exact absurd starts (by decide)
    · exact absurd starts (by decide)
  subst isFirst
  have third : evenWeek 17700 12 ∈ juneWeeks 12 := by simp [juneWeeks]
  have busy := busiest.mpr (.inr (.inl ⟨evenWeek 17700 12, third, by decide, by decide⟩))
  exact ⟨given, _, derived, busy⟩

/-- Fetched in the third week, with a poor week before it: the window is the third week alone, and
its best week is the first of all, which has more service and lies outside. -/
theorem busiest_week_outside :
    ∃ w, derive? ⟨17702⟩ none (juneWeeks 9) = some w ∧
      (∃ l ∈ juneWeeks 9, l.startDate ≤ w.endDate ∧ w.startDate ≤ l.endDate) ∧
      ¬ ∃ l, w.IsBusiest (juneWeeks 9) l ∧ l.startDate = w.bestWeek := by
  have window : derive? ⟨17702⟩ none (juneWeeks 9) = some ⟨⟨17700⟩, ⟨17706⟩, ⟨17686⟩⟩ :=
    derive?_of_inOrder _ _ (inOrder_juneWeeks 9)
  refine ⟨_, window, ⟨evenWeek 17700 9, by simp [juneWeeks], by decide, by decide⟩, ?_⟩
  rintro ⟨l, ⟨listed, inside, _⟩, same⟩
  simp only [juneWeeks, List.mem_cons, List.not_mem_nil, or_false] at listed
  rcases listed with rfl | rfl | rfl
  · exact absurd inside (by decide)
  · exact absurd inside (by decide)
  · exact absurd same (by decide)

end Transit.ServiceWindow
