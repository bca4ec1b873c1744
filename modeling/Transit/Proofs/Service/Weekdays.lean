import Transit.Proofs.Service.BestWeek
set_option autoImplicit false

/-!
# The weekday of a substituted date

A date outside a service window is replaced by counting its weekday on from the first day of the
best week. That day has the same weekday if and only if the best week begins on a Monday, which
neither a stored record nor service levels have to see to (`weekday_kept_iff`).
-/

namespace Transit

/-- The calendar has the date. -/
def Date.Listed (d : Date) : Prop :=
  span.holds d.day = true

instance (d : Date) : Decidable d.Listed :=
  inferInstanceAs (Decidable (Date.span.holds d.day = true))

theorem Date.listed_iff {d : Date} : d.Listed ↔ span.lo ≤ d.day ∧ d.day ≤ span.hi := by
  simp [Listed, Number.Range.holds]

theorem Date.weekday_eq (d : Date) : (d.weekday : Int) = (d.day + 3) % 7 :=
  Int.toNat_of_nonneg (Int.emod_nonneg _ (by decide))

theorem Date.weekday_lt (d : Date) : d.weekday < 7 := by
  have value := d.weekday_eq
  omega

namespace ServiceWindow

theorem mapDate_of_contains {w : ServiceWindow} {d : Date} (inside : w.contains d = true) :
    w.mapDate d = d :=
  if_pos inside

theorem mapDate_of_not {w : ServiceWindow} {d : Date} (outside : w.contains d = false) :
    w.mapDate d = ⟨w.bestWeek.day + d.weekday⟩ := by
  simp [mapDate, outside]

theorem weekday_mapDate_of_not {w : ServiceWindow} {d : Date} (outside : w.contains d = false) :
    (w.mapDate d).weekday = d.weekday ↔ w.bestWeek.weekday = 0 := by
  have substitute := (w.mapDate d).weekday_eq
  have asked := d.weekday_eq
  have first := w.bestWeek.weekday_eq
  rw [mapDate_of_not outside] at substitute ⊢
  simp only at substitute
  omega

/-- A date is answered with a day of the calendar that has the same weekday. -/
def KeepsWeekday (w : ServiceWindow) (d : Date) : Prop :=
  (w.mapDate d).Listed ∧ (w.mapDate d).weekday = d.weekday

theorem keepsWeekday_iff {w : ServiceWindow} {d : Date} (listed : d.Listed) :
    w.KeepsWeekday d ↔ w.contains d = true ∨
      w.bestWeek.weekday = 0 ∧ (⟨w.bestWeek.day + d.weekday⟩ : Date).Listed := by
  unfold KeepsWeekday
  cases inside : w.contains d with
  | true => simp [mapDate_of_contains inside, listed]
  | false =>
    rw [weekday_mapDate_of_not inside, mapDate_of_not inside]
    simp [and_comm]

theorem bestWeek_ofRecord? {record : ServiceWindowRecord} {w : ServiceWindow}
    (stored : ofRecord? record = some w) : record.fallbackWeek = some w.bestWeek := by
  obtain ⟨_, _, rest⟩ := Option.bind_eq_some_iff.mp stored
  obtain ⟨_, _, rest⟩ := Option.bind_eq_some_iff.mp rest
  obtain ⟨_, week, made⟩ := Option.bind_eq_some_iff.mp rest
  rw [week, ← Option.some.inj made]

theorem bestWeek_derive? {fetched : Date} {info : Option FeedInfo} {levels : List ServiceLevel}
    {w : ServiceWindow} (derived : derive? fetched info levels = some w) :
    ∃ l ∈ levels, l.startDate = w.bestWeek := by
  have given : levels ≠ [] := by
    rintro rfl
    simp [derive?] at derived
  obtain ⟨first, rest, _, weeks, again, best⟩ := exists_derive fetched info given
  obtain rfl := Option.some.inj (derived.symm.trans again)
  have inFirst : first ∈ levels := mem_inOrder.mp (weeks ▸ List.mem_cons_self)
  obtain ⟨_, _, same | ⟨l, inOrder', _, _, last⟩⟩ :=
    foldl_busier w (inOrder levels) (first.total, first.startDate)
  · exact ⟨first, inFirst, by rw [best, bestWeekIn_eq, same]⟩
  · exact ⟨l, mem_inOrder.mp inOrder', by rw [best, bestWeekIn_eq, last]⟩

/-- Which dates keep their weekday. A stored window answers a date with a day that has the same
weekday if and only if the date lies inside, or else the fallback week of the record begins on a
Monday and the calendar has the day counted from it. The same is true of a window worked out from
service levels, with the week of one of the levels. -/
theorem weekday_kept_iff {d : Date} (listed : d.Listed) :
    (∀ record w, ofRecord? record = some w → ∃ week, record.fallbackWeek = some week ∧
      (w.KeepsWeekday d ↔ w.contains d = true ∨
        week.weekday = 0 ∧ (⟨week.day + d.weekday⟩ : Date).Listed)) ∧
    ∀ fetched info levels w, derive? fetched info levels = some w → ∃ l ∈ levels,
      l.startDate = w.bestWeek ∧ (w.KeepsWeekday d ↔ w.contains d = true ∨
        l.startDate.weekday = 0 ∧ (⟨l.startDate.day + d.weekday⟩ : Date).Listed) := by
  constructor
  · intro record w stored
    exact ⟨w.bestWeek, bestWeek_ofRecord? stored, keepsWeekday_iff listed⟩
  · intro fetched info levels w derived
    obtain ⟨l, member, first⟩ := bestWeek_derive? derived
    exact ⟨l, member, first, first ▸ keepsWeekday_iff listed⟩

/-- A stored window from 4 June to 8 July 2018. -/
def summerRecord (fallbackWeek : Int) : ServiceWindowRecord where
  feedStartDate := some ⟨17686⟩
  feedEndDate := some ⟨17720⟩
  fallbackWeek := some ⟨fallbackWeek⟩

/-- The Saturday 5 January 2019, with a fallback week that begins on Monday 18 June 2018. -/
theorem weekday_kept_iff_of_monday :
    (⟨17901⟩ : Date).Listed ∧ ∃ w, ofRecord? (summerRecord 17700) = some w ∧
      w.contains ⟨17901⟩ = false ∧ w.KeepsWeekday ⟨17901⟩ := by
  have listed : (⟨17901⟩ : Date).Listed := by decide
  obtain ⟨_, week, kept⟩ :=
    (weekday_kept_iff listed).1 (summerRecord 17700) ⟨⟨17686⟩, ⟨17720⟩, ⟨17700⟩⟩ rfl
  obtain rfl := Option.some.inj week
  exact ⟨listed, _, rfl, by decide, kept.mpr (.inr (by decide))⟩

/-- The same Saturday is answered with a Sunday if the fallback week begins on a Tuesday, and with a
Monday if the only week of service begins on a Wednesday. -/
theorem saturday_not_kept :
    (⟨17901⟩ : Date).weekday = 5 ∧
      (∃ w, ofRecord? (summerRecord 17701) = some w ∧ (w.mapDate ⟨17901⟩).weekday = 6) ∧
      ∃ w, derive? ⟨17703⟩ none [evenWeek 17702 10] = some w ∧
        (w.mapDate ⟨17901⟩).weekday = 0 := by
  have alone : inOrder [evenWeek 17702 10] = [evenWeek 17702 10] := List.mergeSort_singleton _
  exact ⟨by decide, ⟨⟨⟨17686⟩, ⟨17720⟩, ⟨17701⟩⟩, rfl, by decide⟩,
    ⟨⟨17702⟩, ⟨17708⟩, ⟨17702⟩⟩, derive?_of_inOrder _ _ alone, by decide⟩

end ServiceWindow

end Transit
