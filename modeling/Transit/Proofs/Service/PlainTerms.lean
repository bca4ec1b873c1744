import Transit.Proofs.Service.Weekdays
import Transit.Service.Days
set_option autoImplicit false

/-!
# Filters in plain terms

A filter in plain terms has second counts only, and its dates are those at which it would arrive
again (`Plain`). Putting a filter into plain terms makes it so, and leaves it alone if it is so
already (`normalize_idempotent`).
-/

namespace Transit

/-- Two weeks are left from the date to the end of the calendar. -/
def Date.HasFortnight (d : Date) : Prop :=
  span.lo ≤ d.day ∧ d.day + 14 ≤ span.hi

instance (d : Date) : Decidable d.HasFortnight :=
  inferInstanceAs (Decidable (_ ∧ _))

namespace ServiceWindow

variable {w : ServiceWindow}

/-- The seven days of the best week. -/
def week (w : ServiceWindow) : List Date :=
  (List.range 7).map fun i : Nat => ⟨w.bestWeek.day + i⟩

theorem mem_week_of_not {d : Date} (outside : w.contains d = false) : w.mapDate d ∈ w.week := by
  rw [mapDate_of_not outside]
  exact List.mem_map.mpr ⟨d.weekday, List.mem_range.mpr d.weekday_lt, rfl⟩

theorem mapDate_inside_or (w : ServiceWindow) (d : Date) :
    w.contains (w.mapDate d) = true ∨ w.mapDate d ∈ w.week := by
  cases inside : w.contains d with
  | true => exact .inl (by rw [mapDate_of_contains inside, inside])
  | false => exact .inr (mem_week_of_not inside)

theorem mapDate_mapDate (monday : w.bestWeek.weekday = 0) (d : Date) :
    w.mapDate (w.mapDate d) = w.mapDate d := by
  cases outside : w.contains (w.mapDate d) with
  | true => exact mapDate_of_contains outside
  | false =>
    have moved : w.contains d = false := by
      rw [← Bool.not_eq_true]
      intro inside
      rw [mapDate_of_contains inside, inside] at outside
      cases outside
    -- The day of the best week has the weekday of `d`, so it is counted to the same day again.
    rw [mapDate_of_not outside, (weekday_mapDate_of_not moved).mpr monday, mapDate_of_not moved]

end ServiceWindow

theorem RelativeDate.resolve_bounds (r : RelativeDate) (today : Date) :
    today.day ≤ (r.resolve today).day ∧ (r.resolve today).day ≤ today.day + 7 := by
  cases r with
  | today =>
    simp only [resolve]
    omega
  | tomorrow =>
    simp only [resolve]
    omega
  | weekday day next =>
    simp only [resolve]
    split <;> omega

namespace StopTimeFilter

variable {f : StopTimeFilter} {now : LocalNow} {window : Option ServiceWindow}

/-- What a date of the filter is replaced by. -/
def placed (f : StopTimeFilter) (window : Option ServiceWindow) (d : Date) : Date :=
  match window with
  | some w => if f.useServiceWindow.getD false then w.mapDate d else d
  | none => d

/-- The date that the filter means: a relative date before a date of its own, and today if it has
neither but asks for the next seconds. -/
def meantDate (f : StopTimeFilter) (now : LocalNow) : Option Date :=
  ((f.relativeDate.map (·.resolve now.date)).or f.date).or (f.next.map fun _ => now.date)

theorem normalize_eq (f : StopTimeFilter) (now : LocalNow) (window : Option ServiceWindow) :
    f.normalize now window = { f with
      date := (f.meantDate now).map (f.placed window)
      serviceDate := f.serviceDate.map (f.placed window)
      startTime := (f.next.map fun _ => now.seconds).or
        ((f.start.map fun t => (t.seconds : Int)).or f.startTime)
      endTime := (f.next.map fun n => saturatingAdd now.seconds n).or
        ((f.stop.map fun t => (t.seconds : Int)).or f.endTime)
      start := none
      stop := none } := by
  unfold normalize withMappedDates withPlainNext withPlainDate withPlainTimes meantDate placed
  cases f.next <;> cases window <;> cases f.useServiceWindow.getD false <;> simp

/-- A filter in plain terms: no wide times, and dates and times as it would get them. -/
structure Plain (f : StopTimeFilter) (now : LocalNow) (window : Option ServiceWindow) : Prop where
  start : f.start = none
  stop : f.stop = none
  relative : ∀ r ∈ f.relativeDate, f.date = some (f.placed window (r.resolve now.date))
  next : ∀ n ∈ f.next, f.date.isSome = true ∧ f.startTime = some now.seconds ∧
    f.endTime = some (saturatingAdd now.seconds n)
  date : ∀ d ∈ f.date, f.placed window d = d
  serviceDate : ∀ d ∈ f.serviceDate, f.placed window d = d

theorem placed_placed (monday : ∀ w ∈ window, w.bestWeek.weekday = 0) (f : StopTimeFilter)
    (d : Date) : f.placed window (f.placed window d) = f.placed window d := by
  cases window with
  | none => rfl
  | some w =>
    cases asked : f.useServiceWindow.getD false with
    | true => simp [placed, asked, ServiceWindow.mapDate_mapDate (monday w rfl)]
    | false => simp [placed, asked]

theorem plain_normalize (monday : ∀ w ∈ window, w.bestWeek.weekday = 0) (f : StopTimeFilter) :
    (f.normalize now window).Plain now window := by
  rw [normalize_eq]
  refine ⟨rfl, rfl, ?_, ?_, ?_, ?_⟩
  · intro r relative
    have known : f.relativeDate = some r := relative
    simp [meantDate, known, placed]
  · intro n next
    have known : f.next = some n := next
    simp [meantDate, known]
  · intro d placedDate
    obtain ⟨meant, _, rfl⟩ := Option.map_eq_some_iff.mp placedDate
    exact placed_placed monday f meant
  · intro d placedDate
    obtain ⟨own, _, rfl⟩ := Option.map_eq_some_iff.mp placedDate
    exact placed_placed monday f own

theorem normalize_of_plain (plain : f.Plain now window) : f.normalize now window = f := by
  have date : (f.meantDate now).map (f.placed window) = f.date := by
    unfold meantDate
    cases relative : f.relativeDate with
    | some r => simp [plain.relative r relative]
    | none =>
      cases own : f.date with
      | some d => simp [plain.date d own]
      | none =>
        cases next : f.next with
        | none => rfl
        | some n =>
          have dated := (plain.next n next).1
          rw [own] at dated
          cases dated
  have serviceDate : f.serviceDate.map (f.placed window) = f.serviceDate := by
    cases own : f.serviceDate with
    | none => rfl
    | some d => simp [plain.serviceDate d own]
  have startTime : (f.next.map fun _ => now.seconds).or
      ((f.start.map fun t => (t.seconds : Int)).or f.startTime) = f.startTime := by
    cases next : f.next with
    | none => simp [plain.start]
    | some n => simp [(plain.next n next).2.1]
  have endTime : (f.next.map fun n => saturatingAdd now.seconds n).or
      ((f.stop.map fun t => (t.seconds : Int)).or f.endTime) = f.endTime := by
    cases next : f.next with
    | none => simp [plain.stop]
    | some n => simp [(plain.next n next).2.2]
  rw [normalize_eq, date, serviceDate, startTime, endTime]
  have start := plain.start
  have stop := plain.stop
  cases f
  cases start
  cases stop
  rfl

/-! ## The end of the calendar -/

/-- The days counted from today and from the best week stay in the calendar, and the dates that the
filter has are dates of it. -/
structure Early (f : StopTimeFilter) (now : LocalNow) (window : Option ServiceWindow) : Prop where
  today : now.date.HasFortnight
  bestWeek : ∀ w ∈ window, w.bestWeek.HasFortnight
  date : ∀ d ∈ f.date, d.Listed
  serviceDate : ∀ d ∈ f.serviceDate, d.Listed

theorem Early.resolve (early : f.Early now window) (r : RelativeDate) :
    (r.resolve now.date).Listed := by
  obtain ⟨after, before⟩ := r.resolve_bounds now.date
  obtain ⟨first, last⟩ := early.today
  exact Date.listed_iff.mpr (by omega)

theorem Early.placed (early : f.Early now window) {d : Date} (listed : d.Listed) :
    (f.placed window d).Listed := by
  cases window with
  | none => exact listed
  | some w =>
    cases asked : f.useServiceWindow.getD false with
    | false => simpa [StopTimeFilter.placed, asked] using listed
    | true =>
      cases inside : w.contains d with
      | true =>
        simpa [StopTimeFilter.placed, asked, ServiceWindow.mapDate_of_contains inside] using listed
      | false =>
        have days := d.weekday_lt
        obtain ⟨first, last⟩ := early.bestWeek w rfl
        simp only [StopTimeFilter.placed, asked, if_true,
          ServiceWindow.mapDate_of_not inside, Date.listed_iff]
        omega

theorem Early.meantDate (early : f.Early now window) {d : Date}
    (meant : f.meantDate now = some d) : d.Listed := by
  unfold StopTimeFilter.meantDate at meant
  rcases Option.or_eq_some_iff.mp meant with dated | ⟨_, today⟩
  · rcases Option.or_eq_some_iff.mp dated with relative | ⟨_, own⟩
    · obtain ⟨r, _, rfl⟩ := Option.map_eq_some_iff.mp relative
      exact early.resolve r
    · exact early.date d own
  · obtain ⟨_, _, rfl⟩ := Option.map_eq_some_iff.mp today
    obtain ⟨first, last⟩ := early.today
    exact Date.listed_iff.mpr (by omega)

theorem Early.normalize (early : f.Early now window) :
    (f.normalize now window).Early now window := by
  rw [normalize_eq]
  refine ⟨early.today, early.bestWeek, ?_, ?_⟩
  · intro d placed
    obtain ⟨e, meant, rfl⟩ := Option.map_eq_some_iff.mp placed
    exact early.placed (early.meantDate meant)
  · intro d placed
    obtain ⟨e, own, rfl⟩ := Option.map_eq_some_iff.mp placed
    exact early.placed (early.serviceDate e own)

/-- A filter in plain terms is not changed by putting it into plain terms again at the same moment,
if there is no window or its best week begins on a Monday. A filter that asks for a window gets
dates inside the window or of its best week. As long as two weeks are left from the dates that days
are counted from, every date that is computed on the way is one of the calendar, the second time as
well as the first. -/
theorem normalize_idempotent (now : LocalNow) {window : Option ServiceWindow}
    (monday : ∀ w ∈ window, w.bestWeek.weekday = 0) (f : StopTimeFilter) :
    (f.normalize now window).normalize now window = f.normalize now window ∧
      (∀ w ∈ window, f.useServiceWindow = some true → ∀ d,
        d ∈ (f.normalize now window).date ∨ d ∈ (f.normalize now window).serviceDate →
          w.contains d = true ∨ d ∈ w.week) ∧
      (f.Early now window → (∀ r ∈ f.relativeDate, (r.resolve now.date).Listed) ∧
        (f.normalize now window).Early now window) := by
  refine ⟨normalize_of_plain (plain_normalize monday f), ?_, ?_⟩
  · rintro w rfl asked d
    have moved (e : Date) : f.placed (some w) e = w.mapDate e := by simp [placed, asked]
    rw [normalize_eq]
    rintro (date | date) <;> obtain ⟨e, _, rfl⟩ := Option.map_eq_some_iff.mp date
    all_goals
      rw [moved]
      exact w.mapDate_inside_or e
  · intro early
    exact ⟨fun r _ => early.resolve r, early.normalize⟩

/-- Midnight of Saturday 5 January 2019, outside a window of the summer before. -/
def winterNow : LocalNow := ⟨⟨17901⟩, 0⟩

def summerWindow : ServiceWindow := ⟨⟨17686⟩, ⟨17720⟩, ⟨17700⟩⟩

def winterFilter : StopTimeFilter where
  serviceDate := some ⟨17902⟩
  start := some ⟨36000⟩
  next := some 1800
  useServiceWindow := some true

/-- Today and the service date become the Saturday and the Sunday of the best week, for good. -/
theorem normalize_idempotent_of_winter :
    (∀ w ∈ some summerWindow, w.bestWeek.weekday = 0) ∧
      winterFilter.Early winterNow (some summerWindow) ∧
      ∃ plain, winterFilter.normalize winterNow (some summerWindow) = plain ∧
        plain.date = some ⟨17705⟩ ∧ plain.serviceDate = some ⟨17706⟩ ∧
        plain.normalize winterNow (some summerWindow) = plain ∧
        (summerWindow.contains ⟨17705⟩ = true ∨ ⟨17705⟩ ∈ summerWindow.week) ∧
        (⟨17705⟩ : Date).Listed := by
  have monday : ∀ w ∈ some summerWindow, w.bestWeek.weekday = 0 := by
    rintro w ⟨⟩
    rfl
  have early : winterFilter.Early winterNow (some summerWindow) :=
    ⟨by decide, by rintro w ⟨⟩; decide, by rintro d ⟨⟩, by rintro d ⟨⟩; decide⟩
  obtain ⟨again, days, listed⟩ := normalize_idempotent winterNow monday winterFilter
  exact ⟨monday, early, _, rfl, rfl, rfl, again, days summerWindow rfl rfl ⟨17705⟩ (.inl rfl),
    (listed early).2.date ⟨17705⟩ rfl⟩

end StopTimeFilter

end Transit
