import Transit.Proofs.Civil.ServiceMidnight
import Transit.Proofs.Realtime.Ordering
set_option autoImplicit false

/-!
# The beginnings of service days

In a zone whose changes of offset are far enough apart and not too large, a date is counted from the
moment at which the clock comes to its midnight (`Begins`), so a later date is counted from a later
moment (`Begins.lt`). A date that the clock leaves out whole is counted from none, and the rows of
that date have no place in time. So every date has a beginning, in order, if and only if the clock
leaves out no date (`every_date_begins_iff`), as in all tabulated zones but one
(`daysBegin_of_tabulated`). The dates are those whose beginnings the calendar holds, as it does in
all tabulated zones (`span_holds_of_tabulated`).
-/

namespace Transit

theorem Date.lt_of_next? {d e : Date} (isNext : d.next? = some e) : d < e := by
  unfold next? addDays? at isNext
  split at isNext
  · obtain rfl := Option.some.inj isNext
    exact Int.lt_succ d.day
  · cases isNext

namespace Zone

/-- A date of the calendar. Where the clock is ahead of UTC the first one does not count, since it
begins before the calendar does. -/
def Dated (z : Zone) (d : Date) : Prop :=
  Date.span.holds d.day = true ∧ (d.day = Date.span.lo → z.base ≤ 0)

instance (z : Zone) (d : Date) : Decidable (z.Dated d) :=
  inferInstanceAs (Decidable (_ ∧ _))

/-- No moment has this local date. -/
def Omits (z : Zone) (d : Date) : Prop :=
  ∀ now, (z.localNow now).1 ≠ d

/-- The moment from which a date is counted. Before it the local date is an earlier one. At it the
local time is the midnight, if it ever is, or else one of the afternoon before; and there are moments
of the date. -/
structure Begins (z : Zone) (d : Date) (start : Instant) : Prop where
  before : ∀ now : Instant, now.seconds < start.seconds → (z.localNow now).1 < d
  midnight : ∀ now, z.localNow now = (d, 0) → z.localNow start = (d, 0)
  near : z.localNow start = (d, 0) ∨
    (z.localNow start).1.day = d.day - 1 ∧ 43200 ≤ (z.localNow start).2
  shown : ∃ now, (z.localNow now).1 = d

/-- Every date is counted from some moment, and the date after it from a later one. -/
structure DaysBegin (z : Zone) : Prop where
  begins : ∀ d, z.Dated d → ∃ start, z.serviceMidnight? d = some start
  increases : ∀ d e : Date, z.Dated d → d.next? = some e → ∀ start next,
    z.serviceMidnight? d = some start → z.serviceMidnight? e = some next →
      start.instant < next.instant

section LocalTime

variable {z : Zone} {d : Date} {now : Instant}

theorem date_lt_iff : (z.localNow now).1 < d ↔ z.clockAt now.seconds < d.day * secondsPerDay := by
  show z.clockAt now.seconds / 86400 < d.day ↔ z.clockAt now.seconds < d.day * 86400
  omega

theorem date_eq_iff : (z.localNow now).1 = d ↔ d.day * secondsPerDay ≤ z.clockAt now.seconds ∧
    z.clockAt now.seconds < d.day * secondsPerDay + secondsPerDay := by
  obtain ⟨day⟩ := d
  show (⟨z.clockAt now.seconds / 86400⟩ : Date) = ⟨day⟩ ↔ day * 86400 ≤ z.clockAt now.seconds ∧
    z.clockAt now.seconds < day * 86400 + 86400
  rw [Date.mk.injEq]
  omega

theorem localNow_eq_midnight_iff :
    z.localNow now = (d, 0) ↔ z.clockAt now.seconds = d.day * secondsPerDay := by
  have clock : (z.localNow now).1.day * secondsPerDay + (z.localNow now).2 =
      z.clockAt now.seconds := z.localNow_clock now
  have second := z.localNow_lt now
  rw [Prod.ext_iff, date_eq_iff]
  simp only [secondsPerDay] at *
  constructor
  · rintro ⟨⟨after, before⟩, first⟩
    omega
  · intro shows
    refine ⟨by omega, ?_⟩
    show (z.localNow now).2 = 0
    omega

end LocalTime

variable {z : Zone}

theorem begins_of_comesTo {d : Date} {moment : Int}
    (comes : ComesTo none z.base z.changes (d.day * secondsPerDay) moment) :
    z.Begins d ⟨moment, 0⟩ := by
  have always (now : Int) : ∀ s ∈ (none : Option Int), s ≤ now := nofun
  refine ⟨?_, ?_, ?_, ?_⟩
  · intro now early
    exact date_lt_iff.mpr (comes.before now.seconds early (always _))
  · intro now isMidnight
    exact localNow_eq_midnight_iff.mpr
      (comes.exact now.seconds (always _) (localNow_eq_midnight_iff.mp isMidnight))
  · have near : d.day * secondsPerDay - 43200 ≤ z.clockAt moment := comes.near
    have reached : z.clockAt moment ≤ d.day * secondsPerDay := comes.reached
    rcases Int.lt_or_eq_of_le reached with early | isMidnight
    · refine .inr ?_
      have clock : _ = z.clockAt moment := z.localNow_clock ⟨moment, 0⟩
      have second := z.localNow_lt ⟨moment, 0⟩
      simp only [secondsPerDay] at *
      omega
    · exact .inl (localNow_eq_midnight_iff.mpr isMidnight)
  · obtain ⟨now, _, follows, soon⟩ := comes.followed
    exact ⟨⟨now, 0⟩, date_eq_iff.mpr ⟨follows, soon⟩⟩

theorem Begins.day_and_second {d : Date} {start : Instant} (begins : z.Begins d start) :
    (z.localNow start).1.day = d.day ∧ (z.localNow start).2 = 0 ∨
      (z.localNow start).1.day = d.day - 1 ∧ 43200 ≤ (z.localNow start).2 := by
  refine begins.near.imp_left fun isMidnight => ?_
  rw [isMidnight]
  exact ⟨rfl, rfl⟩

/-- A later date is counted from a later moment. -/
theorem Begins.lt {d e : Date} {start next : Instant} (first : z.Begins d start)
    (second : z.Begins e next) (later : d < e) : start.seconds < next.seconds := by
  have laterDay : d.day < e.day := later
  have atFirst := first.day_and_second
  have atSecond := second.day_and_second
  refine Int.not_le.mp fun notLater => ?_
  rcases Int.lt_or_eq_of_le notLater with early | same
  · -- before the first date begins it is too early for the day before the second
    have before : (z.localNow next).1.day < d.day := first.before next early
    omega
  · have sameTime : z.localNow next = z.localNow start := by
      rw [localNow, localNow, same]
    rw [sameTime] at atSecond
    omega

/-- A date of a regular zone has a beginning, unless a change leaves it out, and then no moment is on
it. -/
theorem begins_or_omits (regular : z.Regular) (d : Date) :
    (∃ start, z.serviceMidnight? d = some start ∧ z.Begins d start.instant) ∨
      z.serviceMidnight? d = none ∧ z.Omits d ∧ d ∈ z.datesLeftOut := by
  have counted := z.serviceMidnight?_instant d
  rcases dayOffset?_or_leftOut regular d with ⟨offset, known, comes⟩ | ⟨unknown, listed, skipped⟩
  · rw [known, Option.map_some] at counted
    obtain ⟨start, isStart, instant⟩ := Option.map_eq_some_iff.mp counted
    refine .inl ⟨start, isStart, ?_⟩
    rw [instant]
    exact begins_of_comesTo comes
  · rw [unknown, Option.map_none, Option.map_eq_none_iff] at counted
    refine .inr ⟨counted, fun now onDate => ?_, listed⟩
    obtain ⟨after, before⟩ := date_eq_iff.mp onDate
    have missed := skipped now.seconds
    omega

theorem begins_of_serviceMidnight? (regular : z.Regular) {d : Date} {start : LocalInstant}
    (known : z.serviceMidnight? d = some start) : z.Begins d start.instant := by
  rcases begins_or_omits regular d with ⟨_, isStart, begins⟩ | ⟨unknown, _, _⟩
  · rw [known] at isStart
    cases isStart
    exact begins
  · rw [known] at unknown
    cases unknown

theorem serviceMidnight?_eq_none_iff (regular : z.Regular) {d : Date} :
    z.serviceMidnight? d = none ↔ z.Omits d := by
  rcases begins_or_omits regular d with ⟨start, known, begins⟩ | ⟨unknown, omits, _⟩
  · obtain ⟨now, onDate⟩ := begins.shown
    refine iff_of_false ?_ fun omits => omits now onDate
    rw [known]
    exact Option.some_ne_none start
  · exact iff_of_true unknown omits

theorem mem_datesLeftOut_of_omits (regular : z.Regular) {d : Date} (omits : z.Omits d) :
    d ∈ z.datesLeftOut := by
  rcases begins_or_omits regular d with ⟨_, _, begins⟩ | ⟨_, _, listed⟩
  · obtain ⟨now, onDate⟩ := begins.shown
    exact absurd onDate (omits now)
  · exact listed

theorem serviceMidnight?_increases (regular : z.Regular) {d e : Date} {start next : LocalInstant}
    (known : z.serviceMidnight? d = some start) (knownNext : z.serviceMidnight? e = some next)
    (later : d < e) : start.instant < next.instant :=
  .inl ((begins_of_serviceMidnight? regular known).lt
    (begins_of_serviceMidnight? regular knownNext) later)

theorem daysBegin_iff_of_regular (regular : z.Regular) :
    z.DaysBegin ↔ ∀ d, z.Dated d → ¬ z.Omits d := by
  constructor
  · intro law d dated omits
    obtain ⟨start, known⟩ := law.begins d dated
    rw [(serviceMidnight?_eq_none_iff regular).mpr omits] at known
    cases known
  · intro complete
    refine ⟨fun d dated => ?_, fun d e _ isNext start next known knownNext => ?_⟩
    · refine Option.ne_none_iff_exists'.mp fun unknown => ?_
      exact complete d dated ((serviceMidnight?_eq_none_iff regular).mp unknown)
    · exact serviceMidnight?_increases regular known knownNext (Date.lt_of_next? isNext)

/-- Of the tabulated zones only one ever left out a date: 30 December 2011. -/
theorem datesLeftOut_of_tabulated :
    ∀ z ∈ all, z.datesLeftOut = if z.name = apia.name then [⟨15338⟩] else [] := by
  decide +kernel

/-- In every other tabulated zone every date has its beginning, in order. -/
theorem daysBegin_of_tabulated : ∀ z ∈ all, z.name ≠ apia.name → z.DaysBegin := by
  intro z tabulated elsewhere
  have regular := regular_of_tabulated z tabulated
  refine (daysBegin_iff_of_regular regular).mpr fun d _ omits => ?_
  have listed := mem_datesLeftOut_of_omits regular omits
  rw [datesLeftOut_of_tabulated z tabulated, if_neg elsewhere] at listed
  cases listed

theorem offset_of_mem_spansFrom {start : Option Int} {base : Int} {changes : List OffsetChange}
    {s : OffsetSpan} (member : s ∈ spansFrom start base changes) :
    s.offset ∈ base :: changes.map (·.offset) := by
  induction changes generalizing start base with
  | nil =>
    rw [spansFrom, List.mem_singleton] at member
    simp [member]
  | cons c rest ih =>
    rw [spansFrom, List.mem_cons] at member
    rcases member with rfl | later
    · simp
    · exact List.mem_cons_of_mem _ (ih later)

/-- A midnight is counted with one of the offsets of the zone. -/
theorem mem_of_dayOffset? {d : Date} {offset : Int} (known : z.dayOffset? d = some offset) :
    offset ∈ z.base :: z.changes.map (·.offset) := by
  have shown {clock : Int} (first : (z.offsetsShowing clock).head? = some offset) :
      offset ∈ z.base :: z.changes.map (·.offset) := by
    obtain ⟨s, isSpan, rfl⟩ := List.mem_map.mp (List.mem_of_mem_head? first)
    exact offset_of_mem_spansFrom (List.mem_filter.mp isSpan).1
  rcases Option.or_eq_some_iff.mp known with midnight | ⟨_, noon⟩
  · exact shown midnight
  · exact shown noon

/-- The tabulated zones are less than a day from UTC, and change their offsets only after the first
two dates. -/
theorem offsets_of_tabulated : ∀ z ∈ all,
    (∀ offset ∈ z.base :: z.changes.map (·.offset),
      -secondsPerDay < offset ∧ offset < secondsPerDay) ∧
    ∀ c ∈ z.changes.head?, (Date.span.lo + 2) * secondsPerDay ≤ c.moment := by
  decide +kernel

/-- In a tabulated zone the beginnings of all dates lie within the calendar. -/
theorem span_holds_of_tabulated (tabulated : z ∈ all) {d : Date} (dated : z.Dated d)
    {start : LocalInstant} (known : z.serviceMidnight? d = some start) :
    Instant.span.holds start.instant.seconds = true := by
  obtain ⟨small, late⟩ := offsets_of_tabulated z tabulated
  have counted := z.serviceMidnight?_instant d
  rw [known, Option.map_some] at counted
  obtain ⟨offset, isOffset, instant⟩ := Option.map_eq_some_iff.mp counted.symm
  have seconds : start.instant.seconds = d.day * secondsPerDay - offset := by rw [← instant]
  have near := small offset (mem_of_dayOffset? isOffset)
  obtain ⟨listed, ahead⟩ := dated
  have days := Number.Range.holds_iff.mp listed
  rw [Number.Range.holds_iff, seconds]
  by_cases isFirst : d.day = Date.span.lo
  · -- no change has taken place by the first midnight
    have before : ∀ c ∈ z.changes.head?, d.day * secondsPerDay < c.moment + z.base := by
      intro c first
      have afterwards := late c first
      have size := small z.base List.mem_cons_self
      rw [isFirst]
      simp only [secondsPerDay] at *
      omega
    have base : z.dayOffset? d = some z.base := by
      rw [dayOffset?_eq]
      exact countedWith_of_before (fun s isStart => absurd isStart (Option.not_mem_none s)) before
    obtain rfl := Option.some.inj (isOffset.symm.trans base)
    have behind := ahead isFirst
    simp only [Instant.span, secondsPerDay] at *
    omega
  · simp only [Instant.span, secondsPerDay] at *
    omega

/-- In a regular zone every date has a beginning, and the next date a later one, if and only if there
are moments of every date. A date without moments, which only a change by a whole day at its midnight
leaves out, has no beginning, its times have no moments, and its rows are ordered by their seconds
alone. All other dates have beginnings, in the order of the dates. -/
theorem every_date_begins_iff {z : Zone} (regular : z.Regular) :
    (z.DaysBegin ↔ ∀ d, z.Dated d → ¬ z.Omits d) ∧
    (∀ d, z.Dated d → (z.serviceMidnight? d = none ↔ z.Omits d)) ∧
    (∀ d start, z.Dated d → z.serviceMidnight? d = some start → z.Begins d start.instant) ∧
    (∀ d e start next, z.Dated d → z.Dated e → z.serviceMidnight? d = some start →
      z.serviceMidnight? e = some next → d < e → start.instant < next.instant) ∧
    (∀ d, z.Dated d → z.Omits d →
      d ∈ z.datesLeftOut ∧ (∀ t : WideTime, t.onServiceDate? d z = none) ∧
      ∀ r : StopTime, r.serviceDate = some d → r.sortKey z = r.sortSeconds z) := by
  refine ⟨daysBegin_iff_of_regular regular, fun d _ => serviceMidnight?_eq_none_iff regular, ?_, ?_,
    ?_⟩
  · intro d start _ known
    exact begins_of_serviceMidnight? regular known
  · intro d e start next _ _ known knownNext later
    exact serviceMidnight?_increases regular known knownNext later
  · intro d _ omits
    have unknown := (serviceMidnight?_eq_none_iff regular).mpr omits
    refine ⟨mem_datesLeftOut_of_omits regular omits, fun t => ?_, fun r onDate => ?_⟩
    · rw [WideTime.onServiceDate?, unknown]
      rfl
    · rw [StopTime.sortKey, onDate, Option.bind_some, unknown]

/-- Havana moves its clocks on at midnight, but leaves out no date: 10 March 2024 is counted from
11 p.m. of the day before. -/
theorem every_date_begins_iff_of_havana :
    havana.Regular ∧ havana.DaysBegin ∧ havana.Begins ⟨19792⟩ ⟨1710043200, 0⟩ ∧
      havana.localNow ⟨1710043200, 0⟩ = (⟨19791⟩, 82800) := by
  have regular : havana.Regular := by decide +kernel
  obtain ⟨law, _, begins, _, omitted⟩ := every_date_begins_iff regular
  have complete : ∀ d, havana.Dated d → ¬ havana.Omits d := by
    intro d dated omits
    have listed := (omitted d dated omits).1
    have none : havana.datesLeftOut = [] := by decide +kernel
    rw [none] at listed
    cases listed
  have spring : havana.serviceMidnight? ⟨19792⟩ = some ⟨⟨1710043200, 0⟩, -18000⟩ := by
    decide +kernel
  exact ⟨regular, law.mpr complete, begins _ _ (by decide) spring, by decide +kernel⟩

/-- A row that leaves at 10:00 on a date. -/
def tenOClock (d : Date) : StopTime where
  serviceDate := some d
  departureTime := some ⟨36000⟩

/-- The clock of Apia went on from the end of 29 December 2011 to the beginning of the 31st. The date
between the two has no beginning, and its rows go before all rows of the day before. -/
theorem left_out_date_never_begins :
    apia.serviceMidnight? ⟨15338⟩ = none ∧ ¬ apia.DaysBegin ∧
      StopTime.sorted apia [tenOClock ⟨15337⟩, tenOClock ⟨15338⟩] =
        [tenOClock ⟨15338⟩, tenOClock ⟨15337⟩] := by
  have unknown : apia.serviceMidnight? ⟨15338⟩ = none := by decide +kernel
  refine ⟨unknown, fun law => ?_, ?_⟩
  · obtain ⟨start, known⟩ := law.begins ⟨15338⟩ (by decide)
    rw [unknown] at known
    cases known
  · have later : StopTime.noLater apia (tenOClock ⟨15337⟩) (tenOClock ⟨15338⟩) = false := by
      decide +kernel
    rw [StopTime.sorted_cons, StopTime.sorted_singleton]
    simp [later]

end Zone

end Transit
