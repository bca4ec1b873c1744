import Transit.Civil.ZoneTable
import Transit.WideTime
set_option autoImplicit false

/-!
# Where a service day begins

The times of a service day are counted from a moment that depends on one offset, that of the day
(`momentOn?_eq`), as far as the calendar goes (`onServiceDate?_eq_some_iff`). In a zone whose changes
of offset are far enough apart and not too large, it is the moment at which the clock comes to the
midnight of the date, unless the clock leaves out the date whole (`comesTo_or_leftOut`). So every date
that the clock shows has one (`exists_dayOffset`), also where the clock skips midnight.
-/

namespace Transit

namespace Zone

/-- The offset with which the midnight of a date is counted. -/
def dayOffset? (z : Zone) (d : Date) : Option Int :=
  (z.offsetsShowing (d.day * secondsPerDay)).head?.or
    (z.offsetsShowing (d.day * secondsPerDay + 43200)).head?

theorem earliest?_eq (z : Zone) (d : Date) (timeOfDay : Int) :
    z.earliest? d timeOfDay = (z.offsetsShowing (d.day * secondsPerDay + timeOfDay)).head?.map
      fun offset => ⟨⟨d.day * secondsPerDay + timeOfDay - offset, 0⟩, offset⟩ := rfl

theorem serviceMidnight?_instant (z : Zone) (d : Date) :
    (z.serviceMidnight? d).map (·.instant) =
      (z.dayOffset? d).map fun offset => ⟨d.day * secondsPerDay - offset, 0⟩ := by
  rw [serviceMidnight?, earliest?_eq, earliest?_eq, dayOffset?, Int.add_zero]
  cases (z.offsetsShowing (d.day * secondsPerDay)).head? with
  | some offset => rfl
  | none =>
    cases (z.offsetsShowing (d.day * secondsPerDay + 43200)).head? with
    | none => rfl
    | some offset =>
      have back : d.day * secondsPerDay + 43200 - offset - 43200 = d.day * secondsPerDay - offset := by
        omega
      simp only [Option.map_some, Option.map_none, Option.none_or, localize, back]

end Zone

namespace WideTime

/-- The moment of a time on a service date of a zone, the calendar left out of account. -/
def momentOn? (t : WideTime) (d : Date) (z : Zone) : Option LocalInstant :=
  (z.serviceMidnight? d).map fun midnight => z.localize (midnight.instant.later t.seconds)

theorem momentOn?_eq (t : WideTime) (d : Date) (z : Zone) :
    t.momentOn? d z = (z.dayOffset? d).map fun offset =>
      z.localize ⟨d.day * secondsPerDay - offset + t.seconds, 0⟩ :=
  calc
    t.momentOn? d z = ((z.serviceMidnight? d).map (·.instant)).map fun midnight =>
        z.localize (midnight.later t.seconds) := by
      rw [Option.map_map]
      rfl
    _ = _ := by
      rw [Zone.serviceMidnight?_instant, Option.map_map]
      rfl

theorem onServiceDate?_eq_some_iff {t : WideTime} {d : Date} {z : Zone} {at' : LocalInstant} :
    t.onServiceDate? d z = some at' ↔
      t.momentOn? d z = some at' ∧ Instant.span.holds at'.instant.seconds = true := by
  unfold onServiceDate? momentOn?
  cases z.serviceMidnight? d with
  | none => simp
  | some midnight =>
    have seconds (moment : Instant) : (z.localize moment).instant = moment := rfl
    by_cases within : Instant.span.holds (midnight.instant.seconds + t.seconds)
    · simp only [Instant.later?, if_pos within, Option.bind_eq_bind, Option.bind_some,
        Option.map_some, Option.pure_def, Option.some.injEq, iff_self_and]
      rintro rfl
      exact within
    · simp only [Instant.later?, if_neg within, Option.bind_eq_bind, Option.bind_some,
        Option.bind_none, Option.map_some, Option.some.injEq, reduceCtorEq, false_iff, not_and]
      rintro rfl
      exact within

end WideTime

namespace Zone

/-- The local midnight at which a date is left out whole. -/
def skipsDate (base : Int) (c : OffsetChange) : Bool :=
  c.offset == base + secondsPerDay && (c.moment + base) % secondsPerDay == 0

/-- A change to an offset that lasts for half a day at least. It moves the clock on by half a day at
most, unless it leaves out a date, and a later change never moves it back beyond the first. -/
def regularFrom (base : Int) : List OffsetChange → Bool
  | [] => true
  | c :: rest =>
    (decide (c.offset ≤ base + 43200) || skipsDate base c)
      && (rest.head?.all fun next => decide (c.moment + 43200 ≤ next.moment)
        && decide (c.moment + c.offset ≤ next.moment + next.offset))
      && regularFrom c.offset rest

/-- The changes of offset are far enough apart and not too large. -/
def Regular (z : Zone) : Prop :=
  regularFrom z.base z.changes = true

instance (z : Zone) : Decidable z.Regular :=
  inferInstanceAs (Decidable (_ = true))

theorem regular_of_tabulated : ∀ z ∈ all, z.Regular := by
  decide +kernel

/-- The dates at whose midnight a change moves the clock on by a whole day. -/
def leftOut (base : Int) : List OffsetChange → List Date
  | [] => []
  | c :: rest =>
    (if skipsDate base c then [⟨(c.moment + base) / secondsPerDay⟩] else []) ++
      leftOut c.offset rest

/-- What the clock shows at a moment. -/
def clockAfter (base now : Int) (changes : List OffsetChange) : Int :=
  now + offsetAfter base now changes

/-- The offset with which the clock first shows a local time. -/
def firstShowing (start : Option Int) (base : Int) (changes : List OffsetChange) (clock : Int) :
    Option Int :=
  ((spansFrom start base changes).find? (·.shows clock)).map (·.offset)

/-- The offset with which a midnight is counted, or else the noon after it. -/
def countedWith (start : Option Int) (base : Int) (changes : List OffsetChange) (midnight : Int) :
    Option Int :=
  (firstShowing start base changes midnight).or
    (firstShowing start base changes (midnight + 43200))

/-- From `start` on, the clock comes to a midnight at some moment. Before it the clock shows less; at
it the clock shows the midnight, if it ever does, or else a time up to half a day before it. -/
structure ComesTo (start : Option Int) (base : Int) (changes : List OffsetChange)
    (midnight moment : Int) : Prop where
  started : ∀ s ∈ start, s ≤ moment
  before : ∀ now < moment, (∀ s ∈ start, s ≤ now) → clockAfter base now changes < midnight
  near : midnight - 43200 ≤ clockAfter base moment changes
  reached : clockAfter base moment changes ≤ midnight
  exact : ∀ now, (∀ s ∈ start, s ≤ now) → clockAfter base now changes = midnight →
    clockAfter base moment changes = midnight
  followed : ∃ now, (∀ s ∈ start, s ≤ now) ∧ midnight ≤ clockAfter base now changes ∧
    clockAfter base now changes < midnight + secondsPerDay

section Changes

variable {start : Option Int} {base now clock midnight moment : Int} {c : OffsetChange}
  {changes rest : List OffsetChange}

theorem regular_cons (regular : regularFrom base (c :: rest) = true) :
    (c.offset ≤ base + 43200 ∨ skipsDate base c = true) ∧
    (∀ next ∈ rest.head?, c.moment + 43200 ≤ next.moment ∧
      c.moment + c.offset ≤ next.moment + next.offset) ∧
    regularFrom c.offset rest = true := by
  simp only [regularFrom, Bool.and_eq_true, Bool.or_eq_true, decide_eq_true_eq] at regular
  obtain ⟨⟨size, apart⟩, later⟩ := regular
  refine ⟨size, ?_, later⟩
  intro next first
  rw [Option.mem_def] at first
  simpa [first] using apart

theorem clockAfter_of_before (before : ∀ c ∈ changes.head?, now < c.moment) :
    clockAfter base now changes = now + base := by
  cases changes with
  | nil => rfl
  | cons c rest =>
    have early := before c rfl
    rw [clockAfter, offsetAfter, if_neg (by omega)]

theorem clockAfter_cons_of_lt (before : now < c.moment) :
    clockAfter base now (c :: rest) = now + base := by
  refine clockAfter_of_before ?_
  rintro _ ⟨⟩
  exact before

theorem clockAfter_cons_of_le (happened : c.moment ≤ now) :
    clockAfter base now (c :: rest) = clockAfter c.offset now rest := by
  rw [clockAfter, offsetAfter, if_pos happened, clockAfter]

/-- After a change the clock stays ahead of what it showed right after it. -/
theorem clock_after_change (regular : regularFrom base (c :: rest) = true)
    (happened : c.moment ≤ now) : c.moment + c.offset ≤ clockAfter c.offset now rest := by
  induction rest generalizing base c with
  | nil =>
    show c.moment + c.offset ≤ now + c.offset
    omega
  | cons next rest ih =>
    obtain ⟨_, apart, later⟩ := regular_cons regular
    by_cases passed : next.moment ≤ now
    · rw [clockAfter_cons_of_le passed]
      exact Int.le_trans (apart next rfl).2 (ih later passed)
    · rw [clockAfter_cons_of_lt (by omega)]
      omega

theorem firstShowing_of_before (begun : ∀ s ∈ start, s + base ≤ clock)
    (before : ∀ c ∈ changes.head?, clock < c.moment + base) :
    firstShowing start base changes clock = some base := by
  have started : start.all (fun s => decide (s + base ≤ clock)) = true := by
    cases start with
    | none => rfl
    | some s => exact decide_eq_true (begun s rfl)
  cases changes with
  | nil => simp [firstShowing, spansFrom, OffsetSpan.shows, started]
  | cons c rest => simp [firstShowing, spansFrom, OffsetSpan.shows, started, before c rfl]

theorem firstShowing_of_passed (passed : c.moment + base ≤ clock) :
    firstShowing start base (c :: rest) clock = firstShowing (some c.moment) c.offset rest clock := by
  simp [firstShowing, spansFrom, OffsetSpan.shows, Int.not_lt.mpr passed]

/-- A local time that a change leaves out is not shown later either. -/
theorem firstShowing_in_gap (regular : regularFrom base (c :: rest) = true)
    (missed : clock < c.moment + c.offset) :
    firstShowing (some c.moment) c.offset rest clock = none := by
  have late : ¬ c.moment + c.offset ≤ clock := Int.not_le.mpr missed
  induction rest generalizing base c with
  | nil => simp [firstShowing, spansFrom, OffsetSpan.shows, late]
  | cons next rest ih =>
    obtain ⟨_, apart, later⟩ := regular_cons regular
    have ahead := (apart next rfl).2
    have further := ih later (by omega) (by omega)
    simpa [firstShowing, spansFrom, OffsetSpan.shows, late] using further

theorem countedWith_of_before (begun : ∀ s ∈ start, s + base ≤ midnight)
    (before : ∀ c ∈ changes.head?, midnight < c.moment + base) :
    countedWith start base changes midnight = some base := by
  rw [countedWith, firstShowing_of_before begun before, Option.some_or]

theorem countedWith_of_passed (passed : c.moment + base ≤ midnight) :
    countedWith start base (c :: rest) midnight =
      countedWith (some c.moment) c.offset rest midnight := by
  rw [countedWith, firstShowing_of_passed passed, firstShowing_of_passed (by omega), countedWith]

/-- In a gap of half a day at most, the noon counts, and it is shown right after the change. -/
theorem countedWith_in_gap (regular : regularFrom base (c :: rest) = true)
    (gap : c.offset ≤ base + 43200) (passed : c.moment + base ≤ midnight)
    (missed : midnight < c.moment + c.offset) :
    countedWith (some c.moment) c.offset rest midnight = some c.offset := by
  have apart := (regular_cons regular).2.1
  rw [countedWith, firstShowing_in_gap regular missed, Option.none_or]
  refine firstShowing_of_before ?_ fun next first => ?_
  · rintro _ ⟨⟩
    omega
  · have lasts := (apart next first).1
    omega

/-- The clock comes to a midnight that it shows before the next change. -/
theorem comesTo_before_change (begun : ∀ s ∈ start, s + base ≤ midnight)
    (before : ∀ c ∈ changes.head?, midnight < c.moment + base) :
    ComesTo start base changes midnight (midnight - base) := by
  have still {now : Int} (past : now ≤ midnight - base) :
      clockAfter base now changes = now + base := by
    refine clockAfter_of_before fun c next => ?_
    have early := before c next
    omega
  have shown : clockAfter base (midnight - base) changes = midnight := by
    rw [still (Int.le_refl _)]
    omega
  have started : ∀ s ∈ start, s ≤ midnight - base := by
    intro s isStart
    have early := begun s isStart
    omega
  refine ⟨started, ?_, by omega, by omega, fun _ _ _ => shown, midnight - base, started, ?_⟩
  · intro now early _
    rw [still (Int.le_of_lt early)]
    omega
  · simp only [shown, secondsPerDay]
    omega

/-- What the clock comes to after a change, it comes to over all. -/
theorem ComesTo.of_later (started : ∀ s ∈ start, s ≤ c.moment) (passed : c.moment + base ≤ midnight)
    (later : ComesTo (some c.moment) c.offset rest midnight moment) :
    ComesTo start base (c :: rest) midnight moment := by
  have happened : c.moment ≤ moment := later.started c.moment rfl
  have since {now : Int} (after : c.moment ≤ now) : ∀ s ∈ some c.moment, s ≤ now := by
    rintro s ⟨⟩
    exact after
  have short {now : Int} (early : now < c.moment) :
      clockAfter base now (c :: rest) < midnight := by
    rw [clockAfter_cons_of_lt early]
    omega
  have onwards : clockAfter base moment (c :: rest) = clockAfter c.offset moment rest :=
    clockAfter_cons_of_le happened
  refine ⟨?_, ?_, ?_, ?_, ?_, ?_⟩
  · intro s isStart
    exact Int.le_trans (started s isStart) happened
  · intro now early _
    by_cases after : c.moment ≤ now
    · rw [clockAfter_cons_of_le after]
      exact later.before now early (since after)
    · exact short (Int.not_le.mp after)
  · rw [onwards]
    exact later.near
  · rw [onwards]
    exact later.reached
  · intro now _ shown
    by_cases after : c.moment ≤ now
    · rw [clockAfter_cons_of_le after] at shown
      rw [onwards]
      exact later.exact now (since after) shown
    · have less := short (Int.not_le.mp after)
      omega
  · obtain ⟨now, after, follows, soon⟩ := later.followed
    have afterChange : c.moment ≤ now := after c.moment rfl
    refine ⟨now, fun s isStart => Int.le_trans (started s isStart) afterChange, ?_⟩
    rw [clockAfter_cons_of_le afterChange]
    exact ⟨follows, soon⟩

/-- The clock comes to a midnight in a gap of half a day at most before the change takes place, and
its date is shown from the change on. -/
theorem comesTo_in_gap (regular : regularFrom base (c :: rest) = true)
    (half : ∀ s ∈ start, s + 43200 ≤ c.moment) (gap : c.offset ≤ base + 43200)
    (passed : c.moment + base ≤ midnight) (missed : midnight < c.moment + c.offset) :
    ComesTo start base (c :: rest) midnight (midnight - c.offset) := by
  have apart := (regular_cons regular).2.1
  have counted : clockAfter base (midnight - c.offset) (c :: rest) = midnight - c.offset + base :=
    clockAfter_cons_of_lt (by omega)
  have resumed : clockAfter base c.moment (c :: rest) = c.moment + c.offset := by
    rw [clockAfter_cons_of_le (Int.le_refl _)]
    refine clockAfter_of_before fun next first => ?_
    have later := (apart next first).1
    omega
  refine ⟨?_, ?_, by omega, by omega, ?_, c.moment, ?_, by omega, ?_⟩
  · intro s isStart
    have early := half s isStart
    omega
  · intro now before _
    rw [clockAfter_cons_of_lt (by omega)]
    omega
  · -- the clock never shows the midnight
    intro now _ shown
    by_cases after : c.moment ≤ now
    · have ahead := clock_after_change regular after
      rw [clockAfter_cons_of_le after] at shown
      omega
    · rw [clockAfter_cons_of_lt (Int.not_le.mp after)] at shown
      omega
  · intro s isStart
    have early := half s isStart
    omega
  · simp only [resumed, secondsPerDay]
    omega

/-- A date at whose midnight a change moves the clock on by a whole day is never shown. -/
theorem skipped_of_skipsDate {d : Date} (regular : regularFrom base (c :: rest) = true)
    (skips : skipsDate base c = true) (passed : c.moment + base ≤ d.day * secondsPerDay)
    (missed : d.day * secondsPerDay < c.moment + c.offset) :
    countedWith (some c.moment) c.offset rest (d.day * secondsPerDay) = none ∧
      d ∈ leftOut base (c :: rest) ∧
      ∀ now, clockAfter base now (c :: rest) < d.day * secondsPerDay ∨
        d.day * secondsPerDay + secondsPerDay ≤ clockAfter base now (c :: rest) := by
  have day : c.offset = base + secondsPerDay ∧ c.moment + base = d.day * secondsPerDay := by
    simp only [skipsDate, Bool.and_eq_true, beq_iff_eq, secondsPerDay] at *
    omega
  obtain ⟨whole, midnight⟩ := day
  refine ⟨?_, ?_, ?_⟩
  · rw [countedWith, firstShowing_in_gap regular missed,
      firstShowing_in_gap regular (by simp only [secondsPerDay] at *; omega), Option.none_or]
  · have isDate : (⟨(c.moment + base) / secondsPerDay⟩ : Date) = d := by
      rw [midnight, Int.mul_ediv_cancel _ (by decide)]
    simp [leftOut, skips, isDate]
  · intro now
    by_cases after : c.moment ≤ now
    · have ahead := clock_after_change regular after
      rw [clockAfter_cons_of_le after]
      omega
    · rw [clockAfter_cons_of_lt (Int.not_le.mp after)]
      omega

/-- The clock comes to the midnight of a date at the moment that is counted from the first midnight
or noon that it shows, or else a change leaves out the whole date. -/
theorem comesTo_or_leftOut {d : Date} (regular : regularFrom base changes = true)
    (begun : ∀ s ∈ start, s + base ≤ d.day * secondsPerDay)
    (half : ∀ s ∈ start, ∀ c ∈ changes.head?, s + 43200 ≤ c.moment) :
    let midnight := d.day * secondsPerDay
    (∃ offset, countedWith start base changes midnight = some offset ∧
      ComesTo start base changes midnight (midnight - offset)) ∨
    countedWith start base changes midnight = none ∧ d ∈ leftOut base changes ∧
      ∀ now, (∀ s ∈ start, s ≤ now) → clockAfter base now changes < midnight ∨
        midnight + secondsPerDay ≤ clockAfter base now changes := by
  intro midnight
  induction changes generalizing start base with
  | nil => exact .inl ⟨base, countedWith_of_before begun nofun, comesTo_before_change begun nofun⟩
  | cons c rest ih =>
    by_cases early : midnight < c.moment + base
    · have before : ∀ next ∈ (c :: rest).head?, midnight < next.moment + base := by
        rintro next ⟨⟩
        exact early
      exact .inl ⟨base, countedWith_of_before begun before, comesTo_before_change begun before⟩
    · have passed : c.moment + base ≤ midnight := Int.not_lt.mp early
      obtain ⟨size, apart, later⟩ := regular_cons regular
      rw [countedWith_of_passed passed]
      by_cases resumed : c.moment + c.offset ≤ midnight
      · have started : ∀ s ∈ start, s ≤ c.moment := by
          intro s isStart
          have gap := half s isStart c rfl
          omega
        have begunAfter : ∀ s ∈ some c.moment, s + c.offset ≤ midnight := by
          rintro s ⟨⟩
          exact resumed
        have halfAfter : ∀ s ∈ some c.moment, ∀ next ∈ rest.head?, s + 43200 ≤ next.moment := by
          rintro s ⟨⟩ next first
          exact (apart next first).1
        rcases ih later begunAfter halfAfter with
          ⟨offset, counted, comes⟩ | ⟨uncounted, listed, skipped⟩
        · exact .inl ⟨offset, counted, comes.of_later started passed⟩
        · refine .inr ⟨uncounted, List.mem_append_right _ listed, fun now _ => ?_⟩
          by_cases after : c.moment ≤ now
          · rw [clockAfter_cons_of_le after]
            exact skipped now (by rintro s ⟨⟩; exact after)
          · rw [clockAfter_cons_of_lt (Int.not_le.mp after)]
            omega
      · have missed : midnight < c.moment + c.offset := Int.not_le.mp resumed
        rcases size with gap | skips
        · exact .inl ⟨c.offset, countedWith_in_gap regular gap passed missed,
            comesTo_in_gap regular (fun s isStart => half s isStart c rfl) gap passed missed⟩
        · obtain ⟨uncounted, listed, skipped⟩ := skipped_of_skipsDate regular skips passed missed
          exact .inr ⟨uncounted, listed, fun now _ => skipped now⟩

end Changes

/-- What the zone's clock shows at a moment. -/
def clockAt (z : Zone) (now : Int) : Int :=
  clockAfter z.base now z.changes

/-- The dates that changes of the zone leave out whole. -/
def datesLeftOut (z : Zone) : List Date :=
  leftOut z.base z.changes

theorem dayOffset?_eq (z : Zone) (d : Date) :
    z.dayOffset? d = countedWith none z.base z.changes (d.day * secondsPerDay) := by
  simp only [dayOffset?, offsetsShowing, List.head?_map, List.head?_filter]
  rfl

/-- The date and the second of the day together are the local time. -/
theorem localNow_clock (z : Zone) (now : Instant) :
    (z.localNow now).1.day * secondsPerDay + (z.localNow now).2 =
      now.seconds + z.offsetAt now.seconds := by
  show (now.seconds + z.offsetAt now.seconds) / 86400 * 86400 +
    ((now.seconds + z.offsetAt now.seconds) % 86400).toNat = _
  omega

theorem localNow_lt (z : Zone) (now : Instant) : (z.localNow now).2 < 86400 := by
  show ((now.seconds + z.offsetAt now.seconds) % 86400).toNat < 86400
  omega

/-- A date of a regular zone has an offset to count its midnight with, unless a change leaves it out
and so no moment is on it. -/
theorem dayOffset?_or_leftOut {z : Zone} (regular : z.Regular) (d : Date) :
    (∃ offset, z.dayOffset? d = some offset ∧
      ComesTo none z.base z.changes (d.day * secondsPerDay) (d.day * secondsPerDay - offset)) ∨
    z.dayOffset? d = none ∧ d ∈ z.datesLeftOut ∧
      ∀ now, z.clockAt now < d.day * secondsPerDay ∨
        d.day * secondsPerDay + secondsPerDay ≤ z.clockAt now := by
  have begun : ∀ s ∈ (none : Option Int), s + z.base ≤ d.day * secondsPerDay := nofun
  have half : ∀ s ∈ (none : Option Int), ∀ c ∈ z.changes.head?, s + 43200 ≤ c.moment := nofun
  rw [dayOffset?_eq]
  refine (comesTo_or_leftOut regular begun half).imp_right ?_
  rintro ⟨uncounted, listed, skipped⟩
  exact ⟨uncounted, listed, fun now => skipped now nofun⟩

/-- In a regular zone every date that the clock shows has an offset to count its midnight with. -/
theorem exists_dayOffset {z : Zone} (regular : z.Regular) (now : Instant) :
    ∃ offset, z.dayOffset? (z.localNow now).1 = some offset := by
  rcases dayOffset?_or_leftOut regular (z.localNow now).1 with ⟨offset, counted, _⟩ | ⟨_, _, skipped⟩
  · exact ⟨offset, counted⟩
  · -- the clock shows today, so it has not left it out
    have clock : _ = z.clockAt now.seconds := z.localNow_clock now
    have today := z.localNow_lt now
    have missed := skipped now.seconds
    simp only [secondsPerDay] at *
    omega

end Zone

end Transit
