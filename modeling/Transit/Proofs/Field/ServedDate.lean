import Transit.Proofs.Civil.ServiceMidnight
import Transit.Proofs.Realtime.ScheduleOrder
set_option autoImplicit false

/-!
# The date on which a row is served

Each midnight that passes from the beginning of its service day moves the date on which a row is
served on by one, as the clock shows it (`StopTime.localDate_served`). A row is stamped with that
date if none or one of them has passed, and with the date after the service date if there are more
(`StopTime.stamped_served_iff`). So are the scheduled rows that a stop displays
(`Stop.displayed_served_iff`).
-/

namespace Transit

/-- In a zone that has at a moment of a service day the offset of its midnight, the clock shows the
date to which the time of the day has run. -/
theorem WideTime.localDate_momentOn? {t : WideTime} {d : Date} {z : Zone} {at' : LocalInstant}
    (moment : t.momentOn? d z = some at') (steady : z.dayOffset? d = some at'.offset) :
    (z.localNow at'.instant).1 = ⟨d.day + t.seconds / 86400⟩ := by
  rw [WideTime.momentOn?_eq, steady, Option.map_some, Option.some.injEq] at moment
  have seconds : at'.instant.seconds = d.day * secondsPerDay - at'.offset + t.seconds :=
    congrArg (·.instant.seconds) moment.symm
  have offset : z.offsetAt at'.instant.seconds = at'.offset := by
    rw [seconds]
    exact congrArg LocalInstant.offset moment
  rw [Zone.localNow, offset, Date.mk.injEq, seconds, secondsPerDay]
  omega

namespace StopTime

/-- The time of a row that says when it is served: the arrival, else the departure. -/
def servedTime? (r : StopTime) : Option WideTime :=
  r.arrivalTime.or r.departureTime

/-- How many midnights pass from the beginning of its service day until a row is served. -/
def midnights (r : StopTime) : Nat :=
  r.servedTime?.elim 0 (·.seconds / 86400)

/-- The date on which a row of a service day is served. -/
def servedOn (r : StopTime) (serviceDate : Date) : Date :=
  ⟨serviceDate.day + r.midnights⟩

variable {r : StopTime} {d : Date}

theorem midnights_eq_zero_iff :
    r.midnights = 0 ↔ r.servedTime?.any (·.isAfterMidnight) = false := by
  unfold midnights
  cases r.servedTime? with
  | none => simp
  | some t =>
    simp only [Option.elim_some, Option.any_some, WideTime.isAfterMidnight, decide_eq_false_iff_not]
    omega

theorem midnights_le_one_iff :
    r.midnights ≤ 1 ↔ ∀ t ∈ r.servedTime?, t.seconds < 172800 := by
  unfold midnights
  cases r.servedTime? with
  | none => simp
  | some t =>
    simp only [Option.elim_some, Option.mem_def, Option.some.injEq, forall_eq']
    omega

/-- A row gets its service date, or the next date if any midnight has passed. -/
theorem date_stamp (next : d.next?.isSome = true) (r : StopTime) :
    (r.stamp d).date = some ⟨d.day + min r.midnights 1⟩ := by
  have after : d.next? = some ⟨d.day + 1⟩ := by
    unfold Date.next? Date.addDays? at next ⊢
    split at next
    · next holds => rw [if_pos holds]
    · cases next
  have stamped : (r.stamp d).date =
      if r.servedTime?.any (·.isAfterMidnight) then d.next? else some d := rfl
  rw [stamped, after]
  by_cases none : r.midnights = 0
  · rw [midnights_eq_zero_iff.mp none, none]
    simp
  · have late := mt midnights_eq_zero_iff.mpr none
    rw [Bool.not_eq_false] at late
    have one : min r.midnights 1 = 1 := by omega
    rw [late, one]
    rfl

/-- A row is stamped with the date on which it is served if and only if less than two midnights have
passed by then. -/
theorem date_stamp_eq_iff (next : d.next?.isSome = true) (r : StopTime) :
    (r.stamp d).date = some (r.servedOn d) ↔ ∀ t ∈ r.servedTime?, t.seconds < 172800 := by
  rw [date_stamp next, Option.some.injEq, servedOn, Date.mk.injEq, ← midnights_le_one_iff]
  omega

theorem localDate_served {z : Zone} {at' : LocalInstant}
    (moment : r.servedTime?.bind (·.momentOn? d z) = some at')
    (steady : z.dayOffset? d = some at'.offset) : (z.localNow at'.instant).1 = r.servedOn d := by
  obtain ⟨t, time, isMoment⟩ := Option.bind_eq_some_iff.mp moment
  rw [WideTime.localDate_momentOn? isMoment steady, servedOn, midnights, time, Option.elim_some,
    Int.natCast_ediv]
  rfl

/-- Where the service date has a next one, a row is stamped with the date on which it is served if
and only if it has no time, and with it the service date, or its time comes before 48:00:00. A later
row gets the next date all the same. The date of a call is the local date of its moment, as long as
the clock is not changed in between. -/
theorem stamped_served_iff (r : StopTime) (d : Date) (next : d.next?.isSome = true) :
    ((r.stamp d).date = some (r.servedOn d) ↔ ∀ t ∈ r.servedTime?, t.seconds < 172800) ∧
      (r.servedTime? = none → (r.stamp d).date = some d) ∧
      (∀ t ∈ r.servedTime?, r.servedOn d = ⟨d.day + t.seconds / 86400⟩ ∧
        (172800 ≤ t.seconds → (r.stamp d).date = some ⟨d.day + 1⟩)) ∧
      ∀ (z : Zone) (at' : LocalInstant), r.servedTime?.bind (·.momentOn? d z) = some at' →
        z.dayOffset? d = some at'.offset → (z.localNow at'.instant).1 = r.servedOn d := by
  refine ⟨date_stamp_eq_iff next r, ?_, ?_, fun z at' => localDate_served⟩
  · intro untimed
    have none : r.midnights = 0 := by rw [midnights, untimed, Option.elim_none]
    rw [date_stamp next, none]
    simp
  · intro t time
    have passed : r.midnights = t.seconds / 86400 := by
      rw [midnights, Option.mem_def.mp time, Option.elim_some]
    refine ⟨?_, fun late => ?_⟩
    · rw [servedOn, passed, Int.natCast_ediv]
      rfl
    · have more : min r.midnights 1 = 1 := by omega
      rw [date_stamp next, more]
      rfl

/-- Arrivals at 23:59:59, 24:00:00 and 47:59:59 are stamped with the date on which they are served. -/
theorem stamped_served_iff_of_nights :
    let calls : List StopTime := [86399, 86400, 172799].map fun n => { arrivalTime := some ⟨n⟩ }
    (⟨17681⟩ : Date).next?.isSome = true ∧
      (∀ r ∈ calls, ∀ t ∈ r.servedTime?, t.seconds < 172800) ∧
      calls.map (fun r => (r.stamp ⟨17681⟩).date) = [some ⟨17681⟩, some ⟨17682⟩, some ⟨17682⟩] ∧
      ∀ r ∈ calls, (r.stamp ⟨17681⟩).date = some (r.servedOn ⟨17681⟩) := by
  intro calls
  have early : ∀ r ∈ calls, ∀ t ∈ r.servedTime?, t.seconds < 172800 := by decide
  refine ⟨by decide, early, by decide, fun r member => ?_⟩
  exact (stamped_served_iff r ⟨17681⟩ (by decide)).1.mpr (early r member)

/-- An arrival at 49:00:00 is served two dates after its service date, as the clock of UTC shows, and
is stamped with the date in between. -/
theorem second_night_stamped_early :
    let r : StopTime := { arrivalTime := some ⟨176400⟩ }
    let utc : Zone := ⟨"UTC", 0, []⟩
    (176400 : Int) ≤ WideTime.maxQuery ∧ r.servedOn ⟨17681⟩ = ⟨17683⟩ ∧
      ((⟨176400⟩ : WideTime).onServiceDate? ⟨17681⟩ utc).map
        (fun at' => (utc.localNow at'.instant).1) = some ⟨17683⟩ ∧
      (r.stamp ⟨17681⟩).date = some ⟨17682⟩ := by
  decide

end StopTime

namespace Stop

variable {g last : Gateway} {s : Stop} {limit : Option Int} {filter : Option StopTimeFilter}
  {plain : StopTimeFilter} {rows : List StopTime}

/-- The scheduled rows that a stop displays carry the date of a service day, and the date on which
they are served if and only if less than two midnights have passed. -/
theorem displayed_served_iff (fed : g.FedBy (.many .stopTimesByStop) fun _ => True)
    (asked : s.plainFilter? g (filter.getD {}) = some plain)
    (ran : (s.stopTimes limit filter).run.run g = (.ok rows, last)) {r : StopTime}
    (member : r ∈ rows) (isScheduled : r.isScheduled = true) :
    ∃ day ∈ plain.splitDays g.settings.lookbehind, ∀ d, day.serviceDate = some d →
      d.next?.isSome = true → r.serviceDate = some d ∧
        (r.date = some (r.servedOn d) ↔ ∀ t ∈ r.servedTime?, t.seconds < 172800) := by
  obtain ⟨found, next, scheduled, _, isPlain, remembers, schedules, snapshot, zone, day, final,
    merges⟩ := display_ok ran
  obtain rfl := Option.some.inj (isPlain.symm.trans asked)
  rcases Task.mem_mergeStopTimes merges member with ⟨row, inScheduled, update, rfl⟩ | isAdded
  · obtain ⟨day, inDays, w, row, _, _, rfl⟩ :=
      scheduled_sound (fed.remembers remembers) trivial schedules inScheduled
    refine ⟨day, inDays, fun d known next => ?_⟩
    rw [StopTime.onDay_of_date known]
    exact ⟨rfl, StopTime.date_stamp_eq_iff next row⟩
  · rw [StopTime.isScheduled_of_mem_addedRows isAdded] at isScheduled
    cases isScheduled

end Stop

end Transit
