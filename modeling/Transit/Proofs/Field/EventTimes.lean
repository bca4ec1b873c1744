import Transit.Proofs.Field.Estimates
set_option autoImplicit false

/-!
# The times of arrivals and departures

An event says one moment in three forms, and says it once more as a time of the service day. All of
them agree in every event that is built (`StopTimeEvent.coherent_build`): the schedule counts from
the midnight of the service date and is read back from there, and an estimate that has a time of the
service day has the one at which its moment falls. An event is built unless the calendar ends before
a moment that it counts.
-/

namespace Transit

open Realtime

/-- The calendar runs from the first second of the year -262143 to the last of the year 262142. -/
def Instant.InCalendar (unix : Int) : Prop :=
  -8334601228800 ≤ unix ∧ unix ≤ 8210266876799

namespace Instant

instance (unix : Int) : Decidable (InCalendar unix) :=
  inferInstanceAs (Decidable (_ ∧ _))

theorem span_eq : span = ⟨-8334601228800, 8210266876799⟩ := by
  decide

theorem span_holds_iff {unix : Int} : span.holds unix = true ↔ InCalendar unix := by
  rw [Number.Range.holds_iff, span_eq, InCalendar]

theorem ofUnix?_eq (unix : Int) : ofUnix? unix = if span.holds unix then some ⟨unix, 0⟩ else none := by
  have days : Date.span.holds (unix / secondsPerDay) = span.holds unix := by
    rw [Bool.eq_iff_iff, Number.Range.holds_iff, Number.Range.holds_iff]
    simp only [span, secondsPerDay]
    omega
  rw [ofUnix?, days]

theorem later?_of_inCalendar {t : Instant} {seconds : Int}
    (within : InCalendar (t.seconds + seconds)) : t.later? seconds = some (t.later seconds) := by
  rw [later?, if_pos (span_holds_iff.mpr within)]

end Instant

namespace WideTime

variable {z : Zone} {d : Date} {midnight : LocalInstant}

/-- A moment counted from midnight falls at that time, unless the time is negative or beyond 32
bits. -/
theorem ofInstant?_later (counted : z.serviceMidnight? d = some midnight) (seconds : Int) :
    ofInstant? (midnight.instant.later seconds) (some d) z =
      if 0 ≤ seconds && Number.Range.int32.holds seconds then some ⟨seconds.toNat⟩ else none := by
  have back : midnight.instant.seconds + seconds - midnight.instant.seconds = seconds := by omega
  simp only [ofInstant?, Option.bind_some, counted, Instant.later, back]

theorem ofInstant?_later_seconds (counted : z.serviceMidnight? d = some midnight) {t : WideTime}
    (fits : Number.Range.int32.holds t.seconds = true) :
    ofInstant? (midnight.instant.later t.seconds) (some d) z = some t := by
  have nonneg : decide (0 ≤ (t.seconds : Int)) = true := decide_eq_true (Int.natCast_nonneg _)
  rw [ofInstant?_later counted, nonneg, fits]
  rfl

/-- To shift a time is to shift its moment. -/
theorem ofInstant?_shifted (counted : z.serviceMidnight? d = some midnight) (t : WideTime)
    (seconds : Int) :
    ofInstant? (midnight.instant.later (t.seconds + seconds)) (some d) z = t.addSeconds? seconds :=
  ofInstant?_later counted (t.seconds + seconds)

theorem seconds_of_ofInstant? (counted : z.serviceMidnight? d = some midnight) {u : Instant}
    {t : WideTime} (falls : ofInstant? u (some d) z = some t) :
    (t.seconds : Int) = u.seconds - midnight.instant.seconds := by
  simp only [ofInstant?, Option.bind_some, counted] at falls
  split at falls
  · next fits =>
    obtain rfl := Option.some.inj falls
    rw [Bool.and_eq_true, decide_eq_true_eq] at fits
    exact Int.toNat_of_nonneg fits.1
  · cases falls

end WideTime

namespace StopTimeEvent

/-- A moment, or none, in the three forms in which clients see it: in UTC, as Unix time and on the
clock of a zone. -/
structure Forms where
  utc : Option Instant
  unix : Option Int
  zoned : Option LocalInstant

def Forms.of (z : Zone) (moment : Option Instant) : Forms :=
  ⟨moment, moment.map (·.seconds), moment.map fun t => ⟨t, z.offsetAt t.seconds⟩⟩

def scheduledForms (e : StopTimeEvent) : Forms :=
  ⟨e.scheduledUtc, e.scheduledUnix, e.scheduledLocal⟩

def estimatedForms (e : StopTimeEvent) : Forms :=
  ⟨e.estimatedUtc, e.estimatedUnix, e.estimatedLocal⟩

/-- Realtime data has no absolute time, or one that the calendar does not have. -/
def Timeless (event : Option TimeEvent) : Prop :=
  ∀ unix, event.bind (·.time) = some unix → ¬ Instant.InCalendar unix

section Moments

variable (midnight : Instant) (scheduled : Option WideTime) (event : Option TimeEvent)
  (lastDelay : Option Int)

/-- The moment of the schedule, counted from midnight. -/
def scheduledMoment? : Option Instant :=
  scheduled.map fun t => midnight.later t.seconds

/-- The schedule shifted by the event's own delay, else by that of an earlier stop. -/
def shiftedMoment? : Option Instant := do
  let t ← scheduled
  let delay ← (event.bind (·.delay)).or lastDelay
  return midnight.later (t.seconds + delay)

/-- The calendar has the moment of the schedule, and that of an estimate that is worked out from
it. -/
structure Reached : Prop where
  schedule : ∀ moment ∈ scheduledMoment? midnight scheduled, Instant.InCalendar moment.seconds
  estimate : Timeless event →
    ∀ moment ∈ shiftedMoment? midnight scheduled event lastDelay, Instant.InCalendar moment.seconds

end Moments

/-- The fields of an event agree with each other and with what it was built from. -/
structure Coherent (e : StopTimeEvent) (z : Zone) (d : Date) (midnight : Instant)
    (scheduled : Option WideTime) (event : Option TimeEvent) (lastDelay : Option Int) : Prop where
  clock : e.scheduled = scheduled
  scheduledForms : e.scheduledForms = .of z (scheduledMoment? midnight scheduled)
  readBack : ∀ moment, e.scheduledUtc = some moment →
    WideTime.ofInstant? moment (some d) z = scheduled
  absolute : ∀ unix, event.bind (·.time) = some unix → Instant.InCalendar unix →
    e.estimatedForms = .of z (some ⟨unix, 0⟩)
  shifted : Timeless event →
    e.estimatedForms = .of z (shiftedMoment? midnight scheduled event lastDelay)
  estimatedClock : e.estimated = e.estimatedUtc.bind (WideTime.ofInstant? · (some d) z)
  counted : ∀ t, e.estimated = some t →
    ∃ moment, e.estimatedUtc = some moment ∧ (t.seconds : Int) = moment.seconds - midnight.seconds
  delay : e.delay = event.bind (·.delay)
  uncertainty : e.uncertainty = event.bind (·.uncertainty)

/-- An event has an absolute time that can be represented, or it is timeless. -/
theorem absolute_or_timeless (event : Option TimeEvent) :
    (∃ unix, event.bind (·.time) = some unix ∧ Instant.InCalendar unix ∧
      (event.bind (·.time)).bind Instant.ofUnix? = some ⟨unix, 0⟩) ∨
    Timeless event ∧ (event.bind (·.time)).bind Instant.ofUnix? = none := by
  unfold Timeless
  cases event.bind (·.time) with
  | none => exact .inr ⟨nofun, rfl⟩
  | some unix =>
    rw [Option.bind_some, Instant.ofUnix?_eq]
    by_cases within : Instant.span.holds unix
    · exact .inl ⟨unix, rfl, Instant.span_holds_iff.mp within, if_pos within⟩
    · refine .inr ⟨?_, if_neg within⟩
      rintro _ ⟨⟩
      exact mt Instant.span_holds_iff.mpr within

theorem reached_some_iff {midnight : Instant} {t : WideTime} {event : Option TimeEvent}
    {lastDelay : Option Int} :
    Reached midnight (some t) event lastDelay ↔
      Instant.InCalendar (midnight.seconds + t.seconds) ∧ (Timeless event →
        ∀ delay ∈ (event.bind (·.delay)).or lastDelay,
          Instant.InCalendar (midnight.seconds + t.seconds + delay)) := by
  have schedule : (∀ moment ∈ scheduledMoment? midnight (some t),
      Instant.InCalendar moment.seconds) ↔ Instant.InCalendar (midnight.seconds + t.seconds) := by
    simp [scheduledMoment?, Instant.later]
  have estimate : (∀ moment ∈ shiftedMoment? midnight (some t) event lastDelay,
      Instant.InCalendar moment.seconds) ↔ ∀ delay ∈ (event.bind (·.delay)).or lastDelay,
        Instant.InCalendar (midnight.seconds + t.seconds + delay) := by
    unfold shiftedMoment?
    cases (event.bind (·.delay)).or lastDelay with
    | none => simp
    | some delay => simp [Instant.later, Int.add_assoc]
  rw [← schedule, ← estimate]
  exact ⟨fun reached => ⟨reached.schedule, reached.estimate⟩, fun both => ⟨both.1, both.2⟩⟩

section Build

variable {z : Zone} {d : Date} {midnight : LocalInstant}
  (counted : z.serviceMidnight? d = some midnight) {scheduled : Option WideTime}
  {event : Option TimeEvent} {lastDelay : Option Int}

include counted

/-- An event is built if and only if the calendar has its moments. -/
theorem build?_isSome_iff (within : Instant.InCalendar midnight.instant.seconds) :
    (build? z (some d) scheduled event lastDelay).isSome = true ↔
      Reached midnight.instant scheduled event lastDelay := by
  have built : (build? z (some d) scheduled event lastDelay).isSome = true ↔
      ∀ unix ∈ counts z (some d) scheduled event lastDelay, Instant.InCalendar unix := by
    unfold build?
    simp only [← Instant.span_holds_iff, ← List.all_eq_true]
    split <;> simp_all
  rw [built, counts, Option.bind_some, counted]
  rcases absolute_or_timeless event with ⟨unix, time, inside, absolute⟩ | ⟨timeless, absolute⟩
  · have notTimeless : ¬ Timeless event := fun timeless => timeless unix time inside
    rw [absolute]
    cases scheduled with
    | none => exact iff_of_true (by simpa using within) ⟨nofun, nofun⟩
    | some t => simp [reached_some_iff, notTimeless, within]
  · rw [absolute]
    cases scheduled with
    | none => exact iff_of_true nofun ⟨nofun, fun _ => nofun⟩
    | some t =>
      rw [reached_some_iff]
      cases (event.bind (·.delay)).or lastDelay with
      | none => simp [within]
      | some delay => simp [timeless, within]

theorem scheduledAt?_eq (reached : ∀ moment ∈ scheduledMoment? midnight.instant scheduled,
      Instant.InCalendar moment.seconds) :
    scheduledAt? z (some d) scheduled =
      (scheduledMoment? midnight.instant scheduled).map z.localize := by
  cases scheduled with
  | none => rfl
  | some t =>
    have within := reached _ rfl
    show t.onServiceDate? d z = _
    rw [WideTime.onServiceDate?, counted]
    show (midnight.instant.later? t.seconds).bind (fun moment => some (z.localize moment)) = _
    rw [Instant.later?_of_inCalendar within]
    rfl

theorem scheduledForms_build (reached : Reached midnight.instant scheduled event lastDelay) :
    (build z (some d) scheduled event lastDelay).scheduledForms =
      .of z (scheduledMoment? midnight.instant scheduled) := by
  have reports := reports_build z (some d) scheduled event lastDelay
  rw [scheduledForms, reports.utc, reports.unix, reports.zoned,
    scheduledAt?_eq counted reached.schedule, Option.map_map, Option.map_map]
  cases scheduledMoment? midnight.instant scheduled <;> rfl

theorem scheduledAt?_shifted (reached : Reached midnight.instant scheduled event lastDelay)
    (timeless : Timeless event) {seconds : Int}
    (late : (event.bind (·.delay)).or lastDelay = some seconds) :
    (scheduledAt? z (some d) scheduled).bind (shift? z · seconds) =
      (shiftedMoment? midnight.instant scheduled event lastDelay).map z.localize := by
  rw [scheduledAt?_eq counted reached.schedule, shiftedMoment?, late]
  cases scheduled with
  | none => rfl
  | some t =>
    have within := (reached_some_iff.mp reached).2 timeless seconds late
    show ((midnight.instant.later t.seconds).later? seconds).map z.localize = _
    rw [Instant.later?_of_inCalendar within]
    simp only [Instant.later, Int.add_assoc]
    rfl

/-- The time of the service day is that of the moment, although a delay is added to each of them on
its own. -/
theorem estimate_build (reached : Reached midnight.instant scheduled event lastDelay) :
    let e := build z (some d) scheduled event lastDelay
    ∃ moment, e.estimatedForms = .of z moment ∧
      e.estimated = moment.bind (WideTime.ofInstant? · (some d) z) ∧
      (∀ unix, event.bind (·.time) = some unix → Instant.InCalendar unix →
        moment = some ⟨unix, 0⟩) ∧
      (Timeless event → moment = shiftedMoment? midnight.instant scheduled event lastDelay) := by
  unfold build
  dsimp only
  rcases absolute_or_timeless event with ⟨unix, time, inside, absolute⟩ | ⟨timeless, absolute⟩
  · rw [absolute]
    refine ⟨some ⟨unix, 0⟩, rfl, rfl, ?_, fun timeless => absurd inside (timeless unix time)⟩
    intro other same _
    obtain rfl := Option.some.inj (time.symm.trans same)
    rfl
  · rw [absolute]
    have untimed : ∀ unix, event.bind (·.time) = some unix → Instant.InCalendar unix →
        shiftedMoment? midnight.instant scheduled event lastDelay = some ⟨unix, 0⟩ :=
      fun unix time inside => absurd inside (timeless unix time)
    refine ⟨_, ?_, ?_, untimed, fun _ => rfl⟩
    · cases late : (event.bind (·.delay)).or lastDelay with
      | none =>
        rw [shiftedMoment?, late]
        cases scheduled <;> rfl
      | some seconds =>
        dsimp only [estimatedForms]
        rw [scheduledAt?_shifted counted reached timeless late, Option.map_map, Option.map_map]
        cases shiftedMoment? midnight.instant scheduled event lastDelay <;> rfl
    · rw [shiftedMoment?]
      cases (event.bind (·.delay)).or lastDelay with
      | none => cases scheduled <;> rfl
      | some seconds =>
        cases scheduled with
        | none => rfl
        | some t => exact (WideTime.ofInstant?_shifted counted t seconds).symm

end Build

theorem echoes_build (z : Zone) (serviceDate : Option Date) (scheduled : Option WideTime)
    (event : Option TimeEvent) (lastDelay : Option Int) :
    (build z serviceDate scheduled event lastDelay).delay = event.bind (·.delay) ∧
      (build z serviceDate scheduled event lastDelay).uncertainty = event.bind (·.uncertainty) := by
  unfold build
  dsimp only
  split
  · exact ⟨rfl, rfl⟩
  · split <;> exact ⟨rfl, rfl⟩

/-- On a service date that has a midnight an event is built if and only if the calendar has the
moment of its schedule, and that of an estimate that is worked out from it. All that the event says
of a call agrees, whatever the realtime data. The scheduled time has 32 bits, like all that are
read. -/
theorem coherent_build {z : Zone} {d : Date} {midnight : LocalInstant}
    (counted : z.serviceMidnight? d = some midnight)
    (within : Instant.InCalendar midnight.instant.seconds) {scheduled : Option WideTime}
    (fits : ∀ t, scheduled = some t → Number.Range.int32.holds t.seconds = true)
    (event : Option TimeEvent) (lastDelay : Option Int) :
    ((build? z (some d) scheduled event lastDelay).isSome = true ↔
        Reached midnight.instant scheduled event lastDelay) ∧
      ∀ e, build? z (some d) scheduled event lastDelay = some e →
        e.Coherent z d midnight.instant scheduled event lastDelay := by
  have builds : (build? z (some d) scheduled event lastDelay).isSome = true ↔
      Reached midnight.instant scheduled event lastDelay := build?_isSome_iff counted within
  refine ⟨builds, fun e built => ?_⟩
  have reached := builds.mp (by rw [built]; rfl)
  have isBuilt : build z (some d) scheduled event lastDelay = e := by
    unfold build? at built
    split at built
    · exact Option.some.inj built
    · cases built
  have scheduledForms := scheduledForms_build counted reached
  obtain ⟨moment, estimatedForms, estimated, absolute, shifted⟩ := estimate_build counted reached
  have echoes := echoes_build z (some d) scheduled event lastDelay
  have clock := (reports_build z (some d) scheduled event lastDelay).clock
  rw [isBuilt] at scheduledForms estimatedForms estimated echoes clock
  have scheduledUtc : e.scheduledUtc = scheduledMoment? midnight.instant scheduled :=
    congrArg Forms.utc scheduledForms
  have estimatedUtc : e.estimatedUtc = moment := congrArg Forms.utc estimatedForms
  refine ⟨clock, scheduledForms, ?readBack, ?absolute, ?shifted, ?estimatedClock, ?counted, echoes.1,
    echoes.2⟩
  case readBack =>
    intro moment same
    rw [scheduledUtc, scheduledMoment?, Option.map_eq_some_iff] at same
    obtain ⟨t, rfl, rfl⟩ := same
    exact WideTime.ofInstant?_later_seconds counted (fits t rfl)
  case absolute =>
    intro unix time inside
    rw [estimatedForms, absolute unix time inside]
  case shifted =>
    intro timeless
    rw [estimatedForms, shifted timeless]
  case estimatedClock => rw [estimatedUtc, estimated]
  case counted =>
    intro t falls
    rw [estimated, Option.bind_eq_some_iff] at falls
    obtain ⟨u, isMoment, falls⟩ := falls
    exact ⟨u, estimatedUtc.trans isMoment, WideTime.seconds_of_ofInstant? counted falls⟩

/-- The clock in São Paulo skips the midnight of 2018-11-04, which is then counted from 23:00 of the
day before. An absolute time goes before both delays, and the event's own delay before that of an
earlier stop. -/
theorem coherent_build_of_skipped :
    let midnight : LocalInstant := ⟨⟨1541296800, 0⟩, -10800⟩
    let timed : TimeEvent := { time := some 1541333000, delay := some (-90), uncertainty := some 20 }
    let late : TimeEvent := { timed with time := none }
    Zone.saoPaulo.serviceMidnight? ⟨17839⟩ = some midnight ∧
      ∃ e e', build? .saoPaulo (some ⟨17839⟩) (some ⟨36000⟩) (some timed) (some 30) = some e ∧
        build? .saoPaulo (some ⟨17839⟩) (some ⟨36000⟩) (some late) (some 30) = some e' ∧
        e.Coherent .saoPaulo ⟨17839⟩ midnight.instant (some ⟨36000⟩) (some timed) (some 30) ∧
        e'.Coherent .saoPaulo ⟨17839⟩ midnight.instant (some ⟨36000⟩) (some late) (some 30) ∧
        e.estimatedForms = .of .saoPaulo (some ⟨1541333000, 0⟩) ∧
        e'.estimatedForms = .of .saoPaulo (some ⟨1541332710, 0⟩) ∧
        e.estimated = some ⟨36200⟩ ∧ e'.estimated = some ⟨35910⟩ := by
  intro midnight timed late
  have counted : Zone.saoPaulo.serviceMidnight? ⟨17839⟩ = some midnight := by decide +kernel
  have within : Instant.InCalendar midnight.instant.seconds := by decide
  have fits : ∀ t, some (⟨36000⟩ : WideTime) = some t →
      Number.Range.int32.holds t.seconds = true := by
    rintro t ⟨⟩
    decide
  have coherent := fun event => coherent_build counted within fits (some event) (some 30)
  have reached (event : TimeEvent) (small : event.delay = some (-90)) :
      Reached midnight.instant (some ⟨36000⟩) (some event) (some 30) := by
    refine reached_some_iff.mpr ⟨by decide, ?_⟩
    rintro _ delay isDelay
    rw [Option.bind_some, small] at isDelay
    obtain rfl := Option.some.inj isDelay
    decide
  obtain ⟨e, built⟩ := Option.isSome_iff_exists.mp ((coherent timed).1.mpr (reached timed rfl))
  obtain ⟨e', built'⟩ := Option.isSome_iff_exists.mp ((coherent late).1.mpr (reached late rfl))
  have agrees := (coherent timed).2 e built
  have agrees' := (coherent late).2 e' built'
  have forms : e.estimatedForms = .of .saoPaulo (some ⟨1541333000, 0⟩) :=
    agrees.absolute 1541333000 rfl (by decide)
  have forms' : e'.estimatedForms = .of .saoPaulo (some ⟨1541332710, 0⟩) := agrees'.shifted nofun
  refine ⟨counted, e, e', built, built', agrees, agrees', forms, forms', ?_, ?_⟩
  · rw [agrees.estimatedClock, show e.estimatedUtc = _ from congrArg Forms.utc forms]
    decide +kernel
  · rw [agrees'.estimatedClock, show e'.estimatedUtc = _ from congrArg Forms.utc forms']
    decide +kernel

/-- At 24:00:00 of the last date of the calendar there is no moment, and no event. -/
example : build? ⟨"UTC", 0, []⟩ (some ⟨Date.span.hi⟩) (some ⟨86400⟩) none none = none := by
  decide

end StopTimeEvent

end Transit
