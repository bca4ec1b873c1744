import Transit.Proofs.Field.Scheduled
import Transit.Proofs.Realtime.Merge
set_option autoImplicit false

/-!
# The display of a stop

What a stop displays are the scheduled rows for the filter in plain terms, which may have got
updates, and rows for trips outside the schedule (`display_ok`, `mem_mergeStopTimes`).
-/

namespace Transit

namespace Gateway

/-- Only what is remembered of the warehouse and counted has changed. -/
def Remembers (g next : Gateway) : Prop :=
  ∃ ids windows calls, next = { g with ids, serviceWindows := windows, calls }

variable {l : Lookup} {g next : Gateway}

theorem FedBy.remembers {origin : Warehouse → Prop} (fed : g.FedBy l origin)
    (remembers : g.Remembers next) : next.FedBy l origin := by
  obtain ⟨_, _, _, rfl⟩ := remembers
  exact fed

end Gateway

namespace Stop

/-- The service window that the dates of a filter are mapped into. -/
def windowOf (s : Stop) (g : Gateway) (filter : StopTimeFilter) : Option ServiceWindow :=
  if filter.useServiceWindow.getD false then
    (g.serviceWindows.lookup s.feedVersionId).getD (g.warehouse.serviceWindow? s.feedVersionId)
  else none

/-- A filter in plain terms, on the clock of the stop's zone. -/
def plainFilter? (s : Stop) (g : Gateway) (filter : StopTimeFilter) : Option StopTimeFilter :=
  match (IdCache.stopZone s.id s.stopTimezone g.warehouse g.ids).answer with
  | .ok (some zone) =>
    let now := zone.localNow g.now
    some (filter.normalize ⟨now.1, now.2⟩ (s.windowOf g filter))
  | _ => none

theorem windowFor_ok {s : Stop} {filter : StopTimeFilter} {g next : Gateway}
    {window : Option ServiceWindow}
    (ran : (s.windowFor filter).run.run g = (.ok window, next)) :
    window = s.windowOf g filter ∧ g.Remembers next := by
  unfold windowFor at ran
  unfold windowOf
  by_cases wanted : filter.useServiceWindow.getD false = true
  · rw [if_pos wanted] at ran ⊢
    have found := Resolve.run_on_ok ran
    simp only [Task.serviceWindow, Task.run, Prod.mk.injEq, Except.ok.injEq] at found
    refine ⟨found.1.symm, ?_⟩
    rw [← found.2]
    split
    · exact ⟨_, _, _, rfl⟩
    · exact ⟨_, _, _, rfl⟩
  · rw [if_neg wanted] at ran ⊢
    rw [Resolve.run_pure, Prod.mk.injEq, Except.ok.injEq] at ran
    exact ⟨ran.1.symm, _, _, _, ran.2.symm⟩

/-- What a stop displays are the merged rows of the filter in plain terms. -/
theorem display_ok {s : Stop} {limit : Option Int} {filter : StopTimeFilter} {g last : Gateway}
    {rows : List StopTime} (ran : (s.display limit filter).run.run g = (.ok rows, last)) :
    ∃ plain next scheduled after, s.plainFilter? g filter = some plain ∧ g.Remembers next ∧
      (s.scheduled limit (plain.splitDays g.settings.lookbehind)).run.run next =
        (.ok scheduled, after) ∧
      ∃ snapshot zone addedDate final,
        ((Task.mergeStopTimes snapshot s zone scheduled addedDate).run final).1 = .ok rows := by
  unfold display at ran
  obtain ⟨answer, zoned, found, ran⟩ := Resolve.run_bind_ok ran
  have answered := Resolve.run_on_ok found
  rw [Task.stopZone, Task.run_remember, Prod.mk.injEq] at answered
  obtain ⟨known, rfl⟩ := answered
  cases answer with
  | none => cases ran
  | some zone =>
    obtain ⟨⟨date, seconds⟩, looked, looks, ran⟩ := Resolve.run_bind_ok ran
    rw [Resolve.run_look, Prod.mk.injEq, Except.ok.injEq] at looks
    obtain ⟨clock, rfl⟩ := looks
    obtain ⟨window, windowed, windows, ran⟩ := Resolve.run_bind_ok ran
    obtain ⟨rfl, ids, remembered, calls, rfl⟩ := windowFor_ok windows
    obtain ⟨lookbehind, _, looks, ran⟩ := Resolve.run_bind_ok ran
    rw [Resolve.run_look, Prod.mk.injEq, Except.ok.injEq] at looks
    obtain ⟨rfl, rfl⟩ := looks
    obtain ⟨scheduled, after, schedules, ran⟩ := Resolve.run_bind_ok ran
    obtain ⟨_, _, _, ran⟩ := Resolve.run_bind_ok ran
    obtain ⟨snapshot, shot, _, ran⟩ := Resolve.run_bind_ok ran
    have merged := Resolve.run_on_ok ran
    refine ⟨_, _, scheduled, after, ?_, ⟨ids, remembered, calls, rfl⟩, schedules, snapshot, zone, _,
      shot, congrArg Prod.fst merged⟩
    simp only [plainFilter?, known]
    have now : zone.localNow g.now = (date, seconds) := clock
    rw [now]
    rfl

/-- A display goes on as long as each of its parts ends with a value. -/
theorem display_run {s : Stop} {limit : Option Int} {filter plain : StopTimeFilter}
    {g zoned windowed after shot : Gateway} {zone : Zone} {window : Option ServiceWindow}
    {rows : List StopTime} {snapshot : Realtime.Snapshot}
    (zones : (Task.stopZone s.id s.stopTimezone).run g = (.ok (some zone), zoned))
    (windows : (s.windowFor filter).run.run zoned = (.ok window, windowed))
    (normal : filter.normalize ⟨(zone.localNow zoned.now).1, (zone.localNow zoned.now).2⟩ window =
      plain)
    (schedules : (s.scheduled limit (plain.splitDays windowed.settings.lookbehind)).run.run
      windowed = (.ok rows, after))
    (active : after.request.cancelled = false)
    (shoots : (Task.snapshot s.feedVersionId).run after = (.ok snapshot, shot)) :
    (s.display limit filter).run.run g = (Resolve.on "stop_times" (Task.mergeStopTimes snapshot s
      zone rows ((plain.date.or plain.serviceDate).or
        (some (zone.localNow zoned.now).1)))).run.run shot := by
  have goesOn : Resolve.checkCancelled.run.run after = (.ok (), after) := by
    rw [Resolve.checkCancelled, Resolve.run_bind_of_ok (Resolve.run_look _ after), active]
    rfl
  have zonesField : (Resolve.on "stop_times" (Task.stopZone s.id s.stopTimezone)).run.run g =
      (.ok (some zone), zoned) := by
    rw [Resolve.run_on, zones]
    rfl
  have shootsField : (Resolve.on "stop_times" (Task.snapshot s.feedVersionId)).run.run after =
      (.ok snapshot, shot) := by
    rw [Resolve.run_on, shoots]
    rfl
  subst normal
  rw [display, Resolve.run_bind_of_ok zonesField]
  dsimp only
  rw [Resolve.run_bind_of_ok (Resolve.run_look _ zoned), Resolve.run_bind_of_ok windows,
    Resolve.run_bind_of_ok (Resolve.run_look _ windowed), Resolve.run_bind_of_ok schedules,
    Resolve.run_bind_of_ok goesOn, Resolve.run_bind_of_ok shootsField]

end Stop

end Transit
