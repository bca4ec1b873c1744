import Mathlib.Data.List.Forall2
import Transit.Gateway.Settings
import Transit.Proofs.Field.DateWindow
import Transit.Proofs.Field.Shown
import Transit.Proofs.Service.Bounds
set_option autoImplicit false

/-!
# The sums behind a window

The ends of a window are words of 32 bits. In terms of the previous service day a window begins a
day later, and nothing keeps that sum within a word. It leaves the words if the window looks back
although it begins less than a day before the greatest of them (`sums_hold_iff`). It is negative
then, and the previous day is searched from its first row on, although it has no times as late as
the window. All other windows are those that are meant (`windows_agree_iff`), and all windows are if
the settings let none look back that begins so late (`sums_always_hold_iff`).
-/

namespace Transit

open Number.Range (int32)

namespace Settings

variable {α β : Type} {lookup : String → Option String}

theorem bind_eq_ok {x : Except SettingsError α} {f : α → Except SettingsError β} {b : β} :
    (x >>= f) = .ok b ↔ ∃ a, x = .ok a ∧ f a = .ok b := by
  cases x <;> simp [bind, Except.bind]

/-- A setting that is accepted is the default or has been read. -/
theorem setting_eq_ok {name : String} {read : String → Option α} {absent a : α}
    (accepted : setting lookup name read absent = .ok a) :
    a = absent ∨ ∃ text, read text = some a := by
  cases given : lookup (variableStart ++ name) with
  | none =>
    simp only [setting, given] at accepted
    cases accepted
    exact .inl rfl
  | some value =>
    cases known : read (Text.trim value) with
    | none =>
      simp only [setting, given, known] at accepted
      cases accepted
    | some found =>
      simp only [setting, given, known] at accepted
      cases accepted
      exact .inr ⟨_, known⟩

theorem lookbehind_of_ofVariables {settings : Settings}
    (accepted : ofVariables lookup = .ok settings) : int32.holds settings.lookbehind = true := by
  unfold ofVariables at accepted
  obtain ⟨_, _, accepted⟩ := bind_eq_ok.mp accepted
  obtain ⟨_, _, accepted⟩ := bind_eq_ok.mp accepted
  obtain ⟨_, _, accepted⟩ := bind_eq_ok.mp accepted
  obtain ⟨_, _, accepted⟩ := bind_eq_ok.mp accepted
  obtain ⟨_, _, accepted⟩ := bind_eq_ok.mp accepted
  obtain ⟨_, _, accepted⟩ := bind_eq_ok.mp accepted
  obtain ⟨_, _, accepted⟩ := bind_eq_ok.mp accepted
  obtain ⟨lookbehind, asSet, accepted⟩ := bind_eq_ok.mp accepted
  obtain ⟨_, _, accepted⟩ := bind_eq_ok.mp accepted
  obtain ⟨_, _, accepted⟩ := bind_eq_ok.mp accepted
  have isLookbehind : settings.lookbehind = lookbehind := by
    cases accepted
    rfl
  rw [isLookbehind]
  rcases setting_eq_ok asSet with rfl | ⟨text, known⟩
  · decide
  · exact (Option.filter_eq_some_iff.mp known).2

end Settings

/-- The window of a query on one service day, as far as it has ends. -/
structure DayWindow where
  serviceDate : Option Date
  opens : Option Int
  closes : Option Int
  deriving DecidableEq, Repr

namespace StopTimeFilter

/-- The numbers of the filter are words of 32 bits. -/
structure Words (f : StopTimeFilter) : Prop where
  startTime : ∀ n ∈ f.startTime, int32.holds n = true
  endTime : ∀ n ∈ f.endTime, int32.holds n = true
  next : ∀ n ∈ f.next, int32.holds n = true
  start : ∀ n ∈ f.wideStart, int32.holds n = true
  stop : ∀ n ∈ f.wideStop, int32.holds n = true

/-- A day before the greatest word. -/
def lastShifted : Int := int32.hi - daySeconds

/-- The window looks back, although it begins less than a day before the greatest word. -/
structure Overflows (f : StopTimeFilter) (lookbehind : Int) : Prop where
  dated : f.date.isSome = true
  looksBack : f.opens < lookbehind
  late : lastShifted < f.opens

def dayWindow (f : StopTimeFilter) : DayWindow := ⟨f.serviceDate, f.startTime, f.endTime⟩

/-- The exact values of the sum and the difference that are taken for the windows of the other
days. -/
def sums (f : StopTimeFilter) (lookbehind : Int) : List Int :=
  f.date.elim [] fun _ =>
    (if f.opens < lookbehind then [daySeconds + f.opens] else []) ++
      if daySeconds < f.closes then [f.closes - daySeconds] else []

/-- The windows of the day before the date, of the date and of the day after it, with the sum and
the difference as `kept` keeps them. -/
def previousWindow (f : StopTimeFilter) (kept : Int → Int) (date : Date) : DayWindow :=
  ⟨date.previous?, some (kept (daySeconds + f.opens)), some WideTime.maxQuery⟩

def sameWindow (f : StopTimeFilter) (date : Date) : DayWindow :=
  ⟨some date, some (max f.opens 0), some (min f.closes daySeconds)⟩

def nextWindow (f : StopTimeFilter) (kept : Int → Int) (date : Date) : DayWindow :=
  ⟨date.next?, some 0, some (kept (f.closes - daySeconds))⟩

def dayWindows (f : StopTimeFilter) (kept : Int → Int) (lookbehind : Int) : List DayWindow :=
  f.date.elim [f.dayWindow] fun date =>
    (if f.opens < lookbehind then [f.previousWindow kept date] else []) ++ [f.sameWindow date] ++
      if daySeconds < f.closes then [f.nextWindow kept date] else []

/-- The filter in plain terms, except that the window of the next seconds ends when they are over,
even if that is beyond every word. -/
def meant (f : StopTimeFilter) (now : LocalNow) (window : Option ServiceWindow) : StopTimeFilter :=
  { f.normalize now window with
    endTime := (f.next.map (now.seconds + ·)).or (f.wideStop.or f.endTime) }

/-- The windows that are meant, with the sum and the difference as they are. -/
def meantWindows (f : StopTimeFilter) (now : LocalNow) (window : Option ServiceWindow)
    (lookbehind : Int) : List DayWindow :=
  (f.meant now window).dayWindows id lookbehind

end StopTimeFilter

/-- Two windows of one service day with the same times in them, up to a day before the greatest
word. All rows have earlier times. -/
structure DayWindow.Agrees (a b : DayWindow) : Prop where
  serviceDate : a.serviceDate = b.serviceDate
  times : ∀ t < StopTimeFilter.lastShifted,
    StopTimeFilter.between a.opens a.closes t = StopTimeFilter.between b.opens b.closes t

theorem DayWindow.Agrees.refl (a : DayWindow) : a.Agrees a :=
  ⟨rfl, fun _ _ => rfl⟩

namespace StopTimeFilter

variable {f g : StopTimeFilter} {now : LocalNow} {window : Option ServiceWindow} {lookbehind : Int}

section Words

theorem holds_of_or {a b : Option Int} (first : ∀ n ∈ a, int32.holds n = true)
    (second : ∀ n ∈ b, int32.holds n = true) : ∀ n ∈ a.or b, int32.holds n = true := by
  intro n known
  rcases Option.or_eq_some_iff.mp known with isFirst | ⟨_, isSecond⟩
  · exact first n isFirst
  · exact second n isSecond

theorem saturatingAdd_holds (a b : Int) : int32.holds (saturatingAdd a b) = true := by
  have ordered : int32.lo ≤ int32.hi := by decide
  refine Number.Range.holds_iff.mpr ?_
  unfold saturatingAdd
  omega

theorem Words.opens (words : f.Words) : int32.lo ≤ f.opens ∧ f.opens ≤ int32.hi := by
  unfold StopTimeFilter.opens
  cases given : f.startTime with
  | none => decide
  | some n => exact Number.Range.holds_iff.mp (words.startTime n given)

theorem Words.closes (words : f.Words) : int32.lo ≤ f.closes ∧ f.closes ≤ int32.hi := by
  unfold StopTimeFilter.closes
  cases given : f.endTime with
  | none => decide
  | some n => exact Number.Range.holds_iff.mp (words.endTime n given)

theorem Words.normalize (words : f.Words) (clock : int32.holds now.seconds = true) :
    (f.normalize now window).Words := by
  rw [normalize_eq]
  refine ⟨?_, ?_, words.next, nofun, nofun⟩
  · refine holds_of_or (fun n known => ?_) (holds_of_or words.start words.startTime)
    obtain ⟨_, _, rfl⟩ := Option.map_eq_some_iff.mp known
    exact clock
  · refine holds_of_or (fun n known => ?_) (holds_of_or words.stop words.endTime)
    obtain ⟨_, _, rfl⟩ := Option.map_eq_some_iff.mp known
    exact saturatingAdd_holds _ _

end Words

/-! ## Sums within words -/

theorem mem_sums {n : Int} : n ∈ f.sums lookbehind ↔ f.date.isSome = true ∧
    (f.opens < lookbehind ∧ n = daySeconds + f.opens ∨
      daySeconds < f.closes ∧ n = f.closes - daySeconds) := by
  unfold sums
  cases f.date <;> simp

/-- No difference leaves the words, and a sum leaves them only if the window begins late. -/
theorem sums_hold_iff (words : f.Words) :
    (∀ n ∈ f.sums lookbehind, int32.holds n = true) ↔ ¬ f.Overflows lookbehind := by
  obtain ⟨opensAfter, opensBefore⟩ := words.opens
  obtain ⟨closesAfter, closesBefore⟩ := words.closes
  simp only [Number.Range.holds_iff]
  constructor
  · intro fit leaves
    have sum := (fit _ (mem_sums.mpr ⟨leaves.dated, .inl ⟨leaves.looksBack, rfl⟩⟩)).2
    have late := leaves.late
    unfold lastShifted at late
    omega
  · intro fits n member
    have small : int32.lo ≤ 0 := by decide
    obtain ⟨dated, ⟨looksBack, rfl⟩ | ⟨past, rfl⟩⟩ := mem_sums.mp member
    · have early : f.opens ≤ lastShifted :=
        Int.not_lt.mp fun late => fits ⟨dated, looksBack, late⟩
      unfold lastShifted daySeconds at *
      omega
    · unfold daySeconds at *
      omega

theorem dayWindows_of_dated {date : Date} (dated : f.date = some date) (kept : Int → Int) :
    f.dayWindows kept lookbehind =
      (if f.opens < lookbehind then [f.previousWindow kept date] else []) ++ [f.sameWindow date] ++
        if daySeconds < f.closes then [f.nextWindow kept date] else [] := by
  rw [dayWindows, dated, Option.elim_some]

/-- The windows depend on how the sums are kept only as far as these are taken. -/
theorem dayWindows_congr {kept exact : Int → Int}
    (same : ∀ n ∈ f.sums lookbehind, kept n = exact n) :
    f.dayWindows kept lookbehind = f.dayWindows exact lookbehind := by
  cases dated : f.date with
  | none => rw [dayWindows, dayWindows, dated, Option.elim_none, Option.elim_none]
  | some date =>
    have isSome : f.date.isSome = true := by rw [dated, Option.isSome_some]
    have previous (looksBack : f.opens < lookbehind) :
        [f.previousWindow kept date] = [f.previousWindow exact date] := by
      rw [previousWindow, same _ (mem_sums.mpr ⟨isSome, .inl ⟨looksBack, rfl⟩⟩), previousWindow]
    have next (past : daySeconds < f.closes) :
        [f.nextWindow kept date] = [f.nextWindow exact date] := by
      rw [nextWindow, same _ (mem_sums.mpr ⟨isSome, .inr ⟨past, rfl⟩⟩), nextWindow]
    rw [dayWindows_of_dated dated, dayWindows_of_dated dated, ite_congr rfl previous fun _ => rfl,
      ite_congr rfl next fun _ => rfl]

theorem map_dayWindow_splitDays (words : f.Words) :
    (f.splitDays lookbehind).map dayWindow = f.dayWindows int32.wrap lookbehind := by
  cases dated : f.date with
  | none =>
    rw [splitDays, dayWindows, dated]
    rfl
  | some date =>
    have next (past : daySeconds < f.closes) :
        [(f.nextDay date).dayWindow] = [f.nextWindow int32.wrap date] := by
      have fits : int32.holds (f.closes - daySeconds) = true := by
        have closes := words.closes.2
        have small : int32.lo ≤ 0 := by decide
        refine Number.Range.holds_iff.mpr ?_
        unfold daySeconds at *
        omega
      rw [nextWindow, Number.Range.wrap_of_holds fits]
      rfl
    rw [splitDays_of_dated dated, dayWindows_of_dated dated, List.map_append, List.map_append,
      apply_ite (List.map dayWindow), apply_ite (List.map dayWindow), List.map_singleton,
      List.map_singleton, List.map_singleton, ite_congr rfl next fun _ => rfl]
    rfl

theorem windows_of_fits (words : f.Words) (fits : ¬ f.Overflows lookbehind) :
    (f.splitDays lookbehind).map dayWindow = f.dayWindows id lookbehind := by
  have exact : ∀ n ∈ f.sums lookbehind, int32.wrap n = id n :=
    fun n taken => Number.Range.wrap_of_holds ((sums_hold_iff words).mpr fits n taken)
  rw [map_dayWindow_splitDays words, dayWindows_congr exact]

/-! ## The windows that are meant -/

theorem between_iff {start stop t : Int} :
    between (some start) (some stop) t = true ↔ start ≤ t ∧ t < stop := by
  simp [between]

theorem forall₂_ite {α : Type} {R : α → α → Prop} {p q : Prop} [Decidable p] [Decidable q]
    {a b : α} (same : p ↔ q) (related : p → R a b) :
    List.Forall₂ R (if p then [a] else []) (if q then [b] else []) := by
  by_cases holds : p
  · rw [if_pos holds, if_pos (same.mp holds)]
    exact .cons (related holds) .nil
  · rw [if_neg holds, if_neg (mt same.mpr holds)]
    exact .nil

/-- An end that is held within words is as good as the end that is meant. -/
theorem dayWindows_agree {date : Date} (dated : f.date = some date)
    (meantDated : g.date = some date) (begins : int32.lo ≤ f.opens) (opens : f.opens = g.opens)
    (closes : f.closes = max int32.lo (min int32.hi g.closes)) :
    List.Forall₂ DayWindow.Agrees (f.dayWindows id lookbehind) (g.dayWindows id lookbehind) := by
  have small : int32.lo ≤ 0 := by decide
  have large : daySeconds < int32.hi := by decide
  have positive : 0 < daySeconds := by decide
  rw [dayWindows_of_dated dated, dayWindows_of_dated meantDated]
  refine List.rel_append (List.rel_append ?_ (.cons ?_ .nil)) ?_
  · refine forall₂_ite (by rw [opens]) fun _ => ?_
    rw [previousWindow, opens]
    exact .refl _
  · refine ⟨rfl, fun t _ => Bool.eq_iff_iff.mpr ?_⟩
    unfold sameWindow
    rw [between_iff, between_iff, opens]
    omega
  · refine forall₂_ite (by omega) fun _ => ⟨rfl, fun t early => Bool.eq_iff_iff.mpr ?_⟩
    unfold nextWindow
    unfold lastShifted at early
    rw [between_iff, between_iff, id, id]
    omega

/-- The window of the previous day begins before all times if the sum has left the word. -/
theorem not_agrees_previousWindow {f g : StopTimeFilter} {date : Date} (opens : f.opens = g.opens)
    (most : f.opens ≤ int32.hi) (late : lastShifted < f.opens) :
    ¬ (f.previousWindow int32.wrap date).Agrees (g.previousWindow id date) := by
  intro agrees
  have negative : int32.wrap (daySeconds + f.opens) ≤ 0 := by
    have highest : f.opens ≤ 2147483647 := most
    have lowest : 2147397247 < f.opens := late
    show -2147483648 + (86400 + f.opens - -2147483648) % 4294967296 ≤ 0
    omega
  have admitted : between (some (int32.wrap (daySeconds + f.opens))) (some WideTime.maxQuery) 0 =
      true := between_iff.mpr ⟨negative, by decide⟩
  have early := agrees.times 0 (by decide)
  rw [previousWindow, previousWindow, admitted] at early
  obtain ⟨after, _⟩ := between_iff.mp early.symm
  have lowest : 2147397247 < f.opens := late
  have sum : 86400 + g.opens ≤ 0 := after
  omega

theorem next_of_undated (undated : (f.normalize now window).date = none) : f.next = none := by
  rw [normalize_eq] at undated
  have none : f.meantDate now = none := Option.map_eq_none_iff.mp undated
  unfold meantDate at none
  exact Option.map_eq_none_iff.mp (Option.or_eq_none_iff.mp none).2

theorem meant_of_fits (fits : ∀ n ∈ f.next, int32.holds (now.seconds + n) = true) :
    f.meant now window = f.normalize now window := by
  rw [meant, normalize_eq]
  cases next : f.next with
  | none => rfl
  | some n =>
    rw [Option.map_some, Option.map_some, saturatingAdd_of_holds (fits n next)]
    rfl

theorem closes_normalize (words : f.Words) (clock : int32.holds now.seconds = true) :
    (f.normalize now window).closes =
      max int32.lo (min int32.hi (f.meant now window).closes) := by
  cases next : f.next with
  | none =>
    have same : f.meant now window = f.normalize now window := meant_of_fits (by simp [next])
    have plainWords : (f.normalize now window).Words := words.normalize clock
    obtain ⟨after, before⟩ := plainWords.closes
    rw [same]
    omega
  | some n =>
    rw [meant, normalize_eq]
    simp only [closes, next, Option.map_some, Option.some_or, Option.getD_some]
    rfl

theorem windows_agree_iff (words : f.Words) (clock : int32.holds now.seconds = true) :
    List.Forall₂ DayWindow.Agrees (((f.normalize now window).splitDays lookbehind).map dayWindow)
        (f.meantWindows now window lookbehind) ↔
      ¬ (f.normalize now window).Overflows lookbehind := by
  have plainWords : (f.normalize now window).Words := words.normalize clock
  have opens : (f.normalize now window).opens = (f.meant now window).opens := rfl
  constructor
  · intro related leaves
    obtain ⟨date, dated⟩ := Option.isSome_iff_exists.mp leaves.dated
    have meantDated : (f.meant now window).date = some date := dated
    have meantLooksBack : (f.meant now window).opens < lookbehind := leaves.looksBack
    rw [map_dayWindow_splitDays plainWords, meantWindows, dayWindows_of_dated dated,
      dayWindows_of_dated meantDated, if_pos leaves.looksBack, if_pos meantLooksBack,
      List.append_assoc, List.append_assoc, List.singleton_append, List.singleton_append] at related
    have first := (List.forall₂_cons.mp related).1
    exact not_agrees_previousWindow opens plainWords.opens.2 leaves.late first
  · intro fits
    rw [windows_of_fits plainWords fits, meantWindows]
    cases dated : (f.normalize now window).date with
    | none =>
      have direct := next_of_undated dated
      rw [meant_of_fits (by simp [direct])]
      exact List.forall₂_same.mpr fun a _ => .refl a
    | some date =>
      exact dayWindows_agree dated dated plainWords.opens.1 opens (closes_normalize words clock)

/-- A window that begins with the first second whose sum leaves the words. -/
def endOfWords (date : Date) : StopTimeFilter where
  date := some date
  startTime := some (lastShifted + 1)

theorem words_endOfWords (date : Date) : (endOfWords date).Words :=
  ⟨by rintro n ⟨⟩; decide, nofun, nofun, nofun, nofun⟩

/-- All sums stay within words if and only if the first window whose sum would not does not look
back. -/
theorem sums_always_hold_iff :
    (∀ f : StopTimeFilter, ∀ now window, f.Words → int32.holds now.seconds = true →
      ∀ n ∈ (f.normalize now window).sums lookbehind, int32.holds n = true) ↔
      lookbehind ≤ lastShifted + 1 := by
  constructor
  · intro always
    refine Int.not_lt.mp fun far => ?_
    have sums := always (endOfWords ⟨0⟩) ⟨⟨0⟩, 0⟩ none (words_endOfWords ⟨0⟩) (by decide)
    refine (sums_hold_iff (words_endOfWords ⟨0⟩)).mp sums ⟨rfl, far, ?_⟩
    exact Int.lt_succ lastShifted
  · intro near f now window words clock
    refine (sums_hold_iff (words.normalize clock)).mpr fun leaves => ?_
    have looksBack := leaves.looksBack
    have late := leaves.late
    omega

/-- Whatever lookbehind the settings accept, a filter of words comes to plain terms of words. The
sum and the difference for the days beside its date stay within words if and only if the window does
not begin less than a day before the greatest word and still look back. Exactly then the service
days have the windows that are meant: the same windows if the next seconds end within a word, and
else windows with the same times up to a day before the greatest word. So no sum leaves the words if
and only if the lookbehind ends with the first second whose sum would. -/
theorem windows_meant_iff {lookup : String → Option String} {settings : Settings}
    (accepted : Settings.ofVariables lookup = .ok settings) :
    int32.holds settings.lookbehind = true ∧
    (∀ f : StopTimeFilter, ∀ now window, f.Words → int32.holds now.seconds = true →
      let plain := f.normalize now window
      let windows := (plain.splitDays settings.lookbehind).map dayWindow
      let meantWindows := f.meantWindows now window settings.lookbehind
      plain.Words ∧
      ((∀ n ∈ plain.sums settings.lookbehind, int32.holds n = true) ↔
        ¬ plain.Overflows settings.lookbehind) ∧
      (List.Forall₂ DayWindow.Agrees windows meantWindows ↔
        ¬ plain.Overflows settings.lookbehind) ∧
      (¬ plain.Overflows settings.lookbehind →
        (∀ n ∈ f.next, int32.holds (now.seconds + n) = true) → windows = meantWindows)) ∧
    ((∀ f : StopTimeFilter, ∀ now window, f.Words → int32.holds now.seconds = true →
      ∀ n ∈ (f.normalize now window).sums settings.lookbehind, int32.holds n = true) ↔
      settings.lookbehind ≤ lastShifted + 1) := by
  refine ⟨Settings.lookbehind_of_ofVariables accepted, ?_, sums_always_hold_iff⟩
  intro f now window words clock plain windows meantWindows
  have plainWords : plain.Words := words.normalize clock
  refine ⟨plainWords, sums_hold_iff plainWords, windows_agree_iff words clock, ?_⟩
  intro fits ends
  have same : f.meant now window = plain := meant_of_fits ends
  calc windows
      = plain.dayWindows id settings.lookbehind := windows_of_fits plainWords fits
    _ = f.meantWindows now window settings.lookbehind := by rw [StopTimeFilter.meantWindows, same]

def looking (seconds : String) (name : String) : Option String :=
  if name = "TRANSIT_GATEWAY_LOOKBEHIND_SECS" then some seconds else none

/-- With a lookbehind of a day, the next hour from 23:30:00 on is looked for in three service
days. -/
theorem windows_meant_iff_of_late_evening :
    let settings : Settings := { lookbehind := 86400 }
    let f : StopTimeFilter := { next := some 3600 }
    let now : LocalNow := ⟨⟨17681⟩, 84600⟩
    Settings.ofVariables (looking "86400") = .ok settings ∧ f.Words ∧
      int32.holds now.seconds = true ∧
      ¬ (f.normalize now none).Overflows settings.lookbehind ∧
      ((f.normalize now none).splitDays settings.lookbehind).map dayWindow =
        [⟨some ⟨17680⟩, some 171000, some 360000⟩, ⟨some ⟨17681⟩, some 84600, some 86400⟩,
          ⟨some ⟨17682⟩, some 0, some 1800⟩] := by
  intro settings f now
  have accepted : Settings.ofVariables (looking "86400") = .ok settings := rfl
  have words : f.Words := ⟨nofun, nofun, by rintro n ⟨⟩; decide, nofun, nofun⟩
  obtain ⟨_, each, law⟩ := windows_meant_iff accepted
  obtain ⟨_, fits, _, windows⟩ := each f now none words (by decide)
  have none := fits.mp (law.mpr (by decide) f now none words (by decide))
  refine ⟨accepted, words, by decide, none, (windows none ?_).trans rfl⟩
  rintro n ⟨⟩
  decide

end StopTimeFilter

namespace Stop

open StopTimeFilter

/-- With the greatest lookbehind, a window that begins a second before the greatest word shows the
call of the morning before, although neither of the windows that are meant has any time in it. -/
theorem morning_call_at_end_of_words :
    let g := { nightGateway [⟨17680⟩] [leaving 36000] with
      settings := { lookbehind := 2147483647 } }
    let filter : StopTimeFilter := { date := some ⟨17681⟩, startTime := some 2147483646 }
    Settings.ofVariables (looking "2147483647") = .ok g.settings ∧ filter.Words ∧
      filter.sums g.settings.lookbehind = [2147570046] ∧ int32.holds 2147570046 = false ∧
      filter.meantWindows ⟨⟨17681⟩, 0⟩ none g.settings.lookbehind =
        [⟨some ⟨17680⟩, some 2147570046, some 360000⟩,
          ⟨some ⟨17681⟩, some 2147483646, some 86400⟩] ∧
      ((nightStop.stopTimes none (some filter)).run.run g).1 =
        .ok [(leaving 36000).stamp ⟨17680⟩] := by
  intro g filter
  have words : filter.Words := ⟨by rintro n ⟨⟩; decide, nofun, nofun, nofun, nofun⟩
  refine ⟨rfl, words, rfl, by decide, rfl, ?_⟩
  have shows : nightStop.shown g none filter =
      .ok (nightStop.shownOver g ⟨"UTC", 0, []⟩ ⟨[]⟩ none filter) := rfl
  have days : filter.splitDays g.settings.lookbehind =
      [filter.previousDay ⟨17681⟩, filter.sameDay ⟨17681⟩] := rfl
  have rows : nightStop.selected g ⟨"UTC", 0, []⟩ none filter =
      [(leaving 36000).stamp ⟨17680⟩] := by
    have plain : nightStop.plainIn g ⟨"UTC", 0, []⟩ filter = filter := rfl
    rw [selected, plain, rowsOfDays, days]
    simp only [Warehouse.rowsAt_of_single (w := g.warehouse) rfl]
    decide
  have active : g.Active := Gateway.active_startRequest g {}
  refine ((display_ends nightStop g none filter).of_active active).trans (shows.trans ?_)
  rw [shownOver, Gateway.merged, rows, StopTime.addedRows_of_isEmpty rfl, List.append_nil,
    List.map_singleton, StopTime.sorted_singleton]
  rfl

end Stop

end Transit
