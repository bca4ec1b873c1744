import Transit.Proofs.Number.Integer
import Transit.Proofs.Text.Separator
import Transit.Record.Scalar
set_option autoImplicit false

/-!
# Times and their texts

A time is read from a text exactly if the text is that of a clock: one to three digits of hours, two
of minutes and two of seconds, with colons between them (`WideTime.parse_exact`). A time is written
with at least two digits of hours, and with four or more from 1000:00:00 on, so it is read back from
its text if it comes before that moment, and refused if not (`WideTime.text_read_back`).
-/

namespace Transit

namespace WideTime

open Number

/-- Between `least` and `most` ASCII digits. -/
structure Digits (least most : Nat) where
  chars : List Char
  decimal : AllDigits chars
  atLeast : least ≤ chars.length
  atMost : chars.length ≤ most

namespace Digits

variable {least most : Nat}

def value (d : Digits least most) : Nat := ofDigits d.chars

theorem value_lt (d : Digits least most) : d.value < 10 ^ most :=
  Nat.lt_of_lt_of_le (ofDigits_lt d.decimal) (Nat.pow_le_pow_right (by decide) d.atMost)

theorem digits_chars (d : Digits least most) (filled : 0 < least) :
    digits? least most d.chars = some d.value := by
  have nonempty : d.chars ≠ [] := List.ne_nil_of_length_pos (Nat.lt_of_lt_of_le filled d.atLeast)
  rw [digits?, if_pos (by simp [d.atLeast, d.atMost])]
  exact natOfChars_eq_some_iff.mpr ⟨nonempty, d.decimal, rfl⟩

theorem exists_of_digits {cs : List Char} {n : Nat} (read : digits? least most cs = some n) :
    ∃ d : Digits least most, d.chars = cs ∧ d.value = n := by
  unfold digits? at read
  split at read
  case isFalse => cases read
  next fits =>
  simp only [Bool.and_eq_true, decide_eq_true_eq] at fits
  obtain ⟨_, decimal, value⟩ := natOfChars_eq_some_iff.mp read
  exact ⟨⟨cs, decimal, fits.1, fits.2⟩, rfl, value⟩

/-- A number as it is written in two digits, or more if it has more. -/
def ofNat (n : Nat) (few : least ≤ 2) (two : 2 ≤ most) (small : n < 10 ^ most) :
    Digits least most where
  chars := (twoDigits n).toList
  decimal := allDigits_twoDigits n
  atLeast := Nat.le_trans few (two_le_length_twoDigits n)
  atMost := (length_twoDigits_le_iff two).mpr small

end Digits

theorem splitChars_digits {a b c : List Char} (hour : AllDigits a) (minute : AllDigits b)
    (second : AllDigits c) : Text.splitChars ':' (a ++ ':' :: (b ++ ':' :: c)) = [a, b, c] := by
  have noColon {cs : List Char} (digits : AllDigits cs) : ':' ∉ cs :=
    fun member => absurd (digits _ member) (by decide)
  refine Text.splitChars_three fun part member => ?_
  simp only [List.mem_cons, List.not_mem_nil, or_false] at member
  rcases member with rfl | rfl | rfl
  · exact noColon hour
  · exact noColon minute
  · exact noColon second

/-- The face of a clock that goes on past 24:00:00. -/
structure Clock where
  hour : Digits 1 3
  minute : Digits 2 2
  second : Digits 2 2
  minuteRange : minute.value ≤ 59
  secondRange : second.value ≤ 59

/-- From here on hours take four digits. -/
def fourDigitHours : Nat := 3600000

namespace Clock

def text (c : Clock) : String :=
  String.ofList (c.hour.chars ++ ':' :: (c.minute.chars ++ ':' :: c.second.chars))

def time (c : Clock) : WideTime :=
  ⟨3600 * c.hour.value + 60 * c.minute.value + c.second.value⟩

theorem time_lt (c : Clock) : c.time.seconds < fourDigitHours := by
  have hour := c.hour.value_lt
  have minute := c.minuteRange
  have second := c.secondRange
  unfold time fourDigitHours
  dsimp only
  omega

theorem parse_text (c : Clock) : parse c.text = .ok c.time := by
  have parts : Text.splitChars ':' c.text.toList =
      [c.hour.chars, c.minute.chars, c.second.chars] := by
    rw [text, String.toList_ofList]
    exact splitChars_digits c.hour.decimal c.minute.decimal c.second.decimal
  rw [parse, parts]
  simp only [Digits.digits_chars _ Nat.one_pos, Digits.digits_chars _ Nat.two_pos]
  rw [if_neg (Nat.not_lt.mpr c.minuteRange), if_neg (Nat.not_lt.mpr c.secondRange)]
  rfl

theorem exists_of_parse {s : String} {t : WideTime} (read : parse s = .ok t) :
    ∃ c : Clock, s = c.text ∧ c.time = t := by
  unfold parse at read
  split at read
  case h_2 => cases read
  next hour minute second parts =>
  split at read
  case h_2 => cases read
  next h readHour =>
  split at read
  case h_2 => cases read
  next m readMinute =>
  split at read
  case h_2 => cases read
  next sec readSecond =>
  split at read
  case isTrue => cases read
  next minuteRange =>
  split at read
  case isTrue => cases read
  next secondRange =>
  obtain rfl := Except.ok.inj read
  obtain ⟨hours, rfl, rfl⟩ := Digits.exists_of_digits readHour
  obtain ⟨minutes, rfl, rfl⟩ := Digits.exists_of_digits readMinute
  obtain ⟨seconds, rfl, rfl⟩ := Digits.exists_of_digits readSecond
  refine ⟨⟨hours, minutes, seconds, Nat.not_lt.mp minuteRange, Nat.not_lt.mp secondRange⟩, ?_, rfl⟩
  rw [text, ← Text.eq_of_splitChars_three parts, String.ofList_toList]

end Clock

section Face

variable (t : WideTime)

theorem minutes_le : t.minutes ≤ 59 := by
  unfold minutes
  omega

theorem secondsOfMinute_le : t.secondsOfMinute ≤ 59 := by
  unfold secondsOfMinute
  omega

theorem hours_lt_iff : t.hours < 10 ^ 3 ↔ t.seconds < fourDigitHours := by
  unfold hours fourDigitHours
  omega

theorem seconds_eq : 3600 * t.hours + 60 * t.minutes + t.secondsOfMinute = t.seconds := by
  unfold hours minutes secondsOfMinute
  omega

theorem toList_toText : t.toText.toList = (twoDigits t.hours).toList ++ ':' ::
    ((twoDigits t.minutes).toList ++ ':' :: (twoDigits t.secondsOfMinute).toList) := by
  simp only [toText, String.toList_append, List.append_assoc]
  rfl

theorem splitChars_toText : Text.splitChars ':' t.toText.toList =
    [(twoDigits t.hours).toList, (twoDigits t.minutes).toList,
      (twoDigits t.secondsOfMinute).toList] := by
  rw [toList_toText]
  exact splitChars_digits (allDigits_twoDigits _) (allDigits_twoDigits _) (allDigits_twoDigits _)

end Face

/-- The text of a time shows its hours, minutes and seconds, which are all that it has. -/
theorem toText_injective {s t : WideTime} (same : s.toText = t.toText) : s = t := by
  have parts := splitChars_toText s
  rw [same, splitChars_toText] at parts
  simp only [List.cons.injEq, and_true] at parts
  obtain ⟨hours, minutes, seconds⟩ := parts
  have total : s.seconds = t.seconds := by
    rw [← seconds_eq s, ← seconds_eq t, twoDigits_injective hours, twoDigits_injective minutes,
      twoDigits_injective seconds]
  cases s
  cases t
  exact congrArg mk total

/-- The clock at a time. -/
def Clock.ofTime (t : WideTime) (early : t.seconds < fourDigitHours) : Clock where
  hour := .ofNat t.hours (by decide) (by decide) (t.hours_lt_iff.mpr early)
  minute := .ofNat t.minutes (by decide) (by decide) (Nat.lt_of_le_of_lt t.minutes_le (by decide))
  second := .ofNat t.secondsOfMinute (by decide) (by decide)
    (Nat.lt_of_le_of_lt t.secondsOfMinute_le (by decide))
  minuteRange := Nat.le_trans (Nat.le_of_eq (ofDigits_twoDigits _)) t.minutes_le
  secondRange := Nat.le_trans (Nat.le_of_eq (ofDigits_twoDigits _)) t.secondsOfMinute_le

theorem parse_toText_of_lt {t : WideTime} (early : t.seconds < fourDigitHours) :
    parse t.toText = .ok t := by
  have text : (Clock.ofTime t early).text = t.toText := by
    rw [← String.toList_inj, toList_toText]
    exact String.toList_ofList
  have time : (Clock.ofTime t early).time = t := by
    have values : (Clock.ofTime t early).time.seconds =
        3600 * t.hours + 60 * t.minutes + t.secondsOfMinute := by
      simp only [Clock.time, Clock.ofTime, Digits.value, Digits.ofNat, ofDigits_twoDigits]
    rw [seconds_eq] at values
    cases t
    exact congrArg mk values
  rw [← text, Clock.parse_text, time]

theorem parse_toText_of_le {t : WideTime} (late : fourDigitHours ≤ t.seconds) :
    parse t.toText = .error .hourDigits := by
  have long : ¬ (twoDigits t.hours).toList.length ≤ 3 := by
    rw [length_twoDigits_le_iff (by decide), hours_lt_iff]
    exact Nat.not_lt.mpr late
  have refused : digits? 1 3 (twoDigits t.hours).toList = none := by
    rw [digits?, if_neg (by simp [long])]
  rw [parse, splitChars_toText]
  simp only [refused]

/-- A text is read exactly if it is the text of a clock, and as the time that the clock shows, which
is read back from its own text. -/
theorem parse_exact :
    (∀ s, (∃ t, parse s = .ok t) ↔ ∃ c : Clock, s = c.text) ∧
      ∀ c : Clock, parse c.text = .ok c.time ∧ parse c.time.toText = .ok c.time := by
  refine ⟨fun s => ⟨?_, ?_⟩, fun c => ⟨c.parse_text, parse_toText_of_lt c.time_lt⟩⟩
  · rintro ⟨t, read⟩
    obtain ⟨c, text, _⟩ := Clock.exists_of_parse read
    exact ⟨c, text⟩
  · rintro ⟨c, rfl⟩
    exact ⟨c.time, c.parse_text⟩

/-- The clock at 7:05:09. -/
def breakfast : Clock where
  hour := ⟨['7'], List.forall_mem_singleton.mpr rfl, by decide, by decide⟩
  minute := .ofNat 5 (by decide) (by decide) (by decide)
  second := .ofNat 9 (by decide) (by decide) (by decide)
  minuteRange := by decide
  secondRange := by decide

/-- The text of the clock is read, and its time is read back. A text with a sixtieth minute and one
with an Arabic digit are those of no clock. -/
theorem parse_exact_of_breakfast :
    breakfast.text = "7:05:09" ∧ breakfast.time = ⟨25509⟩ ∧
      parse "7:05:09" = .ok ⟨25509⟩ ∧ parse "07:05:09" = .ok ⟨25509⟩ ∧
      (¬ ∃ c : Clock, "7:60:09" = c.text) ∧ ¬ ∃ c : Clock, "٧:05:09" = c.text := by
  obtain ⟨accepts, reads⟩ := parse_exact
  obtain ⟨text, back⟩ := reads breakfast
  have unread {s : String} {e : TimeError} (refused : parse s = .error e) :
      ¬ ∃ c : Clock, s = c.text := by
    rw [← accepts, refused]
    rintro ⟨_, ⟨⟩⟩
  exact ⟨rfl, rfl, text, back, unread (by rfl), unread (by rfl)⟩

theorem ofJson?_toJson (t : WideTime) : ofJson? t.toJson = (parse t.toText).toOption := by
  have text : Json.readText t.toJson = some t.toText := rfl
  rw [ofJson?, text, Option.bind_eq_bind, Option.bind_some]
  cases parse t.toText <;> rfl

/-- A time is read back from its text, also as a JSON value, if hours take three digits at most, and
is refused for the digits of its hours if not. -/
theorem text_read_back (t : WideTime) :
    parse t.toText = (if t.seconds < fourDigitHours then .ok t else .error .hourDigits) ∧
      ofJson? t.toJson = if t.seconds < fourDigitHours then some t else none := by
  rw [ofJson?_toJson]
  by_cases early : t.seconds < fourDigitHours
  · rw [if_pos early, if_pos early, parse_toText_of_lt early]
    exact ⟨rfl, rfl⟩
  · rw [if_neg early, if_neg early, parse_toText_of_le (Nat.not_lt.mp early)]
    exact ⟨rfl, rfl⟩

/-- A thousand hours are a time of their own, and also a second after 999:59:59, but their text is
refused. -/
theorem thousand_hours_refused :
    ofSeconds 3600000 = .ok ⟨3600000⟩ ∧ addSeconds? ⟨3599999⟩ 1 = some ⟨3600000⟩ ∧
      toText ⟨3600000⟩ = "1000:00:00" ∧ parse (toText ⟨3600000⟩) = .error .hourDigits :=
  ⟨rfl, rfl, rfl, rfl⟩

end WideTime

end Transit
