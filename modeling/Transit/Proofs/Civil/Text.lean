import Transit.Civil.Date
import Transit.Proofs.Number.Integer
set_option autoImplicit false

/-!
# Dates are known by their texts

The year, month and day of a date fix it (`Date.toYearMonthDay_injective`), and the text shows all
three.
-/

namespace Transit

open Number

/-- Two numbers of two digits each behind separators are told apart from what stands before them. -/
theorem twoFields_injective {front front' separator : String} {m n m' n' : Nat}
    (small : m < 100 ∧ n < 100) (small' : m' < 100 ∧ n' < 100)
    (same : front ++ separator ++ twoDigits m ++ separator ++ twoDigits n =
      front' ++ separator ++ twoDigits m' ++ separator ++ twoDigits n') :
    front.toList = front'.toList ∧ m = m' ∧ n = n' := by
  have chars := congrArg String.toList same
  simp only [String.toList_append] at chars
  have lengths (k k' : Nat) (h : k < 100) (h' : k' < 100) :
      (twoDigits k).toList.length = (twoDigits k').toList.length :=
    (length_twoDigits h).trans (length_twoDigits h').symm
  obtain ⟨others, last⟩ := List.append_inj' chars (lengths _ _ small.2 small'.2)
  obtain ⟨others, -⟩ := List.append_inj' others rfl
  obtain ⟨others, middle⟩ := List.append_inj' others (lengths _ _ small.1 small'.1)
  obtain ⟨others, -⟩ := List.append_inj' others rfl
  exact ⟨others, twoDigits_injective middle, twoDigits_injective last⟩

namespace Date

theorem toList_yearText (y : Int) : (yearText y).toList =
    if 0 ≤ y ∧ y ≤ 9999 then (padded 4 y.toNat).toList
    else (if y < 0 then '-' else '+') :: (padded 4 y.natAbs).toList := by
  unfold yearText
  by_cases short : 0 ≤ y ∧ y ≤ 9999
  · rw [if_pos short, if_pos (by simpa using short)]
  · rw [if_neg short, if_neg (by simpa using short), String.toList_append]
    split <;> rfl

theorem yearText_injective {y z : Int} (same : (yearText y).toList = (yearText z).toList) : y = z := by
  have digits (n m : Nat) (equal : (padded 4 n).toList = (padded 4 m).toList) : n = m := by
    rw [← ofDigits_padded 4 n, equal, ofDigits_padded]
  -- a sign is not a digit, so a year with a sign is not written like one without
  have signed (w : Int) (n m : Nat) :
      (if w < 0 then '-' else '+') :: (padded 4 n).toList ≠ (padded 4 m).toList := by
    intro equal
    have digit := allDigits_padded 4 m _ (equal ▸ List.mem_cons_self)
    split at digit <;> exact absurd digit (by decide)
  rw [toList_yearText, toList_yearText] at same
  by_cases shortY : 0 ≤ y ∧ y ≤ 9999 <;> by_cases shortZ : 0 ≤ z ∧ z ≤ 9999
  · rw [if_pos shortY, if_pos shortZ] at same
    have := digits _ _ same
    omega
  · rw [if_pos shortY, if_neg shortZ] at same
    exact absurd same.symm (signed _ _ _)
  · rw [if_neg shortY, if_pos shortZ] at same
    exact absurd same (signed _ _ _)
  · rw [if_neg shortY, if_neg shortZ] at same
    obtain ⟨sign, rest⟩ := List.cons.inj same
    have := digits _ _ rest
    split at sign <;> split at sign <;> first | omega | exact absurd sign (by decide)

/-- The years of an era of four centuries, and the days of a year, counted from March. -/
theorem era_bounds (dayOfEra : Int) {yearOfEra : Int} (first : 0 ≤ dayOfEra) (last : dayOfEra < 146097)
    (year : yearOfEra =
      (dayOfEra - dayOfEra / 1460 + dayOfEra / 36524 - dayOfEra / 146096) / 365) :
    0 ≤ yearOfEra ∧ yearOfEra ≤ 399 ∧
      0 ≤ dayOfEra - (365 * yearOfEra + yearOfEra / 4 - yearOfEra / 100) ∧
      dayOfEra - (365 * yearOfEra + yearOfEra / 4 - yearOfEra / 100) ≤ 366 := by
  refine ⟨by omega, by omega, ?_, by omega⟩
  have leapDays : yearOfEra / 4 ≤ dayOfEra / 1460 := by omega
  have centuries : dayOfEra / 36524 - dayOfEra / 146096 ≤ yearOfEra / 100 := by
    have range : dayOfEra / 36524 = 0 ∨ dayOfEra / 36524 = 1 ∨ dayOfEra / 36524 = 2 ∨
        dayOfEra / 36524 = 3 ∨ dayOfEra / 36524 = 4 := by omega
    rcases range with h | h | h | h | h <;> omega
  omega

/-- A date from the day of a year that begins in March. -/
def ofEra (era yearOfEra dayOfYear : Int) : YearMonthDay :=
  let shifted := (5 * dayOfYear + 2) / 153
  let day := dayOfYear - (153 * shifted + 2) / 5 + 1
  let month := if shifted < 10 then shifted + 3 else shifted - 9
  ⟨yearOfEra + era * 400 + (if month ≤ 2 then 1 else 0), month.toNat, day.toNat⟩

theorem exists_era (d : Date) : ∃ era yearOfEra dayOfYear : Int,
    (0 ≤ yearOfEra ∧ yearOfEra ≤ 399) ∧ (0 ≤ dayOfYear ∧ dayOfYear ≤ 366) ∧
      d.day = era * 146097 + (365 * yearOfEra + yearOfEra / 4 - yearOfEra / 100 + dayOfYear) - 719468 ∧
      d.toYearMonthDay = ofEra era yearOfEra dayOfYear := by
  obtain ⟨yearLow, yearHigh, dayLow, dayHigh⟩ := era_bounds ((d.day + 719468) % 146097)
    (by omega) (by omega) rfl
  refine ⟨_, _, _, ⟨yearLow, yearHigh⟩, ⟨dayLow, dayHigh⟩, ?_, rfl⟩
  omega

theorem ofEra_bounds {era yearOfEra dayOfYear : Int} (low : 0 ≤ dayOfYear) (high : dayOfYear ≤ 366) :
    (ofEra era yearOfEra dayOfYear).month < 100 ∧ (ofEra era yearOfEra dayOfYear).day < 100 := by
  unfold ofEra
  dsimp only
  split <;> omega

theorem toYearMonthDay_injective {d e : Date} (same : d.toYearMonthDay = e.toYearMonthDay) :
    d = e := by
  obtain ⟨era, year, day, yearRange, dayRange, isD, fields⟩ := exists_era d
  obtain ⟨era', year', day', yearRange', dayRange', isE, fields'⟩ := exists_era e
  rw [fields, fields'] at same
  unfold ofEra at same
  dsimp only at same
  rw [YearMonthDay.mk.injEq] at same
  obtain ⟨years, months, days⟩ := same
  have shifted : (5 * day + 2) / 153 = (5 * day' + 2) / 153 := by
    split at months <;> split at months <;> omega
  have sameDay : day = day' := by omega
  subst sameDay
  have sameYear : year = year' ∧ era = era' := by omega
  obtain ⟨rfl, rfl⟩ := sameYear
  cases d
  cases e
  exact congrArg Date.mk (isD.trans isE.symm)

theorem toText_injective {d e : Date} (same : d.toText = e.toText) : d = e := by
  obtain ⟨_, _, _, -, range, -, fields⟩ := exists_era d
  obtain ⟨_, _, _, -, range', -, fields'⟩ := exists_era e
  obtain ⟨years, month, day⟩ := twoFields_injective (fields ▸ ofEra_bounds range.1 range.2)
    (fields' ▸ ofEra_bounds range'.1 range'.2) same
  refine toYearMonthDay_injective ?_
  have year := yearText_injective years
  revert year month day
  generalize d.toYearMonthDay = p
  generalize e.toYearMonthDay = q
  intro month day year
  cases p
  cases q
  rw [YearMonthDay.mk.injEq]
  exact ⟨year, month, day⟩

end Date

end Transit
