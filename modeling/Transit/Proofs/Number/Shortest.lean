import Mathlib.Algebra.Order.Field.Power
import Mathlib.Algebra.Order.Field.Rat
import Mathlib.Tactic.FieldSimp
import Mathlib.Tactic.Linarith
import Mathlib.Tactic.NormNum
import Mathlib.Tactic.Positivity
import Mathlib.Tactic.Ring
import Transit.Number.Text
set_option autoImplicit false

/-!
# The shortest digits of a number round to it

Eighteen digits always reach the numbers that round to a double (`contains_shortestDigits`), and no
decimal rounds to two doubles (`eq_of_holds`). So different finite doubles have different shortest
decimals.
-/

namespace Transit.Number

theorem zpow_eq_div {base : ℚ} (nonzero : base ≠ 0) (e : Int) :
    base ^ e = base ^ e.toNat / base ^ (-e).toNat := by
  rw [← zpow_natCast, ← zpow_natCast, ← zpow_sub₀ nonzero]
  congr 1
  omega

section Rounding

theorem roundDiv_near (num : Nat) {den : Nat} (positive : 0 < den) :
    2 * (roundDiv num den * den) ≤ 2 * num + den ∧ 2 * num ≤ 2 * (roundDiv num den * den) + den := by
  have parts : num / den * den + num % den = num := Nat.div_add_mod' num den
  have small : num % den < den := Nat.mod_lt num positive
  have up : (num / den + 1) * den = num / den * den + den := Nat.succ_mul _ _
  unfold roundDiv
  dsimp only
  split
  · omega
  · split
    · rw [up]; omega
    · split
      · omega
      · rw [up]; omega

theorem roundToUnit_near (num : Nat) {den : Nat} (positive : 0 < den) (unit : Int) :
    |(roundToUnit num den unit : ℚ) * 10 ^ unit - num / den| ≤ 10 ^ unit / 2 := by
  have scaled : 0 < den * 10 ^ unit.toNat := by positivity
  obtain ⟨below, above⟩ := roundDiv_near (num * 10 ^ (-unit).toNat) scaled
  have same : roundToUnit num den unit =
      roundDiv (num * 10 ^ (-unit).toNat) (den * 10 ^ unit.toNat) := rfl
  rw [← same] at below above
  generalize roundToUnit num den unit = near at below above
  have belowQ : 2 * ((near : ℚ) * (den * 10 ^ unit.toNat)) ≤
      2 * (num * 10 ^ (-unit).toNat) + den * 10 ^ unit.toNat := by exact_mod_cast below
  have aboveQ : 2 * ((num : ℚ) * 10 ^ (-unit).toNat) ≤
      2 * (near * (den * 10 ^ unit.toNat)) + den * 10 ^ unit.toNat := by exact_mod_cast above
  have denQ : (0 : ℚ) < den := by exact_mod_cast positive
  rw [zpow_eq_div (by norm_num) unit]
  have upper : (0 : ℚ) < 10 ^ unit.toNat := by positivity
  have lower : (0 : ℚ) < 10 ^ (-unit).toNat := by positivity
  generalize (10 : ℚ) ^ unit.toNat = t at *
  generalize (10 : ℚ) ^ (-unit).toNat = l at *
  have factor : (0 : ℚ) < l * den := by positivity
  rw [abs_le]
  constructor
  · rw [← mul_le_mul_iff_left₀ factor]
    have left : -(t / l / 2) * (l * den) = -(den * t) / 2 := by field_simp
    have right : ((near : ℚ) * (t / l) - num / den) * (l * den) = near * (den * t) - num * l := by
      field_simp
    rw [left, right]
    linarith
  · rw [← mul_le_mul_iff_left₀ factor]
    have right : t / l / 2 * (l * den) = den * t / 2 := by field_simp
    have left : ((near : ℚ) * (t / l) - num / den) * (l * den) = near * (den * t) - num * l := by
      field_simp
    rw [left, right]
    linarith

theorem length_repr_bounds {n : Nat} (positive : 0 < n) :
    10 ^ (n.repr.length - 1) ≤ n ∧ n < 10 ^ n.repr.length := by
  have length : n.repr.length = (Nat.toDigits 10 n).length := by
    rw [Nat.repr_eq_ofList_toDigits, String.length_ofList]
  have some : 0 < (Nat.toDigits 10 n).length := Nat.length_toDigits_pos
  rw [length]
  constructor
  · by_cases one : (Nat.toDigits 10 n).length = 1
    · rw [one]
      exact positive
    · by_contra less
      have fewer := (Nat.length_toDigits_le_iff (by norm_num) (by omega)).mpr (not_le.mp less)
      omega
  · exact (Nat.length_toDigits_le_iff (by norm_num) some).mp le_rfl

/-- The power of ten of the first digit does not exceed the value. -/
theorem decimalExponent_le {num den : Nat} (numPos : 0 < num) (denPos : 0 < den) :
    (10 : ℚ) ^ decimalExponent num den ≤ num / den := by
  have denQ : (0 : ℚ) < den := by exact_mod_cast denPos
  unfold decimalExponent
  dsimp only
  split
  case isTrue reaches =>
    generalize ((toString num).length : Int) - (toString den).length = e at reaches ⊢
    have reachesQ : (den : ℚ) * 10 ^ e.toNat ≤ num * 10 ^ (-e).toNat := by exact_mod_cast reaches
    rw [zpow_eq_div (by norm_num) e, div_le_div_iff₀ (by positivity) denQ]
    linarith
  case isFalse =>
    have numLow : (10 : ℚ) ^ (num.repr.length - 1) ≤ num := by
      exact_mod_cast (length_repr_bounds numPos).1
    have denHigh : (den : ℚ) ≤ 10 ^ den.repr.length := by
      exact_mod_cast (length_repr_bounds denPos).2.le
    have some : 0 < num.repr.length := by
      rw [Nat.repr_eq_ofList_toDigits, String.length_ofList]
      exact Nat.length_toDigits_pos
    calc (10 : ℚ) ^ ((num.repr.length : Int) - den.repr.length - 1)
        = 10 ^ (num.repr.length - 1) / 10 ^ den.repr.length := by
          rw [← zpow_natCast, ← zpow_natCast, ← zpow_sub₀ (by norm_num)]
          congr 1
          omega
      _ ≤ num / den := by gcongr

end Rounding

section Intervals

def Interval.Holds (i : Interval) (x : ℚ) : Prop :=
  if i.closed then i.low * 2 ^ i.unit ≤ x ∧ x ≤ i.high * 2 ^ i.unit
  else i.low * 2 ^ i.unit < x ∧ x < i.high * 2 ^ i.unit

theorem Interval.Holds.bounds {i : Interval} {x : ℚ} (inside : i.Holds x) :
    i.low * 2 ^ i.unit ≤ x ∧ x ≤ i.high * 2 ^ i.unit := by
  unfold Interval.Holds at inside
  split at inside
  · exact inside
  · exact ⟨inside.1.le, inside.2.le⟩

theorem Interval.holds_of_lt {i : Interval} {x : ℚ} (above : i.low * 2 ^ i.unit < x)
    (below : x < i.high * 2 ^ i.unit) : i.Holds x := by
  unfold Interval.Holds
  split
  · exact ⟨above.le, below.le⟩
  · exact ⟨above, below⟩

/-- Intervals of which one ends where the other begins have a number in common only if the ends
belong to both. -/
theorem Interval.closed_of_common {i j : Interval} {x : ℚ} (inI : i.Holds x) (inJ : j.Holds x)
    (apart : (i.high : ℚ) * 2 ^ i.unit ≤ j.low * 2 ^ j.unit) :
    i.closed = true ∧ j.closed = true ∧ (i.high : ℚ) * 2 ^ i.unit = j.low * 2 ^ j.unit := by
  have meet := le_antisymm apart (inJ.bounds.1.trans inI.bounds.2)
  have lastI : x = i.high * 2 ^ i.unit := le_antisymm inI.bounds.2 (apart.trans inJ.bounds.1)
  unfold Interval.Holds at inI inJ
  split at inI
  · split at inJ
    · exact ⟨‹_›, ‹_›, meet⟩
    · exact absurd inJ.1 (not_lt.mpr (lastI.trans meet).le)
  · exact absurd inI.2 (not_lt.mpr lastI.ge)

theorem Interval.contains_iff (i : Interval) (digits : Nat) (power : Int) :
    i.contains digits power = true ↔ i.Holds (digits * 10 ^ power) := by
  -- both sides over one denominator
  have common : (0 : ℚ) < 2 ^ (-i.unit).toNat * 10 ^ (-power).toNat := by positivity
  have number : (digits : ℚ) * 10 ^ power * (2 ^ (-i.unit).toNat * 10 ^ (-power).toNat) =
      (digits * 10 ^ power.toNat * 2 ^ (-i.unit).toNat : Nat) := by
    rw [zpow_eq_div (by norm_num) power]
    push_cast
    field_simp
  have bound (n : Nat) : (n : ℚ) * 2 ^ i.unit * (2 ^ (-i.unit).toNat * 10 ^ (-power).toNat) =
      (n * (2 ^ i.unit.toNat * 10 ^ (-power).toNat) : Nat) := by
    rw [zpow_eq_div (by norm_num) i.unit]
    push_cast
    field_simp
  generalize (digits : ℚ) * 10 ^ power = value at number ⊢
  have le_value (n : Nat) : (n : ℚ) * 2 ^ i.unit ≤ value ↔
      n * (2 ^ i.unit.toNat * 10 ^ (-power).toNat) ≤
        digits * 10 ^ power.toNat * 2 ^ (-i.unit).toNat := by
    rw [← mul_le_mul_iff_left₀ common, bound, number, Nat.cast_le]
  have value_le (n : Nat) : value ≤ (n : ℚ) * 2 ^ i.unit ↔
      digits * 10 ^ power.toNat * 2 ^ (-i.unit).toNat ≤
        n * (2 ^ i.unit.toNat * 10 ^ (-power).toNat) := by
    rw [← mul_le_mul_iff_left₀ common, bound, number, Nat.cast_le]
  unfold Interval.contains Interval.Holds
  split
  · rw [le_value, value_le, Bool.and_eq_true, decide_eq_true_eq, decide_eq_true_eq]
    rfl
  · rw [← not_le, ← not_le, le_value, value_le, not_le, not_le, Bool.and_eq_true,
      decide_eq_true_eq, decide_eq_true_eq]
    rfl

/-- The value without its sign. -/
def Binary.size (b : Binary) : ℚ :=
  b.significand * 2 ^ b.exponent

theorem Binary.fraction_eq (b : Binary) : (b.fraction.1 : ℚ) / b.fraction.2 = b.size := by
  rw [Binary.size, zpow_eq_div (by norm_num) b.exponent, Binary.fraction]
  push_cast [Nat.pow_eq]
  rw [mul_div_assoc]

/-- What the bits of a double can stand for: 53 binary digits, fewer only for the least exponent. -/
structure Binary.IsDouble (b : Binary) : Prop where
  significand_lt : b.significand < 2 ^ 53
  least : -1074 ≤ b.exponent
  full : -1074 < b.exponent → 2 ^ 52 ≤ b.significand

variable {b c : Binary}

theorem Binary.interval_unit (f : Format) (b : Binary) : (b.interval f).unit = b.exponent - 2 := rfl

theorem Binary.interval_high (f : Format) (b : Binary) :
    (b.interval f).high = 4 * b.significand + 2 := rfl

/-- The interval of a double ends before the neighbour below, and less far below a power of two. -/
theorem Binary.interval_low (b : Binary) : (b.interval .double).low = 4 * b.significand -
    (if b.significand = 2 ^ 52 ∧ b.exponent ≠ -1074 then 1 else 2) := by
  have least : Format.double.decode 1 = .finite ⟨false, 1, -1074⟩ := by decide
  have atPower : (b.significand == Nat.pow 2 Format.double.fraction
      && (Format.double.decode 1 != .finite ⟨false, 1, b.exponent⟩)) =
        decide (b.significand = 2 ^ 52 ∧ b.exponent ≠ -1074) := by
    rw [least, Bool.eq_iff_iff, Bool.and_eq_true, decide_eq_true_eq, beq_iff_eq, bne_iff_ne]
    refine and_congr Iff.rfl (not_congr ⟨fun same => ?_, fun same => by rw [same]⟩)
    injection same with same
    injection same with _ _ same
    exact same.symm
  unfold Binary.interval
  simp only [atPower, decide_eq_true_eq]

theorem Binary.interval_low_le (b : Binary) (positive : 0 < b.significand) :
    (b.interval .double).low ≤ 4 * b.significand - 1 := by
  rw [interval_low]
  split <;> omega

theorem Binary.interval_closed (f : Format) (b : Binary) :
    (b.interval f).closed = true ↔ b.significand % 2 = 0 := by
  simp [Binary.interval]

/-- With seventeen digits after the first, the nearest decimal is within a quarter of a unit of the
last binary place. -/
theorem near_of_seventeen (double : b.IsDouble) (positive : 0 < b.significand) :
    let power := decimalExponent b.fraction.1 b.fraction.2 - 17
    |(roundToUnit b.fraction.1 b.fraction.2 power : ℚ) * 10 ^ power - b.size| <
      2 ^ (b.exponent - 2) := by
  intro power
  have unitPos : (0 : ℚ) < 2 ^ (b.exponent - 2) := by positivity
  have numPos : 0 < b.fraction.1 := Nat.mul_pos positive (Nat.pow_pos (by norm_num))
  have denPos : 0 < b.fraction.2 := Nat.pow_pos (by norm_num)
  have first : (10 : ℚ) ^ (power + 17) ≤ b.size := by
    rw [← b.fraction_eq, Int.sub_add_cancel]
    exact decimalExponent_le numPos denPos
  have units : b.size = 4 * b.significand * 2 ^ (b.exponent - 2) := by
    rw [Binary.size, zpow_sub₀ (by norm_num)]
    ring
  have significand : (b.significand : ℚ) < 2 ^ 53 := by exact_mod_cast double.significand_lt
  calc
    _ ≤ (10 : ℚ) ^ power / 2 := by
      rw [← b.fraction_eq]
      exact roundToUnit_near _ denPos _
    _ = (10 : ℚ) ^ (power + 17) / (2 * 10 ^ 17) := by
      rw [zpow_add₀ (by norm_num)]
      norm_num
      ring
    _ ≤ b.size / (2 * 10 ^ 17) := by gcongr
    _ = b.significand * (4 / (2 * 10 ^ 17)) * 2 ^ (b.exponent - 2) := by rw [units]; ring
    _ < 1 * 2 ^ (b.exponent - 2) := by
      gcongr
      linarith
    _ = 2 ^ (b.exponent - 2) := one_mul _

/-- The shortest digits of a double round to it. -/
theorem contains_shortestDigits (double : b.IsDouble) (positive : 0 < b.significand) :
    (b.interval .double).Holds
      ((shortestDigits .double b).1 * 10 ^ (shortestDigits .double b).2) := by
  have inside : (b.interval .double).contains
      (roundToUnit b.fraction.1 b.fraction.2 (decimalExponent b.fraction.1 b.fraction.2 - 17))
      (decimalExponent b.fraction.1 b.fraction.2 - 17) = true := by
    have unitPos : (0 : ℚ) < 2 ^ (b.exponent - 2) := by positivity
    have near := abs_lt.mp (near_of_seventeen double positive)
    have units : b.size = 4 * b.significand * 2 ^ (b.exponent - 2) := by
      rw [Binary.size, zpow_sub₀ (by norm_num)]
      ring
    have low : ((b.interval .double).low : ℚ) ≤ 4 * b.significand - 1 := by
      have natural := b.interval_low_le positive
      rw [← Nat.cast_one, ← Nat.cast_ofNat, ← Nat.cast_mul, ← Nat.cast_sub (by omega)]
      exact_mod_cast natural
    rw [Interval.contains_iff]
    refine Interval.holds_of_lt ?_ ?_
    · rw [Binary.interval_unit]
      calc ((b.interval .double).low : ℚ) * 2 ^ (b.exponent - 2)
          ≤ (4 * b.significand - 1) * 2 ^ (b.exponent - 2) := by gcongr
        _ = b.size - 2 ^ (b.exponent - 2) := by rw [units]; ring
        _ < _ := by linarith [near.1]
    · rw [Binary.interval_unit, Binary.interval_high]
      calc _ < b.size + 2 ^ (b.exponent - 2) := by linarith [near.2]
        _ ≤ b.size + 2 * 2 ^ (b.exponent - 2) := by linarith
        _ = _ := by rw [units]; push_cast; ring
  -- so one of the eighteen lengths is found, and whatever is found lies inside
  have hit : (b.interval .double).decimal? b.fraction.1 b.fraction.2 17 ≠ none := by
    unfold Interval.decimal?
    simp only [List.find?_cons, Nat.cast_ofNat, inside]
    simp
  unfold shortestDigits
  rw [if_neg (by simpa using positive.ne')]
  dsimp only
  cases found : (List.range 18).findSome?
      ((b.interval .double).decimal? b.fraction.1 b.fraction.2) with
  | none => exact absurd (List.findSome?_eq_none_iff.mp found 17 (by simp)) hit
  | some decimal =>
    obtain ⟨count, -, candidate⟩ := List.exists_of_findSome?_eq_some found
    obtain ⟨digits, isCandidate, rfl⟩ := Option.map_eq_some_iff.mp candidate
    have member := List.find?_some isCandidate
    exact (Interval.contains_iff _ _ _).mp member

theorem significand_eq_of_holds (same : b.exponent = c.exponent) {x : ℚ}
    (inB : (b.interval .double).Holds x) (inC : (c.interval .double).Holds x)
    (le : b.significand ≤ c.significand) : b.significand = c.significand := by
  by_contra differs
  have low := c.interval_low
  have ends : (b.interval .double).high ≤ (c.interval .double).low := by
    rw [Binary.interval_high]
    split at low <;> omega
  have units : (b.interval .double).unit = (c.interval .double).unit := by
    rw [Binary.interval_unit, Binary.interval_unit, same]
  have unitPos : (0 : ℚ) < 2 ^ (c.interval .double).unit := by positivity
  obtain ⟨closedB, closedC, touch⟩ := Interval.closed_of_common inB inC (by
    rw [units]
    gcongr)
  rw [units] at touch
  have touchNat : (b.interval .double).high = (c.interval .double).low := by
    exact_mod_cast mul_right_cancel₀ unitPos.ne' touch
  have evenB := (b.interval_closed .double).mp closedB
  have evenC := (c.interval_closed .double).mp closedC
  rw [Binary.interval_high] at touchNat
  split at low <;> omega

theorem not_holds_of_exponent_lt (doubleB : b.IsDouble) (doubleC : c.IsDouble)
    (less : b.exponent < c.exponent) {x : ℚ} (inB : (b.interval .double).Holds x) :
    ¬ (c.interval .double).Holds x := by
  intro inC
  have sizeB := doubleB.significand_lt
  have fullC := doubleC.full (lt_of_le_of_lt doubleB.least less)
  have normal : c.exponent ≠ -1074 := (lt_of_le_of_lt doubleB.least less).ne'
  have low := c.interval_low
  -- in the smaller unit the upper interval begins at twice its low end or later
  have ends : (b.interval .double).high ≤ 2 * (c.interval .double).low := by
    rw [Binary.interval_high]
    split at low <;> omega
  have unitPos : (0 : ℚ) < 2 ^ (b.exponent - 2) := by positivity
  have twice : (2 : ℚ) * 2 ^ (b.exponent - 2) ≤ 2 ^ (c.exponent - 2) := by
    rw [← zpow_one_add₀ (by norm_num)]
    exact zpow_le_zpow_right₀ (by norm_num) (by omega)
  have apart : ((b.interval .double).high : ℚ) * 2 ^ (b.interval .double).unit ≤
      (c.interval .double).low * 2 ^ (c.interval .double).unit := by
    rw [Binary.interval_unit, Binary.interval_unit]
    calc ((b.interval .double).high : ℚ) * 2 ^ (b.exponent - 2)
        ≤ (2 * (c.interval .double).low : Nat) * 2 ^ (b.exponent - 2) := by gcongr
      _ = (c.interval .double).low * (2 * 2 ^ (b.exponent - 2)) := by push_cast; ring
      _ ≤ _ := by gcongr
  obtain ⟨closedB, -, touch⟩ := Interval.closed_of_common inB inC apart
  have evenB := (b.interval_closed .double).mp closedB
  -- the last significand before a power of two is odd
  have before : (b.interval .double).high < 2 * (c.interval .double).low := by
    rw [Binary.interval_high] at ends ⊢
    split at low <;> omega
  rw [Binary.interval_unit, Binary.interval_unit] at touch
  have strict : ((b.interval .double).high : ℚ) * 2 ^ (b.exponent - 2) <
      (c.interval .double).low * 2 ^ (c.exponent - 2) :=
    calc ((b.interval .double).high : ℚ) * 2 ^ (b.exponent - 2)
        < (2 * (c.interval .double).low : Nat) * 2 ^ (b.exponent - 2) := by gcongr
      _ = (c.interval .double).low * (2 * 2 ^ (b.exponent - 2)) := by push_cast; ring
      _ ≤ _ := by gcongr
  exact strict.ne touch

/-- No decimal rounds to two doubles of different size. -/
theorem eq_of_holds (doubleB : b.IsDouble) (doubleC : c.IsDouble) {x : ℚ}
    (inB : (b.interval .double).Holds x) (inC : (c.interval .double).Holds x) :
    b.significand = c.significand ∧ b.exponent = c.exponent := by
  rcases lt_trichotomy b.exponent c.exponent with less | same | greater
  · exact absurd inC (not_holds_of_exponent_lt doubleB doubleC less inB)
  · refine ⟨?_, same⟩
    rcases le_total b.significand c.significand with le | ge
    · exact significand_eq_of_holds same inB inC le
    · exact (significand_eq_of_holds same.symm inC inB ge).symm
  · exact absurd inB (not_holds_of_exponent_lt doubleC doubleB greater inC)

end Intervals

end Transit.Number
