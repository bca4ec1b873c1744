import Mathlib.Algebra.Order.Field.Power
import Mathlib.Algebra.Order.Field.Rat
import Mathlib.Tactic.NormNum
import Mathlib.Tactic.Ring
import Transit.Proofs.Number.Integer
import Transit.Number.Text
set_option autoImplicit false

/-!
# Decimal texts are read back

Reading the text of `digits * 10^power` gives a decimal of the same value (`decimal_decimalText`), so
the text tells decimals of different value apart.
-/

namespace Transit.Number

def exponentChars : Option Int → List Char
  | none => []
  | some e => 'e' :: (toString e).toList

def fractionChars : List Char → List Char
  | [] => []
  | part => '.' :: part

theorem splitExponent_append {cs : List Char} (plain : ∀ c ∈ cs, c ≠ 'e' ∧ c ≠ 'E')
    (e : Option Int) :
    splitExponent (cs ++ exponentChars e) = (cs, e.map fun e => (toString e).toList) := by
  have through : ∀ c ∈ cs, (c != 'e' && c != 'E') = true := by
    intro c member
    simpa using plain c member
  unfold splitExponent
  rw [List.takeWhile_append_of_pos through, List.dropWhile_append_of_pos through]
  cases e <;> simp [exponentChars]

theorem plain_mantissa {whole part : List Char} (digits : AllDigits whole)
    (fraction : AllDigits part) : ∀ c ∈ whole ++ fractionChars part, c ≠ 'e' ∧ c ≠ 'E' := by
  intro c member
  rcases List.mem_append.mp member with inWhole | inFraction
  · obtain ⟨-, noE, noCapital, -, -⟩ := ne_of_isDigit (digits c inWhole)
    exact ⟨noE, noCapital⟩
  · cases part with
    | nil => simp [fractionChars] at inFraction
    | cons d rest =>
      rcases List.mem_cons.mp inFraction with rfl | inPart
      · decide
      · obtain ⟨-, noE, noCapital, -, -⟩ := ne_of_isDigit (fraction c inPart)
        exact ⟨noE, noCapital⟩

theorem takeWhile_mantissa {whole : List Char} (digits : AllDigits whole) (part : List Char) :
    (whole ++ fractionChars part).takeWhile isDigit = whole := by
  rw [List.takeWhile_append_of_pos digits]
  cases part with
  | nil => simp [fractionChars]
  | cons d rest =>
    have point : isDigit '.' = false := by decide
    simp [fractionChars, point]

theorem fraction_fractionChars {part : List Char} (fraction : AllDigits part) :
    fraction? (fractionChars part) = some part := by
  cases part with
  | nil => rfl
  | cons d rest => exact if_pos (List.all_eq_true.mpr fraction)

theorem exponent_toString (e : Int) : exponent? (toString e).toList = some e := by
  cases e with
  | ofNat n =>
    have noSign : ∀ c ds, n.repr.toList = c :: ds → c ≠ '+' ∧ c ≠ '-' := by
      intro c ds starts
      obtain ⟨-, -, -, noPlus, noMinus⟩ :=
        ne_of_isDigit (allDigits_repr n c (starts ▸ List.mem_cons_self))
      exact ⟨noPlus, noMinus⟩
    change exponent? n.repr.toList = some (Int.ofNat n)
    unfold exponent?
    split
    · next ds starts => exact absurd rfl (noSign _ ds starts).1
    · next ds starts => exact absurd rfl (noSign _ ds starts).2
    · rw [natOfChars_repr, Option.map_some]
  | negSucc n =>
    rw [toList_toString_negSucc, exponent?, natOfChars_repr]
    rfl

theorem toString_injective {m n : Int} (same : (toString m).toList = (toString n).toList) :
    m = n := by
  have read := exponent_toString m
  rw [same, exponent_toString n] at read
  exact (Option.some.inj read).symm

theorem decimal_of_parts {whole part : List Char} (digits : AllDigits whole) (filled : whole ≠ [])
    (fraction : AllDigits part) (e : Option Int) :
    decimal? (whole ++ fractionChars part ++ exponentChars e) =
      some (ofDigits (whole ++ part), e.getD 0 - part.length) := by
  have isEmpty : whole.isEmpty = false := by simpa using filled
  have power : ((e.map fun e => (toString e).toList).map exponent?).getD (some 0) =
      some (e.getD 0) := by
    cases e with
    | none => rfl
    | some e => exact exponent_toString e
  unfold decimal?
  rw [splitExponent_append (plain_mantissa digits fraction)]
  dsimp only
  rw [takeWhile_mantissa digits, List.drop_left, fraction_fractionChars fraction, power]
  simp [isEmpty]

/-- The text of a decimal in its parts. -/
structure Layout where
  whole : List Char
  part : List Char
  exponent : Option Int

def Layout.chars (l : Layout) : List Char :=
  l.whole ++ fractionChars l.part ++ exponentChars l.exponent

/-- The parts are digits that write the value, and they include a fraction or a power of ten. -/
structure Layout.Writes (l : Layout) (digits : Nat) (power : Int) : Prop where
  whole_digits : AllDigits l.whole
  whole_filled : l.whole ≠ []
  part_digits : AllDigits l.part
  marked : l.part ≠ [] ∨ l.exponent ≠ none
  value : (ofDigits (l.whole ++ l.part) : ℚ) * 10 ^ (l.exponent.getD 0 - l.part.length) =
    digits * 10 ^ power

theorem exists_layout (digits : Nat) (power : Int) :
    ∃ l : Layout, l.chars = decimalText digits power ∧ l.Writes digits power := by
  have all := allDigits_repr digits
  have filled : digits.repr.toList ≠ [] := by
    rw [Nat.toList_repr]
    exact Nat.toDigits_ne_nil
  have size : 0 < digits.repr.toList.length := List.length_pos_iff.mpr filled
  have front (n : Nat) : AllDigits (digits.repr.toList.take n) :=
    fun c member => all c (List.mem_of_mem_take member)
  have back (n : Nat) : AllDigits (digits.repr.toList.drop n) :=
    fun c member => all c (List.mem_of_mem_drop member)
  unfold decimalText
  dsimp only
  split
  case isTrue whole =>
    obtain ⟨positive, -⟩ : 0 ≤ power ∧ _ := by simpa using whole
    obtain ⟨n, rfl⟩ := Int.eq_ofNat_of_zero_le positive
    refine ⟨⟨digits.repr.toList ++ List.replicate n '0', ['0'], none⟩, ?_,
      all.append (allDigits_zeros n), by simp, allDigits_zeros 1, .inl (by simp), ?_⟩
    · simp [Layout.chars, fractionChars, exponentChars]
    · rw [ofDigits_append, ofDigits_append, ofDigits_repr, ofDigits_zeros]
      have zero : ofDigits ['0'] = 0 := rfl
      simp [zero]
  case isFalse notWhole =>
    split
    case isTrue inside =>
      obtain ⟨above, below⟩ : (0 : Int) < digits.repr.toList.length + power ∧
          digits.repr.toList.length + power ≤ 16 := by simpa using inside
      have negative : power < 0 := by
        by_contra positive
        rw [Bool.and_eq_true, decide_eq_true_eq, decide_eq_true_eq] at notWhole
        exact notWhole ⟨not_lt.mp positive, below⟩
      obtain ⟨point, isPoint⟩ := Int.eq_ofNat_of_zero_le above.le
      rw [isPoint, Int.toNat_natCast]
      have short : point < digits.repr.toList.length := by omega
      have rest : digits.repr.toList.drop point ≠ [] := by
        rw [← List.length_pos_iff, List.length_drop]
        omega
      refine ⟨⟨digits.repr.toList.take point, digits.repr.toList.drop point, none⟩, ?_, front _, ?_,
        back _, .inl rest, ?_⟩
      · cases found : digits.repr.toList.drop point with
        | nil => exact absurd found rest
        | cons c cs => simp [Layout.chars, fractionChars, exponentChars]
      · rw [← List.length_pos_iff, List.length_take]
        omega
      · rw [List.take_append_drop, ofDigits_repr, List.length_drop]
        congr 2
        simp only [Option.getD_none]
        omega
    case isFalse notInside =>
      split
      case isTrue below =>
        obtain ⟨-, small⟩ : (-5 : Int) < digits.repr.toList.length + power ∧
            digits.repr.toList.length + power ≤ 0 := by simpa using below
        obtain ⟨zeros, isZeros⟩ := Int.eq_ofNat_of_zero_le (neg_nonneg.mpr small)
        rw [isZeros, Int.toNat_natCast]
        refine ⟨⟨['0'], List.replicate zeros '0' ++ digits.repr.toList, none⟩, ?_,
          allDigits_zeros 1, by simp, (allDigits_zeros _).append all, .inl (by simp), ?_⟩
        · cases zeros with
          | zero =>
            cases found : digits.repr.toList with
            | nil => exact absurd found filled
            | cons c cs => simp [Layout.chars, fractionChars, exponentChars]
          | succ n => simp [Layout.chars, fractionChars, exponentChars, List.replicate_succ]
        · have zero : ofDigits ['0'] = 0 := rfl
          rw [ofDigits_append, ofDigits_append, ofDigits_repr, ofDigits_zeros, zero]
          simp only [Nat.zero_mul, Nat.zero_add, List.length_append, List.length_replicate]
          congr 2
          simp only [Option.getD_none]
          omega
      case isFalse =>
        refine ⟨⟨digits.repr.toList.take 1, digits.repr.toList.drop 1,
          some (digits.repr.toList.length + power - 1)⟩, ?_, front _, ?_, back _, .inr (by simp), ?_⟩
        · cases found : digits.repr.toList with
          | nil => exact absurd found filled
          | cons c cs => cases cs <;> simp [Layout.chars, fractionChars, exponentChars]
        · rw [← List.length_pos_iff, List.length_take]
          omega
        · rw [List.take_append_drop, ofDigits_repr, List.length_drop]
          congr 2
          simp only [Option.getD_some]
          omega

theorem decimalText_chars {digits : Nat} {power : Int} {c : Char}
    (member : c ∈ decimalText digits power) :
    isDigit c = true ∨ c = '-' ∨ c = '.' ∨ c = 'e' := by
  obtain ⟨⟨whole, part, exponent⟩, text, writes⟩ := exists_layout digits power
  rw [← text, Layout.chars, List.mem_append, List.mem_append] at member
  rcases member with (inWhole | inFraction) | inExponent
  · exact .inl (writes.whole_digits c inWhole)
  · cases part with
    | nil => simp [fractionChars] at inFraction
    | cons d rest =>
      rcases List.mem_cons.mp inFraction with rfl | inPart
      · exact .inr (.inr (.inl rfl))
      · exact .inl (writes.part_digits c inPart)
  · cases exponent with
    | none => simp [exponentChars] at inExponent
    | some e =>
      rcases List.mem_cons.mp inExponent with rfl | inNumber
      · exact .inr (.inr (.inr rfl))
      · exact (isDigit_or_of_mem_toString inNumber).imp_right .inl

theorem decimalText_marked (digits : Nat) (power : Int) :
    '.' ∈ decimalText digits power ∨ 'e' ∈ decimalText digits power := by
  obtain ⟨⟨whole, part, exponent⟩, text, writes⟩ := exists_layout digits power
  rw [← text, Layout.chars]
  rcases writes.marked with fraction | power
  · cases part with
    | nil => exact absurd rfl fraction
    | cons d rest => exact .inl (by simp [fractionChars])
  · cases exponent with
    | none => exact absurd rfl power
    | some e => exact .inr (by simp [exponentChars])

/-- The decimal that a decimal text is read as has the value of the one that was written. -/
theorem decimal_decimalText (digits : Nat) (power : Int) :
    ∃ d p, decimal? (decimalText digits power) = some (d, p) ∧
      (d : ℚ) * 10 ^ p = digits * 10 ^ power := by
  obtain ⟨l, text, writes⟩ := exists_layout digits power
  refine ⟨_, _, ?_, writes.value⟩
  rw [← text]
  exact decimal_of_parts writes.whole_digits writes.whole_filled writes.part_digits l.exponent

end Transit.Number
