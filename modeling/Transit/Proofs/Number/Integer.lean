import Mathlib.Algebra.Group.Nat.Defs
import Transit.Number.Integer
set_option autoImplicit false

/-!
# Numbers are read back

There are ten digits (`digit_iff`), and each counts by its place (`ofDigits_cons`). The decimal
digits of a number read as the number (`natOfChars_repr`), zeros in front or not
(`ofDigits_padded`, `ofDigits_twoDigits`). An integer is read from a decimal integer with or without a
sign, and from nothing else (`intOfChars_eq_some_iff`).
-/

namespace Transit.Number

theorem ofDigits_eq (cs : List Char) : ofDigits cs = Nat.ofDigitChars 10 cs 0 := by
  rw [ofDigits, Nat.ofDigitChars_eq_foldl]
  rfl

theorem isDigit_of_mem_repr {n : Nat} {c : Char} (member : c ∈ n.repr.toList) :
    isDigit c = true := by
  rw [Nat.toList_repr] at member
  exact Nat.isDigit_of_mem_toDigits (by decide) (by decide) member

def AllDigits (cs : List Char) : Prop :=
  ∀ c ∈ cs, isDigit c = true

theorem allDigits_repr (n : Nat) : AllDigits n.repr.toList :=
  fun _ member => isDigit_of_mem_repr member

theorem allDigits_zeros (n : Nat) : AllDigits (List.replicate n '0') := by
  intro c member
  rw [List.eq_of_mem_replicate member]
  decide

theorem AllDigits.append {cs ds : List Char} (first : AllDigits cs) (second : AllDigits ds) :
    AllDigits (cs ++ ds) :=
  List.forall_mem_append.mpr ⟨first, second⟩

theorem ne_of_isDigit {c : Char} (digit : isDigit c = true) :
    c ≠ '.' ∧ c ≠ 'e' ∧ c ≠ 'E' ∧ c ≠ '+' ∧ c ≠ '-' := by
  refine ⟨?_, ?_, ?_, ?_, ?_⟩ <;> rintro rfl <;> contradiction

/-- The whole number with these digits. -/
theorem ofDigits_repr (n : Nat) : ofDigits n.repr.toList = n := by
  rw [ofDigits_eq, Nat.toList_repr, Nat.ofDigitChars_ten_toDigits]

theorem ofDigits_append (cs ds : List Char) :
    ofDigits (cs ++ ds) = ofDigits cs * 10 ^ ds.length + ofDigits ds := by
  rw [ofDigits_eq, ofDigits_eq, ofDigits_eq, Nat.ofDigitChars_append,
    Nat.ofDigitChars_eq_ofDigitChars_zero, Nat.mul_comm]

theorem ofDigits_cons (c : Char) (cs : List Char) :
    ofDigits (c :: cs) = digitValue c * 10 ^ cs.length + ofDigits cs := by
  have lead : ofDigits [c] = digitValue c := Nat.zero_add _
  rw [← lead, ← ofDigits_append, List.singleton_append]

theorem ofDigits_zeros (n : Nat) : ofDigits (List.replicate n '0') = 0 := by
  rw [ofDigits_eq, Nat.ofDigitChars_replicate_zero, Nat.mul_zero]

theorem toNat_le_of_isDigit {c : Char} (digit : isDigit c = true) : c.toNat ≤ '0'.toNat + 9 := by
  rw [isDigit, Bool.and_eq_true, decide_eq_true_eq, decide_eq_true_eq] at digit
  exact digit.2

theorem digitValue_lt {c : Char} (digit : isDigit c = true) : digitValue c < 10 := by
  have bound := toNat_le_of_isDigit digit
  unfold digitValue
  omega

def tenDigits : List Char := ['0', '1', '2', '3', '4', '5', '6', '7', '8', '9']

/-- The digits are the ten of ASCII, each with its place among them as its value. -/
theorem digit_iff {c : Char} {n : Nat} :
    isDigit c = true ∧ digitValue c = n ↔ tenDigits[n]? = some c := by
  constructor
  · rintro ⟨digit, rfl⟩
    have small := digitValue_lt digit
    have above : '0'.toNat ≤ c.toNat := by
      rw [isDigit, Bool.and_eq_true, decide_eq_true_eq] at digit
      exact digit.1
    have isChar : c = Char.ofNat ('0'.toNat + digitValue c) := by
      rw [digitValue, Nat.add_sub_of_le above, Char.ofNat_toNat]
    generalize digitValue c = n at small isChar
    subst isChar
    have listed : ∀ k < 10, tenDigits[k]? = some (Char.ofNat ('0'.toNat + k)) := by decide
    exact listed n small
  · intro place
    obtain ⟨small, rfl⟩ := List.getElem?_eq_some_iff.mp place
    have counted : ∀ k : Fin tenDigits.length,
        isDigit (tenDigits.get k) = true ∧ digitValue (tenDigits.get k) = k := by decide
    exact counted ⟨n, small⟩

theorem ofDigits_lt {cs : List Char} (digits : AllDigits cs) : ofDigits cs < 10 ^ cs.length := by
  induction cs with
  | nil => decide
  | cons c rest ih =>
    obtain ⟨first, others⟩ := List.forall_mem_cons.mp digits
    have lead := digitValue_lt first
    calc
      ofDigits (c :: rest) < digitValue c * 10 ^ rest.length + 10 ^ rest.length := by
        rw [ofDigits_cons]
        exact Nat.add_lt_add_left (ih others) _
      _ = (digitValue c + 1) * 10 ^ rest.length := (Nat.succ_mul _ _).symm
      _ ≤ 10 * 10 ^ rest.length := Nat.mul_le_mul_right _ lead
      _ = 10 ^ (c :: rest).length := by rw [List.length_cons, Nat.pow_succ, Nat.mul_comm]

theorem toList_toString_negSucc (n : Nat) :
    (toString (Int.negSucc n)).toList = '-' :: (n + 1).repr.toList := by
  change ("-" ++ (n + 1).repr).toList = _
  rw [String.toList_append]
  rfl

theorem toString_ne_nil (e : Int) : (toString e).toList ≠ [] := by
  cases e with
  | ofNat n =>
    change n.repr.toList ≠ []
    rw [Nat.toList_repr]
    exact Nat.toDigits_ne_nil
  | negSucc n =>
    rw [toList_toString_negSucc]
    exact List.cons_ne_nil _ _

/-- A whole number is written in digits, with a sign at most. -/
theorem isDigit_or_of_mem_toString {e : Int} {c : Char} (member : c ∈ (toString e).toList) :
    isDigit c = true ∨ c = '-' := by
  cases e with
  | ofNat n => exact .inl (isDigit_of_mem_repr member)
  | negSucc n =>
    rw [toList_toString_negSucc] at member
    rcases List.mem_cons.mp member with rfl | digit
    · exact .inr rfl
    · exact .inl (isDigit_of_mem_repr digit)

theorem toList_padded (width n : Nat) :
    (padded width n).toList = List.replicate (width - n.repr.length) '0' ++ n.repr.toList := by
  change (String.ofList (List.replicate (width - n.repr.length) '0') ++ n.repr).toList = _
  rw [String.toList_append, String.toList_ofList]

theorem allDigits_padded (width n : Nat) : AllDigits (padded width n).toList := by
  rw [toList_padded]
  exact (allDigits_zeros _).append (allDigits_repr n)

theorem ofDigits_padded (width n : Nat) : ofDigits (padded width n).toList = n := by
  rw [toList_padded, ofDigits_append, ofDigits_repr, ofDigits_zeros, Nat.zero_mul, Nat.zero_add]

theorem toList_twoDigits (n : Nat) :
    (twoDigits n).toList = if n < 10 then '0' :: n.repr.toList else n.repr.toList := by
  unfold twoDigits
  split
  · change ("0" ++ n.repr).toList = _
    rw [String.toList_append]
    rfl
  · rfl

theorem ofDigits_twoDigits (n : Nat) : ofDigits (twoDigits n).toList = n := by
  rw [toList_twoDigits]
  split
  · rw [← List.singleton_append, ofDigits_append, ofDigits_repr]
    exact (congrArg (· + n) (Nat.zero_mul _)).trans (Nat.zero_add n)
  · exact ofDigits_repr n

theorem twoDigits_injective {m n : Nat} (same : (twoDigits m).toList = (twoDigits n).toList) :
    m = n := by
  rw [← ofDigits_twoDigits m, same, ofDigits_twoDigits]

theorem allDigits_twoDigits (n : Nat) : AllDigits (twoDigits n).toList := by
  rw [toList_twoDigits]
  split
  · exact List.forall_mem_cons.mpr ⟨by decide, allDigits_repr n⟩
  · exact allDigits_repr n

theorem two_le_length_twoDigits (n : Nat) : 2 ≤ (twoDigits n).toList.length := by
  rw [toList_twoDigits, Nat.toList_repr]
  split
  · exact Nat.succ_le_succ Nat.length_toDigits_pos
  · next double =>
    refine Nat.lt_of_not_le fun single => ?_
    exact double ((Nat.length_toDigits_le_iff (b := 10) (by decide) (by decide)).mp single)

theorem length_twoDigits_le_iff {n k : Nat} (two : 2 ≤ k) :
    (twoDigits n).toList.length ≤ k ↔ n < 10 ^ k := by
  rw [toList_twoDigits, Nat.toList_repr]
  split
  · next single =>
    have hundred : 10 ^ 2 ≤ 10 ^ k := Nat.pow_le_pow_right (by decide) two
    rw [Nat.toDigits_of_lt_base single]
    exact iff_of_true two (by omega)
  · exact Nat.length_toDigits_le_iff (by decide) (by omega)

theorem length_twoDigits {n : Nat} (small : n < 100) : (twoDigits n).toList.length = 2 :=
  Nat.le_antisymm ((length_twoDigits_le_iff (Nat.le_refl 2)).mpr small) (two_le_length_twoDigits n)

theorem natOfChars_repr (n : Nat) : natOfChars? n.repr.toList = some n := by
  have digits : n.repr.toList.all isDigit = true :=
    List.all_eq_true.mpr fun c member => isDigit_of_mem_repr member
  have filled : n.repr.toList.isEmpty = false := by
    rw [Nat.toList_repr, List.isEmpty_eq_false_iff]
    exact Nat.toDigits_ne_nil
  rw [natOfChars?, filled, digits, ofDigits_eq, Nat.toList_repr, Nat.ofDigitChars_ten_toDigits]
  rfl

theorem natOfChars_eq_some_iff {cs : List Char} {n : Nat} :
    natOfChars? cs = some n ↔ cs ≠ [] ∧ AllDigits cs ∧ ofDigits cs = n := by
  have refused : (cs.isEmpty || !cs.all isDigit) = true ↔ ¬ (cs ≠ [] ∧ AllDigits cs) := by
    rw [Bool.or_eq_true, List.isEmpty_iff, Bool.not_eq_true', ← Bool.not_eq_true, List.all_eq_true,
      Classical.not_and_iff_not_or_not, Classical.not_not, AllDigits]
  rw [natOfChars?, Option.ite_none_left_eq_some, refused, Classical.not_not, Option.some.injEq,
    and_assoc]

/-- An integer in decimal: at least one digit, and perhaps a sign before. -/
inductive Decimal : List Char → Int → Prop
  | bare {ds : List Char} (filled : ds ≠ []) (digits : AllDigits ds) : Decimal ds (ofDigits ds)
  | plus {ds : List Char} (filled : ds ≠ []) (digits : AllDigits ds) :
    Decimal ('+' :: ds) (ofDigits ds)
  | minus {ds : List Char} (filled : ds ≠ []) (digits : AllDigits ds) :
    Decimal ('-' :: ds) (-(ofDigits ds : Int))

/-- A range with negative values reads each decimal integer within it, and nothing else. -/
theorem intOfChars_eq_some_iff {r : Range} {cs : List Char} {n : Int}
    (signed : r.isUnsigned = false) :
    intOfChars? r cs = some n ↔ Decimal cs n ∧ r.holds n = true := by
  unfold intOfChars?
  dsimp only
  rw [Option.filter_eq_some_iff]
  apply and_congr_left
  intro _
  constructor
  · intro read
    split at read
    · obtain ⟨m, taken, rfl⟩ := Option.map_eq_some_iff.mp read
      obtain ⟨filled, digits, rfl⟩ := natOfChars_eq_some_iff.mp taken
      exact .plus filled digits
    · rw [signed] at read
      obtain ⟨m, lifted, rfl⟩ := Option.map_eq_some_iff.mp read
      obtain ⟨k, taken, same⟩ := Option.bind_eq_some_iff.mp lifted
      obtain rfl := Option.some.inj same
      obtain ⟨filled, digits, rfl⟩ := natOfChars_eq_some_iff.mp taken
      exact .minus filled digits
    · obtain ⟨m, taken, rfl⟩ := Option.map_eq_some_iff.mp read
      obtain ⟨filled, digits, rfl⟩ := natOfChars_eq_some_iff.mp taken
      exact .bare filled digits
  · intro decimal
    cases decimal with
    | plus filled digits =>
      exact Option.map_eq_some_iff.mpr ⟨_, natOfChars_eq_some_iff.mpr ⟨filled, digits, rfl⟩, rfl⟩
    | minus filled digits =>
      rw [signed]
      have taken := natOfChars_eq_some_iff.mpr ⟨filled, digits, rfl⟩
      exact Option.map_eq_some_iff.mpr ⟨_, Option.bind_eq_some_iff.mpr ⟨_, taken, rfl⟩, rfl⟩
    | bare filled digits =>
      split
      · exact absurd (digits _ List.mem_cons_self) (by decide)
      · exact absurd (digits _ List.mem_cons_self) (by decide)
      · exact Option.map_eq_some_iff.mpr ⟨_, natOfChars_eq_some_iff.mpr ⟨filled, digits, rfl⟩, rfl⟩

theorem decimal_toString (n : Int) : Decimal (toString n).toList n := by
  cases n with
  | ofNat m =>
    obtain ⟨filled, digits, value⟩ := natOfChars_eq_some_iff.mp (natOfChars_repr m)
    have bare := Decimal.bare filled digits
    rw [value] at bare
    exact bare
  | negSucc m =>
    obtain ⟨filled, digits, value⟩ := natOfChars_eq_some_iff.mp (natOfChars_repr (m + 1))
    have minus := Decimal.minus filled digits
    rw [value] at minus
    rw [toList_toString_negSucc]
    exact minus
end Transit.Number
