import Transit.Proofs.Number.Decimal
import Transit.Proofs.Number.Shortest
set_option autoImplicit false

/-!
# Different finite numbers have different texts

A double that is finite is known by its sign, significand and exponent (`decode_injective`). Its
shortest text is read as a decimal that rounds to it, so the text belongs to no other double
(`shortestText_injective`).
-/

namespace Transit.Number

section Decoding

variable {bits : Nat} {b : Binary}

/-- The three fields of a bit pattern that decodes to a finite number. -/
theorem fields_of_decode (decoded : Format.double.decode bits = .finite b) :
    b.negative = (bits / 2 ^ 63 % 2 == 1) ∧ bits / 2 ^ 52 % 2 ^ 11 < 2047 ∧
      (bits / 2 ^ 52 % 2 ^ 11 = 0 ∧ b.significand = bits % 2 ^ 52 ∧ b.exponent = -1074 ∨
        0 < bits / 2 ^ 52 % 2 ^ 11 ∧ b.significand = 2 ^ 52 + bits % 2 ^ 52 ∧
          b.exponent = (bits / 2 ^ 52 % 2 ^ 11 : Nat) - 1075) := by
  have bound : bits / 2 ^ 52 % 2 ^ 11 < 2 ^ 11 := Nat.mod_lt _ (by norm_num)
  unfold Format.decode Format.double at decoded
  simp only [Nat.pow_eq, beq_iff_eq] at decoded
  generalize bits / 2 ^ 52 % 2 ^ 11 = biased at *
  generalize bits % 2 ^ 52 = stored at *
  split at decoded
  · split at decoded <;> exact absurd decoded (by simp)
  · split at decoded
    · obtain rfl := Decoded.finite.inj decoded
      refine ⟨rfl, by omega, .inl ⟨‹_›, rfl, by norm_num⟩⟩
    · obtain rfl := Decoded.finite.inj decoded
      refine ⟨rfl, by omega, .inr ⟨by omega, rfl, by push_cast; ring⟩⟩

theorem isDouble_of_decode (decoded : Format.double.decode bits = .finite b) : b.IsDouble := by
  have stored : bits % 2 ^ 52 < 2 ^ 52 := Nat.mod_lt _ (by norm_num)
  obtain ⟨-, -, ⟨-, significand, exponent⟩ | ⟨positive, significand, exponent⟩⟩ :=
    fields_of_decode decoded
  · exact ⟨by omega, by omega, by omega⟩
  · exact ⟨by omega, by omega, by omega⟩

theorem bits_eq_of_decode {bits' : Nat} (wide : bits < 2 ^ 64) (wide' : bits' < 2 ^ 64)
    (decoded : Format.double.decode bits = .finite b)
    (decoded' : Format.double.decode bits' = .finite b) : bits = bits' := by
  obtain ⟨sign, -, fields⟩ := fields_of_decode decoded
  obtain ⟨sign', -, fields'⟩ := fields_of_decode decoded'
  have signs : bits / 2 ^ 63 % 2 = bits' / 2 ^ 63 % 2 := by
    have same : (bits / 2 ^ 63 % 2 = 1) ↔ (bits' / 2 ^ 63 % 2 = 1) := by
      rw [← beq_iff_eq, ← sign, sign', beq_iff_eq]
    omega
  omega

theorem decode_injective {x y : Float} (decodedX : decode x = .finite b)
    (decodedY : decode y = .finite b) : x = y := by
  have bits : x.toBits = y.toBits := UInt64.toNat_inj.mp
    (bits_eq_of_decode x.toBits.toNat_lt y.toBits.toNat_lt decodedX decodedY)
  obtain ⟨⟨xBits, xValid⟩⟩ := x
  obtain ⟨⟨yBits, yValid⟩⟩ := y
  obtain rfl : xBits = yBits := bits
  rfl

end Decoding

section Texts

variable {b c : Binary}

theorem shortestDigits_of_zero (zero : b.significand = 0) : shortestDigits .double b = (0, 0) :=
  if_pos (by simpa using zero)

theorem shortestDigits_pos (double : b.IsDouble) (positive : 0 < b.significand) :
    (0 : ℚ) < (shortestDigits .double b).1 * 10 ^ (shortestDigits .double b).2 := by
  have inside := (contains_shortestDigits double positive).bounds.1
  have low : 0 < (b.interval .double).low := by
    rw [Binary.interval_low]
    split <;> omega
  have start : (0 : ℚ) < (b.interval .double).low * 2 ^ (b.interval .double).unit := by positivity
  exact start.trans_le inside

/-- Shortest digits of equal value come from numbers of equal size. -/
theorem size_eq_of_shortestDigits (doubleB : b.IsDouble) (doubleC : c.IsDouble)
    (same : ((shortestDigits .double b).1 : ℚ) * 10 ^ (shortestDigits .double b).2 =
      (shortestDigits .double c).1 * 10 ^ (shortestDigits .double c).2) :
    b.significand = c.significand ∧ b.exponent = c.exponent := by
  rcases Nat.eq_zero_or_pos b.significand with zeroB | posB
  · rcases Nat.eq_zero_or_pos c.significand with zeroC | posC
    · refine ⟨zeroB.trans zeroC.symm, ?_⟩
      have leastB := doubleB.full
      have leastC := doubleC.full
      have := doubleB.least
      have := doubleC.least
      omega
    · rw [shortestDigits_of_zero zeroB] at same
      exact absurd same.symm (by simpa using (shortestDigits_pos doubleC posC).ne')
  · rcases Nat.eq_zero_or_pos c.significand with zeroC | posC
    · rw [shortestDigits_of_zero zeroC] at same
      exact absurd same (by simpa using (shortestDigits_pos doubleB posB).ne')
    · have inB := contains_shortestDigits doubleB posB
      rw [same] at inB
      exact eq_of_holds doubleB doubleC inB (contains_shortestDigits doubleC posC)

theorem decimalText_starts (digits : Nat) (power : Int) :
    ∃ d rest, decimalText digits power = d :: rest ∧ isDigit d = true := by
  obtain ⟨⟨whole, part, exponent⟩, text, writes⟩ := exists_layout digits power
  rw [← text]
  cases whole with
  | nil => exact absurd rfl writes.whole_filled
  | cons d rest => exact ⟨d, _, rfl, writes.whole_digits d List.mem_cons_self⟩

theorem signed_injective {s t : Bool} {digits digits' : Nat} {power power' : Int}
    (same : (if s then ['-'] else []) ++ decimalText digits power =
      (if t then ['-'] else []) ++ decimalText digits' power') :
    s = t ∧ decimalText digits power = decimalText digits' power' := by
  obtain ⟨d, rest, starts, digit⟩ := decimalText_starts digits power
  obtain ⟨d', rest', starts', digit'⟩ := decimalText_starts digits' power'
  obtain ⟨-, -, -, -, noSign⟩ := ne_of_isDigit digit
  obtain ⟨-, -, -, -, noSign'⟩ := ne_of_isDigit digit'
  cases s <;> cases t
  · exact ⟨rfl, same⟩
  · rw [starts] at same
    exact absurd (List.cons.inj same).1 noSign
  · rw [starts'] at same
    exact absurd (List.cons.inj same).1.symm noSign'
  · exact ⟨rfl, (List.cons.inj same).2⟩

theorem shortestText_eq (f : Format) (b : Binary) : shortestText f b =
    (if b.negative then ['-'] else []) ++ decimalText (shortestDigits f b).1 (shortestDigits f b).2 :=
  rfl

theorem shortestText_chars {f : Format} {c : Char} (member : c ∈ shortestText f b) :
    isDigit c = true ∨ c = '-' ∨ c = '.' ∨ c = 'e' := by
  rw [shortestText_eq, List.mem_append] at member
  rcases member with sign | inDecimal
  · split at sign
    · exact .inr (.inl (List.mem_singleton.mp sign))
    · cases sign
  · exact decimalText_chars inDecimal

theorem shortestText_marked (f : Format) (b : Binary) :
    '.' ∈ shortestText f b ∨ 'e' ∈ shortestText f b := by
  rw [shortestText_eq, List.mem_append, List.mem_append]
  exact (decimalText_marked _ _).imp .inr .inr

/-- The shortest text of a finite double is that of no other. -/
theorem shortestText_injective {x y : Float} (decodedX : decode x = .finite b)
    (decodedY : decode y = .finite c) (same : shortestText .double b = shortestText .double c) :
    x = y := by
  rw [shortestText_eq, shortestText_eq] at same
  obtain ⟨sign, texts⟩ := signed_injective same
  obtain ⟨d, p, readB, valueB⟩ :=
    decimal_decimalText (shortestDigits .double b).1 (shortestDigits .double b).2
  obtain ⟨d', p', readC, valueC⟩ :=
    decimal_decimalText (shortestDigits .double c).1 (shortestDigits .double c).2
  rw [texts, readC] at readB
  obtain ⟨rfl, rfl⟩ := Prod.mk.inj (Option.some.inj readB)
  obtain ⟨significand, exponent⟩ := size_eq_of_shortestDigits (isDouble_of_decode decodedX)
    (isDouble_of_decode decodedY) (valueB.symm.trans valueC)
  obtain rfl : b = c := by
    obtain ⟨negativeB, significandB, exponentB⟩ := b
    obtain ⟨negativeC, significandC, exponentC⟩ := c
    rw [Binary.mk.injEq]
    exact ⟨sign, significand, exponent⟩
  exact decode_injective decodedX decodedY

end Texts

end Transit.Number
