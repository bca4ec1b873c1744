import Transit.Text.Utf8
set_option autoImplicit false

/-!
# UTF-8 is read back

A character takes up bits in its bytes that say how many they are, and each form is refused to
characters that a shorter one can hold. So characters are read from no other bytes than the ones
that they are written as (`encode_of_decode`).
-/

namespace Transit.Text.Utf8

/-- ASCII characters are read back from their bytes. -/
theorem decodeChars_ascii {cs : List Char} (ascii : ∀ c ∈ cs, c.toNat < 128) :
    decodeChars? (cs.flatMap encodeChar) = some cs := by
  induction cs with
  | nil => rfl
  | cons c rest ih =>
    have small := ascii c List.mem_cons_self
    have others := ih fun d member => ascii d (List.mem_cons_of_mem c member)
    have lead : (UInt8.ofNat c.toNat).toNat = c.toNat := by
      rw [UInt8.toNat_ofNat']
      omega
    have one : encodeChar c = [UInt8.ofNat c.toNat] := if_pos small
    rw [List.flatMap_cons, one, List.singleton_append, decodeChars?.eq_def]
    simp only [lead, if_pos small, others, Option.map_some, Char.ofNat_toNat]

theorem toNat_ofNat {n : Nat} (valid : n.isValidChar) : (Char.ofNat n).toNat = n := by
  rw [Char.ofNat, dif_pos valid]
  exact UInt32.toNat_ofNatLT ..

theorem toNat_of_char {least n : Nat} {c : Char} (valid : char? least n = some c) :
    c.toNat = n ∧ least ≤ n := by
  simp only [char?, Bool.and_eq_true, decide_eq_true_eq, Bool.not_eq_true', Bool.and_eq_false_iff,
    decide_eq_false_iff_not, Option.ite_none_right_eq_some] at valid
  obtain ⟨⟨⟨low, high⟩, notSurrogate⟩, is⟩ := valid
  cases is
  refine ⟨toNat_ofNat ?_, low⟩
  rcases notSurrogate with below | above
  · exact .inl (by omega)
  · exact .inr ⟨by omega, high⟩

theorem byte_of_continuation {b : UInt8} {k : Nat} (valid : continuation? b = some k) :
    UInt8.ofNat (0x80 + k) = b ∧ k < 64 := by
  simp only [continuation?, Bool.and_eq_true, decide_eq_true_eq, Option.ite_none_right_eq_some]
    at valid
  obtain ⟨⟨low, high⟩, is⟩ := valid
  obtain rfl := Option.some.inj is
  have whole : 0x80 + (b.toNat - 0x80) = b.toNat := by omega
  rw [whole, UInt8.ofNat_toNat]
  exact ⟨rfl, by omega⟩

/-- Bytes that are read are the ones that the characters are written as. -/
theorem encode_of_decode {bytes : List UInt8} {cs : List Char}
    (read : decodeChars? bytes = some cs) : cs.flatMap encodeChar = bytes := by
  fun_induction decodeChars? bytes generalizing cs
  case case1 =>
    cases read
    rfl
  case case2 a rest lead one ih =>
    obtain ⟨others, later, rfl⟩ := Option.map_eq_some_iff.mp read
    have value : (Char.ofNat lead).toNat = lead := toNat_ofNat (.inl (by omega))
    rw [List.flatMap_cons, ih later, encodeChar, value, if_pos one, UInt8.ofNat_toNat,
      List.singleton_append]
  case case4 a lead more noStray two b rest ih =>
    simp only [bind, Option.bind_eq_some_iff, Option.map_eq_some_iff] at read
    obtain ⟨k, second, c, valid, others, later, rfl⟩ := read
    obtain ⟨value, wide⟩ := toNat_of_char valid
    obtain ⟨last, bound⟩ := byte_of_continuation second
    generalize number : 64 * (lead - 0xC0) + k = n at value wide
    have high : 0xC0 + n / 64 = lead := by omega
    have low : n % 64 = k := by omega
    rw [List.flatMap_cons, ih later, encodeChar, value, if_neg (by omega), if_pos (by omega), high,
      low, UInt8.ofNat_toNat, last]
    rfl
  case case6 a lead more noStray noTwo three b c rest ih =>
    simp only [bind, Option.bind_eq_some_iff, Option.map_eq_some_iff] at read
    obtain ⟨k, second, l, third, c, valid, others, later, rfl⟩ := read
    obtain ⟨value, wide⟩ := toNat_of_char valid
    obtain ⟨middle, boundK⟩ := byte_of_continuation second
    obtain ⟨last, boundL⟩ := byte_of_continuation third
    generalize number : 4096 * (lead - 0xE0) + 64 * k + l = n at value wide
    have first : 0xE0 + n / 4096 = lead := by omega
    have sixth : n / 64 % 64 = k := by omega
    have twelfth : n % 64 = l := by omega
    rw [List.flatMap_cons, ih later, encodeChar, value, if_neg (by omega), if_neg (by omega),
      if_pos (by omega), first, sixth, twelfth, UInt8.ofNat_toNat, middle, last]
    rfl
  case case8 a lead more noStray noTwo noThree b c d rest ih =>
    simp only [bind, Option.bind_eq_some_iff, Option.map_eq_some_iff] at read
    obtain ⟨k, second, l, third, m, fourth, c, valid, others, later, rfl⟩ := read
    obtain ⟨value, wide⟩ := toNat_of_char valid
    obtain ⟨inner, boundK⟩ := byte_of_continuation second
    obtain ⟨outer, boundL⟩ := byte_of_continuation third
    obtain ⟨last, boundM⟩ := byte_of_continuation fourth
    generalize number : 262144 * (lead - 0xF0) + 4096 * k + 64 * l + m = n at value wide
    have first : 0xF0 + n / 262144 = lead := by omega
    have sixth : n / 4096 % 64 = k := by omega
    have twelfth : n / 64 % 64 = l := by omega
    have eighteenth : n % 64 = m := by omega
    rw [List.flatMap_cons, ih later, encodeChar, value, if_neg (by omega), if_neg (by omega),
      if_neg (by omega), first, sixth, twelfth, eighteenth, UInt8.ofNat_toNat, inner, outer, last]
    rfl
  all_goals cases read

end Transit.Text.Utf8
