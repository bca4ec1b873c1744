import Transit.Text.Base64
import Transit.Text.Blank
set_option autoImplicit false

/-!
# Base64 is read back

Each symbol stands for its own six bits, and four times six bits are three bytes again. So what is
written in base64 reads as the bytes it was written from (`decode_encode`), and bytes are read from
no other text than the one that they are written as (`encode_of_decode`).
-/

namespace Transit.Text.Base64

theorem value_symbol {n : Nat} (small : n < 64) : value? (symbol n) = some n := by
  have all : ∀ n < 64, value? (symbol n) = some n := by decide
  exact all n small

theorem symbol_ne_pad {n : Nat} (small : n < 64) : symbol n ≠ '=' := by
  intro isPad
  have value := value_symbol small
  rw [isPad] at value
  contradiction

theorem decode_group {p q r s : Nat} (rest : List Char) (first : p < 64) (second : q < 64)
    (third : r < 64) (fourth : s < 64) :
    decode? (symbol p :: symbol q :: symbol r :: symbol s :: rest) =
      (decode? rest).map fun tail =>
        let n := 262144 * p + 4096 * q + 64 * r + s
        UInt8.ofNat (n / 65536) :: UInt8.ofNat (n / 256 % 256) :: UInt8.ofNat (n % 256) :: tail := by
  have noPad := symbol_ne_pad fourth
  rw [decode?]
  · rw [value_symbol first, value_symbol second, value_symbol third, value_symbol fourth]
    cases decode? rest <;> rfl
  · intro _ isPad
    exact absurd isPad noPad
  · intro isPad
    exact absurd isPad noPad

theorem decode_pair {p q r : Nat} (first : p < 64) (second : q < 64) (third : r < 64)
    (unused : r % 4 = 0) :
    decode? [symbol p, symbol q, symbol r, '='] =
      let n := 4096 * p + 64 * q + r
      some [UInt8.ofNat (n / 1024), UInt8.ofNat (n / 4 % 256)] := by
  have noPad := symbol_ne_pad third
  have zero : (4096 * p + 64 * q + r) % 4 = 0 := by omega
  rw [decode?]
  · rw [value_symbol first, value_symbol second, value_symbol third]
    exact if_pos zero
  · intro isPad
    exact absurd isPad noPad

theorem decode_single {p q : Nat} (first : p < 64) (second : q < 64) (unused : q % 16 = 0) :
    decode? [symbol p, symbol q, '=', '='] = some [UInt8.ofNat ((64 * p + q) / 16)] := by
  have zero : (64 * p + q) % 16 = 0 := by omega
  rw [decode?, value_symbol first, value_symbol second]
  exact if_pos zero

/-- What is written in base64 is read back. -/
theorem decode_encode (bytes : List UInt8) : decode? (encode bytes) = some bytes := by
  induction bytes using encode.induct with
  | case1 a b c rest ih =>
    have boundA := a.toNat_lt
    have boundB := b.toNat_lt
    have boundC := c.toNat_lt
    rw [encode, decode_group _ (by omega) (by omega) (by omega) (by omega), ih]
    generalize number : a.toNat * 65536 + b.toNat * 256 + c.toNat = n
    have sixes : 262144 * (n / 262144) + 4096 * (n / 4096 % 64) + 64 * (n / 64 % 64) + n % 64 =
        n := by omega
    have first : n / 65536 = a.toNat := by omega
    have second : n / 256 % 256 = b.toNat := by omega
    have third : n % 256 = c.toNat := by omega
    simp only [sixes, first, second, third, UInt8.ofNat_toNat, Option.map_some]
  | case2 a b =>
    have boundA := a.toNat_lt
    have boundB := b.toNat_lt
    rw [encode, decode_pair (by omega) (by omega) (by omega) (by omega)]
    generalize number : a.toNat * 256 + b.toNat = n
    have first : (4096 * (n / 1024) + 64 * (n / 16 % 64) + n % 16 * 4) / 1024 = a.toNat := by omega
    have second : (4096 * (n / 1024) + 64 * (n / 16 % 64) + n % 16 * 4) / 4 % 256 = b.toNat := by
      omega
    simp only [first, second, UInt8.ofNat_toNat]
  | case3 a =>
    have boundA := a.toNat_lt
    rw [encode, decode_single (by omega) (by omega) (by omega)]
    have only : (64 * (a.toNat / 4) + a.toNat % 4 * 16) / 16 = a.toNat := by omega
    rw [only, UInt8.ofNat_toNat]
  | case4 => rfl

theorem ascii_of_value {c : Char} {n : Nat} (value : value? c = some n) : c.toNat < 128 := by
  rcases Nat.lt_or_ge c.toNat 128 with low | high
  · exact low
  · have above (d : Char) (small : d.toNat < 128) : ¬ c ≤ d := fun below =>
      Nat.not_lt_of_le high (Nat.lt_of_le_of_lt below small)
    have other (d : Char) (small : d.toNat < 128) : c ≠ d := fun same =>
      Nat.not_lt_of_le high (same ▸ small)
    simp [value?, above 'Z' (by decide), above 'z' (by decide), above '9' (by decide),
      other '+' (by decide), other '/' (by decide)] at value

theorem symbol_value {c : Char} {n : Nat} (value : value? c = some n) : symbol n = c ∧ n < 64 := by
  have all : ∀ k < 128, (value? (Char.ofNat k)).all fun n =>
      decide (symbol n = Char.ofNat k ∧ n < 64) := by decide
  have here := all c.toNat (ascii_of_value value)
  rw [Char.ofNat_toNat, value, Option.all_some, decide_eq_true_eq] at here
  exact here

theorem toNat_ofNat_lt {n : Nat} (small : n < 256) : (UInt8.ofNat n).toNat = n := by
  rw [UInt8.toNat_ofNat', Nat.mod_eq_of_lt small]

/-- A text that is read is the one that its bytes are written as. -/
theorem encode_of_decode {cs : List Char} {bytes : List UInt8} (read : decode? cs = some bytes) :
    encode bytes = cs := by
  induction cs using decode?.induct generalizing bytes with
  | case1 =>
    cases read
    rfl
  | case2 w x =>
    simp only [decode?, bind, Option.bind_eq_some_iff, Option.ite_none_right_eq_some] at read
    obtain ⟨p, first, q, second, unused, read⟩ := read
    cases read
    obtain ⟨rfl, boundP⟩ := symbol_value first
    obtain ⟨rfl, boundQ⟩ := symbol_value second
    have high : (64 * p + q) / 16 / 4 = p := by omega
    have low : (64 * p + q) / 16 % 4 * 16 = q := by omega
    rw [encode, toNat_ofNat_lt (by omega), high, low]
  | case3 w x y notPad =>
    simp only [decode?, bind, Option.bind_eq_some_iff, Option.ite_none_right_eq_some] at read
    obtain ⟨p, first, q, second, r, third, unused, read⟩ := read
    cases read
    obtain ⟨rfl, boundP⟩ := symbol_value first
    obtain ⟨rfl, boundQ⟩ := symbol_value second
    obtain ⟨rfl, boundR⟩ := symbol_value third
    generalize number : 4096 * p + 64 * q + r = n at unused ⊢
    have whole : n / 1024 * 256 + n / 4 % 256 = n / 4 := by omega
    have high : n / 4 / 1024 = p := by omega
    have middle : n / 4 / 16 % 64 = q := by omega
    have low : n / 4 % 16 * 4 = r := by omega
    rw [encode, toNat_ofNat_lt (by omega), toNat_ofNat_lt (by omega), whole, high, middle, low]
  | case4 w x y z rest noPads noPad ih =>
    simp only [decode?, bind, Option.bind_eq_some_iff] at read
    obtain ⟨p, first, q, second, r, third, s, fourth, tail, later, read⟩ := read
    cases read
    obtain ⟨rfl, boundP⟩ := symbol_value first
    obtain ⟨rfl, boundQ⟩ := symbol_value second
    obtain ⟨rfl, boundR⟩ := symbol_value third
    obtain ⟨rfl, boundS⟩ := symbol_value fourth
    generalize number : 262144 * p + 4096 * q + 64 * r + s = n
    have whole : n / 65536 * 65536 + n / 256 % 256 * 256 + n % 256 = n := by omega
    have a : n / 262144 = p := by omega
    have b : n / 4096 % 64 = q := by omega
    have c : n / 64 % 64 = r := by omega
    have d : n % 64 = s := by omega
    rw [encode, toNat_ofNat_lt (by omega), toNat_ofNat_lt (by omega), toNat_ofNat_lt (by omega),
      whole, a, b, c, d, ih later]
  | case5 cs notEmpty notSingle notPair notGroup =>
    rw [decode?] at read
    · cases read
    · exact notEmpty
    · exact notSingle
    · exact notPair
    · exact notGroup

theorem not_blank_symbol {n : Nat} (small : n < 64) : isBlank (symbol n) = false := by
  have all : ∀ n < 64, isBlank (symbol n) = false := by decide
  exact all n small

/-- Nothing that is written in base64 is white space. -/
theorem not_blank_of_mem_encode {bytes : List UInt8} {c : Char} (member : c ∈ encode bytes) :
    isBlank c = false := by
  induction bytes using encode.induct with
  | case1 a b c rest ih =>
    have boundA := a.toNat_lt
    have boundB := b.toNat_lt
    have boundC := c.toNat_lt
    simp only [encode, List.mem_cons] at member
    rcases member with rfl | rfl | rfl | rfl | later
    · exact not_blank_symbol (by omega)
    · exact not_blank_symbol (by omega)
    · exact not_blank_symbol (by omega)
    · exact not_blank_symbol (by omega)
    · exact ih later
  | case2 a b =>
    have boundA := a.toNat_lt
    have boundB := b.toNat_lt
    simp only [encode, List.mem_cons, List.not_mem_nil, or_false] at member
    rcases member with rfl | rfl | rfl | rfl
    · exact not_blank_symbol (by omega)
    · exact not_blank_symbol (by omega)
    · exact not_blank_symbol (by omega)
    · rfl
  | case3 a =>
    have boundA := a.toNat_lt
    simp only [encode, List.mem_cons, List.not_mem_nil, or_false] at member
    rcases member with rfl | rfl | rfl | rfl
    · exact not_blank_symbol (by omega)
    · exact not_blank_symbol (by omega)
    · rfl
    · rfl
  | case4 => simp [encode] at member

end Transit.Text.Base64
