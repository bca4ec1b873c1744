import Transit.Cursor
import Transit.Request.Input
import Transit.Proofs.Number.Integer
import Transit.Proofs.Text.Base64
import Transit.Proofs.Text.Blank
import Transit.Proofs.Text.Separator
import Transit.Proofs.Text.Utf8
set_option autoImplicit false

/-!
# Cursors and their texts

A cursor is written as two decimal integers with a comma between them, in base64, and only from
such a text is one read (`Cursor.decode_eq_ok_iff`). So a cursor whose values are neither negative nor
too great is read back from its text (`Cursor.decode_encode`), also as the argument of a listing
(`Cursor.check_encode`), and the text of any other cursor is refused (`Cursor.codec_exact`).
-/

namespace Transit

namespace Text

theorem Base64.trimChars_encode (bytes : List UInt8) :
    trimChars (encode bytes) = encode bytes :=
  (trimmed_of_forall fun _ member => not_blank_of_mem_encode member).trimChars_eq

end Text

namespace Number

theorem ascii_of_isDigit {c : Char} (digit : isDigit c = true) : c.toNat < 128 :=
  Nat.lt_of_le_of_lt (toNat_le_of_isDigit digit) (by decide)

/-- A decimal integer is written in digits, with a sign at most. -/
theorem Decimal.isDigit_or_of_mem {cs : List Char} {n : Int} (decimal : Decimal cs n) {c : Char}
    (member : c ∈ cs) : isDigit c = true ∨ c = '+' ∨ c = '-' := by
  cases decimal with
  | bare filled digits => exact .inl (digits c member)
  | plus filled digits =>
    rcases List.mem_cons.mp member with rfl | digit
    · exact .inr (.inl rfl)
    · exact .inl (digits c digit)
  | minus filled digits =>
    rcases List.mem_cons.mp member with rfl | digit
    · exact .inr (.inr rfl)
    · exact .inl (digits c digit)

theorem Decimal.ascii {cs : List Char} {n : Int} (decimal : Decimal cs n) :
    ∀ c ∈ cs, c.toNat < 128 := by
  intro c member
  rcases decimal.isDigit_or_of_mem member with digit | rfl | rfl
  · exact ascii_of_isDigit digit
  · decide
  · decide

theorem Decimal.noComma {cs : List Char} {n : Int} (decimal : Decimal cs n) : ',' ∉ cs := by
  intro member
  rcases decimal.isDigit_or_of_mem member with digit | plus | minus
  · contradiction
  · contradiction
  · contradiction

end Number

namespace Cursor

/-- The values are those of a cursor that a listing hands out. -/
structure Valid (c : Cursor) : Prop where
  feedVersion : 0 ≤ c.feedVersionId ∧ c.feedVersionId ≤ maxValue
  row : 0 ≤ c.id ∧ c.id ≤ maxValue

/-- Two decimal integers with a comma between them. -/
def Writes (text : String) (c : Cursor) : Prop :=
  ∃ version row, Number.Decimal version c.feedVersionId ∧ Number.Decimal row c.id ∧
    text.toList = version ++ ',' :: row

theorem splitPair_append {a b : List Char} (noComma : ',' ∉ a) :
    splitPair? (a ++ ',' :: b) = some (a, b) := by
  rw [splitPair?, Text.dropWhile_separated noComma, Text.takeWhile_separated noComma]

theorem append_of_splitPair {cs a b : List Char} (split : splitPair? cs = some (a, b)) :
    cs = a ++ ',' :: b := by
  unfold splitPair? at split
  cases tail : cs.dropWhile (· != ',') with
  | nil =>
    rw [tail] at split
    cases split
  | cons c rest =>
    rw [tail] at split
    cases split
    exact (Text.separated_of_dropWhile tail).1

theorem writes_toString (c : Cursor) :
    Writes (toString c.feedVersionId ++ "," ++ toString c.id) c := by
  refine ⟨_, _, Number.decimal_toString _, Number.decimal_toString _, ?_⟩
  rw [String.toList_append, String.toList_append, List.append_assoc]
  rfl

/-- What is wrong with values that no listing hands out. -/
def fault (c : Cursor) : CursorError :=
  if c.feedVersionId < 0 ∨ c.id < 0 then .negative else .outOfRange

/-- A text that writes a cursor of 64 bits reads as the cursor, if its values are in bounds. -/
theorem decode_written {s text : String} {c : Cursor} (writes : Writes text c)
    (version : Number.Range.int64.holds c.feedVersionId = true)
    (row : Number.Range.int64.holds c.id = true)
    (written : Text.trimChars s.toList = Text.Base64.encode (Text.Utf8.encode text)) :
    (c.Valid → decode s = .ok c) ∧ (¬ c.Valid → decode s = .error c.fault) := by
  obtain ⟨first, second, versionText, rowText, split⟩ := writes
  have ascii : ∀ d ∈ text.toList, d.toNat < 128 := by
    rw [split]
    intro d member
    rcases List.mem_append.mp member with inFirst | inRest
    · exact versionText.ascii d inFirst
    · rcases List.mem_cons.mp inRest with rfl | inSecond
      · decide
      · exact rowText.ascii d inSecond
  have chars : Text.Utf8.decodeChars? (Text.Utf8.encode text) = some (first ++ ',' :: second) := by
    rw [Text.Utf8.encode, Text.Utf8.decodeChars_ascii ascii, split]
  have readVersion := (Number.intOfChars_eq_some_iff rfl).mpr ⟨versionText, version⟩
  have readRow := (Number.intOfChars_eq_some_iff rfl).mpr ⟨rowText, row⟩
  simp only [decode, written, Text.Base64.decode_encode, chars, splitPair_append versionText.noComma,
    readVersion, readRow, Bool.or_eq_true, decide_eq_true_eq]
  constructor
  · intro valid
    obtain ⟨⟨versionLow, versionHigh⟩, rowLow, rowHigh⟩ := valid
    rw [if_neg (by omega), if_neg (by omega)]
  · intro invalid
    unfold fault
    split
    · rfl
    · next positive =>
      refine if_pos (Classical.byContradiction fun fits => invalid ?_)
      exact ⟨⟨by omega, by omega⟩, by omega, by omega⟩

/-- A cursor is read from a text exactly if its values are in bounds and the text, white space around
it apart, is the base64 form of two decimal integers that are these values. -/
theorem decode_eq_ok_iff {s : String} {c : Cursor} :
    decode s = .ok c ↔ c.Valid ∧ ∃ text, Writes text c ∧
      Text.trimChars s.toList = Text.Base64.encode (Text.Utf8.encode text) := by
  constructor
  · intro read
    unfold decode at read
    split at read
    case h_2 => cases read
    next bytes fromBase64 =>
    split at read
    case h_2 => cases read
    next chars fromUtf8 =>
    split at read
    case h_2 => cases read
    next first second pair =>
    split at read
    case h_2 => cases read
    next version readVersion =>
    split at read
    case h_2 => cases read
    next row readRow =>
    obtain ⟨versionText, _⟩ := (Number.intOfChars_eq_some_iff rfl).mp readVersion
    obtain ⟨rowText, _⟩ := (Number.intOfChars_eq_some_iff rfl).mp readRow
    simp only [Bool.or_eq_true, decide_eq_true_eq] at read
    split at read
    case isTrue => cases read
    next positive =>
    split at read
    case isTrue => cases read
    next fits =>
    cases read
    have bounds : (0 ≤ version ∧ version ≤ maxValue) ∧ 0 ≤ row ∧ row ≤ maxValue := by omega
    refine ⟨⟨bounds.1, bounds.2⟩, String.ofList chars, ?_, ?_⟩
    · refine ⟨first, second, versionText, rowText, ?_⟩
      rw [String.toList_ofList, append_of_splitPair pair]
    · rw [Text.Utf8.encode, String.toList_ofList, Text.Utf8.encode_of_decode fromUtf8,
        Text.Base64.encode_of_decode fromBase64]
  · rintro ⟨valid, text, writes, written⟩
    have inside (n : Int) (low : 0 ≤ n) (high : n ≤ maxValue) :
        Number.Range.int64.holds n = true := by
      rw [Number.Range.holds_iff]
      simp only [maxValue, Number.Range.int64] at *
      omega
    have version := inside _ valid.feedVersion.1 valid.feedVersion.2
    have row := inside _ valid.row.1 valid.row.2
    exact (decode_written writes version row written).1 valid

theorem decode_encode {c : Cursor} (valid : c.Valid) : decode c.encode = .ok c := by
  refine decode_eq_ok_iff.mpr ⟨valid, _, c.writes_toString, ?_⟩
  rw [encode, String.toList_ofList, Text.Base64.trimChars_encode]

theorem check_encode {c : Cursor} (valid : c.Valid) :
    Request.checkCursor (some c.encode) = .ok (some c) := by
  have trimmed : Text.trim c.encode = c.encode := by
    rw [Text.trim, encode, String.toList_ofList, Text.Base64.trimChars_encode]
  have read := decode_encode valid
  have filled : (c.encode != "") = true := by
    rw [bne_iff_ne]
    intro empty
    rw [empty] at read
    contradiction
  have given : (some c.encode).filter (· != "") = some c.encode := Option.filter_some_pos filled
  rw [Request.checkCursor, Option.map_some, trimmed, given]
  simp only [Request.readCursor, read]
  rfl

/-- A cursor of 64 bits is read back from its text if its values are in bounds, and refused if not.
Any text that is read has values in bounds and is, white space around it apart, the base64 form of
two decimal integers with a comma between them. -/
theorem codec_exact {c : Cursor} (version : Number.Range.int64.holds c.feedVersionId = true)
    (row : Number.Range.int64.holds c.id = true) (s : String) (d : Cursor) :
    ((c.Valid → decode c.encode = .ok c) ∧ (¬ c.Valid → decode c.encode = .error c.fault)) ∧
    (decode s = .ok d ↔ d.Valid ∧ ∃ text, Writes text d ∧
      Text.trim s = String.ofList (Text.Base64.encode (Text.Utf8.encode text))) := by
  constructor
  · refine decode_written c.writes_toString version row ?_
    rw [encode, String.toList_ofList, Text.Base64.trimChars_encode]
  · rw [decode_eq_ok_iff]
    simp only [Text.trim, String.ofList_inj]

/-- Leading zeros and a plus sign are read, but not written; two to the 53rd is still in bounds, and a
negative value is not. -/
theorem codec_exact_of_padded :
    (∀ n ∈ [3, 9007199254740992, -1], Number.Range.int64.holds n = true) ∧
    decode (encode ⟨3, 9007199254740992⟩) = .ok ⟨3, 9007199254740992⟩ ∧
    decode (encode ⟨3, -1⟩) = .error .negative ∧
    encode ⟨1, 2⟩ = "MSwy" ∧ decode " KzEsMDI= " = .ok ⟨1, 2⟩ := by
  obtain ⟨⟨back, _⟩, iff⟩ := codec_exact (c := ⟨3, 9007199254740992⟩) (by decide) (by decide)
    " KzEsMDI= " ⟨1, 2⟩
  obtain ⟨⟨_, refused⟩, _⟩ := codec_exact (c := ⟨3, -1⟩) (by decide) (by decide) "" ⟨0, 0⟩
  refine ⟨by decide, back ⟨by decide, by decide⟩, refused ?_, rfl, iff.mpr ?_⟩
  · intro valid
    exact absurd valid.row.1 (by decide)
  · have one : Number.AllDigits ['1'] := List.forall_mem_singleton.mpr rfl
    have two : Number.AllDigits ['0', '2'] :=
      List.forall_mem_cons.mpr ⟨rfl, List.forall_mem_singleton.mpr rfl⟩
    have version : Number.Decimal ['+', '1'] 1 := .plus (by decide) one
    have row : Number.Decimal ['0', '2'] 2 := .bare (by decide) two
    exact ⟨⟨by decide, by decide⟩, "+1,02", ⟨_, _, version, row, rfl⟩, by decide⟩

end Cursor

end Transit
