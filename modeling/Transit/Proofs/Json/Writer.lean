import Mathlib.Tactic.IntervalCases
import Transit.Json.Parser
import Transit.Json.Writer
import Transit.Proofs.Number.FloatText
set_option autoImplicit false

/-!
# Different values have different texts

A string is read back from its text (`stringBody_quoted`). A value whose floating point numbers are
all finite is fixed by its text, and so is where the text ends (`chars_unique`); hence `text` is
injective on such values (`text_injective`).
-/

namespace Transit.Json

section Strings

theorem stringBody_control {c : Char} (control : c.toNat < 0x20) (fuel : Nat) (seen rest : List Char) :
    stringBody? (fuel + 1) seen
      ('\\' :: 'u' :: '0' :: '0' :: hexDigit (c.toNat / 16) :: hexDigit c.toNat :: rest) =
        stringBody? fuel (c :: seen) rest := by
  obtain ⟨n, small, rfl⟩ : ∃ n, n < 0x20 ∧ c = Char.ofNat n := ⟨c.toNat, control, by simp⟩
  clear control
  interval_cases n <;> rfl

theorem stringBody_visible {c : Char} (notQuote : c ≠ '"') (notSlash : c ≠ '\\')
    (visible : ¬ c.toNat < 0x20) (fuel : Nat) (seen rest : List Char) :
    stringBody? (fuel + 1) seen (c :: rest) = stringBody? fuel (c :: seen) rest := by
  rw [stringBody?]
  · exact if_neg visible
  · rintro rfl
    exact notQuote rfl
  · rintro d ds isSlash -
    exact notSlash isSlash

theorem stringBody_escape (fuel : Nat) (seen : List Char) (c : Char) (rest : List Char) :
    stringBody? (fuel + 1) seen (escape c ++ rest) = stringBody? fuel (c :: seen) rest := by
  unfold escape
  split
  case h_8 notQuote notSlash _ _ _ _ _ =>
    split
    · next control => exact stringBody_control control fuel seen rest
    · next visible => exact stringBody_visible notQuote notSlash visible fuel seen rest
  all_goals rfl

/-- A string is read back, and the reader stops behind its closing quote. -/
theorem stringBody_quoted (cs seen rest : List Char) (fuel : Nat) (enough : cs.length < fuel) :
    stringBody? fuel seen (cs.flatMap escape ++ '"' :: rest) =
      some (String.ofList (seen.reverse ++ cs), rest) := by
  induction cs generalizing seen fuel with
  | nil =>
    obtain ⟨n, rfl⟩ : ∃ n, fuel = n + 1 := ⟨fuel - 1, by simp at enough; omega⟩
    simp [stringBody?]
  | cons c cs ih =>
    rw [List.length_cons] at enough
    obtain ⟨n, rfl⟩ : ∃ n, fuel = n + 1 := ⟨fuel - 1, by omega⟩
    rw [List.flatMap_cons, List.append_assoc, stringBody_escape, ih _ _ (by omega)]
    simp

/-- A quoted string is fixed by its text, and so is what follows it. -/
theorem quoted_unique {s t : String} {rest rest' : List Char}
    (same : quoted s ++ rest = quoted t ++ rest') : s = t ∧ rest = rest' := by
  have bodies : s.toList.flatMap escape ++ '"' :: rest = t.toList.flatMap escape ++ '"' :: rest' := by
    simpa [quoted] using same
  have readS := stringBody_quoted s.toList [] rest (s.toList.length + t.toList.length + 1) (by omega)
  have readT := stringBody_quoted t.toList [] rest' (s.toList.length + t.toList.length + 1) (by omega)
  rw [bodies, readT] at readS
  have equal := Prod.mk.inj (Option.some.inj readS)
  simp only [List.reverse_nil, List.nil_append, String.ofList_toList] at equal
  exact ⟨equal.1.symm, equal.2.symm⟩

end Strings

section Numbers

def isNumeral (c : Char) : Bool :=
  Number.isDigit c || c == '-' || c == '.' || c == 'e'

/-- What can follow a value inside a text does not go on with a number. -/
def Ends (rest : List Char) : Prop :=
  ∀ c ds, rest = c :: ds → isNumeral c = false

theorem ends_nil : Ends [] := by
  rintro c ds starts
  cases starts

theorem ends_cons {c : Char} (other : isNumeral c = false) (ds : List Char) : Ends (c :: ds) := by
  rintro _ _ ⟨rfl, rfl⟩
  exact other

theorem numeral_unique {cs ds rest rest' : List Char} (numeralC : ∀ c ∈ cs, isNumeral c = true)
    (numeralD : ∀ c ∈ ds, isNumeral c = true) (ends : Ends rest) (ends' : Ends rest')
    (same : cs ++ rest = ds ++ rest') : cs = ds ∧ rest = rest' := by
  have token (xs : List Char) (numeral : ∀ c ∈ xs, isNumeral c = true) {after : List Char}
      (stops : Ends after) : (xs ++ after).takeWhile isNumeral = xs := by
    rw [List.takeWhile_append_of_pos numeral]
    cases after with
    | nil => simp
    | cons c cs => simp [stops c cs rfl]
  have tokens : cs = ds := by
    rw [← token cs numeralC ends, same, token ds numeralD ends']
  subst tokens
  exact ⟨rfl, List.append_cancel_left same⟩

theorem isNumeral_of_isDigit {c : Char} (digit : Number.isDigit c = true) : isNumeral c = true := by
  simp [isNumeral, digit]

theorem isNumeral_of_mem_toString {n : Int} {c : Char} (member : c ∈ (toString n).toList) :
    isNumeral c = true := by
  rcases Number.isDigit_or_of_mem_toString member with digit | rfl
  · exact isNumeral_of_isDigit digit
  · rfl

theorem isNumeral_of_mem_shortestText {b : Number.Binary} {c : Char}
    (member : c ∈ Number.shortestText .double b) : isNumeral c = true := by
  rcases Number.shortestText_chars member with digit | rfl | rfl | rfl
  · exact isNumeral_of_isDigit digit
  all_goals rfl

/-- A whole number is not written like a floating point number. -/
theorem toString_ne_shortestText (n : Int) (b : Number.Binary) :
    (toString n).toList ≠ Number.shortestText .double b := by
  intro same
  have plain : ∀ c ∈ Number.shortestText .double b, c ≠ '.' ∧ c ≠ 'e' := by
    intro c member
    rw [← same] at member
    rcases Number.isDigit_or_of_mem_toString member with digit | rfl
    · obtain ⟨noPoint, noE, -⟩ := Number.ne_of_isDigit digit
      exact ⟨noPoint, noE⟩
    · decide
  rcases Number.shortestText_marked .double b with point | power
  · exact (plain _ point).1 rfl
  · exact (plain _ power).2 rfl

end Numbers

section Values

mutual

/-- Every floating point number in a value is finite. -/
def IsFinite : Json → Prop
  | .float x => ∃ b, Number.decode x = .finite b
  | .arr items => ItemsFinite items
  | .obj members => MembersFinite members
  | _ => True

def ItemsFinite : List Json → Prop
  | [] => True
  | j :: rest => IsFinite j ∧ ItemsFinite rest

def MembersFinite : List (String × Json) → Prop
  | [] => True
  | (_, j) :: rest => IsFinite j ∧ MembersFinite rest

end

theorem isFinite_ofOption {α : Type} {write : α → Json} (finite : ∀ a, IsFinite (write a))
    (o : Option α) : IsFinite (ofOption write o) := by
  cases o with
  | none => trivial
  | some a => exact finite a

theorem isFinite_ofTexts (xs : List String) : IsFinite (ofTexts xs) := by
  change ItemsFinite (xs.map .str)
  induction xs with
  | nil => trivial
  | cons x rest ih => exact ⟨trivial, ih⟩

/-- What the first character of a value shows: the word, bracket or quote that it begins, or that
it is a number. -/
def lead : Json → Char
  | .null => 'n'
  | .bool true => 't'
  | .bool false => 'f'
  | .int _ => '0'
  | .float _ => '0'
  | .str _ => '"'
  | .arr _ => '['
  | .obj _ => '\x7b'

def leadOf (c : Char) : Char :=
  if isNumeral c then '0' else c

theorem leadOf_numeral {cs : List Char} (filled : cs ≠ [])
    (numeral : ∀ c ∈ cs, isNumeral c = true) : ∃ c rest, cs = c :: rest ∧ leadOf c = '0' := by
  cases cs with
  | nil => exact absurd rfl filled
  | cons c rest => exact ⟨c, rest, rfl, if_pos (numeral c List.mem_cons_self)⟩

theorem chars_float {x : Float} {b : Number.Binary} (decoded : Number.decode x = .finite b) :
    chars (.float x) = Number.shortestText .double b := by
  rw [chars, floatChars, decoded]

theorem chars_lead {j : Json} (finite : IsFinite j) :
    ∃ c rest, chars j = c :: rest ∧ leadOf c = lead j := by
  match j with
  | .null => exact ⟨_, _, rfl, rfl⟩
  | .bool true => exact ⟨_, _, rfl, rfl⟩
  | .bool false => exact ⟨_, _, rfl, rfl⟩
  | .str s => exact ⟨_, _, rfl, rfl⟩
  | .arr [] => exact ⟨_, _, rfl, rfl⟩
  | .arr (j :: rest) => exact ⟨_, _, by rw [chars]; rfl, rfl⟩
  | .obj [] => exact ⟨_, _, rfl, rfl⟩
  | .obj ((name, j) :: rest) => exact ⟨_, _, by rw [chars]; rfl, rfl⟩
  | .int n =>
    refine leadOf_numeral ?_ fun _ => isNumeral_of_mem_toString
    exact Number.toString_ne_nil n
  | .float x =>
    obtain ⟨b, decoded⟩ := finite
    rw [chars_float decoded]
    refine leadOf_numeral ?_ fun _ => isNumeral_of_mem_shortestText
    intro empty
    rcases Number.shortestText_marked .double b with point | power <;> simp_all

/-- Values whose texts begin alike are of one kind. -/
theorem lead_eq {j k : Json} (finite : IsFinite j) (finite' : IsFinite k) {rest rest' : List Char}
    (same : chars j ++ rest = chars k ++ rest') : lead j = lead k := by
  obtain ⟨c, cs, starts, leads⟩ := chars_lead finite
  obtain ⟨d, ds, starts', leads'⟩ := chars_lead finite'
  rw [starts, starts'] at same
  rw [← leads, ← leads', (List.cons.inj same).1]

theorem closing_ne {j : Json} (finite : IsFinite j) (rest rest' : List Char) :
    ']' :: rest ≠ chars j ++ rest' := by
  obtain ⟨c, cs, starts, leads⟩ := chars_lead finite
  rw [starts]
  intro same
  have notNumber : leadOf ']' = ']' := rfl
  rw [← (List.cons.inj same).1, notNumber] at leads
  cases j with
  | bool b => cases b <;> simp [lead] at leads
  | _ => simp [lead] at leads

theorem moreItems_ends (items : List Json) (rest : List Char) : Ends (moreItems items ++ rest) := by
  cases items with
  | nil => exact ends_cons rfl _
  | cons j more =>
    rw [moreItems]
    exact ends_cons rfl _

theorem moreMembers_ends (members : List (String × Json)) (rest : List Char) :
    Ends (moreMembers members ++ rest) := by
  cases members with
  | nil => exact ends_cons rfl _
  | cons member more =>
    rw [moreMembers]
    exact ends_cons rfl _

mutual

/-- A value is fixed by its text, and so is what follows it. -/
theorem chars_unique (j k : Json) (finite : IsFinite j) (finite' : IsFinite k)
    {rest rest' : List Char} (ends : Ends rest) (ends' : Ends rest')
    (same : chars j ++ rest = chars k ++ rest') : j = k ∧ rest = rest' := by
  -- Only values of one kind remain as cases, and both kinds of numbers.
  have leads := lead_eq finite finite' same
  match j, k with
  | .null, .null => exact ⟨rfl, List.append_cancel_left same⟩
  | .bool true, .bool true => exact ⟨rfl, List.append_cancel_left same⟩
  | .bool false, .bool false => exact ⟨rfl, List.append_cancel_left same⟩
  | .int m, .int n =>
    rw [chars, chars] at same
    obtain ⟨texts, rests⟩ := numeral_unique (fun _ => isNumeral_of_mem_toString)
      (fun _ => isNumeral_of_mem_toString) ends ends' same
    exact ⟨congrArg _ (Number.toString_injective texts), rests⟩
  | .float x, .float y =>
    obtain ⟨b, decodedX⟩ := finite
    obtain ⟨c, decodedY⟩ := finite'
    rw [chars_float decodedX, chars_float decodedY] at same
    obtain ⟨texts, rests⟩ := numeral_unique (fun _ => isNumeral_of_mem_shortestText)
      (fun _ => isNumeral_of_mem_shortestText) ends ends' same
    exact ⟨congrArg _ (Number.shortestText_injective decodedX decodedY texts), rests⟩
  | .int n, .float x =>
    obtain ⟨b, decoded⟩ := finite'
    rw [chars, chars_float decoded] at same
    obtain ⟨texts, -⟩ := numeral_unique (fun _ => isNumeral_of_mem_toString)
      (fun _ => isNumeral_of_mem_shortestText) ends ends' same
    exact absurd texts (toString_ne_shortestText n b)
  | .float x, .int n =>
    obtain ⟨b, decoded⟩ := finite
    rw [chars, chars_float decoded] at same
    obtain ⟨texts, -⟩ := numeral_unique (fun _ => isNumeral_of_mem_shortestText)
      (fun _ => isNumeral_of_mem_toString) ends ends' same
    exact absurd texts.symm (toString_ne_shortestText n b)
  | .str s, .str t =>
    rw [chars, chars] at same
    obtain ⟨texts, rests⟩ := quoted_unique same
    exact ⟨congrArg _ texts, rests⟩
  | .arr [], .arr [] => exact ⟨rfl, List.append_cancel_left same⟩
  | .arr [], .arr (k :: more) =>
    rw [chars, chars] at same
    simp only [List.cons_append, List.append_assoc, List.cons.injEq, true_and] at same
    exact absurd same (closing_ne finite'.1 _ _)
  | .arr (j :: more), .arr [] =>
    rw [chars, chars] at same
    simp only [List.cons_append, List.append_assoc, List.cons.injEq, true_and] at same
    exact absurd same.symm (closing_ne finite.1 _ _)
  | .arr (j :: more), .arr (k :: more') =>
    rw [chars, chars] at same
    simp only [List.cons_append, List.append_assoc, List.cons.injEq, true_and] at same
    obtain ⟨rfl, others⟩ := chars_unique j k finite.1 finite'.1 (moreItems_ends more rest)
      (moreItems_ends more' rest') same
    obtain ⟨rfl, rests⟩ := moreItems_unique more more' finite.2 finite'.2 others
    exact ⟨rfl, rests⟩
  | .obj [], .obj [] => exact ⟨rfl, List.append_cancel_left same⟩
  | .obj [], .obj ((name, k) :: more) =>
    rw [chars, chars] at same
    exact absurd (List.cons.inj (List.cons.inj same).2).1 (by decide)
  | .obj ((name, j) :: more), .obj [] =>
    rw [chars, chars] at same
    exact absurd (List.cons.inj (List.cons.inj same).2).1 (by decide)
  | .obj ((name, j) :: more), .obj ((name', k) :: more') =>
    rw [chars, chars] at same
    simp only [List.cons_append, List.append_assoc, List.cons.injEq, true_and] at same
    obtain ⟨rfl, values⟩ := quoted_unique same
    obtain ⟨rfl, others⟩ := chars_unique j k finite.1 finite'.1 (moreMembers_ends more rest)
      (moreMembers_ends more' rest') (List.cons.inj values).2
    obtain ⟨rfl, rests⟩ := moreMembers_unique more more' finite.2 finite'.2 others
    exact ⟨rfl, rests⟩

theorem moreItems_unique (items items' : List Json) (finite : ItemsFinite items)
    (finite' : ItemsFinite items') {rest rest' : List Char}
    (same : moreItems items ++ rest = moreItems items' ++ rest') :
    items = items' ∧ rest = rest' := by
  match items, items' with
  | [], [] => exact ⟨rfl, List.append_cancel_left same⟩
  | [], k :: more =>
    rw [moreItems, moreItems] at same
    exact absurd (List.cons.inj same).1 (by decide)
  | j :: more, [] =>
    rw [moreItems, moreItems] at same
    exact absurd (List.cons.inj same).1 (by decide)
  | j :: more, k :: more' =>
    rw [moreItems, moreItems] at same
    simp only [List.cons_append, List.append_assoc, List.cons.injEq, true_and] at same
    obtain ⟨rfl, others⟩ := chars_unique j k finite.1 finite'.1 (moreItems_ends more rest)
      (moreItems_ends more' rest') same
    obtain ⟨rfl, rests⟩ := moreItems_unique more more' finite.2 finite'.2 others
    exact ⟨rfl, rests⟩

theorem moreMembers_unique (members members' : List (String × Json))
    (finite : MembersFinite members) (finite' : MembersFinite members') {rest rest' : List Char}
    (same : moreMembers members ++ rest = moreMembers members' ++ rest') :
    members = members' ∧ rest = rest' := by
  match members, members' with
  | [], [] => exact ⟨rfl, List.append_cancel_left same⟩
  | [], (name, k) :: more =>
    rw [moreMembers, moreMembers] at same
    exact absurd (List.cons.inj same).1 (by decide)
  | (name, j) :: more, [] =>
    rw [moreMembers, moreMembers] at same
    exact absurd (List.cons.inj same).1 (by decide)
  | (name, j) :: more, (name', k) :: more' =>
    rw [moreMembers, moreMembers] at same
    simp only [List.cons_append, List.append_assoc, List.cons.injEq, true_and] at same
    obtain ⟨rfl, values⟩ := quoted_unique same
    obtain ⟨rfl, others⟩ := chars_unique j k finite.1 finite'.1 (moreMembers_ends more rest)
      (moreMembers_ends more' rest') (List.cons.inj values).2
    obtain ⟨rfl, rests⟩ := moreMembers_unique more more' finite.2 finite'.2 others
    exact ⟨rfl, rests⟩

end

theorem text_injective {j k : Json} (finite : IsFinite j) (finite' : IsFinite k)
    (same : j.text = k.text) : j = k := by
  refine (chars_unique j k finite finite' ends_nil ends_nil ?_).1
  rw [text, text, String.ofList_inj] at same
  rw [same]

theorem text_ne_empty {j : Json} (finite : IsFinite j) : j.text ≠ "" := by
  obtain ⟨c, rest, starts, -⟩ := chars_lead finite
  rw [text, starts]
  exact fun same => absurd (congrArg String.toList same) (by simp)

theorem text_obj_ne_empty (members : List (String × Json)) : (Json.obj members).text ≠ "" := by
  intro same
  have none : (Json.obj members).chars = [] := by simpa [text] using same
  cases members <;> simp [chars] at none

end Values

end Transit.Json
