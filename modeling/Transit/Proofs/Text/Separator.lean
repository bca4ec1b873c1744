import Mathlib.Data.List.TakeWhile
import Transit.Text.Search
set_option autoImplicit false

/-!
# Texts with separators

A text is put together again from its parts, and parts without the separator are told apart
(`splitChars_three`, `eq_of_splitChars_three`). Only the first separator of a text may count as one
(`takeWhile_separated`, `separated_of_dropWhile`).
-/

namespace Transit.Text

theorem splitChars_eq_splitOn (sep : Char) (cs : List Char) :
    splitChars sep cs = cs.splitOn sep := by
  induction cs with
  | nil => rfl
  | cons c rest ih =>
    rw [splitChars, ih, List.splitOn_eq_splitOnP, List.splitOn_eq_splitOnP,
      List.splitOnP_cons_eq_if_modifyHead]
    split
    · rfl
    · cases parts : List.splitOnP (· == sep) rest with
      | nil => exact absurd parts (List.splitOnP_ne_nil _ rest)
      | cons part others => rfl

theorem intercalate_three (sep : Char) (a b c : List Char) :
    [sep].intercalate [a, b, c] = a ++ sep :: (b ++ sep :: c) := by
  rw [List.intercalate_cons_cons, List.intercalate_cons_cons, List.intercalate_singleton,
    List.append_assoc, List.append_assoc]
  rfl

variable {sep : Char} {cs a b c : List Char}

theorem splitChars_three (parts : ∀ part ∈ [a, b, c], sep ∉ part) :
    splitChars sep (a ++ sep :: (b ++ sep :: c)) = [a, b, c] := by
  rw [splitChars_eq_splitOn, ← intercalate_three]
  exact List.splitOn_intercalate sep parts (List.cons_ne_nil _ _)

theorem eq_of_splitChars_three (split : splitChars sep cs = [a, b, c]) :
    cs = a ++ sep :: (b ++ sep :: c) := by
  rw [← intercalate_three, ← split, splitChars_eq_splitOn, List.intercalate_splitOn]

theorem not_mem_of_mem_splitChars (member : a ∈ splitChars sep cs) : sep ∉ a := by
  induction cs generalizing a with
  | nil =>
    obtain rfl : a = [] := by simpa [splitChars] using member
    simp
  | cons c rest ih =>
    rw [splitChars] at member
    by_cases isSep : (c == sep) = true
    · rw [if_pos isSep] at member
      rcases List.mem_cons.mp member with rfl | later
      · simp
      · exact ih later
    · rw [if_neg isSep] at member
      have differs : sep ≠ c := fun same => isSep (beq_iff_eq.mpr same.symm)
      cases parts : splitChars sep rest with
      | nil =>
        rw [parts] at member
        obtain rfl := List.mem_singleton.mp member
        simpa using differs
      | cons part others =>
        rw [parts] at member ih
        rcases List.mem_cons.mp member with rfl | later
        · simp [differs, ih List.mem_cons_self]
        · exact ih (List.mem_cons_of_mem _ later)

theorem splitChars_of_without (without : sep ∉ a) : splitChars sep a = [a] := by
  have alone : ∀ part ∈ [a], sep ∉ part := by simpa using without
  have split := List.splitOn_intercalate sep alone (List.cons_ne_nil _ _)
  rwa [List.intercalate_singleton, ← splitChars_eq_splitOn] at split

theorem splitChars_append (sep : Char) (cs ds : List Char) :
    splitChars sep (cs ++ sep :: ds) = splitChars sep cs ++ splitChars sep ds := by
  simp only [splitChars_eq_splitOn, List.splitOn_eq_splitOnP]
  exact List.splitOnP_append_cons cs ds (beq_self_eq_true sep)

/-- The parts of a list in one text are those of its members. -/
theorem splitChars_intercalate (sep : Char) {parts : List (List Char)} (some : parts ≠ []) :
    splitChars sep ([sep].intercalate parts) = parts.flatMap (splitChars sep) := by
  induction parts with
  | nil => contradiction
  | cons part rest ih =>
    by_cases last : rest = []
    · subst last
      simp
    · rw [List.intercalate_cons_of_ne_nil last, List.append_assoc, List.singleton_append,
        splitChars_append, ih last, List.flatMap_cons]

theorem ne_of_without (without : sep ∉ a) : ∀ c ∈ a, (c != sep) = true := by
  intro c member
  rw [bne_iff_ne]
  rintro rfl
  exact without member

theorem takeWhile_separated (without : sep ∉ a) : (a ++ sep :: b).takeWhile (· != sep) = a := by
  rw [List.takeWhile_append_of_pos (ne_of_without without), List.takeWhile_cons_of_neg (by simp),
    List.append_nil]

theorem dropWhile_separated (without : sep ∉ a) :
    (a ++ sep :: b).dropWhile (· != sep) = sep :: b := by
  rw [List.dropWhile_append_of_pos (ne_of_without without), List.dropWhile_cons_of_neg (by simp)]

/-- The first separator stands between what comes before it and what comes after it. -/
theorem separated_of_dropWhile {s : Char} (stops : cs.dropWhile (· != sep) = s :: b) :
    cs = cs.takeWhile (· != sep) ++ sep :: b ∧ sep ∉ cs.takeWhile (· != sep) := by
  have isSep : s = sep := by
    have first := List.head_dropWhile_not (· != sep) (l := cs) (by simp [stops])
    simpa only [stops, List.head_cons, bne_eq_false_iff_eq] using first
  constructor
  · calc
      cs = cs.takeWhile (· != sep) ++ cs.dropWhile (· != sep) :=
        List.takeWhile_append_dropWhile.symm
      _ = cs.takeWhile (· != sep) ++ sep :: b := by rw [stops, isSep]
  · intro member
    have differs := List.mem_takeWhile_imp member
    simp at differs

end Transit.Text
