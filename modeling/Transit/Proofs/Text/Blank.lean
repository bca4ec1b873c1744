import Mathlib.Data.List.DropRight
import Transit.Text.Blank
set_option autoImplicit false

/-!
# Trimmed texts

A trimmed text neither begins nor ends with white space (`Trimmed`), so trimming it once more leaves
it alone (`trim_trim`), and its characters are among those of the text (`mem_of_mem_trimChars`).
-/

namespace Transit.Text

variable {cs ds : List Char} {c : Char}

/-- The characters neither begin nor end with white space. -/
structure Trimmed (cs : List Char) : Prop where
  front : dropBlank cs = cs
  back : dropBlank cs.reverse = cs.reverse

theorem Trimmed.trimChars_eq (trimmed : Trimmed cs) : trimChars cs = cs := by
  rw [trimChars, trimmed.front, trimmed.back, List.reverse_reverse]

theorem dropBlank_of_forall (solid : ∀ c ∈ cs, isBlank c = false) : dropBlank cs = cs := by
  cases cs with
  | nil => rfl
  | cons c rest =>
    have first := solid c List.mem_cons_self
    rw [dropBlank, List.dropWhile_cons_of_neg (by simp [first])]

theorem trimmed_of_forall (solid : ∀ c ∈ cs, isBlank c = false) : Trimmed cs := by
  refine ⟨dropBlank_of_forall solid, dropBlank_of_forall ?_⟩
  intro c member
  exact solid c (List.mem_reverse.mp member)

/-- What text begins without white space still does so when its end is cut off. -/
theorem dropBlank_of_append (front : dropBlank (cs ++ ds) = cs ++ ds) : dropBlank cs = cs := by
  cases cs with
  | nil => rfl
  | cons c rest =>
    have solid := List.dropWhile_eq_self_iff.mp front (by simp)
    exact List.dropWhile_eq_self_iff.mpr fun _ => by simpa using solid

theorem trimmed_trimChars (cs : List Char) : Trimmed (trimChars cs) := by
  obtain ⟨cut, split⟩ := List.dropWhile_suffix isBlank (l := (dropBlank cs).reverse)
  have whole : dropBlank cs = trimChars cs ++ cut.reverse := by
    rw [← List.reverse_reverse (dropBlank cs), ← split, List.reverse_append]
    rfl
  have front : dropBlank (trimChars cs ++ cut.reverse) = trimChars cs ++ cut.reverse := by
    rw [← whole]
    exact List.dropWhile_idempotent isBlank cs
  refine ⟨dropBlank_of_append front, ?_⟩
  rw [trimChars, List.reverse_reverse]
  exact List.dropWhile_idempotent isBlank _

theorem mem_of_mem_trimChars (member : c ∈ trimChars cs) : c ∈ cs := by
  have inRest := List.mem_reverse.mp member
  have inReverse := List.dropWhile_subset isBlank inRest
  exact List.dropWhile_subset isBlank (List.mem_reverse.mp inReverse)

theorem trim_trim (s : String) : trim (trim s) = trim s := by
  rw [trim, trim, String.toList_ofList, (trimmed_trimChars s.toList).trimChars_eq]

end Transit.Text
