import Mathlib.Data.List.TakeWhile
import Transit.Proofs.Realtime.Merge
set_option autoImplicit false

/-!
# The first rows in order

Rows are ordered by a stable sort, so a row does not move those that stand before it in the order
(`sorted_middle`). If a list is cut off that was in order itself, its first rows are still where they
were (`take_sorted_flatMap`).
-/

namespace Transit.StopTime

variable {z : Zone}

theorem split_of_noLater {p : StopTime} {after : List StopTime}
    (later : ∀ x ∈ after, noLater z p x = true) :
    after.takeWhile (!noLater z p ·) = [] ∧ after.dropWhile (!noLater z p ·) = after := by
  cases after with
  | nil => exact ⟨rfl, rfl⟩
  | cons x xs => simp [later x List.mem_cons_self]

/-- A search that stops within the first of two lists does not come to the second. -/
theorem split_of_stops {q : StopTime → Bool} {before : List StopTime}
    (stops : ¬ ∀ x ∈ before, q x = true) (rest : List StopTime) :
    (before ++ rest).takeWhile q = before.takeWhile q ∧
      (before ++ rest).dropWhile q = before.dropWhile q ++ rest := by
  constructor
  · rw [List.takeWhile_append, if_neg]
    intro full
    have all := (List.takeWhile_prefix q).eq_of_length full
    exact stops (List.takeWhile_eq_self_iff.mp all)
  · rw [List.dropWhile_append, if_neg]
    intro empty
    rw [List.isEmpty_iff, List.dropWhile_eq_nil_iff] at empty
    exact stops empty

/-- A row goes before the first row that does not leave earlier. -/
theorem sorted_cons (z : Zone) (r : StopTime) (rows : List StopTime) :
    sorted z (r :: rows) = (sorted z rows).takeWhile (!noLater z r ·) ++
      r :: (sorted z rows).dropWhile (!noLater z r ·) := by
  obtain ⟨before, after, whole, rest, earlier⟩ :=
    List.mergeSort_cons (noLater_trans z) (noLater_total z) r rows
  have ordered := List.pairwise_mergeSort (noLater_trans z) (noLater_total z) (r :: rows)
  rw [whole] at ordered
  have later : ∀ x ∈ after, noLater z r x = true :=
    fun x inside => List.rel_of_pairwise_cons (List.pairwise_append.mp ordered).2.1 inside
  obtain ⟨none, all⟩ := split_of_noLater later
  rw [sorted_eq, sorted_eq, whole, rest, List.takeWhile_append_of_pos earlier,
    List.dropWhile_append_of_pos earlier, none, all, List.append_nil]

/-- A row stands somewhere in the order of the others, behind all that were before it and do not
leave later. -/
theorem sorted_middle (z : Zone) (front : List StopTime) (r : StopTime) (back : List StopTime) :
    ∃ before after, sorted z (front ++ r :: back) = before ++ r :: after ∧
      sorted z (front ++ back) = before ++ after ∧
      front.countP (noLater z · r) ≤ before.length := by
  -- Sorting puts the rows in from the back, so those in front come after the row has its place.
  induction front with
  | nil =>
    refine ⟨_, _, sorted_cons z r back, ?_, Nat.zero_le _⟩
    rw [List.nil_append, List.takeWhile_append_dropWhile]
  | cons p front ih =>
    obtain ⟨before, after, whole, rest, counted⟩ := ih
    have ordered := sorted_ordered z (front ++ r :: back)
    rw [whole] at ordered
    have later : ∀ x ∈ after, r.sortKey z ≤ x.sortKey z :=
      fun x inside => List.rel_of_pairwise_cons (List.pairwise_append.mp ordered).2.1 inside
    rw [List.cons_append, List.cons_append, sorted_cons, sorted_cons, whole, rest]
    by_cases earlier : ∀ x ∈ before, (!noLater z p x) = true
    · rw [List.takeWhile_append_of_pos earlier, List.dropWhile_append_of_pos earlier,
        List.takeWhile_append_of_pos earlier, List.dropWhile_append_of_pos earlier]
      cases first : noLater z p r with
      | false =>
        -- `p` leaves after the row, so nothing before the row changes.
        refine ⟨before, after.takeWhile (!noLater z p ·) ++ p :: after.dropWhile (!noLater z p ·),
          ?_, ?_, ?_⟩
        · simp [first]
        · simp
        · simpa [List.countP_cons, first] using counted
      | true =>
        -- `p` goes right before the row, also where the row is missing.
        obtain ⟨none, all⟩ := split_of_noLater (p := p) fun x inside => (noLater_iff z p x).mpr
          (Int.le_trans ((noLater_iff z p r).mp first) (later x inside))
        refine ⟨before ++ [p], after, ?_, ?_, ?_⟩
        · simp [first]
        · simp [none, all]
        · simpa [List.countP_cons, first] using counted
    · -- `p` goes somewhere before the row.
      have same := split_of_stops earlier
      refine ⟨before.takeWhile (!noLater z p ·) ++ p :: before.dropWhile (!noLater z p ·), after,
        ?_, ?_, ?_⟩
      · rw [(same _).1, (same _).2, List.append_assoc, List.cons_append]
      · rw [(same _).1, (same _).2, List.append_assoc, List.cons_append]
      · have length := congrArg List.length
          (List.takeWhile_append_dropWhile (p := (!noLater z p ·)) (l := before))
        rw [List.length_append] at length
        rw [List.countP_cons, List.length_append, List.length_cons]
        split <;> omega

/-- Rows may be left out that have enough others before them. -/
theorem take_sorted_append (z : Zone) (n : Nat) (front dropped back : List StopTime)
    (behind : ∀ r ∈ dropped, n ≤ front.countP (noLater z · r)) :
    (sorted z (front ++ (dropped ++ back))).take n = (sorted z (front ++ back)).take n := by
  induction dropped with
  | nil => rfl
  | cons r rest ih =>
    obtain ⟨before, after, whole, without, counted⟩ := sorted_middle z front r (rest ++ back)
    have far : n ≤ before.length := Nat.le_trans (behind r List.mem_cons_self) counted
    rw [← ih fun x inside => behind x (List.mem_cons_of_mem r inside), List.cons_append, whole,
      without, List.take_append_of_le_length far, List.take_append_of_le_length far]

/-- Each of several lists that are in order may be cut off behind its first `n` rows. -/
theorem take_sorted_flatMap {α : Type} (z : Zone) (n : Nat) (parts : List α)
    (rows : α → List StopTime)
    (ordered : ∀ part ∈ parts, (rows part).Pairwise fun a b => a.sortKey z ≤ b.sortKey z)
    (front back : List StopTime) :
    (sorted z (front ++ (parts.flatMap (fun part => (rows part).take n) ++ back))).take n =
      (sorted z (front ++ (parts.flatMap rows ++ back))).take n := by
  induction parts generalizing front with
  | nil => rfl
  | cons part rest ih =>
    have others := ih (fun other inside => ordered other (List.mem_cons_of_mem part inside))
      (front ++ (rows part).take n)
    have behind : ∀ r ∈ (rows part).drop n,
        n ≤ (front ++ (rows part).take n).countP (noLater z · r) := by
      intro r dropped
      have inOrder := ordered part List.mem_cons_self
      rw [← List.take_append_drop n (rows part), List.pairwise_append] at inOrder
      have first : ((rows part).take n).countP (noLater z · r) = ((rows part).take n).length :=
        List.countP_eq_length.mpr fun x taken => (noLater_iff z x r).mpr
          (inOrder.2.2 x taken r dropped)
      have full : n ≤ ((rows part).take n).length := by
        rw [List.length_take]
        have := List.length_pos_of_mem dropped
        rw [List.length_drop] at this
        omega
      rw [List.countP_append, first]
      omega
    calc
      _ = (sorted z (front ++ (rows part).take n ++
            (rest.flatMap (fun part => (rows part).take n) ++ back))).take n := by
        rw [List.flatMap_cons, List.append_assoc, List.append_assoc]
      _ = (sorted z (front ++ (rows part).take n ++ (rest.flatMap rows ++ back))).take n := others
      _ = (sorted z (front ++ (rows part).take n ++
            ((rows part).drop n ++ (rest.flatMap rows ++ back)))).take n :=
        (take_sorted_append z n _ _ _ behind).symm
      _ = _ := by
        rw [List.append_assoc front, ← List.append_assoc ((rows part).take n),
          List.take_append_drop, List.flatMap_cons, List.append_assoc]

end Transit.StopTime
