import Mathlib.Data.List.Basic
import Transit.Warehouse.Listing
set_option autoImplicit false

/-!
# Rows that a listing selects

A selection holds rows that are asked for, in the order of their keys, and as many of them as the
limit allows: a row that is asked for and left out comes after all of those that are in it
(`mem_select_or_after`).
-/

namespace Transit

/-- The order of listings: by feed version, then by id. -/
def Precedes (a b : Int × Int) : Prop :=
  a.1 < b.1 ∨ (a.1 = b.1 ∧ a.2 < b.2)

namespace Precedes

variable {a b c : Int × Int}

theorem trans (first : Precedes a b) (second : Precedes b c) : Precedes a c := by
  unfold Precedes at *
  omega

theorem irrefl (a : Int × Int) : ¬ Precedes a a := by
  unfold Precedes
  omega

theorem of_pairLe (ordered : Warehouse.pairLe a b = true) (differs : a ≠ b) : Precedes a b := by
  rw [Warehouse.pairLe, Bool.or_eq_true, Bool.and_eq_true, decide_eq_true_eq, beq_iff_eq,
    decide_eq_true_eq] at ordered
  have apart : a.1 = b.1 → a.2 ≠ b.2 := fun same other => differs (Prod.ext same other)
  unfold Precedes
  omega

end Precedes

namespace Warehouse

theorem pairLe_trans (a b c : Int × Int) (first : pairLe a b = true) (second : pairLe b c = true) :
    pairLe a c = true := by
  simp only [pairLe, Bool.or_eq_true, Bool.and_eq_true, decide_eq_true_eq, beq_iff_eq] at *
  omega

theorem pairLe_total (a b : Int × Int) : (pairLe a b || pairLe b a) = true := by
  simp only [pairLe, Bool.or_eq_true, Bool.and_eq_true, decide_eq_true_eq, beq_iff_eq]
  omega

variable {τ ω : Type} {rows : List τ} {args : ListArgs ω} {key : τ → Int × Int}
  {keep : ω → τ → Bool} {r : τ}

/-- The row is one of those that are asked for. -/
def asked (args : ListArgs ω) (key : τ → Int × Int) (keep : ω → τ → Bool) (r : τ) : Bool :=
  (args.ids.isEmpty || args.ids.contains (key r).2)
    && args.after.all (fun c => c.admits (key r).1 (key r).2)
    && args.filter.all (keep · r)

/-- All rows that are asked for, in the order of their keys. -/
def ranked (rows : List τ) (args : ListArgs ω) (key : τ → Int × Int) (keep : ω → τ → Bool) :
    List τ :=
  (rows.filter (asked args key keep)).mergeSort fun a b => pairLe (key a) (key b)

theorem select_eq (rows : List τ) (args : ListArgs ω) (key : τ → Int × Int)
    (keep : ω → τ → Bool) :
    select rows args key keep = (ranked rows args key keep).take args.limit :=
  rfl

theorem mem_ranked : r ∈ ranked rows args key keep ↔ r ∈ rows ∧ asked args key keep r = true := by
  rw [ranked, List.mem_mergeSort, List.mem_filter]

theorem ranked_ordered (distinct : (rows.map key).Nodup) :
    (ranked rows args key keep).Pairwise fun a b => Precedes (key a) (key b) := by
  have ordered := List.pairwise_mergeSort (fun a b c => pairLe_trans (key a) (key b) (key c))
    (fun a b => pairLe_total (key a) (key b)) (rows.filter (asked args key keep))
  have apart : (ranked rows args key keep).Pairwise fun a b => key a ≠ key b := by
    have kept := (List.filter_sublist (p := asked args key keep)).map key |>.nodup distinct
    exact List.pairwise_map.mp (((List.mergeSort_perm _ _).map key).nodup_iff.mpr kept)
  exact (ordered.and apart).imp fun both => Precedes.of_pairLe both.1 both.2

theorem mem_of_mem_select (member : r ∈ select rows args key keep) :
    r ∈ rows ∧ asked args key keep r = true :=
  mem_ranked.mp (List.mem_of_mem_take member)

theorem select_ordered (distinct : (rows.map key).Nodup) :
    (select rows args key keep).Pairwise fun a b => Precedes (key a) (key b) :=
  (ranked_ordered distinct).sublist (List.take_sublist _ _)

/-- A row that is asked for is left out only behind a full page of rows before it. -/
theorem mem_select_or_after (distinct : (rows.map key).Nodup) (member : r ∈ rows)
    (wanted : asked args key keep r = true) :
    r ∈ select rows args key keep ∨
      (select rows args key keep).length = args.limit ∧
        ∀ s ∈ select rows args key keep, Precedes (key s) (key r) := by
  have inRanked := mem_ranked.mpr ⟨member, wanted⟩
  have ordered : (ranked rows args key keep).Pairwise _ := ranked_ordered distinct
  rw [← List.take_append_drop args.limit (ranked rows args key keep)] at inRanked ordered
  rcases List.mem_append.mp inRanked with inPage | left
  · exact .inl inPage
  · refine .inr ⟨?_, fun s inPage => (List.pairwise_append.mp ordered).2.2 s inPage r left⟩
    have full := List.length_pos_of_mem left
    rw [List.length_drop] at full
    rw [select_eq, List.length_take]
    omega

end Warehouse

end Transit
