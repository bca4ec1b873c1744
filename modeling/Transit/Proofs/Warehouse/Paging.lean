import Mathlib.Data.List.Nodup
import Mathlib.Data.Nat.Find
import Transit.Proofs.Warehouse.Select
set_option autoImplicit false

/-!
# Paging through a table that changes

A client asks for pages of a selection, each after the last row of the page before, while the table
changes from page to page. Its cursor only moves forward (`order_of_pages`), so within the bounds of
cursors it reaches an empty page (`exists_empty`), and a row that is there all the time cannot be
passed over (`found_of_steady`).
-/

namespace Transit

namespace Cursor

/-- The position after a row with a key. -/
def ofKey (key : Int × Int) : Cursor := ⟨key.1, key.2⟩

def toKey (c : Cursor) : Int × Int := (c.feedVersionId, c.id)

theorem toKey_ofKey (key : Int × Int) : (ofKey key).toKey = key := rfl

theorem admits_iff {c : Cursor} {key : Int × Int}
    (alike : c.feedVersionId = 0 ↔ key.1 = 0) :
    c.admits key.1 key.2 = true ↔ Precedes c.toKey key := by
  unfold Precedes toKey admits
  by_cases bare : c.feedVersionId = 0
  · have other := alike.mp bare
    rw [if_pos (beq_iff_eq.mpr bare), decide_eq_true_eq]
    dsimp only
    omega
  · rw [if_neg (by simpa using bare), Bool.or_eq_true, Bool.and_eq_true, decide_eq_true_eq,
      beq_iff_eq, decide_eq_true_eq]

end Cursor

open Warehouse

/-- A client that pages through a selection: `tables` and `keeps` are the rows and the filtering at
the time of each page. -/
structure Pager (τ ω : Type) where
  limit : Nat
  ids : List Int
  filter : Option ω
  key : τ → Int × Int
  tables : Nat → List τ
  keeps : Nat → ω → τ → Bool

namespace Pager

variable {τ ω : Type}

/-- The cursor of the last row that the client has. -/
def after (p : Pager τ ω) : Nat → Option Cursor
  | 0 => none
  | n + 1 =>
    let page := select (p.tables n) ⟨p.limit, p.after n, p.ids, p.filter⟩ p.key (p.keeps n)
    (page.getLast?.map fun r => Cursor.ofKey (p.key r)).or (p.after n)

def page (p : Pager τ ω) (n : Nat) : List τ :=
  select (p.tables n) ⟨p.limit, p.after n, p.ids, p.filter⟩ p.key (p.keeps n)

def returned (p : Pager τ ω) (n : Nat) : List τ :=
  (List.range n).flatMap p.page

/-- The row is what the client looks for. -/
def wants (p : Pager τ ω) (n : Nat) (r : τ) : Bool :=
  (p.ids.isEmpty || p.ids.contains (p.key r).2) && p.filter.all (p.keeps n · r)

/-- Keys tell rows apart and fit into cursors, and all rows belong to feed versions or none does. -/
structure Sound (p : Pager τ ω) : Prop where
  positive : 0 < p.limit
  distinct : ∀ n, ((p.tables n).map p.key).Nodup
  alike : (∀ n, ∀ r ∈ p.tables n, (p.key r).1 = 0) ∨ (∀ n, ∀ r ∈ p.tables n, 0 < (p.key r).1)
  bounded : ∀ n, ∀ r ∈ p.tables n, (p.key r).1 ≤ Cursor.maxValue ∧
    0 < (p.key r).2 ∧ (p.key r).2 ≤ Cursor.maxValue

variable {p : Pager τ ω} {m n : Nat} {r s : τ} {c : Cursor}

theorem after_succ (p : Pager τ ω) (n : Nat) :
    p.after (n + 1) = ((p.page n).getLast?.map fun r => Cursor.ofKey (p.key r)).or (p.after n) :=
  rfl

/-- The next cursor is that of the last row, or the same when there is no row. -/
theorem after_succ_cases (p : Pager τ ω) (n : Nat) :
    (p.page n = [] ∧ p.after (n + 1) = p.after n) ∨
      ∃ last, (p.page n).getLast? = some last ∧
        p.after (n + 1) = some (Cursor.ofKey (p.key last)) := by
  rw [after_succ]
  cases last : (p.page n).getLast? with
  | none => exact .inl ⟨List.getLast?_eq_none_iff.mp last, rfl⟩
  | some r => exact .inr ⟨r, rfl, rfl⟩

theorem mem_table (member : r ∈ p.page n) : r ∈ p.tables n := (mem_of_mem_select member).1

/-- A cursor is that of a row on an earlier page. -/
theorem row_of_after (there : p.after n = some c) :
    ∃ m < n, ∃ r ∈ p.page m, c = Cursor.ofKey (p.key r) := by
  induction n with
  | zero => cases there
  | succ n ih =>
    rcases p.after_succ_cases n with ⟨_, same⟩ | ⟨last, isLast, next⟩
    · obtain ⟨m, earlier, found⟩ := ih (same.symm.trans there)
      exact ⟨m, by omega, found⟩
    · obtain rfl := Option.some.inj (next.symm.trans there)
      exact ⟨n, by omega, last, List.mem_of_getLast? isLast, rfl⟩

namespace Sound

variable (sound : p.Sound)
include sound

theorem alike_after (there : p.after n = some c) (member : r ∈ p.tables m) :
    c.feedVersionId = 0 ↔ (p.key r).1 = 0 := by
  obtain ⟨k, _, s, inPage, rfl⟩ := row_of_after there
  have inTable := mem_table inPage
  rcases sound.alike with bare | versioned
  · exact iff_of_true (bare k s inTable) (bare m r member)
  · have one := versioned k s inTable
    have other := versioned m r member
    exact iff_of_false (Int.ne_of_gt one) (Int.ne_of_gt other)

/-- A row is asked for if it is wanted and comes after the cursor. -/
theorem asked_iff (member : r ∈ p.tables n) :
    asked ⟨p.limit, p.after n, p.ids, p.filter⟩ p.key (p.keeps n) r = true ↔
      p.wants n r = true ∧ ∀ c, p.after n = some c → Precedes c.toKey (p.key r) := by
  have passes : (p.after n).all (fun c => c.admits (p.key r).1 (p.key r).2) = true ↔
      ∀ c, p.after n = some c → Precedes c.toKey (p.key r) := by
    rw [Option.all_eq_true]
    refine forall_congr' fun c => forall_congr' fun there => ?_
    exact Cursor.admits_iff (sound.alike_after there member)
  rw [asked, wants, Bool.and_eq_true, Bool.and_eq_true, Bool.and_eq_true, passes]
  tauto

theorem after_precedes (there : p.after n = some c) (member : r ∈ p.page n) :
    Precedes c.toKey (p.key r) := by
  obtain ⟨inTable, isAsked⟩ := mem_of_mem_select member
  exact ((sound.asked_iff inTable).mp isAsked).2 c there

theorem page_ordered (n : Nat) : (p.page n).Pairwise fun a b => Precedes (p.key a) (p.key b) :=
  select_ordered (sound.distinct n)

/-- The cursor never falls behind a row that has been returned. -/
theorem after_of_returned (member : s ∈ p.page m) (later : m < n) :
    ∃ c, p.after n = some c ∧ (c.toKey = p.key s ∨ Precedes (p.key s) c.toKey) := by
  induction n with
  | zero => omega
  | succ n ih =>
    rcases p.after_succ_cases n with ⟨empty, same⟩ | ⟨last, isLast, next⟩
    · have before : m < n := by
        rcases Nat.lt_succ_iff_lt_or_eq.mp later with before | rfl
        · exact before
        · simp [empty] at member
      rw [same]
      exact ih before
    · refine ⟨_, next, ?_⟩
      rw [Cursor.toKey_ofKey]
      rcases Nat.lt_succ_iff_lt_or_eq.mp later with before | rfl
      · obtain ⟨c, there, order⟩ := ih before
        have forward := sound.after_precedes there (List.mem_of_getLast? isLast)
        rcases order with same | behind
        · exact .inr (same ▸ forward)
        · exact .inr (behind.trans forward)
      · obtain ⟨front, split⟩ := List.getLast?_eq_some_iff.mp isLast
        have ordered := sound.page_ordered m
        rw [split] at member ordered
        rcases List.mem_append.mp member with inFront | isThe
        · exact .inr ((List.pairwise_append.mp ordered).2.2 s inFront last (by simp))
        · obtain rfl := List.mem_singleton.mp isThe
          exact .inl rfl

/-- Rows of an earlier page come first. -/
theorem order_of_pages (first : s ∈ p.page m) (second : r ∈ p.page n) (later : m < n) :
    Precedes (p.key s) (p.key r) := by
  obtain ⟨c, there, order⟩ := sound.after_of_returned first later
  have forward := sound.after_precedes there second
  rcases order with same | behind
  · exact same ▸ forward
  · exact behind.trans forward

theorem returned_ordered (n : Nat) :
    (p.returned n).Pairwise fun a b => Precedes (p.key a) (p.key b) := by
  induction n with
  | zero => exact .nil
  | succ n ih =>
    rw [returned, List.range_succ, List.flatMap_append, List.pairwise_append]
    refine ⟨ih, by simpa using sound.page_ordered n, ?_⟩
    intro s early r late
    obtain ⟨m, earlier, inPage⟩ := List.mem_flatMap.mp early
    exact sound.order_of_pages inPage (by simpa using late) (List.mem_range.mp earlier)

end Sound

/-! ## The end of the pages -/

/-- A key as one number. -/
def rank (key : Int × Int) : Int := key.1 * (Cursor.maxValue + 1) + key.2

/-- No key that fits into a cursor has a greater rank. -/
def maxRank : Int := Cursor.maxValue * (Cursor.maxValue + 1) + Cursor.maxValue

theorem rank_lt {a b : Int × Int} (order : Precedes a b) (fits : a.2 ≤ Cursor.maxValue)
    (positive : 0 < b.2) : rank a < rank b := by
  unfold Precedes at order
  simp only [rank, Cursor.maxValue] at *
  omega

namespace Sound

variable (sound : p.Sound)
include sound

theorem rank_bounds (member : r ∈ p.tables n) : 0 < rank (p.key r) ∧ rank (p.key r) ≤ maxRank := by
  obtain ⟨version, positive, fits⟩ := sound.bounded n r member
  have natural : 0 ≤ (p.key r).1 := by
    rcases sound.alike with bare | versioned
    · exact Int.le_of_eq (bare n r member).symm
    · exact Int.le_of_lt (versioned n r member)
  simp only [rank, maxRank, Cursor.maxValue] at *
  omega

/-- With every page that is not empty the cursor gains at least one. -/
theorem le_rank_after (filled : ∀ m < n, p.page m ≠ []) (begun : 0 < n) :
    ∃ m r, r ∈ p.tables m ∧ p.after n = some (Cursor.ofKey (p.key r)) ∧ n ≤ rank (p.key r) := by
  induction n with
  | zero => omega
  | succ n ih =>
    rcases p.after_succ_cases n with ⟨empty, _⟩ | ⟨last, isLast, next⟩
    · exact absurd empty (filled n (by omega))
    · have inPage := List.mem_of_getLast? isLast
      have inTable := mem_table inPage
      refine ⟨n, last, inTable, next, ?_⟩
      rcases Nat.eq_zero_or_pos n with rfl | later
      · exact (sound.rank_bounds inTable).1
      · obtain ⟨m, s, earlier, there, gained⟩ := ih (fun m before => filled m (by omega)) later
        have forward := sound.after_precedes there inPage
        rw [Cursor.toKey_ofKey] at forward
        have fits := (sound.bounded m s earlier).2.2
        have grows := rank_lt forward fits (sound.bounded n last inTable).2.1
        omega

/-- Some page is empty: the cursor cannot move forward for ever. -/
theorem exists_empty : ∃ n, p.page n = [] := by
  by_contra never
  have filled : ∀ n, p.page n ≠ [] := fun n empty => never ⟨n, empty⟩
  obtain ⟨m, r, inTable, _, gained⟩ :=
    sound.le_rank_after (n := maxRank.toNat + 1) (fun m _ => filled m) (by omega)
  have bound := (sound.rank_bounds inTable).2
  omega

/-- A row that is wanted all the time has been returned by the time of an empty page. -/
theorem found_of_steady {last : Nat} {k : Int × Int} (empty : p.page last = [])
    (steady : ∀ n ≤ last, ∃ r ∈ p.tables n, p.key r = k ∧ p.wants n r = true) :
    ∃ r ∈ p.returned last, p.key r = k := by
  by_contra missing
  have behind : ∀ n ≤ last, ∀ c, p.after n = some c → Precedes c.toKey k := by
    intro n
    induction n with
    | zero =>
      intro _ c there
      cases there
    | succ n ih =>
      intro bound c there
      have before := ih (by omega)
      rcases p.after_succ_cases n with ⟨_, same⟩ | ⟨final, isLast, next⟩
      · exact before c (same.symm.trans there)
      · obtain rfl := Option.some.inj (next.symm.trans there)
        obtain ⟨r, inTable, rfl, wanted⟩ := steady n (by omega)
        have isAsked := (sound.asked_iff inTable).mpr ⟨wanted, before⟩
        rcases mem_select_or_after (sound.distinct n) inTable isAsked with inPage | ⟨_, all⟩
        · have inPages : n ∈ List.range last := List.mem_range.mpr (by omega)
          exact absurd ⟨r, List.mem_flatMap.mpr ⟨n, inPages, inPage⟩, rfl⟩ missing
        · exact all final (List.mem_of_getLast? isLast)
  obtain ⟨r, inTable, rfl, wanted⟩ := steady last (Nat.le_refl last)
  have isAsked := (sound.asked_iff inTable).mpr ⟨wanted, behind last (Nat.le_refl last)⟩
  have none : ∀ s, s ∉ p.page last := by simp [empty]
  rcases mem_select_or_after (sound.distinct last) inTable isAsked with inPage | ⟨full, _⟩
  · exact none r inPage
  · have positive := sound.positive
    have length : (p.page last).length = p.limit := full
    rw [empty, List.length_nil] at length
    omega

/-- The client reaches a first empty page. By then it has rows with growing keys, among them each
row once that was there and wanted all the time. -/
theorem pages_complete :
    ∃ last, p.page last = [] ∧ (∀ n < last, p.page n ≠ []) ∧
      (p.returned last).Pairwise (fun a b => Precedes (p.key a) (p.key b)) ∧
      ∀ k, (∀ n ≤ last, ∃ r ∈ p.tables n, p.key r = k ∧ p.wants n r = true) →
        ((p.returned last).map p.key).count k = 1 := by
  classical
  have reached := sound.exists_empty
  have ordered := sound.returned_ordered (Nat.find reached)
  refine ⟨Nat.find reached, Nat.find_spec reached, fun n before => Nat.find_min reached before,
    ordered, ?_⟩
  intro k steady
  obtain ⟨r, member, rfl⟩ := sound.found_of_steady (Nat.find_spec reached) steady
  refine List.count_eq_one_of_mem ?_ (List.mem_map_of_mem member)
  rw [List.Nodup, List.pairwise_map]
  refine ordered.imp ?_
  intro a b order same
  rw [same] at order
  exact Precedes.irrefl _ order

end Sound

end Pager

end Transit
