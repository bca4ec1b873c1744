import Mathlib.Data.List.Pairwise
import Transit.Proofs.Warehouse.Paging
set_option autoImplicit false

/-!
# Paging through merged rows

A merged page holds the first row of each value among the rows after the cursor, so a value comes
back on a later page exactly if a page ends between two rows that have it
(`Sound.returned_once_iff`). A merged listing is paged like one whose table at the time of each page
is what the cursor has left (`pager`), and so it comes to an end.
-/

namespace Transit

namespace Warehouse

variable {τ : Type} {value : τ → String} {seen : List String} {rows : List τ} {r : τ}

theorem firstBy_sublist (value : τ → String) (seen : List String) (rows : List τ) :
    (firstBy value seen rows).Sublist rows := by
  fun_induction firstBy value seen rows with
  | case1 => exact .slnil
  | case2 _ _ _ _ ih => exact ih.cons _
  | case3 _ _ _ _ ih => exact ih.cons_cons _

theorem unseen_of_mem_firstBy (member : r ∈ firstBy value seen rows) : value r ∉ seen := by
  fun_induction firstBy value seen rows with
  | case1 => cases member
  | case2 _ _ _ _ ih => exact ih member
  | case3 seen first _ fresh ih =>
    rcases List.mem_cons.mp member with rfl | later
    · simpa using fresh
    · exact fun before => ih later (List.mem_cons_of_mem _ before)

theorem firstBy_apart (value : τ → String) (seen : List String) (rows : List τ) :
    (firstBy value seen rows).Pairwise fun a b => value a ≠ value b := by
  fun_induction firstBy value seen rows with
  | case1 => exact .nil
  | case2 _ _ _ _ ih => exact ih
  | case3 _ first _ _ ih =>
    refine List.pairwise_cons.mpr ⟨fun s later same => ?_, ih⟩
    exact unseen_of_mem_firstBy later (same ▸ List.mem_cons_self)

/-- The row that stands for another comes no later. -/
theorem exists_firstBy {before : τ → τ → Prop} (ordered : rows.Pairwise before) (member : r ∈ rows)
    (fresh : value r ∉ seen) :
    ∃ s ∈ firstBy value seen rows, value s = value r ∧ (s = r ∨ before s r) := by
  fun_induction firstBy value seen rows with
  | case1 => cases member
  | case2 seen first rest known ih =>
    rcases List.mem_cons.mp member with rfl | later
    · exact absurd (by simpa using known) fresh
    · exact ih (List.pairwise_cons.mp ordered).2 later fresh
  | case3 seen first rest _ ih =>
    obtain ⟨order, tail⟩ := List.pairwise_cons.mp ordered
    rcases List.mem_cons.mp member with rfl | later
    · exact ⟨r, List.mem_cons_self, rfl, .inl rfl⟩
    · by_cases same : value r = value first
      · exact ⟨first, List.mem_cons_self, same.symm, .inr (order r later)⟩
      · have stillFresh : value r ∉ value first :: seen := by
          simp only [List.mem_cons, not_or]
          exact ⟨same, fresh⟩
        obtain ⟨s, found, isValue, place⟩ := ih tail later stillFresh
        exact ⟨s, List.mem_cons_of_mem _ found, isValue, place⟩

end Warehouse

open Warehouse

/-- A client that pages through rows with one row for each value. -/
structure MergedPager (τ : Type) where
  limit : Nat
  value : τ → String
  id : τ → Int
  rows : List τ

namespace MergedPager

variable {τ : Type}

/-- The rows that come after an id. -/
def left (p : MergedPager τ) (after : Option Int) : List τ :=
  p.rows.filter fun r => after.all (· < p.id r)

def pageAfter (p : MergedPager τ) (after : Option Int) : List τ :=
  (firstBy p.value [] (p.left after)).take p.limit

/-- The id of the last row that the client has. -/
def after (p : MergedPager τ) : Nat → Option Int
  | 0 => none
  | n + 1 => ((p.pageAfter (p.after n)).getLast?.map p.id).or (p.after n)

def page (p : MergedPager τ) (n : Nat) : List τ := p.pageAfter (p.after n)

def returned (p : MergedPager τ) (n : Nat) : List τ := (List.range n).flatMap p.page

/-- The position after an id in a listing without feed versions. -/
def cursor (id : Int) : Cursor := ⟨0, id⟩

/-- The same client, on tables that hold at each page the merged rows that are left. -/
def pager (p : MergedPager τ) : Pager τ Unit where
  limit := p.limit
  ids := []
  filter := none
  key r := (0, p.id r)
  tables n := firstBy p.value [] (p.left (p.after n))
  keeps _ _ _ := true

/-- The ids grow and fit into cursors. -/
structure Sound (p : MergedPager τ) : Prop where
  positive : 0 < p.limit
  ordered : p.rows.Pairwise fun a b => p.id a < p.id b
  bounded : ∀ r ∈ p.rows, 0 < p.id r ∧ p.id r ≤ Cursor.maxValue

variable {p : MergedPager τ} {m n last : Nat} {r s : τ}

theorem mem_left {after : Option Int} :
    r ∈ p.left after ↔ r ∈ p.rows ∧ ∀ c, after = some c → c < p.id r := by
  rw [left, List.mem_filter, Option.all_eq_true]
  simp only [decide_eq_true_eq]

theorem mem_left_of_mem_table (member : r ∈ p.pager.tables n) : r ∈ p.left (p.after n) :=
  (firstBy_sublist _ _ _).subset member

theorem mem_left_of_mem_page (member : r ∈ p.page n) : r ∈ p.left (p.after n) :=
  mem_left_of_mem_table (List.mem_of_mem_take member)

/-- No value is twice on a page. -/
theorem page_apart (p : MergedPager τ) (n : Nat) :
    (p.page n).Pairwise fun a b => p.value a ≠ p.value b :=
  (firstBy_apart _ _ _).sublist (List.take_sublist _ _)

namespace Sound

variable (sound : p.Sound)
include sound

theorem table_ordered (n : Nat) : (p.pager.tables n).Pairwise fun a b => p.id a < p.id b :=
  sound.ordered.sublist ((firstBy_sublist _ _ _).trans List.filter_sublist)

theorem pager_page (same : p.pager.after n = (p.after n).map cursor) :
    p.pager.page n = p.page n := by
  have all : (p.pager.tables n).filter (asked ⟨p.limit, (p.after n).map cursor, [], none⟩
      p.pager.key (p.pager.keeps n)) = p.pager.tables n := by
    refine List.filter_eq_self.mpr fun r member => ?_
    have admitted := (mem_left.mp (mem_left_of_mem_table member)).2
    have passes : ((p.after n).map cursor).all (·.admits 0 (p.id r)) = true := by
      rw [Option.all_eq_true]
      intro c there
      obtain ⟨i, isId, rfl⟩ := Option.map_eq_some_iff.mp there
      exact decide_eq_true (admitted i isId)
    simpa [asked, pager] using passes
  have sorted : (p.pager.tables n).mergeSort (fun a b => pairLe (p.pager.key a) (p.pager.key b)) =
      p.pager.tables n := by
    refine List.mergeSort_of_pairwise ((sound.table_ordered n).imp ?_)
    intro a b order
    simp [pairLe, pager, Int.le_of_lt order]
  rw [Pager.page, same]
  show (ranked (p.pager.tables n) ⟨p.limit, (p.after n).map cursor, [], none⟩ p.pager.key
    (p.pager.keeps n)).take p.limit = p.page n
  rw [ranked, all, sorted]
  rfl

theorem pager_after (n : Nat) : p.pager.after n = (p.after n).map cursor := by
  induction n with
  | zero => rfl
  | succ n ih =>
    rw [Pager.after_succ, sound.pager_page ih, ih, after]
    cases last : (p.pageAfter (p.after n)).getLast? with
    | none => simp [page, last]
    | some r => simp [page, last, cursor, Cursor.ofKey, pager]

theorem pager_sound : p.pager.Sound where
  positive := sound.positive
  distinct n := by
    refine List.pairwise_map.mpr ((sound.table_ordered n).imp ?_)
    intro a b order same
    exact Int.ne_of_lt order (congrArg Prod.snd same)
  alike := .inl fun _ _ _ => rfl
  bounded n r member := by
    obtain ⟨positive, fits⟩ := sound.bounded r (mem_left.mp (mem_left_of_mem_table member)).1
    exact ⟨by show (0 : Int) ≤ Cursor.maxValue; decide, positive, fits⟩

theorem returned_eq (n : Nat) : p.pager.returned n = p.returned n :=
  List.flatMap_congr fun m _ => sound.pager_page (sound.pager_after m)

theorem bounded_after {i : Int} (there : p.after n = some i) : 0 < i ∧ i ≤ Cursor.maxValue := by
  have isAfter : p.pager.after n = some (cursor i) := by
    rw [sound.pager_after, there]
    rfl
  obtain ⟨m, _, r, inPage, same⟩ := Pager.row_of_after isAfter
  obtain rfl : i = p.id r := congrArg Cursor.id same
  exact (sound.pager_sound.bounded m r (Pager.mem_table inPage)).2

/-- A row is stood for by one of an equal value that comes no later. -/
theorem exists_standing (member : r ∈ p.left (p.after n)) :
    ∃ s ∈ p.pager.tables n, p.value s = p.value r ∧ p.id s ≤ p.id r := by
  have fresh : p.value r ∉ ([] : List _) := List.not_mem_nil
  obtain ⟨s, found, isValue, place⟩ :=
    exists_firstBy (sound.ordered.sublist List.filter_sublist) member fresh
  refine ⟨s, found, isValue, ?_⟩
  rcases place with rfl | order
  · exact Int.le_refl _
  · exact Int.le_of_lt order

/-- A merged row that is left is on the page, or the page is full of rows before it. -/
theorem mem_page_or_after (member : r ∈ p.pager.tables n) :
    r ∈ p.page n ∨ (p.page n).length = p.limit ∧ ∀ s ∈ p.page n, p.id s < p.id r := by
  have ordered := sound.table_ordered n
  rw [← List.take_append_drop p.limit (p.pager.tables n)] at member ordered
  rcases List.mem_append.mp member with inPage | behind
  · exact .inl inPage
  · refine .inr ⟨?_, fun s inPage => (List.pairwise_append.mp ordered).2.2 s inPage r behind⟩
    have full := List.length_pos_of_mem behind
    rw [List.length_drop] at full
    show ((p.pager.tables n).take p.limit).length = p.limit
    rw [List.length_take]
    omega

/-- The value of a row that a page has passed is on the page. -/
theorem value_on_page (member : r ∈ p.left (p.after n)) {final : τ}
    (isLast : (p.page n).getLast? = some final) (passed : p.id r ≤ p.id final) :
    ∃ s ∈ p.page n, p.value s = p.value r := by
  obtain ⟨s, inTable, isValue, place⟩ := sound.exists_standing member
  refine ⟨s, ?_, isValue⟩
  rcases sound.mem_page_or_after inTable with inPage | ⟨_, all⟩
  · exact inPage
  · have order := all final (List.mem_of_getLast? isLast)
    omega

/-- A row that is left at one page and passed by a later one has its value on a page in between. -/
theorem value_between (before : m ≤ n) (member : r ∈ p.left (p.after m)) {c : Int}
    (there : p.after n = some c) (passed : p.id r ≤ c) :
    ∃ j, m ≤ j ∧ j < n ∧ ∃ s ∈ p.page j, p.value s = p.value r := by
  induction n, before using Nat.le_induction generalizing c with
  | base =>
    have order := (mem_left.mp member).2 c there
    omega
  | succ n later ih =>
    by_cases already : ∃ d, p.after n = some d ∧ p.id r ≤ d
    · obtain ⟨d, isAfter, behind⟩ := already
      obtain ⟨j, first, second, found⟩ := ih isAfter behind
      exact ⟨j, first, by omega, found⟩
    · have stillLeft : r ∈ p.left (p.after n) := by
        refine mem_left.mpr ⟨(mem_left.mp member).1, fun d isAfter => ?_⟩
        by_contra behind
        exact already ⟨d, isAfter, by omega⟩
      rw [after] at there
      cases isLast : (p.page n).getLast? with
      | none =>
        rw [show (p.pageAfter (p.after n)).getLast? = none from isLast] at there
        exact absurd ⟨c, there, passed⟩ already
      | some final =>
        rw [show (p.pageAfter (p.after n)).getLast? = some final from isLast] at there
        obtain rfl := Option.some.inj there
        exact ⟨n, later, by omega, sound.value_on_page stillLeft isLast passed⟩

/-- A row that is left at a page has its value on that page or a later one, up to an empty one. -/
theorem value_returned (empty : p.page last = []) (before : m ≤ last)
    (member : r ∈ p.left (p.after m)) :
    ∃ j, m ≤ j ∧ j < last ∧ ∃ s ∈ p.page j, p.value s = p.value r := by
  by_cases reached : ∃ c, p.after last = some c ∧ p.id r ≤ c
  · obtain ⟨c, there, passed⟩ := reached
    exact sound.value_between before member there passed
  · have stillLeft : r ∈ p.left (p.after last) := by
      refine mem_left.mpr ⟨(mem_left.mp member).1, fun c there => ?_⟩
      by_contra behind
      exact reached ⟨c, there, by omega⟩
    obtain ⟨s, inTable, _⟩ := sound.exists_standing stillLeft
    have positive := sound.positive
    rcases sound.mem_page_or_after inTable with inPage | ⟨full, _⟩
    · simp [empty] at inPage
    · rw [empty, List.length_nil] at full
      omega

theorem id_le_last (member : r ∈ p.page n) {final : τ}
    (isLast : (p.page n).getLast? = some final) : p.id r ≤ p.id final := by
  have ordered : (p.page n).Pairwise fun a b => p.id a < p.id b :=
    (sound.table_ordered n).sublist (List.take_sublist _ _)
  obtain ⟨front, split⟩ := List.getLast?_eq_some_iff.mp isLast
  rw [split] at member ordered
  rcases List.mem_append.mp member with inFront | isFinal
  · exact Int.le_of_lt ((List.pairwise_append.mp ordered).2.2 r inFront final (by simp))
  · exact Int.le_of_eq (congrArg p.id (List.mem_singleton.mp isFinal))

theorem id_lt_of_pages (first : r ∈ p.page m) (second : s ∈ p.page n) (later : m < n) :
    p.id r < p.id s := by
  rw [← sound.pager_page (sound.pager_after _)] at first second
  have order := sound.pager_sound.order_of_pages first second later
  simpa [Precedes, pager] using order

/-- No row of a value is on a later page than another if that other's page ends behind all of them. -/
theorem not_later_page {k : Nat} {v : String} (together : ∀ final, (p.page n).getLast? = some final →
      ∀ s ∈ p.rows, ∀ t ∈ p.rows, p.value s = v → p.value t = v → p.id s ≤ p.id final →
        p.id t ≤ p.id final)
    {a b : τ} (onFirst : a ∈ p.page n) (onSecond : b ∈ p.page k) (isA : p.value a = v)
    (isB : p.value b = v) : ¬ n < k := by
  intro order
  obtain ⟨final, isLast⟩ := Option.isSome_iff_exists.mp
    (List.getLast?_isSome.mpr (List.ne_nil_of_mem onFirst))
  have passed := together final isLast a (mem_left.mp (mem_left_of_mem_page onFirst)).1
    b (mem_left.mp (mem_left_of_mem_page onSecond)).1 isA isB (sound.id_le_last onFirst isLast)
  have behind := sound.id_lt_of_pages (List.mem_of_getLast? isLast) onSecond order
  omega

/-- By the time of an empty page the value of a row has come back exactly once if no page ends
between two rows that have it, and more than once otherwise. -/
theorem returned_once_iff (empty : p.page last = []) (member : r ∈ p.rows) :
    (∃! s, s ∈ p.returned last ∧ p.value s = p.value r) ↔
      ∀ n < last, ∀ final, (p.page n).getLast? = some final → ∀ s ∈ p.rows, ∀ t ∈ p.rows,
        p.value s = p.value r → p.value t = p.value r → p.id s ≤ p.id final →
          p.id t ≤ p.id final := by
  have inReturned {j : Nat} {s : τ} (before : j < last) (inPage : s ∈ p.page j) :
      s ∈ p.returned last :=
    List.mem_flatMap.mpr ⟨j, List.mem_range.mpr before, inPage⟩
  have atFirst {s : τ} (inRows : s ∈ p.rows) : s ∈ p.left (p.after 0) :=
    mem_left.mpr ⟨inRows, nofun⟩
  constructor
  · rintro ⟨one, _, unique⟩ n before final isLast s inRows t alsoInRows isValue same passed
    by_contra left
    have next : p.after (n + 1) = some (p.id final) := by
      rw [after, show (p.pageAfter (p.after n)).getLast? = some final from isLast]
      rfl
    obtain ⟨i, _, early, a, onEarly, isA⟩ :=
      sound.value_between (Nat.zero_le _) (atFirst inRows) next passed
    have stillLeft : t ∈ p.left (p.after (n + 1)) := by
      refine mem_left.mpr ⟨alsoInRows, fun c there => ?_⟩
      rw [next] at there
      obtain rfl := Option.some.inj there
      omega
    obtain ⟨j, late, beforeLast, b, onLate, isB⟩ := sound.value_returned empty before stillLeft
    have order := sound.id_lt_of_pages onEarly onLate (by omega)
    have isOne := unique a ⟨inReturned (by omega) onEarly, isA.trans isValue⟩
    have alsoOne := unique b ⟨inReturned beforeLast onLate, isB.trans same⟩
    rw [isOne, alsoOne] at order
    exact Int.lt_irrefl _ order
  · intro together
    obtain ⟨j, _, before, s, inPage, isValue⟩ :=
      sound.value_returned empty (Nat.zero_le last) (atFirst member)
    refine ⟨s, ⟨inReturned before inPage, isValue⟩, ?_⟩
    rintro t ⟨found, same⟩
    obtain ⟨k, inRange, onPage⟩ := List.mem_flatMap.mp found
    have bound := List.mem_range.mp inRange
    obtain rfl : k = j := by
      have notBefore := sound.not_later_page (together k bound) onPage inPage same isValue
      have notAfter := sound.not_later_page (together j before) inPage onPage isValue same
      omega
    by_contra differs
    have symmetric : Std.Symm fun a b => p.value a ≠ p.value b := ⟨fun _ _ apart => apart.symm⟩
    exact (p.page_apart k).forall onPage inPage differs (same.trans isValue.symm)

/-- The client reaches a first empty page. By then the rows it has have growing ids. -/
theorem pages_end : ∃ last, p.page last = [] ∧ (∀ n < last, p.page n ≠ []) ∧
    (p.returned last).Pairwise fun a b => p.id a < p.id b := by
  obtain ⟨last, empty, filled, ordered, _⟩ := sound.pager_sound.pages_complete
  have pages (n : Nat) : p.pager.page n = p.page n := sound.pager_page (sound.pager_after n)
  rw [pages] at empty
  rw [sound.returned_eq] at ordered
  refine ⟨last, empty, fun n before => pages n ▸ filled n before, ordered.imp ?_⟩
  intro a b order
  simpa [Precedes, pager] using order

end Sound

end MergedPager

end Transit
