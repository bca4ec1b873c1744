import Mathlib.Algebra.Ring.Int.Defs
import Mathlib.Data.List.Induction
import Mathlib.Data.List.Pairwise
import Transit.Proofs.Service.BestWeek
set_option autoImplicit false

/-!
# How far a window grows

A feed that declares no dates has the window of a stretch of weeks: from the chosen week it reaches
on both sides up to the next week with less than three quarters of the most service. For weeks
without a day in common that is the longest such stretch around the chosen week, in whatever order
the weeks are given (`window_longest_stretch`).
-/

namespace Transit

theorem Date.le_def {a b : Date} : a ≤ b ↔ a.day ≤ b.day := Iff.rfl
theorem Date.lt_def {a b : Date} : a < b ↔ a.day < b.day := Iff.rfl

theorem Date.eq_of_le {a b : Date} (before : a ≤ b) (after : b ≤ a) : a = b := by
  cases a
  cases b
  exact congrArg Date.mk (Int.le_antisymm before after)

theorem ServiceLevel.covers_iff {l : ServiceLevel} {d : Date} :
    l.covers d = true ↔ l.startDate ≤ d ∧ d ≤ l.endDate := by
  simp [covers]

namespace ServiceWindow

/-- No week has more service. -/
def Highest (levels : List ServiceLevel) (l : ServiceLevel) : Prop :=
  ∀ k ∈ levels, k.total ≤ l.total

/-- A week has at least three quarters of the most service. -/
def Representative (levels : List ServiceLevel) (l : ServiceLevel) : Prop :=
  ∀ k ∈ levels, 3 * k.total ≤ 4 * l.total

/-- The week from which a window grows: the one fetched in if it is representative, else the
earliest of those with the most service. -/
def IsChosen (levels : List ServiceLevel) (fetched : Date) (c : ServiceLevel) : Prop :=
  c ∈ levels ∧
    (c.covers fetched = true ∧ Representative levels c ∨
      (∀ k ∈ levels, k.covers fetched = true → ¬ Representative levels k) ∧
        Highest levels c ∧ ∀ k ∈ levels, Highest levels k → c.startDate ≤ k.startDate)

/-- The weeks from `first` to `last` have the week `c` among them, and all are representative. -/
structure Stretch (levels : List ServiceLevel) (c first last : ServiceLevel) : Prop where
  first_mem : first ∈ levels
  last_mem : last ∈ levels
  starts : first.startDate ≤ c.startDate
  ends : c.startDate ≤ last.startDate
  rich : ∀ l ∈ levels, first.startDate ≤ l.startDate → l.startDate ≤ last.startDate →
    Representative levels l

/-- Every stretch around the same week is a part of this one. -/
structure LongestStretch (levels : List ServiceLevel) (c first last : ServiceLevel) : Prop
    extends Stretch levels c first last where
  longest : ∀ a b, Stretch levels c a b →
    first.startDate ≤ a.startDate ∧ b.startDate ≤ last.startDate

/-- Weeks with days of their own, and with service of which a word can hold the fourfold. -/
structure Separate (levels : List ServiceLevel) : Prop where
  days : ∀ l ∈ levels, l.startDate ≤ l.endDate
  apart : levels.Pairwise fun a b => a.endDate < b.startDate ∨ b.endDate < a.startDate
  service : ∀ l ∈ levels, 0 ≤ l.total ∧ l.total < 2 ^ 61

/-- Each week ends before the next begins. -/
def Successive (weeks : List ServiceLevel) : Prop :=
  weeks.Pairwise fun a b => a.endDate < b.startDate

instance (weeks : List ServiceLevel) : Decidable (Successive weeks) :=
  inferInstanceAs (Decidable (weeks.Pairwise _))

variable {levels weeks : List ServiceLevel} {fetched : Date}

/-! ## The order of the weeks -/

theorem Separate.of_perm (separate : Separate levels) (same : weeks.Perm levels) :
    Separate weeks where
  days l member := separate.days l (same.mem_iff.mp member)
  apart := same.symm.pairwise separate.apart Or.symm
  service l member := separate.service l (same.mem_iff.mp member)

theorem Separate.eq_of_shared (separate : Separate levels) {a b : ServiceLevel} (inA : a ∈ levels)
    (inB : b ∈ levels) {d : Date} (first : a.covers d = true) (second : b.covers d = true) :
    a = b := by
  by_contra differ
  have symmetric : Std.Symm fun a b : ServiceLevel =>
      a.endDate < b.startDate ∨ b.endDate < a.startDate := ⟨fun _ _ => Or.symm⟩
  have apart := separate.apart.forall inA inB differ
  rw [ServiceLevel.covers_iff] at first second
  simp only [Date.le_def, Date.lt_def] at apart first second
  omega

theorem Separate.eq_of_start (separate : Separate levels) {a b : ServiceLevel} (inA : a ∈ levels)
    (inB : b ∈ levels) (same : a.startDate = b.startDate) : a = b := by
  refine separate.eq_of_shared inA inB (d := a.startDate)
    (ServiceLevel.covers_iff.mpr ⟨Int.le_refl _, separate.days a inA⟩)
    (ServiceLevel.covers_iff.mpr ⟨?_, ?_⟩)
  · rw [same]
    exact Int.le_refl _
  · rw [same]
    exact separate.days b inB

theorem perm_inOrder (levels : List ServiceLevel) : (inOrder levels).Perm levels :=
  List.mergeSort_perm _ _

theorem Separate.successive (separate : Separate levels) : Successive (inOrder levels) := by
  have sorted := separate.of_perm (perm_inOrder levels)
  refine ((inOrder_ordered levels).and sorted.apart).imp_of_mem ?_
  rintro a b - inB ⟨before, apart⟩
  have days := sorted.days b inB
  simp only [Date.le_def, Date.lt_def] at before apart days ⊢
  omega

theorem inOrder_of_perm (separate : Separate levels) {other : List ServiceLevel}
    (same : other.Perm levels) : inOrder other = inOrder levels := by
  refine List.Perm.eq_of_pairwise ?_ (inOrder_ordered other) (inOrder_ordered levels)
    ((perm_inOrder other).trans (same.trans (perm_inOrder levels).symm))
  intro a b inA inB before after
  exact separate.eq_of_start (same.mem_iff.mp (mem_inOrder.mp inA)) (mem_inOrder.mp inB)
    (Date.eq_of_le before after)

theorem derive?_congr {other : List ServiceLevel} (same : inOrder other = inOrder levels)
    (fetched : Date) (info : Option FeedInfo) :
    derive? fetched info other = derive? fetched info levels := by
  unfold inOrder at same
  simp only [derive?, same]

theorem representative_inOrder {l : ServiceLevel} :
    Representative (inOrder levels) l ↔ Representative levels l := by
  simp only [Representative, mem_inOrder]

theorem isChosen_inOrder {c : ServiceLevel} :
    IsChosen (inOrder levels) fetched c ↔ IsChosen levels fetched c := by
  simp only [IsChosen, Highest, Representative, mem_inOrder]

theorem stretch_inOrder {c first last : ServiceLevel} :
    Stretch (inOrder levels) c first last ↔ Stretch levels c first last := by
  constructor
  · rintro ⟨inFirst, inLast, starts, ends, rich⟩
    exact ⟨mem_inOrder.mp inFirst, mem_inOrder.mp inLast, starts, ends, fun l member after before =>
      representative_inOrder.mp (rich l (mem_inOrder.mpr member) after before)⟩
  · rintro ⟨inFirst, inLast, starts, ends, rich⟩
    exact ⟨mem_inOrder.mpr inFirst, mem_inOrder.mpr inLast, starts, ends,
      fun l member after before =>
        representative_inOrder.mpr (rich l (mem_inOrder.mp member) after before)⟩

/-! ## Weeks around one of them -/

variable {before after : List ServiceLevel} {c l : ServiceLevel}

/-- A week with those before and after it, in order. -/
structure Around (before : List ServiceLevel) (c : ServiceLevel) (after : List ServiceLevel) :
    Prop where
  days : ∀ l ∈ before ++ c :: after, l.startDate ≤ l.endDate
  successive : Successive (before ++ c :: after)

theorem Around.starts (around : Around before c after) :
    (before ++ c :: after).Pairwise fun a b => a.startDate.day < b.startDate.day :=
  around.successive.imp_of_mem fun inA _ apart => Int.lt_of_le_of_lt (around.days _ inA) apart

theorem Around.later (around : Around before c after) :
    (c :: after).Pairwise fun a b => a.startDate.day < b.startDate.day :=
  (List.pairwise_append.mp around.starts).2.1

theorem Around.earlier (around : Around before c after) :
    (c :: before.reverse).Pairwise fun a b => -a.startDate.day < -b.startDate.day := by
  have front : (before ++ [c]).Sublist (before ++ c :: after) :=
    List.Sublist.append_left (List.singleton_sublist.mpr List.mem_cons_self) before
  have back := List.pairwise_reverse.mpr ((around.starts.sublist front).imp Int.neg_lt_neg)
  rwa [List.reverse_append] at back

theorem Around.mem_later (around : Around before c after) :
    l ∈ c :: after ↔ l ∈ before ++ c :: after ∧ c.startDate ≤ l.startDate := by
  constructor
  · intro member
    refine ⟨List.mem_append_right before member, ?_⟩
    rcases List.mem_cons.mp member with rfl | late
    · exact Int.le_refl _
    · exact Int.le_of_lt (List.rel_of_pairwise_cons around.later late)
  · rintro ⟨member, ends⟩
    rcases List.mem_append.mp member with early | here
    · have less := (List.pairwise_append.mp around.starts).2.2 l early c List.mem_cons_self
      exact absurd ends (Int.not_le.mpr less)
    · exact here

theorem Around.mem_earlier (around : Around before c after) :
    l ∈ c :: before.reverse ↔ l ∈ before ++ c :: after ∧ l.startDate ≤ c.startDate := by
  constructor
  · intro member
    rcases List.mem_cons.mp member with rfl | early
    · exact ⟨List.mem_append_right before List.mem_cons_self, Int.le_refl _⟩
    · have less := List.rel_of_pairwise_cons around.earlier early
      exact ⟨List.mem_append_left _ (List.mem_reverse.mp early),
        Int.le_of_lt (Int.neg_lt_neg_iff.mp less)⟩
  · rintro ⟨member, starts⟩
    rcases List.mem_append.mp member with early | here
    · exact List.mem_cons_of_mem c (List.mem_reverse.mpr early)
    · rcases List.mem_cons.mp here with rfl | late
      · exact List.mem_cons_self
      · have more := List.rel_of_pairwise_cons around.later late
        exact absurd starts (Int.not_le.mpr more)

/-! ## The chosen week -/

theorem busiest_concat (weeks : List ServiceLevel) (l : ServiceLevel) :
    busiest (weeks ++ [l]) =
      if (busiest weeks).1 < l.total then (l.total, weeks.length) else busiest weeks := by
  rw [busiest, List.zipIdx_append, List.foldl_append, Nat.zero_add]
  rfl

/-- A week has more service than those before it, and no less than those after it. -/
structure FirstHighest (before : List ServiceLevel) (top : ServiceLevel)
    (after : List ServiceLevel) : Prop where
  less : ∀ k ∈ before, k.total < top.total
  most : ∀ k ∈ after, k.total ≤ top.total

theorem FirstHighest.highest (first : FirstHighest before c after) :
    Highest (before ++ c :: after) c := by
  intro k member
  rcases List.mem_append.mp member with early | here
  · exact Int.le_of_lt (first.less k early)
  · rcases List.mem_cons.mp here with rfl | late
    · exact Int.le_refl _
    · exact first.most k late

theorem FirstHighest.earliest (first : FirstHighest before c after)
    (around : Around before c after) :
    ∀ k ∈ before ++ c :: after, Highest (before ++ c :: after) k → c.startDate ≤ k.startDate := by
  intro k member same
  rcases List.mem_append.mp member with early | here
  · have inC : c ∈ before ++ c :: after := List.mem_append_right before List.mem_cons_self
    exact absurd (same c inC) (Int.not_le.mpr (first.less k early))
  · exact (around.mem_later.mp here).2

theorem FirstHighest.concat_more (first : FirstHighest before c after) (more : c.total < l.total) :
    FirstHighest (before ++ c :: after) l [] where
  less k member := Int.lt_of_le_of_lt (first.highest k member) more
  most := by simp

theorem FirstHighest.concat (first : FirstHighest before c after) (less : l.total ≤ c.total) :
    FirstHighest before c (after ++ [l]) where
  less := first.less
  most := by
    intro k member
    rcases List.mem_append.mp member with late | last
    · exact first.most k late
    · rwa [List.mem_singleton.mp last]

theorem busiest_split (nonneg : ∀ l ∈ weeks, 0 ≤ l.total) (given : weeks ≠ []) :
    ∃ before top after, weeks = before ++ top :: after ∧ FirstHighest before top after ∧
      busiest weeks = (top.total, before.length) := by
  -- The search compares each week with the best of those before it, so weeks are added at the end.
  induction weeks using List.reverseRecOn with
  | nil => exact absurd rfl given
  | append_singleton earlier l ih =>
    have positive : 0 ≤ l.total := nonneg l (by simp)
    rw [busiest_concat]
    by_cases none : earlier = []
    · subst none
      have more : (busiest []).1 < l.total := Int.lt_of_lt_of_le (by decide) positive
      exact ⟨[], l, [], rfl, ⟨by simp, by simp⟩, if_pos more⟩
    · obtain ⟨before, top, after, split, first, best⟩ :=
        ih (fun k member => nonneg k (List.mem_append_left _ member)) none
      rw [best]
      by_cases more : top.total < l.total
      · exact ⟨earlier, l, [], rfl, split ▸ first.concat_more more, if_pos more⟩
      · exact ⟨before, top, after ++ [l], by simp [split], first.concat (Int.not_lt.mp more),
          if_neg more⟩

theorem isPoor_iff {total highest : Int} (low : 0 ≤ total ∧ total < 2 ^ 61)
    (high : 0 ≤ highest ∧ highest < 2 ^ 61) :
    isPoor total highest = true ↔ 4 * total < 3 * highest := by
  have fits {n : Int} (nonneg : 0 ≤ n) (small : n < 2 ^ 63) : Number.Range.int64.wrap n = n := by
    apply Number.Range.wrap_of_holds
    rw [Number.Range.holds_iff]
    simp only [Number.Range.int64]
    omega
  rw [isPoor, decide_eq_true_eq, fits (by omega) (by omega), fits (by omega) (by omega),
    Int.mul_comm total, Int.mul_comm highest]

theorem covers_of_lastCovering? {d : Date} {i : Nat} (found : lastCovering? weeks d = some i) :
    ∃ before l after, weeks = before ++ l :: after ∧ before.length = i ∧ l.covers d = true := by
  obtain ⟨⟨l, j⟩, last, rfl⟩ := Option.map_eq_some_iff.mp found
  obtain ⟨listed, covers⟩ := List.mem_filter.mp (List.mem_of_getLast? last)
  obtain ⟨bound, here⟩ := List.getElem?_eq_some_iff.mp (List.mem_zipIdx_iff_getElem?.mp listed)
  refine ⟨weeks.take j, l, weeks.drop (j + 1), ?_, ?_, covers⟩
  · calc
      weeks = weeks.take j ++ weeks.drop j := (List.take_append_drop j weeks).symm
      _ = weeks.take j ++ weeks[j] :: weeks.drop (j + 1) := by
        rw [← List.drop_eq_getElem_cons bound]
      _ = _ := by rw [here]
  · exact List.length_take_of_le (Nat.le_of_lt bound)

theorem not_covers_of_lastCovering? {d : Date} (none : lastCovering? weeks d = none) :
    ∀ l ∈ weeks, ¬ l.covers d = true := by
  intro l member
  obtain ⟨i, at'⟩ := List.mem_iff_getElem?.mp member
  rw [lastCovering?, Option.map_eq_none_iff, List.getLast?_eq_none_iff, List.filter_eq_nil_iff]
    at none
  exact none (l, i) (List.mem_zipIdx_iff_getElem?.mpr at')

theorem not_isPoor_iff (separate : Separate weeks) (member : l ∈ weeks) :
    (!isPoor l.total (busiest weeks).1) = true ↔ Representative weeks l := by
  obtain ⟨before, top, after, rfl, first, best⟩ :=
    busiest_split (fun k inK => (separate.service k inK).1) (List.ne_nil_of_mem member)
  have inTop : top ∈ before ++ top :: after := List.mem_append_right before List.mem_cons_self
  rw [best, Bool.not_eq_true', ← Bool.not_eq_true,
    isPoor_iff (separate.service l member) (separate.service top inTop), Int.not_lt]
  constructor
  · intro enough k inK
    have less := first.highest k inK
    omega
  · intro rich
    exact rich top inTop

theorem chosenWeek_split (separate : Separate weeks) (successive : Successive weeks)
    (given : weeks ≠ []) (fetched : Date) :
    ∃ before c after, weeks = before ++ c :: after ∧ chosenWeek weeks fetched = before.length ∧
      IsChosen weeks fetched c := by
  obtain ⟨before, top, after, split, first, best⟩ :=
    busiest_split (fun l member => (separate.service l member).1) given
  have inTop : top ∈ weeks := by simp [split]
  have highest : Highest weeks top := split ▸ first.highest
  have earliest : ∀ k ∈ weeks, Highest weeks k → top.startDate ≤ k.startDate := by
    subst split
    exact first.earliest ⟨separate.days, successive⟩
  cases found : lastCovering? weeks fetched with
  | none =>
    refine ⟨before, top, after, split, by simp [chosenWeek, best, found], inTop, .inr ⟨?_, ?_⟩⟩
    · intro k member covers
      exact absurd covers (not_covers_of_lastCovering? found k member)
    · exact ⟨highest, earliest⟩
  | some i =>
    obtain ⟨front, c, rest, here, rfl, covers⟩ := covers_of_lastCovering? found
    have inC : c ∈ weeks := by simp [here]
    have at' : weeks[front.length]? = some c := by simp [here]
    have rich := not_isPoor_iff separate inC
    rw [best] at rich
    cases poor : isPoor c.total top.total with
    | true =>
      refine ⟨before, top, after, split, by simp [chosenWeek, best, found, at', poor], inTop,
        .inr ⟨?_, highest, earliest⟩⟩
      -- No other week has the day in which the feed was fetched, and this one is poor.
      intro k member also
      rw [separate.eq_of_shared member inC also covers, ← rich, poor]
      exact Bool.noConfusion
    | false =>
      exact ⟨front, c, rest, here, by simp [chosenWeek, best, found, at', poor], inC,
        .inl ⟨covers, rich.mp (by rw [poor]; rfl)⟩⟩

theorem IsChosen.representative (separate : Separate levels) {c : ServiceLevel}
    (chosen : IsChosen levels fetched c) : Representative levels c := by
  obtain ⟨inC, ⟨_, rich⟩ | ⟨_, highest, _⟩⟩ := chosen
  · exact rich
  · intro k member
    have less := highest k member
    have nonneg := (separate.service c inC).1
    omega

theorem IsChosen.unique (separate : Separate levels) {c k : ServiceLevel}
    (chosen : IsChosen levels fetched c) (other : IsChosen levels fetched k) : k = c := by
  obtain ⟨inC, ⟨covers, rich⟩ | ⟨poor, highest, earliest⟩⟩ := chosen
  · obtain ⟨inK, ⟨also, _⟩ | ⟨none, _⟩⟩ := other
    · exact separate.eq_of_shared inK inC also covers
    · exact absurd rich (none c inC covers)
  · obtain ⟨inK, ⟨covers, rich⟩ | ⟨_, most, first⟩⟩ := other
    · exact absurd rich (poor k inK covers)
    · exact separate.eq_of_start inK inC
        (Date.eq_of_le (first c inC highest) (earliest k inK most))

/-! ## The stretch around it -/

/-- The last week before the first poor one, from a week on. -/
def reach (rich : ServiceLevel → Bool) (c : ServiceLevel) : List ServiceLevel → ServiceLevel
  | [] => c
  | l :: rest => if rich l then reach rich l rest else c

variable {rich : ServiceLevel → Bool}

/-- Along weeks in order of some key, the week reached is the farthest up to which all are rich. -/
theorem reach_farthest {key : ServiceLevel → Int} {rest : List ServiceLevel} {c : ServiceLevel}
    (sorted : (c :: rest).Pairwise fun a b => key a < key b) (chosen : rich c = true) :
    reach rich c rest ∈ c :: rest ∧ key c ≤ key (reach rich c rest) ∧
      (∀ l ∈ c :: rest, key l ≤ key (reach rich c rest) → rich l = true) ∧
      ∀ b ∈ c :: rest, (∀ l ∈ c :: rest, key l ≤ key b → rich l = true) →
        key b ≤ key (reach rich c rest) := by
  induction rest generalizing c with
  | nil => simp [reach, chosen]
  | cons l rest ih =>
    obtain ⟨later, tail⟩ := List.pairwise_cons.mp sorted
    have next : key c < key l := later l List.mem_cons_self
    unfold reach
    by_cases isRich : rich l = true
    · rw [if_pos isRich]
      obtain ⟨member, grows, all, farthest⟩ := ih tail isRich
      refine ⟨List.mem_cons_of_mem c member, by omega, ?_, ?_⟩
      · intro k inAll before
        rcases List.mem_cons.mp inAll with rfl | inRest
        · exact chosen
        · exact all k inRest before
      · intro b inAll upTo
        rcases List.mem_cons.mp inAll with rfl | inRest
        · omega
        · exact farthest b inRest fun k member => upTo k (List.mem_cons_of_mem c member)
    · rw [if_neg isRich]
      refine ⟨List.mem_cons_self, Int.le_refl _, ?_, ?_⟩
      · intro k inAll before
        rcases List.mem_cons.mp inAll with rfl | inRest
        · exact chosen
        · exact absurd before (Int.not_le.mpr (later k inRest))
      · intro b inAll upTo
        rcases List.mem_cons.mp inAll with rfl | inRest
        · exact Int.le_refl _
        -- A week beyond `l` would have the poor week `l` before it.
        · refine absurd (upTo l (List.mem_cons_of_mem c List.mem_cons_self) ?_) isRich
          rcases List.mem_cons.mp inRest with rfl | further
          · exact Int.le_refl _
          · exact Int.le_of_lt (List.rel_of_pairwise_cons tail further)

theorem min_of_le {a b : Date} (before : a ≤ b) : a.min b = a :=
  if_neg (Int.not_lt.mpr before)

theorem max_of_lt {a b : Date} (before : b < a) : a.max b = a :=
  if_neg (Int.not_le.mpr before)

theorem foldl_later {start : Date} {rest : List ServiceLevel} (c : ServiceLevel)
    (after : ∀ l ∈ rest, start ≤ l.startDate) :
    (rest.takeWhile rich).foldl (fun (range : Date × Date) w =>
      (range.1.min w.startDate, w.endDate)) (start, c.endDate) =
        (start, (reach rich c rest).endDate) := by
  induction rest generalizing c with
  | nil => rfl
  | cons l rest ih =>
    unfold reach
    by_cases isRich : rich l = true
    · rw [List.takeWhile_cons_of_pos isRich, List.foldl_cons, if_pos isRich,
        min_of_le (after l List.mem_cons_self)]
      exact ih l fun k member => after k (List.mem_cons_of_mem l member)
    · rw [List.takeWhile_cons_of_neg isRich, if_neg isRich]
      rfl

theorem foldl_earlier {stop : Date} {rest : List ServiceLevel} (c : ServiceLevel)
    (before : ∀ l ∈ rest, l.endDate < stop) :
    (rest.takeWhile rich).foldl (fun (range : Date × Date) w =>
      (w.startDate, range.2.max w.endDate)) (c.startDate, stop) =
        ((reach rich c rest).startDate, stop) := by
  induction rest generalizing c with
  | nil => rfl
  | cons l rest ih =>
    unfold reach
    by_cases isRich : rich l = true
    · rw [List.takeWhile_cons_of_pos isRich, List.foldl_cons, if_pos isRich,
        max_of_lt (before l List.mem_cons_self)]
      exact ih l fun k member => before k (List.mem_cons_of_mem l member)
    · rw [List.takeWhile_cons_of_neg isRich, if_neg isRich]
      rfl

/-- The weeks reached on both sides are the ends of the longest stretch. -/
theorem Around.longestStretch (around : Around before c after)
    (isRich : ∀ l ∈ before ++ c :: after,
      rich l = true ↔ Representative (before ++ c :: after) l) (chosen : rich c = true) :
    LongestStretch (before ++ c :: after) c (reach rich c before.reverse) (reach rich c after) := by
  obtain ⟨inLast, ends, upTo, last⟩ := reach_farthest around.later chosen
  obtain ⟨inFirst, starts, downTo, first⟩ := reach_farthest around.earlier chosen
  refine ⟨⟨(around.mem_earlier.mp inFirst).1, (around.mem_later.mp inLast).1,
    (around.mem_earlier.mp inFirst).2, ends, ?_⟩, ?_⟩
  · intro l member afterFirst beforeLast
    refine (isRich l member).mp ?_
    rcases Int.le_total l.startDate.day c.startDate.day with early | late
    · exact downTo l (around.mem_earlier.mpr ⟨member, early⟩) (Int.neg_le_neg afterFirst)
    · exact upTo l (around.mem_later.mpr ⟨member, late⟩) beforeLast
  · rintro a b ⟨inA, inB, startsA, endsB, all⟩
    constructor
    · refine Int.neg_le_neg_iff.mp (first a (around.mem_earlier.mpr ⟨inA, startsA⟩) ?_)
      intro l early lower
      obtain ⟨member, upper⟩ := around.mem_earlier.mp early
      exact (isRich l member).mpr
        (all l member (Int.neg_le_neg_iff.mp lower) (Int.le_trans upper endsB))
    · refine last b (around.mem_later.mpr ⟨inB, endsB⟩) ?_
      intro l late upper
      obtain ⟨member, lower⟩ := around.mem_later.mp late
      exact (isRich l member).mpr (all l member (Int.le_trans startsA lower) upper)

theorem Around.grow_eq (around : Around before c after)
    (at' : chosenWeek (before ++ c :: after) fetched = before.length)
    (isRich : rich = fun l => !isPoor l.total (busiest (before ++ c :: after)).1)
    (chosen : rich c = true) :
    grow (before ++ c :: after) fetched =
      ((reach rich c before.reverse).startDate, (reach rich c after).endDate) := by
  have stop : ∀ l ∈ before.reverse, l.endDate < (reach rich c after).endDate := by
    intro l member
    obtain ⟨inLast, _⟩ := reach_farthest around.later chosen
    have apart := (List.pairwise_append.mp around.successive).2.2 l (List.mem_reverse.mp member) _
      inLast
    have days := around.days _ (List.mem_append_right before inLast)
    simp only [Date.le_def, Date.lt_def] at apart days ⊢
    omega
  have start : ∀ l ∈ after, c.startDate ≤ l.startDate := fun l member =>
    Int.le_of_lt (List.rel_of_pairwise_cons around.later member)
  unfold grow
  simp only [at', ← isRich]
  rw [List.drop_left' rfl, List.take_left' rfl, List.takeWhile_cons_of_pos chosen]
  simp only [List.foldl_cons, List.getElem?_append_right (Nat.le_refl _), Nat.sub_self,
    List.getElem?_cons_zero, Option.getD_some, min_of_le (Int.le_refl _)]
  rw [foldl_later c start, foldl_earlier c stop]

theorem grow_longest (separate : Separate weeks) (successive : Successive weeks)
    (given : weeks ≠ []) (fetched : Date) :
    ∃ c first last, IsChosen weeks fetched c ∧ LongestStretch weeks c first last ∧
      grow weeks fetched = (first.startDate, last.endDate) := by
  obtain ⟨before, c, after, rfl, at', chosen⟩ := chosenWeek_split separate successive given fetched
  have around : Around before c after := ⟨separate.days, successive⟩
  have isRich (l : ServiceLevel) (member : l ∈ before ++ c :: after) :=
    not_isPoor_iff separate member
  have rich := (isRich c chosen.1).mpr (chosen.representative separate)
  exact ⟨c, _, _, chosen, around.longestStretch isRich rich, around.grow_eq at' rfl rich⟩

/-- A feed that declares no dates has a window from any service levels with days of their own and
with service of which a word can hold the fourfold: there is one chosen week, and the window begins
with the first and ends with the last week of the longest stretch of representative weeks around it.
The order in which the levels are given does not matter. -/
theorem window_longest_stretch (fetched : Date) {info : Option FeedInfo}
    (undeclared : declared? info = none) {levels : List ServiceLevel} (given : levels ≠ [])
    (separate : Separate levels) :
    ∃ chosen first last w, IsChosen levels fetched chosen ∧
      (∀ c, IsChosen levels fetched c → c = chosen) ∧
      LongestStretch levels chosen first last ∧ derive? fetched info levels = some w ∧
      w.startDate = first.startDate ∧ w.endDate = last.endDate ∧
      ∀ other, other.Perm levels → derive? fetched info other = some w := by
  have sorted := separate.of_perm (perm_inOrder levels)
  obtain ⟨start, rest, _, weeks, _⟩ := exists_derive fetched info given
  have some' : inOrder levels ≠ [] := weeks ▸ List.cons_ne_nil start rest
  obtain ⟨c, first, last, chosen, ⟨stretch, longest⟩, grown⟩ :=
    grow_longest sorted separate.successive some' fetched
  have isChosen := isChosen_inOrder.mp chosen
  have range : days fetched info (start :: rest) = (first.startDate, last.endDate) := by
    rw [days, undeclared, Option.getD_none, ← weeks, grown]
  have derived := derive?_of_inOrder fetched info weeks
  rw [range] at derived
  refine ⟨c, first, last, _, isChosen, fun k other => isChosen.unique separate other,
    ⟨stretch_inOrder.mp stretch, fun a b part => longest a b (stretch_inOrder.mpr part)⟩, derived,
    rfl, rfl, ?_⟩
  intro other same
  rw [derive?_congr (inOrder_of_perm separate same), derived]

/-- Five weeks from 4 June 2018 on, the first and the last of which are poor. -/
def fiveWeeks : List ServiceLevel :=
  [evenWeek 17686 1, evenWeek 17693 10, evenWeek 17700 10, evenWeek 17707 9, evenWeek 17714 2]

theorem successive_fiveWeeks : Successive fiveWeeks := by
  decide

theorem separate_fiveWeeks : Separate fiveWeeks where
  days := by decide
  apart := successive_fiveWeeks.imp Or.inl
  service := by decide

/-- Fetched in the second week, the window has the three weeks in the middle, also if the weeks are
given in reverse. -/
theorem window_longest_stretch_of_five :
    declared? none = none ∧ fiveWeeks ≠ [] ∧ Separate fiveWeeks ∧
      IsChosen fiveWeeks ⟨17695⟩ (evenWeek 17693 10) ∧
      derive? ⟨17695⟩ none fiveWeeks.reverse = some ⟨⟨17693⟩, ⟨17713⟩, ⟨17693⟩⟩ := by
  have given : fiveWeeks ≠ [] := List.cons_ne_nil _ _
  obtain ⟨_, _, _, w, _, _, _, derived, _, _, anyOrder⟩ :=
    window_longest_stretch ⟨17695⟩ (rfl : declared? none = none) given separate_fiveWeeks
  have inOrder' : inOrder fiveWeeks = fiveWeeks :=
    inOrder_of_ordered (successive_fiveWeeks.imp_of_mem fun inA _ apart =>
      Int.le_of_lt (Int.lt_of_le_of_lt (separate_fiveWeeks.days _ inA) apart))
  have window : derive? ⟨17695⟩ none fiveWeeks = some ⟨⟨17693⟩, ⟨17713⟩, ⟨17693⟩⟩ :=
    derive?_of_inOrder _ _ inOrder'
  have chosen : IsChosen fiveWeeks ⟨17695⟩ (evenWeek 17693 10) := by
    refine ⟨by simp [fiveWeeks], .inl ⟨by decide, ?_⟩⟩
    unfold Representative
    decide
  refine ⟨rfl, given, separate_fiveWeeks, chosen, ?_⟩
  rw [anyOrder _ (List.reverse_perm _), ← derived, window]

end ServiceWindow

end Transit
