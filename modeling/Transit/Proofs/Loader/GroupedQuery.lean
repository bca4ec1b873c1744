import Transit.Proofs.Json.Writer
import Transit.Proofs.Loader.Grouping
import Transit.Proofs.Record.Filter
set_option autoImplicit false

/-!
# A grouped query answers like one query for each parent

Filters with finite numbers are told apart by their texts (`separated_of_finite`), so the shapes of
the parents stand for their filters and limits (`grouped_like_single`). An infinite number has no
text of its own: `infinite_radii_mixed`.
-/

namespace Transit

open Json (Encoded LawfulEncoded IsFinite)

namespace Param

variable {κ ω τ : Type} [Encoded ω]

/-- Every number in the filters of the parents is finite. -/
def FiniteFilters (params : List (Param κ ω)) : Prop :=
  ∀ p ∈ params, ∀ f ∈ p.filter, IsFinite (Encoded.toJson f)

theorem encoding_injective [LawfulEncoded ω] {f g : Option ω}
    (finiteF : ∀ a ∈ f, IsFinite (Encoded.toJson a)) (finiteG : ∀ a ∈ g, IsFinite (Encoded.toJson a))
    (same : encoding f = encoding g) : f = g := by
  cases f with
  | none =>
    cases g with
    | none => rfl
    | some b => exact absurd same.symm (Json.text_ne_empty (finiteG b rfl))
  | some a =>
    cases g with
    | none => exact absurd same (Json.text_ne_empty (finiteF a rfl))
    | some b =>
      exact congrArg some
        (LawfulEncoded.injective (Json.text_injective (finiteF a rfl) (finiteG b rfl) same))

/-- A parent without a filter is apart from all others, since every filter has a text. -/
theorem apart_of_unfiltered {p : Param κ ω} (unfiltered : p.filter = none)
    (written : ∀ f : ω, (Encoded.toJson f).text ≠ "") (params : List (Param κ ω)) :
    Apart params p := by
  intro q _ same
  rw [unfiltered] at same ⊢
  cases other : q.filter with
  | none => rfl
  | some f =>
    rw [other] at same
    exact absurd same.symm (written f)

theorem separated_of_finite [LawfulEncoded ω] {params : List (Param κ ω)}
    (finite : FiniteFilters params) : Separated params :=
  fun p inP q inQ same => encoding_injective (finite p inP) (finite q inQ) same

def arguments (p : Param κ ω) : Option ω × Option Int := (p.filter, p.limit)

theorem shape_eq_iff {params : List (Param κ ω)} (separated : Separated params) {p q : Param κ ω}
    (inP : p ∈ params) (inQ : q ∈ params) : p.shape = q.shape ↔ p.arguments = q.arguments := by
  constructor
  · intro same
    obtain ⟨texts, limits⟩ := Prod.mk.inj same
    exact Prod.ext (separated p inP q inQ texts) limits
  · intro same
    obtain ⟨filters, limits⟩ := Prod.mk.inj same
    rw [shape, shape, filters, limits]

theorem group_arguments {params : List (Param κ ω)} (separated : Separated params) {p : Param κ ω}
    (member : p ∈ params) :
    ((group params p.shape).filter, (group params p.shape).limit) = p.arguments :=
  Prod.ext (filter_group (separated.apart member) member) rfl

variable [DecidableEq ω]

theorem groups_arguments {params : List (Param κ ω)} (separated : Separated params) :
    (groups params).map (fun g => (g.filter, g.limit)) = (params.map arguments).eraseDups := by
  -- the shape of a parent is a function of its arguments that keeps them apart
  have shapeOf : params.map shape =
      (params.map arguments).map fun a => (encoding a.1, a.2) := by
    rw [List.map_map]
    rfl
  have apart : ∀ a ∈ params.map arguments, ∀ b ∈ params.map arguments,
      (encoding a.1, a.2) = (encoding b.1, b.2) → a = b := by
    intro a inA b inB same
    obtain ⟨p, inP, rfl⟩ := List.mem_map.mp inA
    obtain ⟨q, inQ, rfl⟩ := List.mem_map.mp inB
    exact (shape_eq_iff separated inP inQ).mp same
  rw [groups, shapes, shapeOf, eraseDups_map apart, List.map_map, List.map_map]
  refine (List.map_congr_left ?_).trans (List.map_id _)
  intro a member
  obtain ⟨p, inP, rfl⟩ := List.mem_map.mp (List.mem_eraseDups.mp member)
  exact group_arguments separated inP

theorem group_keys {params : List (Param κ ω)} (separated : Separated params) {p : Param κ ω}
    (member : p ∈ params) : (group params p.shape).keys =
      (params.filter fun q => q.arguments = p.arguments).map (·.key) := by
  refine congrArg (List.map _) (List.filter_congr ?_)
  intro q inQ
  rw [Bool.eq_iff_iff, beq_iff_eq, decide_eq_true_eq]
  exact shape_eq_iff separated inQ member

theorem rank_eq_countP {params : List (Param κ ω)} (separated : Separated params) (i : Nat)
    {p : Param κ ω} (member : p ∈ params) :
    rank params i p.shape = (params.take i).countP (fun q => q.arguments = p.arguments) := by
  rw [rank, ← List.map_take, List.count, List.countP_map]
  refine List.countP_congr ?_
  intro q inFront
  rw [Function.comp_apply, beq_iff_eq, decide_eq_true_eq]
  exact shape_eq_iff separated (List.mem_of_mem_take inFront) member

/-- With finite numbers in the filters, a grouped query gives every parent what a query for it alone
would give, up to its limit, provided that the query answers each key by itself. Any query is called
once for each pair of a filter and a limit, in the order of their first appearance, with the keys of
their parents in order; and what it answers to a call, or the error, goes to exactly these parents. -/
theorem grouped_like_single [LawfulEncoded ω] {params : List (Param κ ω)}
    (finite : FiniteFilters params) :
    (∀ (query : Query Id κ ω τ) (rows : Option ω → Nat → κ → List τ),
      (∀ keys filter limit, query keys filter limit = .ok (keys.map (rows filter limit))) →
      groupQuery query params = params.map fun p =>
        .ok ((rows p.filter (groupLimit p.limit) p.key).take (groupLimit p.limit))) ∧
    (groups params).map (fun g => (g.filter, g.limit)) = (params.map arguments).eraseDups ∧
    (∀ g ∈ groups params,
      g.keys = (params.filter fun p => p.arguments = (g.filter, g.limit)).map (·.key)) ∧
    ∀ (σ : Type) (query : Query (StateM σ) κ ω τ) (s : σ),
      (groupQueryM (recording query) params).run (s, []) =
        (((groupQueryM query params).run s).1, ((groupQueryM query params).run s).2,
          (groups params).map fun g => (g.keys, g.filter, groupLimit g.limit)) ∧
      (((groups params).mapM (Group.ask query)).run s).1.length = (groups params).length ∧
      ((groupQueryM query params).run s).1.length = params.length ∧
      ∀ (k : Nat) (g : Group κ ω) (answer : Answer τ), (groups params)[k]? = some g →
        (((groups params).mapM (Group.ask query)).run s).1[k]? = some answer →
        ∀ (i : Nat) (p : Param κ ω), params[i]? = some p → p.arguments = (g.filter, g.limit) →
          ((groupQueryM query params).run s).1[i]? = some
            (g.share ((params.take i).countP fun q => q.arguments = p.arguments) answer) := by
  have separated := separated_of_finite finite
  refine ⟨fun query rows pointwise => groupQuery_pointwise rows pointwise separated,
    groups_arguments separated, ?_, ?_⟩
  · intro g member
    obtain ⟨s, isShape, rfl⟩ := List.mem_map.mp member
    obtain ⟨p, inP, rfl⟩ := mem_shapes.mp isShape
    rw [group_arguments separated inP]
    exact group_keys separated inP
  · intro σ query s
    have all := length_mapM_run (Group.ask query) (groups params) s
    refine ⟨groupQueryM_recording query params s, all, ?_, ?_⟩
    · rw [groupQueryM_run, length_deal (stacked_piles all), List.length_map]
    · intro k g answer isGroup answered i p at_i sameArguments
      have member := List.mem_of_getElem? at_i
      rw [groups, List.getElem?_map] at isGroup
      obtain ⟨t, place, rfl⟩ := Option.map_eq_some_iff.mp isGroup
      obtain ⟨q, inQ, rfl⟩ := mem_shapes.mp (List.mem_of_getElem? place)
      rw [group_arguments separated inQ] at sameArguments
      have sameShape := (shape_eq_iff separated member inQ).mpr sameArguments
      rw [← sameShape] at place ⊢
      rw [getElem?_groupQueryM answered at_i place, rank_eq_countP separated i member]

def nearby (key : Int) (radius : Float) : Param Int RouteFilter where
  key := key
  filter := some { near := some ⟨0.0, 0.0, radius⟩ }

def tens : Query Id Int RouteFilter Int :=
  fun keys _ _ => .ok (keys.map fun k => [10 * k, 10 * k + 1])

theorem grouped_like_single_of_four :
    FiniteFilters [nearby 1 100.0, nearby 2 0.5, nearby 3 100.0, { nearby 4 100.0 with limit := some 1 }] ∧
    groupQuery tens
        [nearby 1 100.0, nearby 2 0.5, nearby 3 100.0, { nearby 4 100.0 with limit := some 1 }] =
      [.ok [10, 11], .ok [20, 21], .ok [30, 31], .ok [40]] := by
  have finite : FiniteFilters
      [nearby 1 100.0, nearby 2 0.5, nearby 3 100.0, { nearby 4 100.0 with limit := some 1 }] := by
    intro p member f isFilter
    simp only [List.mem_cons, List.not_mem_nil, or_false] at member
    rcases member with rfl | rfl | rfl | rfl
    all_goals
      obtain rfl := Option.some.inj isFilter
      exact ⟨trivial, trivial, trivial, trivial, trivial, trivial, trivial, trivial,
        ⟨⟨_, rfl⟩, ⟨_, rfl⟩, ⟨_, rfl⟩, trivial⟩, trivial, trivial⟩
  refine ⟨finite, ?_⟩
  rw [(grouped_like_single finite).1 tens (fun _ _ k => [10 * k, 10 * k + 1]) fun _ _ _ => rfl]
  rfl

/-- A query that answers every key with the filter that it is given. -/
def echo : Query Id Int RouteFilter (Option RouteFilter) :=
  fun keys filter _ => .ok (keys.map fun _ => [filter])

/-- Infinities are written alike, so the second parent gets the rows of the first one's filter; and
the two zeros, which are equal, are written differently and asked for apart. -/
theorem infinite_radii_mixed :
    let infinity := Float.ofBits 0x7FF0000000000000
    let zero := Float.ofBits 0
    let minusZero := Float.ofBits 0x8000000000000000
    infinity.isNaN = false ∧ (-infinity).isNaN = false ∧
    (nearby 1 infinity).filter ≠ (nearby 2 (-infinity)).filter ∧
    groupQuery echo [nearby 1 infinity, nearby 2 (-infinity)] =
      [.ok [(nearby 1 infinity).filter], .ok [(nearby 1 infinity).filter]] ∧
    (zero == minusZero) = true ∧
    groups [nearby 1 zero, nearby 2 minusZero] =
      [⟨(nearby 1 zero).filter, none, [1]⟩, ⟨(nearby 2 minusZero).filter, none, [2]⟩] := by
  decide +kernel

end Param

end Transit
