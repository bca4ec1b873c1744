import Transit.Loader.Param
set_option autoImplicit false

/-!
# Grouped queries answer each parent

The answers of a group lie on one pile for each shape, and `deal` takes from the pile of a shape once
for each parent of that shape: what the `i`-th parent gets is the entry at its rank among the parents
of its shape (`getElem?_deal`). So the outcome of a grouped query is fixed by the answers to its calls
(`groupQueryM_run`, `getElem?_shares`), and the calls are those of the groups, in their order
(`groupQueryM_recording`). A query that answers each key by itself gives the same rows to a parent
whether the parent is asked for alone or in a group: `groupQuery_pointwise`.
-/

namespace Transit

namespace Param

section Deal

variable {ς α : Type} [BEq ς] [LawfulBEq ς]

/-- Taking an answer off the pile of a shape leaves the other piles alone. -/
theorem draw_of_lookup {s : ς} {first : α} {pile : List α} {piles : List (ς × List α)}
    (found : piles.lookup s = some (first :: pile)) :
    ∃ rest, draw s piles = some (first, rest) ∧ rest.lookup s = some pile ∧
      ∀ t, t ≠ s → rest.lookup t = piles.lookup t := by
  induction piles with
  | nil => simp at found
  | cons entry others ih =>
    obtain ⟨shape, answers⟩ := entry
    by_cases same : shape = s
    · subst same
      obtain rfl : answers = first :: pile := by simpa using found
      refine ⟨(shape, pile) :: others, by simp [draw], by simp, ?_⟩
      intro t other
      rw [List.lookup_cons, List.lookup_cons, beq_eq_false_iff_ne.mpr other]
    · have differs : (s == shape) = false := beq_eq_false_iff_ne.mpr (Ne.symm same)
      rw [List.lookup_cons, differs] at found
      obtain ⟨rest, drawn, own, lookups⟩ := ih found
      refine ⟨(shape, answers) :: rest, by simp [draw, same, drawn], ?_, ?_⟩
      · rw [List.lookup_cons, differs]
        exact own
      · intro t other
        rw [List.lookup_cons, List.lookup_cons, lookups t other]

/-- Every shape has a pile with an answer for each time that it is drawn. -/
def Stacked (shapes : List ς) (piles : List (ς × List α)) : Prop :=
  ∀ s ∈ shapes, ∃ pile, piles.lookup s = some pile ∧ shapes.count s ≤ pile.length

theorem Stacked.draw {s : ς} {rest : List ς} {piles : List (ς × List α)}
    (stacked : Stacked (s :: rest) piles) :
    ∃ first pile remaining, piles.lookup s = some (first :: pile) ∧
      draw s piles = some (first, remaining) ∧ remaining.lookup s = some pile ∧
      (∀ t, t ≠ s → remaining.lookup t = piles.lookup t) ∧ Stacked rest remaining := by
  obtain ⟨pile, found, enough⟩ := stacked s List.mem_cons_self
  rw [List.count_cons_self] at enough
  cases pile with
  | nil => simp at enough
  | cons first pile =>
    obtain ⟨remaining, drawn, own, lookups⟩ := draw_of_lookup found
    refine ⟨first, pile, remaining, found, drawn, own, lookups, ?_⟩
    intro t member
    by_cases same : t = s
    · subst same
      exact ⟨pile, own, by simpa using enough⟩
    · obtain ⟨other, foundOther, enoughOther⟩ := stacked t (List.mem_cons_of_mem _ member)
      rw [List.count_cons_of_ne (Ne.symm same)] at enoughOther
      exact ⟨other, by rw [lookups t same, foundOther], enoughOther⟩

theorem length_deal {shapes : List ς} {piles : List (ς × List α)} (stacked : Stacked shapes piles) :
    (deal shapes piles).length = shapes.length := by
  induction shapes generalizing piles with
  | nil => rfl
  | cons s rest ih =>
    obtain ⟨first, pile, remaining, -, drawn, -, -, others⟩ := stacked.draw
    simp only [deal, drawn, List.length_cons, ih others]

/-- What is dealt out at a place is the entry, on the pile of its shape, at its rank among the
places of that shape. -/
theorem getElem?_deal {shapes : List ς} {piles : List (ς × List α)} (stacked : Stacked shapes piles)
    {i : Nat} {s : ς} (at_i : shapes[i]? = some s) :
    (deal shapes piles)[i]? = (piles.lookup s).bind (·[(shapes.take i).count s]?) := by
  -- The first place takes one answer off the pile of its shape, so ranks on that pile fall by one.
  induction shapes generalizing piles i with
  | nil => simp at at_i
  | cons first rest ih =>
    obtain ⟨answer, pile, remaining, found, drawn, own, lookups, others⟩ := stacked.draw
    simp only [deal, drawn]
    cases i with
    | zero =>
      obtain rfl : first = s := by simpa using at_i
      simp [found]
    | succ i =>
      rw [List.getElem?_cons_succ] at at_i ⊢
      rw [ih others at_i, List.take_succ_cons]
      by_cases same : s = first
      · subst same
        rw [own, found, List.count_cons_self]
        rfl
      · rw [lookups s same, List.count_cons_of_ne (Ne.symm same)]

end Deal

section Shares

variable {κ ω τ : Type}

/-- What the member of a group at a rank gets: its own rows up to the limit, or the error of the
group. -/
def Group.share (g : Group κ ω) (rank : Nat) : Answer τ → Except LookupError (List τ)
  | .error e => .error e
  | .ok lists =>
    if lists.length = g.keys.length then .ok ((lists.getD rank []).take (groupLimit g.limit))
    else .error (wrongCount lists.length g.keys.length)

theorem Group.share_ok {g : Group κ ω} {lists : List (List τ)}
    (sized : lists.length = g.keys.length) (rank : Nat) :
    g.share rank (.ok lists) = .ok ((lists.getD rank []).take (groupLimit g.limit)) :=
  if_pos sized

theorem getElem?_shares (g : Group κ ω) (answer : Answer τ) {rank : Nat}
    (inGroup : rank < g.keys.length) : (g.shares answer)[rank]? = some (g.share rank answer) := by
  cases answer with
  | error e => simp [Group.shares, Group.share, inGroup]
  | ok lists =>
    by_cases sized : lists.length = g.keys.length
    · have inLists : rank < lists.length := sized ▸ inGroup
      simp [Group.shares, Group.share, sized, List.getD, List.getElem?_eq_getElem inLists]
    · simp [Group.shares, Group.share, sized, inGroup]

theorem length_shares (g : Group κ ω) (answer : Answer τ) :
    (g.shares answer).length = g.keys.length := by
  cases answer with
  | error e => simp [Group.shares]
  | ok lists => by_cases sized : lists.length = g.keys.length <;> simp [Group.shares, sized]

end Shares

section Distinct

variable {α β : Type} [BEq α] [LawfulBEq α] [BEq β] [LawfulBEq β]

omit [LawfulBEq α] in
/-- What holds of a list without the repetitions of its first element carries over to the list. -/
theorem eraseDups_induction {motive : List α → Prop} (nil : motive [])
    (cons : ∀ a as, motive (as.filter fun b => !b == a) → motive (a :: as)) (as : List α) :
    motive as := by
  induction size : as.length using Nat.strongRecOn generalizing as with
  | ind n ih =>
    cases as with
    | nil => exact nil
    | cons a as =>
      refine cons a as (ih _ ?_ _ rfl)
      have shorter := List.length_filter_le (fun b => !b == a) as
      simp only [List.length_cons] at size
      omega

theorem nodup_eraseDups (as : List α) : as.eraseDups.Nodup := by
  induction as using eraseDups_induction with
  | nil => simp
  | cons a as ih => simp [List.eraseDups_cons, List.nodup_cons, List.mem_eraseDups, ih]

/-- First appearances are the same after a map that keeps the elements apart. -/
theorem eraseDups_map {f : α → β} {as : List α}
    (injective : ∀ a ∈ as, ∀ b ∈ as, f a = f b → a = b) :
    (as.map f).eraseDups = as.eraseDups.map f := by
  induction as using eraseDups_induction with
  | nil => simp
  | cons a as ih =>
    have apart : ∀ b ∈ as, (!f b == f a) = !b == a := by
      intro b member
      by_cases same : b = a
      · simp [same]
      · have images : f b ≠ f a := fun equal =>
          same (injective b (List.mem_cons_of_mem _ member) a List.mem_cons_self equal)
        rw [beq_eq_false_iff_ne.mpr same, beq_eq_false_iff_ne.mpr images]
    have smaller := ih fun b inB c inC => injective b
      (List.mem_cons_of_mem _ (List.mem_filter.mp inB).1) c
      (List.mem_cons_of_mem _ (List.mem_filter.mp inC).1)
    rw [List.map_cons, List.eraseDups_cons, List.eraseDups_cons, List.map_cons, List.filter_map,
      ← smaller]
    congr 3
    exact List.filter_congr apart

end Distinct

section Groups

variable {κ ω τ : Type} [Json.Encoded ω]

theorem mem_shapes {params : List (Param κ ω)} {s : String × Option Int} :
    s ∈ shapes params ↔ ∃ p ∈ params, p.shape = s := by
  rw [shapes, List.mem_eraseDups, List.mem_map]

theorem nodup_shapes (params : List (Param κ ω)) : (shapes params).Nodup :=
  nodup_eraseDups _

theorem count_shapes (params : List (Param κ ω)) (s : String × Option Int) :
    (params.map shape).count s = (group params s).keys.length := by
  rw [group, List.length_map, List.count, List.countP_map, List.countP_eq_length_filter]
  rfl

/-- The number of parents of the same shape before the `i`-th parent. -/
def rank (params : List (Param κ ω)) (i : Nat) (s : String × Option Int) : Nat :=
  ((params.map shape).take i).count s

theorem rank_lt {params : List (Param κ ω)} {i : Nat} {p : Param κ ω} (at_i : params[i]? = some p) :
    rank params i p.shape < (group params p.shape).keys.length := by
  obtain ⟨inside, rfl⟩ := List.getElem?_eq_some_iff.mp at_i
  rw [← count_shapes, rank]
  calc
    ((params.map shape).take i).count params[i].shape
        < ((params.map shape).take (i + 1)).count params[i].shape := by
      rw [List.take_succ_eq_append_getElem (by simpa using inside), List.count_append]
      simp
    _ ≤ (params.map shape).count params[i].shape :=
      (List.take_sublist _ _).count_le _

theorem getElem?_keys {params : List (Param κ ω)} {i : Nat} {p : Param κ ω}
    (at_i : params[i]? = some p) :
    (group params p.shape).keys[rank params i p.shape]? = some p.key := by
  induction params generalizing i with
  | nil => simp at at_i
  | cons first rest ih =>
    cases i with
    | zero =>
      obtain rfl : first = p := by simpa using at_i
      simp [group, rank]
    | succ i =>
      rw [List.getElem?_cons_succ] at at_i
      have later := ih at_i
      simp only [group, rank, List.map_cons, List.take_succ_cons] at later ⊢
      by_cases same : first.shape = p.shape
      · simpa [List.filter_cons, same] using later
      · simpa [List.filter_cons, same, List.count_cons_of_ne] using later

/-- The piles of a grouped query: what each group's answer gives to its members. -/
def piles (params : List (Param κ ω)) (answers : List (Answer τ)) :
    List ((String × Option Int) × List (Except LookupError (List τ))) :=
  (shapes params).zipWith (fun s answer => (s, (group params s).shares answer)) answers

/-- The pile of a shape comes from the answer at the shape's place. -/
theorem lookup_zipWith {ς α β : Type} [BEq ς] [LawfulBEq ς] (share : ς → α → β) {shapes : List ς}
    (distinct : shapes.Nodup) {answers : List α} {k : Nat} {s : ς} {answer : α}
    (here : shapes[k]? = some s) (answered : answers[k]? = some answer) :
    (shapes.zipWith (fun s a => (s, share s a)) answers).lookup s = some (share s answer) := by
  induction shapes generalizing answers k with
  | nil => simp at here
  | cons first rest ih =>
    cases answers with
    | nil => simp at answered
    | cons a others =>
      cases k with
      | zero =>
        obtain rfl : first = s := by simpa using here
        obtain rfl : a = answer := by simpa using answered
        simp
      | succ k =>
        rw [List.getElem?_cons_succ] at here answered
        have differs : s ≠ first := by
          rintro rfl
          exact (List.nodup_cons.mp distinct).1 (List.mem_of_getElem? here)
        rw [List.zipWith_cons_cons, List.lookup_cons, beq_eq_false_iff_ne.mpr differs]
        exact ih (List.nodup_cons.mp distinct).2 here answered

def Group.ask {m : Type → Type} (query : Query m κ ω τ) (g : Group κ ω) : m (Answer τ) :=
  query g.keys g.filter (groupLimit g.limit)

theorem mapM_map_zipWith {m : Type → Type} [Monad m] [LawfulMonad m] {α β γ : Type} (f : α → m β)
    (h : α → β → γ) (xs : List α) :
    xs.mapM (fun x => h x <$> f x) = (xs.zipWith h ·) <$> xs.mapM f := by
  induction xs with
  | nil => simp
  | cons x rest ih => simp [List.mapM_cons, ih]

/-- A grouped query asks once for each group, in the order of the groups, and deals out the
answers. -/
theorem groupQueryM_eq {m : Type → Type} [Monad m] [LawfulMonad m] (query : Query m κ ω τ)
    (params : List (Param κ ω)) :
    groupQueryM query params = (fun answers => deal (params.map shape) (piles params answers)) <$>
      (groups params).mapM (Group.ask query) := by
  have asked := mapM_map_zipWith (fun s => Group.ask query (group params s))
    (fun s answer => (s, (group params s).shares answer)) (shapes params)
  simp only [Group.ask] at asked
  simp only [groupQueryM, groups, List.mapM_map, bind_pure_comp, asked, Functor.map_map]
  rfl

theorem length_mapM_run {σ α β : Type} (f : α → StateM σ β) (xs : List α) (s : σ) :
    ((xs.mapM f).run s).1.length = xs.length := by
  induction xs generalizing s with
  | nil => rfl
  | cons x rest ih =>
    have later := ih ((f x).run s).2
    rw [List.mapM_cons, List.length_cons, ← later]
    rfl

theorem stacked_piles {params : List (Param κ ω)} {answers : List (Answer τ)}
    (all : answers.length = (groups params).length) :
    Stacked (params.map shape) (piles params answers) := by
  intro s member
  obtain ⟨k, place⟩ := List.mem_iff_getElem?.mp (List.mem_eraseDups.mpr member : s ∈ shapes params)
  have inside : k < answers.length := by
    rw [all, groups, List.length_map]
    exact (List.getElem?_eq_some_iff.mp place).1
  refine ⟨_, lookup_zipWith _ (nodup_shapes params) place (List.getElem?_eq_getElem inside), ?_⟩
  exact Nat.le_of_eq (by rw [length_shares, count_shapes])

theorem getElem?_deal_piles {params : List (Param κ ω)} {answers : List (Answer τ)}
    (all : answers.length = (groups params).length) {k : Nat} {answer : Answer τ}
    (answered : answers[k]? = some answer) {i : Nat} {p : Param κ ω} (at_i : params[i]? = some p)
    (place : (shapes params)[k]? = some p.shape) :
    (deal (params.map shape) (piles params answers))[i]? =
      ((group params p.shape).shares answer)[rank params i p.shape]? := by
  have shape_i : (params.map shape)[i]? = some p.shape := by rw [List.getElem?_map, at_i]; rfl
  rw [getElem?_deal (stacked_piles all) shape_i, piles,
    lookup_zipWith (fun s answer => (group params s).shares answer) (nodup_shapes params) place
      answered]
  rfl

theorem exists_place {params : List (Param κ ω)} {i : Nat} {p : Param κ ω}
    (at_i : params[i]? = some p) : ∃ k : Nat, (shapes params)[k]? = some p.shape :=
  List.mem_iff_getElem?.mp (mem_shapes.mpr ⟨p, List.mem_of_getElem? at_i, rfl⟩)

/-- A query with the list of the calls made of it. -/
def recording {σ : Type} (query : Query (StateM σ) κ ω τ) :
    Query (StateM (σ × List (List κ × Option ω × Nat))) κ ω τ :=
  fun keys filter limit => fun (s, calls) =>
    let (answer, s') := query keys filter limit s
    (answer, s', calls ++ [(keys, filter, limit)])

omit [Json.Encoded ω] in
theorem mapM_ask_recording {σ : Type} (query : Query (StateM σ) κ ω τ) (gs : List (Group κ ω))
    (s : σ) (calls : List (List κ × Option ω × Nat)) :
    (gs.mapM (Group.ask (recording query))).run (s, calls) =
      (((gs.mapM (Group.ask query)).run s).1, ((gs.mapM (Group.ask query)).run s).2,
        calls ++ gs.map fun g => (g.keys, g.filter, groupLimit g.limit)) := by
  induction gs generalizing s calls with
  | nil => exact congrArg (fun made => ([], s, made)) (List.append_nil calls).symm
  | cons g rest ih =>
    have later := ih ((Group.ask query g).run s).2
      (calls ++ [(g.keys, g.filter, groupLimit g.limit)])
    rw [List.append_assoc] at later
    rw [List.mapM_cons, List.mapM_cons, List.map_cons]
    calc
      _ = (((Group.ask query g).run s).1 ::
            ((rest.mapM (Group.ask (recording query))).run (((Group.ask query g).run s).2,
              calls ++ [(g.keys, g.filter, groupLimit g.limit)])).1,
          ((rest.mapM (Group.ask (recording query))).run (((Group.ask query g).run s).2,
            calls ++ [(g.keys, g.filter, groupLimit g.limit)])).2) := rfl
      _ = _ := by rw [later]; rfl

theorem groupQueryM_run {σ : Type} (query : Query (StateM σ) κ ω τ) (params : List (Param κ ω))
    (s : σ) :
    (groupQueryM query params).run s =
      (deal (params.map shape) (piles params (((groups params).mapM (Group.ask query)).run s).1),
        (((groups params).mapM (Group.ask query)).run s).2) := by
  rw [groupQueryM_eq]
  rfl

theorem getElem?_groupQueryM {σ : Type} {query : Query (StateM σ) κ ω τ} {params : List (Param κ ω)}
    {s : σ} {k : Nat} {answer : Answer τ}
    (answered : (((groups params).mapM (Group.ask query)).run s).1[k]? = some answer)
    {i : Nat} {p : Param κ ω} (at_i : params[i]? = some p)
    (place : (shapes params)[k]? = some p.shape) :
    ((groupQueryM query params).run s).1[i]? =
      some ((group params p.shape).share (rank params i p.shape) answer) := by
  rw [groupQueryM_run, getElem?_deal_piles (length_mapM_run _ _ _) answered at_i place,
    getElem?_shares _ _ (rank_lt at_i)]

/-- The query is called once for each group, in the order of the groups. -/
theorem groupQueryM_recording {σ : Type} (query : Query (StateM σ) κ ω τ)
    (params : List (Param κ ω)) (s : σ) :
    (groupQueryM (recording query) params).run (s, []) =
      (((groupQueryM query params).run s).1, ((groupQueryM query params).run s).2,
        (groups params).map fun g => (g.keys, g.filter, groupLimit g.limit)) := by
  rw [groupQueryM_run, groupQueryM_run, mapM_ask_recording]
  rfl

/-- No parent has the text of this one for a different filter. -/
def Apart (params : List (Param κ ω)) (p : Param κ ω) : Prop :=
  ∀ q ∈ params, encoding p.filter = encoding q.filter → p.filter = q.filter

/-- No two parents have one text for different filters. -/
def Separated (params : List (Param κ ω)) : Prop :=
  ∀ p ∈ params, ∀ q ∈ params, encoding p.filter = encoding q.filter → p.filter = q.filter

theorem Separated.apart {params : List (Param κ ω)} (separated : Separated params) {p : Param κ ω}
    (member : p ∈ params) : Apart params p :=
  separated p member

theorem filter_group {params : List (Param κ ω)} {p : Param κ ω} (apart : Apart params p)
    (member : p ∈ params) : (group params p.shape).filter = p.filter := by
  rw [group]
  cases found : params.find? (·.shape == p.shape) with
  | none =>
    have differs := List.find?_eq_none.mp found p member
    simp at differs
  | some first =>
    have same : first.shape = p.shape := by simpa using List.find?_some found
    exact (apart first (List.mem_of_find?_eq_some found) (Prod.mk.inj same).1.symm).symm

section Pointwise

variable {query : Query Id κ ω τ} (rows : Option ω → Nat → κ → List τ)
  (pointwise : ∀ keys filter limit, query keys filter limit = .ok (keys.map (rows filter limit)))
  {params : List (Param κ ω)}

theorem groupQuery_eq (query : Query Id κ ω τ) (params : List (Param κ ω)) :
    groupQuery query params =
      deal (params.map shape) (piles params ((groups params).map (Group.ask (m := Id) query))) := by
  have asked := List.mapM_pure (m := Id) (l := groups params) (f := Group.ask (m := Id) query)
  rw [groupQuery, groupQueryM_eq]
  exact congrArg (fun answers => deal (params.map shape) (piles params answers)) asked

theorem length_groupQuery (query : Query Id κ ω τ) (params : List (Param κ ω)) :
    (groupQuery query params).length = params.length := by
  rw [groupQuery_eq, length_deal (stacked_piles (List.length_map _)), List.length_map]

include pointwise

/-- A query that answers key by key gives a parent its own rows, up to its limit, whatever the
filters of the others. -/
theorem getElem?_groupQuery {i : Nat} {p : Param κ ω} (at_i : params[i]? = some p)
    (apart : Apart params p) :
    (groupQuery query params)[i]? =
      some (.ok ((rows p.filter (groupLimit p.limit) p.key).take (groupLimit p.limit))) := by
  obtain ⟨k, place⟩ := exists_place at_i
  have answered : ((groups params).map (Group.ask (m := Id) query))[k]? =
      some (Group.ask query (group params p.shape)) := by
    rw [List.getElem?_map, groups, List.getElem?_map, place]
    rfl
  have key := getElem?_keys at_i
  have limit : (group params p.shape).limit = p.limit := rfl
  rw [groupQuery_eq, getElem?_deal_piles (List.length_map _) answered at_i place,
    getElem?_shares _ _ (rank_lt at_i), Group.ask, pointwise,
    filter_group apart (List.mem_of_getElem? at_i), Group.share_ok (List.length_map _),
    List.getD_eq_getElem?_getD, List.getElem?_map, key, limit]
  rfl

theorem groupQuery_pointwise (separated : Separated params) :
    groupQuery query params = params.map fun p =>
      .ok ((rows p.filter (groupLimit p.limit) p.key).take (groupLimit p.limit)) := by
  refine List.ext_getElem? ?_
  intro i
  rw [List.getElem?_map]
  cases at_i : params[i]? with
  | none =>
    refine List.getElem?_eq_none ?_
    rw [length_groupQuery]
    exact List.getElem?_eq_none_iff.mp at_i
  | some p =>
    exact getElem?_groupQuery rows pointwise at_i (separated.apart (List.mem_of_getElem? at_i))

end Pointwise

end Groups

end Param

end Transit
