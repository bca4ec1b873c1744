import Transit.Error
import Transit.Json.Writer
set_option autoImplicit false

/-!
Queries for the rows that belong to many parents at once. Each parent comes with a filter and a
limit; the parents that share both are asked for together, and each gets back its own rows. Filters
are compared by their JSON text.
-/

namespace Transit

/-- A parent's key with the filter and the limit for its rows. -/
structure Param (κ ω : Type) where
  key : κ
  limit : Option Int := none
  filter : Option ω := none
  deriving DecidableEq, Repr, Inhabited

/-- The most rows that one parent gets. -/
def maxGroupLimit : Nat := 1000

/-- A limit that is absent or not positive is the greatest one, which nothing exceeds. -/
def groupLimit : Option Int → Nat
  | some n => if 0 < n then min n.toNat maxGroupLimit else maxGroupLimit
  | none => maxGroupLimit

namespace Param

variable {κ ω τ : Type}

/-- A query answers one row list for each key, in the order of the keys. -/
abbrev Answer (τ : Type) := Except LookupError (List (List τ))

/-- A query may have effects. -/
abbrev Query (m : Type → Type) (κ ω τ : Type) := List κ → Option ω → Nat → m (Answer τ)

/-- The parents of one shape, in their order, with the filter of the first. -/
structure Group (κ ω : Type) where
  filter : Option ω
  limit : Option Int
  keys : List κ
  deriving DecidableEq, Repr

def wrongCount (lists keys : Nat) : LookupError :=
  .backend ("grouped query returned " ++ toString lists ++ " row lists for " ++ toString keys
    ++ " keys")

/-- What each member of a group gets: its rows up to the limit, or the error of the whole group. -/
def Group.shares (g : Group κ ω) : Answer τ → List (Except LookupError (List τ))
  | .error e => g.keys.map fun _ => .error e
  | .ok lists =>
    if lists.length == g.keys.length then
      lists.map fun rows => .ok (rows.take (groupLimit g.limit))
    else g.keys.map fun _ => .error (wrongCount lists.length g.keys.length)

/-- Take the first answer off the pile of a shape. -/
def draw {ς α : Type} [BEq ς] (s : ς) : List (ς × List α) → Option (α × List (ς × List α))
  | [] => none
  | (t, pile) :: rest =>
    if t == s then
      match pile with
      | [] => none
      | a :: pile => some (a, (t, pile) :: rest)
    else (draw s rest).map fun (a, rest) => (a, (t, pile) :: rest)

/-- Give each in turn the next answer from the pile of its shape. -/
def deal {ς α : Type} [BEq ς] : List ς → List (ς × List α) → List α
  | [], _ => []
  | s :: rest, piles =>
    match draw s piles with
    | none => []
    | some (a, piles) => a :: deal rest piles

variable [Json.Encoded ω]

/-- The text that stands for a filter in comparisons; no filter has none. -/
def encoding : Option ω → String
  | none => ""
  | some f => (Json.Encoded.toJson f).text

/-- What parents have to share to be asked for together. -/
def shape (p : Param κ ω) : String × Option Int := (encoding p.filter, p.limit)

/-- The shapes in the order in which they first appear. -/
def shapes (params : List (Param κ ω)) : List (String × Option Int) :=
  (params.map shape).eraseDups

def group (params : List (Param κ ω)) (s : String × Option Int) : Group κ ω where
  filter := (params.find? (·.shape == s)).bind (·.filter)
  limit := s.2
  keys := (params.filter (·.shape == s)).map (·.key)

def groups (params : List (Param κ ω)) : List (Group κ ω) :=
  (shapes params).map (group params)

/-- The answers of all parents, in their order. The query runs once for each group. -/
def groupQueryM {m : Type → Type} [Monad m] (query : Query m κ ω τ) (params : List (Param κ ω)) :
    m (List (Except LookupError (List τ))) := do
  let piles ← (shapes params).mapM fun s => do
    let g := group params s
    return (s, g.shares (← query g.keys g.filter (groupLimit g.limit)))
  return deal (params.map shape) piles

/-- The answers to a query without effects. -/
def groupQuery (query : Query Id κ ω τ) (params : List (Param κ ω)) :
    List (Except LookupError (List τ)) :=
  (groupQueryM query params).run

end Param

end Transit
