import Transit.Proofs.Field.Mutations
set_option autoImplicit false

/-!
# The gate in front of commands

Whatever a command is given and whatever the warehouse holds, the role of the caller alone decides
whether access is denied: without the role nothing is looked at, changed or counted, and with it the
command may fail for other reasons only (`Operation.role_gate`).
-/

namespace Transit

/-- A command of any kind. -/
inductive Operation
  | mutation (m : Mutation)
  | fetchVersion (url : Option String) (file : Option (List UInt8))
  | fetchRealtime (url urlType : String)
  | fetchBikeShare (url : String)
  | enqueueFetches (feeds : List String)
  | validateFeed (url : Option String) (file : Option (List UInt8))

namespace Operation

abbrev Answer : Operation → Type
  | .mutation m => m.Answer
  | .fetchVersion .. => FetchResult
  | .fetchRealtime .. => Unit
  | .fetchBikeShare _ => Unit
  | .enqueueFetches _ => Nat
  | .validateFeed .. => ValidationResult

def perform : (o : Operation) → Resolve o.Answer
  | .mutation m => m.perform
  | .fetchVersion url file => Command.fetchVersion url file
  | .fetchRealtime url urlType => Command.fetchRealtime url urlType
  | .fetchBikeShare url => Command.fetchBikeShare url
  | .enqueueFetches feeds => Command.enqueueFetches feeds
  | .validateFeed url file => Command.validateFeed url file

/-- Anybody with a name may have a feed validated; all else is for administrators. -/
def Admits (u : User) : Operation → Prop
  | .validateFeed .. => u.name ≠ ""
  | _ => Role.admin ∈ u.roles

end Operation

/-! ## Fields that turn nobody away -/

namespace Resolve

variable {α β : Type} {r : Resolve α} {f : α → Resolve β}

/-- Where the field fails it is not for want of a role. -/
def Open (r : Resolve α) : Prop := ∀ g, (r.run.run g).1 ≠ .error .accessDenied

theorem Open.bind (first : r.Open) (rest : ∀ a, (f a).Open) : (r >>= f).Open := by
  intro g denied
  obtain ⟨last, ended⟩ := run_of_answer denied
  rcases run_bind_error ended with early | ⟨a, next, _, later⟩
  · exact first g (congrArg Prod.fst early)
  · exact rest a next (congrArg Prod.fst later)

theorem open_pure (a : α) : (pure a : Resolve α).Open :=
  fun _ => nofun

theorem open_throw {cause : FieldError} (other : cause ≠ .accessDenied) :
    (throw cause : Resolve α).Open :=
  fun _ denied => other (Except.error.inj denied)

theorem open_task (t : Task α) : (task t).Open := by
  intro g
  have ran : (task t).run.run g = (.ok (t.run g).1, (t.run g).2) := Task.run_bind t _ g
  rw [ran]
  exact nofun

/-- What fails in the warehouse is no matter of roles. -/
theorem ofLookup_ne_accessDenied (field : String) (cause : LookupError) :
    FieldError.ofLookup field cause ≠ .accessDenied := by
  cases cause <;> exact nofun

theorem open_on (field : String) (t : Task (Except LookupError α)) : (on field t).Open := by
  intro g
  rw [run_on]
  cases (t.run g).1 with
  | ok a => exact nofun
  | error cause => exact fun denied => ofLookup_ne_accessDenied field cause (Except.error.inj denied)

/-- What comes behind a gate is reached by callers with the role and by nobody else. -/
theorem run_gated (open_ : r.Open) (role : String) (g : Gateway) :
    let gated : Resolve α := do requireRole role; r
    (g.request.user.hasRole role = false → gated.run.run g = (.error .accessDenied, g)) ∧
      (g.request.user.hasRole role = true → (gated.run.run g).1 ≠ .error .accessDenied) := by
  dsimp only
  rw [run_bind, run_requireRole, User.requireRole]
  cases g.request.user.hasRole role with
  | false => exact ⟨fun _ => rfl, fun has => absurd has Bool.false_ne_true⟩
  | true => exact ⟨fun lacks => absurd lacks.symm Bool.false_ne_true, fun _ => open_ g⟩

end Resolve

/-! ## Commands behind their gates -/

namespace Command

theorem open_reload (r : Reference) (entity : String) (id : Int) : (reload r entity id).Open := by
  refine (Resolve.open_task _).bind fun found => ?_
  cases found with
  | none => exact Resolve.open_throw nofun
  | some row => exact Resolve.open_pure row

theorem open_edit {α : Type} (method : String) (change : Warehouse → Warehouse.Edited α) :
    (edit method change).Open :=
  Resolve.open_on method _

theorem open_requireId (id : Option Int) : (requireId id).Open := by
  unfold requireId
  split
  · exact Resolve.open_throw nofun
  · exact Resolve.open_pure ()

theorem open_requireUrl (url : String) : (requireUrl url).Open := by
  unfold requireUrl
  split
  · exact Resolve.open_throw nofun
  · exact Resolve.open_pure ()

theorem open_versionBySha1 (sha1 : String) : (versionBySha1 sha1).Open := by
  refine (Resolve.open_task _).bind fun found => ?_
  cases found.head? with
  | none => exact Resolve.open_throw nofun
  | some v => exact Resolve.open_pure v

/-- A change of the version that a checksum names. -/
theorem open_onVersion {α : Type} (sha1 method : String)
    (change : FeedVersion → Warehouse → Warehouse.Edited Unit) (answer : α) :
    (do
      let v ← versionBySha1 sha1
      edit method (change v)
      return answer : Resolve α).Open :=
  (open_versionBySha1 sha1).bind fun _ => (open_edit _ _).bind fun _ => Resolve.open_pure _

end Command

theorem User.hasRole_admin {u : User} : u.hasRole Role.admin = true ↔ Role.admin ∈ u.roles :=
  List.contains_iff_mem

theorem User.hasRole_user {u : User} : u.hasRole Role.user = true ↔ u.name ≠ "" := by
  have named : u.hasRole Role.user = !u.isAnonymous := rfl
  rw [named, User.isAnonymous, Bool.not_eq_true', beq_eq_false_iff_ne]

namespace Operation

open Command

/-- A command begins with a role, which admits the callers that the command is for; after that it
turns nobody away. -/
structure Gated (o : Operation) (role : String) (rest : Resolve o.Answer) : Prop where
  begins : o.perform = do Resolve.requireRole role; rest
  isOpen : rest.Open
  admits : ∀ u : User, u.hasRole role = true ↔ o.Admits u

theorem gated_edit (e : Edit) : ∃ rest, Gated (.mutation (.edit e)) Role.admin rest := by
  cases e with
  | create t input =>
    obtain ⟨method, begins⟩ := Mutation.perform_create t input
    exact ⟨_, begins, (open_edit _ _).bind fun _ => open_reload _ _ _, fun _ => User.hasRole_admin⟩
  | update t input =>
    obtain ⟨method, begins⟩ := Mutation.perform_update t input
    exact ⟨_, begins, (open_requireId _).bind fun _ => (open_edit _ _).bind fun _ =>
      open_reload _ _ _, fun _ => User.hasRole_admin⟩
  | delete t rowId =>
    obtain ⟨method, change, _, begins⟩ := Mutation.perform_delete t rowId
    exact ⟨_, begins, (open_edit _ _).bind fun _ => Resolve.open_pure _,
      fun _ => User.hasRole_admin⟩

theorem exists_gated (o : Operation) : ∃ role rest, o.Gated role rest := by
  cases o with
  | mutation m =>
    cases m with
    | edit e => exact ⟨_, gated_edit e⟩
    | importing sha1 => exact ⟨_, _, rfl, open_onVersion sha1 _ _ _, fun _ => User.hasRole_admin⟩
    | unimporting sha1 => exact ⟨_, _, rfl, open_onVersion sha1 _ _ _, fun _ => User.hasRole_admin⟩
    | deleting sha1 => exact ⟨_, _, rfl, open_onVersion sha1 _ _ _, fun _ => User.hasRole_admin⟩
  | fetchVersion url file =>
    refine ⟨_, _, rfl, ?_, fun _ => User.hasRole_admin⟩
    split
    · refine Resolve.Open.bind (Resolve.open_throw ?_) fun _ => Resolve.open_pure _
      exact nofun
    · exact Resolve.open_pure _
  | fetchRealtime url urlType =>
    refine ⟨_, _, rfl, ?_, fun _ => User.hasRole_admin⟩
    have goesOn : (do
        requireUrl url
        Resolve.on "feed_rt_fetch" (pure (.error (.unsupported "realtime fetch"))) :
          Resolve Unit).Open :=
      (open_requireUrl url).bind fun _ => Resolve.open_on _ _
    split
    · refine Resolve.Open.bind (Resolve.open_throw ?_) fun _ => goesOn
      exact nofun
    · exact goesOn
  | fetchBikeShare url =>
    exact ⟨_, _, rfl, (open_requireUrl url).bind fun _ => Resolve.open_on _ _,
      fun _ => User.hasRole_admin⟩
  | enqueueFetches feeds =>
    exact ⟨_, _, rfl, (Resolve.open_task _).bind fun _ => Resolve.open_pure _,
      fun _ => User.hasRole_admin⟩
  | validateFeed url file =>
    exact ⟨_, _, rfl, Resolve.open_pure _, fun _ => User.hasRole_user⟩

/-- A caller that a command is not for is denied access, and nothing at all has changed: no row, no
job and no count of calls. A caller that it is for is never denied access, whatever else may be wrong
with the command. -/
theorem role_gate (o : Operation) (g : Gateway) :
    (¬ o.Admits g.request.user → o.perform.run.run g = (.error .accessDenied, g)) ∧
      (o.Admits g.request.user → (o.perform.run.run g).1 ≠ .error .accessDenied) := by
  obtain ⟨role, rest, begins, isOpen, admits⟩ := o.exists_gated
  rw [begins, ← admits, Bool.not_eq_true]
  exact Resolve.run_gated isOpen role g

/-- An editor who is no administrator, and a stop that does not exist. -/
theorem role_gate_of_editor :
    let g := Mutation.stationGateway.startRequest { name := "ian", roles := ["editor"] }
    let missing : Operation := .mutation (.edit (.delete .stops 5))
    Role.admin ∉ g.request.user.roles ∧ missing.perform.run.run g = (.error .accessDenied, g) ∧
      (missing.perform.run.run Mutation.stationGateway).1 ≠ .error .accessDenied := by
  intro g missing
  have outside : Role.admin ∉ g.request.user.roles := by decide
  have inside : Role.admin ∈ Mutation.stationGateway.request.user.roles :=
    List.mem_singleton.mpr rfl
  exact ⟨outside, (role_gate missing g).1 outside,
    (role_gate missing Mutation.stationGateway).2 inside⟩

end Operation

end Transit
