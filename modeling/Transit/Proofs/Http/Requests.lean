import Transit.Http.Service
import Transit.Proofs.Selection.Commands
set_option autoImplicit false

/-!
# What requests of the web service leave as it is

A request of the web service consults the warehouse and does nothing else, unless it imports a feed
version; then it leaves what is remembered as it is (`Http.Request.serve_cases`). Either way it
leaves the zones of stops as they are (`Http.Request.steady_serve`).
-/

namespace Transit.Http

open Gateway (Consulted Steady SameAnswers SameMemory lasting_consulted lasting_steady
  lasting_sameMemory)

/-! ## Views of rows -/

namespace RowView

theorem consults_draft (r : StopTime) : Consults (draft r) := by
  refine r.consults_arrival.bind fun _ => r.consults_departure.bind fun _ =>
    r.consults_scheduleRelationship.bind fun _ => ?_
  split
  · exact (Resolve.stays_on (Task.consults_addedTrip _ _)).bind fun _ => .pure _ _
  · exact .pure _ _

theorem consults_draftUntil (rows : List StopTime) : (draftUntil rows).Consults := by
  induction rows with
  | nil => trivial
  | cons r rest ih =>
    refine (consults_draft r).within.bind fun drafted => ?_
    cases drafted with
    | error e => trivial
    | ok d => exact ih.bind fun _ => trivial

theorem consults_draftEach (rows : List StopTime) : (draftEach rows).Consults := by
  induction rows with
  | nil => trivial
  | cons r rest ih =>
    refine (consults_draft r).within.bind fun drafted => ?_
    cases drafted with
    | error e => exact ih
    | ok d => exact ih.bind fun _ => trivial

theorem consults_loadTrips (drafts : List Draft) : Consults (Resolve.task (loadTrips drafts)) :=
  Resolve.stays_task fun _ => trivial

theorem consults_ofRows (rows : List StopTime) : Consults (ofRows rows) := by
  refine (Resolve.stays_task (consults_draftUntil rows)).bind fun (drafts, failed) => ?_
  cases failed with
  | none => exact (consults_loadTrips drafts).bind fun _ => Resolve.stays_ofExcept _ _
  | some left =>
    dsimp only
    split
    · exact (Resolve.stays_task (consults_draftEach left.2)).bind fun _ =>
        (consults_loadTrips _).bind fun _ => .throw _ _
    · exact .throw _ _

end RowView

/-! ## Handlers -/

namespace Handler

variable {R S : Gateway → Gateway → Prop}

/-- If the query is understood, what is resolved stays within a relation. -/
def Stays (R : Gateway → Gateway → Prop) (h : Handler) : Prop := ∀ r ∈ h, Transit.Stays R r

theorem Stays.of_some {r : Resolve Json} (stays : Transit.Stays R r) : Stays R (some r) :=
  fun _ resolved => Option.mem_some.mp resolved ▸ stays

theorem Stays.bind {α : Type} (read : Option α) {f : α → Handler} (rest : ∀ a, Stays R (f a)) :
    Stays R (read >>= f) := by
  cases read with
  | none => exact fun _ nothing => nomatch nothing
  | some a => exact rest a

theorem Stays.mono {h : Handler} (stays : h.Stays R) (weaker : ∀ g next, R g next → S g next) :
    h.Stays S :=
  fun r resolved => (stays r resolved).mono weaker

theorem consults_agencies (q : Query) : (agencies q).Stays Consulted :=
  .bind _ fun _ => .bind _ fun _ => .bind _ fun _ => .bind _ fun _ => .bind _ fun _ =>
    .bind _ fun _ => .of_some ((Root.consults_agencies _).bind fun _ => .pure _ _)

theorem consults_routes (q : Query) : (routes q).Stays Consulted :=
  .bind _ fun _ => .bind _ fun _ => .bind _ fun _ => .bind _ fun _ => .bind _ fun _ =>
    .bind _ fun _ => .of_some ((Root.consults_routes _).bind fun _ => .pure _ _)

theorem consults_stopRows {rows : Stop → Option Int → Option StopTimeFilter →
    Resolve (List StopTime)} (consults : ∀ s limit filter, Consults (rows s limit filter))
    (stop : String) (q : Query) : (stopRows rows stop q).Stays Consulted := by
  refine .bind _ fun _ => .bind _ fun id => .bind _ fun (limit, filter) => .of_some ?_
  refine (Resolve.consults_row .stop id "stop").bind fun found => ?_
  cases found with
  | none => exact .throw _ _
  | some s =>
    exact (consults s limit filter).bind fun _ =>
      (RowView.consults_ofRows _).bind fun _ => .pure _ _

theorem consults_vehicles (q : Query) : (vehicles q).Stays Consulted :=
  .bind _ fun _ => .bind _ fun _ => .bind _ fun _ => .bind _ fun _ =>
    .of_some ((Root.consults_vehiclePositions _ _).bind fun _ => .pure _ _)

theorem consults_feedAlerts (feed : String) (q : Query) : (feedAlerts feed q).Stays Consulted := by
  refine .bind _ fun _ => .bind _ fun active => .bind _ fun limit => .of_some ?_
  refine (Root.consults_feeds _).bind fun found => ?_
  cases found.head? with
  | none => exact .throw _ _
  | some f => exact (f.consults_alerts active limit).bind fun _ => .pure _ _

/-- A target consults the warehouse and nothing else, or it imports a feed version. -/
theorem consults_or_imports (q : Query) (target : Target) :
    (of q target).Stays Consulted ∨ ∃ sha1, target = .importVersion sha1 := by
  cases target with
  | health => exact .inl (.of_some (.pure _ _))
  | agencies => exact .inl (consults_agencies q)
  | routes => exact .inl (consults_routes q)
  | stopTimes stop => exact .inl (consults_stopRows Stop.consults_stopTimes stop q)
  | departures stop => exact .inl (consults_stopRows Stop.consults_departures stop q)
  | vehicles => exact .inl (consults_vehicles q)
  | feedAlerts feed => exact .inl (consults_feedAlerts feed q)
  | me => exact .inl (.of_some (Root.consults_me.bind fun _ => .pure _ _))
  | importVersion sha1 => exact .inr ⟨sha1, rfl⟩

theorem keepsZones_importVersion (sha1 : String) : (importVersion sha1).Stays Steady :=
  .bind _ fun sha1 => .of_some
    ((Mutation.keepsZones_onVersion _ sha1 .importing _).bind fun _ => .pure _ _)

theorem remembers_importVersion (sha1 : String) : (importVersion sha1).Stays SameMemory :=
  .bind _ fun sha1 => .of_some
    ((Mutation.remembers_onVersion _ sha1 .importing _).bind fun _ => .pure _ _)

theorem Stays.respond {h : Handler} (stays : h.Stays R) : h.respond.Within R := by
  cases h with
  | none => trivial
  | some resolve =>
    refine (stays resolve rfl).within.bind fun answer => ?_
    cases answer <;> trivial

end Handler

namespace Request

/-- A request consults the warehouse, or it imports a feed version. -/
theorem within_respond (r : Request) : r.respond.Within Consulted ∨
    r.respond.Within SameMemory ∧ r.respond.Within Steady := by
  unfold respond
  dsimp only
  split
  · exact .inl trivial
  · split
    · rename_i target _ _
      rcases Handler.consults_or_imports (Query.ofChars r.splitTarget.2) target with
        consults | ⟨sha1, rfl⟩
      · exact .inl (consults.respond.bind fun _ => trivial)
      · exact .inr ⟨(Handler.remembers_importVersion sha1).respond.bind fun _ => trivial,
          (Handler.keepsZones_importVersion sha1).respond.bind fun _ => trivial⟩
    · exact .inl trivial

theorem serve_gateway (r : Request) (g : Gateway) : (r.serve g).2 =
    { (r.respond.run (g.startRequest (r.caller g.granted))).2 with request := g.request } :=
  rfl

/-- The gateway answers as before once a request has been served, or at least what it remembered and
the zones of stops are as they were. -/
theorem serve_cases (r : Request) : (∀ g, SameAnswers g (r.serve g).2) ∨
    (∀ g, SameMemory g (r.serve g).2) ∧ ∀ g, Steady g (r.serve g).2 := by
  rcases r.within_respond with consults | ⟨remembers, keeps⟩
  · refine .inl fun g => ?_
    have served := consults.run lasting_consulted (g.startRequest (r.caller g.granted))
    rw [serve_gateway]
    exact ⟨served.warehouse, served.ids, id⟩
  · refine .inr ⟨fun g => ?_, fun g => ?_⟩
    · have served := remembers.run lasting_sameMemory (g.startRequest (r.caller g.granted))
      rw [serve_gateway]
      exact ⟨served.ids, id⟩
    · have served := keeps.run lasting_steady (g.startRequest (r.caller g.granted))
      rw [serve_gateway]
      exact ⟨served.warehouse, served.found, id⟩

theorem steady_serve (r : Request) (g : Gateway) : Steady g (r.serve g).2 := by
  rcases r.serve_cases with same | ⟨_, keeps⟩
  · exact (same g).steady
  · exact keeps g

end Request

end Transit.Http
