import Transit.Http.Service
import Transit.Proofs.Http.Views
set_option autoImplicit false

/-!
# The rows of a stop over the web

The response with the rows of a stop depends on the query, which is read before anything else, and
on what the stop shows and the views of its rows (`serve_stopRows`).
-/

namespace Transit.Http

/-- The views of what the stop with an id shows. -/
def stopPage (g : Gateway) (id : Int) (limit : Option Int) (filter : StopTimeFilter) :
    Except FieldError (List RowView) :=
  match Reference.find? g.warehouse id .stop with
  | none => .error (.notFound "stop" (toString id))
  | some s => do (← s.shown g limit filter).mapM (RowView.viewOf g)

/-- A response with views, or with the reason why there are none. -/
def pageResponse : Except FieldError (List RowView) → Response
  | .ok views => .ok (.ofList RowView.toJson views)
  | .error e => .ofError e

theorem status_ofError (e : FieldError) : (Response.ofError e).status ≠ 200 := by
  cases e <;> simp [Response.ofError, Response.statusOf]

theorem status_pageResponse {page : Except FieldError (List RowView)}
    (good : (pageResponse page).status = 200) : ∃ views, page = .ok views := by
  cases page with
  | error e => exact absurd good (status_ofError e)
  | ok views => exact ⟨views, rfl⟩

/-- What a query asks for: a stop, up to how many of its rows, and which. -/
abbrev RowsQuery := Int × Option Int × StopTimeFilter

namespace Handler

/-- The query for the rows of a stop, unless it cannot be read. -/
def stopQuery? (narrow : StopTimeFilter → StopTimeFilter) (stop : String) (q : Query) :
    Option RowsQuery := do
  let id ← Number.intOfText? .int64 (← segmentText? stop)
  let (limit, filter) ← rowsQuery? q
  some (id, limit, narrow filter)

theorem respond_page (g : Gateway) (id : Int) {limit : Option Int} {filter : StopTimeFilter}
    {rows : Stop → Resolve (List StopTime)} (same : ∀ s, rows s = s.display limit filter) :
    (Handler.respond (some (do
        match ← Resolve.row .stop id "stop" with
        | none => throw (.notFound "stop" (toString id))
        | some s => return Json.ofList RowView.toJson (← RowView.ofRows (← rows s))))).Ends g
      (pageResponse (stopPage g id limit filter)) := by
  refine Task.Ends.bind (Resolve.Ends.bind_ok (b := do
    return Json.ofList RowView.toJson (← stopPage g id limit filter))
    (Resolve.ends_row g .stop id "stop") ?_) ?_
  · unfold stopPage
    cases Reference.find? g.warehouse id .stop with
    | none => exact Task.ends_pure _ g
    | some s =>
      dsimp only
      rw [same, bind_assoc]
      refine (Stop.display_ends s g limit filter).bind fun rows _ => ?_
      exact (RowView.ofRows_ends g rows).bind fun views _ => Task.ends_pure _ g
  · cases stopPage g id limit filter <;> exact Task.ends_pure _ g

/-- A query that can be read leads to the page of a stop. -/
theorem stopRows_run (rows : Stop → Option Int → Option StopTimeFilter → Resolve (List StopTime))
    (narrow : StopTimeFilter → StopTimeFilter)
    (same : ∀ s limit filter, rows s limit (some filter) = s.display limit (narrow filter))
    (stop : String) (q : Query) {g : Gateway} (active : g.Active) :
    ((Handler.respond (stopRows rows stop q)).run g).1 =
      match stopQuery? narrow stop q with
      | none => .badRequest
      | some (id, limit, filter) => pageResponse (stopPage g id limit filter) := by
  unfold stopRows stopQuery?
  cases segmentText? stop with
  | none => rfl
  | some text =>
    dsimp only [Option.bind_eq_bind, Option.bind_some]
    cases Number.intOfText? .int64 text with
    | none => rfl
    | some id =>
      dsimp only [Option.bind_some]
      cases rowsQuery? q with
      | none => rfl
      | some asked =>
        obtain ⟨limit, filter⟩ := asked
        exact (respond_page g id fun s => same s limit filter).of_active active

end Handler

namespace Request

def target? (r : Request) : Option Target :=
  Target.ofSegments? ((r.splitTarget.1.splitOn '/').map String.ofList)

/-- The request is one for the rows of a stop. -/
inductive AsksForRows (r : Request) : Prop
  | stopTimes (stop : String) (leads : r.target? = some (.stopTimes stop))
  | departures (stop : String) (leads : r.target? = some (.departures stop))

/-- The rows that a request asks for. Departures are the rows of a narrower filter. -/
def rowsQuery? (r : Request) : Option RowsQuery :=
  match r.target? with
  | some (.stopTimes stop) => Handler.stopQuery? id stop (Query.ofChars r.splitTarget.2)
  | some (.departures stop) =>
    Handler.stopQuery? ({ · with excludeLast := some true }) stop (Query.ofChars r.splitTarget.2)
  | _ => none

theorem serve_of_target {r : Request} (get : r.method = "GET") {t : Target}
    (leads : r.target? = some t) (admits : t.admits "GET" = true) (g : Gateway) :
    (r.serve g).1 = ((Handler.of (Query.ofChars r.splitTarget.2) t).respond.run
      (g.startRequest (r.caller g.granted))).1 := by
  have head : ("GET" == "HEAD") = false := rfl
  unfold target? at leads
  simp only [serve, respond, leads, get, admits, if_true, Task.run_bind, head, Bool.false_eq_true,
    if_false]
  rfl

/-- The response holds the page of a stop, whatever the gateway, if the query can be read at all. -/
theorem serve_stopRows {r : Request} (get : r.method = "GET") (asks : r.AsksForRows) (g : Gateway) :
    (r.serve g).1 = match r.rowsQuery? with
      | none => .badRequest
      | some (id, limit, filter) =>
        pageResponse (stopPage (g.startRequest (r.caller g.granted)) id limit filter) := by
  have active := Gateway.active_startRequest g (r.caller g.granted)
  unfold rowsQuery?
  cases asks with
  | stopTimes stop leads =>
    rw [serve_of_target get leads rfl, leads]
    exact Handler.stopRows_run _ id (fun _ _ _ => rfl) stop _ active
  | departures stop leads =>
    rw [serve_of_target get leads rfl, leads]
    exact Handler.stopRows_run _ _ (fun _ _ _ => rfl) stop _ active

end Request

end Transit.Http
