import Transit.Proofs.Field.Mutations
import Transit.Proofs.Selection.Consulting
import Transit.Selection.Command
set_option autoImplicit false

/-!
# Commands and the zones of stops

No command changes what is remembered of the warehouse (`RootSelection.commands_remember`). The zone
of a stop is set by the stops and the agencies of the warehouse alone, and stops are edited by three
commands. All others leave the zones as they are, in the warehouse and in the memory
(`RootSelection.commands_keep`).
-/

namespace Transit

/-! ## Zones in the warehouse and in the memory -/

namespace Warehouse

variable {w next : Warehouse} {α : Type}

/-- The stops and the agencies are the same. -/
structure SameStops (w next : Warehouse) : Prop where
  stops : next.stops = w.stops
  agencies : next.agencies = w.agencies

theorem SameStops.refl (w : Warehouse) : w.SameStops w := ⟨rfl, rfl⟩

theorem SameStops.trans {last : Warehouse} (first : w.SameStops next)
    (second : next.SameStops last) : w.SameStops last :=
  ⟨second.stops.trans first.stops, second.agencies.trans first.agencies⟩

theorem SameStops.zoneOfStop (same : w.SameStops next) (id : Int) :
    IdCache.zoneOfStop next id = IdCache.zoneOfStop w id := by
  unfold IdCache.zoneOfStop IdCache.agencyZone? Warehouse.stop?
  rw [same.stops, same.agencies]

theorem sameStops_put {t : Table} (other : t ≠ .stops) (w : Warehouse) (rows : List t.Row) :
    w.SameStops (t.put w rows) := by
  cases t with
  | stops => exact absurd rfl other
  | levels => exact ⟨rfl, rfl⟩
  | pathways => exact ⟨rfl, rfl⟩

theorem sameStops_activate (w : Warehouse) (feedId versionId : Int) :
    w.SameStops (w.activate feedId versionId) := by
  obtain ⟨_, _, _, activated, _⟩ := w.exists_activate feedId versionId
  rw [activated]
  exact ⟨rfl, rfl⟩

end Warehouse

namespace Gateway

variable {g h last : Gateway}

/-- What the warehouse says about the zone of a stop. -/
def zoneOf (g : Gateway) (id : Int) : Option Zone := (IdCache.zoneOfStop g.warehouse id).1

/-- The zone that is found for a stop by its id: what is remembered of it, else what the warehouse
says. -/
def zoneFound (g : Gateway) (id : Int) : Option Zone := IdCache.zone? g.warehouse g.ids id

theorem zoneFound_eq (g : Gateway) (id : Int) :
    g.zoneFound id = (g.ids.stopZones.lookup id).getD (g.zoneOf id) := rfl

/-- What the warehouse says about zones is the same, and so is what is found. -/
structure Steady (g h : Gateway) : Prop where
  warehouse : g.warehouse.SameStops h.warehouse
  found : ∀ id, h.zoneFound id = g.zoneFound id
  fed : g.Fed → h.Fed

/-- What is remembered of stops, trips and routes is the same. -/
structure SameMemory (g h : Gateway) : Prop where
  ids : h.ids = g.ids
  fed : g.Fed → h.Fed

/-- The warehouse is the same, and what is remembered of it says the same. -/
structure SameAnswers (g h : Gateway) : Prop where
  warehouse : h.warehouse = g.warehouse
  ids : IdCache.Alike g.warehouse g.ids h.ids
  fed : g.Fed → h.Fed

theorem Steady.zoneOf (steady : Steady g h) (id : Int) : h.zoneOf id = g.zoneOf id :=
  congrArg Prod.fst (steady.warehouse.zoneOfStop id)

theorem Consulted.sameAnswers (consulted : Consulted g h) : SameAnswers g h :=
  ⟨consulted.warehouse, consulted.ids, consulted.fed⟩

theorem SameAnswers.steady (same : SameAnswers g h) : Steady g h where
  warehouse := by
    rw [same.warehouse]
    exact .refl _
  found id := by
    rw [zoneFound, same.warehouse]
    exact same.ids.zone id
  fed := same.fed

/-- A step that changes neither the warehouse nor the memory. -/
theorem SameMemory.sameAnswers (same : SameMemory g h) (warehouse : h.warehouse = g.warehouse) :
    SameAnswers g h := by
  refine ⟨warehouse, ?_, same.fed⟩
  rw [same.ids]
  exact .refl _ _

/-- A step that changes neither the stops nor the memory. -/
theorem steady_of_sameMemory (same : SameMemory g h) (stops : g.warehouse.SameStops h.warehouse) :
    Steady g h := by
  refine ⟨stops, fun id => ?_, same.fed⟩
  rw [zoneFound_eq, zoneFound_eq, same.ids, zoneOf, stops.zoneOfStop id, zoneOf]

theorem Steady.trans (first : Steady g h) (second : Steady h last) : Steady g last where
  warehouse := first.warehouse.trans second.warehouse
  found id := (second.found id).trans (first.found id)
  fed before := second.fed (first.fed before)

theorem lasting_steady : Lasting Steady :=
  .of_loaded Steady.trans fun loaded fed => (loaded.consulted fed).sameAnswers.steady

theorem SameAnswers.trans (first : SameAnswers g h) (second : SameAnswers h last) :
    SameAnswers g last := by
  refine ⟨second.warehouse.trans first.warehouse, first.ids.trans ?_,
    fun before => second.fed (first.fed before)⟩
  rw [← first.warehouse]
  exact second.ids

theorem lasting_sameAnswers : Lasting SameAnswers :=
  .of_loaded SameAnswers.trans fun loaded fed => (loaded.consulted fed).sameAnswers

theorem lasting_sameMemory : Lasting SameMemory :=
  .of_loaded
    (fun first second => ⟨second.ids.trans first.ids, fun fed => second.fed (first.fed fed)⟩)
    fun loaded fed => by
      obtain ⟨_, _, rfl⟩ := loaded
      exact ⟨rfl, fed⟩

end Gateway

open Gateway (Steady SameMemory SameAnswers lasting_steady lasting_sameMemory)

/-- What is selected leaves the zones of stops as they are. -/
abbrev KeepsZones {ε α : Type} (r : ExceptT ε Task α) : Prop := Stays Steady r

theorem Stays.steady {ε α : Type} {r : ExceptT ε Task α} (consults : Consults r) : KeepsZones r :=
  consults.mono fun _ _ consulted => consulted.sameAnswers.steady

theorem Stays.sameAnswers {ε α : Type} {r : ExceptT ε Task α} (consults : Consults r) :
    Stays SameAnswers r :=
  consults.mono fun _ _ consulted => consulted.sameAnswers

/-! ## Edits -/

namespace Edit

def table : Edit → Table
  | .create t _ => t
  | .update t _ => t
  | .delete t _ => t

theorem sameStops_run {e : Edit} (other : e.table ≠ .stops) (w : Warehouse) :
    w.SameStops (e.run w).2 := by
  rcases e.run_cases w with same | ⟨id, makes⟩
  · rw [same]
    exact .refl w
  · generalize (e.run w).2 = next at makes
    cases makes with
    | create starts fills => exact Warehouse.sameStops_put other w _
    | update found first named fills => exact Warehouse.sameStops_put other w _
    | delete found => exact Warehouse.sameStops_put other w _

end Edit

theorem VersionCommand.sameStops_run (c : VersionCommand) (w : Warehouse) :
    w.SameStops (c.run w).2 := by
  cases c with
  | importing id =>
    simp only [run, Warehouse.importVersion]
    split
    · exact .refl w
    · have imported (imports : List FeedVersionImport) :
          w.SameStops { w with feedVersionImports := imports } := ⟨rfl, rfl⟩
      exact (imported _).trans (Warehouse.sameStops_activate _ _ _)
  | unimporting id =>
    simp only [run, Warehouse.unimportVersion]
    split <;> exact ⟨rfl, rfl⟩
  | deleting id =>
    simp only [run, Warehouse.deleteVersion]
    split
    · exact .refl w
    · exact ⟨rfl, rfl⟩

namespace Command

open Resolve

variable {α : Type} {R : Gateway → Gateway → Prop}

theorem stays_edit {method : String} {change : Warehouse → Warehouse.Edited α}
    (steps : ∀ g : Gateway, R g { g.record method with warehouse := (change g.warehouse).2 }) :
    Stays R (edit method change) :=
  stays_on (Task.within_update steps)

theorem stays_reload (lasting : Gateway.Lasting R) (r : Reference) (entity : String) (id : Int) :
    Stays R (reload r entity id) := by
  refine (stays_ask lasting _ _).bind fun found => ?_
  split
  · exact .pure _ _
  · exact .throw _ _

theorem stays_requireId (id : Option Int) : Stays R (requireId id) := by
  unfold requireId
  split
  · exact .throw _ _
  · exact .pure _ _

theorem stays_versionBySha1 (lasting : Gateway.Lasting R) (sha1 : String) :
    Stays R (versionBySha1 sha1) := by
  refine (stays_ask lasting _ _).bind fun found => ?_
  split
  · exact .pure _ _
  · exact .throw _ _

end Command

namespace Mutation

open Command Resolve

theorem stays_edit {R : Gateway → Gateway → Prop} (lasting : Gateway.Lasting R) (e : Edit)
    (steps : ∀ (method : String) (g : Gateway),
      R g { g.record method with warehouse := (e.run g.warehouse).2 }) :
    Stays R (perform (.edit e)) := by
  cases e with
  | create t input =>
    obtain ⟨method, same⟩ := perform_create t input
    rw [same]
    exact (stays_requireRole lasting _).bind fun _ =>
      (Command.stays_edit (steps method)).bind fun _ => stays_reload lasting _ _ _
  | update t input =>
    obtain ⟨method, same⟩ := perform_update t input
    rw [same]
    exact (stays_requireRole lasting _).bind fun _ => (stays_requireId _).bind fun _ =>
      (Command.stays_edit (steps method)).bind fun _ => stays_reload lasting _ _ _
  | delete t rowId =>
    obtain ⟨method, change, answers, same⟩ := perform_delete t rowId
    rw [same]
    refine (stays_requireRole lasting _).bind fun _ =>
      (Command.stays_edit fun g => ?_).bind fun _ => .pure _ _
    have changed := steps method g
    rw [answers] at changed
    exact changed

/-- No edit changes what is remembered. -/
theorem remembers_edit (e : Edit) : Stays Gateway.SameMemory (perform (.edit e)) :=
  stays_edit Gateway.lasting_sameMemory e fun _ _ => ⟨rfl, id⟩

theorem keepsZones_edit (e : Edit) (other : e.table ≠ .stops) :
    KeepsZones (perform (.edit e)) :=
  stays_edit lasting_steady e fun _ g =>
    Gateway.steady_of_sameMemory ⟨rfl, id⟩ (Edit.sameStops_run other g.warehouse)

/-- A command on a feed version. -/
theorem stays_onVersion {R : Gateway → Gateway → Prop} (lasting : Gateway.Lasting R) {α : Type}
    (method sha1 : String) (command : Int → VersionCommand) (answer : α)
    (steps : ∀ (id : Int) (g : Gateway),
      R g { g.record method with warehouse := ((command id).run g.warehouse).2 }) :
    Stays R (do
      Resolve.requireRole Role.admin
      let v ← versionBySha1 sha1
      Command.edit method ((command v.id).run ·)
      return answer : Resolve α) :=
  (stays_requireRole lasting _).bind fun _ => (stays_versionBySha1 lasting sha1).bind
    fun v => (Command.stays_edit (steps v.id)).bind fun _ => .pure _ _

theorem keepsZones_onVersion {α : Type} (method sha1 : String) (command : Int → VersionCommand)
    (answer : α) : KeepsZones (do
      Resolve.requireRole Role.admin
      let v ← versionBySha1 sha1
      Command.edit method ((command v.id).run ·)
      return answer : Resolve α) :=
  stays_onVersion lasting_steady method sha1 command answer fun _ g =>
    Gateway.steady_of_sameMemory ⟨rfl, fun fed => fed⟩ (VersionCommand.sameStops_run _ g.warehouse)

theorem remembers_onVersion {α : Type} (method sha1 : String) (command : Int → VersionCommand)
    (answer : α) : Stays SameMemory (do
      Resolve.requireRole Role.admin
      let v ← versionBySha1 sha1
      Command.edit method ((command v.id).run ·)
      return answer : Resolve α) :=
  stays_onVersion lasting_sameMemory method sha1 command answer fun _ _ => ⟨rfl, fun fed => fed⟩

end Mutation

/-! ## Commands by name -/

namespace RootSelection

open Select Resolve Gateway

variable {α β : Type} {R : Gateway → Gateway → Prop}

theorem stays_unary {command : α → Resolve β} (commands : ∀ a, Stays R (command a)) {name : String}
    {read : Json → Option α} {write : β → Json} (args : Args) :
    Stays R (unary name read write command args) :=
  (args.stays_required read name).bind fun a => (stays_ofField (commands a)).bind fun _ => .pure _ _

theorem stays_fetchVersion (lasting : Lasting R) (args : Args) :
    Stays R (fetchVersion args) := by
  refine (args.stays_required _ _).bind fun _ => (args.stays_optional _ _).bind fun url =>
    (args.stays_optional _ _).bind fun file => (stays_ofField ?_).bind fun _ => .pure _ _
  refine (stays_requireRole lasting _).bind fun _ => ?_
  split
  · exact .throw _ _
  · exact .pure _ _

/-- A fetch that nothing carries out. -/
theorem stays_fetch (url method : String) (cause : LookupError) : Stays R (do
    Command.requireUrl url
    Resolve.on method (pure (.error cause)) : Resolve Unit) := by
  refine Stays.bind ?_ fun _ => stays_on (Task.within_pure _ _)
  unfold Command.requireUrl
  split
  · exact .throw _ _
  · exact .pure _ _

theorem stays_fetchRealtime (lasting : Lasting R) (args : Args) :
    Stays R (fetchRealtime args) := by
  refine (args.stays_required _ _).bind fun _ => (args.stays_withDefault _ _ _).bind fun url =>
    (args.stays_required _ _).bind fun urlType => (stays_ofField ?_).bind fun _ => .pure _ _
  refine (stays_requireRole lasting _).bind fun _ => ?_
  dsimp only
  split
  · exact Stays.bind (.throw _ _) fun _ => stays_fetch _ _ _
  · exact stays_fetch _ _ _

theorem stays_fetchBikeShare (lasting : Lasting R) (args : Args) :
    Stays R (fetchBikeShare args) :=
  (args.stays_required _ _).bind fun _ => (args.stays_withDefault _ _ _).bind fun url =>
    (stays_ofField ((stays_requireRole lasting _).bind fun _ =>
      stays_fetch url _ _)).bind fun _ => .pure _ _

theorem stays_enqueueFetches (lasting : Lasting R)
    (queues : ∀ (g : Gateway) jobs, R g { g with jobs }) (feeds : List String) :
    Stays R (Command.enqueueFetches feeds) :=
  (stays_requireRole lasting _).bind fun _ =>
    (Resolve.stays_task (Task.within_change fun g => queues g _)).bind fun _ => .pure _ _

theorem stays_validateFeed (lasting : Lasting R) (args : Args) :
    Stays R (validateFeed args) :=
  (args.stays_optional _ _).bind fun _ => (args.stays_optional _ _).bind fun _ =>
    (args.stays_withDefault _ _ _).bind fun _ =>
    (stays_ofField ((stays_requireRole lasting _).bind fun _ => .pure _ _)).bind fun _ =>
    .pure _ _

/-- The commands that edit stops. -/
def stopCommands : List String := ["stop_create", "stop_update", "stop_delete"]

/-- A selection without a row that leaves the zones as they are, whatever its arguments. -/
def KeepsZones (selection : RootSelection) : Prop := ∀ args, Transit.KeepsZones (selection args)

/-- A command keeps the zones, or it edits stops. -/
theorem commands_keep :
    commands.Forall fun named => named.2.KeepsZones ∨ named.1 ∈ stopCommands :=
  ⟨.inr (by decide), .inr (by decide), .inr (by decide),
    .inl (stays_unary fun input => Mutation.keepsZones_edit (.create .levels input) nofun),
    .inl (stays_unary fun input => Mutation.keepsZones_edit (.update .levels input) nofun),
    .inl (stays_unary fun id => Mutation.keepsZones_edit (.delete .levels id) nofun),
    .inl (stays_unary fun input => Mutation.keepsZones_edit (.create .pathways input) nofun),
    .inl (stays_unary fun input => Mutation.keepsZones_edit (.update .pathways input) nofun),
    .inl (stays_unary fun id => Mutation.keepsZones_edit (.delete .pathways id) nofun),
    .inl (stays_fetchVersion lasting_steady), .inl (stays_fetchRealtime lasting_steady),
    .inl (stays_fetchBikeShare lasting_steady),
    .inl (stays_unary (stays_enqueueFetches lasting_steady fun _ _ =>
      ⟨⟨rfl, rfl⟩, fun _ => rfl, id⟩)),
    .inl (stays_unary fun sha1 => Mutation.keepsZones_onVersion _ sha1 .importing _),
    .inl (stays_unary fun sha1 => Mutation.keepsZones_onVersion _ sha1 .unimporting _),
    .inl (stays_unary fun sha1 => Mutation.keepsZones_onVersion _ sha1 .deleting _),
    .inl (stays_validateFeed lasting_steady)⟩

/-- No command changes what is remembered of the warehouse. -/
theorem commands_remember :
    commands.Forall fun named => ∀ args, Stays SameMemory (named.2 args) :=
  ⟨stays_unary fun input => Mutation.remembers_edit (.create .stops input),
    stays_unary fun input => Mutation.remembers_edit (.update .stops input),
    stays_unary fun id => Mutation.remembers_edit (.delete .stops id),
    stays_unary fun input => Mutation.remembers_edit (.create .levels input),
    stays_unary fun input => Mutation.remembers_edit (.update .levels input),
    stays_unary fun id => Mutation.remembers_edit (.delete .levels id),
    stays_unary fun input => Mutation.remembers_edit (.create .pathways input),
    stays_unary fun input => Mutation.remembers_edit (.update .pathways input),
    stays_unary fun id => Mutation.remembers_edit (.delete .pathways id),
    stays_fetchVersion lasting_sameMemory, stays_fetchRealtime lasting_sameMemory,
    stays_fetchBikeShare lasting_sameMemory,
    stays_unary (stays_enqueueFetches lasting_sameMemory fun _ _ => ⟨rfl, id⟩),
    stays_unary fun sha1 => Mutation.remembers_onVersion _ sha1 .importing _,
    stays_unary fun sha1 => Mutation.remembers_onVersion _ sha1 .unimporting _,
    stays_unary fun sha1 => Mutation.remembers_onVersion _ sha1 .deleting _,
    stays_validateFeed lasting_sameMemory⟩

end RootSelection

end Transit
