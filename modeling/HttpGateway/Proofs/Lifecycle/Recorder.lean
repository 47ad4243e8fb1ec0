import HttpGateway.Lifecycle

/-!
# Gateways that keep a log

A gateway may be watched from within: each hook, handler and transport does what it does and leaves
a note of it in a log that is a part of the world. The note says which part was called, whether it
failed and how it left the exchange. A stage with a log is the stage itself, but for the log.
-/

namespace HttpGateway

namespace Lifecycle

/-- Whose transport makes a call. -/
inductive Origin
  /-- The handler brought it. -/
  | own
  /-- The gateway's table has it under a name. -/
  | table (name : String)
  deriving DecidableEq

/-- A call that a gateway makes to one of its parts. -/
inductive Step
  | before (hook : Nat)
  | prepare (handler : String)
  /-- The options come with a transport of the handler's own, or without. -/
  | options (handler : String) (own : Bool)
  | payload (handler : String)
  | slot (handler : String)
  | roundTrip (origin : Origin)
  /-- The handler is handed the failure of the round trip. -/
  | recover (handler : String) (e : GatewayError)
  | respond (handler : String)
  | after (hook : Nat)
  deriving DecidableEq

/-- How a call ended: its failure, if it failed, and the exchange as it left it. -/
structure Outcome where
  failure : Option Halt
  exchange : Exchange

/-- A note of a call. -/
structure Entry where
  step : Step
  outcome : Outcome

/-- Notes of calls, the first one first. -/
abbrev Log := List Entry

end Lifecycle

open Lifecycle

variable {σ α β : Type}

/-- A scene whose world has a log. -/
def Scene.withLog (s : Scene σ) (log : Log) : Scene (σ × Log) :=
  ⟨s.exchange, s.slot, (s.world, log)⟩

namespace Stage

/-- What a stage ends with, in a world that has a log. -/
def logged (f : α → β) (log : Log) :
    EStateM.Result Halt (Scene σ) α → EStateM.Result Halt (Scene (σ × Log)) β
  | .ok a s => .ok (f a) (s.withLog log)
  | .error halt s => .error halt (s.withLog log)

/-- The note of a stage that has ended. -/
def note (step : Option α → Step) : EStateM.Result Halt (Scene σ) α → Entry
  | .ok a s => ⟨step (some a), none, s.exchange⟩
  | .error halt s => ⟨step none, some halt, s.exchange⟩

/-- A stage that leaves a note of itself, under what its result says. -/
def recorded (step : Option α → Step) (f : α → β) (stage : Stage σ α) : Stage (σ × Log) β :=
  fun s ↦
    let r := stage ⟨s.exchange, s.slot, s.world.1⟩
    logged f (s.world.2 ++ [note step r]) r

end Stage

/-- A transport that leaves a note of each round trip. -/
def Transport.recorded (origin : Origin) (t : Transport σ) : Transport (σ × Log) :=
  ⟨fun call ↦ (t.roundTrip call).recorded (fun _ ↦ .roundTrip origin) id⟩

/-- Options whose transport leaves notes. -/
def CallOptions.recorded (o : CallOptions σ) : CallOptions (σ × Log) :=
  ⟨o.timeout, o.transport.map (Transport.recorded .own), o.capture⟩

/-- The options come with a transport. -/
def CallOptions.hasOwn (o : Option (CallOptions σ)) : Bool := (o.bind (·.transport)).isSome

/-- A handler that leaves a note of each of its stages. -/
def Handler.recorded (name : String) (h : Handler σ) : Handler (σ × Log) where
  prepare := h.prepare.recorded (fun _ ↦ .prepare name) id
  options := h.options.recorded (fun o ↦ .options name (CallOptions.hasOwn o)) CallOptions.recorded
  payload := h.payload.recorded (fun _ ↦ .payload name) id
  slot := h.slot.recorded (fun _ ↦ .slot name) id
  recover e := (h.recover e).recorded (fun _ ↦ .recover name e) id
  respond := h.respond.recorded (fun _ ↦ .respond name) id

/-- A hook that leaves a note each time an exchange passes it. -/
def Hook.recorded (place : Nat) (h : Hook σ) : Hook (σ × Log) where
  setup := fun (mapping, world, log) ↦
    match h.setup (mapping, world) with
    | .ok () (mapping, world) => .ok () (mapping, world, log)
    | .error e (mapping, world) => .error e (mapping, world, log)
  before := h.before.recorded (fun _ ↦ .before place) id
  after x world := (h.after x world.1, world.2 ++ [⟨.after place, none, x⟩])

/-- A row of hooks that leave notes, the first of them at a place. -/
def Hook.recordedFrom (place : Nat) (hooks : List (Hook σ)) : List (Hook (σ × Log)) :=
  (hooks.zipIdx place).map fun (hook, place) ↦ hook.recorded place

/-- A table of parts that know the names they stand under. -/
def Registry.mapNamed (f : String → α → β) (r : Registry α) : Registry β :=
  ⟨r.entries.map fun e ↦ (e.1, f e.1 e.2)⟩

/-- A table finds the part that is found in the table it is made from. -/
@[simp] theorem Registry.find?_mapNamed (f : String → α → β) (r : Registry α) (name : String) :
    (r.mapNamed f).find? name = (r.find? name).map (f name) := by
  unfold find? mapNamed
  induction r.entries with
  | nil => rfl
  | cons e es ih =>
    obtain ⟨n, a⟩ := e
    rw [List.map_cons, List.lookup_cons, List.lookup_cons]
    cases h : name == n with
    | true =>
      obtain rfl := eq_of_beq h
      rfl
    | false => exact ih

/-- A gateway all of whose parts leave notes. -/
def Gateway.recorded (g : Gateway σ) : Gateway (σ × Log) where
  registry := g.registry.mapNamed Handler.recorded
  mapping := g.mapping
  transports := g.transports.mapNamed fun name ↦ Transport.recorded (.table name)
  hooks := Hook.recordedFrom 0 g.hooks
  count c world := (g.count c world.1, world.2)

namespace Stage

/-- A stage that succeeds leaves a note of that. -/
theorem recorded_of_ok {step : Option α → Step} {f : α → β} {stage : Stage σ α} {s t : Scene σ}
    {a : α} (h : stage s = .ok a t) (log : Log) : stage.recorded step f (s.withLog log) =
      .ok (f a) (t.withLog (log ++ [⟨step (some a), none, t.exchange⟩])) := by
  change logged f (log ++ [note step (stage s)]) (stage s) = _
  rw [h]
  rfl

/-- A stage that fails leaves a note of that. -/
theorem recorded_of_error {step : Option α → Step} {f : α → β} {stage : Stage σ α} {s t : Scene σ}
    {halt : Halt} (h : stage s = .error halt t) (log : Log) :
    stage.recorded step f (s.withLog log) =
      .error halt (t.withLog (log ++ [⟨step none, some halt, t.exchange⟩])) := by
  change logged f (log ++ [note step (stage s)]) (stage s) = _
  rw [h]
  rfl

end Stage
end HttpGateway
