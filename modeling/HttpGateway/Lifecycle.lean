import HttpGateway.Counter
import HttpGateway.Registry
import HttpGateway.Reply
import HttpGateway.StatusMapping

/-!
# The life of an exchange

A gateway is a registry of handlers, a table of transports for handlers that bring none, a row of
hooks and the sealed status mapping. An exchange runs through the hooks, the stages of its handler,
the call and the hooks again, in this order; the first failure ends the run, except that the handler
may take in the failure of the call. What a run fails with becomes a response too, and every
finished exchange is counted.
-/

namespace HttpGateway

/-- Processing around the life of an exchange. -/
structure Hook (σ : Type) where
  /-- Runs once, before the status mapping is sealed. -/
  setup : EStateM GatewayError (StatusMapping × σ) Unit
  /-- Runs before the exchange is prepared. -/
  before : Stage σ Unit
  /-- Looks at the exchange after its response is written. -/
  after : Exchange → σ → σ

/-- A gateway over a world of some type. -/
structure Gateway (σ : Type) where
  registry : Registry (Handler σ)
  mapping : StatusMapping
  transports : Registry (Transport σ)
  hooks : List (Hook σ)
  /-- Counts an event. -/
  count : Counter → σ → σ

namespace Gateway

variable {σ : Type}

/-- No transport is known for a protocol. -/
def withoutTransport (protocol : String) : GatewayError :=
  .config .noTransport ("no client transport for protocol " ++ protocol)

/-- The run came to its end and there is no response. -/
def withoutResponse : GatewayError :=
  .framework .serverSystemError "lifecycle finished without a response"

/-- The transport of a call: the handler's own if it brings one, else that of the table. -/
def transportFor (g : Gateway σ) (protocol : String) (own : Option (Transport σ)) :
    Except GatewayError (Transport σ) :=
  match own <|> g.transports.find? protocol with
  | some transport => .ok transport
  | none => .error (withoutTransport protocol)

/-- The call for a target with the options of the handler. -/
def callFor (target : Target) (options : CallOptions σ) (payload : Option Bytes) : Call :=
  ⟨target, options.timeout, options.capture, payload⟩

/-- Makes the call; the handler may take in its failure. -/
def attempt (handler : Handler σ) (transport : Transport σ) (call : Call) : Stage σ Unit :=
  (transport.roundTrip call).recovering handler.recover

/-- Takes the response from the exchange. -/
def takeResponse : Stage σ Response := do
  match (← Stage.exchange).response with
  | none => Stage.fail withoutResponse
  | some response =>
    Stage.change fun x ↦ { x with response := none }
    return response

/-- Runs an exchange of a protocol. -/
def run (g : Gateway σ) (protocol : String) (target : Target) : Stage σ Response := do
  let handler ← Stage.ofExcept (g.registry.lookup protocol)
  g.hooks.forM Hook.before
  handler.prepare
  let options ← handler.options
  let payload ← handler.payload
  Stage.fill (← handler.slot)
  let transport ← Stage.ofExcept (g.transportFor protocol options.transport)
  attempt handler transport (callFor target options payload)
  handler.respond
  let x ← Stage.exchange
  g.hooks.forM fun hook ↦ Stage.act (hook.after x)
  takeResponse

/-- The response for an error. -/
def errorResponse (g : Gateway σ) (e : GatewayError) : Response :=
  Reply.failure (g.mapping.httpStatus e.code) e

/-- The counter of a response to an exchange of a protocol. -/
def counterOf (g : Gateway σ) (protocol : String) (response : Response) : Counter :=
  .exchange (g.mapping.isSuccess response.status) protocol response.status

/-- The response to an exchange, which is counted. -/
def finish (g : Gateway σ) (protocol : String) (response : Response) (world : σ) :
    Except Breakdown Response × σ :=
  (.ok response, g.count (g.counterOf protocol response) world)

/-- Serves an exchange: runs it, answers a failure with its response, and counts it. An exchange
that breaks off gets no response and is not counted. -/
def serve (g : Gateway σ) (protocol : String) (target : Target) (x : Exchange) (world : σ) :
    Except Breakdown Response × σ :=
  match g.run protocol target ⟨x, .bytes none, world⟩ with
  | .ok response scene => g.finish protocol response scene.world
  | .error (.failed e) scene => g.finish protocol (g.errorResponse e) scene.world
  | .error (.brokenOff b) scene => (.error b, scene.world)

end Gateway

/-- The parts that a gateway is built from, in order of registration. -/
structure Assembly (σ : Type) where
  handlers : List (String × Handler σ)
  transports : List (String × Transport σ)
  hooks : List (Hook σ)
  count : Counter → σ → σ

namespace Assembly

variable {σ : Type}

/-- A table of entries, of which later ones replace earlier ones of the same name. -/
def table {α : Type} (entries : List (String × α)) : Registry α :=
  entries.foldl (fun r e ↦ r.register e.1 e.2) .empty

/-- Sets up all hooks on a fresh mapping, seals it and puts the parts together. -/
def build (a : Assembly σ) (world : σ) : Except GatewayError (Gateway σ) × σ :=
  match (a.hooks.forM Hook.setup).run (.initial, world) with
  | .error e (_, world) => (.error e, world)
  | .ok () (mapping, world) =>
    (.ok ⟨table a.handlers, mapping.close, table a.transports, a.hooks, a.count⟩, world)

end Assembly
end HttpGateway
