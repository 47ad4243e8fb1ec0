import HttpGateway.Config
import HttpGateway.Forwarding.Proxy
import HttpGateway.Grpc.Invocation
import HttpGateway.Handlers
import HttpGateway.Lifecycle
import HttpGateway.RawCall
import HttpGateway.Routing.Table

/-!
# From a configuration to a running gateway

The built-in protocols are put together with the hook that registers the configured codes and
statuses, the hooks are set up, and the route table is made. Every protocol that a route names has
to be registered.
-/

namespace HttpGateway

variable {σ : Type}

namespace Hook

/-- Changes the status mapping, if it allows it. -/
def register (f : StatusMapping → Except StatusMapping.Refusal StatusMapping) :
    EStateM GatewayError (StatusMapping × σ) Unit := do
  let (mapping, world) ← get
  match f mapping with
  | .ok mapping => set (mapping, world)
  | .error refusal => throw refusal.error

/-- The hook that registers codes, and then success statuses. -/
def errorCodes (codes : List (ResultCode × Status)) (success : List Status) : Hook σ where
  setup := do
    codes.forM fun (code, status) ↦ register fun m ↦ m.registerCode code status
    success.forM fun status ↦ register fun m ↦ m.registerSuccess status
  before := pure ()
  after _ world := world

/-- A configured number that is no status. -/
def invalidStatus (n : Nat) : GatewayError :=
  .config .unknown ("invalid HTTP status " ++ Decimal.text n ++ ": invalid status code")

/-- The status of a configured number. -/
def statusOf (n : Nat) : Except GatewayError Status :=
  match Status.ofNat? n with
  | some status => .ok status
  | none => .error (invalidStatus n)

/-- The hook that registers what is configured. -/
def ofConfig (config : Config) : Except GatewayError (Hook σ) := do
  let codes ← config.errorCodes.mapM fun entry ↦ return (⟨entry.code⟩, ← statusOf entry.httpStatus)
  let success ← config.successStatuses.mapM statusOf
  return errorCodes codes success

end Hook

/-- What an inbound server needs. -/
structure Bootstrapped (σ : Type) where
  gateway : Gateway σ
  routes : RouteTable

/-- A route names a protocol that nobody registered. -/
def unregistered (protocol : String) : GatewayError :=
  .config .unsupportedProtocol ("route uses unregistered protocol " ++ protocol)

/-- Every protocol that a route names is among the registered ones; the first that is not is an
error. -/
def checkProtocols (registered : List String) (routes : RouteTable) : Except GatewayError Unit :=
  match routes.protocols.find? fun protocol ↦ !registered.contains protocol with
  | some protocol => .error (unregistered protocol)
  | none => .ok ()

/-- Builds a gateway from its parts and makes the route table. -/
def Assembly.bootstrap (a : Assembly σ) (config : Config) (world : σ) :
    Except GatewayError (Bootstrapped σ) × σ :=
  match a.build world with
  | (.error e, world) => (.error e, world)
  | (.ok gateway, world) =>
    let routes := RouteTable.ofConfig config.routes ⟨config.timeouts.callTimeoutMs⟩
    match checkProtocols gateway.registry.names routes with
    | .error e => (.error e, world)
    | .ok () => (.ok ⟨gateway, routes⟩, world)

/-- The ways to the services of the built-in protocols, in a world of some type. -/
structure Networks (σ χ : Type) where
  backends : Proxy.Network σ
  /-- Opens a channel to an address, within a time limit. -/
  connect : String → Duration → σ → Grpc.DialResult χ × σ
  invoke : χ → Grpc.Request → Duration → σ → Grpc.Arrival × σ
  pool : Grpc.PoolIn σ χ
  conversations : RawCall.Network σ

/-- The network of gRPC calls: channels are kept in the pool. -/
def Networks.grpc {χ : Type} (net : Networks σ χ) (config : GrpcConfig) : Grpc.Network σ χ where
  channel := Grpc.pooled net.pool (Grpc.dial net.connect ⟨config.dialTimeoutMs⟩)
  send := net.invoke

/-- The handlers of the built-in protocols. -/
def builtinHandlers {χ : Type} (net : Networks σ χ) (config : Config) :
    List (String × Handler σ) := [
  ("http", .http (Proxy.transport net.backends config.proxy.bufferSize
    ⟨config.proxy.flushIntervalMs⟩)),
  ("rpc", .rpc none),
  ("grpc", .grpc (Grpc.transport (net.grpc config.grpc))),
  ("raw", .raw (RawCall.transport net.conversations))]

/-- The gateway of a configuration, with the built-in protocols. -/
def bootstrap {χ : Type} (net : Networks σ χ) (config : Config) (world : σ) :
    Except GatewayError (Bootstrapped σ) × σ :=
  match Hook.ofConfig config with
  | .error e => (.error e, world)
  | .ok hook =>
    let assembly : Assembly σ := ⟨builtinHandlers net config, [], [hook], net.pool.count⟩
    assembly.bootstrap config world

end HttpGateway
