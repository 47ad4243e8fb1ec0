import HttpGateway.Forwarding.Proxy
import HttpGateway.Grpc.Invocation
import HttpGateway.RawCall

/-!
# How calls end

Each transport ends a call in one of a few ways, and each way says what was asked of the network,
what it answered, and what the call left behind. Whatever holds of all calls is read off these ways.
-/

namespace HttpGateway

variable {σ χ : Type}

/-- What a call ends with: its success or its failure, and the scene that it leaves. -/
abbrev CallResult (σ : Type) := EStateM.Result Halt (Scene σ) Unit

namespace Proxy

/-- What a call fails with that gets no response. -/
def lost (limit : Duration) : Arrival → Option GatewayError
  | .unreachable why => some (unreachable why)
  | .failed why => some (failed why)
  | .silent => some (timedOut limit)
  | .answered _ => none

/-- The ways in which a proxied request ends. -/
inductive Ends (net : Network σ) (bufferSize : Nat) (interval : Duration) (call : Call)
    (s : Scene σ) : CallResult σ → Prop
  /-- No request can be made of the head. -/
  | unfit (fault : Outbound.Fault) :
    Outbound.ofHead s.exchange.head call.payload call.target.address = .error fault →
    Ends net bufferSize interval call s (.error (.failed fault.error) s)
  /-- There is no response. -/
  | lost (out : Outbound) (arrival : Arrival) (world : σ) (e : GatewayError) :
    Outbound.ofHead s.exchange.head call.payload call.target.address = .ok out →
    send net out call.timeout s.world = (arrival, world) →
    Proxy.lost call.timeout arrival = some e →
    Ends net bufferSize interval call s (.error (.failed e) { s with world })
  /-- The response switches protocols, and the switch does not stand. -/
  | refused (out : Outbound) (response : BackendResponse) (world : σ)
      (refusal : ProtocolSwitch.Refusal) :
    Outbound.ofHead s.exchange.head call.payload call.target.address = .ok out →
    send net out call.timeout s.world = (.answered response, world) →
    response.status = .switchingProtocols →
    ProtocolSwitch.agree (out.upgrade.map HeaderValue.bytes) response.headers = .error refusal →
    Ends net bufferSize interval call s (.error (.failed refusal.error) { s with world })
  /-- The switch stands, and the connection cannot be taken over. -/
  | bound (out : Outbound) (response : BackendResponse) (world : σ) (token : HeaderValue) :
    Outbound.ofHead s.exchange.head call.payload call.target.address = .ok out →
    send net out call.timeout s.world = (.answered response, world) →
    response.status = .switchingProtocols →
    ProtocolSwitch.agree (out.upgrade.map HeaderValue.bytes) response.headers = .ok token →
    s.exchange.connection ≠ .upgradable →
    Ends net bufferSize interval call s (.error (.failed notUpgradable) { s with world })
  /-- Both sides switch protocols. -/
  | switched (out : Outbound) (response : BackendResponse) (world : σ) (token : HeaderValue) :
    Outbound.ofHead s.exchange.head call.payload call.target.address = .ok out →
    send net out call.timeout s.world = (.answered response, world) →
    response.status = .switchingProtocols →
    ProtocolSwitch.agree (out.upgrade.map HeaderValue.bytes) response.headers = .ok token →
    s.exchange.connection = .upgradable →
    Ends net bufferSize interval call s (.ok () { s with
      exchange := { s.exchange with
        connection := .taken, response := some (switching response.headers token) }
      world := net.relay response world })
  /-- The body of the response cannot be read. -/
  | unreadable (out : Outbound) (response : BackendResponse) (world : σ) (e : GatewayError) :
    Outbound.ofHead s.exchange.head call.payload call.target.address = .ok out →
    send net out call.timeout s.world = (.answered response, world) →
    response.status ≠ .switchingProtocols →
    responseOf (.ofSize bufferSize) interval response = .error e →
    Ends net bufferSize interval call s (.error (.failed e) { s with world })
  /-- The response is forwarded. -/
  | forwarded (out : Outbound) (response : BackendResponse) (world : σ) (answer : Response) :
    Outbound.ofHead s.exchange.head call.payload call.target.address = .ok out →
    send net out call.timeout s.world = (.answered response, world) →
    response.status ≠ .switchingProtocols →
    responseOf (.ofSize bufferSize) interval response = .ok answer →
    Ends net bufferSize interval call s
      (.ok () { s with exchange := { s.exchange with response := some answer }, world })

/-- A connection that cannot be taken over is left as it is. -/
theorem takeOver_of_ne {s : Scene σ} (h : s.exchange.connection ≠ .upgradable) :
    takeOver s = .error (.failed notUpgradable) s := by
  have none_left : s.exchange.taken? = none := by
    unfold Exchange.taken?
    cases hc : s.exchange.connection with
    | upgradable => exact absurd hc h
    | plain => rfl
    | taken => rfl
  unfold takeOver
  rw [Stage.exchange_bind, none_left]
  rfl

/-- A connection that can be taken over is taken. -/
theorem takeOver_of_upgradable {s : Scene σ} (h : s.exchange.connection = .upgradable) :
    takeOver s = .ok () { s with exchange := { s.exchange with connection := .taken } } := by
  have taken : s.exchange.taken? = some { s.exchange with connection := .taken } := by
    unfold Exchange.taken?
    rw [h]
  unfold takeOver
  rw [Stage.exchange_bind, taken]
  rfl

/-- What is done with a response that switches protocols. -/
theorem ends_switchProtocols {net : Network σ} {bufferSize : Nat} {interval : Duration}
    {call : Call} {s : Scene σ} {out : Outbound} {response : BackendResponse} {world : σ}
    (made : Outbound.ofHead s.exchange.head call.payload call.target.address = .ok out)
    (asked : send net out call.timeout s.world = (.answered response, world))
    (switches : response.status = .switchingProtocols) :
    Ends net bufferSize interval call s
      (switchProtocols net out.upgrade response { s with world }) := by
  unfold switchProtocols
  cases agreed : ProtocolSwitch.agree (out.upgrade.map HeaderValue.bytes) response.headers with
  | error refusal => exact .refused out response world refusal made asked switches agreed
  | ok token =>
    rw [Stage.ofExcept_mapError_ok_bind]
    by_cases hc : s.exchange.connection = .upgradable
    · rw [Stage.bind_of_ok (takeOver_of_upgradable (s := { s with world }) hc)]
      exact .switched out response world token made asked switches agreed hc
    · rw [Stage.bind_of_error (takeOver_of_ne (s := { s with world }) hc)]
      exact .bound out response world token made asked switches agreed hc

/-- What is done with any other response. -/
theorem ends_forward {net : Network σ} {bufferSize : Nat} {interval : Duration}
    {call : Call} {s : Scene σ} {out : Outbound} {response : BackendResponse} {world : σ}
    (made : Outbound.ofHead s.exchange.head call.payload call.target.address = .ok out)
    (asked : send net out call.timeout s.world = (.answered response, world))
    (stays : response.status ≠ .switchingProtocols) :
    Ends net bufferSize interval call s
      (accept net (.ofSize bufferSize) interval out.upgrade response { s with world }) := by
  unfold accept
  rw [if_neg stays]
  cases read : responseOf (.ofSize bufferSize) interval response with
  | error e =>
    rw [Stage.ofExcept_error_bind]
    exact .unreadable out response world e made asked stays read
  | ok answer =>
    rw [Stage.ofExcept_ok_bind]
    exact .forwarded out response world answer made asked stays read

/-- A proxied request ends in one of these ways. -/
theorem ends_roundTrip (net : Network σ) (bufferSize : Nat) (interval : Duration) (call : Call)
    (s : Scene σ) : Ends net bufferSize interval call s
      ((transport net bufferSize interval).roundTrip call s) := by
  unfold transport
  dsimp only
  rw [Stage.exchange_bind]
  cases made : Outbound.ofHead s.exchange.head call.payload call.target.address with
  | error fault => exact .unfit fault made
  | ok out =>
    rw [Stage.ofExcept_mapError_ok_bind, Stage.ask_bind]
    cases asked : send net out call.timeout s.world with
    | mk arrival world =>
      cases arrival with
      | unreachable why => exact .lost out _ world _ made asked rfl
      | failed why => exact .lost out _ world _ made asked rfl
      | silent => exact .lost out _ world _ made asked rfl
      | answered response =>
        by_cases switches : response.status = .switchingProtocols
        · dsimp only
          unfold accept
          rw [if_pos switches]
          exact ends_switchProtocols made asked switches
        · exact ends_forward made asked switches

end Proxy

namespace Grpc

/-- The ways in which a gRPC call ends. -/
inductive Ends (net : Network σ χ) (call : Call) (s : Scene σ) : CallResult σ → Prop
  /-- No request can be made of the bundle. -/
  | unfit (halt : Halt) :
    requestOf s.exchange.head (header? s.exchange.bundle) call = .error halt →
    Ends net call s (.error halt s)
  /-- There is no channel. -/
  | unconnected (request : Request) (e : GatewayError) (world : σ) :
    requestOf s.exchange.head (header? s.exchange.bundle) call = .ok request →
    net.channel call.target.address s.world = (.error e, world) →
    Ends net call s (.error (.failed e) { s with world })
  /-- The call brings nothing. -/
  | lost (request : Request) (channel : χ) (between world : σ) (arrival : Arrival) (halt : Halt) :
    requestOf s.exchange.head (header? s.exchange.bundle) call = .ok request →
    net.channel call.target.address s.world = (.ok channel, between) →
    net.send channel request call.timeout between = (arrival, world) →
    outcome (call.method s.exchange.head) call.timeout arrival = .error halt →
    Ends net call s (.error halt { s with world })
  /-- The call brings a message and metadata. -/
  | answered (request : Request) (channel : χ) (between world : σ) (response : Response)
      (message : Bytes) (metadata : HeaderMap) :
    requestOf s.exchange.head (header? s.exchange.bundle) call = .ok request →
    net.channel call.target.address s.world = (.ok channel, between) →
    net.send channel request call.timeout between = (.answered response, world) →
    conclude response = .ok (message, metadata) →
    Ends net call s (.ok () { s with
      exchange := { s.exchange with
        bundle := s.exchange.bundle.map (withReply message metadata) }
      world })

/-- A gRPC call ends in one of these ways. -/
theorem ends_roundTrip (net : Network σ χ) (call : Call) (s : Scene σ) :
    Ends net call s ((transport net).roundTrip call s) := by
  unfold transport
  dsimp only
  rw [Stage.exchange_bind]
  cases made : requestOf s.exchange.head (header? s.exchange.bundle) call with
  | error halt => exact .unfit halt made
  | ok request =>
    rw [Stage.orHalt_ok_bind, Stage.ask_bind]
    cases found : net.channel call.target.address s.world with
    | mk opened between =>
      cases opened with
      | error e => exact .unconnected request e between made found
      | ok channel =>
        rw [Stage.ofExcept_ok_bind, Stage.ask_bind]
        cases asked : net.send channel request call.timeout between with
        | mk arrival world =>
          cases came : outcome (call.method s.exchange.head) call.timeout arrival with
          | error halt =>
            exact .lost request channel between world arrival halt made found asked came
          | ok reply =>
            cases arrival with
            | failed failure => cases came
            | silent => cases came
            | answered response =>
              exact .answered request channel between world response reply.1 reply.2 made found
                asked came

end Grpc

namespace RawCall

/-- What a conversation fails with that brings no reply. -/
def lost (call : Call) : Arrival → Option GatewayError
  | .unreachable why => some (unreachable call.target.address why)
  | .failed why => some (failed call.target.address why)
  | .silent => some (timedOut call.target.address call.timeout)
  | .replied _ => none

/-- The ways in which a conversation ends. -/
inductive Ends (net : Network σ) (call : Call) (s : Scene σ) : CallResult σ → Prop
  /-- There is no reply. -/
  | lost (arrival : Arrival) (world : σ) (e : GatewayError) :
    converse net call s.world = (arrival, world) → RawCall.lost call arrival = some e →
    Ends net call s (.error (.failed e) { s with world })
  | replied (bytes : Bytes) (world : σ) :
    converse net call s.world = (.replied bytes, world) →
    Ends net call s (.ok ()
      ⟨s.exchange.mapHeader fun h ↦ { h with responseBody := some bytes }, .bytes (some bytes),
        world⟩)

/-- A conversation ends in one of these ways. -/
theorem ends_roundTrip (net : Network σ) (call : Call) (s : Scene σ) :
    Ends net call s ((transport net).roundTrip call s) := by
  unfold transport
  dsimp only
  rw [Stage.ask_bind]
  cases asked : converse net call s.world with
  | mk arrival world =>
    cases arrival with
    | unreachable why => exact .lost _ world _ asked rfl
    | failed why => exact .lost _ world _ asked rfl
    | silent => exact .lost _ world _ asked rfl
    | replied bytes => exact .replied bytes world asked

end RawCall

end HttpGateway
