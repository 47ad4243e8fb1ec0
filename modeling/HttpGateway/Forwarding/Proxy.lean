import HttpGateway.Forwarding.Delivery
import HttpGateway.Forwarding.ProtocolSwitch
import HttpGateway.Stage

/-!
# The transport of proxied requests

The inbound request is sent on to the target, once. A response that switches protocols is first held
against what the caller asked for. If the switch was agreed on and the connection can be taken over,
a relay between the two connections begins and the switch is confirmed to the caller; otherwise the
call fails. Any other response is forwarded. The time limit is for the head of the response.
-/

namespace HttpGateway.Proxy

/-- What becomes of a request to a backend. -/
inductive Arrival
  | unreachable (why : String)
  | failed (why : String)
  /-- No head came within the time limit. -/
  | silent
  | answered (response : BackendResponse)

/-- Backends and the relays to them, in a world of some type. -/
structure Network (σ : Type) where
  /-- Sends a request to its backend, with a time limit. -/
  send : Outbound → Duration → σ → Arrival × σ
  /-- Begins to relay between the caller and the backend that has given a response. -/
  relay : BackendResponse → σ → σ

/-- The connection cannot be handed over. -/
def notUpgradable : GatewayError :=
  .framework .serverSystemError "inbound connection does not support hijacking"

/-- The backend cannot be reached. -/
def unreachable (why : String) : GatewayError :=
  .transport .clientConnectFail ("connect backend: " ++ why)

/-- The request to the backend failed. -/
def failed (why : String) : GatewayError :=
  .transport .clientNetError ("backend request: " ++ why)

/-- No head came in time. -/
def timedOut (limit : Duration) : GatewayError :=
  .transport .clientInvokeTimeout ("backend did not answer within " ++ limit.text)

/-- A tunnel cannot be asked for in the old version of the protocol. -/
def isUnsupported (out : Outbound) : Bool := out.version = .http10 && out.method = .connect

/-- Sends a request, unless it cannot be sent in its version. -/
def send {σ : Type} (net : Network σ) (out : Outbound) (limit : Duration) (world : σ) :
    Arrival × σ :=
  if isUnsupported out then (.failed "client error (UserUnsupportedRequestMethod)", world)
  else net.send out limit world

/-- The response that confirms a switch to the caller. -/
def switching (answer : HeaderMap) (token : HeaderValue) : Response :=
  ⟨.switchingProtocols, .http11, ProtocolSwitch.confirmation answer token, .empty⟩

/-- Takes the connection over, if it may be. -/
def takeOver {σ : Type} : Stage σ Unit := do
  match (← Stage.exchange).taken? with
  | some x => Stage.change fun _ ↦ x
  | none => Stage.fail notUpgradable

/-- Switches protocols, if the switch stands and the connection can be taken over: only then the
relay begins and the exchange has its response. -/
def switchProtocols {σ : Type} (net : Network σ) (upgrade : Option HeaderValue)
    (response : BackendResponse) : Stage σ Unit := do
  let token ← Stage.ofExcept
    ((ProtocolSwitch.agree (upgrade.map HeaderValue.bytes) response.headers).mapError
      ProtocolSwitch.Refusal.error)
  takeOver
  Stage.act (net.relay response)
  Stage.change fun x ↦ { x with response := some (switching response.headers token) }

/-- A body that the caller takes to its end: whole if it came in one piece without trailers. -/
def bodyOf (forwarded : ForwardedResponse) : Body :=
  let frames := forwarded.delivered.frames.map Prod.snd
  match forwarded.head.policy, frames with
  | .framed, [] => .whole []
  | .framed, [.data bytes] => .whole bytes
  | _, frames => .frames frames

/-- The response that a caller gets of a backend's. -/
def responseOf (pool : BufferPool) (interval : Duration) (response : BackendResponse) :
    Except GatewayError Response :=
  match (ForwardedResponse.ofBackend pool interval response none).1 with
  | .error e => .error e
  | .ok forwarded =>
    .ok ⟨forwarded.head.status, forwarded.head.version, forwarded.head.headers, bodyOf forwarded⟩

/-- What is done with a response of the backend. -/
def accept {σ : Type} (net : Network σ) (pool : BufferPool) (interval : Duration)
    (upgrade : Option HeaderValue) (response : BackendResponse) : Stage σ Unit :=
  if response.status = .switchingProtocols then switchProtocols net upgrade response
  else do
    let answer ← Stage.ofExcept (responseOf pool interval response)
    Stage.change fun x ↦ { x with response := some answer }

/-- The transport of proxied requests, with copy buffers of a size and a flush interval. -/
def transport {σ : Type} (net : Network σ) (bufferSize : Nat) (interval : Duration) :
    Transport σ where
  roundTrip call := do
    let x ← Stage.exchange
    let out ← Stage.ofExcept
      ((Outbound.ofHead x.head call.payload call.target.address).mapError Outbound.Fault.error)
    match ← Stage.ask (send net out call.timeout) with
    | .unreachable why => Stage.fail (unreachable why)
    | .failed why => Stage.fail (failed why)
    | .silent => Stage.fail (timedOut call.timeout)
    | .answered response => accept net (.ofSize bufferSize) interval out.upgrade response

end HttpGateway.Proxy
