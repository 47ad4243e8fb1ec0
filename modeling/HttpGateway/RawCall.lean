import HttpGateway.SocketAddress
import HttpGateway.Stage
import HttpGateway.Text.Utf8

/-!
# The transport of raw bytes

One connection per call: the payload is sent, the sending side closed, and everything read until the
peer closes. The reply goes into the slot, and into the bundle if there is one.
-/

namespace HttpGateway.RawCall

/-- What becomes of a conversation. -/
inductive Arrival
  | unreachable (why : String)
  | failed (why : String)
  /-- The peer did not close within the time limit. -/
  | silent
  | replied (bytes : Bytes)

/-- Sends a payload to an address, with a time limit, in a world of some type. -/
abbrev Network (σ : Type) := String → Option Bytes → Duration → σ → Arrival × σ

/-- The connection cannot be opened. -/
def unreachable (address why : String) : GatewayError :=
  .transport .clientConnectFail ("connect " ++ address ++ ": " ++ why)

/-- The conversation failed. -/
def failed (address why : String) : GatewayError :=
  .transport .clientNetError (address ++ ": " ++ why)

/-- The peer did not close in time. -/
def timedOut (address : String) (limit : Duration) : GatewayError :=
  .transport .clientInvokeTimeout (address ++ " did not answer within " ++ limit.text)

/-- What is wrong with an address that is neither a socket address nor a host with a port. -/
def addressFault? (address : String) : Option String :=
  let bytes := Utf8.encode address
  if SocketAddress.isValid bytes then none
  else match bytes.reverse.span (· ≠ Ascii.byte ':') with
    | (_, []) => some "invalid socket address"
    | (port, _ :: _) =>
      match Decimal.unsigned? 65536 port.reverse with
      | none => some "invalid port value"
      | some _ => none

/-- Opens the connection, unless the address is none. -/
def converse {σ : Type} (net : Network σ) (call : Call) (world : σ) : Arrival × σ :=
  match addressFault? call.target.address with
  | some why => (.unreachable why, world)
  | none => net call.target.address call.payload call.timeout world

/-- The transport of raw bytes. -/
def transport {σ : Type} (net : Network σ) : Transport σ where
  roundTrip call := do
    match ← Stage.ask (converse net call) with
    | .unreachable why => Stage.fail (unreachable call.target.address why)
    | .failed why => Stage.fail (failed call.target.address why)
    | .silent => Stage.fail (timedOut call.target.address call.timeout)
    | .replied bytes =>
      Stage.change fun x ↦ x.mapHeader fun h ↦ { h with responseBody := some bytes }
      Stage.fill (.bytes (some bytes))

end HttpGateway.RawCall
