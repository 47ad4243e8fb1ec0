import HttpGateway.Forwarding.HopByHop
import HttpGateway.Http.Message

/-!
# The request sent on to a backend

An inbound head becomes the request for a routed address. Fields of the inbound connection stay
behind; the wish to switch protocols and to take trailers is stated anew; the `Host` of the caller
is kept, or taken from an absolute target; the length announced is that of the payload and of
nothing else. The target is the address with the caller's path and query behind it.
-/

namespace HttpGateway

/-- The request sent on to a backend, and the protocol it asks to switch to. -/
structure Outbound where
  method : Method
  uri : Uri
  version : Version
  headers : HeaderMap
  body : Bytes
  upgrade : Option HeaderValue
  deriving DecidableEq

namespace Outbound

/-- Why no request can be made of a head. -/
inductive Fault
  | token (bad : HopByHop.BadToken)
  | target (why : InvalidUri)
  deriving DecidableEq

/-- A head that no request can be made of is invalid. -/
def Fault.error : Fault → GatewayError
  | .token bad => bad.error
  | .target why => .invalidRequest ("target uri: " ++ why.message)

/-- The value that asks the next hop to switch protocols. -/
def upgradeOption : HeaderValue := ⟨Ascii.bytes "Upgrade", by decide⟩

/-- The value that tells the next hop that trailers are welcome. -/
def trailersOption : HeaderValue := ⟨Ascii.bytes "trailers", by decide⟩

/-- States a switch anew for the next hop. -/
def withUpgrade (m : HeaderMap) : Option HeaderValue → HeaderMap
  | none => m
  | some token => (m.insert .connection upgradeOption).insert .upgrade token

/-- Fills in a missing `Host` from the authority of the target. -/
def withHost (m : HeaderMap) (uri : Uri) : HeaderMap :=
  if m.contains .host then m
  else match uri.authority?.bind fun name ↦ HeaderValue.ofBytes? (Utf8.encode name) with
    | none => m
    | some value => m.insert .host value

/-- Announces the length of the payload, or no length where there is no payload. -/
def withLength (m : HeaderMap) : Option Bytes → HeaderMap
  | none => m.remove .contentLength
  | some payload => m.insert .contentLength (.ofNat payload.length)

/-- The fields of the request that is sent on. -/
def statedHeaders (head : RequestHead) (upgrade : Option HeaderValue) (payload : Option Bytes) :
    HeaderMap :=
  let kept := withUpgrade (HopByHop.strip head.headers) upgrade
  let kept := if HopByHop.acceptsTrailers head.headers then kept.insert .te trailersOption else kept
  withLength (withHost kept head.uri) payload

/-- The text of the target: the address, then the caller's path and query. -/
def targetText (address : String) (uri : Uri) : String :=
  "http://" ++ address ++ uri.pathQuery?.getD "/"

/-- The protocol that a head asks to switch to, if its token is fit to be passed on. -/
def requestedUpgrade (head : RequestHead) : Except HopByHop.BadToken (Option HeaderValue) :=
  match HopByHop.upgradeType? head.headers with
  | none => .ok none
  | some value => (HopByHop.checkToken value).map some

/-- The version spoken to the backend: the oldest callers keep theirs. -/
def versionFor : Version → Version
  | .http10 => .http10
  | _ => .http11

/-- The request for an address made of an inbound head and a payload. -/
def ofHead (head : RequestHead) (payload : Option Bytes) (address : String) :
    Except Fault Outbound := do
  let upgrade ← (requestedUpgrade head).mapError .token
  let uri ← (Uri.parse (targetText address head.uri)).mapError .target
  return {
    method := head.method
    uri
    version := versionFor head.version
    headers := statedHeaders head upgrade payload
    body := payload.getD []
    upgrade }

end Outbound
end HttpGateway
