import HttpGateway.Forwarding.Outbound

/-!
# Agreeing on another protocol

A backend may answer that it switches protocols. The switch stands only if the caller asked for one
and the backend names the same protocol, letters compared without case; the name used from then on
is the backend's.
-/

namespace HttpGateway.ProtocolSwitch

/-- Why a switch does not stand. -/
inductive Refusal
  | notRequested
  | unnamed
  | badToken (bad : HopByHop.BadToken)
  | mismatch (returned requested : Bytes)
  deriving DecidableEq

/-- The wording of a refusal. -/
def Refusal.message : Refusal → String
  | .notRequested => "backend switched protocols without an upgrade request"
  | .unnamed => "101 response without Upgrade header"
  | .badToken bad => bad.message
  | .mismatch returned requested =>
    "backend tried to switch protocol " ++ Utf8.decodeLossy returned ++ " when " ++
      Utf8.decodeLossy requested ++ " was requested"

/-- A switch that does not stand makes the exchange invalid. -/
def Refusal.error (refusal : Refusal) : GatewayError := .invalidRequest refusal.message

/-- The protocol agreed on, from the one requested and the backend's answer. -/
def agree (requested : Option Bytes) (answer : HeaderMap) : Except Refusal HeaderValue :=
  match requested with
  | none => .error .notRequested
  | some requested =>
    match answer.get? .upgrade with
    | none => .error .unnamed
    | some returned =>
      match HopByHop.checkToken returned with
      | .error bad => .error (.badToken bad)
      | .ok returned =>
        if Ascii.eqIgnoreCase returned.bytes requested then .ok returned
        else .error (.mismatch returned.bytes requested)

/-- The fields of the answer that confirms a switch to the caller. -/
def confirmation (answer : HeaderMap) (token : HeaderValue) : HeaderMap :=
  Outbound.withUpgrade (HopByHop.strip answer) (some token)

end HttpGateway.ProtocolSwitch
