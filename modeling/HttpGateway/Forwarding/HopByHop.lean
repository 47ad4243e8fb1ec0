import HttpGateway.Error
import HttpGateway.Http.HeaderMap
import HttpGateway.Text.Quoted
import HttpGateway.Text.Utf8

/-!
# Fields that belong to one connection

Some header fields speak about the connection they arrive on and are never passed on: a fixed list,
and whatever names the `Connection` fields of the message nominate. Upgrade intent and the will to
take trailers are read from such fields before they go.
-/

namespace HttpGateway

namespace HeaderMap

/-- The tokens listed in the fields of a name: between commas, without blanks around them, in lower
case. Values that are not text list nothing. -/
def tokens (m : HeaderMap) (name : HeaderName) : List Bytes :=
  ((((m.values name).filterMap HeaderValue.text?).flatMap (Ascii.splitOn (Ascii.byte ','))).map
    fun piece ↦ Ascii.lowerAll (Ascii.trim piece)).filter fun token ↦ !token.isEmpty

end HeaderMap

namespace HopByHop

/-- The names that are never passed on. -/
def names : List HeaderName := [
  .connection, .keepAlive, .proxyAuthenticate, .proxyAuthorization, .te, .trailers,
  .transferEncoding, .upgrade]

/-- A field that a message keeps to its connection: one of the fixed names, or one that the
message's `Connection` fields nominate. -/
def staysBehind (m : HeaderMap) (name : HeaderName) : Bool :=
  names.contains name || (m.tokens .connection).contains name.bytes

/-- The fields of a message that may be passed on. -/
def strip (m : HeaderMap) : HeaderMap := ⟨m.fields.filter fun f ↦ !staysBehind m f.1⟩

/-- The protocol that a message asks to switch to: the first `Upgrade` value, if `Connection` lists
the token `upgrade`. -/
def upgradeType? (m : HeaderMap) : Option HeaderValue :=
  if (m.tokens .connection).contains HeaderName.upgrade.bytes then m.get? .upgrade else none

/-- The sender takes trailers. -/
def acceptsTrailers (m : HeaderMap) : Bool := (m.tokens .te).contains HeaderName.trailers.bytes

/-- A non-empty string of visible characters and spaces. -/
def isPrintable (s : Bytes) : Bool := !s.isEmpty && s.all fun b ↦ 32 ≤ b && b ≤ 126

/-- An upgrade token that is not printable. -/
structure BadToken where
  bytes : Bytes
  deriving DecidableEq

/-- The wording of a bad token. -/
def BadToken.message (bad : BadToken) : String :=
  "upgrade token " ++ Text.quote (Utf8.decodeLossy bad.bytes) ++ " is not printable ASCII"

/-- A bad token makes the request invalid. -/
def BadToken.error (bad : BadToken) : GatewayError := .invalidRequest bad.message

/-- The upgrade token of a value, if it is printable. -/
def checkToken (value : HeaderValue) : Except BadToken HeaderValue :=
  if isPrintable value.bytes then .ok value else .error ⟨value.bytes⟩

/-- A name that may be passed on keeps its values, and no other keeps any. -/
theorem values_strip (m : HeaderMap) (name : HeaderName) :
    (strip m).values name = if staysBehind m name then [] else m.values name := by
  simp only [strip, HeaderMap.values, List.filter_filter]
  by_cases h : staysBehind m name = true
  · simp only [h, if_true, List.map_eq_nil_iff, List.filter_eq_nil_iff]
    intro f _
    by_cases hf : f.1 = name <;> simp [hf, h]
  · simp only [h]
    congr 1
    apply List.filter_congr
    intro f _
    by_cases hf : f.1 = name <;> simp [hf, h]

end HopByHop
end HttpGateway
