import HttpGateway.Error
import HttpGateway.Http.HeaderMap
import HttpGateway.Metadata
import HttpGateway.Text.Base64

/-!
# Metadata on the wire

Metadata travels as header fields. A key that ends in `-bin` belongs to the binary class, whose
values travel in base64; all other values travel as they are and have to be legal header values.
The key `connection`, in any case, stays behind: it belongs to the connection and not to the call.
On the way in, a binary value that does not decode is dropped.
-/

namespace HttpGateway.Metadata

/-- The end of the keys of the binary class. -/
def binaryEnd : Bytes := Ascii.bytes "-bin"

/-- A key of the binary class. -/
def isBinaryKey (key : Bytes) : Bool := binaryEnd.isSuffixOf key

/-- Why metadata cannot be sent. -/
inductive WireFault
  | key (key : Bytes)
  | value (name : HeaderName)
  deriving DecidableEq

/-- The wording of a fault. -/
def WireFault.message : WireFault → String
  | .key spelled =>
    "metadata key " ++ Utf8.decodeLossy spelled ++ ": invalid gRPC metadata key name"
  | .value field => "metadata value for " ++ field.text ++ ": failed to parse metadata value"

/-- Metadata that cannot be sent makes the request invalid. -/
def WireFault.error (fault : WireFault) : GatewayError := .invalidRequest fault.message

/-- The header name of a key, if that name is of the class that the key itself is of. -/
def wireName? (key : Bytes) : Option HeaderName :=
  (HeaderName.ofBytes? key).filter fun name ↦ isBinaryKey name.bytes = isBinaryKey key

/-- One pair as a header field. -/
def wireField (pair : Bytes × Bytes) : Except WireFault (HeaderName × HeaderValue) :=
  match wireName? pair.1 with
  | none => .error (.key pair.1)
  | some name =>
    let bytes := if isBinaryKey pair.1 then Base64.encode pair.2 else pair.2
    match HeaderValue.ofBytes? bytes with
    | none => .error (.value name)
    | some value => .ok (name, value)

/-- A key that is not sent. -/
def staysBehind (key : Bytes) : Bool := Ascii.eqIgnoreCase key HeaderName.connection.bytes

/-- The header fields that metadata is sent as. -/
def outgoing (m : Metadata) : Except WireFault HeaderMap := do
  return ⟨← (m.toList.filter fun pair ↦ !staysBehind pair.1).mapM wireField⟩

/-- The pair of a received header field; `none` if it is binary and does not decode. -/
def ofWireField (field : HeaderName × HeaderValue) : Option (Bytes × Bytes) :=
  if isBinaryKey field.1.bytes then
    (Base64.decode? field.2.bytes).map fun value ↦ (field.1.bytes, value)
  else some (field.1.bytes, field.2.bytes)

/-- The metadata of received header fields. -/
def incoming (headers : HeaderMap) : Metadata := ⟨headers.fields.filterMap ofWireField⟩

end HttpGateway.Metadata
