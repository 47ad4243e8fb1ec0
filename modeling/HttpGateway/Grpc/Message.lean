import HttpGateway.Grpc.Status
import HttpGateway.Json
import HttpGateway.Text.Utf8

/-!
# Messages of a gRPC call

The gateway does not know the message types of the services behind it: what it sends is bytes as
they are, a message that knows its own wire form, or a JSON value; what it receives is bytes.
-/

namespace HttpGateway.Grpc

/-- A message to send. -/
inductive Message
  /-- A message that knows its wire form, or why it has none. -/
  | encoded (wire : Except String Bytes)
  | bytes (b : Bytes)
  | json (value : Json)

namespace Message

/-- The wire form of a message; one without a wire form fails the call. -/
def wire : Message → Except Failure Bytes
  | encoded (.ok b) => .ok b
  | encoded (.error why) => .error ⟨.internal, why⟩
  | bytes b => .ok b
  | json value => .ok (Utf8.encode value.text)

/-- A message in diagnostics: its size if it is bytes, its text if it is JSON. -/
def describe : Message → String
  | encoded _ => "Payload::Encoded"
  | bytes b => "Payload::Bytes(" ++ Decimal.text b.length ++ " bytes)"
  | json value => "Payload::Json(" ++ value.text ++ ")"

/-- The bytes of a message that arrived in pieces: all of them, and none remain. -/
def receive (pieces : List Bytes) : Bytes × List Bytes := (pieces.flatten, [])

end Message
end HttpGateway.Grpc
