import HttpGateway.Error

/-!
# Serializations

How the payload of a call is written. For a request with a body the content type decides; the
serialization in turn decides the content type of the answer.
-/

namespace HttpGateway

/-- How the payload of a call is written. -/
inductive Serialization
  | json
  /-- The payload is the query of the request. -/
  | get
  | form
  | protobuf
  /-- Bytes pass as they are. -/
  | noop
  /-- The bytes belong to the transport, and the gateway does not look at them. -/
  | unsupported
  deriving DecidableEq, Repr

namespace Serialization

/-- A content type that no serialization is known for. -/
structure UnknownType where
  contentType : String
  deriving DecidableEq

/-- A body of an unknown type cannot be decoded. -/
def UnknownType.error (unknown : UnknownType) : GatewayError :=
  ⟨.request, .serverDecodeFail, "unsupported content type: " ++ unknown.contentType⟩

/-- The serialization of a body of a content type; nothing is said by an empty type. -/
def ofContentType (contentType : String) : Except UnknownType Serialization :=
  if contentType = "" || contentType = "application/json" then .ok .json
  else if contentType = "application/x-www-form-urlencoded" then .ok .form
  else if contentType = "application/protobuf" || contentType = "application/x-protobuf" then
    .ok .protobuf
  else .error ⟨contentType⟩

/-- The content type of an answer. -/
def responseType : Serialization → String
  | protobuf => "application/protobuf"
  | noop | unsupported => "application/octet-stream"
  | json | get | form => "application/json"

end Serialization
end HttpGateway
