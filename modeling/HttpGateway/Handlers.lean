import HttpGateway.Metadata.HeaderText
import HttpGateway.Reply

/-!
# The four protocols

How exchanges are handled for a proxied request, a call of a remote procedure, a gRPC call and a
conversation of raw bytes. All of them take failures of the business kind into the exchange and
answer them alike. The transport of remote procedures may be left to the gateway's own table.
-/

namespace HttpGateway.Handler

variable {σ : Type}

/-- The bundle that a handler needs is not there. -/
def withoutHeader (kind : BundleKind) : GatewayError :=
  .invalidRequest (kind.name ++ " handler ran without its header")

/-- The exchange carries no gRPC bundle. -/
def withoutGrpcHeader : GatewayError := .invalidRequest "grpc handler requires a grpc header"

/-- Notes the serialization and the payload of the call in the bundle. -/
def note (kind : BundleKind) (serialization : Serialization) (payload : Option Bytes) :
    Stage σ Unit := do
  match (← Stage.exchange).header? with
  | none => Stage.fail (withoutHeader kind)
  | some _ =>
    Stage.change fun x ↦ x.mapHeader fun h ↦ { h with serialization, requestBody := payload }

/-- The fixed content type of the answer of a serialization as a header value. -/
def typeValue : Serialization → HeaderValue
  | .protobuf => ⟨Ascii.bytes "application/protobuf", by decide⟩
  | .noop | .unsupported => ⟨Ascii.bytes "application/octet-stream", by decide⟩
  | .json | .get | .form => ⟨Ascii.bytes "application/json", by decide⟩

/-- The payload of a proxied request: its body, if it has one and the method allows it. -/
def proxiedPayload (x : Exchange) : Option Bytes :=
  if x.head.method = .get || x.head.method = .head || x.body.isEmpty then none else some x.body

/-- Proxied requests: the transport makes the response itself. -/
def http (transport : Transport σ) : Handler σ where
  prepare := Stage.install (.empty .http)
  options := return ⟨none, some transport, false⟩
  payload := do
    let payload := proxiedPayload (← Stage.exchange)
    note .http .noop payload
    return payload
  slot := return .streamed
  recover := Reply.absorb
  respond := Reply.unlessBusiness Reply.publish

/-- The serialization and the payload of a remote procedure call: the query for a read, otherwise
the body in the serialization that the content type names. -/
def procedurePayload (x : Exchange) : Except GatewayError (Serialization × Bytes) :=
  if x.head.method = .get then .ok (.get, Utf8.encode (x.head.uri.query?.getD ""))
  else match Serialization.ofContentType x.contentType with
    | .ok serialization => .ok (serialization, x.body)
    | .error unknown => .error unknown.error

/-- The answer of a remote procedure call: what is in the slot, else what is in the bundle. -/
def procedureReply (header : Option CallHeader) (slot : ReplySlot) : Response :=
  match header with
  | none => Reply.withBytes (typeValue .json) (slot.bytes?.getD []) .empty
  | some h =>
    Reply.withBytes (typeValue h.serialization) ((slot.bytes? <|> h.responseBody).getD [])
      (Reply.metadataHeaders h.responseMetadata)

/-- Calls of remote procedures. -/
def rpc (transport : Option (Transport σ)) : Handler σ where
  prepare := Stage.install (.empty .rpc)
  options := return ⟨none, transport, true⟩
  payload := do
    let (serialization, payload) ← Stage.ofExcept (procedurePayload (← Stage.exchange))
    note .rpc serialization (some payload)
    return some payload
  slot := return .bytes none
  recover := Reply.absorb
  respond := Reply.unlessBusiness do
    let s ← get
    Reply.write (procedureReply s.exchange.header? s.slot)

/-- The metadata keys under which the header fields and the query of the request travel. -/
def headersKey : Bytes := Ascii.bytes "x-gateway-http-header"
@[inherit_doc headersKey] def queryKey : Bytes := Ascii.bytes "x-gateway-http-query"

/-- Metadata with the header fields and the query of a request. -/
def withRequest (m : Metadata) (head : RequestHead) : Metadata :=
  (m.insert headersKey (HeaderText.encode head.headers)).insert queryKey
    (Utf8.encode (head.uri.query?.getD ""))

/-- gRPC calls: the reply is found in the bundle. -/
def grpc (transport : Transport σ) : Handler σ where
  prepare := Stage.install (.empty .grpc)
  options := return ⟨none, some transport, true⟩
  payload := do
    let x ← Stage.exchange
    match x.bundle with
    | some (.grpc _ _) =>
      Stage.change fun x ↦ x.mapHeader fun h ↦ { h with
        requestMetadata := withRequest h.requestMetadata x.head
        serialization := .unsupported
        requestBody := some x.body }
      return some x.body
    | _ => Stage.fail withoutGrpcHeader
  slot := return .inBundle
  recover := Reply.absorb
  respond := Reply.unlessBusiness do
    match (← Stage.exchange).header? with
    | none => Stage.fail withoutGrpcHeader
    | some h =>
      Reply.write (Reply.withBytes (typeValue .json) (h.responseBody.getD [])
        (Reply.metadataHeaders h.responseMetadata))

/-- Conversations of raw bytes. -/
def raw (transport : Transport σ) : Handler σ where
  prepare := Stage.install (.empty .raw)
  options := return ⟨none, some transport, false⟩
  payload := do
    let x ← Stage.exchange
    let payload := if x.body.isEmpty then none else some x.body
    note .raw .noop payload
    return payload
  slot := return .bytes none
  recover := Reply.absorb
  respond := Reply.unlessBusiness do
    let slot := (← get).slot
    Reply.write (Reply.withBytes (typeValue .noop) (slot.bytes?.getD []) .empty)

end HttpGateway.Handler
