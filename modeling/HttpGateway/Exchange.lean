import HttpGateway.Error
import HttpGateway.Http.Message
import HttpGateway.Metadata
import HttpGateway.Serialization

/-!
# Exchanges

One inbound request on its way through the gateway: its head and body, the bundle of call headers of
the protocol that handles it, the response being made, the head shown to the hooks, and a failure
that the service means for the caller. A bundle is installed once: a second one of the same protocol
changes nothing, and one of another protocol is refused.
-/

namespace HttpGateway

/-- What every protocol keeps about its call. -/
structure CallHeader where
  serialization : Serialization
  requestBody : Option Bytes
  responseBody : Option Bytes
  requestMetadata : Metadata
  responseMetadata : Metadata
  deriving DecidableEq

/-- A header about which nothing is known yet. -/
def CallHeader.empty : CallHeader := ⟨.noop, none, none, .empty, .empty⟩

/-- The protocols that have bundles of their own. -/
inductive BundleKind
  | http
  | rpc
  | grpc
  | raw
  deriving DecidableEq, Repr

/-- The name of a protocol that has bundles of its own. -/
def BundleKind.name : BundleKind → String
  | http => "http"
  | rpc => "rpc"
  | grpc => "grpc"
  | raw => "raw"

/-- The call headers of an exchange: one form for each protocol. The bundle of a gRPC call also
keeps the response metadata as it arrived. -/
inductive Bundle
  | http (header : CallHeader)
  | rpc (header : CallHeader)
  | grpc (header : CallHeader) (wireMetadata : HeaderMap)
  | raw (header : CallHeader)
  deriving DecidableEq

namespace Bundle

/-- A bundle about which nothing is known yet. -/
def empty : BundleKind → Bundle
  | .http => .http .empty
  | .rpc => .rpc .empty
  | .grpc => .grpc .empty .empty
  | .raw => .raw .empty

/-- The protocol of a bundle. -/
def kind : Bundle → BundleKind
  | http _ => .http
  | rpc _ => .rpc
  | grpc _ _ => .grpc
  | raw _ => .raw

/-- The call header in a bundle. -/
def header : Bundle → CallHeader
  | http h | rpc h | grpc h _ | raw h => h

/-- A bundle with its call header changed. -/
def mapHeader (f : CallHeader → CallHeader) : Bundle → Bundle
  | http h => http (f h)
  | rpc h => rpc (f h)
  | grpc h wire => grpc (f h) wire
  | raw h => raw (f h)

/-- The bundle belongs to a gRPC call. -/
def isGrpc (b : Bundle) : Bool := b.kind = .grpc

/-- An empty bundle is of the protocol it was made for. -/
@[simp] theorem kind_empty (k : BundleKind) : (empty k).kind = k := by cases k <;> rfl

/-- Changing the call header keeps the protocol. -/
@[simp] theorem kind_mapHeader (f : CallHeader → CallHeader) (b : Bundle) :
    (b.mapHeader f).kind = b.kind := by cases b <;> rfl

end Bundle

/-- The head of a response, kept for those who look on. -/
structure ResponseHead where
  status : Status
  version : Version
  headers : HeaderMap
  deriving DecidableEq

/-- The head of a response. -/
def Response.head (response : Response) : ResponseHead :=
  ⟨response.status, response.version, response.headers⟩

/-- What may become of the connection that a request came on. -/
inductive Connection
  /-- It serves requests only. -/
  | plain
  /-- It may be taken over for another protocol. -/
  | upgradable
  /-- It has been taken over; whoever took it has it. -/
  | taken
  deriving DecidableEq, Repr

/-- One inbound request on its way through the gateway. -/
structure Exchange where
  head : RequestHead
  body : Bytes
  connection : Connection
  bundle : Option Bundle
  response : Option Response
  /-- The head of the response, as it is shown to the hooks. -/
  published : Option ResponseHead
  businessError : Option GatewayError
  deriving DecidableEq

namespace HeaderName

/-- The field that names a request. -/
def requestId : HeaderName := ⟨Ascii.bytes "x-request-id", by decide⟩

end HeaderName

namespace Exchange

/-- The exchange of a request whose body has been read. -/
def ofRequest (head : RequestHead) (body : Bytes) (connection : Connection) : Exchange :=
  ⟨head, body, connection, none, none, none, none⟩

/-- The name of the request, or a fixed name if it has none that is text. -/
def id (x : Exchange) : String :=
  (((x.head.headers.get? .requestId).bind HeaderValue.text?).map Ascii.text).getD "unknown"

/-- The content type of the request without parameters; empty if there is none that is text. -/
def contentType (x : Exchange) : String :=
  match (x.head.headers.get? .contentType).bind HeaderValue.text? with
  | none => ""
  | some value => Ascii.text (Ascii.trim (Ascii.cut (Ascii.byte ';') value).1)

/-- A bundle of another protocol than the one that the exchange carries. -/
structure ForeignBundle where
  existing : BundleKind
  wanted : BundleKind
  deriving DecidableEq

/-- The wording of a refused bundle. -/
def ForeignBundle.message (foreign : ForeignBundle) : String :=
  "exchange carries a " ++ foreign.existing.name ++ " header, " ++ foreign.wanted.name ++
    " handler cannot run"

/-- A refused bundle makes the request invalid. -/
def ForeignBundle.error (foreign : ForeignBundle) : GatewayError := .invalidRequest foreign.message

/-- Installs a bundle, unless the exchange has one of the same protocol already. -/
def install (x : Exchange) (bundle : Bundle) : Except ForeignBundle Exchange :=
  match x.bundle with
  | none => .ok { x with bundle := some bundle }
  | some existing =>
    if existing.kind = bundle.kind then .ok x else .error ⟨existing.kind, bundle.kind⟩

/-- The exchange after its connection has been taken over, if it may be: it is taken once. -/
def taken? (x : Exchange) : Option Exchange :=
  match x.connection with
  | .upgradable => some { x with connection := .taken }
  | .plain | .taken => none

/-- The call header of whichever bundle is installed. -/
def header? (x : Exchange) : Option CallHeader := x.bundle.map Bundle.header

/-- The exchange with the call header of its bundle changed. -/
def mapHeader (f : CallHeader → CallHeader) (x : Exchange) : Exchange :=
  { x with bundle := x.bundle.map (Bundle.mapHeader f) }

end Exchange
end HttpGateway
