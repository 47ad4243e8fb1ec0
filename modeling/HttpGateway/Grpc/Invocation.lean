import HttpGateway.Counter
import HttpGateway.Grpc.ChannelPool
import HttpGateway.Grpc.Unary
import HttpGateway.Metadata.Wire
import HttpGateway.Stage

/-!
# The gRPC transport

A call takes the request body and the request metadata from the gRPC bundle, gets a channel to the
target, and invokes the method on it. The message and the metadata of the response go into the
bundle together, and only when the call has succeeded.
-/

namespace HttpGateway.Grpc

/-- What becomes of a request on a channel. -/
inductive Arrival
  /-- The call came to its end without a response. -/
  | failed (failure : Failure)
  /-- Nothing came within the time limit. -/
  | silent
  | answered (response : Response)

/-- Channels and what they carry, in a world of some type. -/
structure Network (σ χ : Type) where
  /-- Gets a channel to an address. -/
  channel : String → σ → Except GatewayError χ × σ
  /-- Sends a request on a channel, with a time limit. -/
  send : χ → Request → Duration → σ → Arrival × σ

/-- The exchange carries no bundle of a gRPC call. -/
def withoutBundle : GatewayError :=
  .invalidRequest "grpc transport requires a grpc header bundle"

/-- The method is no path. -/
def badMethod (method : String) (why : InvalidUri) : GatewayError :=
  .invalidRequest ("grpc method " ++ method ++ ": " ++ why.message)

/-- The service did not answer in time. -/
def timedOut (method : String) (limit : Duration) : GatewayError :=
  .transport .clientInvokeTimeout ("grpc " ++ method ++ " did not answer within " ++ limit.text)

/-- The path that a method is. -/
def pathOf (method : String) : Except GatewayError PathQuery :=
  match PathQuery.parseAlone method with
  | .ok path => .ok path
  | .error why => .error (badMethod method why)

/-- The metadata of a header as fields. -/
def fieldsOf (header : CallHeader) : Except GatewayError HeaderMap :=
  match header.requestMetadata.outgoing with
  | .ok fields => .ok fields
  | .error fault => .error fault.error

/-- The path and the fields of a call, and the header in the bundle that they are made of. -/
def partsOf (head : RequestHead) (header : Option CallHeader) (call : Call) :
    Except GatewayError (PathQuery × HeaderMap × CallHeader) := do
  let path ← pathOf (call.method head)
  match header with
  | none => .error withoutBundle
  | some h => return (path, ← fieldsOf h, h)

/-- The request of a call, made of the header in the bundle. -/
def requestOf (head : RequestHead) (header : Option CallHeader) (call : Call) :
    Except Halt Request :=
  match partsOf head header call with
  | .error e => .error (.failed e)
  | .ok (path, fields, h) =>
    match timeoutValue? call.timeout with
    | none => .error (.brokenOff unwritable)
    | some limit =>
      .ok ⟨path, requestHeaders fields limit, (h.requestBody <|> call.payload).getD []⟩

/-- The header of a gRPC bundle. -/
def header? : Option Bundle → Option CallHeader
  | some (.grpc h _) => some h
  | _ => none

/-- The bundle of a call that has brought a message and metadata. -/
def withReply (message : Bytes) (metadata : HeaderMap) : Bundle → Bundle
  | .grpc h _ =>
    .grpc { h with responseMetadata := .incoming metadata, responseBody := some message } metadata
  | other => other

/-- What a call brings, or how it ends without. -/
def outcome (method : String) (limit : Duration) : Arrival → Except Halt (Bytes × HeaderMap)
  | .failed failure => .error (.failed failure.error)
  | .silent => .error (.failed (timedOut method limit))
  | .answered response => conclude response

/-- The transport of gRPC calls. -/
def transport {σ χ : Type} (net : Network σ χ) : Transport σ where
  roundTrip call := do
    let x ← Stage.exchange
    let request ← Stage.orHalt (requestOf x.head (header? x.bundle) call)
    let channel ← Stage.ofExcept (← Stage.ask (net.channel call.target.address))
    let arrival ← Stage.ask (net.send channel request call.timeout)
    let (message, metadata) ←
      Stage.orHalt (outcome (call.method x.head) call.timeout arrival)
    Stage.change fun x ↦ { x with bundle := x.bundle.map (withReply message metadata) }

/-! ## Dialing -/

/-- What becomes of a dial. -/
inductive DialResult (χ : Type)
  | connected (channel : χ)
  | failed (why : String)
  | silent

/-- An address that no endpoint can be made of. -/
def badEndpoint (address : String) : GatewayError :=
  .transport .clientConnectFail ("endpoint " ++ address ++ ": invalid URI")

/-- The channel that a dial opens, within a time limit. -/
def dial {σ χ : Type} (connect : String → Duration → σ → DialResult χ × σ) (limit : Duration)
    (address : String) (world : σ) : Except GatewayError χ × σ :=
  match Uri.parse ("http://" ++ address) with
  | .error _ => (.error (badEndpoint address), world)
  | .ok _ =>
    match connect address limit world with
    | (.connected channel, world) => (.ok channel, world)
    | (.failed why, world) =>
      (.error (.transport .clientConnectFail ("dial " ++ address ++ ": " ++ why)), world)
    | (.silent, world) =>
      (.error (.transport .clientConnectFail
        ("dial " ++ address ++ ": timed out after " ++ limit.text)), world)

/-- A pool as a part of the world, and where its dials are counted. -/
structure PoolIn (σ χ : Type) where
  get : σ → ChannelPool χ
  set : ChannelPool χ → σ → σ
  count : Counter → σ → σ

/-- A channel from a pool: the one stored for the address, or a new one. -/
def pooled {σ χ : Type} (pool : PoolIn σ χ)
    (dial : String → σ → Except GatewayError χ × σ) (address : String) (world : σ) :
    Except GatewayError χ × σ :=
  match (pool.get world).channel? address with
  | some channel => (.ok channel, world)
  | none =>
    let (result, world) := dial address world
    let (results, kept) := (pool.get world).getAll (fun _ ↦ result) [address]
    let world := pool.set kept world
    let world := match result with
      | .ok _ => pool.count .poolDial world
      | .error _ => world
    (results.headD result, world)

end HttpGateway.Grpc
