import HttpGateway.Proofs.Lifecycle.Isolation
import HttpGateway.Proofs.Metadata.ReplyFields

/-!
# What a reply is assembled from

A transport may leave bytes in the slot and in the bundle, metadata in the bundle, and a response of
its own. The answer to the call of a remote procedure has the bytes of the slot, and else those of
the bundle; that to a gRPC call has those of the bundle, and that to a conversation of raw bytes has
those of the slot. The metadata become header fields, except in a conversation of raw bytes, and
there is one content type. A response that the transport left counts for nothing.
-/

namespace HttpGateway

variable {σ : Type}

namespace Reply

/-- The bytes of a reply by its protocol, from what is in the slot and in the bundle. -/
def bodyOf : BundleKind → ReplySlot → Option Bytes → Bytes
  | .rpc, .bytes (some b), _ | .raw, .bytes (some b), _ => b
  | .rpc, _, some b | .grpc, _, some b => b
  | _, _, _ => []

/-- The content type of a reply by its protocol and, for a remote procedure, by the request. -/
inductive HasType (request : Exchange) : BundleKind → String → Prop
  | grpc : HasType request .grpc "application/json"
  | raw : HasType request .raw "application/octet-stream"
  | read (get : request.head.method = .get) : HasType request .rpc "application/json"
  | json (written : request.head.method ≠ .get)
      (type : request.contentType ∈ ["", "application/json", "application/x-www-form-urlencoded"]) :
      HasType request .rpc "application/json"
  | protobuf (written : request.head.method ≠ .get)
      (type : request.contentType ∈ ["application/protobuf", "application/x-protobuf"]) :
      HasType request .rpc "application/protobuf"

variable {request : Exchange} {kind : BundleKind} {slot : ReplySlot} {header : CallHeader}
  {text : String}

end Reply

namespace Handler

open Reply

variable {handler : Handler σ} {kind : BundleKind} {own : Option (Transport σ)}

end Handler

namespace Gateway

open Handler Lifecycle Reply

variable {g : Gateway σ} {protocol : String} {target : Target} {handler : Handler σ}
  {transport : Transport σ} {call : Call} {kind : BundleKind} {own : Option (Transport σ)}
  {s t : Scene σ}

end Gateway
end HttpGateway
