import HttpGateway.Bootstrap
import HttpGateway.Rehearsal.Journal

/-!
# Scripted parts

A transport, a hook and a handler that follow a script: they make an entry in the journal, change
the exchange as they are told, and fail if they are told to.
-/

namespace HttpGateway.Rehearsal

/-- Changes that a script makes to an exchange; what it does not state stays. -/
structure Edit where
  /-- The reply in the bundle, or that there is none. -/
  responseBody : Option (Option Bytes) := none
  responseMetadata : Option Metadata := none
  requestMetadata : Option Metadata := none
  response : Option Response := none
  businessError : Option GatewayError := none

/-- Changes a call header. -/
def Edit.header (e : Edit) (h : CallHeader) : CallHeader where
  serialization := h.serialization
  requestBody := h.requestBody
  responseBody := e.responseBody.getD h.responseBody
  requestMetadata := e.requestMetadata.getD h.requestMetadata
  responseMetadata := e.responseMetadata.getD h.responseMetadata

/-- Changes an exchange. -/
def Edit.apply (e : Edit) (x : Exchange) : Exchange :=
  { x.mapHeader e.header with
    response := e.response <|> x.response
    businessError := e.businessError <|> x.businessError }

/-- Fails, if there is something to fail with. -/
def failWith : Option GatewayError → Stage Rehearsal Unit
  | none => pure ()
  | some e => Stage.fail e

/-- The script of a transport. -/
structure TransportScript where
  delay : Duration := ⟨0⟩
  /-- The payload becomes the reply. -/
  echo : Bool := false
  slot : Option ReplySlot := none
  edit : Edit := {}
  failure : Option GatewayError := none

/-- What a transport sees of a call. -/
def seen (call : Call) (x : Exchange) : SeenCall where
  id := x.id
  address := call.target.address
  method := call.method x.head
  timeout := call.timeout
  capture := call.capture
  payload := call.payload
  bundle := x.bundle

/-- The transport that follows a script. -/
def TransportScript.transport (script : TransportScript) : Transport Rehearsal where
  roundTrip call := do
    let x ← Stage.exchange
    Stage.act (note (.called (seen call x)))
    Stage.act (wait script.delay)
    if script.echo then Stage.fill (.bytes call.payload)
    script.slot.forM Stage.fill
    Stage.change script.edit.apply
    failWith script.failure

/-- The script of a hook. -/
structure HookScript where
  name : String
  setupFailure : Option GatewayError := none
  /-- The protocol whose empty bundle is installed before the exchange is prepared. -/
  bundle : Option BundleKind := none
  edit : Edit := {}
  failure : Option GatewayError := none

/-- The hook that follows a script. -/
def HookScript.hook (script : HookScript) : Hook Rehearsal where
  setup := do
    modify fun (mapping, r) ↦ (mapping, note (.setUp script.name mapping.isSealed) r)
    match script.setupFailure with
    | none => pure ()
    | some e => throw e
  before := do
    Stage.act (note (.before script.name))
    script.bundle.forM fun kind ↦ Stage.install (.empty kind)
    Stage.change script.edit.apply
    failWith script.failure
  after x := note (.after script.name x.published)

/-- The script of a handler. -/
structure HandlerScript where
  timeout : Option Duration := none
  /-- The stage that fails, and what it fails with. -/
  failure : Option (HandlerStage × GatewayError) := none
  /-- The handler writes a response. -/
  responds : Bool := true

/-- Notes a stage of a handler, and fails if the script says so. -/
def HandlerScript.enter (script : HandlerScript) (stage : HandlerStage) :
    Stage Rehearsal Unit := do
  Stage.act (note (.stage stage))
  match script.failure with
  | none => pure ()
  | some (failing, e) => if failing = stage then Stage.fail e

/-- The response that a scripted handler writes: the failure for the caller if there is one, else
what the slot holds. -/
def plainResponse (x : Exchange) (slot : ReplySlot) : Response :=
  match x.businessError with
  | some e => Reply.business e
  | none => ⟨.ok, .http11, .empty, .whole (slot.bytes?.getD [])⟩

/-- The handler that follows a script. It brings no transport, and its calls are those of remote
procedures with the body as payload. -/
def HandlerScript.handler (script : HandlerScript) : Handler Rehearsal where
  prepare := do
    script.enter .prepare
    Stage.install (.empty .rpc)
  options := do
    script.enter .options
    return ⟨script.timeout, none, false⟩
  payload := do
    script.enter .payload
    return some (← Stage.exchange).body
  slot := do
    script.enter .slot
    return .bytes none
  recover e := do
    script.enter .recover
    Reply.absorb e
  respond := do
    script.enter .respond
    if script.responds then
      let s ← get
      Stage.change fun x ↦ { x with response := some (plainResponse s.exchange s.slot) }

/-- An assembly whose counters go into the journal. -/
def assembly (handlers : List (String × Handler Rehearsal))
    (transports : List (String × Transport Rehearsal)) (hooks : List (Hook Rehearsal)) :
    Assembly Rehearsal :=
  ⟨handlers, transports, hooks, fun c ↦ note (.counted c)⟩

end HttpGateway.Rehearsal
