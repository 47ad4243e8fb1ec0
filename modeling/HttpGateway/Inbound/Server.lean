import HttpGateway.Bootstrap
import HttpGateway.Inbound.Body
import HttpGateway.Inbound.Clock

/-!
# The inbound server

A request is routed by its head, its body is read, and then one exchange is served. A request
without a route and one whose body cannot be read are answered without an exchange. Around this
stand the rules for every answer: each request has a name, which the response repeats; a time limit
holds for the whole; the length of the body is announced where it is known; and a request for the
head gets no body.
-/

namespace HttpGateway

/-- A request as it comes in. -/
structure InboundRequest where
  head : RequestHead
  body : IncomingBody
  connection : Connection

/-- An inbound server over a world of some type. -/
structure Server (σ : Type) where
  gateway : Gateway σ
  routes : RouteTable
  /-- The largest body that is read. -/
  maxBody : Nat
  /-- The time limit of a request. -/
  limit : Duration

namespace Server

variable {σ : Type}

/-- The server of a configuration. -/
def ofConfig (config : Config) (b : Bootstrapped σ) : Server σ :=
  ⟨b.gateway, b.routes, config.listener.maxBodySize, .ofSeconds config.timeouts.requestSecs⟩

/-- No route takes a request. -/
def noRoute (path : String) : GatewayError :=
  .framework .serverNoService ("no route for " ++ path)

/-- Routes a request, reads its body and serves one exchange. -/
def dispatch (s : Server σ) (request : InboundRequest) (world : σ) :
    Except Breakdown Response × σ :=
  match s.routes.find? request.head with
  | none => (.ok (s.gateway.errorResponse (noRoute request.head.uri.path)), world)
  | some route =>
    match request.body.read s.maxBody with
    | .error fault => (.ok (s.gateway.errorResponse fault.error), world)
    | .ok bytes =>
      s.gateway.serve route.protocol route.target
        (.ofRequest request.head bytes request.connection) world

/-! ## Rules for every answer -/

/-- The answer to a request whose target is no path. -/
def noPath : Response := ⟨.notFound, .http11, .empty, .empty⟩

/-- The answer to a request that took too long. -/
def tooLate : Response := ⟨.requestTimeout, .http11, .empty, .empty⟩

/-- A request target that begins as a path. -/
def hasPath (head : RequestHead) : Bool := head.uri.path.toList.head? = some '/'

/-- A request head with a name: the fresh one if it has none of its own. -/
def named (fresh : HeaderValue) (head : RequestHead) : RequestHead :=
  if head.headers.contains .requestId then head
  else { head with headers := head.headers.append .requestId fresh }

/-- A named request head has a name. -/
theorem contains_named (fresh : HeaderValue) (head : RequestHead) :
    (named fresh head).headers.contains .requestId = true := by
  unfold named
  split
  · assumption
  · rw [HeaderMap.contains_iff]
    simp

/-- A response that repeats the name of its request, unless it states one of its own. -/
def repeating (head : RequestHead) (response : Response) : Response :=
  match head.headers.get? .requestId with
  | none => response
  | some id =>
    if response.headers.contains .requestId then response
    else { response with headers := response.headers.append .requestId id }

/-- A response that announces the length of its body, where it is known and not yet announced. -/
def announcing (response : Response) : Response :=
  match response.body.length? with
  | none => response
  | some n =>
    if response.headers.contains .contentLength then response
    else { response with headers := response.headers.append .contentLength (.ofNat n) }

/-- A response without its body. -/
def bodiless (response : Response) : Response := { response with body := .empty }

/-- The request asks for a tunnel and is granted it. -/
def grantsTunnel (method : Method) (response : Response) : Bool :=
  method = .connect && decide (200 ≤ response.status.code ∧ response.status.code < 300)

/-- A response that states a length or an encoding of its body, or is known to have one. -/
def statesBody (response : Response) : Bool :=
  response.headers.contains .contentLength || response.headers.contains .transferEncoding ||
    response.body.length?.any (· ≠ 0)

/-- The response in the form that the method of the request asks for. -/
def inForm (method : Method) (response : Response) : Response :=
  if grantsTunnel method response then
    if statesBody response then bodiless response else response
  else if method = .head then bodiless (announcing response)
  else announcing response

/-- Answers a request within the time limit. A request without a name gets the fresh one. -/
def answer (s : Server σ) (clock : Clock σ) (fresh : HeaderValue) (request : InboundRequest)
    (world : σ) : Except Breakdown Response × σ :=
  let head := named fresh request.head
  let (response, world) :=
    if hasPath head then
      let (response, world) := clock.within s.limit (s.dispatch { request with head }) world
      (response.getD (.ok tooLate), world)
    else (.ok noPath, world)
  (response.map fun response ↦ inForm head.method (repeating head response), world)

end Server
end HttpGateway
