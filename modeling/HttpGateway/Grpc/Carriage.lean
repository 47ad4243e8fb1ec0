import HttpGateway.Grpc.Unary
import HttpGateway.Http2.FieldBlock

/-!
# How HTTP/2 carries a call

Between the service and the caller stands a connection. On the way it takes from the head of a
response the fields that speak about a connection, and refuses trailers that hold one. The receiver
holds the body against the length that the head announces, reads the status of a provisional
response as no response yet, and bounds the heads and trailers it takes: a head over the limit is an
error, and of trailers the fields over the limit are left out. A head over the limit of the service
is answered by the connection itself.
-/

namespace HttpGateway

@[inherit_doc HeaderName.connection] def HeaderName.proxyConnection : HeaderName :=
  ⟨Ascii.bytes "proxy-connection", by decide⟩

namespace Grpc

/-- The code of a call whose stream is given up. -/
def codeOf : Http2.Reason → Code
  | .protocol => .internal
  | .compression => .internal
  | .cancel => .cancelled
  | .calm => .resourceExhausted

/-- The stream is given up before the head of the response is there. -/
def lostHead (reason : Http2.Reason) : Failure :=
  ⟨codeOf reason, "h2 protocol error: http2 error"⟩

/-- The stream is given up within the body of the response. -/
def lostBody (reason : Http2.Reason) : Failure :=
  ⟨codeOf reason, "h2 protocol error: error reading a body from connection"⟩

/-- The fields about a connection that no message may hold. -/
def connectionNames : List HeaderName := [
  .keepAlive, .proxyConnection, .transferEncoding, .upgrade, .connection]

/-- The value that the field `te` may have. -/
def onlyTrailers : Bytes := Ascii.bytes "trailers"

/-- The names that a value of the field `connection` lists. -/
def listedNames (value : Bytes) : List HeaderName :=
  (Ascii.splitOn (Ascii.byte ',') value).filterMap fun piece ↦
    HeaderName.ofBytes? (Ascii.trim piece)

/-- The fields of a head that go on the wire. A `connection` field that is no text stops the
sender. -/
def sentHead (headers : HeaderMap) : Except Http2.Reason HeaderMap :=
  let plain := (HeaderName.te :: connectionNames).foldl HeaderMap.remove headers
  match headers.get? .connection with
  | none => .ok plain
  | some value =>
    match value.text? with
    | none => .error .cancel
    | some text => .ok ((listedNames text).foldl HeaderMap.remove plain)

/-- The sender refuses trailers with fields about a connection. -/
def refusesTrailers (trailers : HeaderMap) : Bool :=
  connectionNames.any trailers.contains ||
    (trailers.get? .te).any fun value ↦ value.bytes ≠ onlyTrailers

/-- The receiver refuses trailers with any value of `te` but the one. -/
def areMalformed (trailers : HeaderMap) : Bool :=
  (trailers.values .te).any fun value ↦ value.bytes ≠ onlyTrailers

/-- The number that a length field gives: at most nineteen digits, and none stand for zero. -/
def lengthOf? (value : HeaderValue) : Option Nat :=
  if value.bytes.isEmpty then some 0
  else if value.bytes.length ≤ 19 then Decimal.ofDigits? value.bytes
  else none

/-- The length that a head announces, if it announces one. -/
def announced (head : HeaderMap) : Except Http2.Reason (Option Nat) :=
  match head.get? .contentLength with
  | none => .ok none
  | some value =>
    match lengthOf? value with
    | some n => .ok (some n)
    | none => .error .protocol

/-- The size of the status in a head. -/
def statusSize : Nat := 42

/-- The head as it is received. -/
def receivedHead (front : Nat) (headers : HeaderMap) : Except Http2.Reason HeaderMap := do
  let intake ← Http2.readBlock front headers.grouped
  if intake.isOver then .error .protocol else .ok ⟨intake.kept⟩

/-- The trailers as they are received. -/
def receivedTrailers (trailers : HeaderMap) : Except Http2.Reason HeaderMap :=
  if refusesTrailers trailers then .error .cancel
  else do
    let intake ← Http2.readBlock 0 trailers.grouped
    if areMalformed trailers then .error .protocol else .ok ⟨intake.kept⟩

/-- The bytes of a message with its frame. -/
def framedLength (message : Bytes) : Nat := 5 + message.length

/-- The messages that stay within an announced length, and what is left of it; nothing is left if
some message goes beyond. -/
def within (left : Nat) : List Bytes → List Bytes × Option Nat
  | [] => ([], some left)
  | message :: rest =>
    if framedLength message ≤ left then
      let (messages, left) := within (left - framedLength message) rest
      (message :: messages, left)
    else ([], none)

/-- What stays within a length is the beginning of what was sent. -/
theorem prefix_within (left : Nat) (messages : List Bytes) :
    (within left messages).1 <+: messages := by
  induction messages generalizing left with
  | nil => simp [within]
  | cons message rest ih =>
    unfold within
    split
    · exact (List.prefix_cons_inj message).mpr (ih _)
    · exact List.nil_prefix

/-- The body as it is received under an announced length: its messages, and its end. -/
def receivedBody (length : Option Nat) (messages : List Bytes)
    (trailers : Except Http2.Reason (Option HeaderMap)) :
    List Bytes × Except Http2.Reason (Option HeaderMap) :=
  match length with
  | none => (messages, trailers)
  | some length =>
    match within length messages with
    | (messages, none) => (messages, .error .protocol)
    | (messages, some left) =>
      (messages, do
        let trailers ← trailers
        if left = 0 then .ok trailers else .error .protocol)

/-- The end of a body as it is received. -/
def receivedEnd : Except Failure (Option HeaderMap) → Except Http2.Reason (Option HeaderMap)
  | .ok (some trailers) => (receivedTrailers trailers).map some
  | .ok none => .ok none
  | .error _ => .error .cancel

/-- A response with a final status as it is received. -/
def receivedResponse (r : Response) : Except Http2.Reason Response := do
  let head ← receivedHead statusSize (← sentHead r.headers)
  let (messages, ending) := receivedBody (← announced head) r.messages (receivedEnd r.trailers)
  return { r with
    headers := head
    messages := messages
    trailers := match ending with
      | .ok trailers => .ok trailers
      | .error reason => .error (lostBody reason) }

/-- A provisional response as it is received: what follows it has to be a head again, and only
trailers can pass for one, which has no status of its own then. -/
def receivedProvisional (r : Response) : Except Http2.Reason Response := do
  let _ ← receivedHead statusSize (← sentHead r.headers)
  match r.messages, r.trailers with
  | [], .ok (some trailers) =>
    if refusesTrailers trailers then .error .cancel
    else
      let head ← receivedHead 0 trailers
      if areMalformed trailers then .error .protocol
      else
        match ← announced head with
        | some (_ + 1) => .error .protocol
        | _ => return ⟨.ok, head, [], .ok none⟩
  | _, _ => .error .protocol

/-- What arrives of a response. -/
def carried (r : Response) : Except Failure Response :=
  match if r.status.isProvisional then receivedProvisional r else receivedResponse r with
  | .ok response => .ok response
  | .error reason => .error (lostHead reason)

/-- The size of the method and the scheme of a request, and of the two fields in which a caller
takes trailers and gives its name. -/
def callerSize : Nat := 182

/-- The size of what stands beside the fields of a request. -/
def requestFront (authority path : String) : Nat :=
  callerSize + (42 + authority.utf8ByteSize) + (37 + path.utf8ByteSize)

/-- The answer to a head that is over the limit of the service. -/
def overlong : Response := ⟨⟨431, by decide⟩, .empty, [], .ok none⟩

/-- What the connection answers in place of the service, if the head of a request is too much. -/
def turnedAway? (authority : String) (request : Request) : Option (Except Failure Response) :=
  match Http2.readBlock (requestFront authority request.path.text) request.headers.grouped with
  | .error reason => some (.error (lostHead reason))
  | .ok intake => if intake.isOver then some (.ok overlong) else none

end Grpc
end HttpGateway
