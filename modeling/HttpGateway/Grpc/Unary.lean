import HttpGateway.Duration
import HttpGateway.Grpc.Status
import HttpGateway.Http.Message
import HttpGateway.Text.Base64
import HttpGateway.Text.Utf8

/-!
# Unary calls of gRPC

A call sends one message and takes one back. The request carries the metadata without the names that
the protocol keeps for itself, the content type and the time limit in whole numbers of the finest
unit that needs at most eight digits. The response succeeds if it is not compressed, brings a
message, and neither its head nor its trailers name a code other than success; a response that names
no code is judged by its HTTP status. What is left is the first message and the head with the
trailers merged in. Two things are taken for granted, and the call breaks off where they do not
hold: a limit can be written, and the details beside a code are base64.
-/

namespace HttpGateway

namespace HeaderName

/-- Fields of the gRPC protocol. -/
def grpcTimeout : HeaderName := ⟨Ascii.bytes "grpc-timeout", by decide⟩
@[inherit_doc grpcTimeout] def grpcStatus : HeaderName := ⟨Ascii.bytes "grpc-status", by decide⟩
@[inherit_doc grpcTimeout] def grpcMessage : HeaderName := ⟨Ascii.bytes "grpc-message", by decide⟩
@[inherit_doc grpcTimeout] def grpcMessageType : HeaderName :=
  ⟨Ascii.bytes "grpc-message-type", by decide⟩
@[inherit_doc grpcTimeout] def grpcStatusDetails : HeaderName :=
  ⟨Ascii.bytes "grpc-status-details-bin", by decide⟩
@[inherit_doc grpcTimeout] def grpcEncoding : HeaderName := ⟨Ascii.bytes "grpc-encoding", by decide⟩

end HeaderName

namespace Grpc

/-- A request as it reaches the service. -/
structure Request where
  path : PathQuery
  headers : HeaderMap
  message : Bytes
  deriving DecidableEq

/-- A response as it comes from the service. -/
structure Response where
  status : Status
  headers : HeaderMap
  messages : List Bytes
  /-- The trailers behind the messages, if there are any, or how the body breaks off. -/
  trailers : Except Failure (Option HeaderMap)

/-- The names that metadata cannot set. -/
def reserved : List HeaderName := [
  .te, .contentType, .grpcMessage, .grpcMessageType, .grpcStatus]

/-- The content type of requests. -/
def requestType : HeaderValue := ⟨Ascii.bytes "application/grpc+json", by decide⟩

/-- The units of a time limit, finest first: how many nanoseconds each has, and its letter. -/
def units : List (Nat × UInt8) := [
  (1, Ascii.byte 'n'), (1000, Ascii.byte 'u'), (1000000, Ascii.byte 'm'),
  (1000000000, Ascii.byte 'S'), (60000000000, Ascii.byte 'M'), (3600000000000, Ascii.byte 'H')]

/-- The nanoseconds of a time limit. -/
def nanos (limit : Duration) : Nat := 1000000 * limit.millis

/-- The finest unit in which a time limit has at most eight digits, if there is one. -/
def unit? (limit : Duration) : Option (Nat × UInt8) :=
  units.find? fun unit ↦ nanos limit / unit.1 < 100000000

/-- A time limit in whole numbers of a unit. -/
def timeoutBytes (limit : Duration) (unit : Nat × UInt8) : Bytes :=
  Decimal.digits (nanos limit / unit.1) ++ [unit.2]

/-- A letter of a unit is legal in a header value, and so is every digit. -/
theorem all_timeoutBytes {limit : Duration} {unit : Nat × UInt8} (h : unit? limit = some unit) :
    (timeoutBytes limit unit).all isFieldByte = true := by
  have letters : ∀ unit ∈ units, isFieldByte unit.2 = true := by decide
  have digits : ∀ n, (Decimal.digits n).all isFieldByte = true :=
    fun n ↦ (HeaderValue.ofNat n).legal
  have letter := letters unit (List.mem_of_find?_eq_some h)
  simp only [timeoutBytes, List.all_append, digits, Bool.true_and, List.all_cons, List.all_nil,
    Bool.and_true]
  exact letter

/-- The value of a time limit. -/
def timeoutValue? (limit : Duration) : Option HeaderValue :=
  match h : unit? limit with
  | some unit => some ⟨timeoutBytes limit unit, all_timeoutBytes h⟩
  | none => none

/-- A time limit as its value states it: the whole numbers of its unit. -/
def stated (limit : Duration) : Duration :=
  match unit? limit with
  | some (size, _) => ⟨nanos limit / size * size / 1000000⟩
  | none => limit

/-- A time limit is too long to be written. -/
def unwritable : Breakdown := ⟨"duration is unrealistically large"⟩

/-- The fields of a request that carries metadata and a time limit. -/
def requestHeaders (metadata : HeaderMap) (limit : HeaderValue) : HeaderMap :=
  let limited := metadata.insert .grpcTimeout limit
  (reserved.foldl HeaderMap.remove limited).insert .contentType requestType

/-- The largest message that is taken. -/
def maxMessage : Nat := 4 * 1024 * 1024

/-- The message of a status: percent escapes are resolved, and the bytes have to be a text. -/
def statusMessage (value : HeaderValue) : Except Failure String :=
  let bytes := Form.percentDecode value.bytes
  match Utf8.fault? bytes with
  | none => .ok (Utf8.decodeLossy bytes)
  | some fault =>
    let where_ := Decimal.text fault.offset
    let what := match fault.length with
      | some n => "invalid utf-8 sequence of " ++ Decimal.text n ++ " bytes from index " ++ where_
      | none => "incomplete utf-8 byte sequence from index " ++ where_
    .error ⟨.unknown, "Error deserializing status message header: " ++ what⟩

/-- The outcome that a code and a message name. -/
def outcomeOf (code : Code) (message : Option HeaderValue) : Except Failure Unit := do
  let message ← match message with
    | none => pure ""
    | some text => statusMessage text
  if code = .ok then .ok () else .error ⟨code, message⟩

/-- Details that are not base64. -/
def badDetails (fault : Base64.Fault) : Breakdown :=
  ⟨"Invalid status header, expected base64 encoded value: " ++ fault.message⟩

/-- The details beside a code are base64, if there are any. -/
def checkDetails (fields : HeaderMap) : Except Halt Unit :=
  match fields.get? .grpcStatusDetails with
  | none => .ok ()
  | some details =>
    match Base64.decode details.bytes with
    | .ok _ => .ok ()
    | .error fault => .error (.brokenOff (badDetails fault))

/-- A result that a failed call ends with. -/
def orFailed {α : Type} : Except Failure α → Except Halt α
  | .ok a => .ok a
  | .error failure => .error (.failed failure.error)

/-- The outcome that fields name, if they name one. -/
def namedOutcome? (fields : HeaderMap) : Option (Except Halt Unit) :=
  (fields.get? .grpcStatus).map fun value ↦ do
    checkDetails fields
    orFailed (outcomeOf (Code.ofDigits value.bytes) (fields.get? .grpcMessage))

/-- A body in an encoding that is not understood. -/
def checkEncoding (headers : HeaderMap) : Except Failure Unit :=
  match headers.get? .grpcEncoding with
  | none => .ok ()
  | some value =>
    if value.bytes = Ascii.bytes "identity" then .ok ()
    else
      let name := match Utf8.decode? value.bytes with
        | some s => s
        | none => "[" ++ ", ".intercalate (value.bytes.map fun b ↦ Decimal.text b.toNat) ++ "]"
      .error ⟨.unimplemented,
        "Content is compressed with \x60" ++ name ++ "\x60 which isn't supported"⟩

/-- The messages are small enough. -/
def checkSizes (messages : List Bytes) : Except Failure Unit :=
  match messages.find? fun m ↦ maxMessage < m.length with
  | none => .ok ()
  | some m =>
    .error ⟨.outOfRange, "Error, decoded message length too large: found " ++
      Decimal.text m.length ++ " bytes, the limit is: " ++ Decimal.text maxMessage ++ " bytes"⟩

/-- The outcome that an HTTP status stands for. -/
def outcomeOfHttp (status : Status) : Except Failure Unit :=
  if status = .ok then .ok ()
  else .error ⟨.ofHttp status.code,
    "grpc-status header missing, mapped from HTTP status code " ++ Decimal.text status.code⟩

/-- The outcome of a response whose head names none. -/
def lateOutcome (status : Status) (trailers : Option HeaderMap) : Except Halt Unit :=
  (trailers.bind namedOutcome?).getD (orFailed (outcomeOfHttp status))

/-- The first message. -/
def firstMessage : List Bytes → Except Failure Bytes
  | [] => .error ⟨.internal, "Missing response message."⟩
  | message :: _ => .ok message

/-- What a call brings: the message, and the metadata of the response; or how it ends without. -/
def conclude (r : Response) : Except Halt (Bytes × HeaderMap) := do
  orFailed (checkEncoding r.headers)
  let named := namedOutcome? r.headers
  named.getD (.ok ())
  orFailed (checkSizes r.messages)
  let trailers ← orFailed r.trailers
  if named.isNone then lateOutcome r.status trailers
  return (← orFailed (firstMessage r.messages), r.headers.extend (trailers.getD .empty))

end Grpc
end HttpGateway
