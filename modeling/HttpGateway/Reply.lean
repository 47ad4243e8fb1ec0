import HttpGateway.Stage
import HttpGateway.Text.Form
import HttpGateway.Text.Utf8

/-!
# Writing responses

An error travels to the caller in two header fields: its code in decimal and its message in form
encoding, so that any text fits. A failure that the service means for the caller becomes an empty
response of status 200 with these fields. Metadata of a reply becomes header fields, except what
would break the framing of the response or speak about the call itself.
-/

namespace HttpGateway

namespace HeaderName

/-- The fields that carry an error. -/
def resultCode : HeaderName := ⟨Ascii.bytes "x-gateway-ret-code", by decide⟩
@[inherit_doc resultCode] def resultMessage : HeaderName :=
  ⟨Ascii.bytes "x-gateway-ret-msg", by decide⟩

end HeaderName

namespace Reply

/-- Whatever a form text may hold is legal in a header value. -/
theorem isFieldByte_of_isWritten {b : UInt8} (h : Form.isWritten b = true) :
    isFieldByte b = true := by
  have all : ∀ b, Form.isWritten b = true → isFieldByte b = true :=
    Ascii.forall_byte (by decide +kernel)
  exact all b h

/-- The message of an error as a header value. -/
def messageValue (message : String) : HeaderValue where
  bytes := Form.encode (Utf8.encode message)
  legal := by
    rw [List.all_eq_true]
    intro b hb
    exact isFieldByte_of_isWritten
      (List.all_eq_true.mp (Form.all_encode (Utf8.encode message)) b hb)

/-- The header fields that carry an error. -/
def errorHeaders (e : GatewayError) : HeaderMap :=
  (HeaderMap.empty.insert .resultCode (.ofInt e.code.value)).insert .resultMessage
    (messageValue e.message)

/-- The response for a failure that the service means for the caller. -/
def business (e : GatewayError) : Response := ⟨.ok, .http11, errorHeaders e, .empty⟩

/-- The response for an error, under the status of its code: the message is the body. -/
def failure (status : Status) (e : GatewayError) : Response :=
  ⟨status, .http11, errorHeaders e, .whole (Utf8.encode e.message)⟩

/-- A key of metadata that does not become a header field. -/
def staysInside (key : Bytes) : Bool :=
  (Ascii.bytes "-bin").isSuffixOf key || (Ascii.bytes "grpc-").isPrefixOf key ||
    key == HeaderName.contentLength.bytes || key == HeaderName.transferEncoding.bytes

/-- A pair of metadata as a header field, if its name and its value are legal there. -/
def metadataField? (pair : Bytes × Bytes) : Option (HeaderName × HeaderValue) :=
  match HeaderName.ofBytes? pair.1, HeaderValue.ofBytes? pair.2 with
  | some name, some value => some (name, value)
  | _, _ => none

/-- The header fields of metadata. -/
def metadataHeaders (m : Metadata) : HeaderMap :=
  ⟨(m.toList.filter fun pair ↦ !staysInside pair.1).filterMap metadataField?⟩

/-- The response that carries bytes of a content type, with further fields. -/
def withBytes (contentType : HeaderValue) (body : Bytes) (extra : HeaderMap) : Response :=
  ⟨.ok, .http11, extra.insert .contentType contentType, .whole body⟩

variable {σ : Type}

/-- There is no response to publish the head of. -/
def noResponse : GatewayError :=
  .framework .serverSystemError "exchange reached the response stage without a response"

/-- Publishes the head of the response. -/
def publish : Stage σ Unit := do
  match (← Stage.exchange).response with
  | none => Stage.fail noResponse
  | some response => Stage.change fun x ↦ { x with published := some response.head }

/-- Sets the response and publishes its head. -/
def write (response : Response) : Stage σ Unit := do
  Stage.change fun x ↦ { x with response := some response }
  publish

/-- Answers a failure that the service means for the caller, or else goes on. -/
def unlessBusiness (otherwise : Stage σ Unit) : Stage σ Unit := do
  match (← Stage.exchange).businessError with
  | some e => write (business e)
  | none => otherwise

/-- Takes a failure of the business kind into the exchange; any other goes on. -/
def absorb (e : GatewayError) : Stage σ Unit :=
  if e.isBusiness then Stage.change fun x ↦ { x with businessError := some e } else Stage.fail e

/-- Where no failure was taken in, the answer is made otherwise. -/
theorem unlessBusiness_of_none (otherwise : Stage σ Unit) {s : Scene σ}
    (h : s.exchange.businessError = none) : unlessBusiness otherwise s = otherwise s := by
  unfold unlessBusiness
  rw [Stage.exchange_bind, h]

/-- A response is set, and its head is published. -/
theorem write_eq (response : Response) (s : Scene σ) : write response s =
    .ok () { s with exchange := { s.exchange with
      response := some response
      published := some response.head } } := rfl

end Reply
end HttpGateway
