import HttpGateway.Error
import HttpGateway.Http.HeaderMap
import HttpGateway.Text.Quoted
import HttpGateway.Text.Utf8

/-!
# Header maps as one text

The fields of a header map as `name=value` pairs between `&` signs, names and values form-encoded,
all values of a name together. Reading skips empty pairs, takes a pair without `=` as a name with an
empty value, and refuses a name or a value that is not legal.
-/

namespace HttpGateway.HeaderText

/-- Why a text is no header map. -/
inductive Fault
  | name (bytes : Bytes)
  | value (name : HeaderName)
  deriving DecidableEq

/-- The wording of a fault. -/
def Fault.message : Fault → String
  | .name spelled =>
    "header name " ++ Text.quote (Utf8.decodeLossy spelled) ++ ": invalid HTTP header name"
  | .value field => "header value for " ++ field.text ++ ": failed to parse header value"

/-- A text that is no header map makes the request invalid. -/
def Fault.error (fault : Fault) : GatewayError := .invalidRequest fault.message

/-- One field as text. -/
def encodeField (field : HeaderName × HeaderValue) : Bytes :=
  Form.encode field.1.bytes ++ Ascii.byte '=' :: Form.encode field.2.bytes

/-- The text of a header map. -/
def encode (headers : HeaderMap) : Bytes :=
  Ascii.join [Ascii.byte '&'] (headers.grouped.map encodeField)

/-- Reads one pair. -/
def decodeField (pair : Bytes) : Except Fault (HeaderName × HeaderValue) :=
  let (name, value) := Ascii.cut (Ascii.byte '=') pair
  let name := Form.decode name
  let value := Form.decode (value.getD [])
  match HeaderName.ofBytes? name with
  | none => .error (.name name)
  | some name =>
    match HeaderValue.ofBytes? value with
    | none => .error (.value name)
    | some value => .ok (name, value)

/-- The header map of a text. -/
def decode (s : Bytes) : Except Fault HeaderMap := do
  let pairs := (Ascii.splitOn (Ascii.byte '&') s).filter fun pair ↦ !pair.isEmpty
  return ⟨← pairs.mapM decodeField⟩

end HttpGateway.HeaderText
