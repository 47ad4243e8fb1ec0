import HttpGateway.Text.Decimal

/-!
# HTTP statuses

A status is a number of three digits. A message shows it with the reason phrase registered for it.
-/

namespace HttpGateway

/-- An HTTP status. -/
structure Status where
  code : Nat
  threeDigits : 100 ≤ code ∧ code ≤ 999
  deriving DecidableEq

namespace Status

/-- The status of a number, if it has three digits. -/
def ofNat? (n : Nat) : Option Status := if h : 100 ≤ n ∧ n ≤ 999 then some ⟨n, h⟩ else none

/-- The statuses that the gateway answers with of its own accord. -/
def switchingProtocols : Status := ⟨101, by decide⟩
@[inherit_doc switchingProtocols] def ok : Status := ⟨200, by decide⟩
@[inherit_doc switchingProtocols] def badRequest : Status := ⟨400, by decide⟩
@[inherit_doc switchingProtocols] def unauthorized : Status := ⟨401, by decide⟩
@[inherit_doc switchingProtocols] def forbidden : Status := ⟨403, by decide⟩
@[inherit_doc switchingProtocols] def notFound : Status := ⟨404, by decide⟩
@[inherit_doc switchingProtocols] def requestTimeout : Status := ⟨408, by decide⟩
@[inherit_doc switchingProtocols] def tooManyRequests : Status := ⟨429, by decide⟩
@[inherit_doc switchingProtocols] def internalServerError : Status := ⟨500, by decide⟩
@[inherit_doc switchingProtocols] def gatewayTimeout : Status := ⟨504, by decide⟩

/-- A provisional status, which another one follows. -/
def isProvisional (status : Status) : Bool := status.code < 200

/-- The reason phrases registered for statuses. -/
def reasons : List (Nat × String) := [
  (100, "Continue"), (101, "Switching Protocols"), (102, "Processing"), (103, "Early Hints"),
  (200, "OK"), (201, "Created"), (202, "Accepted"), (203, "Non Authoritative Information"),
  (204, "No Content"), (205, "Reset Content"), (206, "Partial Content"), (207, "Multi-Status"),
  (208, "Already Reported"), (226, "IM Used"),
  (300, "Multiple Choices"), (301, "Moved Permanently"), (302, "Found"), (303, "See Other"),
  (304, "Not Modified"), (305, "Use Proxy"), (307, "Temporary Redirect"),
  (308, "Permanent Redirect"),
  (400, "Bad Request"), (401, "Unauthorized"), (402, "Payment Required"), (403, "Forbidden"),
  (404, "Not Found"), (405, "Method Not Allowed"), (406, "Not Acceptable"),
  (407, "Proxy Authentication Required"), (408, "Request Timeout"), (409, "Conflict"),
  (410, "Gone"), (411, "Length Required"), (412, "Precondition Failed"),
  (413, "Payload Too Large"), (414, "URI Too Long"), (415, "Unsupported Media Type"),
  (416, "Range Not Satisfiable"), (417, "Expectation Failed"), (418, "I'm a teapot"),
  (421, "Misdirected Request"), (422, "Unprocessable Entity"), (423, "Locked"),
  (424, "Failed Dependency"), (425, "Too Early"), (426, "Upgrade Required"),
  (428, "Precondition Required"), (429, "Too Many Requests"),
  (431, "Request Header Fields Too Large"), (451, "Unavailable For Legal Reasons"),
  (500, "Internal Server Error"), (501, "Not Implemented"), (502, "Bad Gateway"),
  (503, "Service Unavailable"), (504, "Gateway Timeout"), (505, "HTTP Version Not Supported"),
  (506, "Variant Also Negotiates"), (507, "Insufficient Storage"), (508, "Loop Detected"),
  (510, "Not Extended"), (511, "Network Authentication Required")]

/-- The reason phrase of a status. -/
def reason (status : Status) : String :=
  (reasons.lookup status.code).getD "<unknown status code>"

/-- The text of a status in messages. -/
def text (status : Status) : String := Decimal.text status.code ++ " " ++ status.reason

end Status
end HttpGateway
