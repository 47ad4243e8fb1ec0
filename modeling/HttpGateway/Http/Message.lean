import HttpGateway.Http.HeaderMap
import HttpGateway.Http.Status
import HttpGateway.Http.Uri

/-!
# Messages

Request heads, bodies and responses. A body is either held whole, and then its length is known, or
it comes in frames: data, and trailer fields, which a caller sees merged at the end.
-/

namespace HttpGateway

/-- A request method: a token, compared with regard to case. -/
structure Method where
  token : String
  deriving DecidableEq, Repr

namespace Method

/-- The method that a text spells, if it is a token. -/
def ofText? (s : String) : Option Method :=
  if !s.isEmpty && s.toList.all fun c ↦ c.toNat < 128 && isTokenByte (Ascii.byte c) then some ⟨s⟩
  else none

/-- The methods that the gateway treats specially. -/
def get : Method := ⟨"GET"⟩
@[inherit_doc get] def head : Method := ⟨"HEAD"⟩
@[inherit_doc get] def connect : Method := ⟨"CONNECT"⟩

end Method

/-- A version of the protocol. -/
inductive Version
  | http09
  | http10
  | http11
  | http2
  | http3
  deriving DecidableEq, Repr

/-- The name of a version. -/
def Version.text : Version → String
  | .http09 => "HTTP/0.9"
  | .http10 => "HTTP/1.0"
  | .http11 => "HTTP/1.1"
  | .http2 => "HTTP/2.0"
  | .http3 => "HTTP/3.0"

/-- All of a request but its body. -/
structure RequestHead where
  method : Method
  uri : Uri
  version : Version
  headers : HeaderMap
  deriving DecidableEq

/-- A piece of a body. -/
inductive Frame
  | data (bytes : Bytes)
  | trailers (fields : HeaderMap)
  deriving DecidableEq

namespace Frame

/-- The data of a frame; trailers have none. -/
def bytes : Frame → Bytes
  | data bytes => bytes
  | trailers _ => []

/-- Trailers so far, taking in a frame: a name that comes again has its values replaced. -/
def mergeTrailers (merged : Option HeaderMap) : Frame → Option HeaderMap
  | data _ => merged
  | trailers fields => some ((merged.getD .empty).extend fields)

end Frame

/-- The body of a message. -/
inductive Body
  /-- All of it, so that its length is known. -/
  | whole (bytes : Bytes)
  /-- Frames as they come. -/
  | frames (frames : List Frame)
  deriving DecidableEq

namespace Body

/-- A body without bytes. -/
def empty : Body := .whole []

/-- All data of a body. -/
def bytes : Body → Bytes
  | whole bytes => bytes
  | frames fs => fs.flatMap Frame.bytes

/-- The trailers of a body, merged. -/
def trailers : Body → Option HeaderMap
  | whole _ => none
  | frames fs => fs.foldl Frame.mergeTrailers none

/-- The length, where it is known beforehand. -/
def length? : Body → Option Nat
  | whole bytes => some bytes.length
  | frames _ => none

end Body

/-- A response. -/
structure Response where
  status : Status
  version : Version
  headers : HeaderMap
  body : Body
  deriving DecidableEq

end HttpGateway
