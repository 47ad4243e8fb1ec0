import HttpGateway.Duration
import HttpGateway.Forwarding.HopByHop
import HttpGateway.Http.Message

/-!
# The head of a forwarded response

The backend's head loses the fields of its connection; the trailers it declares are declared anew in
one field. The head also decides how the body goes out: at once for event streams and for bodies of
unknown length, otherwise by a timer, or as one piece where there is no timer.
-/

namespace HttpGateway

/-- How the data of a forwarded body goes out. -/
inductive FlushPolicy
  /-- Every piece as soon as it is read. -/
  | immediate
  /-- Pieces gather, and a timer sends what has gathered. -/
  | periodic (interval : Duration)
  /-- The whole body in one piece. -/
  | framed
  deriving DecidableEq

namespace FlushPolicy

/-- The media type of an event stream. -/
def eventStream : Bytes := Ascii.bytes "text/event-stream"

/-- The first content type of a head, without parameters. -/
def mediaType? (m : HeaderMap) : Option Bytes :=
  ((m.get? .contentType).bind HeaderValue.text?).map fun value ↦
    Ascii.trim (Ascii.cut (Ascii.byte ';') value).1

/-- The head announces an event stream. -/
def isEventStream (m : HeaderMap) : Bool :=
  match mediaType? m with
  | none => false
  | some type => Ascii.eqIgnoreCase type eventStream

/-- The policy for a head, a body length if it is known, and the timer's interval. -/
def choose (m : HeaderMap) (length : Option Nat) (interval : Duration) : FlushPolicy :=
  if isEventStream m || length.isNone then .immediate
  else if interval.millis = 0 then .framed
  else .periodic interval

end FlushPolicy

/-- A response head on its way to the caller. -/
structure ForwardedHead where
  status : Status
  version : Version
  headers : HeaderMap
  policy : FlushPolicy
  deriving DecidableEq

namespace ForwardedHead

/-- The declared trailers in one value. -/
def declaration? (m : HeaderMap) : Option HeaderValue :=
  match m.tokens .trailer with
  | [] => none
  | names => HeaderValue.ofBytes? (Ascii.join (Ascii.bytes ", ") names)

/-- The fields passed on: those that may leave the backend's connection, with the declared trailers
in one field. -/
def passedOn (m : HeaderMap) : HeaderMap :=
  let kept := (HopByHop.strip m).remove .trailer
  match declaration? m with
  | none => kept
  | some value => kept.insert .trailer value

/-- The length that a head announces, below 2^64. -/
def announcedLength? (m : HeaderMap) : Option Nat :=
  ((m.get? .contentLength).bind HeaderValue.text?).bind (Decimal.unsigned? (1 <<< 64))

/-- The head passed on for a backend's head, the exact size of its body if that is known, and the
timer's interval. -/
def ofBackend (status : Status) (version : Version) (m : HeaderMap) (exact : Option Nat)
    (interval : Duration) : ForwardedHead :=
  let kept := passedOn m
  let length := match announcedLength? kept with
    | some n => some n
    | none => exact
  ⟨status, version, kept, FlushPolicy.choose kept length interval⟩

end ForwardedHead
end HttpGateway
