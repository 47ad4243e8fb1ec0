import HttpGateway.Http.Message

/-!
# The host of a request

A request names the host that it is meant for in its first `Host` field, if that is text, or else in
the authority of its target. The port does not matter: it starts at the first colon, or behind the
closing bracket of an address in brackets. A configured host is compared as it is, letters without
case.
-/

namespace HttpGateway.Host

/-- The host and port that a request head names. -/
def named? (head : RequestHead) : Option Bytes :=
  match (head.headers.get? .host).bind HeaderValue.text? with
  | some value => some value
  | none => head.uri.authority?.map Utf8.encode

/-- A host without its port. -/
def withoutPort (host : Bytes) : Bytes :=
  match host with
  | 91 :: _ =>
    match Ascii.cut (Ascii.byte ']') host with
    | (before, some _) => before ++ [Ascii.byte ']']
    | (_, none) => host
  | _ => (Ascii.cut (Ascii.byte ':') host).1

/-- The lower-case form of a character of a configured host. Of the characters beyond ASCII only the
Kelvin sign has a lower-case form in ASCII, and only ASCII can ever match. -/
def fold (c : Char) : Char := if c = '\u212A' then 'k' else c.toLower

/-- A configured host as it is compared. -/
def expected (host : String) : Bytes := Utf8.encode (String.ofList (host.toList.map fold))

/-- A request head is meant for a configured host. -/
def accepts (host : String) (head : RequestHead) : Bool :=
  match named? head with
  | none => false
  | some name => Ascii.eqIgnoreCase (withoutPort name) (expected host)

end HttpGateway.Host
