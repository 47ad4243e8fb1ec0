import HttpGateway.Text.Utf8

/-!
# Request targets

The four forms of a request target: a path with an optional query, the asterisk, an authority alone,
and an absolute URI. Reading checks characters and the shape of the authority and otherwise takes
the text as it is: nothing is decoded or normalised, a port is not read as a number, and a fragment
is dropped. Writing prints an absolute URI with at least a slash for its path.
-/

namespace HttpGateway

/-- Why a text is not a request target. -/
inductive InvalidUri
  | empty
  | tooLong
  | character
  | schemeTooLong
  | authority
  | format
  | noLeadingSlash
  deriving DecidableEq, Repr

/-- The wording of a refused target. -/
def InvalidUri.message : InvalidUri → String
  | .empty => "empty string"
  | .tooLong => "uri too long"
  | .character => "invalid uri character"
  | .schemeTooLong => "scheme too long"
  | .authority => "invalid authority"
  | .format => "invalid format"
  | .noLeadingSlash => "path does not start with slash"

/-- A path and the query after the question mark, as written. -/
structure PathQuery where
  path : String
  query : Option String
  deriving DecidableEq, Repr

namespace PathQuery

/-- The written form. -/
def text (t : PathQuery) : String :=
  match t.query with
  | none => t.path
  | some q => t.path ++ "?" ++ q

/-- A character that may stand in a path: visible, and not one of `<` `>` and the grave accent;
`?` and `#` end the path before they are asked about. -/
def isPathChar (c : Char) : Bool :=
  33 ≤ c.toNat && c.toNat != 127 && !(['<', '>', '\x60', '?', '#'].contains c)

/-- A character that may stand in a query: visible, and not one of `<` `>` and the double quote. -/
def isQueryChar (c : Char) : Bool :=
  33 ≤ c.toNat && c.toNat != 127 && !(['<', '>', '"', '#'].contains c)

/-- Reads a path and a query, dropping a fragment. -/
def parse (cs : List Char) : Except InvalidUri PathQuery :=
  let path := cs.takeWhile isPathChar
  let query (rest : List Char) : Except InvalidUri PathQuery :=
    match rest.dropWhile isQueryChar with
    | [] | '#' :: _ => .ok ⟨String.ofList path, some (String.ofList (rest.takeWhile isQueryChar))⟩
    | _ => .error .character
  match cs.dropWhile isPathChar with
  | [] | '#' :: _ => .ok ⟨String.ofList path, none⟩
  | '?' :: rest => query rest
  | _ => .error .character

/-- The path as shown: an absolute URI without one has the root path. -/
def shownPath (t : PathQuery) : String := if t.path.isEmpty then "/" else t.path

/-- Reads a path and query that stand alone: the asterisk, or a text that starts with a slash, a
query or a fragment. -/
def parseAlone (s : String) : Except InvalidUri PathQuery :=
  match s.toList with
  | [] => .error .empty
  | ['*'] => .ok ⟨"*", none⟩
  | '/' :: rest => parse ('/' :: rest)
  | '?' :: rest => parse ('?' :: rest)
  | '#' :: rest => parse ('#' :: rest)
  | _ => .error .noLeadingSlash

end PathQuery

namespace Authority

/-- A character that may stand in an authority. -/
def isChar (c : Char) : Bool :=
  c.isAlphanum || "!$&'()*+,-.:;=@[]_~".toList.contains c

/-- What reading an authority has seen: the colons since the last closing bracket or `@`, the two
brackets, and whether a percent sign stands outside the user info and the brackets. -/
structure Seen where
  colons : Nat
  opened : Bool
  closed : Bool
  percent : Bool

/-- Takes in one character. -/
def Seen.step (seen : Seen) (c : Char) : Except InvalidUri Seen :=
  match c with
  | ':' =>
    if seen.colons < 8 then .ok { seen with colons := seen.colons + 1 } else .error .authority
  | '[' =>
    if seen.percent || seen.opened then .error .authority else .ok { seen with opened := true }
  | ']' =>
    if !seen.opened || seen.closed then .error .authority
    else .ok { seen with colons := 0, closed := true, percent := false }
  | '@' => .ok { seen with colons := 0, percent := false }
  | '%' => .ok { seen with percent := true }
  | c => if isChar c then .ok seen else .error .character

/-- A character that ends an authority. -/
def isEnd (c : Char) : Bool := c == '/' || c == '?' || c == '#'

/-- Checks the characters of an authority, which may be empty: brackets come in one pair, there is
at most one colon after them, user info has something behind it, and percent signs stand in user
info or brackets only. -/
def check (cs : List Char) : Except InvalidUri Unit := do
  let seen ← cs.foldlM Seen.step ⟨0, false, false, false⟩
  if seen.opened != seen.closed || 1 < seen.colons || cs.getLast? = some '@' || seen.percent then
    .error .authority

end Authority

/-- A request target. -/
inductive Uri
  /-- A path on the server at hand. -/
  | origin (target : PathQuery)
  /-- The server as a whole. -/
  | asterisk
  /-- Another server, for a tunnel. -/
  | authority (name : String)
  /-- A full URI. -/
  | absolute (scheme name : String) (target : PathQuery)
  deriving DecidableEq, Repr

namespace Uri

/-- A target takes at most this many bytes. -/
def maxBytes : Nat := 65534

/-- A character that may stand in a scheme. -/
def isSchemeChar (c : Char) : Bool := c.isAlphanum || c == '+' || c == '-' || c == '.' || c == '~'

/-- Splits a scheme and the `://` after it from a target that has them. The two schemes of the web
are recognised in any case and kept in lower case. -/
def splitScheme (cs : List Char) : Except InvalidUri (Option (String × List Char)) :=
  let name := cs.takeWhile isSchemeChar
  match cs.dropWhile isSchemeChar with
  | ':' :: '/' :: '/' :: rest =>
    let folded := String.ofList (name.map Char.toLower)
    if folded = "http" || folded = "https" then .ok (some (folded, rest))
    else if 64 < name.length then .error .schemeTooLong
    else .ok (some (String.ofList name, rest))
  | _ => .ok none

/-- Reads a target that is neither a path nor the asterisk. -/
def parseFull (cs : List Char) : Except InvalidUri Uri := do
  let split ← splitScheme cs
  let rest := match split with
    | some (_, rest) => rest
    | none => cs
  let name := rest.takeWhile fun c ↦ !Authority.isEnd c
  let after := rest.dropWhile fun c ↦ !Authority.isEnd c
  Authority.check name
  match split with
  | none => if after.isEmpty then .ok (.authority (String.ofList name)) else .error .format
  | some (scheme, _) =>
    if name.isEmpty then .error .format
    else return .absolute scheme (String.ofList name) (← PathQuery.parse after)

/-- Reads a request target. -/
def parse (s : String) : Except InvalidUri Uri :=
  if maxBytes < s.utf8ByteSize then .error .tooLong
  else match s.toList with
    | [] => .error .empty
    | ['*'] => .ok .asterisk
    | [c] =>
      if c = '/' then .ok (.origin ⟨"/", none⟩)
      else if Authority.isEnd c then .error .character
      else do
        Authority.check [c]
        return .authority (String.ofList [c])
    | '/' :: rest => (PathQuery.parse ('/' :: rest)).map .origin
    | cs => parseFull cs

/-- The path; an absolute URI without one has the root path, an authority has none. -/
def path : Uri → String
  | origin target => target.path
  | asterisk => "*"
  | authority _ => ""
  | absolute _ _ target => target.shownPath

/-- The query after the question mark. -/
def query? : Uri → Option String
  | origin target => target.query
  | asterisk => none
  | authority _ => none
  | absolute _ _ target => target.query

/-- The authority that the target names. -/
def authority? : Uri → Option String
  | origin _ => none
  | asterisk => none
  | authority name => some name
  | absolute _ name _ => some name

/-- The path and query as written; an authority has neither. -/
def pathQuery? : Uri → Option String
  | origin target => some target.text
  | asterisk => some "*"
  | authority _ => none
  | absolute _ _ target => some (if target.text.isEmpty then "/" else target.text)

/-- The written form. -/
def text : Uri → String
  | origin target => target.text
  | asterisk => "*"
  | authority name => name
  | absolute scheme name target =>
    scheme ++ "://" ++ name ++ PathQuery.text ⟨target.shownPath, target.query⟩

end Uri
end HttpGateway
