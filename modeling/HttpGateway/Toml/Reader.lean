import HttpGateway.Toml
import HttpGateway.Text.Decimal

/-!
# Reading TOML

The reader takes a whole document of TOML 1.0, with a byte order mark in front or not, and refuses
everything else. Line ends are a line feed or a carriage return with a line feed; in strings over
several lines both become a line feed. Integers have to fit in 64 bits, decimal numbers must not be
too large for a double, dates and times have to exist. Arrays and tables in braces nest less than
eighty deep, and keys have fewer than eighty parts.
-/

namespace HttpGateway.Toml

/-- A blank within a line. -/
def isBlank (c : Char) : Bool := c == ' ' || c == '\t'

/-- A text without the blanks in front. -/
def skipBlanks (s : List Char) : List Char := s.dropWhile isBlank

/-- A character that may stand in a comment. -/
def isCommentChar (c : Char) : Bool := c == '\t' || (32 ≤ c.toNat && c.toNat != 127)

/-- What follows a line end. -/
def newline? : List Char → Option (List Char)
  | '\n' :: rest => some rest
  | '\r' :: '\n' :: rest => some rest
  | _ => none

/-- What follows the rest of a line, on which only blanks and a comment may stand. -/
def lineEnd? (s : List Char) : Option (List Char) :=
  let s := skipBlanks s
  let s := match s with
    | '#' :: rest => rest.dropWhile isCommentChar
    | _ => s
  match s with
  | [] => some []
  | s => newline? s

/-- Skips blanks, line ends and comments inside an array; `comment` if a comment is being read. -/
def skipLines (comment : Bool) : List Char → List Char
  | '\n' :: rest => skipLines false rest
  | '\r' :: '\n' :: rest => skipLines false rest
  | c :: rest =>
    if comment then
      if isCommentChar c then skipLines true rest else c :: rest
    else if isBlank c then skipLines false rest
    else if c = '#' then skipLines true rest
    else c :: rest
  | [] => []

/-- The value of a hexadecimal digit. -/
def hexValue? (c : Char) : Option Nat :=
  if c.isDigit then some (c.toNat - 48)
  else if 'a' ≤ c && c ≤ 'f' then some (c.toNat - 87)
  else if 'A' ≤ c && c ≤ 'F' then some (c.toNat - 55)
  else none

/-- The character that hexadecimal digits name. -/
def charOfHex? (digits : List Char) : Option Char :=
  match (digits.mapM hexValue?).map fun values ↦ values.foldl (fun n v ↦ 16 * n + v) 0 with
  | none => none
  | some n => if h : n.isValidChar then some (Char.ofNatAux n h) else none

/-- The character of a short escape. -/
def escape? : Char → Option Char
  | '"' => some '"'
  | '\\' => some '\\'
  | 'b' => some '\x08'
  | 't' => some '\t'
  | 'n' => some '\n'
  | 'f' => some '\x0c'
  | 'r' => some '\r'
  | _ => none

/-- Text read so far with a character in front of it. -/
def withChar (c : Option Char) (tail : Option (List Char × List Char)) :
    Option (List Char × List Char) :=
  match c, tail with
  | some c, some (cs, rest) => some (c :: cs, rest)
  | _, _ => none

/-- A string behind its opening quote. -/
def basicString : List Char → Option (List Char × List Char)
  | '"' :: rest => some ([], rest)
  | '\\' :: 'u' :: a :: b :: c :: d :: rest =>
    withChar (charOfHex? [a, b, c, d]) (basicString rest)
  | '\\' :: 'U' :: a :: b :: c :: d :: e :: f :: g :: h :: rest =>
    withChar (charOfHex? [a, b, c, d, e, f, g, h]) (basicString rest)
  | '\\' :: c :: rest => withChar (escape? c) (basicString rest)
  | c :: rest => if isCommentChar c then withChar (some c) (basicString rest) else none
  | [] => none

/-- A literal string behind its opening quote. -/
def literalString : List Char → Option (List Char × List Char)
  | '\'' :: rest => some ([], rest)
  | c :: rest => if isCommentChar c then withChar (some c) (literalString rest) else none
  | [] => none

/-- Where a string over several lines stands with regard to a backslash at the end of a line. -/
inductive Continuation
  | no
  /-- Behind the backslash, on the same line. -/
  | sameLine
  /-- On a later line, before anything else. -/
  | laterLine
  deriving DecidableEq

/-- A string over several lines behind its opening quotes. Up to two quotes may stand before the
closing three. -/
def basicLines (state : Continuation) : List Char → Option (List Char × List Char)
  | '"' :: '"' :: '"' :: '"' :: '"' :: rest =>
    if state = .sameLine then none else some (['"', '"'], rest)
  | '"' :: '"' :: '"' :: '"' :: rest => if state = .sameLine then none else some (['"'], rest)
  | '"' :: '"' :: '"' :: rest => if state = .sameLine then none else some ([], rest)
  | '\r' :: '\n' :: rest =>
    if state = .no then withChar (some '\n') (basicLines .no rest) else basicLines .laterLine rest
  | '\n' :: rest =>
    if state = .no then withChar (some '\n') (basicLines .no rest) else basicLines .laterLine rest
  | '\\' :: 'u' :: a :: b :: c :: d :: rest =>
    if state = .sameLine then none
    else withChar (charOfHex? [a, b, c, d]) (basicLines .no rest)
  | '\\' :: 'U' :: a :: b :: c :: d :: e :: f :: g :: h :: rest =>
    if state = .sameLine then none
    else withChar (charOfHex? [a, b, c, d, e, f, g, h]) (basicLines .no rest)
  | '\\' :: c :: rest =>
    if state = .sameLine then none
    else if isBlank c then basicLines .sameLine rest
    else if c = '\n' then basicLines .laterLine rest
    else if c = '\r' then basicLines .sameLine (c :: rest)
    else withChar (escape? c) (basicLines .no rest)
  | c :: rest =>
    if state ≠ .no && isBlank c then basicLines state rest
    else if state = .sameLine then none
    else if isCommentChar c then withChar (some c) (basicLines .no rest) else none
  | [] => none

/-- A literal string over several lines behind its opening quotes. -/
def literalLines : List Char → Option (List Char × List Char)
  | '\'' :: '\'' :: '\'' :: '\'' :: '\'' :: rest => some (['\'', '\''], rest)
  | '\'' :: '\'' :: '\'' :: '\'' :: rest => some (['\''], rest)
  | '\'' :: '\'' :: '\'' :: rest => some ([], rest)
  | '\r' :: '\n' :: rest => withChar (some '\n') (literalLines rest)
  | '\n' :: rest => withChar (some '\n') (literalLines rest)
  | c :: rest => if isCommentChar c then withChar (some c) (literalLines rest) else none
  | [] => none

/-- A text without a line end directly at its start. -/
def skipFirstNewline (s : List Char) : List Char := (newline? s).getD s

/-- Reads a string of any of the four forms. -/
def readString (s : List Char) : Option (String × List Char) :=
  let body := match s with
    | '"' :: '"' :: '"' :: rest => basicLines .no (skipFirstNewline rest)
    | '\'' :: '\'' :: '\'' :: rest => literalLines (skipFirstNewline rest)
    | '"' :: rest => basicString rest
    | '\'' :: rest => literalString rest
    | _ => none
  body.map fun (cs, rest) ↦ (String.ofList cs, rest)

/-- A character of a key without quotes. -/
def isKeyChar (c : Char) : Bool := c.isAlphanum || c == '-' || c == '_'

/-- Reads one part of a key. -/
def readKeyPart (s : List Char) : Option (String × List Char) :=
  match s with
  | '"' :: rest => (basicString rest).map fun (cs, rest) ↦ (String.ofList cs, rest)
  | '\'' :: rest => (literalString rest).map fun (cs, rest) ↦ (String.ofList cs, rest)
  | _ =>
    let name := s.takeWhile isKeyChar
    if name.isEmpty then none else some (String.ofList name, s.dropWhile isKeyChar)

/-- Reads a key of at most so many parts, with blanks around each. -/
def readKey : Nat → List Char → Option (List String × List Char)
  | 0, _ => none
  | fuel + 1, s =>
    match readKeyPart (skipBlanks s) with
    | none => none
    | some (part, rest) =>
      match skipBlanks rest with
      | '.' :: rest => (readKey fuel rest).map fun (parts, rest) ↦ (part :: parts, rest)
      | rest => some ([part], rest)

/-- A key has fewer than eighty parts. -/
def maxParts : Nat := 79

/-- Digits, between which single underscores may stand, and the rest. -/
def digitsOf (accepts : Char → Bool) : List Char → List Char × List Char
  | '_' :: c :: rest =>
    if accepts c then
      let (digits, rest) := digitsOf accepts rest
      (c :: digits, rest)
    else ([], '_' :: c :: rest)
  | c :: rest =>
    if accepts c then
      let (digits, rest) := digitsOf accepts rest
      (c :: digits, rest)
    else ([], c :: rest)
  | [] => ([], [])

/-- Digits of which the first has no underscore in front. -/
def digitRun? (accepts : Char → Bool) (s : List Char) : Option (List Char × List Char) :=
  match s with
  | c :: _ => if accepts c then some (digitsOf accepts s) else none
  | [] => none

/-- The number of digits in a base. -/
def ofDigits (base : Nat) (digits : List Char) : Nat :=
  digits.foldl (fun n c ↦ base * n + (hexValue? c).getD 0) 0

/-- A sign, and the rest. -/
def splitSign : List Char → Bool × List Char
  | '-' :: rest => (true, rest)
  | '+' :: rest => (false, rest)
  | s => (false, s)

/-- Reads a decimal number without leading zeros behind its sign. -/
def readWhole (s : List Char) : Option (List Char × List Char) :=
  match s with
  | '0' :: rest => some (['0'], rest)
  | _ => digitRun? Char.isDigit s

/-- An integer that fits in 64 bits. -/
def integer? (n : Int) : Option Toml :=
  if -9223372036854775808 ≤ n && n ≤ 9223372036854775807 then some (.integer n) else none

/-- Reads an integer in a base behind its mark. -/
def readBased (base : Nat) (accepts : Char → Bool) (s : List Char) : Option (Toml × List Char) := do
  let (digits, rest) ← digitRun? accepts s
  return (← integer? (ofDigits base digits), rest)

/-- Reads an integer. -/
def readInteger (s : List Char) : Option (Toml × List Char) :=
  match s with
  | '0' :: 'x' :: rest => readBased 16 (fun c ↦ (hexValue? c).isSome) rest
  | '0' :: 'o' :: rest => readBased 8 (fun c ↦ '0' ≤ c && c ≤ '7') rest
  | '0' :: 'b' :: rest => readBased 2 (fun c ↦ c == '0' || c == '1') rest
  | _ => do
    let (negative, s) := splitSign s
    let (digits, rest) ← readWhole s
    let n := ofDigits 10 digits
    return (← integer? (if negative then -n else n), rest)

/-- Digits times a power of ten do not round to a double: they reach the middle between the largest
double and the power of two above it. -/
def isTooLarge (digits : Nat) (power : Int) : Bool :=
  let places : Int := (Decimal.digits digits).length
  if digits = 0 || places + power < 300 then false
  else if 320 < places + power then true
  else ((1 <<< 1024) - (1 <<< 970)) * Nat.pow 10 (-power).toNat ≤ digits * Nat.pow 10 power.toNat

/-- The power of ten behind an exponent mark, if there is one. -/
def readExponent (s : List Char) : Option (Option Int × List Char) :=
  match s with
  | c :: rest =>
    if c = 'e' || c = 'E' then do
      let (negative, rest) := splitSign rest
      let (digits, rest) ← digitRun? Char.isDigit rest
      let n : Int := ofDigits 10 digits
      return (some (if negative then -n else n), rest)
    else some (none, s)
  | [] => some (none, s)

/-- The digits behind a point, if there is one. -/
def readFraction (s : List Char) : Option (List Char × List Char) :=
  match s with
  | '.' :: rest => digitRun? Char.isDigit rest
  | _ => some ([], s)

/-- The text that was read, given what is left of it. -/
def written (s rest : List Char) : String := String.ofList (s.take (s.length - rest.length))

/-- Reads a number with a fraction or an exponent, an infinity or no number. -/
def readFloat (s : List Char) : Option (Toml × List Char) :=
  let (negative, body) := splitSign s
  match body with
  | 'i' :: 'n' :: 'f' :: rest => some (.float (written s rest), rest)
  | 'n' :: 'a' :: 'n' :: rest => some (.float (written s rest), rest)
  | _ => do
    let (whole, rest) ← readWhole body
    let (fraction, rest) ← readFraction rest
    let (power, rest) ← readExponent rest
    if fraction.isEmpty && power.isNone then none
    if !negative &&
        isTooLarge (ofDigits 10 (whole ++ fraction))
          (power.getD 0 - (fraction.length : Int)) then none
    return (.float (written s rest), rest)

/-- Reads a number of exactly so many digits within bounds. -/
def readFixed (count low high : Nat) (s : List Char) : Option (Nat × List Char) :=
  let digits := s.take count
  let n := ofDigits 10 digits
  if digits.length = count && digits.all Char.isDigit && low ≤ n && n ≤ high then
    some (n, s.drop count)
  else none

/-- Reads a fixed character. -/
def expect (c : Char) : List Char → Option (List Char)
  | [] => none
  | x :: rest => if x = c then some rest else none

/-- The last day of a month. -/
def lastDay (year month : Nat) : Nat :=
  if month = 2 then
    if year % 4 = 0 && (year % 100 ≠ 0 || year % 400 = 0) then 29 else 28
  else if month = 4 || month = 6 || month = 9 || month = 11 then 30
  else 31

/-- Reads a date. -/
def readDate (s : List Char) : Option (List Char) := do
  let (year, s) ← readFixed 4 0 9999 s
  let (month, s) ← readFixed 2 1 12 (← expect '-' s)
  let (_, s) ← readFixed 2 1 (lastDay year month) (← expect '-' s)
  return s

/-- Reads a time of day with an optional fraction of a second. -/
def readTime (s : List Char) : Option (List Char) := do
  let (_, s) ← readFixed 2 0 23 s
  let (_, s) ← readFixed 2 0 59 (← expect ':' s)
  let (_, s) ← readFixed 2 0 60 (← expect ':' s)
  match s with
  | '.' :: rest => if (rest.takeWhile Char.isDigit).isEmpty then return s else
    return rest.dropWhile Char.isDigit
  | _ => return s

/-- Reads an offset from universal time, if there is one. -/
def readOffset (s : List Char) : Option (List Char) :=
  let clock (s : List Char) : Option (List Char) := do
    let (_, s) ← readFixed 2 0 23 s
    let (_, s) ← readFixed 2 0 59 (← expect ':' s)
    return s
  match s with
  | 'Z' :: rest | 'z' :: rest => some rest
  | '+' :: rest => clock rest
  | '-' :: rest => clock rest
  | _ => some s

/-- Reads a date, a time, or both with an optional offset. -/
def readDateTime (s : List Char) : Option (Toml × List Char) :=
  let found : Option (List Char) := match readDate s with
    | none => readTime s
    | some rest =>
      match rest with
      | c :: more =>
        if c = 'T' || c = 't' || c = ' ' then
          match readTime more with
          | none => some rest
          | some rest => readOffset rest
        else some rest
      | [] => some rest
  found.map fun rest ↦ (.dateTime (written s rest), rest)

/-- Reads a value that is no string, no array and no table. -/
def readPlain (s : List Char) : Option (Toml × List Char) :=
  match s with
  | 't' :: 'r' :: 'u' :: 'e' :: rest => some (.boolean true, rest)
  | 'f' :: 'a' :: 'l' :: 's' :: 'e' :: rest => some (.boolean false, rest)
  | _ => readDateTime s <|> readFloat s <|> readInteger s

mutual

/-- Reads a value inside so many levels of arrays and tables in braces. Each call uses one unit of
fuel, and three units per character are enough. -/
def readValue : Nat → Nat → List Char → Option (Toml × List Char)
  | 0, _, _ => none
  | fuel + 1, depth, s =>
    match s with
    | '"' :: _ => (readString s).map fun (t, rest) ↦ (.string t, rest)
    | '\'' :: _ => (readString s).map fun (t, rest) ↦ (.string t, rest)
    | '[' :: rest =>
      if 79 ≤ depth then none
      else (readItems fuel (depth + 1) rest).map fun (items, rest) ↦ (.array items, rest)
    | '\x7b' :: rest =>
      if 79 ≤ depth then none
      else match skipBlanks rest with
        | '\x7d' :: rest => some (.table .braces [], rest)
        | _ =>
          (readMembers fuel (depth + 1) [] rest).map fun (members, rest) ↦
            (.table .braces members, rest)
    | _ => readPlain s

/-- Reads the values of an array up to its end. -/
def readItems : Nat → Nat → List Char → Option (List Toml × List Char)
  | 0, _, _ => none
  | fuel + 1, depth, s =>
    match skipLines false s with
    | ']' :: rest => some ([], rest)
    | s =>
      match readValue fuel depth s with
      | none => none
      | some (item, rest) =>
        match skipLines false rest with
        | ']' :: rest => some ([item], rest)
        | ',' :: rest => (readItems fuel depth rest).map fun (items, rest) ↦ (item :: items, rest)
        | _ => none

/-- Reads the members of a table in braces up to its end, behind those already read. -/
def readMembers : Nat → Nat → List (String × Toml) → List Char →
    Option (List (String × Toml) × List Char)
  | 0, _, _, _ => none
  | fuel + 1, depth, members, s =>
    match readKey maxParts s with
    | none => none
    | some (parts, rest) =>
      match rest with
      | '=' :: rest =>
        match readValue fuel depth (skipBlanks rest) with
        | none => none
        | some (value, rest) =>
          match assignKey parts.dropLast (parts.getLastD "") value members with
          | none => none
          | some members =>
            match skipBlanks rest with
            | '\x7d' :: rest => some (members, rest)
            | ',' :: rest => readMembers fuel depth members rest
            | _ => none
      | _ => none

end

/-- Reads a header behind its brackets up to the end of its line. -/
def readHeader (closing : List Char) (s : List Char) : Option (List String × List Char) := do
  let (parts, rest) ← readKey maxParts s
  if closing.isPrefixOf rest then
    return (parts, ← lineEnd? (rest.drop closing.length))
  else none

/-- Reads a key, its value and the end of the line. -/
def readAssignment (s : List Char) : Option ((List String × Toml) × List Char) := do
  let (parts, rest) ← readKey maxParts s
  let rest ← expect '=' rest
  let (value, rest) ← readValue (3 * rest.length + 3) 0 (skipBlanks rest)
  return ((parts, value), ← lineEnd? rest)

/-- Reads the lines of a document, given the table so far and the path of the last header. Each call
uses one unit of fuel and at least one character. -/
def readLines : Nat → List (String × Toml) → List String → List Char →
    Option (List (String × Toml))
  | 0, _, _, _ => none
  | fuel + 1, root, path, s =>
    match skipBlanks s with
    | [] => some root
    | '[' :: '[' :: rest => do
      let (parts, rest) ← readHeader [']', ']'] rest
      let root ← atPath (openRow (parts.getLastD "")) parts.dropLast root
      readLines fuel root parts rest
    | '[' :: rest => do
      let (parts, rest) ← readHeader [']'] rest
      let root ← atPath (openTable (parts.getLastD "")) parts.dropLast root
      readLines fuel root parts rest
    | s =>
      match lineEnd? s with
      | some rest => readLines fuel root path rest
      | none => do
        let ((parts, value), rest) ← readAssignment s
        let root ← atPath (assignKey parts.dropLast (parts.getLastD "") value) path root
        readLines fuel root path rest

/-- The top-level table of a document. -/
def ofText? (s : String) : Option (List (String × Toml)) :=
  let cs := match s.toList with
    | '\uFEFF' :: rest => rest
    | cs => cs
  readLines (cs.length + 1) [] [] cs

end HttpGateway.Toml
