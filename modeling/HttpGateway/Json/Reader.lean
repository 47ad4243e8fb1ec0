import HttpGateway.Json

/-!
# Reading JSON

The reader takes one value with blanks around it and refuses everything else. Of members with equal
names the last one stands. A number without fraction and exponent that fits in 64 bits, signed or
unsigned, is an integer; any other is a double: its digits, as far as they fit in 64 bits, are
rounded to a double and that is scaled by the power of ten, rounding again. A number too large for a
double is refused.
-/

namespace HttpGateway.Json

/-- A character that may stand between the parts of a text. -/
def isBlank (c : Char) : Bool := c == ' ' || c == '\t' || c == '\n' || c == '\r'

/-- A text without the blanks in front. -/
def skipBlanks (s : List Char) : List Char := s.dropWhile isBlank

/-- The value of a hexadecimal digit. -/
def hexValue? (c : Char) : Option Nat :=
  if c.isDigit then some (c.toNat - 48)
  else if 'a' ≤ c && c ≤ 'f' then some (c.toNat - 87)
  else if 'A' ≤ c && c ≤ 'F' then some (c.toNat - 55)
  else none

/-- The number of four hexadecimal digits. -/
def hexUnit? (digits : List Char) : Option Nat :=
  (digits.mapM hexValue?).map fun values ↦ values.foldl (fun n v ↦ 16 * n + v) 0

/-- The code units of a string up to its closing quote, and what follows; an escape by number is
one unit, whatever it names. -/
def units : List Char → Option (List Nat × List Char)
  | '"' :: rest => some ([], rest)
  | '\\' :: 'u' :: a :: b :: c :: d :: rest =>
    match hexUnit? [a, b, c, d] with
    | none => none
    | some unit => (units rest).map fun (us, rest) ↦ (unit :: us, rest)
  | '\\' :: c :: rest =>
    let plain := match c with
      | '"' | '\\' | '/' => some c
      | 'b' => some '\x08'
      | 'f' => some '\x0c'
      | 'n' => some '\n'
      | 'r' => some '\r'
      | 't' => some '\t'
      | _ => none
    match plain with
    | none => none
    | some c => (units rest).map fun (us, rest) ↦ (c.toNat :: us, rest)
  | c :: rest =>
    if c.toNat < 32 then none else (units rest).map fun (us, rest) ↦ (c.toNat :: us, rest)
  | [] => none

/-- The text of code units, in which a high and a low surrogate together make one character. -/
def ofUnits : List Nat → Option (List Char)
  | [] => some []
  | [unit] => if 0xD800 ≤ unit && unit < 0xE000 then none else some [Char.ofNat unit]
  | unit :: next :: rest =>
    if 0xD800 ≤ unit && unit < 0xDC00 then
      if 0xDC00 ≤ next && next < 0xE000 then
        (ofUnits rest).map (Char.ofNat (0x10000 + 0x400 * (unit - 0xD800) + (next - 0xDC00)) :: ·)
      else none
    else if 0xDC00 ≤ unit && unit < 0xE000 then none
    else (ofUnits (next :: rest)).map (Char.ofNat unit :: ·)

/-- Reads a string behind its opening quote. -/
def readString (s : List Char) : Option (String × List Char) := do
  let (us, rest) ← units s
  return (String.ofList (← ofUnits us), rest)

/-- The number of a run of digits. -/
def ofDigits (digits : List Char) : Nat := digits.foldl (fun n c ↦ 10 * n + (c.toNat - 48)) 0

/-- Digits taken into a significand as long as it stays below 2^64, and how many were left. -/
def significand (acc : Nat) : List Char → Nat × Nat
  | [] => (acc, 0)
  | c :: rest =>
    let next := 10 * acc + (c.toNat - 48)
    if next < 1 <<< 64 then significand next rest else (acc, rest.length + 1)

/-- The double of a power of ten; beyond `10 ^ 308` it is infinite. -/
def tenTo (power : Nat) : Float := Float.ofScientific 1 false (min power 309)

/-- The double of a significand scaled by a power of ten. -/
def scale (mantissa : Nat) (power : Int) : Float :=
  let x := mantissa.toUInt64.toFloat
  if 0 ≤ power then if mantissa = 0 then 0 else x * tenTo power.toNat
  else if -308 ≤ power then x / tenTo (-power).toNat
  else x / tenTo 308 / tenTo ((-power).toNat - 308)

/-- The double of a numeral given by its parts. -/
def doubleOf? (negative : Bool) (whole fraction : List Char) (power : Int) : Option Json :=
  let (mantissa, left) := significand 0 whole
  let (mantissa, dropped) := significand mantissa fraction
  let x := scale mantissa (power + left - (fraction.length - dropped : Int))
  if x.isInf then none else some (.double (if negative then -x else x).toBits)

/-- The digits in front of a text, and the rest. -/
def digitRun (s : List Char) : List Char × List Char :=
  (s.takeWhile Char.isDigit, s.dropWhile Char.isDigit)

/-- The digits behind a point, if there is one. -/
def readFraction (s : List Char) : Option (List Char × List Char) :=
  match s with
  | '.' :: rest =>
    let (digits, rest) := digitRun rest
    if digits.isEmpty then none else some (digits, rest)
  | _ => some ([], s)

/-- The power of ten behind an exponent mark, if there is one. -/
def readExponent (s : List Char) : Option (Option Int × List Char) :=
  let number (sign : Int) (s : List Char) : Option (Option Int × List Char) :=
    let (digits, rest) := digitRun s
    if digits.isEmpty then none else some (some (sign * ofDigits digits), rest)
  match s with
  | c :: rest =>
    if c = 'e' || c = 'E' then
      match rest with
      | '-' :: rest => number (-1) rest
      | '+' :: rest => number 1 rest
      | _ => number 1 rest
    else some (none, s)
  | [] => some (none, s)

/-- Reads a number behind its sign. -/
def readNumber (negative : Bool) (s : List Char) : Option (Json × List Char) := do
  let (whole, rest) := digitRun s
  if whole.isEmpty || (whole.head? = some '0' && 1 < whole.length) then none
  let (fraction, rest) ← readFraction rest
  let (power, rest) ← readExponent rest
  let n := ofDigits whole
  let value ←
    if fraction.isEmpty && power.isNone then
      if !negative && n < 1 <<< 64 then some (.integer n)
      else if negative && 0 < n && n ≤ 1 <<< 63 then some (.integer (-n))
      else doubleOf? negative whole [] 0
    else doubleOf? negative whole fraction (power.getD 0)
  return (value, rest)

/-- Members with one more, which takes the place of an earlier one of its name. -/
def withMember (members : List (String × Json)) (name : String) (value : Json) :
    List (String × Json) :=
  members.filter (fun m ↦ m.1 ≠ name) ++ [(name, value)]

mutual

/-- Reads a value. Each call uses one unit of fuel, and two units per character are enough. -/
def readValue : Nat → List Char → Option (Json × List Char)
  | 0, _ => none
  | fuel + 1, s =>
    match skipBlanks s with
    | 'n' :: 'u' :: 'l' :: 'l' :: rest => some (.null, rest)
    | 't' :: 'r' :: 'u' :: 'e' :: rest => some (.bool true, rest)
    | 'f' :: 'a' :: 'l' :: 's' :: 'e' :: rest => some (.bool false, rest)
    | '"' :: rest => (readString rest).map fun (s, rest) ↦ (.string s, rest)
    | '[' :: rest =>
      match skipBlanks rest with
      | ']' :: rest => some (.array [], rest)
      | rest => (readItems fuel rest).map fun (items, rest) ↦ (.array items, rest)
    | '\x7b' :: rest =>
      match skipBlanks rest with
      | '\x7d' :: rest => some (.object [], rest)
      | rest => (readMembers fuel [] rest).map fun (members, rest) ↦ (.object members, rest)
    | '-' :: rest => readNumber true rest
    | rest => readNumber false rest

/-- Reads the values of an array up to its end. -/
def readItems : Nat → List Char → Option (List Json × List Char)
  | 0, _ => none
  | fuel + 1, s =>
    match readValue fuel s with
    | none => none
    | some (item, rest) =>
      match skipBlanks rest with
      | ',' :: rest => (readItems fuel rest).map fun (items, rest) ↦ (item :: items, rest)
      | ']' :: rest => some ([item], rest)
      | _ => none

/-- Reads the members of an object up to its end, behind those already read. -/
def readMembers : Nat → List (String × Json) → List Char →
    Option (List (String × Json) × List Char)
  | 0, _, _ => none
  | fuel + 1, members, s =>
    match skipBlanks s with
    | '"' :: rest =>
      match readString rest with
      | none => none
      | some (name, rest) =>
        match skipBlanks rest with
        | ':' :: rest =>
          match readValue fuel rest with
          | none => none
          | some (value, rest) =>
            let members := withMember members name value
            match skipBlanks rest with
            | ',' :: rest => readMembers fuel members rest
            | '\x7d' :: rest => some (members, rest)
            | _ => none
        | _ => none
    | _ => none

end

/-- The value that a text spells. -/
def ofText? (s : String) : Option Json :=
  let cs := s.toList
  match readValue (2 * cs.length + 2) cs with
  | some (value, rest) => if (skipBlanks rest).isEmpty then some value else none
  | none => none

end HttpGateway.Json
