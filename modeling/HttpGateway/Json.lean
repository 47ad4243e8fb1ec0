import HttpGateway.Text.Decimal
import HttpGateway.Text.Shortest

/-!
# JSON values

A JSON value and its compact text: no blanks, members in the order of their names, and in strings
only the quote, the backslash and the controls escaped. An integer that fits in 64 bits is kept as
it is; any other number is a double and is written with the fewest digits that read back.
-/

namespace HttpGateway

/-- A JSON value. -/
inductive Json
  | null
  | bool (b : Bool)
  | integer (n : Int)
  /-- A finite number of double precision, by its bits. -/
  | double (bits : UInt64)
  | string (s : String)
  | array (items : List Json)
  | object (members : List (String × Json))
  deriving Inhabited, Repr

namespace Json

/-- The escaped form of a character in a string. -/
def escapeChar (c : Char) : List Char :=
  match c with
  | '"' => ['\\', '"']
  | '\\' => ['\\', '\\']
  | '\x08' => ['\\', 'b']
  | '\t' => ['\\', 't']
  | '\n' => ['\\', 'n']
  | '\x0c' => ['\\', 'f']
  | '\r' => ['\\', 'r']
  | c =>
    if c.toNat < 32 then
      ['\\', 'u', '0', '0', Nat.digitChar (c.toNat / 16), Nat.digitChar (c.toNat % 16)]
    else [c]

/-- The text of a string. -/
def stringText (s : String) : String :=
  String.ofList ('"' :: s.toList.flatMap escapeChar ++ ['"'])

/-- The text of a positive decimal: positional from `1e-5` up to below `1e16`, always with a point,
otherwise with an exponent, which always has a sign. -/
def scaledText (x : Shortest.Scaled) : String :=
  let digits := (Decimal.text x.digits).toList
  let point := (digits.length : Int) + x.exponent
  if 0 ≤ x.exponent && point ≤ 16 then
    String.ofList (digits ++ List.replicate x.exponent.toNat '0' ++ ['.', '0'])
  else if 0 < point && point ≤ 16 then
    String.ofList (digits.take point.toNat ++ '.' :: digits.drop point.toNat)
  else if -5 < point && point ≤ 0 then
    String.ofList (['0', '.'] ++ List.replicate (-point).toNat '0' ++ digits)
  else
    let tail := match digits.drop 1 with
      | [] => []
      | rest => '.' :: rest
    let sign := if 0 < point then "+" else ""
    String.ofList (digits.take 1 ++ tail ++ ['e']) ++ sign ++ Decimal.intText (point - 1)

/-- The text of a double; one that is not finite has no JSON form and is written as null. -/
def doubleText (bits : UInt64) : String :=
  let bits := bits.toNat
  let sign := if bits < 1 <<< 63 then "" else "-"
  let exponent := (bits >>> 52) % 2048
  let fraction := bits % (1 <<< 52)
  if exponent = 2047 then "null"
  else if exponent = 0 && fraction = 0 then sign ++ "0.0"
  else sign ++ scaledText (Shortest.ofBits fraction exponent)

/-- The members in the order of their names. -/
def sorted (members : List (String × String)) : List (String × String) :=
  members.mergeSort fun a b ↦ decide (a.1 ≤ b.1)

mutual

/-- The compact text of a value. -/
def text : Json → String
  | null => "null"
  | bool true => "true"
  | bool false => "false"
  | integer n => Decimal.intText n
  | double bits => doubleText bits
  | string s => stringText s
  | array items => "[" ++ ",".intercalate (itemTexts items) ++ "]"
  | object members =>
    "\x7b" ++ ",".intercalate ((sorted (memberTexts members)).map fun m ↦
      stringText m.1 ++ ":" ++ m.2) ++ "\x7d"

/-- The texts of the values of a list. -/
def itemTexts : List Json → List String
  | [] => []
  | item :: items => text item :: itemTexts items

/-- The names of members with the texts of their values. -/
def memberTexts : List (String × Json) → List (String × String)
  | [] => []
  | (name, value) :: members => (name, text value) :: memberTexts members

end

/-- The value of a member. -/
def get? (name : String) : Json → Option Json
  | object members => members.lookup name
  | _ => none

/-- A number. -/
def ofNat (n : Nat) : Json := .integer n

/-- The member of a document, or null. -/
def member (j : Json) (name : String) : Json := (j.get? name).getD .null

/-- The text of a value. -/
def string? : Json → Option String
  | .string s => some s
  | _ => none

/-- The whole number of a value. -/
def integer? : Json → Option Int
  | .integer n => some n
  | _ => none

/-- The natural number of a value. -/
def nat? (j : Json) : Option Nat := j.integer?.map Int.toNat

/-- The truth value of a value. -/
def bool? : Json → Option Bool
  | .bool b => some b
  | _ => none

/-- The items of a value; one that is no array has none. -/
def items : Json → List Json
  | .array items => items
  | _ => []

/-- A text, or null. -/
def ofString? : Option String → Json
  | some s => .string s
  | none => .null

/-- A number, or null. -/
def ofNat? : Option Nat → Json
  | some n => .ofNat n
  | none => .null

end Json
end HttpGateway
