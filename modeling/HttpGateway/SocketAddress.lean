import HttpGateway.Text.Decimal

/-!
# Socket addresses

The text of a socket address: an IPv4 address, or an IPv6 address in brackets, with a port behind a
colon. Only whether a text is one matters here, so that reading yields what is left of it.
-/

namespace HttpGateway.SocketAddress

/-- Reads a number of one up to so many digits, below a bound; leading zeros only if allowed. -/
def number? (maxDigits bound : Nat) (leadingZero : Bool) (s : Bytes) : Option Bytes :=
  let digits := s.takeWhile Ascii.isDigit
  let rest := s.dropWhile Ascii.isDigit
  let zeros := !leadingZero && 1 < digits.length && digits.head? = some 48
  match Decimal.ofDigits? digits with
  | none => none
  | some n => if n < bound && digits.length ≤ maxDigits && !zeros then some rest else none

/-- Reads a fixed byte. -/
def expect (b : UInt8) : Bytes → Option Bytes
  | [] => none
  | x :: rest => if x = b then some rest else none

/-- Reads one octet of an IPv4 address. -/
def octet? (s : Bytes) : Option Bytes := number? 3 256 false s

/-- Reads an IPv4 address. -/
def ipv4? (s : Bytes) : Option Bytes := do
  let dot := expect (Ascii.byte '.')
  octet? (← dot (← octet? (← dot (← octet? (← dot (← octet? s))))))

/-- A hexadecimal digit. -/
def isHexDigit (b : UInt8) : Bool :=
  Ascii.isDigit b || (65 ≤ b && b ≤ 70) || (97 ≤ b && b ≤ 102)

/-- Reads one group of an IPv6 address. -/
def group? (s : Bytes) : Option Bytes :=
  let digits := s.takeWhile isHexDigit
  if digits.isEmpty || 4 < digits.length then none else some (s.dropWhile isHexDigit)

/-- Reads groups with colons between them, at most so many, the last two of which may be an IPv4
address; yields their number, whether they end in such an address, and the rest. -/
def groups : (limit : Nat) → (first : Bool) → Bytes → Nat × Bool × Bytes
  | 0, _, s => (0, false, s)
  | limit + 1, first, s =>
    let start := if first then some s else expect (Ascii.byte ':') s
    match start.bind (fun s ↦ if 1 ≤ limit then ipv4? s else none), start.bind group? with
    | some rest, _ => (2, true, rest)
    | none, some rest =>
      let (n, v4, rest) := groups limit false rest
      (n + 1, v4, rest)
    | none, none => (0, false, s)

/-- Reads an IPv6 address: eight groups, or fewer around one double colon. -/
def ipv6? (s : Bytes) : Option Bytes :=
  let (n, v4, rest) := groups 8 true s
  if n = 8 then some rest
  else if v4 then none
  else match rest with
    | 58 :: 58 :: rest =>
      let (_, _, rest) := groups (8 - (n + 1)) true rest
      some rest
    | _ => none

/-- Reads a port behind a colon. -/
def port? (s : Bytes) : Option Bytes := do
  let s ← expect (Ascii.byte ':') s
  number? s.length 65536 true s

/-- Reads a scope behind a percent sign, if there is one. -/
def scope? : Bytes → Option Bytes
  | 37 :: rest => number? rest.length (1 <<< 32) true rest
  | s => some s

/-- The text is a socket address. -/
def isValid (s : Bytes) : Bool :=
  let v4 := (ipv4? s).bind port?
  let v6 := do
    let s ← ipv6? (← expect (Ascii.byte '[') s)
    port? (← expect (Ascii.byte ']') (← scope? s))
  v4 = some [] || v6 = some []

end HttpGateway.SocketAddress
