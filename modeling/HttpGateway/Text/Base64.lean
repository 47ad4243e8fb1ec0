import HttpGateway.Text.Decimal

/-!
# Base64

Octet strings in the standard alphabet. Three bytes become four symbols; a last group of one or two
bytes becomes two or three symbols, and no padding is written. Reading accepts padding that fills up
the last group or a part of it, and refuses any other byte, a single symbol in the last group, and a
last symbol whose unused bits are not zero. What is written is never refused: it reads as the bytes
that it was written of.
-/

namespace HttpGateway.Base64

/-- The symbol of a six-bit number. -/
def symbol (n : Nat) : UInt8 :=
  if n < 26 then (65 + n).toUInt8
  else if n < 52 then (71 + n).toUInt8
  else if n < 62 then (n - 4).toUInt8
  else if n = 62 then 43 else 47

/-- The six-bit number of a symbol. -/
def value? (b : UInt8) : Option Nat :=
  if Ascii.isUpper b then some (b.toNat - 65)
  else if Ascii.isLower b then some (b.toNat - 71)
  else if Ascii.isDigit b then some (b.toNat + 4)
  else if b = 43 then some 62
  else if b = 47 then some 63
  else none

/-- The symbols of an octet string, without padding. -/
def encode : Bytes → Bytes
  | a :: b :: c :: rest =>
    symbol (a.toNat / 4) :: symbol (a.toNat % 4 * 16 + b.toNat / 16) ::
      symbol (b.toNat % 16 * 4 + c.toNat / 64) :: symbol (c.toNat % 64) :: encode rest
  | [a, b] =>
    [symbol (a.toNat / 4), symbol (a.toNat % 4 * 16 + b.toNat / 16), symbol (b.toNat % 16 * 4)]
  | [a] => [symbol (a.toNat / 4), symbol (a.toNat % 4 * 16)]
  | [] => []

/-- Why a text is not base64. -/
inductive Fault
  /-- A byte that is no symbol, or padding where none may stand. -/
  | byte (offset : Nat) (b : UInt8)
  /-- The last group has one symbol only; the number of symbols up to there. -/
  | length (symbols : Nat)
  /-- The last symbol has bits that no byte takes up. -/
  | lastSymbol (offset : Nat) (b : UInt8)
  deriving DecidableEq, Repr

/-- The wording of a fault. -/
def Fault.message : Fault → String
  | byte offset b => "InvalidByte(" ++ Decimal.text offset ++ ", " ++ Decimal.text b.toNat ++ ")"
  | length symbols => "InvalidLength(" ++ Decimal.text symbols ++ ")"
  | lastSymbol offset b =>
    "InvalidLastSymbol(" ++ Decimal.text offset ++ ", " ++ Decimal.text b.toNat ++ ")"

/-- The byte of padding. -/
def padding : UInt8 := 61

/-- The number of the symbol at an offset. -/
def valueAt (offset : Nat) (b : UInt8) : Except Fault Nat :=
  match value? b with
  | some v => .ok v
  | none => .error (.byte offset b)

/-- The numbers of a row of symbols. -/
def valuesFrom (offset : Nat) : Bytes → Except Fault (List Nat)
  | [] => .ok []
  | b :: rest => do return (← valueAt offset b) :: (← valuesFrom (offset + 1) rest)

/-- The three bytes of four numbers. -/
def triple (a b c d : Nat) : Bytes :=
  [(a * 4 + b / 16).toUInt8, (b % 16 * 16 + c / 4).toUInt8, (c % 4 * 64 + d).toUInt8]

/-- Padding stands behind two symbols at least, and nothing else stands behind it. -/
def isPadded (symbols rest : Bytes) : Bool :=
  rest.isEmpty || (2 ≤ symbols.length && rest.all (· = padding))

/-- The bytes of the last group, which has four places at most. -/
def decodeLast (start : Nat) (group : Bytes) : Except Fault Bytes := do
  let symbols := group.takeWhile (· ≠ padding)
  let values ← valuesFrom start symbols
  if !isPadded symbols (group.dropWhile (· ≠ padding)) then
    .error (.byte (start + symbols.length) padding)
  let unused : Fault := .lastSymbol (start + symbols.length - 1) (symbols.getLastD padding)
  match values with
  | [_] => .error (.length (start + 1))
  | [a, b] => if b % 16 = 0 then .ok ((triple a b 0 0).take 1) else .error unused
  | [a, b, c] => if c % 4 = 0 then .ok ((triple a b c 0).take 2) else .error unused
  | [a, b, c, d] => .ok (triple a b c d)
  | _ => .ok []

/-- The bytes of groups of four symbols, of which only the last may have padding. -/
def decodeGroups (start : Nat) : Bytes → Except Fault Bytes
  | a :: b :: c :: d :: e :: rest => do
    let bytes := triple (← valueAt start a) (← valueAt (start + 1) b) (← valueAt (start + 2) c)
      (← valueAt (start + 3) d)
    return bytes ++ (← decodeGroups (start + 4) (e :: rest))
  | last => decodeLast start last

/-- A byte that makes a group of its own at the end and is no symbol; it is reported before any
other fault. -/
def strayEnd? (s : Bytes) : Option UInt8 :=
  if s.length % 4 = 1 then s.getLast?.filter fun b ↦ b ≠ padding && (value? b).isNone else none

/-- The octet string that symbols, with or without padding, stand for. -/
def decode (s : Bytes) : Except Fault Bytes :=
  match strayEnd? s with
  | some b => .error (.byte (s.length - 1) b)
  | none => decodeGroups 0 s

/-- The octet string that symbols stand for, if they stand for one. -/
def decode? (s : Bytes) : Option Bytes := (decode s).toOption

/-- A symbol stands for its number. -/
theorem value?_symbol {n : Nat} (h : n < 64) : value? (symbol n) = some n := by
  have all : ∀ n < 64, value? (symbol n) = some n := by decide
  exact all n h

/-- A symbol is no padding. -/
theorem symbol_ne_padding {n : Nat} (h : n < 64) : symbol n ≠ padding := by
  have all : ∀ n < 64, symbol n ≠ padding := by decide
  exact all n h

/-- The symbol at an offset has its number. -/
theorem valueAt_symbol {n : Nat} (h : n < 64) (offset : Nat) :
    valueAt offset (symbol n) = .ok n := by
  unfold valueAt
  rw [value?_symbol h]

/-- Three bytes are the ones that their four numbers make up. -/
theorem triple_numbers (a b c : UInt8) :
    triple (a.toNat / 4) (a.toNat % 4 * 16 + b.toNat / 16) (b.toNat % 16 * 4 + c.toNat / 64)
      (c.toNat % 64) = [a, b, c] := by
  have ha : a.toNat < 256 := a.toNat_lt_size
  have hb : b.toNat < 256 := b.toNat_lt_size
  have hc : c.toNat < 256 := c.toNat_lt_size
  have first : a.toNat / 4 * 4 + (a.toNat % 4 * 16 + b.toNat / 16) / 16 = a.toNat := by omega
  have second : (a.toNat % 4 * 16 + b.toNat / 16) % 16 * 16 +
      (b.toNat % 16 * 4 + c.toNat / 64) / 4 = b.toNat := by omega
  have third : (b.toNat % 16 * 4 + c.toNat / 64) % 4 * 64 + c.toNat % 64 = c.toNat := by omega
  simp only [triple, first, second, third, Nat.toUInt8_eq, UInt8.ofNat_toNat]

/-- Two symbols at the end are one byte, if the second has no bits to spare. -/
theorem decodeLast_two {a b : Nat} (ha : a < 64) (hb : b < 64) (h : b % 16 = 0) (start : Nat) :
    decodeLast start [symbol a, symbol b] = .ok ((triple a b 0 0).take 1) := by
  simp [decodeLast, valuesFrom, valueAt_symbol, symbol_ne_padding, isPadded, ha, hb, h, bind,
    Except.bind, pure, Except.pure]

/-- Three symbols at the end are two bytes, if the third has no bits to spare. -/
theorem decodeLast_three {a b c : Nat} (ha : a < 64) (hb : b < 64) (hc : c < 64) (h : c % 4 = 0)
    (start : Nat) :
    decodeLast start [symbol a, symbol b, symbol c] = .ok ((triple a b c 0).take 2) := by
  simp [decodeLast, valuesFrom, valueAt_symbol, symbol_ne_padding, isPadded, ha, hb, hc, h, bind,
    Except.bind, pure, Except.pure]

/-- Four symbols at the end are three bytes. -/
theorem decodeLast_four {a b c d : Nat} (ha : a < 64) (hb : b < 64) (hc : c < 64) (hd : d < 64)
    (start : Nat) : decodeLast start [symbol a, symbol b, symbol c, symbol d] =
      .ok (triple a b c d) := by
  simp [decodeLast, valuesFrom, valueAt_symbol, symbol_ne_padding, isPadded, ha, hb, hc, hd, bind,
    Except.bind, pure, Except.pure]

/-- What is not empty is written in symbols. -/
theorem exists_encode_cons (a : UInt8) (s : Bytes) : ∃ b rest, encode (a :: s) = b :: rest := by
  match s with
  | [] | [_] | _ :: _ :: _ => exact ⟨_, _, rfl⟩

/-- Groups that are written are read, one after the other. -/
theorem decodeGroups_encode (s : Bytes) (start : Nat) : decodeGroups start (encode s) = .ok s := by
  induction s using encode.induct generalizing start with
  | case1 a b c rest ih =>
    have ha : a.toNat < 256 := a.toNat_lt_size
    have hb : b.toNat < 256 := b.toNat_lt_size
    have hc : c.toNat < 256 := c.toNat_lt_size
    have h₁ : a.toNat / 4 < 64 := by omega
    have h₂ : a.toNat % 4 * 16 + b.toNat / 16 < 64 := by omega
    have h₃ : b.toNat % 16 * 4 + c.toNat / 64 < 64 := by omega
    have h₄ : c.toNat % 64 < 64 := by omega
    rw [encode]
    cases rest with
    | nil =>
      change decodeLast start [_, _, _, _] = _
      rw [decodeLast_four h₁ h₂ h₃ h₄, triple_numbers]
    | cons d rest =>
      obtain ⟨e, more, written⟩ := exists_encode_cons d rest
      have later := ih (start + 4)
      rw [written] at later ⊢
      rw [decodeGroups, valueAt_symbol h₁, valueAt_symbol h₂, valueAt_symbol h₃,
        valueAt_symbol h₄, later]
      exact congrArg (fun bytes ↦ Except.ok (bytes ++ d :: rest)) (triple_numbers a b c)
  | case2 a b =>
    have ha : a.toNat < 256 := a.toNat_lt_size
    have hb : b.toNat < 256 := b.toNat_lt_size
    have bytes := congrArg (List.take 2) (triple_numbers a b 0)
    change decodeLast start [_, _, _] = _
    rw [decodeLast_three (by omega) (by omega) (by omega) (by omega)]
    exact congrArg Except.ok bytes
  | case3 a =>
    have ha : a.toNat < 256 := a.toNat_lt_size
    have bytes := congrArg (List.take 1) (triple_numbers a 0 0)
    change decodeLast start [_, _] = _
    rw [decodeLast_two (by omega) (by omega) (by omega)]
    exact congrArg Except.ok bytes
  | case4 => rfl

/-- No group is written that has one symbol only. -/
theorem length_encode_mod (s : Bytes) : (encode s).length % 4 ≠ 1 := by
  induction s using encode.induct with
  | case1 a b c rest ih =>
    rw [encode]
    simp only [List.length_cons]
    omega
  | case2 a b => simp [encode]
  | case3 a => simp [encode]
  | case4 => decide

/-- What is written of bytes is read as these bytes. -/
theorem decode?_encode (s : Bytes) : decode? (encode s) = some s := by
  have whole : strayEnd? (encode s) = none := by
    unfold strayEnd?
    rw [if_neg (length_encode_mod s)]
  unfold decode? decode
  rw [whole]
  dsimp only
  rw [decodeGroups_encode]
  rfl

/-- Symbols and nothing else are written. -/
theorem exists_of_mem_encode {b : UInt8} {s : Bytes} (h : b ∈ encode s) :
    ∃ n < 64, b = symbol n := by
  have bound : ∀ x : UInt8, x.toNat < 256 := UInt8.toNat_lt_size
  induction s using encode.induct with
  | case1 x y z rest ih =>
    have hx := bound x
    have hy := bound y
    have hz := bound z
    simp only [encode, List.mem_cons] at h
    rcases h with rfl | rfl | rfl | rfl | later
    any_goals exact ⟨_, by omega, rfl⟩
    exact ih later
  | case2 x y =>
    have hx := bound x
    have hy := bound y
    simp only [encode, List.mem_cons, List.not_mem_nil, or_false] at h
    rcases h with rfl | rfl | rfl
    all_goals exact ⟨_, by omega, rfl⟩
  | case3 x =>
    have hx := bound x
    simp only [encode, List.mem_cons, List.not_mem_nil, or_false] at h
    rcases h with rfl | rfl
    all_goals exact ⟨_, by omega, rfl⟩
  | case4 => cases h

end HttpGateway.Base64
