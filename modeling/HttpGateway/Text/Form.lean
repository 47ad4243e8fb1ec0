import HttpGateway.Text.Ascii

/-!
# Form encoding

Bytes as text that fits in a header value or a query: letters, digits and `*` `-` `.` `_` stand for
themselves, the space is written `+`, and every other byte is `%` and two upper-case hexadecimal
digits. Reading first turns each `+` into a space and then each `%` with two hexadecimal digits of
either case into its byte; any other `%` stands for itself. Reading what was written gives the bytes
back, and the written form never holds `&` or `=`.
-/

namespace HttpGateway.Form

/-- A byte that stands for itself. -/
def isPlain (b : UInt8) : Bool :=
  Ascii.isAlphanum b || b == 42 || b == 45 || b == 46 || b == 95

/-- The upper-case hexadecimal digit of a number below sixteen. -/
def hexDigit (n : Nat) : UInt8 := if n < 10 then (48 + n).toUInt8 else (55 + n).toUInt8

/-- The value of a hexadecimal digit of either case. -/
def hexValue? (b : UInt8) : Option Nat :=
  if Ascii.isDigit b then some (b.toNat - 48)
  else if 65 ≤ b && b ≤ 70 then some (b.toNat - 55)
  else if 97 ≤ b && b ≤ 102 then some (b.toNat - 87)
  else none

/-- The written form of a byte. -/
def encodeByte (b : UInt8) : Bytes :=
  if isPlain b then [b]
  else if b = 32 then [43]
  else [37, hexDigit (b.toNat / 16), hexDigit (b.toNat % 16)]

/-- The written form of an octet string. -/
def encode (s : Bytes) : Bytes := s.flatMap encodeByte

/-- Replaces each `%` that is followed by two hexadecimal digits by the byte they name. -/
def percentDecode : Bytes → Bytes
  | 37 :: hi :: lo :: rest =>
    match hexValue? hi, hexValue? lo with
    | some h, some l => (16 * h + l).toUInt8 :: percentDecode rest
    | _, _ => 37 :: percentDecode (hi :: lo :: rest)
  | b :: rest => b :: percentDecode rest
  | [] => []

/-- The octet string that a form text stands for. -/
def decode (s : Bytes) : Bytes := percentDecode (s.map fun b ↦ if b = 43 then 32 else b)

/-- A form text holds plain bytes, `+` and `%` only. -/
def isWritten (b : UInt8) : Bool := isPlain b || b == 43 || b == 37

/-- A hexadecimal digit is a letter or a digit. -/
theorem isPlain_hexDigit {n : Nat} (h : n < 16) : isPlain (hexDigit n) = true := by
  have : ∀ n < 16, isPlain (hexDigit n) = true := by decide
  exact this n h

/-- A hexadecimal digit reads back as its value. -/
theorem hexValue?_hexDigit {n : Nat} (h : n < 16) : hexValue? (hexDigit n) = some n := by
  have : ∀ n < 16, hexValue? (hexDigit n) = some n := by decide
  exact this n h

/-- Every byte of a written form is one that a form text may hold. -/
theorem all_encode (s : Bytes) : (encode s).all isWritten = true := by
  induction s with
  | nil => rfl
  | cons b s ih =>
    have hb : b.toNat < 256 := b.toNat_lt_size
    have hx : (encodeByte b).all isWritten = true := by
      unfold encodeByte
      split
      · next h => simp [isWritten, h]
      · split
        · decide
        · simp [isWritten, isPlain_hexDigit (show b.toNat / 16 < 16 by omega),
            isPlain_hexDigit (show b.toNat % 16 < 16 by omega)]
    simp only [encode, List.flatMap_cons, List.all_append, hx, Bool.true_and]
    exact ih

/-- A byte that a form text holds is not one of those that it never holds. -/
theorem not_mem_encode {b : UInt8} (h : isWritten b = false) (s : Bytes) : b ∉ encode s := by
  intro mem
  have written := List.all_eq_true.mp (all_encode s) b mem
  rw [h] at written
  cases written

/-- A plain byte is neither the sign of a space nor that of an escape. -/
theorem ne_of_isPlain {b : UInt8} (h : isPlain b = true) : b ≠ 43 ∧ b ≠ 37 := by
  constructor
  · rintro rfl
    cases h
  · rintro rfl
    cases h

/-- A byte that begins no escape stands for itself. -/
theorem percentDecode_cons {b : UInt8} (h : b ≠ 37) (rest : Bytes) :
    percentDecode (b :: rest) = b :: percentDecode rest := by
  rw [percentDecode]
  rintro hi lo rest' rfl
  exact absurd rfl h

/-- An escape stands for the byte it names. -/
theorem percentDecode_escape {hi lo : UInt8} {h l : Nat} (high : hexValue? hi = some h)
    (low : hexValue? lo = some l) (rest : Bytes) :
    percentDecode (37 :: hi :: lo :: rest) = (16 * h + l).toUInt8 :: percentDecode rest := by
  rw [percentDecode, high, low]

/-- A written byte is read as itself, whatever follows. -/
theorem decode_encodeByte_append (b : UInt8) (rest : Bytes) :
    decode (encodeByte b ++ rest) = b :: decode rest := by
  unfold decode encodeByte
  split
  · next plain =>
    obtain ⟨plus, percent⟩ := ne_of_isPlain plain
    rw [List.cons_append, List.map_cons, if_neg plus]
    exact percentDecode_cons percent _
  · split
    · next space =>
      subst space
      exact percentDecode_cons (by decide) _
    · have bound : b.toNat < 256 := b.toNat_lt_size
      have high : b.toNat / 16 < 16 := by omega
      have low : b.toNat % 16 < 16 := by omega
      have whole : (16 * (b.toNat / 16) + b.toNat % 16).toUInt8 = b := by
        rw [Nat.div_add_mod]
        simp
      simp only [List.cons_append, List.nil_append, List.map_cons,
        if_neg (ne_of_isPlain (isPlain_hexDigit high)).1,
        if_neg (ne_of_isPlain (isPlain_hexDigit low)).1]
      rw [if_neg (by decide),
        percentDecode_escape (hexValue?_hexDigit high) (hexValue?_hexDigit low), whole]

/-- Reading what was written gives the bytes back. -/
theorem decode_encode (s : Bytes) : decode (encode s) = s := by
  induction s with
  | nil => rfl
  | cons b s ih =>
    change decode (encodeByte b ++ encode s) = b :: s
    rw [decode_encodeByte_append, ih]

end HttpGateway.Form
