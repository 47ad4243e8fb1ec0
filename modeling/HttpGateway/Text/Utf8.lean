import HttpGateway.Text.Ascii

/-!
# UTF-8

Writing a text as bytes, reading bytes as text, and reading bytes that are no text: each longest
start of a character that cannot be completed becomes one replacement character.
-/

namespace HttpGateway.Utf8

/-- The bytes of a text. -/
def encode (s : String) : Bytes := s.toList.flatMap String.utf8EncodeChar

/-- What stands at the front of an octet string. -/
inductive Front
  /-- A character, and what follows it. -/
  | scalar (c : Char) (rest : Bytes)
  /-- A start of so many bytes that no character continues; `atEnd` if the string ends within it. -/
  | broken (length : Nat) (atEnd : Bool) (rest : Bytes)

namespace Front

/-- What follows the front. -/
def rest : Front → Bytes
  | scalar _ rest => rest
  | broken _ _ rest => rest

end Front

/-- A continuation byte. -/
def isTail (b : UInt8) : Bool := 128 ≤ b && b ≤ 191

/-- The low six bits of a continuation byte. -/
def tailBits (b : UInt8) : Nat := b.toNat - 128

/-- The range of the byte after a first byte; `none` where one byte is all or the byte starts
nothing. The narrow ranges keep out overlong forms, surrogates and numbers above the last one. -/
def secondRange (b : UInt8) : Option (UInt8 × UInt8) :=
  if 0xC2 ≤ b && b ≤ 0xDF then some (0x80, 0xBF)
  else if b = 0xE0 then some (0xA0, 0xBF)
  else if b = 0xED then some (0x80, 0x9F)
  else if 0xE1 ≤ b && b ≤ 0xEF then some (0x80, 0xBF)
  else if b = 0xF0 then some (0x90, 0xBF)
  else if b = 0xF4 then some (0x80, 0x8F)
  else if 0xF1 ≤ b && b ≤ 0xF3 then some (0x80, 0xBF)
  else none

/-- How many bytes follow the second one. -/
def tailsAfterSecond (b : UInt8) : Nat := if b < 0xE0 then 0 else if b < 0xF0 then 1 else 2

/-- The value bits of a first byte. -/
def leadBits (b : UInt8) : Nat :=
  if b < 0xE0 then b.toNat - 0xC0 else if b < 0xF0 then b.toNat - 0xE0 else b.toNat - 0xF0

/-- Reads the given number of further continuation bytes after `seen` bytes of value `acc`. -/
def tails : Nat → Nat → Nat → Bytes → Front
  | 0, acc, _, rest => .scalar (Char.ofNat acc) rest
  | _ + 1, _, seen, [] => .broken seen true []
  | n + 1, acc, seen, b :: rest =>
    if isTail b then tails n (64 * acc + tailBits b) (seen + 1) rest
    else .broken seen false (b :: rest)

/-- The front of a string given by its first byte and the rest. -/
def front (b : UInt8) (rest : Bytes) : Front :=
  if b < 128 then .scalar (Char.ofNat b.toNat) rest
  else match secondRange b with
    | none => .broken 1 false rest
    | some (lo, hi) =>
      match rest with
      | [] => .broken 1 true []
      | b₂ :: rest₂ =>
        if lo ≤ b₂ && b₂ ≤ hi then
          tails (tailsAfterSecond b) (64 * leadBits b + tailBits b₂) 2 rest₂
        else .broken 1 false (b₂ :: rest₂)

/-- A character is written as the byte of its number, or in bytes that no ASCII character has. -/
theorem toNat_of_mem_encodeChar {c : Char} {b : UInt8} (h : b ∈ String.utf8EncodeChar c) :
    b.toNat = c.toNat ∨ 128 ≤ b.toNat := by
  have toNat_ofNat : ∀ n, (UInt8.ofNat n).toNat = n % 256 := fun n ↦ UInt8.toNat_ofNat'
  have number : c.val.toNat = c.toNat := rfl
  unfold String.utf8EncodeChar at h
  dsimp only at h
  split at h
  · left
    rw [List.mem_singleton] at h
    subst h
    rw [toNat_ofNat]
    omega
  · right
    split at h
    · simp only [List.mem_cons, List.not_mem_nil, or_false] at h
      rcases h with rfl | rfl
      all_goals rw [toNat_ofNat]; omega
    · split at h
      · simp only [List.mem_cons, List.not_mem_nil, or_false] at h
        rcases h with rfl | rfl | rfl
        all_goals rw [toNat_ofNat]; omega
      · simp only [List.mem_cons, List.not_mem_nil, or_false] at h
        rcases h with rfl | rfl | rfl | rfl
        all_goals rw [toNat_ofNat]; omega

/-- Reading continuation bytes never lengthens the string. -/
theorem length_tails_le (n acc seen : Nat) (s : Bytes) :
    (tails n acc seen s).rest.length ≤ s.length := by
  induction n generalizing acc seen s with
  | zero => simp [tails, Front.rest]
  | succ n ih =>
    cases s with
    | nil => simp [tails, Front.rest]
    | cons b rest =>
      simp only [tails]
      split
      · have := ih (64 * acc + tailBits b) (seen + 1) rest
        simp; omega
      · simp [Front.rest]

/-- What follows the front is no longer than what followed the first byte. -/
theorem length_front_le (b : UInt8) (s : Bytes) : (front b s).rest.length ≤ s.length := by
  unfold front
  split
  · simp [Front.rest]
  · split
    · simp [Front.rest]
    · split
      · simp [Front.rest]
      · next rest₂ =>
        split
        · have := length_tails_le (tailsAfterSecond b) (64 * leadBits b + tailBits ‹UInt8›) 2 rest₂
          simp; omega
        · simp [Front.rest]

/-- The character that a front stands for. -/
def Front.char : Front → Char
  | scalar c _ => c
  | broken .. => '\uFFFD'

/-- The text of an octet string behind characters already read, the last of them first. -/
def lossyBehind (read : List Char) : Bytes → List Char
  | [] => read.reverse
  | b :: s =>
    have : (front b s).rest.length ≤ s.length := length_front_le b s
    lossyBehind ((front b s).char :: read) (front b s).rest
termination_by s => s.length
decreasing_by simp; omega

/-- The text of an octet string, with a replacement character for each broken start. -/
def lossy (s : Bytes) : List Char := lossyBehind [] s

/-- Where an octet string stops being a text: the offset of the first broken start and its
length, or no length if the string ends within it. -/
structure Fault where
  offset : Nat
  length : Option Nat
  deriving DecidableEq

/-- The first broken start of an octet string that begins at the given offset. -/
def faultFrom (offset : Nat) : Bytes → Option Fault
  | [] => none
  | b :: s =>
    have : (front b s).rest.length ≤ s.length := length_front_le b s
    match front b s with
    | .scalar c _ => faultFrom (offset + c.utf8Size) (front b s).rest
    | .broken n atEnd _ => some ⟨offset, if atEnd then none else some n⟩
termination_by s => s.length
decreasing_by simp; omega

/-- The first broken start of an octet string. -/
def fault? (s : Bytes) : Option Fault := faultFrom 0 s

/-- Characters already read stand in front of those that follow. -/
theorem lossyBehind_eq (read : List Char) (s : Bytes) :
    lossyBehind read s = read.reverse ++ lossy s := by
  induction h : s.length using Nat.strongRecOn generalizing read s with
  | _ n ih =>
    cases s with
    | nil => simp [lossy, lossyBehind]
    | cons b s =>
      have := length_front_le b s
      simp only [List.length_cons] at h
      have front : lossy (b :: s) = [(Utf8.front b s).char] ++ lossy (Utf8.front b s).rest := by
        rw [lossy, lossyBehind, ih _ (by omega) _ _ rfl]
        simp
      rw [lossyBehind, ih _ (by omega) _ _ rfl, front]
      simp

/-- The empty string is the empty text. -/
theorem lossy_nil : lossy [] = [] := by simp [lossy, lossyBehind]

/-- The text of a string begins with the character at its front. -/
theorem lossy_cons (b : UInt8) (s : Bytes) :
    lossy (b :: s) = (front b s).char :: lossy (front b s).rest := by
  rw [lossy, lossyBehind, lossyBehind_eq]
  simp

/-- The text of an octet string that is one. -/
def decode? (s : Bytes) : Option String :=
  match fault? s with
  | none => some (String.ofList (lossy s))
  | some _ => none

/-- The text of an octet string, with a replacement character for each broken start. -/
def decodeLossy (s : Bytes) : String := String.ofList (lossy s)

end HttpGateway.Utf8
