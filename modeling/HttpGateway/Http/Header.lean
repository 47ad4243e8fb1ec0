import HttpGateway.Text.Decimal
import HttpGateway.Text.Form

/-!
# Header names and values

A header name is a token, kept in lower case, so that equal names are equal values. A header value
is any octet string without controls other than the tab. Both carry the proof that they are legal,
so nothing built here can break the framing of a message.
-/

namespace HttpGateway

/-- A byte that a token may hold. -/
def isTokenByte (b : UInt8) : Bool :=
  Ascii.isAlphanum b ||
    [33, 35, 36, 37, 38, 39, 42, 43, 45, 46, 94, 95, 96, 124, 126].contains b

/-- A byte that a header value may hold. -/
def isFieldByte (b : UInt8) : Bool := b == 9 || (32 ≤ b && b != 127)

/-- A header name: a token without upper-case letters, of at most 65535 bytes. -/
structure HeaderName where
  bytes : Bytes
  legal : (!bytes.isEmpty && bytes.length ≤ 65535 &&
    bytes.all fun b ↦ isTokenByte b && !Ascii.isUpper b) = true
  deriving DecidableEq

namespace HeaderName

/-- The header name that an octet string spells, if it is a token. -/
def ofBytes? (s : Bytes) : Option HeaderName :=
  let folded := Ascii.lowerAll s
  if h : (!folded.isEmpty && folded.length ≤ 65535 &&
      folded.all fun b ↦ isTokenByte b && !Ascii.isUpper b) = true
  then some ⟨folded, h⟩ else none

/-- The header name that a text spells, if it is a token. -/
def ofText? (s : String) : Option HeaderName :=
  if s.toList.all fun c ↦ c.toNat < 128 then ofBytes? (Ascii.bytes s) else none

/-- The text of a header name. -/
def text (name : HeaderName) : String := Ascii.text name.bytes

/-- An octet string spells the name that it is with its letters folded, and no other. -/
theorem ofBytes?_eq_some_iff {s : Bytes} {name : HeaderName} :
    ofBytes? s = some name ↔ name.bytes = Ascii.lowerAll s := by
  unfold ofBytes?
  dsimp only
  split
  · next h =>
    constructor
    · intro e; cases e; rfl
    · intro e; cases name; subst e; rfl
  · next h =>
    constructor
    · intro e; cases e
    · intro e; rw [← e] at h; exact absurd name.legal h

/-- The letters of a header name are folded already. -/
theorem lowerAll_bytes (name : HeaderName) : Ascii.lowerAll name.bytes = name.bytes := by
  refine (List.map_congr_left fun b mem ↦ ?_).trans (List.map_id name.bytes)
  have token := List.all_eq_true.mp (Bool.and_eq_true_iff.mp name.legal).2 b mem
  rw [Bool.and_eq_true_iff, Bool.not_eq_true'] at token
  exact Ascii.lower_of_not_isUpper token.2

/-- A header name is spelled by its own bytes. -/
theorem ofBytes?_bytes (name : HeaderName) : ofBytes? name.bytes = some name :=
  ofBytes?_eq_some_iff.mpr name.lowerAll_bytes.symm

/-- Names of the same bytes are the same name. -/
theorem bytes_inj {a b : HeaderName} : a.bytes = b.bytes ↔ a = b := by
  cases a
  cases b
  simp only [mk.injEq]

/-- The names of the fields that describe the connection itself and other fixed fields. -/
def connection : HeaderName := ⟨Ascii.bytes "connection", by decide⟩
@[inherit_doc connection] def keepAlive : HeaderName := ⟨Ascii.bytes "keep-alive", by decide⟩
@[inherit_doc connection] def proxyAuthenticate : HeaderName :=
  ⟨Ascii.bytes "proxy-authenticate", by decide⟩
@[inherit_doc connection] def proxyAuthorization : HeaderName :=
  ⟨Ascii.bytes "proxy-authorization", by decide⟩
@[inherit_doc connection] def te : HeaderName := ⟨Ascii.bytes "te", by decide⟩
@[inherit_doc connection] def trailers : HeaderName := ⟨Ascii.bytes "trailers", by decide⟩
@[inherit_doc connection] def transferEncoding : HeaderName :=
  ⟨Ascii.bytes "transfer-encoding", by decide⟩
@[inherit_doc connection] def upgrade : HeaderName := ⟨Ascii.bytes "upgrade", by decide⟩
@[inherit_doc connection] def trailer : HeaderName := ⟨Ascii.bytes "trailer", by decide⟩
@[inherit_doc connection] def host : HeaderName := ⟨Ascii.bytes "host", by decide⟩
@[inherit_doc connection] def contentLength : HeaderName :=
  ⟨Ascii.bytes "content-length", by decide⟩
@[inherit_doc connection] def contentType : HeaderName := ⟨Ascii.bytes "content-type", by decide⟩

end HeaderName

/-- A header value: bytes none of which is a control other than the tab. -/
structure HeaderValue where
  bytes : Bytes
  legal : bytes.all isFieldByte = true
  deriving DecidableEq

namespace HeaderValue

/-- The header value of an octet string, if it is legal. -/
def ofBytes? (s : Bytes) : Option HeaderValue :=
  if h : s.all isFieldByte = true then some ⟨s, h⟩ else none

/-- A value is text if all its bytes are printable ASCII or tabs. -/
def isText (value : HeaderValue) : Bool := value.bytes.all fun b ↦ b == 9 || (32 ≤ b && b < 127)

/-- The bytes of a value that is text. -/
def text? (value : HeaderValue) : Option Bytes :=
  if value.isText then some value.bytes else none

/-- A digit is legal in a header value. -/
theorem isFieldByte_of_isDigit {b : UInt8} (h : Ascii.isDigit b = true) : isFieldByte b = true := by
  simp only [Ascii.isDigit, Bool.and_eq_true, decide_eq_true_eq, UInt8.le_iff_toNat_le] at h
  simp only [isFieldByte, Bool.or_eq_true, Bool.and_eq_true, decide_eq_true_eq,
    UInt8.le_iff_toNat_le, bne_iff_ne, ne_eq]
  right
  refine ⟨Nat.le_trans (by decide) h.1, fun e ↦ ?_⟩
  subst e
  exact absurd h.2 (by decide)

/-- A byte that a field may hold may be folded there. -/
theorem isFieldByte_lower {b : UInt8} (h : isFieldByte b = true) :
    isFieldByte (Ascii.lower b) = true := by
  have all : ∀ b, isFieldByte b = true → isFieldByte (Ascii.lower b) = true :=
    Ascii.forall_byte (by decide +kernel)
  exact all b h

/-- The value that is a number in decimal. -/
def ofNat (n : Nat) : HeaderValue where
  bytes := Decimal.digits n
  legal := by
    rw [List.all_eq_true]
    intro b hb
    exact isFieldByte_of_isDigit (List.all_eq_true.mp (Decimal.all_digits n) b hb)

/-- The value that is an integer in decimal. -/
def ofInt (n : Int) : HeaderValue where
  bytes := Decimal.intDigits n
  legal := by
    cases n with
    | ofNat n => exact (ofNat n).legal
    | negSucc n =>
      simp only [Decimal.intDigits, List.all_cons, Bool.and_eq_true]
      exact ⟨by decide, (ofNat (n + 1)).legal⟩

/-- A legal octet string is read as the value that holds it, and no other is. -/
theorem ofBytes?_eq_some_iff {s : Bytes} {value : HeaderValue} :
    ofBytes? s = some value ↔ value.bytes = s := by
  unfold ofBytes?
  split
  · next h =>
    constructor
    · intro e; cases e; rfl
    · intro e; subst e; rfl
  · next h =>
    constructor
    · intro e; cases e
    · intro e; subst e; exact absurd value.legal h

/-- The text of a value is its bytes, if they are text. -/
theorem text?_eq_some_iff {value : HeaderValue} {s : Bytes} :
    value.text? = some s ↔ value.isText = true ∧ value.bytes = s := by
  unfold text?
  split
  · next text => rw [Option.some_inj, and_iff_right text]
  · next text => exact ⟨nofun, fun h ↦ absurd h.1 text⟩

/-- Values of the same bytes are the same value. -/
theorem bytes_inj {a b : HeaderValue} : a.bytes = b.bytes ↔ a = b := by
  cases a
  cases b
  simp only [mk.injEq]

end HeaderValue
end HttpGateway
