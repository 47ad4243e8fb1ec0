import HttpGateway.Proofs.Text.ByteOrder
import HttpGateway.Reply

/-!
# What the header fields of an error tell

An error travels in two header fields, and both can be read back: the code as a decimal numeral and
the message as form text, whatever its characters are. The form text is always a legal header value,
so the field of the message is never left out. Errors have the same fields exactly if they have the
same code and the same message.
-/

namespace HttpGateway

namespace Decimal

/-- The decimal form of an integer: its digits without zeros in front, behind a minus sign if it is
negative. -/
def IsWritten (s : Bytes) (n : Int) : Prop :=
  ∃ run, Writes run n.natAbs ∧ (run = [Ascii.byte '0'] ∨ run.head? ≠ some (Ascii.byte '0')) ∧
    s = if n < 0 then Ascii.byte '-' :: run else run

/-- The integer that digits behind a sign or behind none write, if it is between bounds. -/
def signed? (low high : Int) (s : Bytes) : Option Int :=
  let value := match s with
    | 45 :: run => (ofDigits? run).map fun n ↦ -(n : Int)
    | 43 :: run => (ofDigits? run).map Int.ofNat
    | run => (ofDigits? run).map Int.ofNat
  value.filter fun n ↦ decide (low ≤ n) && decide (n < high)

/-- A numeral has no zeros in front. -/
theorem digits_eq_zero_or (n : Nat) :
    digits n = [Ascii.byte '0'] ∨ (digits n).head? ≠ some (Ascii.byte '0') := by
  have lead : ∀ n, 0 < n → (digits n).head? ≠ some (Ascii.byte '0') := by
    intro n
    induction n using Nat.strongRecOn with
    | ind n ih =>
      intro positive
      rw [digits]
      split
      · next below =>
        intro zero
        have value := congrArg UInt8.toNat (Option.some.inj zero)
        rw [toNat_digit below] at value
        change 48 + n = 48 at value
        omega
      · rw [List.head?_append]
        have front := ih (n / 10) (by omega) (by omega)
        cases first : (digits (n / 10)).head? with
        | none => exact absurd (List.head?_eq_none_iff.mp first) (digits_ne_nil (n / 10))
        | some b =>
          rw [first] at front
          exact front
  rcases Nat.eq_zero_or_pos n with rfl | positive
  · exact .inl (by rw [digits]; rfl)
  · exact .inr (lead n positive)

/-- An integer is written in its decimal form. -/
theorem isWritten_intDigits (n : Int) : IsWritten (intDigits n) n := by
  cases n with
  | ofNat n =>
    exact ⟨digits n, ofDigits?_eq_some_iff.mp (ofDigits?_digits n), digits_eq_zero_or n, rfl⟩
  | negSucc n =>
    refine ⟨digits (n + 1), ofDigits?_eq_some_iff.mp (ofDigits?_digits (n + 1)),
      digits_eq_zero_or (n + 1), ?_⟩
    rw [if_pos (Int.negSucc_lt_zero n)]
    rfl

/-- Reading the decimal form of an integer gives it back. -/
theorem signed?_intDigits {low high n : Int} (above : low ≤ n) (below : n < high) :
    signed? low high (intDigits n) = some n := by
  have bounds : (decide (low ≤ n) && decide (n < high)) = true := by simp [above, below]
  cases n with
  | negSucc n =>
    have value : (ofDigits? (digits (n + 1))).map (fun n ↦ -(n : Int)) = some (.negSucc n) := by
      rw [ofDigits?_digits]
      rfl
    change Option.filter _ ((ofDigits? (digits (n + 1))).map fun n ↦ -(n : Int)) = _
    rw [value, Option.filter_some, if_pos bounds]
  | ofNat n =>
    have unsigned : ∀ b rest, digits n = b :: rest → Ascii.isDigit b = true := by
      intro b rest split
      exact List.all_eq_true.mp (all_digits n) b (split ▸ List.mem_cons_self)
    unfold signed? intDigits
    dsimp only
    split
    · next run split => exact absurd (unsigned _ _ split) nofun
    · next run split => exact absurd (unsigned _ _ split) nofun
    · rw [ofDigits?_digits, Option.map_some, Option.filter_some, if_pos bounds]

end Decimal

namespace Utf8

/-- Texts of the same bytes are the same. -/
theorem encode_inj {s t : String} : encode s = encode t ↔ s = t := by
  refine ⟨fun same ↦ ?_, congrArg encode⟩
  rcases Std.lt_trichotomy s t with below | equal | above
  · exact absurd (encode_lt_encode below) (same ▸ List.lt_irrefl _)
  · exact equal
  · exact absurd (encode_lt_encode above) (same ▸ List.lt_irrefl _)

end Utf8

namespace Reply

/-- The fields of an error as they are put together: the message would be left out if its form text
were no header value. -/
def guardedHeaders (e : GatewayError) : HeaderMap :=
  let coded := HeaderMap.empty.insert .resultCode (.ofInt e.code.value)
  match HeaderValue.ofBytes? (Form.encode (Utf8.encode e.message)) with
  | none => coded
  | some value => coded.insert .resultMessage value

/-- The form text of a message is always a header value. -/
theorem guardedHeaders_eq (e : GatewayError) : guardedHeaders e = errorHeaders e := by
  have legal : HeaderValue.ofBytes? (Form.encode (Utf8.encode e.message)) =
      some (messageValue e.message) := HeaderValue.ofBytes?_eq_some_iff.mpr rfl
  unfold guardedHeaders
  rw [legal]
  rfl

/-- Header fields carry an error: there are the two fields of a code and a message and no other,
each with one value, and both can be read back. -/
structure CarriesError (e : GatewayError) (headers : HeaderMap) : Prop where
  only : ∀ name, headers.contains name = true ↔ name = .resultCode ∨ name = .resultMessage
  /-- The code is in decimal form, and is read back where integers of its size are. -/
  code : ∃ value, headers.values .resultCode = [value] ∧
    Decimal.IsWritten value.bytes e.code.value ∧
    ∀ low high, low ≤ e.code.value → e.code.value < high →
      Decimal.signed? low high value.bytes = some e.code.value
  /-- The message is form text, and is read back byte for byte. -/
  message : ∃ value, headers.values .resultMessage = [value] ∧
    (∀ b ∈ value.bytes, Form.isWritten b = true) ∧
    Form.decode value.bytes = Utf8.encode e.message

/-- What fields carry can be told from them. -/
theorem CarriesError.unique {e other : GatewayError} {headers headers' : HeaderMap}
    (h : CarriesError e headers) (h' : CarriesError other headers')
    (same : headers.Equiv headers') : e.code = other.code ∧ e.message = other.message := by
  constructor
  · obtain ⟨value, there, -, reads⟩ := h.code
    obtain ⟨value', there', -, reads'⟩ := h'.code
    rw [same, there'] at there
    cases there
    have read := reads (min e.code.value other.code.value) (max e.code.value other.code.value + 1)
      (by omega) (by omega)
    rw [reads' _ _ (by omega) (by omega)] at read
    exact congrArg ResultCode.mk (Option.some.inj read).symm
  · obtain ⟨value, there, -, read⟩ := h.message
    obtain ⟨value', there', -, read'⟩ := h'.message
    rw [same, there'] at there
    cases there
    exact Utf8.encode_inj.mp (read.symm.trans read')

private theorem values_errorHeaders (e : GatewayError) (name : HeaderName) :
    (errorHeaders e).values name =
      if HeaderName.resultMessage = name then [messageValue e.message]
      else if HeaderName.resultCode = name then [.ofInt e.code.value] else [] := by
  unfold errorHeaders
  rw [HeaderMap.values_insert, HeaderMap.values_insert, HeaderMap.values_empty]

/-- The fields of an error carry it, whatever its code and message, and its message is never left
out; so two errors have the same fields exactly if they have the same code and message. -/
theorem carriesError_errorHeaders (e : GatewayError) :
    guardedHeaders e = errorHeaders e ∧ CarriesError e (errorHeaders e) ∧
    ∀ other, (errorHeaders e).Equiv (errorHeaders other) ↔
      e.code = other.code ∧ e.message = other.message := by
  have carries : ∀ e, CarriesError e (errorHeaders e) := by
    intro e
    constructor
    case only =>
      intro name
      rw [HeaderMap.contains_iff, values_errorHeaders]
      by_cases message : HeaderName.resultMessage = name
      · simp [message]
      · by_cases code : HeaderName.resultCode = name
        · simp [message, code]
        · simp [message, code, Ne.symm message, Ne.symm code]
    case code =>
      refine ⟨.ofInt e.code.value, ?_, Decimal.isWritten_intDigits e.code.value,
        fun _ _ ↦ Decimal.signed?_intDigits⟩
      rw [values_errorHeaders, if_neg (by decide), if_pos rfl]
    case message =>
      refine ⟨messageValue e.message, ?_, List.all_eq_true.mp (Form.all_encode _),
        Form.decode_encode _⟩
      rw [values_errorHeaders, if_pos rfl]
  refine ⟨guardedHeaders_eq e, carries e, fun other ↦ ⟨(carries e).unique (carries other), ?_⟩⟩
  rintro ⟨code, message⟩ name
  rw [values_errorHeaders, values_errorHeaders, code, message]

end Reply
end HttpGateway
