import HttpGateway.Config.Validation

/-!
# The paths of fields

A problem names its field by a path, in which the place of an entry stands in brackets. The brackets
can be found again, since no name in front of them holds one and a numeral holds digits only, so two
fields with one path are one field.
-/

namespace HttpGateway

namespace Ascii

/-- The bytes of a text behind another are behind its bytes. -/
theorem bytes_append (s t : String) : bytes (s ++ t) = bytes s ++ bytes t := by
  simp [bytes]

/-- The text of bytes has these bytes. -/
theorem bytes_text (b : Bytes) : bytes (text b) = b := by
  have back (x : UInt8) : byte (Char.ofNat x.toNat) = x := by
    have small := x.toNat_lt
    have valid : x.toNat.isValidChar := .inl (by omega)
    have number : (Char.ofNat x.toNat).toNat = x.toNat := by
      rw [Char.ofNat, dif_pos valid]
      rfl
    rw [byte, number, Nat.toUInt8_eq, UInt8.ofNat_toNat]
  simp [bytes, text, Function.comp_def, back]

end Ascii

namespace Decimal

/-- A numeral holds digits only. -/
theorem notMem_digits {b : UInt8} (h : Ascii.isDigit b = false) (n : Nat) : b ∉ digits n := by
  intro mem
  have digit := List.all_eq_true.mp (all_digits n) b mem
  simp [h] at digit

end Decimal

namespace Config.Field

/-- What stands in front of the brackets in a path, what stands in them and what stands behind. -/
def frame : Field → String × Option (Nat × String)
  | bindAddress => ("listener.bind_address", none)
  | maxBodySize => ("listener.max_body_size", none)
  | requestSecs => ("timeouts.request_secs", none)
  | callTimeout => ("timeouts.call_timeout_ms", none)
  | bufferSize => ("proxy.buffer_size", none)
  | dialTimeout => ("grpc.dial_timeout_ms", none)
  | metricsAddress => ("observability.metrics_address", none)
  | routeName i => ("routes", some (i, ".name"))
  | routeProtocol i => ("routes", some (i, ".protocol"))
  | routeTarget i => ("routes", some (i, ".target"))
  | routePathPrefix i => ("routes", some (i, ".path_prefix"))
  | routeTimeout i => ("routes", some (i, ".timeout_ms"))
  | codeStatus i => ("error_codes", some (i, ".http_status"))
  | successStatus i => ("success_statuses", some (i, ""))

/-- Fields with the same frame are the same. -/
theorem frame_injective : Function.Injective frame := by
  intro f g same
  cases f <;> cases g <;> simp_all [frame]

/-- A path is its frame with the place in brackets. -/
theorem path_eq (f : Field) :
    f.path = match f.frame with
      | (front, none) => front
      | (front, some (i, back)) => (front ++ "[") ++ Decimal.text i ++ ("]" ++ back) := by
  cases f <;> rfl

/-- What stands in front of the first bracket of a path, the number in the brackets and what stands
behind them. -/
def parts (path : String) : String × Option (Option Nat × String) :=
  let (front, rest) := Ascii.cut (Ascii.byte '[') (Ascii.bytes path)
  (Ascii.text front, rest.map fun rest ↦
    let (numeral, back) := Ascii.cut (Ascii.byte ']') rest
    (Decimal.ofDigits? numeral, Ascii.text (back.getD [])))

/-- The names in a path are ASCII texts, and there is no bracket in front of the place. -/
theorem plain_frame (f : Field) :
    (Ascii.byte '[' ∉ Ascii.bytes f.frame.1 ∧ Ascii.text (Ascii.bytes f.frame.1) = f.frame.1) ∧
      ∀ i back, f.frame.2 = some (i, back) → Ascii.text (Ascii.bytes back) = back := by
  constructor
  · cases f <;> simp only [frame] <;> decide
  · cases f <;> rintro i back ⟨⟩ <;> rfl

/-- The parts of a path are those of its frame. -/
theorem parts_path (f : Field) :
    parts f.path = (f.frame.1, f.frame.2.map fun (i, back) ↦ (some i, back)) := by
  obtain ⟨⟨plain, front⟩, behind⟩ := plain_frame f
  rw [path_eq]
  split
  · next name shape =>
    rw [shape] at plain front ⊢
    simp [parts, Ascii.cut_of_not_mem plain, front]
  · next name i back shape =>
    rw [shape] at plain front ⊢
    have numeral : Ascii.bytes (Decimal.text i) = Decimal.digits i := Ascii.bytes_text _
    have opening : Ascii.bytes "[" = [Ascii.byte '['] := rfl
    have closing : Ascii.bytes "]" = [Ascii.byte ']'] := rfl
    have digits : Ascii.byte ']' ∉ Decimal.digits i := Decimal.notMem_digits (by decide) i
    simp [parts, Ascii.bytes_append, numeral, opening, closing, Ascii.cut_append plain,
      Ascii.cut_append digits, Decimal.ofDigits?_digits, front, behind i back (by rw [shape])]

/-- Two fields with the same path are the same. -/
theorem path_injective : Function.Injective path := by
  intro f g same
  have alike := congrArg parts same
  rw [parts_path, parts_path, Prod.mk.injEq] at alike
  apply frame_injective
  apply Prod.ext alike.1
  apply Option.map_injective _ alike.2
  rintro ⟨i, back⟩ ⟨j, other⟩ equal
  cases equal
  rfl

end Config.Field
end HttpGateway
