import HttpGateway.Metadata.HeaderText
import HttpGateway.Proofs.Metadata.Grouping

/-!
# Header maps survive as text

Whatever a header map holds, its text is read as the same map: the separators are none of the
characters in which names and values are written, so each pair is found again, is cut where its name
ends, and reads as the field it was. Only the fields of a name stand together afterwards.
-/

namespace HttpGateway.HeaderText

/-- The characters that the text of a header map may hold. -/
def alphabet : Bytes :=
  Ascii.bytes "ABCDEFGHIJKLMNOPQRSTUVWXYZabcdefghijklmnopqrstuvwxyz0123456789*-._+%&="

/-- What a form text may hold, the text of a header map may hold. -/
theorem mem_alphabet_of_isWritten {b : UInt8} (h : Form.isWritten b = true) : b ∈ alphabet := by
  have all : ∀ b, Form.isWritten b = true → b ∈ alphabet := Ascii.forall_byte (by decide +kernel)
  exact all b h

/-- A field is written in what a form text may hold, and one more sign. -/
theorem isWritten_or_eq_of_mem {b : UInt8} {field : HeaderName × HeaderValue}
    (h : b ∈ encodeField field) : Form.isWritten b = true ∨ b = Ascii.byte '=' := by
  have written : ∀ s, b ∈ Form.encode s → Form.isWritten b = true :=
    fun s mem ↦ List.all_eq_true.mp (Form.all_encode s) b mem
  unfold encodeField at h
  rcases List.mem_append.mp h with name | rest
  · exact .inl (written _ name)
  · rcases List.mem_cons.mp rest with sign | value
    · exact .inr sign
    · exact .inl (written _ value)

/-- The sign between pairs is in none of them. -/
theorem amp_not_mem_encodeField (field : HeaderName × HeaderValue) :
    Ascii.byte '&' ∉ encodeField field := by
  intro mem
  rcases isWritten_or_eq_of_mem mem with written | sign
  · cases written
  · cases sign

/-- A pair is not empty. -/
theorem encodeField_ne_nil (field : HeaderName × HeaderValue) : encodeField field ≠ [] :=
  List.append_ne_nil_of_right_ne_nil _ (List.cons_ne_nil _ _)

/-- A pair reads as the field it was. -/
theorem decodeField_encodeField (field : HeaderName × HeaderValue) :
    decodeField (encodeField field) = .ok field := by
  have cut : Ascii.cut (Ascii.byte '=') (encodeField field) =
      (Form.encode field.1.bytes, some (Form.encode field.2.bytes)) :=
    Ascii.cut_append (Form.not_mem_encode (by decide) _) _
  unfold decodeField
  rw [cut]
  dsimp only
  rw [Option.getD_some, Form.decode_encode, Form.decode_encode, HeaderName.ofBytes?_bytes,
    HeaderValue.ofBytes?_eq_some_iff.mpr rfl]

/-- Pairs read as the fields they were. -/
theorem mapM_decodeField (fields : List (HeaderName × HeaderValue)) :
    (fields.map encodeField).mapM decodeField = .ok fields := by
  induction fields with
  | nil => rfl
  | cons field fields ih =>
    rw [List.map_cons, List.mapM_cons, decodeField_encodeField, ih]
    rfl

/-- The pairs of a text are the ones that it was put together from. -/
theorem pairs_encode (m : HeaderMap) :
    ((Ascii.splitOn (Ascii.byte '&') (encode m)).filter fun pair ↦ !pair.isEmpty) =
      m.grouped.map encodeField := by
  unfold encode
  by_cases none_ : m.grouped = []
  · rw [none_]
    rfl
  · have pairs : m.grouped.map encodeField ≠ [] := fun e ↦ none_ (List.map_eq_nil_iff.mp e)
    rw [Ascii.splitOn_join pairs]
    · rw [List.filter_eq_self]
      intro pair mem
      obtain ⟨field, -, rfl⟩ := List.mem_map.mp mem
      simpa using encodeField_ne_nil field
    · intro pair mem
      obtain ⟨field, -, rfl⟩ := List.mem_map.mp mem
      exact amp_not_mem_encodeField field

/-- The text of a header map reads as its fields, put together by name. -/
theorem decode_encode (m : HeaderMap) : decode (encode m) = .ok ⟨m.grouped⟩ := by
  unfold decode
  dsimp only
  rw [pairs_encode, mapM_decodeField]
  rfl

/-- The text of a header map holds letters, digits and few signs. -/
theorem mem_alphabet_of_mem_encode {m : HeaderMap} {b : UInt8} (h : b ∈ encode m) :
    b ∈ alphabet := by
  rcases Ascii.mem_of_mem_join h with between | ⟨pair, mem, inside⟩
  · rw [List.mem_singleton] at between
    subst between
    decide
  · obtain ⟨field, -, rfl⟩ := List.mem_map.mp mem
    rcases isWritten_or_eq_of_mem inside with written | rfl
    · exact mem_alphabet_of_isWritten written
    · decide

/-- A header map survives as text: its text is read, as the same map, which has the same text. So
what is read of any text survives as well. -/
theorem equiv_decode_encode (m : HeaderMap) :
    (∃ m', decode (encode m) = .ok m' ∧ m'.Equiv m ∧ m'.names = m.names ∧ encode m' = encode m) ∧
      (∀ b ∈ encode m, b ∈ alphabet) ∧
      ∀ s, decode s = .ok m →
        ∃ m', (decode s).bind (fun read ↦ decode (encode read)) = .ok m' ∧ m'.Equiv m := by
  have same : encode ⟨m.grouped⟩ = encode m := by
    unfold encode
    rw [m.grouped_grouped]
  refine ⟨⟨⟨m.grouped⟩, decode_encode m, m.values_grouped, m.names_grouped, same⟩, ?_, ?_⟩
  · exact fun b mem ↦ mem_alphabet_of_mem_encode mem
  · intro s read
    rw [read]
    exact ⟨⟨m.grouped⟩, decode_encode m, m.values_grouped⟩

/-- A map with a name between whose fields another stands, and with signs and bytes that do not
stand for themselves. -/
def awkward : HeaderMap := ⟨[
  (⟨Ascii.bytes "x%&+", by decide⟩, ⟨[43, 37, 38, 61, 32, 255], by decide⟩),
  (⟨Ascii.bytes "x-other", by decide⟩, ⟨Ascii.bytes "a b", by decide⟩),
  (⟨Ascii.bytes "x%&+", by decide⟩, ⟨[], by decide⟩)]⟩

/-- Such a map survives, and what is read of its text survives as well. -/
theorem equiv_decode_encode_awkward : ∃ m' m'', decode (encode awkward) = .ok m' ∧
    m'.Equiv awkward ∧
    m'.values ⟨Ascii.bytes "x%&+", by decide⟩ =
      [⟨[43, 37, 38, 61, 32, 255], by decide⟩, ⟨[], by decide⟩] ∧
    (decode (encode awkward)).bind (fun read ↦ decode (encode read)) = .ok m'' ∧
    m''.Equiv m' := by
  obtain ⟨⟨m', read, same, -, -⟩, -, -⟩ := equiv_decode_encode awkward
  obtain ⟨m'', again, same'⟩ := (equiv_decode_encode m').2.2 (encode awkward) read
  exact ⟨m', m'', read, same, (same _).trans rfl, again, same'⟩

end HttpGateway.HeaderText
