import HttpGateway.Metadata.Wire
import HttpGateway.Proofs.Metadata.Keys
import HttpGateway.Proofs.Traversal

/-!
# Metadata survives the wire

A value is written in one of two ways, which the end of its key chooses. The name under which it is
sent ends as the key does, so the receiver chooses alike and reads the value that it was. What is
sent is therefore received, without the key `connection`; and metadata is refused exactly if it has
a key that no name can stand for, or a value that is neither binary nor a header value.
-/

namespace HttpGateway.Metadata

/-- A key that can be sent: folding its letters makes it a header name of the class that it is of
itself. -/
def IsLegalKey (key : Bytes) : Prop :=
  ∃ name : HeaderName, name.bytes = Ascii.lowerAll key ∧ isBinaryKey name.bytes = isBinaryKey key

/-- Metadata as it can be sent and received unchanged: the keys are header names, and the values of
the keys that are not binary are header values. -/
structure IsSendable (m : Metadata) : Prop where
  key : ∀ key, m.values key ≠ [] → ∃ name : HeaderName, name.bytes = key
  value : ∀ key, isBinaryKey key = false → ∀ value ∈ m.values key, value.all isFieldByte = true

/-- The letters of the keys are small. -/
def IsFolded (m : Metadata) : Prop := ∀ key, m.values key ≠ [] → Ascii.lowerAll key = key

/-- A key for which metadata is refused: it is sent, but it is not legal, or it is not binary and
one of its values is no header value. -/
def IsFault (m : Metadata) (key : Bytes) : Prop :=
  m.values key ≠ [] ∧ staysBehind key = false ∧
    (¬ IsLegalKey key ∨
      isBinaryKey key = false ∧ ∃ value ∈ m.values key, value.all isFieldByte = false)

/-- A header name stays behind if it is the name `connection`. -/
theorem staysBehind_bytes (name : HeaderName) :
    staysBehind name.bytes = true ↔ name.bytes = HeaderName.connection.bytes := by
  unfold staysBehind
  rw [Ascii.eqIgnoreCase_iff, name.lowerAll_bytes, HeaderName.connection.lowerAll_bytes]

/-- A key is sent under its folded letters, if these are of its class. -/
theorem wireName?_eq_some_iff {key : Bytes} {name : HeaderName} :
    wireName? key = some name ↔
      name.bytes = Ascii.lowerAll key ∧ isBinaryKey name.bytes = isBinaryKey key := by
  unfold wireName?
  rw [Option.filter_eq_some_iff, HeaderName.ofBytes?_eq_some_iff, decide_eq_true_eq]

/-- What is written in base64 is a header value. -/
theorem all_encode (s : Bytes) : (Base64.encode s).all isFieldByte = true := by
  have symbols : ∀ n < 64, isFieldByte (Base64.symbol n) = true := by decide
  rw [List.all_eq_true]
  intro b mem
  obtain ⟨n, hn, rfl⟩ := Base64.exists_of_mem_encode mem
  exact symbols n hn

/-- A pair is sent as the name of its key and the writing of its value. -/
theorem wireField_eq_ok_iff {pair : Bytes × Bytes} {field : HeaderName × HeaderValue} :
    wireField pair = .ok field ↔ wireName? pair.1 = some field.1 ∧
      field.2.bytes = if isBinaryKey pair.1 then Base64.encode pair.2 else pair.2 := by
  obtain ⟨name, value⟩ := field
  unfold wireField
  cases named : wireName? pair.1 with
  | none => simp
  | some name' =>
    dsimp only
    cases written : HeaderValue.ofBytes?
        (if isBinaryKey pair.1 then Base64.encode pair.2 else pair.2) with
    | none =>
      refine iff_of_false nofun ?_
      rintro ⟨-, bytes⟩
      rw [HeaderValue.ofBytes?_eq_some_iff.mpr bytes] at written
      cases written
    | some value' =>
      rw [← HeaderValue.ofBytes?_eq_some_iff, written]
      simp

/-- A pair can be sent if its key is legal and its value is binary or a header value. -/
theorem exists_wireField_iff (pair : Bytes × Bytes) :
    (∃ field, wireField pair = .ok field) ↔
      IsLegalKey pair.1 ∧ (isBinaryKey pair.1 = false → pair.2.all isFieldByte = true) := by
  simp only [wireField_eq_ok_iff, wireName?_eq_some_iff]
  constructor
  · rintro ⟨⟨name, value⟩, named, bytes⟩
    refine ⟨⟨name, named⟩, fun plain ↦ ?_⟩
    rw [plain] at bytes
    exact bytes.subst (motive := fun s ↦ s.all isFieldByte = true) value.legal
  · rintro ⟨⟨name, named⟩, legal⟩
    cases class_ : isBinaryKey pair.1 with
    | true => exact ⟨(name, ⟨Base64.encode pair.2, all_encode pair.2⟩), class_ ▸ named, rfl⟩
    | false => exact ⟨(name, ⟨pair.2, legal class_⟩), class_ ▸ named, rfl⟩

/-- A pair that is sent under its own letters is received as it was. -/
theorem ofWireField_of_wireField {pair : Bytes × Bytes} {field : HeaderName × HeaderValue}
    (folded : Ascii.lowerAll pair.1 = pair.1) (h : wireField pair = .ok field) :
    ofWireField field = some pair := by
  obtain ⟨named, bytes⟩ := wireField_eq_ok_iff.mp h
  obtain ⟨name, -⟩ := wireName?_eq_some_iff.mp named
  rw [folded] at name
  unfold ofWireField
  rw [name, bytes]
  cases isBinaryKey pair.1 with
  | true => exact congrArg (Option.map _) (Base64.decode?_encode pair.2)
  | false => rfl

/-- Metadata is sent as the fields of its pairs, one for each. -/
theorem outgoing_eq_ok_iff {m : Metadata} {sent : HeaderMap} :
    m.outgoing = .ok sent ↔
      (m.toList.filter fun pair ↦ !staysBehind pair.1).mapM wireField = .ok sent.fields := by
  unfold outgoing
  cases (m.toList.filter fun pair ↦ !staysBehind pair.1).mapM wireField with
  | error fault => exact iff_of_false nofun nofun
  | ok fields =>
    constructor
    · intro h; cases h; rfl
    · intro h; cases h; rfl

/-- Metadata can be sent if each of its pairs that does not stay behind can. -/
theorem exists_outgoing_iff (m : Metadata) :
    (∃ sent, m.outgoing = .ok sent) ↔
      ∀ key, staysBehind key = false → ∀ value ∈ m.values key,
        ∃ field, wireField (key, value) = .ok field := by
  have pairs : (∃ sent, m.outgoing = .ok sent) ↔
      ∃ fields, (m.toList.filter fun pair ↦ !staysBehind pair.1).mapM wireField = .ok fields := by
    simp only [outgoing_eq_ok_iff]
    exact ⟨fun ⟨sent, h⟩ ↦ ⟨sent.fields, h⟩, fun ⟨fields, h⟩ ↦ ⟨⟨fields⟩, h⟩⟩
  rw [pairs, Traversal.exists_mapM_eq_ok_iff]
  simp only [List.mem_filter, mem_toList_iff, Bool.not_eq_true', Prod.forall]
  exact ⟨fun h key leaves value mem ↦ h key value ⟨mem, leaves⟩,
    fun h key value both ↦ h key both.2 value both.1⟩

/-- Metadata is refused for a key if one of its values is refused under it. -/
theorem isFault_iff (m : Metadata) (key : Bytes) :
    m.IsFault key ↔ staysBehind key = false ∧
      ∃ value ∈ m.values key, ¬ ∃ field, wireField (key, value) = .ok field := by
  simp only [exists_wireField_iff]
  constructor
  · rintro ⟨some_, leaves, key_ | ⟨plain, value, mem, illegal⟩⟩
    · obtain ⟨value, mem⟩ := List.exists_mem_of_ne_nil _ some_
      exact ⟨leaves, value, mem, fun both ↦ key_ both.1⟩
    · exact ⟨leaves, value, mem, fun both ↦ Bool.false_ne_true (illegal.symm.trans (both.2 plain))⟩
  · rintro ⟨leaves, value, mem, refused⟩
    refine ⟨List.ne_nil_of_mem mem, leaves, ?_⟩
    by_cases legal : IsLegalKey key
    · right
      obtain ⟨plain, illegal⟩ := Classical.not_imp.mp fun h ↦ refused ⟨legal, h⟩
      exact ⟨plain, value, mem, Bool.not_eq_true _ ▸ illegal⟩
    · exact .inl legal

/-- Metadata that is sent under its own letters is received without what stays behind. -/
theorem incoming_of_outgoing {m : Metadata} {sent : HeaderMap} (folded : m.IsFolded)
    (h : m.outgoing = .ok sent) :
    incoming sent = ⟨m.toList.filter fun pair ↦ !staysBehind pair.1⟩ := by
  -- Each field reads as its pair, and none of them is dropped.
  have each : sent.fields.map ofWireField =
      (m.toList.filter fun pair ↦ !staysBehind pair.1).map some := by
    apply Traversal.map_of_mapM (outgoing_eq_ok_iff.mp h)
    intro pair mem field made
    have listed := mem_toList_iff.mp (List.mem_filter.mp mem).1
    exact ofWireField_of_wireField (folded pair.1 (List.ne_nil_of_mem listed)) made
  have all := congrArg (List.filterMap id) each
  rw [List.filterMap_map, List.filterMap_map] at all
  unfold incoming
  exact congrArg Metadata.mk (all.trans List.filterMap_some)

/-- What is received under a key is what was sent under it. -/
theorem values_incoming {m : Metadata} {sent : HeaderMap} (folded : m.IsFolded)
    (h : m.outgoing = .ok sent) (key : Bytes) :
    (incoming sent).values key = if staysBehind key = false then m.values key else [] := by
  rw [incoming_of_outgoing folded h]
  change Listing.values (m.toList.filter fun pair ↦ !staysBehind pair.1) key = _
  rw [Listing.values_filter m.toList fun key ↦ !staysBehind key, values_toList]
  simp only [Bool.not_eq_true']

/-- Metadata can be sent if its pairs spell names and, where they are not binary, header values. -/
theorem isSendable_of_pairs {m : Metadata}
    (h : ∀ pair ∈ m.pairs, (HeaderName.ofBytes? pair.1).map HeaderName.bytes = some pair.1 ∧
      (isBinaryKey pair.1 = false → pair.2.all isFieldByte = true)) : m.IsSendable where
  key key some_ := by
    obtain ⟨value, mem⟩ := List.exists_mem_of_ne_nil _ some_
    have spelled := (h (key, value) (Listing.mem_values_iff.mp mem)).1
    obtain ⟨name, -, bytes⟩ := Option.map_eq_some_iff.mp spelled
    exact ⟨name, bytes⟩
  value key plain value mem := (h (key, value) (Listing.mem_values_iff.mp mem)).2 plain

/-- Header names are in small letters. -/
theorem IsSendable.isFolded {m : Metadata} (h : m.IsSendable) : m.IsFolded := by
  intro key some_
  obtain ⟨name, rfl⟩ := h.key key some_
  exact name.lowerAll_bytes

/-- Metadata that can be sent is. -/
theorem IsSendable.exists_outgoing {m : Metadata} (h : m.IsSendable) :
    ∃ sent, m.outgoing = .ok sent := by
  rw [exists_outgoing_iff]
  intro key _ value mem
  obtain ⟨name, rfl⟩ := h.key key (List.ne_nil_of_mem mem)
  rw [exists_wireField_iff]
  exact ⟨⟨name, name.lowerAll_bytes.symm, rfl⟩,
    fun plain ↦ h.value name.bytes plain value mem⟩

/-- Metadata whose keys are header names and whose plain values are header values is sent, and is
received as it was but for the key `connection`. Metadata in general is refused exactly if a key
that is sent is not legal, or is not binary and has a value that is no header value. -/
theorem incoming_outgoing (m : Metadata) :
    (m.IsSendable → ∃ sent, m.outgoing = .ok sent ∧
      (incoming sent).toList = (m.toList.filter fun pair ↦ pair.1 ≠ HeaderName.connection.bytes) ∧
      ∀ key, (incoming sent).values key =
        if key ≠ HeaderName.connection.bytes then m.values key else []) ∧
    ((∃ fault, m.outgoing = .error fault) ↔ ∃ key, m.IsFault key) := by
  constructor
  · intro sendable
    obtain ⟨sent, h⟩ := sendable.exists_outgoing
    have values : ∀ key, (incoming sent).values key =
        if key ≠ HeaderName.connection.bytes then m.values key else [] := by
      intro key
      rw [values_incoming sendable.isFolded h]
      -- A key without values may be no name, and then its letters say nothing.
      by_cases none_ : m.values key = []
      · simp only [none_, ite_self]
      · obtain ⟨name, rfl⟩ := sendable.key key none_
        simp only [ne_eq, ← staysBehind_bytes, Bool.not_eq_true]
    have listed := toList_eq_filter (a := incoming sent) (b := m)
      (p := fun key ↦ key ≠ HeaderName.connection.bytes) fun key ↦ by
        simp only [values, decide_eq_true_eq]
    exact ⟨sent, h, listed, values⟩
  · rw [Traversal.exists_error_iff, exists_outgoing_iff]
    simp only [isFault_iff, Classical.not_forall, exists_prop]

/-- Metadata with keys that come again, empty values, binary values with every remainder of their
length by three, and a key that stays behind. -/
def mixed : Metadata := .ofPairs [
  (Ascii.bytes "trace-bin", [0, 255]), (Ascii.bytes "x-user", Ascii.bytes "a b"),
  (Ascii.bytes "connection", Ascii.bytes "close"), (Ascii.bytes "trace-bin", []),
  (Ascii.bytes "trace-bin", [10]), (Ascii.bytes "x-user", []),
  (Ascii.bytes "trace-bin", [1, 2, 3])]

/-- Such metadata is received as it was sent, and it is refused with a key whose class depends on
the case of its letters. -/
theorem incoming_outgoing_mixed :
    (∃ sent, mixed.outgoing = .ok sent ∧
      (incoming sent).values (Ascii.bytes "trace-bin") = [[0, 255], [], [10], [1, 2, 3]] ∧
      (incoming sent).values (Ascii.bytes "x-user") = [Ascii.bytes "a b", []] ∧
      (incoming sent).values (Ascii.bytes "connection") = []) ∧
    ∃ fault, (mixed.append (Ascii.bytes "X-BIN") []).outgoing = .error fault := by
  have sendable : mixed.IsSendable := isSendable_of_pairs (by decide)
  obtain ⟨sent, h, -, values⟩ := (incoming_outgoing mixed).1 sendable
  refine ⟨⟨sent, h, (values _).trans (by decide), (values _).trans (by decide),
    (values _).trans (by decide)⟩, ?_⟩
  refine (incoming_outgoing _).2.mpr ⟨Ascii.bytes "X-BIN", by decide, by decide, .inl ?_⟩
  rintro ⟨name, bytes, class_⟩
  rw [bytes] at class_
  exact absurd class_ (by decide)

/-- It is not so that any plain value that is no header value keeps metadata from being sent: under
the key `connection`, which stays behind, it does no harm. -/
theorem not_forall_error_iff :
    ¬ ∀ m : Metadata, (∃ fault, m.outgoing = .error fault) ↔
      ∃ key, m.values key ≠ [] ∧ (staysBehind key = false ∧ ¬ IsLegalKey key ∨
        isBinaryKey key = false ∧ ∃ value ∈ m.values key, value.all isFieldByte = false) := by
  intro h
  let m := Metadata.ofPairs [(Ascii.bytes "connection", Ascii.bytes "a\nb")]
  obtain ⟨fault, refused⟩ := (h m).mpr ⟨Ascii.bytes "connection", by decide, .inr ⟨by decide,
    Ascii.bytes "a\nb", by decide, by decide⟩⟩
  have sends : ∃ sent, m.outgoing = .ok sent := by
    rw [exists_outgoing_iff]
    intro key leaves value mem
    have pair := List.mem_singleton.mp (Listing.mem_values_iff.mp mem)
    cases pair
    exact absurd leaves (by decide)
  obtain ⟨sent, sends⟩ := sends
  rw [sends] at refused
  cases refused

end HttpGateway.Metadata
