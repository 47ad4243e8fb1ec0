import HttpGateway.Handlers
import HttpGateway.Proofs.Metadata.Wire

/-!
# Metadata among the fields of a reply

Names that speak of framing, of the status of a call or of binary values are reserved: metadata must
not become a field of such a name. Keys are looked at as they are written, but a field has its name
in small letters. So a key that writes the reserved part in capital letters is not recognised, and
its legal values become fields of the reserved name; nothing else does. All other keys that spell a
name keep their legal values in order.
-/

namespace HttpGateway

/-- A name that no metadata is to become a field of: it speaks of a binary value, of the status of a
call or of framing. -/
def HeaderName.IsReserved (name : HeaderName) : Prop :=
  Ascii.bytes "-bin" <:+ name.bytes ∨ Ascii.bytes "grpc-" <+: name.bytes ∨
    name = .contentLength ∨ name = .transferEncoding

/-- No field has a reserved name. -/
def HeaderMap.ForgesNothing (m : HeaderMap) : Prop := ∀ name, name.IsReserved → m.values name = []

/-- A key that spells a reserved name and is not kept back has no legal value. -/
def Metadata.DisguisesNothing (m : Metadata) : Prop :=
  ∀ key (name : HeaderName), name.bytes = Ascii.lowerAll key → name.IsReserved →
    Reply.staysInside key = false → ∀ value ∈ m.values key, value.all isFieldByte = false

namespace Reply

/-- A key is kept back if it is written as a reserved name is. -/
theorem staysInside_iff (key : Bytes) : staysInside key = true ↔
    Ascii.bytes "-bin" <:+ key ∨ Ascii.bytes "grpc-" <+: key ∨
      key = HeaderName.contentLength.bytes ∨ key = HeaderName.transferEncoding.bytes := by
  simp only [staysInside, Bool.or_eq_true, List.isSuffixOf_iff_suffix,
    List.isPrefixOf_iff_prefix, beq_iff_eq, or_assoc]

/-- A name is kept back if it is reserved. -/
theorem staysInside_bytes (name : HeaderName) :
    staysInside name.bytes = true ↔ name.IsReserved := by
  rw [staysInside_iff, HeaderName.bytes_inj, HeaderName.bytes_inj]
  rfl

/-- A key that is kept back spells no other than a reserved name. -/
theorem isReserved_of_staysInside {key : Bytes} {name : HeaderName}
    (spelled : name.bytes = Ascii.lowerAll key) (h : staysInside key = true) :
    name.IsReserved := by
  rw [← staysInside_bytes, spelled, staysInside_iff]
  rcases (staysInside_iff key).mp h with back | front | rfl | rfl
  · exact .inl (back.map Ascii.lower)
  · exact .inr (.inl (front.map Ascii.lower))
  · exact .inr (.inr (.inl HeaderName.contentLength.lowerAll_bytes))
  · exact .inr (.inr (.inr HeaderName.transferEncoding.lowerAll_bytes))

/-- A pair becomes a field of a name if its key spells the name and its value is legal. -/
theorem metadataField?_filter (pair : Bytes × Bytes) (name : HeaderName) :
    ((metadataField? pair).filter fun f ↦ f.1 = name).map Prod.snd =
      if name.bytes = Ascii.lowerAll pair.1 then HeaderValue.ofBytes? pair.2 else none := by
  unfold metadataField?
  by_cases spelled : name.bytes = Ascii.lowerAll pair.1
  · rw [if_pos spelled, HeaderName.ofBytes?_eq_some_iff.mpr spelled]
    cases HeaderValue.ofBytes? pair.2 with
    | none => rfl
    | some value => simp [Option.filter]
  · rw [if_neg spelled]
    cases named : HeaderName.ofBytes? pair.1 with
    | none => rfl
    | some other =>
      have different : other ≠ name := fun same ↦
        spelled (HeaderName.ofBytes?_eq_some_iff.mp (same ▸ named))
      cases HeaderValue.ofBytes? pair.2 with
      | none => rfl
      | some value => simp [Option.filter, different]

/-- The fields of pairs have the legal values of the keys that spell their name. -/
theorem values_filterMap (pairs : List (Bytes × Bytes)) (name : HeaderName) :
    HeaderMap.values ⟨pairs.filterMap metadataField?⟩ name =
      ((pairs.filter fun pair ↦ name.bytes = Ascii.lowerAll pair.1).map Prod.snd).filterMap
        HeaderValue.ofBytes? := by
  unfold HeaderMap.values
  rw [List.filter_filterMap, List.map_filterMap, List.filterMap_map, List.filterMap_filter]
  congr 1
  funext pair
  rw [metadataField?_filter]
  simp only [decide_eq_true_eq, Function.comp_apply]

/-- The keys that become fields of a name: they spell it and are not kept back. -/
def spellers (m : Metadata) (name : HeaderName) : List Bytes :=
  m.keys.filter fun key ↦ decide (name.bytes = Ascii.lowerAll key) && !staysInside key

/-- A field has the legal values of the keys that spell its name and are not kept back, key by
key. -/
theorem values_metadataHeaders (m : Metadata) (name : HeaderName) :
    (metadataHeaders m).values name =
      ((spellers m name).flatMap m.values).filterMap HeaderValue.ofBytes? := by
  unfold metadataHeaders
  rw [values_filterMap]
  change (((Listing.byKey m.pairs m.keys).filter _ |>.filter _).map _).filterMap _ = _
  rw [Listing.filter_byKey m.pairs m.keys fun key ↦ !staysInside key,
    Listing.filter_byKey m.pairs _ fun key ↦ decide (name.bytes = Ascii.lowerAll key),
    List.filter_filter, Listing.map_snd_byKey]
  rfl

/-- A value of a field is one of a key that spells the name and is not kept back. -/
theorem mem_values_metadataHeaders_iff {m : Metadata} {name : HeaderName} {value : HeaderValue} :
    value ∈ (metadataHeaders m).values name ↔
      ∃ key, name.bytes = Ascii.lowerAll key ∧ staysInside key = false ∧
        value.bytes ∈ m.values key := by
  rw [values_metadataHeaders, List.mem_filterMap]
  simp only [HeaderValue.ofBytes?_eq_some_iff, List.mem_flatMap, spellers, List.mem_filter,
    Bool.and_eq_true, decide_eq_true_eq, Bool.not_eq_true', Metadata.mem_keys_iff]
  constructor
  · rintro ⟨_, ⟨key, ⟨-, spells, leaves⟩, mem⟩, rfl⟩
    exact ⟨key, spells, leaves, mem⟩
  · rintro ⟨key, spells, leaves, mem⟩
    exact ⟨value.bytes, ⟨key, ⟨List.ne_nil_of_mem mem, spells, leaves⟩, mem⟩, rfl⟩

/-- No field is forged if no key is disguised. -/
theorem forgesNothing_metadataHeaders_iff (m : Metadata) :
    (metadataHeaders m).ForgesNothing ↔ m.DisguisesNothing := by
  constructor
  · intro none_ key name spells reserved leaves value mem
    rw [← Bool.not_eq_true]
    intro legal
    have there : (⟨value, legal⟩ : HeaderValue) ∈ (metadataHeaders m).values name :=
      mem_values_metadataHeaders_iff.mpr ⟨key, spells, leaves, mem⟩
    rw [none_ name reserved] at there
    cases there
  · intro plain name reserved
    rw [List.eq_nil_iff_forall_not_mem]
    intro value mem
    obtain ⟨key, spells, leaves, mem⟩ := mem_values_metadataHeaders_iff.mp mem
    have illegal := plain key name spells reserved leaves value.bytes mem
    rw [value.legal] at illegal
    cases illegal

/-- Keys in small letters are not disguised. -/
theorem disguisesNothing_of_isFolded {m : Metadata} (folded : m.IsFolded) :
    m.DisguisesNothing := by
  intro key name spells reserved leaves value mem
  rw [folded key (List.ne_nil_of_mem mem)] at spells
  rw [← spells, (staysInside_bytes name).mpr reserved] at leaves
  cases leaves

/-- All keys that spell a name become fields of it unless it is reserved. -/
theorem spellers_of_not_isReserved (m : Metadata) {name : HeaderName} (h : ¬ name.IsReserved) :
    spellers m name = m.keys.filter fun key ↦ name.bytes = Ascii.lowerAll key := by
  apply List.filter_congr
  intro key _
  by_cases spells : name.bytes = Ascii.lowerAll key
  · have leaves : staysInside key = false :=
      Bool.eq_false_iff.mpr fun kept ↦ h (isReserved_of_staysInside spells kept)
    simp [spells, leaves]
  · simp [spells]

/-- A field has among its values the legal ones of each key that spells its name, in a row. -/
theorem infix_values_metadataHeaders (m : Metadata) {key : Bytes} {name : HeaderName}
    (spells : name.bytes = Ascii.lowerAll key) (h : ¬ name.IsReserved) :
    (m.values key).filterMap HeaderValue.ofBytes? <:+: (metadataHeaders m).values name := by
  rw [values_metadataHeaders, spellers_of_not_isReserved m h]
  by_cases there : m.values key = []
  · rw [there]
    exact List.nil_infix
  · have listed : key ∈ m.keys.filter fun key ↦ name.bytes = Ascii.lowerAll key :=
      List.mem_filter.mpr ⟨(m.mem_keys_iff key).mpr there, decide_eq_true spells⟩
    obtain ⟨before, after, split⟩ := List.append_of_mem listed
    rw [split, List.flatMap_append, List.flatMap_cons, List.filterMap_append,
      List.filterMap_append, ← List.append_assoc]
    exact ⟨_, _, rfl⟩

end Reply

namespace Handler

variable {σ : Type} {handler : Handler σ}

/-- Unless a failure was taken in, a remote procedure is answered from the slot and the bundle. -/
theorem rpc_respond_eq (own : Option (Transport σ)) {s : Scene σ}
    (clean : s.exchange.businessError = none) :
    (Handler.rpc own).respond s = Reply.write (procedureReply s.exchange.header? s.slot) s := by
  change Reply.unlessBusiness _ s = _
  rw [Reply.unlessBusiness_of_none _ clean]
  rfl

/-- Unless a failure was taken in, a gRPC call is answered from the bundle. -/
theorem grpc_respond_eq (transport : Transport σ) {s : Scene σ} {h : CallHeader}
    (clean : s.exchange.businessError = none) (there : s.exchange.header? = some h) :
    (Handler.grpc transport).respond s = Reply.write (Reply.withBytes (typeValue .json)
      (h.responseBody.getD []) (Reply.metadataHeaders h.responseMetadata)) s := by
  change Reply.unlessBusiness _ s = _
  rw [Reply.unlessBusiness_of_none _ clean, Stage.exchange_bind, there]

/-- The handlers that show the metadata of a reply. -/
inductive ShowsMetadata : Handler σ → Prop
  | rpc (own : Option (Transport σ)) : ShowsMetadata (.rpc own)
  | grpc (transport : Transport σ) : ShowsMetadata (.grpc transport)

/-- Such a handler answers with the fields of the metadata and a content type. -/
theorem ShowsMetadata.exists_respond (shows : handler.ShowsMetadata) {s : Scene σ} {h : CallHeader}
    (clean : s.exchange.businessError = none) (there : s.exchange.header? = some h) :
    ∃ response contentType t, handler.respond s = .ok () t ∧ t.exchange.response = some response ∧
      response.headers =
        (Reply.metadataHeaders h.responseMetadata).insert .contentType contentType := by
  cases shows with
  | rpc own =>
    have writes := rpc_respond_eq own clean
    rw [there] at writes
    exact ⟨_, typeValue h.serialization, _, writes.trans (Reply.write_eq _ s), rfl, rfl⟩
  | grpc transport =>
    have writes := grpc_respond_eq transport clean there
    exact ⟨_, typeValue .json, _, writes.trans (Reply.write_eq _ s), rfl, rfl⟩

end Handler

namespace Reply

/-- The content type is no reserved name. -/
theorem forgesNothing_insert_contentType_iff (m : HeaderMap) (value : HeaderValue) :
    (m.insert .contentType value).ForgesNothing ↔ m.ForgesNothing := by
  have unreserved : ¬ HeaderName.contentType.IsReserved := by
    rw [← staysInside_bytes]
    decide
  have same (name : HeaderName) (reserved : name.IsReserved) :
      (m.insert .contentType value).values name = m.values name := by
    have other : ¬ HeaderName.contentType = name := fun e ↦ unreserved (e ▸ reserved)
    rw [HeaderMap.values_insert, if_neg other]
  exact forall₂_congr fun name reserved ↦ by rw [same name reserved]

/-- Metadata forges a field exactly if a key of it is disguised, which takes a capital letter; so do
the replies that show it. Under any other name stand the legal values of the keys that spell it:
those of each key in order, and key after key. -/
theorem forgesNothing_iff (σ : Type) (m : Metadata) :
    ((metadataHeaders m).ForgesNothing ↔ m.DisguisesNothing) ∧
    (m.IsFolded → m.DisguisesNothing) ∧
    (∀ (handler : Handler σ) (s : Scene σ) (h : CallHeader), handler.ShowsMetadata →
      s.exchange.businessError = none → s.exchange.header? = some h → h.responseMetadata = m →
      ∃ response t, handler.respond s = .ok () t ∧ t.exchange.response = some response ∧
        (response.headers.ForgesNothing ↔ m.DisguisesNothing)) ∧
    ∀ name : HeaderName, ¬ name.IsReserved →
      (∀ key, name.bytes = Ascii.lowerAll key →
        (m.values key).filterMap HeaderValue.ofBytes? <:+: (metadataHeaders m).values name) ∧
      (metadataHeaders m).values name =
        ((m.keys.filter fun key ↦ name.bytes = Ascii.lowerAll key).flatMap m.values).filterMap
          HeaderValue.ofBytes? := by
  refine ⟨forgesNothing_metadataHeaders_iff m, disguisesNothing_of_isFolded, ?_, ?_⟩
  · rintro handler s h shows clean there rfl
    obtain ⟨response, contentType, t, responds, answer, fields⟩ :=
      shows.exists_respond clean there
    refine ⟨response, t, responds, answer, ?_⟩
    rw [fields, forgesNothing_insert_contentType_iff, forgesNothing_metadataHeaders_iff]
  · intro name free
    refine ⟨fun key spells ↦ infix_values_metadataHeaders m spells free, ?_⟩
    rw [values_metadataHeaders, spellers_of_not_isReserved m free]

/-- Metadata that states a length, a transfer coding, a status and a binary value in disguise. -/
def disguised : Metadata := .ofPairs [
  (Ascii.bytes "Content-Length", Ascii.bytes "2"), (Ascii.bytes "x-shard", Ascii.bytes "1"),
  (Ascii.bytes "TRANSFER-ENCODING", Ascii.bytes "chunked"),
  (Ascii.bytes "Grpc-Status", Ascii.bytes "0"), (Ascii.bytes "trace-Bin", Ascii.bytes "x")]

/-- A call whose reply came with such metadata. -/
def disguisedReply : Exchange where
  head := ⟨.get, .origin ⟨"/stock", none⟩, .http11, .empty⟩
  body := []
  connection := .plain
  bundle := some (.rpc { CallHeader.empty with responseMetadata := disguised })
  response := none
  published := none
  businessError := none

/-- Such metadata forges fields, also in the answer to the call. -/
theorem not_forgesNothing_disguised : ¬ (metadataHeaders disguised).ForgesNothing ∧
    ∃ response t, (Handler.rpc none).respond (⟨disguisedReply, .bytes none, ()⟩ : Scene Unit) =
        .ok () t ∧
      t.exchange.response = some response ∧ ¬ response.headers.ForgesNothing := by
  obtain ⟨forges, -, answers, -⟩ := forgesNothing_iff Unit disguised
  have reserved : HeaderName.contentLength.IsReserved := .inr (.inr (.inl rfl))
  have found : ¬ disguised.DisguisesNothing := fun plain ↦ absurd
    (plain (Ascii.bytes "Content-Length") .contentLength (by decide) reserved (by decide)
      (Ascii.bytes "2") (by decide)) (by decide)
  obtain ⟨response, t, responds, answer, same⟩ :=
    answers (.rpc none) ⟨disguisedReply, .bytes none, ()⟩ _ (.rpc none) rfl rfl rfl
  exact ⟨fun none_ ↦ found (forges.mp none_), response, t, responds, answer,
    fun none_ ↦ found (same.mp none_)⟩

end Reply
end HttpGateway
