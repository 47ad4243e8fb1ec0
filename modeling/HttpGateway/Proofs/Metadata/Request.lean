import HttpGateway.Handlers
import HttpGateway.Proofs.Metadata.HeaderText
import HttpGateway.Proofs.Metadata.Wire
import HttpGateway.Proofs.Uri.Legal

/-!
# The request of a gRPC call keeps its meaning

Header fields and query of the inbound request travel as two pairs of the metadata. Both are always
fit to be sent: the text of a header map is written in few plain signs, and what a query may hold is
visible. So metadata that could be sent can be sent with them, and nothing else of it changes.
-/

namespace HttpGateway

namespace Metadata

/-- Leaving out keys is leaving out the fields that they are sent as. -/
theorem mapM_filter_outgoing {m : Metadata} {sent : HeaderMap} (folded : m.IsFolded)
    (h : m.outgoing = .ok sent) (p : Bytes → Bool) :
    (m.toList.filter fun pair ↦ p pair.1 && !staysBehind pair.1).mapM wireField =
      .ok (sent.fields.filter fun field ↦ p field.1.bytes) := by
  have fewer := Traversal.mapM_filter (p := fun pair ↦ p pair.1)
    (q := fun field ↦ p field.1.bytes) (outgoing_eq_ok_iff.mp h) fun pair mem field made ↦ by
      have listed := mem_toList_iff.mp (List.mem_filter.mp mem).1
      have name := (wireName?_eq_some_iff.mp (wireField_eq_ok_iff.mp made).1).1
      rw [name, folded pair.1 (List.ne_nil_of_mem listed)]
  rwa [List.filter_filter] at fewer

/-- Metadata with the same values of some keys is sent as the same fields of these keys. -/
theorem filter_fields_congr {a b : Metadata} {x y : HeaderMap} {p : Bytes → Bool}
    (foldedA : a.IsFolded) (foldedB : b.IsFolded) (sentA : a.outgoing = .ok x)
    (sentB : b.outgoing = .ok y) (same : ∀ key, p key = true → a.values key = b.values key) :
    (x.fields.filter fun field ↦ p field.1.bytes) =
      y.fields.filter fun field ↦ p field.1.bytes := by
  have pairs := filter_toList_congr (p := fun key ↦ p key && !staysBehind key)
    fun key kept ↦ same key (Bool.and_eq_true_iff.mp kept).1
  have fieldsA := mapM_filter_outgoing foldedA sentA p
  have fieldsB := mapM_filter_outgoing foldedB sentB p
  rw [pairs, fieldsB] at fieldsA
  exact (Except.ok.inj fieldsA).symm

/-- What is sent under a name that is not binary is what the values of that key are. -/
theorem bytes_values_of_plain {m : Metadata} {sent : HeaderMap} (folded : m.IsFolded)
    (h : m.outgoing = .ok sent) {name : HeaderName} (leaves : staysBehind name.bytes = false)
    (plain : isBinaryKey name.bytes = false) :
    (sent.values name).map HeaderValue.bytes = m.values name.bytes := by
  have made := mapM_filter_outgoing folded h fun key ↦ key = name.bytes
  have pairs : (m.toList.filter fun pair ↦ decide (pair.1 = name.bytes) && !staysBehind pair.1) =
      (m.values name.bytes).map fun value ↦ (name.bytes, value) := by
    rw [← values_toList, ← Listing.filter_eq_map_values]
    apply List.filter_congr
    intro pair _
    by_cases key : pair.1 = name.bytes
    · simp [key, leaves]
    · simp [key]
  have fields : (sent.fields.filter fun field ↦ decide (field.1.bytes = name.bytes)) =
      sent.fields.filter fun field ↦ field.1 = name := by
    apply List.filter_congr
    intro field _
    exact decide_eq_decide.mpr HeaderName.bytes_inj
  rw [pairs, fields] at made
  have written := Traversal.map_of_mapM (g := fun field ↦ field.2.bytes) (k := Prod.snd) made (by
    intro pair mem field one
    obtain ⟨value, -, rfl⟩ := List.mem_map.mp mem
    have bytes := (wireField_eq_ok_iff.mp one).2
    rw [if_neg (Bool.not_eq_true _ ▸ plain)] at bytes
    exact bytes)
  rw [List.map_map] at written
  unfold HeaderMap.values
  rw [List.map_map]
  exact written.trans (List.map_id _)

end Metadata

namespace PathQuery

/-- What stands in a query is written in bytes that a header value may hold. -/
theorem isFieldByte_of_isQueryChar {c : Char} {b : UInt8} (hc : isQueryChar c = true)
    (h : b ∈ String.utf8EncodeChar c) : isFieldByte b = true := by
  have bytes := Utf8.toNat_of_mem_encodeChar h
  simp only [isQueryChar, Bool.and_eq_true, decide_eq_true_eq, bne_iff_ne] at hc
  have low : 32 ≤ b.toNat := by omega
  have delete : b ≠ 127 := by
    rintro rfl
    have number : (127 : UInt8).toNat = 127 := rfl
    omega
  simp only [isFieldByte, Bool.or_eq_true, Bool.and_eq_true, decide_eq_true_eq, bne_iff_ne]
  exact .inr ⟨UInt8.le_iff_toNat_le.mpr low, delete⟩

end PathQuery

namespace Uri

/-- The query of a legal target holds the characters that a query may hold. -/
theorem IsLegal.isQueryChar {uri : Uri} (h : uri.IsLegal) {c : Char}
    (mem : c ∈ (uri.query?.getD "").toList) : PathQuery.isQueryChar c = true := by
  have ofTarget : ∀ t : PathQuery, t.IsLegal → c ∈ (t.query.getD "").toList →
      PathQuery.isQueryChar c = true := by
    intro t legal mem
    cases hq : t.query with
    | none => rw [hq] at mem; cases mem
    | some q => exact legal.query q hq c (by rwa [hq] at mem)
  cases uri with
  | origin t => exact ofTarget t h.1 mem
  | asterisk => cases mem
  | authority name => cases mem
  | absolute scheme name t => exact ofTarget t h.1 mem

/-- The query of a legal target is a header value. -/
theorem IsLegal.all_query {uri : Uri} (h : uri.IsLegal) :
    (Utf8.encode (uri.query?.getD "")).all isFieldByte = true := by
  rw [List.all_eq_true]
  intro b mem
  obtain ⟨c, hc, inside⟩ := List.mem_flatMap.mp mem
  exact PathQuery.isFieldByte_of_isQueryChar (h.isQueryChar hc) inside

end Uri

namespace Handler

open Metadata

/-- The header names under which header fields and query travel. -/
def headersName : HeaderName := ⟨headersKey, by decide⟩
@[inherit_doc headersName] def queryName : HeaderName := ⟨queryKey, by decide⟩

/-- Neither the key of the header fields nor that of the query. -/
def isOther (key : Bytes) : Bool := key ≠ headersKey && key ≠ queryKey

/-- What is sent carries a request: its header fields and its query, each as one value, and beside
them what the metadata would be sent as that was prepared for the call. -/
structure Carries (prepared : Metadata) (head : RequestHead) (sent : HeaderMap) : Prop where
  headers : ∃ value read, sent.values headersName = [value] ∧
    HeaderText.decode value.bytes = .ok read ∧ read.Equiv head.headers
  query : ∃ value, sent.values queryName = [value] ∧
    value.bytes = Utf8.encode (head.uri.query?.getD "")
  others : ∀ before, prepared.outgoing = .ok before →
    (sent.fields.filter fun field ↦ isOther field.1.bytes) =
      before.fields.filter fun field ↦ isOther field.1.bytes
  received : ((incoming sent).toList.filter fun pair ↦ isOther pair.1) =
    prepared.toList.filter fun pair ↦ isOther pair.1 && !staysBehind pair.1

/-- The values of metadata with a request. -/
theorem values_withRequest (m : Metadata) (head : RequestHead) (key : Bytes) :
    (withRequest m head).values key =
      if queryKey = key then [Utf8.encode (head.uri.query?.getD "")]
      else if headersKey = key then [HeaderText.encode head.headers] else m.values key := by
  unfold withRequest
  rw [values_insert, values_insert]

/-- The header fields are the one value of their key. -/
theorem values_headersKey (m : Metadata) (head : RequestHead) :
    (withRequest m head).values headersKey = [HeaderText.encode head.headers] := by
  rw [values_withRequest, if_neg (by decide), if_pos rfl]

/-- The query is the one value of its key. -/
theorem values_queryKey (m : Metadata) (head : RequestHead) :
    (withRequest m head).values queryKey = [Utf8.encode (head.uri.query?.getD "")] := by
  rw [values_withRequest, if_pos rfl]

/-- The other keys keep their values. -/
theorem values_withRequest_of_isOther (m : Metadata) (head : RequestHead) {key : Bytes}
    (other : isOther key = true) : (withRequest m head).values key = m.values key := by
  simp only [isOther, Bool.and_eq_true, decide_eq_true_eq] at other
  rw [values_withRequest, if_neg (Ne.symm other.2), if_neg (Ne.symm other.1)]

/-- The keys of a request are in small letters. -/
theorem isFolded_withRequest {m : Metadata} (folded : m.IsFolded) (head : RequestHead) :
    (withRequest m head).IsFolded := by
  intro key some_
  by_cases query : queryKey = key
  · subst query; decide
  · by_cases headers : headersKey = key
    · subst headers; decide
    · apply folded
      rwa [values_withRequest, if_neg query, if_neg headers] at some_

/-- The text of a header map is a header value. -/
theorem all_headerText (headers : HeaderMap) :
    (HeaderText.encode headers).all isFieldByte = true := by
  have plain : HeaderText.alphabet.all isFieldByte = true := by decide
  rw [List.all_eq_true] at plain ⊢
  exact fun b mem ↦ plain b (HeaderText.mem_alphabet_of_mem_encode mem)

/-- Metadata that can be sent can be sent with a request. -/
theorem exists_outgoing_withRequest {m : Metadata} {head : RequestHead} (legal : head.uri.IsLegal)
    (sendable : ∃ before, m.outgoing = .ok before) :
    ∃ sent, (withRequest m head).outgoing = .ok sent := by
  have own : ∀ name : HeaderName, isBinaryKey name.bytes = false → ∀ value : Bytes,
      value.all isFieldByte = true → ∃ field, wireField (name.bytes, value) = .ok field :=
    fun name plain value isValue ↦ (exists_wireField_iff _).mpr
      ⟨⟨name, name.lowerAll_bytes.symm, rfl⟩, fun _ ↦ isValue⟩
  rw [exists_outgoing_iff] at sendable ⊢
  intro key leaves value mem
  by_cases query : queryKey = key
  · subst query
    rw [values_queryKey, List.mem_singleton] at mem
    exact own queryName (by decide) value (mem ▸ legal.all_query)
  · by_cases headers : headersKey = key
    · subst headers
      rw [values_headersKey, List.mem_singleton] at mem
      exact own headersName (by decide) value (mem ▸ all_headerText head.headers)
    · rw [values_withRequest, if_neg query, if_neg headers] at mem
      exact sendable key leaves value mem

/-- What is sent of metadata with a request carries the request. -/
theorem carries_of_outgoing {m : Metadata} {head : RequestHead} {sent : HeaderMap}
    (folded : m.IsFolded) (h : (withRequest m head).outgoing = .ok sent) :
    Carries m head sent := by
  have whole := isFolded_withRequest folded head
  have headers : (sent.values headersName).map HeaderValue.bytes =
      [HeaderText.encode head.headers] :=
    (bytes_values_of_plain whole h (by decide) (by decide)).trans (values_headersKey m head)
  have query : (sent.values queryName).map HeaderValue.bytes =
      [Utf8.encode (head.uri.query?.getD "")] :=
    (bytes_values_of_plain whole h (by decide) (by decide)).trans (values_queryKey m head)
  obtain ⟨text, one, bytes⟩ := List.map_eq_singleton_iff.mp headers
  refine ⟨⟨text, ⟨head.headers.grouped⟩, one, ?_, head.headers.values_grouped⟩,
    List.map_eq_singleton_iff.mp query, ?_, ?_⟩
  · rw [bytes]
    exact HeaderText.decode_encode head.headers
  · intro before sendable
    exact filter_fields_congr whole folded h sendable
      fun key ↦ values_withRequest_of_isOther m head
  · have pairs := toList_eq_filter (a := incoming sent) (b := withRequest m head)
      (p := fun key ↦ !staysBehind key) fun key ↦ by
        rw [values_incoming whole h]
        simp only [Bool.not_eq_true']
    rw [pairs, List.filter_filter]
    exact filter_toList_congr (p := fun key ↦ isOther key && !staysBehind key)
      fun key kept ↦ values_withRequest_of_isOther m head (Bool.and_eq_true_iff.mp kept).1

variable {σ : Type}

/-- What a gRPC call is made of is found in its bundle, or is empty if there is none. -/
def preparedHeader (x : Exchange) : CallHeader := x.header?.getD .empty

/-- The payload of a gRPC call is the body, and the bundle has it too, with the metadata of the
request among what was prepared. -/
theorem payload_grpc (transport : Transport σ) {s : Scene σ}
    (own : ∀ bundle, s.exchange.bundle = some bundle → bundle.kind = .grpc) :
    ∃ wire, (do (grpc transport).prepare; (grpc transport).payload : Stage σ (Option Bytes)) s =
      .ok (some s.exchange.body) { s with exchange := { s.exchange with
        bundle := some (.grpc { preparedHeader s.exchange with
          requestMetadata := withRequest (preparedHeader s.exchange).requestMetadata s.exchange.head
          serialization := .unsupported
          requestBody := some s.exchange.body } wire) } } := by
  obtain ⟨x, slot, world⟩ := s
  obtain ⟨head, body, connection, bundle, response, published, businessError⟩ := x
  cases bundle with
  | none => exact ⟨.empty, rfl⟩
  | some bundle =>
    have kind := own bundle rfl
    cases bundle with
    | grpc header wire => exact ⟨wire, rfl⟩
    | http header => cases kind
    | rpc header => cases kind
    | raw header => cases kind

/-- The meaning of the request survives: behind the preparation of a gRPC call whose metadata could
be sent and the making of its payload, the metadata can be sent still and carries the request, and
the body is both the payload and the message in the bundle. -/
theorem carries_payload_grpc (transport : Transport σ) {s : Scene σ}
    (own : ∀ bundle, s.exchange.bundle = some bundle → bundle.kind = .grpc)
    (legal : s.exchange.head.uri.IsLegal)
    (folded : (preparedHeader s.exchange).requestMetadata.IsFolded)
    (sendable : ∃ before, (preparedHeader s.exchange).requestMetadata.outgoing = .ok before) :
    ∃ header wire sent,
      (do (grpc transport).prepare; (grpc transport).payload : Stage σ (Option Bytes)) s =
        .ok (some s.exchange.body)
          { s with exchange := { s.exchange with bundle := some (.grpc header wire) } } ∧
      header.requestBody = some s.exchange.body ∧
      header.requestMetadata.outgoing = .ok sent ∧
      Carries (preparedHeader s.exchange).requestMetadata s.exchange.head sent := by
  obtain ⟨wire, made⟩ := payload_grpc transport own
  obtain ⟨sent, h⟩ := exists_outgoing_withRequest legal sendable
  exact ⟨_, wire, sent, made, rfl, h, carries_of_outgoing folded h⟩

/-- A request with a field that comes again and a query that is not all ASCII, whose call has been
given metadata under the very keys of the request, under a binary key and under `connection`. -/
def prepared : Exchange where
  head := ⟨.get, .origin ⟨"/shop.Orders/Get", some "città=1&x"⟩, .http11, ⟨[
    (.te, ⟨Ascii.bytes "a b", Eq.refl true⟩), (.host, ⟨Ascii.bytes "h", Eq.refl true⟩),
    (.te, ⟨[255, 38], Eq.refl true⟩)]⟩⟩
  body := [0, 1]
  connection := .plain
  bundle := some (.grpc { CallHeader.empty with
    requestMetadata := .ofPairs [
      (headersKey, Ascii.bytes "stale"), (headersKey, Ascii.bytes "again"),
      (Ascii.bytes "connection", Ascii.bytes "close"), (Ascii.bytes "trace-bin", [0, 255]),
      (queryKey, Ascii.bytes "stale"), (Ascii.bytes "trace-bin", [])] } .empty)
  response := none
  published := none
  businessError := none

/-- A transport that does nothing. -/
def idle : Transport Unit := ⟨fun _ ↦ pure ()⟩

/-- Such a request survives: its fields are read again, both values of the one that comes again, its
query is there in bytes, and nothing of the metadata under these keys is left. -/
theorem carries_payload_grpc_prepared :
    ∃ header wire sent value read query,
      (do (grpc idle).prepare; (grpc idle).payload : Stage Unit (Option Bytes))
          ⟨prepared, .inBundle, ()⟩ =
        .ok (some [0, 1]) ⟨{ prepared with bundle := some (.grpc header wire) }, .inBundle, ()⟩ ∧
      header.requestMetadata.outgoing = .ok sent ∧
      sent.values headersName = [value] ∧ HeaderText.decode value.bytes = .ok read ∧
      (read.values .te).map HeaderValue.bytes = [Ascii.bytes "a b", [255, 38]] ∧
      sent.values queryName = [query] ∧
      query.bytes = Ascii.bytes "citt" ++ [195, 160] ++ Ascii.bytes "=1&x" := by
  have sendable : (preparedHeader prepared).requestMetadata.IsSendable :=
    isSendable_of_pairs (by decide)
  have legal : prepared.head.uri.IsLegal := by
    refine ⟨⟨List.all_eq_true.mp (by decide), ?_⟩, "shop.Orders/Get".toList, by decide⟩
    intro q hq
    cases hq
    exact List.all_eq_true.mp (by decide)
  obtain ⟨header, wire, sent, made, -, h, carries⟩ := carries_payload_grpc idle
    (s := ⟨prepared, .inBundle, ()⟩) (by decide) legal sendable.isFolded sendable.exists_outgoing
  obtain ⟨value, read, one, decoded, same⟩ := carries.headers
  obtain ⟨query, only, bytes⟩ := carries.query
  have fields : (read.values .te).map HeaderValue.bytes = [Ascii.bytes "a b", [255, 38]] := by
    rw [same]
    decide
  exact ⟨header, wire, sent, value, read, query, made, h, one, decoded, fields, only,
    bytes.trans (by decide)⟩

end Handler
end HttpGateway
