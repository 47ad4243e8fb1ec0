import HttpGateway.Forwarding.Delivery
import HttpGateway.Proofs.Outbound.Headers

/-!
# The head of the response passed on

Which fields a response that is passed on has, in terms of those that the backend sent, and how its
body goes out. The trailers that the backend declares are declared once more, in one field, whatever
`Connection` says of them; what belongs to the backend's connection is gone; everything else is as
it was sent. How the body goes out is decided by what is left: a length or a content type that
`Connection` takes away is as good as never sent. A content type that is not text is none.
-/

namespace HttpGateway

/-- The tokens that the fields of a name list, in order: the fields that are text are rows of pieces
with commas between them, and a token is a piece that is not blank, in lower case and without the
blanks around it. -/
def HeaderMap.ListsInOrder (m : HeaderMap) (name : HeaderName) (tokens : List Bytes) : Prop :=
  ∃ rows : List (List Bytes),
    (m.values name).filterMap HeaderValue.text? = rows.map (Ascii.join [Ascii.byte ',']) ∧
    (∀ row ∈ rows, row ≠ [] ∧ ∀ piece ∈ row, Ascii.byte ',' ∉ piece) ∧
    tokens = (rows.flatten.map fun piece ↦ Ascii.lowerAll (Ascii.trim piece)).filter (· ≠ [])

/-- A content type is of a media type: that is what stands in front of the parameters, in some
letter case, with blanks around it or without. -/
def HeaderValue.HasType (value : HeaderValue) (type : Bytes) : Prop :=
  ∃ stated rest, value.bytes = stated ++ rest ∧ Ascii.byte ';' ∉ stated ∧
    (rest = [] ∨ ∃ params, rest = Ascii.byte ';' :: params) ∧
    Ascii.lowerAll (Ascii.trim stated) = type

/-- The media type of a content type is all of it up to the first semicolon. -/
theorem HeaderValue.hasType_iff (value : HeaderValue) (type : Bytes) : value.HasType type ↔
    Ascii.lowerAll (Ascii.trim (Ascii.cut (Ascii.byte ';') value.bytes).1) = type := by
  constructor
  · rintro ⟨stated, rest, hs, without, ends, h⟩
    rw [Ascii.cut_fst_eq_iff.mpr ⟨without, rest, hs, ends⟩]
    exact h
  · intro h
    obtain ⟨without, rest, hs, ends⟩ := Ascii.cut_fst_eq_iff.mp
      (rfl : (Ascii.cut (Ascii.byte ';') value.bytes).1 = _)
    exact ⟨_, rest, hs, without, ends, h⟩

namespace HeaderMap

/-- The first content type is text, and of event streams. -/
def AnnouncesEvents (m : HeaderMap) : Prop :=
  ∃ value, m.get? .contentType = some value ∧ value.isText = true ∧
    value.HasType FlushPolicy.eventStream

/-- The first content length is a number, of at most 64 bits. -/
def AnnouncesLength (m : HeaderMap) : Prop :=
  ∃ value n, m.get? .contentLength = some value ∧ Decimal.IsNumeral value.bytes n ∧ n < UInt64.size

/-- The tokens of a name are the ones that its fields list, in the same order. -/
theorem listsInOrder_iff (m : HeaderMap) (name : HeaderName) (tokens : List Bytes) :
    m.ListsInOrder name tokens ↔ tokens = m.tokens name := by
  have listed (pieces : List Bytes) :
      ((pieces.map fun piece ↦ Ascii.lowerAll (Ascii.trim piece)).filter (· ≠ [])) =
        (pieces.map fun piece ↦ Ascii.lowerAll (Ascii.trim piece)).filter
          fun token ↦ !token.isEmpty := by
    refine List.filter_congr fun token _ ↦ ?_
    cases token <;> rfl
  unfold ListsInOrder HeaderMap.tokens
  constructor
  -- There is one row for each text only, since no piece of a row holds the comma.
  · rintro ⟨rows, texts, legal, rfl⟩
    have split : ∀ row ∈ rows,
        Ascii.splitOn (Ascii.byte ',') (Ascii.join [Ascii.byte ','] row) = row :=
      fun row mem ↦ Ascii.splitOn_join (legal row mem).1 (legal row mem).2
    rw [listed, texts, List.flatMap_map, List.flatMap_def, List.map_congr_left split,
      List.map_id']
  · rintro rfl
    refine ⟨((m.values name).filterMap HeaderValue.text?).map (Ascii.splitOn (Ascii.byte ',')),
      ?_, ?_, ?_⟩
    · rw [List.map_map]
      refine (List.map_id _).symm.trans (List.map_congr_left fun text _ ↦ ?_)
      exact (Ascii.join_splitOn _ text).symm
    · intro row mem
      obtain ⟨text, -, rfl⟩ := List.mem_map.mp mem
      exact ⟨Ascii.splitOn_ne_nil _ text, fun piece ↦ Ascii.not_mem_of_mem_splitOn⟩
    · rw [listed, List.flatMap_def]

/-- A token holds nothing that a field may not hold. -/
theorem isFieldByte_of_mem_tokens {m : HeaderMap} {name : HeaderName} {token : Bytes}
    (h : token ∈ m.tokens name) : ∀ b ∈ token, isFieldByte b = true := by
  unfold HeaderMap.tokens at h
  simp only [List.mem_filter, List.mem_map, List.mem_flatMap, List.mem_filterMap,
    Ascii.mem_splitOn_iff] at h
  obtain ⟨⟨piece, ⟨text, ⟨value, -, ht⟩, -, before, after, rfl, -⟩, rfl⟩, -⟩ := h
  intro b hb
  obtain ⟨c, hc, rfl⟩ := List.mem_map.mp hb
  have inside : c ∈ before ++ piece ++ after :=
    List.mem_append_left after (List.mem_append_right before (Ascii.mem_of_mem_trim hc))
  rw [← (HeaderValue.text?_eq_some_iff.mp ht).2] at inside
  exact HeaderValue.isFieldByte_lower (List.all_eq_true.mp value.legal c inside)

/-- A head announces an event stream exactly when its first content type says so. -/
theorem isEventStream_iff (m : HeaderMap) :
    FlushPolicy.isEventStream m = true ↔ m.AnnouncesEvents := by
  have folded : Ascii.lowerAll FlushPolicy.eventStream = FlushPolicy.eventStream := by decide
  unfold FlushPolicy.isEventStream FlushPolicy.mediaType? AnnouncesEvents
  cases m.get? .contentType with
  | none => exact ⟨nofun, nofun⟩
  | some value =>
    simp only [Option.bind_some, Option.some_inj, exists_eq_left']
    cases text : value.text? with
    | none =>
      refine ⟨nofun, fun ⟨plain, _⟩ ↦ ?_⟩
      rw [HeaderValue.text?_eq_some_iff.mpr ⟨plain, rfl⟩] at text
      cases text
    | some bytes =>
      obtain ⟨plain, rfl⟩ := HeaderValue.text?_eq_some_iff.mp text
      rw [and_iff_right plain, HeaderValue.hasType_iff, Option.map_some]
      dsimp only
      rw [Ascii.eqIgnoreCase_iff, folded]

private theorem isText_of_isNumeral {value : HeaderValue} {n : Nat}
    (h : Decimal.IsNumeral value.bytes n) : value.isText = true := by
  have digit : ∀ b, Ascii.isDigit b = true → (b == 9 || (32 ≤ b && b < 127)) = true :=
    Ascii.forall_byte (by decide +kernel)
  have run {s : Bytes} (hs : Decimal.Writes s n) :
      s.all (fun b ↦ b == 9 || (32 ≤ b && b < 127)) = true :=
    List.all_eq_true.mpr fun b mem ↦ digit b (List.all_eq_true.mp hs.all_isDigit b mem)
  unfold HeaderValue.isText
  rcases h with h | ⟨digits, hs, h⟩
  · exact run h
  · rw [hs, List.all_cons, run h]
    rfl

/-- The length of a head is the number that its first content length is. -/
theorem announcedLength?_eq_some_iff (m : HeaderMap) (n : Nat) :
    ForwardedHead.announcedLength? m = some n ↔
      ∃ value, m.get? .contentLength = some value ∧ Decimal.IsNumeral value.bytes n ∧
        n < UInt64.size := by
  have bound : 1 <<< 64 = UInt64.size := by decide
  unfold ForwardedHead.announcedLength?
  simp only [Option.bind_eq_some_iff, Decimal.unsigned?_eq_some_iff, bound]
  constructor
  · rintro ⟨text, ⟨value, hv, ht⟩, numeral⟩
    obtain ⟨-, rfl⟩ := HeaderValue.text?_eq_some_iff.mp ht
    exact ⟨value, hv, numeral⟩
  · rintro ⟨value, hv, numeral⟩
    exact ⟨value.bytes, ⟨value, hv, HeaderValue.text?_eq_some_iff.mpr
      ⟨isText_of_isNumeral numeral.1, rfl⟩⟩, numeral⟩

end HeaderMap

namespace ForwardedHead

/-- What a head that is passed on keeps of the backend's head, and how it lets the body go out. -/
structure Keeps (response : BackendResponse) (interval : Duration) (head : ForwardedHead) :
    Prop where
  status : head.status = response.status
  version : head.version = response.version
  /-- The trailers that the backend declares are declared in one field, whatever `Connection`
  says; where it declares none, none are declared. -/
  trailer : ∃ names, response.headers.ListsInOrder .trailer names ∧
    (head.headers.values .trailer).map HeaderValue.bytes =
      if names = [] then [] else [Ascii.join (Ascii.bytes ", ") names]
  /-- What belongs to the connection or is nominated by it is gone. -/
  gone : ∀ name, name ≠ .trailer →
    (name ∈ HopByHop.names ∨ response.headers.Lists .connection name.bytes) →
    head.headers.values name = []
  /-- Everything else is as it was sent. -/
  kept : ∀ name, name ≠ .trailer →
    ¬ (name ∈ HopByHop.names ∨ response.headers.Lists .connection name.bytes) →
    head.headers.values name = response.headers.values name
  /-- Event streams and bodies of a length that nobody knows go out as they come. -/
  immediate : head.policy = .immediate ↔
    head.headers.AnnouncesEvents ∨ ¬ head.headers.AnnouncesLength ∧ response.exact = none
  /-- Everything else goes by the timer, or in one piece where there is no timer. -/
  otherwise : head.policy ≠ .immediate →
    head.policy = if interval.millis = 0 then .framed else .periodic interval

/-- The trailers are declared in one field where there are any. -/
theorem declaration?_eq (m : HeaderMap) :
    (declaration? m).toList.map HeaderValue.bytes =
      if m.tokens .trailer = [] then [] else [Ascii.join (Ascii.bytes ", ") (m.tokens .trailer)] := by
  unfold declaration?
  split
  · next none_ => rw [none_]; rfl
  · next names some_ =>
    -- The names come from fields that are text, so what they are joined to is a field again.
    have legal : (Ascii.join (Ascii.bytes ", ") (m.tokens .trailer)).all isFieldByte = true := by
      refine List.all_eq_true.mpr fun b hb ↦ ?_
      rcases Ascii.mem_of_mem_join hb with between | ⟨token, mem, hb⟩
      · have plain : (Ascii.bytes ", ").all isFieldByte = true := by decide
        exact List.all_eq_true.mp plain b between
      · exact HeaderMap.isFieldByte_of_mem_tokens mem b hb
    rw [if_neg some_, HeaderValue.ofBytes?, dif_pos legal]
    rfl

/-- The fields of a response that is passed on, name by name. -/
theorem values_passedOn (m : HeaderMap) (name : HeaderName) :
    (passedOn m).values name =
      if name = .trailer then (declaration? m).toList
      else (HopByHop.strip m).values name := by
  unfold passedOn
  cases declaration? m with
  | none =>
    dsimp only
    rw [HeaderMap.values_remove]
    simp only [eq_comm]
    rfl
  | some value =>
    dsimp only
    rw [HeaderMap.values_insert, HeaderMap.values_remove]
    by_cases h : name = .trailer
    · rw [if_pos h.symm, if_pos h]
      rfl
    · rw [if_neg (Ne.symm h), if_neg (Ne.symm h), if_neg h]

/-- A body goes out as it comes exactly if the head announces an event stream, or if nobody knows
its length. -/
theorem choose_eq_immediate_iff (m : HeaderMap) (exact_ : Option Nat) (interval : Duration) :
    FlushPolicy.choose m ((announcedLength? m).or exact_) interval = .immediate ↔
      m.AnnouncesEvents ∨ ¬ m.AnnouncesLength ∧ exact_ = none := by
  have unannounced : announcedLength? m = none ↔ ¬ m.AnnouncesLength := by
    rw [Option.eq_none_iff_forall_ne_some]
    constructor
    · rintro none_ ⟨value, n, announced⟩
      exact none_ n ((m.announcedLength?_eq_some_iff n).mpr ⟨value, announced⟩)
    · intro silent n some_
      obtain ⟨value, announced⟩ := (m.announcedLength?_eq_some_iff n).mp some_
      exact silent ⟨value, n, announced⟩
  have direct : (FlushPolicy.isEventStream m || ((announcedLength? m).or exact_).isNone) = true ↔
      m.AnnouncesEvents ∨ ¬ m.AnnouncesLength ∧ exact_ = none := by
    rw [Bool.or_eq_true, m.isEventStream_iff, Option.isNone_iff_eq_none, Option.or_eq_none_iff,
      unannounced]
  rw [← direct]
  unfold FlushPolicy.choose
  split
  · next h => exact iff_of_true rfl h
  · next h =>
    refine iff_of_false ?_ h
    split <;> nofun

/-- A body that does not go out as it comes goes by the timer, if there is one. -/
theorem choose_of_ne_immediate {m : HeaderMap} {length : Option Nat} {interval : Duration}
    (h : FlushPolicy.choose m length interval ≠ .immediate) :
    FlushPolicy.choose m length interval =
      if interval.millis = 0 then .framed else .periodic interval := by
  unfold FlushPolicy.choose at h ⊢
  split
  · next direct => exact absurd (if_pos direct) h
  · rfl

/-- The head that is passed on for a backend's head keeps of it what it is to keep. -/
theorem keeps_ofBackend (response : BackendResponse) (interval : Duration) :
    (ofBackend response.status response.version response.headers response.exact interval).Keeps
      response interval := by
  have policy : (ofBackend response.status response.version response.headers response.exact
      interval).policy = FlushPolicy.choose (passedOn response.headers)
        ((announcedLength? (passedOn response.headers)).or response.exact) interval := by
    unfold ofBackend
    dsimp only
    cases announcedLength? (passedOn response.headers) <;> rfl
  constructor
  case status => rfl
  case version => rfl
  case trailer =>
    refine ⟨_, (HeaderMap.listsInOrder_iff _ _ _).mpr rfl, ?_⟩
    change ((passedOn response.headers).values .trailer).map HeaderValue.bytes = _
    rw [values_passedOn, if_pos rfl, declaration?_eq]
  case gone =>
    intro name other stays
    change (passedOn response.headers).values name = []
    rw [values_passedOn, if_neg other, HopByHop.values_strip,
      if_pos ((Outbound.staysBehind_iff _ _).mpr stays)]
  case kept =>
    intro name other passes
    change (passedOn response.headers).values name = _
    rw [values_passedOn, if_neg other, HopByHop.values_strip,
      if_neg fun stays ↦ passes ((Outbound.staysBehind_iff _ _).mp stays)]
  case immediate =>
    rw [policy]
    exact choose_eq_immediate_iff _ _ _
  case otherwise =>
    rw [policy]
    exact choose_of_ne_immediate

end ForwardedHead

namespace ForwardedResponse

/-- A response that is forwarded has the head that is passed on for the backend's, and its body goes
out as that head lets it. -/
theorem ofBackend_eq_ok {pool : BufferPool} {interval : Duration} {response : BackendResponse}
    {limit : Option Nat} {forwarded : ForwardedResponse}
    (h : (ofBackend pool interval response limit).1 = .ok forwarded) :
    forwarded.head = ForwardedHead.ofBackend response.status response.version response.headers
        response.exact interval ∧
      (Delivery.under pool response.pieces limit forwarded.head.policy).1 =
        .ok forwarded.delivered := by
  unfold ofBackend at h
  dsimp only at h
  cases hr : (Delivery.under pool response.pieces limit (ForwardedHead.ofBackend response.status
      response.version response.headers response.exact interval).policy).1 with
  | error e =>
    rw [hr] at h
    cases h
  | ok delivered =>
    rw [hr] at h
    cases h
    exact ⟨rfl, hr⟩

/-- A response that is forwarded keeps of the backend's head what it is to keep and nothing else, and
its body goes out by the policy that what is kept calls for. -/
theorem keeps_of_ofBackend {pool : BufferPool} {interval : Duration} {response : BackendResponse}
    {limit : Option Nat} {forwarded : ForwardedResponse}
    (h : (ofBackend pool interval response limit).1 = .ok forwarded) :
    forwarded.head.Keeps response interval ∧
      (Delivery.under pool response.pieces limit forwarded.head.policy).1 =
        .ok forwarded.delivered := by
  obtain ⟨head, delivered⟩ := ofBackend_eq_ok h
  exact ⟨head ▸ ForwardedHead.keeps_ofBackend response interval, delivered⟩

/-- A response whose `Connection` takes the content type and the declared trailers away. -/
def nominating : BackendResponse where
  status := .ok
  version := .http11
  headers := ⟨[
    (.connection, ⟨Ascii.bytes "close, Content-Type,trailer", by decide⟩),
    (.contentType, ⟨Ascii.bytes "text/event-stream", by decide⟩),
    (.trailer, ⟨Ascii.bytes "X-Sum, ,", by decide⟩),
    (.trailer, ⟨Ascii.bytes "x-end", by decide⟩),
    (.contentLength, ⟨Ascii.bytes "2", by decide⟩)]⟩
  exact := none
  pieces := [(none, .data [104, 105])]

/-- Without its content type the response goes out in one piece; the trailers are declared all the
same. -/
theorem keeps_nominating : ∃ forwarded,
    (ofBackend (.ofSize 8) ⟨0⟩ nominating none).1 = .ok forwarded ∧
      forwarded.head.Keeps nominating ⟨0⟩ ∧ forwarded.head.policy = .framed ∧
      (forwarded.head.headers.values .trailer).map HeaderValue.bytes =
        [Ascii.bytes "x-sum, x-end"] := by
  have sent : (ofBackend (.ofSize 8) ⟨0⟩ nominating none).1 = .ok _ := rfl
  exact ⟨_, sent, (keeps_of_ofBackend sent).1, rfl, rfl⟩

/-- A response whose content type is of event streams, with a parameter that is not text. -/
def accented : BackendResponse where
  status := .ok
  version := .http11
  headers := ⟨[
    (.contentType, ⟨Ascii.bytes "text/event-stream; note=" ++ [233], by decide⟩),
    (.contentLength, ⟨Ascii.bytes "4", by decide⟩)]⟩
  exact := none
  pieces := [(some ⟨5⟩, .data (Ascii.bytes "ab")), (some ⟨5⟩, .data (Ascii.bytes "cd"))]

/-- A content type that is not text does not make a response an event stream, whatever media type
stands in front of its parameters. -/
theorem not_immediate_accented : ¬ ∀ (pool : BufferPool) (interval : Duration)
    (response : BackendResponse) (limit : Option Nat) (forwarded : ForwardedResponse),
    (ofBackend pool interval response limit).1 = .ok forwarded →
    (forwarded.head.policy = .immediate ↔
      (∃ value, forwarded.head.headers.get? .contentType = some value ∧
        value.HasType FlushPolicy.eventStream) ∨
      ¬ forwarded.head.headers.AnnouncesLength ∧ response.exact = none) := by
  intro every
  have sent : (ofBackend (.ofSize 8) ⟨0⟩ accented none).1 = .ok _ := rfl
  have typed : HeaderValue.HasType ⟨Ascii.bytes "text/event-stream; note=" ++ [233], by decide⟩
      FlushPolicy.eventStream :=
    ⟨Ascii.bytes "text/event-stream", Ascii.bytes "; note=" ++ [233], by decide, by decide,
      .inr ⟨Ascii.bytes " note=" ++ [233], by decide⟩, by decide⟩
  have announced := (every _ _ _ _ _ sent).mpr (.inl ⟨_, rfl, typed⟩)
  nomatch announced

end ForwardedResponse
end HttpGateway
