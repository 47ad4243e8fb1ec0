import HttpGateway.Handlers
import HttpGateway.Proofs.Transport.NoTrace

/-!
# Whose bundle an exchange carries

Once an exchange carries a bundle, the bundle stays one of its protocol: no other one is installed,
and changing what is in a bundle does not make it one of another protocol. So a stage that only uses
the bundle keeps the protocol. With the bundle of its own protocol each of the four handlers finds
what it needs: only a body of a type that nobody can decode keeps it from making a payload, and only
the want of a response from responding. The transports that the gateway brings along only use the
bundle.
-/

namespace HttpGateway

/-- A bundle with its metadata as it arrived changed, if it keeps them. -/
def Bundle.mapWire (f : HeaderMap → HeaderMap) : Bundle → Bundle
  | grpc header wire => grpc header (f wire)
  | http header => http header
  | rpc header => rpc header
  | raw header => raw header

/-- What may be done with the bundle of an exchange, other than putting another one in its place. -/
inductive Bundle.Use
  | install (bundle : Bundle)
  | header (f : CallHeader → CallHeader)
  | wire (f : HeaderMap → HeaderMap)

namespace Exchange

variable {x : Exchange} {kind : BundleKind}

/-- The exchange carries a bundle of a protocol. -/
def Carries (x : Exchange) (kind : BundleKind) : Prop := x.bundle.map Bundle.kind = some kind

/-- The exchange whose bundle has been used; a bundle that is refused is not installed. -/
def used (x : Exchange) : Bundle.Use → Exchange
  | .install bundle =>
    match x.install bundle with
    | .ok y => y
    | .error _ => x
  | .header f => x.mapHeader f
  | .wire f => { x with bundle := x.bundle.map (Bundle.mapWire f) }

/-- There is a bundle in what carries one of a protocol. -/
theorem Carries.exists_bundle (h : x.Carries kind) : ∃ b, x.bundle = some b ∧ b.kind = kind :=
  Option.map_eq_some_iff.mp h

/-- An exchange carries bundles of one protocol at most. -/
theorem Carries.unique {other : BundleKind} (h : x.Carries kind) (h' : x.Carries other) :
    kind = other := Option.some.inj (h.symm.trans h')

/-- Only the bundle counts. -/
theorem Carries.of_bundle {y : Exchange} (h : x.Carries kind) (same : y.bundle = x.bundle) :
    y.Carries kind := by
  unfold Carries
  rw [same]
  exact h

/-- Changing the call header keeps the protocol. -/
theorem Carries.mapHeader (h : x.Carries kind) (f : CallHeader → CallHeader) :
    (x.mapHeader f).Carries kind := by
  obtain ⟨b, there, same⟩ := h.exists_bundle
  unfold Carries Exchange.mapHeader
  rw [there, Option.map_some, Option.map_some, Bundle.kind_mapHeader, same]

/-- An exchange without a bundle takes any. -/
theorem install_of_none (h : x.bundle = none) (bundle : Bundle) :
    x.install bundle = .ok { x with bundle := some bundle } := by
  unfold install
  rw [h]

/-- A bundle of the same protocol changes nothing. -/
theorem install_of_carries {bundle : Bundle} (h : x.Carries bundle.kind) :
    x.install bundle = .ok x := by
  obtain ⟨b, there, same⟩ := h.exists_bundle
  unfold install
  rw [there]
  exact if_pos same

/-- A bundle of another protocol is refused. -/
theorem install_of_carries_ne {bundle : Bundle} (h : x.Carries kind) (ne : kind ≠ bundle.kind) :
    x.install bundle = .error ⟨kind, bundle.kind⟩ := by
  obtain ⟨b, there, rfl⟩ := h.exists_bundle
  unfold install
  rw [there]
  exact if_neg ne

/-- An exchange carries a bundle of some protocol, or none. -/
theorem carries_or_none (x : Exchange) : x.bundle = none ∨ ∃ kind, x.Carries kind := by
  cases there : x.bundle with
  | none => exact .inl rfl
  | some b => exact .inr ⟨b.kind, congrArg (Option.map Bundle.kind) there⟩

/-- A bundle is installed where there is none, and nothing else changes. -/
theorem used_install (x : Exchange) (bundle : Bundle) :
    x.used (.install bundle) = { x with bundle := x.bundle.or (some bundle) } := by
  unfold used
  dsimp only
  obtain none_ | ⟨kind, carries⟩ := x.carries_or_none
  · rw [install_of_none none_, none_]
    rfl
  · obtain ⟨b, there, -⟩ := carries.exists_bundle
    have kept : x = { x with bundle := x.bundle.or (some bundle) } := by
      conv => rhs; rw [there, Option.some_or, ← there]
    by_cases same : kind = bundle.kind
    · subst same
      rw [install_of_carries carries]
      exact kept
    · rw [install_of_carries_ne carries same]
      exact kept

/-- Of all the bundles that are installed the first one stays, unless there was one before. -/
theorem foldl_install (x : Exchange) (bundles : List Bundle) :
    bundles.foldl (fun x bundle ↦ x.used (.install bundle)) x =
      { x with bundle := x.bundle.or bundles.head? } := by
  induction bundles generalizing x with
  | nil =>
    rw [List.foldl_nil, List.head?_nil, Option.or_none]
  | cons bundle bundles ih =>
    rw [List.foldl_cons, ih, used_install, List.head?_cons, Option.or_assoc, Option.some_or]

/-- Using a bundle keeps its protocol. -/
theorem Carries.used (h : x.Carries kind) (use : Bundle.Use) : (x.used use).Carries kind := by
  obtain ⟨b, there, same⟩ := h.exists_bundle
  cases use with
  | install bundle =>
    rw [used_install, there]
    exact congrArg some same
  | header f => exact h.mapHeader f
  | wire f =>
    unfold Carries Exchange.used
    dsimp only
    rw [there, Option.map_some, Option.map_some, ← same]
    cases b <;> rfl

/-- However often it is used, a bundle stays one of its protocol. -/
theorem Carries.foldl_used (h : x.Carries kind) (uses : List Bundle.Use) :
    (uses.foldl Exchange.used x).Carries kind := by
  induction uses generalizing x with
  | nil => exact h
  | cons use uses ih => exact ih (h.used use)

end Exchange

namespace Stage

variable {σ α : Type} {s : Scene σ}

/-- A stage uses the bundle and does not put another one in its place, whether it fails or not. -/
def UsesBundle (stage : Stage σ α) : Prop :=
  ∀ s, ∃ uses : List Bundle.Use,
    (left (stage s)).exchange.bundle = (uses.foldl Exchange.used s.exchange).bundle

/-- A stage keeps the protocol of the bundle, whether it fails or not. -/
def KeepsKind (stage : Stage σ α) : Prop :=
  ∀ s kind, s.exchange.Carries kind → (left (stage s)).exchange.Carries kind

/-- What only uses the bundle keeps its protocol. -/
theorem UsesBundle.keepsKind {stage : Stage σ α} (h : stage.UsesBundle) : stage.KeepsKind := by
  intro s kind carries
  obtain ⟨uses, same⟩ := h s
  exact (carries.foldl_used uses).of_bundle same

/-- A bundle is installed where there is none. -/
theorem install_of_none (h : s.exchange.bundle = none) (bundle : Bundle) :
    install bundle s =
      .ok () { s with exchange := { s.exchange with bundle := some bundle } } := by
  unfold install
  rw [exchange_bind, Exchange.install_of_none h]
  rfl

/-- A bundle of the same protocol changes nothing. -/
theorem install_of_carries {bundle : Bundle} (h : s.exchange.Carries bundle.kind) :
    install bundle s = .ok () s := by
  unfold install
  rw [exchange_bind, Exchange.install_of_carries h]
  rfl

/-- A bundle of another protocol is refused, and changes nothing. -/
theorem install_of_carries_ne {bundle : Bundle} {kind : BundleKind} (h : s.exchange.Carries kind)
    (ne : kind ≠ bundle.kind) :
    install bundle s = .error (.failed (Exchange.ForeignBundle.error ⟨kind, bundle.kind⟩)) s := by
  unfold install
  rw [exchange_bind, Exchange.install_of_carries_ne h ne]
  rfl

/-- Installing keeps the protocol of the bundle that there is. -/
theorem keepsKind_install (bundle : Bundle) : (install bundle : Stage σ Unit).KeepsKind := by
  intro s kind carries
  by_cases same : kind = bundle.kind
  · subst same
    rw [install_of_carries carries]
    exact carries
  · rw [install_of_carries_ne carries same]
    exact carries

end Stage

namespace Handler

variable {σ : Type}

/-- The four handlers with the transports that they bring, by the protocols of their bundles. -/
inductive Serves : Handler σ → BundleKind → Option (Transport σ) → Prop
  | http (transport : Transport σ) : Serves (.http transport) .http (some transport)
  | rpc (own : Option (Transport σ)) : Serves (.rpc own) .rpc own
  | grpc (transport : Transport σ) : Serves (.grpc transport) .grpc (some transport)
  | raw (transport : Transport σ) : Serves (.raw transport) .raw (some transport)

/-- What a handler does with an exchange by the bundle that the exchange carries. -/
structure Isolates (handler : Handler σ) (kind : BundleKind) (own : Option (Transport σ)) :
    Prop where
  prepare : handler.prepare = Stage.install (.empty kind)
  options : ∀ s, ∃ o, handler.options s = .ok o s ∧ o.transport = own
  payload : ∀ s, s.exchange.Carries kind →
    (∃ p f, handler.payload s = .ok p { s with exchange := s.exchange.mapHeader f }) ∨
      kind = .rpc ∧ s.exchange.head.method ≠ .get ∧ ∃ unknown,
        Serialization.ofContentType s.exchange.contentType = .error unknown ∧
          handler.payload s = .error (.failed unknown.error) s
  slot : ∀ s, ∃ slot, handler.slot s = .ok slot s
  recover : handler.recover = Reply.absorb
  respond : ∀ s, s.exchange.Carries kind →
    (∃ y, y.bundle = s.exchange.bundle ∧ handler.respond s = .ok () { s with exchange := y }) ∨
      handler.respond s = .error (.failed Reply.noResponse) s

/-- The call header with serialization and payload noted. -/
def noted (serialization : Serialization) (payload : Option Bytes) (h : CallHeader) : CallHeader :=
  { h with serialization, requestBody := payload }

/-- A handler notes serialization and payload in the bundle that there is. -/
theorem note_of_carries {s : Scene σ} {carried : BundleKind} (h : s.exchange.Carries carried)
    (kind : BundleKind) (serialization : Serialization) (payload : Option Bytes) :
    note kind serialization payload s =
      .ok () { s with exchange := s.exchange.mapHeader (noted serialization payload) } := by
  obtain ⟨b, there, -⟩ := h.exists_bundle
  have header : s.exchange.header? = some b.header := congrArg (Option.map Bundle.header) there
  unfold note
  rw [Stage.exchange_bind, header]
  rfl

/-- The exchange with a response that was written. -/
def written (x : Exchange) (response : Response) : Exchange :=
  { x with response := some response, published := some response.head }

/-- What answers a failure that was taken in, or else writes a response, keeps the bundle. -/
theorem exists_respond_eq_of_write {otherwise : Stage σ Unit} {s : Scene σ}
    (h : ∃ response, otherwise s = Reply.write response s) :
    ∃ y, y.bundle = s.exchange.bundle ∧
      Reply.unlessBusiness otherwise s = .ok () { s with exchange := y } := by
  obtain ⟨response, writes⟩ := h
  unfold Reply.unlessBusiness
  rw [Stage.exchange_bind]
  cases s.exchange.businessError with
  | some e => exact ⟨written s.exchange (Reply.business e), rfl, rfl⟩
  | none => exact ⟨written s.exchange response, rfl, writes⟩

/-- The payload of a remote procedure call is wanting only if its body is of an unknown type. -/
theorem procedurePayload_cases (x : Exchange) :
    (∃ r, procedurePayload x = .ok r) ∨
      x.head.method ≠ .get ∧ ∃ unknown, Serialization.ofContentType x.contentType = .error unknown ∧
        procedurePayload x = .error unknown.error := by
  unfold procedurePayload
  by_cases read : x.head.method = .get
  · rw [if_pos read]
    exact .inl ⟨_, rfl⟩
  · rw [if_neg read]
    cases Serialization.ofContentType x.contentType with
    | ok serialization => exact .inl ⟨_, rfl⟩
    | error unknown => exact .inr ⟨read, unknown, rfl, rfl⟩

/-- The handler of proxied requests. -/
theorem isolates_http (transport : Transport σ) :
    (Handler.http transport).Isolates .http (some transport) where
  prepare := rfl
  options _ := ⟨_, rfl, rfl⟩
  payload s h := by
    refine .inl ⟨proxiedPayload s.exchange, noted .noop (proxiedPayload s.exchange), ?_⟩
    change (note .http .noop (proxiedPayload s.exchange) >>= fun _ ↦ pure _) s = _
    rw [Stage.bind_of_ok (note_of_carries h .http _ _)]
    rfl
  slot _ := ⟨_, rfl⟩
  recover := rfl
  respond s _ := by
    change (∃ y, _ ∧ Reply.unlessBusiness Reply.publish s = _) ∨
      Reply.unlessBusiness Reply.publish s = _
    unfold Reply.unlessBusiness
    rw [Stage.exchange_bind]
    cases s.exchange.businessError with
    | some e => exact .inl ⟨written s.exchange (Reply.business e), rfl, rfl⟩
    | none =>
      dsimp only
      unfold Reply.publish
      rw [Stage.exchange_bind]
      cases s.exchange.response with
      | none => exact .inr rfl
      | some response =>
        exact .inl ⟨{ s.exchange with published := some response.head }, rfl, rfl⟩

/-- The payload of a remote procedure call is noted together with its serialization. -/
theorem rpc_payload_of_ok (own : Option (Transport σ)) {s : Scene σ} {carried : BundleKind}
    {r : Serialization × Bytes} (carries : s.exchange.Carries carried)
    (chosen : procedurePayload s.exchange = .ok r) :
    (Handler.rpc own).payload s = .ok (some r.2)
      { s with exchange := s.exchange.mapHeader (noted r.1 (some r.2)) } := by
  change (Stage.ofExcept (procedurePayload s.exchange) >>= fun r ↦
    note .rpc r.1 (some r.2) >>= fun _ ↦ pure (some r.2)) s = _
  rw [chosen, Stage.ofExcept_ok_bind, Stage.bind_of_ok (note_of_carries carries .rpc _ _)]
  rfl

/-- Where there is no payload the call of a remote procedure fails. -/
theorem rpc_payload_of_error (own : Option (Transport σ)) {s : Scene σ} {e : GatewayError}
    (wanting : procedurePayload s.exchange = .error e) :
    (Handler.rpc own).payload s = .error (.failed e) s := by
  change (Stage.ofExcept (procedurePayload s.exchange) >>= _) s = _
  rw [wanting, Stage.ofExcept_error_bind]

/-- The handler of remote procedures. -/
theorem isolates_rpc (own : Option (Transport σ)) : (Handler.rpc own).Isolates .rpc own where
  prepare := rfl
  options _ := ⟨_, rfl, rfl⟩
  payload s h := by
    obtain ⟨⟨serialization, payload⟩, made⟩ | ⟨written, unknown, type, wanting⟩ :=
      procedurePayload_cases s.exchange
    · exact .inl ⟨some payload, noted serialization (some payload), rpc_payload_of_ok own h made⟩
    · exact .inr ⟨rfl, written, unknown, type, rpc_payload_of_error own wanting⟩
  slot _ := ⟨_, rfl⟩
  recover := rfl
  respond s _ := .inl (exists_respond_eq_of_write ⟨_, rfl⟩)

/-- The handler of gRPC calls. -/
theorem isolates_grpc (transport : Transport σ) :
    (Handler.grpc transport).Isolates .grpc (some transport) where
  prepare := rfl
  options _ := ⟨_, rfl, rfl⟩
  payload s h := by
    obtain ⟨b, there, own⟩ := h.exists_bundle
    cases b with
    | grpc header wire =>
      refine .inl ⟨some s.exchange.body, fun h ↦ { h with
        requestMetadata := withRequest h.requestMetadata s.exchange.head
        serialization := .unsupported
        requestBody := some s.exchange.body }, ?_⟩
      unfold Handler.grpc
      dsimp only
      rw [Stage.exchange_bind, there]
      rfl
    | http | rpc | raw => cases own
  slot _ := ⟨_, rfl⟩
  recover := rfl
  respond s h := by
    obtain ⟨b, there, -⟩ := h.exists_bundle
    have header : s.exchange.header? = some b.header := congrArg (Option.map Bundle.header) there
    refine .inl (exists_respond_eq_of_write ⟨Reply.withBytes (typeValue .json)
      (b.header.responseBody.getD []) (Reply.metadataHeaders b.header.responseMetadata), ?_⟩)
    rw [Stage.exchange_bind, header]

/-- The handler of conversations of raw bytes. -/
theorem isolates_raw (transport : Transport σ) :
    (Handler.raw transport).Isolates .raw (some transport) where
  prepare := rfl
  options _ := ⟨_, rfl, rfl⟩
  payload s h := by
    let payload := if s.exchange.body.isEmpty then none else some s.exchange.body
    refine .inl ⟨payload, noted .noop payload, ?_⟩
    change (note .raw .noop payload >>= fun _ ↦ pure payload) s = _
    rw [Stage.bind_of_ok (note_of_carries h .raw _ _)]
    rfl
  slot _ := ⟨_, rfl⟩
  recover := rfl
  respond s _ := .inl (exists_respond_eq_of_write ⟨_, rfl⟩)

/-- Each of the four handlers works on bundles of its own protocol only. -/
theorem Serves.isolates {kind : BundleKind} {own : Option (Transport σ)} {handler : Handler σ}
    (h : handler.Serves kind own) : handler.Isolates kind own := by
  cases h with
  | http transport => exact isolates_http transport
  | rpc own => exact isolates_rpc own
  | grpc transport => exact isolates_grpc transport
  | raw transport => exact isolates_raw transport

end Handler

section Transports

variable {σ χ : Type} {call : Call} {s : Scene σ} {r : CallResult σ}

/-- A reply to a gRPC call is put into the bundle. -/
theorem Grpc.exists_uses_withReply (x : Exchange) (message : Bytes) (metadata : HeaderMap) :
    ∃ uses : List Bundle.Use,
      x.bundle.map (withReply message metadata) = (uses.foldl Exchange.used x).bundle := by
  cases there : x.bundle with
  | none => exact ⟨[], there.symm⟩
  | some b =>
    cases b with
    | grpc header wire =>
      refine ⟨[.header fun h ↦ { h with
        responseMetadata := .incoming metadata, responseBody := some message },
        .wire fun _ ↦ metadata], ?_⟩
      change _ = (x.bundle.map _).map _
      rw [there]
      rfl
    | http | rpc | raw => exact ⟨[], there.symm⟩

/-- A proxied request leaves the bundle alone. -/
theorem Proxy.Ends.exists_uses {net : Proxy.Network σ} {bufferSize : Nat} {interval : Duration}
    (h : Ends net bufferSize interval call s r) : ∃ uses : List Bundle.Use,
      (Stage.left r).exchange.bundle = (uses.foldl Exchange.used s.exchange).bundle :=
  ⟨[], by cases h <;> rfl⟩

/-- A gRPC call writes its reply into the call header, and keeps the metadata as it arrived. -/
theorem Grpc.Ends.exists_uses {net : Grpc.Network σ χ} (h : Ends net call s r) :
    ∃ uses : List Bundle.Use,
      (Stage.left r).exchange.bundle = (uses.foldl Exchange.used s.exchange).bundle := by
  cases h with
  | unfit | unconnected | lost => exact ⟨[], rfl⟩
  | answered => exact exists_uses_withReply s.exchange _ _

/-- A conversation of raw bytes writes its reply into the call header. -/
theorem RawCall.Ends.exists_uses {net : RawCall.Network σ} (h : Ends net call s r) :
    ∃ uses : List Bundle.Use,
      (Stage.left r).exchange.bundle = (uses.foldl Exchange.used s.exchange).bundle := by
  cases h with
  | lost => exact ⟨[], rfl⟩
  | replied bytes => exact ⟨[.header fun h ↦ { h with responseBody := some bytes }], rfl⟩

/-- The transports that the gateway brings along use the bundle. -/
theorem BuiltIn.usesBundle (b : BuiltIn σ χ) (call : Call) :
    (b.transport.roundTrip call).UsesBundle := by
  intro s
  cases b with
  | proxied net bufferSize interval =>
    exact (Proxy.ends_roundTrip net bufferSize interval call s).exists_uses
  | grpc net => exact (Grpc.ends_roundTrip net call s).exists_uses
  | raw net => exact (RawCall.ends_roundTrip net call s).exists_uses

end Transports

end HttpGateway
