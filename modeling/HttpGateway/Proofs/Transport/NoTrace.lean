import HttpGateway.Proofs.Transport.Ends

/-!
# Failed calls leave no trace

A call that fails leaves the exchange and the slot as it found them, and the world as the network
left it when it was asked: no relay has begun. What a call brings enters the bundle only when the
call succeeds; the message and the metadata of a gRPC call enter together, and are those of one
response.
-/

namespace HttpGateway

variable {σ χ : Type}

namespace Grpc

private theorem orFailed_eq_ok {α : Type} {r : Except Failure α} {a : α}
    (h : orFailed r = .ok a) : r = .ok a := by
  cases r with
  | error failure => cases h
  | ok b =>
    cases h
    rfl

private theorem bind_eq_ok {α β : Type} {r : Except Halt α} {f : α → Except Halt β} {b : β}
    (h : (r >>= f) = .ok b) : ∃ a, r = .ok a ∧ f a = .ok b := by
  cases r with
  | error halt => cases h
  | ok a => exact ⟨a, rfl, h⟩

/-- What a call brings is the first message of the response, and its head with the trailers merged
in. -/
theorem conclude_eq_ok {r : Response} {message : Bytes} {metadata : HeaderMap}
    (h : conclude r = .ok (message, metadata)) :
    ∃ more trailers, r.messages = message :: more ∧ r.trailers = .ok trailers ∧
      metadata = r.headers.extend (trailers.getD .empty) := by
  unfold conclude at h
  obtain ⟨_, -, h⟩ := bind_eq_ok h
  obtain ⟨_, -, h⟩ := bind_eq_ok h
  obtain ⟨_, -, h⟩ := bind_eq_ok h
  obtain ⟨trailers, ended, h⟩ := bind_eq_ok h
  have first : (orFailed (firstMessage r.messages) >>= fun m ↦
      (pure (m, r.headers.extend (trailers.getD .empty)) : Except Halt _)) =
      .ok (message, metadata) := by
    split at h
    · obtain ⟨_, -, h⟩ := bind_eq_ok h
      exact h
    · exact h
  obtain ⟨m, found, h⟩ := bind_eq_ok first
  cases h
  refine ⟨r.messages.tail, trailers, ?_, orFailed_eq_ok ended, rfl⟩
  have head := orFailed_eq_ok found
  cases hm : r.messages with
  | nil =>
    rw [hm] at head
    cases head
  | cons m' more =>
    rw [hm] at head
    cases head
    rfl

end Grpc

/-- The transports that the gateway brings along. -/
inductive BuiltIn (σ χ : Type)
  | proxied (net : Proxy.Network σ) (bufferSize : Nat) (interval : Duration)
  | grpc (net : Grpc.Network σ χ)
  | raw (net : RawCall.Network σ)

namespace BuiltIn

/-- The transport itself. -/
def transport : BuiltIn σ χ → Transport σ
  | proxied net bufferSize interval => Proxy.transport net bufferSize interval
  | grpc net => Grpc.transport net
  | raw net => RawCall.transport net

/-- The worlds that a call may come to by asking the network: relays are no part of it. -/
inductive Asked (call : Call) (world : σ) : BuiltIn σ χ → σ → Prop
  | nothing (b : BuiltIn σ χ) : Asked call world b world
  | sent (net : Proxy.Network σ) (bufferSize : Nat) (interval : Duration) (out : Outbound) :
    Asked call world (proxied net bufferSize interval) (net.send out call.timeout world).2
  | opened (net : Grpc.Network σ χ) :
    Asked call world (grpc net) (net.channel call.target.address world).2
  | invoked (net : Grpc.Network σ χ) (channel : χ) (request : Grpc.Request) :
    Asked call world (grpc net)
      (net.send channel request call.timeout (net.channel call.target.address world).2).2
  | conversed (net : RawCall.Network σ) :
    Asked call world (raw net) (net call.target.address call.payload call.timeout world).2

/-- What a call that succeeds leaves in the bundle and in the slot. -/
def Delivers (call : Call) (s t : Scene σ) : BuiltIn σ χ → Prop
  | proxied .. => t.exchange.bundle = s.exchange.bundle ∧ t.slot = s.slot
  | grpc net => ∃ request channel response message more trailers header wire,
    (net.channel call.target.address s.world).1 = .ok channel ∧
    (net.send channel request call.timeout (net.channel call.target.address s.world).2).1 =
      .answered response ∧
    response.messages = message :: more ∧ response.trailers = .ok trailers ∧
    s.exchange.bundle = some (.grpc header wire) ∧
    t.exchange = { s.exchange with bundle := some (.grpc
      { header with
        responseBody := some message
        responseMetadata := .incoming (response.headers.extend (trailers.getD .empty)) }
      (response.headers.extend (trailers.getD .empty))) } ∧
    t.slot = s.slot
  | raw net => ∃ bytes, (RawCall.converse net call s.world).1 = .replied bytes ∧
    t.exchange = s.exchange.mapHeader (fun h ↦ { h with responseBody := some bytes }) ∧
    t.slot = .bytes (some bytes)

/-- What is left of a scene by a call, whether it fails or not. -/
def Leaves (b : BuiltIn σ χ) (call : Call) (s : Scene σ) : CallResult σ → Prop
  | .error _ t => t.exchange = s.exchange ∧ t.slot = s.slot ∧ Asked call s.world b t.world
  | .ok _ t => b.Delivers call s t

private theorem asked_send {net : Proxy.Network σ} {out : Outbound} {call : Call}
    {world world' : σ} {arrival : Proxy.Arrival}
    (h : Proxy.send net out call.timeout world = (arrival, world')) (bufferSize : Nat)
    (interval : Duration) :
    Asked call world (proxied (χ := χ) net bufferSize interval) world' := by
  unfold Proxy.send at h
  split at h
  · cases h
    exact .nothing _
  · have left : world' = (net.send out call.timeout world).2 := by rw [h]
    rw [left]
    exact .sent net bufferSize interval out

private theorem asked_converse {net : RawCall.Network σ} {call : Call} {world world' : σ}
    {arrival : RawCall.Arrival} (h : RawCall.converse net call world = (arrival, world')) :
    Asked call world (raw (χ := χ) net) world' := by
  unfold RawCall.converse at h
  split at h
  · cases h
    exact .nothing _
  · have left : world' = (net call.target.address call.payload call.timeout world).2 := by rw [h]
    rw [left]
    exact .conversed net

private theorem leaves_proxied {net : Proxy.Network σ} {bufferSize : Nat} {interval : Duration}
    {call : Call} {s : Scene σ} {r : CallResult σ}
    (h : Proxy.Ends net bufferSize interval call s r) :
    (proxied (χ := χ) net bufferSize interval).Leaves call s r := by
  cases h with
  | unfit fault _ => exact ⟨rfl, rfl, .nothing _⟩
  | lost out arrival world e _ asked _ => exact ⟨rfl, rfl, asked_send asked _ _⟩
  | refused out response world refusal _ asked => exact ⟨rfl, rfl, asked_send asked _ _⟩
  | bound out response world token _ asked => exact ⟨rfl, rfl, asked_send asked _ _⟩
  | unreadable out response world e _ asked => exact ⟨rfl, rfl, asked_send asked _ _⟩
  | switched out response world token => exact ⟨rfl, rfl⟩
  | forwarded out response world answer => exact ⟨rfl, rfl⟩

private theorem exists_bundle {head : RequestHead} {bundle : Option Bundle} {call : Call}
    {request : Grpc.Request} (h : Grpc.requestOf head (Grpc.header? bundle) call = .ok request) :
    ∃ header wire, bundle = some (.grpc header wire) := by
  cases hb : Grpc.header? bundle with
  | none =>
    rw [hb] at h
    unfold Grpc.requestOf Grpc.partsOf at h
    cases path : Grpc.pathOf (call.method head) with
    | error e =>
      rw [path] at h
      cases h
    | ok _ =>
      rw [path] at h
      cases h
  | some header =>
    unfold Grpc.header? at hb
    split at hb
    · next header wire => exact ⟨header, wire, rfl⟩
    · cases hb

private theorem leaves_grpc {net : Grpc.Network σ χ} {call : Call} {s : Scene σ}
    {r : CallResult σ} (h : Grpc.Ends net call s r) : (grpc net).Leaves call s r := by
  cases h with
  | unfit halt _ => exact ⟨rfl, rfl, .nothing _⟩
  | unconnected request e world _ found =>
    have left : world = (net.channel call.target.address s.world).2 := by rw [found]
    refine ⟨rfl, rfl, ?_⟩
    change Asked _ _ _ world
    rw [left]
    exact .opened net
  | lost request channel between world arrival halt _ found asked _ =>
    have left : world =
        (net.send channel request call.timeout (net.channel call.target.address s.world).2).2 := by
      rw [found, asked]
    refine ⟨rfl, rfl, ?_⟩
    change Asked _ _ _ world
    rw [left]
    exact .invoked net channel request
  | answered request channel between world response message metadata made found asked came =>
    obtain ⟨more, trailers, messages, ended, rfl⟩ := Grpc.conclude_eq_ok came
    obtain ⟨header, wire, bundle⟩ := exists_bundle made
    refine ⟨request, channel, response, message, more, trailers, header, wire, ?_, ?_, messages,
      ended, bundle, ?_, rfl⟩
    · rw [found]
    · rw [found, asked]
    · dsimp only
      rw [bundle]
      rfl

private theorem leaves_raw {net : RawCall.Network σ} {call : Call} {s : Scene σ}
    {r : CallResult σ} (h : RawCall.Ends net call s r) :
    (raw (χ := χ) net).Leaves call s r := by
  cases h with
  | lost arrival world e asked _ => exact ⟨rfl, rfl, asked_converse asked⟩
  | replied bytes world asked => exact ⟨bytes, by rw [asked], rfl, rfl⟩

/-- A call that fails leaves the exchange and the slot as they were and has only asked the network.
What a call brings is in the bundle and in the slot once it succeeds, and is what it has brought. -/
theorem leaves_roundTrip (b : BuiltIn σ χ) (call : Call) (s : Scene σ) :
    b.Leaves call s (b.transport.roundTrip call s) := by
  cases b with
  | proxied net bufferSize interval =>
    exact leaves_proxied (Proxy.ends_roundTrip net bufferSize interval call s)
  | grpc net => exact leaves_grpc (Grpc.ends_roundTrip net call s)
  | raw net => exact leaves_raw (RawCall.ends_roundTrip net call s)

/-- A backend that switches protocols on its own. -/
def selfWilled : Proxy.Network Nat where
  send _ _ world := (.answered ⟨.switchingProtocols, .http11, .empty, none, []⟩, world + 1)
  relay _ world := world + 1000

/-- A request whose exchange has a bundle, a response and a connection that may be taken over. -/
def furnished : Scene Nat where
  exchange := {
    Exchange.ofRequest ⟨.get, .origin ⟨"/ws", none⟩, .http11, .empty⟩ [1] .upgradable with
    bundle := some (.http { CallHeader.empty with responseBody := some [2] })
    response := some ⟨.ok, .http11, .empty, .empty⟩ }
  slot := .streamed
  world := 0

/-- A switch that nobody has asked for leaves all of it, and no relay begins. -/
theorem leaves_selfWilled : ∃ e t, (proxied (χ := Empty) selfWilled 64 ⟨0⟩).transport.roundTrip
      ⟨⟨"127.0.0.1:9000", none, ⟨1000⟩⟩, none, false, none⟩ furnished = .error (.failed e) t ∧
    t.exchange = furnished.exchange ∧ t.slot = furnished.slot ∧ t.world = 1 := by
  have fails : (proxied (χ := Empty) selfWilled 64 ⟨0⟩).transport.roundTrip
      ⟨⟨"127.0.0.1:9000", none, ⟨1000⟩⟩, none, false, none⟩ furnished =
      .error (.failed ProtocolSwitch.Refusal.notRequested.error)
        { furnished with world := 1 } := rfl
  have left := leaves_roundTrip (proxied (χ := Empty) selfWilled 64 ⟨0⟩)
    ⟨⟨"127.0.0.1:9000", none, ⟨1000⟩⟩, none, false, none⟩ furnished
  rw [fails] at left
  exact ⟨_, _, fails, left.1, left.2.1, rfl⟩

end BuiltIn
end HttpGateway
