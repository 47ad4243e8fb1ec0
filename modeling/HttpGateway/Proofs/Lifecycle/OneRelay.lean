import HttpGateway.Proofs.Startup.Registration
import HttpGateway.Proofs.Transport.Relays

/-!
# One relay at most

A lifecycle begins at most one relay: it takes a relay to take the connection over, and no part of a
gateway gives a connection back. This holds of every gateway whose parts do not begin relays of
their own, and the one that a configuration starts is such a gateway.
-/

namespace HttpGateway

variable {σ χ : Type}

namespace Proxy
namespace Tally

variable {net : Network σ} {tally : Tally net}

/-- The stages of a handler spare, and so does each transport that it brings. -/
structure SparesHandler (tally : Tally net) (handler : Handler σ) : Prop where
  prepare : tally.Spares handler.prepare
  options : tally.Spares handler.options
  own : ∀ s o t, handler.options s = .ok o t → ∀ transport, o.transport = some transport →
    ∀ call, tally.Spares (transport.roundTrip call)
  payload : tally.Spares handler.payload
  slot : tally.Spares handler.slot
  recover : ∀ e, tally.Spares (handler.recover e)
  respond : tally.Spares handler.respond

/-- Such a handler never gets beyond the relays that there may be. -/
theorem SparesHandler.preserves {handler : Handler σ} (h : tally.SparesHandler handler) (n : Nat) :
    handler.Preserves fun s ↦ tally.chances s ≤ n where
  prepare := spares_iff.mp h.prepare n
  options := spares_iff.mp h.options n
  own s o t given transport brought call :=
    spares_iff.mp (h.own s o t given transport brought call) n
  payload := spares_iff.mp h.payload n
  slot := spares_iff.mp h.slot n
  recover e := spares_iff.mp (h.recover e) n
  respond := spares_iff.mp h.respond n

/-- All parts of a gateway spare. -/
structure SparesGateway (tally : Tally net) (g : Gateway σ) : Prop where
  before : ∀ hook ∈ g.hooks, tally.Spares hook.before
  after : ∀ hook ∈ g.hooks, ∀ x world, tally.begun (hook.after x world) ≤ tally.begun world
  handlers : ∀ name handler, g.registry.find? name = some handler → tally.SparesHandler handler
  transports : ∀ name transport, g.transports.find? name = some transport →
    ∀ call, tally.Spares (transport.roundTrip call)
  count : ∀ c world, tally.begun (g.count c world) ≤ tally.begun world

/-- The installation of a bundle leaves the connection alone. -/
theorem spares_install (bundle : Bundle) : tally.Spares (Stage.install bundle) := by
  intro s
  unfold Stage.install
  rw [Stage.exchange_bind]
  cases installed : s.exchange.install bundle with
  | error foreign => exact Nat.le_refl _
  | ok x =>
    have same : x.connection = s.exchange.connection := by
      unfold Exchange.install at installed
      cases there : s.exchange.bundle with
      | none =>
        rw [there] at installed
        cases installed
        rfl
      | some existing =>
        rw [there] at installed
        dsimp only at installed
        split at installed
        · cases installed
          rfl
        · cases installed
    change tally.begun s.world + (if x.connection = .upgradable then 1 else 0) ≤ _
    rw [same]
    exact Nat.le_refl _

private theorem spares_note (kind : BundleKind) (serialization : Serialization)
    (payload : Option Bytes) : tally.Spares (Handler.note kind serialization payload) := by
  unfold Handler.note
  refine spares_exchange_bind fun x ↦ ?_
  cases x.header? with
  | none => exact spares_fail _
  | some _ => exact spares_change fun _ ↦ rfl

private theorem spares_absorb (e : GatewayError) : tally.Spares (Reply.absorb e) := by
  unfold Reply.absorb
  split
  · exact spares_change fun _ ↦ rfl
  · exact spares_fail e

private theorem spares_publish : tally.Spares Reply.publish := by
  unfold Reply.publish
  refine spares_exchange_bind fun x ↦ ?_
  cases x.response with
  | none => exact spares_fail _
  | some response => exact spares_change fun _ ↦ rfl

private theorem spares_write (response : Response) : tally.Spares (Reply.write response) := by
  unfold Reply.write
  refine Spares.bind (spares_change ?_) fun _ _ _ _ ↦ spares_publish
  exact fun _ ↦ rfl

private theorem spares_unlessBusiness {otherwise : Stage σ Unit} (h : tally.Spares otherwise) :
    tally.Spares (Reply.unlessBusiness otherwise) := by
  unfold Reply.unlessBusiness
  refine spares_exchange_bind fun x ↦ ?_
  cases x.businessError with
  | none => exact h
  | some e => exact spares_write _

private theorem own_of_pure {timeout : Option Duration} {brought : Option (Transport σ)}
    {capture : Bool} (h : ∀ transport, brought = some transport →
      ∀ call, tally.Spares (transport.roundTrip call)) (s : Scene σ) (o : CallOptions σ)
    (t : Scene σ) (given : (pure ⟨timeout, brought, capture⟩ : Stage σ _) s = .ok o t) :
    ∀ transport, o.transport = some transport →
      ∀ call, tally.Spares (transport.roundTrip call) := by
  cases given
  exact h

/-- The handler of proxied requests spares if its transport does. -/
theorem sparesHandler_http {transport : Transport σ}
    (h : ∀ call, tally.Spares (transport.roundTrip call)) :
    tally.SparesHandler (.http transport) where
  prepare := spares_install _
  options := spares_pure _
  own := own_of_pure fun _ brought ↦ Option.some.inj brought ▸ h
  payload := spares_exchange_bind fun _ ↦ (spares_note _ _ _).bind fun _ _ _ _ ↦ spares_pure _
  slot := spares_pure _
  recover := spares_absorb
  respond := spares_unlessBusiness spares_publish

/-- The handler of remote procedures spares if the transport that it may have does. -/
theorem sparesHandler_rpc {transport : Option (Transport σ)}
    (h : ∀ t, transport = some t → ∀ call, tally.Spares (t.roundTrip call)) :
    tally.SparesHandler (.rpc transport) where
  prepare := spares_install _
  options := spares_pure _
  own := own_of_pure h
  payload := spares_exchange_bind fun _ ↦ (spares_ofExcept _).bind fun _ _ _ _ ↦
    (spares_note _ _ _).bind fun _ _ _ _ ↦ spares_pure _
  slot := spares_pure _
  recover := spares_absorb
  respond := spares_unlessBusiness fun s ↦ spares_write _ s

/-- The handler of gRPC calls spares if its transport does. -/
theorem sparesHandler_grpc {transport : Transport σ}
    (h : ∀ call, tally.Spares (transport.roundTrip call)) :
    tally.SparesHandler (.grpc transport) where
  prepare := spares_install _
  options := spares_pure _
  own := own_of_pure fun _ brought ↦ Option.some.inj brought ▸ h
  payload := by
    refine spares_exchange_bind fun x ↦ ?_
    split
    · refine Spares.bind (spares_change ?_) fun _ _ _ _ ↦ spares_pure _
      exact fun _ ↦ rfl
    · exact spares_fail _
  slot := spares_pure _
  recover := spares_absorb
  respond := by
    refine spares_unlessBusiness (spares_exchange_bind fun x ↦ ?_)
    cases x.header? with
    | none => exact spares_fail _
    | some h => exact spares_write _

/-- The handler of raw conversations spares if its transport does. -/
theorem sparesHandler_raw {transport : Transport σ}
    (h : ∀ call, tally.Spares (transport.roundTrip call)) :
    tally.SparesHandler (.raw transport) where
  prepare := spares_install _
  options := spares_pure _
  own := own_of_pure fun _ brought ↦ Option.some.inj brought ▸ h
  payload := spares_exchange_bind fun _ ↦ (spares_note _ _ _).bind fun _ _ _ _ ↦ spares_pure _
  slot := spares_pure _
  recover := spares_absorb
  respond := spares_unlessBusiness fun s ↦ spares_write _ s

end Tally
end Proxy

namespace Gateway

open Proxy

variable {net : Network σ} {tally : Tally net}

private theorem spares_takeResponse : tally.Spares (takeResponse : Stage σ Response) := by
  intro s
  unfold takeResponse
  rw [Stage.exchange_bind]
  cases s.exchange.response with
  | none => exact Nat.le_refl _
  | some response => exact Nat.le_refl _

/-- A lifecycle spares if all parts of the gateway do. -/
theorem spares_run {g : Gateway σ} (h : tally.SparesGateway g) (protocol : String)
    (target : Target) : tally.Spares (g.run protocol target) := by
  rw [Tally.spares_iff]
  intro n
  refine PartsPreserve.run ⟨?fill, ?takeResponse, ?before, ?after, ?handler, ?transport⟩ target
  case fill => exact fun _ _ holds ↦ holds
  case takeResponse => exact Tally.spares_iff.mp spares_takeResponse n
  case before => exact fun hook mem ↦ Tally.spares_iff.mp (h.before hook mem) n
  case after => exact fun hook mem x ↦ Tally.spares_iff.mp (Tally.spares_act (h.after hook mem x)) n
  case handler => exact fun handler found ↦ (h.handlers protocol handler found).preserves n
  case transport =>
    intro transport found call
    exact Tally.spares_iff.mp (h.transports protocol transport found call) n

/-- Whatever happens in a lifecycle, at most one relay begins, and none if the connection cannot be
taken over. -/
theorem begun_serve_le {g : Gateway σ} (h : tally.SparesGateway g) (protocol : String)
    (target : Target) (x : Exchange) (world : σ) :
    tally.begun (g.serve protocol target x world).2 ≤
      tally.begun world + if x.connection = .upgradable then 1 else 0 := by
  have left := spares_run h protocol target ⟨x, .bytes none, world⟩
  have bounded : tally.begun (Stage.left (g.run protocol target ⟨x, .bytes none, world⟩)).world ≤
      tally.begun world + if x.connection = .upgradable then 1 else 0 :=
    Nat.le_trans (Nat.le_add_right _ _) left
  unfold serve
  cases run : g.run protocol target ⟨x, .bytes none, world⟩ with
  | ok response s =>
    rw [run] at bounded
    exact Nat.le_trans (h.count _ _) bounded
  | error halt s =>
    rw [run] at bounded
    cases halt with
    | failed e => exact Nat.le_trans (h.count _ _) bounded
    | brokenOff b => exact bounded

end Gateway

namespace Networks

open Proxy

variable {net : Networks σ χ} {tally : Tally net.backends}

/-- Nothing but the proxy begins relays. -/
structure Quiet (net : Networks σ χ) (tally : Tally net.backends) : Prop where
  connect : ∀ address limit world,
    tally.begun (net.connect address limit world).2 ≤ tally.begun world
  invoke : ∀ channel request limit world,
    tally.begun (net.invoke channel request limit world).2 ≤ tally.begun world
  keep : ∀ pool world, tally.begun (net.pool.set pool world) ≤ tally.begun world
  count : ∀ counter world, tally.begun (net.pool.count counter world) ≤ tally.begun world
  converse : ∀ address payload limit world,
    tally.begun (net.conversations address payload limit world).2 ≤ tally.begun world

private theorem begun_dial_le (quiet : Quiet net tally) (limit : Duration) (address : String)
    (world : σ) :
    tally.begun (Grpc.dial net.connect limit address world).2 ≤ tally.begun world := by
  have connected := quiet.connect address limit world
  unfold Grpc.dial
  split
  · exact Nat.le_refl _
  · split
    all_goals
      next asked =>
        rw [asked] at connected
        exact connected

private theorem begun_channel_le (quiet : Quiet net tally) (config : GrpcConfig)
    (address : String) (world : σ) :
    tally.begun ((net.grpc config).channel address world).2 ≤ tally.begun world := by
  have dialed := begun_dial_le quiet ⟨config.dialTimeoutMs⟩ address world
  unfold Networks.grpc Grpc.pooled
  dsimp only
  cases (net.pool.get world).channel? address with
  | some channel => exact Nat.le_refl _
  | none =>
    cases opened : Grpc.dial net.connect ⟨config.dialTimeoutMs⟩ address world with
    | mk result between =>
      rw [opened] at dialed
      have kept := fun pool ↦ Nat.le_trans (quiet.keep pool between) dialed
      cases result with
      | error e => exact kept _
      | ok channel => exact Nat.le_trans (quiet.count _ _) (kept _)

/-- A gRPC call begins no relay. -/
theorem spares_grpc (quiet : Quiet net tally) (config : GrpcConfig) (call : Call) :
    tally.Spares ((Grpc.transport (net.grpc config)).roundTrip call) := by
  intro s
  have opened := begun_channel_le quiet config call.target.address s.world
  have ends := Grpc.ends_roundTrip (net.grpc config) call s
  generalize (Grpc.transport (net.grpc config)).roundTrip call s = r at ends
  cases ends with
  | unfit halt _ => exact Nat.le_refl _
  | unconnected request e world _ found =>
    rw [found] at opened
    exact Nat.add_le_add_right opened _
  | lost request channel between world arrival halt _ found asked =>
    have sent := quiet.invoke channel request call.timeout between
    change tally.begun ((net.grpc config).send channel request call.timeout between).2 ≤ _ at sent
    rw [found] at opened
    rw [asked] at sent
    exact Nat.add_le_add_right (Nat.le_trans sent opened) _
  | answered request channel between world response message metadata _ found asked =>
    have sent := quiet.invoke channel request call.timeout between
    change tally.begun ((net.grpc config).send channel request call.timeout between).2 ≤ _ at sent
    rw [found] at opened
    rw [asked] at sent
    exact Nat.add_le_add_right (Nat.le_trans sent opened) _

private theorem begun_converse_le (quiet : Quiet net tally) (call : Call) (world : σ) :
    tally.begun (RawCall.converse net.conversations call world).2 ≤ tally.begun world := by
  unfold RawCall.converse
  split
  · exact Nat.le_refl _
  · exact quiet.converse _ _ _ _

/-- A conversation of raw bytes begins no relay. -/
theorem spares_raw (quiet : Quiet net tally) (call : Call) :
    tally.Spares ((RawCall.transport net.conversations).roundTrip call) := by
  intro s
  have asked := begun_converse_le quiet call s.world
  have ends := RawCall.ends_roundTrip net.conversations call s
  generalize (RawCall.transport net.conversations).roundTrip call s = r at ends
  cases ends with
  | lost arrival world e conversed _ =>
    rw [conversed] at asked
    exact Nat.add_le_add_right asked _
  | replied bytes world conversed =>
    rw [conversed] at asked
    exact Nat.add_le_add_right asked _

/-- The handlers of the built-in protocols spare. -/
theorem sparesHandler_builtin (quiet : Quiet net tally) {config : Config} {name : String}
    {handler : Handler σ} (h : (name, handler) ∈ builtinHandlers net config) :
    tally.SparesHandler handler := by
  simp only [builtinHandlers, List.mem_cons, Prod.mk.injEq, List.not_mem_nil, or_false] at h
  obtain ⟨-, rfl⟩ | ⟨-, rfl⟩ | ⟨-, rfl⟩ | ⟨-, rfl⟩ := h
  · exact Tally.sparesHandler_http (tally.spares_roundTrip _ _)
  · exact Tally.sparesHandler_rpc nofun
  · exact Tally.sparesHandler_grpc (spares_grpc quiet _)
  · exact Tally.sparesHandler_raw (spares_raw quiet)

end Networks

namespace Assembly

/-- What is found in a table is among its entries. -/
theorem mem_of_find?_table {α : Type} {entries : List (String × α)} {name : String} {a : α}
    (h : (table entries).find? name = some a) : (name, a) ∈ entries := by
  have grown : ∀ r : Registry α,
      (entries.foldl (fun r e ↦ r.register e.1 e.2) r).find? name = some a →
      r.find? name = some a ∨ (name, a) ∈ entries := by
    clear h
    induction entries with
    | nil => exact fun r h ↦ .inl h
    | cons e entries ih =>
      intro r h
      rcases ih (r.register e.1 e.2) h with before | later
      · rw [Registry.find?_register] at before
        split at before
        · next same =>
          cases before
          exact .inr (same ▸ List.mem_cons_self)
        · exact .inl before
      · exact .inr (List.mem_cons_of_mem _ later)
  rcases grown .empty h with empty | listed
  · cases empty
  · exact listed

/-- A gateway has the parts that it is built from. -/
theorem parts_of_build {a : Assembly σ} {world world' : σ} {g : Gateway σ}
    (h : a.build world = (.ok g, world')) : g.registry = table a.handlers ∧
      g.transports = table a.transports ∧ g.hooks = a.hooks ∧ g.count = a.count := by
  unfold build at h
  split at h
  · cases h
  · cases h
    exact ⟨rfl, rfl, rfl, rfl⟩

end Assembly

/-- The hook that a configuration asks for only sets up. -/
theorem Hook.idle_of_ofConfig {config : Config} {hook : Hook σ} (h : ofConfig config = .ok hook) :
    hook.before = pure () ∧ ∀ x world, hook.after x world = world := by
  obtain ⟨codes, success, rfl⟩ := exists_of_ofConfig h
  exact ⟨rfl, fun _ _ ↦ rfl⟩

namespace Networks

variable {net : Networks σ χ} {tally : Proxy.Tally net.backends}

/-- The parts of the gateway that a configuration starts. -/
theorem parts_of_bootstrap {config : Config} {world world' : σ} {b : Bootstrapped σ}
    (h : bootstrap net config world = (.ok b, world')) : ∃ hook : Hook σ,
      Hook.ofConfig config = .ok hook ∧
      b.gateway.registry = Assembly.table (builtinHandlers net config) ∧
      b.gateway.transports = .empty ∧ b.gateway.hooks = [hook] ∧
      b.gateway.count = net.pool.count := by
  unfold bootstrap at h
  split at h
  · cases h
  · next hook made =>
    unfold Assembly.bootstrap at h
    dsimp only at h
    split at h
    · cases h
    · next gateway _ built =>
      split at h
      · cases h
      · cases h
        obtain ⟨registry, transports, hooks, count⟩ := Assembly.parts_of_build built
        exact ⟨hook, made, registry, transports, hooks, count⟩

/-- The parts of the gateway that a configuration starts spare. -/
theorem sparesGateway_bootstrap (quiet : net.Quiet tally) {config : Config} {world world' : σ}
    {b : Bootstrapped σ} (h : bootstrap net config world = (.ok b, world')) :
    tally.SparesGateway b.gateway := by
  obtain ⟨hook, made, registry, transports, hooks, count⟩ := parts_of_bootstrap h
  obtain ⟨before, after⟩ := Hook.idle_of_ofConfig made
  constructor
  case before =>
    intro hook' h
    rw [hooks, List.mem_singleton] at h
    rw [h, before]
    exact Proxy.Tally.spares_pure ()
  case after =>
    intro hook' h x world
    rw [hooks, List.mem_singleton] at h
    rw [h]
    exact Nat.le_of_eq (congrArg tally.begun (after x world))
  case handlers =>
    intro name handler found
    rw [registry] at found
    exact sparesHandler_builtin quiet (Assembly.mem_of_find?_table found)
  case transports =>
    intro name transport found
    rw [transports] at found
    cases found
  case count =>
    intro counter world
    rw [count]
    exact quiet.count counter world

end Networks
end HttpGateway
