import HttpGateway.Proofs.Lifecycle.OneRelay
import HttpGateway.Proofs.Outbound.Headers

/-!
# Switching protocols, wholly or not at all

A response that switches protocols is confirmed to the caller, and its relay begins, exactly when
both sides have agreed on one protocol and the connection can be taken over. In every other case the
exchange is left as it was and the caller is told why: that there is no agreement, or, only if there
is one, that the connection cannot be had.
-/

namespace HttpGateway

/-- A non-empty string of visible characters and spaces. -/
def Ascii.Printable (s : Bytes) : Prop := s ≠ [] ∧ ∀ b ∈ s, 32 ≤ b ∧ b ≤ 126

/-- A string is found printable when it is. -/
theorem HopByHop.isPrintable_iff (s : Bytes) : isPrintable s = true ↔ Ascii.Printable s := by
  unfold isPrintable Ascii.Printable
  simp only [Bool.and_eq_true, List.all_eq_true, decide_eq_true_eq, Bool.not_eq_true',
    List.isEmpty_eq_false_iff]

namespace Outbound

/-- A request asks for a switch to a protocol: `Connection` says so, and the protocol is the first
one named and printable. -/
structure Asks (asked : HeaderMap) (wanted : HeaderValue) : Prop where
  listed : asked.Lists .connection HeaderName.upgrade.bytes
  first : (asked.values .upgrade).head? = some wanted
  printable : Ascii.Printable wanted.bytes

/-- A switch that is asked for is passed on. -/
theorem requestedUpgrade_of_asks {head : RequestHead} {wanted : HeaderValue}
    (h : Asks head.headers wanted) : requestedUpgrade head = .ok (some wanted) := by
  have found := (upgradeType?_eq_some_iff head.headers wanted).mpr ⟨h.listed, h.first⟩
  unfold requestedUpgrade
  rw [found]
  unfold HopByHop.checkToken
  dsimp only
  rw [if_pos ((HopByHop.isPrintable_iff _).mpr h.printable)]
  rfl

/-- A switch that is passed on is asked for. -/
theorem asks_of_requestedUpgrade {head : RequestHead} {wanted : HeaderValue}
    (h : requestedUpgrade head = .ok (some wanted)) : Asks head.headers wanted := by
  have found := (requestedUpgrade_eq_ok h).symm
  obtain ⟨listed, first⟩ := (upgradeType?_eq_some_iff head.headers wanted).mp found
  refine ⟨listed, first, ?_⟩
  unfold requestedUpgrade at h
  rw [found] at h
  unfold HopByHop.checkToken at h
  by_cases hp : HopByHop.isPrintable wanted.bytes = true
  · exact (HopByHop.isPrintable_iff _).mp hp
  · dsimp only at h
    rw [if_neg hp] at h
    cases h

end Outbound

namespace ProtocolSwitch

/-- Both sides agree on a protocol: the backend names, first and printably, the one that is asked
for, in whichever letter case. -/
structure Agreed (asked answer : HeaderMap) (token : HeaderValue) : Prop where
  wanted : ∃ wanted, Outbound.Asks asked wanted ∧
    Ascii.lowerAll token.bytes = Ascii.lowerAll wanted.bytes
  first : (answer.values .upgrade).head? = some token
  printable : Ascii.Printable token.bytes

/-- A switch stands when the backend names, first and printably, the requested protocol. -/
theorem agree_eq_ok_iff {requested : Option Bytes} {answer : HeaderMap} {token : HeaderValue} :
    agree requested answer = .ok token ↔
      ∃ wanted, requested = some wanted ∧ (answer.values .upgrade).head? = some token ∧
        Ascii.Printable token.bytes ∧ Ascii.lowerAll token.bytes = Ascii.lowerAll wanted := by
  unfold agree HopByHop.checkToken HeaderMap.get?
  constructor
  · intro h
    cases requested with
    | none => cases h
    | some wanted =>
      cases first : (answer.values .upgrade).head? with
      | none =>
        rw [first] at h
        cases h
      | some returned =>
        rw [first] at h
        dsimp only at h
        by_cases hp : HopByHop.isPrintable returned.bytes = true
        · rw [if_pos hp] at h
          by_cases same : Ascii.eqIgnoreCase returned.bytes wanted = true
          · dsimp only at h
            rw [if_pos same] at h
            cases h
            exact ⟨wanted, rfl, rfl, (HopByHop.isPrintable_iff _).mp hp,
              Ascii.eqIgnoreCase_iff.mp same⟩
          · dsimp only at h
            rw [if_neg same] at h
            cases h
        · rw [if_neg hp] at h
          cases h
  · rintro ⟨wanted, rfl, first, printable, same⟩
    rw [first]
    dsimp only
    rw [if_pos ((HopByHop.isPrintable_iff _).mpr printable)]
    dsimp only
    rw [if_pos (Ascii.eqIgnoreCase_iff.mpr same)]

/-- With a request on its way, a switch stands exactly when both sides agree. -/
theorem agree_iff_agreed {head : RequestHead} {upgrade : Option HeaderValue}
    (passed : Outbound.requestedUpgrade head = .ok upgrade) (answer : HeaderMap)
    (token : HeaderValue) :
    agree (upgrade.map HeaderValue.bytes) answer = .ok token ↔
      Agreed head.headers answer token := by
  rw [agree_eq_ok_iff]
  constructor
  · rintro ⟨bytes, requested, first, printable, same⟩
    cases upgrade with
    | none => cases requested
    | some wanted =>
      cases requested
      exact ⟨⟨wanted, Outbound.asks_of_requestedUpgrade passed, same⟩, first, printable⟩
  · rintro ⟨⟨wanted, asks, same⟩, first, printable⟩
    rw [Outbound.requestedUpgrade_of_asks asks] at passed
    cases passed
    exact ⟨wanted.bytes, rfl, first, printable, same⟩

/-- The answer that confirms a switch: the head of the backend's without what belongs to its
connection, and the protocol agreed on. -/
structure Confirms (answer : HeaderMap) (token : HeaderValue) (confirmed : Response) : Prop where
  status : confirmed.status = .switchingProtocols
  connection : confirmed.headers.values .connection = [Outbound.upgradeOption]
  upgrade : confirmed.headers.values .upgrade = [token]
  gone : ∀ name, name ∉ [.connection, .upgrade] →
    (name ∈ HopByHop.names ∨ answer.Lists .connection name.bytes) →
    confirmed.headers.values name = []
  kept : ∀ name, name ∉ [.connection, .upgrade] →
    ¬ (name ∈ HopByHop.names ∨ answer.Lists .connection name.bytes) →
    confirmed.headers.values name = answer.values name
  body : confirmed.body = .empty

/-- The response to the caller confirms the switch. -/
theorem confirms_switching (answer : HeaderMap) (token : HeaderValue) :
    Confirms answer token (Proxy.switching answer token) := by
  have other : ∀ name, name ∉ [HeaderName.connection, .upgrade] →
      (confirmation answer token).values name = (HopByHop.strip answer).values name := by
    intro name h
    simp only [List.mem_cons, List.not_mem_nil, or_false, not_or] at h
    unfold confirmation
    rw [Outbound.values_withUpgrade]
    dsimp only
    rw [if_neg h.2, if_neg h.1]
  constructor
  case status => rfl
  case connection => exact Outbound.values_withUpgrade _ _ _
  case upgrade => exact Outbound.values_withUpgrade _ _ _
  case gone =>
    intro name h stays
    change (confirmation answer token).values name = []
    rw [other name h, HopByHop.values_strip, if_pos ((Outbound.staysBehind_iff _ _).mpr stays)]
  case kept =>
    intro name h passes
    change (confirmation answer token).values name = answer.values name
    rw [other name h, HopByHop.values_strip,
      if_neg fun stays ↦ passes ((Outbound.staysBehind_iff _ _).mp stays)]
  case body => rfl

end ProtocolSwitch

namespace Proxy

open ProtocolSwitch

variable {σ : Type}

/-- What a response that switches protocols comes to, if it is all or nothing. -/
structure AllOrNothing (net : Network σ) (s : Scene σ) (response : BackendResponse) (world : σ)
    (r : CallResult σ) : Prop where
  /-- The switch is made exactly when both sides agree and the connection can be taken over. -/
  made_iff : (∃ t, r = .ok () t) ↔
    (∃ token, Agreed s.exchange.head.headers response.headers token) ∧
      s.exchange.connection = .upgradable
  /-- A switch that is made is confirmed, takes the connection and begins the relay. -/
  made : ∀ t, r = .ok () t → ∃ token confirmed,
    Agreed s.exchange.head.headers response.headers token ∧
    Confirms response.headers token confirmed ∧
    t = { s with
      exchange := { s.exchange with connection := .taken, response := some confirmed }
      world := net.relay response world }
  /-- A switch that is not made leaves all as it was. -/
  unmade : ∀ halt t, r = .error halt t →
    t.exchange = s.exchange ∧ t.slot = s.slot ∧ (t.world = world ∨ t.world = s.world)
  /-- Without an agreement the request is invalid. -/
  invalid : (¬ ∃ token, Agreed s.exchange.head.headers response.headers token) →
    ∃ e t, r = .error (.failed e) t ∧ e.kind = .request ∧ e.code = .invalidRequest
  /-- With an agreement, only the connection may be wanting. -/
  bound : (∃ token, Agreed s.exchange.head.headers response.headers token) →
    s.exchange.connection ≠ .upgradable →
    ∃ e t, r = .error (.failed e) t ∧ e.kind = .framework ∧ e.code = .serverSystemError
  /-- One relay begins if the switch is made, and none otherwise. -/
  relays : ∀ tally : Tally net, tally.begun (Stage.left r).world = tally.begun s.world +
    match r with
    | .ok _ _ => 1
    | .error _ _ => 0

variable {net : Network σ} {s : Scene σ} {response : BackendResponse} {world : σ}

/-- A failure for want of an agreement is all or nothing. -/
theorem AllOrNothing.of_disagreed {e : GatewayError} {t : Scene σ}
    (no : ¬ ∃ token, Agreed s.exchange.head.headers response.headers token)
    (kind : e.kind = .request) (code : e.code = .invalidRequest)
    (kept : t.exchange = s.exchange ∧ t.slot = s.slot ∧ (t.world = world ∨ t.world = s.world))
    (counted : ∀ tally : Tally net, tally.begun t.world = tally.begun s.world) :
    AllOrNothing net s response world (.error (.failed e) t) := by
  constructor
  case made_iff =>
    constructor
    · rintro ⟨t, ⟨⟩⟩
    · rintro ⟨agreed, -⟩
      exact absurd agreed no
  case made =>
    rintro _ ⟨⟩
  case unmade =>
    rintro _ _ ⟨⟩
    exact kept
  case invalid =>
    intro _
    exact ⟨e, t, rfl, kind, code⟩
  case bound =>
    intro agreed
    exact absurd agreed no
  case relays => exact counted

/-- A failure for want of the connection is all or nothing. -/
theorem AllOrNothing.of_bound
    (agreed : ∃ token, Agreed s.exchange.head.headers response.headers token)
    (held : s.exchange.connection ≠ .upgradable)
    (counted : ∀ tally : Tally net, tally.begun world = tally.begun s.world) :
    AllOrNothing net s response world (.error (.failed notUpgradable) { s with world }) := by
  constructor
  case made_iff =>
    constructor
    · rintro ⟨t, ⟨⟩⟩
    · rintro ⟨-, free⟩
      exact absurd free held
  case made =>
    rintro _ ⟨⟩
  case unmade =>
    rintro _ _ ⟨⟩
    exact ⟨rfl, rfl, .inl rfl⟩
  case invalid =>
    intro no
    exact absurd agreed no
  case bound =>
    intro _ _
    exact ⟨notUpgradable, _, rfl, rfl, rfl⟩
  case relays => exact counted

/-- A switch with all that belongs to it is all or nothing. -/
theorem AllOrNothing.of_agreed {token : HeaderValue}
    (agreed : Agreed s.exchange.head.headers response.headers token)
    (free : s.exchange.connection = .upgradable)
    (counted : ∀ tally : Tally net, tally.begun world = tally.begun s.world) :
    AllOrNothing net s response world (.ok () { s with
      exchange := { s.exchange with
        connection := .taken, response := some (switching response.headers token) }
      world := net.relay response world }) := by
  constructor
  case made_iff =>
    constructor
    · intro _
      exact ⟨⟨token, agreed⟩, free⟩
    · intro _
      exact ⟨_, rfl⟩
  case made =>
    rintro _ ⟨⟩
    exact ⟨token, _, agreed, confirms_switching _ _, rfl⟩
  case unmade =>
    rintro _ _ ⟨⟩
  case invalid =>
    intro no
    exact absurd ⟨token, agreed⟩ no
  case bound =>
    intro _ held
    exact absurd free held
  case relays =>
    intro tally
    change tally.begun (net.relay response world) = _
    rw [tally.begun_relay, counted]

private theorem not_agreed_of_unfit {head : RequestHead} {payload : Option Bytes}
    {address : String} {fault : Outbound.Fault}
    (target : ∃ uri, Uri.parse (Outbound.targetText address head.uri) = .ok uri)
    (h : Outbound.ofHead head payload address = .error fault) (answer : HeaderMap) :
    ¬ ∃ token, Agreed head.headers answer token := by
  rintro ⟨token, ⟨wanted, asks, -⟩, -, -⟩
  obtain ⟨uri, parsed⟩ := target
  unfold Outbound.ofHead at h
  rw [Outbound.requestedUpgrade_of_asks asks, parsed] at h
  cases h

/-- A call that a response ends which switches protocols is all or nothing. -/
theorem allOrNothing_of_ends {bufferSize : Nat} {interval : Duration} {call : Call}
    {r : CallResult σ}
    (target : ∃ uri,
      Uri.parse (Outbound.targetText call.target.address s.exchange.head.uri) = .ok uri)
    (answers : ∀ out,
      Outbound.ofHead s.exchange.head call.payload call.target.address = .ok out →
      send net out call.timeout s.world = (.answered response, world))
    (switches : response.status = .switchingProtocols)
    (h : Ends net bufferSize interval call s r) : AllOrNothing net s response world r := by
  cases h with
  | unfit fault made =>
    -- The target is fit, so the request was not sent for its bad token.
    have invalid : fault.error.kind = .request ∧ fault.error.code = .invalidRequest := by
      cases fault <;> exact ⟨rfl, rfl⟩
    exact .of_disagreed (not_agreed_of_unfit target made _) invalid.1 invalid.2
      ⟨rfl, rfl, .inr rfl⟩ fun _ ↦ rfl
  | lost out arrival world' e made asked none_ =>
    rw [answers out made] at asked
    cases asked
    cases none_
  | refused out response' world' refusal made asked _ refused =>
    have counted := fun tally : Tally net ↦ tally.begun_of_send asked
    rw [answers out made] at asked
    cases asked
    have no : ¬ ∃ token, Agreed s.exchange.head.headers response.headers token := by
      rintro ⟨token, agreed⟩
      rw [(agree_iff_agreed (Outbound.ofHead_eq_ok made).1 _ _).mpr agreed] at refused
      cases refused
    exact .of_disagreed no rfl rfl ⟨rfl, rfl, .inl rfl⟩ counted
  | bound out response' world' token made asked _ agreed held =>
    have counted := fun tally : Tally net ↦ tally.begun_of_send asked
    rw [answers out made] at asked
    cases asked
    have agreed := (agree_iff_agreed (Outbound.ofHead_eq_ok made).1 _ _).mp agreed
    exact .of_bound ⟨token, agreed⟩ held counted
  | switched out response' world' token made asked _ agreed free =>
    have counted := fun tally : Tally net ↦ tally.begun_of_send asked
    rw [answers out made] at asked
    cases asked
    have agreed := (agree_iff_agreed (Outbound.ofHead_eq_ok made).1 _ _).mp agreed
    exact .of_agreed agreed free counted
  | unreadable out response' world' e made asked stays =>
    rw [answers out made] at asked
    cases asked
    exact absurd switches stays
  | forwarded out response' world' answer made asked stays =>
    rw [answers out made] at asked
    cases asked
    exact absurd switches stays

/-- A response that switches protocols makes the whole switch or none of it, and whatever further
calls are made and whatever the gateway, no lifecycle begins more than one relay. -/
theorem allOrNothing_roundTrip (net : Network σ) (bufferSize : Nat) (interval : Duration)
    (call : Call) (s : Scene σ) (response : BackendResponse) (world : σ)
    (target : ∃ uri,
      Uri.parse (Outbound.targetText call.target.address s.exchange.head.uri) = .ok uri)
    (answers : ∀ out,
      Outbound.ofHead s.exchange.head call.payload call.target.address = .ok out →
      send net out call.timeout s.world = (.answered response, world))
    (switches : response.status = .switchingProtocols) :
    AllOrNothing net s response world ((transport net bufferSize interval).roundTrip call s) ∧
      ∀ tally : Tally net,
        (∀ call, tally.Spares ((transport net bufferSize interval).roundTrip call)) ∧
        ∀ g : Gateway σ, tally.SparesGateway g → ∀ protocol target x w,
          tally.begun (g.serve protocol target x w).2 ≤
            tally.begun w + if x.connection = .upgradable then 1 else 0 :=
  ⟨allOrNothing_of_ends target answers switches (ends_roundTrip net bufferSize interval call s),
    fun tally ↦ ⟨tally.spares_roundTrip bufferSize interval,
      fun _ spares ↦ Gateway.begun_serve_le spares⟩⟩

/-- The answer of a backend that agrees to speak a protocol. -/
def agreement : BackendResponse :=
  ⟨.switchingProtocols, .http11, ⟨[
    (.connection, ⟨Ascii.bytes "Upgrade, X-Hop", by decide⟩),
    (.upgrade, ⟨Ascii.bytes "WebSocket", by decide⟩),
    (⟨Ascii.bytes "x-hop", Eq.refl true⟩, ⟨Ascii.bytes "1", Eq.refl true⟩)]⟩, none, []⟩

/-- Networks in which every backend agrees, in a world that counts requests and relays. -/
def agreeable : Networks (Nat × Nat) Empty where
  backends := ⟨fun _ _ world ↦ (.answered agreement, (world.1 + 1, world.2)),
    fun _ world ↦ (world.1, world.2 + 1)⟩
  connect _ _ world := (.failed "refused", world)
  invoke channel := nomatch channel
  pool := ⟨fun _ ↦ .empty, fun _ world ↦ world, fun _ world ↦ world⟩
  conversations _ _ _ world := (.unreachable "refused", world)

/-- The relays that this world counts. -/
def begunRelays : Tally agreeable.backends where
  begun := Prod.snd
  begun_send _ _ _ := rfl
  begun_relay _ _ := rfl

/-- A switch that both sides want is made, with one relay, and the gateway with such networks begins
no second one. -/
theorem allOrNothing_agreement : ∃ t b,
    (transport agreeable.backends 64 ⟨0⟩).roundTrip
        ⟨⟨"127.0.0.1:9000", none, ⟨1000⟩⟩, none, false, none⟩
        ⟨.ofRequest Outbound.askingHead [] .upgradable, .streamed, (0, 0)⟩ = .ok () t ∧
    t.exchange.connection = .taken ∧ t.world = (1, 1) ∧
    bootstrap agreeable {} (0, 0) = (.ok b, (0, 0)) ∧
    (b.gateway.serve "http" ⟨"127.0.0.1:9000", none, ⟨1000⟩⟩
      (.ofRequest Outbound.askingHead [] .upgradable) (0, 0)).2.2 ≤ 1 := by
  have quiet : agreeable.Quiet begunRelays := by
    constructor
    case connect => exact fun _ _ _ ↦ Nat.le_refl _
    case invoke => exact fun channel ↦ nomatch channel
    case keep => exact fun _ _ ↦ Nat.le_refl _
    case count => exact fun _ _ ↦ Nat.le_refl _
    case converse => exact fun _ _ _ _ ↦ Nat.le_refl _
  have answers : ∀ out, Outbound.ofHead Outbound.askingHead none "127.0.0.1:9000" = .ok out →
      send agreeable.backends out ⟨1000⟩ (0, 0) = (.answered agreement, (1, 0)) := by
    intro out made
    cases made
    rfl
  obtain ⟨whole, once⟩ := allOrNothing_roundTrip agreeable.backends 64 ⟨0⟩
    ⟨⟨"127.0.0.1:9000", none, ⟨1000⟩⟩, none, false, none⟩
    ⟨.ofRequest Outbound.askingHead [] .upgradable, .streamed, (0, 0)⟩ agreement (1, 0)
    ⟨_, rfl⟩ answers rfl
  have asked : Outbound.requestedUpgrade Outbound.askingHead =
      .ok (some ⟨Ascii.bytes "websocket", by decide⟩) := rfl
  have agreed : ProtocolSwitch.Agreed Outbound.askingHead.headers agreement.headers
      ⟨Ascii.bytes "WebSocket", by decide⟩ :=
    (agree_iff_agreed asked _ _).mp rfl
  obtain ⟨t, made⟩ := whole.made_iff.mpr ⟨⟨_, agreed⟩, rfl⟩
  obtain ⟨token, confirmed, -, -, rfl⟩ := whole.made t made
  have started : ∃ b, bootstrap agreeable {} (0, 0) = (.ok b, (0, 0)) := by
    simp only [bootstrap, Assembly.bootstrap, checkProtocols, RouteTable.protocols,
      RouteTable.ofConfig, List.map_nil, List.mergeSort_nil, List.eraseDups_nil, List.find?_nil]
    exact ⟨_, rfl⟩
  obtain ⟨b, started⟩ := started
  refine ⟨_, b, made, rfl, rfl, started, ?_⟩
  exact (once begunRelays).2 _ (Networks.sparesGateway_bootstrap quiet started) _ _ _ _

end Proxy
end HttpGateway
