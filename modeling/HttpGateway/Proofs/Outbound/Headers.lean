import HttpGateway.Forwarding.Outbound

/-!
# The fields of the request sent on

Which fields a request that is sent on has, in terms of those that came in. The wish to switch
protocols, the welcome for trailers and the length are stated anew, each of them from its own
condition; what belongs to the inbound connection is gone; everything else is as it came. The
`Host` is another matter.
-/

namespace HttpGateway

/-- A text lists a token: between commas, or a comma and an end, stands the token in some letter
case, with blanks around it or without. -/
def Ascii.Lists (text token : Bytes) : Prop :=
  ∃ before piece after, text = before ++ piece ++ after ∧ byte ',' ∉ piece ∧
    (before = [] ∨ ∃ b, before = b ++ [byte ',']) ∧ (after = [] ∨ ∃ a, after = byte ',' :: a) ∧
    lowerAll (trim piece) = token

/-- Some field of a name is text and lists a token. -/
def HeaderMap.Lists (m : HeaderMap) (name : HeaderName) (token : Bytes) : Prop :=
  ∃ value ∈ m.values name, ∃ text, value.text? = some text ∧ Ascii.Lists text token

/-- A header name is not empty. -/
theorem HeaderName.bytes_ne_nil (name : HeaderName) : name.bytes ≠ [] := by
  intro h
  have legal := name.legal
  rw [h] at legal
  cases legal

namespace HeaderMap

/-- The tokens of a name are the ones that its fields list, but for the empty one. -/
theorem mem_tokens_iff (m : HeaderMap) (name : HeaderName) {token : Bytes} (h : token ≠ []) :
    token ∈ m.tokens name ↔ m.Lists name token := by
  unfold tokens Lists Ascii.Lists
  simp only [List.mem_filter, List.mem_map, List.mem_flatMap, List.mem_filterMap,
    Ascii.mem_splitOn_iff]
  constructor
  · rintro ⟨⟨piece, ⟨text, ⟨value, hv, ht⟩, hp, before, after, rfl, hb, ha⟩, rfl⟩, -⟩
    exact ⟨value, hv, _, ht, before, piece, after, rfl, hp, hb, ha, rfl⟩
  · rintro ⟨value, hv, _, ht, before, piece, after, rfl, hp, hb, ha, rfl⟩
    refine ⟨⟨piece, ⟨_, ⟨value, hv, ht⟩, hp, before, after, rfl, hb, ha⟩, rfl⟩, ?_⟩
    simpa using h

/-- A name is nominated by `Connection` exactly when some such field lists it. -/
theorem contains_tokens_iff (m : HeaderMap) (name other : HeaderName) :
    (m.tokens name).contains other.bytes = true ↔ m.Lists name other.bytes := by
  rw [List.contains_iff_mem]
  exact m.mem_tokens_iff name other.bytes_ne_nil

end HeaderMap

namespace Outbound

/-- What a request that is sent on keeps of the head that came in, but for its target and its
`Host`. -/
structure Keeps (head : RequestHead) (payload : Option Bytes) (out : Outbound) : Prop where
  method : out.method = head.method
  /-- Only the oldest callers keep their version. -/
  version : out.version = if head.version = .http10 then .http10 else .http11
  /-- A switch is asked for exactly when it is: for the first protocol that is named. -/
  switch : ∀ first rest, head.headers.Lists .connection HeaderName.upgrade.bytes →
    head.headers.values .upgrade = first :: rest →
    out.headers.values .connection = [upgradeOption] ∧ out.headers.values .upgrade = [first]
  /-- Otherwise nothing is said of the connection. -/
  stay : ¬ (head.headers.Lists .connection HeaderName.upgrade.bytes ∧
      head.headers.values .upgrade ≠ []) →
    out.headers.values .connection = [] ∧ out.headers.values .upgrade = []
  /-- Trailers are welcome exactly when they are to the caller. -/
  welcome : head.headers.Lists .te HeaderName.trailers.bytes →
    out.headers.values .te = [trailersOption]
  unwelcome : ¬ head.headers.Lists .te HeaderName.trailers.bytes → out.headers.values .te = []
  /-- The length is that of the payload, and is not stated where there is none. -/
  length : out.headers.values .contentLength =
    (payload.map fun bytes ↦ HeaderValue.ofNat bytes.length).toList
  /-- What belongs to the connection or is nominated by it is gone. -/
  gone : ∀ name, name ∉ [.connection, .upgrade, .te, .contentLength, .host] →
    (name ∈ HopByHop.names ∨ head.headers.Lists .connection name.bytes) →
    out.headers.values name = []
  /-- Everything else is as it came. -/
  kept : ∀ name, name ∉ [.connection, .upgrade, .te, .contentLength, .host] →
    ¬ (name ∈ HopByHop.names ∨ head.headers.Lists .connection name.bytes) →
    out.headers.values name = head.headers.values name

/-- Stating a switch touches the two names that state it. -/
theorem values_withUpgrade (m : HeaderMap) (upgrade : Option HeaderValue) (name : HeaderName) :
    (withUpgrade m upgrade).values name =
      match upgrade with
      | none => m.values name
      | some token =>
        if name = .upgrade then [token]
        else if name = .connection then [upgradeOption]
        else m.values name := by
  cases upgrade with
  | none => rfl
  | some token =>
    simp only [withUpgrade, HeaderMap.values_insert, eq_comm]

/-- Announcing the length touches no other name. -/
theorem values_withLength (m : HeaderMap) (payload : Option Bytes) (name : HeaderName) :
    (withLength m payload).values name =
      if name = .contentLength then (payload.map fun bytes ↦ HeaderValue.ofNat bytes.length).toList
      else m.values name := by
  cases payload with
  | none => simp only [withLength, HeaderMap.values_remove, eq_comm]; rfl
  | some bytes => simp only [withLength, HeaderMap.values_insert, eq_comm]; rfl

/-- A switch that is passed on is the one that is asked for. -/
theorem requestedUpgrade_eq_ok {head : RequestHead} {upgrade : Option HeaderValue}
    (h : requestedUpgrade head = .ok upgrade) : upgrade = HopByHop.upgradeType? head.headers := by
  unfold requestedUpgrade at h
  cases ht : HopByHop.upgradeType? head.headers with
  | none =>
    rw [ht] at h
    cases h
    rfl
  | some value =>
    rw [ht] at h
    change (HopByHop.checkToken value).map some = .ok upgrade at h
    unfold HopByHop.checkToken at h
    by_cases hp : HopByHop.isPrintable value.bytes = true
    · rw [if_pos hp] at h
      cases h
      rfl
    · rw [if_neg hp] at h
      cases h

/-- What a request that is sent on is made of. -/
theorem ofHead_eq_ok {head : RequestHead} {payload : Option Bytes} {address : String}
    {out : Outbound} (h : ofHead head payload address = .ok out) :
    requestedUpgrade head = .ok out.upgrade ∧
      Uri.parse (targetText address head.uri) = .ok out.uri ∧
      out.method = head.method ∧ out.version = versionFor head.version ∧
      out.headers = statedHeaders head out.upgrade payload := by
  unfold ofHead at h
  cases hu : requestedUpgrade head with
  | error bad => rw [hu] at h; cases h
  | ok upgrade =>
    cases ht : Uri.parse (targetText address head.uri) with
    | error why => rw [hu, ht] at h; cases h
    | ok uri =>
      rw [hu, ht] at h
      cases h
      exact ⟨rfl, rfl, rfl, rfl, rfl⟩

/-- What stays behind belongs to the connection or is nominated by it. -/
theorem staysBehind_iff (m : HeaderMap) (name : HeaderName) :
    HopByHop.staysBehind m name = true ↔
      name ∈ HopByHop.names ∨ m.Lists .connection name.bytes := by
  rw [HopByHop.staysBehind, Bool.or_eq_true, List.contains_iff_mem, m.contains_tokens_iff]

/-- The switch that is asked for is to the first protocol that is named, if `Connection` says so. -/
theorem upgradeType?_eq_some_iff (m : HeaderMap) (value : HeaderValue) :
    HopByHop.upgradeType? m = some value ↔
      m.Lists .connection HeaderName.upgrade.bytes ∧ (m.values .upgrade).head? = some value := by
  unfold HopByHop.upgradeType?
  by_cases h : (m.tokens .connection).contains HeaderName.upgrade.bytes = true
  · rw [if_pos h]
    exact ⟨fun hv ↦ ⟨(m.contains_tokens_iff _ _).mp h, hv⟩, fun hv ↦ hv.2⟩
  · rw [if_neg h]
    exact ⟨nofun, fun hv ↦ absurd ((m.contains_tokens_iff _ _).mpr hv.1) h⟩

/-- A request that asks for a switch, nominates a field and states its length twice. -/
def askingHead : RequestHead :=
  ⟨.get, .origin ⟨"/chat", none⟩, .http2, ⟨[
    (.connection, ⟨Ascii.bytes "keep-alive, UPGRADE,x-hop", by decide⟩),
    (.upgrade, ⟨Ascii.bytes "websocket", by decide⟩),
    (⟨Ascii.bytes "x-hop", by decide⟩, ⟨Ascii.bytes "1", by decide⟩),
    (.contentLength, ⟨Ascii.bytes "7", by decide⟩),
    (.contentLength, ⟨Ascii.bytes "8", by decide⟩)]⟩⟩

end Outbound
end HttpGateway
