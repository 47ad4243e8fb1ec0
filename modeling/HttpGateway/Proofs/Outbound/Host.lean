import HttpGateway.Proofs.Outbound.Headers
import HttpGateway.Proofs.Uri.Legal

/-!
# The host of the request sent on

A request that is sent on names the hosts that came in. One that came without a `Host` names the
authority of its target. The fields that `Connection` nominates go before this is looked at, and
`Host` is not excepted: a caller who nominates it takes away the hosts that it named itself, and
only the authority of the target, if there is one, remains.
-/

namespace HttpGateway

namespace Authority

private theorem toNat_of_isChar {c : Char} (h : isChar c = true) :
    32 ≤ c.toNat ∧ c.toNat ≠ 127 := by
  rw [isChar, Bool.or_eq_true] at h
  rcases h with h | h
  · have letter := toNat_of_isAlphanum h
    omega
  · have all : ("!$&'()*+,-.:;=@[]_~".toList.all fun d ↦
        decide (32 ≤ d.toNat) && d.toNat != 127) = true := by decide
    have here := List.all_eq_true.mp all c (List.contains_iff_mem.mp h)
    rwa [Bool.and_eq_true, decide_eq_true_eq, bne_iff_ne] at here

/-- A character that is taken in is visible. -/
theorem toNat_of_step {seen seen' : Seen} {c : Char} (h : seen.step c = .ok seen') :
    32 ≤ c.toNat ∧ c.toNat ≠ 127 := by
  unfold Seen.step at h
  split at h
  case h_6 =>
    split at h
    · next legal => exact toNat_of_isChar legal
    · cases h
  all_goals decide

/-- The characters of an authority are visible. -/
theorem toNat_of_check {cs : List Char} (h : check cs = .ok ()) :
    ∀ c ∈ cs, 32 ≤ c.toNat ∧ c.toNat ≠ 127 := by
  have each : ∀ {seen seen' : Seen} {cs : List Char}, cs.foldlM Seen.step seen = .ok seen' →
      ∀ c ∈ cs, 32 ≤ c.toNat ∧ c.toNat ≠ 127 := by
    intro seen seen' cs h
    induction cs generalizing seen with
    | nil => nofun
    | cons c cs ih =>
      rw [List.foldlM_cons] at h
      cases first : seen.step c with
      | error why => rw [first] at h; cases h
      | ok next =>
        rw [first] at h
        rw [List.forall_mem_cons]
        exact ⟨toNat_of_step first, ih h⟩
  unfold check at h
  cases read : cs.foldlM Seen.step ⟨0, false, false, false⟩ with
  | error why => rw [read] at h; cases h
  | ok seen => exact each read

/-- An authority is a header value. -/
theorem exists_value_of_check {name : String} (h : check name.toList = .ok ()) :
    ∃ value : HeaderValue, value.bytes = Utf8.encode name := by
  refine ⟨⟨Utf8.encode name, ?_⟩, rfl⟩
  rw [List.all_eq_true]
  intro b mem
  obtain ⟨c, hc, hb⟩ := List.mem_flatMap.mp mem
  obtain ⟨visible, undeleted⟩ := toNat_of_check h c hc
  simp only [isFieldByte, Bool.or_eq_true, Bool.and_eq_true, beq_iff_eq, bne_iff_ne, ne_eq,
    decide_eq_true_eq, UInt8.le_iff_toNat_le, ← UInt8.toNat_inj]
  rcases Utf8.toNat_of_mem_encodeChar hb with same | high
  · right
    simp only [same]
    exact ⟨visible, undeleted⟩
  · right
    simp
    omega

end Authority

namespace Outbound

/-- The `Host` that stands in for a missing one: the authority of the target. -/
def standIn? (uri : Uri) : Option HeaderValue :=
  uri.authority?.bind fun name ↦ HeaderValue.ofBytes? (Utf8.encode name)

/-- The stand-in is the authority, letter by letter. -/
theorem map_bytes_standIn? {uri : Uri} (named : uri.HasLegalAuthority) :
    (standIn? uri).map HeaderValue.bytes = uri.authority?.map Utf8.encode := by
  unfold standIn?
  cases there : uri.authority? with
  | none => rfl
  | some name =>
    obtain ⟨value, bytes⟩ := Authority.exists_value_of_check (named name there)
    rw [Option.bind_some, HeaderValue.ofBytes?_eq_some_iff.mpr bytes, Option.map_some, bytes]
    rfl

/-- A missing `Host` is filled in, and a given one is left as it is. -/
theorem values_host_withHost (m : HeaderMap) (uri : Uri) :
    (withHost m uri).values .host =
      if m.values .host = [] then (standIn? uri).toList else m.values .host := by
  have present : m.contains .host = true ↔ ¬ m.values .host = [] := m.contains_iff .host
  unfold withHost
  by_cases missing : m.values .host = []
  · rw [if_pos missing, if_neg fun given ↦ present.mp given missing]
    unfold standIn?
    split
    · next none_ => rw [none_]; exact missing
    · next value some_ => rw [some_, HeaderMap.values_insert, if_pos rfl]; rfl
  · rw [if_neg missing, if_pos (present.mpr missing)]

/-- The hosts of a request that is sent on are what is left of those that came in; if nothing is,
the stand-in. -/
theorem values_host_statedHeaders (head : RequestHead) (upgrade : Option HeaderValue)
    (payload : Option Bytes) : (statedHeaders head upgrade payload).values .host =
      if (HopByHop.strip head.headers).values .host = [] then (standIn? head.uri).toList
      else (HopByHop.strip head.headers).values .host := by
  have upgraded : (withUpgrade (HopByHop.strip head.headers) upgrade).values .host =
      (HopByHop.strip head.headers).values .host := by
    rw [values_withUpgrade]
    cases upgrade <;> rfl
  unfold statedHeaders
  dsimp only
  rw [values_withLength, if_neg (by decide), values_host_withHost]
  by_cases welcome : HopByHop.acceptsTrailers head.headers = true
  · have other : ¬ HeaderName.te = .host := by decide
    rw [if_pos welcome, HeaderMap.values_insert, if_neg other, upgraded]
  · rw [if_neg welcome, upgraded]

/-- The hosts that came in are left unless they are nominated. -/
theorem values_host_strip (m : HeaderMap) :
    (m.Lists .connection HeaderName.host.bytes → (HopByHop.strip m).values .host = []) ∧
    (¬ m.Lists .connection HeaderName.host.bytes →
      (HopByHop.strip m).values .host = m.values .host) := by
  have fixed : HeaderName.host ∉ HopByHop.names := by decide
  have stays := (staysBehind_iff m .host).trans (or_iff_right fixed)
  rw [HopByHop.values_strip]
  exact ⟨fun listed ↦ if_pos (stays.mpr listed), fun unlisted ↦ if_neg (unlisted ∘ stays.mp)⟩

/-- A request that is sent on names the hosts that came in, or else the authority of its target. -/
structure KeepsHost (head : RequestHead) (out : Outbound) : Prop where
  kept : head.headers.values .host ≠ [] →
    out.headers.values .host = head.headers.values .host
  filled : head.headers.values .host = [] → ∀ name, head.uri.authority? = some name →
    ∃ value, value.bytes = Utf8.encode name ∧ out.headers.values .host = [value]

/-- A request keeps its hosts unless it nominates them: then they are gone, and the authority of the
target stands in for them, which is harmless only if there were none or it was the one. -/
theorem keepsHost_iff {head : RequestHead} {payload : Option Bytes} {address : String}
    {out : Outbound} (named : head.uri.HasLegalAuthority)
    (h : ofHead head payload address = .ok out) :
    (KeepsHost head out ↔ (head.headers.Lists .connection HeaderName.host.bytes →
      head.headers.values .host = [] ∨ (head.headers.values .host).map HeaderValue.bytes =
        (head.uri.authority?.map Utf8.encode).toList)) ∧
    (head.headers.Lists .connection HeaderName.host.bytes →
      (out.headers.values .host).map HeaderValue.bytes =
        (head.uri.authority?.map Utf8.encode).toList) := by
  have hosts : out.headers.values .host =
      if (HopByHop.strip head.headers).values .host = [] then (standIn? head.uri).toList
      else (HopByHop.strip head.headers).values .host := by
    rw [(ofHead_eq_ok h).2.2.2.2, values_host_statedHeaders]
  have authority := map_bytes_standIn? named
  obtain ⟨taken, left⟩ := values_host_strip head.headers
  have nominated : head.headers.Lists .connection HeaderName.host.bytes →
      out.headers.values .host = (standIn? head.uri).toList := by
    intro listed
    rw [hosts, if_pos (taken listed)]
  have bytes : (standIn? head.uri).toList.map HeaderValue.bytes =
      (head.uri.authority?.map Utf8.encode).toList := by
    rw [← authority, Option.toList_map]
  refine ⟨⟨fun keeps listed ↦ ?_, fun harmless ↦ ⟨fun given ↦ ?_, fun missing name there ↦ ?_⟩⟩,
    fun listed ↦ ?_⟩
  · by_cases missing : head.headers.values .host = []
    · exact .inl missing
    · right
      rw [← keeps.kept missing, nominated listed, bytes]
  · by_cases listed : head.headers.Lists .connection HeaderName.host.bytes
    · have same := (harmless listed).resolve_left given
      rw [← bytes] at same
      rw [nominated listed]
      exact ((List.map_inj_right fun _ _ ↦ HeaderValue.bytes_inj.mp).mp same).symm
    · rw [hosts, left listed, if_neg given]
  · have gone : (HopByHop.strip head.headers).values .host = [] := by
      by_cases listed : head.headers.Lists .connection HeaderName.host.bytes
      · exact taken listed
      · exact (left listed).trans missing
    obtain ⟨value, stands, same⟩ : ∃ value, standIn? head.uri = some value ∧
        value.bytes = Utf8.encode name := by
      rw [there] at authority
      exact Option.map_eq_some_iff.mp authority
    refine ⟨value, same, ?_⟩
    rw [hosts, if_pos gone, stands]
    rfl
  · rw [nominated listed, bytes]

/-- A request for a target that nominates the host it names. -/
def nominating (uri : Uri) : RequestHead :=
  ⟨.get, uri, .http11, ⟨[(.host, ⟨Ascii.bytes "shop.example", by decide⟩),
    (.connection, ⟨Ascii.bytes "close, Host", by decide⟩)]⟩⟩

/-- The caller of such a request is left without a host, or with another one if its target names
one. -/
theorem not_keepsHost_nominating :
    (∃ out, ofHead (nominating (.origin ⟨"/cart", none⟩)) none "127.0.0.1:9000" = .ok out ∧
      out.headers.values .host = [] ∧
      ¬ KeepsHost (nominating (.origin ⟨"/cart", none⟩)) out) ∧
    ∃ out, ofHead (nominating (.absolute "http" "bank.example" ⟨"/cart", none⟩)) none
        "127.0.0.1:9000" = .ok out ∧
      (out.headers.values .host).map HeaderValue.bytes = [Ascii.bytes "bank.example"] ∧
      ¬ KeepsHost (nominating (.absolute "http" "bank.example" ⟨"/cart", none⟩)) out := by
  have listed (uri : Uri) :
      (nominating uri).headers.Lists .connection HeaderName.host.bytes := by
    rw [← HeaderMap.contains_tokens_iff]
    rfl
  constructor
  · have read : Uri.parse "/cart" = .ok (.origin ⟨"/cart", none⟩) := rfl
    have sent : ofHead (nominating (.origin ⟨"/cart", none⟩)) none "127.0.0.1:9000" = .ok _ := rfl
    obtain ⟨keeps, left⟩ := keepsHost_iff (Uri.hasLegalAuthority_of_parse read) sent
    refine ⟨_, sent, List.map_eq_nil_iff.mp (left (listed _)), fun kept ↦ ?_⟩
    exact absurd (keeps.mp kept (listed _)) (by decide)
  · have read : Uri.parse "http://bank.example/cart" =
        .ok (.absolute "http" "bank.example" ⟨"/cart", none⟩) := rfl
    have sent : ofHead (nominating (.absolute "http" "bank.example" ⟨"/cart", none⟩)) none
        "127.0.0.1:9000" = .ok _ := rfl
    obtain ⟨keeps, left⟩ := keepsHost_iff (Uri.hasLegalAuthority_of_parse read) sent
    refine ⟨_, sent, left (listed _), fun kept ↦ ?_⟩
    exact absurd (keeps.mp kept (listed _)) (by decide)

end Outbound
end HttpGateway
