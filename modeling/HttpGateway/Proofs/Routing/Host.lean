import HttpGateway.Proofs.Outbound.Target
import HttpGateway.Proofs.Routing.Choice

/-!
# The host that a request is for

A host is configured as a name or as an address in brackets, with a port or without. Which host a
request is for does not depend on a port and on the case of letters, and not on the user info in
front of a host that is named by the target alone. Matching a request leaves out its port and the
case of letters, but two things it does not leave out: a port that is configured, which no request
ever meets, and the user info, so that a user may be taken for the host.
-/

namespace HttpGateway

namespace Ascii

/-- Folding neither makes nor takes away a byte that is no letter. -/
theorem lower_eq_iff {b sep : UInt8} (lower_ : isLower sep = false) (upper : isUpper sep = false) :
    lower b = sep ↔ b = sep := by
  have small : ∀ b, isUpper b = true → isLower (b + 32) = true :=
    forall_byte (by decide +kernel)
  unfold lower
  split
  · next capital =>
    constructor
    · rintro rfl
      rw [small b capital] at lower_
      cases lower_
    · rintro rfl
      rw [capital] at upper
      cases upper
  · rfl

/-- A byte that is no letter stands in a folded string where it stood before. -/
theorem mem_lowerAll_iff {s : Bytes} {sep : UInt8} (lower_ : isLower sep = false)
    (upper : isUpper sep = false) : sep ∈ lowerAll s ↔ sep ∈ s := by
  unfold lowerAll
  simp only [List.mem_map, lower_eq_iff lower_ upper, exists_eq_right]

/-- Folding goes part by part. -/
theorem lowerAll_append (s t : Bytes) : lowerAll (s ++ t) = lowerAll s ++ lowerAll t :=
  List.map_append

end Ascii

namespace Host

/-! ## Hosts and ports -/

/-- The host in a text of a host and a port: what stands in front of the first colon, or an address
with its brackets; an address whose bracket is not closed is all of the text. -/
inductive IsHostOf : (host text : Bytes) → Prop
  | name {host rest : Bytes} : host.head? ≠ some (Ascii.byte '[') → Ascii.byte ':' ∉ host →
    (rest = [] ∨ ∃ port, rest = Ascii.byte ':' :: port) → IsHostOf host (host ++ rest)
  | address {inside rest : Bytes} : Ascii.byte ']' ∉ inside →
    IsHostOf (Ascii.byte '[' :: inside ++ [Ascii.byte ']'])
      (Ascii.byte '[' :: inside ++ Ascii.byte ']' :: rest)
  | unclosed {inside : Bytes} : Ascii.byte ']' ∉ inside →
    IsHostOf (Ascii.byte '[' :: inside) (Ascii.byte '[' :: inside)

private theorem withoutPort_of_head?_ne {text : Bytes} (h : text.head? ≠ some (Ascii.byte '[')) :
    withoutPort text = (Ascii.cut (Ascii.byte ':') text).1 := by
  unfold withoutPort
  split
  · exact absurd rfl h
  · rfl

private theorem withoutPort_address {inside : Bytes} (h : Ascii.byte ']' ∉ inside) (rest : Bytes) :
    withoutPort (Ascii.byte '[' :: inside ++ Ascii.byte ']' :: rest) =
      Ascii.byte '[' :: inside ++ [Ascii.byte ']'] := by
  have open_ : Ascii.byte ']' ∉ Ascii.byte '[' :: inside :=
    List.not_mem_cons_of_ne_of_not_mem (by decide) h
  have cut : Ascii.cut (Ascii.byte ']') (91 :: (inside ++ Ascii.byte ']' :: rest)) =
      (Ascii.byte '[' :: inside, some rest) := Ascii.cut_append open_ rest
  change withoutPort (91 :: (inside ++ Ascii.byte ']' :: rest)) = _
  rw [withoutPort, cut]

private theorem withoutPort_unclosed {inside : Bytes} (h : Ascii.byte ']' ∉ inside) :
    withoutPort (Ascii.byte '[' :: inside) = Ascii.byte '[' :: inside := by
  have open_ : Ascii.byte ']' ∉ Ascii.byte '[' :: inside :=
    List.not_mem_cons_of_ne_of_not_mem (by decide) h
  have cut : Ascii.cut (Ascii.byte ']') (91 :: inside) = (Ascii.byte '[' :: inside, none) :=
    Ascii.cut_of_not_mem open_
  change withoutPort (91 :: inside) = _
  rw [withoutPort, cut]
  rfl

/-- Leaving out the port leaves the host. -/
theorem IsHostOf.withoutPort_eq {host text : Bytes} (h : IsHostOf host text) :
    withoutPort text = host := by
  cases h with
  | @name host rest bare plain ends =>
    have starts : (host ++ rest).head? ≠ some (Ascii.byte '[') := by
      rw [List.head?_append]
      cases host with
      | cons b host => exact bare
      | nil =>
        rcases ends with rfl | ⟨port, rfl⟩
        · exact nofun
        · exact fun same ↦ absurd (Option.some.inj same) (by decide)
    rw [withoutPort_of_head?_ne starts]
    exact Ascii.cut_fst_eq_iff.mpr ⟨plain, rest, rfl, ends⟩
  | address open_ => exact withoutPort_address open_ _
  | unclosed open_ => exact withoutPort_unclosed open_

/-- There is a host in every text. -/
theorem isHostOf_withoutPort (text : Bytes) : IsHostOf (withoutPort text) text := by
  by_cases opens : text.head? = some (Ascii.byte '[')
  · obtain ⟨inside, rfl⟩ := List.head?_eq_some_iff.mp opens
    by_cases closes : Ascii.byte ']' ∈ inside
    · obtain ⟨address, rest, rfl, open_⟩ := List.eq_append_cons_of_mem closes
      rw [← List.cons_append, withoutPort_address open_]
      exact .address open_
    · rw [withoutPort_unclosed closes]
      exact .unclosed closes
  · rw [withoutPort_of_head?_ne opens]
    obtain ⟨host, cut⟩ : ∃ host, (Ascii.cut (Ascii.byte ':') text).1 = host := ⟨_, rfl⟩
    rw [cut]
    obtain ⟨plain, rest, rfl, ends⟩ := Ascii.cut_fst_eq_iff.mp cut
    refine .name (fun starts ↦ opens ?_) plain ends
    rw [List.head?_append, starts]
    rfl

/-- A text has one host. -/
theorem IsHostOf.unique {host other text : Bytes} (h : IsHostOf host text)
    (h' : IsHostOf other text) : host = other :=
  h.withoutPort_eq.symm.trans h'.withoutPort_eq

/-- A host alone is the host. -/
theorem IsHostOf.self {host text : Bytes} (h : IsHostOf host text) : IsHostOf host host := by
  cases h with
  | name bare plain _ =>
    have alone := IsHostOf.name bare plain (.inl rfl)
    rwa [List.append_nil] at alone
  | address open_ => exact .address open_
  | unclosed open_ => exact .unclosed open_

private theorem byte_mem_lowerAll_iff (s : Bytes) :
    (Ascii.byte ':' ∈ Ascii.lowerAll s ↔ Ascii.byte ':' ∈ s) ∧
      (Ascii.byte ']' ∈ Ascii.lowerAll s ↔ Ascii.byte ']' ∈ s) :=
  ⟨Ascii.mem_lowerAll_iff (by decide) (by decide), Ascii.mem_lowerAll_iff (by decide) (by decide)⟩

/-- Folding the letters of a text folds those of its host. -/
theorem IsHostOf.lowerAll {host text : Bytes} (h : IsHostOf host text) :
    IsHostOf (Ascii.lowerAll host) (Ascii.lowerAll text) := by
  cases h with
  | @name host rest bare plain ends =>
    rw [Ascii.lowerAll_append]
    refine .name (fun starts ↦ bare ?_) (mt (byte_mem_lowerAll_iff host).1.mp plain) ?_
    · rw [Ascii.lowerAll, List.head?_map, Option.map_eq_some_iff] at starts
      obtain ⟨b, first, folds⟩ := starts
      rw [first, (Ascii.lower_eq_iff (by decide) (by decide)).mp folds]
    · rcases ends with rfl | ⟨port, rfl⟩
      · exact .inl rfl
      · exact .inr ⟨Ascii.lowerAll port, rfl⟩
  | @address inside rest open_ =>
    rw [Ascii.lowerAll_append, Ascii.lowerAll_append]
    exact .address (mt (byte_mem_lowerAll_iff inside).2.mp open_)
  | @unclosed inside open_ => exact .unclosed (mt (byte_mem_lowerAll_iff inside).2.mp open_)

/-! ## Configured hosts -/

/-- A name of letters, digits, dots and hyphens, or an address of these and colons in brackets. -/
def IsName (host : List Char) : Prop :=
  (∀ c ∈ host, Authority.isHostChar c = true) ∨
    ∃ inside, host = '[' :: inside ++ [']'] ∧
      ∀ c ∈ inside, Authority.isHostChar c = true ∨ c = ':'

/-- A host as it is configured: a name or an address, with a port or without. -/
structure Configured where
  host : String
  port : Option String
  named : IsName host.toList
  numbered : ∀ digits, port = some digits → ∀ c ∈ digits.toList, c.isDigit = true

/-- A configured host as it is written. -/
def Configured.text (c : Configured) : String :=
  match c.port with
  | none => c.host
  | some digits => c.host ++ ":" ++ digits

private theorem isHostChar_of_isDigit {c : Char} (h : c.isDigit = true) :
    Authority.isHostChar c = true := by
  simp [Authority.isHostChar, Char.isAlphanum, h]

private theorem toNat_lt_of_isHostChar {c : Char} (h : Authority.isHostChar c = true) :
    c.toNat < 128 := by
  simp only [Authority.isHostChar, Bool.or_eq_true, beq_iff_eq] at h
  rcases h with (h | rfl) | rfl
  · have letter := toNat_of_isAlphanum h
    omega
  · decide
  · decide

/-- The characters of a configured host are ASCII. -/
theorem Configured.toNat_lt (c : Configured) : ∀ d ∈ c.text.toList, d.toNat < 128 := by
  have host : ∀ d ∈ c.host.toList, d.toNat < 128 := by
    intro d mem
    rcases c.named with plain | ⟨inside, written, plain⟩
    · exact toNat_lt_of_isHostChar (plain d mem)
    · rw [written] at mem
      simp only [List.cons_append, List.mem_cons, List.mem_append, List.not_mem_nil, or_false]
        at mem
      rcases mem with rfl | mem | rfl
      · decide
      · rcases plain d mem with plain | rfl
        · exact toNat_lt_of_isHostChar plain
        · decide
      · decide
  intro d mem
  unfold text at mem
  split at mem
  · exact host d mem
  · next digits there =>
    rw [String.toList_append, String.toList_append, List.mem_append, List.mem_append] at mem
    rcases mem with (mem | mem) | mem
    · exact host d mem
    · rw [List.mem_singleton.mp mem]
      decide
    · exact toNat_lt_of_isHostChar (isHostChar_of_isDigit (c.numbered digits there d mem))

private theorem byte_ne_of_isHostChar {c d : Char} (h : Authority.isHostChar c = true)
    (ascii : d.toNat < 128) (other : Authority.isHostChar d = false) :
    Ascii.byte c ≠ Ascii.byte d := by
  have below := toNat_lt_of_isHostChar h
  intro same
  have numbers : c.toNat % 256 = d.toNat % 256 := by
    simpa [Ascii.byte] using congrArg UInt8.toNat same
  have same : c = d := Char.toNat_inj.mp (by omega)
  rw [same, other] at h
  cases h

private theorem byte_not_mem_bytes {cs : List Char} {d : Char}
    (h : ∀ c ∈ cs, Ascii.byte c ≠ Ascii.byte d) : Ascii.byte d ∉ cs.map Ascii.byte := by
  rw [List.mem_map]
  rintro ⟨c, mem, same⟩
  exact h c mem same

/-- The host of what is written is the configured one. -/
theorem Configured.isHostOf_text (c : Configured) :
    IsHostOf (Ascii.bytes c.host) (Ascii.bytes c.text) := by
  obtain ⟨rest, ends, written⟩ : ∃ rest,
      (rest = [] ∨ ∃ port, rest = Ascii.byte ':' :: port) ∧
        Ascii.bytes c.text = Ascii.bytes c.host ++ rest := by
    unfold text Ascii.bytes
    split
    · exact ⟨[], .inl rfl, (List.append_nil _).symm⟩
    · next digits _ =>
      refine ⟨Ascii.byte ':' :: digits.toList.map Ascii.byte, .inr ⟨_, rfl⟩, ?_⟩
      simp [String.toList_append]
  rw [written]
  unfold Ascii.bytes
  rcases c.named with plain | ⟨inside, bracketed, plain⟩
  · refine .name ?_ ?_ ends
    · rw [List.head?_map]
      intro starts
      obtain ⟨d, first, same⟩ := Option.map_eq_some_iff.mp starts
      exact byte_ne_of_isHostChar (plain d (List.mem_of_mem_head? first)) (by decide) (by decide)
        same
    · exact byte_not_mem_bytes fun d mem ↦
        byte_ne_of_isHostChar (plain d mem) (by decide) (by decide)
  · have open_ : Ascii.byte ']' ∉ inside.map Ascii.byte := by
      refine byte_not_mem_bytes fun d mem ↦ ?_
      rcases plain d mem with plain | rfl
      · exact byte_ne_of_isHostChar plain (by decide) (by decide)
      · decide
    rw [bracketed, List.map_append, List.map_cons, List.append_assoc]
    exact .address open_

private theorem map_lower_encodeChar_fold {c : Char} (h : c.toNat < 128) :
    (String.utf8EncodeChar (fold c)).map Ascii.lower = [Ascii.lower (Ascii.byte c)] := by
  have all : ∀ n < 128, (String.utf8EncodeChar (fold (Char.ofNat n))).map Ascii.lower =
      [Ascii.lower (Ascii.byte (Char.ofNat n))] := by decide +kernel
  have here := all c.toNat h
  rwa [Char.ofNat_toNat] at here

/-- A host of ASCII characters is compared as it is written, letters without case. -/
theorem lowerAll_expected {host : String} (ascii : ∀ c ∈ host.toList, c.toNat < 128) :
    Ascii.lowerAll (expected host) = Ascii.lowerAll (Ascii.bytes host) := by
  unfold expected Utf8.encode Ascii.bytes
  rw [String.toList_ofList]
  generalize host.toList = cs at ascii
  induction cs with
  | nil => rfl
  | cons c cs ih =>
    rw [List.forall_mem_cons] at ascii
    rw [List.map_cons, List.flatMap_cons, Ascii.lowerAll_append, ih ascii.2]
    unfold Ascii.lowerAll
    rw [map_lower_encodeChar_fold ascii.1]
    rfl

/-! ## The host of a request -/

/-- What stands in an authority behind the user info; all of it if there is none. -/
def IsBehindUserInfo (rest authority : Bytes) : Prop :=
  Ascii.byte '@' ∉ rest ∧
    (authority = rest ∨ ∃ info, authority = info ++ Ascii.byte '@' :: rest)

/-- A request head is for a host: the one in its first `Host` field, if that is text, or else the
one in the authority of its target, behind the user info. -/
inductive IsFor (head : RequestHead) : Bytes → Prop
  | field {value host : Bytes} :
    (head.headers.get? .host).bind HeaderValue.text? = some value → IsHostOf host value →
    IsFor head host
  | authority {name : String} {rest host : Bytes} :
    (head.headers.get? .host).bind HeaderValue.text? = none →
    head.uri.authority? = some name → IsBehindUserInfo rest (Utf8.encode name) →
    IsHostOf host rest → IsFor head host

/-- A request head has user info in front of a host that only the authority of its target names. -/
def HasUserInfo (head : RequestHead) : Prop :=
  (head.headers.get? .host).bind HeaderValue.text? = none ∧
    ∃ name, head.uri.authority? = some name ∧ Ascii.byte '@' ∈ Utf8.encode name

/-- A request head seems to be for a host: user info is taken for a part of the host. -/
def SeemsFor (head : RequestHead) (host : Bytes) : Prop :=
  ∃ text, named? head = some text ∧ IsHostOf host text

/-- One part of an authority is behind the user info. -/
theorem IsBehindUserInfo.unique {rest other authority : Bytes}
    (h : IsBehindUserInfo rest authority) (h' : IsBehindUserInfo other authority) :
    rest = other := by
  -- Read from its end, the authority is cut at the last at-sign.
  have cut : ∀ {rest : Bytes}, IsBehindUserInfo rest authority →
      (Ascii.cut (Ascii.byte '@') authority.reverse).1 = rest.reverse := by
    rintro rest ⟨without, whole⟩
    refine Ascii.cut_fst_eq_iff.mpr ⟨mt List.mem_reverse.mp without, ?_⟩
    rcases whole with rfl | ⟨info, rfl⟩
    · exact ⟨[], (List.append_nil _).symm, .inl rfl⟩
    · exact ⟨Ascii.byte '@' :: info.reverse, by simp, .inr ⟨_, rfl⟩⟩
  exact List.reverse_inj.mp ((cut h).symm.trans (cut h'))

/-- A request is for one host. -/
theorem IsFor.unique {head : RequestHead} {host other : Bytes} (h : IsFor head host)
    (h' : IsFor head other) : host = other := by
  cases h with
  | field there part =>
    cases h' with
    | field there' part' =>
      rw [there] at there'
      cases there'
      exact part.unique part'
    | authority none_ => rw [there] at none_; cases none_
  | authority none_ there behind part =>
    cases h' with
    | field there' => rw [none_] at there'; cases there'
    | authority _ there' behind' part' =>
      rw [there] at there'
      cases there'
      cases behind.unique behind'
      exact part.unique part'

/-- Without user info a request is for the host that it seems to be for. -/
theorem seemsFor_iff {head : RequestHead} (clean : ¬ HasUserInfo head) (host : Bytes) :
    SeemsFor head host ↔ IsFor head host := by
  unfold SeemsFor named?
  constructor
  · rintro ⟨text, there, part⟩
    cases field : (head.headers.get? .host).bind HeaderValue.text? with
    | some value =>
      rw [field] at there
      cases there
      exact .field field part
    | none =>
      rw [field] at there
      obtain ⟨name, named, rfl⟩ := Option.map_eq_some_iff.mp there
      have plain : Ascii.byte '@' ∉ Utf8.encode name := fun mem ↦ clean ⟨field, name, named, mem⟩
      exact .authority field named ⟨plain, .inl rfl⟩ part
  · rintro (⟨field, part⟩ | ⟨none_, named, ⟨-, rfl | ⟨info, whole⟩⟩, part⟩)
    · exact ⟨_, by rw [field], part⟩
    · exact ⟨_, by rw [none_, named]; rfl, part⟩
    · refine absurd ⟨none_, _, named, ?_⟩ clean
      rw [whole]
      exact List.mem_append_right info List.mem_cons_self

/-- Configured is the host of a request. -/
def Configured.Meant (c : Configured) (head : RequestHead) : Prop :=
  ∃ host, IsFor head host ∧ Ascii.eqIgnoreCase host (Ascii.bytes c.host) = true

/-- Configured is the host that a request seems to be for. -/
def Configured.SeemsMeant (c : Configured) (head : RequestHead) : Prop :=
  ∃ host, SeemsFor head host ∧ Ascii.eqIgnoreCase host (Ascii.bytes c.host) = true

/-- A configured host accepts the requests that seem to be for it, unless it has a port: then it
accepts none. -/
theorem Configured.accepts_text_iff (c : Configured) (head : RequestHead) :
    accepts c.text head = true ↔ c.port = none ∧ c.SeemsMeant head := by
  have compared := lowerAll_expected c.toNat_lt
  unfold SeemsMeant SeemsFor accepts
  constructor
  · intro same
    split at same
    · cases same
    · next value named =>
      rw [Ascii.eqIgnoreCase_iff, compared] at same
      have part := isHostOf_withoutPort value
      -- What is compared has no port, so what is written has none.
      have alone := part.self.lowerAll
      rw [same] at alone
      have bare := alone.unique c.isHostOf_text.lowerAll
      refine ⟨?_, _, ⟨value, named, part⟩, Ascii.eqIgnoreCase_iff.mpr (same.trans bare)⟩
      have long := congrArg List.length bare
      unfold text Ascii.lowerAll Ascii.bytes at long
      split at long
      · assumption
      · simp [String.toList_append] at long
  · rintro ⟨free, host, ⟨value, named, part⟩, same⟩
    have written : c.text = c.host := by
      unfold text
      rw [free]
    rw [named]
    dsimp only
    rw [part.withoutPort_eq, Ascii.eqIgnoreCase_iff, compared, written]
    exact Ascii.eqIgnoreCase_iff.mp same

/-- Requests that seem to be for one host, but for the case of letters, are accepted alike. -/
theorem accepts_congr {head other : RequestHead} {host host' : Bytes} (h : SeemsFor head host)
    (h' : SeemsFor other host') (same : Ascii.eqIgnoreCase host host' = true)
    (configured : String) : accepts configured other = accepts configured head := by
  obtain ⟨value, named, part⟩ := h
  obtain ⟨value', named', part'⟩ := h'
  unfold accepts
  rw [named, named']
  dsimp only
  rw [part.withoutPort_eq, part'.withoutPort_eq]
  unfold Ascii.eqIgnoreCase
  rw [Ascii.eqIgnoreCase_iff.mp same]

/-- A configured host accepts exactly the requests that are for it. -/
def Configured.Fits (c : Configured) (head : RequestHead) : Prop :=
  accepts c.text head = true ↔ c.Meant head

/-- A configured host accepts those requests that are for it, unless it has a port, and then it
accepts none, not even one whose `Host` is written as it is; or the request has user info, and then
what seems to be its host counts. Apart from user info, requests for one host go one way, whatever
their ports and the case of their letters. -/
theorem Configured.fits_iff (c : Configured) (head : RequestHead) :
    (c.Fits head ↔ (c.port ≠ none → ¬ c.Meant head) ∧
      (c.port = none → HasUserInfo head → (c.SeemsMeant head ↔ c.Meant head))) ∧
    (accepts c.text head = true ↔ c.port = none ∧ c.SeemsMeant head) ∧
    ((head.headers.get? .host).bind HeaderValue.text? = some (Ascii.bytes c.text) →
      c.Meant head ∧ (accepts c.text head = true ↔ c.port = none)) ∧
    ∀ other host host', ¬ HasUserInfo head → ¬ HasUserInfo other → IsFor head host →
      IsFor other host' → Ascii.eqIgnoreCase host host' = true →
      other.uri.path = head.uri.path → ∀ t : RouteTable, t.find? other = t.find? head := by
  have accepted := c.accepts_text_iff head
  refine ⟨?_, accepted, fun written ↦ ?_, ?_⟩
  · unfold Fits
    rw [accepted]
    by_cases free : c.port = none
    · by_cases info : HasUserInfo head
      · simp [free, info]
      · have same : c.SeemsMeant head ↔ c.Meant head := by
          unfold SeemsMeant Meant
          simp only [seemsFor_iff info]
        simp [free, info, same]
    · simp [free]
  · have same : Ascii.eqIgnoreCase (Ascii.bytes c.host) (Ascii.bytes c.host) = true :=
      Ascii.eqIgnoreCase_iff.mpr rfl
    refine ⟨⟨_, .field written c.isHostOf_text, same⟩, accepted.trans (and_iff_left ?_)⟩
    refine ⟨_, ⟨_, ?_, c.isHostOf_text⟩, same⟩
    unfold named?
    rw [written]
  · intro other host host' clean clean' isFor isFor' same path t
    have alike := accepts_congr ((seemsFor_iff clean host).mpr isFor)
      ((seemsFor_iff clean' host').mpr isFor') same
    unfold RouteTable.find? Route.accepts
    rw [path]
    simp only [alike]

/-- A host with a port, and two without. -/
def secured : Configured :=
  ⟨"api.example.com", some "8443", .inl (List.all_eq_true.mp rfl), by
    rintro _ ⟨⟩
    exact List.all_eq_true.mp rfl⟩
@[inherit_doc secured] def shop : Configured :=
  ⟨"shop.example", none, .inl (List.all_eq_true.mp rfl), nofun⟩
@[inherit_doc secured] def bank : Configured :=
  ⟨"bank.example", none, .inl (List.all_eq_true.mp rfl), nofun⟩

/-- A request that names a host in its `Host` field. -/
def asking (host : HeaderValue) : RequestHead :=
  ⟨.get, .origin ⟨"/", none⟩, .http11, ⟨[(.host, host)]⟩⟩

/-- A request whose target alone names a host. -/
def calling (authority : String) : RequestHead :=
  ⟨.get, .absolute "http" authority ⟨"/cart", none⟩, .http2, .empty⟩

private theorem isFor_calling (authority : String) (info : Bytes) {host part : Bytes}
    (without : Ascii.byte '@' ∉ host)
    (written : Utf8.encode authority = info ++ Ascii.byte '@' :: host)
    (h : IsHostOf part host) :
    HasUserInfo (calling authority) ∧ IsFor (calling authority) part := by
  refine ⟨⟨rfl, authority, rfl, ?_⟩, .authority rfl rfl ⟨without, .inr ⟨info, written⟩⟩ h⟩
  rw [written]
  exact List.mem_append_right info List.mem_cons_self

/-- The host with a port does not accept the request that names it as it is written, the shop does
not accept a request for it that has user info, and the bank accepts one that is for the shop. -/
theorem not_fits_secured :
    ¬ secured.Fits (asking ⟨Ascii.bytes "api.example.com:8443", by decide⟩) ∧
    ¬ shop.Fits (calling "guest@shop.example") ∧
    (accepts bank.text (calling "bank.example:pin@shop.example") = true ∧
      ¬ bank.Fits (calling "bank.example:pin@shop.example")) := by
  have taken : accepts bank.text (calling "bank.example:pin@shop.example") = true := rfl
  refine ⟨fun fits ↦ ?_, fun fits ↦ ?_, taken, fun fits ↦ ?_⟩
  · obtain ⟨exactly, -, literally, -⟩ :=
      secured.fits_iff (asking ⟨Ascii.bytes "api.example.com:8443", by decide⟩)
    exact (exactly.mp fits).1 nofun (literally rfl).1
  · obtain ⟨exactly, accepted, -⟩ := shop.fits_iff (calling "guest@shop.example")
    obtain ⟨info, isFor⟩ := isFor_calling "guest@shop.example"
      (Ascii.bytes "guest") (by decide) rfl shop.isHostOf_text
    have seems := ((exactly.mp fits).2 rfl info).mpr ⟨_, isFor, rfl⟩
    exact absurd (accepted.mpr ⟨rfl, seems⟩) nofun
  · obtain ⟨exactly, accepted, -⟩ := bank.fits_iff (calling "bank.example:pin@shop.example")
    obtain ⟨info, isFor⟩ := isFor_calling "bank.example:pin@shop.example"
      (Ascii.bytes "bank.example:pin") (by decide) rfl shop.isHostOf_text
    obtain ⟨host, isFor', same⟩ := ((exactly.mp fits).2 rfl info).mp (accepted.mp taken).2
    cases isFor.unique isFor'
    exact absurd same nofun

end Host
end HttpGateway
