import HttpGateway.Proofs.Outbound.Headers
import HttpGateway.Proofs.Uri.Legal

/-!
# The target of the request sent on

Where a request that is sent on goes. The text of its target is the address with the caller's path
and query behind it, and is read again: what stands in front of the first slash or question mark is
the authority. So the address stays as it is, and path and query are the caller's, if these start
with one of the two. The asterisk does not: it becomes a part of the authority.
-/

namespace HttpGateway

namespace Authority

/-- A letter, a digit, a dot or a hyphen. -/
def isHostChar (c : Char) : Bool := c.isAlphanum || c == '.' || c == '-'

/-- A character that stands in an authority for itself. -/
def isPlain (c : Char) : Bool := isHostChar c || c == '*'

private theorem isPlain_ne {c d : Char} (h : isPlain c = true) (hd : isPlain d = false) :
    c ≠ d := by
  intro e
  rw [e, hd] at h
  cases h

/-- Nothing is to be remembered of a plain character. -/
theorem step_of_isPlain (seen : Seen) {c : Char} (h : isPlain c = true) :
    seen.step c = .ok seen := by
  have legal : isChar c = true := by
    simp only [isPlain, isHostChar, Bool.or_eq_true, beq_iff_eq] at h
    rcases h with ((h | rfl) | rfl) | rfl
    · rw [isChar, h]
      rfl
    · decide
    · decide
    · decide
  unfold Seen.step
  split
  · exact absurd rfl (isPlain_ne h (by decide))
  · exact absurd rfl (isPlain_ne h (by decide))
  · exact absurd rfl (isPlain_ne h (by decide))
  · exact absurd rfl (isPlain_ne h (by decide))
  · exact absurd rfl (isPlain_ne h (by decide))
  · rw [if_pos legal]

private theorem foldlM_of_isPlain (seen : Seen) {cs : List Char} (h : ∀ c ∈ cs, isPlain c = true) :
    cs.foldlM Seen.step seen = .ok seen := by
  induction cs with
  | nil => rfl
  | cons c cs ih =>
    rw [List.foldlM_cons, step_of_isPlain seen (h c List.mem_cons_self)]
    exact ih fun d hd ↦ h d (List.mem_cons_of_mem c hd)

/-- Plain characters with one colon among them are an authority. -/
theorem check_of_isPlain {host port : List Char} (hh : ∀ c ∈ host, isPlain c = true)
    (hp : ∀ c ∈ port, isPlain c = true) : check (host ++ ':' :: port) = .ok () := by
  have last : (host ++ ':' :: port).getLast? ≠ some '@' := by
    intro h
    rcases List.mem_append.mp (List.mem_of_getLast? h) with hm | hm
    · exact isPlain_ne (hh _ hm) (by decide) rfl
    · rcases List.mem_cons.mp hm with hm | hm
      · cases hm
      · exact isPlain_ne (hp _ hm) (by decide) rfl
  have seen : (host ++ ':' :: port).foldlM Seen.step ⟨0, false, false, false⟩ =
      .ok ⟨1, false, false, false⟩ := by
    rw [List.foldlM_append, foldlM_of_isPlain _ hh]
    exact foldlM_of_isPlain ⟨1, false, false, false⟩ hp
  unfold check
  rw [seen]
  change (if _ then _ else _) = _
  rw [if_neg]
  · rfl
  · simpa using last

end Authority

namespace Uri

private theorem splitScheme_http (rest : List Char) :
    splitScheme ("http://".toList ++ rest) = .ok (some ("http", rest)) := by
  have front : ∀ c ∈ "http".toList, isSchemeChar c = true := List.all_eq_true.mp (by decide)
  have ends := span_append ("://".toList ++ rest) front (by
    intro c tail h
    cases h
    decide)
  have whole : "http://".toList ++ rest = "http".toList ++ ("://".toList ++ rest) := rfl
  unfold splitScheme
  dsimp only
  rw [whole, ends.1, ends.2]
  rfl

/-- A text that names the scheme and an authority is read so: up to the first slash, question mark
or number sign stands the authority, and from there on path and query. -/
theorem parse_http {s : String} {name after : List Char} {t : PathQuery} (hn : name ≠ [])
    (hc : Authority.check name = .ok ()) (he : ∀ c ∈ name, Authority.isEnd c = false)
    (ha : ∀ c tail, after = c :: tail → Authority.isEnd c = true)
    (ht : PathQuery.parse after = .ok t) (hs : s.toList = "http://".toList ++ (name ++ after))
    (hl : s.utf8ByteSize ≤ maxBytes) : parse s = .ok (.absolute "http" (String.ofList name) t) := by
  have ends := span_append (p := fun c ↦ !Authority.isEnd c) after
    (fun c h ↦ by rw [he c h]; rfl) (fun c tail h ↦ by rw [ha c tail h]; rfl)
  have full : parse s = parseFull ("http://".toList ++ (name ++ after)) := by
    unfold parse
    rw [if_neg (Nat.not_lt.mpr hl), hs]
    rfl
  have there : name.isEmpty = false := by
    cases name with
    | nil => exact absurd rfl hn
    | cons c name => rfl
  rw [full]
  unfold parseFull
  rw [splitScheme_http]
  simp only [bind, Except.bind]
  rw [ends.1, ends.2, hc]
  simp only [there, ht]
  rfl

/-- A text that is read is not too long. -/
theorem utf8ByteSize_of_parse {s : String} {uri : Uri} (h : parse s = .ok uri) :
    s.utf8ByteSize ≤ maxBytes := by
  unfold parse at h
  split at h
  · cases h
  · next hl => exact Nat.not_lt.mp hl

end Uri

namespace Outbound

/-- An address of a host and a port: letters, digits, dots and hyphens, then a colon and digits. -/
def IsHostPort (address : String) : Prop :=
  ∃ host port, address.toList = host ++ ':' :: port ∧
    (∀ c ∈ host, Authority.isHostChar c = true) ∧ ∀ c ∈ port, c.isDigit = true

/-- A target on the server at an address, with the path and the query of another target; with the
root path if that has none. -/
def GoesTo (address : String) (inbound outbound : Uri) : Prop :=
  ∃ t, outbound = .absolute "http" address t ∧
    outbound.path = (if inbound.path = "" then "/" else inbound.path) ∧
    outbound.query? = inbound.query?

private theorem isPlain_of_host {c : Char} (h : Authority.isHostChar c = true) :
    Authority.isPlain c = true := by
  rw [Authority.isPlain, h]
  rfl

private theorem isPlain_of_port {c : Char} (h : c.isDigit = true) : Authority.isPlain c = true := by
  apply isPlain_of_host
  rw [Authority.isHostChar, Char.isAlphanum, h, Bool.or_true]
  rfl

private theorem isEnd_of_isPlain {c : Char} (h : Authority.isPlain c = true) :
    Authority.isEnd c = false := by
  cases he : Authority.isEnd c with
  | false => rfl
  | true =>
    have either : c = '/' ∨ c = '?' ∨ c = '#' := by
      simpa [Authority.isEnd, or_assoc] using he
    rcases either with rfl | rfl | rfl <;> exact absurd h (by decide)

/-- An address and plain characters behind it are an authority. -/
theorem IsHostPort.check {address : String} (h : IsHostPort address) {more : List Char}
    (hm : ∀ c ∈ more, Authority.isPlain c = true) :
    Authority.check (address.toList ++ more) = .ok () ∧
      ∀ c ∈ address.toList ++ more, Authority.isEnd c = false := by
  obtain ⟨host, port, ha, hh, hp⟩ := h
  have front : ∀ c ∈ host, Authority.isPlain c = true := fun c hc ↦ isPlain_of_host (hh c hc)
  have back : ∀ c ∈ port ++ more, Authority.isPlain c = true := by
    intro c hc
    rcases List.mem_append.mp hc with hc | hc
    · exact isPlain_of_port (hp c hc)
    · exact hm c hc
  rw [ha, List.append_assoc, List.cons_append]
  refine ⟨Authority.check_of_isPlain front back, ?_⟩
  intro c hc
  rcases List.mem_append.mp hc with hc | hc
  · exact isEnd_of_isPlain (front c hc)
  · rcases List.mem_cons.mp hc with rfl | hc
    · decide
    · exact isEnd_of_isPlain (back c hc)

private theorem pathQuery?_absolute (scheme name : String) {t : PathQuery} {c : Char}
    {rest : List Char} (h : t.text.toList = c :: rest) :
    (Uri.absolute scheme name t).pathQuery?.getD "/" = t.text := by
  have something : t.text.isEmpty ≠ true := by
    intro e
    rw [String.isEmpty_iff.mp e] at h
    cases h
  exact if_neg something

/-- The path and query that are written behind the address are the caller's when they are read
again, unless they are the asterisk. -/
theorem exists_pathQuery {uri : Uri} (h : uri.IsLegal) (hs : uri.pathQuery? ≠ some "*") :
    ∃ t, PathQuery.parse (uri.pathQuery?.getD "/").toList = .ok t ∧
      (∀ c tail, (uri.pathQuery?.getD "/").toList = c :: tail → Authority.isEnd c = true) ∧
      t.shownPath = (if uri.path = "" then "/" else uri.path) ∧ t.query = uri.query? := by
  have slash : PathQuery.parse "/".toList = .ok ⟨"/", none⟩ := rfl
  have slash_ends : ∀ c tail, "/".toList = c :: tail → Authority.isEnd c = true := by
    intro c tail hc
    cases hc
    decide
  have rooted_ends : ∀ {t : PathQuery}, t.IsRooted →
      ∀ c tail, t.text.toList = c :: tail → Authority.isEnd c = true := by
    intro t rooted c tail hc
    obtain ⟨rest, hr⟩ := rooted.text
    rw [hr] at hc
    cases hc
    decide
  cases uri with
  | origin t =>
    obtain ⟨legal, rooted⟩ := h
    refine ⟨t, legal.parse_text, rooted_ends rooted, ?_, rfl⟩
    rw [rooted.shownPath.2]
    exact (if_neg rooted.shownPath.1).symm
  | asterisk => exact absurd rfl hs
  | authority name => exact ⟨⟨"/", none⟩, slash, slash_ends, rfl, rfl⟩
  | absolute scheme name t =>
    obtain ⟨legal, empty | rooted | rfl⟩ := h
    · obtain ⟨path, query⟩ := t
      cases empty
      cases query with
      | none => exact ⟨⟨"/", none⟩, slash, slash_ends, rfl, rfl⟩
      | some q =>
        have text : (PathQuery.text ⟨"", some q⟩).toList = '?' :: q.toList := by
          simp [PathQuery.text]
        rw [pathQuery?_absolute scheme name text]
        refine ⟨_, legal.parse_text, ?_, rfl, rfl⟩
        intro c tail hc
        rw [text] at hc
        cases hc
        decide
    · obtain ⟨rest, text⟩ := rooted.text
      rw [pathQuery?_absolute scheme name text]
      refine ⟨t, legal.parse_text, rooted_ends rooted, ?_, rfl⟩
      have shown : t.shownPath ≠ "" := by
        rw [rooted.shownPath.2]
        exact rooted.shownPath.1
      exact (if_neg shown).symm
    · exact absurd rfl hs

private theorem IsHostPort.append_ne_nil {address : String} (h : IsHostPort address)
    (more : List Char) : address.toList ++ more ≠ [] := by
  obtain ⟨host, port, ha, -⟩ := h
  rw [ha]
  simp

/-- The text of a target is read as one on the server at the address, unless the path and query are
the asterisk. -/
theorem parse_targetText {address : String} {uri : Uri} (legal : uri.IsLegal)
    (routed : IsHostPort address) (hs : uri.pathQuery? ≠ some "*")
    (short : (targetText address uri).utf8ByteSize ≤ Uri.maxBytes) :
    ∃ sent, Uri.parse (targetText address uri) = .ok sent ∧ GoesTo address uri sent := by
  obtain ⟨t, ht, edge, path, query⟩ := exists_pathQuery legal hs
  have plain : ∀ c ∈ [], Authority.isPlain c = true := by
    intro c hc
    cases hc
  have named := routed.append_ne_nil []
  obtain ⟨check, ends⟩ := routed.check plain
  rw [List.append_nil] at named check ends
  have written : (targetText address uri).toList =
      "http://".toList ++ (address.toList ++ (uri.pathQuery?.getD "/").toList) := by
    simp [targetText]
  have read := Uri.parse_http named check ends edge ht written short
  rw [String.ofList_toList] at read
  exact ⟨_, read, t, rfl, path, query⟩

/-- The asterisk is read as a part of the authority. -/
theorem parse_targetText_of_asterisk {address : String} {uri : Uri} (routed : IsHostPort address)
    (hs : uri.pathQuery? = some "*")
    (short : (targetText address uri).utf8ByteSize ≤ Uri.maxBytes) :
    Uri.parse (targetText address uri) = .ok (.absolute "http" (address ++ "*") ⟨"", none⟩) := by
  have plain : ∀ c ∈ ['*'], Authority.isPlain c = true := List.all_eq_true.mp (by decide)
  obtain ⟨check, ends⟩ := routed.check plain
  have nothing : PathQuery.parse [] = .ok ⟨"", none⟩ := rfl
  have edge : ∀ c tail, [] = c :: tail → Authority.isEnd c = true := by
    intro c tail e
    cases e
  have written : (targetText address uri).toList =
      "http://".toList ++ (address.toList ++ ['*'] ++ []) := by
    rw [targetText, hs]
    simp
  have read := Uri.parse_http (routed.append_ne_nil ['*']) check ends edge nothing written short
  have name : String.ofList (address.toList ++ ['*']) = address ++ "*" := by simp
  rw [read, name]

/-- A request is sent on unless the protocol it asks to switch to is unfit to be passed on, or its
target is too long. -/
theorem exists_ofHead_iff {head : RequestHead} {address : String} (legal : head.uri.IsLegal)
    (routed : IsHostPort address) (payload : Option Bytes) :
    (∃ out, ofHead head payload address = .ok out) ↔
      (∃ upgrade, requestedUpgrade head = .ok upgrade) ∧
        (targetText address head.uri).utf8ByteSize ≤ Uri.maxBytes := by
  constructor
  · rintro ⟨out, h⟩
    obtain ⟨asked, read, -⟩ := ofHead_eq_ok h
    exact ⟨⟨_, asked⟩, Uri.utf8ByteSize_of_parse read⟩
  · rintro ⟨⟨upgrade, asked⟩, short⟩
    have read : ∃ sent, Uri.parse (targetText address head.uri) = .ok sent := by
      by_cases hs : head.uri.pathQuery? = some "*"
      · exact ⟨_, parse_targetText_of_asterisk routed hs short⟩
      · obtain ⟨sent, read, -⟩ := parse_targetText legal routed hs short
        exact ⟨sent, read⟩
    obtain ⟨sent, read⟩ := read
    unfold ofHead
    rw [asked, read]
    exact ⟨_, rfl⟩

/-- A request that is sent on goes to the address, with the caller's path and query, exactly when
these are not the asterisk. The asterisk becomes a part of the authority. -/
theorem goesTo_iff {head : RequestHead} {payload : Option Bytes} {address : String}
    {out : Outbound} (legal : head.uri.IsLegal) (routed : IsHostPort address)
    (h : ofHead head payload address = .ok out) :
    (GoesTo address head.uri out.uri ↔ head.uri.pathQuery? ≠ some "*") ∧
      (head.uri.pathQuery? = some "*" →
        out.uri = .absolute "http" (address ++ "*") ⟨"", none⟩) := by
  have read := (ofHead_eq_ok h).2.1
  have short := Uri.utf8ByteSize_of_parse read
  have asterisk : head.uri.pathQuery? = some "*" →
      out.uri = .absolute "http" (address ++ "*") ⟨"", none⟩ := by
    intro hs
    exact Except.ok.inj (read.symm.trans (parse_targetText_of_asterisk routed hs short))
  refine ⟨⟨?_, ?_⟩, asterisk⟩
  · rintro ⟨t, ht, -⟩ hs
    rw [asterisk hs] at ht
    have longer : address ++ "*" = address := (Uri.absolute.inj ht).2.1
    have lengths := congrArg String.length longer
    rw [String.length_append] at lengths
    exact absurd lengths (by simp)
  · intro hs
    obtain ⟨sent, again, goes⟩ := parse_targetText legal routed hs short
    have same : out.uri = sent := Except.ok.inj (read.symm.trans again)
    rw [same]
    exact goes

/-- A request about a server as a whole. -/
def wholeServer : RequestHead := ⟨⟨"OPTIONS"⟩, .asterisk, .http11, .empty⟩

/-- A request about the whole server goes to a port that is none. -/
theorem not_goesTo_wholeServer :
    Uri.parse "*" = .ok wholeServer.uri ∧
    ∃ out, ofHead wholeServer none "127.0.0.1:9000" = .ok out ∧
      out.uri = .absolute "http" "127.0.0.1:9000*" ⟨"", none⟩ ∧
      ¬ GoesTo "127.0.0.1:9000" wholeServer.uri out.uri := by
  have routed : IsHostPort "127.0.0.1:9000" :=
    ⟨"127.0.0.1".toList, "9000".toList, rfl, List.all_eq_true.mp (by decide),
      List.all_eq_true.mp (by decide)⟩
  have read : Uri.parse "*" = .ok wholeServer.uri := rfl
  have sent : ofHead wholeServer none "127.0.0.1:9000" = .ok _ := rfl
  have goes := goesTo_iff (Uri.isLegal_of_parse read) routed sent
  exact ⟨read, _, sent, goes.2 rfl, fun there ↦ goes.1.mp there rfl⟩

end Outbound
end HttpGateway
