import HttpGateway.Http.Uri

/-!
# Legal request targets

What reading makes of a text is a legal target: path and query hold the characters that they may
hold, and a path that is not empty starts with a slash, but for the asterisk. A legal path and query
that are written behind an authority are read as the same path and query again.
-/

namespace HttpGateway

/-- The numbers of letters and digits. -/
theorem toNat_of_isAlphanum {c : Char} (h : c.isAlphanum = true) :
    (65 ≤ c.toNat ∧ c.toNat ≤ 90) ∨ (97 ≤ c.toNat ∧ c.toNat ≤ 122) ∨
      48 ≤ c.toNat ∧ c.toNat ≤ 57 := by
  have here : (decide (c.val ≥ 'A'.val ∧ c.val ≤ 'Z'.val) ||
      (decide (c.val ≥ 'a'.val) && decide (c.val ≤ 'z'.val)) ||
      (decide (c.val ≥ '0'.val) && decide (c.val ≤ '9'.val))) = true := h
  simp only [Bool.or_eq_true, Bool.and_eq_true, decide_eq_true_eq, UInt32.le_iff_toNat_le,
    ge_iff_le, or_assoc] at here
  exact here

/-- Where characters of a kind stand in front of one of another kind, or of nothing, is where they
end. -/
theorem span_append {p : Char → Bool} {front : List Char} (rest : List Char)
    (hf : ∀ c ∈ front, p c = true) (hr : ∀ c tail, rest = c :: tail → p c = false) :
    (front ++ rest).takeWhile p = front ∧ (front ++ rest).dropWhile p = rest := by
  rw [List.takeWhile_append_of_pos hf, List.dropWhile_append_of_pos hf]
  cases rest with
  | nil => exact ⟨List.append_nil front, rfl⟩
  | cons c tail =>
    have stop := hr c tail rfl
    rw [List.takeWhile_cons, List.dropWhile_cons, stop]
    exact ⟨List.append_nil front, rfl⟩

namespace PathQuery

/-- Path and query hold the characters that they may hold. -/
structure IsLegal (t : PathQuery) : Prop where
  path : ∀ c ∈ t.path.toList, isPathChar c = true
  query : ∀ q, t.query = some q → ∀ c ∈ q.toList, isQueryChar c = true

/-- The path starts with a slash. -/
def IsRooted (t : PathQuery) : Prop := ∃ rest, t.path.toList = '/' :: rest

private theorem mem_takeWhile {p : Char → Bool} {cs : List Char} {c : Char}
    (h : c ∈ cs.takeWhile p) : p c = true :=
  List.all_eq_true.mp List.all_takeWhile c h

/-- What is read is legal, and its path is what stands in front of the first character that no path
may hold. -/
theorem isLegal_of_parse {cs : List Char} {t : PathQuery} (h : parse cs = .ok t) :
    t.IsLegal ∧ t.path = String.ofList (cs.takeWhile isPathChar) := by
  have path : ∀ c ∈ (String.ofList (cs.takeWhile isPathChar)).toList, isPathChar c = true := by
    intro c hc
    rw [String.toList_ofList] at hc
    exact mem_takeWhile hc
  unfold parse at h
  dsimp only at h
  split at h
  · cases h
    exact ⟨⟨path, nofun⟩, rfl⟩
  · cases h
    exact ⟨⟨path, nofun⟩, rfl⟩
  · next rest _ =>
    have query : ∀ q, some (String.ofList (rest.takeWhile isQueryChar)) = some q →
        ∀ c ∈ q.toList, isQueryChar c = true := by
      intro q hq c hc
      cases hq
      rw [String.toList_ofList] at hc
      exact mem_takeWhile hc
    split at h
    · cases h
      exact ⟨⟨path, query⟩, rfl⟩
    · cases h
      exact ⟨⟨path, query⟩, rfl⟩
    · cases h
  · cases h

/-- A legal path and query are read as they are written. -/
theorem IsLegal.parse_text {t : PathQuery} (h : t.IsLegal) : parse t.text.toList = .ok t := by
  obtain ⟨path, query⟩ := t
  cases query with
  | none =>
    have ends := span_append [] h.path nofun
    rw [List.append_nil] at ends
    unfold parse text
    dsimp only
    rw [ends.1, ends.2, String.ofList_toList]
  | some q =>
    have split := span_append ('?' :: q.toList) h.path (by
      intro c rest hc
      cases hc
      decide)
    have ends := span_append [] (h.query q rfl) nofun
    rw [List.append_nil] at ends
    have written : (text ⟨path, some q⟩).toList = path.toList ++ '?' :: q.toList := by
      simp [text]
    rw [written]
    unfold parse
    dsimp only
    rw [split.1, split.2]
    simp only [ends.1, ends.2, String.ofList_toList]

/-- A path that starts with a slash is shown as it is. -/
theorem IsRooted.shownPath {t : PathQuery} (h : t.IsRooted) :
    t.path ≠ "" ∧ t.shownPath = t.path := by
  obtain ⟨rest, hr⟩ := h
  have something : t.path ≠ "" := by
    intro e
    rw [e] at hr
    cases hr
  refine ⟨something, ?_⟩
  rw [PathQuery.shownPath, if_neg]
  simpa using something

/-- What is written of such a path and a query starts with the slash. -/
theorem IsRooted.text {t : PathQuery} (h : t.IsRooted) : ∃ rest, t.text.toList = '/' :: rest := by
  obtain ⟨rest, hr⟩ := h
  unfold PathQuery.text
  split
  · exact ⟨rest, hr⟩
  · next q _ => exact ⟨rest ++ '?' :: q.toList, by simp [hr]⟩

end PathQuery

namespace Uri

/-- A target that may come of reading a text, or of the parts of a request. -/
def IsLegal : Uri → Prop
  | origin t => t.IsLegal ∧ t.IsRooted
  | asterisk => True
  | authority _ => True
  | absolute _ _ t => t.IsLegal ∧ (t.path = "" ∨ t.IsRooted ∨ t = ⟨"*", none⟩)

/-- The authority that a target names, if it names one, is an authority. -/
def HasLegalAuthority (uri : Uri) : Prop :=
  ∀ name, uri.authority? = some name → Authority.check name.toList = .ok ()

private theorem rooted_of_parse {rest : List Char} {t : PathQuery}
    (h : PathQuery.parse ('/' :: rest) = .ok t) : t.IsRooted := by
  refine ⟨rest.takeWhile PathQuery.isPathChar, ?_⟩
  rw [(PathQuery.isLegal_of_parse h).2, String.toList_ofList]
  rfl

private theorem rooted_or_empty {rest : List Char} {t : PathQuery}
    (h : PathQuery.parse (rest.dropWhile fun c ↦ !Authority.isEnd c) = .ok t) :
    t.IsRooted ∨ t.path = "" := by
  cases hd : rest.dropWhile fun c ↦ !Authority.isEnd c with
  | nil =>
    rw [hd] at h
    exact .inr (PathQuery.isLegal_of_parse h).2
  | cons c tail =>
    rw [hd] at h
    have ends : Authority.isEnd c = true := by
      have := List.head?_dropWhile_not (fun c ↦ !Authority.isEnd c) rest
      rw [hd] at this
      simpa using this
    have either : c = '/' ∨ c = '?' ∨ c = '#' := by
      simpa [Authority.isEnd, or_assoc] using ends
    have path := (PathQuery.isLegal_of_parse h).2
    rcases either with rfl | rfl | rfl
    · exact .inl (rooted_of_parse h)
    · exact .inr path
    · exact .inr path

/-- How a target may have been read: its path and query from a text, and its authority checked. -/
inductive IsRead : Uri → Prop
  | origin {rest : List Char} {t : PathQuery} :
    PathQuery.parse ('/' :: rest) = .ok t → IsRead (.origin t)
  | asterisk : IsRead .asterisk
  | authority {name : List Char} :
    Authority.check name = .ok () → IsRead (.authority (String.ofList name))
  | absolute {scheme : String} {name rest : List Char} {t : PathQuery} :
    Authority.check name = .ok () →
    PathQuery.parse (rest.dropWhile fun c ↦ !Authority.isEnd c) = .ok t →
    IsRead (.absolute scheme (String.ofList name) t)

private theorem isRead_of_parseFull {cs : List Char} {uri : Uri} (h : parseFull cs = .ok uri) :
    uri.IsRead := by
  unfold parseFull at h
  cases hs : splitScheme cs with
  | error why => rw [hs] at h; cases h
  | ok split =>
    rw [hs] at h
    simp only [bind, Except.bind] at h
    split at h
    · cases h
    · next checked =>
      cases split with
      | none =>
        dsimp only at h checked
        split at h
        · cases h
          exact .authority checked
        · cases h
      | some found =>
        obtain ⟨scheme, rest⟩ := found
        dsimp only at h checked
        split at h
        · cases h
        · cases ht : PathQuery.parse (rest.dropWhile fun c ↦ !Authority.isEnd c) with
          | error why => rw [ht] at h; cases h
          | ok t =>
            rw [ht] at h
            cases h
            exact .absolute checked ht

/-- What is read is made in one of these ways. -/
theorem isRead_of_parse {s : String} {uri : Uri} (h : parse s = .ok uri) : uri.IsRead := by
  unfold parse at h
  split at h
  · cases h
  · split at h
    · cases h
    · cases h
      exact .asterisk
    · next c _ _ =>
      split at h
      · cases h
        have root : PathQuery.parse ['/'] = .ok ⟨"/", none⟩ := rfl
        exact .origin root
      · split at h
        · cases h
        · cases checked : Authority.check [c] with
          | error why => rw [checked] at h; cases h
          | ok _ =>
            rw [checked] at h
            cases h
            exact .authority checked
    · next rest _ _ =>
      cases ht : PathQuery.parse ('/' :: rest) with
      | error why => rw [ht] at h; cases h
      | ok t =>
        rw [ht] at h
        cases h
        exact .origin ht
    · exact isRead_of_parseFull h

/-- What is read is legal. -/
theorem isLegal_of_parse {s : String} {uri : Uri} (h : parse s = .ok uri) : uri.IsLegal := by
  cases isRead_of_parse h with
  | origin read => exact ⟨(PathQuery.isLegal_of_parse read).1, rooted_of_parse read⟩
  | asterisk => trivial
  | authority checked => trivial
  | absolute checked read =>
    refine ⟨(PathQuery.isLegal_of_parse read).1, ?_⟩
    rcases rooted_or_empty read with rooted | empty
    · exact .inr (.inl rooted)
    · exact .inl empty

/-- What is read names an authority or none. -/
theorem hasLegalAuthority_of_parse {s : String} {uri : Uri} (h : parse s = .ok uri) :
    uri.HasLegalAuthority := by
  intro name named
  cases isRead_of_parse h with
  | origin read => cases named
  | asterisk => cases named
  | authority checked | absolute checked read =>
    cases named
    rw [String.toList_ofList]
    exact checked

end Uri
end HttpGateway
