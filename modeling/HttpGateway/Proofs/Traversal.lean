/-!
# Traversals that may fail

A traversal of a list goes through exactly when each element does. Its results stand in the order of
the elements, so what each result says of its element they say in a row, and leaving out elements is
leaving out their results.
-/

namespace HttpGateway.Traversal

variable {α β γ ε : Type} {f : α → Except ε β} {l : List α} {bs : List β}

/-- A traversal that goes through has its first result from the first element. -/
theorem exists_of_mapM_cons {a : α} (h : (a :: l).mapM f = .ok bs) :
    ∃ b rest, f a = .ok b ∧ l.mapM f = .ok rest ∧ bs = b :: rest := by
  rw [List.mapM_cons] at h
  cases first : f a with
  | error e => rw [first] at h; cases h
  | ok b =>
    cases others : l.mapM f with
    | error e => rw [first, others] at h; cases h
    | ok rest =>
      rw [first, others] at h
      cases h
      exact ⟨b, rest, rfl, rfl, rfl⟩

/-- A traversal goes through exactly when each element does. -/
theorem exists_mapM_eq_ok_iff : (∃ bs, l.mapM f = .ok bs) ↔ ∀ a ∈ l, ∃ b, f a = .ok b := by
  induction l with
  | nil => simp [pure, Except.pure]
  | cons a l ih =>
    rw [List.forall_mem_cons, ← ih]
    constructor
    · rintro ⟨bs, h⟩
      obtain ⟨b, rest, first, others, -⟩ := exists_of_mapM_cons h
      exact ⟨⟨b, first⟩, rest, others⟩
    · rintro ⟨⟨b, first⟩, rest, others⟩
      refine ⟨b :: rest, ?_⟩
      rw [List.mapM_cons, first, others]
      rfl

/-- What succeeds is no error, and nothing else is none. -/
theorem exists_error_iff {τ : Type} {r : Except ε τ} : (∃ e, r = .error e) ↔ ¬ ∃ t, r = .ok t := by
  cases r <;> simp

/-- What each result says of its element, the results say in a row. -/
theorem map_of_mapM {g : β → γ} {k : α → γ} (h : l.mapM f = .ok bs)
    (same : ∀ a ∈ l, ∀ b, f a = .ok b → g b = k a) : bs.map g = l.map k := by
  induction l generalizing bs with
  | nil => cases h; rfl
  | cons a l ih =>
    obtain ⟨b, rest, first, others, rfl⟩ := exists_of_mapM_cons h
    have later := ih others fun x mem ↦ same x (List.mem_cons_of_mem a mem)
    rw [List.map_cons, List.map_cons, same a List.mem_cons_self b first, later]

/-- Leaving out elements is leaving out their results. -/
theorem mapM_filter {p : α → Bool} {q : β → Bool} (h : l.mapM f = .ok bs)
    (same : ∀ a ∈ l, ∀ b, f a = .ok b → q b = p a) :
    (l.filter p).mapM f = .ok (bs.filter q) := by
  induction l generalizing bs with
  | nil => cases h; rfl
  | cons a l ih =>
    obtain ⟨b, rest, first, others, rfl⟩ := exists_of_mapM_cons h
    have later := ih others fun x mem ↦ same x (List.mem_cons_of_mem a mem)
    have alike := same a List.mem_cons_self b first
    by_cases hp : p a = true
    · rw [List.filter_cons_of_pos hp, List.filter_cons_of_pos (alike.trans hp), List.mapM_cons,
        first, later]
      rfl
    · rw [List.filter_cons_of_neg hp, List.filter_cons_of_neg (by rwa [alike]), later]

end HttpGateway.Traversal
