/-!
# Pairs listed by key

A multi-map is a row of pairs in order of arrival. Listing it key by key, each key once, leaves the
values of every key as they were, in their order; and the listing is settled by these values alone.
-/

namespace HttpGateway.Listing

/-- Nothing is left twice where what comes again is left out. -/
theorem nodup_eraseDups {α : Type} [BEq α] [LawfulBEq α] : (l : List α) → l.eraseDups.Nodup
  | [] => List.nodup_nil
  | a :: l => by
    rw [List.eraseDups_cons, List.nodup_cons]
    refine ⟨?_, nodup_eraseDups _⟩
    rw [List.mem_eraseDups, List.mem_filter]
    rintro ⟨-, other⟩
    simp at other
termination_by l => l.length
decreasing_by exact Nat.lt_succ_of_le (List.length_filter_le _ _)

/-- What is sorted ascends. -/
theorem pairwise_mergeSort_le {α : Type} [LE α] [DecidableLE α] [Std.IsLinearPreorder α]
    (l : List α) : (l.mergeSort fun a b ↦ decide (a ≤ b)).Pairwise (· ≤ ·) := by
  have total : ∀ a b : α, (decide (a ≤ b) || decide (b ≤ a)) = true := by
    intro a b
    rw [Bool.or_eq_true, decide_eq_true_eq, decide_eq_true_eq]
    exact Std.le_total
  have trans : ∀ a b c : α,
      decide (a ≤ b) = true → decide (b ≤ c) = true → decide (a ≤ c) = true := by
    intro a b c first second
    rw [decide_eq_true_eq] at first second ⊢
    exact Std.le_trans first second
  exact (List.pairwise_mergeSort trans total l).imp of_decide_eq_true

variable {α β : Type} [DecidableEq α]

/-- The values of a key, in order of arrival. -/
def values (pairs : List (α × β)) (key : α) : List β :=
  (pairs.filter fun p ↦ p.1 = key).map Prod.snd

/-- The pairs of some keys, key by key. -/
def byKey (pairs : List (α × β)) (keys : List α) : List (α × β) :=
  keys.flatMap fun key ↦ (values pairs key).map fun value ↦ (key, value)

/-- A value is one of a key if the two make a pair. -/
theorem mem_values_iff {pairs : List (α × β)} {key : α} {value : β} :
    value ∈ values pairs key ↔ (key, value) ∈ pairs := by
  unfold values
  simp only [List.mem_map, List.mem_filter, decide_eq_true_eq]
  constructor
  · rintro ⟨_, ⟨mem, rfl⟩, rfl⟩
    exact mem
  · intro mem
    exact ⟨_, ⟨mem, rfl⟩, rfl⟩

/-- The pairs of one key are its values under that key. -/
theorem filter_eq_map_values (pairs : List (α × β)) (key : α) :
    (pairs.filter fun p ↦ p.1 = key) = (values pairs key).map fun value ↦ (key, value) := by
  unfold values
  rw [List.map_map]
  refine (List.map_id _).symm.trans (List.map_congr_left fun p mem ↦ ?_)
  have same : p.1 = key := of_decide_eq_true (List.mem_filter.mp mem).2
  exact Prod.ext same rfl

/-- The pairs of the first key come before those of the others. -/
theorem byKey_cons (pairs : List (α × β)) (key : α) (keys : List α) :
    byKey pairs (key :: keys) =
      ((values pairs key).map fun value ↦ (key, value)) ++ byKey pairs keys := rfl

/-- The values of the pairs of some keys are the values of these keys. -/
theorem map_snd_byKey (pairs : List (α × β)) (keys : List α) :
    (byKey pairs keys).map Prod.snd = keys.flatMap (values pairs) := by
  unfold byKey
  rw [List.map_flatMap]
  simp only [List.map_map, Function.comp_def, List.map_id']

/-- The values of pairs in a row are those of the first and then those of the others. -/
theorem values_append (a b : List (α × β)) (key : α) :
    values (a ++ b) key = values a key ++ values b key := by
  unfold values
  rw [List.filter_append, List.map_append]

/-- Pairs of one key have their values under that key only. -/
theorem values_map_pair (vs : List β) (key other : α) :
    values (vs.map fun value ↦ (key, value)) other = if key = other then vs else [] := by
  unfold values
  by_cases h : key = other
  · simp [h, List.filter_map, Function.comp_def]
  · simp [h, List.filter_map, Function.comp_def]

/-- A pair is listed if its value is one of its key and its key is listed. -/
theorem mem_byKey_iff {pairs : List (α × β)} {keys : List α} {p : α × β} :
    p ∈ byKey pairs keys ↔ p.1 ∈ keys ∧ p.2 ∈ values pairs p.1 := by
  obtain ⟨key, value⟩ := p
  unfold byKey
  simp only [List.mem_flatMap, List.mem_map, Prod.mk.injEq]
  constructor
  · rintro ⟨_, listed, _, mem, rfl, rfl⟩
    exact ⟨listed, mem⟩
  · rintro ⟨listed, mem⟩
    exact ⟨key, listed, value, mem, rfl, rfl⟩

/-- The pairs of some keys have the values of those keys. -/
theorem values_byKey (pairs : List (α × β)) {keys : List α} (h : keys.Nodup) (key : α) :
    values (byKey pairs keys) key = if key ∈ keys then values pairs key else [] := by
  induction keys with
  | nil => rfl
  | cons first keys ih =>
    obtain ⟨absent, nodup⟩ := List.nodup_cons.mp h
    rw [byKey_cons, values_append, values_map_pair, ih nodup]
    by_cases same : first = key
    · subst same
      rw [if_pos rfl, if_neg absent, if_pos List.mem_cons_self, List.append_nil]
    · have other : key ∈ first :: keys ↔ key ∈ keys := by
        rw [List.mem_cons]
        exact or_iff_right fun e ↦ same e.symm
      rw [if_neg same, List.nil_append]
      simp only [other]

/-- The pairs of keys that have values are pairs of these keys, in their order. -/
theorem eraseDups_byKey (pairs : List (α × β)) {keys : List α} (h : keys.Nodup)
    (present : ∀ key ∈ keys, values pairs key ≠ []) :
    ((byKey pairs keys).map Prod.fst).eraseDups = keys := by
  induction keys with
  | nil => rfl
  | cons first keys ih =>
    obtain ⟨absent, nodup⟩ := List.nodup_cons.mp h
    have others := ih nodup fun key mem ↦ present key (List.mem_cons_of_mem first mem)
    rw [byKey_cons]
    cases vs : values pairs first with
    | nil => exact absurd vs (present first List.mem_cons_self)
    | cons value more =>
      -- The first pair of the key stays, its further pairs go, and the others are of others.
      have again : ((more.map fun value ↦ (first, value)).map Prod.fst).filter
          (fun key ↦ !key == first) = [] := by simp
      have different : ((byKey pairs keys).map Prod.fst).filter (fun key ↦ !key == first) =
          (byKey pairs keys).map Prod.fst := by
        rw [List.filter_eq_self]
        intro key mem
        obtain ⟨p, listed, rfl⟩ := List.mem_map.mp mem
        have ne : p.1 ≠ first := fun e ↦ absent (e ▸ (mem_byKey_iff.mp listed).1)
        simpa using ne
      rw [List.map_append]
      change (first :: ((more.map fun value ↦ (first, value)).map Prod.fst ++
        (byKey pairs keys).map Prod.fst)).eraseDups = _
      rw [List.eraseDups_cons, List.filter_append, again, different, List.nil_append, others]

/-- Keys with the same values are listed alike. -/
theorem byKey_congr {a b : List (α × β)} {keys : List α}
    (h : ∀ key ∈ keys, values a key = values b key) : byKey a keys = byKey b keys := by
  induction keys with
  | nil => rfl
  | cons first keys ih =>
    have later := ih fun key mem ↦ h key (List.mem_cons_of_mem first mem)
    rw [byKey_cons, byKey_cons, h first List.mem_cons_self, later]

/-- Leaving out pairs by their key is leaving out the keys. -/
theorem filter_byKey (pairs : List (α × β)) (keys : List α) (p : α → Bool) :
    (byKey pairs keys).filter (fun pair ↦ p pair.1) = byKey pairs (keys.filter p) := by
  induction keys with
  | nil => rfl
  | cons first keys ih =>
    rw [byKey_cons, List.filter_append, ih]
    by_cases h : p first = true
    · have kept : ((values pairs first).map fun value ↦ (first, value)).filter
          (fun pair ↦ p pair.1) = (values pairs first).map fun value ↦ (first, value) := by
        rw [List.filter_eq_self]
        intro pair mem
        obtain ⟨value, -, rfl⟩ := List.mem_map.mp mem
        exact h
      rw [kept, List.filter_cons_of_pos h, byKey_cons]
    · have gone : ((values pairs first).map fun value ↦ (first, value)).filter
          (fun pair ↦ p pair.1) = [] := by
        rw [List.filter_eq_nil_iff]
        intro pair mem
        obtain ⟨value, -, rfl⟩ := List.mem_map.mp mem
        exact h
      rw [gone, List.filter_cons_of_neg h, List.nil_append]

/-- Pairs left out by their key leave no values of it. -/
theorem values_filter (pairs : List (α × β)) (p : α → Bool) (key : α) :
    values (pairs.filter fun pair ↦ p pair.1) key =
      if p key = true then values pairs key else [] := by
  unfold values
  rw [List.filter_filter]
  by_cases h : p key = true
  · rw [if_pos h]
    congr 1
    apply List.filter_congr
    intro pair _
    by_cases hp : pair.1 = key
    · simp [hp, h]
    · simp [hp]
  · rw [if_neg h, List.map_eq_nil_iff, List.filter_eq_nil_iff]
    intro pair _ both
    simp only [Bool.and_eq_true, decide_eq_true_eq] at both
    exact h (both.1 ▸ both.2)

end HttpGateway.Listing
