import HttpGateway.Metadata
import HttpGateway.Proofs.Metadata.Listing

/-!
# What settles the pairs of metadata

The pairs are listed key by key, each key once and in ascending order. So they are settled by the
values of the keys: metadata with fewer keys lists its pairs without those of the others.
-/

namespace HttpGateway.Metadata

/-- No key is listed twice. -/
theorem nodup_keys (m : Metadata) : m.keys.Nodup :=
  (List.mergeSort_perm _ _).nodup_iff.mpr (Listing.nodup_eraseDups _)

/-- The keys ascend. -/
theorem pairwise_keys (m : Metadata) : m.keys.Pairwise (· ≤ ·) :=
  Listing.pairwise_mergeSort_le _

/-- The keys are settled by the values that they have. -/
theorem keys_eq_filter {a b : Metadata} {p : Bytes → Bool}
    (h : ∀ key, a.values key = if p key = true then b.values key else []) :
    a.keys = b.keys.filter p := by
  have ascending : (b.keys.filter p).Pairwise (· ≤ ·) := b.pairwise_keys.filter p
  have members : a.keys.Perm (b.keys.filter p) := by
    rw [List.perm_ext_iff_of_nodup a.nodup_keys (b.nodup_keys.filter p)]
    intro key
    rw [List.mem_filter, mem_keys_iff, mem_keys_iff, h key]
    by_cases kept : p key = true
    · rw [if_pos kept]
      exact (and_iff_left kept).symm
    · rw [if_neg kept]
      exact iff_of_false (fun none_ ↦ none_ rfl) fun both ↦ kept both.2
  -- Two ascending lists of the same keys, each once, are the same list.
  exact members.eq_of_pairwise (fun _ _ _ _ ↦ Std.le_antisymm) a.pairwise_keys ascending

/-- Metadata with fewer keys lists its pairs without those of the other keys. -/
theorem toList_eq_filter {a b : Metadata} {p : Bytes → Bool}
    (h : ∀ key, a.values key = if p key = true then b.values key else []) :
    a.toList = b.toList.filter fun pair ↦ p pair.1 := by
  change Listing.byKey a.pairs a.keys = (Listing.byKey b.pairs b.keys).filter _
  rw [Listing.filter_byKey, keys_eq_filter h]
  apply Listing.byKey_congr
  intro key mem
  have same := h key
  rw [if_pos (List.mem_filter.mp mem).2] at same
  exact same

/-- Metadata with the same values of some keys lists the same pairs of these keys. -/
theorem filter_toList_congr {a b : Metadata} {p : Bytes → Bool}
    (h : ∀ key, p key = true → a.values key = b.values key) :
    (a.toList.filter fun pair ↦ p pair.1) = b.toList.filter fun pair ↦ p pair.1 := by
  -- Both sides are the pairs of the metadata that has these keys only.
  let kept : Metadata := ⟨a.pairs.filter fun pair ↦ p pair.1⟩
  have ofFirst : ∀ key, kept.values key = if p key = true then a.values key else [] :=
    Listing.values_filter a.pairs p
  have ofSecond : ∀ key, kept.values key = if p key = true then b.values key else [] := by
    intro key
    rw [ofFirst]
    split
    · next some_ => exact h key some_
    · rfl
  rw [← toList_eq_filter ofFirst, toList_eq_filter ofSecond]

/-- A pair is listed if its value is one of its key. -/
theorem mem_toList_iff {m : Metadata} {pair : Bytes × Bytes} :
    pair ∈ m.toList ↔ pair.2 ∈ m.values pair.1 := by
  change pair ∈ Listing.byKey m.pairs m.keys ↔ _
  rw [Listing.mem_byKey_iff, mem_keys_iff]
  change m.values pair.1 ≠ [] ∧ pair.2 ∈ m.values pair.1 ↔ _
  exact and_iff_right_of_imp List.ne_nil_of_mem

/-- The listed pairs have the values that the keys have. -/
theorem values_toList (m : Metadata) (key : Bytes) :
    Listing.values m.toList key = m.values key := by
  change Listing.values (Listing.byKey m.pairs m.keys) key = Listing.values m.pairs key
  rw [Listing.values_byKey m.pairs m.nodup_keys]
  by_cases listed : key ∈ m.keys
  · rw [if_pos listed]
  · rw [if_neg listed]
    rw [mem_keys_iff, Decidable.not_not] at listed
    exact listed.symm

end HttpGateway.Metadata
