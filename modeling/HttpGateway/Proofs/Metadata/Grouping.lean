import HttpGateway.Http.HeaderMap
import HttpGateway.Proofs.Metadata.Listing

/-!
# Fields put together by name

Putting the fields of a name together at the place of the first changes neither the values of any
name nor the order of the names, and doing so again changes nothing at all.
-/

namespace HttpGateway.HeaderMap

/-- No name is listed twice. -/
theorem nodup_names (m : HeaderMap) : m.names.Nodup := Listing.nodup_eraseDups _

/-- A name is listed if it has values. -/
theorem mem_names_iff (m : HeaderMap) (name : HeaderName) :
    name ∈ m.names ↔ m.values name ≠ [] := by
  rw [← contains_iff, names, List.mem_eraseDups, contains, List.any_eq_true, List.mem_map]
  simp only [decide_eq_true_eq]

/-- The fields of some names of a map, all fields of a name together. -/
def fieldsOf (m : HeaderMap) (names : List HeaderName) : List (HeaderName × HeaderValue) :=
  names.flatMap fun name ↦ (m.values name).map fun value ↦ (name, value)

/-- The fields of some names have the values of those names. -/
theorem values_fieldsOf (m : HeaderMap) {names : List HeaderName} (h : names.Nodup)
    (name : HeaderName) :
    values ⟨m.fieldsOf names⟩ name = if name ∈ names then m.values name else [] :=
  Listing.values_byKey m.fields h name

/-- The fields of names that have values are fields of these names, in their order. -/
theorem names_fieldsOf (m : HeaderMap) {names : List HeaderName} (h : names.Nodup)
    (present : ∀ name ∈ names, m.values name ≠ []) :
    HeaderMap.names ⟨m.fieldsOf names⟩ = names :=
  Listing.eraseDups_byKey m.fields h present

/-- Fields put together have the same values. -/
theorem values_grouped (m : HeaderMap) : Equiv ⟨m.grouped⟩ m := by
  intro name
  change values ⟨m.fieldsOf m.names⟩ name = _
  rw [values_fieldsOf m m.nodup_names]
  by_cases h : name ∈ m.names
  · rw [if_pos h]
  · rw [if_neg h]
    exact (Decidable.not_not.mp fun some_ ↦ h ((m.mem_names_iff name).mpr some_)).symm

/-- Fields put together have the same names, in the same order. -/
theorem names_grouped (m : HeaderMap) : HeaderMap.names ⟨m.grouped⟩ = m.names :=
  m.names_fieldsOf m.nodup_names fun name mem ↦ (m.mem_names_iff name).mp mem

/-- Fields that are put together already stay as they are. -/
theorem grouped_grouped (m : HeaderMap) : HeaderMap.grouped ⟨m.grouped⟩ = m.grouped := by
  change fieldsOf ⟨m.grouped⟩ (HeaderMap.names ⟨m.grouped⟩) = m.fieldsOf m.names
  rw [names_grouped]
  unfold fieldsOf
  simp only [m.values_grouped _]

end HttpGateway.HeaderMap
