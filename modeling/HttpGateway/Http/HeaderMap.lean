import HttpGateway.Http.Header

/-!
# Header maps

An ordered multi-map from header names to values. What a map means is, for every name, the values
of that name in order (`values`); names are listed in the order in which they first appear. Each
operation is described through `values`.
-/

namespace HttpGateway

/-- An ordered multi-map of header fields, in order of arrival. -/
structure HeaderMap where
  fields : List (HeaderName × HeaderValue)
  deriving DecidableEq

namespace HeaderMap

/-- The map without fields. -/
def empty : HeaderMap := ⟨[]⟩

/-- The values of a name, in order. -/
def values (m : HeaderMap) (name : HeaderName) : List HeaderValue :=
  (m.fields.filter fun f ↦ f.1 = name).map Prod.snd

/-- The first value of a name. -/
def get? (m : HeaderMap) (name : HeaderName) : Option HeaderValue := (m.values name).head?

/-- Some field has the name. -/
def contains (m : HeaderMap) (name : HeaderName) : Bool := m.fields.any fun f ↦ f.1 = name

/-- A further value of a name, behind those it has. -/
def append (m : HeaderMap) (name : HeaderName) (value : HeaderValue) : HeaderMap :=
  ⟨m.fields ++ [(name, value)]⟩

/-- The map without the fields of a name. -/
def remove (m : HeaderMap) (name : HeaderName) : HeaderMap :=
  ⟨m.fields.filter fun f ↦ f.1 ≠ name⟩

/-- The one value of a name, in place of those it had. -/
def insert (m : HeaderMap) (name : HeaderName) (value : HeaderValue) : HeaderMap :=
  (m.remove name).append name value

/-- The names in order of first appearance. -/
def names (m : HeaderMap) : List HeaderName := (m.fields.map Prod.fst).eraseDups

/-- The fields with all fields of a name together, at the place of its first. -/
def grouped (m : HeaderMap) : List (HeaderName × HeaderValue) :=
  m.names.flatMap fun name ↦ (m.values name).map fun value ↦ (name, value)

/-- The fields of a second map, each of its names replacing the values that the first map has. -/
def extend (m more : HeaderMap) : HeaderMap :=
  ⟨(m.fields.filter fun f ↦ !more.contains f.1) ++ more.grouped⟩

/-- The same names with the same values in the same order for each. -/
def Equiv (m₁ m₂ : HeaderMap) : Prop := ∀ name, m₁.values name = m₂.values name

/-- Whether two maps have the same values in the same order for each name. -/
def equiv (m₁ m₂ : HeaderMap) : Bool :=
  (m₁.names ++ m₂.names).all fun name ↦ m₁.values name = m₂.values name

/-- No name has a value in the empty map. -/
@[simp] theorem values_empty (name : HeaderName) : empty.values name = [] := rfl

/-- A further value goes behind those of its name and touches no other name. -/
@[simp] theorem values_append (m : HeaderMap) (name other : HeaderName) (value : HeaderValue) :
    (m.append name value).values other =
      if name = other then m.values other ++ [value] else m.values other := by
  by_cases h : name = other <;> simp [append, values, h]

/-- Removal takes the values of one name and touches no other. -/
@[simp] theorem values_remove (m : HeaderMap) (name other : HeaderName) :
    (m.remove name).values other = if name = other then [] else m.values other := by
  by_cases h : name = other
  · subst h; simp [remove, values]
  · simp only [remove, values, List.filter_filter, h, if_false]
    congr 1
    apply List.filter_congr
    intro f _
    by_cases hf : f.1 = other <;> simp [hf, Ne.symm h]

/-- Insertion leaves exactly one value and touches no other name. -/
@[simp] theorem values_insert (m : HeaderMap) (name other : HeaderName) (value : HeaderValue) :
    (m.insert name value).values other =
      if name = other then [value] else m.values other := by
  by_cases h : name = other <;> simp [insert, h]

/-- A name is present exactly when it has values. -/
theorem contains_iff (m : HeaderMap) (name : HeaderName) :
    m.contains name = true ↔ m.values name ≠ [] := by
  simp [contains, values]

end HeaderMap
end HttpGateway
