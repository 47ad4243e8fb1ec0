import HttpGateway.Text.Utf8

/-!
# Call metadata

A multi-map from keys to octet strings that travels with a call. Keys are the bytes of any text and
are compared as they are. Setting a key replaces its values, adding goes behind them. The pairs are
listed with the keys in byte order and the values of a key in order of arrival.
-/

namespace HttpGateway

/-- A multi-map from keys to octet strings, in order of arrival. -/
structure Metadata where
  pairs : List (Bytes × Bytes)
  deriving DecidableEq

namespace Metadata

/-- Metadata without pairs. -/
def empty : Metadata := ⟨[]⟩

/-- The values of a key, in order of arrival. -/
def values (m : Metadata) (key : Bytes) : List Bytes :=
  (m.pairs.filter fun p ↦ p.1 = key).map Prod.snd

/-- The first value of a key. -/
def get? (m : Metadata) (key : Bytes) : Option Bytes := (m.values key).head?

/-- A further value of a key, behind those it has. -/
def append (m : Metadata) (key value : Bytes) : Metadata := ⟨m.pairs ++ [(key, value)]⟩

/-- The one value of a key, in place of those it had. -/
def insert (m : Metadata) (key value : Bytes) : Metadata :=
  ⟨m.pairs.filter (fun p ↦ p.1 ≠ key) ++ [(key, value)]⟩

/-- Metadata with pairs added in the order given. -/
def ofPairs (pairs : List (Bytes × Bytes)) : Metadata := ⟨pairs⟩

/-- The keys, each once, in byte order. -/
def keys (m : Metadata) : List Bytes :=
  ((m.pairs.map Prod.fst).eraseDups).mergeSort fun a b ↦ decide (a ≤ b)

/-- The pairs, keys in byte order and the values of a key in order of arrival. -/
def toList (m : Metadata) : List (Bytes × Bytes) :=
  m.keys.flatMap fun key ↦ (m.values key).map fun value ↦ (key, value)

/-- The number of distinct keys. -/
def size (m : Metadata) : Nat := m.keys.length

/-- There are no pairs. -/
def isEmpty (m : Metadata) : Bool := m.pairs.isEmpty

/-- No key has a value in the empty metadata. -/
@[simp] theorem values_empty (key : Bytes) : empty.values key = [] := rfl

/-- A further value goes behind those of its key and touches no other key. -/
@[simp] theorem values_append (m : Metadata) (key value other : Bytes) :
    (m.append key value).values other =
      if key = other then m.values other ++ [value] else m.values other := by
  by_cases h : key = other <;> simp [append, values, h]

/-- Setting a key leaves exactly one value and touches no other key. -/
@[simp] theorem values_insert (m : Metadata) (key value other : Bytes) :
    (m.insert key value).values other =
      if key = other then [value] else m.values other := by
  by_cases h : key = other
  · subst h; simp [insert, values]
  · simp only [insert, values, List.filter_append, List.filter_filter, h, if_false]
    have : (m.pairs.filter fun p ↦ decide (p.1 = other) && decide (p.1 ≠ key)) =
        m.pairs.filter fun p ↦ p.1 = other := by
      apply List.filter_congr
      intro p _
      by_cases hp : p.1 = other <;> simp [hp, Ne.symm h]
    rw [this]
    simp [h]

/-- A key is listed exactly when it has values. -/
theorem mem_keys_iff (m : Metadata) (key : Bytes) : key ∈ m.keys ↔ m.values key ≠ [] := by
  simp [keys, values, List.mem_eraseDups]

end Metadata
end HttpGateway
