import HttpGateway.Error
import HttpGateway.Shared

/-!
# The protocol registry

A table from protocol names to handlers. Registering a name again replaces its handler; names are
listed once each in the order of their characters. Calls share a registry: a registration publishes
a new table in place of the one that it saw while it had the lock.
-/

namespace HttpGateway

/-- A table from protocol names to handlers of some type, latest registration first. -/
structure Registry (α : Type u) where
  entries : List (String × α)

namespace Registry

variable {α : Type u}

/-- The table without handlers. -/
def empty : Registry α := ⟨[]⟩

/-- The table with a handler under a name, in place of the one it had. -/
def register (r : Registry α) (name : String) (handler : α) : Registry α :=
  ⟨(name, handler) :: r.entries.filter fun e ↦ e.1 ≠ name⟩

/-- The handler of a name. -/
def find? (r : Registry α) (name : String) : Option α := r.entries.lookup name

/-- The handler of a name, or the error that names the missing protocol. -/
def lookup (r : Registry α) (name : String) : Except GatewayError α :=
  match r.find? name with
  | some handler => .ok handler
  | none => .error (.unsupportedProtocol name)

/-- The registered names, each once, in order. -/
def names (r : Registry α) : List String :=
  ((r.entries.map Prod.fst).eraseDups).mergeSort fun a b ↦ decide (a ≤ b)

/-- No name has a handler in the empty table. -/
@[simp] theorem find?_empty (name : String) : (empty : Registry α).find? name = none := rfl

/-- A registration sets the handler of its name and of no other. -/
@[simp] theorem find?_register (r : Registry α) (name other : String) (handler : α) :
    (r.register name handler).find? other =
      if other = name then some handler else r.find? other := by
  by_cases h : other = name
  · subst h; simp [register, find?]
  · have hl : ∀ es : List (String × α),
        (es.filter fun e ↦ !decide (e.1 = name)).lookup other = es.lookup other := by
      intro es
      induction es with
      | nil => rfl
      | cons e es ih =>
        obtain ⟨n, a⟩ := e
        by_cases hn : n = name
        · subst hn
          have hb : (other == n) = false := by simpa using h
          simpa [List.filter_cons, List.lookup_cons, hb] using ih
        · simp [List.lookup_cons, hn, ih]
    have hb : (other == name) = false := by simpa using h
    simp [register, find?, List.lookup_cons, hb, hl, h]

/-- A name is listed if it has a handler. -/
theorem mem_names_iff (r : Registry α) (name : String) : name ∈ r.names ↔ r.find? name ≠ none := by
  unfold names find?
  rw [List.mem_mergeSort, List.mem_eraseDups, List.mem_map, ne_eq, List.lookup_eq_none_iff]
  simp only [bne_iff_ne, ne_eq, Classical.not_forall, Decidable.not_not, exists_prop]
  exact exists_congr fun e ↦ and_congr_right fun _ ↦ eq_comm

/-- A name is listed if looking it up succeeds. -/
theorem exists_lookup_iff {r : Registry α} {name : String} :
    (∃ handler, r.lookup name = .ok handler) ↔ name ∈ r.names := by
  rw [mem_names_iff]
  unfold lookup
  cases r.find? name <;> simp

/-! ## Calls at the same time -/

/-- A call of a registry that calls share. -/
inductive Request (α : Type)
  | register (name : String) (handler : α)
  | lookup (name : String)
  | names

/-- What a question about a registry is answered. -/
inductive Answer (α : Type)
  | handler (found : Except GatewayError α)
  | names (names : List String)

/-- The steps of a call; a registration is never refused. -/
def Request.call {α : Type} : Request α → Shared.Call (Registry α) Empty (Answer α)
  | .register name handler => .change (.look fun seen ↦ .publish fun _ ↦ seen.register name handler)
  | .lookup name => .question fun r ↦ .handler (r.lookup name)
  | .names => .question fun r ↦ .names r.names

end Registry
end HttpGateway
