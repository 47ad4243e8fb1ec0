import HttpGateway.Proofs.Shared.Mapping

/-!
# What a start leaves of the mapping

The hooks of a gateway may do to its mapping what the calls of a mapping do, and no more: register,
close and ask. Whatever they register and in whatever order, and also if they go on after a refusal,
the gateway that is started maps each code that every mapping starts with to the status that it
starts with.
-/

namespace HttpGateway

namespace StatusMapping

/-- The mapping after a call by itself. A registration that is refused changes nothing, and a
question does not either. -/
def after (m : StatusMapping) (request : Request) : StatusMapping :=
  match request.call with
  | .change body => (body.run m).toOption.getD m
  | .question _ => m

/-- The mapping after calls, one after the other. -/
def afterAll (m : StatusMapping) (requests : List Request) : StatusMapping :=
  requests.foldl after m

namespace Extends

variable {m made last : StatusMapping}

/-- A mapping extends itself. -/
theorem refl (m : StatusMapping) : m.Extends m := ⟨List.prefix_rfl, List.prefix_rfl⟩

/-- What extends an extension extends the mapping. -/
theorem trans (h : last.Extends made) (h' : made.Extends m) : last.Extends m :=
  ⟨h'.codes.trans h.codes, h'.success.trans h.success⟩

end Extends

end StatusMapping

namespace Hook

open StatusMapping

variable {σ α β : Type}

/-- A part of a setup does nothing to the mapping but call it: where it succeeds, it leaves what
some calls make of the mapping that it found. -/
def OnlyCalls (part : EStateM GatewayError (StatusMapping × σ) α) : Prop :=
  ∀ m world a made left, part (m, world) = .ok a (made, left) →
    ∃ requests, made = m.afterAll requests

/-- Two parts in a row only call the mapping if each of them does. -/
theorem OnlyCalls.bind {first : EStateM GatewayError (StatusMapping × σ) α}
    {k : α → EStateM GatewayError (StatusMapping × σ) β} (h : OnlyCalls first)
    (h' : ∀ a, OnlyCalls (k a)) : OnlyCalls (first >>= k) := by
  intro m world b made left run
  cases begun : first (m, world) with
  | error e between =>
    rw [bind_of_error begun] at run
    cases run
  | ok a between =>
    rw [bind_of_ok begun] at run
    obtain ⟨requests, eq⟩ := h m world a between.1 between.2 begun
    obtain ⟨more, rfl⟩ := h' a between.1 between.2 b made left run
    refine ⟨requests ++ more, ?_⟩
    rw [eq, afterAll, afterAll, afterAll, List.foldl_append]

end Hook

end HttpGateway
