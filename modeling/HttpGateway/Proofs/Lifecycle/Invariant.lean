import HttpGateway.Lifecycle

/-!
# What a lifecycle preserves

A stage preserves a property of the scene if it leaves the property where it found it, whether it
fails or not. A row of stages preserves what each of them does, and so does a recovery. Hence a
lifecycle preserves what all parts of its gateway preserve, if the slot and the response do not
count.
-/

namespace HttpGateway

variable {σ α β : Type} {I : Scene σ → Prop}

namespace Stage

/-- A stage leaves a property of the scene where it found it, whether it fails or not. -/
def Preserves (stage : Stage σ α) (I : Scene σ → Prop) : Prop := ∀ s, I s → I (left (stage s))

variable {s t : Scene σ}

/-- The property holds of what a stage leaves that succeeds. -/
theorem Preserves.of_ok {stage : Stage σ α} {a : α} (h : stage.Preserves I) (holds : I s)
    (run : stage s = .ok a t) : I t := by
  have now := h s holds
  rw [run] at now
  exact now

/-- The property holds of what a stage leaves that fails. -/
theorem Preserves.of_error {stage : Stage σ α} {halt : Halt} (h : stage.Preserves I) (holds : I s)
    (run : stage s = .error halt t) : I t := by
  have now := h s holds
  rw [run] at now
  exact now

/-- Stages that come one after the other; the second may count on the result of the first. -/
theorem Preserves.bind {m : Stage σ α} {f : α → Stage σ β} (h : m.Preserves I)
    (k : ∀ s a t, m s = .ok a t → (f a).Preserves I) : (m >>= f).Preserves I := by
  intro s holds
  cases run : m s with
  | ok a t =>
    rw [bind_of_ok run]
    exact k s a t run t (h.of_ok holds run)
  | error halt t =>
    rw [bind_of_error run]
    exact h.of_error holds run

/-- A step and what follows its failure. -/
theorem Preserves.recovering {step : Stage σ α} {recover : GatewayError → Stage σ α}
    (h : step.Preserves I) (k : ∀ e, (recover e).Preserves I) :
    (step.recovering recover).Preserves I := by
  intro s holds
  cases run : step s with
  | ok a t =>
    rw [recovering_of_ok run]
    exact h.of_ok holds run
  | error halt t =>
    cases halt with
    | failed e =>
      rw [recovering_of_failed run]
      exact k e t (h.of_error holds run)
    | brokenOff b =>
      rw [recovering_of_brokenOff run]
      exact h.of_error holds run

/-- A result that is given. -/
theorem preserves_pure (a : α) : (pure a : Stage σ α).Preserves I := fun _ holds ↦ holds

/-- A failure. -/
theorem preserves_fail (e : GatewayError) : (fail e : Stage σ α).Preserves I := fun _ holds ↦ holds

/-- A result that is taken. -/
theorem preserves_ofExcept (r : Except GatewayError α) : (ofExcept r : Stage σ α).Preserves I := by
  cases r with
  | ok a => exact preserves_pure a
  | error e => exact preserves_fail e

/-- What is done with the exchange. -/
theorem preserves_exchange_bind {f : Exchange → Stage σ α} (h : ∀ x, (f x).Preserves I) :
    (exchange >>= f).Preserves I :=
  fun s ↦ h s.exchange s

/-- Stages for the members of a row. -/
theorem preserves_forM {f : β → Stage σ PUnit} {row : List β} (h : ∀ b ∈ row, (f b).Preserves I) :
    (row.forM f).Preserves I := by
  induction row with
  | nil => exact fun _ holds ↦ holds
  | cons b row ih =>
    obtain ⟨first, others⟩ := List.forall_mem_cons.mp h
    change (f b >>= fun _ ↦ row.forM f).Preserves I
    exact first.bind fun _ _ _ _ ↦ ih others

end Stage

/-- The stages of a handler preserve a property, and so does each transport that it brings. -/
structure Handler.Preserves (handler : Handler σ) (I : Scene σ → Prop) : Prop where
  prepare : handler.prepare.Preserves I
  options : handler.options.Preserves I
  own : ∀ s o t, handler.options s = .ok o t → ∀ transport, o.transport = some transport →
    ∀ call, (transport.roundTrip call).Preserves I
  payload : handler.payload.Preserves I
  slot : handler.slot.Preserves I
  recover : ∀ e, (handler.recover e).Preserves I
  respond : handler.respond.Preserves I

namespace Gateway

/-- All parts of a gateway that the exchanges of a protocol meet preserve a property. -/
structure PartsPreserve (g : Gateway σ) (protocol : String) (I : Scene σ → Prop) : Prop where
  fill : ∀ slot, (Stage.fill slot).Preserves I
  takeResponse : takeResponse.Preserves I
  before : ∀ hook ∈ g.hooks, hook.before.Preserves I
  after : ∀ hook ∈ g.hooks, ∀ x, (Stage.act (hook.after x)).Preserves I
  handler : ∀ handler, g.registry.find? protocol = some handler → handler.Preserves I
  transport : ∀ transport, g.transports.find? protocol = some transport →
    ∀ call, (transport.roundTrip call).Preserves I

variable {g : Gateway σ} {protocol : String}

/-- The transport that makes the call is the handler's own or that of the table. -/
theorem transportFor_eq_ok {own : Option (Transport σ)} {transport : Transport σ}
    (h : g.transportFor protocol own = .ok transport) :
    own = some transport ∨ g.transports.find? protocol = some transport := by
  unfold transportFor at h
  cases own with
  | some transport' =>
    cases h
    exact .inl rfl
  | none =>
    cases table : g.transports.find? protocol with
    | some transport' =>
      rw [table] at h
      cases h
      exact .inr rfl
    | none =>
      rw [table] at h
      cases h

/-- A handler that is looked up is registered. -/
theorem find?_of_lookup {handler : Handler σ}
    (h : g.registry.lookup protocol = .ok handler) : g.registry.find? protocol = some handler := by
  unfold Registry.lookup at h
  cases found : g.registry.find? protocol with
  | none =>
    rw [found] at h
    cases h
  | some handler' =>
    rw [found] at h
    cases h
    rfl

/-- A lifecycle preserves what all parts of the gateway do. -/
theorem PartsPreserve.run (h : g.PartsPreserve protocol I) (target : Target) :
    (g.run protocol target).Preserves I := by
  unfold Gateway.run
  refine (Stage.preserves_ofExcept _).bind fun _ handler _ looked ↦ ?_
  have handles := h.handler handler (find?_of_lookup (Stage.eq_ok_of_ofExcept looked).1)
  refine (Stage.preserves_forM h.before).bind fun _ _ _ _ ↦ ?_
  refine handles.prepare.bind fun _ _ _ _ ↦ ?_
  refine handles.options.bind fun s options t given ↦ ?_
  refine handles.payload.bind fun _ payload _ _ ↦ ?_
  refine handles.slot.bind fun _ slot _ _ ↦ ?_
  refine (h.fill slot).bind fun _ _ _ _ ↦ ?_
  refine (Stage.preserves_ofExcept _).bind fun _ transport _ found ↦ ?_
  have trips : ∀ call, (transport.roundTrip call).Preserves I := by
    obtain brought | table := transportFor_eq_ok (Stage.eq_ok_of_ofExcept found).1
    · exact handles.own s options t given transport brought
    · exact h.transport transport table
  refine ((trips _).recovering handles.recover).bind fun _ _ _ _ ↦ ?_
  refine handles.respond.bind fun _ _ _ _ ↦ ?_
  refine Stage.preserves_exchange_bind fun x ↦ ?_
  refine (Stage.preserves_forM fun hook mem ↦ h.after hook mem x).bind fun _ _ _ _ ↦ ?_
  exact h.takeResponse

end Gateway
end HttpGateway
