import HttpGateway.Proofs.Lifecycle.Invariant
import HttpGateway.Proofs.Transport.Ends

/-!
# How many relays begin

A relay begins when a connection is taken over, and a connection can be taken over once. So the
relays that have begun, and the one that may still begin, together never become more, whatever a
proxied request ends with.
-/

namespace HttpGateway

variable {σ α β : Type}

namespace Proxy

/-- A world counts the relays that have begun: sending adds none, and beginning one adds one. -/
structure Tally (net : Network σ) where
  begun : σ → Nat
  begun_send : ∀ out limit world, begun (net.send out limit world).2 = begun world
  begun_relay : ∀ response world, begun (net.relay response world) = begun world + 1

namespace Tally

variable {net : Network σ} (tally : Tally net)

/-- The relays that have begun, and the one that may begin while the connection can be taken
over. -/
def chances (s : Scene σ) : Nat :=
  tally.begun s.world + if s.exchange.connection = .upgradable then 1 else 0

/-- A stage that adds no relay but by taking the connection over, and never gives a connection
back. -/
def Spares (stage : Stage σ α) : Prop := ∀ s, tally.chances (Stage.left (stage s)) ≤ tally.chances s

variable {tally}

/-- A stage spares if it never gets beyond the relays that there may be. -/
theorem spares_iff {stage : Stage σ α} :
    tally.Spares stage ↔ ∀ n, stage.Preserves fun s ↦ tally.chances s ≤ n :=
  ⟨fun h _ s holds ↦ Nat.le_trans (h s) holds, fun h s ↦ h _ s (Nat.le_refl _)⟩

/-- One stage after another spares if both do; the second may count on the result of the first. -/
theorem Spares.bind {m : Stage σ α} {f : α → Stage σ β} (h : tally.Spares m)
    (k : ∀ s a t, m s = .ok a t → tally.Spares (f a)) : tally.Spares (m >>= f) :=
  spares_iff.mpr fun n ↦ (spares_iff.mp h n).bind fun s a t run ↦ spares_iff.mp (k s a t run) n

/-- A result that is taken adds no relay. -/
theorem spares_ofExcept (r : Except GatewayError α) : tally.Spares (Stage.ofExcept r) :=
  spares_iff.mpr fun _ ↦ Stage.preserves_ofExcept r

/-- A change of the exchange that leaves the connection alone adds no relay. -/
theorem spares_change {f : Exchange → Exchange} (h : ∀ x, (f x).connection = x.connection) :
    tally.Spares (Stage.change f) := by
  intro s
  change tally.begun s.world + (if (f s.exchange).connection = .upgradable then 1 else 0) ≤ _
  rw [h]
  exact Nat.le_refl _

/-- A change of the world that begins no relay adds none. -/
theorem spares_act {f : σ → σ} (h : ∀ world, tally.begun (f world) ≤ tally.begun world) :
    tally.Spares (Stage.act f) :=
  fun s ↦ Nat.add_le_add_right (h s.world) _

/-- A result that is given adds no relay. -/
theorem spares_pure (a : α) : tally.Spares (pure a) := fun _ ↦ Nat.le_refl _

/-- A failure adds no relay. -/
theorem spares_fail (e : GatewayError) : tally.Spares (Stage.fail e : Stage σ α) :=
  fun _ ↦ Nat.le_refl _

/-- What is done with the exchange spares if it does for every exchange. -/
theorem spares_exchange_bind {f : Exchange → Stage σ α} (h : ∀ x, tally.Spares (f x)) :
    tally.Spares (Stage.exchange >>= f) :=
  fun s ↦ h s.exchange s

/-- A request that is sent begins no relay. -/
theorem begun_of_send {out : Outbound} {limit : Duration} {world world' : σ}
    {arrival : Arrival} (h : send net out limit world = (arrival, world')) :
    tally.begun world' = tally.begun world := by
  unfold send at h
  split at h
  · cases h
    rfl
  · have sent := tally.begun_send out limit world
    rw [h] at sent
    exact sent

/-- A relay begins only where a connection is taken over. -/
theorem chances_of_ends {bufferSize : Nat} {interval : Duration} {call : Call} {s : Scene σ}
    {r : CallResult σ} (h : Ends net bufferSize interval call s r) :
    tally.chances (Stage.left r) ≤ tally.chances s := by
  have asking : ∀ {out : Outbound} {arrival : Arrival} {world : σ},
      send net out call.timeout s.world = (arrival, world) →
      tally.chances { s with world } ≤ tally.chances s := by
    intro out arrival world asked
    refine Nat.le_of_eq ?_
    unfold chances
    dsimp only
    rw [begun_of_send asked]
  cases h with
  | unfit fault _ => exact Nat.le_refl _
  | lost out arrival world e _ asked _ => exact asking asked
  | refused out response world refusal _ asked => exact asking asked
  | bound out response world token _ asked => exact asking asked
  | unreadable out response world e _ asked => exact asking asked
  | forwarded out response world answer _ asked => exact asking asked
  | switched out response world token _ asked _ _ free =>
    refine Nat.le_of_eq ?_
    change tally.begun (net.relay response world) + 0 = _
    unfold chances
    rw [tally.begun_relay, begun_of_send asked, if_pos free]

/-- A proxied request adds no relay but by taking the connection over. -/
theorem spares_roundTrip (tally : Tally net) (bufferSize : Nat) (interval : Duration)
    (call : Call) : tally.Spares ((transport net bufferSize interval).roundTrip call) :=
  fun s ↦ chances_of_ends (ends_roundTrip net bufferSize interval call s)

end Tally
end Proxy
end HttpGateway
