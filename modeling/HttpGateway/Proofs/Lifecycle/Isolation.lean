import HttpGateway.Proofs.Lifecycle.Bundles
import HttpGateway.Proofs.Lifecycle.FailedCall

/-!
# One protocol for each exchange

An exchange runs with the bundle of one protocol. If it carries one when it comes, or if a hook
installs one, the handler of another protocol does not get beyond its preparation and no call is
made. Behind a preparation that has succeeded the exchange carries the handler's own bundle to the
end, so that no stage of the handler misses it. This holds of every gateway whose hooks and
transport use the bundle but do not put another one in its place.
-/

namespace HttpGateway

open Lifecycle

variable {σ α β : Type} {kind : BundleKind} {x y : Exchange} {log : Log}

/-! ## Notes of the bundle -/

namespace Lifecycle

/-- A call of the handler; what it hands on of the failure of a transport is not its own. -/
def Step.isHandlers : Step → Bool
  | .prepare _ | .options _ _ | .payload _ | .slot _ | .respond _ => true
  | .before _ | .roundTrip _ | .recover _ _ | .after _ => false

/-- A call of a hook or of a transport. -/
def Step.isGuests : Step → Bool
  | .before _ | .roundTrip _ | .after _ => true
  | .prepare _ | .options _ _ | .payload _ | .slot _ | .recover _ _ | .respond _ => false

/-- A call that comes behind the preparation. -/
def Step.isPrepared : Step → Bool
  | .before _ | .prepare _ => false
  | .options _ _ | .payload _ | .slot _ | .roundTrip _ => true
  | .recover _ _ | .respond _ | .after _ => true

/-- A note of a preparation that has succeeded. -/
def Entry.Prepares (e : Entry) : Prop := (∃ name, e.step = .prepare name) ∧ e.outcome.failure = none

/-- What a note says in a lifecycle with the handler of a protocol. A preparation fails only because
of the bundle of another protocol. Behind it there is a bundle of the handler's own protocol; then a
payload is wanting only because of the type of the body, and a response only for want of one that
the transport made. -/
def Entry.Fits (kind : BundleKind) (e : Entry) : Prop :=
  match e.step with
  | .before _ => True
  | .prepare _ =>
    (e.outcome.failure = none → e.outcome.exchange.Carries kind) ∧
      ∀ halt, e.outcome.failure = some halt → ∃ other, other ≠ kind ∧
        e.outcome.exchange.Carries other ∧
        halt = .failed (Exchange.ForeignBundle.error ⟨other, kind⟩)
  | .options _ _ | .slot _ | .after _ =>
    e.outcome.exchange.Carries kind ∧ e.outcome.failure = none
  | .payload _ =>
    e.outcome.exchange.Carries kind ∧
      ∀ halt, e.outcome.failure = some halt → kind = .rpc ∧
        e.outcome.exchange.head.method ≠ .get ∧ ∃ unknown,
          Serialization.ofContentType e.outcome.exchange.contentType = .error unknown ∧
          halt = .failed unknown.error
  | .roundTrip _ => e.outcome.exchange.Carries kind
  | .recover _ failure =>
    e.outcome.exchange.Carries kind ∧
      ∀ halt, e.outcome.failure = some halt → halt = .failed failure
  | .respond _ =>
    e.outcome.exchange.Carries kind ∧
      ∀ halt, e.outcome.failure = some halt → halt = .failed Reply.noResponse

/-- Behind the preparation there is a bundle of the handler's own protocol. -/
theorem Entry.Fits.carries {e : Entry} (h : e.Fits kind) (behind : e.step.isPrepared = true) :
    e.outcome.exchange.Carries kind := by
  obtain ⟨step, outcome⟩ := e
  cases step with
  | before | prepare => cases behind
  | options | payload | slot | recover | respond | after => exact h.1
  | roundTrip => exact h

/-- The notes of a lifecycle so far, and the exchange as it is now. What it carried at first it
carries throughout. -/
structure Noted (kind : BundleKind) (x : Exchange) (log : Log) (y : Exchange) : Prop where
  fits : ∀ e ∈ log, e.Fits kind
  kept : ∀ first, x.Carries first →
    y.Carries first ∧ ∀ e ∈ log, e.outcome.exchange.Carries first
  own : (∃ e ∈ log, e.Prepares) → y.Carries kind

namespace Noted

/-- At first there are no notes. -/
theorem start (kind : BundleKind) (x : Exchange) : Noted kind x [] x where
  fits _ among := absurd among List.not_mem_nil
  kept _ carries := ⟨carries, fun _ among ↦ absurd among List.not_mem_nil⟩
  own := fun ⟨_, among, _⟩ ↦ absurd among List.not_mem_nil

/-- Only the bundle counts. -/
theorem of_bundle (h : Noted kind x log y) {z : Exchange} (same : z.bundle = y.bundle) :
    Noted kind x log z := by
  refine ⟨h.fits, fun first carries ↦ ?_, fun prepared ↦ (h.own prepared).of_bundle same⟩
  obtain ⟨now, before⟩ := h.kept first carries
  exact ⟨now.of_bundle same, before⟩

/-- A call that keeps the protocol of the bundle leaves one more note. -/
theorem note (h : Noted kind x log y) {e : Entry} (fits : e.Fits kind)
    (kept : ∀ carried, y.Carries carried → e.outcome.exchange.Carries carried) :
    Noted kind x (log ++ [e]) e.outcome.exchange := by
  constructor
  case fits =>
    rw [List.forall_mem_append]
    exact ⟨h.fits, List.forall_mem_singleton.mpr fits⟩
  case kept =>
    intro first carries
    obtain ⟨now, before⟩ := h.kept first carries
    refine ⟨kept first now, ?_⟩
    rw [List.forall_mem_append]
    exact ⟨before, List.forall_mem_singleton.mpr (kept first now)⟩
  case own =>
    rintro ⟨e', among, prepares⟩
    rw [List.mem_append, List.mem_singleton] at among
    obtain before | rfl := among
    · exact kept kind (h.own ⟨e', before, prepares⟩)
    · obtain ⟨⟨name, step⟩, success⟩ := prepares
      unfold Entry.Fits at fits
      rw [step] at fits
      exact fits.1 success

end Noted

/-! ## Watched stages -/

/-- What a watched stage ends with: notes that fit, and an exchange with a property if it
succeeds. -/
def Leads (kind : BundleKind) (x : Exchange) (post : α → Exchange → Prop) :
    EStateM.Result Halt (Scene (σ × Log)) α → Prop
  | .ok a t => Noted kind x t.world.2 t.exchange ∧ post a t.exchange
  | .error _ t => Noted kind x t.world.2 t.exchange

/-- What a stage ends with, its notes included, has notes that fit. -/
theorem Leads.noted {post : β → Exchange → Prop} {f : α → β}
    {r : EStateM.Result Halt (Scene σ) α} (h : Leads kind x post (Stage.logged f log r)) :
    Noted kind x log (Stage.left r).exchange := by
  cases r with
  | ok => exact h.1
  | error => exact h

/-- From an exchange with a property, a watched stage goes on with notes that fit, and leaves an
exchange with another property if it succeeds. -/
def Keeps (kind : BundleKind) (x : Exchange) (pre : Exchange → Prop) (stage : Stage (σ × Log) α)
    (post : α → Exchange → Prop) : Prop :=
  ∀ (s : Scene σ) log, Noted kind x log s.exchange → pre s.exchange →
    Leads kind x post (stage (s.withLog log))

variable {pre : Exchange → Prop}

/-- Stages that come one after the other. -/
theorem Keeps.bind {first : Stage (σ × Log) α} {next : α → Stage (σ × Log) β}
    {mid : α → Exchange → Prop} {post : β → Exchange → Prop} (h : Keeps kind x pre first mid)
    (k : ∀ a, Keeps kind x (mid a) (next a) post) : Keeps kind x pre (first >>= next) post := by
  intro s log noted ready
  have before := h s log noted ready
  cases result : first (s.withLog log) with
  | error halt t =>
    rw [result] at before
    rw [Stage.bind_of_error result]
    exact before
  | ok a t =>
    rw [result] at before
    rw [Stage.bind_of_ok result]
    exact k a ⟨t.exchange, t.slot, t.world.1⟩ t.world.2 before.1 before.2

/-- A stage that keeps the protocol of the bundle and leaves a note that fits. -/
theorem keeps_recorded {stage : Stage σ α} {step : Option α → Step} {f : α → β}
    {post : β → Exchange → Prop}
    (keeps : ∀ s, pre s.exchange →
      ∀ carried, s.exchange.Carries carried → (Stage.left (stage s)).exchange.Carries carried)
    (fits : ∀ s, pre s.exchange → (Stage.note step (stage s)).Fits kind)
    (leaves : ∀ s a t, pre s.exchange → stage s = .ok a t → post (f a) t.exchange) :
    Keeps kind x pre (stage.recorded step f) post := by
  intro s log noted ready
  have kept := keeps s ready
  have fits := fits s ready
  cases result : stage s with
  | ok a t =>
    rw [result] at kept fits
    rw [Stage.recorded_of_ok result log]
    exact ⟨noted.note fits kept, leaves s a t ready result⟩
  | error halt t =>
    rw [result] at kept fits
    rw [Stage.recorded_of_error result log]
    exact noted.note fits kept

/-- A stage behind the preparation: that its note fits says that the bundle is there. -/
theorem keeps_prepared {stage : Stage σ α} {step : Option α → Step} {f : α → β}
    {post : β → Exchange → Prop} (behind : ∀ a, (step a).isPrepared = true)
    (fits : ∀ s, s.exchange.Carries kind → (Stage.note step (stage s)).Fits kind)
    (leaves : ∀ s a t, stage s = .ok a t → t.exchange.Carries kind → post (f a) t.exchange) :
    Keeps kind x (·.Carries kind) (stage.recorded step f) post := by
  have kept : ∀ s, s.exchange.Carries kind → (Stage.left (stage s)).exchange.Carries kind := by
    intro s ready
    have note := fits s ready
    cases result : stage s with
    | ok a t =>
      rw [result] at note
      exact note.carries (behind _)
    | error halt t =>
      rw [result] at note
      exact note.carries (behind _)
  refine keeps_recorded ?_ fits fun s a t ready ok ↦ leaves s a t ok ?_
  · intro s ready carried carries
    rw [← ready.unique carries]
    exact kept s ready
  · have carries := kept s ready
    rw [ok] at carries
    exact carries

/-- A stage that looks at the exchange first. -/
theorem keeps_exchange_bind {next : Exchange → Stage (σ × Log) α} {post : α → Exchange → Prop}
    (h : ∀ y, Keeps kind x (fun z ↦ z = y ∧ pre z) (next y) post) :
    Keeps kind x pre (Stage.exchange >>= next) post := by
  intro s log noted ready
  rw [Stage.exchange_bind]
  exact h s.exchange s log noted ⟨rfl, ready⟩

/-- A stage that takes a result which may be a failure. -/
theorem keeps_ofExcept_bind {r : Except GatewayError α} {next : α → Stage (σ × Log) β}
    {post : β → Exchange → Prop} (h : ∀ a, r = .ok a → Keeps kind x pre (next a) post) :
    Keeps kind x pre (Stage.ofExcept r >>= next) post := by
  intro s log noted ready
  cases r with
  | error e => exact noted
  | ok a => exact h a rfl s log noted ready

/-- What is known of a stage apart from the exchange. -/
theorem keeps_of_and {known : Prop} {stage : Stage (σ × Log) α} {post : α → Exchange → Prop}
    (h : known → Keeps kind x pre stage post) : Keeps kind x (fun y ↦ pre y ∧ known) stage post :=
  fun s log noted ready ↦ h ready.2 s log noted ready.1

/-- Filling the slot. -/
theorem keeps_fill (slot : ReplySlot) :
    Keeps (σ := σ) kind x pre (Stage.fill slot) fun _ y ↦ pre y :=
  fun _ _ noted ready ↦ ⟨noted, ready⟩

/-! ## The parts of a lifecycle -/

/-- The hooks before the preparation. -/
theorem keeps_before (hooks : List (Hook σ)) (place : Nat)
    (keeps : ∀ hook ∈ hooks, hook.before.KeepsKind) :
    Keeps kind x (fun _ ↦ True) ((Hook.recordedFrom place hooks).forM Hook.before)
      fun _ _ ↦ True := by
  induction hooks generalizing place with
  | nil => exact fun _ _ noted _ ↦ ⟨noted, trivial⟩
  | cons hook hooks ih =>
    obtain ⟨first, others⟩ := List.forall_mem_cons.mp keeps
    have passes : Keeps kind x (fun _ ↦ True) (hook.recorded place).before fun _ _ ↦ True := by
      refine keeps_recorded (fun s _ ↦ first s) (fun s _ ↦ ?_) fun _ _ _ _ _ ↦ trivial
      cases hook.before s <;> trivial
    exact passes.bind fun _ ↦ ih (place + 1) others

/-- The hooks behind the response look at the exchange as it is then. -/
theorem keeps_after (y : Exchange) (hooks : List (Hook σ)) (place : Nat) :
    Keeps kind x (fun z ↦ z = y ∧ z.Carries kind)
      ((Hook.recordedFrom place hooks).forM fun hook ↦ Stage.act (hook.after y))
      fun _ z ↦ z.Carries kind := by
  induction hooks generalizing place with
  | nil => exact fun _ _ noted ready ↦ ⟨noted, ready.2⟩
  | cons hook hooks ih =>
    have looks : Keeps kind x (fun z ↦ z = y ∧ z.Carries kind)
        (Stage.act ((hook.recorded place).after y)) fun _ z ↦ z = y ∧ z.Carries kind := by
      rintro s log noted ⟨rfl, carries⟩
      exact ⟨noted.note (e := ⟨.after place, none, s.exchange⟩) ⟨carries, rfl⟩ fun _ ↦ id, rfl,
        carries⟩
    exact looks.bind fun _ ↦ ih (place + 1)

/-- Taking the response leaves the bundle. -/
theorem keeps_takeResponse : Keeps (σ := σ) kind x pre Gateway.takeResponse fun _ _ ↦ True := by
  intro s log noted _
  unfold Gateway.takeResponse
  rw [Stage.exchange_bind]
  cases (s.withLog log).exchange.response with
  | none => exact noted
  | some response => exact ⟨noted.of_bundle rfl, trivial⟩

variable {handler : Handler σ} {own : Option (Transport σ)}

/-- The preparation. -/
theorem keeps_prepare (isolates : handler.Isolates kind own) (protocol : String) :
    Keeps kind x (fun _ ↦ True) (handler.recorded protocol).prepare fun _ y ↦ y.Carries kind := by
  change Keeps kind x _ (handler.prepare.recorded (fun _ ↦ .prepare protocol) id) _
  rw [isolates.prepare]
  have fits : ∀ s : Scene σ, (Stage.note (fun _ ↦ .prepare protocol)
      (Stage.install (.empty kind) s)).Fits kind := by
    intro s
    obtain none_ | ⟨other, carries⟩ := s.exchange.carries_or_none
    · rw [Stage.install_of_none none_]
      exact ⟨fun _ ↦ congrArg some (Bundle.kind_empty kind), nofun⟩
    · by_cases same : other = (Bundle.empty kind).kind
      · subst same
        rw [Stage.install_of_carries carries]
        rw [Bundle.kind_empty] at carries
        exact ⟨fun _ ↦ carries, nofun⟩
      · rw [Stage.install_of_carries_ne carries same]
        rw [Bundle.kind_empty] at same ⊢
        refine ⟨nofun, ?_⟩
        rintro _ ⟨⟩
        exact ⟨other, same, carries, rfl⟩
  refine keeps_recorded (fun s _ ↦ Stage.keepsKind_install _ s) (fun s _ ↦ fits s)
    fun s a t _ ok ↦ ?_
  have prepared := fits s
  rw [ok] at prepared
  exact prepared.1 rfl

/-- The options, which come with the handler's own transport. -/
theorem keeps_options (isolates : handler.Isolates kind own) (protocol : String) :
    Keeps kind x (·.Carries kind) (handler.recorded protocol).options
      fun o y ↦ y.Carries kind ∧ o.transport = own.map (Transport.recorded .own) := by
  refine keeps_prepared (fun _ ↦ rfl) (fun s carries ↦ ?_) fun s o t ok carries ↦ ?_
  all_goals obtain ⟨options, given, brought⟩ := isolates.options s
  · rw [given]
    exact ⟨carries, rfl⟩
  · rw [given] at ok
    cases ok
    exact ⟨carries, congrArg (Option.map (Transport.recorded .own)) brought⟩

/-- The payload. -/
theorem keeps_payload (isolates : handler.Isolates kind own) (protocol : String) :
    Keeps kind x (·.Carries kind) (handler.recorded protocol).payload
      fun _ y ↦ y.Carries kind := by
  refine keeps_prepared (fun _ ↦ rfl) (fun s carries ↦ ?_) fun _ _ _ _ carries ↦ carries
  obtain ⟨p, f, made⟩ | ⟨rpc, written, unknown, type, wanting⟩ := isolates.payload s carries
  · rw [made]
    exact ⟨carries.mapHeader f, nofun⟩
  · rw [wanting]
    refine ⟨carries, ?_⟩
    rintro _ ⟨⟩
    exact ⟨rpc, written, unknown, type, rfl⟩

/-- The slot for the reply. -/
theorem keeps_slot (isolates : handler.Isolates kind own) (protocol : String) :
    Keeps kind x (·.Carries kind) (handler.recorded protocol).slot fun _ y ↦ y.Carries kind := by
  refine keeps_prepared (fun _ ↦ rfl) (fun s carries ↦ ?_) fun _ _ _ _ carries ↦ carries
  obtain ⟨slot, given⟩ := isolates.slot s
  rw [given]
  exact ⟨carries, rfl⟩

/-- The failure of the call, which the handler takes in or hands on. -/
theorem keeps_recover (isolates : handler.Isolates kind own) (protocol : String)
    (e : GatewayError) :
    Keeps kind x (·.Carries kind) ((handler.recorded protocol).recover e)
      fun _ y ↦ y.Carries kind := by
  refine keeps_prepared (fun _ ↦ rfl) (fun s carries ↦ ?_) fun _ _ _ _ carries ↦ carries
  rw [isolates.recover]
  cases business : e.isBusiness with
  | true =>
    rw [Reply.absorb_of_isBusiness business]
    exact ⟨carries, nofun⟩
  | false =>
    rw [Reply.absorb_of_not_isBusiness business]
    refine ⟨carries, ?_⟩
    rintro _ ⟨⟩
    rfl

/-- The response. -/
theorem keeps_respond (isolates : handler.Isolates kind own) (protocol : String) :
    Keeps kind x (·.Carries kind) (handler.recorded protocol).respond
      fun _ y ↦ y.Carries kind := by
  refine keeps_prepared (fun _ ↦ rfl) (fun s carries ↦ ?_) fun _ _ _ _ carries ↦ carries
  obtain ⟨y, same, written⟩ | wanting := isolates.respond s carries
  · rw [written]
    exact ⟨carries.of_bundle same, nofun⟩
  · rw [wanting]
    refine ⟨carries, ?_⟩
    rintro _ ⟨⟩
    rfl

/-- The call, and what the handler does if it fails. -/
theorem keeps_attempt (isolates : handler.Isolates kind own) {transport : Transport σ}
    (call : Call) (keeps : (transport.roundTrip call).KeepsKind) (protocol : String)
    (origin : Origin) :
    Keeps kind x (·.Carries kind)
      (Gateway.attempt (handler.recorded protocol) (transport.recorded origin) call)
      fun _ y ↦ y.Carries kind := by
  intro s log noted carries
  have kept := keeps s
  unfold Gateway.attempt
  cases result : transport.roundTrip call s with
  | ok _ t =>
    rw [result] at kept
    have made : (transport.recorded origin).roundTrip call (s.withLog log) = _ :=
      Stage.recorded_of_ok result log
    rw [Stage.recovering_of_ok made]
    exact ⟨noted.note (kept kind carries) kept, kept kind carries⟩
  | error halt t =>
    rw [result] at kept
    have made : (transport.recorded origin).roundTrip call (s.withLog log) = _ :=
      Stage.recorded_of_error result log
    have later : Noted kind x (log ++ [⟨.roundTrip origin, some halt, t.exchange⟩]) t.exchange :=
      noted.note (e := ⟨.roundTrip origin, some halt, t.exchange⟩) (kept kind carries) kept
    cases halt with
    | brokenOff b =>
      rw [Stage.recovering_of_brokenOff made]
      exact later
    | failed e =>
      rw [Stage.recovering_of_failed made]
      exact keeps_recover isolates protocol e t _ later (kept kind carries)

/-! ## Lifecycles -/

/-- The lifecycle from the response on. -/
theorem keeps_closing (isolates : handler.Isolates kind own) (hooks : List (Hook σ))
    (protocol : String) :
    Keeps kind x (·.Carries kind)
      (closing (Hook.recordedFrom 0 hooks) (handler.recorded protocol)) fun _ _ ↦ True := by
  refine (keeps_respond isolates protocol).bind fun _ ↦ ?_
  refine keeps_exchange_bind fun y ↦ ?_
  exact (keeps_after y hooks 0).bind fun _ ↦ keeps_takeResponse

/-- The lifecycle from the preparation on. -/
theorem keeps_handling (isolates : handler.Isolates kind own) {g : Gateway σ} {protocol : String}
    (keeps : ∀ transport, g.transportFor protocol own = .ok transport →
      ∀ call, (transport.roundTrip call).KeepsKind) (target : Target) :
    Keeps kind x (fun _ ↦ True) (handling g.recorded protocol target (handler.recorded protocol))
      fun _ _ ↦ True := by
  refine (keeps_prepare isolates protocol).bind fun _ ↦ ?_
  refine (keeps_options isolates protocol).bind fun options ↦ keeps_of_and fun brought ↦ ?_
  refine (keeps_payload isolates protocol).bind fun payload ↦ ?_
  refine (keeps_slot isolates protocol).bind fun slot ↦ ?_
  refine (keeps_fill slot).bind fun _ ↦ keeps_ofExcept_bind fun watched found ↦ ?_
  rw [brought] at found
  obtain ⟨transport, origin, plain, watches, -⟩ | ⟨-, missing, -⟩ :=
    transport_cases g protocol ⟨none, own, false⟩
  · obtain rfl : watched = transport.recorded origin := Except.ok.inj (found.symm.trans watches)
    refine (keeps_attempt isolates _ (keeps transport plain _) protocol origin).bind fun _ ↦ ?_
    exact keeps_closing isolates g.hooks protocol
  · exact absurd (found.symm.trans missing) nofun

/-- The whole lifecycle. -/
theorem keeps_passing (isolates : handler.Isolates kind own) {g : Gateway σ} {protocol : String}
    (hooks : ∀ hook ∈ g.hooks, hook.before.KeepsKind)
    (keeps : ∀ transport, g.transportFor protocol own = .ok transport →
      ∀ call, (transport.roundTrip call).KeepsKind) (target : Target) :
    Keeps kind x (fun _ ↦ True)
      (passing g.recorded protocol target (handler.recorded protocol) (Hook.recordedFrom 0 g.hooks))
      fun _ _ ↦ True :=
  (keeps_before g.hooks 0 hooks).bind fun _ ↦ keeps_handling isolates keeps target

end Lifecycle
end HttpGateway
