import HttpGateway.Proofs.Lifecycle.Invariant
import HttpGateway.Proofs.Lifecycle.Isolation

/-!
# One bundle for each exchange

What becomes of the bundle of an exchange while it runs through a gateway: the first bundle stays,
whoever installed it; the handler of another protocol refuses the exchange, and no call is made; the
handler of the same protocol finds its bundle in all of its stages. So the failures of a handler
that misses its bundle do not occur, unless a hook or a transport fails like that itself.
-/

namespace HttpGateway

open Lifecycle

variable {σ : Type}

/-- What becomes of the bundles that are installed on an exchange. -/
structure Exchange.KeepsFirst (x : Exchange) : Prop where
  /-- Of bundles that are installed one after the other the first one stays. -/
  first : ∀ bundles : List Bundle, bundles.foldl (fun y bundle ↦ y.used (.install bundle)) x =
    { x with bundle := x.bundle.or bundles.head? }
  /-- Its protocol stays also if it is changed in between. -/
  kind : ∀ kind, x.Carries kind → ∀ uses : List Bundle.Use, (uses.foldl used x).Carries kind
  /-- A bundle of the same protocol changes nothing. -/
  same : ∀ bundle : Bundle, x.Carries bundle.kind → x.install bundle = .ok x
  /-- A bundle of another protocol is refused. -/
  foreign : ∀ (bundle : Bundle) (kind : BundleKind), x.Carries kind → kind ≠ bundle.kind →
    ∃ refused, x.install bundle = .error refused ∧ refused.error.kind = .request ∧
      refused.error.code = .invalidRequest

/-- Every exchange keeps its first bundle. -/
theorem Exchange.keepsFirst (x : Exchange) : x.KeepsFirst where
  first := x.foldl_install
  kind _ carries uses := carries.foldl_used uses
  same _ carries := install_of_carries carries
  foreign _ _ carries ne := ⟨_, install_of_carries_ne carries ne, rfl, rfl⟩

namespace Handler

/-- How a handler prepares an exchange: with an empty bundle of its protocol if there is none, not
at all if there is one, and by a refusal if there is one of another protocol. -/
structure PreparesOnce (handler : Handler σ) (kind : BundleKind) : Prop where
  fresh : ∀ s, s.exchange.bundle = none → handler.prepare s =
    .ok () { s with exchange := { s.exchange with bundle := some (.empty kind) } }
  same : ∀ s, s.exchange.Carries kind → handler.prepare s = .ok () s
  foreign : ∀ s other, s.exchange.Carries other → other ≠ kind →
    handler.prepare s = .error (.failed (Exchange.ForeignBundle.error ⟨other, kind⟩)) s

/-- The four handlers prepare an exchange once. -/
theorem Isolates.preparesOnce {handler : Handler σ} {kind : BundleKind}
    {own : Option (Transport σ)} (h : handler.Isolates kind own) : handler.PreparesOnce kind := by
  constructor
  case fresh =>
    intro s none_
    rw [h.prepare]
    exact Stage.install_of_none none_ _
  case same =>
    intro s carries
    rw [← Bundle.kind_empty kind] at carries
    rw [h.prepare]
    exact Stage.install_of_carries carries
  case foreign =>
    intro s other carries ne
    rw [← Bundle.kind_empty kind] at ne
    rw [h.prepare, Stage.install_of_carries_ne carries ne, Bundle.kind_empty]

/-- The failures of a handler that misses its bundle. -/
inductive Misses : GatewayError → Prop
  | header (kind : BundleKind) : Misses (withoutHeader kind)
  | grpcHeader : Misses withoutGrpcHeader

namespace Misses

variable {e : GatewayError}

/-- A bundle is missed by the request. -/
theorem kind_eq (h : Misses e) : e.kind = .request := by
  cases h <;> rfl

/-- Whoever misses a bundle calls the request invalid. -/
theorem code_eq (h : Misses e) : e.code = .invalidRequest := by
  cases h <;> rfl

/-- A bundle that is refused is not missed. -/
theorem ne_foreign (h : Misses e) (foreign : Exchange.ForeignBundle) : e ≠ foreign.error := by
  obtain ⟨existing, wanted⟩ := foreign
  cases h with
  | header kind => cases kind <;> cases existing <;> cases wanted <;> decide
  | grpcHeader => cases existing <;> cases wanted <;> decide

end Misses
end Handler

namespace Lifecycle

variable {kind : BundleKind}

/-- A note of a stage of the handler that fits is not one of a bundle that is missed. -/
theorem Entry.Fits.failure_ne {e : Entry} (h : e.Fits kind) (handlers : e.step.isHandlers = true)
    {missing : GatewayError} (misses : Handler.Misses missing) :
    e.outcome.failure ≠ some (.failed missing) := by
  obtain ⟨step, failure, exchange⟩ := e
  rintro rfl
  cases step with
  | before | roundTrip | recover | after => cases handlers
  | options | slot => cases h.2
  | prepare =>
    obtain ⟨other, -, -, refused⟩ := h.2 _ rfl
    exact misses.ne_foreign _ (Halt.failed.inj refused)
  | payload =>
    obtain ⟨-, -, unknown, -, refused⟩ := h.2 _ rfl
    have code : missing.code = .serverDecodeFail := congrArg (·.code) (Halt.failed.inj refused)
    exact absurd (misses.code_eq.symm.trans code) (by decide)
  | respond =>
    have kind : missing.kind = .framework := congrArg (·.kind) (Halt.failed.inj (h.2 _ rfl))
    exact absurd (misses.kind_eq.symm.trans kind) (by decide)

/-- Which call a lifecycle that misses a bundle ended with. -/
theorem exists_failure_of_verdict {protocol : String} {log : Log} (made : log ≠ [])
    {missing : GatewayError} (misses : Handler.Misses missing)
    (told : verdict protocol log = .error (.failed missing)) :
    ∃ e ∈ log, e.outcome.failure = some (.failed missing) := by
  have absent : ∀ {e : GatewayError}, e.kind ≠ .request → e ≠ missing := by
    rintro e other rfl
    exact other misses.kind_eq
  unfold verdict at told
  rw [List.getLast?_eq_some_getLast made] at told
  refine ⟨log.getLast made, List.getLast_mem made, ?_⟩
  dsimp only at told
  split at told
  case h_1 halt _ failed =>
    rw [failed, Except.error.inj told]
  case h_2 =>
    exact absurd (Halt.failed.inj (Except.error.inj told)) (absent nofun)
  case h_3 =>
    unfold answer at told
    split at told
    · cases told
    · exact absurd (Halt.failed.inj (Except.error.inj told)) (absent nofun)

/-- Among notes that fit, only a hook or a transport fails as if a bundle were missed, though the
handler may hand the failure of the transport on. -/
theorem Course.exists_guest (c : Course) {protocol : String} {hooks : Nat} {inTable : Bool}
    (fits : ∀ e ∈ c.log protocol hooks inTable, e.Fits kind) {missing : GatewayError}
    (misses : Handler.Misses missing) {e : Entry} (among : e ∈ c.log protocol hooks inTable)
    (failed : e.outcome.failure = some (.failed missing)) :
    ∃ e ∈ c.log protocol hooks inTable, e.step.isGuests = true ∧
      e.outcome.failure = some (.failed missing) := by
  have fit := fits e among
  cases step : e.step with
  | before | roundTrip | after =>
    refine ⟨e, among, ?_, failed⟩
    rw [step]
    rfl
  | recover name failure =>
    unfold Entry.Fits at fit
    rw [step] at fit
    obtain rfl : missing = failure := Halt.failed.inj (fit.2 _ failed)
    obtain ⟨trip, within, ⟨origin, made⟩, broken⟩ :=
      c.exists_roundTrip protocol hooks inTable among step
    refine ⟨trip, within, ?_, broken⟩
    rw [made]
    rfl
  | prepare | options | payload | slot | respond =>
    refine absurd failed (fit.failure_ne ?_ misses)
    rw [step]
    rfl

/-- Behind the preparation there is a preparation that has succeeded. -/
theorem Course.exists_prepares (c : Course) {protocol : String} {hooks : Nat} {inTable : Bool}
    {e : Entry} (among : e ∈ c.log protocol hooks inTable) (behind : e.step.isPrepared = true) :
    ∃ e' ∈ c.log protocol hooks inTable, e'.Prepares := by
  have elsewhere : e ∉ (List.range hooks).map fun i ↦ ⟨.before i, c.before i⟩ := by
    intro mem
    obtain ⟨i, -, rfl⟩ := List.mem_map.mp mem
    cases behind
  unfold log at among ⊢
  obtain ⟨all, among⟩ := Log.eq_append_of_mem_andThen among elsewhere
  rw [all]
  unfold handling at among ⊢
  rw [Log.andThen, List.mem_cons] at among
  obtain rfl | among := among
  · cases behind
  split at among
  case isTrue success =>
    refine ⟨⟨.prepare protocol, c.prepare⟩, ?_, ⟨protocol, rfl⟩, success⟩
    rw [Log.andThen]
    exact List.mem_append_right _ List.mem_cons_self
  case isFalse => exact absurd among List.not_mem_nil

/-- A course that leaves a bundle of another protocol has gone no further than the preparation. -/
theorem Course.isPrepared_eq_false (c : Course) {protocol : String} {hooks : Nat} {inTable : Bool}
    {x y : Exchange} (noted : Noted kind x (c.log protocol hooks inTable) y) {other : BundleKind}
    (carries : y.Carries other) (foreign : other ≠ kind) :
    ∀ e ∈ c.log protocol hooks inTable, e.step.isPrepared = false := by
  intro e among
  refine Bool.eq_false_iff.mpr fun behind ↦ foreign ?_
  have own : y.Carries kind := noted.own (c.exists_prepares among behind)
  exact carries.unique own

/-- Hooks that keep the protocol of the bundle, one after the other. -/
theorem keepsKind_forM_before (hooks : List (Hook σ))
    (keeps : ∀ hook ∈ hooks, hook.before.KeepsKind) : (hooks.forM Hook.before).KeepsKind := by
  intro s kind
  exact Stage.preserves_forM (I := fun s ↦ s.exchange.Carries kind)
    (fun hook mem s ↦ keeps hook mem s kind) s

/-- How an exchange runs with a handler that works on bundles of one protocol, by the log of the
run. -/
structure OneBundle (g : Gateway σ) (protocol : String) (target : Target) (kind : BundleKind)
    (s : Scene σ) (log : Log) : Prop where
  /-- It is the log of this run. -/
  watched : g.recorded.run protocol target (s.withLog []) =
    Stage.logged id log (g.run protocol target s)
  /-- The protocol of the bundle that an exchange comes with stays. -/
  kept : ∀ first, s.exchange.Carries first →
    (Stage.left (g.run protocol target s)).exchange.Carries first ∧
      ∀ e ∈ log, e.outcome.exchange.Carries first
  /-- The exchange of another protocol goes as far as the preparation, and there is no call. -/
  stopped : ∀ other, s.exchange.Carries other → other ≠ kind →
    (∀ e ∈ log, e.step.isPrepared = false) ∧
      match g.hooks.forM Hook.before s with
      | .error halt t => g.run protocol target s = .error halt t
      | .ok _ t => g.run protocol target s =
          .error (.failed (Exchange.ForeignBundle.error ⟨other, kind⟩)) t
  /-- So does one that is of another protocol when the hooks in front have seen it. -/
  turned : ∀ other t, g.hooks.forM Hook.before s = .ok () t → t.exchange.Carries other →
    other ≠ kind → (∀ e ∈ log, e.step.isPrepared = false) ∧
      g.run protocol target s = .error (.failed (Exchange.ForeignBundle.error ⟨other, kind⟩)) t
  /-- Behind the preparation there is the handler's own bundle, -/
  own : ∀ e ∈ log, e.step.isPrepared = true → e.outcome.exchange.Carries kind
  /-- also when the run ends. -/
  ends : (∃ e ∈ log, e.Prepares) →
    (Stage.left (g.run protocol target s)).exchange.Carries kind
  /-- How the stages may fail. -/
  fits : ∀ e ∈ log, e.Fits kind
  /-- No stage of the handler misses its bundle. -/
  present : ∀ e ∈ log, e.step.isHandlers = true → ∀ missing, Handler.Misses missing →
    e.outcome.failure ≠ some (.failed missing)
  /-- If a run ends as if it did, then a hook or the transport had failed like that. -/
  guests : ∀ missing t, Handler.Misses missing →
    g.run protocol target s = .error (.failed missing) t →
    ∃ e ∈ log, e.step.isGuests = true ∧ e.outcome.failure = some (.failed missing)
  /-- A payload is wanting only if the body of a remote procedure call is of an unknown type. -/
  payload : ∀ e ∈ log, ∀ name halt, e.step = .payload name → e.outcome.failure = some halt →
    kind = .rpc ∧ e.outcome.exchange.head.method ≠ .get ∧ ∃ unknown,
      Serialization.ofContentType e.outcome.exchange.contentType = .error unknown ∧
        halt = .failed unknown.error

/-- The log is the one that the gateway keeps. -/
theorem OneBundle.log_eq {g : Gateway σ} {protocol : String} {target : Target} {s : Scene σ}
    {log : Log} (h : OneBundle g protocol target kind s log) :
    log = (Stage.left (g.recorded.run protocol target (s.withLog []))).world.2 := by
  rw [h.watched]
  cases g.run protocol target s <;> rfl

end Lifecycle

namespace Gateway

variable {g : Gateway σ} {protocol : String} {handler : Handler σ} {kind : BundleKind}
  {own : Option (Transport σ)}

/-- The handler of a gateway that keeps a log leaves notes. -/
theorem find?_recorded (found : g.registry.find? protocol = some handler) :
    g.recorded.registry.find? protocol = some (handler.recorded protocol) := by
  have handlers := Registry.find?_mapNamed Handler.recorded g.registry protocol
  rw [found] at handlers
  exact handlers

/-- The run of a handler, and the notes that it leaves in a log. -/
theorem exists_tells_run (found : g.registry.find? protocol = some handler) (target : Target)
    (s : Scene σ) : ∃ c : Course, Tells protocol s (g.run protocol target)
      (g.recorded.run protocol target)
      (c.log protocol g.hooks.length (g.transports.find? protocol).isSome) := by
  obtain ⟨c, tells⟩ := exists_passing g protocol target handler g.hooks 0 s
  rw [← List.range_eq_range'] at tells
  rw [run_of_find? found, run_of_find? (find?_recorded found)]
  exact ⟨c, tells⟩

/-- The notes of a run fit, if hooks and transport keep the protocol of the bundle. -/
theorem noted_of_tells (found : g.registry.find? protocol = some handler)
    (isolates : handler.Isolates kind own) (hooks : ∀ hook ∈ g.hooks, hook.before.KeepsKind)
    (transports : ∀ transport, g.transportFor protocol own = .ok transport →
      ∀ call, (transport.roundTrip call).KeepsKind) {target : Target} {s : Scene σ} {log : Log}
    (tells : Tells protocol s (g.run protocol target) (g.recorded.run protocol target) log) :
    Noted kind s.exchange log (Stage.left (g.run protocol target s)).exchange := by
  have leads := keeps_passing isolates hooks transports target s [] (.start kind s.exchange) trivial
  have watched := tells.same []
  rw [run_of_find? (find?_recorded found), List.nil_append] at watched
  exact (watched ▸ leads).noted

/-- An exchange that is of another protocol behind the hooks is refused. -/
theorem run_of_passed (found : g.registry.find? protocol = some handler)
    (isolates : handler.Isolates kind own) (target : Target) {s t : Scene σ}
    (passed : g.hooks.forM Hook.before s = .ok () t) {other : BundleKind}
    (carries : t.exchange.Carries other) (foreign : other ≠ kind) :
    g.run protocol target s = .error (.failed (Exchange.ForeignBundle.error ⟨other, kind⟩)) t := by
  have refused := isolates.preparesOnce.foreign t other carries foreign
  rw [run_of_find? found]
  exact (Stage.bind_of_ok passed).trans (Stage.bind_of_error refused)

/-- The exchange of another protocol goes as far as the preparation. -/
theorem run_of_carries_ne (found : g.registry.find? protocol = some handler)
    (isolates : handler.Isolates kind own) (hooks : ∀ hook ∈ g.hooks, hook.before.KeepsKind)
    (target : Target) {s : Scene σ} {other : BundleKind} (carries : s.exchange.Carries other)
    (foreign : other ≠ kind) :
    match g.hooks.forM Hook.before s with
    | .error halt t => g.run protocol target s = .error halt t
    | .ok _ t => g.run protocol target s =
        .error (.failed (Exchange.ForeignBundle.error ⟨other, kind⟩)) t := by
  have kept := keepsKind_forM_before g.hooks hooks s other carries
  cases result : g.hooks.forM Hook.before s with
  | error halt t =>
    rw [run_of_find? found]
    exact Stage.bind_of_error result
  | ok _ t =>
    rw [result] at kept
    exact run_of_passed found isolates target result kept foreign

/-- A handler of one protocol runs exchanges on bundles of this protocol. -/
theorem exists_oneBundle (found : g.registry.find? protocol = some handler)
    (isolates : handler.Isolates kind own) (hooks : ∀ hook ∈ g.hooks, hook.before.KeepsKind)
    (transports : ∀ transport, g.transportFor protocol own = .ok transport →
      ∀ call, (transport.roundTrip call).KeepsKind) (target : Target) (s : Scene σ) :
    ∃ log, OneBundle g protocol target kind s log := by
  obtain ⟨c, tells⟩ := exists_tells_run found target s
  have noted := noted_of_tells found isolates hooks transports tells
  refine ⟨c.log protocol g.hooks.length (g.transports.find? protocol).isSome, ?_⟩
  constructor
  case watched => exact tells.same []
  case kept => exact noted.kept
  case ends => exact noted.own
  case fits => exact noted.fits
  case stopped =>
    intro other carries foreign
    have kept := (noted.kept other carries).1
    exact ⟨c.isPrepared_eq_false noted kept foreign,
      run_of_carries_ne found isolates hooks target carries foreign⟩
  case turned =>
    intro other t passed carries foreign
    have refused := run_of_passed found isolates target passed carries foreign
    rw [refused] at noted
    exact ⟨c.isPrepared_eq_false noted carries foreign, refused⟩
  case own => exact fun e among behind ↦ (noted.fits e among).carries behind
  case present =>
    exact fun e among handlers missing misses ↦ (noted.fits e among).failure_ne handlers misses
  case guests =>
    intro missing t misses ended
    have told := tells.told
    rw [ended] at told
    obtain ⟨e, among, failed⟩ := exists_failure_of_verdict tells.made misses told
    exact c.exists_guest noted.fits misses among failed
  case payload =>
    rintro ⟨step, failure, y⟩ among name halt rfl rfl
    exact (noted.fits _ among).2 halt rfl

/-- Bundles do not get in each other's way. -/
theorem isolatesBundles_of_serves (found : g.registry.find? protocol = some handler)
    (serves : handler.Serves kind own) (hooks : ∀ hook ∈ g.hooks, hook.before.UsesBundle)
    (transports : ∀ transport, g.transportFor protocol own = .ok transport →
      ∀ call, (transport.roundTrip call).UsesBundle) (target : Target) :
    (∀ x : Exchange, x.KeepsFirst) ∧ handler.PreparesOnce kind ∧
      ∀ s : Scene σ, ∃ log, OneBundle g protocol target kind s log := by
  refine ⟨Exchange.keepsFirst, serves.isolates.preparesOnce, fun s ↦ ?_⟩
  exact exists_oneBundle found serves.isolates (fun hook among ↦ (hooks hook among).keepsKind)
    (fun transport way call ↦ (transports transport way call).keepsKind) target s

/-- A bundle that a hook leaves for the handler. -/
def greeting : Bundle := .raw { CallHeader.empty with requestMetadata := .ofPairs [([1], [2])] }

/-- A network of peers that say a byte when they are called. -/
def answering : RawCall.Network Nat := fun _ _ _ world ↦ (.replied [3], world + 100)

/-- A gateway to such peers with a hook that leaves the bundle if there is none. -/
def greeted : Gateway Nat where
  registry := Registry.empty.register "raw" (.raw (RawCall.transport answering))
  mapping := .initial
  transports := .empty
  hooks := [⟨pure (), Stage.change (·.used (.install greeting)), fun _ world ↦ world + 1⟩]
  count _ world := world + 10

/-- The handler finds the bundle that the hook left, with what is in it, and an exchange that comes
with the bundle of a proxied request is refused by the handler and not called for. -/
theorem isolatesBundles_greeted :
    (∃ log, OneBundle greeted "raw" ⟨"127.0.0.1:9000", none, ⟨1⟩⟩ .raw ⟨bare, .bytes none, 0⟩ log ∧
      log.map (·.step) = [.before 0, .prepare "raw", .options "raw" true, .payload "raw",
        .slot "raw", .roundTrip .own, .respond "raw", .after 0] ∧
      ∀ e ∈ log, e.outcome.exchange.header?.map (·.requestMetadata) =
        some (.ofPairs [([1], [2])])) ∧
    ∃ log, OneBundle greeted "raw" ⟨"127.0.0.1:9000", none, ⟨1⟩⟩ .raw
        ⟨{ bare with bundle := some (.empty .http) }, .bytes none, 0⟩ log ∧
      log.map (·.step) = [.before 0, .prepare "raw"] ∧
      greeted.run "raw" ⟨"127.0.0.1:9000", none, ⟨1⟩⟩
          ⟨{ bare with bundle := some (.empty .http) }, .bytes none, 0⟩ =
        .error (.failed (Exchange.ForeignBundle.error ⟨.http, .raw⟩))
          ⟨{ bare with bundle := some (.empty .http) }, .bytes none, 0⟩ := by
  have found : greeted.registry.find? "raw" = some (.raw (RawCall.transport answering)) := rfl
  have isolates := isolatesBundles_of_serves found (.raw _)
    (by
      rintro hook among s
      obtain rfl := List.mem_singleton.mp among
      exact ⟨[.install greeting], rfl⟩)
    (by
      intro transport way
      obtain rfl := Except.ok.inj way
      exact BuiltIn.usesBundle (.raw (χ := Empty) answering))
    ⟨"127.0.0.1:9000", none, ⟨1⟩⟩
  refine ⟨?_, ?_⟩
  · obtain ⟨log, one⟩ := isolates.2.2 ⟨bare, .bytes none, 0⟩
    refine ⟨log, one, ?_⟩
    rw [one.log_eq]
    decide +kernel
  · obtain ⟨log, one⟩ := isolates.2.2 ⟨{ bare with bundle := some (.empty .http) }, .bytes none, 0⟩
    refine ⟨log, one, ?_, (one.stopped .http rfl nofun).2⟩
    rw [one.log_eq]
    decide +kernel

end Gateway
end HttpGateway
