import HttpGateway.Proofs.Lifecycle.OneBundle

/-!
# The head that is shown is the head that is delivered

Behind the response the hooks look at a published head. Each of the four handlers publishes the head
of the response that it leaves, be it the transport's, one of bytes or that of a failure that was
taken in. So whatever a hook or a transport had stored before, what the hooks see is the head of the
answer; and a proxied request without a response ends in a failure that no hook sees.
-/

namespace HttpGateway

open Lifecycle

variable {σ α β : Type}

/-- There is a response, and the head that is shown has its status, its version and its headers. -/
def Exchange.ShowsHead (x : Exchange) : Prop :=
  ∃ response, x.response = some response ∧
    x.published = some ⟨response.status, response.version, response.headers⟩

namespace Stage

/-- If the stage succeeds, the head of the response is shown. -/
def Publishes (stage : Stage σ Unit) : Prop := ∀ s t, stage s = .ok () t → t.exchange.ShowsHead

/-- What publishes a head shows that of the response. -/
theorem publishes_publish : (Reply.publish : Stage σ Unit).Publishes := by
  intro s t run
  unfold Reply.publish at run
  rw [exchange_bind] at run
  cases there : s.exchange.response with
  | none =>
    rw [there] at run
    cases run
  | some response =>
    rw [there] at run
    cases run
    exact ⟨response, there, rfl⟩

/-- What writes a response shows its head. -/
theorem publishes_write (response : Response) : (Reply.write response : Stage σ Unit).Publishes :=
  fun s t run ↦ publishes_publish { s with exchange := { s.exchange with response } } t run

/-- What answers a failure that was taken in shows the head of the answer. -/
theorem Publishes.unlessBusiness {otherwise : Stage σ Unit} (h : otherwise.Publishes) :
    (Reply.unlessBusiness otherwise).Publishes := by
  intro s t run
  unfold Reply.unlessBusiness at run
  rw [exchange_bind] at run
  cases taken : s.exchange.businessError with
  | none =>
    rw [taken] at run
    exact h s t run
  | some e =>
    rw [taken] at run
    exact publishes_write _ s t run

end Stage

/-- The four handlers show the head of the response that they leave. -/
theorem Handler.IsBuiltIn.publishes_respond {handler : Handler σ} (h : handler.IsBuiltIn) :
    handler.respond.Publishes := by
  cases h with
  | http => exact Stage.publishes_publish.unlessBusiness
  | rpc =>
    refine Stage.Publishes.unlessBusiness fun s t run ↦ ?_
    exact Stage.publishes_write (procedureReply s.exchange.header? s.slot) s t run
  | grpc =>
    refine Stage.Publishes.unlessBusiness fun s t run ↦ ?_
    rw [Stage.exchange_bind] at run
    cases there : s.exchange.header? with
    | none =>
      rw [there] at run
      cases run
    | some header =>
      rw [there] at run
      exact Stage.publishes_write _ s t run
  | raw =>
    refine Stage.Publishes.unlessBusiness fun s t run ↦ ?_
    exact Stage.publishes_write
      (Reply.withBytes (typeValue .noop) (s.slot.bytes?.getD []) .empty) s t run

/-! ## Notes of a property -/

/-- All notes in the log have a property. -/
def Scene.AllNotes (P : Entry → Prop) (s : Scene (σ × Log)) : Prop := ∀ e ∈ s.world.2, P e

variable {P : Entry → Prop}

/-- One more note with the property. -/
theorem Scene.AllNotes.concat {s t : Scene (σ × Log)} {e : Entry} (h : s.AllNotes P) (note : P e)
    (log : t.world.2 = s.world.2 ++ [e]) : t.AllNotes P := by
  unfold AllNotes
  rw [log, List.forall_mem_append]
  exact ⟨h, List.forall_mem_singleton.mpr note⟩

/-- A stage that leaves a note with the property. -/
theorem Stage.preserves_recorded {step : Option α → Step} {f : α → β} {stage : Stage σ α}
    (note : ∀ s, P (note step (stage s))) :
    (stage.recorded step f).Preserves (Scene.AllNotes P) := by
  intro s all
  have noted := note ⟨s.exchange, s.slot, s.world.1⟩
  refine all.concat noted ?_
  unfold recorded
  dsimp only
  cases stage ⟨s.exchange, s.slot, s.world.1⟩ <;> rfl

namespace Lifecycle

/-- Except for responses, all notes have the property. -/
def AllButResponses (P : Entry → Prop) : Prop := ∀ e : Entry, (∀ name, e.step ≠ .respond name) → P e

/-- A stage other than the response leaves a note with the property. -/
theorem AllButResponses.preserves_recorded (others : AllButResponses P) {step : Option α → Step}
    {f : α → β} (stage : Stage σ α) (other : ∀ a name, step a ≠ .respond name) :
    (stage.recorded step f).Preserves (Scene.AllNotes P) := by
  refine Stage.preserves_recorded fun s ↦ others _ ?_
  cases stage s with
  | ok a => exact other (some a)
  | error => exact other none

/-- A transport leaves a note with the property. -/
theorem AllButResponses.preserves_roundTrip (others : AllButResponses P) (transport : Transport σ)
    (origin : Origin) (call : Call) :
    ((transport.recorded origin).roundTrip call).Preserves (Scene.AllNotes P) :=
  others.preserves_recorded _ nofun

/-- A handler leaves notes with the property, if its responses do. -/
theorem AllButResponses.preserves_handler (others : AllButResponses P) (handler : Handler σ)
    (protocol : String)
    (responds : ∀ s, P (Stage.note (fun _ ↦ .respond protocol) (handler.respond s))) :
    (handler.recorded protocol).Preserves (Scene.AllNotes P) where
  prepare := others.preserves_recorded _ nofun
  options := others.preserves_recorded _ nofun
  own := by
    intro s o t given transport brought call
    change Stage.logged _ _ _ = _ at given
    cases result : handler.options ⟨s.exchange, s.slot, s.world.1⟩ with
    | error =>
      rw [result] at given
      cases given
    | ok options =>
      rw [result] at given
      cases given
      obtain ⟨plain, -, rfl⟩ := Option.map_eq_some_iff.mp brought
      exact others.preserves_roundTrip plain .own call
  payload := others.preserves_recorded _ nofun
  slot := others.preserves_recorded _ nofun
  recover _ := others.preserves_recorded _ nofun
  respond := Stage.preserves_recorded responds

end Lifecycle

namespace Gateway

variable {g : Gateway σ} {protocol : String} {handler : Handler σ}

/-- A gateway that keeps a log leaves notes with the property, if the responses do. -/
theorem partsPreserve_recorded (found : g.registry.find? protocol = some handler)
    (others : AllButResponses P)
    (responds : ∀ s, P (Stage.note (fun _ ↦ .respond protocol) (handler.respond s))) :
    g.recorded.PartsPreserve protocol (Scene.AllNotes P) where
  fill := fun _ _ all ↦ all
  takeResponse := by
    intro s all
    unfold takeResponse
    rw [Stage.exchange_bind]
    cases s.exchange.response <;> exact all
  before := by
    intro hook mem
    obtain ⟨⟨plain, place⟩, -, rfl⟩ := List.mem_map.mp mem
    exact others.preserves_recorded plain.before nofun
  after := by
    intro hook mem x s all
    obtain ⟨⟨plain, place⟩, -, rfl⟩ := List.mem_map.mp mem
    exact all.concat (others ⟨.after place, none, x⟩ nofun) rfl
  handler := by
    intro watched there
    obtain rfl := Option.some.inj (there.symm.trans (find?_recorded found))
    exact others.preserves_handler handler protocol responds
  transport := by
    intro transport there call
    have table : g.recorded.transports.find? protocol = _ :=
      Registry.find?_mapNamed (fun name ↦ Transport.recorded (.table name)) g.transports protocol
    rw [table] at there
    obtain ⟨plain, -, rfl⟩ := Option.map_eq_some_iff.mp there
    exact others.preserves_roundTrip plain _ call

end Gateway

namespace Lifecycle

/-- A note of a response that succeeds shows the head of the response. -/
def Entry.ShowsResponse (e : Entry) : Prop :=
  ∀ name, e.step = .respond name → e.outcome.failure = none → e.outcome.exchange.ShowsHead

/-- What the hooks behind the response see of an exchange, by the log of the gateway. -/
structure ShowsAnswer (g : Gateway σ) (protocol : String) (target : Target) (x : Exchange)
    (world : σ) (log : Log) : Prop where
  /-- It is the log of this exchange. -/
  watched : g.recorded.serve protocol target x (world, []) =
    ((g.serve protocol target x world).1, (g.serve protocol target x world).2, log)
  /-- If one hook looks on, all of them do. -/
  together : (∃ e ∈ log, ∃ i, e.step = .after i) →
    ∀ i < g.hooks.length, ∃ e ∈ log, e.step = .after i
  /-- Each of them sees a head with the status, the version and the headers of the answer. -/
  shown : ∀ e ∈ log, ∀ i, e.step = .after i → ∃ response,
    (g.serve protocol target x world).1 = .ok response ∧ e.outcome.exchange.published =
      some ⟨response.status, response.version, response.headers⟩
  /-- If the call for a proxied request succeeds without a response and no failure was taken in, the
  run ends in a failure of the gateway, which is answered, and no hook looks on. -/
  wanting : ∀ own transport call s t,
    g.ready protocol target ⟨x, .bytes none, world⟩ = .ok (Handler.http own, transport, call) s →
    transport.roundTrip call s = .ok () t → t.exchange.response = none →
    t.exchange.businessError = none → ∃ e, e.kind = .framework ∧ e.code = .serverSystemError ∧
      g.run protocol target ⟨x, .bytes none, world⟩ = .error (.failed e) t ∧
      (g.serve protocol target x world).1 = .ok (g.errorResponse e) ∧
      ∀ e ∈ log, ∀ i, e.step ≠ .after i

/-- The log is the one that the gateway keeps. -/
theorem ShowsAnswer.log_eq {g : Gateway σ} {protocol : String} {target : Target} {x : Exchange}
    {world : σ} {log : Log} (h : ShowsAnswer g protocol target x world log) :
    log = (g.recorded.serve protocol target x (world, [])).2.2 := by
  rw [h.watched]

/-- If a hook looks on, the log ends with what is answered, and the head of it is shown. -/
theorem Course.exists_response_of_after (c : Course) {protocol : String} {hooks : Nat}
    {inTable : Bool} (notes : ∀ e ∈ c.log protocol hooks inTable, e.ShowsResponse) {e : Entry}
    {i : Nat} (among : e ∈ c.log protocol hooks inTable) (seen : e.step = .after i) :
    ∃ response, verdict protocol (c.log protocol hooks inTable) = .ok response ∧
      e.outcome.exchange.published =
        some ⟨response.status, response.version, response.headers⟩ := by
  obtain ⟨success, same, front, all⟩ := c.exists_front_of_after among seen
  have responds : (⟨.respond protocol, c.respond⟩ : Entry) ∈ c.log protocol hooks inTable := by
    rw [all]
    exact List.mem_append_right front List.mem_cons_self
  obtain ⟨response, there, shown⟩ := notes _ responds protocol rfl success
  have note : (⟨.respond protocol, c.respond⟩ : Entry) =
      ⟨.respond protocol, none, c.respond.exchange⟩ := by rw [← success]
  have written : ∀ name, Step.respond protocol ≠ .slot name := by
    intro name step
    cases step
  refine ⟨response, ?_, same ▸ shown⟩
  rw [all, verdict_append _ _ (List.cons_ne_nil _ _), note, List.range_eq_range',
    verdict_of_passed _ _ _ _ written]
  unfold answer
  rw [there]

end Lifecycle

namespace Gateway

variable {g : Gateway σ} {protocol : String} {handler : Handler σ} {target : Target} {x : Exchange}
  {world : σ}

/-- The notes of responses show the head of the response. -/
theorem showsResponse_of_tells (found : g.registry.find? protocol = some handler)
    (builtIn : handler.IsBuiltIn) {s : Scene σ} {log : Log}
    (tells : Tells protocol s (g.run protocol target) (g.recorded.run protocol target) log) :
    ∀ e ∈ log, e.ShowsResponse := by
  have responds : ∀ s,
      (Stage.note (fun _ ↦ .respond protocol) (handler.respond s)).ShowsResponse := by
    intro s name _ success
    cases result : handler.respond s with
    | ok _ t =>
      rw [result] at success
      exact builtIn.publishes_respond s t result
    | error halt t =>
      rw [result] at success
      cases success
  have parts := partsPreserve_recorded found (P := Entry.ShowsResponse)
    (fun e other name step ↦ absurd step (other name)) responds
  have all := parts.run target (s.withLog []) fun _ mem ↦ absurd mem List.not_mem_nil
  rw [tells.same []] at all
  cases result : g.run protocol target s with
  | ok =>
    rw [result] at all
    exact all
  | error =>
    rw [result] at all
    exact all

/-- A proxied request without a response fails. -/
theorem run_of_no_response {own transport : Transport σ} {call : Call} {s t : Scene σ}
    (reached : g.ready protocol target ⟨x, .bytes none, world⟩ = .ok (.http own, transport, call) s)
    (made : transport.roundTrip call s = .ok () t) (none_ : t.exchange.response = none)
    (clean : t.exchange.businessError = none) :
    g.run protocol target ⟨x, .bytes none, world⟩ = .error (.failed Reply.noResponse) t := by
  have responds : (Handler.http own).respond t = .error (.failed Reply.noResponse) t := by
    change Reply.unlessBusiness Reply.publish t = _
    rw [Reply.unlessBusiness_of_none _ clean]
    unfold Reply.publish
    rw [Stage.exchange_bind, none_]
    rfl
  rw [run_eq_ready, Stage.bind_of_ok reached]
  have attempted : attempt (.http own) transport call s = .ok () t := Stage.recovering_of_ok made
  exact (Stage.bind_of_ok attempted).trans (Stage.bind_of_error responds)

/-- The head that the hooks see behind the response of one of the four handlers is the head of the
answer, and a proxied request without a response fails unseen. -/
theorem exists_showsAnswer (g : Gateway σ) (protocol : String) (target : Target) (x : Exchange)
    (world : σ) (found : g.registry.find? protocol = some handler) (builtIn : handler.IsBuiltIn) :
    ∃ log, ShowsAnswer g protocol target x world log := by
  obtain ⟨c, tells⟩ := exists_tells_run found target ⟨x, .bytes none, world⟩
  have notes := showsResponse_of_tells found builtIn tells
  have same := tells.same []
  rw [List.nil_append] at same
  obtain ⟨watched, answered⟩ := serve_of_run g protocol target x world _ same tells.told
  refine ⟨_, watched, ?together, ?shown, ?wanting⟩
  case together =>
    rintro ⟨e, among, i, seen⟩ j below
    obtain ⟨-, -, front, all⟩ := c.exists_front_of_after among seen
    refine ⟨⟨.after j, none, c.respond.exchange⟩, ?_, rfl⟩
    rw [all]
    refine List.mem_append_right front (List.mem_cons_of_mem _ ?_)
    exact List.mem_map.mpr ⟨j, List.mem_range.mpr below, rfl⟩
  case shown =>
    intro e among i seen
    obtain ⟨response, told, shown⟩ := c.exists_response_of_after notes among seen
    refine ⟨response, ?_, shown⟩
    rw [answered, told]
    rfl
  case wanting =>
    intro own transport call s t reached made none_ clean
    have failed := run_of_no_response reached made none_ clean
    refine ⟨Reply.noResponse, rfl, rfl, failed, ?_, fun e among i seen ↦ ?_⟩
    · rw [serve_of_run_failed failed]
      rfl
    · obtain ⟨response, told, -⟩ := c.exists_response_of_after notes among seen
      have ended := tells.told
      rw [failed, told] at ended
      cases ended

/-- A response that is stored too early, and one that is made in time. -/
def early : Response := ⟨.notFound, .http2, ⟨[(.te, .ofNat 1)]⟩, .whole [1, 2]⟩
@[inherit_doc early] def timely : Response := ⟨.ok, .http11, ⟨[(.te, .ofNat 2)]⟩, .whole [3]⟩

/-- A gateway for proxied requests with two hooks, of which the first stores a response and shows its
head before the call. -/
def hasty (trip : Stage Nat Unit) : Gateway Nat where
  registry := Registry.empty.register "http" (.http ⟨fun _ ↦ trip⟩)
  mapping := .initial
  transports := .empty
  hooks :=
    [⟨pure (), Stage.change fun x ↦ { x with response := some early, published := some early.head },
      fun _ world ↦ world + 1⟩, ⟨pure (), pure (), fun _ world ↦ world + 1⟩]
  count _ world := world + 10

/-- What the hooks of such a gateway see is the head of the transport's response, or of the failure
that was taken in; if the transport takes the response away they see nothing. -/
theorem exists_showsAnswer_hasty :
    (∃ log, ShowsAnswer (hasty (Stage.change fun x ↦ { x with response := some timely })) "http"
        ⟨"a:1", none, ⟨1⟩⟩ bare 0 log ∧
      (log.drop 8).map (fun e ↦ (e.step, e.outcome.exchange.published)) =
        [(.after 0, some ⟨timely.status, timely.version, timely.headers⟩),
          (.after 1, some ⟨timely.status, timely.version, timely.headers⟩)]) ∧
    (∃ log, ShowsAnswer (hasty (Stage.fail (.business .unknown "late"))) "http"
        ⟨"a:1", none, ⟨1⟩⟩ bare 0 log ∧
      (log.drop 9).map (fun e ↦ (e.step, e.outcome.exchange.published)) =
        [(.after 0, some ⟨.ok, .http11, Reply.errorHeaders (.business .unknown "late")⟩),
          (.after 1, some ⟨.ok, .http11, Reply.errorHeaders (.business .unknown "late")⟩)]) ∧
    ∃ log, ShowsAnswer (hasty (Stage.change fun x ↦ { x with response := none })) "http"
        ⟨"a:1", none, ⟨1⟩⟩ bare 0 log ∧
      ∀ e ∈ log, ∀ i, e.step ≠ .after i := by
  refine ⟨?_, ?_, ?_⟩
  · obtain ⟨log, shows_⟩ :=
      exists_showsAnswer (hasty (Stage.change fun x ↦ { x with response := some timely })) "http"
        ⟨"a:1", none, ⟨1⟩⟩ bare 0 rfl (.http _)
    refine ⟨log, shows_, ?_⟩
    rw [shows_.log_eq]
    decide +kernel
  · obtain ⟨log, shows_⟩ :=
      exists_showsAnswer (hasty (Stage.fail (.business .unknown "late"))) "http"
        ⟨"a:1", none, ⟨1⟩⟩ bare 0 rfl (.http _)
    refine ⟨log, shows_, ?_⟩
    rw [shows_.log_eq]
    decide +kernel
  · obtain ⟨log, shows_⟩ :=
      exists_showsAnswer (hasty (Stage.change fun x ↦ { x with response := none })) "http"
        ⟨"a:1", none, ⟨1⟩⟩ bare 0 rfl (.http _)
    obtain ⟨e, -, -, -, -, unseen⟩ := shows_.wanting _ _ _ _ _ rfl rfl rfl rfl
    exact ⟨log, shows_, unseen⟩

end Gateway
end HttpGateway
