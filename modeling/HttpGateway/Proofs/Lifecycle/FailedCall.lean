import HttpGateway.Handlers
import HttpGateway.Proofs.Lifecycle.Order

/-!
# What is answered to a failed call

A call that fails leaves the exchange in any shape whatever. If the failure is of the business kind,
each of the four handlers takes it in, and what is answered is made of the failure alone; the hooks
see it. Any other failure ends the lifecycle, and so does every failure in front of the call or
behind it, of the business kind or not: it is answered under the status of its code. In neither case
does the answer depend on what the call left behind.
-/

namespace HttpGateway

variable {σ : Type}

/-- The four handlers, over whatever transports. -/
inductive Handler.IsBuiltIn : Handler σ → Prop
  | http (transport : Transport σ) : IsBuiltIn (.http transport)
  | rpc (transport : Option (Transport σ)) : IsBuiltIn (.rpc transport)
  | grpc (transport : Transport σ) : IsBuiltIn (.grpc transport)
  | raw (transport : Transport σ) : IsBuiltIn (.raw transport)

namespace Handler.IsBuiltIn

variable {handler : Handler σ}

/-- The four handlers take in failures of the business kind. -/
theorem recover_eq (h : handler.IsBuiltIn) : handler.recover = Reply.absorb := by
  cases h <;> rfl

/-- The four handlers answer what they took in before anything else. -/
theorem exists_respond_eq (h : handler.IsBuiltIn) :
    ∃ otherwise, handler.respond = Reply.unlessBusiness otherwise := by
  cases h <;> exact ⟨_, rfl⟩

end Handler.IsBuiltIn

namespace Reply

/-- A response reports an error and nothing else: status and body are given, and the fields are
the code and the message. -/
structure Reports (e : GatewayError) (status : Status) (body : Bytes) (response : Response) :
    Prop where
  status : response.status = status
  version : response.version = .http11
  code : response.headers.values .resultCode = [.ofInt e.code.value]
  message : ∃ value, response.headers.values .resultMessage = [value] ∧
    Form.decode value.bytes = Utf8.encode e.message
  only : ∀ name, name ≠ .resultCode → name ≠ .resultMessage → response.headers.values name = []
  body : response.body = .whole body

/-- A response with the fields of an error reports the error. -/
theorem reports_of_errorHeaders (e : GatewayError) (status : Status) (body : Bytes) :
    Reports e status body ⟨status, .http11, errorHeaders e, .whole body⟩ where
  status := rfl
  version := rfl
  code := by
    unfold errorHeaders
    rw [HeaderMap.values_insert, if_neg (by decide), HeaderMap.values_insert, if_pos rfl]
  message := by
    refine ⟨messageValue e.message, ?_, Form.decode_encode _⟩
    unfold errorHeaders
    rw [HeaderMap.values_insert, if_pos rfl]
  only := by
    intro name code message
    unfold errorHeaders
    rw [HeaderMap.values_insert, if_neg message.symm, HeaderMap.values_insert, if_neg code.symm]
    rfl
  body := rfl

/-- The exchange that has been answered with a failure of the business kind. -/
def answered (x : Exchange) (e : GatewayError) : Exchange :=
  { x with
    businessError := some e
    response := some (business e)
    published := some (business e).head }

/-- A failure of the business kind is answered, whatever the exchange holds. -/
theorem unlessBusiness_of_some (otherwise : Stage σ Unit) {s : Scene σ} {e : GatewayError}
    (h : s.exchange.businessError = some e) :
    unlessBusiness otherwise s = .ok () { s with exchange := answered s.exchange e } := by
  obtain ⟨x, slot, world⟩ := s
  obtain ⟨head, body, connection, bundle, response, published, failure⟩ := x
  cases h
  rfl

/-- A failure of the business kind is taken in, in place of one that was before. -/
theorem absorb_of_isBusiness {e : GatewayError} (h : e.isBusiness = true) (s : Scene σ) :
    absorb e s = .ok () { s with exchange := { s.exchange with businessError := some e } } := by
  unfold absorb
  rw [if_pos h]
  rfl

/-- Any other failure goes on. -/
theorem absorb_of_not_isBusiness {e : GatewayError} (h : e.isBusiness = false) (s : Scene σ) :
    absorb e s = .error (.failed e) s := by
  unfold absorb
  rw [if_neg (Bool.not_eq_true _ ▸ h)]
  rfl

end Reply

namespace Lifecycle

/-- The world after all hooks have seen an exchange. -/
def seenBy (hooks : List (Hook σ)) (x : Exchange) (world : σ) : σ :=
  hooks.foldl (fun world hook ↦ hook.after x world) world

/-- All hooks see the exchange, one after the other. -/
theorem forM_act_after (hooks : List (Hook σ)) (x : Exchange) (s : Scene σ) :
    (hooks.forM fun hook ↦ Stage.act (hook.after x)) s =
      .ok () { s with world := seenBy hooks x s.world } := by
  induction hooks generalizing s with
  | nil => rfl
  | cons hook hooks ih => exact ih { s with world := hook.after x s.world }

/-- From the response on, what is written is answered, and all hooks see it. -/
theorem closing_of_response {handler : Handler σ} (hooks : List (Hook σ)) {s t : Scene σ}
    {response : Response} (responded : handler.respond s = .ok () t)
    (there : t.exchange.response = some response) :
    closing hooks handler s = .ok response
      { t with
        exchange := { t.exchange with response := none }
        world := seenBy hooks t.exchange t.world } := by
  unfold closing Gateway.takeResponse
  rw [Stage.bind_of_ok responded, Stage.exchange_bind, Stage.bind_of_ok (forM_act_after hooks _ _),
    Stage.exchange_bind, there]
  rfl

/-- From the response on, a failure that was taken in is answered, and all hooks see it. -/
theorem closing_of_business {handler : Handler σ} (builtIn : handler.IsBuiltIn)
    (hooks : List (Hook σ)) {s : Scene σ} {e : GatewayError}
    (h : s.exchange.businessError = some e) :
    closing hooks handler s = .ok (Reply.business e)
      { s with
        exchange := { Reply.answered s.exchange e with response := none }
        world := seenBy hooks (Reply.answered s.exchange e) s.world } := by
  obtain ⟨otherwise, responds⟩ := builtIn.exists_respond_eq
  have responded : handler.respond s =
      .ok () { s with exchange := Reply.answered s.exchange e } := by
    rw [responds]
    exact Reply.unlessBusiness_of_some otherwise h
  exact closing_of_response hooks responded rfl

end Lifecycle

namespace Gateway

open Lifecycle Reply

/-- The lifecycle up to the call: whose call is made, by which transport, and which. -/
def ready (g : Gateway σ) (protocol : String) (target : Target) :
    Stage σ (Handler σ × Transport σ × Call) := do
  let handler ← Stage.ofExcept (g.registry.lookup protocol)
  g.hooks.forM Hook.before
  handler.prepare
  let options ← handler.options
  let payload ← handler.payload
  Stage.fill (← handler.slot)
  let transport ← Stage.ofExcept (g.transportFor protocol options.transport)
  return (handler, transport, callFor target options payload)

/-- A lifecycle makes the call ready, makes it, and goes on from there. -/
theorem run_eq_ready (g : Gateway σ) (protocol : String) (target : Target) :
    g.run protocol target =
      g.ready protocol target >>= fun r ↦ calling g.hooks r.1 r.2.1 r.2.2 := by
  unfold run ready calling closing
  simp only [bind_assoc, pure_bind]

section

variable {g : Gateway σ} {protocol : String} {target : Target} {x : Exchange} {world : σ}
  {e : GatewayError} {t : Scene σ}

/-- A lifecycle that fails is answered with the failure. -/
theorem serve_of_run_failed
    (h : g.run protocol target ⟨x, .bytes none, world⟩ = .error (.failed e) t) :
    g.serve protocol target x world = g.finish protocol (g.errorResponse e) t.world := by
  unfold serve
  rw [h]

/-- A failure in front of the call is answered under the status of its code. -/
theorem serve_of_not_ready
    (h : g.ready protocol target ⟨x, .bytes none, world⟩ = .error (.failed e) t) :
    g.serve protocol target x world = g.finish protocol (g.errorResponse e) t.world := by
  apply serve_of_run_failed
  rw [run_eq_ready]
  exact Stage.bind_of_error h

variable {handler : Handler σ} {transport : Transport σ} {call : Call} {s : Scene σ}

/-- A call that comes to a response is answered with it. -/
theorem serve_of_closed {response : Response} {u : Scene σ}
    (reached : g.ready protocol target ⟨x, .bytes none, world⟩ = .ok (handler, transport, call) s)
    (attempted : attempt handler transport call s = .ok () t)
    (closed : closing g.hooks handler t = .ok response u) :
    g.serve protocol target x world = g.finish protocol response u.world := by
  have ends : g.run protocol target ⟨x, .bytes none, world⟩ = .ok response u := by
    rw [run_eq_ready, Stage.bind_of_ok reached]
    exact (Stage.bind_of_ok attempted).trans closed
  unfold serve
  rw [ends]

/-- A failed call of the business kind is answered with code and message, and all hooks see it. -/
theorem serve_of_business (builtIn : handler.IsBuiltIn) (business_ : e.isBusiness = true)
    (reached : g.ready protocol target ⟨x, .bytes none, world⟩ = .ok (handler, transport, call) s)
    (failed : transport.roundTrip call s = .error (.failed e) t) :
    g.serve protocol target x world =
      g.finish protocol (business e) (seenBy g.hooks (answered t.exchange e) t.world) := by
  have taken : attempt handler transport call s =
      .ok () { t with exchange := { t.exchange with businessError := some e } } := by
    refine (Stage.recovering_of_failed failed).trans ?_
    rw [builtIn.recover_eq]
    exact absorb_of_isBusiness business_ t
  exact serve_of_closed reached taken (closing_of_business builtIn g.hooks rfl)

/-- Any other failed call is answered under the status of its code. -/
theorem serve_of_not_business (builtIn : handler.IsBuiltIn) (other : e.isBusiness = false)
    (reached : g.ready protocol target ⟨x, .bytes none, world⟩ = .ok (handler, transport, call) s)
    (failed : transport.roundTrip call s = .error (.failed e) t) :
    g.serve protocol target x world = g.finish protocol (g.errorResponse e) t.world := by
  have lost : attempt handler transport call s = .error (.failed e) t := by
    refine (Stage.recovering_of_failed failed).trans ?_
    rw [builtIn.recover_eq]
    exact absorb_of_not_isBusiness other t
  apply serve_of_run_failed
  rw [run_eq_ready, Stage.bind_of_ok reached]
  exact Stage.bind_of_error lost

/-- A failure behind the call is answered under the status of its code. -/
theorem serve_of_not_closed {u : Scene σ}
    (reached : g.ready protocol target ⟨x, .bytes none, world⟩ = .ok (handler, transport, call) s)
    (attempted : attempt handler transport call s = .ok () t)
    (failed : closing g.hooks handler t = .error (.failed e) u) :
    g.serve protocol target x world = g.finish protocol (g.errorResponse e) u.world := by
  apply serve_of_run_failed
  rw [run_eq_ready, Stage.bind_of_ok reached]
  exact (Stage.bind_of_ok attempted).trans failed

end

/-- How a failed exchange ends. If the call of one of the four handlers fails, the answer reports
the failure and nothing else, whatever the call left behind: with status 200 and no body if it is of
the business kind, and then all hooks see the head of this answer; under the status of its code and
with the message as body if it is of any other kind. A failure in front of the call, or behind it,
is answered in the latter way, also if it is of the business kind. -/
theorem reports_serve_of_failed (g : Gateway σ) (protocol : String) (target : Target) (x : Exchange)
    (world : σ) :
    (∀ handler transport call s e t, handler.IsBuiltIn →
      g.ready protocol target ⟨x, .bytes none, world⟩ = .ok (handler, transport, call) s →
      transport.roundTrip call s = .error (.failed e) t →
      ∃ response, (g.serve protocol target x world).1 = .ok response ∧
        if e.isBusiness = true then
          Reports e .ok [] response ∧ ∃ seen, seen.published = some response.head ∧
            (g.serve protocol target x world).2 =
              g.count (g.counterOf protocol response) (seenBy g.hooks seen t.world)
        else
          Reports e (g.mapping.httpStatus e.code) (Utf8.encode e.message) response ∧
            (g.serve protocol target x world).2 =
              g.count (g.counterOf protocol response) t.world) ∧
    (∀ e t, g.ready protocol target ⟨x, .bytes none, world⟩ = .error (.failed e) t →
      ∃ response, (g.serve protocol target x world).1 = .ok response ∧
        Reports e (g.mapping.httpStatus e.code) (Utf8.encode e.message) response ∧
        (g.serve protocol target x world).2 = g.count (g.counterOf protocol response) t.world) ∧
    ∀ handler transport call s t e u,
      g.ready protocol target ⟨x, .bytes none, world⟩ = .ok (handler, transport, call) s →
      attempt handler transport call s = .ok () t →
      closing g.hooks handler t = .error (.failed e) u →
      ∃ response, (g.serve protocol target x world).1 = .ok response ∧
        Reports e (g.mapping.httpStatus e.code) (Utf8.encode e.message) response ∧
        (g.serve protocol target x world).2 = g.count (g.counterOf protocol response) u.world := by
  have mapped : ∀ e, Reports e (g.mapping.httpStatus e.code) (Utf8.encode e.message)
      (g.errorResponse e) := fun e ↦ reports_of_errorHeaders e _ _
  refine ⟨?_, ?_, ?_⟩
  · intro handler transport call s e t builtIn reached failed
    cases kind : e.isBusiness with
    | true =>
      rw [serve_of_business builtIn kind reached failed]
      exact ⟨business e, rfl, reports_of_errorHeaders e _ _, answered t.exchange e, rfl, rfl⟩
    | false =>
      rw [serve_of_not_business builtIn kind reached failed]
      exact ⟨g.errorResponse e, rfl, mapped e, rfl⟩
  · intro e t unready
    rw [serve_of_not_ready unready]
    exact ⟨g.errorResponse e, rfl, mapped e, rfl⟩
  · intro handler transport call s t e u reached attempted failed
    rw [serve_of_not_closed reached attempted failed]
    exact ⟨g.errorResponse e, rfl, mapped e, rfl⟩

/-- A transport that leaves a response, bytes and another failure behind, and then fails. -/
def treacherous (e : GatewayError) : Transport Nat where
  roundTrip _ := do
    Stage.change fun x ↦ { x with
      response := some ⟨.notFound, .http2, ⟨[(.te, .ofNat 1)]⟩, .whole [1, 2]⟩
      published := none
      businessError := some (.business .unknown "left behind") }
    Stage.fill (.bytes (some [3]))
    Stage.fail e

/-- A gateway of such a transport, with a hook that may fail before the call and is counted after
it; a finished exchange counts for ten. -/
def betrayed (before : Stage Nat Unit) (e : GatewayError) : Gateway Nat where
  registry := Registry.empty.register "raw" (.raw (treacherous e))
  mapping := .initial
  transports := .empty
  hooks := [⟨pure (), before, fun _ world ↦ world + 1⟩]
  count _ world := world + 10

/-- A gateway of a handler that takes in the failure of such a call, but then fails to respond. -/
def speechless (e failure : GatewayError) : Gateway Nat :=
  { betrayed (pure ()) e with
    registry := Registry.empty.register "raw"
      { Handler.raw (treacherous e) with respond := Stage.fail failure } }

/-- The exchange of a request without fields. -/
def bare : Exchange :=
  .ofRequest ⟨.get, .origin ⟨"/", none⟩, .http11, .empty⟩ [] .plain

/-- In such gateways a failure of the business kind is taken in if the call fails with it, but not
if the hook or the response does; a failure of another kind is not taken in. -/
theorem reports_serve_betrayed :
    (∃ response, (betrayed (pure ()) (.business .serverTimeout "late")).serve "raw"
        ⟨"a:1", none, ⟨1⟩⟩ bare 0 = (.ok response, 11) ∧
      Reports (.business .serverTimeout "late") .ok [] response) ∧
    (∃ response, (betrayed (pure ()) (.transport .serverTimeout "late")).serve "raw"
        ⟨"a:1", none, ⟨1⟩⟩ bare 0 = (.ok response, 10) ∧
      Reports (.transport .serverTimeout "late") .gatewayTimeout (Utf8.encode "late") response) ∧
    (∃ response, (betrayed (Stage.fail (.business .serverTimeout "early")) (.transport .unknown
        "late")).serve "raw" ⟨"a:1", none, ⟨1⟩⟩ bare 0 = (.ok response, 10) ∧
      Reports (.business .serverTimeout "early") .gatewayTimeout (Utf8.encode "early") response) ∧
    ∃ response, (speechless (.business .unknown "late") (.business .serverTimeout "silent")).serve
        "raw" ⟨"a:1", none, ⟨1⟩⟩ bare 0 = (.ok response, 10) ∧
      Reports (.business .serverTimeout "silent") .gatewayTimeout (Utf8.encode "silent")
        response := by
  refine ⟨?_, ?_, ?_, ?_⟩
  · obtain ⟨response, answer, report, seen, -, after⟩ :=
      (reports_serve_of_failed (betrayed (pure ()) (.business .serverTimeout "late")) "raw"
        ⟨"a:1", none, ⟨1⟩⟩ bare 0).1 _ _ _ _ _ _ (.raw _) rfl rfl
    exact ⟨response, Prod.ext answer after, report⟩
  · obtain ⟨response, answer, report, after⟩ :=
      (reports_serve_of_failed (betrayed (pure ()) (.transport .serverTimeout "late")) "raw"
        ⟨"a:1", none, ⟨1⟩⟩ bare 0).1 _ _ _ _ _ _ (.raw _) rfl rfl
    exact ⟨response, Prod.ext answer after, report⟩
  · obtain ⟨response, answer, report, after⟩ :=
      (reports_serve_of_failed (betrayed (Stage.fail (.business .serverTimeout "early"))
        (.transport .unknown "late")) "raw" ⟨"a:1", none, ⟨1⟩⟩ bare 0).2.1 _ _ rfl
    exact ⟨response, Prod.ext answer after, report⟩
  · obtain ⟨response, answer, report, after⟩ :=
      (reports_serve_of_failed (speechless (.business .unknown "late")
        (.business .serverTimeout "silent")) "raw" ⟨"a:1", none, ⟨1⟩⟩ bare 0).2.2
        _ _ _ _ _ _ _ rfl rfl rfl
    exact ⟨response, Prod.ext answer after, report⟩

end Gateway
end HttpGateway
