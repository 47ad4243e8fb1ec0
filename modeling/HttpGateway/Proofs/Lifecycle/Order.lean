import HttpGateway.Proofs.Lifecycle.Recorder

/-!
# The order of a lifecycle

In which order a gateway calls its parts: the hooks in their order, the four stages that make the
call ready, the round trip of the handler's own transport or that of the table, the recovery if and
only if the round trip fails, the response if and only if the round trip or the recovery succeeds,
and the hooks again if and only if the response does. The first failure ends the lifecycle, and is
what is answered. The log of a gateway that keeps one says so of every exchange.
-/

namespace HttpGateway.Lifecycle

/-- The notes up to the first of a failure; those of what comes next if there is none. -/
def Log.andThen : Log → Log → Log
  | [], next => next
  | e :: rest, next => e :: if e.outcome.failure = none then Log.andThen rest next else []

/-- If anything of what comes next is among the notes, all of it is. -/
theorem Log.eq_append_of_mem_andThen {es next : Log} {e : Entry} (among : e ∈ es.andThen next)
    (other : e ∉ es) : es.andThen next = es ++ next ∧ e ∈ next := by
  induction es with
  | nil => exact ⟨rfl, among⟩
  | cons first rest ih =>
    obtain ⟨behind, later⟩ := not_or.mp (mt List.mem_cons.mpr other)
    rw [Log.andThen, List.mem_cons] at among
    rw [Log.andThen]
    have among := among.resolve_left behind
    split at among
    case isTrue success =>
      obtain ⟨all, among⟩ := ih among later
      rw [if_pos success, all]
      exact ⟨rfl, among⟩
    case isFalse => exact absurd among List.not_mem_nil

/-- Whose transport makes the call: the handler's own if there is one, else that of the table. -/
def Origin.of (protocol : String) (own inTable : Bool) : Option Origin :=
  if own then some .own else if inTable then some (.table protocol) else none

/-- The round trip or a call that comes behind it. -/
def Step.isCalls : Step → Bool
  | .roundTrip _ | .recover _ _ | .respond _ | .after _ => true
  | .before _ | .prepare _ | .options _ _ | .payload _ | .slot _ => false

/-- How the calls of a lifecycle end, if they are made. -/
structure Course where
  before : Nat → Outcome
  prepare : Outcome
  /-- The options come with a transport of the handler's own. -/
  own : Bool
  options : Outcome
  payload : Outcome
  slot : Outcome
  roundTrip : Outcome
  recover : Outcome
  respond : Outcome

namespace Course

/-- The response is written and all hooks see it, unless it fails. -/
def closing (c : Course) (protocol : String) (hooks : Nat) : Log :=
  Log.andThen [⟨.respond protocol, c.respond⟩]
    ((List.range hooks).map fun i ↦ ⟨.after i, none, c.respond.exchange⟩)

/-- The round trip, the recovery if it fails, and the response if either of them succeeds. -/
def calling (c : Course) (protocol : String) (hooks : Nat) (origin : Origin) : Log :=
  ⟨.roundTrip origin, c.roundTrip⟩ ::
    match c.roundTrip.failure with
    | none => c.closing protocol hooks
    | some (.failed e) =>
      Log.andThen [⟨.recover protocol e, c.recover⟩] (c.closing protocol hooks)
    | some (.brokenOff _) => []

/-- The stages that make the call ready, and the call if there is a transport for it. -/
def handling (c : Course) (protocol : String) (hooks : Nat) (inTable : Bool) : Log :=
  Log.andThen
    [⟨.prepare protocol, c.prepare⟩, ⟨.options protocol c.own, c.options⟩,
      ⟨.payload protocol, c.payload⟩, ⟨.slot protocol, c.slot⟩]
    (match Origin.of protocol c.own inTable with
      | none => []
      | some origin => c.calling protocol hooks origin)

/-- All that is called in a lifecycle with so many hooks. -/
def log (c : Course) (protocol : String) (hooks : Nat) (inTable : Bool) : Log :=
  Log.andThen ((List.range hooks).map fun i ↦ ⟨.before i, c.before i⟩)
    (c.handling protocol hooks inTable)

/-- A note of the round trip or of what comes behind it is among those of the call. -/
theorem exists_calling_of_mem (c : Course) {protocol : String} {hooks : Nat} {inTable : Bool}
    {e : Entry} (among : e ∈ c.log protocol hooks inTable) (called : e.step.isCalls = true) :
    ∃ front origin, c.log protocol hooks inTable = front ++ c.calling protocol hooks origin ∧
      e ∈ c.calling protocol hooks origin := by
  have elsewhere : ∀ {es : Log}, (∀ e' ∈ es, e'.step.isCalls = false) → e ∉ es := by
    intro es others among
    rw [others e among] at called
    cases called
  unfold log at among ⊢
  obtain ⟨all, among⟩ := Log.eq_append_of_mem_andThen among (elsewhere (by simp [Step.isCalls]))
  unfold handling at among all ⊢
  obtain ⟨all', among⟩ := Log.eq_append_of_mem_andThen among (elsewhere (by simp [Step.isCalls]))
  rw [all, all', ← List.append_assoc]
  cases way : Origin.of protocol c.own inTable with
  | none =>
    rw [way] at among
    exact absurd among List.not_mem_nil
  | some origin =>
    rw [way] at among
    exact ⟨_, origin, rfl, among⟩

/-- A note behind the round trip is one of the recovery, if that is what follows, or one of those
from the response on. -/
theorem mem_calling_cases (c : Course) {protocol : String} {hooks : Nat} {origin : Origin}
    {e : Entry} (among : e ∈ c.calling protocol hooks origin)
    (behind : e.step ≠ .roundTrip origin) :
    (∃ failure, c.roundTrip.failure = some (.failed failure) ∧
      e = ⟨.recover protocol failure, c.recover⟩) ∨
    ∃ front, c.calling protocol hooks origin = front ++ c.closing protocol hooks ∧
      e ∈ c.closing protocol hooks := by
  unfold calling at among ⊢
  obtain rfl | among := List.mem_cons.mp among
  · exact absurd rfl behind
  split at among
  case h_1 => exact .inr ⟨[_], rfl, among⟩
  case h_2 failure failed =>
    by_cases first : e ∈ [(⟨.recover protocol failure, c.recover⟩ : Entry)]
    · exact .inl ⟨failure, failed, List.mem_singleton.mp first⟩
    · obtain ⟨all, among⟩ := Log.eq_append_of_mem_andThen among first
      rw [all, ← List.cons_append]
      exact .inr ⟨_, rfl, among⟩
  case h_3 => exact absurd among List.not_mem_nil

/-- The hooks see the exchange if and only if the response succeeds. -/
theorem closing_eq (c : Course) (protocol : String) (hooks : Nat) :
    c.closing protocol hooks = ⟨.respond protocol, c.respond⟩ :: if c.respond.failure = none then
      (List.range hooks).map fun i ↦ ⟨.after i, none, c.respond.exchange⟩ else [] := rfl

/-- What is handed to a recovery is the failure of a round trip. -/
theorem exists_roundTrip (c : Course) (protocol : String) (hooks : Nat) (inTable : Bool)
    {e : Entry} {name : String} {failure : GatewayError}
    (among : e ∈ c.log protocol hooks inTable) (handed : e.step = .recover name failure) :
    ∃ e' ∈ c.log protocol hooks inTable, (∃ origin, e'.step = .roundTrip origin) ∧
      e'.outcome.failure = some (.failed failure) := by
  obtain ⟨front, origin, all, among⟩ := c.exists_calling_of_mem among (by rw [handed]; rfl)
  obtain ⟨failure', failed, rfl⟩ | ⟨-, -, among⟩ :=
    c.mem_calling_cases among (by rw [handed]; nofun)
  · cases handed
    refine ⟨⟨.roundTrip origin, c.roundTrip⟩, ?_, ⟨origin, rfl⟩, failed⟩
    rw [all]
    exact List.mem_append_right front List.mem_cons_self
  · rw [closing_eq] at among
    obtain rfl | among := List.mem_cons.mp among
    · cases handed
    split at among
    · obtain ⟨i, -, rfl⟩ := List.mem_map.mp among
      cases handed
    · exact absurd among List.not_mem_nil

/-- If a hook sees the exchange behind the response, the response has succeeded, and the log ends
with its note and those of all hooks, which see what it left. -/
theorem exists_front_of_after (c : Course) {protocol : String} {hooks : Nat} {inTable : Bool}
    {e : Entry} {i : Nat} (among : e ∈ c.log protocol hooks inTable) (seen : e.step = .after i) :
    c.respond.failure = none ∧ e.outcome.exchange = c.respond.exchange ∧ ∃ front,
      c.log protocol hooks inTable = front ++ ⟨.respond protocol, c.respond⟩ ::
        (List.range hooks).map fun i ↦ ⟨.after i, none, c.respond.exchange⟩ := by
  obtain ⟨front, origin, all, among⟩ := c.exists_calling_of_mem among (by rw [seen]; rfl)
  obtain ⟨failure, -, rfl⟩ | ⟨front', all', among⟩ :=
    c.mem_calling_cases among (by rw [seen]; nofun)
  · cases seen
  rw [closing_eq] at among all'
  obtain rfl | among := List.mem_cons.mp among
  · cases seen
  split at among
  case isTrue success =>
    rw [if_pos success] at all'
    obtain ⟨i, -, rfl⟩ := List.mem_map.mp among
    refine ⟨success, rfl, front ++ front', ?_⟩
    rw [all, all', List.append_assoc]
  case isFalse => exact absurd among List.not_mem_nil

/-- A course on which nothing happens. -/
def idle (x : Exchange) : Course :=
  ⟨fun _ ↦ ⟨none, x⟩, ⟨none, x⟩, false, ⟨none, x⟩, ⟨none, x⟩, ⟨none, x⟩, ⟨none, x⟩, ⟨none, x⟩,
    ⟨none, x⟩⟩

end Course

/-- What a lifecycle ends with that leaves the exchange like this. -/
def answer (x : Exchange) : Except Halt Response :=
  match x.response with
  | some response => .ok response
  | none => .error (.failed Gateway.withoutResponse)

/-- What a lifecycle ends with, by the last call that was made: with its failure, if it failed.
After the slot a transport was missing; otherwise the exchange has the response, or has none. -/
def verdict (protocol : String) (log : Log) : Except Halt Response :=
  match log.getLast? with
  | none => .error (.failed (.unsupportedProtocol protocol))
  | some e =>
    match e.outcome.failure, e.step with
    | some halt, _ => .error halt
    | none, .slot _ => .error (.failed (Gateway.withoutTransport protocol))
    | none, _ => answer e.outcome.exchange

/-- Only the note at the end counts. -/
theorem verdict_append (protocol : String) (es : Log) {log : Log} (h : log ≠ []) :
    verdict protocol (es ++ log) = verdict protocol log := by
  unfold verdict
  rw [List.getLast?_append, List.getLast?_eq_some_getLast h]
  rfl

variable {σ α β : Type}

/-- What a stage ends with, apart from the scene. -/
def resultOf : EStateM.Result Halt (Scene σ) Response → Except Halt Response
  | .ok response _ => .ok response
  | .error halt _ => .error halt

/-- From a scene a watched stage does what the stage does, makes notes, and ends as they say. -/
structure Tells (protocol : String) (s : Scene σ) (stage : Stage σ Response)
    (watched : Stage (σ × Log) Response) (log : Log) : Prop where
  same : ∀ sofar, watched (s.withLog sofar) = Stage.logged id (sofar ++ log) (stage s)
  made : log ≠ []
  told : verdict protocol log = resultOf (stage s)

/-- A stage that fails ends a lifecycle. -/
theorem Tells.of_error {protocol : String} {s t : Scene σ} {stage : Stage σ α}
    {watched : Stage (σ × Log) β} {next : α → Stage σ Response}
    {later : β → Stage (σ × Log) Response} {halt : Halt} {log : Log} (h : stage s = .error halt t)
    (hw : ∀ sofar, watched (s.withLog sofar) = .error halt (t.withLog (sofar ++ log)))
    (made : log ≠ []) (told : verdict protocol log = .error halt) :
    Tells protocol s (stage >>= next) (watched >>= later) log := by
  have plain := Stage.bind_of_error (f := next) h
  refine ⟨fun sofar ↦ ?_, made, ?_⟩
  · rw [plain]
    exact Stage.bind_of_error (hw sofar)
  · rw [plain]
    exact told

/-- A stage that succeeds makes its notes, and the lifecycle goes on. -/
theorem Tells.of_ok {protocol : String} {s t : Scene σ} {stage : Stage σ α}
    {watched : Stage (σ × Log) β} {next : α → Stage σ Response}
    {later : β → Stage (σ × Log) Response} {a : α} {b : β} {es log : Log}
    (h : stage s = .ok a t)
    (hw : ∀ sofar, watched (s.withLog sofar) = .ok b (t.withLog (sofar ++ es)))
    (k : Tells protocol t (next a) (later b) log) :
    Tells protocol s (stage >>= next) (watched >>= later) (es ++ log) := by
  have plain := Stage.bind_of_ok (f := next) h
  refine ⟨fun sofar ↦ ?_, List.append_ne_nil_of_right_ne_nil es k.made, ?_⟩
  · rw [Stage.bind_of_ok (hw sofar), k.same, plain, List.append_assoc]
  · rw [verdict_append protocol es k.made, k.told, plain]

/-- A lifecycle that goes on without a call. -/
theorem Tells.of_eq {protocol : String} {s t : Scene σ} {stage next : Stage σ Response}
    {watched later : Stage (σ × Log) Response} {log : Log} (h : stage s = next t)
    (hw : ∀ sofar, watched (s.withLog sofar) = later (t.withLog sofar))
    (k : Tells protocol t next later log) : Tells protocol s stage watched log := by
  refine ⟨fun sofar ↦ ?_, k.made, ?_⟩
  · rw [hw, k.same, h]
  · rw [k.told, h]

/-- Hooks that look at the exchange after the response change the world only, and make notes. -/
theorem forM_after (x : Exchange) (hooks : List (Hook σ)) (place : Nat) (s : Scene σ) :
    ∃ t, t.exchange = s.exchange ∧
      (hooks.forM fun hook ↦ Stage.act (hook.after x)) s = .ok () t ∧
      ∀ sofar, ((Hook.recordedFrom place hooks).forM fun hook ↦ Stage.act (hook.after x))
        (s.withLog sofar) = .ok () (t.withLog
          (sofar ++ (List.range' place hooks.length).map fun i ↦ ⟨.after i, none, x⟩)) := by
  induction hooks generalizing place s with
  | nil =>
    refine ⟨s, rfl, rfl, fun sofar ↦ ?_⟩
    rw [List.length_nil, List.range'_zero, List.map_nil, List.append_nil]
    rfl
  | cons hook hooks ih =>
    obtain ⟨t, same, plain, watched⟩ := ih (place + 1) { s with world := hook.after x s.world }
    refine ⟨t, same, plain, fun sofar ↦ ?_⟩
    have first := watched (sofar ++ [⟨.after place, none, x⟩])
    rw [List.append_assoc] at first
    exact first

/-- The stages that come after the round trip. -/
def closing (hooks : List (Hook σ)) (handler : Handler σ) : Stage σ Response := do
  handler.respond
  let x ← Stage.exchange
  hooks.forM fun hook ↦ Stage.act (hook.after x)
  Gateway.takeResponse

private theorem takeResponse_eq (s : Scene σ) :
    Gateway.takeResponse s = match s.exchange.response with
      | none => .error (.failed Gateway.withoutResponse) s
      | some response =>
        .ok response { s with exchange := { s.exchange with response := none } } := by
  obtain ⟨⟨head, body, connection, bundle, response, published, business⟩, slot, world⟩ := s
  cases response with
  | none => rfl
  | some response => rfl

/-- When the response and the hooks have succeeded, the exchange says what is answered. -/
theorem verdict_of_passed (protocol : String) (step : Step) (x : Exchange) (hooks : Nat)
    (hs : ∀ name, step ≠ .slot name) :
    verdict protocol (⟨step, none, x⟩ ::
      (List.range' 0 hooks).map fun i ↦ ⟨.after i, none, x⟩) = answer x := by
  cases hooks with
  | zero =>
    cases step with
    | slot name => exact absurd rfl (hs name)
    | _ => rfl
  | succ n =>
    unfold verdict
    rw [List.range'_concat, List.map_append, List.map_singleton, ← List.cons_append,
      List.getLast?_concat]

/-- The lifecycle from the response on. -/
theorem exists_closing (hooks : List (Hook σ)) (handler : Handler σ) (protocol : String)
    (s : Scene σ) : ∃ c : Course, Tells protocol s (closing hooks handler)
      (closing (Hook.recordedFrom 0 hooks) (handler.recorded protocol))
      (c.closing protocol hooks.length) := by
  cases h : handler.respond s with
  | error halt t =>
    refine ⟨{ Course.idle s.exchange with respond := ⟨some halt, t.exchange⟩ }, ?_⟩
    exact .of_error h (Stage.recorded_of_error h) nofun rfl
  | ok _ t =>
    refine ⟨{ Course.idle s.exchange with respond := ⟨none, t.exchange⟩ }, ?_⟩
    obtain ⟨u, same, plain, watched⟩ := forM_after t.exchange hooks 0 t
    have ends : closing hooks handler s = Gateway.takeResponse u := by
      unfold closing
      rw [Stage.bind_of_ok h]
      exact Stage.bind_of_ok plain
    have log : Course.closing { Course.idle s.exchange with respond := ⟨none, t.exchange⟩ } protocol
        hooks.length = ⟨.respond protocol, none, t.exchange⟩ ::
          (List.range' 0 hooks.length).map fun i ↦ ⟨.after i, none, t.exchange⟩ := by
      rw [← List.range_eq_range']
      rfl
    rw [log]
    refine ⟨fun sofar ↦ ?_, nofun, ?_⟩
    · have first : (handler.recorded protocol).respond (s.withLog sofar) =
          .ok () (t.withLog (sofar ++ [⟨.respond protocol, none, t.exchange⟩])) :=
        Stage.recorded_of_ok h sofar
      rw [ends]
      unfold closing
      refine (Stage.bind_of_ok first).trans ((Stage.bind_of_ok (watched _)).trans ?_)
      rw [takeResponse_eq, takeResponse_eq, List.append_assoc]
      change (match u.exchange.response with | none => _ | some response => _) = _
      cases u.exchange.response <;> rfl
    · have written : ∀ name, Step.respond protocol ≠ .slot name := by
        intro name he
        cases he
      rw [verdict_of_passed protocol _ _ _ written, ends, takeResponse_eq, same]
      unfold answer
      cases t.exchange.response <;> rfl

/-- The round trip and the lifecycle from there on. -/
def calling (hooks : List (Hook σ)) (handler : Handler σ) (transport : Transport σ) (call : Call) :
    Stage σ Response := do
  Gateway.attempt handler transport call
  closing hooks handler

/-- The lifecycle from the round trip on. -/
theorem exists_calling (hooks : List (Hook σ)) (handler : Handler σ) (transport : Transport σ)
    (call : Call) (protocol : String) (origin : Origin) (s : Scene σ) :
    ∃ c : Course, Tells protocol s (calling hooks handler transport call)
      (calling (Hook.recordedFrom 0 hooks) (handler.recorded protocol) (transport.recorded origin)
        call)
      (c.calling protocol hooks.length origin) := by
  cases h : transport.roundTrip call s with
  | ok _ t =>
    obtain ⟨c, hc⟩ := exists_closing hooks handler protocol t
    refine ⟨{ c with roundTrip := ⟨none, t.exchange⟩ }, ?_⟩
    have plain : Gateway.attempt handler transport call s = .ok () t := Stage.recovering_of_ok h
    have watched : ∀ sofar, Gateway.attempt (handler.recorded protocol)
        (transport.recorded origin) call (s.withLog sofar) =
        .ok () (t.withLog (sofar ++ [⟨.roundTrip origin, none, t.exchange⟩])) :=
      fun sofar ↦ Stage.recovering_of_ok (Stage.recorded_of_ok h sofar)
    exact Tells.of_ok plain watched hc
  | error halt t =>
    cases halt with
    | brokenOff b =>
      refine ⟨{ Course.idle s.exchange with roundTrip := ⟨some (.brokenOff b), t.exchange⟩ }, ?_⟩
      have plain : Gateway.attempt handler transport call s = .error (.brokenOff b) t :=
        Stage.recovering_of_brokenOff h
      exact .of_error plain
        (fun sofar ↦ Stage.recovering_of_brokenOff (Stage.recorded_of_error h sofar)) nofun rfl
    | failed e =>
      have handed : Gateway.attempt handler transport call s = handler.recover e t :=
        Stage.recovering_of_failed h
      have watched : ∀ sofar, Gateway.attempt (handler.recorded protocol)
          (transport.recorded origin) call (s.withLog sofar) =
          (handler.recorded protocol).recover e (t.withLog
            (sofar ++ [⟨.roundTrip origin, some (.failed e), t.exchange⟩])) :=
        fun sofar ↦ Stage.recovering_of_failed (Stage.recorded_of_error h sofar)
      cases hr : handler.recover e t with
      | error halt u =>
        refine ⟨{ Course.idle s.exchange with
          roundTrip := ⟨some (.failed e), t.exchange⟩
          recover := ⟨some halt, u.exchange⟩ }, ?_⟩
        have lost : ∀ sofar, Gateway.attempt (handler.recorded protocol)
            (transport.recorded origin) call (s.withLog sofar) =
            .error halt (u.withLog (sofar ++ [⟨.roundTrip origin, some (.failed e), t.exchange⟩,
              ⟨.recover protocol e, some halt, u.exchange⟩])) := by
          intro sofar
          rw [watched]
          refine (Stage.recorded_of_error hr _).trans ?_
          rw [List.append_assoc]
          rfl
        exact .of_error (handed.trans hr) lost nofun rfl
      | ok _ u =>
        obtain ⟨c, hc⟩ := exists_closing hooks handler protocol u
        refine ⟨{ c with
          roundTrip := ⟨some (.failed e), t.exchange⟩
          recover := ⟨none, u.exchange⟩ }, ?_⟩
        have recovered : ∀ sofar, Gateway.attempt (handler.recorded protocol)
            (transport.recorded origin) call (s.withLog sofar) =
            .ok () (u.withLog (sofar ++ [⟨.roundTrip origin, some (.failed e), t.exchange⟩,
              ⟨.recover protocol e, none, u.exchange⟩])) := by
          intro sofar
          rw [watched]
          refine (Stage.recorded_of_ok hr _).trans ?_
          rw [List.append_assoc]
          rfl
        exact Tells.of_ok (handed.trans hr) recovered hc

/-- A gateway that keeps a log makes a call by the transport of the gateway, which it watches, or
for want of one by none. -/
theorem transport_cases (g : Gateway σ) (protocol : String) (options : CallOptions σ) :
    (∃ transport origin, g.transportFor protocol options.transport = .ok transport ∧
      g.recorded.transportFor protocol options.recorded.transport =
        .ok (transport.recorded origin) ∧
      Origin.of protocol options.transport.isSome (g.transports.find? protocol).isSome =
        some origin) ∨
    (g.transportFor protocol options.transport = .error (Gateway.withoutTransport protocol) ∧
      g.recorded.transportFor protocol options.recorded.transport =
        .error (Gateway.withoutTransport protocol) ∧
      Origin.of protocol options.transport.isSome (g.transports.find? protocol).isSome = none) := by
  have table : g.recorded.transports.find? protocol =
      (g.transports.find? protocol).map (Transport.recorded (.table protocol)) :=
    Registry.find?_mapNamed _ g.transports protocol
  unfold Gateway.transportFor CallOptions.recorded
  dsimp only
  cases options.transport with
  | some transport => exact .inl ⟨transport, .own, rfl, rfl, rfl⟩
  | none =>
    rw [table]
    cases g.transports.find? protocol with
    | some transport => exact .inl ⟨transport, .table protocol, rfl, rfl, rfl⟩
    | none => exact .inr ⟨rfl, rfl, rfl⟩

/-- The lifecycle from the slot on, if it is filled. -/
def reaching (g : Gateway σ) (protocol : String) (target : Target) (handler : Handler σ)
    (options : CallOptions σ) (payload : Option Bytes) (slot : ReplySlot) : Stage σ Response := do
  Stage.fill slot
  let transport ← Stage.ofExcept (g.transportFor protocol options.transport)
  calling g.hooks handler transport (Gateway.callFor target options payload)

private theorem reaching_of_ok {g : Gateway σ} {protocol : String} {options : CallOptions σ}
    {transport : Transport σ} (h : g.transportFor protocol options.transport = .ok transport)
    (target : Target) (handler : Handler σ) (payload : Option Bytes) (slot : ReplySlot)
    (s : Scene σ) : reaching g protocol target handler options payload slot s =
      calling g.hooks handler transport (Gateway.callFor target options payload)
        { s with slot } := by
  unfold reaching
  rw [h]
  rfl

private theorem reaching_of_error {g : Gateway σ} {protocol : String} {options : CallOptions σ}
    {e : GatewayError} (h : g.transportFor protocol options.transport = .error e)
    (target : Target) (handler : Handler σ) (payload : Option Bytes) (slot : ReplySlot)
    (s : Scene σ) : reaching g protocol target handler options payload slot s =
      .error (.failed e) { s with slot } := by
  unfold reaching
  rw [h]
  rfl

/-- The lifecycle from the slot on. -/
theorem exists_reaching (g : Gateway σ) (protocol : String) (target : Target) (handler : Handler σ)
    (options : CallOptions σ) (payload : Option Bytes) (s : Scene σ) :
    ∃ c : Course, c.own = options.transport.isSome ∧ Tells protocol s
      (handler.slot >>= reaching g protocol target handler options payload)
      ((handler.recorded protocol).slot >>= reaching g.recorded protocol target
        (handler.recorded protocol) options.recorded payload)
      (Log.andThen [⟨.slot protocol, c.slot⟩]
        (match Origin.of protocol c.own (g.transports.find? protocol).isSome with
          | none => []
          | some origin => c.calling protocol g.hooks.length origin)) := by
  cases h : handler.slot s with
  | error halt t =>
    refine ⟨{ Course.idle s.exchange with
      own := options.transport.isSome
      slot := ⟨some halt, t.exchange⟩ }, rfl, ?_⟩
    exact .of_error h (Stage.recorded_of_error h) nofun rfl
  | ok slot t =>
    rcases transport_cases g protocol options with
      ⟨transport, origin, plain, watched, found⟩ | ⟨plain, watched, missing⟩
    · obtain ⟨c, hc⟩ := exists_calling g.hooks handler transport
        (Gateway.callFor target options payload) protocol origin { t with slot }
      refine ⟨{ c with own := options.transport.isSome, slot := ⟨none, t.exchange⟩ }, rfl, ?_⟩
      dsimp only
      rw [found]
      refine Tells.of_ok h (Stage.recorded_of_ok h) (Tells.of_eq ?_ (fun sofar ↦ ?_) hc)
      · exact reaching_of_ok plain target handler payload slot t
      · exact reaching_of_ok watched target (handler.recorded protocol) payload slot _
    · refine ⟨{ Course.idle s.exchange with
        own := options.transport.isSome
        slot := ⟨none, t.exchange⟩ }, rfl, ?_⟩
      dsimp only
      rw [missing]
      have ends : (handler.slot >>= reaching g protocol target handler options payload) s =
          .error (.failed (Gateway.withoutTransport protocol)) { t with slot } := by
        rw [Stage.bind_of_ok h]
        exact reaching_of_error plain target handler payload slot t
      refine ⟨fun sofar ↦ ?_, nofun, ?_⟩
      · rw [ends]
        refine (Stage.bind_of_ok (Stage.recorded_of_ok h sofar)).trans ?_
        exact reaching_of_error watched target (handler.recorded protocol) payload slot _
      · rw [ends]
        rfl

/-- The stages of the handler, with the call among them. -/
def handling (g : Gateway σ) (protocol : String) (target : Target) (handler : Handler σ) :
    Stage σ Response := do
  handler.prepare
  let options ← handler.options
  let payload ← handler.payload
  handler.slot >>= reaching g protocol target handler options payload

/-- The lifecycle from the preparation on. -/
theorem exists_handling (g : Gateway σ) (protocol : String) (target : Target)
    (handler : Handler σ) (s : Scene σ) :
    ∃ c : Course, Tells protocol s (handling g protocol target handler)
      (handling g.recorded protocol target (handler.recorded protocol))
      (c.handling protocol g.hooks.length (g.transports.find? protocol).isSome) := by
  cases h₁ : handler.prepare s with
  | error halt t =>
    refine ⟨{ Course.idle s.exchange with prepare := ⟨some halt, t.exchange⟩ }, ?_⟩
    exact .of_error h₁ (Stage.recorded_of_error h₁) nofun rfl
  | ok _ s₁ =>
    cases h₂ : handler.options s₁ with
    | error halt t =>
      refine ⟨{ Course.idle s.exchange with
        prepare := ⟨none, s₁.exchange⟩
        options := ⟨some halt, t.exchange⟩ }, ?_⟩
      refine .of_ok h₁ (Stage.recorded_of_ok h₁) ?_
      exact .of_error h₂ (Stage.recorded_of_error h₂) nofun rfl
    | ok options s₂ =>
      cases h₃ : handler.payload s₂ with
      | error halt t =>
        refine ⟨{ Course.idle s.exchange with
          prepare := ⟨none, s₁.exchange⟩
          own := options.transport.isSome
          options := ⟨none, s₂.exchange⟩
          payload := ⟨some halt, t.exchange⟩ }, ?_⟩
        refine .of_ok h₁ (Stage.recorded_of_ok h₁) ?_
        refine .of_ok h₂ (Stage.recorded_of_ok h₂) ?_
        exact .of_error h₃ (Stage.recorded_of_error h₃) nofun rfl
      | ok payload s₃ =>
        obtain ⟨c, own, hc⟩ := exists_reaching g protocol target handler options payload s₃
        refine ⟨{ c with
          prepare := ⟨none, s₁.exchange⟩
          options := ⟨none, s₂.exchange⟩
          payload := ⟨none, s₃.exchange⟩ }, ?_⟩
        unfold Course.handling
        dsimp only
        rw [own] at hc ⊢
        refine .of_ok h₁ (Stage.recorded_of_ok h₁) ?_
        refine .of_ok h₂ (Stage.recorded_of_ok h₂) ?_
        exact .of_ok h₃ (Stage.recorded_of_ok h₃) hc

/-- The hooks before the handler, and the lifecycle from there on. -/
def passing (g : Gateway σ) (protocol : String) (target : Target) (handler : Handler σ)
    (hooks : List (Hook σ)) : Stage σ Response :=
  hooks.forM Hook.before >>= fun _ ↦ handling g protocol target handler

private theorem passing_cons (g : Gateway σ) (protocol : String) (target : Target)
    (handler : Handler σ) (hook : Hook σ) (hooks : List (Hook σ)) :
    passing g protocol target handler (hook :: hooks) =
      hook.before >>= fun _ ↦ passing g protocol target handler hooks := by
  unfold passing
  change ((hook.before >>= fun _ ↦ hooks.forM Hook.before) >>= _) = _
  rw [bind_assoc]

/-- The lifecycle from a hook on. -/
theorem exists_passing (g : Gateway σ) (protocol : String) (target : Target)
    (handler : Handler σ) (hooks : List (Hook σ)) (place : Nat) (s : Scene σ) :
    ∃ c : Course, Tells protocol s (passing g protocol target handler hooks)
      (passing g.recorded protocol target (handler.recorded protocol)
        (Hook.recordedFrom place hooks))
      (Log.andThen ((List.range' place hooks.length).map fun i ↦ ⟨.before i, c.before i⟩)
        (c.handling protocol g.hooks.length (g.transports.find? protocol).isSome)) := by
  induction hooks generalizing place s with
  | nil =>
    obtain ⟨c, hc⟩ := exists_handling g protocol target handler s
    exact ⟨c, .of_eq rfl (fun _ ↦ rfl) hc⟩
  | cons hook hooks ih =>
    have watched : Hook.recordedFrom place (hook :: hooks) =
        hook.recorded place :: Hook.recordedFrom (place + 1) hooks := rfl
    rw [watched, passing_cons, passing_cons, List.length_cons, List.range'_succ]
    cases h : hook.before s with
    | error halt t =>
      refine ⟨{ Course.idle s.exchange with before := fun _ ↦ ⟨some halt, t.exchange⟩ }, ?_⟩
      exact .of_error h (Stage.recorded_of_error h) nofun rfl
    | ok _ t =>
      obtain ⟨c, hc⟩ := ih (place + 1) t
      refine ⟨{ c with before := fun i ↦ if i = place then ⟨none, t.exchange⟩ else c.before i }, ?_⟩
      have later : (List.range' (place + 1) hooks.length).map (fun i ↦
          (⟨.before i, if i = place then ⟨none, t.exchange⟩ else c.before i⟩ : Entry)) =
          (List.range' (place + 1) hooks.length).map fun i ↦ ⟨.before i, c.before i⟩ := by
        apply List.map_congr_left
        intro i hi
        have hp : i ≠ place := by
          have := List.mem_range'_1.mp hi
          omega
        rw [if_neg hp]
      dsimp only
      rw [List.map_cons, later, if_pos rfl]
      exact .of_ok h (Stage.recorded_of_ok h) hc

end HttpGateway.Lifecycle

namespace HttpGateway.Gateway

open Lifecycle

variable {σ : Type}

/-- What is answered to a lifecycle that ends like this; a breakdown is not answered. -/
def reply (g : Gateway σ) : Except Halt Response → Except Breakdown Response
  | .ok response => .ok response
  | .error (.failed e) => .ok (g.errorResponse e)
  | .error (.brokenOff b) => .error b

/-- A lifecycle begins with the hooks, if the protocol is registered. -/
theorem run_of_find? {g : Gateway σ} {protocol : String} {handler : Handler σ}
    (h : g.registry.find? protocol = some handler) (target : Target) :
    g.run protocol target = passing g protocol target handler g.hooks := by
  unfold run Registry.lookup
  rw [h]
  rfl

/-- A gateway that keeps a log serves as the gateway does if it runs as the gateway does. -/
theorem serve_of_run (g : Gateway σ) (protocol : String) (target : Target) (x : Exchange)
    (world : σ) (log : Log)
    (same : g.recorded.run protocol target ⟨x, .bytes none, (world, [])⟩ =
      Stage.logged id log (g.run protocol target ⟨x, .bytes none, world⟩))
    (told : verdict protocol log = resultOf (g.run protocol target ⟨x, .bytes none, world⟩)) :
    g.recorded.serve protocol target x (world, []) =
        ((g.serve protocol target x world).1, (g.serve protocol target x world).2, log) ∧
      (g.serve protocol target x world).1 = g.reply (verdict protocol log) := by
  unfold serve
  rw [same, told]
  cases g.run protocol target ⟨x, .bytes none, world⟩ with
  | ok response s => exact ⟨rfl, rfl⟩
  | error halt s =>
    cases halt with
    | failed e => exact ⟨rfl, rfl⟩
    | brokenOff b => exact ⟨rfl, rfl⟩

end HttpGateway.Gateway
