import HttpGateway.Duration
import HttpGateway.Exchange

/-!
# Stages and calls

The life of an exchange is a row of stages. A stage may change the exchange, the slot for the reply
and the world outside, and may fail; what it changed before it failed stays changed. Among the
stages is the call: it is made by a transport, with the options that the handler of the protocol
gives, for the target that the route names.
-/

namespace HttpGateway

/-- Where the reply of a call is found. -/
inductive ReplySlot
  /-- The transport made the response itself. -/
  | streamed
  /-- In the slot, if the transport put it there. -/
  | bytes (b : Option Bytes)
  /-- In the bundle. -/
  | inBundle
  deriving DecidableEq

/-- The bytes in a slot. -/
def ReplySlot.bytes? : ReplySlot → Option Bytes
  | bytes b => b
  | streamed | inBundle => none

/-- What the stages of an exchange work on. -/
structure Scene (σ : Type) where
  exchange : Exchange
  slot : ReplySlot
  world : σ

/-- A step in the life of an exchange. -/
abbrev Stage (σ : Type) := EStateM Halt (Scene σ)

namespace Stage

variable {σ α β : Type}

/-- Looks at the exchange. -/
def exchange : Stage σ Exchange := return (← get).exchange

/-- Changes the exchange. -/
def change (f : Exchange → Exchange) : Stage σ Unit :=
  modify fun s ↦ { s with exchange := f s.exchange }

/-- Fills the slot for the reply. -/
def fill (slot : ReplySlot) : Stage σ Unit := modify fun s ↦ { s with slot }

/-- Changes the world. -/
def act (f : σ → σ) : Stage σ Unit := modify fun s ↦ { s with world := f s.world }

/-- Asks the world, which may change by being asked. -/
def ask (f : σ → α × σ) : Stage σ α := fun s ↦
  let (answer, world) := f s.world
  .ok answer { s with world }

/-- Fails with an error. -/
def fail (e : GatewayError) : Stage σ α := throw (.failed e)

/-- Takes a result that may be a failure. -/
def ofExcept : Except GatewayError α → Stage σ α
  | .ok a => pure a
  | .error e => fail e

/-- Takes a result that may end the exchange. -/
def orHalt : Except Halt α → Stage σ α
  | .ok a => pure a
  | .error halt => throw halt

/-- A step whose failure is handled; a breakdown goes through. -/
def recovering (step : Stage σ α) (recover : GatewayError → Stage σ α) : Stage σ α :=
  tryCatch step fun
    | .failed e => recover e
    | .brokenOff b => throw (.brokenOff b)

/-- The scene that a stage leaves, whether it fails or not. -/
def left : EStateM.Result Halt (Scene σ) α → Scene σ
  | .ok _ s => s
  | .error _ s => s

/-- Installs a bundle on the exchange. -/
def install (bundle : Bundle) : Stage σ Unit := do
  match (← exchange).install bundle with
  | .ok x => change fun _ ↦ x
  | .error foreign => fail foreign.error

/-- The exchange is looked at as it is. -/
@[simp] theorem exchange_bind (f : Exchange → Stage σ β) (s : Scene σ) :
    (exchange >>= f) s = f s.exchange s := rfl

/-- What is asked of the world changes the world only. -/
@[simp] theorem ask_bind (g : σ → α × σ) (f : α → Stage σ β) (s : Scene σ) :
    (ask g >>= f) s = f (g s.world).1 { s with world := (g s.world).2 } := rfl

/-- A result is taken as it is. -/
@[simp] theorem ofExcept_ok_bind (a : α) (f : α → Stage σ β) (s : Scene σ) :
    (ofExcept (.ok a) >>= f) s = f a s := rfl

/-- A result is taken as it is, whatever its failure would have become. -/
@[simp] theorem ofExcept_mapError_ok_bind {ε : Type} (a : α) (g : ε → GatewayError)
    (f : α → Stage σ β) (s : Scene σ) :
    (ofExcept ((Except.ok a).mapError g) >>= f) s = f a s := rfl

/-- A result that is a failure ends the exchange. -/
@[simp] theorem ofExcept_error_bind (e : GatewayError) (f : α → Stage σ β) (s : Scene σ) :
    (ofExcept (.error e) >>= f) s = .error (.failed e) s := rfl

/-- A result is taken as it is, also where it might have ended the exchange. -/
@[simp] theorem orHalt_ok_bind (a : α) (f : α → Stage σ β) (s : Scene σ) :
    (orHalt (.ok a) >>= f) s = f a s := rfl

/-- A stage that succeeds hands its result to the next one. -/
theorem bind_of_ok {m : Stage σ α} {f : α → Stage σ β} {s t : Scene σ} {a : α}
    (h : m s = .ok a t) : (m >>= f) s = f a t := by
  change EStateM.bind m f s = _
  unfold EStateM.bind
  rw [h]

/-- A stage that fails is the last one. -/
theorem bind_of_error {m : Stage σ α} {f : α → Stage σ β} {s t : Scene σ} {halt : Halt}
    (h : m s = .error halt t) : (m >>= f) s = .error halt t := by
  change EStateM.bind m f s = _
  unfold EStateM.bind
  rw [h]

/-- A result that is taken was none of a failure. -/
theorem eq_ok_of_ofExcept {r : Except GatewayError α} {s t : Scene σ} {a : α}
    (h : ofExcept r s = .ok a t) : r = .ok a ∧ s = t := by
  cases r with
  | error e => cases h
  | ok _ =>
    cases h
    exact ⟨rfl, rfl⟩

/-- A step that succeeds needs no recovery. -/
theorem recovering_of_ok {step : Stage σ α} {recover : GatewayError → Stage σ α} {s t : Scene σ}
    {a : α} (h : step s = .ok a t) : step.recovering recover s = .ok a t := by
  change EStateM.tryCatch step _ s = _
  unfold EStateM.tryCatch
  rw [h]

/-- The failure of a step is handed to the recovery. -/
theorem recovering_of_failed {step : Stage σ α} {recover : GatewayError → Stage σ α}
    {s t : Scene σ} {e : GatewayError} (h : step s = .error (.failed e) t) :
    step.recovering recover s = recover e t := by
  change EStateM.tryCatch step _ s = _
  unfold EStateM.tryCatch
  rw [h]
  rfl

/-- There is no recovery from a breakdown. -/
theorem recovering_of_brokenOff {step : Stage σ α} {recover : GatewayError → Stage σ α}
    {s t : Scene σ} {b : Breakdown} (h : step s = .error (.brokenOff b) t) :
    step.recovering recover s = .error (.brokenOff b) t := by
  change EStateM.tryCatch step _ s = _
  unfold EStateM.tryCatch
  rw [h]
  rfl

end Stage

/-- Where a call goes. -/
structure Target where
  address : String
  /-- The method of the service; the path of the request if there is none. -/
  method : Option String
  timeout : Duration
  deriving DecidableEq, Repr

/-- A call, as it is handed to a transport. -/
structure Call where
  target : Target
  /-- A time limit in place of the target's. -/
  timeoutOverride : Option Duration
  /-- The handler wants the metadata of the reply. -/
  capture : Bool
  payload : Option Bytes
  deriving DecidableEq

namespace Call

/-- The time limit of a call. -/
def timeout (call : Call) : Duration := call.timeoutOverride.getD call.target.timeout

/-- The method that a call names. -/
def method (call : Call) (head : RequestHead) : String := call.target.method.getD head.uri.path

end Call

/-- The way to a service. -/
structure Transport (σ : Type) where
  /-- Makes a call and leaves the reply in the slot, in the bundle or as the response. -/
  roundTrip : Call → Stage σ Unit

/-- What a handler says about its calls. -/
structure CallOptions (σ : Type) where
  timeout : Option Duration
  /-- The handler's own transport. -/
  transport : Option (Transport σ)
  capture : Bool

/-- How exchanges of one protocol are handled. -/
structure Handler (σ : Type) where
  /-- Prepares the exchange, and fails if it belongs to another protocol. -/
  prepare : Stage σ Unit
  /-- The options of the call. -/
  options : Stage σ (CallOptions σ)
  /-- Makes the payload of the call. -/
  payload : Stage σ (Option Bytes)
  /-- The slot for the reply. -/
  slot : Stage σ ReplySlot
  /-- Takes in the failure of a call, or fails with it. -/
  recover : GatewayError → Stage σ Unit
  /-- Writes the response from what the slot and the exchange hold. -/
  respond : Stage σ Unit

end HttpGateway
