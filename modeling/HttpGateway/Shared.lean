/-!
# Values that calls share

A value that calls share is changed under a lock and read without one. The call that has the lock
looks at the value as often as it needs and then publishes a change or refuses, once. A reader takes
hold of the value that is published and answers from it, whatever is published meanwhile. Each look
at the value and each change of it is a step of its own, so any number of calls may be under way at
once and their steps may come in any order that the lock allows.
-/

namespace HttpGateway

namespace Shared

/-- What a call does while it has the lock. -/
inductive Section (σ ε : Type)
  /-- It looks at the value and goes on from what it sees. -/
  | look (next : σ → Section σ ε)
  /-- It publishes a change. -/
  | publish (change : σ → σ)
  /-- It gives up. -/
  | refuse (e : ε)

/-- What a section makes of a value if nothing comes between its steps. -/
def Section.run {σ ε : Type} : Section σ ε → σ → Except ε σ
  | look next, value => (next value).run value
  | publish change, value => .ok (change value)
  | refuse e, _ => .error e

/-- A call changes the value under the lock or asks a question about it. -/
inductive Call (σ ε α : Type)
  | change (body : Section σ ε)
  | question (ask : σ → α)

/-- How far a call has come. -/
inductive Phase (σ ε α : Type)
  | waiting
  /-- It has the lock, and this is left to do. -/
  | inside (rest : Section σ ε)
  /-- It has published or refused, and still has the lock. -/
  | leaving (result : Except ε Unit)
  | left (result : Except ε Unit)
  /-- It has taken hold of a value to answer from. -/
  | loaded (seen : σ)
  | answered (answer : α)

/-- A step of the call with a name. -/
inductive Event (ι : Type)
  | lock (call : ι)
  | look (call : ι)
  | publish (call : ι)
  | refuse (call : ι)
  | unlock (call : ι)
  | load (call : ι)
  | answer (call : ι)
  deriving DecidableEq

end Shared

/-- The value that is published, the call that has the lock, and how far every call has come. -/
structure Shared (ι σ ε α : Type) where
  now : σ
  holder : Option ι
  phase : ι → Shared.Phase σ ε α

namespace Shared

variable {ι σ ε α : Type} [DecidableEq ι]

/-- A value before any call. -/
def start (value : σ) : Shared ι σ ε α := ⟨value, none, fun _ ↦ .waiting⟩

/-- The shared value with a call moved on. -/
def moved (s : Shared ι σ ε α) (i : ι) (phase : Phase σ ε α) : Shared ι σ ε α :=
  { s with phase := fun j ↦ if j = i then phase else s.phase j }

/-- What becomes of a shared value when one of the calls takes a step, if it can take it. -/
def step (calls : ι → Call σ ε α) (s : Shared ι σ ε α) : Event ι → Option (Shared ι σ ε α)
  | .lock i =>
    match calls i, s.phase i, s.holder with
    | .change body, .waiting, none => some { s.moved i (.inside body) with holder := some i }
    | _, _, _ => none
  | .look i =>
    match s.phase i with
    | .inside (.look next) => some (s.moved i (.inside (next s.now)))
    | _ => none
  | .publish i =>
    match s.phase i with
    | .inside (.publish change) => some { s.moved i (.leaving (.ok ())) with now := change s.now }
    | _ => none
  | .refuse i =>
    match s.phase i with
    | .inside (.refuse e) => some (s.moved i (.leaving (.error e)))
    | _ => none
  | .unlock i =>
    match s.phase i with
    | .leaving result => some { s.moved i (.left result) with holder := none }
    | _ => none
  | .load i =>
    match calls i, s.phase i with
    | .question _, .waiting => some (s.moved i (.loaded s.now))
    | _, _ => none
  | .answer i =>
    match calls i, s.phase i with
    | .question ask, .loaded seen => some (s.moved i (.answered (ask seen)))
    | _, _ => none

/-- The shared value after events, if each of them can happen in its turn. -/
def after? (calls : ι → Call σ ε α) (value : σ) (events : List (Event ι)) :
    Option (Shared ι σ ε α) :=
  events.foldlM (step calls) (start value)

end Shared
end HttpGateway
