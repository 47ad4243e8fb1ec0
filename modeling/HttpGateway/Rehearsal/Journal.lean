import HttpGateway.Counter
import HttpGateway.Grpc.Unary
import HttpGateway.Inbound.Clock
import HttpGateway.Stage

/-!
# The journal of a rehearsal

A gateway can be tried without a network: its transports, hooks and peers follow scripts, on a clock
that only they advance, and what they see goes into a journal under the time at which it happened.
Stopping a rehearsal at a moment forgets what has happened since (`mem_journal_stop`).
-/

namespace HttpGateway

/-- The stages that a handler stands for. -/
inductive HandlerStage
  | prepare
  | options
  | payload
  | slot
  | recover
  | respond
  deriving DecidableEq, Repr

/-- A call as a transport gets to see it. -/
structure SeenCall where
  id : String
  address : String
  method : String
  timeout : Duration
  capture : Bool
  payload : Option Bytes
  bundle : Option Bundle

/-- An entry of the journal. -/
inductive Rehearsal.Entry
  | setUp (hook : String) (isSealed : Bool)
  | before (hook : String)
  | stage (stage : HandlerStage)
  | called (call : SeenCall)
  | after (hook : String) (published : Option ResponseHead)
  /-- A channel to an address was asked for and given. -/
  | channel (address : String)
  /-- A request reached the peer. -/
  | request (request : Grpc.Request)
  /-- The reply that the bundle of a gRPC call holds at the end. -/
  | reply (header : CallHeader) (wireMetadata : HeaderMap)
  | counted (counter : Counter)

/-- The world of a rehearsal: the time, and the entries so far. -/
structure Rehearsal where
  now : Duration
  journal : List (Duration × Rehearsal.Entry)

namespace Rehearsal

/-- A rehearsal that has not begun. -/
def fresh : Rehearsal := ⟨⟨0⟩, []⟩

/-- Makes an entry. -/
def note (entry : Entry) (r : Rehearsal) : Rehearsal :=
  { r with journal := r.journal ++ [(r.now, entry)] }

/-- Lets time pass. -/
def wait (span : Duration) (r : Rehearsal) : Rehearsal :=
  { r with now := ⟨r.now.millis + span.millis⟩ }

/-- The entries, without those made at a moment or after it. -/
def stop (moment : Duration) (r : Rehearsal) : Rehearsal where
  now := moment
  journal := r.journal.filter fun e ↦ decide (e.1.millis < moment.millis)

/-- The clock of a rehearsal. -/
def clock : Clock Rehearsal := ⟨now, stop⟩

/-- The entries in order. -/
def entries (r : Rehearsal) : List Entry := r.journal.map Prod.snd

/-- The counters among the entries. -/
def counters (r : Rehearsal) : List Counter :=
  r.entries.filterMap fun
    | .counted c => some c
    | _ => none

/-- A stopped rehearsal holds what was noted before it was stopped. -/
theorem mem_journal_stop (moment : Duration) (r : Rehearsal) (e : Duration × Entry) :
    e ∈ (r.stop moment).journal ↔ e ∈ r.journal ∧ e.1.millis < moment.millis := by
  simp [stop]

end Rehearsal
end HttpGateway
