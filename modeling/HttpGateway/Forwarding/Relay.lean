import HttpGateway.Text.Ascii

/-!
# Relaying a connection

After a protocol switch bytes go both ways between the caller and the backend: two copy tasks each
read from one end and write to the other what they have read, until the end has been reached and all
is written, or a read fails, or a write fails. A task then shuts down the side it writes to and
reports. A supervisor takes the first report, stops both tasks and ends the relay. The parties take
turns in any order: a relay is a state and an event is the next thing that one of them does, if it
can. A write may take a part of what there is to write, and a task may read on before it has written
everything.
-/

namespace HttpGateway

/-- One of the two ways through a relay. -/
inductive Direction
  | toBackend
  | toCaller
  deriving DecidableEq, Repr

/-- The name of a direction. -/
def Direction.name : Direction → String
  | toBackend => "caller->backend"
  | toCaller => "backend->caller"

/-- What a read yields; no bytes at all are the end. -/
inductive ReadResult
  | bytes (b : Bytes)
  | failure (why : String)
  deriving DecidableEq

/-- What the reading side of an end has still to yield; then comes its end, or nothing more. -/
structure RelaySource where
  reads : List ReadResult
  hangs : Bool
  deriving DecidableEq

/-- An end of a relay: what it sends, and how many bytes it takes before a write fails, if there is
a limit. -/
structure RelayEnd where
  source : RelaySource
  limit : Option Nat
  deriving DecidableEq

/-- The writing side of an end: what it has received, whether it has been shut down, and its limit.
-/
structure RelaySink where
  received : Bytes
  shut : Bool
  limit : Option Nat
  deriving DecidableEq

/-- A write of so many bytes is beyond the limit of a side. -/
def RelaySink.refuses (sink : RelaySink) (n : Nat) : Bool :=
  match sink.limit with
  | none => false
  | some limit => limit < sink.received.length + n

/-- How a copy ended. -/
inductive CopyResult
  | copied (bytes : Nat)
  | failed (why : String)
  deriving DecidableEq

/-- What a copy task is at. -/
inductive CopyPhase
  /-- Reads and writes. Some bytes have been read and not been written yet; the end may have been
  read. -/
  | moving (unwritten : Bytes) (ended : Bool)
  /-- Shuts down the side it writes to. -/
  | closing (result : CopyResult)
  | reporting (result : CopyResult)
  | finished
  /-- Stopped by the supervisor. -/
  | stopped
  deriving DecidableEq

/-- A copy task with its two ends. -/
structure CopyTask where
  source : RelaySource
  phase : CopyPhase
  count : Nat
  sink : RelaySink
  deriving DecidableEq

/-- The next thing that a copy task does, before it reports. -/
inductive CopyStep
  | read
  /-- Writes so many bytes of those that have been read. -/
  | write (n : Nat)
  /-- The side that the task writes to fails. -/
  | refuse (why : String)
  /-- The end has been read and everything is written. -/
  | complete
  /-- Shuts down the side that the task writes to. -/
  | close
  deriving DecidableEq

namespace CopyTask

/-- A task that has not begun. -/
def start (source : RelaySource) (limit : Option Nat) : CopyTask :=
  ⟨source, .moving [] false, 0, ⟨[], false, limit⟩⟩

/-- What becomes of a task by a step, if it can be taken. -/
def step (t : CopyTask) : CopyStep → Option CopyTask
  | .read =>
    match t.phase, t.source.reads with
    | .moving unwritten false, [] =>
      if t.source.hangs then none else some { t with phase := .moving unwritten true }
    | .moving unwritten false, .bytes b :: rest =>
      some { t with
        source := { t.source with reads := rest }
        phase := .moving (unwritten ++ b) b.isEmpty }
    | .moving _ false, .failure why :: rest =>
      some { t with source := { t.source with reads := rest }, phase := .closing (.failed why) }
    | _, _ => none
  | .write n =>
    match t.phase with
    | .moving unwritten ended =>
      if 0 < n ∧ n ≤ unwritten.length ∧ t.sink.refuses n = false then
        some { t with
          phase := .moving (unwritten.drop n) ended
          count := t.count + n
          sink := { t.sink with received := t.sink.received ++ unwritten.take n } }
      else none
    | _ => none
  | .refuse why =>
    match t.phase with
    | .moving _ _ => some { t with phase := .closing (.failed why) }
    | _ => none
  | .complete =>
    match t.phase with
    | .moving [] true => some { t with phase := .closing (.copied t.count) }
    | _ => none
  | .close =>
    match t.phase with
    | .closing result =>
      some { t with phase := .reporting result, sink := { t.sink with shut := true } }
    | _ => none

/-- The task has come to its end, by itself or not. -/
def isDone (t : CopyTask) : Bool := t.phase = .finished || t.phase = .stopped

end CopyTask

/-- A relay between two ends. -/
structure Relay where
  toBackend : CopyTask
  toCaller : CopyTask
  /-- Reports that the supervisor has not taken yet. -/
  reports : List (Direction × CopyResult)
  outcome : Option (Direction × CopyResult)
  deriving DecidableEq

namespace Relay

/-- The task of a direction. -/
def task (r : Relay) : Direction → CopyTask
  | .toBackend => r.toBackend
  | .toCaller => r.toCaller

/-- The relay with the task of a direction moved on. -/
def setTask (r : Relay) (d : Direction) (t : CopyTask) : Relay :=
  match d with
  | .toBackend => { r with toBackend := t }
  | .toCaller => { r with toCaller := t }

/-- A relay that begins between two ends. -/
def start (caller backend : RelayEnd) : Relay :=
  ⟨.start caller.source backend.limit, .start backend.source caller.limit, [], none⟩

/-- So many reports can wait for the supervisor; who reports when there is no room waits. -/
def queueLength : Nat := 2

/-- The outcome if both tasks are gone and none of them has reported. -/
def unreported : Direction × CopyResult :=
  (.toBackend, .failed "copy tasks ended without reporting")

/-- The next thing that one of the parties does. -/
inductive Event
  | copy (d : Direction) (s : CopyStep)
  | report (d : Direction)
  /-- The supervisor takes the first report. -/
  | collect
  /-- The supervisor stops a task. -/
  | stop (d : Direction)
  deriving DecidableEq

/-- What becomes of a relay by an event, if it can happen. -/
def step (r : Relay) : Event → Option Relay
  | .copy d s => ((r.task d).step s).map (r.setTask d)
  | .report d =>
    match (r.task d).phase with
    | .reporting result =>
      if r.reports.length < queueLength then
        some { r.setTask d { r.task d with phase := .finished } with
          reports := r.reports ++ [(d, result)] }
      else none
    | _ => none
  | .collect =>
    match r.outcome, r.reports with
    | none, first :: rest => some { r with outcome := some first, reports := rest }
    | none, [] =>
      if r.toBackend.isDone && r.toCaller.isDone then some { r with outcome := some unreported }
      else none
    | some _, _ => none
  | .stop d =>
    if r.outcome.isSome && !(r.task d).isDone then
      some (r.setTask d { r.task d with phase := .stopped })
    else none

/-- The relay is over. -/
def isOver (r : Relay) : Bool := r.outcome.isSome && r.toBackend.isDone && r.toCaller.isDone

/-- A row of events that all can happen leads from one relay to another. -/
def run? (r : Relay) : List Event → Option Relay
  | [] => some r
  | e :: es => (r.step e).bind fun r ↦ r.run? es

end Relay
end HttpGateway
