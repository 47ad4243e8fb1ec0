import HttpGateway.Forwarding.BufferPool
import HttpGateway.Forwarding.FlushPolicy

/-!
# Streaming a body

Three parties bring a backend's body to the caller. The copier takes pieces from the backend. Under
a timer it gathers their data in a shared buffer and sends the content once that is as large as the
pool's buffers; the ticker sends what has gathered at every tick; a lock keeps the two apart.
Without a timer the copier sends every piece at once. Frames go to the caller through a queue of
sixteen places; a send waits for a place, and fails once the caller has gone. When the body ends the
copier stops the ticker, sends what is left, gives the buffer back and sends the trailers. A stopped
ticker is dropped at whatever it is waiting for.

The parties take turns in any order: a stream is a state, and an event is the next thing that one of
them does, if it can.
-/

namespace HttpGateway

/-- What a backend's body yields. -/
inductive Piece
  | data (bytes : Bytes)
  | trailers (fields : HeaderMap)
  /-- The body cannot be read any further. -/
  | failure (why : String)
  deriving DecidableEq

/-- What the copier is at. -/
inductive Copier
  | reading
  /-- Waits for the lock with data to put into the buffer. -/
  | holding (data : Bytes)
  /-- Sends a chunk; under a timer it has the lock. -/
  | sending (chunk : Bytes)
  /-- The body is over; waits for the lock. -/
  | finishing
  /-- Sends the last chunk, with the lock. -/
  | flushing (chunk : Bytes)
  /-- Sends the trailers. -/
  | trailing
  | ended
  /-- The caller was gone. -/
  | failed
  deriving DecidableEq

/-- What the ticker is at. -/
inductive Ticker
  | off
  | sleeping
  /-- Waits for the lock. -/
  | waiting
  /-- Sends a chunk, with the lock. -/
  | sending (chunk : Bytes)
  deriving DecidableEq

/-- A body on its way to the caller. -/
structure Stream where
  /-- What the backend has still to yield. -/
  source : List Piece
  /-- There is a timer. -/
  timed : Bool
  copier : Copier
  ticker : Ticker
  /-- The ticker has been told to stop. -/
  stopped : Bool
  buffer : Buffer
  pool : BufferPool
  trailers : Option HeaderMap
  queue : List Frame
  received : List Frame
  /-- The caller has gone. -/
  gone : Bool

namespace Stream

/-- The places of the queue. -/
def places : Nat := 16

/-- The start of a stream: under a timer it takes a buffer from the pool. -/
def start (timed : Bool) (pool : BufferPool) (source : List Piece) : Stream :=
  let (buffer, pool) := if timed then pool.get else (.ofCapacity 0, pool)
  { source
    timed
    copier := .reading
    ticker := if timed then .sleeping else .off
    stopped := false
    buffer
    pool
    trailers := none
    queue := []
    received := []
    gone := false }

/-- Nobody has the lock. -/
def lockFree (s : Stream) : Bool :=
  match s.copier, s.ticker with
  | .sending _, _ => false
  | .flushing _, _ => false
  | _, .sending _ => false
  | _, _ => true

/-- The queue has a free place. -/
def hasRoom (s : Stream) : Bool := s.queue.length < places

/-- The stream with a frame put into the queue. -/
def enqueue (s : Stream) (frame : Frame) : Stream := { s with queue := s.queue ++ [frame] }

/-- The copier goes on to the trailers, if there are any. -/
def closing (s : Stream) : Stream :=
  { s with copier := if s.trailers.isSome then .trailing else .ended }

/-- The copier gives the buffer back and goes on to the trailers. -/
def giveBack (s : Stream) : Stream :=
  { s with pool := s.pool.put s.buffer, buffer := .ofCapacity 0 }.closing

/-- The body is over: the ticker is told to stop. -/
def finish (s : Stream) : Stream :=
  if s.timed then { s with stopped := true, copier := .finishing }
  else { s with stopped := true }.closing

/-- The copy ends because the caller has gone; the ticker is told to stop. -/
def giveUp (s : Stream) : Stream := { s with stopped := true, copier := .failed }

/-- The next thing that one of the parties does. -/
inductive Event
  /-- The copier takes a piece from the backend, or finds the end of the body. -/
  | read
  /-- The copier gets the lock. -/
  | lock
  /-- The copier's send gets a place in the queue, or finds the caller gone. -/
  | send
  /-- The timer wakes the ticker. -/
  | tick
  /-- The ticker gets the lock. -/
  | grab
  /-- The ticker's send gets a place in the queue, or finds the caller gone. -/
  | push
  /-- The stopped ticker is dropped. -/
  | drop
  /-- The caller takes a frame from the queue. -/
  | receive
  /-- The caller goes. -/
  | leave
  deriving DecidableEq, Repr

/-- The copier takes a piece from the backend. -/
def stepRead (s : Stream) : Option Stream :=
  match s.copier, s.source with
  | .reading, [] => some s.finish
  | .reading, .data d :: rest =>
    some { s with source := rest, copier := if s.timed then .holding d else .sending d }
  | .reading, .trailers t :: rest =>
    some { s with source := rest, trailers := Frame.mergeTrailers s.trailers (.trailers t) }
  | .reading, .failure _ :: rest => some { s with source := rest }.finish
  | _, _ => none

/-- The copier gets the lock: it puts its data into the buffer and takes the content out if that is
large enough, or takes out what is left at the end. -/
def stepLock (s : Stream) : Option Stream :=
  if !s.lockFree then none
  else match s.copier with
    | .holding d =>
      let b := s.buffer.write d
      if s.pool.size ≤ b.content.length then
        some { s with buffer := b.clear, copier := .sending b.content }
      else some { s with buffer := b, copier := .reading }
    | .finishing =>
      if s.buffer.content.isEmpty then some s.giveBack
      else some { s with buffer := s.buffer.clear, copier := .flushing s.buffer.content }
    | _ => none

/-- The copier's send comes to its end, if it can. -/
def stepSend (s : Stream) : Option Stream :=
  match s.copier with
  | .sending c =>
    if s.gone then some s.giveUp
    else if s.hasRoom then some { s.enqueue (.data c) with copier := .reading }
    else none
  | .flushing c =>
    if s.gone then some s.giveUp
    else if s.hasRoom then some (s.enqueue (.data c)).giveBack
    else none
  | .trailing =>
    if s.gone then some s.giveUp
    else if s.hasRoom then
      some { s.enqueue (.trailers (s.trailers.getD .empty)) with copier := .ended }
    else none
  | _ => none

/-- The ticker gets the lock: it takes the content out of the buffer, or sleeps again if there is
none. -/
def stepGrab (s : Stream) : Option Stream :=
  if !s.lockFree || s.ticker ≠ .waiting then none
  else if s.buffer.content.isEmpty then some { s with ticker := .sleeping }
  else some { s with buffer := s.buffer.clear, ticker := .sending s.buffer.content }

/-- The ticker's send comes to its end, if it can. -/
def stepPush (s : Stream) : Option Stream :=
  match s.ticker with
  | .sending c =>
    if s.gone then some { s with ticker := .off }
    else if s.hasRoom then some { s.enqueue (.data c) with ticker := .sleeping }
    else none
  | _ => none

/-- What becomes of a stream by an event, if it can happen. -/
def step (s : Stream) : Event → Option Stream
  | .read => s.stepRead
  | .lock => s.stepLock
  | .send => s.stepSend
  | .tick => if s.ticker = .sleeping then some { s with ticker := .waiting } else none
  | .grab => s.stepGrab
  | .push => s.stepPush
  | .drop => if s.stopped && s.ticker ≠ .off then some { s with ticker := .off } else none
  | .receive =>
    match s.gone, s.queue with
    | false, f :: rest => some { s with queue := rest, received := s.received ++ [f] }
    | _, _ => none
  | .leave => if s.gone then none else some { s with gone := true }

/-- The copy is over. -/
def isOver (s : Stream) : Bool := s.copier = .ended || s.copier = .failed

/-- No more frames can come: the copy is over and the ticker is off. -/
def isSilent (s : Stream) : Bool := s.isOver && s.ticker = .off

/-- A row of events that all can happen leads from one stream to another. -/
def run? (s : Stream) : List Event → Option Stream
  | [] => some s
  | e :: es => (s.step e).bind fun s ↦ s.run? es

/-- A longer row of events is one row after another. -/
theorem run?_append (s : Stream) (es fs : List Event) :
    s.run? (es ++ fs) = (s.run? es).bind fun s ↦ s.run? fs := by
  induction es generalizing s with
  | nil => rfl
  | cons e es ih =>
    simp only [List.cons_append, run?]
    cases s.step e with
    | none => rfl
    | some s' => exact ih s'

/-- Some row of events leads from one stream to another. -/
def Reaches (s t : Stream) : Prop := ∃ es, s.run? es = some t

/-- A stream reaches itself. -/
theorem Reaches.refl (s : Stream) : s.Reaches s := ⟨[], rfl⟩

/-- An event leads from one stream to another. -/
theorem Reaches.of_step {s t : Stream} {e : Event} (h : s.step e = some t) : s.Reaches t :=
  ⟨[e], by rw [run?, h]; rfl⟩

/-- One row of events may follow another. -/
theorem Reaches.trans {s t u : Stream} (h : s.Reaches t) (k : t.Reaches u) : s.Reaches u := by
  obtain ⟨es, hes⟩ := h
  obtain ⟨fs, hfs⟩ := k
  refine ⟨es ++ fs, ?_⟩
  rw [run?_append, hes]
  exact hfs

end Stream
end HttpGateway
