import HttpGateway.Error
import HttpGateway.Forwarding.Stream

/-!
# Delivering a forwarded response

A backend's response on the way to a caller, with the times at which things happen. Each piece of
the body comes some time after it is asked for. Copier and ticker have turns. A turn of the copier
goes as far as it can go without waiting, but is bounded: each piece that takes time to come, every
lock and every send is a part of it, and a copier that has used up its turn has another one after
all tasks that wait for theirs. A task that waits for time to pass sets an alarm and has a turn when
it goes off; of alarms that go off at one time the one set first is first. A lock that comes free is
kept for the task that has waited for it longest. The caller has its go when no task waits for a
turn: it takes all that is in the queue in one go, or goes after so many frames. Time passes when
nobody can go on. Ticks come at the multiples of the interval. A body that goes out in one piece is
read to its end first, and a failure to read it is an error.
-/

namespace HttpGateway

/-- A piece of a body, and the time that it takes to come; none if it is there with those before. -/
abbrev TimedPiece := Option Duration × Piece

/-- The time that a piece is waited for. A piece that takes no time is there with those before. -/
def TimedPiece.wait? (piece : TimedPiece) : Option Duration :=
  piece.1.filter fun time ↦ 0 < time.millis

/-- A backend's response; each piece of the body with the time it takes to come. -/
structure BackendResponse where
  status : Status
  version : Version
  headers : HeaderMap
  /-- The exact size of the body, if that is known. -/
  exact : Option Nat
  pieces : List TimedPiece

/-- What a caller has got of a body. -/
structure Delivered where
  /-- The frames, and when they came. -/
  frames : List (Duration × Frame)
  /-- How many pieces were taken from the backend. -/
  pulled : Nat
  pool : BufferPool

namespace Delivery

/-- The tasks that have turns. -/
inductive Party
  | copier
  | ticker
  deriving DecidableEq

/-- A stream under way at a moment. -/
structure Moment where
  stream : Stream
  now : Nat
  /-- The times that the pieces to come take. -/
  waits : List (Option Duration)
  /-- When the next piece is there, if it has been asked for. -/
  due : Option Nat
  /-- The task that has its turn, and what is left of the turn. -/
  active : Option (Party × Nat)
  /-- The tasks that wait for a turn. -/
  queue : List Party
  /-- The tasks that have used up a turn and want another. -/
  yielded : List Party
  /-- The alarms, in the order in which they were set. -/
  alarms : List (Party × Nat)
  /-- The tasks that wait for the lock, in order. -/
  lockers : List Party
  /-- The task that the free lock is kept for. -/
  granted : Option Party
  /-- The task that waits for a place in the queue of frames. -/
  wanting : Option Party
  /-- The frames the caller has, and when they came; the last one first. -/
  got : List (Nat × Frame)

/-- The length of a turn. -/
def turn : Nat := 128

/-- The tick after a time. -/
def nextTick (interval now : Nat) : Nat := (now / interval + 1) * interval

namespace Moment

/-- The turn at hand is over. -/
def pass (m : Moment) : Moment := { m with active := none }

/-- The turn at hand is used up. -/
def yield (m : Moment) (p : Party) : Moment :=
  { m with active := none, yielded := m.yielded ++ [p] }

/-- A free lock is kept for the task that has waited for it longest. -/
def grant (m : Moment) : Moment :=
  match m.granted, m.lockers with
  | none, p :: rest =>
    if m.stream.lockFree then
      { m with granted := some p, lockers := rest, queue := m.queue ++ [p] }
    else m
  | _, _ => m

/-- The task that waits for a place has a turn once there is one, or the caller has gone. -/
def makeRoom (m : Moment) : Moment :=
  match m.wanting with
  | some p =>
    if m.stream.hasRoom || m.stream.gone then
      { m with wanting := none, queue := m.queue ++ [p] }
    else m
  | none => m

/-- A stopped ticker has one more turn. -/
def callOff (m : Moment) : Moment :=
  if m.stream.stopped && m.stream.ticker ≠ .off && !m.queue.contains .ticker then
    { m with queue := m.queue ++ [.ticker] }
  else m

/-- The moment with the stream moved on, and the tasks that this concerns. -/
def moved (m : Moment) (s : Stream) : Moment :=
  { m with stream := s }.grant.makeRoom.callOff

/-- The task that has its turn goes on by an event, or cannot. -/
def go (m : Moment) (p : Party) (left : Nat) (e : Stream.Event) : Moment :=
  match m.stream.step e with
  | some s => { m with active := some (p, left) }.moved s
  | none => m.pass

/-- The task that has its turn may have the lock. -/
def mayLock (m : Moment) (p : Party) : Bool :=
  m.stream.lockFree && (m.granted = none || m.granted = some p)

/-- The task takes the lock by an event, or waits for it. -/
def lockBy (m : Moment) (p : Party) (left : Nat) (e : Stream.Event) : Moment :=
  if m.mayLock p then { m with granted := none }.go p left e
  else { m with active := none, lockers := m.lockers ++ [p] }

/-- The task sends by an event, or waits for a place. -/
def sendBy (m : Moment) (p : Party) (left : Nat) (e : Stream.Event) : Moment :=
  match m.stream.step e with
  | some s => { m with active := some (p, left) }.moved s
  | none => { m with active := none, wanting := some p }

/-- The copier takes a piece, and is done with the time that it took. -/
def readNext (m : Moment) (left : Nat) : Moment :=
  { m with waits := m.waits.drop 1, due := none }.go .copier left .read

/-- The copier takes a piece at the given time, or sets an alarm. -/
def readAt (m : Moment) (left time : Nat) : Moment :=
  if time ≤ m.now then m.readNext left
  else { m with active := none, due := some time, alarms := m.alarms ++ [(.copier, time)] }

/-- The copier does the next thing, or its turn ends. -/
def copy (m : Moment) (left : Nat) : Moment :=
  match m.stream.copier with
  | .reading =>
    match m.waits with
    | some wait :: _ =>
      if left = 0 then m.yield .copier
      else m.readAt (left - 1) (m.due.getD (m.now + wait.millis))
    | _ => m.readNext left
  | .holding _ | .finishing =>
    if left = 0 then m.yield .copier else m.lockBy .copier (left - 1) .lock
  | .sending _ | .flushing _ | .trailing =>
    if left = 0 then m.yield .copier else m.sendBy .copier (left - 1) .send
  | .ended | .failed => m.pass

/-- A ticker that sleeps sets its alarm, and its turn ends. -/
def rest (m : Moment) (interval : Nat) : Moment :=
  if m.stream.ticker = .sleeping then
    { m with active := none, alarms := m.alarms ++ [(.ticker, nextTick interval m.now)] }
  else m

/-- The ticker waits for nothing any more. -/
def release (m : Moment) : Moment :=
  { m with
    lockers := m.lockers.filter (· ≠ .ticker)
    granted := if m.granted = some .ticker then none else m.granted
    wanting := if m.wanting = some .ticker then none else m.wanting
    alarms := m.alarms.filter (·.1 ≠ .ticker) }

/-- The ticker does the next thing, or its turn ends; a stopped one is dropped. -/
def tick (m : Moment) (interval left : Nat) : Moment :=
  if m.stream.stopped then (m.release.go .ticker left .drop).pass
  else match m.stream.ticker with
    | .sleeping => m.go .ticker left .tick
    | .waiting => (m.lockBy .ticker left .grab).rest interval
    | .sending _ => (m.sendBy .ticker left .push).rest interval
    | .off => m.pass

/-- The task that has its turn does the next thing, or the turn ends. -/
def work (m : Moment) (interval : Nat) : Party → Nat → Moment
  | .copier, left => m.copy left
  | .ticker, left => m.tick interval left

/-- The tasks that have used up a turn wait for another. -/
def resume (m : Moment) : Moment := { m with queue := m.queue ++ m.yielded, yielded := [] }

/-- The caller takes the next frame, if there is one. -/
def receive? (m : Moment) : Option Moment :=
  match m.stream.queue with
  | [] => none
  | frame :: _ =>
    (m.stream.step .receive).map fun s ↦ { m with got := (m.now, frame) :: m.got }.moved s

/-- The caller takes so many frames, as far as they are there. -/
def receiveUpTo : Nat → Moment → Moment
  | 0, m => m
  | n + 1, m =>
    match m.receive? with
    | none => m
    | some m => m.receiveUpTo n

/-- The caller goes, if it has as many frames as it wants. -/
def part (limit : Option Nat) (m : Moment) : Moment :=
  if limit = some m.stream.received.length then
    match m.stream.step .leave with
    | some s => m.moved s
    | none => m
  else m

/-- The caller goes on, if it can: it takes what is in the queue, as far as it wants it, and goes
once it has all that it wants. -/
def take? (limit : Option Nat) (m : Moment) : Option Moment :=
  let there := m.stream.queue.length
  let wanted := (limit.map (· - m.stream.received.length)).getD there
  if min wanted there = 0 then none
  else some ((m.resume.receiveUpTo (min wanted there)).part limit)

/-- The tasks that have used up a turn have another. -/
def resume? (m : Moment) : Option Moment := if m.yielded.isEmpty then none else some m.resume

/-- The alarms without the ticks that come before the next piece and find nothing to send. -/
def dueAlarms (m : Moment) (interval : Nat) : List (Party × Nat) :=
  match m.due with
  | some time =>
    if m.stream.ticker = .sleeping && m.stream.buffer.content.isEmpty && 0 < interval &&
        nextTick interval m.now < time then
      [(.copier, time), (.ticker, nextTick interval (time - 1))]
    else m.alarms
  | none => m.alarms

/-- Time passes until the next alarm. -/
def wait? (m : Moment) (interval : Nat) : Option Moment :=
  let alarms := m.dueAlarms interval
  (alarms.map Prod.snd).min?.map fun time ↦
    { m with
      now := time
      queue := (alarms.filter fun alarm ↦ alarm.2 = time).map Prod.fst
      alarms := alarms.filter fun alarm ↦ alarm.2 ≠ time }

/-- The next thing that happens; nothing if the copy is over and all is taken. -/
def next? (limit : Option Nat) (interval : Nat) (m : Moment) : Option Moment :=
  match m.active, m.queue with
  | some (p, left), _ => some (m.work interval p left)
  | none, p :: rest => some { m with active := some (p, turn), queue := rest }
  | none, [] => m.take? limit <|> m.resume? <|> m.wait? interval

end Moment

/-- Everything that happens within so many steps. -/
def drive (limit : Option Nat) (interval : Nat) : Nat → Moment → Moment
  | 0, m => m
  | fuel + 1, m =>
    match m.next? limit interval with
    | none => m
    | some m => drive limit interval fuel m

/-- The moment at which a stream starts: the ticker has set its alarm, the copier waits for its
turn. A caller that wants nothing goes at once. -/
def start (pool : BufferPool) (interval : Option Duration) (pieces : List TimedPiece)
    (limit : Option Nat) : Moment :=
  let stream := Stream.start interval.isSome pool (pieces.map Prod.snd)
  { stream := if limit = some 0 then (stream.step .leave).getD stream else stream
    now := 0
    waits := pieces.map TimedPiece.wait?
    due := none
    active := none
    queue := [.copier]
    yielded := []
    alarms := match interval with
      | some interval => [(.ticker, nextTick interval.millis 0)]
      | none => []
    lockers := []
    granted := none
    wanting := none
    got := [] }

/-- Streams a body. A piece takes part in less than thirty-two steps. -/
def stream (pool : BufferPool) (interval : Option Duration) (pieces : List TimedPiece)
    (limit : Option Nat) : Delivered :=
  let m := drive limit ((interval.map Duration.millis).getD 0) (32 * (pieces.length + 3))
    (start pool interval pieces limit)
  { frames := m.got.reverse.map fun (at_, frame) ↦ (⟨at_⟩, frame)
    pulled := pieces.length - m.stream.source.length
    pool := m.stream.pool }

/-! ## What happens in time can happen

A step in time is a row of events of the stream; so a delivery comes to where some row of events
leads.
-/

namespace Moment

@[simp] theorem stream_grant (m : Moment) : m.grant.stream = m.stream := by
  unfold grant
  split
  · split <;> rfl
  · rfl

@[simp] theorem stream_makeRoom (m : Moment) : m.makeRoom.stream = m.stream := by
  unfold makeRoom
  split
  · split <;> rfl
  · rfl

@[simp] theorem stream_callOff (m : Moment) : m.callOff.stream = m.stream := by
  unfold callOff
  split <;> rfl

@[simp] theorem stream_moved (m : Moment) (s : Stream) : (m.moved s).stream = s := by
  simp [moved]

@[simp] theorem stream_rest (m : Moment) (interval : Nat) :
    (m.rest interval).stream = m.stream := by
  unfold rest
  split <;> rfl

/-- A task that goes on makes an event happen at most. -/
theorem reaches_go (m : Moment) (p : Party) (left : Nat) (e : Stream.Event) :
    m.stream.Reaches (m.go p left e).stream := by
  unfold go
  split
  · next s h =>
    rw [stream_moved]
    exact .of_step h
  · exact .refl _

/-- A task that takes the lock makes an event happen at most. -/
theorem reaches_lockBy (m : Moment) (p : Party) (left : Nat) (e : Stream.Event) :
    m.stream.Reaches (m.lockBy p left e).stream := by
  unfold lockBy
  split
  · exact reaches_go { m with granted := none } p left e
  · exact .refl _

/-- A task that sends makes an event happen at most. -/
theorem reaches_sendBy (m : Moment) (p : Party) (left : Nat) (e : Stream.Event) :
    m.stream.Reaches (m.sendBy p left e).stream := by
  unfold sendBy
  split
  · next s h =>
    rw [stream_moved]
    exact .of_step h
  · exact .refl _

/-- A copier that takes a piece, or waits for it, makes an event happen at most. -/
theorem reaches_readAt (m : Moment) (left time : Nat) :
    m.stream.Reaches (m.readAt left time).stream := by
  unfold readAt
  split
  · exact reaches_go { m with waits := m.waits.drop 1, due := none } .copier left .read
  · exact .refl _

/-- A turn of the copier makes one event happen at a time. -/
theorem reaches_copy (m : Moment) (left : Nat) : m.stream.Reaches (m.copy left).stream := by
  unfold copy
  split
  · split
    · split
      · exact .refl _
      · exact reaches_readAt m _ _
    · exact reaches_go { m with waits := m.waits.drop 1, due := none } .copier left .read
  · split
    · exact .refl _
    · exact reaches_lockBy m _ _ _
  · split
    · exact .refl _
    · exact reaches_lockBy m _ _ _
  · split
    · exact .refl _
    · exact reaches_sendBy m _ _ _
  · split
    · exact .refl _
    · exact reaches_sendBy m _ _ _
  · split
    · exact .refl _
    · exact reaches_sendBy m _ _ _
  · exact .refl _
  · exact .refl _

/-- A turn of the ticker makes one event happen at a time. -/
theorem reaches_tick (m : Moment) (interval left : Nat) :
    m.stream.Reaches (m.tick interval left).stream := by
  unfold tick
  split
  · exact reaches_go m.release _ _ _
  · split
    · exact reaches_go _ _ _ _
    · rw [stream_rest]
      exact reaches_lockBy _ _ _ _
    · rw [stream_rest]
      exact reaches_sendBy _ _ _ _
    · exact .refl _

/-- A caller who takes a frame makes an event happen. -/
theorem reaches_receive {m n : Moment} (h : m.receive? = some n) :
    m.stream.Reaches n.stream := by
  unfold receive? at h
  split at h
  · cases h
  · obtain ⟨s, hs, rfl⟩ := Option.map_eq_some_iff.mp h
    rw [stream_moved]
    exact .of_step hs

/-- A caller who takes frames makes one event happen after another. -/
theorem reaches_receiveUpTo (n : Nat) (m : Moment) :
    m.stream.Reaches (m.receiveUpTo n).stream := by
  induction n generalizing m with
  | zero => exact .refl _
  | succ n ih =>
    unfold receiveUpTo
    split
    · exact .refl _
    · next m' h => exact (reaches_receive h).trans (ih m')

/-- A caller who goes makes an event happen. -/
theorem reaches_part (limit : Option Nat) (m : Moment) :
    m.stream.Reaches (m.part limit).stream := by
  unfold part
  split
  · split
    · next s h =>
      rw [stream_moved]
      exact .of_step h
    · exact .refl _
  · exact .refl _

/-- The next thing that happens is a row of events. -/
theorem reaches_next {limit : Option Nat} {interval : Nat} {m n : Moment}
    (h : m.next? limit interval = some n) : m.stream.Reaches n.stream := by
  unfold next? at h
  split at h
  · next p left _ =>
    cases h
    cases p with
    | copier => exact reaches_copy m left
    | ticker => exact reaches_tick m interval left
  · cases h
    exact .refl _
  · cases ht : m.take? limit with
    | some n' =>
      obtain rfl : n' = n := by simpa [ht] using h
      unfold take? at ht
      dsimp only at ht
      split at ht
      · cases ht
      · cases ht
        exact (reaches_receiveUpTo _ m.resume).trans (reaches_part limit _)
    | none =>
      cases hr : m.resume? with
      | some n' =>
        obtain rfl : n' = n := by simpa [ht, hr] using h
        unfold resume? at hr
        split at hr
        · cases hr
        · cases hr
          exact .refl _
      | none =>
        have hw : m.wait? interval = some n := by simpa [ht, hr] using h
        obtain ⟨time, -, rfl⟩ := Option.map_eq_some_iff.mp hw
        exact .refl _

end Moment

/-- A delivery comes to where some row of events leads. -/
theorem reaches_drive (limit : Option Nat) (interval fuel : Nat) (m : Moment) :
    m.stream.Reaches (drive limit interval fuel m).stream := by
  induction fuel generalizing m with
  | zero => exact .refl _
  | succ fuel ih =>
    unfold drive
    split
    · exact .refl _
    · next n h => exact (Moment.reaches_next h).trans (ih n)

private theorem reaches_start (pool : BufferPool) (interval : Option Duration)
    (pieces : List TimedPiece) (limit : Option Nat) :
    (Stream.start interval.isSome pool (pieces.map Prod.snd)).Reaches
      (start pool interval pieces limit).stream := by
  unfold start
  dsimp only
  split
  · cases h : (Stream.start interval.isSome pool (pieces.map Prod.snd)).step .leave with
    | some s => exact .of_step h
    | none => exact .refl _
  · exact .refl _

/-- Whatever the times, a delivery comes to where some row of events leads from the start of its
stream. -/
theorem reaches_delivery (pool : BufferPool) (interval : Option Duration) (pieces : List TimedPiece)
    (limit : Option Nat) (millis fuel : Nat) :
    (Stream.start interval.isSome pool (pieces.map Prod.snd)).Reaches
      (drive limit millis fuel (start pool interval pieces limit)).stream :=
  (reaches_start pool interval pieces limit).trans (reaches_drive limit millis fuel _)

/-! ## Bodies in one piece, and heads -/

/-- A body that cannot be read to its end. -/
def unreadable (why : String) : GatewayError :=
  .transport .clientNetError ("read backend body: " ++ why)

/-- The pieces up to the first that says that the body cannot be read, and why. -/
def readable : List TimedPiece → List TimedPiece × Option String
  | [] => ([], none)
  | (_, .failure why) :: _ => ([], some why)
  | piece :: pieces =>
    let (before, why) := readable pieces
    (piece :: before, why)

/-- The data of a piece. -/
def Piece.bytes : Piece → Bytes
  | .data d => d
  | .trailers _ | .failure _ => []

/-- Trailers so far, taking in a piece. -/
def mergePiece (merged : Option HeaderMap) : Piece → Option HeaderMap
  | .trailers t => Frame.mergeTrailers merged (.trailers t)
  | .data _ | .failure _ => merged

/-- The frames of a body that goes out in one piece. -/
def framed (pieces : List Piece) : List Frame :=
  let data := pieces.flatMap Piece.bytes
  match pieces.foldl mergePiece none with
  | none => if data.isEmpty then [] else [.data data]
  | some trailers => [.data data, .trailers trailers]

/-- Delivers a body in one piece, at the time when all of it is there. -/
def whole (pool : BufferPool) (pieces : List TimedPiece) (limit : Option Nat) :
    Except GatewayError Delivered × Nat :=
  let (before, why) := readable pieces
  match why with
  | some why => (.error (unreadable why), before.length + 1)
  | none =>
    let time : Duration :=
      ⟨before.foldl (fun n piece ↦ n + (piece.1.map Duration.millis).getD 0) 0⟩
    let frames := framed (before.map Prod.snd)
    let frames := frames.take (limit.getD frames.length)
    (.ok ⟨frames.map fun f ↦ (time, f), before.length, pool⟩, before.length)

/-- Delivers a body by a policy. Also tells how many pieces were taken from the backend. -/
def under (pool : BufferPool) (pieces : List TimedPiece) (limit : Option Nat) :
    FlushPolicy → Except GatewayError Delivered × Nat
  | .framed => whole pool pieces limit
  | .immediate =>
    let delivered := stream pool none pieces limit
    (.ok delivered, delivered.pulled)
  | .periodic interval =>
    let delivered := stream pool (some interval) pieces limit
    (.ok delivered, delivered.pulled)

end Delivery

/-- A response that is forwarded: its head, and what the caller gets of the body. -/
structure ForwardedResponse where
  head : ForwardedHead
  delivered : Delivered

namespace ForwardedResponse

/-- Forwards a backend's response to a caller who takes all of the body, or so many frames of it.
Also tells how many pieces were taken from the backend. -/
def ofBackend (pool : BufferPool) (interval : Duration) (response : BackendResponse)
    (limit : Option Nat) : Except GatewayError ForwardedResponse × Nat :=
  let head := ForwardedHead.ofBackend response.status response.version response.headers
    response.exact interval
  let (result, pulled) := Delivery.under pool response.pieces limit head.policy
  (result.map fun delivered ↦ ⟨head, delivered⟩, pulled)

end ForwardedResponse
end HttpGateway
