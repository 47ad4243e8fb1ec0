import HttpGateway.Duration
import HttpGateway.Forwarding.Relay

/-!
# Relays in time

A relay between two ends whose reads take time. The copy tasks have turns. A turn goes as far as
the task can go without waiting, but is bounded: each read that takes time, even none, and the
report are parts of it, and a task that has used up its turn has another one after all tasks that
wait for theirs. A task that waits for a read sets an alarm and has a turn when it goes off; of
alarms that go off at one time the one set first is first. The supervisor has its go when no task
waits for a turn. Time passes when nobody can go on.
-/

namespace HttpGateway.Relay

/-- A read to come, and the time that it takes; none if its bytes are there with those before. -/
abbrev TimedRead := Option Duration × ReadResult

/-- An end of a relay with the time that each of its reads takes. -/
structure TimedEnd where
  reads : List (Duration × ReadResult)
  hangs : Bool
  limit : Option Nat

/-- A copy task moves at most this many bytes at a time. -/
def chunkSize : Nat := 8192

/-- So many further pieces of bytes, each as large as can be moved at a time. -/
def pieces : Nat → Bytes → List Bytes
  | 0, _ => []
  | n + 1, b => b.take chunkSize :: pieces n (b.drop chunkSize)

/-- Bytes in chunks that can be moved at a time; the first takes the time given. -/
def chunks (wait : Duration) (b : Bytes) : List TimedRead :=
  let further := (b.length - 1) / chunkSize
  (some wait, .bytes (b.take chunkSize)) ::
    (pieces further (b.drop chunkSize)).map fun piece ↦ (none, .bytes piece)

/-- The bytes of a read. -/
def readBytes : TimedRead → Bytes
  | (_, .bytes b) => b
  | (_, .failure _) => []

/-- Pieces together are as much of the bytes as they can hold. -/
theorem flatten_pieces (n : Nat) (b : Bytes) : (pieces n b).flatten = b.take (n * chunkSize) := by
  induction n generalizing b with
  | zero => simp [pieces]
  | succ n ih => rw [pieces, List.flatten_cons, ih, Nat.succ_mul, Nat.add_comm, List.take_add]

/-- Chunks together are the bytes that they were made of. -/
theorem flatMap_chunks (wait : Duration) (b : Bytes) : (chunks wait b).flatMap readBytes = b := by
  have rest : (b.drop chunkSize).take ((b.length - 1) / chunkSize * chunkSize) =
      b.drop chunkSize := by
    apply List.take_of_length_le
    rw [List.length_drop]
    unfold chunkSize
    omega
  have pieces : ∀ ps : List Bytes,
      (ps.map fun p ↦ ((none, .bytes p) : TimedRead)).flatMap readBytes = ps.flatten := by
    intro ps
    induction ps with
    | nil => rfl
    | cons p ps ih => rw [List.map_cons, List.flatMap_cons, List.flatten_cons, ih, readBytes]
  rw [chunks, List.flatMap_cons, pieces, flatten_pieces, rest]
  exact List.take_append_drop chunkSize b

/-- The reads of an end, chunk by chunk. -/
def TimedEnd.chunked (e : TimedEnd) : List TimedRead :=
  e.reads.flatMap fun (wait, result) ↦
    match result with
    | .bytes b => chunks wait b
    | .failure why => [(some wait, .failure why)]

/-- The length of a turn; taking it up is a part of it. -/
def turn : Nat := 128

/-- A relay under way. -/
structure Moment where
  relay : Relay
  now : Nat
  /-- The times that the reads to come take. -/
  waits : Direction → List (Option Duration)
  /-- When the next read is there, if it has been asked for. -/
  due : Direction → Option Nat
  /-- The task that has its turn, and what is left of the turn. -/
  active : Option (Direction × Nat)
  /-- The tasks that wait for a turn. -/
  queue : List Direction
  /-- The tasks that have used up a turn and want another. -/
  yielded : List Direction
  /-- The alarms, in the order in which they were set. -/
  alarms : List (Direction × Nat)

/-- A value changed at one direction. -/
def update {α : Type} (f : Direction → α) (d : Direction) (a : α) : Direction → α :=
  fun x ↦ if x = d then a else f x

namespace Moment

/-- The turn at hand is over. -/
def pass (m : Moment) : Moment := { m with active := none }

/-- The turn at hand is used up. -/
def yield (m : Moment) (d : Direction) : Moment :=
  { m with active := none, yielded := m.yielded ++ [d] }

/-- The task that has its turn goes on by an event, or cannot. -/
def go (m : Moment) (d : Direction) (left : Nat) (e : Event) : Moment :=
  match m.relay.step e with
  | some r => { m with relay := r, active := some (d, left) }
  | none => m.pass

/-- The task reads, and is done with the time that the read took. -/
def readNext (m : Moment) (d : Direction) (left : Nat) : Moment :=
  { m with waits := update m.waits d ((m.waits d).drop 1), due := update m.due d none }.go d left
    (.copy d .read)

/-- The task reads at the given time, or sets an alarm. -/
def readAt (m : Moment) (d : Direction) (left time : Nat) : Moment :=
  if time ≤ m.now then m.readNext d left
  else { m with
    active := none
    due := update m.due d (some time)
    alarms := m.alarms ++ [(d, time)] }

/-- The task that has its turn does the next thing, or the turn ends. -/
def work (m : Moment) (d : Direction) (left : Nat) : Moment :=
  match (m.relay.task d).phase with
  | .moving [] false =>
    match m.waits d with
    | some wait :: _ =>
      if left = 0 then m.yield d
      else m.readAt d (left - 1) ((m.due d).getD (m.now + wait.millis))
    | _ => m.readNext d left
  | .moving [] true => m.go d left (.copy d .complete)
  | .moving unwritten _ =>
    if (m.relay.task d).sink.refuses unwritten.length then
      m.go d left (.copy d (.refuse "write failed"))
    else m.go d left (.copy d (.write unwritten.length))
  | .closing _ => m.go d left (.copy d .close)
  | .reporting _ => if left = 0 then m.yield d else m.go d (left - 1) (.report d)
  | .finished => m.pass
  | .stopped => m.pass

/-- The supervisor goes on, if it can. -/
def supervise? (m : Moment) : Option Moment :=
  (m.relay.step .collect <|> m.relay.step (.stop .toBackend) <|>
    m.relay.step (.stop .toCaller)).map fun r ↦ { m with relay := r }

/-- The tasks that have used up a turn have another. -/
def resume? (m : Moment) : Option Moment :=
  if m.yielded.isEmpty then none else some { m with queue := m.yielded, yielded := [] }

/-- Time passes until the next alarm. -/
def wait? (m : Moment) : Option Moment :=
  (m.alarms.map Prod.snd).min?.map fun time ↦
    { m with
      now := time
      queue := (m.alarms.filter fun alarm ↦ alarm.2 = time).map Prod.fst
      alarms := m.alarms.filter fun alarm ↦ alarm.2 ≠ time }

/-- The next thing that happens. -/
def next? (m : Moment) : Option Moment :=
  if m.relay.isOver then none
  else match m.active, m.queue with
    | some (d, left), _ => some (m.work d left)
    | none, d :: rest => some { m with active := some (d, turn - 1), queue := rest }
    | none, [] => m.supervise? <|> m.resume? <|> m.wait?

end Moment

/-- Everything that happens within so many steps. -/
def drive : Nat → Moment → Moment
  | 0, m => m
  | fuel + 1, m =>
    match m.next? with
    | none => m
    | some m => drive fuel m

/-- Relays between two ends; also tells when it ended. A read takes part in less than eight steps.
-/
def between (caller backend : TimedEnd) : Relay × Duration :=
  let up := caller.chunked
  let down := backend.chunked
  let relay : Relay := .start ⟨⟨up.map Prod.snd, caller.hangs⟩, caller.limit⟩
    ⟨⟨down.map Prod.snd, backend.hangs⟩, backend.limit⟩
  let waits (d : Direction) : List (Option Duration) := match d with
    | .toBackend => up.map Prod.fst
    | .toCaller => down.map Prod.fst
  let start : Moment :=
    { relay
      now := 0
      waits
      due := fun _ ↦ none
      active := none
      queue := [.toBackend, .toCaller]
      yielded := []
      alarms := [] }
  let m := drive (8 * (up.length + down.length) + 64) start
  (m.relay, ⟨m.now⟩)

/-! ## What happens in time can happen

A step in time is one event of the relay, or leaves the relay as it is; so a relay in time comes to
where some row of events leads.
-/

/-- The second relay is the first, or one event away from it. -/
def Follows (r s : Relay) : Prop := s = r ∨ ∃ e, r.step e = some s

/-- A task that goes on makes an event happen at most. -/
theorem Moment.follows_go (m : Moment) (d : Direction) (left : Nat) (e : Event) :
    Follows m.relay (m.go d left e).relay := by
  unfold Moment.go
  split
  · next r h => exact .inr ⟨e, h⟩
  · exact .inl rfl

/-- A turn makes one event happen at a time. -/
theorem Moment.follows_work (m : Moment) (d : Direction) (left : Nat) :
    Follows m.relay (m.work d left).relay := by
  unfold Moment.work
  split
  · split
    · split
      · exact .inl rfl
      · unfold Moment.readAt
        split
        · exact Moment.follows_go _ d _ _
        · exact .inl rfl
    · exact Moment.follows_go _ d _ _
  · exact Moment.follows_go _ d _ _
  · split
    · exact Moment.follows_go _ d _ _
    · exact Moment.follows_go _ d _ _
  · exact Moment.follows_go _ d _ _
  · split
    · exact .inl rfl
    · exact Moment.follows_go _ d _ _
  · exact .inl rfl
  · exact .inl rfl

/-- The supervisor makes one event happen at a time. -/
theorem Moment.follows_supervise {m n : Moment} (h : m.supervise? = some n) :
    Follows m.relay n.relay := by
  unfold Moment.supervise? at h
  obtain ⟨r, hr, rfl⟩ := Option.map_eq_some_iff.mp h
  cases h₁ : m.relay.step .collect with
  | some r₁ => exact .inr ⟨.collect, by simpa [h₁] using hr⟩
  | none =>
    cases h₂ : m.relay.step (.stop .toBackend) with
    | some r₂ => exact .inr ⟨.stop .toBackend, by simpa [h₁, h₂] using hr⟩
    | none => exact .inr ⟨.stop .toCaller, by simpa [h₁, h₂] using hr⟩

/-- The next thing that happens is one event at most. -/
theorem Moment.follows_next {m n : Moment} (h : m.next? = some n) : Follows m.relay n.relay := by
  unfold Moment.next? at h
  split at h
  · cases h
  · split at h
    · cases h; exact Moment.follows_work m _ _
    · cases h; exact .inl rfl
    · cases hs : m.supervise? with
      | some n' =>
        obtain rfl : n' = n := by simpa [hs] using h
        exact Moment.follows_supervise hs
      | none =>
        cases hr : m.resume? with
        | some n' =>
          obtain rfl : n' = n := by simpa [hs, hr] using h
          unfold Moment.resume? at hr
          split at hr
          · cases hr
          · cases hr; exact .inl rfl
        | none =>
          have hw : m.wait? = some n := by simpa [hs, hr] using h
          obtain ⟨t, -, rfl⟩ := Option.map_eq_some_iff.mp hw
          exact .inl rfl

/-- A relay in time comes to where some row of events leads. -/
theorem exists_run_drive (fuel : Nat) (m : Moment) :
    ∃ es, m.relay.run? es = some (drive fuel m).relay := by
  induction fuel generalizing m with
  | zero => exact ⟨[], rfl⟩
  | succ fuel ih =>
    unfold drive
    split
    · exact ⟨[], rfl⟩
    · next n h =>
      obtain ⟨es, hes⟩ := ih n
      rcases Moment.follows_next h with hn | ⟨e, he⟩
      · exact ⟨es, hn ▸ hes⟩
      · exact ⟨e :: es, by simp [run?, he, hes]⟩

end HttpGateway.Relay
