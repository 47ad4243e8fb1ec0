import HttpGateway.Proofs.Buffers.Pool
import HttpGateway.Proofs.Stream.Flow

/-!
# What the lock is for

Copier and ticker take the content out of one buffer and send it through one queue. As long as the
copier has not come to the end of the body and the caller is there, what the caller has, what is
queued, the chunk of whoever has the lock and the buffer are together what has been written into the
buffer, in this order. At all times the caller has a beginning of the body's data, the buffer holds
less than is sent at once, no data frame is empty and the trailers are the last frame, also where
the ticker has been told to stop and goes on for a while.
-/

namespace HttpGateway

namespace Frame

/-- Frames as a caller may get them: none of data is empty, and only the last may be trailers. -/
structure Ordered (frames : List Frame) : Prop where
  full : .data [] ∉ frames
  last : ∀ fields, .trailers fields ∉ frames.dropLast

namespace Ordered

variable {frames : List Frame}

/-- A frame of data may follow where there are no trailers yet. -/
theorem concat_data (h : Ordered frames) (early : ∀ fields, .trailers fields ∉ frames) {c : Bytes}
    (full : c ≠ []) : Ordered (frames ++ [.data c]) := by
  refine ⟨?_, fun fields ↦ ?_⟩
  · rw [List.mem_append, not_or, List.mem_singleton, Frame.data.injEq]
    exact ⟨h.full, full.symm⟩
  · rw [List.dropLast_concat]
    exact early fields

/-- So may the trailers. -/
theorem concat_trailers (h : Ordered frames) (early : ∀ fields, .trailers fields ∉ frames)
    (fields : HeaderMap) : Ordered (frames ++ [.trailers fields]) := by
  refine ⟨?_, fun other ↦ ?_⟩
  · rw [List.mem_append, not_or, List.mem_singleton]
    exact ⟨h.full, nofun⟩
  · rw [List.dropLast_concat]
    exact early other

end Ordered
end Frame

namespace Stream

/-- The frames that have been sent. -/
def sent (s : Stream) : List Frame := s.received ++ s.queue

/-- The data on their way from the buffer to the caller, in the order in which they arrive. -/
def carried (s : Stream) : Bytes :=
  s.receivedData ++ s.queue.flatMap Frame.bytes ++ (s.copier.chunk ++ s.ticker.chunk) ++
    s.buffer.content

/-- The data that have not come to the buffer. -/
def pending (s : Stream) : Bytes := s.copier.held ++ s.toCome

/-- The data that the copier writes into the buffer by an event. -/
def writtenBy (s : Stream) : Event → Bytes
  | .lock => s.copier.held
  | .read | .send | .tick | .grab | .push | .drop | .receive | .leave => []

/-- The data that the copier writes into the buffer in a run. -/
def written (s : Stream) : List Event → Bytes
  | [] => []
  | e :: es => s.writtenBy e ++ ((s.step e).map fun t ↦ t.written es).getD []

/-! ## What the buffer has taken in -/

private theorem flow_eq (s : Stream) : s.flow = s.carried ++ s.pending := by
  unfold flow carried pending
  rw [List.append_assoc]

/-- The end of a body tells the ticker to stop. -/
@[simp] theorem stopped_finish (s : Stream) : s.finish.stopped = true := by
  unfold finish
  split <;> rfl

/-- A ticker that was told to stop is not told otherwise. -/
theorem stopped_of_move {s t : Stream} {e : Event} (m : Move s e t) (hs : s.stopped = true) :
    t.stopped = true := by
  cases m with
  | readEnd _ _ => exact stopped_finish s
  | readFailure why rest _ _ => exact stopped_finish _
  | sendGone _ _ => rfl
  | _ => exact hs

/-- Where the ticker has not been told to stop, it has not been told so before. -/
theorem copies_of_run {s t : Stream} {es : List Event} (h : s.Coherent) (run : s.run? es = some t)
    (copies : t.stopped = false) : s.stopped = false := by
  cases hs : s.stopped with
  | false => rfl
  | true =>
    have stopped := (run?_induction (p := fun s ↦ s.stopped = true)
      (fun _ hs m ↦ stopped_of_move m hs) h hs run).2
    rw [copies] at stopped
    cases stopped

/-- What has not come to the buffer is what is written by a move and what has not come to it
then. -/
theorem pending_move {s t : Stream} {e : Event} (m : Move s e t) (copies : t.stopped = false) :
    s.pending = s.writtenBy e ++ t.pending := by
  cases m with
  | readEnd _ _ => rw [stopped_finish] at copies; cases copies
  | readFailure why rest _ _ => rw [stopped_finish] at copies; cases copies
  | sendGone _ _ => cases copies
  | readData d rest hc hs =>
    simp [pending, writtenBy, toCome, hc, hs, Copier.held, Copier.isCopying, Piece.dataOf]
  | readTrailers tr rest hc hs =>
    simp [pending, writtenBy, toCome, hc, hs, Piece.dataOf]
  | fill d _ hc _ => simp [pending, writtenBy, toCome, hc, Copier.held, Copier.isCopying]
  | keep d _ hc _ => simp [pending, writtenBy, toCome, hc, Copier.held, Copier.isCopying]
  | close _ hc _ =>
    rcases copier_giveBack s with ht | ht <;>
      simp [pending, writtenBy, toCome, hc, ht, Copier.held, Copier.isCopying]
  | flush _ hc _ => simp [pending, writtenBy, toCome, hc, Copier.held, Copier.isCopying]
  | sendChunk c hc _ _ =>
    simp [pending, writtenBy, toCome, hc, enqueue, Copier.held, Copier.isCopying]
  | sendRest c hc _ _ =>
    rcases copier_giveBack (s.enqueue (.data c)) with ht | ht <;>
      simp [pending, writtenBy, toCome, hc, ht, Copier.held, Copier.isCopying]
  | sendTrailers hc _ _ =>
    simp [pending, writtenBy, toCome, hc, Copier.held, Copier.isCopying]
  | _ => rfl

/-- While the copier is on its way through the body, a move carries along what is there and adds
what is written. -/
theorem carried_move {s t : Stream} {e : Event} (h : s.Coherent) (m : Move s e t)
    (copies : t.stopped = false) (stays : t.gone = false) :
    t.carried = s.carried ++ s.writtenBy e := by
  have along := flow_move h m stays
  have complete : s.loss e = [] := by
    cases m with
    | drop hs _ =>
      -- only a ticker that was told to stop is dropped
      have copies : s.stopped = false := copies
      rw [hs] at copies
      cases copies
    | _ => rfl
  rw [complete, List.append_nil, flow_eq, flow_eq, pending_move m copies, ← List.append_assoc]
    at along
  exact (List.append_cancel_right along).symm

/-- So does a run. -/
theorem carried_run {s t : Stream} {es : List Event} (h : s.Coherent) (run : s.run? es = some t)
    (copies : t.stopped = false) (stays : t.gone = false) :
    t.carried = s.carried ++ s.written es := by
  induction es generalizing s with
  | nil =>
    cases run
    exact (List.append_nil _).symm
  | cons e es ih =>
    obtain ⟨u, hu, onward⟩ := Option.bind_eq_some_iff.mp run
    have m := move_of_step h.timed hu
    have next := h.move m
    have first := carried_move h m (copies_of_run next onward copies)
      (stays_of_run next onward stays)
    rw [ih next onward, first, written, hu, Option.map_some, Option.getD_some, List.append_assoc]

/-! ## What the caller has -/

/-- The caller has a beginning of some data, and for a caller who is there all data of the stream
are one. -/
structure Begins (data : Bytes) (s : Stream) : Prop where
  flow : s.gone = false → s.flow <+: data
  received : s.receivedData <+: data

/-- A caller who has gone gets nothing more. -/
theorem received_of_move {s t : Stream} {e : Event} (m : Move s e t) (gone : t.gone = true) :
    t.received = s.received := by
  cases m with
  | readEnd _ _ =>
    unfold finish
    split <;> rfl
  | readFailure why rest _ _ =>
    unfold finish
    split <;> rfl
  | receive f rest stays _ => exact absurd gone (stays ▸ Bool.false_ne_true)
  | _ => rfl

/-- What the caller has is at the front of the data of a stream. -/
theorem received_prefix_flow (s : Stream) : s.receivedData <+: s.flow := by
  simp only [flow, List.append_assoc]
  exact List.prefix_append _ _

/-- A move keeps what the caller has a beginning. -/
theorem Begins.move {data : Bytes} {s t : Stream} {e : Event} (b : Begins data s) (h : s.Coherent)
    (m : Move s e t) : Begins data t := by
  have flow : t.gone = false → t.flow <+: data := by
    intro stays
    have before : s.gone = false :=
      Bool.not_eq_true _ ▸ fun gone ↦ absurd (gone_of_move m gone) (stays ▸ Bool.false_ne_true)
    refine List.IsPrefix.trans ?_ (b.flow before)
    rw [flow_move h m stays]
    exact List.prefix_append _ _
  refine ⟨flow, ?_⟩
  cases hg : t.gone with
  | false => exact (received_prefix_flow t).trans (flow hg)
  | true =>
    unfold receivedData
    rw [received_of_move m hg]
    exact b.received

/-! ## What is sent -/

/-- What a stream under a timer keeps about its buffer and the frames that it sends. -/
structure Tidy (n : Nat) (s : Stream) : Prop where
  size : s.pool.size = n
  small : s.buffer.content.length < n
  /-- A copier with the lock has something to send. -/
  loaded : s.copier.hasLock = true → s.copier.chunk ≠ []
  ordered : Frame.Ordered s.sent
  /-- Until the copier has come to its end no trailers are sent. -/
  early : s.copier = .ended ∨ ∀ fields, .trailers fields ∉ s.sent

namespace Tidy

variable {n : Nat} {s t : Stream}

private theorem sent_enqueue (s : Stream) (f : Frame) : (s.enqueue f).sent = s.sent ++ [f] :=
  (List.append_assoc s.received s.queue [f]).symm

/-- Until the copier has come to its end no trailers are sent. -/
theorem no_trailers (h : Tidy n s) (busy : s.copier ≠ .ended) :
    ∀ fields, .trailers fields ∉ s.sent :=
  h.early.resolve_left busy

/-- An empty buffer is small. -/
theorem positive (h : Tidy n s) : 0 < n := Nat.zero_lt_of_lt h.small

private theorem finish (h : Tidy n s) (busy : s.copier ≠ .ended) (pool : t.pool = s.pool)
    (buffer : t.buffer = s.buffer) (sent : t.sent = s.sent) (timed : t.timed = true) :
    Tidy n t.finish := by
  rw [finish_of_timed timed]
  have same : { t with stopped := true, copier := .finishing }.sent = s.sent := sent
  refine ⟨?_, ?_, nofun, ?_, .inr ?_⟩
  · exact pool ▸ h.size
  · exact buffer ▸ h.small
  · exact same ▸ h.ordered
  · rw [same]
    exact h.no_trailers busy

private theorem giveBack (size : s.pool.size = n) (positive : 0 < n)
    (ordered : Frame.Ordered s.sent) (early : ∀ fields, .trailers fields ∉ s.sent) :
    Tidy n s.giveBack := by
  refine ⟨(BufferPool.size_put s.pool s.buffer).trans size, positive, ?_, ordered, .inr early⟩
  rcases copier_giveBack s with hc | hc <;> rw [hc] <;> exact nofun

private theorem sendData (h : Tidy n s) (busy : s.copier ≠ .ended) {c : Bytes} (full : c ≠ []) :
    Frame.Ordered (s.enqueue (.data c)).sent ∧
      ∀ fields, .trailers fields ∉ (s.enqueue (.data c)).sent := by
  have early := h.no_trailers busy
  rw [sent_enqueue]
  refine ⟨h.ordered.concat_data early full, fun fields mem ↦ ?_⟩
  rcases List.mem_append.mp mem with before | now
  · exact early fields before
  · cases List.mem_singleton.mp now

/-- A move keeps the buffer small and the frames in order. -/
theorem move {e : Event} (h : Tidy n s) (coherent : s.Coherent) (m : Move s e t) :
    Tidy n t := by
  have busy : ∀ {c : Copier}, s.copier = c → c ≠ .ended → s.copier ≠ .ended :=
    fun hc ne he ↦ ne (hc.symm.trans he)
  cases m with
  | readEnd hc _ => exact h.finish (busy hc nofun) rfl rfl rfl coherent.timed
  | readFailure why rest hc _ => exact h.finish (busy hc nofun) rfl rfl rfl coherent.timed
  | readData d rest hc _ =>
    exact ⟨h.size, h.small, nofun, h.ordered, .inr (h.no_trailers (busy hc nofun))⟩
  | readTrailers tr rest hc _ => exact ⟨h.size, h.small, h.loaded, h.ordered, h.early⟩
  | fill d _ hc large =>
    -- the size is positive, so a chunk of that size is not empty
    have full : s.buffer.content ++ d ≠ [] := by
      rw [h.size] at large
      exact List.ne_nil_of_length_pos (Nat.lt_of_lt_of_le h.positive large)
    exact ⟨h.size, h.positive, fun _ ↦ full, h.ordered, .inr (h.no_trailers (busy hc nofun))⟩
  | keep d _ hc small =>
    refine ⟨h.size, ?_, nofun, h.ordered, .inr (h.no_trailers (busy hc nofun))⟩
    rw [Buffer.content_write, ← h.size]
    exact small
  | close _ hc _ =>
    exact giveBack h.size h.positive h.ordered (h.no_trailers (busy hc nofun))
  | flush _ hc full =>
    exact ⟨h.size, h.positive, fun _ ↦ full, h.ordered, .inr (h.no_trailers (busy hc nofun))⟩
  | sendGone hs _ =>
    refine ⟨h.size, h.small, nofun, h.ordered, .inr (h.no_trailers ?_)⟩
    intro ended
    rw [ended] at hs
    cases hs
  | sendChunk c hc _ _ =>
    have full := h.loaded (by rw [hc]; rfl)
    rw [hc] at full
    obtain ⟨ordered, early⟩ := h.sendData (busy hc nofun) full
    exact ⟨h.size, h.small, nofun, ordered, .inr early⟩
  | sendRest c hc _ _ =>
    have full := h.loaded (by rw [hc]; rfl)
    rw [hc] at full
    obtain ⟨ordered, early⟩ := h.sendData (busy hc nofun) full
    exact giveBack h.size h.positive ordered early
  | sendTrailers hc _ _ =>
    refine ⟨h.size, h.small, nofun, ?_, .inl rfl⟩
    change Frame.Ordered (s.enqueue (.trailers _)).sent
    rw [sent_enqueue]
    exact h.ordered.concat_trailers (h.no_trailers (busy hc nofun)) _
  | grab _ _ _ => exact ⟨h.size, h.positive, h.loaded, h.ordered, h.early⟩
  | push c ht _ _ =>
    -- a copier at its end leaves nothing in the buffer for a ticker that goes on
    have locked : s.ticker.hasLock = true := by rw [ht]; rfl
    have full := (coherent.loaded locked).1
    rw [ht] at full
    have going : s.copier ≠ .ended := by
      intro ended
      rw [(coherent.alone (by rw [ended]; rfl)).1] at locked
      cases locked
    obtain ⟨ordered, early⟩ := h.sendData going full
    exact ⟨h.size, h.small, h.loaded, ordered, .inr early⟩
  | receive f rest _ hq =>
    have same : { s with queue := rest, received := s.received ++ [f] }.sent = s.sent := by
      change s.received ++ [f] ++ rest = s.received ++ s.queue
      rw [hq, List.append_assoc]
      rfl
    refine ⟨h.size, h.small, h.loaded, ?_, ?_⟩
    · exact same ▸ h.ordered
    · rw [same]
      exact h.early
  | _ => exact ⟨h.size, h.small, h.loaded, h.ordered, h.early⟩

end Tidy

/-! ## All together -/

/-- At the start of a stream nothing is on its way. -/
theorem carried_start {pool : BufferPool} (clean : pool.IsClean) (source : List Piece) :
    (start true pool source).carried = [] := by
  have empty : (start true pool source).buffer.content = [] := clean.content_get
  unfold carried
  rw [empty]
  rfl

private theorem tidy_start {pool : BufferPool} (positive : 0 < pool.size) (clean : pool.IsClean)
    (source : List Piece) : Tidy pool.size (start true pool source) := by
  have empty : (start true pool source).buffer.content = [] := clean.content_get
  refine ⟨BufferPool.size_get pool, ?_, nofun, ⟨nofun, nofun⟩, .inr nofun⟩
  rw [empty]
  exact positive

private theorem begins_start {pool : BufferPool} (clean : pool.IsClean) (source : List Piece) :
    Begins (Piece.dataOf source) (start true pool source) := by
  refine ⟨fun _ ↦ ⟨[], ?_⟩, List.nil_prefix⟩
  rw [List.append_nil, flow_start clean]

/-- A stream under a timer, over a source, in which so much has been written into a buffer of a
size, keeps the discipline of the lock. -/
structure Disciplined (source : List Piece) (size : Nat) (written : Bytes) (s : Stream) : Prop where
  /-- Copier and ticker do not have the lock at the same time. -/
  exclusive : s.copier.hasLock = true → s.ticker.hasLock = false
  /-- Until the ticker is told to stop, and while the caller is there, what the caller has, what is
  queued, the chunk of whoever has the lock and the buffer are what has been written. -/
  accounted : s.stopped = false → s.gone = false →
    s.receivedData ++ s.queue.flatMap Frame.bytes ++ (s.copier.chunk ++ s.ticker.chunk) ++
      s.buffer.content = written
  /-- The caller has a beginning of the body's data. -/
  received : s.receivedData <+: Piece.dataOf source
  /-- While nobody has the lock, the buffer is not full. -/
  small : s.lockFree = true → s.buffer.content.length < size
  /-- No data frame that was sent is empty. -/
  full : .data [] ∉ s.sent
  /-- The trailers are the last frame that is sent: they are sent once, and no data follow. -/
  last : ∀ fields, .trailers fields ∉ s.sent.dropLast

/-- Whatever the parties do and in whatever order, and whether or not the caller stays, a stream
under a timer keeps the discipline of the lock. -/
theorem disciplined_of_run? {pool : BufferPool} (positive : 0 < pool.size) (clean : pool.IsClean)
    {source : List Piece} {es : List Event} {s : Stream}
    (run : (start true pool source).run? es = some s) :
    Disciplined source pool.size ((start true pool source).written es) s := by
  have start := coherent_start pool source
  have coherent := start.run run
  have tidy := (run?_induction (fun coherent tidy m ↦ Tidy.move tidy coherent m) start
    (tidy_start positive clean source) run).2
  constructor
  case exclusive =>
    intro locked
    refine (coherent.alone ?_).1
    cases ha : s.copier.isAlone with
    | true => rfl
    | false =>
      rw [Copier.hasLock_of_isAlone ha] at locked
      cases locked
  case accounted =>
    intro copies stays
    have along := carried_run start run copies stays
    rwa [carried_start clean, List.nil_append] at along
  case received =>
    exact (run?_induction (fun coherent begins m ↦ Begins.move begins coherent m) start
      (begins_start clean source) run).2.received
  case small => exact fun _ ↦ tidy.small
  case full => exact tidy.ordered.full
  case last => exact tidy.ordered.last

/-- A body with trailers between its data. -/
def summedBody : List Piece :=
  [.data [97], .trailers (.append .empty .contentLength (.ofNat 4)), .data [98, 99, 100]]

/-- The ticker takes the lock for the first data, and the copier reads on. -/
def firstTick : List Event := [.read, .lock, .tick, .grab, .read, .read]

/-- The ticker goes on for two ticks after it has been told to stop. -/
def lateTicks : List Event :=
  [.push, .tick, .lock, .send, .read, .lock, .grab, .send, .tick, .grab, .receive, .leave]

/-- While the ticker has the lock, its chunk is all that has been written. A ticker that goes on
after the end of the body sends nothing behind the trailers. -/
theorem disciplined_lateTicks :
    ∃ s t, (start true (.ofSize 2) summedBody).run? firstTick = some s ∧
      s.ticker = .sending [97] ∧
      s.receivedData ++ s.queue.flatMap Frame.bytes ++ (s.copier.chunk ++ s.ticker.chunk) ++
        s.buffer.content = [97] ∧
      (start true (.ofSize 2) summedBody).run? (firstTick ++ lateTicks) = some t ∧
      t.stopped = true ∧ t.ticker = .sleeping ∧
      (∃ fields, t.sent = [.data [97], .data [98, 99, 100], .trailers fields]) ∧
      ∀ fields, .trailers fields ∉ t.sent.dropLast := by
  have clean := BufferPool.isClean_ofSize 2
  have first : (start true (.ofSize 2) summedBody).run? firstTick = some _ := rfl
  have last : (start true (.ofSize 2) summedBody).run? (firstTick ++ lateTicks) = some _ := rfl
  refine ⟨_, _, first, rfl, ?_, last, rfl, rfl, ⟨_, rfl⟩, ?_⟩
  · exact (disciplined_of_run? (by decide) clean first).accounted rfl rfl
  · exact (disciplined_of_run? (by decide) clean last).last

end Stream
end HttpGateway
