import HttpGateway.Proofs.Stream.Moves

/-!
# Where the data of a stream are

While the caller stays, the data of a body are spread over a stream in the order in which they reach
the caller: what the caller has, what is in the queue, the chunk of whoever has the lock, the
buffer, the data that wait for the lock, and what the backend has still to yield. Every move only
carries data along this row, with one exception: a ticker that is dropped in the middle of a send
takes its chunk with it. That chunk is the last of the body, for the copier has come to the end then
and the buffer is empty.
-/

namespace HttpGateway

/-- The data that pieces yield before the body ends or fails. -/
def Piece.dataOf : List Piece → Bytes
  | [] => []
  | .data d :: rest => d ++ dataOf rest
  | .trailers _ :: rest => dataOf rest
  | .failure _ :: _ => []

namespace Copier

/-- A copier without the lock has no chunk. -/
theorem chunk_of_hasLock {c : Copier} (h : c.hasLock = false) : c.chunk = [] := by
  cases c with
  | sending c => cases h
  | flushing c => cases h
  | reading => rfl
  | holding d => rfl
  | finishing => rfl
  | trailing => rfl
  | ended => rfl
  | failed => rfl

/-- A copier with the lock is alone. -/
theorem hasLock_of_isAlone {c : Copier} (h : c.isAlone = false) : c.hasLock = false := by
  cases c with
  | sending c => cases h
  | flushing c => cases h
  | reading => rfl
  | holding d => rfl
  | finishing => rfl
  | trailing => rfl
  | ended => rfl
  | failed => rfl

/-- Only a copier on its way through the body has data that wait for the lock. -/
theorem held_of_isCopying {c : Copier} (h : c.isCopying = false) : c.held = [] := by
  cases c with
  | holding d => cases h
  | sending c => rfl
  | flushing c => rfl
  | reading => rfl
  | finishing => rfl
  | trailing => rfl
  | ended => rfl
  | failed => rfl

end Copier

namespace Stream

/-- The data that the backend has still to yield. -/
def toCome (s : Stream) : Bytes := if s.copier.isCopying then Piece.dataOf s.source else []

/-- The data that the caller has. -/
def receivedData (s : Stream) : Bytes := s.received.flatMap Frame.bytes

/-- The data of a stream, in the order in which they reach the caller. -/
def flow (s : Stream) : Bytes :=
  s.receivedData ++ s.queue.flatMap Frame.bytes ++ (s.copier.chunk ++ s.ticker.chunk) ++
    s.buffer.content ++ s.copier.held ++ s.toCome

/-- The chunk that a ticker takes with it when it is dropped. -/
def loss (s : Stream) : Event → Bytes
  | .drop => s.ticker.chunk
  | .read | .lock | .send | .tick | .grab | .push | .receive | .leave => []

/-- At the start all data are with the backend. -/
theorem flow_start {pool : BufferPool} (clean : pool.IsClean) (source : List Piece) :
    (start true pool source).flow = Piece.dataOf source := by
  have empty : (start true pool source).buffer.content = [] := clean.content_get
  rw [flow, empty]
  simp [start, receivedData, toCome, Copier.chunk, Copier.held, Copier.isCopying, Ticker.chunk]

private theorem chunks_of_lockFree {s : Stream} (free : s.lockFree = true) :
    s.copier.chunk = [] ∧ s.ticker.chunk = [] :=
  have hl := (lockFree_iff s).mp free
  ⟨Copier.chunk_of_hasLock hl.1, Ticker.chunk_of_hasLock hl.2⟩

/-- While a ticker has the lock, the copier has no chunk. -/
theorem Coherent.chunk_of_ticker {s : Stream} (h : s.Coherent) (ht : s.ticker.hasLock = true) :
    s.copier.chunk = [] := by
  apply Copier.chunk_of_hasLock
  apply Copier.hasLock_of_isAlone
  cases ha : s.copier.isAlone with
  | false => rfl
  | true =>
    rw [(h.alone ha).1] at ht
    cases ht

private theorem flow_giveBack (s : Stream) :
    s.giveBack.flow = s.receivedData ++ s.queue.flatMap Frame.bytes ++ s.ticker.chunk := by
  have hq : s.giveBack.receivedData ++ s.giveBack.queue.flatMap Frame.bytes =
    s.receivedData ++ s.queue.flatMap Frame.bytes := rfl
  have hb : s.giveBack.buffer.content = [] := rfl
  have ht : s.giveBack.ticker = s.ticker := rfl
  rcases copier_giveBack s with hc | hc
  · simp only [flow, toCome, hq, hb, ht, hc, Copier.chunk, Copier.held, Copier.isCopying]
    simp
  · simp only [flow, toCome, hq, hb, ht, hc, Copier.chunk, Copier.held, Copier.isCopying]
    simp

private theorem flow_finish {s : Stream} (timed : s.timed = true) :
    s.finish.flow = s.receivedData ++ s.queue.flatMap Frame.bytes ++ s.ticker.chunk ++
      s.buffer.content := by
  rw [finish_of_timed timed]
  simp [flow, toCome, receivedData, Copier.chunk, Copier.held, Copier.isCopying]

/-- A move carries the data along, but for a chunk that is dropped. -/
theorem flow_move {s t : Stream} {e : Event} (h : s.Coherent) (m : Move s e t)
    (stays : t.gone = false) : s.flow = t.flow ++ s.loss e := by
  cases m with
  | readEnd hc hs =>
    rw [flow_finish h.timed]
    simp [flow, toCome, loss, hc, hs, Copier.chunk, Copier.held, Piece.dataOf]
  | readFailure why rest hc hs =>
    rw [flow_finish (s := { s with source := rest }) h.timed]
    simp [flow, toCome, loss, receivedData, hc, hs, Copier.chunk, Copier.held, Piece.dataOf]
  | readData d rest hc hs =>
    simp [flow, toCome, loss, receivedData, hc, hs, Copier.chunk, Copier.held, Copier.isCopying,
      Piece.dataOf]
  | readTrailers tr rest hc hs =>
    simp [flow, toCome, loss, receivedData, hc, hs, Piece.dataOf]
  | fill d free hc _ =>
    have ticker := (chunks_of_lockFree free).2
    simp [flow, toCome, loss, receivedData, hc, ticker, Copier.chunk, Copier.held,
      Copier.isCopying, Buffer.clear]
  | keep d free hc _ =>
    simp [flow, toCome, loss, receivedData, hc, Copier.chunk, Copier.held, Copier.isCopying]
  | close free hc he =>
    rw [flow_giveBack]
    simp [flow, toCome, loss, hc, he, Copier.chunk, Copier.held, Copier.isCopying]
  | flush free hc _ =>
    have ticker := (chunks_of_lockFree free).2
    simp [flow, toCome, loss, receivedData, hc, ticker, Copier.chunk, Copier.held,
      Copier.isCopying, Buffer.clear]
  | sendGone _ hg =>
    have stays : s.gone = false := stays
    rw [hg] at stays
    cases stays
  | sendChunk c hc _ _ =>
    have ha := h.alone (by rw [hc]; rfl)
    have ticker := Ticker.chunk_of_hasLock ha.1
    simp [flow, toCome, loss, receivedData, hc, ticker, ha.2, enqueue, Copier.chunk, Copier.held,
      Copier.isCopying, Frame.bytes]
  | sendRest c hc _ _ =>
    have ha := h.alone (by rw [hc]; rfl)
    have ticker := Ticker.chunk_of_hasLock ha.1
    rw [flow_giveBack]
    simp [flow, toCome, loss, receivedData, hc, ticker, ha.2, enqueue, Copier.chunk, Copier.held,
      Copier.isCopying, Frame.bytes]
  | sendTrailers hc _ _ =>
    simp [flow, toCome, loss, receivedData, hc, enqueue, Copier.chunk, Copier.held,
      Copier.isCopying, Frame.bytes]
  | wake ht => simp [flow, toCome, loss, receivedData, ht, Ticker.chunk]
  | grabNothing _ ht _ => simp [flow, toCome, loss, receivedData, ht, Ticker.chunk]
  | grab free ht _ =>
    have copier := (chunks_of_lockFree free).1
    simp [flow, toCome, loss, receivedData, ht, copier, Ticker.chunk, Buffer.clear]
  | pushGone c _ hg =>
    have stays : s.gone = false := stays
    rw [hg] at stays
    cases stays
  | push c ht _ _ =>
    have hl : s.ticker.hasLock = true := by rw [ht]; rfl
    have copier := h.chunk_of_ticker hl
    simp [flow, toCome, loss, receivedData, ht, copier, (h.loaded hl).2, enqueue, Ticker.chunk,
      Frame.bytes]
  | drop hs _ =>
    have off : Ticker.off.chunk = [] := rfl
    cases hl : s.ticker.hasLock with
    | false =>
      have ticker := Ticker.chunk_of_hasLock hl
      simp [flow, toCome, loss, receivedData, ticker, off]
    | true =>
      -- the body is over and the copier waits for the lock, with nothing behind the chunk
      have copying : s.copier.isCopying = false := by
        have hs := h.stopped ▸ hs
        simpa using hs
      have copier := h.chunk_of_ticker hl
      have held := Copier.held_of_isCopying copying
      simp [flow, toCome, loss, receivedData, copying, copier, held, (h.loaded hl).2, off]
  | receive f rest _ hq => simp [flow, toCome, loss, receivedData, hq]
  | leave _ => cases stays

end Stream
end HttpGateway
