import HttpGateway.Proofs.Buffers.Pool
import HttpGateway.Proofs.Stream.Moves

/-!
# Whether the buffer comes back

A stream under a timer takes a buffer from the pool and gives it back when it has flushed what was
left in it, whether the body came to its end or could not be read any further. It does not when the
copier finds the caller gone while it sends data: then the copy ends at once and the buffer with it.
So of streams that follow each other over one pool, each leaves one idle buffer or none, and none
exactly if it gave up in this way.
-/

namespace HttpGateway

namespace Copier

/-- The copier has not given the buffer back. -/
def hasBuffer : Copier → Bool
  | .reading | .holding _ | .sending _ | .finishing | .flushing _ => true
  | .trailing | .ended | .failed => false

/-- A copier without the buffer does not have the lock. -/
theorem hasLock_of_hasBuffer {c : Copier} (h : c.hasBuffer = false) : c.hasLock = false := by
  cases c with
  | sending c => cases h
  | flushing c => cases h
  | reading => rfl
  | holding d => rfl
  | finishing => rfl
  | trailing => rfl
  | ended => rfl
  | failed => rfl

/-- A copier with the buffer that sends something has the lock. -/
theorem hasLock_of_isSending {c : Copier} (h : c.isSending = true) (holds : c.hasBuffer = true) :
    c.hasLock = true := by
  rcases cases_of_isSending h with ⟨chunk, rfl⟩ | ⟨chunk, rfl⟩ | rfl
  · rfl
  · rfl
  · cases holds

end Copier

namespace Stream

/-- The caller has gone while the copier sends data. -/
def IsAbandoned (s : Stream) : Prop := s.gone = true ∧ s.copier.hasLock = true

/-- In a run the copier finds the caller gone while it sends data, be it on the way through the body
or when it flushes what is left. -/
def LosesBuffer (s : Stream) (es : List Event) : Prop := s.Passes .send IsAbandoned es

/-- The stream has the buffer that it took, or one that has grown from it, and the pool is as it was
left. -/
structure HasBuffer (taken : Buffer) (left : BufferPool) (s : Stream) : Prop where
  copier : s.copier.hasBuffer = true
  pool : s.pool = left
  large : taken.capacity ≤ s.buffer.capacity

/-- The stream has no buffer, and leaves the pool as it is. -/
structure Leaves (pool : BufferPool) (s : Stream) : Prop where
  copier : s.copier.hasBuffer = false
  pool : s.pool = pool

section

variable {taken : Buffer} {left : BufferPool} {s t : Stream} {e : Event} {es : List Event}

private theorem leaves_giveBack (pool : s.pool = left) :
    Leaves (left.put s.buffer) s.giveBack := by
  refine ⟨?_, pool ▸ rfl⟩
  rcases copier_giveBack s with hc | hc <;> rw [hc] <;> rfl

private theorem HasBuffer.finish (h : HasBuffer taken left s) (timed : t.timed = true)
    (pool : t.pool = s.pool) (buffer : t.buffer = s.buffer) : HasBuffer taken left t.finish := by
  rw [finish_of_timed timed]
  exact ⟨rfl, pool.trans h.pool, buffer ▸ h.large⟩

/-- By a move a stream ends with its buffer if it is abandoned, and otherwise keeps the buffer or
gives it back. -/
theorem HasBuffer.move (h : HasBuffer taken left s) (timed : s.timed = true) (m : Move s e t) :
    (e = .send ∧ s.IsAbandoned) ∧ Leaves left t ∨
      ¬ (e = .send ∧ s.IsAbandoned) ∧
        (HasBuffer taken left t ∨
          ∃ b : Buffer, taken.capacity ≤ b.capacity ∧ Leaves (left.put b) t) := by
  have stays : s.gone = false → ¬ (e = .send ∧ s.IsAbandoned) :=
    fun stays lost ↦ absurd lost.2.1 (stays ▸ Bool.false_ne_true)
  have written (d : Bytes) : taken.capacity ≤ (s.buffer.write d).capacity :=
    Nat.le_trans h.large (s.buffer.capacity_le_write d)
  cases m with
  | readEnd _ _ => exact .inr ⟨nofun, .inl (h.finish timed rfl rfl)⟩
  | readFailure why rest _ _ => exact .inr ⟨nofun, .inl (h.finish timed rfl rfl)⟩
  | readData d rest _ _ => exact .inr ⟨nofun, .inl ⟨rfl, h.pool, h.large⟩⟩
  | fill d _ _ _ => exact .inr ⟨nofun, .inl ⟨rfl, h.pool, written d⟩⟩
  | keep d _ _ _ => exact .inr ⟨nofun, .inl ⟨rfl, h.pool, written d⟩⟩
  | close _ _ _ => exact .inr ⟨nofun, .inr ⟨s.buffer, h.large, leaves_giveBack h.pool⟩⟩
  | flush _ _ _ => exact .inr ⟨nofun, .inl ⟨rfl, h.pool, h.large⟩⟩
  | sendGone hs hg =>
    have locked := Copier.hasLock_of_isSending hs h.copier
    exact .inl ⟨⟨rfl, hg, locked⟩, rfl, h.pool⟩
  | sendChunk c _ hg _ => exact .inr ⟨stays hg, .inl ⟨rfl, h.pool, h.large⟩⟩
  | sendRest c _ hg _ =>
    have back := leaves_giveBack (s := s.enqueue (.data c)) h.pool
    exact .inr ⟨stays hg, .inr ⟨s.buffer, h.large, back⟩⟩
  | sendTrailers hc _ _ =>
    have holds := h.copier
    rw [hc] at holds
    cases holds
  | _ => exact .inr ⟨nofun, .inl ⟨h.copier, h.pool, h.large⟩⟩

/-- A stream without a buffer does nothing to the pool any more. -/
theorem Leaves.move {pool : BufferPool} (h : Leaves pool s) (m : Move s e t) : Leaves pool t := by
  have copier := h.copier
  have holds : ∀ {c : Copier}, s.copier = c → c.hasBuffer = true → False := by
    intro c hc holds
    rw [hc, holds] at copier
    cases copier
  cases m with
  | readEnd hc _ => exact (holds hc rfl).elim
  | readFailure why rest hc _ => exact (holds hc rfl).elim
  | readData d rest hc _ => exact (holds hc rfl).elim
  | readTrailers tr rest hc _ => exact (holds hc rfl).elim
  | fill d _ hc _ => exact (holds hc rfl).elim
  | keep d _ hc _ => exact (holds hc rfl).elim
  | close _ hc _ => exact (holds hc rfl).elim
  | flush _ hc _ => exact (holds hc rfl).elim
  | sendChunk c hc _ _ => exact (holds hc rfl).elim
  | sendRest c hc _ _ => exact (holds hc rfl).elim
  | sendGone _ _ => exact ⟨rfl, h.pool⟩
  | sendTrailers _ _ _ => exact ⟨rfl, h.pool⟩
  | _ => exact ⟨copier, h.pool⟩

/-- A stream without a buffer has none to lose. -/
theorem Leaves.run {pool : BufferPool} (h : Leaves pool s) (coherent : s.Coherent)
    (run : s.run? es = some t) : Leaves pool t ∧ ¬ s.LosesBuffer es := by
  have kept : ∀ {es : List Event} {t : Stream}, s.run? es = some t → Leaves pool t :=
    fun run ↦ (run?_induction (p := Leaves pool) (fun _ h m ↦ h.move m) coherent h run).2
  refine ⟨kept run, ?_⟩
  rintro ⟨before, after, u, rfl, hu, -, locked⟩
  rw [Copier.hasLock_of_hasBuffer (kept hu).copier] at locked
  cases locked

/-- In a run a stream ends with its buffer if it loses it, and otherwise keeps the buffer or gives
it back. -/
theorem HasBuffer.run (h : HasBuffer taken left s) (coherent : s.Coherent)
    (run : s.run? es = some t) :
    s.LosesBuffer es ∧ Leaves left t ∨
      ¬ s.LosesBuffer es ∧
        (HasBuffer taken left t ∨
          ∃ b : Buffer, taken.capacity ≤ b.capacity ∧ Leaves (left.put b) t) := by
  induction es generalizing s with
  | nil =>
    cases run
    exact .inr ⟨not_passes_nil _ _ _, .inl h⟩
  | cons e es ih =>
    obtain ⟨u, hu, onward⟩ := Option.bind_eq_some_iff.mp run
    have m := move_of_step coherent.timed hu
    have next := coherent.move m
    unfold LosesBuffer at ih ⊢
    rw [passes_cons_iff hu]
    rcases h.move coherent.timed m with ⟨lost, leaves⟩ | ⟨spared, kept | ⟨b, large, leaves⟩⟩
    · exact .inl ⟨.inl lost, (leaves.run next onward).1⟩
    · rcases ih kept next onward with ⟨lost, leaves⟩ | ⟨never, rest⟩
      · exact .inl ⟨.inr lost, leaves⟩
      · exact .inr ⟨not_or.mpr ⟨spared, never⟩, rest⟩
    · obtain ⟨leaves, never⟩ := leaves.run next onward
      exact .inr ⟨not_or.mpr ⟨spared, never⟩, .inr ⟨b, large, leaves⟩⟩

end

/-- A stream that starts has the buffer that it took. -/
theorem hasBuffer_start (pool : BufferPool) (source : List Piece) :
    HasBuffer pool.get.1 pool.get.2 (start true pool source) :=
  ⟨rfl, rfl, Nat.le_refl _⟩

/-- A copy that is over has no buffer. -/
theorem hasBuffer_of_isOver {s : Stream} (ended : s.isOver = true) :
    s.copier.hasBuffer = false := by
  rcases (isOver_iff s).mp ended with hc | hc <;> rw [hc] <;> rfl

section

variable {pool : BufferPool} {source : List Piece} {es : List Event} {s : Stream}

/-- When a copy is over, the pool is without the buffer that the stream took if the stream lost it.
Otherwise it is the first of the idle ones, empty and as large as before or larger. -/
theorem idle_of_isOver (sound : pool.Sound) (run : (start true pool source).run? es = some s)
    (ended : s.isOver = true) : s.pool.Sound ∧ s.pool.size = pool.size ∧
      ((start true pool source).LosesBuffer es ∧ s.pool.idle = pool.idle.tail ∨
        ¬ (start true pool source).LosesBuffer es ∧
          ∃ b : Buffer, b.content = [] ∧ pool.get.1.capacity ≤ b.capacity ∧
            s.pool.idle = b :: pool.idle.tail) := by
  rcases (hasBuffer_start pool source).run (coherent_start pool source) run with
    ⟨lost, leaves⟩ | ⟨never, has | ⟨b, large, leaves⟩⟩
  · rw [leaves.pool]
    exact ⟨sound.get, pool.size_get, .inl ⟨lost, pool.idle_get⟩⟩
  · have copier := has.copier
    rw [hasBuffer_of_isOver ended] at copier
    cases copier
  · rw [leaves.pool]
    refine ⟨sound.get.put b, (BufferPool.size_put _ b).trans pool.size_get, .inr ⟨never, ?_⟩⟩
    refine ⟨b.clear, rfl, large, ?_⟩
    rw [← pool.idle_get]
    apply BufferPool.idle_put _ sound.room_get
    rw [pool.size_get]
    exact Nat.le_trans sound.size_le_capacity_get large

/-- The pool after streams that follow each other, each run until its copy is over. -/
def poolAfter? (pool : BufferPool) : List (List Piece × List Event) → Option BufferPool
  | [] => some pool
  | (source, es) :: streams =>
    ((start true pool source).run? es).bind fun s ↦
      if s.isOver then poolAfter? s.pool streams else none

/-- Streams that follow each other leave one idle buffer at most. -/
theorem sound_poolAfter? {streams : List (List Piece × List Event)} {left : BufferPool}
    (sound : pool.Sound) (few : pool.idle.length ≤ 1) (h : poolAfter? pool streams = some left) :
    left.Sound ∧ left.size = pool.size ∧ left.idle.length ≤ 1 := by
  induction streams generalizing pool with
  | nil =>
    cases h
    exact ⟨sound, rfl, few⟩
  | cons stream streams ih =>
    obtain ⟨u, run, onward⟩ := Option.bind_eq_some_iff.mp h
    split at onward
    · next ended =>
      obtain ⟨next, size, which⟩ := idle_of_isOver sound run ended
      have rest : pool.idle.tail.length = 0 := by
        rw [List.length_tail]
        omega
      have few : u.pool.idle.length ≤ 1 := by
        rcases which with ⟨-, idle⟩ | ⟨-, b, -, -, idle⟩
        · rw [idle]
          omega
        · rw [idle, List.length_cons]
          omega
      obtain ⟨last, size', few'⟩ := ih next few onward
      exact ⟨last, size'.trans size, few'⟩
    · cases onward

/-- After each of the streams that follow each other over a new pool there is one idle buffer,
empty, large enough and no smaller than the one that the stream took, unless the stream found the
caller gone while it sent data; then there is none. -/
theorem idle_after_streams {n : Nat} {streams : List (List Piece × List Event)}
    (earlier : poolAfter? (.ofSize n) streams = some pool)
    (run : (start true pool source).run? es = some s) (ended : s.isOver = true) :
    (s.pool.idle.length = 1 ↔ ¬ (start true pool source).LosesBuffer es) ∧
    (¬ (start true pool source).LosesBuffer es → ∃ b : Buffer, s.pool.idle = [b] ∧
      b.content = [] ∧ (BufferPool.ofSize n).size ≤ b.capacity ∧
      pool.get.1.capacity ≤ b.capacity) ∧
    ((start true pool source).LosesBuffer es → s.pool.idle = []) := by
  obtain ⟨sound, size, few⟩ :=
    sound_poolAfter? (BufferPool.sound_ofSize n) (Nat.zero_le 1) earlier
  have rest : pool.idle.tail = [] := by
    apply List.eq_nil_of_length_eq_zero
    rw [List.length_tail]
    omega
  obtain ⟨-, -, ⟨lost, idle⟩ | ⟨never, b, empty, large, idle⟩⟩ := idle_of_isOver sound run ended
  · rw [rest] at idle
    rw [idle]
    exact ⟨⟨nofun, fun never ↦ absurd lost never⟩, fun never ↦ absurd lost never, fun _ ↦ rfl⟩
  · rw [rest] at idle
    rw [idle]
    have enough : (BufferPool.ofSize n).size ≤ b.capacity := by
      rw [← size]
      exact Nat.le_trans sound.size_le_capacity_get large
    exact ⟨⟨fun _ ↦ never, fun _ ↦ rfl⟩, fun _ ↦ ⟨b, rfl, empty, enough, large⟩,
      fun lost ↦ absurd lost never⟩

end

/-- A body of two pieces. -/
def greeting : List Piece := [.data [104, 105], .data [33]]

/-- A caller who reads to the end. -/
def heard : List Event :=
  [.read, .lock, .send, .read, .lock, .read, .lock, .send, .receive, .receive]

/-- A caller who goes before the first piece is sent. -/
def unheard : List Event := [.read, .lock, .leave, .send]

/-- A stream whose caller reads to the end leaves the buffer that it took, and one that is abandoned
while it sends does not. -/
theorem idle_after_unheard :
    ∃ s, poolAfter? (.ofSize 2) [(greeting, heard)] = some (.put (.ofSize 2) (.ofCapacity 2)) ∧
      (start true (.put (.ofSize 2) (.ofCapacity 2)) greeting).run? unheard = some s ∧
      s.isOver = true ∧ s.pool.idle = [] := by
  have earlier : poolAfter? (.ofSize 2) [(greeting, heard)] =
    some (.put (.ofSize 2) (.ofCapacity 2)) := rfl
  have run : (start true (.put (.ofSize 2) (.ofCapacity 2)) greeting).run? unheard = some _ := rfl
  refine ⟨_, earlier, run, rfl, (idle_after_streams earlier run rfl).2.2 ?_⟩
  exact ⟨[.read, .lock, .leave], [], _, rfl, rfl, rfl, rfl⟩

end Stream
end HttpGateway
