import HttpGateway.Text.Ascii

/-!
# Copy buffers

A pool hands out empty buffers of at least its size and takes them back. A buffer that has become
too small is not taken, and the pool keeps a bounded number of idle ones. A buffer is a window onto
its storage that reaches to the end: giving away bytes from the front moves the start of the window.
A write that finds no room behind the content uses the storage in front again, if the content can be
moved there without overlapping itself, and else takes storage of at least twice the size.
-/

namespace HttpGateway

/-- A growing buffer. -/
structure Buffer where
  content : Bytes
  /-- The places of the storage in front of the content. -/
  start : Nat
  storage : Nat
  fits : start + content.length ≤ storage
  deriving DecidableEq

namespace Buffer

/-- The places from the start of the content to the end of the storage. -/
def capacity (b : Buffer) : Nat := b.storage - b.start

/-- An empty buffer of a capacity. -/
def ofCapacity (n : Nat) : Buffer := ⟨[], 0, n, Nat.zero_le n⟩

/-- The buffer without its content. -/
def clear (b : Buffer) : Buffer := ⟨[], b.start, b.storage, by have := b.fits; simp; omega⟩

/-- The least storage that a buffer grows to. -/
def leastStorage : Nat := 8

/-- The buffer with bytes behind its content. -/
def write (b : Buffer) (bytes : Bytes) : Buffer :=
  let content := b.content ++ bytes
  if h : b.start + content.length ≤ b.storage then ⟨content, b.start, b.storage, h⟩
  else if h : content.length ≤ b.storage ∧ b.content.length ≤ b.start then
    ⟨content, 0, b.storage, by omega⟩
  else
    ⟨content, b.start, max leastStorage (max (2 * b.storage) (b.start + content.length)), by omega⟩

/-- Gives away up to so many bytes from the front, and their places. -/
def split (b : Buffer) (n : Nat) : Bytes × Buffer :=
  let n := min n b.content.length
  (b.content.take n, ⟨b.content.drop n, b.start + n, b.storage, by
    have := b.fits
    simp only [List.length_drop]
    omega⟩)

/-- A write keeps what is there and puts the new bytes behind. -/
@[simp] theorem content_write (b : Buffer) (bytes : Bytes) :
    (b.write bytes).content = b.content ++ bytes := by
  unfold write
  dsimp only
  split
  · rfl
  · split <;> rfl

end Buffer

/-- A pool of idle buffers, the one put in last first. -/
structure BufferPool where
  size : Nat
  idle : List Buffer

namespace BufferPool

/-- At most this many buffers are kept. -/
def maxIdle : Nat := 64

/-- A pool of buffers of a size, which is at least one. -/
def ofSize (n : Nat) : BufferPool := ⟨max n 1, []⟩

/-- Takes the buffer put in last, or a new one. -/
def get (p : BufferPool) : Buffer × BufferPool :=
  match p.idle with
  | [] => (.ofCapacity p.size, p)
  | b :: rest => (b, { p with idle := rest })

/-- Takes a buffer back, unless it is too small or enough are idle. -/
def put (p : BufferPool) (b : Buffer) : BufferPool :=
  if b.capacity < p.size || maxIdle ≤ p.idle.length then p
  else { p with idle := b.clear :: p.idle }

/-- The idle buffers are empty. -/
def IsClean (p : BufferPool) : Prop := ∀ b ∈ p.idle, b.content = []

/-- A new pool is clean. -/
theorem isClean_ofSize (n : Nat) : (ofSize n).IsClean := by
  intro b hb
  cases hb

/-- A clean pool hands out an empty buffer. -/
theorem IsClean.content_get {p : BufferPool} (h : p.IsClean) : p.get.1.content = [] := by
  unfold get
  split
  · rfl
  · next b rest hi => exact h b (hi ▸ List.mem_cons_self)

/-- A pool that hands out a buffer stays clean. -/
theorem IsClean.get {p : BufferPool} (h : p.IsClean) : p.get.2.IsClean := by
  unfold BufferPool.get
  split
  · exact h
  · next b rest hi =>
    intro b' hb'
    exact h b' (hi ▸ List.mem_cons_of_mem b hb')

/-- A pool that takes a buffer back stays clean, whatever the buffer holds. -/
theorem IsClean.put {p : BufferPool} (h : p.IsClean) (b : Buffer) : (p.put b).IsClean := by
  unfold BufferPool.put
  split
  · exact h
  · intro b' hb'
    rcases List.mem_cons.mp hb' with rfl | hb'
    · rfl
    · exact h b' hb'

end BufferPool
end HttpGateway
