import HttpGateway.Proofs.Buffers.Pool
import Mathlib.Data.List.Nodup
import Mathlib.Data.List.Perm.Subperm

/-!
# Buffers in circulation

A buffer is either idle in a pool or held outside, where it is written to and split and where others
turn up that the pool has never seen. Buffers that look the same are told apart by numbers, which
they get when they turn up, and a book is kept of the buffers that are idle and those that are held.
Whatever happens, the idle buffers of the book are those of the pool, the pool is sound and no number
stands in the book twice.
-/

namespace HttpGateway

namespace Buffer

/-- A buffer of its own for bytes that were given away with their places. -/
def ofBytes (bytes : Bytes) : Buffer := ⟨bytes, 0, bytes.length, by simp⟩

/-- The buffer with its content in other storage, if that is large enough. -/
def moveTo (b : Buffer) (start storage : Nat) : Buffer :=
  if h : start + b.content.length ≤ storage then ⟨b.content, start, storage, h⟩ else b

end Buffer

namespace BufferPool

/-- A pool has a use for buffers that are large enough, as long as there are not too many idle. -/
def Wants (p : BufferPool) (b : Buffer) : Prop := p.size ≤ b.capacity ∧ p.idle.length < maxIdle

instance (p : BufferPool) (b : Buffer) : Decidable (p.Wants b) :=
  inferInstanceAs (Decidable (_ ∧ _))

variable {p : BufferPool} {b : Buffer}

/-- A pool that has no use for a buffer is left as it is. -/
theorem put_eq_self (h : ¬ p.Wants b) : p.put b = p := by
  unfold put
  rw [if_pos]
  simp only [Bool.or_eq_true, decide_eq_true_eq]
  unfold Wants at h
  omega

/-- Precisely the buffers that a pool has a use for become idle. -/
theorem idle_put_eq_cons_iff : (p.put b).idle = b.clear :: p.idle ↔ p.Wants b := by
  constructor
  · intro added
    apply by_contra
    intro unwanted
    rw [put_eq_self unwanted] at added
    exact List.cons_ne_self _ _ added.symm
  · exact fun wanted ↦ idle_put wanted.1 wanted.2

/-- A pool with idle buffers hands out the first of them. -/
theorem idle_eq_cons_get (h : p.idle ≠ []) : p.idle = p.get.1 :: p.get.2.idle := by
  unfold get
  split
  · contradiction
  · next b rest idle => exact idle

/-- A pool without idle buffers is left as it is. -/
theorem get_eq_self (h : p.idle = []) : p.get.2 = p := by
  unfold get
  rw [h]

end BufferPool

/-! ## The book -/

/-- A pool and a book of the buffers around it, with their numbers. -/
structure Circulation where
  pool : BufferPool
  idle : List (Nat × Buffer)
  held : List (Nat × Buffer)
  /-- The next number, above those that were given. -/
  next : Nat

namespace Circulation

/-- What can happen to a pool and the buffers around it. -/
inductive Event
  /-- A buffer is taken from the pool. -/
  | get
  /-- A buffer turns up that is not from the pool. -/
  | bring (b : Buffer)
  /-- Bytes are written to a held buffer. -/
  | write (number : Nat) (bytes : Bytes)
  /-- The content of a held buffer is moved, as when its storage is still needed for what was split
  off. -/
  | move (number start storage : Nat)
  /-- The front of a held buffer is split off and becomes a buffer of its own. -/
  | split (number n : Nat)
  /-- A held buffer is given to the pool. -/
  | put (number : Nat)

/-- At the beginning, no buffer is there. -/
def start (n : Nat) : Circulation := ⟨.ofSize n, [], [], 0⟩

/-- The book after a buffer was taken from the pool. It is the first idle one, or else a new one. -/
def get (c : Circulation) : Circulation :=
  match c.idle with
  | [] =>
    { c with pool := c.pool.get.2, held := (c.next, c.pool.get.1) :: c.held, next := c.next + 1 }
  | (number, _) :: idle =>
    { c with pool := c.pool.get.2, idle := idle, held := (number, c.pool.get.1) :: c.held }

/-- The book with one more held buffer. -/
def bring (c : Circulation) (b : Buffer) : Circulation :=
  { c with held := (c.next, b) :: c.held, next := c.next + 1 }

/-- What comes of a held buffer and the others, if one of this number is held. -/
def withHeld (c : Circulation) (number : Nat)
    (after : Buffer → List (Nat × Buffer) → Circulation) : Circulation :=
  match c.held.find? fun entry ↦ entry.1 == number with
  | none => c
  | some entry => after entry.2 (c.held.erase entry)

/-- The book after something was done to a held buffer. -/
def alter (c : Circulation) (number : Nat) (change : Buffer → Buffer) : Circulation :=
  c.withHeld number fun b others ↦ { c with held := (number, change b) :: others }

/-- The book after the front of a held buffer was split off. -/
def split (c : Circulation) (number n : Nat) : Circulation :=
  c.withHeld number fun b others ↦
    { c with
      held := (number, (b.split n).2) :: (c.next, .ofBytes (b.split n).1) :: others
      next := c.next + 1 }

/-- The book after a held buffer was given to the pool. -/
def put (c : Circulation) (number : Nat) : Circulation :=
  c.withHeld number fun b others ↦
    { c with
      pool := c.pool.put b
      idle := if c.pool.Wants b then (number, b.clear) :: c.idle else c.idle
      held := others }

/-- The book after an event. -/
def step (c : Circulation) : Event → Circulation
  | .get => c.get
  | .bring b => c.bring b
  | .write number bytes => c.alter number fun b ↦ b.write bytes
  | .move number start storage => c.alter number fun b ↦ b.moveTo start storage
  | .split number n => c.split number n
  | .put number => c.put number

/-- The book after events. -/
def run (c : Circulation) (events : List Event) : Circulation := events.foldl step c

/-- The numbers in the book. -/
def numbers (c : Circulation) : List Nat := (c.idle ++ c.held).map Prod.fst

/-! ## What the book keeps -/

/-- Numbers that are in use all differ, and new ones are above them. -/
structure Numbering (next : Nat) (numbers : List Nat) : Prop where
  nodup : numbers.Nodup
  lt : ∀ i ∈ numbers, i < next

namespace Numbering

variable {next : Nat} {numbers others : List Nat}

/-- The next number is a new one. -/
theorem cons (h : Numbering next numbers) : Numbering (next + 1) (next :: numbers) where
  nodup := List.nodup_cons.mpr ⟨fun mem ↦ Nat.lt_irrefl next (h.lt next mem), h.nodup⟩
  lt i mem := by
    rcases List.mem_cons.mp mem with rfl | mem
    · exact Nat.lt_succ_self i
    · exact Nat.lt_succ_of_lt (h.lt i mem)

/-- Numbers may be dropped and come in another order. -/
theorem of_subperm (h : Numbering next numbers) (sub : others.Subperm numbers) :
    Numbering next others where
  nodup := by
    obtain ⟨l, perm, sublist⟩ := sub
    exact perm.nodup_iff.mp (sublist.nodup h.nodup)
  lt i mem := h.lt i (sub.subset mem)

end Numbering

/-- What is true at any time of the book of a pool of buffers of a size. -/
structure Kept (size : Nat) (c : Circulation) : Prop where
  size : c.pool.size = size
  sound : c.pool.Sound
  booked : c.pool.idle = c.idle.map Prod.snd
  numbering : Numbering c.next c.numbers

/-- To show what comes of a held buffer, it is set apart from the others. -/
theorem withHeld_induction {P : Circulation → Prop} {c : Circulation} {number : Nat}
    {after : Buffer → List (Nat × Buffer) → Circulation} (none_ : P c)
    (held : ∀ b others, c.held.Perm ((number, b) :: others) → P (after b others)) :
    P (c.withHeld number after) := by
  unfold withHeld
  split
  · exact none_
  · next entry found =>
    apply held
    have same : entry.1 = number := by simpa using List.find?_some found
    rw [← same]
    exact List.perm_cons_erase (List.mem_of_find?_eq_some found)

variable {size : Nat} {c : Circulation}

/-- At the beginning, the book is right. -/
theorem kept_start (n : Nat) : (start n).Kept (max n 1) :=
  ⟨rfl, BufferPool.sound_ofSize n, rfl, List.nodup_nil, nofun⟩

/-- The numbers in the book, with a held buffer set apart. -/
theorem numbers_perm {number : Nat} {b : Buffer} {others : List (Nat × Buffer)}
    (held : c.held.Perm ((number, b) :: others)) :
    c.numbers.Perm (number :: (c.idle ++ others).map Prod.fst) := by
  have all : (c.idle ++ c.held).Perm ((number, b) :: (c.idle ++ others)) :=
    (held.append_left c.idle).trans List.perm_middle
  exact all.map Prod.fst

namespace Kept

/-- The book is right after a buffer was taken from the pool. -/
theorem get (h : c.Kept size) : c.get.Kept size := by
  unfold Circulation.get
  split
  · next none_ =>
    have empty : c.pool.idle = [] := by simp [h.booked, none_]
    refine ⟨(c.pool.size_get).trans h.size, h.sound.get, ?_, ?_⟩
    · simp [BufferPool.idle_get, empty, none_]
    · simpa [numbers, none_] using h.numbering.cons
  · next number b idle some_ =>
    refine ⟨(c.pool.size_get).trans h.size, h.sound.get, ?_, ?_⟩
    · simp [BufferPool.idle_get, h.booked, some_]
    · apply h.numbering.of_subperm
      simp only [numbers, some_, List.map_append, List.map_cons, List.cons_append]
      exact List.perm_middle.subperm

/-- The book is right after a buffer has turned up. -/
theorem bring (h : c.Kept size) (b : Buffer) : (c.bring b).Kept size := by
  refine ⟨h.size, h.sound, h.booked, ?_⟩
  apply h.numbering.cons.of_subperm
  simp only [Circulation.bring, numbers, List.map_append, List.map_cons]
  exact List.perm_middle.subperm

/-- The book is right after something was done to a buffer. -/
theorem alter (h : c.Kept size) (number : Nat) (change : Buffer → Buffer) :
    (c.alter number change).Kept size := by
  apply withHeld_induction h
  intro b others held
  refine ⟨h.size, h.sound, h.booked, ?_⟩
  apply h.numbering.of_subperm
  apply List.Perm.subperm
  apply List.Perm.trans _ (numbers_perm held).symm
  simp [numbers]

/-- The book is right after a buffer was split. -/
theorem split (h : c.Kept size) (number n : Nat) : (c.split number n).Kept size := by
  apply withHeld_induction h
  intro b others held
  refine ⟨h.size, h.sound, h.booked, ?_⟩
  apply h.numbering.cons.of_subperm
  apply List.Perm.subperm
  apply List.Perm.trans _ ((numbers_perm held).symm.cons c.next)
  simp only [numbers, List.map_append, List.map_cons]
  -- The rest is in the place of the buffer, and the front is in front of all.
  apply List.perm_middle.trans
  apply List.Perm.trans (List.perm_middle.cons number)
  apply List.Perm.swap

/-- The book is right after a buffer was given to the pool. -/
theorem put (h : c.Kept size) (number : Nat) : (c.put number).Kept size := by
  apply withHeld_induction h
  intro b others held
  refine ⟨(c.pool.size_put b).trans h.size, h.sound.put b, ?_, ?_⟩
  · by_cases wanted : c.pool.Wants b
    · simp [wanted, BufferPool.idle_put_eq_cons_iff.mpr wanted, h.booked]
    · simp [wanted, BufferPool.put_eq_self wanted, h.booked]
  · apply h.numbering.of_subperm
    apply List.Subperm.trans _ (numbers_perm held).symm.subperm
    by_cases wanted : c.pool.Wants b
    · simp [numbers, wanted, List.Subperm.refl]
    · simp only [numbers, if_neg wanted]
      exact (List.sublist_cons_self _ _).subperm

/-- The book is right after an event. -/
theorem step (h : c.Kept size) (event : Event) : (c.step event).Kept size := by
  cases event with
  | get => exact h.get
  | bring b => exact h.bring b
  | write number bytes => exact h.alter number _
  | move number start storage => exact h.alter number _
  | split number n => exact h.split number n
  | put number => exact h.put number

/-- The book is right after events. -/
theorem run (h : c.Kept size) (events : List Event) : (c.run events).Kept size := by
  induction events generalizing c with
  | nil => exact h
  | cons event events ih => exact ih (h.step event)

end Kept

/-- A buffer taken from the pool is held, and if there are idle ones it is the first of them. -/
theorem held_get (h : c.Kept size) :
    ∃ number, c.get.held = (number, c.pool.get.1) :: c.held ∧
      ∀ entry ∈ c.idle.head?, entry = (number, c.pool.get.1) := by
  unfold get
  split
  · exact ⟨c.next, rfl, by simp [*]⟩
  · next number b idle some_ =>
    refine ⟨number, rfl, ?_⟩
    have booked : c.pool.idle = b :: idle.map Prod.snd := by simp [h.booked, some_]
    have same := BufferPool.idle_eq_cons_get (p := c.pool) (by simp [booked])
    rw [booked] at same
    simp_all

/-! ## What the pool guarantees -/

/-- What a pool of buffers of a size guarantees at any time. -/
structure Guaranteed (n : Nat) (c : Circulation) : Prop where
  size : c.pool.size = max n 1
  idle : ∀ b ∈ c.pool.idle, b.content = [] ∧ max n 1 ≤ b.capacity
  bounded : c.pool.idle.length ≤ 64
  handed : c.pool.get.1.content = [] ∧ max n 1 ≤ c.pool.get.1.capacity
  taken : c.pool.idle ≠ [] → c.pool.idle = c.pool.get.1 :: c.pool.get.2.idle
  made : c.pool.idle = [] → c.pool.get.2 = c.pool
  added : ∀ b, (c.pool.put b).idle = b.clear :: c.pool.idle ↔
    max n 1 ≤ b.capacity ∧ c.pool.idle.length < 64
  dropped : ∀ b, ¬ (max n 1 ≤ b.capacity ∧ c.pool.idle.length < 64) → c.pool.put b = c.pool
  -- The book speaks about the buffers of the pool, and no buffer has two entries.
  booked : c.pool.idle = c.idle.map Prod.snd
  moved : ∃ number, c.get.held = (number, c.pool.get.1) :: c.held ∧
    ∀ entry ∈ c.idle.head?, entry = (number, c.pool.get.1)
  apart : ∀ entry ∈ c.idle, ∀ other ∈ c.held, entry.1 ≠ other.1

/-- Whatever happens to a pool and the buffers around it, the pool hands out empty buffers that are
large enough, keeps those that can be handed out again, and no buffer is both idle and held. -/
theorem guaranteed_run (n : Nat) (events : List Event) : ((start n).run events).Guaranteed n := by
  have kept := (kept_start n).run events
  have size := kept.size
  constructor
  case size => exact size
  case idle => exact fun b mem ↦ ⟨kept.sound.clean b mem, size ▸ kept.sound.large b mem⟩
  case bounded => exact kept.sound.bounded
  case handed => exact ⟨kept.sound.clean.content_get, size ▸ kept.sound.size_le_capacity_get⟩
  case taken => exact BufferPool.idle_eq_cons_get
  case made => exact BufferPool.get_eq_self
  case added =>
    rw [← size]
    exact fun b ↦ BufferPool.idle_put_eq_cons_iff
  case dropped =>
    rw [← size]
    exact fun b ↦ BufferPool.put_eq_self
  case booked => exact kept.booked
  case moved => exact held_get kept
  case apart =>
    have nodup := kept.numbering.nodup
    rw [numbers, List.map_append] at nodup
    intro entry idle other held same
    apply List.disjoint_of_nodup_append nodup (List.mem_map_of_mem idle)
    rw [same]
    exact List.mem_map_of_mem held

end Circulation
end HttpGateway
