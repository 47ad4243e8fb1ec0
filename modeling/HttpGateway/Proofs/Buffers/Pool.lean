import HttpGateway.Forwarding.BufferPool

/-!
# What a pool keeps

The idle buffers of a pool are empty and no smaller than its size, and there are not too many of
them. So a pool hands out buffers that are empty and large enough, and as writing makes no buffer
smaller, a buffer that was handed out is taken back whatever was written into it in between.
-/

namespace HttpGateway

/-- Writing makes no buffer smaller. -/
theorem Buffer.capacity_le_write (b : Buffer) (bytes : Bytes) :
    b.capacity ≤ (b.write bytes).capacity := by
  unfold write
  dsimp only
  split
  · exact Nat.le_refl _
  · split
    · exact Nat.sub_le _ _
    · unfold capacity
      dsimp only
      omega

namespace BufferPool

/-- What a pool keeps about itself. -/
structure Sound (p : BufferPool) : Prop where
  positive : 0 < p.size
  clean : p.IsClean
  large : ∀ b ∈ p.idle, p.size ≤ b.capacity
  bounded : p.idle.length ≤ maxIdle

/-- A new pool is sound. -/
theorem sound_ofSize (n : Nat) : (ofSize n).Sound :=
  ⟨Nat.le_max_right n 1, isClean_ofSize n, nofun, Nat.zero_le _⟩

/-- Handing out a buffer does not change the size of a pool. -/
@[simp] theorem size_get (p : BufferPool) : p.get.2.size = p.size := by
  unfold get
  split <;> rfl

/-- Taking a buffer back does not change the size of a pool. -/
@[simp] theorem size_put (p : BufferPool) (b : Buffer) : (p.put b).size = p.size := by
  unfold put
  split <;> rfl

/-- A pool hands out the first of its idle buffers. -/
theorem idle_get (p : BufferPool) : p.get.2.idle = p.idle.tail := by
  unfold get
  split
  · next h => rw [h, List.tail_nil]
  · next b rest h => rw [h, List.tail_cons]

/-- A buffer that is large enough is taken back if there is room for it. -/
theorem idle_put {p : BufferPool} {b : Buffer} (large : p.size ≤ b.capacity)
    (room : p.idle.length < maxIdle) : (p.put b).idle = b.clear :: p.idle := by
  unfold put
  rw [if_neg]
  simp only [Bool.or_eq_true, decide_eq_true_eq, not_or, Nat.not_lt, Nat.not_le]
  exact ⟨large, room⟩

namespace Sound

variable {p : BufferPool}

/-- A sound pool hands out a buffer that is large enough. -/
theorem size_le_capacity_get (h : p.Sound) : p.size ≤ p.get.1.capacity := by
  unfold BufferPool.get
  split
  · exact Nat.le_refl _
  · next b rest idle => exact h.large b (idle ▸ List.mem_cons_self)

/-- A pool that hands out a buffer stays sound. -/
theorem get (h : p.Sound) : p.get.2.Sound where
  positive := by
    rw [size_get]
    exact h.positive
  clean := h.clean.get
  large b mem := by
    rw [idle_get] at mem
    rw [size_get]
    exact h.large b (List.mem_of_mem_tail mem)
  bounded := by
    rw [idle_get, List.length_tail]
    exact Nat.le_trans (Nat.sub_le _ _) h.bounded

/-- A pool that takes a buffer back stays sound, whatever the buffer is. -/
theorem put (h : p.Sound) (b : Buffer) : (p.put b).Sound := by
  unfold BufferPool.put
  split
  · exact h
  · next taken =>
    simp only [Bool.or_eq_true, decide_eq_true_eq, not_or, Nat.not_lt, Nat.not_le] at taken
    constructor
    case positive => exact h.positive
    case clean => exact List.forall_mem_cons.mpr ⟨rfl, h.clean⟩
    case large => exact List.forall_mem_cons.mpr ⟨taken.1, h.large⟩
    case bounded => exact taken.2

/-- Once it has handed out a buffer, a pool has room for one. -/
theorem room_get (h : p.Sound) : p.get.2.idle.length < maxIdle := by
  rw [idle_get, List.length_tail]
  have bounded := h.bounded
  have most : 0 < maxIdle := by decide
  omega

end Sound
end BufferPool
end HttpGateway
