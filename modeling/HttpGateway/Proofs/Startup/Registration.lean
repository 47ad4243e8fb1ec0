import HttpGateway.Bootstrap

/-!
# Registering codes and statuses

Codes are registered one after the other. All of them are taken if and only if no two are equal and
none is mapped already; otherwise the first that is mapped by then is refused. Success statuses are
taken likewise, and each code that is taken has the status that it came with.
-/

namespace HttpGateway

namespace StatusMapping

/-- Maps codes one after the other. -/
def registerCodes (m : StatusMapping) (codes : List (ResultCode × Status)) :
    Except Refusal StatusMapping :=
  codes.foldlM (fun m e ↦ m.registerCode e.1 e.2) m

/-- Adds success statuses one after the other. -/
def registerSuccesses (m : StatusMapping) (statuses : List Status) :
    Except Refusal StatusMapping :=
  statuses.foldlM registerSuccess m

/-- No two of the codes are equal, and none of them is mapped. -/
def AreFree (m : StatusMapping) (codes : List (ResultCode × Status)) : Prop :=
  (codes.map Prod.fst).Nodup ∧ ∀ e ∈ codes, m.lookup? e.1 = none

/-- The mapping with one more code. -/
def extend (m : StatusMapping) (e : ResultCode × Status) : StatusMapping :=
  { m with codes := m.codes ++ [e] }

/-- A code is mapped if it was or if it is the one added; what it was mapped to stays. -/
theorem lookup?_extend (m : StatusMapping) (e : ResultCode × Status) (code : ResultCode) :
    (m.extend e).lookup? code =
      (m.lookup? code).or (if code = e.1 then some e.2 else none) := by
  obtain ⟨other, status⟩ := e
  unfold extend lookup?
  rw [List.lookup_append]
  by_cases same : code = other
  · simp [same]
  · have different : (code == other) = false := by simpa using same
    simp [same, List.lookup_cons, different]

/-- Codes are free if the first is, and the others are once it is mapped. -/
theorem areFree_cons_iff (m : StatusMapping) (e : ResultCode × Status)
    (codes : List (ResultCode × Status)) :
    m.AreFree (e :: codes) ↔ m.lookup? e.1 = none ∧ (m.extend e).AreFree codes := by
  have free : ∀ other : ResultCode × Status, (m.extend e).lookup? other.1 = none ↔
      m.lookup? other.1 = none ∧ other.1 ≠ e.1 := by
    intro other
    rw [lookup?_extend, Option.or_eq_none_iff]
    by_cases same : other.1 = e.1
    · simp [same]
    · simp [same]
  unfold AreFree
  simp only [List.map_cons, List.nodup_cons, List.forall_mem_cons, free, List.mem_map, not_exists,
    not_and]
  constructor
  · rintro ⟨⟨absent, nodup⟩, first, others⟩
    exact ⟨first, nodup, fun other mem ↦ ⟨others other mem, absent other mem⟩⟩
  · rintro ⟨first, nodup, others⟩
    exact ⟨⟨fun other mem ↦ (others other mem).2, nodup⟩, first,
      fun other mem ↦ (others other mem).1⟩

/-- A code that is not mapped is taken. -/
theorem registerCode_of_free {m : StatusMapping} (opened : m.isSealed = false)
    {e : ResultCode × Status} (free : m.lookup? e.1 = none) :
    m.registerCode e.1 e.2 = .ok (m.extend e) := by
  unfold registerCode
  rw [if_neg (Bool.not_eq_true _ ▸ opened), free]
  rfl

/-- Free codes are all taken. -/
theorem registerCodes_of_areFree {m : StatusMapping} (opened : m.isSealed = false)
    {codes : List (ResultCode × Status)} (free : m.AreFree codes) :
    m.registerCodes codes = .ok { m with codes := m.codes ++ codes } := by
  unfold registerCodes
  induction codes generalizing m with
  | nil =>
    rw [List.append_nil]
    rfl
  | cons e codes ih =>
    obtain ⟨first, others⟩ := (areFree_cons_iff m e codes).mp free
    have later := ih (m := m.extend e) opened others
    rw [List.foldlM_cons, registerCode_of_free opened first]
    refine later.trans ?_
    rw [extend, List.append_assoc]
    rfl

/-- Of codes that are not free, the first that is mapped by then is refused. -/
theorem registerCodes_of_not_areFree {m : StatusMapping} (opened : m.isSealed = false)
    {codes : List (ResultCode × Status)} (taken : ¬ m.AreFree codes) :
    ∃ front e rest existing, codes = front ++ e :: rest ∧
      (m.codes ++ front).lookup e.1 = some existing ∧
      m.registerCodes codes = .error (.mapped e.1 existing) := by
  unfold registerCodes
  -- The mapping grows by each code that is taken, so the codes in front count as mapped.
  induction codes generalizing m with
  | nil => exact absurd ⟨List.nodup_nil, nofun⟩ taken
  | cons e codes ih =>
    cases there : m.lookup? e.1 with
    | some existing =>
      refine ⟨[], e, codes, existing, rfl, ?_, ?_⟩
      · rw [List.append_nil]
        exact there
      · rw [List.foldlM_cons, registerCode, if_neg (Bool.not_eq_true _ ▸ opened), there]
        rfl
    | none =>
      have others : ¬ (m.extend e).AreFree codes :=
        fun free ↦ taken ((areFree_cons_iff m e codes).mpr ⟨there, free⟩)
      obtain ⟨front, e', rest, existing, split, found, refused⟩ :=
        ih (m := m.extend e) opened others
      refine ⟨e :: front, e', rest, existing, congrArg (e :: ·) split, ?_, ?_⟩
      · change ((m.codes ++ [e]) ++ front).lookup e'.1 = some existing at found
        rwa [List.append_assoc] at found
      · rw [List.foldlM_cons, registerCode_of_free opened there]
        exact refused

/-- Statuses are all taken if no two are equal and none is listed. -/
theorem registerSuccesses_of_free {m : StatusMapping} (opened : m.isSealed = false)
    {statuses : List Status} (nodup : statuses.Nodup)
    (free : ∀ status ∈ statuses, m.isSuccess status = false) :
    m.registerSuccesses statuses = .ok { m with success := m.success ++ statuses } := by
  unfold registerSuccesses
  induction statuses generalizing m with
  | nil =>
    rw [List.append_nil]
    rfl
  | cons status statuses ih =>
    obtain ⟨absent, others⟩ := List.nodup_cons.mp nodup
    have first := free status List.mem_cons_self
    have later := ih (m := { m with success := m.success ++ [status] }) opened others (by
      intro other mem
      have different : other ≠ status := fun same ↦ absent (same ▸ mem)
      have unlisted := free other (List.mem_cons_of_mem status mem)
      unfold isSuccess at unlisted ⊢
      simpa [different] using unlisted)
    have taken : m.registerSuccess status = .ok { m with success := m.success ++ [status] } := by
      unfold registerSuccess
      rw [if_neg (Bool.not_eq_true _ ▸ opened), if_neg (Bool.not_eq_true _ ▸ first)]
    rw [List.foldlM_cons, taken]
    refine later.trans ?_
    rw [List.append_assoc]
    rfl

/-- Of codes no two of which are equal, each is mapped to the status it comes with. -/
theorem lookup_of_mem {codes : List (ResultCode × Status)} (nodup : (codes.map Prod.fst).Nodup)
    {e : ResultCode × Status} (mem : e ∈ codes) : codes.lookup e.1 = some e.2 := by
  obtain ⟨front, rest, rfl⟩ := List.append_of_mem mem
  rw [List.map_append, List.map_cons, List.nodup_append] at nodup
  have before : ∀ p ∈ front, (e.1 != p.1) = true := by
    intro p inside
    rw [bne_iff_ne]
    exact (nodup.2.2 p.1 (List.mem_map_of_mem inside) e.1 List.mem_cons_self).symm
  exact List.lookup_eq_some_iff.mpr ⟨front, rest, rfl, before⟩

/-- A code that is not among codes is not mapped by them. -/
theorem lookup_eq_none_iff {codes : List (ResultCode × Status)} {code : ResultCode} :
    codes.lookup code = none ↔ code ∉ codes.map Prod.fst := by
  rw [List.lookup_eq_none_iff, List.mem_map, not_exists]
  simp only [bne_iff_ne, not_and]
  exact forall_congr' fun e ↦ imp_congr_right fun _ ↦ not_congr eq_comm

end StatusMapping

namespace Hook

open StatusMapping

variable {σ α : Type}

variable {f : StatusMapping → α → Except Refusal StatusMapping} {l : List α}
  {m made : StatusMapping} {refusal : Refusal}

private theorem get_bind {τ : Type} (k : τ → EStateM GatewayError τ α) (t : τ) :
    (get >>= k) t = k t t := rfl

section

variable {τ β : Type} {first : EStateM GatewayError τ α} {k : α → EStateM GatewayError τ β}
  {s t : τ}

/-- A part of a setup that succeeds hands on what it leaves. -/
theorem bind_of_ok {a : α} (h : first s = .ok a t) : (first >>= k) s = k a t := by
  change EStateM.bind first k s = _
  unfold EStateM.bind
  rw [h]

/-- A part of a setup that fails is the last one. -/
theorem bind_of_error {e : GatewayError} (h : first s = .error e t) :
    (first >>= k) s = .error e t := by
  change EStateM.bind first k s = _
  unfold EStateM.bind
  rw [h]

end

/-- A registration that succeeds leaves the mapping that it makes, and the world alone. -/
theorem register_of_ok {change : StatusMapping → Except Refusal StatusMapping}
    (h : change m = .ok made) (world : σ) : register change (m, world) = .ok () (made, world) := by
  unfold register
  rw [get_bind]
  dsimp only
  rw [h]
  rfl

/-- A registration that is refused leaves everything as it is. -/
theorem register_of_error {change : StatusMapping → Except Refusal StatusMapping}
    (h : change m = .error refusal) (world : σ) :
    register change (m, world) = .error refusal.error (m, world) := by
  unfold register
  rw [get_bind]
  dsimp only
  rw [h]
  rfl

/-- The first registration comes before the others. -/
theorem forM_register_cons (f : StatusMapping → α → Except Refusal StatusMapping) (a : α)
    (l : List α) : ((a :: l).forM fun a ↦ register (σ := σ) fun m ↦ f m a) =
      register (fun m ↦ f m a) >>= fun _ ↦ l.forM fun a ↦ register fun m ↦ f m a := rfl

/-- Registrations that all succeed leave the mapping that they make, and the world alone. -/
theorem forM_register_of_ok (h : l.foldlM f m = .ok made) (world : σ) :
    (l.forM fun a ↦ register fun m ↦ f m a) (m, world) = .ok () (made, world) := by
  induction l generalizing m with
  | nil => cases h; rfl
  | cons a l ih =>
    rw [List.foldlM_cons] at h
    cases first : f m a with
    | error refusal => rw [first] at h; cases h
    | ok next =>
      rw [first] at h
      rw [forM_register_cons, bind_of_ok (register_of_ok first world)]
      exact ih h

/-- A registration that is refused ends them, and leaves the world alone. -/
theorem forM_register_of_error (h : l.foldlM f m = .error refusal) (world : σ) :
    ∃ left, (l.forM fun a ↦ register fun m ↦ f m a) (m, world) =
      .error refusal.error (left, world) := by
  induction l generalizing m with
  | nil => cases h
  | cons a l ih =>
    rw [List.foldlM_cons] at h
    rw [forM_register_cons]
    cases first : f m a with
    | error other =>
      rw [first] at h
      cases h
      exact ⟨m, bind_of_error (register_of_error first world)⟩
    | ok next =>
      rw [first] at h
      rw [bind_of_ok (register_of_ok first world)]
      exact ih h

/-- The hook of a configuration is one that registers codes and statuses. -/
theorem exists_of_ofConfig {config : Config} {hook : Hook σ} (h : ofConfig config = .ok hook) :
    ∃ codes success, hook = errorCodes codes success := by
  unfold ofConfig at h
  simp only [Bind.bind, Except.bind, pure, Except.pure] at h
  split at h
  · cases h
  · split at h
    · cases h
    · cases h
      exact ⟨_, _, rfl⟩

end Hook
end HttpGateway
