import HttpGateway.Proofs.Shared.Histories

/-!
# Changes one after another

However calls come between each other, the value is what the calls that have published make of it
one after another, in the order in which they had the lock. So what holds of a value and is kept by
every change holds at any time, and a reader finds what the calls have made that published before.
-/

namespace HttpGateway.Shared

variable {ι σ ε α : Type} [DecidableEq ι] {calls : ι → Call σ ε α} {value : σ}
  {events later : List (Event ι)} {s t : Shared ι σ ε α}

namespace Recorded

/-- A step leaves the value as it is, or it publishes what a section makes of it by itself. -/
theorem change_of_move (h : Recorded calls value events s) {e : Event ι} (move : Move calls s e t) :
    (e.published? = none ∧ t.now = s.now) ∨
      ∃ i body, e = .publish i ∧ calls i = .change body ∧ body.run s.now = .ok t.now := by
  cases move with
  | publish i change there =>
    have told := h.told i
    rw [there] at told
    cases told with
    | inside body _ before during s₀ called split first same run =>
      exact .inr ⟨i, body, rfl, called, run.symm⟩
  | lock | look | refuse | unlock | load | answer => exact .inl ⟨rfl, rfl⟩

/-- Whoever publishes comes behind those that have published. -/
theorem published_concat (h : Recorded calls value events s) (e : Event ι)
    (h' : Recorded calls value (events ++ [e]) t) :
    published (events ++ [e]) = published events ++ e.published?.toList := by
  rw [← h'.order, ← h.order, List.filterMap_append]
  cases e with
  | lock | look | publish | refuse | unlock | load | answer => rfl

end Recorded

/-- The calls that have published are those of whom the history says so. -/
theorem mem_published_iff_publish_mem (h : after? calls value events = some s) {i : ι} :
    i ∈ published events ↔ .publish i ∈ events := by
  rw [← (recorded_of_after? h).order, List.mem_filterMap]
  constructor
  · rintro ⟨e, mem, own⟩
    cases e with
    | publish j =>
      cases own
      exact mem
    | lock | look | refuse | unlock | load | answer => cases own
  · exact fun mem ↦ ⟨_, mem, rfl⟩

/-- What holds at first of the value, and is kept by every change, holds with the changes that are
published. -/
theorem holds_of_changes (holds : List ι → σ → Prop) (start : holds [] value)
    (change : ∀ ids i body old new, calls i = .change body → holds ids old →
      body.run old = .ok new → holds (ids ++ [i]) new)
    (h : after? calls value events = some s) : holds (published events) s.now := by
  refine holds_of_after? (fun events s ↦ holds (published events) s.now) start ?_ h
  intro events s e t before so happened
  have recorded := recorded_of_after? before
  have later := recorded_of_after? (after?_concat_iff.mpr ⟨s, before, happened⟩)
  rw [recorded.published_concat e later]
  obtain ⟨nothing, same⟩ | ⟨i, body, rfl, called, run⟩ :=
    recorded.change_of_move (move_of_step happened)
  · rw [nothing, same, Option.toList_none, List.append_nil]
    exact so
  · exact change _ i body _ _ called so run

/-- What holds of the value and is kept by every change holds later on. -/
theorem holds_later (holds : σ → Prop) (change : ∀ i body old new, calls i = .change body →
      holds old → body.run old = .ok new → holds new)
    (h : after? calls value events = some s) (h' : after? calls value (events ++ later) = some t)
    (now : holds s.now) : holds t.now := by
  induction later using List.reverseRecOn generalizing t with
  | nil =>
    rw [List.append_nil, h] at h'
    cases h'
    exact now
  | append_singleton later e ih =>
    rw [← List.append_assoc, after?_concat_iff] at h'
    obtain ⟨middle, before, happened⟩ := h'
    obtain ⟨-, same⟩ | ⟨i, body, -, called, run⟩ :=
      (recorded_of_after? before).change_of_move (move_of_step happened)
    · rw [same]
      exact ih before
    · exact change i body _ _ called (ih before) run

/-- Whoever has come out of the lock has settled. -/
theorem settled_of_left (h : after? calls value events = some s) {i : ι} {result : Except ε Unit}
    (there : s.phase i = .left result) : Settled calls value events i result := by
  have told := (recorded_of_after? h).told i
  rw [there] at told
  cases told with
  | left _ settled => exact settled

/-- A call has published if it came out of the lock without an error. -/
theorem publish_mem_iff_of_left (h : after? calls value events = some s) {i : ι}
    {result : Except ε Unit} (there : s.phase i = .left result) :
    .publish i ∈ events ↔ result = .ok () := by
  rw [(recorded_of_after? h).publish_mem_iff i, there]
  cases result with
  | ok => simp [Phase.hasPublished]
  | error e => simp [Phase.hasPublished]

/-- An answer is given from the value that was there when the question took hold of it. -/
theorem loaded_of_answered (h : after? calls value events = some s) {i : ι} {answer : α}
    (there : s.phase i = .answered answer) :
    ∃ ask seen, calls i = .question ask ∧ Loaded calls value events i seen ∧ answer = ask seen := by
  have told := (recorded_of_after? h).told i
  rw [there] at told
  cases told with
  | answered ask seen called loaded => exact ⟨ask, seen, called, loaded, rfl⟩

/-- A question is answered from the value that was there when its call took hold of one. -/
theorem exists_load_of_answered (h : after? calls value events = some s) {i : ι} {ask : σ → α}
    {answer : α} (question : calls i = .question ask) (there : s.phase i = .answered answer) :
    ∃ before later u, events = before ++ .load i :: later ∧
      after? calls value before = some u ∧ answer = ask u.now := by
  obtain ⟨asked, _, called, ⟨before, later, u, split, happened, rfl⟩, rfl⟩ :=
    loaded_of_answered h there
  rw [question] at called
  cases called
  exact ⟨before, later, u, split, happened, rfl⟩

/-- A question that takes hold of a value later finds one that is there later. -/
theorem Loaded.exists_later {i : ι} {seen : σ} (h : Loaded calls value (events ++ later) i seen)
    (fresh : .load i ∉ events) :
    ∃ between u, after? calls value (events ++ between) = some u ∧ u.now = seen := by
  obtain ⟨before, rest, u, split, happened, same⟩ := h
  obtain ⟨between, rfl, -⟩ | ⟨between, rfl, other⟩ := List.append_eq_append_iff.mp split
  · exact ⟨between, u, happened, same⟩
  · cases between with
    | nil => exact ⟨[], u, by simpa using happened, same⟩
    | cons e between =>
      obtain ⟨rfl, -⟩ := List.cons.inj other
      exact absurd (List.mem_append_right before List.mem_cons_self) fresh

end HttpGateway.Shared
