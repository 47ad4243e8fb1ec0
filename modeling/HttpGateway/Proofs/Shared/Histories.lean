import HttpGateway.Shared
import Mathlib.Data.List.Induction

/-!
# The history of a shared value

A history is a row of steps each of which could be taken in its turn, so it is one way in which
calls made at the same time can come between each other. One call at most has the lock, and while it
has it nobody else publishes: what it makes of the value is what its section makes of it by itself.
A reader answers from the value that was there when it took hold of it.
-/

namespace HttpGateway.Shared

variable {ι σ ε α : Type}

namespace Event

/-- The call that takes a step. -/
def call : Event ι → ι
  | lock i | look i | publish i | refuse i | unlock i | load i | answer i => i

/-- The call that takes the lock. -/
def locked? : Event ι → Option ι
  | lock i => some i
  | look _ | publish _ | refuse _ | unlock _ | load _ | answer _ => none

/-- The call that publishes. -/
def published? : Event ι → Option ι
  | publish i => some i
  | lock _ | look _ | refuse _ | unlock _ | load _ | answer _ => none

end Event

namespace Phase

/-- A call in this phase has the lock. -/
def hasLock : Phase σ ε α → Bool
  | inside _ | leaving _ => true
  | waiting | left _ | loaded _ | answered _ => false

/-- A call in this phase has published. -/
def hasPublished : Phase σ ε α → Bool
  | leaving (.ok _) | left (.ok _) => true
  | leaving (.error _) | left (.error _) | waiting | inside _ | loaded _ | answered _ => false

end Phase

/-- The calls that have had the lock, in order. -/
def locked (events : List (Event ι)) : List ι := events.filterMap Event.locked?

variable [DecidableEq ι]

/-- The calls that have published, in the order in which they had the lock. -/
def published (events : List (Event ι)) : List ι :=
  (locked events).filter fun i ↦ .publish i ∈ events

variable {calls : ι → Call σ ε α} {value : σ} {events : List (Event ι)} {s t : Shared ι σ ε α}

/-! ## The order of the lock -/

omit [DecidableEq ι] in
/-- The call that takes the lock comes behind those that have had it. -/
theorem locked_concat_lock (events : List (Event ι)) (i : ι) :
    locked (events ++ [.lock i]) = locked events ++ [i] := List.filterMap_append

omit [DecidableEq ι] in
/-- Every other step leaves it to those that have had the lock. -/
theorem locked_concat_of_ne (events : List (Event ι)) {e : Event ι} (h : e.locked? = none) :
    locked (events ++ [e]) = locked events := by
  simp [locked, h]

/-- Whoever takes the lock has not published yet. -/
theorem published_concat_lock {i : ι} (fresh : .publish i ∉ events) :
    published (events ++ [.lock i]) = published events := by
  simp [published, locked_concat_lock, fresh]

/-- Whoever has the lock and publishes comes behind those that have published. -/
theorem published_concat_publish {i : ι} {front : List ι} (last : locked events = front ++ [i])
    (single : i ∉ front) (fresh : .publish i ∉ events) :
    published (events ++ [.publish i]) = published events ++ [i] := by
  have others : ∀ j ∈ front, .publish j ∈ events ++ [.publish i] ↔ .publish j ∈ events := by
    intro j among
    have different : j ≠ i := fun same ↦ single (same ▸ among)
    simp [different]
  unfold published
  rw [locked_concat_of_ne events rfl, last, List.filter_append, List.filter_append]
  have same : front.filter (fun j ↦ .publish j ∈ events ++ [.publish i]) =
      front.filter fun j ↦ .publish j ∈ events :=
    List.filter_congr fun j among ↦ decide_eq_decide.mpr (others j among)
  rw [same]
  simp [fresh]

/-- Every other step leaves it to those that have published. -/
theorem published_concat_of_ne (events : List (Event ι)) {e : Event ι} (h : e.locked? = none)
    (h' : e.published? = none) : published (events ++ [e]) = published events := by
  have others : ∀ j, .publish j ∈ events ++ [e] ↔ .publish j ∈ events := by
    intro j
    rw [List.mem_append, List.mem_singleton, or_iff_left]
    rintro rfl
    cases h'
  simp only [published, locked_concat_of_ne events h, others]

/-! ## Histories -/

/-- A history goes through the values after its beginnings. -/
theorem after?_append_iff {before later : List (Event ι)} :
    after? calls value (before ++ later) = some t ↔
      ∃ s, after? calls value before = some s ∧ later.foldlM (step calls) s = some t := by
  unfold after?
  rw [List.foldlM_append]
  exact Option.bind_eq_some_iff

/-- The last event of a history happens after the others. -/
theorem after?_concat_iff {e : Event ι} :
    after? calls value (events ++ [e]) = some t ↔
      ∃ s, after? calls value events = some s ∧ step calls s e = some t := by
  rw [after?_append_iff]
  simp

/-- What holds at first and is kept by every step holds after every history. -/
theorem holds_of_after? (holds : List (Event ι) → Shared ι σ ε α → Prop)
    (start : holds [] (start value))
    (next : ∀ events s e t, after? calls value events = some s → holds events s →
      step calls s e = some t → holds (events ++ [e]) t)
    (h : after? calls value events = some s) : holds events s := by
  induction events using List.reverseRecOn generalizing s with
  | nil =>
    cases h
    exact start
  | append_singleton events e ih =>
    obtain ⟨before, earlier, last⟩ := after?_concat_iff.mp h
    exact next events before e s earlier (ih earlier) last

/-! ## Moves -/

/-- Moving a call on leaves the value and the lock alone. -/
@[simp] theorem now_moved (s : Shared ι σ ε α) (i : ι) (phase : Phase σ ε α) :
    (s.moved i phase).now = s.now := rfl

@[inherit_doc now_moved, simp] theorem holder_moved (s : Shared ι σ ε α) (i : ι)
    (phase : Phase σ ε α) : (s.moved i phase).holder = s.holder := rfl

/-- The phase of a call that is moved on. -/
@[simp] theorem phase_moved_self (s : Shared ι σ ε α) (i : ι) (phase : Phase σ ε α) :
    (s.moved i phase).phase i = phase := if_pos rfl

/-- The phase of every other call stays. -/
theorem phase_moved_of_ne (s : Shared ι σ ε α) {i j : ι} (phase : Phase σ ε α) (h : j ≠ i) :
    (s.moved i phase).phase j = s.phase j := if_neg h

/-- What a step makes of a shared value, by what the call that takes it has come to. -/
inductive Move (calls : ι → Call σ ε α) (s : Shared ι σ ε α) : Event ι → Shared ι σ ε α → Prop
  | lock (i : ι) (body : Section σ ε) :
    calls i = .change body → s.phase i = .waiting → s.holder = none →
    Move calls s (.lock i) { s.moved i (.inside body) with holder := some i }
  | look (i : ι) (next : σ → Section σ ε) :
    s.phase i = .inside (.look next) → Move calls s (.look i) (s.moved i (.inside (next s.now)))
  | publish (i : ι) (change : σ → σ) :
    s.phase i = .inside (.publish change) →
    Move calls s (.publish i) { s.moved i (.leaving (.ok ())) with now := change s.now }
  | refuse (i : ι) (e : ε) :
    s.phase i = .inside (.refuse e) → Move calls s (.refuse i) (s.moved i (.leaving (.error e)))
  | unlock (i : ι) (result : Except ε Unit) :
    s.phase i = .leaving result →
    Move calls s (.unlock i) { s.moved i (.left result) with holder := none }
  | load (i : ι) (ask : σ → α) :
    calls i = .question ask → s.phase i = .waiting →
    Move calls s (.load i) (s.moved i (.loaded s.now))
  | answer (i : ι) (ask : σ → α) (seen : σ) :
    calls i = .question ask → s.phase i = .loaded seen →
    Move calls s (.answer i) (s.moved i (.answered (ask seen)))

/-- A step is one of the moves. -/
theorem move_of_step {e : Event ι} (h : step calls s e = some t) : Move calls s e t := by
  cases e with
  | lock i =>
    simp only [step] at h
    split at h
    · next body own there free =>
      cases h
      exact .lock i body own there free
    · cases h
  | look i =>
    simp only [step] at h
    split at h
    · next next there =>
      cases h
      exact .look i next there
    · cases h
  | publish i =>
    simp only [step] at h
    split at h
    · next change there =>
      cases h
      exact .publish i change there
    · cases h
  | refuse i =>
    simp only [step] at h
    split at h
    · next e there =>
      cases h
      exact .refuse i e there
    · cases h
  | unlock i =>
    simp only [step] at h
    split at h
    · next result there =>
      cases h
      exact .unlock i result there
    · cases h
  | load i =>
    simp only [step] at h
    split at h
    · next ask own there =>
      cases h
      exact .load i ask own there
    · cases h
  | answer i =>
    simp only [step] at h
    split at h
    · next ask seen own there =>
      cases h
      exact .answer i ask seen own there
    · cases h

namespace Move

variable {e : Event ι} {j : ι}

/-- A step leaves the phase of every other call as it is. -/
theorem phase_of_ne (move : Move calls s e t) (other : j ≠ e.call) : t.phase j = s.phase j := by
  cases move with
  | lock | look | publish | refuse | unlock | load | answer => exact phase_moved_of_ne s _ other

/-- After a step too, the holder of the lock is the call whose phase says so. -/
theorem holder (move : Move calls s e t) (held : ∀ i, s.holder = some i ↔ (s.phase i).hasLock)
    (j : ι) : t.holder = some j ↔ (t.phase j).hasLock := by
  by_cases own : j = e.call
  case neg =>
    rw [move.phase_of_ne own]
    cases move with
    | look | publish | refuse | load | answer => exact held j
    | lock i body called there free =>
      rw [← held j, free]
      exact ⟨fun same ↦ absurd (Option.some.inj same).symm own, nofun⟩
    | unlock i result there =>
      have mine : s.holder = some i := (held i).mpr (by rw [there]; rfl)
      rw [← held j, mine]
      exact ⟨nofun, fun same ↦ absurd (Option.some.inj same).symm own⟩
  case pos =>
    subst own
    cases move with
    | lock i body called there free => simp [Event.call, Phase.hasLock]
    | unlock i result there => simp [Event.call, Phase.hasLock]
    | look i next there => simp [Event.call, held, there, Phase.hasLock]
    | publish i change there => simp [Event.call, held, there, Phase.hasLock]
    | refuse i e there => simp [Event.call, held, there, Phase.hasLock]
    | load i ask called there => simp [Event.call, held, there, Phase.hasLock]
    | answer i ask seen called there => simp [Event.call, held, there, Phase.hasLock]

/-- After a step too, the calls that have published are those whose phases say so. -/
theorem publish_mem_iff (move : Move calls s e t)
    (known : ∀ i, .publish i ∈ events ↔ (s.phase i).hasPublished) (j : ι) :
    .publish j ∈ events ++ [e] ↔ (t.phase j).hasPublished := by
  rw [List.mem_append, List.mem_singleton, known j]
  by_cases own : j = e.call
  case neg =>
    rw [move.phase_of_ne own]
    have other : .publish j ≠ e := fun same ↦ own (same ▸ rfl)
    simp [other]
  case pos =>
    subst own
    cases move with
    | lock i body called there free => simp [Event.call, there, Phase.hasPublished]
    | look i next there => simp [Event.call, there, Phase.hasPublished]
    | publish i change there => simp [Event.call, Phase.hasPublished]
    | refuse i e there => simp [Event.call, there, Phase.hasPublished]
    | unlock i result there => cases result <;> simp [Event.call, there, Phase.hasPublished]
    | load i ask called there => simp [Event.call, there, Phase.hasPublished]
    | answer i ask seen called there => simp [Event.call, there, Phase.hasPublished]

end Move

/-! ## What has happened to a call -/

/-- What becomes of a value and what a call is told, by what its section makes of the value. -/
def Outcome (old new : σ) (result : Except ε Unit) : Except ε σ → Prop
  | .ok made => new = made ∧ result = .ok ()
  | .error e => new = old ∧ result = .error e

/-- A call has had the lock, and came to the result that its section makes, by itself, of the value
that was there when it took the lock. -/
def Settled (calls : ι → Call σ ε α) (value : σ) (events : List (Event ι)) (i : ι)
    (result : Except ε Unit) : Prop :=
  ∃ body before during later s₀ s₁, calls i = .change body ∧
    events = before ++ .lock i :: during ++ later ∧ after? calls value before = some s₀ ∧
    after? calls value (before ++ .lock i :: during) = some s₁ ∧ s₁.phase i = .leaving result ∧
    Outcome s₀.now s₁.now result (body.run s₀.now)

/-- A call has taken hold of the value that was there at that time. -/
def Loaded (calls : ι → Call σ ε α) (value : σ) (events : List (Event ι)) (i : ι) (seen : σ) :
    Prop :=
  ∃ before later s₀, events = before ++ .load i :: later ∧
    after? calls value before = some s₀ ∧ s₀.now = seen

/-- What a history tells of a call that has come to a phase while there is some value. -/
inductive Told (calls : ι → Call σ ε α) (value : σ) (events : List (Event ι)) (now : σ) (i : ι) :
    Phase σ ε α → Prop
  | waiting : (∀ e ∈ events, e.call ≠ i) → Told calls value events now i .waiting
  /-- The value is still the one of the time when the call took the lock. -/
  | inside (body rest : Section σ ε) (before during : List (Event ι)) (s₀ : Shared ι σ ε α) :
    calls i = .change body → events = before ++ .lock i :: during →
    after? calls value before = some s₀ → s₀.now = now → rest.run now = body.run now →
    Told calls value events now i (.inside rest)
  | leaving (result : Except ε Unit) :
    Settled calls value events i result → Told calls value events now i (.leaving result)
  | left (result : Except ε Unit) :
    Settled calls value events i result → Told calls value events now i (.left result)
  | loaded (seen : σ) :
    Loaded calls value events i seen → Told calls value events now i (.loaded seen)
  | answered (ask : σ → α) (seen : σ) :
    calls i = .question ask → Loaded calls value events i seen →
    Told calls value events now i (.answered (ask seen))

/-- A call that has come out of the lock has come out of it for good. -/
theorem Settled.append {i : ι} {result : Except ε Unit} (h : Settled calls value events i result)
    (later : List (Event ι)) : Settled calls value (events ++ later) i result := by
  obtain ⟨body, before, during, rest, s₀, s₁, called, rfl, first, last⟩ := h
  exact ⟨body, before, during, rest ++ later, s₀, s₁, called, List.append_assoc _ _ _, first, last⟩

/-- What a call has taken hold of it keeps. -/
theorem Loaded.append {i : ι} {seen : σ} (h : Loaded calls value events i seen)
    (later : List (Event ι)) : Loaded calls value (events ++ later) i seen := by
  obtain ⟨before, rest, s₀, rfl, first, same⟩ := h
  exact ⟨before, rest ++ later, s₀, List.append_assoc _ _ _, first, same⟩

/-- A step of another call changes nothing about a call, if the value stays while the call has the
lock. -/
theorem Told.concat {now next : σ} {i : ι} {phase : Phase σ ε α}
    (h : Told calls value events now i phase) {e : Event ι} (other : e.call ≠ i)
    (kept : phase.hasLock → next = now) : Told calls value (events ++ [e]) next i phase := by
  cases h with
  | waiting fresh =>
    apply Told.waiting
    rw [List.forall_mem_append]
    exact ⟨fresh, List.forall_mem_singleton.mpr other⟩
  | inside body rest before during s₀ called split first same run =>
    obtain rfl := kept rfl
    subst split
    exact .inside body rest before (during ++ [e]) s₀ called (List.append_assoc _ _ _) first same
      run
  | leaving result settled => exact .leaving result (settled.append [e])
  | left result settled => exact .left result (settled.append [e])
  | loaded seen loaded => exact .loaded seen (loaded.append [e])
  | answered ask seen called loaded => exact .answered ask seen called (loaded.append [e])

/-- What a history tells of the calls, and in which order they publish. -/
structure Recorded (calls : ι → Call σ ε α) (value : σ) (events : List (Event ι))
    (s : Shared ι σ ε α) : Prop where
  holder : ∀ i, s.holder = some i ↔ (s.phase i).hasLock
  publish_mem_iff : ∀ i, .publish i ∈ events ↔ (s.phase i).hasPublished
  told : ∀ i, Told calls value events s.now i (s.phase i)
  /-- Nobody has the lock twice. -/
  nodup : (locked events).Nodup
  /-- The call that has the lock is the last one that took it. -/
  last : ∀ i, s.holder = some i → ∃ front, locked events = front ++ [i]
  /-- Calls publish in the order in which they have the lock. -/
  order : events.filterMap Event.published? = published events

namespace Recorded

/-- Whoever changes the value has the lock. -/
theorem now_of_hasLock (h : Recorded calls value events s) {e : Event ι} (move : Move calls s e t)
    {j : ι} (other : j ≠ e.call) (lock : (s.phase j).hasLock) : t.now = s.now := by
  cases move with
  | publish i change there =>
    have mine : s.holder = some i := (h.holder i).mpr (by rw [there]; rfl)
    have others : s.holder = some j := (h.holder j).mpr lock
    rw [mine] at others
    exact absurd (Option.some.inj others).symm other
  | lock | look | refuse | unlock | load | answer => rfl

/-- What comes of a step of a call that has the lock if it publishes or refuses. -/
theorem settled_of_inside {i : ι} {rest : Section σ ε} (h : Recorded calls value events s)
    (there : s.phase i = .inside rest) {e : Event ι} {result : Except ε Unit}
    (happened : after? calls value (events ++ [e]) = some t) (come : t.phase i = .leaving result)
    (outcome : Outcome s.now t.now result (rest.run s.now)) :
    Settled calls value (events ++ [e]) i result := by
  have told := h.told i
  rw [there] at told
  cases told with
  | inside body _ before during s₀ called split first same run =>
    subst split
    refine ⟨body, before, during ++ [e], [], s₀, t, called, ?_, first, ?_, come, ?_⟩
    · simp
    · simpa using happened
    · rw [same, ← run]
      exact outcome

/-- After a step too, the history tells how far every call has come. -/
theorem told_concat (h : Recorded calls value events s) {e : Event ι}
    (before : after? calls value events = some s) (happened : step calls s e = some t) (j : ι) :
    Told calls value (events ++ [e]) t.now j (t.phase j) := by
  have move := move_of_step happened
  have last : after? calls value (events ++ [e]) = some t :=
    after?_concat_iff.mpr ⟨s, before, happened⟩
  by_cases own : j = e.call
  case neg =>
    rw [move.phase_of_ne own]
    exact (h.told j).concat (Ne.symm own) (h.now_of_hasLock move own)
  case pos =>
    subst own
    have told := h.told e.call
    cases move with
    | lock i body called there free =>
      simp only [Event.call, phase_moved_self]
      exact .inside body body events [] s called rfl before rfl rfl
    | look i next there =>
      simp only [Event.call, there] at told
      cases told with
      | inside body _ front during s₀ called split first same run =>
        subst split
        simp only [Event.call, phase_moved_self]
        exact .inside body (next s.now) front (during ++ [.look i]) s₀ called
          (List.append_assoc _ _ _) first same run
    | publish i change there =>
      simp only [Event.call, phase_moved_self]
      exact .leaving _ (h.settled_of_inside there last (phase_moved_self s i _) ⟨rfl, rfl⟩)
    | refuse i e there =>
      simp only [Event.call, phase_moved_self]
      exact .leaving _ (h.settled_of_inside there last (phase_moved_self s i _) ⟨rfl, rfl⟩)
    | unlock i result there =>
      simp only [Event.call, there] at told
      cases told with
      | leaving _ settled =>
        simp only [Event.call, phase_moved_self]
        exact .left result (settled.append _)
    | load i ask called there =>
      simp only [Event.call, phase_moved_self]
      exact .loaded s.now ⟨events, [], s, rfl, before, rfl⟩
    | answer i ask seen called there =>
      simp only [Event.call, there] at told
      cases told with
      | loaded _ loaded =>
        simp only [Event.call, phase_moved_self]
        exact .answered ask seen called (loaded.append _)

/-- The call that has the lock took it last, and has not had it before. -/
theorem exists_front (h : Recorded calls value events s) {i : ι} (lock : (s.phase i).hasLock) :
    ∃ front, locked events = front ++ [i] ∧ i ∉ front := by
  obtain ⟨front, last⟩ := h.last i ((h.holder i).mpr lock)
  have nodup := h.nodup
  rw [last, List.nodup_append] at nodup
  exact ⟨front, last, fun among ↦ nodup.2.2 i among i (List.mem_singleton_self i) rfl⟩

/-- Who has not come so far has not published. -/
theorem fresh (h : Recorded calls value events s) {i : ι}
    (there : (s.phase i).hasPublished = false) : .publish i ∉ events := by
  rw [h.publish_mem_iff i, there]
  exact Bool.false_ne_true

/-- What has not taken a step has not had the lock. -/
theorem not_mem_locked (h : Recorded calls value events s) {i : ι} (there : s.phase i = .waiting) :
    i ∉ locked events := by
  have told := h.told i
  rw [there] at told
  cases told with
  | waiting fresh =>
    intro among
    obtain ⟨e, mem, lock⟩ := List.mem_filterMap.mp among
    cases e with
    | lock j =>
      cases lock
      exact fresh _ mem rfl
    | look | publish | refuse | unlock | load | answer => cases lock

/-- After a step too, nobody has the lock twice. -/
theorem nodup_concat (h : Recorded calls value events s) {e : Event ι} (move : Move calls s e t) :
    (locked (events ++ [e])).Nodup := by
  cases move with
  | lock i body called there free =>
    rw [locked_concat_lock, List.nodup_append]
    refine ⟨h.nodup, List.nodup_cons.mpr ⟨nofun, List.nodup_nil⟩, ?_⟩
    rintro j among k single rfl
    rw [List.mem_singleton.mp single] at among
    exact h.not_mem_locked there among
  | look | publish | refuse | unlock | load | answer =>
    rw [locked_concat_of_ne events rfl]
    exact h.nodup

/-- After a step too, the lock is with the call that took it last. -/
theorem last_concat (h : Recorded calls value events s) {e : Event ι} (move : Move calls s e t)
    {i : ι} (mine : t.holder = some i) : ∃ front, locked (events ++ [e]) = front ++ [i] := by
  cases move with
  | lock j body called there free =>
    obtain rfl := Option.some.inj mine
    exact ⟨locked events, locked_concat_lock events j⟩
  | unlock j result there => cases mine
  | look | publish | refuse | load | answer =>
    rw [locked_concat_of_ne events rfl]
    exact h.last i mine

/-- After a step too, calls publish in the order in which they have the lock. -/
theorem order_concat (h : Recorded calls value events s) {e : Event ι} (move : Move calls s e t) :
    (events ++ [e]).filterMap Event.published? = published (events ++ [e]) := by
  rw [List.filterMap_append, h.order]
  cases move with
  | lock i body called there free =>
    rw [published_concat_lock (h.fresh (by rw [there]; rfl))]
    exact List.append_nil _
  | publish i change there =>
    obtain ⟨front, last, single⟩ := h.exists_front (i := i) (by rw [there]; rfl)
    rw [published_concat_publish last single (h.fresh (by rw [there]; rfl))]
    rfl
  | look | refuse | unlock | load | answer =>
    rw [published_concat_of_ne events rfl rfl]
    exact List.append_nil _

end Recorded

/-- Every history tells how far each call has come. -/
theorem recorded_of_after? (h : after? calls value events = some s) :
    Recorded calls value events s := by
  refine holds_of_after? (Recorded calls value) ?start ?next h
  case start =>
    exact ⟨fun _ ↦ ⟨nofun, nofun⟩, fun _ ↦ ⟨nofun, nofun⟩, fun _ ↦ .waiting nofun, List.nodup_nil,
      nofun, rfl⟩
  case next =>
    intro events s e t before recorded happened
    have move := move_of_step happened
    constructor
    case holder => exact move.holder recorded.holder
    case publish_mem_iff => exact move.publish_mem_iff recorded.publish_mem_iff
    case told => exact recorded.told_concat before happened
    case nodup => exact recorded.nodup_concat move
    case last => exact fun i mine ↦ recorded.last_concat move mine
    case order => exact recorded.order_concat move

end HttpGateway.Shared
