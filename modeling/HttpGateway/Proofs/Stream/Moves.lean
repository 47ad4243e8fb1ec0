import HttpGateway.Forwarding.Stream

/-!
# The moves of a stream

Every event of a stream under a timer is one of a small number of moves: what a party finds when its
turn comes decides which. A property of all runs is proved move by move. The first such property is
that the parties agree about the lock: never two of them have it, whoever has it has emptied the
buffer, and once the copier has had it for the last time nothing is left to send.
-/

namespace HttpGateway

namespace Copier

/-- The copier has the lock. -/
def hasLock : Copier → Bool
  | .sending _ | .flushing _ => true
  | .reading | .holding _ | .finishing | .trailing | .ended | .failed => false

/-- The chunk that the copier sends. -/
def chunk : Copier → Bytes
  | .sending c | .flushing c => c
  | .reading | .holding _ | .finishing | .trailing | .ended | .failed => []

/-- The data that wait for the lock. -/
def held : Copier → Bytes
  | .holding d => d
  | .reading | .sending _ | .finishing | .flushing _ | .trailing | .ended | .failed => []

/-- The copier has not come to the end of the body. -/
def isCopying : Copier → Bool
  | .reading | .holding _ | .sending _ => true
  | .finishing | .flushing _ | .trailing | .ended | .failed => false

/-- The copier has the lock, or has had it for the last time. -/
def isAlone : Copier → Bool
  | .sending _ | .flushing _ | .trailing | .ended => true
  | .reading | .holding _ | .finishing | .failed => false

/-- The copier sends something. -/
def isSending : Copier → Bool
  | .sending _ | .flushing _ | .trailing => true
  | .reading | .holding _ | .finishing | .ended | .failed => false

/-- What a copier may be sending: a chunk, the last chunk or the trailers. -/
theorem cases_of_isSending {c : Copier} (h : c.isSending = true) :
    (∃ chunk, c = .sending chunk) ∨ (∃ chunk, c = .flushing chunk) ∨ c = .trailing := by
  cases c with
  | sending chunk => exact .inl ⟨chunk, rfl⟩
  | flushing chunk => exact .inr (.inl ⟨chunk, rfl⟩)
  | trailing => exact .inr (.inr rfl)
  | reading => cases h
  | holding d => cases h
  | finishing => cases h
  | ended => cases h
  | failed => cases h

end Copier

namespace Ticker

/-- The ticker has the lock. -/
def hasLock : Ticker → Bool
  | .sending _ => true
  | .off | .sleeping | .waiting => false

/-- The chunk that the ticker sends. -/
def chunk : Ticker → Bytes
  | .sending c => c
  | .off | .sleeping | .waiting => []

/-- A ticker without the lock has no chunk. -/
theorem chunk_of_hasLock {t : Ticker} (h : t.hasLock = false) : t.chunk = [] := by
  cases t with
  | sending c => cases h
  | off => rfl
  | sleeping => rfl
  | waiting => rfl

end Ticker

namespace Stream

/-- The lock is free exactly when neither party has it. -/
theorem lockFree_iff (s : Stream) :
    s.lockFree = true ↔ s.copier.hasLock = false ∧ s.ticker.hasLock = false := by
  unfold lockFree
  cases s.copier <;> cases s.ticker <;> simp [Copier.hasLock, Ticker.hasLock]

/-- A copy is over when the copier has come to its end or has given up. -/
theorem isOver_iff (s : Stream) : s.isOver = true ↔ s.copier = .ended ∨ s.copier = .failed := by
  simp [isOver]

/-- What an event does to a stream under a timer, by what the party whose event it is finds. -/
inductive Move (s : Stream) : Event → Stream → Prop
  | readEnd : s.copier = .reading → s.source = [] → Move s .read s.finish
  | readData (d : Bytes) (rest : List Piece) :
    s.copier = .reading → s.source = .data d :: rest →
    Move s .read { s with source := rest, copier := .holding d }
  | readTrailers (t : HeaderMap) (rest : List Piece) :
    s.copier = .reading → s.source = .trailers t :: rest →
    Move s .read { s with
      source := rest, trailers := Frame.mergeTrailers s.trailers (.trailers t) }
  | readFailure (why : String) (rest : List Piece) :
    s.copier = .reading → s.source = .failure why :: rest →
    Move s .read { s with source := rest }.finish
  | fill (d : Bytes) :
    s.lockFree = true → s.copier = .holding d →
    s.pool.size ≤ (s.buffer.content ++ d).length →
    Move s .lock { s with
      buffer := (s.buffer.write d).clear, copier := .sending (s.buffer.content ++ d) }
  | keep (d : Bytes) :
    s.lockFree = true → s.copier = .holding d →
    (s.buffer.content ++ d).length < s.pool.size →
    Move s .lock { s with buffer := s.buffer.write d, copier := .reading }
  | close : s.lockFree = true → s.copier = .finishing → s.buffer.content = [] →
    Move s .lock s.giveBack
  | flush : s.lockFree = true → s.copier = .finishing → s.buffer.content ≠ [] →
    Move s .lock { s with buffer := s.buffer.clear, copier := .flushing s.buffer.content }
  | sendGone : s.copier.isSending = true → s.gone = true → Move s .send s.giveUp
  | sendChunk (c : Bytes) : s.copier = .sending c → s.gone = false → s.hasRoom = true →
    Move s .send { s.enqueue (.data c) with copier := .reading }
  | sendRest (c : Bytes) : s.copier = .flushing c → s.gone = false → s.hasRoom = true →
    Move s .send (s.enqueue (.data c)).giveBack
  | sendTrailers : s.copier = .trailing → s.gone = false → s.hasRoom = true →
    Move s .send { s.enqueue (.trailers (s.trailers.getD .empty)) with copier := .ended }
  | wake : s.ticker = .sleeping → Move s .tick { s with ticker := .waiting }
  | grabNothing : s.lockFree = true → s.ticker = .waiting → s.buffer.content = [] →
    Move s .grab { s with ticker := .sleeping }
  | grab : s.lockFree = true → s.ticker = .waiting → s.buffer.content ≠ [] →
    Move s .grab { s with buffer := s.buffer.clear, ticker := .sending s.buffer.content }
  | pushGone (c : Bytes) : s.ticker = .sending c → s.gone = true →
    Move s .push { s with ticker := .off }
  | push (c : Bytes) : s.ticker = .sending c → s.gone = false → s.hasRoom = true →
    Move s .push { s.enqueue (.data c) with ticker := .sleeping }
  | drop : s.stopped = true → s.ticker ≠ .off → Move s .drop { s with ticker := .off }
  | receive (f : Frame) (rest : List Frame) : s.gone = false → s.queue = f :: rest →
    Move s .receive { s with queue := rest, received := s.received ++ [f] }
  | leave : s.gone = false → Move s .leave { s with gone := true }

private theorem move_read {s t : Stream} (timed : s.timed = true) (h : s.stepRead = some t) :
    Move s .read t := by
  unfold stepRead at h
  split at h
  · next hc hs => cases h; exact .readEnd hc hs
  · next d rest hc hs =>
    rw [if_pos timed] at h
    cases h
    exact .readData d rest hc hs
  · next tr rest hc hs => cases h; exact .readTrailers tr rest hc hs
  · next why rest hc hs => cases h; exact .readFailure why rest hc hs
  · cases h

private theorem move_lock {s t : Stream} (h : s.stepLock = some t) : Move s .lock t := by
  unfold stepLock at h
  split at h
  · cases h
  · next free =>
    have free : s.lockFree = true := by simpa using free
    split at h
    · next d hc =>
      simp only [Buffer.content_write] at h
      split at h
      · next hl => cases h; exact .fill d free hc hl
      · next hl => cases h; exact .keep d free hc (Nat.lt_of_not_le hl)
    · next hc =>
      split at h
      · next he => cases h; exact .close free hc (List.isEmpty_iff.mp he)
      · next he => cases h; exact .flush free hc fun e ↦ he (List.isEmpty_iff.mpr e)
    · cases h

/-- What the copier's send does. -/
theorem move_send {s t : Stream} (h : s.stepSend = some t) : Move s .send t := by
  unfold stepSend at h
  split at h
  · next c hc =>
    split at h
    · next hg => cases h; exact .sendGone (by rw [hc]; rfl) hg
    · next hg =>
      split at h
      · next hr => cases h; exact .sendChunk c hc (by simpa using hg) hr
      · cases h
  · next c hc =>
    split at h
    · next hg => cases h; exact .sendGone (by rw [hc]; rfl) hg
    · next hg =>
      split at h
      · next hr => cases h; exact .sendRest c hc (by simpa using hg) hr
      · cases h
  · next hc =>
    split at h
    · next hg => cases h; exact .sendGone (by rw [hc]; rfl) hg
    · next hg =>
      split at h
      · next hr => cases h; exact .sendTrailers hc (by simpa using hg) hr
      · cases h
  · cases h

private theorem move_grab {s t : Stream} (h : s.stepGrab = some t) : Move s .grab t := by
  unfold stepGrab at h
  split at h
  · cases h
  · next hb =>
    have hb : s.lockFree = true ∧ s.ticker = .waiting := by simpa using hb
    split at h
    · next he => cases h; exact .grabNothing hb.1 hb.2 (List.isEmpty_iff.mp he)
    · next he => cases h; exact .grab hb.1 hb.2 fun e ↦ he (List.isEmpty_iff.mpr e)

private theorem move_push {s t : Stream} (h : s.stepPush = some t) : Move s .push t := by
  unfold stepPush at h
  split at h
  · next c hc =>
    split at h
    · next hg => cases h; exact .pushGone c hc hg
    · next hg =>
      split at h
      · next hr => cases h; exact .push c hc (by simpa using hg) hr
      · cases h
  · cases h

/-- Every event that happens to a stream under a timer is one of the moves. -/
theorem move_of_step {s t : Stream} {e : Event} (timed : s.timed = true)
    (h : s.step e = some t) : Move s e t := by
  cases e with
  | read => exact move_read timed h
  | lock => exact move_lock h
  | send => exact move_send h
  | tick =>
    simp only [step] at h
    split at h
    · next ht => cases h; exact .wake ht
    · cases h
  | grab => exact move_grab h
  | push => exact move_push h
  | drop =>
    simp only [step] at h
    split at h
    · next hd =>
      have hd : s.stopped = true ∧ s.ticker ≠ .off := by simpa using hd
      cases h
      exact .drop hd.1 hd.2
    · cases h
  | receive =>
    simp only [step] at h
    split at h
    · next f rest hg hq => cases h; exact .receive f rest hg hq
    · cases h
  | leave =>
    simp only [step] at h
    split at h
    · cases h
    · next hg => cases h; exact .leave (by simpa using hg)

/-- What the parties of a stream under a timer agree on at every moment. -/
structure Coherent (s : Stream) : Prop where
  timed : s.timed = true
  /-- When the copier has the lock or is past it, the buffer is empty and the ticker lockless. -/
  alone : s.copier.isAlone = true → s.ticker.hasLock = false ∧ s.buffer.content = []
  /-- A ticker with the lock has emptied the buffer into a chunk. -/
  loaded : s.ticker.hasLock = true → s.ticker.chunk ≠ [] ∧ s.buffer.content = []
  /-- The ticker is told to stop when the copier comes to the end of the body or gives up. -/
  stopped : s.stopped = !s.copier.isCopying
  /-- The copier gives up only because the caller has gone. -/
  failed : s.copier = .failed → s.gone = true

/-- Under a timer the end of the body only tells the ticker to stop. -/
theorem finish_of_timed {s : Stream} (timed : s.timed = true) :
    s.finish = { s with stopped := true, copier := .finishing } := by
  simp only [finish, timed, if_true]

@[simp] theorem gone_finish (s : Stream) : s.finish.gone = s.gone := by
  unfold finish
  split <;> rfl

@[simp] theorem ticker_finish (s : Stream) : s.finish.ticker = s.ticker := by
  unfold finish
  split <;> rfl

/-- Having given the buffer back, the copier goes on to the trailers or is at its end. -/
theorem copier_giveBack (s : Stream) :
    s.giveBack.copier = .trailing ∨ s.giveBack.copier = .ended := by
  change (if s.trailers.isSome then Copier.trailing else .ended) = _ ∨
    (if s.trailers.isSome then Copier.trailing else .ended) = _
  split
  · exact .inl rfl
  · exact .inr rfl

private theorem coherent_finish {s t : Stream} (h : s.Coherent) (timed : t.timed = true)
    (ticker : t.ticker = s.ticker) (buffer : t.buffer = s.buffer) : t.finish.Coherent := by
  rw [finish_of_timed timed]
  refine ⟨timed, nofun, ?_, rfl, nofun⟩
  intro hl
  change t.ticker.chunk ≠ [] ∧ t.buffer.content = []
  rw [ticker, buffer]
  exact h.loaded (ticker ▸ hl)

private theorem coherent_of_lockFree {s t : Stream} (h : s.Coherent) (free : s.lockFree = true)
    (timed : t.timed = s.timed) (ticker : t.ticker = s.ticker)
    (empty : t.copier.isAlone = true → t.buffer.content = [])
    (stopped : t.stopped = !t.copier.isCopying) (stays : t.copier ≠ .failed) : t.Coherent := by
  have unlocked : t.ticker.hasLock = false := ticker ▸ ((lockFree_iff s).mp free).2
  refine ⟨timed.trans h.timed, fun ha ↦ ⟨unlocked, empty ha⟩, ?_, stopped, ?_⟩
  · intro hl
    rw [unlocked] at hl
    cases hl
  · intro hf
    exact absurd hf stays

private theorem coherent_giveBack {t : Stream} (timed : t.timed = true)
    (ticker : t.ticker.hasLock = false) (stopped : t.stopped = true) : t.giveBack.Coherent := by
  have hc := copier_giveBack t
  refine ⟨timed, fun _ ↦ ⟨ticker, rfl⟩, ?_, ?_, ?_⟩
  · intro hl
    exact absurd hl (ticker ▸ Bool.false_ne_true)
  · change t.stopped = _
    rw [stopped]
    rcases hc with hc | hc <;> rw [hc] <;> rfl
  · intro hf
    rcases hc with hc | hc <;> rw [hc] at hf <;> cases hf

/-- A move keeps the parties in agreement. -/
theorem Coherent.move {s t : Stream} {e : Event} (h : s.Coherent) (m : Move s e t) :
    t.Coherent := by
  have stopped := h.stopped
  cases m with
  | readEnd hc _ => exact coherent_finish h h.timed rfl rfl
  | readFailure why rest hc _ => exact coherent_finish h h.timed rfl rfl
  | readData d rest hc _ =>
    rw [hc] at stopped
    exact ⟨h.timed, nofun, h.loaded, stopped, nofun⟩
  | readTrailers t rest hc _ => exact ⟨h.timed, h.alone, h.loaded, h.stopped, h.failed⟩
  | fill d free hc _ =>
    rw [hc] at stopped
    exact coherent_of_lockFree h free rfl rfl (fun _ ↦ rfl) stopped nofun
  | keep d free hc _ =>
    rw [hc] at stopped
    exact coherent_of_lockFree h free rfl rfl nofun stopped nofun
  | close free hc _ =>
    rw [hc] at stopped
    exact coherent_giveBack h.timed ((lockFree_iff s).mp free).2 stopped
  | flush free hc _ =>
    rw [hc] at stopped
    exact coherent_of_lockFree h free rfl rfl (fun _ ↦ rfl) stopped nofun
  | sendGone _ hg => exact ⟨h.timed, nofun, h.loaded, rfl, fun _ ↦ hg⟩
  | sendChunk c hc _ _ =>
    rw [hc] at stopped
    exact ⟨h.timed, nofun, h.loaded, stopped, nofun⟩
  | sendRest c hc _ _ =>
    rw [hc] at stopped
    exact coherent_giveBack h.timed (h.alone (by rw [hc]; rfl)).1 stopped
  | sendTrailers hc _ _ =>
    rw [hc] at stopped
    exact ⟨h.timed, fun _ ↦ h.alone (by rw [hc]; rfl), h.loaded, stopped, nofun⟩
  | wake ht =>
    exact ⟨h.timed, fun ha ↦ ⟨rfl, (h.alone ha).2⟩, nofun, h.stopped, h.failed⟩
  | grabNothing _ _ _ =>
    exact ⟨h.timed, fun ha ↦ ⟨rfl, (h.alone ha).2⟩, nofun, h.stopped, h.failed⟩
  | grab _ _ he =>
    -- the copier is not alone, for then there would be nothing in the buffer
    exact ⟨h.timed, fun ha ↦ absurd (h.alone ha).2 he, fun _ ↦ ⟨he, rfl⟩, h.stopped, h.failed⟩
  | pushGone c _ _ =>
    exact ⟨h.timed, fun ha ↦ ⟨rfl, (h.alone ha).2⟩, nofun, h.stopped, h.failed⟩
  | push c _ _ _ =>
    exact ⟨h.timed, fun ha ↦ ⟨rfl, (h.alone ha).2⟩, nofun, h.stopped, h.failed⟩
  | drop _ _ =>
    exact ⟨h.timed, fun ha ↦ ⟨rfl, (h.alone ha).2⟩, nofun, h.stopped, h.failed⟩
  | receive f rest _ _ => exact ⟨h.timed, h.alone, h.loaded, h.stopped, h.failed⟩
  | leave _ => exact ⟨h.timed, h.alone, h.loaded, h.stopped, fun _ ↦ rfl⟩

/-- The parties agree when a stream under a timer starts. -/
theorem coherent_start (pool : BufferPool) (source : List Piece) :
    (start true pool source).Coherent :=
  ⟨rfl, nofun, nofun, rfl, nofun⟩

/-- A property that every move keeps is kept by every run. -/
theorem run?_induction {p : Stream → Prop} (keeps : ∀ {s t : Stream} {e : Event},
      s.Coherent → p s → Move s e t → p t)
    {s t : Stream} {es : List Event} (h : s.Coherent) (hp : p s) (run : s.run? es = some t) :
    t.Coherent ∧ p t := by
  induction es generalizing s with
  | nil =>
    cases run
    exact ⟨h, hp⟩
  | cons e es ih =>
    obtain ⟨u, hu, run⟩ := Option.bind_eq_some_iff.mp run
    have m := move_of_step h.timed hu
    exact ih (h.move m) (keeps h hp m) run

/-- The parties agree at the end of every run. -/
theorem Coherent.run {s t : Stream} {es : List Event} (h : s.Coherent)
    (run : s.run? es = some t) : t.Coherent :=
  (run?_induction (p := fun _ ↦ True) (fun _ _ _ ↦ trivial) h trivial run).1

/-- In a run an event happens to a stream of some kind. -/
def Passes (s : Stream) (f : Event) (p : Stream → Prop) (es : List Event) : Prop :=
  ∃ before after t, es = before ++ f :: after ∧ s.run? before = some t ∧ p t

/-- Nothing happens in an empty run. -/
theorem not_passes_nil (s : Stream) (f : Event) (p : Stream → Prop) : ¬ s.Passes f p [] := by
  rintro ⟨before, after, _, eq, _⟩
  cases before <;> cases eq

/-- What happens in a run happens at once or later. -/
theorem passes_cons_iff {s t : Stream} {e f : Event} {p : Stream → Prop} {es : List Event}
    (he : s.step e = some t) : s.Passes f p (e :: es) ↔ (e = f ∧ p s) ∨ t.Passes f p es := by
  constructor
  · rintro ⟨before, after, u, eq, hu, hp⟩
    cases before with
    | nil =>
      obtain ⟨rfl, rfl⟩ := List.cons_eq_cons.mp eq
      cases hu
      exact .inl ⟨rfl, hp⟩
    | cons e' before =>
      obtain ⟨rfl, rfl⟩ := List.cons_eq_cons.mp eq
      rw [run?, he] at hu
      exact .inr ⟨before, after, u, rfl, hu, hp⟩
  · rintro (⟨rfl, hp⟩ | ⟨before, after, u, rfl, hu, hp⟩)
    · exact ⟨[], es, s, rfl, rfl, hp⟩
    · refine ⟨e :: before, after, u, rfl, ?_, hp⟩
      rw [run?, he]
      exact hu

/-- A caller who has gone does not come back. -/
theorem gone_of_move {s t : Stream} {e : Event} (m : Move s e t) (hg : s.gone = true) :
    t.gone = true := by
  cases m with
  | readEnd _ _ => rwa [gone_finish]
  | readFailure why rest _ _ => rwa [gone_finish]
  | leave _ => rfl
  | _ => exact hg

/-- The caller of a stream whose caller stays has been there all the time. -/
theorem stays_of_run {s t : Stream} {es : List Event} (h : s.Coherent) (run : s.run? es = some t)
    (stays : t.gone = false) : s.gone = false := by
  cases hg : s.gone with
  | false => rfl
  | true =>
    have gone := (run?_induction (p := fun s ↦ s.gone = true)
      (fun _ hg m ↦ gone_of_move m hg) h hg run).2
    rw [stays] at gone
    cases gone

/-- A ticker that is off stays off. -/
theorem off_of_move {s t : Stream} {e : Event} (m : Move s e t) (off : s.ticker = .off) :
    t.ticker = .off := by
  cases m with
  | readEnd _ _ => rwa [ticker_finish]
  | readFailure why rest _ _ => rwa [ticker_finish]
  | wake ht => cases off.symm.trans ht
  | grabNothing _ ht _ => cases off.symm.trans ht
  | grab _ ht _ => cases off.symm.trans ht
  | push c ht _ _ => cases off.symm.trans ht
  | pushGone c _ _ => rfl
  | drop _ _ => rfl
  | _ => exact off

end Stream
end HttpGateway
