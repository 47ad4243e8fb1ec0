import HttpGateway.Forwarding.Delivery
import HttpGateway.Proofs.Stream.Direct

/-!
# A delivery without a timer comes to its end

Without a timer the copier is the only task. It has its turn, or waits for one, or waits for a piece
or for a place in the queue. From each of these it comes in a few steps to the next event of its
stream, and there are fewer of those to come with each; so the steps of a delivery are enough, and
the caller has what the stream says it has received.
-/

namespace HttpGateway.Delivery

/-- The body has ended for a caller who is there and has what was received. -/
structure AtEnd (m : Moment) : Prop where
  stays : m.stream.gone = false
  complete : m.stream.isComplete = true
  got : m.got.reverse.map Prod.snd = m.stream.received

/-- A delivery without a timer comes to its end within so many steps. -/
def Ends (fuel : Nat) (m : Moment) : Prop := ∀ more, fuel ≤ more → AtEnd (drive none 0 more m)

section

variable {m n : Moment} {fuel : Nat}

theorem ends_of_next (next : m.next? none 0 = some n) (ends : Ends fuel n) :
    Ends (fuel + 1) m := by
  intro more enough
  obtain ⟨more, rfl⟩ := Nat.exists_eq_add_of_le' (Nat.le_trans (Nat.le_add_left 1 fuel) enough)
  rw [drive, next]
  exact ends more (Nat.le_of_succ_le_succ enough)

theorem ends_of_atEnd (last : m.next? none 0 = none) (atEnd : AtEnd m) : Ends 0 m := by
  intro more _
  cases more with
  | zero => exact atEnd
  | succ more =>
    rw [drive, last]
    exact atEnd

theorem Ends.mono {more : Nat} (ends : Ends fuel m) (h : fuel ≤ more) : Ends more m :=
  fun further enough ↦ ends further (Nat.le_trans h enough)

end

namespace Moment

/-- Neither lock nor place is waited for. -/
structure Calm (m : Moment) : Prop where
  lockers : m.lockers = []
  granted : m.granted = none
  wanting : m.wanting = none

/-- The caller takes some frames of the queue and leaves others. -/
def handed (m : Moment) (frames rest : List Frame) : Moment :=
  { m with
    stream := { m.stream with queue := rest, received := m.stream.received ++ frames }
    got := (frames.map fun f ↦ (m.now, f)).reverse ++ m.got }

private theorem handed_handed (m : Moment) (f : Frame) (frames rest rest' : List Frame) :
    (m.handed [f] rest).handed frames rest' = m.handed (f :: frames) rest' := by
  simp [handed]

private theorem moved_of_calm {m : Moment} (h : m.Calm) {s : Stream} (off : s.ticker = .off) :
    m.moved s = { m with stream := s } := by
  simp [moved, grant, makeRoom, callOff, h.lockers, h.granted, h.wanting, off]

private theorem receive?_of_queue {m : Moment} {f : Frame} {rest : List Frame}
    (stays : m.stream.gone = false) (hq : m.stream.queue = f :: rest) :
    m.receive? = some ((m.handed [f] rest).moved (m.handed [f] rest).stream) := by
  unfold receive?
  rw [hq]
  simp [Stream.step, stays, hq, handed, moved]

private theorem receiveUpTo_of_calm (queue : List Frame) {m : Moment} (h : m.Calm)
    (off : m.stream.ticker = .off) (stays : m.stream.gone = false)
    (hq : m.stream.queue = queue) : m.receiveUpTo queue.length = m.handed queue [] := by
  induction queue generalizing m with
  | nil =>
    have same : { m.stream with queue := [], received := m.stream.received ++ [] } = m.stream := by
      rw [List.append_nil, ← hq]
    unfold handed
    rw [same]
    rfl
  | cons f rest ih =>
    have next : (m.handed [f] rest).Calm := ⟨h.lockers, h.granted, h.wanting⟩
    have first : m.receive? = some (m.handed [f] rest) :=
      (receive?_of_queue stays hq).trans (congrArg some (moved_of_calm next off))
    rw [List.length_cons, receiveUpTo, first]
    exact (ih next off stays rfl).trans (handed_handed m f rest rest [])

/-- The copier, which has waited for a place, waits for its turn. -/
def answered (m : Moment) : Moment :=
  { m with wanting := none, queue := m.queue ++ [.copier] }

private theorem moved_of_wanting {m : Moment} (lockers : m.lockers = [])
    (wanting : m.wanting = some .copier) (off : m.stream.ticker = .off)
    (stays : m.stream.gone = false) :
    m.moved m.stream = if m.stream.hasRoom then m.answered else m := by
  have grant : m.grant = m := by
    unfold grant
    split
    · next hl => cases lockers.symm.trans hl
    · rfl
  change m.grant.makeRoom.callOff = _
  rw [grant, makeRoom, wanting]
  cases room : m.stream.hasRoom with
  | true => simp [callOff, answered, off]
  | false => simp [callOff, off, stays]

private theorem receiveUpTo_of_wanting (queue : List Frame) {m : Moment}
    (lockers : m.lockers = []) (granted : m.granted = none) (wanting : m.wanting = some .copier)
    (off : m.stream.ticker = .off) (stays : m.stream.gone = false)
    (hq : m.stream.queue = queue) (full : queue ≠ []) :
    m.receiveUpTo queue.length = (m.handed queue []).answered := by
  induction queue generalizing m with
  | nil => exact absurd rfl full
  | cons f rest ih =>
    have first := (receive?_of_queue stays hq).trans
      (congrArg some (moved_of_wanting (m := m.handed [f] rest) lockers wanting off stays))
    rw [List.length_cons, receiveUpTo, first]
    by_cases room : (m.handed [f] rest).stream.hasRoom
    · rw [if_pos room]
      have later := receiveUpTo_of_calm (m := (m.handed [f] rest).answered) rest
        ⟨lockers, granted, rfl⟩ off stays rfl
      refine later.trans ?_
      rw [← handed_handed m f rest rest []]
      rfl
    · rw [if_neg room]
      have more : rest ≠ [] := by
        rintro rfl
        exact room rfl
      have later := ih (m := m.handed [f] rest) lockers granted wanting off stays rfl more
      exact later.trans (congrArg answered (handed_handed m f rest rest []))

/-! ## Where the copier can be -/

/-- The moment without any task that waits for anything. -/
def quiet (m : Moment) : Moment :=
  { m with
    active := none
    queue := []
    yielded := []
    alarms := []
    lockers := []
    granted := none
    wanting := none }

/-- The copier has its turn. -/
def copying (m : Moment) (left : Nat) : Moment :=
  { m.quiet with active := some (.copier, left) }

/-- The copier waits for its turn. -/
def queued (m : Moment) : Moment := { m.quiet with queue := [.copier] }

/-- The copier has used up its turn. -/
def spent (m : Moment) : Moment := { m.quiet with yielded := [.copier] }

/-- The copier waits for a piece. -/
def asleep (m : Moment) (time : Nat) : Moment :=
  { m.quiet with due := some time, alarms := [(.copier, time)] }

/-- The copier waits for a place. -/
def blocked (m : Moment) : Moment := { m.quiet with wanting := some .copier }

/-- The stream has no timer, and its caller is there and has what was received. -/
structure Ready (m : Moment) : Prop where
  direct : m.stream.Direct
  stays : m.stream.gone = false
  got : m.got.reverse.map Prod.snd = m.stream.received

/-- The caller takes the whole queue. -/
def emptied (m : Moment) : Moment := m.handed m.stream.queue []

private theorem Ready.emptied {m : Moment} (h : m.Ready) : m.emptied.Ready := by
  refine ⟨⟨h.direct.timed, h.direct.ticker, h.direct.copier, h.direct.trailing, h.direct.failed⟩,
    h.stays, ?_⟩
  simp [Moment.emptied, handed, h.got, Function.comp_def]

/-- No task has or waits for its turn. -/
def IsIdle (m : Moment) : Prop := m.active = none ∧ m.queue = []

/-- The caller has its go when no task waits for a turn and there is something in the queue. -/
private theorem next?_of_queue {m n : Moment} (idle : m.IsIdle) (hq : m.stream.queue ≠ [])
    (taken : m.resume.receiveUpTo m.stream.queue.length = n) : m.next? none 0 = some n := by
  unfold next?
  rw [idle.1, idle.2]
  simp [take?, hq, taken, part]

/-- Otherwise tasks have another turn, or time passes. -/
private theorem next?_of_nil {m : Moment} (idle : m.IsIdle) (hq : m.stream.queue = []) :
    m.next? none 0 = (m.resume? <|> m.wait? 0) := by
  unfold next?
  rw [idle.1, idle.2]
  simp [take?, hq]

private theorem next?_of_calm {m : Moment} (idle : m.IsIdle) (calm : m.Calm)
    (h : m.Ready) (hq : m.stream.queue ≠ []) :
    m.next? none 0 = some (m.resume.handed m.stream.queue []) :=
  next?_of_queue idle hq (receiveUpTo_of_calm (m := m.resume) m.stream.queue
    ⟨calm.lockers, calm.granted, calm.wanting⟩ h.direct.ticker h.stays rfl)

end Moment

/-! ## From one event to the next

The copier makes one event happen and has its turn again; what follows from there is known by
induction on the events to come. The lemmas go backwards: from a copier that is about to read or to
send to one that waits for a piece or for a place, and to one that has used up its turn.
-/

section

variable {m : Moment} {k w : Nat}

/-- From wherever the copier has its turn with few events to come, a delivery ends within so many
steps. -/
def EndsWith (w k : Nat) : Prop :=
  ∀ m : Moment, m.Ready → m.stream.toCopy ≤ w → ∀ left, Ends k (m.copying left)

open Moment

private theorem next?_copying (m : Moment) (left : Nat) :
    (m.copying left).next? none 0 = some ((m.copying left).copy left) := rfl

private theorem next?_queued (m : Moment) :
    m.queued.next? none 0 = some (m.copying turn) := rfl

/-- A copier that has taken a piece, or has sent, has its turn again. -/
private theorem ends_moved (next : EndsWith w k) (h : m.Ready) (few : m.stream.toCopy ≤ w + 1)
    {e : Stream.Event} (copies : e = .read ∨ e = .send) {s : Stream}
    (happens : m.stream.step e = some s) (stays : s.gone = false) (left : Nat) :
    Ends k ((m.copying left).moved s) := by
  have move := h.direct.move_of_step happens
  have direct := h.direct.move move
  have fewer := Stream.toCopy_of_directMove move stays copies
  have again : (m.copying left).moved s = ({ m with stream := s } : Moment).copying left :=
    moved_of_calm ⟨rfl, rfl, rfl⟩ direct.ticker
  rw [again]
  refine next _ ⟨direct, stays, ?_⟩ ?_ left
  · exact h.got.trans (Stream.received_of_directMove move copies).symm
  · change s.toCopy ≤ w
    omega

private theorem ends_readNext (next : EndsWith w k) (h : m.Ready) (few : m.stream.toCopy ≤ w + 1)
    (hc : m.stream.copier = .reading) (left left' : Nat) :
    Ends k ((m.copying left).readNext left') := by
  obtain ⟨s, hs, hg⟩ := Stream.exists_read hc
  have read : (m.copying left).readNext left' =
      (({ m with waits := m.waits.drop 1, due := none } : Moment).copying left').moved s := by
    have step : (m.copying left).stream.step .read = some s := hs
    unfold readNext go
    dsimp only
    rw [step]
    rfl
  rw [read]
  exact ends_moved (m := { m with waits := m.waits.drop 1, due := none }) next
    ⟨h.direct, h.stays, h.got⟩ few (.inl rfl) hs (hg.trans h.stays) left'

private theorem ends_sendBy (next : EndsWith w k) (h : m.Ready) (few : m.stream.toCopy ≤ w + 1)
    (hc : m.stream.copier.isSending = true) (room : m.stream.hasRoom = true) (left left' : Nat) :
    Ends k ((m.copying left).sendBy .copier left' .send) := by
  obtain ⟨s, hs, hg⟩ := Stream.exists_send hc h.stays room
  have sends : (m.copying left).sendBy .copier left' .send = (m.copying left').moved s := by
    have step : (m.copying left).stream.step .send = some s := hs
    unfold sendBy
    rw [step]
    rfl
  rw [sends]
  exact ends_moved next h few (.inr rfl) hs hg left'

/-- The next piece is there, or it takes time to come. -/
private theorem there_or_wait (m : Moment) : (∀ wait rest, m.waits ≠ some wait :: rest) ∨
    ∃ wait rest, m.waits = some wait :: rest := by
  by_cases later : ∃ wait rest, m.waits = some wait :: rest
  · exact .inr later
  · exact .inl fun wait rest hw ↦ later ⟨wait, rest, hw⟩

private theorem copy_of_wait (hc : m.stream.copier = .reading) {wait : Duration}
    {rest : List (Option Duration)} (hw : m.waits = some wait :: rest) (left : Nat) :
    (m.copying left).copy left = if left = 0 then m.spent else
      (m.copying left).readAt (left - 1) (m.due.getD (m.now + wait.millis)) := by
  have reading : (m.copying left).stream.copier = .reading := hc
  have waits : (m.copying left).waits = some wait :: rest := hw
  unfold copy
  rw [reading, waits]
  rfl

private theorem copy_of_there (hc : m.stream.copier = .reading)
    (there : ∀ wait rest, m.waits ≠ some wait :: rest) (left : Nat) :
    (m.copying left).copy left = (m.copying left).readNext left := by
  have reading : (m.copying left).stream.copier = .reading := hc
  unfold copy
  rw [reading]
  dsimp only
  split
  · next wait rest hw => exact absurd hw (there wait rest)
  · rfl

private theorem ends_of_there (next : EndsWith w k) (h : m.Ready) (few : m.stream.toCopy ≤ w + 1)
    (hc : m.stream.copier = .reading) (there : ∀ wait rest, m.waits ≠ some wait :: rest)
    (left : Nat) : Ends (k + 1) (m.copying left) := by
  refine ends_of_next (next?_copying m left) ?_
  rw [copy_of_there hc there]
  exact ends_readNext next h few hc left left

/-- A copier that has waited for a piece until now takes it. -/
private theorem ends_of_due (next : EndsWith w k) (h : m.Ready) (few : m.stream.toCopy ≤ w + 1)
    (hc : m.stream.copier = .reading) (due : m.due = some m.now) {left : Nat} (more : left ≠ 0) :
    Ends (k + 1) (m.copying left) := by
  rcases there_or_wait m with there | ⟨wait, rest, hw⟩
  · exact ends_of_there next h few hc there left
  · refine ends_of_next (next?_copying m left) ?_
    rw [copy_of_wait hc hw, if_neg more, due, readAt]
    exact (if_pos (Nat.le_refl m.now)) ▸ ends_readNext next h few hc left _

private theorem copy_of_isSending (hc : m.stream.copier.isSending = true) (left : Nat) :
    (m.copying left).copy left = if left = 0 then m.spent else
      (m.copying left).sendBy .copier (left - 1) .send := by
  have same : (m.copying left).stream.copier = m.stream.copier := rfl
  unfold copy
  rw [same]
  rcases Copier.cases_of_isSending hc with ⟨c, hs⟩ | ⟨c, hs⟩ | hs
  · rw [hs]
    rfl
  · rw [hs]
    rfl
  · rw [hs]
    rfl

private theorem ends_of_send (next : EndsWith w k) (h : m.Ready) (few : m.stream.toCopy ≤ w + 1)
    (hc : m.stream.copier.isSending = true) (room : m.stream.hasRoom = true) {left : Nat}
    (more : left ≠ 0) : Ends (k + 1) (m.copying left) := by
  refine ends_of_next (next?_copying m left) ?_
  rw [copy_of_isSending hc, if_neg more]
  exact ends_sendBy next h few hc room left _

private theorem ends_queued {fuel : Nat} (ends : Ends fuel (m.copying turn)) :
    Ends (fuel + 1) m.queued :=
  ends_of_next (next?_queued m) ends

/-- Without a timer no alarm is passed over. -/
private theorem dueAlarms_zero (m : Moment) : m.dueAlarms 0 = m.alarms := by
  unfold dueAlarms
  split
  · simp
  · rfl

private theorem next?_asleep (m : Moment) (time : Nat) (hq : m.stream.queue = []) :
    (m.asleep time).next? none 0 =
      some ({ m with now := time, due := some time } : Moment).queued := by
  have idle : (m.asleep time).resume? = none := rfl
  refine (next?_of_nil (m := m.asleep time) ⟨rfl, rfl⟩ hq).trans ?_
  rw [idle, wait?, dueAlarms_zero]
  simp [queued, asleep, quiet]

private theorem ends_asleep_of_nil (next : EndsWith w k) (h : m.Ready)
    (few : m.stream.toCopy ≤ w + 1) (hc : m.stream.copier = .reading) (hq : m.stream.queue = [])
    (time : Nat) : Ends (k + 3) (m.asleep time) := by
  refine ends_of_next (next?_asleep m time hq) (ends_queued ?_)
  exact ends_of_due (m := { m with now := time, due := some time }) next
    ⟨h.direct, h.stays, h.got⟩ few hc rfl nofun

private theorem ends_asleep (next : EndsWith w k) (h : m.Ready) (few : m.stream.toCopy ≤ w + 1)
    (hc : m.stream.copier = .reading) (time : Nat) : Ends (k + 4) (m.asleep time) := by
  by_cases hq : m.stream.queue = []
  · exact (ends_asleep_of_nil next h few hc hq time).mono (Nat.le_succ _)
  · have taken := next?_of_calm (m := m.asleep time) ⟨rfl, rfl⟩ ⟨rfl, rfl, rfl⟩
      ⟨h.direct, h.stays, h.got⟩ hq
    exact ends_of_next taken (ends_asleep_of_nil next h.emptied few hc rfl time)

private theorem ends_blocked (next : EndsWith w k) (h : m.Ready) (few : m.stream.toCopy ≤ w + 1)
    (hc : m.stream.copier.isSending = true) (hq : m.stream.queue ≠ []) :
    Ends (k + 3) m.blocked := by
  have taken : m.blocked.next? none 0 = some m.emptied.queued :=
    next?_of_queue (m := m.blocked) ⟨rfl, rfl⟩ hq (receiveUpTo_of_wanting (m := m.blocked.resume)
      m.stream.queue rfl rfl rfl h.direct.ticker h.stays rfl hq)
  refine ends_of_next taken (ends_queued ?_)
  exact ends_of_send next h.emptied few hc rfl nofun

/-- A copier in the middle of a turn sends or takes a piece in a few steps. -/
private theorem ends_copying_of_ne_zero (next : EndsWith w k) (h : m.Ready)
    (few : m.stream.toCopy ≤ w + 1)
    (busy : m.stream.copier = .reading ∨ m.stream.copier.isSending = true) {left : Nat}
    (more : left ≠ 0) : Ends (k + 5) (m.copying left) := by
  rcases busy with hc | hc
  · rcases there_or_wait m with there | ⟨wait, rest, hw⟩
    · exact (ends_of_there next h few hc there left).mono (by omega)
    · refine ends_of_next (next?_copying m left) ?_
      rw [copy_of_wait hc hw, if_neg more, readAt]
      split
      · exact (ends_readNext next h few hc left _).mono (by omega)
      · exact ends_asleep next h few hc _
  · by_cases room : m.stream.hasRoom = true
    · exact (ends_of_send next h few hc room more).mono (by omega)
    · have full : m.stream.queue ≠ [] := by
        intro hq
        rw [Stream.hasRoom, hq] at room
        exact room rfl
      have waits : (m.copying left).copy left = m.blocked := by
        have stuck : (m.copying left).stream.step .send = none :=
          Stream.step_send_of_full h.stays (Bool.eq_false_iff.mpr room)
        rw [copy_of_isSending hc, if_neg more, sendBy, stuck]
        rfl
      refine ends_of_next ((next?_copying m left).trans (congrArg some waits)) ?_
      exact (ends_blocked next h few hc full).mono (Nat.le_succ _)

private theorem ends_spent {fuel : Nat} (h : m.Ready)
    (ends : ∀ n : Moment, n.Ready → n.stream.toCopy = m.stream.toCopy →
      n.stream.copier = m.stream.copier → Ends fuel n.queued) : Ends (fuel + 1) m.spent := by
  by_cases hq : m.stream.queue = []
  · exact ends_of_next (next?_of_nil (m := m.spent) ⟨rfl, rfl⟩ hq) (ends m h rfl rfl)
  · have taken := next?_of_calm (m := m.spent) ⟨rfl, rfl⟩ ⟨rfl, rfl, rfl⟩
      ⟨h.direct, h.stays, h.got⟩ hq
    exact ends_of_next (n := m.emptied.queued) taken (ends m.emptied h.emptied rfl rfl)

private theorem ends_quiet_of_nil (h : m.Ready) (hc : m.stream.copier = .ended)
    (hq : m.stream.queue = []) : Ends 0 m.quiet := by
  have last : m.quiet.next? none 0 = none := by
    refine (next?_of_nil (m := m.quiet) ⟨rfl, rfl⟩ hq).trans ?_
    rw [wait?, dueAlarms_zero]
    rfl
  refine ends_of_atEnd last ⟨h.stays, ?_, h.got⟩
  change m.stream.isComplete = true
  exact (Stream.isComplete_iff _).mpr ⟨.inl hc, h.direct.ticker, hq⟩

/-- A copier at its end has no more turns, and the caller takes what is left. -/
private theorem ends_of_ended (h : m.Ready) (hc : m.stream.copier = .ended) (left : Nat) :
    Ends 2 (m.copying left) := by
  have ended : (m.copying left).stream.copier = .ended := hc
  have passes : (m.copying left).copy left = m.quiet := by
    unfold copy
    rw [ended]
    rfl
  refine ends_of_next ((next?_copying m left).trans (congrArg some passes)) ?_
  by_cases hq : m.stream.queue = []
  · exact (ends_quiet_of_nil h hc hq).mono (Nat.zero_le 1)
  · have taken := next?_of_calm (m := m.quiet) ⟨rfl, rfl⟩ ⟨rfl, rfl, rfl⟩
      ⟨h.direct, h.stays, h.got⟩ hq
    exact ends_of_next (n := m.emptied.quiet) taken (ends_quiet_of_nil h.emptied hc rfl)

/-- A copier that is not at its end takes a piece or sends in a few steps. -/
private theorem ends_copying_of_busy (next : EndsWith w k) (h : m.Ready)
    (few : m.stream.toCopy ≤ w + 1)
    (busy : m.stream.copier = .reading ∨ m.stream.copier.isSending = true) (left : Nat) :
    Ends (k + 8) (m.copying left) := by
  by_cases more : left = 0
  · have again (spent : (m.copying left).copy left = m.spent) : Ends (k + 8) (m.copying left) := by
      refine ends_of_next ((next?_copying m left).trans (congrArg some spent)) ?_
      refine ends_spent h fun n ready same copier ↦ ends_queued ?_
      exact ends_copying_of_ne_zero next ready (same ▸ few) (copier ▸ busy) nofun
    rcases busy with hc | hc
    · rcases there_or_wait m with there | ⟨wait, rest, hw⟩
      · exact (ends_of_there next h few hc there left).mono (by omega)
      · exact again ((copy_of_wait hc hw left).trans (if_pos more))
    · exact again ((copy_of_isSending hc left).trans (if_pos more))
  · exact (ends_copying_of_ne_zero next h few busy more).mono (by omega)

end

/-- A delivery without a timer ends within eight steps for each event of the copier, and two. -/
theorem endsWith (w : Nat) : EndsWith w (8 * w + 2) := by
  induction w with
  | zero =>
    intro m h few left
    rcases h.direct.copier_cases h.stays with hc | hc | hc
    · simp [Stream.toCopy, hc] at few
    · exact absurd (h.direct.toCopy_pos hc) (by omega)
    · exact ends_of_ended h hc left
  | succ w ih =>
    intro m h few left
    have busy := ends_copying_of_busy ih h few
    rcases h.direct.copier_cases h.stays with hc | hc | hc
    · exact busy (.inl hc) left
    · exact busy (.inr hc) left
    · exact (ends_of_ended h hc left).mono (by omega)

/-- A caller of a stream without a timer who takes all of the body comes to its end. -/
theorem atEnd_stream (pool : BufferPool) (pieces : List TimedPiece) :
    AtEnd (drive none 0 (32 * (pieces.length + 3)) (start pool none pieces none)) := by
  have ready : (start pool none pieces none).Ready := ⟨Stream.direct_start _ _, rfl, rfl⟩
  have few : (start pool none pieces none).stream.toCopy = 2 * pieces.length + 2 := by
    change 2 * (pieces.map Prod.snd).length + 2 = _
    rw [List.length_map]
  have turn := endsWith _ _ ready (Nat.le_of_eq few) turn
  have begins : (start pool none pieces none).next? none 0 =
    some ((start pool none pieces none).copying Delivery.turn) := rfl
  exact ends_of_next begins turn _ (by omega)

end HttpGateway.Delivery
