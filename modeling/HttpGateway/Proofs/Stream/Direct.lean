import HttpGateway.Proofs.Stream.Bodies
import HttpGateway.Proofs.Stream.Completeness
import HttpGateway.Proofs.Stream.Discipline

/-!
# A body that goes out piece by piece

Without a timer there is no ticker, and neither buffer nor lock is used: the copier sends each piece
of data as it comes, and at the end what is left of the trailers. While the caller stays, the frames
that have been sent and those that the copier has still to send are those of the whole body. Every
event but that the caller goes gets the stream nearer to its end, so in whatever order the parties
take their turns, the caller comes to the end of the body and has all of it then.
-/

namespace HttpGateway

namespace Piece

/-- The frames of the data that pieces yield before the body ends or fails. -/
def framesOf : List Piece → List Frame
  | [] => []
  | .data d :: rest => .data d :: framesOf rest
  | .trailers _ :: rest => framesOf rest
  | .failure _ :: _ => []

/-- They have the data of the pieces. -/
theorem bytes_framesOf (source : List Piece) :
    (framesOf source).flatMap Frame.bytes = dataOf source := by
  induction source with
  | nil => rfl
  | cons p rest ih =>
    cases p with
    | data d =>
      rw [framesOf, List.flatMap_cons, ih]
      rfl
    | trailers t => exact ih
    | failure why => rfl

/-- There are no trailers among them. -/
theorem trailers_notMem_framesOf (source : List Piece) (fields : HeaderMap) :
    .trailers fields ∉ framesOf source := by
  induction source with
  | nil => exact List.not_mem_nil
  | cons p rest ih =>
    cases p with
    | data d =>
      rw [framesOf, List.mem_cons, not_or]
      exact ⟨nofun, ih⟩
    | trailers t => exact ih
    | failure why => exact List.not_mem_nil

end Piece

/-- The frames of a body that goes out piece by piece, after trailers that were read before. -/
def Frame.ofBody (before : Option HeaderMap) (source : List Piece) : List Frame :=
  Piece.framesOf source ++ ofTrailers (merged before (Piece.trailersOf source))

/-- Sent piece by piece, a body is brought to the caller. -/
theorem Frame.bring_ofBody (source : List Piece) : Bring (ofBody none source) source :=
  bring_concat (Piece.bytes_framesOf source) (Piece.trailers_notMem_framesOf source)

/-- The copier is at something that it does only under a timer. -/
def Copier.isTimed : Copier → Bool
  | .holding _ | .finishing | .flushing _ => true
  | .reading | .sending _ | .trailing | .ended | .failed => false

namespace Stream

/-- What a stream without a timer keeps to. -/
structure Direct (s : Stream) : Prop where
  timed : s.timed = false
  ticker : s.ticker = .off
  copier : s.copier.isTimed = false
  trailing : s.copier = .trailing → s.trailers.isSome = true
  /-- The copier gives up only because the caller has gone. -/
  failed : s.copier = .failed → s.gone = true

/-- What an event does to a stream without a timer. -/
inductive DirectMove (s : Stream) : Event → Stream → Prop
  | readEnd : s.copier = .reading → s.source = [] →
    DirectMove s .read { s with stopped := true }.closing
  | readData (d : Bytes) (rest : List Piece) :
    s.copier = .reading → s.source = .data d :: rest →
    DirectMove s .read { s with source := rest, copier := .sending d }
  | readTrailers (t : HeaderMap) (rest : List Piece) :
    s.copier = .reading → s.source = .trailers t :: rest →
    DirectMove s .read { s with
      source := rest, trailers := Frame.mergeTrailers s.trailers (.trailers t) }
  | readFailure (why : String) (rest : List Piece) :
    s.copier = .reading → s.source = .failure why :: rest →
    DirectMove s .read { s with source := rest, stopped := true }.closing
  | sendGone : s.gone = true → DirectMove s .send s.giveUp
  | sendChunk (c : Bytes) : s.copier = .sending c → s.gone = false →
    DirectMove s .send { s.enqueue (.data c) with copier := .reading }
  | sendTrailers : s.copier = .trailing → s.gone = false →
    DirectMove s .send { s.enqueue (.trailers (s.trailers.getD .empty)) with copier := .ended }
  | receive (f : Frame) (rest : List Frame) : s.gone = false → s.queue = f :: rest →
    DirectMove s .receive { s with queue := rest, received := s.received ++ [f] }
  | leave : s.gone = false → DirectMove s .leave { s with gone := true }

/-- Without a timer the copier goes on to the trailers at the end of the body. -/
theorem finish_of_direct {s : Stream} (timed : s.timed = false) :
    s.finish = { s with stopped := true }.closing := by
  unfold finish
  rw [timed]
  rfl

private theorem directMove_read {s t : Stream} (h : s.Direct) (hs : s.stepRead = some t) :
    DirectMove s .read t := by
  unfold stepRead at hs
  split at hs
  · next hc he =>
    cases hs
    rw [finish_of_direct h.timed]
    exact .readEnd hc he
  · next d rest hc hd =>
    simp only [h.timed, Bool.false_eq_true, if_false] at hs
    cases hs
    exact h.timed ▸ .readData d rest hc hd
  · next tr rest hc ht =>
    cases hs
    exact .readTrailers tr rest hc ht
  · next why rest hc hf =>
    cases hs
    rw [finish_of_direct (s := { s with source := rest }) h.timed]
    exact .readFailure why rest hc hf
  · cases hs

/-- Every event that happens to a stream without a timer is one of these moves. -/
theorem Direct.move_of_step {s t : Stream} {e : Event} (h : s.Direct) (hs : s.step e = some t) :
    DirectMove s e t := by
  have never : ∀ {c : Copier}, s.copier = c → c.isTimed = true → DirectMove s e t := by
    intro c hc timed
    have copier := h.copier
    rw [hc, timed] at copier
    cases copier
  cases e with
  | read => exact directMove_read h hs
  | lock =>
    simp only [step, stepLock] at hs
    split at hs
    · cases hs
    · split at hs
      · next d hc => exact never hc rfl
      · next hc => exact never hc rfl
      · cases hs
  | send =>
    cases move_send hs with
    | sendGone _ hg => exact .sendGone hg
    | sendChunk c hc hg _ => exact .sendChunk c hc hg
    | sendRest c hc _ _ => exact never hc rfl
    | sendTrailers hc hg _ => exact .sendTrailers hc hg
  | tick =>
    simp only [step, h.ticker] at hs
    cases hs
  | grab => simp [step, stepGrab, h.ticker] at hs
  | push =>
    simp only [step, stepPush, h.ticker] at hs
    cases hs
  | drop => simp [step, h.ticker] at hs
  | receive =>
    simp only [step] at hs
    split at hs
    · next f rest hg hq =>
      cases hs
      exact .receive f rest hg hq
    · cases hs
  | leave =>
    simp only [step] at hs
    split at hs
    · cases hs
    · next hg =>
      cases hs
      exact .leave (by simpa using hg)

/-- The copier goes on to the trailers, if there are any. -/
theorem copier_closing (s : Stream) :
    s.closing.copier = .trailing ∧ s.trailers.isSome = true ∨
      s.closing.copier = .ended ∧ s.trailers = none := by
  unfold closing
  cases s.trailers with
  | none => exact .inr ⟨rfl, rfl⟩
  | some fields => exact .inl ⟨rfl, rfl⟩

private theorem direct_closing {s : Stream} (timed : s.timed = false) (ticker : s.ticker = .off) :
    s.closing.Direct := by
  rcases copier_closing s with ⟨hc, declared⟩ | ⟨hc, -⟩
  · exact ⟨timed, ticker, by rw [hc]; rfl, fun _ ↦ declared, by rw [hc]; nofun⟩
  · exact ⟨timed, ticker, by rw [hc]; rfl, by rw [hc]; nofun, by rw [hc]; nofun⟩

/-- A move keeps a stream without a timer one. -/
theorem Direct.move {s t : Stream} {e : Event} (h : s.Direct) (m : DirectMove s e t) :
    t.Direct := by
  cases m with
  | readEnd _ _ => exact direct_closing h.timed h.ticker
  | readFailure why rest _ _ => exact direct_closing h.timed h.ticker
  | readData d rest _ _ => exact ⟨h.timed, h.ticker, rfl, nofun, nofun⟩
  | readTrailers tr rest _ _ => exact ⟨h.timed, h.ticker, h.copier, fun _ ↦ rfl, h.failed⟩
  | sendGone hg => exact ⟨h.timed, h.ticker, rfl, nofun, fun _ ↦ hg⟩
  | sendChunk c _ _ => exact ⟨h.timed, h.ticker, rfl, nofun, nofun⟩
  | sendTrailers _ _ => exact ⟨h.timed, h.ticker, rfl, nofun, nofun⟩
  | receive f rest _ _ => exact ⟨h.timed, h.ticker, h.copier, h.trailing, h.failed⟩
  | leave _ => exact ⟨h.timed, h.ticker, h.copier, h.trailing, fun _ ↦ rfl⟩

/-! ## What is still to be sent -/

/-- The frames that the copier has still to send. -/
def toSend (s : Stream) : List Frame :=
  match s.copier with
  | .reading => Frame.ofBody s.trailers s.source
  | .sending c => .data c :: Frame.ofBody s.trailers s.source
  | .trailing => Frame.ofTrailers s.trailers
  | .holding _ | .finishing | .flushing _ | .ended | .failed => []

private theorem toSend_closing (s : Stream) : s.closing.toSend = Frame.ofTrailers s.trailers := by
  unfold closing toSend
  cases s.trailers with
  | none => rfl
  | some fields => rfl

/-- While the caller stays, a move keeps the frames that are sent in the end. -/
theorem Direct.sent_toSend {s t : Stream} {e : Event} (h : s.Direct) (m : DirectMove s e t)
    (stays : t.gone = false) : t.sent ++ t.toSend = s.sent ++ s.toSend := by
  have behind (f : Frame) (rest : List Frame) :
      (s.enqueue f).sent ++ rest = s.sent ++ f :: rest := by
    simp [sent, enqueue]
  cases m with
  | readEnd hc hs =>
    have left : s.toSend = Frame.ofTrailers s.trailers := by
      rw [toSend, hc, hs]
      rfl
    rw [toSend_closing, left]
    rfl
  | readFailure why rest hc hs =>
    have left : s.toSend = Frame.ofTrailers s.trailers := by
      rw [toSend, hc, hs]
      rfl
    rw [toSend_closing, left]
    rfl
  | readData d rest hc hs =>
    have left : s.toSend = .data d :: Frame.ofBody s.trailers rest := by
      rw [toSend, hc, hs]
      rfl
    rw [left]
    rfl
  | readTrailers tr rest hc hs =>
    have left : s.toSend =
        Frame.ofBody (Frame.mergeTrailers s.trailers (.trailers tr)) rest := by
      rw [toSend, hc, hs]
      rfl
    rw [left, toSend, hc]
    rfl
  | sendGone hg => exact absurd hg (Bool.eq_false_iff.mp stays)
  | sendChunk c hc _ =>
    have left : s.toSend = .data c :: Frame.ofBody s.trailers s.source := by rw [toSend, hc]
    rw [left]
    exact behind _ _
  | sendTrailers hc _ =>
    obtain ⟨fields, hf⟩ := Option.isSome_iff_exists.mp (h.trailing hc)
    have left : s.toSend = [.trailers (s.trailers.getD .empty)] := by
      rw [toSend, hc, hf]
      rfl
    rw [left]
    exact behind _ _
  | receive f rest _ hq =>
    change s.received ++ [f] ++ rest ++ s.toSend = s.received ++ s.queue ++ s.toSend
    rw [hq, List.append_assoc s.received]
    rfl
  | leave _ => cases stays

/-! ## The way to the end -/

/-- While the caller stays, the copier takes pieces, or sends, or is at its end. -/
theorem Direct.copier_cases {s : Stream} (h : s.Direct) (stays : s.gone = false) :
    s.copier = .reading ∨ s.copier.isSending = true ∨ s.copier = .ended := by
  cases hc : s.copier with
  | reading => exact .inl rfl
  | sending c => exact .inr (.inl rfl)
  | trailing => exact .inr (.inl rfl)
  | ended => exact .inr (.inr rfl)
  | failed =>
    rw [h.failed hc] at stays
    cases stays
  | holding d => exact absurd h.copier (by rw [hc]; nofun)
  | finishing => exact absurd h.copier (by rw [hc]; nofun)
  | flushing c => exact absurd h.copier (by rw [hc]; nofun)

/-- How many events of the copier are still to come, at most. -/
def toCopy (s : Stream) : Nat :=
  match s.copier with
  | .reading => 2 * s.source.length + 2
  | .sending _ => 2 * s.source.length + 3
  | .trailing => 1
  | .holding _ | .finishing | .flushing _ | .ended | .failed => 0

/-- A copier that sends has an event to come. -/
theorem Direct.toCopy_pos {s : Stream} (h : s.Direct) (hs : s.copier.isSending = true) :
    0 < s.toCopy := by
  rcases Copier.cases_of_isSending hs with ⟨c, hc⟩ | ⟨c, hc⟩ | hc
  · simp only [toCopy, hc, Nat.succ_pos]
  · exact absurd h.copier (by rw [hc]; nofun)
  · simp only [toCopy, hc, Nat.one_pos]

private theorem toCopy_closing (s : Stream) : s.closing.toCopy ≤ 1 := by
  rcases copier_closing s with ⟨hc, -⟩ | ⟨hc, -⟩
  · simp only [toCopy, hc, Nat.le_refl]
  · simp only [toCopy, hc, Nat.zero_le]

/-- With each event of the copier there are fewer to come. -/
theorem toCopy_of_directMove {s t : Stream} {e : Event} (m : DirectMove s e t)
    (stays : t.gone = false) (copies : e = .read ∨ e = .send) : t.toCopy < s.toCopy := by
  cases m with
  | readEnd hc hs =>
    refine Nat.lt_of_le_of_lt (toCopy_closing _) ?_
    simp only [toCopy, hc]
    omega
  | readFailure why rest hc hs =>
    refine Nat.lt_of_le_of_lt (toCopy_closing _) ?_
    simp only [toCopy, hc]
    omega
  | readData d rest hc hs =>
    simp only [toCopy, hc, hs, List.length_cons]
    omega
  | readTrailers tr rest hc hs =>
    simp only [toCopy, hc, hs, List.length_cons]
    omega
  | sendGone hg => exact absurd hg (Bool.eq_false_iff.mp stays)
  | sendChunk c hc _ =>
    simp only [toCopy, enqueue, hc]
    omega
  | sendTrailers hc _ =>
    simp only [toCopy, hc]
    omega
  | receive f rest _ _ => rcases copies with h | h <;> cases h
  | leave _ => rcases copies with h | h <;> cases h

/-- The copier does not take anything from the caller. -/
theorem received_of_directMove {s t : Stream} {e : Event} (m : DirectMove s e t)
    (copies : e = .read ∨ e = .send) : t.received = s.received := by
  cases m with
  | receive f rest _ _ => rcases copies with h | h <;> cases h
  | _ => rfl

/-- While the caller stays, every move gets the stream nearer to its end. -/
theorem nearer_of_directMove {s t : Stream} {e : Event} (m : DirectMove s e t)
    (stays : t.gone = false) :
    2 * t.toCopy + t.queue.length < 2 * s.toCopy + s.queue.length := by
  have copies (h : e = .read ∨ e = .send) (queue : t.queue.length ≤ s.queue.length + 1) :
      2 * t.toCopy + t.queue.length < 2 * s.toCopy + s.queue.length := by
    have fewer := toCopy_of_directMove m stays h
    omega
  cases m with
  | receive f rest _ hq =>
    change 2 * s.toCopy + rest.length < _
    rw [hq, List.length_cons]
    omega
  | leave _ => cases stays
  | sendChunk c _ _ => exact copies (.inr rfl) (by simp [enqueue])
  | sendTrailers _ _ => exact copies (.inr rfl) (by simp [enqueue])
  | sendGone _ => exact copies (.inr rfl) (Nat.le_succ _)
  | _ => exact copies (.inl rfl) (Nat.le_succ _)

/-- A copier that waits for a piece can take one, or finds the end of the body. -/
theorem exists_read {s : Stream} (hc : s.copier = .reading) :
    ∃ t, s.step .read = some t ∧ t.gone = s.gone := by
  have same : s.step .read = s.stepRead := rfl
  rw [same, stepRead, hc]
  cases hs : s.source with
  | nil => exact ⟨_, rfl, gone_finish s⟩
  | cons p rest =>
    cases p with
    | data d => exact ⟨_, rfl, rfl⟩
    | trailers t => exact ⟨_, rfl, rfl⟩
    | failure why => exact ⟨_, rfl, gone_finish { s with source := rest }⟩

/-- A copier that sends to a caller who is there goes on when there is a place. -/
theorem exists_send {s : Stream} (hs : s.copier.isSending = true) (stays : s.gone = false)
    (room : s.hasRoom = true) : ∃ t, s.step .send = some t ∧ t.gone = false := by
  have same : s.step .send = s.stepSend := rfl
  rw [same, stepSend, stays, room]
  rcases Copier.cases_of_isSending hs with ⟨c, hc⟩ | ⟨c, hc⟩ | hc
  · rw [hc]
    exact ⟨_, rfl, stays⟩
  · rw [hc]
    exact ⟨_, rfl, stays⟩
  · rw [hc]
    exact ⟨_, rfl, stays⟩

/-- A copier that sends to a caller who is there waits when there is no place. -/
theorem step_send_of_full {s : Stream} (stays : s.gone = false)
    (full : s.hasRoom = false) : s.step .send = none := by
  have same : s.step .send = s.stepSend := rfl
  rw [same, stepSend, stays, full]
  cases s.copier <;> rfl

/-- As long as the body has not ended for a caller who stays, the caller or the copier can go on. -/
theorem Direct.goesOn {s : Stream} (h : s.Direct) (stays : s.gone = false)
    (incomplete : s.isComplete = false) : ∃ e t, s.step e = some t ∧ t.gone = false := by
  cases hq : s.queue with
  | cons f rest =>
    refine ⟨.receive, { s with queue := rest, received := s.received ++ [f] }, ?_, stays⟩
    simp only [step, stays, hq]
  | nil =>
    have room : s.hasRoom = true := by
      rw [hasRoom, hq]
      rfl
    rcases h.copier_cases stays with hc | hs | hc
    · obtain ⟨t, ht, hg⟩ := exists_read hc
      exact ⟨.read, t, ht, hg.trans stays⟩
    · exact ⟨.send, exists_send hs stays room⟩
    · rw [(isComplete_iff s).mpr ⟨.inl hc, h.ticker, hq⟩] at incomplete
      cases incomplete

/-- A caller who goes does not come back, without a timer either. -/
theorem gone_of_directMove {s t : Stream} {e : Event} (m : DirectMove s e t) (hg : s.gone = true) :
    t.gone = true := by
  cases m with
  | leave _ => rfl
  | _ => exact hg

/-- What a run leads to in a stream without a timer, if the caller stays. -/
theorem Direct.run {s t : Stream} {es : List Event} (h : s.Direct) (run : s.run? es = some t) :
    t.Direct ∧ (t.gone = false → s.gone = false ∧ t.sent ++ t.toSend = s.sent ++ s.toSend ∧
      es.length + (2 * t.toCopy + t.queue.length) ≤ 2 * s.toCopy + s.queue.length) := by
  induction es generalizing s with
  | nil =>
    cases run
    exact ⟨h, fun stays ↦ ⟨stays, rfl, by simp⟩⟩
  | cons e es ih =>
    obtain ⟨u, hu, onward⟩ := Option.bind_eq_some_iff.mp run
    have m := h.move_of_step hu
    obtain ⟨direct, rest⟩ := ih (h.move m) onward
    refine ⟨direct, fun stays ↦ ?_⟩
    obtain ⟨here, frames, steps⟩ := rest stays
    have before : s.gone = false := by
      cases hg : s.gone with
      | false => rfl
      | true => exact absurd (gone_of_directMove m hg) (Bool.eq_false_iff.mp here)
    refine ⟨before, frames.trans (h.sent_toSend m here), ?_⟩
    have nearer := nearer_of_directMove m here
    rw [List.length_cons]
    omega

/-- A stream that starts without a timer is one without a timer. -/
theorem direct_start (pool : BufferPool) (source : List Piece) :
    (start false pool source).Direct :=
  ⟨rfl, rfl, rfl, nofun, nofun⟩

/-- When the body has ended for a caller who stays, the copier has sent all frames, and the caller
has them. -/
theorem Direct.received_of_complete {s : Stream} (h : s.Direct) (stays : s.gone = false)
    (complete : s.isComplete = true) : s.copier = .ended ∧ s.received = s.sent ++ s.toSend := by
  obtain ⟨either, -, none_⟩ := (isComplete_iff s).mp complete
  have ended : s.copier = .ended :=
    either.resolve_right fun hf ↦ absurd (h.failed hf) (Bool.eq_false_iff.mp stays)
  refine ⟨ended, ?_⟩
  rw [toSend, ended, sent, none_, List.append_nil, List.append_nil]

/-- A stream is on its way to bring frames to its caller: the caller has a beginning of them, some
party can go on as long as the body has not ended, and then the caller has all of them. -/
structure HeadsFor (s : Stream) (frames : List Frame) : Prop where
  received : s.received <+: frames
  goesOn : s.isComplete = false → ∃ e t, s.step e = some t ∧ t.gone = false
  complete : s.isComplete = true → s.copier = .ended ∧ s.received = frames

/-- As long as the caller stays, a stream without a timer is on its way to bring the frames of the
body, and there are not many events that can happen before it has come to the end. -/
theorem headsFor_of_run {pool : BufferPool} {source : List Piece} {es : List Event} {s : Stream}
    (run : (start false pool source).run? es = some s) (stays : s.gone = false) :
    s.HeadsFor (Frame.ofBody none source) ∧ es.length ≤ 4 * source.length + 4 := by
  obtain ⟨direct, rest⟩ := (direct_start pool source).run run
  obtain ⟨-, frames, steps⟩ := rest stays
  have whole : s.sent ++ s.toSend = Frame.ofBody none source := frames
  refine ⟨⟨?_, direct.goesOn stays, fun complete ↦ ?_⟩, ?_⟩
  · rw [← whole, sent, List.append_assoc]
    exact List.prefix_append _ _
  · rw [← whole]
    exact direct.received_of_complete stays complete
  · have first : (start false pool source).toCopy = 2 * source.length + 2 := rfl
    have none_ : (start false pool source).queue.length = 0 := rfl
    omega

end Stream
end HttpGateway
