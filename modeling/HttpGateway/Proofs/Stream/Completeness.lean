import HttpGateway.Proofs.Stream.Flow

/-!
# Whether the whole body arrives

A caller who stays and reads to the end gets the data of the body, in order and each byte once,
unless the ticker is dropped in the middle of a send: then the chunk that it had taken out of the
buffer is missing at the end. The end always comes within reach: as long as something is missing,
some party can go on, and gets the stream nearer to its end.
-/

namespace HttpGateway

/-- How far the copier is from its end, but for the pieces to come. -/
def Copier.rank : Copier → Nat
  | .holding _ => 9
  | .sending _ => 8
  | .reading => 6
  | .finishing => 5
  | .flushing _ => 4
  | .trailing => 2
  | .ended | .failed => 0

/-- How far the ticker is from being off, but for the sleep that it may go back to. -/
def Ticker.rank : Ticker → Nat
  | .waiting => 4
  | .sending _ => 3
  | .sleeping => 1
  | .off => 0

namespace Stream

/-- The body has ended for the caller: no more frames can come, and all are taken. -/
def isComplete (s : Stream) : Bool := s.isSilent && s.queue.isEmpty

/-- The body has ended when the copy is over, the ticker off and the queue empty. -/
theorem isComplete_iff (s : Stream) : s.isComplete = true ↔
    (s.copier = .ended ∨ s.copier = .failed) ∧ s.ticker = .off ∧ s.queue = [] := by
  simp [isComplete, isSilent, isOver_iff, and_assoc]

/-- The chunk that the ticker takes with it in a run, if it is dropped in the middle of a send. -/
def dropped (s : Stream) : List Event → Bytes
  | [] => []
  | .drop :: _ => s.ticker.chunk
  | e :: es => ((s.step e).map fun t ↦ t.dropped es).getD []

/-- In a run the ticker is dropped in the middle of a send. -/
def DropsChunk (s : Stream) (es : List Event) : Prop :=
  ∃ before after t c, es = before ++ .drop :: after ∧ s.run? before = some t ∧
    t.ticker = .sending c

/-- How far a stream is from its end. -/
def remaining (s : Stream) : Nat :=
  10 * s.source.length + s.copier.rank + s.ticker.rank + s.queue.length

/-- Some event gets a stream nearer to its end, and the caller stays. -/
def Advances (s : Stream) : Prop :=
  ∃ e t, s.step e = some t ∧ t.gone = false ∧ t.remaining < s.remaining

private theorem remaining_giveBack (s : Stream) :
    s.giveBack.remaining ≤ 10 * s.source.length + 2 + s.ticker.rank + s.queue.length := by
  have rank : s.giveBack.copier.rank ≤ 2 := by
    rcases copier_giveBack s with hc | hc <;> rw [hc] <;> decide
  change 10 * s.source.length + s.giveBack.copier.rank + s.ticker.rank + s.queue.length ≤ _
  omega

private theorem remaining_finish {s : Stream} (timed : s.timed = true) :
    s.finish.remaining = 10 * s.source.length + 5 + s.ticker.rank + s.queue.length := by
  rw [finish_of_timed timed]
  rfl

private theorem advances_of_queue {s : Stream} (stays : s.gone = false) (hq : s.queue ≠ []) :
    s.Advances := by
  cases hs : s.queue with
  | nil => exact absurd hs hq
  | cons f rest =>
    refine ⟨.receive, { s with queue := rest, received := s.received ++ [f] }, ?_, stays, ?_⟩
    · simp only [step, stays, hs]
    · simp only [remaining, hs, List.length_cons]
      omega

private theorem hasRoom_of_nil {s : Stream} (hq : s.queue = []) : s.hasRoom = true := by
  rw [hasRoom, hq]
  rfl

private theorem advances_of_ticker {s : Stream} {c : Bytes} (stays : s.gone = false)
    (hq : s.queue = []) (ht : s.ticker = .sending c) : s.Advances := by
  refine ⟨.push, { s.enqueue (.data c) with ticker := .sleeping }, ?_, stays, ?_⟩
  · simp [step, stepPush, ht, stays, hasRoom_of_nil hq]
  · simp [remaining, enqueue, ht, hq, Ticker.rank]

private theorem advances_of_copier {s : Stream} (stays : s.gone = false) (hq : s.queue = [])
    (hs : s.copier.isSending = true) : s.Advances := by
  have room := hasRoom_of_nil hq
  rcases Copier.cases_of_isSending hs with ⟨c, hc⟩ | ⟨c, hc⟩ | hc
  · refine ⟨.send, { s.enqueue (.data c) with copier := .reading }, ?_, stays, ?_⟩
    · simp [step, stepSend, hc, stays, room]
    · simp [remaining, enqueue, hc, hq, Copier.rank]
      omega
  · refine ⟨.send, (s.enqueue (.data c)).giveBack, ?_, stays, ?_⟩
    · simp [step, stepSend, hc, stays, room]
    · have hr := remaining_giveBack (s.enqueue (.data c))
      have len : (s.enqueue (.data c)).queue.length = 1 := by simp [enqueue, hq]
      rw [len] at hr
      change _ ≤ 10 * s.source.length + 2 + s.ticker.rank + 1 at hr
      simp only [remaining, hc, hq, Copier.rank, List.length_nil] at hr ⊢
      omega
  · refine ⟨.send, { s.enqueue (.trailers (s.trailers.getD .empty)) with copier := .ended }, ?_,
      stays, ?_⟩
    · simp [step, stepSend, hc, stays, room]
    · simp [remaining, enqueue, hc, hq, Copier.rank]
      omega

private theorem advances_of_reading {s : Stream} (timed : s.timed = true) (stays : s.gone = false)
    (hc : s.copier = .reading) : s.Advances := by
  cases hs : s.source with
  | nil =>
    refine ⟨.read, s.finish, ?_, ?_, ?_⟩
    · simp only [step, stepRead, hc, hs]
    · rw [finish_of_timed timed]
      exact stays
    · rw [remaining_finish timed]
      simp only [remaining, hc, Copier.rank]
      omega
  | cons p rest =>
    cases p with
    | data d =>
      refine ⟨.read, { s with source := rest, copier := .holding d }, ?_, stays, ?_⟩
      · simp only [step, stepRead, hc, hs, timed, if_true]
      · simp only [remaining, hc, hs, Copier.rank, List.length_cons]
        omega
    | trailers t =>
      refine ⟨.read, { s with
        source := rest, trailers := Frame.mergeTrailers s.trailers (.trailers t) }, ?_, stays, ?_⟩
      · simp only [step, stepRead, hc, hs]
      · simp only [remaining, hs, List.length_cons]
        omega
    | failure why =>
      refine ⟨.read, { s with source := rest }.finish, ?_, ?_, ?_⟩
      · simp only [step, stepRead, hc, hs]
      · rw [finish_of_timed (s := { s with source := rest }) timed]
        exact stays
      · rw [remaining_finish (s := { s with source := rest }) timed]
        simp only [remaining, hc, hs, Copier.rank, List.length_cons]
        omega

private theorem advances_of_lock {s : Stream} (stays : s.gone = false) (free : s.lockFree = true)
    (hc : s.copier = .finishing ∨ ∃ d, s.copier = .holding d) : s.Advances := by
  rcases hc with hc | ⟨d, hc⟩
  · cases he : s.buffer.content.isEmpty with
    | true =>
      refine ⟨.lock, s.giveBack, ?_, stays, ?_⟩
      · simp [step, stepLock, free, hc, he]
      · have hr := remaining_giveBack s
        simp only [remaining, hc, Copier.rank] at hr ⊢
        omega
    | false =>
      refine ⟨.lock, { s with
        buffer := s.buffer.clear, copier := .flushing s.buffer.content }, ?_, stays, ?_⟩
      · simp [step, stepLock, free, hc, he]
      · simp only [remaining, hc, Copier.rank]
        omega
  · by_cases hl : s.pool.size ≤ (s.buffer.write d).content.length
    · refine ⟨.lock, { s with
        buffer := (s.buffer.write d).clear, copier := .sending (s.buffer.write d).content }, ?_,
        stays, ?_⟩
      · simp only [step, stepLock, free, hc, hl]
        rfl
      · simp only [remaining, hc, Copier.rank]
        omega
    · refine ⟨.lock, { s with buffer := s.buffer.write d, copier := .reading }, ?_, stays, ?_⟩
      · simp only [step, stepLock, free, hc, hl]
        rfl
      · simp only [remaining, hc, Copier.rank]
        omega

/-- As long as the body has not ended for a caller who stays, some party can go on, and gets the
stream nearer to its end. -/
theorem Coherent.advances {s : Stream} (h : s.Coherent) (stays : s.gone = false)
    (incomplete : s.isComplete = false) : s.Advances := by
  by_cases hq : s.queue = []
  · cases ht : s.ticker.hasLock with
    | true =>
      cases hs : s.ticker with
      | sending c => exact advances_of_ticker stays hq hs
      | off => rw [hs] at ht; cases ht
      | sleeping => rw [hs] at ht; cases ht
      | waiting => rw [hs] at ht; cases ht
    | false =>
      cases hc : s.copier with
      | reading => exact advances_of_reading h.timed stays hc
      | sending c => exact advances_of_copier stays hq (by rw [hc]; rfl)
      | flushing c => exact advances_of_copier stays hq (by rw [hc]; rfl)
      | trailing => exact advances_of_copier stays hq (by rw [hc]; rfl)
      | holding d =>
        have free := (lockFree_iff s).mpr ⟨by rw [hc]; rfl, ht⟩
        exact advances_of_lock stays free (.inr ⟨d, hc⟩)
      | finishing =>
        have free := (lockFree_iff s).mpr ⟨by rw [hc]; rfl, ht⟩
        exact advances_of_lock stays free (.inl hc)
      | failed =>
        rw [h.failed hc] at stays
        cases stays
      | ended =>
        -- only the ticker is left, and it has been told to stop
        have stopped : s.stopped = true := by rw [h.stopped, hc]; rfl
        have on : s.ticker ≠ .off := by
          intro off
          rw [(isComplete_iff s).mpr ⟨.inl hc, off, hq⟩] at incomplete
          cases incomplete
        refine ⟨.drop, { s with ticker := .off }, ?_, stays, ?_⟩
        · simp [step, stopped, on]
        · have rank : 0 < s.ticker.rank := by
            cases hs : s.ticker with
            | off => exact absurd hs on
            | sleeping => decide
            | waiting => decide
            | sending c => exact Nat.zero_lt_succ _
          change 10 * s.source.length + s.copier.rank + 0 + s.queue.length < s.remaining
          rw [remaining]
          omega
  · exact advances_of_queue stays hq

/-- The end of the body is within reach as long as the caller stays. -/
theorem Coherent.exists_complete {s : Stream} (h : s.Coherent) (stays : s.gone = false) :
    ∃ es t, s.run? es = some t ∧ t.gone = false ∧ t.isComplete = true := by
  cases hc : s.isComplete with
  | true => exact ⟨[], s, rfl, stays, hc⟩
  | false =>
    obtain ⟨e, u, he, hu, nearer⟩ := h.advances stays hc
    obtain ⟨es, t, run, ht⟩ := (h.move (move_of_step h.timed he)).exists_complete hu
    refine ⟨e :: es, t, ?_, ht⟩
    rw [run?, he]
    exact run
termination_by s.remaining

private theorem off_of_run {s t : Stream} {es : List Event} (h : s.Coherent)
    (off : s.ticker = .off) (run : s.run? es = some t) : t.ticker = .off :=
  (run?_induction (p := fun s ↦ s.ticker = .off) (fun _ off m ↦ off_of_move m off) h off run).2

private theorem dropped_of_off {s t : Stream} {es : List Event} (h : s.Coherent)
    (off : s.ticker = .off) (run : s.run? es = some t) : s.dropped es = [] := by
  induction es generalizing s with
  | nil => rfl
  | cons e es ih =>
    obtain ⟨u, hu, onward⟩ := Option.bind_eq_some_iff.mp run
    have m := move_of_step h.timed hu
    have later : u.dropped es = [] := ih (h.move m) (off_of_move m off) onward
    cases e with
    | drop => rw [dropped, off]; rfl
    | _ => simp only [dropped, hu, later, Option.map_some, Option.getD_some]

/-- A run carries the data along, but for a chunk that is dropped. -/
theorem flow_run {s t : Stream} {es : List Event} (h : s.Coherent) (run : s.run? es = some t)
    (stays : t.gone = false) : s.flow = t.flow ++ s.dropped es := by
  induction es generalizing s with
  | nil =>
    cases run
    simp [dropped]
  | cons e es ih =>
    obtain ⟨u, hu, onward⟩ := Option.bind_eq_some_iff.mp run
    have m := move_of_step h.timed hu
    have first := flow_move h m (stays_of_run (h.move m) onward stays)
    have later := ih (h.move m) onward
    cases e with
    | drop =>
      -- the ticker is off from here on
      have off : u.ticker = .off := by
        cases m with
        | drop _ _ => rfl
      rw [dropped_of_off (h.move m) off onward, List.append_nil] at later
      rw [first, later]
      rfl
    | _ =>
      rw [loss, List.append_nil] at first
      simp only [dropped, hu, Option.map_some, Option.getD_some]
      rw [first, later]

private theorem not_dropsChunk_of_off {s t : Stream} {es : List Event} (h : s.Coherent)
    (off : s.ticker = .off) (run : s.run? es = some t) : ¬ s.DropsChunk es := by
  rintro ⟨before, after, u, c, rfl, hu, hc⟩
  cases (off_of_run h off hu).symm.trans hc

private theorem dropsChunk_iff_passes (s : Stream) (es : List Event) :
    s.DropsChunk es ↔ s.Passes .drop (fun t ↦ ∃ c, t.ticker = .sending c) es := by
  unfold DropsChunk Passes
  simp only [exists_and_left]

private theorem dropsChunk_cons {s t : Stream} {e : Event} {es : List Event}
    (he : s.step e = some t) : s.DropsChunk (e :: es) ↔
      (e = .drop ∧ ∃ c, s.ticker = .sending c) ∨ t.DropsChunk es := by
  rw [dropsChunk_iff_passes, dropsChunk_iff_passes, passes_cons_iff he]

/-- A run drops something exactly when it drops the ticker in the middle of a send. -/
theorem dropped_eq_nil_iff {s t : Stream} {es : List Event} (h : s.Coherent)
    (run : s.run? es = some t) : s.dropped es = [] ↔ ¬ s.DropsChunk es := by
  induction es generalizing s with
  | nil =>
    rw [dropsChunk_iff_passes]
    exact ⟨fun _ ↦ not_passes_nil s _ _, fun _ ↦ rfl⟩
  | cons e es ih =>
    obtain ⟨u, hu, onward⟩ := Option.bind_eq_some_iff.mp run
    have m := move_of_step h.timed hu
    rw [dropsChunk_cons hu]
    cases e with
    | drop =>
      have off : u.ticker = .off := by
        cases m with
        | drop _ _ => rfl
      have never := not_dropsChunk_of_off (h.move m) off onward
      rw [dropped]
      cases hc : s.ticker with
      | sending c =>
        -- the ticker has the lock, so there is something in its chunk
        have loaded := (h.loaded (by rw [hc]; rfl)).1
        rw [hc] at loaded
        exact ⟨fun he ↦ absurd he loaded, fun hn ↦ absurd (.inl ⟨rfl, c, rfl⟩) hn⟩
      | off => simpa [Ticker.chunk] using never
      | sleeping => simpa [Ticker.chunk] using never
      | waiting => simpa [Ticker.chunk] using never
    | _ =>
      have later := ih (h.move m) onward
      simp only [dropped, hu, Option.map_some, Option.getD_some]
      simpa using later

/-- When the body has ended for a caller who stays, the data are all with the caller. -/
theorem Coherent.flow_of_complete {s : Stream} (h : s.Coherent) (stays : s.gone = false)
    (complete : s.isComplete = true) : s.flow = s.receivedData := by
  obtain ⟨either, off, none_⟩ := (isComplete_iff s).mp complete
  have ended : s.copier = .ended :=
    either.resolve_right fun hf ↦ absurd (h.failed hf) (Bool.eq_false_iff.mp stays)
  have empty := (h.alone (by rw [ended]; rfl)).2
  simp [flow, toCome, ended, off, none_, empty, Copier.chunk, Copier.held, Copier.isCopying,
    Ticker.chunk]

/-- A caller who stays always has a beginning of the body's data, and the end of the body stays
within reach. When it has come, a chunk that was dropped is all that is missing: the caller has the
whole body exactly when the ticker was not dropped in the middle of a send. -/
theorem receivedData_eq_dataOf_iff {pool : BufferPool} (clean : pool.IsClean)
    {source : List Piece} {es : List Event} {s : Stream}
    (run : (start true pool source).run? es = some s) (stays : s.gone = false) :
    s.receivedData <+: Piece.dataOf source ∧
    (∃ fs t, s.run? fs = some t ∧ t.gone = false ∧ t.isComplete = true) ∧
    (s.isComplete = true →
      Piece.dataOf source = s.receivedData ++ (start true pool source).dropped es ∧
      (s.receivedData = Piece.dataOf source ↔ ¬ (start true pool source).DropsChunk es)) := by
  have start := coherent_start pool source
  have coherent := start.run run
  have carried := flow_run start run stays
  rw [flow_start clean] at carried
  refine ⟨?_, coherent.exists_complete stays, ?_⟩
  · rw [carried]
    simp only [flow, List.append_assoc]
    exact List.prefix_append _ _
  · intro complete
    rw [coherent.flow_of_complete stays complete] at carried
    refine ⟨carried, ?_⟩
    rw [← dropped_eq_nil_iff start run, carried]
    exact List.self_eq_append_right

/-- A body that fills the queue and leaves a chunk behind, and then cannot be read any further. -/
def longBody : List Piece :=
  List.replicate places (.data [97, 97]) ++ [.data [120], .failure "reset by peer"]

/-- A run in which the body is over while the ticker waits for a place with the last chunk. -/
def unluckyRun : List Event :=
  (List.replicate places [.read, .lock, .send]).flatten ++
    [.read, .lock, .tick, .grab, .read, .drop, .lock] ++ List.replicate places .receive

/-- The last chunk of a body is lost when the body is over while the ticker waits for a place. -/
theorem receivedData_of_unluckyRun :
    ∃ s, (start true (.ofSize 2) longBody).run? unluckyRun = some s ∧ s.gone = false ∧
      s.isComplete = true ∧ Piece.dataOf longBody = s.receivedData ++ [120] := by
  have run : (start true (.ofSize 2) longBody).run? unluckyRun = some _ := rfl
  have lost := (receivedData_eq_dataOf_iff (BufferPool.isClean_ofSize 2) run rfl).2.2 (by decide)
  exact ⟨_, run, rfl, by decide, lost.1⟩

end Stream
end HttpGateway
