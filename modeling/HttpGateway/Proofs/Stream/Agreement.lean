import HttpGateway.Proofs.Stream.DirectDelivery

/-!
# A body in one piece and a body piece by piece

Whether a body is read to its end and goes out in one piece or is sent as it comes, a caller who
reads to the end gets the same data and the same trailers. The two differ where a body cannot be
read to its end: in one piece nothing of it goes out and the response is an error, while piece by
piece all goes out that was read before.
-/

namespace HttpGateway

/-- The frame is one of data. -/
def Frame.isData : Frame → Bool
  | .data _ => true
  | .trailers _ => false

namespace Delivery

/-! ## In one piece -/

/-- A body is read up to where it fails, and all of it if it does not. -/
theorem readable_failure (pieces : List TimedPiece) :
    (readable pieces).2 = Piece.failure? (pieces.map Prod.snd) ∧
      (Piece.failure? (pieces.map Prod.snd) = none → (readable pieces).1 = pieces) := by
  induction pieces with
  | nil => exact ⟨rfl, fun _ ↦ rfl⟩
  | cons piece pieces ih =>
    obtain ⟨wait, piece⟩ := piece
    cases piece with
    | data d => exact ⟨ih.1, fun whole ↦ congrArg (List.cons _) (ih.2 whole)⟩
    | trailers t => exact ⟨ih.1, fun whole ↦ congrArg (List.cons _) (ih.2 whole)⟩
    | failure why => exact ⟨rfl, nofun⟩

/-- The data of a body that does not fail are those of all pieces. -/
theorem flatMap_bytes {source : List Piece} (whole : Piece.failure? source = none) :
    source.flatMap Piece.bytes = HttpGateway.Piece.dataOf source := by
  induction source with
  | nil => rfl
  | cons piece rest ih =>
    cases piece with
    | data d =>
      rw [List.flatMap_cons, ih whole]
      rfl
    | trailers t =>
      rw [List.flatMap_cons, ih whole]
      rfl
    | failure why => cases whole

/-- So are the trailers. -/
theorem foldl_mergePiece {source : List Piece} (whole : Piece.failure? source = none)
    (before : Option HeaderMap) :
    source.foldl mergePiece before = Frame.merged before (Piece.trailersOf source) := by
  induction source generalizing before with
  | nil => rfl
  | cons piece rest ih =>
    cases piece with
    | data d => exact ih whole before
    | trailers t => exact ih whole _
    | failure why => cases whole

/-- What goes out in one piece are the data, which may be left out if there are none and no trailers
either, and behind them the trailers. -/
theorem framed_eq {source : List Piece} (whole : Piece.failure? source = none) :
    ∃ front : List Frame, framed source =
        front ++ Frame.ofTrailers (Frame.merged none (Piece.trailersOf source)) ∧
      front.flatMap Frame.bytes = Piece.dataOf source ∧
      (∀ fields, .trailers fields ∉ front) ∧ front.length ≤ 1 := by
  unfold framed
  rw [foldl_mergePiece whole, flatMap_bytes whole]
  dsimp only
  cases Frame.merged none (Piece.trailersOf source) with
  | some fields =>
    exact ⟨[.data (Piece.dataOf source)], rfl, by simp [Frame.bytes], by simp, by simp⟩
  | none =>
    cases hd : Piece.dataOf source with
    | nil => exact ⟨[], rfl, rfl, by simp, by simp⟩
    | cons b bytes => exact ⟨[.data (b :: bytes)], rfl, by simp [Frame.bytes], by simp, by simp⟩

/-- A body that cannot be read to its end is an error in one piece. -/
theorem whole_of_failure (pool : BufferPool) {pieces : List TimedPiece} {why : String}
    (fails : Piece.failure? (pieces.map Prod.snd) = some why) :
    (whole pool pieces none).1 = .error (unreadable why) := by
  have reason : (readable pieces).2 = some why := (readable_failure pieces).1.trans fails
  have read : readable pieces = ((readable pieces).1, some why) := Prod.ext rfl reason
  unfold whole
  rw [read]

/-- A body that can be read to its end goes out in one piece. -/
theorem whole_of_readable (pool : BufferPool) {pieces : List TimedPiece}
    (reads : Piece.failure? (pieces.map Prod.snd) = none) :
    ∃ delivered, (whole pool pieces none).1 = .ok delivered ∧
      delivered.frames.map Prod.snd = framed (pieces.map Prod.snd) := by
  have read : readable pieces = (pieces, none) :=
    Prod.ext ((readable_failure pieces).2 reads) ((readable_failure pieces).1.trans reads)
  unfold whole
  rw [read]
  refine ⟨_, rfl, ?_⟩
  simp [Function.comp_def]

/-! ## Piece by piece -/

/-- What a caller gets piece by piece who reads to the end. -/
theorem frames_stream (pool : BufferPool) (pieces : List TimedPiece) :
    (stream pool none pieces none).frames.map Prod.snd =
      Frame.ofBody none (pieces.map Prod.snd) := by
  have atEnd := atEnd_stream pool pieces
  obtain ⟨es, run⟩ := reaches_delivery pool none pieces none 0 (32 * (pieces.length + 3))
  obtain ⟨heads, -⟩ := Stream.headsFor_of_run run atEnd.stays
  rw [← (heads.complete atEnd.complete).2, ← atEnd.got]
  simp [stream, Function.comp_def]

/-! ## Both -/

/-- What a caller gets of a body who reads to the end, in one piece and piece by piece. -/
structure Agree (source : List Piece) (whole parts : List Frame) : Prop where
  framed : Frame.Bring whole source
  immediate : Frame.Bring parts source
  data : whole.flatMap Frame.bytes = parts.flatMap Frame.bytes
  trailers : whole.filter (!·.isData) = parts.filter (!·.isData)
  /-- In one piece there is one frame of data at most. -/
  single : (whole.filter Frame.isData).length ≤ 1

private theorem trailers_eq {front front' : List Frame} (plain : ∀ fields, .trailers fields ∉ front)
    (plain' : ∀ fields, .trailers fields ∉ front') (last : List Frame) :
    (front ++ last).filter (!·.isData) = (front' ++ last).filter (!·.isData) := by
  have none_ {front : List Frame} (plain : ∀ fields, .trailers fields ∉ front) :
      front.filter (!·.isData) = [] := by
    rw [List.filter_eq_nil_iff]
    rintro (bytes | fields) mem
    · exact Bool.false_ne_true
    · exact absurd mem (plain fields)
  rw [List.filter_append, List.filter_append, none_ plain, none_ plain']

private theorem agree_of_front {source : List Piece} {front : List Frame}
    (data : front.flatMap Frame.bytes = Piece.dataOf source)
    (plain : ∀ fields, .trailers fields ∉ front) (short : front.length ≤ 1) :
    Agree source (front ++ Frame.ofTrailers (Frame.merged none (Piece.trailersOf source)))
      (Frame.ofBody none source) := by
  have framed := Frame.bring_concat data plain
  have immediate := Frame.bring_ofBody source
  refine ⟨framed, immediate, framed.data.trans immediate.data.symm, ?_, ?_⟩
  · exact trailers_eq plain (Piece.trailers_notMem_framesOf source) _
  · have last : (Frame.ofTrailers (Frame.merged none (Piece.trailersOf source))).filter
        Frame.isData = [] := by
      cases Frame.merged none (Piece.trailersOf source) <;> rfl
    rw [List.filter_append, last, List.append_nil]
    exact Nat.le_trans (List.length_filter_le _ _) short

/-- A body that is read to its end comes to the caller in one piece as it does piece by piece. One
that fails is an error in one piece, and piece by piece all comes that was read before. In whatever
order the parties of a stream take their turns, it comes to its end, and a caller who stays has the
same frames then. -/
theorem under_framed_under_immediate (pool : BufferPool) (pieces : List TimedPiece) :
    ∃ immediate : Delivered, (under pool pieces none .immediate).1 = .ok immediate ∧
      Frame.Bring (immediate.frames.map Prod.snd) (pieces.map Prod.snd) ∧
      (∀ es s, (Stream.start false pool (pieces.map Prod.snd)).run? es = some s →
        s.gone = false →
        s.HeadsFor (immediate.frames.map Prod.snd) ∧ es.length ≤ 4 * pieces.length + 4) ∧
      match Piece.failure? (pieces.map Prod.snd) with
      | some why => (under pool pieces none .framed).1 =
          .error (.transport .clientNetError ("read backend body: " ++ why))
      | none => ∃ framed : Delivered, (under pool pieces none .framed).1 = .ok framed ∧
          Agree (pieces.map Prod.snd) (framed.frames.map Prod.snd)
            (immediate.frames.map Prod.snd) := by
  have frames := frames_stream pool pieces
  refine ⟨stream pool none pieces none, rfl, ?_, ?_, ?_⟩
  · rw [frames]
    exact Frame.bring_ofBody _
  · intro es s run stays
    have heads := Stream.headsFor_of_run run stays
    rw [List.length_map] at heads
    rw [frames]
    exact heads
  · cases reads : Piece.failure? (pieces.map Prod.snd) with
    | some why => exact whole_of_failure pool reads
    | none =>
      obtain ⟨delivered, ok, eq⟩ := whole_of_readable pool reads
      obtain ⟨front, framed, data, plain, short⟩ := framed_eq reads
      refine ⟨delivered, ok, ?_⟩
      rw [frames, eq, framed]
      exact agree_of_front data plain short

end Delivery
end HttpGateway
