import HttpGateway.Forwarding.Relay
import Mathlib.Data.List.Infix

/-!
# What a copy task has done

The reads of a source yield bytes until one of them finds the end or fails. Whatever part of that a
copy task has written at a time, its sink has received it from the first byte on and in order; when
all of it is written and the source has ended, the task says how many bytes there were, and when it
says that it failed, the read has failed or the sink.
-/

namespace HttpGateway

/-- How the reads of a source end. -/
inductive Ending
  | eof
  | failure (why : String)
  deriving DecidableEq

/-- What reads of a source have yielded, and how they ended if they did. -/
structure Heard where
  bytes : Bytes
  ending : Option Ending
  deriving DecidableEq

/-- What the first reads of a source yield, so many of them. -/
def RelaySource.heard (s : RelaySource) : Nat → Heard
  | 0 => ⟨[], none⟩
  | k + 1 =>
    let before := s.heard k
    match before.ending, s.reads[k]? with
    | some _, _ => before
    | none, some (.bytes b) => ⟨before.bytes ++ b, if b.isEmpty then some .eof else none⟩
    | none, some (.failure why) => ⟨before.bytes, some (.failure why)⟩
    | none, none => ⟨before.bytes, if s.hangs then none else some .eof⟩

namespace RelaySource

variable {s : RelaySource} {k : Nat} {before : Bytes}

/-- A read behind the last one finds the end, unless the source hangs. -/
theorem heard_succ_of_end (sofar : s.heard k = ⟨before, none⟩) (rest : s.reads.drop k = [])
    (ends : s.hangs = false) : s.heard (k + 1) = ⟨before, some .eof⟩ := by
  have last : s.reads[k]? = none := by
    apply List.getElem?_eq_none
    simpa using rest
  simp [heard, sofar, last, ends]

/-- A read of bytes adds them; a read of none is the end. -/
theorem heard_succ_of_bytes (sofar : s.heard k = ⟨before, none⟩) {b : Bytes}
    {rest : List ReadResult} (next : s.reads.drop k = .bytes b :: rest) :
    s.heard (k + 1) = ⟨before ++ b, if b.isEmpty then some .eof else none⟩ := by
  have here : s.reads[k]? = some (.bytes b) := by
    rw [← List.head?_drop, next]
    rfl
  simp [heard, sofar, here]

/-- A read that fails adds nothing. -/
theorem heard_succ_of_failure (sofar : s.heard k = ⟨before, none⟩) {why : String}
    {rest : List ReadResult} (next : s.reads.drop k = .failure why :: rest) :
    s.heard (k + 1) = ⟨before, some (.failure why)⟩ := by
  have here : s.reads[k]? = some (.failure why) := by
    rw [← List.head?_drop, next]
    rfl
  simp [heard, sofar, here]

/-- What reads yield before one of them finds the end or fails. -/
def sentBy : List ReadResult → Bytes
  | .bytes b :: rest => if b.isEmpty then [] else b ++ sentBy rest
  | .failure _ :: _ => []
  | [] => []

/-- What a source sends. -/
def sent (s : RelaySource) : Bytes := sentBy s.reads

/-- While a source has not ended, what is left is still to come; after that there is no more. -/
theorem heard_append_sentBy (s : RelaySource) (k : Nat) :
    (s.heard k).bytes ++ (if (s.heard k).ending = none then sentBy (s.reads.drop k) else []) =
      s.sent := by
  unfold sent
  induction k with
  | zero => simp [heard]
  | succ k ih =>
    cases ending : (s.heard k).ending with
    | some e => simpa [heard, ending] using ih
    | none =>
      have sofar : s.heard k = ⟨(s.heard k).bytes, none⟩ := ending ▸ rfl
      rw [← ih, if_pos ending]
      cases next : s.reads.drop k with
      | nil =>
        have last : s.reads[k]? = none := by
          apply List.getElem?_eq_none
          simpa using next
        have none_ : s.reads.drop (k + 1) = [] := by
          rw [← List.drop_drop, next]
          rfl
        cases hangs : s.hangs <;> simp [heard, ending, last, none_, hangs, sentBy]
      | cons r rest =>
        have after : s.reads.drop (k + 1) = rest := by
          rw [← List.drop_drop, next]
          rfl
        cases r with
        | bytes b =>
          rw [heard_succ_of_bytes sofar next, after, sentBy]
          by_cases empty : b.isEmpty <;> simp [empty]
          simpa using empty
        | failure why =>
          rw [heard_succ_of_failure sofar next, sentBy]
          rfl

/-- What has been read is the beginning of what is sent. -/
theorem heard_prefix_sent (s : RelaySource) (k : Nat) : (s.heard k).bytes <+: s.sent :=
  ⟨_, s.heard_append_sentBy k⟩

/-- When the end has been read, everything has been. -/
theorem bytes_eq_sent {bytes : Bytes} {e : Ending} (h : s.heard k = ⟨bytes, some e⟩) :
    bytes = s.sent := by
  have all := s.heard_append_sentBy k
  rw [h, if_neg nofun, List.append_nil] at all
  exact all

end RelaySource

namespace CopyTask

/-- What a step makes of a task, by what the task has come to. -/
inductive Move (t : CopyTask) : CopyStep → CopyTask → Prop
  | readEnd (u : Bytes) :
    t.phase = .moving u false → t.source.reads = [] → t.source.hangs = false →
    Move t .read { t with phase := .moving u true }
  | readBytes (u b : Bytes) (rest : List ReadResult) :
    t.phase = .moving u false → t.source.reads = .bytes b :: rest →
    Move t .read { t with
      source := { t.source with reads := rest }
      phase := .moving (u ++ b) b.isEmpty }
  | readFailure (u : Bytes) (why : String) (rest : List ReadResult) :
    t.phase = .moving u false → t.source.reads = .failure why :: rest →
    Move t .read { t with
      source := { t.source with reads := rest }
      phase := .closing (.failed why) }
  | write (n : Nat) (u : Bytes) (ended : Bool) :
    t.phase = .moving u ended → n ≤ u.length →
    Move t (.write n) { t with
      phase := .moving (u.drop n) ended
      count := t.count + n
      sink := { t.sink with received := t.sink.received ++ u.take n } }
  | refuse (why : String) (u : Bytes) (ended : Bool) :
    t.phase = .moving u ended →
    Move t (.refuse why) { t with phase := .closing (.failed why) }
  | complete :
    t.phase = .moving [] true →
    Move t .complete { t with phase := .closing (.copied t.count) }
  | close (result : CopyResult) :
    t.phase = .closing result →
    Move t .close { t with
      phase := .reporting result
      sink := { t.sink with shut := true } }

/-- A step is one of the moves. -/
theorem move_of_step {t t' : CopyTask} {a : CopyStep} (h : t.step a = some t') : Move t a t' := by
  cases a with
  | read =>
    simp only [step] at h
    split at h
    · next u phase reads =>
      split at h
      · cases h
      · next ends =>
        cases h
        exact .readEnd u phase reads (Bool.not_eq_true _ ▸ ends)
    · next u b rest phase reads =>
      cases h
      exact .readBytes u b rest phase reads
    · next u why rest phase reads =>
      cases h
      exact .readFailure u why rest phase reads
    · cases h
  | write n =>
    simp only [step] at h
    split at h
    · next u ended phase =>
      split at h
      · next fits =>
        cases h
        exact .write n u ended phase fits.2.1
      · cases h
    · cases h
  | refuse why =>
    simp only [step] at h
    split at h
    · next u ended phase =>
      cases h
      exact .refuse why u ended phase
    · cases h
  | complete =>
    simp only [step] at h
    split at h
    · next phase =>
      cases h
      exact .complete phase
    · cases h
  | close =>
    simp only [step] at h
    split at h
    · next result phase =>
      cases h
      exact .close result phase
    · cases h

/-- A task that takes a step has not come to its end. -/
theorem Move.not_isDone {t t' : CopyTask} {a : CopyStep} (m : Move t a t') : t.isDone = false := by
  unfold isDone
  cases m with
  | readEnd u phase => simp [phase]
  | readBytes u b rest phase => simp [phase]
  | readFailure u why rest phase => simp [phase]
  | write n u ended phase => simp [phase]
  | refuse why u ended phase => simp [phase]
  | complete phase => simp [phase]
  | close result phase => simp [phase]

/-- A task that takes a step has not come to its end by it. -/
theorem Move.isDone_eq {t t' : CopyTask} {a : CopyStep} (m : Move t a t') : t'.isDone = false := by
  cases m with
  | readEnd | readBytes | readFailure | write | refuse | complete | close => rfl

end CopyTask

/-- How often steps read. -/
def CopyStep.readCount (steps : List CopyStep) : Nat := steps.count .read

@[simp] theorem CopyStep.readCount_concat_read (steps : List CopyStep) :
    readCount (steps ++ [.read]) = readCount steps + 1 := by simp [readCount]

theorem CopyStep.readCount_concat_of_ne (steps : List CopyStep) {a : CopyStep} (other : a ≠ .read) :
    readCount (steps ++ [a]) = readCount steps := by simp [readCount, other]

open CopyStep (readCount)

/-- A copy may end like this after steps that have brought its sink so many bytes of a source. -/
def RelaySource.Justifies (s : RelaySource) (steps : List CopyStep) (received : Bytes) :
    CopyResult → Prop
  | .copied n => s.heard (readCount steps) = ⟨received, some .eof⟩ ∧ n = received.length
  | .failed why => (s.heard (readCount steps)).ending = some (.failure why) ∨ .refuse why ∈ steps

/-- What a task has done by its steps: the sink has what was read from the source, but for the bytes
that are still to be written, and the result is justified. -/
structure RelaySource.Copied (s : RelaySource) (steps : List CopyStep) (t : CopyTask) : Prop where
  rest : t.source = ⟨s.reads.drop (readCount steps), s.hangs⟩
  counted : t.count = t.sink.received.length
  received : t.sink.received <+: (s.heard (readCount steps)).bytes
  moving : ∀ u ended, t.phase = .moving u ended →
    s.heard (readCount steps) = ⟨t.sink.received ++ u, if ended then some .eof else none⟩
  result : ∀ r, t.phase = .closing r ∨ t.phase = .reporting r →
    s.Justifies steps t.sink.received r

namespace RelaySource.Copied

variable {s : RelaySource} {steps : List CopyStep} {t t' : CopyTask}

/-- A task that has not begun has done nothing. -/
theorem start (s : RelaySource) (limit : Option Nat) : s.Copied [] (.start s limit) where
  rest := rfl
  counted := rfl
  received := List.nil_prefix
  moving u ended phase := by
    cases phase
    rfl
  result r phase := by simp [CopyTask.start] at phase

/-- A task that has come to its end has nothing more to account for. -/
theorem of_isDone (h : s.Copied steps t) {phase : CopyPhase}
    (done : phase = .finished ∨ phase = .stopped) : s.Copied steps { t with phase } where
  rest := h.rest
  counted := h.counted
  received := h.received
  moving u ended moves := by
    obtain rfl : phase = .moving u ended := moves
    simp at done
  result r has := by
    rcases done with rfl | rfl
    · simp at has
    · simp at has

/-- What the source has still to yield is what is left of it. -/
private theorem drop_readCount (h : s.Copied steps t) :
    s.reads.drop (readCount steps) = t.source.reads := by rw [h.rest]

/-- A read takes one result from what is left of the source. -/
private theorem rest_read (h : s.Copied steps t) {r : ReadResult} {rest : List ReadResult}
    (next : t.source.reads = r :: rest) :
    ({ t.source with reads := rest } : RelaySource) =
      ⟨s.reads.drop (readCount (steps ++ [.read])), s.hangs⟩ := by
  have here := h.drop_readCount.trans next
  rw [CopyStep.readCount_concat_read, ← List.drop_drop, here, h.rest]
  rfl

/-- A task that reads no more comes to a result, or has it already. -/
private theorem settle (h : s.Copied steps t) {a : CopyStep} (other : a ≠ .read)
    {phase : CopyPhase} {shut : Bool} {result : CopyResult}
    (has : phase = .closing result ∨ phase = .reporting result)
    (due : s.Justifies (steps ++ [a]) t.sink.received result) :
    s.Copied (steps ++ [a]) { t with phase, sink := { t.sink with shut } } := by
  have count := CopyStep.readCount_concat_of_ne steps other
  constructor
  case rest =>
    rw [count]
    exact h.rest
  case counted => exact h.counted
  case received =>
    rw [count]
    exact h.received
  case moving =>
    intro u ended moves
    obtain rfl : phase = .moving u ended := moves
    simp at has
  case result =>
    intro r has'
    have same : result = r := by
      rcases has with rfl | rfl
      · simpa using has'
      · simpa using has'
    exact same ▸ due

/-- A step leaves what a task has done in order. -/
theorem step (h : s.Copied steps t) {a : CopyStep} (m : CopyTask.Move t a t') :
    s.Copied (steps ++ [a]) t' := by
  cases m with
  | readEnd u phase reads ends =>
    have left := h.drop_readCount.trans reads
    have hangs : s.hangs = false := by simpa [h.rest] using ends
    have next := RelaySource.heard_succ_of_end (h.moving u false phase) left hangs
    constructor
    case rest =>
      have all : s.reads.length ≤ CopyStep.readCount steps := by simpa using left
      have none_ : s.reads.drop (CopyStep.readCount steps + 1) = [] := by
        apply List.drop_eq_nil_of_le
        omega
      rw [CopyStep.readCount_concat_read, none_, h.rest, left]
    case counted => exact h.counted
    case received =>
      rw [CopyStep.readCount_concat_read, next]
      exact List.prefix_append _ _
    case moving =>
      intro u' ended moves
      cases moves
      rw [CopyStep.readCount_concat_read, next]
      rfl
    case result => simp
  | readBytes u b rest phase reads =>
    have next := RelaySource.heard_succ_of_bytes (h.moving u false phase)
      (h.drop_readCount.trans reads)
    constructor
    case rest => exact h.rest_read reads
    case counted => exact h.counted
    case received =>
      rw [CopyStep.readCount_concat_read, next, List.append_assoc]
      exact List.prefix_append _ _
    case moving =>
      intro u' ended moves
      cases moves
      rw [CopyStep.readCount_concat_read, next, List.append_assoc]
    case result => simp
  | readFailure u why rest phase reads =>
    have next := RelaySource.heard_succ_of_failure (h.moving u false phase)
      (h.drop_readCount.trans reads)
    constructor
    case rest => exact h.rest_read reads
    case counted => exact h.counted
    case received =>
      rw [CopyStep.readCount_concat_read, next]
      exact List.prefix_append _ _
    case moving => simp
    case result =>
      intro r has
      obtain rfl : .failed why = r := by simpa using has
      left
      rw [CopyStep.readCount_concat_read, next]
  | write n u ended phase fits =>
    have sofar := h.moving u ended phase
    have count := CopyStep.readCount_concat_of_ne steps (a := .write n) nofun
    have split : t.sink.received ++ u.take n ++ u.drop n = t.sink.received ++ u := by
      rw [List.append_assoc, List.take_append_drop]
    constructor
    case rest =>
      rw [count]
      exact h.rest
    case counted =>
      have taken : (u.take n).length = n := List.length_take_of_le fits
      simp [h.counted, taken]
    case received =>
      rw [count, sofar]
      exact ⟨u.drop n, split⟩
    case moving =>
      intro u' ended' moves
      cases moves
      rw [count, sofar, split]
    case result => simp
  | refuse why u ended phase =>
    apply h.settle (a := .refuse why) nofun (.inl rfl)
    right
    simp
  | complete phase =>
    apply h.settle (a := .complete) nofun (.inl rfl)
    refine ⟨?_, h.counted⟩
    have count := CopyStep.readCount_concat_of_ne steps (a := .complete) nofun
    rw [count, h.moving [] true phase, List.append_nil]
    rfl
  | close result phase =>
    apply h.settle (a := .close) nofun (.inr rfl)
    have due := h.result result (.inl phase)
    have count := CopyStep.readCount_concat_of_ne steps (a := .close) nofun
    cases result with
    | copied n => exact ⟨count ▸ due.1, due.2⟩
    | failed why =>
      rcases due with read | refused
      · left
        rw [count]
        exact read
      · right
        exact List.mem_append_left _ refused

end RelaySource.Copied
end HttpGateway
