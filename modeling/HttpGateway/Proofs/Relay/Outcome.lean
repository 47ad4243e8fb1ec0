import HttpGateway.Forwarding.Relay.Timed
import HttpGateway.Proofs.Relay.Copies
import Mathlib.Data.List.Induction

/-!
# The outcome of a relay

However the two copy tasks and the supervisor of a relay come between each other: what an end has
received is the beginning of what has been read from the other; the outcome is the first report, and
it is true of the copy it is about; a task that reports need not wait; the supervisor never finds
that both tasks are gone without a report; and when the relay is over nothing more happens.
-/

namespace HttpGateway

/-- The end that a direction leads from. -/
def Direction.origin (caller backend : RelayEnd) : Direction → RelayEnd
  | toBackend => caller
  | toCaller => backend

namespace Relay

namespace Event

/-- The step of the task of a direction. -/
def stepOf (d : Direction) : Event → Option CopyStep
  | copy d' a => if d' = d then some a else none
  | report _ | collect | stop _ => none

/-- The direction that reports. -/
def reporter? : Event → Option Direction
  | report d => some d
  | copy _ _ | collect | stop _ => none

end Event

/-- The steps of the task of a direction. -/
def steps (events : List Event) (d : Direction) : List CopyStep := events.filterMap (Event.stepOf d)

/-- The directions that have reported, in their order. -/
def reporters (events : List Event) : List Direction := events.filterMap Event.reporter?

/-- What has been read from the end that a direction leads from. -/
def read (caller backend : RelayEnd) (events : List Event) (d : Direction) : Heard :=
  (d.origin caller backend).source.heard (CopyStep.readCount (steps events d))

variable {caller backend : RelayEnd} {events : List Event} {r q : Relay}

/-! ## Tasks and events -/

/-- The task of a direction is the one that was put there. -/
theorem task_setTask (r : Relay) (d d' : Direction) (t : CopyTask) :
    (r.setTask d t).task d' = if d' = d then t else r.task d' := by
  cases d <;> cases d' <;> rfl

@[simp] theorem task_setTask_self (r : Relay) (d : Direction) (t : CopyTask) :
    (r.setTask d t).task d = t := by simp [task_setTask]

/-- The tasks of a relay do not depend on what has been reported. -/
@[simp] theorem task_with (r : Relay) (reports : List (Direction × CopyResult))
    (outcome : Option (Direction × CopyResult)) (d : Direction) :
    ({ r with reports, outcome } : Relay).task d = r.task d := by cases d <;> rfl

@[simp] theorem reports_setTask (r : Relay) (d : Direction) (t : CopyTask) :
    (r.setTask d t).reports = r.reports := by cases d <;> rfl

@[simp] theorem outcome_setTask (r : Relay) (d : Direction) (t : CopyTask) :
    (r.setTask d t).outcome = r.outcome := by cases d <;> rfl

@[simp] theorem reporters_concat (events : List Event) (e : Event) :
    reporters (events ++ [e]) = reporters events ++ e.reporter?.toList := by
  cases h : e.reporter? <;> simp [reporters, h]

@[simp] theorem steps_concat (events : List Event) (e : Event) (d : Direction) :
    steps (events ++ [e]) d = steps events d ++ (e.stepOf d).toList := by
  cases h : e.stepOf d <;> simp [steps, h]

/-- A direction has reported if its report is among the events. -/
theorem mem_reporters_iff {d : Direction} : d ∈ reporters events ↔ .report d ∈ events := by
  unfold reporters
  rw [List.mem_filterMap]
  constructor
  · rintro ⟨e, mem, reports⟩
    cases e with
    | report d' =>
      cases reports
      exact mem
    | copy | collect | stop => cases reports
  · intro mem
    exact ⟨.report d, mem, rfl⟩

/-- A step of a task is among the events. -/
theorem mem_steps_iff {d : Direction} {a : CopyStep} : a ∈ steps events d ↔ .copy d a ∈ events := by
  unfold steps
  rw [List.mem_filterMap]
  constructor
  · rintro ⟨e, mem, own⟩
    cases e with
    | copy d' a' =>
      obtain ⟨rfl, rfl⟩ : d' = d ∧ a' = a := by simpa [Event.stepOf] using own
      exact mem
    | report | collect | stop => cases own
  · intro mem
    exact ⟨.copy d a, mem, by simp [Event.stepOf]⟩

/-- The last event of a row happens to the relay after the others. -/
theorem run?_concat (r : Relay) (events : List Event) (e : Event) :
    r.run? (events ++ [e]) = (r.run? events).bind fun q ↦ q.step e := by
  induction events generalizing r with
  | nil =>
    change ((r.step e).bind some) = r.step e
    exact Option.bind_fun_some _
  | cons first events ih =>
    simp only [List.cons_append, run?]
    cases r.step first with
    | none => rfl
    | some q => exact ih q

/-! ## Moves -/

/-- The relay after the task of a direction has reported a result. -/
def reported (r : Relay) (d : Direction) (result : CopyResult) : Relay :=
  { r.setTask d { r.task d with phase := .finished } with reports := r.reports ++ [(d, result)] }

/-- The reports that have been sent, the first one first. -/
def sent (r : Relay) : List (Direction × CopyResult) := r.outcome.toList ++ r.reports

/-- A report finishes its task and no other. -/
theorem task_reported (r : Relay) (d d' : Direction) (result : CopyResult) :
    (r.reported d result).task d' =
      if d' = d then { r.task d with phase := .finished } else r.task d' :=
  (task_with _ _ _ d').trans (task_setTask r d d' _)

/-- A report is sent behind the others. -/
@[simp] theorem sent_reported (r : Relay) (d : Direction) (result : CopyResult) :
    (r.reported d result).sent = r.sent ++ [(d, result)] := by simp [reported, sent]

@[simp] theorem outcome_reported (r : Relay) (d : Direction) (result : CopyResult) :
    (r.reported d result).outcome = r.outcome := by simp [reported]

/-- What a task does is no report. -/
@[simp] theorem sent_setTask (r : Relay) (d : Direction) (t : CopyTask) :
    (r.setTask d t).sent = r.sent := by simp [sent]

/-- What an event does to a relay. -/
inductive Move (r : Relay) : Event → Relay → Prop
  | copy (d : Direction) (a : CopyStep) (t : CopyTask) :
    CopyTask.Move (r.task d) a t → Move r (.copy d a) (r.setTask d t)
  | report (d : Direction) (result : CopyResult) :
    (r.task d).phase = .reporting result →
    Move r (.report d) (r.reported d result)
  | collect (first : Direction × CopyResult) (rest : List (Direction × CopyResult)) :
    r.outcome = none → r.reports = first :: rest →
    Move r .collect { r with outcome := some first, reports := rest }
  | giveUp :
    r.outcome = none → r.reports = [] → (∀ d, (r.task d).isDone = true) →
    Move r .collect { r with outcome := some unreported }
  | stop (d : Direction) :
    r.outcome ≠ none → (r.task d).isDone = false →
    Move r (.stop d) (r.setTask d { r.task d with phase := .stopped })

/-- A step is one of the moves. -/
theorem move_of_step {e : Event} (h : r.step e = some q) : Move r e q := by
  cases e with
  | copy d a =>
    obtain ⟨t, moved, rfl⟩ := Option.map_eq_some_iff.mp h
    exact .copy d a t (CopyTask.move_of_step moved)
  | report d =>
    simp only [step] at h
    split at h
    · next result phase =>
      split at h
      · cases h
        exact .report d result phase
      · cases h
    · cases h
  | collect =>
    simp only [step] at h
    split at h
    · next first rest none_ reports =>
      cases h
      exact .collect first rest none_ reports
    · next none_ reports =>
      split at h
      · next done =>
        cases h
        rw [Bool.and_eq_true] at done
        apply Move.giveUp none_ reports
        intro d
        cases d with
        | toBackend => exact done.1
        | toCaller => exact done.2
      · cases h
    · cases h
  | stop d =>
    simp only [step] at h
    split at h
    · next running =>
      cases h
      rw [Bool.and_eq_true, Bool.not_eq_true'] at running
      apply Move.stop d _ running.2
      intro none_
      simp [none_] at running
    · cases h

/-! ## What a relay knows of its events -/

/-- The first report was made by the task of a direction, with a result. -/
def FirstReport (caller backend : RelayEnd) (events : List Event)
    (report : Direction × CopyResult) : Prop :=
  ∃ before later m, events = before ++ .report report.1 :: later ∧
    (∀ d, .report d ∉ before) ∧ (start caller backend).run? before = some m ∧
    (m.task report.1).phase = .reporting report.2

/-- What holds of a relay after events. -/
structure Sound (caller backend : RelayEnd) (events : List Event) (r : Relay) : Prop where
  happened : (start caller backend).run? events = some r
  copied : ∀ d : Direction, (d.origin caller backend).source.Copied (steps events d) (r.task d)
  /-- The reports were made in the order in which they are taken. -/
  order : r.sent.map Prod.fst = reporters events
  /-- They are true. -/
  justified : ∀ (d : Direction) result, (d, result) ∈ r.sent →
    (d.origin caller backend).source.Justifies (steps events d) (r.task d).sink.received result
  first : ∀ report, r.sent.head? = some report → FirstReport caller backend events report
  /-- The tasks that have reported are those that have finished, and each reports once. -/
  finished : ∀ d, (r.task d).phase = .finished ↔ d ∈ reporters events
  once : (reporters events).Nodup
  /-- No task is stopped before there is an outcome. -/
  running : r.outcome = none → ∀ d, (r.task d).phase ≠ .stopped

/-- What was the first report stays the first report. -/
theorem FirstReport.append {report : Direction × CopyResult}
    (h : FirstReport caller backend events report) (further : List Event) :
    FirstReport caller backend (events ++ further) report := by
  obtain ⟨before, later, m, rfl, none_, happened, phase⟩ := h
  refine ⟨before, later ++ further, m, ?_, none_, happened, phase⟩
  rw [List.append_assoc, List.cons_append]

/-- At first nothing has happened. -/
theorem sound_start (caller backend : RelayEnd) :
    Sound caller backend [] (start caller backend) where
  happened := rfl
  copied d := by
    cases d with
    | toBackend => exact .start caller.source backend.limit
    | toCaller => exact .start backend.source caller.limit
  order := rfl
  justified := nofun
  first := nofun
  finished d := by
    cases d with
    | toBackend => exact ⟨nofun, nofun⟩
    | toCaller => exact ⟨nofun, nofun⟩
  once := List.nodup_nil
  running _ d := by
    cases d with
    | toBackend => exact nofun
    | toCaller => exact nofun

/-- A task that goes on has not reported. -/
theorem Sound.not_mem_of_isDone (h : Sound caller backend events r) {d : Direction}
    (going : (r.task d).isDone = false) : d ∉ reporters events := by
  intro reported
  have finished := (h.finished d).mpr reported
  simp [CopyTask.isDone, finished] at going

/-- Where each of two directions comes once at most and one is missing, there is room. -/
theorem length_lt_of_not_mem {ds : List Direction} (once : ds.Nodup) {d : Direction}
    (missing : d ∉ ds) : ds.length < queueLength := by
  have all : (d :: ds).length ≤ [Direction.toBackend, .toCaller].length := by
    apply List.Nodup.length_le_of_subset (List.nodup_cons.mpr ⟨missing, once⟩)
    intro d' _
    cases d' <;> simp
  exact all

/-- What is sent has been reported. -/
theorem Sound.mem_reporters (h : Sound caller backend events r) {d : Direction}
    {result : CopyResult} (mem : (d, result) ∈ r.sent) : d ∈ reporters events := by
  rw [← h.order]
  exact List.mem_map_of_mem mem

/-- A copying task that makes a step leaves the relay sound. -/
theorem Sound.copy {d : Direction} {a : CopyStep} {t : CopyTask}
    (h : Sound caller backend events r) (s : r.step (.copy d a) = some (r.setTask d t))
    (moved : (r.task d).Move a t) :
    Sound caller backend (events ++ [.copy d a]) (r.setTask d t) := by
  have going : d ∉ reporters events := h.not_mem_of_isDone moved.not_isDone
  have own : ∀ d', (Event.copy d a).stepOf d' = if d = d' then some a else none := fun _ ↦ rfl
  constructor
  case happened =>
    rw [run?_concat, h.happened]
    exact s
  case copied =>
    intro d'
    rw [steps_concat, own, task_setTask]
    by_cases same : d' = d
    · subst same
      simpa using (h.copied d').step moved
    · simpa [same, Ne.symm same] using h.copied d'
  case order => simpa [Event.reporter?] using h.order
  case justified =>
    intro d' result mem
    rw [sent_setTask] at mem
    have other : d' ≠ d := fun same ↦ going (same ▸ h.mem_reporters mem)
    rw [steps_concat, own, task_setTask]
    simpa [other, Ne.symm other] using h.justified d' result mem
  case first =>
    intro report head
    exact (h.first report (sent_setTask r d t ▸ head)).append [.copy d a]
  case finished =>
    intro d'
    rw [task_setTask, reporters_concat]
    by_cases same : d' = d
    · subst same
      have unfinished : t.phase ≠ .finished := by
        intro finished
        have going := moved.isDone_eq
        simp [CopyTask.isDone, finished] at going
      simp [Event.reporter?, going, unfinished]
    · simpa [same, Event.reporter?] using h.finished d'
  case once => simpa [Event.reporter?] using h.once
  case running =>
    intro none_ d'
    rw [task_setTask]
    split
    · intro stopped
      have going := moved.isDone_eq
      simp [CopyTask.isDone, stopped] at going
    · exact h.running (by simpa using none_) d'

/-- A task that reports leaves the relay sound. -/
theorem Sound.report {d : Direction} {result : CopyResult} (h : Sound caller backend events r)
    (s : r.step (.report d) = some (r.reported d result))
    (phase : (r.task d).phase = .reporting result) :
    Sound caller backend (events ++ [.report d]) (r.reported d result) := by
  have going : d ∉ reporters events := h.not_mem_of_isDone (by simp [CopyTask.isDone, phase])
  have due := (h.copied d).result result (.inr phase)
  constructor
  case happened =>
    rw [run?_concat, h.happened]
    exact s
  case copied =>
    intro d'
    rw [steps_concat, task_reported]
    by_cases same : d' = d
    · subst same
      simpa [Event.stepOf] using (h.copied d').of_isDone (.inl rfl)
    · simpa [Event.stepOf, same] using h.copied d'
  case order => simp [h.order, Event.reporter?]
  case justified =>
    intro d' result' mem
    rw [sent_reported, List.mem_append, List.mem_singleton] at mem
    rw [steps_concat, task_reported]
    rcases mem with before | now
    · have other : d' ≠ d := fun same ↦ going (same ▸ h.mem_reporters before)
      simpa [Event.stepOf, other] using h.justified d' result' before
    · cases now
      simpa [Event.stepOf] using due
  case first =>
    intro report head
    rw [sent_reported, List.head?_append] at head
    cases before : r.sent.head? with
    | some earlier =>
      obtain rfl : earlier = report := by simpa [before] using head
      exact (h.first earlier before).append [.report d]
    | none =>
      obtain rfl : (d, result) = report := by simpa [before] using head
      have none_ : reporters events = [] := by
        rw [← h.order, List.head?_eq_none_iff.mp before]
        rfl
      refine ⟨events, [], r, rfl, ?_, h.happened, phase⟩
      intro d' mem
      have reported := mem_reporters_iff.mpr mem
      simp [none_] at reported
  case finished =>
    intro d'
    rw [reporters_concat, task_reported]
    by_cases same : d' = d
    · subst same
      simp [Event.reporter?]
    · simpa [same, Event.reporter?] using h.finished d'
  case once =>
    rw [reporters_concat]
    simpa [Event.reporter?, List.nodup_append] using ⟨h.once, fun d' mem same ↦ going (same ▸ mem)⟩
  case running =>
    intro none_ d'
    rw [task_reported]
    split
    · exact nofun
    · exact h.running (by simpa using none_) d'

/-- Taking the first report leaves the relay sound. -/
theorem Sound.collect {first : Direction × CopyResult} {rest : List (Direction × CopyResult)}
    (h : Sound caller backend events r)
    (s : r.step .collect = some { r with outcome := some first, reports := rest })
    (none_ : r.outcome = none) (reports : r.reports = first :: rest) :
    Sound caller backend (events ++ [.collect])
      { r with outcome := some first, reports := rest } := by
  have sent : Relay.sent { r with outcome := some first, reports := rest } = r.sent := by
    simp [Relay.sent, none_, reports]
  constructor
  case happened =>
    rw [run?_concat, h.happened]
    exact s
  case copied =>
    intro d
    simpa [Event.stepOf] using h.copied d
  case order => simpa [sent, Event.reporter?] using h.order
  case justified =>
    intro d result mem
    simpa [Event.stepOf] using h.justified d result (sent ▸ mem)
  case first =>
    intro report head
    exact (h.first report (sent ▸ head)).append [.collect]
  case finished =>
    intro d
    simpa [Event.reporter?] using h.finished d
  case once => simpa [Event.reporter?] using h.once
  case running => simp

/-- Stopping a task when there is an outcome leaves the relay sound. -/
theorem Sound.stop {d : Direction} (h : Sound caller backend events r)
    (s : r.step (.stop d) = some (r.setTask d { r.task d with phase := .stopped }))
    (some_ : r.outcome ≠ none) (going : (r.task d).isDone = false) :
    Sound caller backend (events ++ [.stop d])
      (r.setTask d { r.task d with phase := .stopped }) := by
  have unreported : d ∉ reporters events := h.not_mem_of_isDone going
  constructor
  case happened =>
    rw [run?_concat, h.happened]
    exact s
  case copied =>
    intro d'
    rw [steps_concat, task_setTask]
    by_cases same : d' = d
    · subst same
      simpa [Event.stepOf] using (h.copied d').of_isDone (.inr rfl)
    · simpa [Event.stepOf, same] using h.copied d'
  case order => simpa [Event.reporter?] using h.order
  case justified =>
    intro d' result mem
    rw [sent_setTask] at mem
    rw [steps_concat, task_setTask]
    by_cases same : d' = d
    · subst same
      simpa [Event.stepOf] using h.justified d' result mem
    · simpa [Event.stepOf, same] using h.justified d' result mem
  case first =>
    intro report head
    exact (h.first report (sent_setTask r d _ ▸ head)).append [.stop d]
  case finished =>
    intro d'
    rw [task_setTask, reporters_concat]
    by_cases same : d' = d
    · subst same
      simp [Event.reporter?, unreported]
    · simpa [same, Event.reporter?] using h.finished d'
  case once => simpa [Event.reporter?] using h.once
  case running =>
    intro none_
    simp at none_
    exact absurd none_ some_

/-- Every event leaves a relay sound. -/
theorem Sound.step {e : Event} (h : Sound caller backend events r) (s : r.step e = some q) :
    Sound caller backend (events ++ [e]) q := by
  cases move_of_step s with
  | copy d a t moved => exact h.copy s moved
  | report d result phase => exact h.report s phase
  | collect first rest none_ reports => exact h.collect s none_ reports
  | giveUp none_ reports done =>
    -- Nobody has been stopped, so a task that is gone has reported.
    have finished := (h.finished .toBackend).mp (by
      have gone := done .toBackend
      simpa [CopyTask.isDone, h.running none_] using gone)
    simp [← h.order, Relay.sent, none_, reports] at finished
  | stop d some_ going => exact h.stop s some_ going

/-- A relay is sound after every row of events. -/
theorem sound_of_run? (h : (start caller backend).run? events = some r) :
    Sound caller backend events r := by
  induction events using List.reverseRecOn generalizing r with
  | nil =>
    cases h
    exact sound_start caller backend
  | append_singleton events e ih =>
    rw [run?_concat, Option.bind_eq_some_iff] at h
    obtain ⟨before, earlier, last⟩ := h
    exact (ih earlier).step last

/-! ## The end of a relay -/

/-- When both tasks are gone and there is an outcome, nothing can happen. -/
theorem step_of_isOver (ended : r.isOver = true) (e : Event) : r.step e = none := by
  unfold isOver at ended
  rw [Bool.and_eq_true, Bool.and_eq_true] at ended
  have done : ∀ d, (r.task d).isDone = true := by
    intro d
    cases d with
    | toBackend => exact ended.1.2
    | toCaller => exact ended.2
  cases s : r.step e with
  | none => rfl
  | some q =>
    cases move_of_step s with
    | copy d a t moved =>
      have going := moved.not_isDone
      simp [done d] at going
    | report d result phase =>
      have gone := done d
      simp [CopyTask.isDone, phase] at gone
    | collect first rest none_ | giveUp none_ => simp [none_] at ended
    | stop d some_ going => simp [done d] at going

/-- A row of events may be continued by another. -/
theorem run?_append {further : List Event} {m : Relay} (h : r.run? events = some m)
    (h' : m.run? further = some q) : r.run? (events ++ further) = some q := by
  induction events generalizing r with
  | nil =>
    cases h
    exact h'
  | cons e events ih =>
    obtain ⟨next, first, rest⟩ := Option.bind_eq_some_iff.mp h
    change (r.step e).bind _ = _
    rw [first]
    exact ih rest

/-- Once there is an outcome, the supervisor can stop a task that is not gone yet. -/
private theorem exists_run?_stop (some_ : r.outcome ≠ none) (d : Direction) :
    ∃ events q, r.run? events = some q ∧ q.outcome = r.outcome ∧ (q.task d).isDone = true ∧
      ∀ d', (r.task d').isDone = true → (q.task d').isDone = true := by
  cases gone : (r.task d).isDone with
  | true => exact ⟨[], r, rfl, rfl, gone, fun _ h ↦ h⟩
  | false =>
    have there : r.outcome.isSome = true := Option.isSome_iff_ne_none.mpr some_
    refine ⟨[.stop d], r.setTask d { r.task d with phase := .stopped }, ?_, by simp, ?_, ?_⟩
    · simp [run?, step, there, gone]
    · simp [CopyTask.isDone]
    · intro d' h
      rw [task_setTask]
      split
      · rfl
      · exact h

/-- As soon as there is a report, the supervisor can end the relay with the first one. -/
theorem exists_run?_isOver {report : Direction × CopyResult} (h : r.sent.head? = some report) :
    ∃ events q, r.run? events = some q ∧ q.isOver = true ∧ q.outcome = some report := by
  have collected : ∃ events m, r.run? events = some m ∧ m.outcome = some report := by
    unfold sent at h
    cases outcome : r.outcome with
    | some first =>
      rw [outcome] at h
      exact ⟨[], r, rfl, outcome.trans h⟩
    | none =>
      obtain ⟨rest, reports⟩ : ∃ rest, r.reports = report :: rest := by
        simpa [outcome, List.head?_eq_some_iff] using h
      refine ⟨[.collect], { r with outcome := some report, reports := rest }, ?_, rfl⟩
      simp [run?, step, outcome, reports]
  obtain ⟨_, m, first, outcome⟩ := collected
  have some_ : m.outcome ≠ none := by simp [outcome]
  obtain ⟨_, n, second, same, up, -⟩ := exists_run?_stop some_ .toBackend
  obtain ⟨_, q, third, same', down, kept⟩ := exists_run?_stop (same ▸ some_) .toCaller
  refine ⟨_, q, run?_append (run?_append first second) third, ?_, ?_⟩
  · have up : q.toBackend.isDone = true := kept .toBackend up
    have down : q.toCaller.isDone = true := down
    simp [isOver, same', same, outcome, up, down]
  · rw [same', same, outcome]

/-- What a relay owes to its two ends. -/
structure Faithful (caller backend : RelayEnd) (events : List Event) (r : Relay) : Prop where
  /-- What an end has received is the beginning of what has been read from the other, and that of
  what the other sends. -/
  received : ∀ d : Direction, (r.task d).sink.received <+: (read caller backend events d).bytes ∧
    (read caller backend events d).bytes <+: (d.origin caller backend).source.sent
  /-- The outcome is the first report. -/
  first : ∀ report, r.outcome = some report → FirstReport caller backend events report
  /-- If it says that so many bytes were copied, then these were read up to the end of the source,
  and all of them were written. -/
  copied : ∀ (d : Direction) n, r.outcome = some (d, .copied n) →
    read caller backend events d = ⟨(r.task d).sink.received, some .eof⟩ ∧
      n = (r.task d).sink.received.length ∧
      (r.task d).sink.received = (d.origin caller backend).source.sent
  /-- If it says that a copy failed, then this was the failure of a read of this copy, or of its
  sink. -/
  failed : ∀ d why, r.outcome = some (d, .failed why) →
    (read caller backend events d).ending = some (.failure why) ∨ .copy d (.refuse why) ∈ events
  /-- Who reports need not wait. -/
  unhindered : ∀ d result, (r.task d).phase = .reporting result →
    ∃ q, r.step (.report d) = some q
  /-- As long as there is no report, not both tasks are gone. -/
  awaited : r.outcome = none → r.reports = [] → ∃ d, (r.task d).isDone = false
  /-- As soon as there is one, the relay can end, with the first. -/
  ends : ∀ report, r.sent.head? = some report →
    ∃ later q, r.run? later = some q ∧ q.isOver = true ∧ q.outcome = some report
  /-- When the relay is over, nothing more happens. -/
  quiet : r.isOver = true → ∀ e, r.step e = none

/-- A sound relay is faithful. -/
theorem Sound.faithful (h : Sound caller backend events r) :
    Faithful caller backend events r := by
  have taken : ∀ report, r.outcome = some report → r.sent.head? = some report := by
    intro report outcome
    simp [sent, outcome]
  have due : ∀ d result, r.outcome = some (d, result) → (d.origin caller backend).source.Justifies
      (steps events d) (r.task d).sink.received result := by
    intro d result outcome
    exact h.justified d result (List.mem_of_head? (taken _ outcome))
  constructor
  case received => exact fun d ↦ ⟨(h.copied d).received, RelaySource.heard_prefix_sent _ _⟩
  case first => exact fun report outcome ↦ h.first report (taken report outcome)
  case copied =>
    intro d n outcome
    obtain ⟨heard, count⟩ := due d (.copied n) outcome
    exact ⟨heard, count, RelaySource.bytes_eq_sent heard⟩
  case failed =>
    intro d why outcome
    rcases due d (.failed why) outcome with heard | refused
    · exact .inl heard
    · exact .inr (mem_steps_iff.mp refused)
  case unhindered =>
    intro d result phase
    have missing := h.not_mem_of_isDone (d := d) (by simp [CopyTask.isDone, phase])
    have room := length_lt_of_not_mem h.once missing
    have fewer : r.reports.length ≤ (reporters events).length := by
      rw [← h.order]
      simp [sent]
    have fits : r.reports.length < queueLength := by omega
    exact ⟨r.reported d result, by simp [Relay.step, phase, fits, reported]⟩
  case awaited =>
    intro none_ reports
    refine ⟨.toBackend, ?_⟩
    have silent : .toBackend ∉ reporters events := by simp [← h.order, sent, none_, reports]
    have unfinished := mt (h.finished .toBackend).mp silent
    simp [CopyTask.isDone, unfinished, h.running none_]
  case ends => exact fun _ head ↦ exists_run?_isOver head
  case quiet => exact step_of_isOver

/-- However the tasks and the supervisor of a relay come between each other, it is faithful. -/
theorem faithful_of_run? (h : (start caller backend).run? events = some r) :
    Faithful caller backend events r :=
  (sound_of_run? h).faithful

/-- A caller that says three bytes in two reads and then closes. -/
def brief : RelayEnd := ⟨⟨[.bytes [1, 2], .bytes [3]], false⟩, none⟩

/-- A backend that has said three bytes and keeps the connection open. -/
def patient : RelayEnd := ⟨⟨[.bytes [7, 8, 9]], true⟩, none⟩

/-- The caller closes while the bytes of the backend are on their way: the copy to the backend,
which has read on before it had written everything, reports, and the copy to the caller is stopped
in the middle, after it has written once more. -/
def farewell : List Event := [
  .copy .toBackend .read, .copy .toBackend (.write 1), .copy .toBackend .read,
  .copy .toCaller .read, .copy .toCaller (.write 1), .copy .toBackend .read,
  .copy .toBackend (.write 2), .copy .toBackend .complete, .copy .toBackend .close,
  .report .toBackend, .collect, .copy .toCaller (.write 1), .stop .toCaller]

/-- The caller's three bytes are counted and all of them have arrived; of the backend's only two
have, and it stays so. -/
theorem faithful_farewell : ∃ r, (start brief patient).run? farewell = some r ∧
    r.outcome = some (.toBackend, .copied 3) ∧
    FirstReport brief patient farewell (.toBackend, .copied 3) ∧
    (r.task .toBackend).sink.received = brief.source.sent ∧
    (r.task .toCaller).sink.received <+: patient.source.sent ∧
    (r.task .toCaller).sink.received = [7, 8] ∧ ∀ e, r.step e = none := by
  have happened : (start brief patient).run? farewell = some _ := rfl
  have faithful := faithful_of_run? happened
  obtain ⟨-, -, all⟩ := faithful.copied .toBackend 3 rfl
  obtain ⟨part, whole⟩ := faithful.received .toCaller
  exact ⟨_, happened, rfl, faithful.first _ rfl, all, part.trans whole, rfl, faithful.quiet rfl⟩

/-- An end of a relay in time, without the time. -/
def TimedEnd.timeless (e : TimedEnd) : RelayEnd := ⟨⟨e.chunked.map Prod.snd, e.hangs⟩, e.limit⟩

/-- A relay in time is faithful, after some row of events. -/
theorem exists_faithful_between (caller backend : TimedEnd) : ∃ events,
    Faithful caller.timeless backend.timeless events (between caller backend).1 := by
  obtain ⟨events, happened⟩ := exists_run_drive
    (8 * (caller.chunked.length + backend.chunked.length) + 64)
    { relay := start caller.timeless backend.timeless
      now := 0
      waits := fun
        | .toBackend => caller.chunked.map Prod.fst
        | .toCaller => backend.chunked.map Prod.fst
      due := fun _ ↦ none
      active := none
      queue := [.toBackend, .toCaller]
      yielded := []
      alarms := [] }
  exact ⟨events, (sound_of_run? happened).faithful⟩

end Relay
end HttpGateway
