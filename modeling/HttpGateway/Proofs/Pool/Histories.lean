import HttpGateway.Grpc.ChannelPool
import Mathlib.Data.List.Induction

/-!
# The history of a pool

A history is a row of events each of which could happen in its turn, so it is one way in which
requests made at the same time can come between each other. Every step of a pool is one of a few
moves. What has happened to a single request is one of the courses that a request can take, and its
phase says which: that is all that a pool knows of its history.
-/

namespace HttpGateway.Grpc.ChannelPool

variable {χ : Type}

namespace Event

/-- The request that takes a step; a request that arrives has not begun. -/
def request? : Event χ → Option Nat
  | arrive _ => none
  | lookup i | dial i | dialed i _ | store i | cancel i => some i

/-- The address that an arriving request asks for. -/
def address? : Event χ → Option String
  | arrive address => some address
  | lookup _ | dial _ | dialed _ _ | store _ | cancel _ => none

/-- A dial has succeeded. -/
def opens : Event χ → Bool
  | dialed _ (.ok _) => true
  | dialed _ (.error _) | arrive _ | lookup _ | dial _ | store _ | cancel _ => false

/-- An event is an arrival or a step of a request. -/
theorem address?_of_request? {e : Event χ} {i : Nat} (h : e.request? = some i) :
    e.address? = none := by
  cases e with
  | arrive address => cases h
  | lookup | dial | dialed | store | cancel => rfl

end Event

/-- The pool after events, if each of them can happen in its turn. -/
def after? (events : List (Event χ)) : Option (ChannelPool χ) := events.foldlM step empty

/-- The request of a number asks for an address. -/
def Asks (events : List (Event χ)) (i : Nat) (address : String) : Prop :=
  (events.filterMap Event.address?)[i]? = some address

/-- The steps that a request has taken. -/
def steps (events : List (Event χ)) (i : Nat) : List (Event χ) :=
  events.filter fun e ↦ e.request? = some i

/-! ## Histories -/

/-- The last event of a history happens to the pool after the others. -/
theorem after?_concat (events : List (Event χ)) (e : Event χ) :
    after? (events ++ [e]) = (after? events).bind fun p ↦ p.step e := by
  unfold after?
  rw [List.foldlM_append]
  cases events.foldlM step (empty : ChannelPool χ) with
  | none => rfl
  | some p =>
    change (p.step e >>= fun q ↦ [].foldlM step q) = p.step e
    cases p.step e with
    | none => rfl
    | some q => rfl

/-- What holds at first and is kept by every step holds after every history. -/
theorem holds_of_after? {holds : List (Event χ) → ChannelPool χ → Prop} (start : holds [] empty)
    (next : ∀ events p e q, holds events p → p.step e = some q → holds (events ++ [e]) q)
    {events : List (Event χ)} {p : ChannelPool χ} (h : after? events = some p) :
    holds events p := by
  induction events using List.reverseRecOn generalizing p with
  | nil =>
    cases h
    exact start
  | append_singleton events e ih =>
    rw [after?_concat, Option.bind_eq_some_iff] at h
    obtain ⟨before, earlier, last⟩ := h
    exact next events before e p (ih earlier) last

/-- A history goes through the pools after its beginnings. -/
theorem after?_append {before later : List (Event χ)} {p : ChannelPool χ}
    (h : after? (before ++ later) = some p) :
    ∃ m, after? before = some m ∧ later.foldlM step m = some p := by
  unfold after? at h ⊢
  rw [List.foldlM_append] at h
  cases hm : before.foldlM step (empty : ChannelPool χ) with
  | none =>
    rw [hm] at h
    cases h
  | some m =>
    rw [hm] at h
    exact ⟨m, rfl, h⟩

/-! ## Moves -/

/-- What an event does to a pool, by what the request that takes the step has come to. -/
inductive Move (p : ChannelPool χ) : Event χ → ChannelPool χ → Prop
  | arrive (address : String) :
    Move p (.arrive address) { p with requests := p.requests ++ [⟨address, .asking⟩] }
  | found (i : Nat) (address : String) (channel : χ) :
    p.requests[i]? = some ⟨address, .asking⟩ → p.channel? address = some channel →
    Move p (.lookup i) (p.moved i address (.done (.ok channel)))
  | missed (i : Nat) (address : String) :
    p.requests[i]? = some ⟨address, .asking⟩ → p.channel? address = none →
    Move p (.lookup i) (p.moved i address .missed)
  | dial (i : Nat) (address : String) :
    p.requests[i]? = some ⟨address, .missed⟩ →
    Move p (.dial i) { p.moved i address .dialing with dialed := p.dialed + 1 }
  | failed (i : Nat) (address : String) (e : GatewayError) :
    p.requests[i]? = some ⟨address, .dialing⟩ →
    Move p (.dialed i (.error e)) (p.moved i address (.done (.error e)))
  | opened (i : Nat) (address : String) (channel : χ) :
    p.requests[i]? = some ⟨address, .dialing⟩ →
    Move p (.dialed i (.ok channel))
      { p.moved i address (.opened channel) with opened := p.opened + 1 }
  | late (i : Nat) (address : String) (channel faster : χ) :
    p.requests[i]? = some ⟨address, .opened channel⟩ → p.channel? address = some faster →
    Move p (.store i) (p.moved i address (.done (.ok channel)))
  | stored (i : Nat) (address : String) (channel : χ) :
    p.requests[i]? = some ⟨address, .opened channel⟩ → p.channel? address = none →
    Move p (.store i)
      { p.moved i address (.done (.ok channel)) with stored := p.stored ++ [(address, channel)] }
  | cancel (i : Nat) (address : String) :
    p.requests[i]? = some ⟨address, .dialing⟩ →
    Move p (.cancel i) (p.moved i address .cancelled)

/-- A step is one of the moves. -/
theorem move_of_step {p q : ChannelPool χ} {e : Event χ} (h : p.step e = some q) :
    Move p e q := by
  cases e with
  | arrive address =>
    cases h
    exact .arrive address
  | lookup i =>
    simp only [step] at h
    split at h
    · next address there =>
      split at h
      · next channel found =>
        cases h
        exact .found i address channel there found
      · next free =>
        cases h
        exact .missed i address there free
    · cases h
  | dial i =>
    simp only [step] at h
    split at h
    · next address there =>
      cases h
      exact .dial i address there
    · cases h
  | dialed i result =>
    cases result with
    | error e =>
      simp only [step] at h
      split at h
      · next address there =>
        cases h
        exact .failed i address e there
      · cases h
    | ok channel =>
      simp only [step] at h
      split at h
      · next address there =>
        cases h
        exact .opened i address channel there
      · cases h
  | store i =>
    simp only [step] at h
    split at h
    · next address channel there =>
      split at h
      · next faster found =>
        cases h
        exact .late i address channel faster there found
      · next free =>
        cases h
        exact .stored i address channel there free
    · cases h
  | cancel i =>
    simp only [step] at h
    split at h
    · next address there =>
      cases h
      exact .cancel i address there
    · cases h

/-! ## Courses -/

/-- The steps of a request that has come to a phase. -/
inductive Course (i : Nat) : Phase χ → List (Event χ) → Prop
  | asking : Course i .asking []
  | found (channel : χ) : Course i (.done (.ok channel)) [.lookup i]
  | missed : Course i .missed [.lookup i]
  | dialing : Course i .dialing [.lookup i, .dial i]
  | failed (e : GatewayError) :
    Course i (.done (.error e)) [.lookup i, .dial i, .dialed i (.error e)]
  | opened (channel : χ) :
    Course i (.opened channel) [.lookup i, .dial i, .dialed i (.ok channel)]
  | stored (channel : χ) :
    Course i (.done (.ok channel)) [.lookup i, .dial i, .dialed i (.ok channel), .store i]
  | cancelled : Course i .cancelled [.lookup i, .dial i, .cancel i]

/-- A pool knows of its history what its requests ask for and which course each has taken. -/
structure Traced (events : List (Event χ)) (p : ChannelPool χ) : Prop where
  asked : p.requests.map ChannelRequest.address = events.filterMap Event.address?
  course : ∀ i r, p.requests[i]? = some r → Course i r.phase (steps events i)
  unasked : ∀ i, p.requests[i]? = none → steps events i = []

/-- The steps of a request are those events of which it takes them. -/
theorem mem_steps_iff {events : List (Event χ)} {e : Event χ} {i : Nat} :
    e ∈ steps events i ↔ e ∈ events ∧ e.request? = some i := by
  unfold steps
  rw [List.mem_filter, decide_eq_true_iff]

/-- The step of a request comes behind those it has taken. -/
theorem steps_concat_self (events : List (Event χ)) {e : Event χ} {i : Nat}
    (h : e.request? = some i) : steps (events ++ [e]) i = steps events i ++ [e] := by
  simp [steps, h]

/-- The step of a request is none of another's. -/
theorem steps_concat_of_ne (events : List (Event χ)) {e : Event χ} {i : Nat}
    (h : e.request? ≠ some i) : steps (events ++ [e]) i = steps events i := by
  simp [steps, h]

/-- A step that takes one request on along its course leaves the pool traced. -/
theorem Traced.moved {events : List (Event χ)} {p q : ChannelPool χ} (h : Traced events p)
    {e : Event χ} {i : Nat} {address : String} {phase next : Phase χ} (step : e.request? = some i)
    (there : p.requests[i]? = some ⟨address, phase⟩)
    (requests : q.requests = p.requests.set i ⟨address, next⟩)
    (on : ∀ taken, Course i phase taken → Course i next (taken ++ [e])) :
    Traced (events ++ [e]) q := by
  have bound : i < p.requests.length := (List.getElem?_eq_some_iff.mp there).1
  constructor
  case asked =>
    have same : p.requests[i].address = address := by
      rw [List.getElem?_eq_getElem bound] at there
      rw [Option.some.inj there]
    have nothing : [e].filterMap Event.address? = [] := by
      rw [List.filterMap_cons, Event.address?_of_request? step, List.filterMap_nil]
    rw [requests, List.map_set, List.filterMap_append, ← h.asked, nothing, List.append_nil]
    have within : i < (p.requests.map ChannelRequest.address).length := by
      rw [List.length_map]
      exact bound
    change (p.requests.map ChannelRequest.address).set i address = _
    rw [← same, ← List.getElem_map ChannelRequest.address (h := within)]
    exact List.set_getElem_self within
  case course =>
    intro j r hr
    rw [requests, List.getElem?_set] at hr
    by_cases same : i = j
    · subst same
      rw [if_pos rfl, if_pos bound] at hr
      cases hr
      rw [steps_concat_self events step]
      exact on _ (h.course i _ there)
    · rw [if_neg same] at hr
      rw [steps_concat_of_ne events fun own ↦ same (Option.some.inj (step.symm.trans own))]
      exact h.course j r hr
  case unasked =>
    intro j hj
    rw [requests, List.getElem?_set] at hj
    by_cases same : i = j
    · subst same
      rw [if_pos rfl, if_pos bound] at hj
      cases hj
    · rw [if_neg same] at hj
      rw [steps_concat_of_ne events fun own ↦ same (Option.some.inj (step.symm.trans own))]
      exact h.unasked j hj

/-- Every step leaves the pool traced. -/
theorem Traced.step {events : List (Event χ)} {p q : ChannelPool χ} {e : Event χ}
    (h : Traced events p) (move : Move p e q) : Traced (events ++ [e]) q := by
  cases move with
  | arrive address =>
    have nobodys : ∀ j, steps (events ++ [.arrive address]) j = steps events j :=
      fun j ↦ steps_concat_of_ne events nofun
    constructor
    case asked =>
      rw [List.map_append, List.filterMap_append, h.asked]
      rfl
    case course =>
      intro j r hr
      rw [nobodys]
      rw [List.getElem?_append] at hr
      split at hr
      · exact h.course j r hr
      · next beyond =>
        rw [h.unasked j (List.getElem?_eq_none (Nat.le_of_not_lt beyond))]
        rw [List.getElem?_singleton] at hr
        split at hr
        · cases hr
          exact .asking
        · cases hr
    case unasked =>
      intro j hj
      rw [nobodys]
      rw [List.getElem?_append] at hj
      split at hj
      · exact h.unasked j hj
      · next beyond => exact h.unasked j (List.getElem?_eq_none (Nat.le_of_not_lt beyond))
  | found i address channel there => exact h.moved rfl there rfl fun | _, .asking => .found channel
  | missed i address there => exact h.moved rfl there rfl fun | _, .asking => .missed
  | dial i address there => exact h.moved rfl there rfl fun | _, .missed => .dialing
  | failed i address e there => exact h.moved rfl there rfl fun | _, .dialing => .failed e
  | opened i address channel there =>
    exact h.moved rfl there rfl fun | _, .dialing => .opened channel
  | late i address channel faster there =>
    exact h.moved rfl there rfl fun | _, .opened _ => .stored channel
  | stored i address channel there =>
    exact h.moved rfl there rfl fun | _, .opened _ => .stored channel
  | cancel i address there => exact h.moved rfl there rfl fun | _, .dialing => .cancelled

end HttpGateway.Grpc.ChannelPool
