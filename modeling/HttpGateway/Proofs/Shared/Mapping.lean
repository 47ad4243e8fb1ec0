import HttpGateway.Proofs.Shared.Serial
import HttpGateway.Proofs.Startup.Registration

/-!
# A mapping that calls share

However registrations, questions and the closing of a mapping come between each other, the mapping
holds what it started with and what was registered without an error. Of the registrations of one key
one at most is taken, and what is taken stays as it is. A registration is taken if and only if,
while its call has the lock, the mapping is open and does not hold the key; one that is refused
changes nothing. Once a call has closed the mapping, it stays as it is.
-/

namespace HttpGateway.StatusMapping

open Shared (published Settled Loaded)

variable {ι : Type} {requests : ι → Request} {events : List (Shared.Event ι)}
  {s t : Shared ι StatusMapping Refusal Answer} {m made : StatusMapping}

/-- The mapping that calls share after events, if each of them can happen in its turn. -/
def after? [DecidableEq ι] (requests : ι → Request) (events : List (Shared.Event ι)) :
    Option (Shared ι StatusMapping Refusal Answer) :=
  Shared.after? (fun i ↦ (requests i).call) initial events

namespace Request

/-- The code that a request registers. -/
def code? : Request → Option (ResultCode × Status)
  | registerCode code status => some (code, status)
  | registerSuccess _ | close | httpStatus _ | isSuccess _ | isSealed => none

/-- The success status that a request registers. -/
def success? : Request → Option Status
  | registerSuccess status => some status
  | registerCode _ _ | close | httpStatus _ | isSuccess _ | isSealed => none

/-- A mapping takes a request: it is open and does not hold the key. -/
def IsTaken (m : StatusMapping) : Request → Prop
  | registerCode code _ => m.isSealed = false ∧ m.lookup? code = none
  | registerSuccess status => m.isSealed = false ∧ m.isSuccess status = false
  | close | httpStatus _ | isSuccess _ | isSealed => True

/-- The mapping that has taken a request. -/
def taken (m : StatusMapping) : Request → StatusMapping
  | registerCode code status => m.extend (code, status)
  | registerSuccess status => { m with success := m.success ++ [status] }
  | close => { m with isSealed := true }
  | httpStatus _ | isSuccess _ | isSealed => m

/-- A request with a code to register is the one that registers it. -/
theorem code?_eq_some_iff {request : Request} {code : ResultCode} {status : Status} :
    request.code? = some (code, status) ↔ request = .registerCode code status := by
  cases request <;> simp [code?]

@[inherit_doc code?_eq_some_iff] theorem success?_eq_some_iff {request : Request}
    {status : Status} : request.success? = some status ↔ request = .registerSuccess status := by
  cases request <;> simp [success?]

/-- A code that is taken was not mapped. -/
theorem IsTaken.lookup?_eq_none {request : Request} (h : request.IsTaken m)
    {e : ResultCode × Status} (registers : request.code? = some e) : m.lookup? e.1 = none := by
  cases request with
  | registerCode code status =>
    cases registers
    exact h.2
  | registerSuccess | close | httpStatus | isSuccess | isSealed => cases registers

end Request

/-- A success status that is not listed is taken. -/
theorem registerSuccess_of_free {status : Status} (opened : m.isSealed = false)
    (free : m.isSuccess status = false) :
    m.registerSuccess status = .ok { m with success := m.success ++ [status] } := by
  unfold registerSuccess
  rw [if_neg (Bool.not_eq_true _ ▸ opened), if_neg (Bool.not_eq_true _ ▸ free)]

/-- What registering does to a mapping is adding the key if it takes it, and otherwise nothing. -/
theorem run_eq_ok_iff {request : Request} {body : Shared.Section StatusMapping Refusal}
    (called : request.call = .change body) :
    body.run m = .ok made ↔ request.IsTaken m ∧ made = request.taken m := by
  cases request with
  | registerCode code status =>
    cases called
    rw [run_codeSection]
    constructor
    · intro run
      have free := (registerCode_isOk_iff m code status).mp ⟨made, run⟩
      rw [registerCode_of_free (e := (code, status)) free.1 free.2] at run
      exact ⟨free, (Except.ok.inj run).symm⟩
    · rintro ⟨⟨opened, free⟩, rfl⟩
      exact registerCode_of_free (e := (code, status)) opened free
  | registerSuccess status =>
    cases called
    rw [run_successSection]
    constructor
    · intro run
      have free := (registerSuccess_isOk_iff m status).mp ⟨made, run⟩
      rw [registerSuccess_of_free free.1 free.2] at run
      exact ⟨free, (Except.ok.inj run).symm⟩
    · rintro ⟨⟨opened, free⟩, rfl⟩
      exact registerSuccess_of_free opened free
  | close =>
    cases called
    exact ⟨fun run ↦ ⟨trivial, (Except.ok.inj run).symm⟩, fun made ↦ congrArg Except.ok made.2.symm⟩
  | httpStatus | isSuccess | isSealed => cases called

/-! ## What a mapping holds -/

/-- A mapping holds what it started with and what the calls have registered, no code twice; and it
is sealed if one of them was to close it. -/
structure Holds (requests : ι → Request) (ids : List ι) (m : StatusMapping) : Prop where
  codes : m.codes = seed ++ ids.filterMap fun i ↦ (requests i).code?
  success : m.success = Status.ok :: ids.filterMap fun i ↦ (requests i).success?
  sealed : m.isSealed = true ↔ ∃ i ∈ ids, requests i = .close
  unseeded : ∀ i ∈ ids, ∀ e, (requests i).code? = some e → seed.lookup e.1 = none
  once : ∀ i ∈ ids, ∀ j ∈ ids, ∀ e e', (requests i).code? = some e → (requests j).code? = some e' →
    e.1 = e'.1 → i = j

/-- Every mapping starts with the same. -/
theorem holds_initial (requests : ι → Request) : Holds requests [] initial :=
  ⟨rfl, rfl, by simp [initial], nofun, nofun⟩

namespace Holds

variable {ids : List ι}

/-- A code is mapped from the start or by a registration. -/
theorem lookup?_eq (h : Holds requests ids m) (code : ResultCode) :
    m.lookup? code =
      (seed.lookup code).or ((ids.filterMap fun i ↦ (requests i).code?).lookup code) := by
  unfold lookup?
  rw [h.codes, List.lookup_append]

/-- A code that is not mapped was not registered. -/
theorem unregistered (h : Holds requests ids m) {code : ResultCode} (free : m.lookup? code = none)
    {j : ι} (among : j ∈ ids) {e : ResultCode × Status} (registers : (requests j).code? = some e) :
    code ≠ e.1 := by
  rw [h.lookup?_eq, Option.or_eq_none_iff] at free
  rintro rfl
  apply lookup_eq_none_iff.mp free.2
  exact List.mem_map_of_mem (List.mem_filterMap.mpr ⟨j, among, registers⟩)

/-- A request that is taken leaves a mapping that holds it too. -/
theorem taken (h : Holds requests ids m) {i : ι} (taken : (requests i).IsTaken m) :
    Holds requests (ids ++ [i]) ((requests i).taken m) := by
  constructor
  case codes =>
    rw [List.filterMap_append, ← List.append_assoc, ← h.codes]
    cases own : requests i <;> simp [own, Request.code?, Request.taken, extend]
  case success =>
    rw [List.filterMap_append, ← List.cons_append, ← h.success]
    cases own : requests i <;> simp [own, Request.success?, Request.taken, extend]
  case sealed =>
    have before := h.sealed
    cases own : requests i <;>
      simp_all [Request.taken, extend, or_and_right, exists_or]
  case unseeded =>
    rw [List.forall_mem_append]
    refine ⟨h.unseeded, List.forall_mem_singleton.mpr fun e registers ↦ ?_⟩
    have free := taken.lookup?_eq_none registers
    rw [h.lookup?_eq, Option.or_eq_none_iff] at free
    exact free.1
  case once =>
    intro j among k among' e e' registers registers' same
    rw [List.mem_append, List.mem_singleton] at among among'
    obtain before | rfl := among
    · obtain before' | rfl := among'
      · exact h.once j before k before' e e' registers registers' same
      · exact absurd same.symm (h.unregistered (taken.lookup?_eq_none registers') before registers)
    · obtain before' | rfl := among'
      · exact absurd same (h.unregistered (taken.lookup?_eq_none registers) before' registers')
      · rfl

/-- A code that is mapped, and not from the start, was registered. -/
theorem exists_of_lookup? (h : Holds requests ids m) {code : ResultCode} {status : Status}
    (unseeded : seed.lookup code = none) (found : m.lookup? code = some status) :
    ∃ i ∈ ids, (requests i).code? = some (code, status) := by
  rw [h.lookup?_eq, unseeded, Option.none_or, List.lookup_eq_some_iff] at found
  obtain ⟨front, rest, split, -⟩ := found
  apply List.mem_filterMap.mp
  rw [split]
  exact List.mem_append_right front List.mem_cons_self

/-- A code that was registered is mapped to the status that it was registered with. -/
theorem lookup?_of_mem (h : Holds requests ids m) {i : ι} (among : i ∈ ids)
    {e : ResultCode × Status} (registers : (requests i).code? = some e) :
    m.lookup? e.1 = some e.2 := by
  cases found : m.lookup? e.1 with
  | none => exact absurd rfl (h.unregistered found among registers)
  | some status =>
    obtain ⟨j, among', registers'⟩ := h.exists_of_lookup? (h.unseeded i among e registers) found
    obtain rfl := h.once i among j among' e _ registers registers' rfl
    rw [registers] at registers'
    rw [Option.some.inj registers']

/-- A status counts as success if it did from the start or was registered. -/
theorem isSuccess_iff (h : Holds requests ids m) (status : Status) :
    m.isSuccess status = true ↔
      status = .ok ∨ ∃ i ∈ ids, requests i = .registerSuccess status := by
  unfold isSuccess
  rw [h.success, List.contains_iff_mem, List.mem_cons, List.mem_filterMap]
  simp only [Request.success?_eq_some_iff]

end Holds

/-! ## Histories -/

variable [DecidableEq ι]

/-- What a code reads as: the status that it starts with, or the one that it is given by the only
call that registered it, or else an internal error. -/
inductive Reads (requests : ι → Request) (events : List (Shared.Event ι)) (code : ResultCode) :
    Status → Prop
  | seeded (status : Status) :
    seed.lookup code = some status → Reads requests events code status
  | registered (i : ι) (status : Status) :
    seed.lookup code = none → .publish i ∈ events → requests i = .registerCode code status →
    (∀ j other, .publish j ∈ events → requests j = .registerCode code other → j = i) →
    Reads requests events code status
  | unmapped :
    seed.lookup code = none →
    (∀ i status, requests i = .registerCode code status → .publish i ∉ events) →
    Reads requests events code .internalServerError

/-- A status counts as success: it is the one that does from the start, or it was registered. -/
def Succeeds (requests : ι → Request) (events : List (Shared.Event ι)) (status : Status) : Prop :=
  status = .ok ∨ ∃ i, .publish i ∈ events ∧ requests i = .registerSuccess status

/-- However calls come between each other, the mapping holds what they have registered. -/
theorem holds_of_after? (h : after? requests events = some s) :
    Holds requests (published events) s.now := by
  refine Shared.holds_of_changes (Holds requests) (holds_initial requests) ?_ h
  intro ids i body old new called holds run
  obtain ⟨taken, rfl⟩ := (run_eq_ok_iff called).mp run
  exact holds.taken taken

/-- What a code reads as at any time. -/
theorem reads_of_after? (h : after? requests events = some s) (code : ResultCode) :
    Reads requests events code (s.now.httpStatus code) := by
  have holds := holds_of_after? h
  have mem : ∀ {i}, i ∈ published events ↔ .publish i ∈ events :=
    Shared.mem_published_iff_publish_mem h
  unfold httpStatus
  cases seeded : seed.lookup code with
  | some status =>
    rw [holds.lookup?_eq, seeded]
    exact .seeded status seeded
  | none =>
    cases found : s.now.lookup? code with
    | some status =>
      obtain ⟨i, among, registers⟩ := holds.exists_of_lookup? seeded found
      refine .registered i status seeded (mem.mp among) (Request.code?_eq_some_iff.mp registers) ?_
      intro j other done own
      have registers' := Request.code?_eq_some_iff.mpr own
      exact holds.once j (mem.mpr done) i among _ _ registers' registers rfl
    | none =>
      refine .unmapped seeded ?_
      intro i status own done
      have registers := Request.code?_eq_some_iff.mpr own
      exact holds.unregistered found (mem.mpr done) registers rfl

/-- Which statuses count as success at any time. -/
theorem isSuccess_iff_of_after? (h : after? requests events = some s) (status : Status) :
    s.now.isSuccess status = true ↔ Succeeds requests events status := by
  unfold Succeeds
  rw [(holds_of_after? h).isSuccess_iff]
  simp only [Shared.mem_published_iff_publish_mem h]

/-- What a call came out of the lock with is settled by the mapping that was there when it took the
lock. -/
theorem outcome_of_settled {i : ι} {result : Except Refusal Unit}
    (h : Settled (fun i ↦ (requests i).call) initial events i result) :
    ∃ before during later s₀ s₁, events = before ++ .lock i :: during ++ later ∧
      after? requests before = some s₀ ∧ after? requests (before ++ .lock i :: during) = some s₁ ∧
      s₁.phase i = .leaving result ∧
      (result = .ok () ↔ (requests i).IsTaken s₀.now) ∧
      (result = .ok () → s₁.now = (requests i).taken s₀.now) ∧
      (result ≠ .ok () → s₁.now = s₀.now) := by
  obtain ⟨body, before, during, later, s₀, s₁, called, split, first, last, come, outcome⟩ := h
  refine ⟨before, during, later, s₀, s₁, split, first, last, come, ?_⟩
  cases run : body.run s₀.now with
  | ok made =>
    rw [run] at outcome
    obtain ⟨taken, new⟩ := (run_eq_ok_iff called).mp run
    obtain ⟨rfl, rfl⟩ := outcome
    exact ⟨⟨fun _ ↦ taken, fun _ ↦ rfl⟩, fun _ ↦ new, fun refused ↦ absurd rfl refused⟩
  | error e =>
    rw [run] at outcome
    obtain ⟨same, rfl⟩ := outcome
    refine ⟨⟨nofun, fun taken ↦ ?_⟩, nofun, fun _ ↦ same⟩
    rw [(run_eq_ok_iff called).mpr ⟨taken, rfl⟩] at run
    cases run

/-! ## Growth -/

/-- A mapping with all that another one holds. -/
structure Extends (made m : StatusMapping) : Prop where
  codes : m.codes <+: made.codes
  success : m.success <+: made.success

/-- A mapping that has taken a request extends it. -/
theorem extends_taken (request : Request) (m : StatusMapping) : (request.taken m).Extends m := by
  cases request with
  | registerCode | registerSuccess =>
    constructor <;> simp [Request.taken, extend]
  | close | httpStatus | isSuccess | isSealed =>
    exact ⟨List.prefix_rfl, List.prefix_rfl⟩

namespace Extends

/-- What a code is mapped to stays. -/
theorem lookup? (h : made.Extends m) {code : ResultCode} {status : Status}
    (found : m.lookup? code = some status) : made.lookup? code = some status := by
  obtain ⟨rest, codes⟩ := h.codes
  unfold StatusMapping.lookup? at found ⊢
  rw [← codes, List.lookup_append, found]
  rfl

/-- What counts as success stays. -/
theorem isSuccess (h : made.Extends m) {status : Status} (listed : m.isSuccess status = true) :
    made.isSuccess status = true := by
  unfold StatusMapping.isSuccess at listed ⊢
  rw [List.contains_iff_mem] at listed ⊢
  exact h.success.subset listed

end Extends

/-- Whatever happens next, a mapping only grows. -/
theorem extends_of_after? {later : List (Shared.Event ι)} (h : after? requests events = some s)
    (h' : after? requests (events ++ later) = some t) : t.now.Extends s.now := by
  refine Shared.holds_later (fun m ↦ m.Extends s.now) ?_ h h' ⟨List.prefix_rfl, List.prefix_rfl⟩
  intro i body old new called before run
  obtain ⟨-, rfl⟩ := (run_eq_ok_iff called).mp run
  have more := extends_taken (requests i) old
  exact ⟨before.codes.trans more.codes, before.success.trans more.success⟩

/-- A sealed mapping takes nothing that changes it. -/
theorem taken_of_isSealed {request : Request} (closed : m.isSealed = true)
    (taken : request.IsTaken m) : request.taken m = m := by
  cases request with
  | registerCode | registerSuccess =>
    rw [taken.1] at closed
    cases closed
  | close =>
    unfold Request.taken
    rw [← closed]
  | httpStatus | isSuccess | isSealed => rfl

/-- Whatever happens next, a sealed mapping stays as it is. -/
theorem now_of_isSealed {later : List (Shared.Event ι)} (h : after? requests events = some s)
    (h' : after? requests (events ++ later) = some t) (closed : s.now.isSealed = true) :
    t.now = s.now := by
  refine Shared.holds_later (fun m ↦ m = s.now) ?_ h h' rfl
  rintro i body _ new called rfl run
  obtain ⟨taken, rfl⟩ := (run_eq_ok_iff called).mp run
  exact taken_of_isSealed closed taken

/-! ## What is due to the calls -/

/-- A mapping that calls share keeps its entries and gives every call what is due to it. -/
structure KeepsEntries (requests : ι → Request) (events : List (Shared.Event ι))
    (s : Shared ι StatusMapping Refusal Answer) : Prop where
  /-- At any time the mapping reads as what has been published. -/
  current : (∀ code, Reads requests events code (s.now.httpStatus code)) ∧
    ∀ status, s.now.isSuccess status = true ↔ Succeeds requests events status
  /-- A question for a code is answered with what was published before it took its look. -/
  code : ∀ i code answer, requests i = .httpStatus code → s.phase i = .answered answer →
    ∃ before later status, events = before ++ .load i :: later ∧
      Reads requests before code status ∧ answer = .status status
  /-- So is a question for a success status. -/
  success : ∀ i status answer, requests i = .isSuccess status → s.phase i = .answered answer →
    ∃ before later flag, events = before ++ .load i :: later ∧
      (flag = true ↔ Succeeds requests before status) ∧ answer = .flag flag
  /-- A registration succeeds if and only if the mapping is open and does not hold the key when its
  call takes the lock, and then the key is what is added; otherwise nothing has changed when it has
  come to its result. -/
  decided : ∀ i result, s.phase i = .left result →
    ∃ before during later s₀ s₁, events = before ++ .lock i :: during ++ later ∧
      after? requests before = some s₀ ∧ after? requests (before ++ .lock i :: during) = some s₁ ∧
      s₁.phase i = .leaving result ∧
      (result = .ok () ↔ (requests i).IsTaken s₀.now) ∧
      (result = .ok () → s₁.now = (requests i).taken s₀.now) ∧
      (result ≠ .ok () → s₁.now = s₀.now)
  /-- What was published is what succeeded. -/
  published : ∀ i result, s.phase i = .left result → (.publish i ∈ events ↔ result = .ok ())
  /-- What was registered stays registered. -/
  registered : ∀ i, s.phase i = .left (.ok ()) →
    ∀ later t, after? requests (events ++ later) = some t →
      (∀ code status, requests i = .registerCode code status →
        t.now.lookup? code = some status) ∧
      ∀ status, requests i = .registerSuccess status → t.now.isSuccess status = true
  /-- Nothing is removed or changed. -/
  grows : ∀ later t, after? requests (events ++ later) = some t →
    (∀ code status, s.now.lookup? code = some status → t.now.lookup? code = some status) ∧
      ∀ status, s.now.isSuccess status = true → t.now.isSuccess status = true
  /-- Once a call has closed the mapping, it stays as it is, and every question that takes its look
  after that is answered from it. -/
  closed : ∀ i result, requests i = .close → s.phase i = .left result →
    s.now.isSealed = true ∧ ∀ later t, after? requests (events ++ later) = some t →
      t.now = s.now ∧ ∀ j answer, .load j ∉ events → t.phase j = .answered answer →
        ∃ ask, (requests j).call = .question ask ∧ answer = ask s.now

/-- Whoever has closed a mapping finds it sealed. -/
theorem isSealed_of_left (h : after? requests events = some s) {i : ι}
    {result : Except Refusal Unit} (own : requests i = .close) (there : s.phase i = .left result) :
    s.now.isSealed = true := by
  obtain ⟨_, _, _, _, _, -, -, -, -, decided, -⟩ :=
    outcome_of_settled (Shared.settled_of_left h there)
  have succeeded : result = .ok () := decided.mpr (by rw [own]; trivial)
  have done := (Shared.publish_mem_iff_of_left h there).mpr succeeded
  exact (holds_of_after? h).sealed.mpr ⟨i, (Shared.mem_published_iff_publish_mem h).mpr done, own⟩

/-- However calls come between each other, a mapping keeps its entries and gives every call what is
due to it. -/
theorem keepsEntries_of_after? (h : after? requests events = some s) :
    KeepsEntries requests events s := by
  constructor
  case current => exact ⟨reads_of_after? h, isSuccess_iff_of_after? h⟩
  case code =>
    intro i code answer own there
    obtain ⟨before, later, u, split, happened, rfl⟩ :=
      Shared.exists_load_of_answered h (congrArg Request.call own) there
    exact ⟨before, later, _, split, reads_of_after? happened code, rfl⟩
  case success =>
    intro i status answer own there
    obtain ⟨before, later, u, split, happened, rfl⟩ :=
      Shared.exists_load_of_answered h (congrArg Request.call own) there
    exact ⟨before, later, _, split, isSuccess_iff_of_after? happened status, rfl⟩
  case decided => exact fun i result there ↦ outcome_of_settled (Shared.settled_of_left h there)
  case published => exact fun i result there ↦ Shared.publish_mem_iff_of_left h there
  case registered =>
    intro i there later t h'
    have done := (Shared.publish_mem_iff_of_left h there).mpr rfl
    have among := (Shared.mem_published_iff_publish_mem h').mpr (List.mem_append_left later done)
    have holds := holds_of_after? h'
    constructor
    · exact fun code status own ↦
        holds.lookup?_of_mem among (Request.code?_eq_some_iff.mpr own)
    · exact fun status own ↦ (holds.isSuccess_iff status).mpr (.inr ⟨i, among, own⟩)
  case grows =>
    intro later t h'
    have more := extends_of_after? h h'
    exact ⟨fun _ _ ↦ more.lookup?, fun _ ↦ more.isSuccess⟩
  case closed =>
    intro i result own there
    have closed := isSealed_of_left h own there
    refine ⟨closed, fun later t h' ↦ ⟨now_of_isSealed h h' closed, ?_⟩⟩
    intro j answer fresh there'
    obtain ⟨ask, seen, called, loaded, rfl⟩ := Shared.loaded_of_answered h' there'
    obtain ⟨between, u, happened, rfl⟩ := loaded.exists_later fresh
    exact ⟨ask, called, by rw [now_of_isSealed h happened closed]⟩

/-- Two registrations of one code, questions for it before and after, the closing of the mapping,
and a registration that comes too late. -/
def rivals : Nat → Request
  | 0 => .registerCode ⟨70⟩ .notFound
  | 1 => .registerCode ⟨70⟩ .badRequest
  | 2 | 3 => .httpStatus ⟨70⟩
  | 4 => .close
  | _ => .registerCode ⟨71⟩ .notFound

/-- The first question takes its look while the first registration has the lock. -/
def rivalry : List (Shared.Event Nat) := [
  .lock 0, .look 0, .load 2, .look 0, .publish 0, .unlock 0, .answer 2,
  .lock 1, .look 1, .look 1, .refuse 1, .unlock 1, .lock 4, .publish 4, .unlock 4,
  .load 3, .lock 5, .look 5, .answer 3, .refuse 5, .unlock 5]

/-- The registration that had the lock first is the one that counts, for the question that came
after it; what came later is refused and changes nothing. -/
theorem keepsEntries_rivalry : ∃ s, after? rivals rivalry = some s ∧
    s.phase 2 = .answered (.status .internalServerError) ∧
    s.phase 3 = .answered (.status .notFound) ∧ .publish 1 ∉ rivalry ∧ .publish 5 ∉ rivalry ∧
    s.now.lookup? ⟨70⟩ = some .notFound ∧ s.now.isSealed = true := by
  have happened : after? rivals rivalry = some _ := rfl
  have kept := keepsEntries_of_after? happened
  refine ⟨_, happened, rfl, rfl, ?_, ?_, ?_, ?_⟩
  · exact fun done ↦ nomatch (kept.published 1 _ rfl).mp done
  · exact fun done ↦ nomatch (kept.published 5 _ rfl).mp done
  · exact (kept.registered 0 rfl [] _ happened).1 ⟨70⟩ .notFound rfl
  · exact (kept.closed 4 _ rfl rfl).1

end HttpGateway.StatusMapping
