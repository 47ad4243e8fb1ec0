import HttpGateway.Proofs.Startup.FieldPaths
import Mathlib.Data.List.Basic
import Mathlib.Data.List.Nodup

/-!
# What validation finds

Validation goes through a configuration once and notes each rule that is broken. Here the rules stand
by themselves: what a configuration must be, and which problem each breach of a rule is. A valid
configuration is one that is as it must be, and the problems of any other are its breaches, at most
one for each field and in the order of the fields.
-/

namespace HttpGateway

/-! ## Rules -/

/-- What a route must be, whatever the others are. -/
structure RouteConfig.Conforms (route : RouteConfig) : Prop where
  name : route.name ≠ ""
  protocol : route.protocol ≠ ""
  target : route.target ≠ ""
  pathPrefix : ∀ path, route.pathPrefix = some path → ∃ rest, path = "/" ++ rest
  timeout : route.timeoutMs ≠ some 0

namespace Config

/-- What a configuration must be. -/
structure Conforms (c : Config) : Prop where
  bindAddress : isSocketAddress c.listener.bindAddress = true
  maxBodySize : 0 < c.listener.maxBodySize
  requestSecs : 0 < c.timeouts.requestSecs
  callTimeout : 0 < c.timeouts.callTimeoutMs
  bufferSize : 0 < c.proxy.bufferSize
  dialTimeout : 0 < c.grpc.dialTimeoutMs
  metricsAddress : c.observability.metricsEnabled = true →
    isSocketAddress c.observability.metricsAddress = true
  routes : ∀ route ∈ c.routes, route.Conforms
  names : (c.routes.map RouteConfig.name).Nodup
  codes : ∀ entry ∈ c.errorCodes, 100 ≤ entry.httpStatus ∧ entry.httpStatus ≤ 599
  statuses : ∀ n ∈ c.successStatuses, (100 ≤ n ∧ n ≤ 599) ∧ n ≠ 200
  once : c.successStatuses.Nodup

/-- The breach of a rule for a setting. -/
inductive SettingBreach (c : Config) : Problem → Prop
  | bindAddress : isSocketAddress c.listener.bindAddress = false →
    SettingBreach c ⟨.bindAddress, .notAnAddress c.listener.bindAddress⟩
  | maxBodySize : c.listener.maxBodySize = 0 → SettingBreach c ⟨.maxBodySize, .notPositive⟩
  | requestSecs : c.timeouts.requestSecs = 0 → SettingBreach c ⟨.requestSecs, .notPositive⟩
  | callTimeout : c.timeouts.callTimeoutMs = 0 → SettingBreach c ⟨.callTimeout, .notPositive⟩
  | bufferSize : c.proxy.bufferSize = 0 → SettingBreach c ⟨.bufferSize, .notPositive⟩
  | dialTimeout : c.grpc.dialTimeoutMs = 0 → SettingBreach c ⟨.dialTimeout, .notPositive⟩
  | metricsAddress : c.observability.metricsEnabled = true →
    isSocketAddress c.observability.metricsAddress = false →
    SettingBreach c ⟨.metricsAddress, .notAnAddress c.observability.metricsAddress⟩

/-- The breach of a rule for the route at a place, behind earlier ones. -/
inductive RouteBreach (earlier : List RouteConfig) (i : Nat) (route : RouteConfig) :
    Problem → Prop
  | noName : route.name = "" → RouteBreach earlier i route ⟨.routeName i, .empty⟩
  | sameName : route.name ≠ "" → route.name ∈ earlier.map RouteConfig.name →
    RouteBreach earlier i route ⟨.routeName i, .duplicateName route.name⟩
  | noProtocol : route.protocol = "" → RouteBreach earlier i route ⟨.routeProtocol i, .empty⟩
  | noTarget : route.target = "" → RouteBreach earlier i route ⟨.routeTarget i, .empty⟩
  | noSlash (path : String) : route.pathPrefix = some path → (∀ rest, path ≠ "/" ++ rest) →
    RouteBreach earlier i route ⟨.routePathPrefix i, .noSlash⟩
  | noTime : route.timeoutMs = some 0 → RouteBreach earlier i route ⟨.routeTimeout i, .notPositive⟩

/-- The breach of a rule for the success status at a place, behind earlier ones. -/
inductive StatusBreach (earlier : List Nat) (i n : Nat) : Problem → Prop
  | outside : ¬ (100 ≤ n ∧ n ≤ 599) → StatusBreach earlier i n ⟨.successStatus i, .invalidStatus n⟩
  | usual : n = 200 → StatusBreach earlier i n ⟨.successStatus i, .repeatedStatus n⟩
  | listed : 100 ≤ n ∧ n ≤ 599 → n ∈ earlier →
    StatusBreach earlier i n ⟨.successStatus i, .repeatedStatus n⟩

/-- The breach of a rule for a configuration. -/
inductive Breach (c : Config) : Problem → Prop
  | setting {p : Problem} : SettingBreach c p → Breach c p
  | route {p : Problem} (i : Nat) (route : RouteConfig) : c.routes[i]? = some route →
    RouteBreach (c.routes.take i) i route p → Breach c p
  | code (i : Nat) (entry : ErrorCodeConfig) : c.errorCodes[i]? = some entry →
    ¬ (100 ≤ entry.httpStatus ∧ entry.httpStatus ≤ 599) →
    Breach c ⟨.codeStatus i, .invalidStatus entry.httpStatus⟩
  | status {p : Problem} (i n : Nat) : c.successStatuses[i]? = some n →
    StatusBreach (c.successStatuses.take i) i n p → Breach c p

/-- The fields of settings, in their order. -/
def settingFields : List Field :=
  [.bindAddress, .maxBodySize, .requestSecs, .callTimeout, .bufferSize, .dialTimeout,
    .metricsAddress]

/-- The fields of the route at a place, in their order. -/
def routeFields (i : Nat) : List Field :=
  [.routeName i, .routeProtocol i, .routeTarget i, .routePathPrefix i, .routeTimeout i]

/-- The fields of a configuration, in their order. -/
def fields (c : Config) : List Field :=
  settingFields ++ (List.range c.routes.length).flatMap routeFields ++
    (List.range c.errorCodes.length).map .codeStatus ++
    (List.range c.successStatuses.length).map .successStatus

/-! ## Going through a list -/

/-- A walk through a list visits each element with those in front of it and their number. -/
structure IsWalk {α β : Type} (visit : List α → Nat → α → List β)
    (walk : List α → List α → List β) : Prop where
  stop : ∀ seen, walk seen [] = []
  go : ∀ seen a l, walk seen (a :: l) = visit seen seen.length a ++ walk (seen ++ [a]) l

namespace IsWalk

variable {α β γ : Type} {visit : List α → Nat → α → List β} {walk : List α → List α → List β}

/-- What is found on a walk is found at one of the places. -/
theorem mem_iff (h : IsWalk visit walk) {b : β} {l : List α} :
    b ∈ walk [] l ↔ ∃ i a, l[i]? = some a ∧ b ∈ visit (l.take i) i a := by
  -- The induction is on what is still ahead, so what has been seen varies.
  have further : ∀ seen, b ∈ walk seen l ↔
      ∃ i a, l[i]? = some a ∧ b ∈ visit (seen ++ l.take i) (seen.length + i) a := by
    induction l with
    | nil => simp [h.stop]
    | cons a l ih =>
      intro seen
      rw [h.go, List.mem_append, ih]
      have shift : ∀ i, seen.length + 1 + i = seen.length + (i + 1) := by omega
      constructor
      · rintro (first | ⟨i, x, there, found⟩)
        · exact ⟨0, a, rfl, by simpa using first⟩
        · exact ⟨i + 1, x, there, by simpa [shift] using found⟩
      · rintro ⟨i, x, there, found⟩
        cases i with
        | zero =>
          cases there
          exact .inl (by simpa using found)
        | succ i => exact .inr ⟨i, x, there, by simpa [shift] using found⟩
  simpa using further []

/-- If each place has its findings in an order of its own, a walk has them in the order of the
places. -/
theorem sublist (h : IsWalk visit walk) {key : β → γ} {keys : Nat → List γ}
    (each : ∀ seen i a, ((visit seen i a).map key).Sublist (keys i)) (l : List α) :
    ((walk [] l).map key).Sublist ((List.range l.length).flatMap keys) := by
  have further : ∀ seen, ((walk seen l).map key).Sublist
      ((List.range' seen.length l.length).flatMap keys) := by
    induction l with
    | nil => simp [h.stop]
    | cons a l ih =>
      intro seen
      rw [h.go, List.map_append, List.length_cons, List.range'_succ, List.flatMap_cons]
      apply (each seen seen.length a).append
      simpa using ih (seen ++ [a])
  simpa [List.range_eq_range'] using further []

end IsWalk

/-- The problems of routes are found on a walk through them. -/
theorem isWalk_routesProblems :
    IsWalk (fun earlier i route ↦ routeProblems (earlier.map RouteConfig.name) i route)
      (fun earlier routes ↦ routesProblems (earlier.map RouteConfig.name) routes) :=
  ⟨fun _ ↦ rfl, fun _ _ _ ↦ by simp [routesProblems]⟩

/-- The problem of an error code. -/
def codeProblems (i : Nat) (entry : ErrorCodeConfig) : List Problem :=
  require (isStatus entry.httpStatus) (.codeStatus i) (.invalidStatus entry.httpStatus)

/-- The problems of error codes are found on a walk through them. -/
theorem isWalk_codesProblems :
    IsWalk (fun _ i entry ↦ codeProblems i entry)
      (fun earlier entries ↦ codesProblems earlier.length entries) :=
  ⟨fun _ ↦ rfl, fun _ _ _ ↦ by simp [codesProblems, codeProblems]⟩

/-- The problem of a success status behind earlier ones. -/
def statusProblems (earlier : List Nat) (i n : Nat) : List Problem :=
  if isStatus n then
    require (n ≠ 200 && !earlier.contains n) (.successStatus i) (.repeatedStatus n)
  else [⟨.successStatus i, .invalidStatus n⟩]

/-- The problems of success statuses are found on a walk through them. -/
theorem isWalk_statusesProblems : IsWalk statusProblems statusesProblems :=
  ⟨fun _ ↦ rfl, fun _ _ _ ↦ rfl⟩

/-- The elements of a list differ if none of them stands in front of itself. -/
private theorem nodup_iff_notMem_take {α : Type} {l : List α} :
    l.Nodup ↔ ∀ i a, l[i]? = some a → a ∉ l.take i := by
  constructor
  · intro nodup i a there mem
    obtain ⟨j, below, same⟩ := List.mem_take_iff_getElem.mp mem
    obtain ⟨bound, last⟩ := List.getElem?_eq_some_iff.mp there
    have := (List.getElem_inj nodup).mp (same.trans last.symm)
    omega
  · intro apart
    apply List.pairwise_iff_getElem.mpr
    intro j i _ bound before same
    apply apart i l[i] (List.getElem?_eq_getElem bound)
    exact List.mem_take_iff_getElem.mpr ⟨j, by omega, same⟩

/-! ## Problems and breaches -/

section

variable {c : Config} {p : Problem}

/-- A rule is a problem if it does not hold. -/
theorem mem_require_iff {holds : Bool} {field : Field} {flaw : Flaw} :
    p ∈ require holds field flaw ↔ holds = false ∧ p = ⟨field, flaw⟩ := by
  unfold require
  cases holds <;> simp

/-- The numbers that may be configured as a status. -/
theorem isStatus_iff {n : Nat} : isStatus n = true ↔ 100 ≤ n ∧ n ≤ 599 := by
  simp [isStatus]

/-- The problems of the settings are their breaches. -/
theorem mem_settingProblems_iff : p ∈ settingProblems c ↔ SettingBreach c p := by
  simp only [settingProblems, List.mem_append, mem_require_iff, decide_eq_false_iff_not,
    Nat.not_lt, Nat.le_zero, Bool.or_eq_false_iff, Bool.not_eq_false']
  constructor
  · rintro ((((((⟨h, rfl⟩ | ⟨h, rfl⟩) | ⟨h, rfl⟩) | ⟨h, rfl⟩) | ⟨h, rfl⟩) | ⟨h, rfl⟩) | ⟨h, rfl⟩)
    · exact .bindAddress h
    · exact .maxBodySize h
    · exact .requestSecs h
    · exact .callTimeout h
    · exact .bufferSize h
    · exact .dialTimeout h
    · exact .metricsAddress h.1 h.2
  · intro h
    cases h <;> simp [*]

/-- The problem of a route's name. -/
theorem mem_nameProblems_iff {seen : List String} {i : Nat} {name : String} :
    p ∈ nameProblems seen i name ↔ name = "" ∧ p = ⟨.routeName i, .empty⟩ ∨
      (name ≠ "" ∧ name ∈ seen) ∧ p = ⟨.routeName i, .duplicateName name⟩ := by
  unfold nameProblems
  by_cases h : name = ""
  · simp [h]
  · simp [h, mem_require_iff]

/-- A text starts with another if something stands behind that. -/
private theorem startsWith_iff {front text : String} :
    text.startsWith front = true ↔ ∃ rest, text = front ++ rest := by
  rw [String.startsWith_string_iff]
  constructor
  · rintro ⟨rest, same⟩
    exact ⟨String.ofList rest, String.toList_inj.mp (by simp [same])⟩
  · rintro ⟨rest, rfl⟩
    exact ⟨rest.toList, by simp⟩

/-- The rule of a path prefix is broken by one that does not start with a slash. -/
private theorem all_startsWith_eq_false_iff {pathPrefix : Option String} :
    (pathPrefix.all fun path ↦ path.startsWith "/") = false ↔
      ∃ path, pathPrefix = some path ∧ ∀ rest, path ≠ "/" ++ rest := by
  cases pathPrefix with
  | none => simp
  | some path => rw [Option.all_some, ← Bool.not_eq_true, startsWith_iff]; simp

/-- The problems of a route are its breaches. -/
theorem mem_routeProblems_iff {earlier : List RouteConfig} {i : Nat} {route : RouteConfig} :
    p ∈ routeProblems (earlier.map RouteConfig.name) i route ↔ RouteBreach earlier i route p := by
  simp only [routeProblems, List.mem_append, mem_require_iff, mem_nameProblems_iff]
  constructor
  · rintro (((((⟨h, rfl⟩ | ⟨h, rfl⟩) | ⟨h, rfl⟩) | ⟨h, rfl⟩) | ⟨h, rfl⟩) | ⟨h, rfl⟩)
    · exact .noName h
    · exact .sameName h.1 h.2
    · exact .noProtocol (by simpa using h)
    · exact .noTarget (by simpa using h)
    · obtain ⟨path, there, bare⟩ := all_startsWith_eq_false_iff.mp h
      exact .noSlash path there bare
    · exact .noTime (by simpa using h)
  · intro h
    cases h with
    | noSlash path there bare =>
      have broken := all_startsWith_eq_false_iff.mpr ⟨path, there, bare⟩
      simp [broken]
    | _ => simp [*]

/-- The problem of an error code is a status outside the range. -/
theorem mem_codeProblems_iff {i : Nat} {entry : ErrorCodeConfig} :
    p ∈ codeProblems i entry ↔ ¬ (100 ≤ entry.httpStatus ∧ entry.httpStatus ≤ 599) ∧
      p = ⟨.codeStatus i, .invalidStatus entry.httpStatus⟩ := by
  rw [codeProblems, mem_require_iff, ← Bool.not_eq_true, isStatus_iff]

/-- The problem of a success status is its breach. -/
theorem mem_statusProblems_iff {earlier : List Nat} {i n : Nat} :
    p ∈ statusProblems earlier i n ↔ StatusBreach earlier i n p := by
  unfold statusProblems
  constructor
  · intro h
    split at h
    · next inside =>
      obtain ⟨rule, rfl⟩ := mem_require_iff.mp h
      by_cases usual : n = 200
      · exact .usual usual
      · exact .listed (isStatus_iff.mp inside) (by simpa [usual] using rule)
    · next outside =>
      obtain rfl := List.mem_singleton.mp h
      exact .outside (mt isStatus_iff.mpr outside)
  · intro h
    cases h with
    | outside outside => simp [mt isStatus_iff.mp outside]
    | usual same => simp [same, mem_require_iff, isStatus]
    | listed inside mem => simp [isStatus_iff.mpr inside, mem_require_iff, mem]

/-- The problems of a configuration are its breaches. -/
theorem mem_problems_iff : p ∈ c.problems ↔ c.Breach p := by
  have routes := isWalk_routesProblems.mem_iff (b := p) (l := c.routes)
  have codes := isWalk_codesProblems.mem_iff (b := p) (l := c.errorCodes)
  have statuses := isWalk_statusesProblems.mem_iff (b := p) (l := c.successStatuses)
  simp only [problems, List.mem_append, mem_settingProblems_iff, List.map_nil, List.length_nil,
    mem_routeProblems_iff, mem_codeProblems_iff, mem_statusProblems_iff]
    at routes codes statuses ⊢
  rw [routes, codes, statuses]
  constructor
  · rintro (((h | ⟨i, route, there, h⟩) | ⟨i, entry, there, outside, rfl⟩) | ⟨i, n, there, h⟩)
    · exact .setting h
    · exact .route i route there h
    · exact .code i entry there outside
    · exact .status i n there h
  · intro h
    cases h with
    | setting h => exact .inl (.inl (.inl h))
    | route i route there h => exact .inl (.inl (.inr ⟨i, route, there, h⟩))
    | code i entry there outside => exact .inl (.inr ⟨i, entry, there, outside, rfl⟩)
    | status i n there h => exact .inr ⟨i, n, there, h⟩

namespace Conforms

variable (h : c.Conforms)
include h

/-- A configuration that is as it must be breaks no rule for a setting. -/
theorem not_settingBreach : ¬ SettingBreach c p := by
  intro breach
  cases breach with
  | bindAddress bad => simp [h.bindAddress] at bad
  | maxBodySize zero => exact Nat.ne_of_gt h.maxBodySize zero
  | requestSecs zero => exact Nat.ne_of_gt h.requestSecs zero
  | callTimeout zero => exact Nat.ne_of_gt h.callTimeout zero
  | bufferSize zero => exact Nat.ne_of_gt h.bufferSize zero
  | dialTimeout zero => exact Nat.ne_of_gt h.dialTimeout zero
  | metricsAddress enabled bad => simp [h.metricsAddress enabled] at bad

/-- A configuration that is as it must be breaks no rule for a route. -/
theorem not_routeBreach {i : Nat} {route : RouteConfig} (there : c.routes[i]? = some route) :
    ¬ RouteBreach (c.routes.take i) i route p := by
  intro breach
  have conforms := h.routes route (List.mem_of_getElem? there)
  cases breach with
  | noName same => exact conforms.name same
  | sameName _ mem =>
    apply nodup_iff_notMem_take.mp h.names i route.name (by simp [there])
    rwa [← List.map_take]
  | noProtocol same => exact conforms.protocol same
  | noTarget same => exact conforms.target same
  | noSlash path there bare =>
    obtain ⟨rest, same⟩ := conforms.pathPrefix path there
    exact bare rest same
  | noTime same => exact conforms.timeout same

/-- A configuration that is as it must be breaks no rule for a success status. -/
theorem not_statusBreach {i n : Nat} (there : c.successStatuses[i]? = some n) :
    ¬ StatusBreach (c.successStatuses.take i) i n p := by
  intro breach
  obtain ⟨inside, unusual⟩ := h.statuses n (List.mem_of_getElem? there)
  cases breach with
  | outside outside => exact outside inside
  | usual same => exact unusual same
  | listed _ mem => exact nodup_iff_notMem_take.mp h.once i n there mem

/-- A configuration that is as it must be breaks no rule. -/
theorem not_breach : ¬ c.Breach p := by
  intro breach
  cases breach with
  | setting breach => exact h.not_settingBreach breach
  | route i route there breach => exact h.not_routeBreach there breach
  | code i entry there outside => exact outside (h.codes entry (List.mem_of_getElem? there))
  | status i n there breach => exact h.not_statusBreach there breach

end Conforms

/-- A route that breaks no rule is as it must be. -/
theorem RouteBreach.conforms {earlier : List RouteConfig} {i : Nat} {route : RouteConfig}
    (spared : ∀ p, ¬ RouteBreach earlier i route p) : route.Conforms := by
  constructor
  case name => exact fun same ↦ spared _ (.noName same)
  case protocol => exact fun same ↦ spared _ (.noProtocol same)
  case target => exact fun same ↦ spared _ (.noTarget same)
  case pathPrefix =>
    intro path stated
    apply by_contra
    exact fun bare ↦ spared _ (.noSlash path stated (not_exists.mp bare))
  case timeout => exact fun same ↦ spared _ (.noTime same)

/-- If no route breaks a rule, their names differ. -/
theorem RouteBreach.nodup_names {routes : List RouteConfig}
    (spared : ∀ i route, routes[i]? = some route → ∀ p, ¬ RouteBreach (routes.take i) i route p) :
    (routes.map RouteConfig.name).Nodup := by
  apply nodup_iff_notMem_take.mpr
  intro i name there mem
  rw [List.getElem?_map, Option.map_eq_some_iff] at there
  obtain ⟨route, there, rfl⟩ := there
  rw [← List.map_take] at mem
  by_cases same : route.name = ""
  · exact spared i route there _ (.noName same)
  · exact spared i route there _ (.sameName same mem)

/-- If no success status breaks a rule, they differ. -/
theorem StatusBreach.nodup {statuses : List Nat}
    (spared : ∀ i n, statuses[i]? = some n → ∀ p, ¬ StatusBreach (statuses.take i) i n p) :
    statuses.Nodup := by
  apply nodup_iff_notMem_take.mpr
  intro i n there mem
  by_cases inside : 100 ≤ n ∧ n ≤ 599
  · exact spared i n there _ (.listed inside mem)
  · exact spared i n there _ (.outside inside)

/-- A configuration is as it must be if it breaks no rule. -/
theorem conforms_iff : c.Conforms ↔ ∀ p, ¬ c.Breach p := by
  constructor
  · exact fun h p ↦ h.not_breach
  · intro spared
    have setting (p : Problem) : ¬ SettingBreach c p := fun h ↦ spared p (.setting h)
    have routes (i : Nat) (route : RouteConfig) (there : c.routes[i]? = some route) (p : Problem) :
        ¬ RouteBreach (c.routes.take i) i route p := fun h ↦ spared p (.route i route there h)
    have statuses (i n : Nat) (there : c.successStatuses[i]? = some n) (p : Problem) :
        ¬ StatusBreach (c.successStatuses.take i) i n p := fun h ↦ spared p (.status i n there h)
    constructor
    case bindAddress => exact Bool.of_not_eq_false fun bad ↦ setting _ (.bindAddress bad)
    case maxBodySize => exact Nat.pos_of_ne_zero fun zero ↦ setting _ (.maxBodySize zero)
    case requestSecs => exact Nat.pos_of_ne_zero fun zero ↦ setting _ (.requestSecs zero)
    case callTimeout => exact Nat.pos_of_ne_zero fun zero ↦ setting _ (.callTimeout zero)
    case bufferSize => exact Nat.pos_of_ne_zero fun zero ↦ setting _ (.bufferSize zero)
    case dialTimeout => exact Nat.pos_of_ne_zero fun zero ↦ setting _ (.dialTimeout zero)
    case metricsAddress =>
      exact fun enabled ↦ Bool.of_not_eq_false fun bad ↦ setting _ (.metricsAddress enabled bad)
    case routes =>
      intro route mem
      obtain ⟨i, there⟩ := List.mem_iff_getElem?.mp mem
      exact RouteBreach.conforms (routes i route there)
    case names => exact RouteBreach.nodup_names routes
    case codes =>
      intro entry mem
      obtain ⟨i, there⟩ := List.mem_iff_getElem?.mp mem
      exact by_contra fun outside ↦ spared _ (.code i entry there outside)
    case statuses =>
      intro n mem
      obtain ⟨i, there⟩ := List.mem_iff_getElem?.mp mem
      refine ⟨by_contra fun outside ↦ statuses i n there _ (.outside outside), ?_⟩
      exact fun same ↦ statuses i n there _ (.usual same)
    case once => exact StatusBreach.nodup statuses

/-! ## The order of the problems -/

/-- A rule is a problem of its own field only. -/
theorem sublist_require (holds : Bool) (field : Field) (flaw : Flaw) :
    ((require holds field flaw).map Problem.field).Sublist [field] := by
  unfold require
  cases holds <;> simp

/-- With one more rule, the problems stay in the order of their fields. -/
theorem sublist_append_require {ps : List Problem} {fields : List Field}
    (h : (ps.map Problem.field).Sublist fields) (holds : Bool) (field : Field) (flaw : Flaw) :
    ((ps ++ require holds field flaw).map Problem.field).Sublist (fields ++ [field]) := by
  rw [List.map_append]
  exact h.append (sublist_require holds field flaw)

/-- The problems of the settings come in the order of their fields. -/
theorem sublist_settingFields : ((settingProblems c).map Problem.field).Sublist settingFields := by
  show ((settingProblems c).map Problem.field).Sublist
    ([Field.bindAddress] ++ [Field.maxBodySize] ++ [Field.requestSecs] ++ [Field.callTimeout] ++
      [Field.bufferSize] ++ [Field.dialTimeout] ++ [Field.metricsAddress])
  iterate 6 apply sublist_append_require
  apply sublist_require

/-- The problem of a route's name is one of its name. -/
theorem sublist_nameProblems (seen : List String) (i : Nat) (name : String) :
    ((nameProblems seen i name).map Problem.field).Sublist [.routeName i] := by
  unfold nameProblems
  split
  · exact List.Sublist.refl _
  · exact sublist_require _ _ _

/-- The problems of a route come in the order of its fields. -/
theorem sublist_routeFields (seen : List String) (i : Nat) (route : RouteConfig) :
    ((routeProblems seen i route).map Problem.field).Sublist (routeFields i) := by
  show ((routeProblems seen i route).map Problem.field).Sublist
    ([Field.routeName i] ++ [Field.routeProtocol i] ++ [Field.routeTarget i] ++
      [Field.routePathPrefix i] ++ [Field.routeTimeout i])
  iterate 4 apply sublist_append_require
  apply sublist_nameProblems

/-- The problem of a success status is one of its field. -/
theorem sublist_statusProblems (earlier : List Nat) (i n : Nat) :
    ((statusProblems earlier i n).map Problem.field).Sublist [.successStatus i] := by
  unfold statusProblems
  split
  · exact sublist_require _ _ _
  · exact List.Sublist.refl _

/-- The problems of a configuration come in the order of its fields. -/
theorem sublist_fields : (c.problems.map Problem.field).Sublist c.fields := by
  have routes := isWalk_routesProblems.sublist
    (fun earlier i route ↦ sublist_routeFields (earlier.map RouteConfig.name) i route) c.routes
  have codes := isWalk_codesProblems.sublist
    (fun _ i _ ↦ sublist_require _ (.codeStatus i) _) c.errorCodes
  have statuses := isWalk_statusesProblems.sublist sublist_statusProblems c.successStatuses
  unfold problems fields
  simp only [List.map_append, List.map_eq_flatMap (l := List.range _)]
  exact ((sublist_settingFields.append routes).append codes).append statuses

/-- No two fields of a configuration are the same. -/
theorem nodup_fields : c.fields.Nodup := by
  have routes (n : Nat) : ((List.range n).flatMap routeFields).Nodup := by
    apply List.nodup_flatMap.mpr
    refine ⟨fun i _ ↦ by simp [routeFields], List.nodup_range.imp ?_⟩
    intro i j apart field first second
    simp only [routeFields, List.mem_cons, List.not_mem_nil, or_false] at first second
    rcases first with rfl | rfl | rfl | rfl | rfl <;> simp_all
  have codes (n : Nat) : ((List.range n).map Field.codeStatus).Nodup :=
    List.nodup_range.map fun _ _ same ↦ Field.codeStatus.inj same
  have statuses (n : Nat) : ((List.range n).map Field.successStatus).Nodup :=
    List.nodup_range.map fun _ _ same ↦ Field.successStatus.inj same
  have settings : settingFields.Nodup := by decide
  unfold fields
  refine List.nodup_append.mpr ⟨List.nodup_append.mpr ⟨List.nodup_append.mpr
    ⟨settings, routes _, ?_⟩, codes _, ?_⟩, statuses _, ?_⟩
  all_goals
    rintro field first _ second rfl
    simp only [settingFields, routeFields, List.mem_append, List.mem_flatMap, List.mem_map,
      List.mem_cons, List.not_mem_nil, or_false] at first second
    grind

/-- No path is named by two problems. -/
theorem nodup_paths : (c.problems.map fun p ↦ p.field.path).Nodup := by
  have apart : (c.problems.map Problem.field).Nodup := sublist_fields.nodup nodup_fields
  simpa [Function.comp_def] using apart.map Field.path_injective

/-! ## First and later occurrences -/

/-- The name of a route is a problem if it is empty or stands in front of it. -/
theorem mem_routeName_iff {i : Nat} {route : RouteConfig} (there : c.routes[i]? = some route) :
    Field.routeName i ∈ c.problems.map Problem.field ↔
      route.name = "" ∨ route.name ∈ (c.routes.map RouteConfig.name).take i := by
  rw [← List.map_take]
  constructor
  · intro h
    obtain ⟨p, mem, same⟩ := List.mem_map.mp h
    cases mem_problems_iff.mp mem with
    | setting breach => cases breach <;> cases same
    | route j other where_ breach =>
      -- Only a breach about the name is one of this field, and its place is that of the route.
      cases breach with
      | noName empty =>
        cases same
        cases where_.symm.trans there
        exact .inl empty
      | sameName _ again =>
        cases same
        cases where_.symm.trans there
        exact .inr again
      | _ => cases same
    | code => cases same
    | status j n where_ breach => cases breach <;> cases same
  · intro h
    by_cases empty : route.name = ""
    · exact List.mem_map.mpr ⟨_, mem_problems_iff.mpr (.route i route there (.noName empty)), rfl⟩
    · have again := RouteBreach.sameName (i := i) empty (h.resolve_left empty)
      exact List.mem_map.mpr ⟨_, mem_problems_iff.mpr (.route i route there again), rfl⟩

/-- A success status is a problem if it is none that may be configured, the usual one or stands in
front of it. -/
theorem mem_successStatus_iff {i n : Nat} (there : c.successStatuses[i]? = some n) :
    Field.successStatus i ∈ c.problems.map Problem.field ↔
      (¬ (100 ≤ n ∧ n ≤ 599) ∨ n = 200) ∨ n ∈ c.successStatuses.take i := by
  constructor
  · intro h
    obtain ⟨p, mem, same⟩ := List.mem_map.mp h
    cases mem_problems_iff.mp mem with
    | setting breach => cases breach <;> cases same
    | route j other where_ breach => cases breach <;> cases same
    | code => cases same
    | status j m where_ breach =>
      cases breach <;> cases same
      all_goals
        cases where_.symm.trans there
        simp [*]
  · intro h
    have found (flaw : Flaw)
        (breach : StatusBreach (c.successStatuses.take i) i n ⟨.successStatus i, flaw⟩) :
        Field.successStatus i ∈ c.problems.map Problem.field :=
      List.mem_map.mpr ⟨_, mem_problems_iff.mpr (.status i n there breach), rfl⟩
    by_cases inside : 100 ≤ n ∧ n ≤ 599
    · rcases h with (outside | usual) | mem
      · exact absurd inside outside
      · exact found _ (.usual usual)
      · exact found _ (.listed inside mem)
    · exact found _ (.outside inside)

end

/-! ## The verdict -/

/-- What validation says of a configuration: whether it is as it must be, and else which rules it
breaks. -/
structure Judged (c : Config) : Prop where
  accepted : c.isValid = true ↔ c.Conforms
  reported : ∀ p, p ∈ c.problems ↔ c.Breach p
  once : (c.problems.map fun p ↦ p.field.path).Nodup
  ordered : (c.problems.map Problem.field).Sublist c.fields
  -- Of routes with one name and of statuses that may be configured, the first is not reported.
  laterNames : ∀ i route, c.routes[i]? = some route → route.name ≠ "" →
    (Field.routeName i ∈ c.problems.map Problem.field ↔
      (c.routes.map RouteConfig.name).idxOf route.name < i)
  laterStatuses : ∀ i n, c.successStatuses[i]? = some n → 100 ≤ n ∧ n ≤ 599 → n ≠ 200 →
    (Field.successStatus i ∈ c.problems.map Problem.field ↔ c.successStatuses.idxOf n < i)

/-- A configuration is valid if it breaks no rule. -/
theorem isValid_iff {c : Config} : c.isValid = true ↔ c.Conforms := by
  rw [isValid, List.isEmpty_iff, List.eq_nil_iff_forall_not_mem, conforms_iff]
  simp only [mem_problems_iff]

/-- Validation accepts the configurations that are as they must be and reports each broken rule of
the others once, in order. -/
theorem judged (c : Config) : c.Judged := by
  constructor
  case accepted => exact isValid_iff
  case reported => exact fun _ ↦ mem_problems_iff
  case once => exact nodup_paths
  case ordered => exact sublist_fields
  case laterNames =>
    intro i route there named
    have mem : route.name ∈ c.routes.map RouteConfig.name :=
      List.mem_map_of_mem (List.mem_of_getElem? there)
    simp [mem_routeName_iff there, named, List.mem_take_iff_idxOf_lt mem]
  case laterStatuses =>
    intro i n there inside unusual
    have mem : n ∈ c.successStatuses := List.mem_of_getElem? there
    simp [mem_successStatus_iff there, inside, unusual, List.mem_take_iff_idxOf_lt mem]

end Config
end HttpGateway
