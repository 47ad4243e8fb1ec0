import HttpGateway.Routing.Table

/-!
# The choice of a route

Sorting and then taking the first route that accepts is choosing by priority: a request goes by the
configuration whose conditions it meets, of the highest priority among these, and of those of equal
priority by the one that stands first. So only the order among configurations of equal priority
counts, and a configuration whose conditions are not met does not count at all.
-/

namespace HttpGateway

/-- A request head meets the conditions that a configuration states. -/
structure RouteConfig.Meets (c : RouteConfig) (head : RequestHead) : Prop where
  host : ∀ host, c.host = some host → Host.accepts host head = true
  path : ∀ start, c.pathPrefix = some start → ∃ rest, head.uri.path = start ++ rest

/-- A configuration is preferred for a request head: its conditions are met, no configuration whose
conditions are met has a higher priority, and none of those before it has the same priority. -/
def RouteConfig.Preferred (configs : List RouteConfig) (head : RequestHead) (c : RouteConfig) :
    Prop :=
  ∃ before after, configs = before ++ c :: after ∧ c.Meets head ∧
    (∀ d ∈ configs, d.Meets head → d.priority ≤ c.priority) ∧
    ∀ d ∈ before, d.Meets head → d.priority ≠ c.priority

/-- A text that starts with another is that text and a rest. -/
theorem exists_eq_append_iff {s start : String} :
    start.toList.isPrefixOf s.toList = true ↔ ∃ rest, s = start ++ rest := by
  rw [List.isPrefixOf_iff_prefix]
  constructor
  · rintro ⟨rest, h⟩
    refine ⟨String.ofList rest, String.toList_inj.mp ?_⟩
    rw [String.toList_append, String.toList_ofList, h]
  · rintro ⟨rest, rfl⟩
    exact ⟨rest.toList, String.toList_append.symm⟩

namespace Route

/-- A route accepts the request heads that meet the conditions of its configuration. -/
theorem accepts_ofConfig_iff {timeout : Duration} {c : RouteConfig} {head : RequestHead} :
    (ofConfig timeout c).accepts head = true ↔ c.Meets head := by
  unfold accepts ofConfig
  rw [Bool.and_eq_true, Option.all_eq_true, Option.all_eq_true]
  simp only [exists_eq_append_iff]
  exact ⟨fun ⟨host, path⟩ ↦ ⟨host, path⟩, fun ⟨host, path⟩ ↦ ⟨host, path⟩⟩

end Route

namespace RouteConfig

variable {configs others before after : List RouteConfig} {c d : RouteConfig} {head : RequestHead}

/-- Preferred is the first of the configurations of the highest priority whose conditions are met.
Whether a condition is met is asked of a route, whatever its time limit. -/
theorem preferred_iff (timeout : Duration) : Preferred configs head c ↔
    (∀ d ∈ configs, d.Meets head → d.priority ≤ c.priority) ∧
      ((configs.filter fun d ↦ d.priority = c.priority).find?
        fun d ↦ (Route.ofConfig timeout d).accepts head) = some c := by
  rw [List.find?_filter, List.find?_eq_some_iff_append]
  simp only [decide_eq_true_eq, true_and, Route.accepts_ofConfig_iff, Bool.not_eq_true',
    decide_eq_false_iff_not, not_and']
  constructor
  · rintro ⟨before, after, split, meets, highest, first⟩
    exact ⟨highest, meets, before, after, split, first⟩
  · rintro ⟨highest, meets, before, after, split, first⟩
    exact ⟨before, after, split, meets, highest, first⟩

/-- One more configuration in front is preferred itself, unless its conditions are not met or one of
a higher priority is preferred. -/
theorem preferred_cons_iff : Preferred (c :: configs) head d ↔
    (Preferred configs head d ∧ (c.Meets head → c.priority < d.priority)) ∨
      (d = c ∧ c.Meets head ∧ ∀ e ∈ configs, e.Meets head → e.priority ≤ c.priority) := by
  constructor
  · rintro ⟨before, after, split, meets, highest, first⟩
    have others : ∀ e ∈ configs, e.Meets head → e.priority ≤ d.priority :=
      fun e mem ↦ highest e (List.mem_cons_of_mem c mem)
    cases before with
    | nil =>
      obtain ⟨rfl, rfl⟩ := List.cons.inj split
      exact .inr ⟨rfl, meets, others⟩
    | cons e before =>
      obtain ⟨rfl, rfl⟩ := List.cons.inj split
      refine .inl ⟨⟨before, after, rfl, meets, others, fun e mem ↦ ?_⟩, fun met ↦ ?_⟩
      · exact first e (List.mem_cons_of_mem c mem)
      · exact Nat.lt_of_le_of_ne (highest c List.mem_cons_self met)
          (first c List.mem_cons_self met)
  · rintro (⟨⟨before, after, rfl, meets, highest, first⟩, lower⟩ | ⟨rfl, meets, highest⟩)
    · refine ⟨c :: before, after, rfl, meets, fun e mem met ↦ ?_, fun e mem met ↦ ?_⟩
      · rcases List.mem_cons.mp mem with rfl | mem
        · exact Nat.le_of_lt (lower met)
        · exact highest e mem met
      · rcases List.mem_cons.mp mem with rfl | mem
        · exact Nat.ne_of_lt (lower met)
        · exact first e mem met
    · refine ⟨[], configs, rfl, meets, fun e mem met ↦ ?_, nofun⟩
      rcases List.mem_cons.mp mem with rfl | mem
      · exact Nat.le_refl e.priority
      · exact highest e mem met

/-- Preference depends on the order of configurations of equal priority only. -/
theorem preferred_congr (h : ∀ n, (others.filter fun d ↦ d.priority = n) =
    configs.filter fun d ↦ d.priority = n) :
    Preferred others head c ↔ Preferred configs head c := by
  have members : ∀ d, d ∈ others ↔ d ∈ configs := by
    intro d
    have same : d ∈ (others.filter fun e ↦ e.priority = d.priority) ↔
        d ∈ configs.filter fun e ↦ e.priority = d.priority := by rw [h]
    simpa only [List.mem_filter, decide_true, and_true] using same
  rw [preferred_iff ⟨0⟩, preferred_iff ⟨0⟩, h]
  simp only [members]

/-- A configuration whose conditions are not met does not count. -/
theorem preferred_append_cons_iff (h : ¬ c.Meets head) :
    Preferred (before ++ c :: after) head d ↔ Preferred (before ++ after) head d := by
  have passed : (Route.ofConfig ⟨0⟩ c).accepts head = false :=
    Bool.eq_false_iff.mpr fun met ↦ h (Route.accepts_ofConfig_iff.mp met)
  have members : (∀ e ∈ before ++ c :: after, e.Meets head → e.priority ≤ d.priority) ↔
      ∀ e ∈ before ++ after, e.Meets head → e.priority ≤ d.priority := by
    simp only [List.forall_mem_append, List.forall_mem_cons, h, false_implies, true_and]
  rw [preferred_iff ⟨0⟩, preferred_iff ⟨0⟩, members, List.find?_filter, List.find?_filter,
    List.find?_append, List.find?_append, List.find?_cons_of_neg (by simp [passed])]

/-- No more than one configuration is preferred. -/
theorem Preferred.unique (h : Preferred configs head c) (other : Preferred configs head d) :
    c = d := by
  have found := ((preferred_iff ⟨0⟩).mp h).2
  have found' := ((preferred_iff ⟨0⟩).mp other).2
  obtain ⟨before, after, split, meets, highest, -⟩ := h
  obtain ⟨before', after', split', meets', highest', -⟩ := other
  have here : c ∈ configs := split ▸ List.mem_append_right before List.mem_cons_self
  have there : d ∈ configs := split' ▸ List.mem_append_right before' List.mem_cons_self
  have same : c.priority = d.priority :=
    Nat.le_antisymm (highest' c here meets) (highest d there meets')
  rw [same, found'] at found
  exact (Option.some.inj found).symm

end RouteConfig

namespace RouteTable

open RouteConfig

variable (configs : List RouteConfig) (timeout : Duration) (head : RequestHead)

private theorem priority_trans (a b c : Route) (first : decide (b.priority ≤ a.priority) = true)
    (second : decide (c.priority ≤ b.priority) = true) :
    decide (c.priority ≤ a.priority) = true := by
  rw [decide_eq_true_eq] at first second ⊢
  exact Nat.le_trans second first

private theorem priority_total (a b : Route) :
    (decide (b.priority ≤ a.priority) || decide (a.priority ≤ b.priority)) = true := by
  rw [Bool.or_eq_true, decide_eq_true_eq, decide_eq_true_eq]
  exact Nat.le_total b.priority a.priority

/-- The route of one more configuration in front comes behind those of higher priority and before
all others. -/
theorem exists_ofConfig_cons (c : RouteConfig) : ∃ front back,
    (ofConfig (c :: configs) timeout).routes = front ++ Route.ofConfig timeout c :: back ∧
      (ofConfig configs timeout).routes = front ++ back ∧
      (∀ r ∈ front, c.priority < r.priority) ∧ ∀ r ∈ back, r.priority ≤ c.priority := by
  obtain ⟨front, back, whole, rest, higher⟩ := List.mergeSort_cons priority_trans priority_total
    (Route.ofConfig timeout c) (configs.map (Route.ofConfig timeout))
  have sorted := List.pairwise_mergeSort priority_trans priority_total
    (Route.ofConfig timeout c :: configs.map (Route.ofConfig timeout))
  rw [whole] at sorted
  refine ⟨front, back, whole, rest, fun r mem ↦ ?_, fun r mem ↦ ?_⟩
  · have above := higher r mem
    rw [Bool.not_eq_true', decide_eq_false_iff_not] at above
    exact Nat.not_le.mp above
  · exact of_decide_eq_true
      (List.rel_of_pairwise_cons (List.pairwise_append.mp sorted).2.1 mem)

/-- One more configuration in front is taken if its conditions are met, unless a route of higher
priority is found. -/
theorem find?_ofConfig_cons (c : RouteConfig) : (ofConfig (c :: configs) timeout).find? head =
    if (Route.ofConfig timeout c).accepts head then
      match (ofConfig configs timeout).find? head with
      | none => some (Route.ofConfig timeout c)
      | some r => some (if c.priority < r.priority then r else Route.ofConfig timeout c)
    else (ofConfig configs timeout).find? head := by
  obtain ⟨front, back, whole, rest, above, below⟩ := exists_ofConfig_cons configs timeout c
  unfold find?
  rw [whole, rest, List.find?_append, List.find?_append]
  split
  · next met =>
    have taken : (Route.ofConfig timeout c :: back).find? (fun r ↦ r.accepts head) =
        some (Route.ofConfig timeout c) := List.find?_cons_of_pos met
    rw [taken]
    cases inFront : front.find? fun r ↦ r.accepts head with
    | some r =>
      dsimp only [Option.or]
      rw [if_pos (above r (List.mem_of_find?_eq_some inFront))]
    | none =>
      cases behind : back.find? fun r ↦ r.accepts head with
      | some r =>
        dsimp only [Option.or]
        rw [if_neg (Nat.not_lt.mpr (below r (List.mem_of_find?_eq_some behind)))]
      | none => rfl
  · next refused =>
    have passed : (Route.ofConfig timeout c :: back).find? (fun r ↦ r.accepts head) =
        back.find? fun r ↦ r.accepts head := List.find?_cons_of_neg refused
    rw [passed]

/-- No route is found exactly when the conditions of no configuration are met. -/
theorem find?_ofConfig_eq_none_iff :
    (ofConfig configs timeout).find? head = none ↔ ∀ c ∈ configs, ¬ c.Meets head := by
  unfold find?
  rw [List.find?_eq_none]
  simp only [mem_routes_ofConfig_iff, forall_exists_index, and_imp, forall_apply_eq_imp_iff₂,
    Route.accepts_ofConfig_iff]

variable {configs timeout head}

/-- A route that is found is that of a preferred configuration. -/
theorem exists_preferred_of_find? {route : Route}
    (h : (ofConfig configs timeout).find? head = some route) :
    ∃ c, Preferred configs head c ∧ route = Route.ofConfig timeout c := by
  induction configs generalizing route with
  | nil =>
    rw [(find?_ofConfig_eq_none_iff [] timeout head).mpr nofun] at h
    cases h
  | cons c configs ih =>
    rw [find?_ofConfig_cons] at h
    split at h
    · next accepts =>
      have meets := Route.accepts_ofConfig_iff.mp accepts
      cases found : (ofConfig configs timeout).find? head with
      | none =>
        rw [found] at h
        have alone := (find?_ofConfig_eq_none_iff configs timeout head).mp found
        refine ⟨c, preferred_cons_iff.mpr (.inr ⟨rfl, meets, fun e mem met ↦ ?_⟩),
          (Option.some.inj h).symm⟩
        exact absurd met (alone e mem)
      | some r =>
        obtain ⟨d, preferred, rfl⟩ := ih found
        rw [found] at h
        have taken : (if c.priority < d.priority then Route.ofConfig timeout d
            else Route.ofConfig timeout c) = route := Option.some.inj h
        by_cases higher : c.priority < d.priority
        · rw [if_pos higher] at taken
          exact ⟨d, preferred_cons_iff.mpr (.inl ⟨preferred, fun _ ↦ higher⟩), taken.symm⟩
        · rw [if_neg higher] at taken
          obtain ⟨-, -, -, -, highest, -⟩ := preferred
          refine ⟨c, preferred_cons_iff.mpr (.inr ⟨rfl, meets, fun e mem met ↦ ?_⟩), taken.symm⟩
          exact Nat.le_trans (highest e mem met) (Nat.not_lt.mp higher)
    · next refused =>
      obtain ⟨d, preferred, rfl⟩ := ih h
      refine ⟨d, preferred_cons_iff.mpr (.inl ⟨preferred, fun met ↦ ?_⟩), rfl⟩
      exact absurd (Route.accepts_ofConfig_iff.mpr met) refused

/-- Found is the route of the preferred configuration. -/
theorem find?_ofConfig_eq_some_iff {route : Route} :
    (ofConfig configs timeout).find? head = some route ↔
      ∃ c, Preferred configs head c ∧ route = Route.ofConfig timeout c := by
  refine ⟨exists_preferred_of_find?, ?_⟩
  rintro ⟨c, preferred, rfl⟩
  cases found : (ofConfig configs timeout).find? head with
  | none =>
    obtain ⟨before, after, split, meets, -⟩ := preferred
    have here : c ∈ configs := split ▸ List.mem_append_right before List.mem_cons_self
    exact absurd meets ((find?_ofConfig_eq_none_iff configs timeout head).mp found c here)
  | some route =>
    obtain ⟨d, other, rfl⟩ := exists_preferred_of_find? found
    rw [preferred.unique other]

/-- Configurations that prefer alike have their routes found alike. -/
theorem find?_ofConfig_congr {others : List RouteConfig}
    (h : ∀ c, Preferred others head c ↔ Preferred configs head c) :
    (ofConfig others timeout).find? head = (ofConfig configs timeout).find? head := by
  apply Option.ext
  intro route
  rw [find?_ofConfig_eq_some_iff, find?_ofConfig_eq_some_iff]
  simp only [h]

/-- A table chooses among the routes of configurations by their conditions, their priority and their
order, in this sequence. -/
structure Chooses (configs : List RouteConfig) (timeout : Duration) (t : RouteTable) : Prop where
  /-- Found is the route of the preferred configuration. -/
  found : ∀ head route, t.find? head = some route ↔
    ∃ c, Preferred configs head c ∧ route = Route.ofConfig timeout c
  /-- No route is found where no conditions are met. -/
  missed : ∀ head, t.find? head = none ↔ ∀ c ∈ configs, ¬ c.Meets head
  /-- A request goes to the address and the method that are configured, within the configured time
  or else the default one. -/
  target : ∀ head route, t.find? head = some route → ∃ c, Preferred configs head c ∧
    route.target.address = c.target ∧ route.target.method = c.method ∧
    (∀ ms, c.timeoutMs = some ms → route.target.timeout = ⟨ms⟩) ∧
    (c.timeoutMs = none → route.target.timeout = timeout)
  /-- Configurations may be moved past those of other priorities. -/
  moved : ∀ others : List RouteConfig,
    (∀ n, (others.filter fun c ↦ c.priority = n) = configs.filter fun c ↦ c.priority = n) →
    ∀ head, (ofConfig others timeout).find? head = t.find? head
  /-- A configuration whose conditions are not met may be added anywhere. -/
  added : ∀ before after c head, configs = before ++ after → ¬ c.Meets head →
    (ofConfig (before ++ c :: after) timeout).find? head = t.find? head
  /-- Each configuration has its route, and each route its configuration. -/
  whole : t.routes.Perm (configs.map (Route.ofConfig timeout))

/-- The table of configured routes chooses by conditions, priority and order. -/
theorem chooses_ofConfig (configs : List RouteConfig) (timeout : Duration) :
    Chooses configs timeout (ofConfig configs timeout) where
  found _ _ := find?_ofConfig_eq_some_iff
  missed head := find?_ofConfig_eq_none_iff configs timeout head
  target head route h := by
    obtain ⟨c, preferred, rfl⟩ := exists_preferred_of_find? h
    refine ⟨c, preferred, rfl, rfl, fun ms limited ↦ ?_, fun unlimited ↦ ?_⟩
    · simp only [Route.ofConfig, limited, Option.map_some, Option.getD_some]
    · simp only [Route.ofConfig, unlimited, Option.map_none, Option.getD_none]
  moved _ same _ := find?_ofConfig_congr fun _ ↦ preferred_congr same
  added _ _ _ _ split unmet :=
    find?_ofConfig_congr fun _ ↦ split ▸ preferred_append_cons_iff unmet
  whole := List.mergeSort_perm _ _

end RouteTable
end HttpGateway
