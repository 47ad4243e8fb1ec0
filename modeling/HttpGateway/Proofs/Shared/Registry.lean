import HttpGateway.Proofs.Metadata.Listing
import HttpGateway.Proofs.Shared.Serial
import HttpGateway.Proofs.Text.ByteOrder
import HttpGateway.Registry

/-!
# A registry that calls share

However registrations and questions come between each other, a name resolves to the handler that was
registered last under it, by the order in which the registrations had the lock. No registration is
lost: it settles its own name and no other, and a name that has been registered stays registered.
-/

namespace HttpGateway.Registry

open Shared (published)

variable {ι α : Type} {requests : ι → Request α} {r made : Registry α} {ids : List ι}
  {name other : String} {handler : α}

/-! ## Tables -/

/-- Looking up a name after a registration. -/
theorem lookup_register (r : Registry α) (name other : String) (handler : α) :
    (r.register name handler).lookup other =
      if other = name then .ok handler else r.lookup other := by
  unfold lookup
  rw [find?_register]
  by_cases same : other = name
  · rw [if_pos same, if_pos same]
  · rw [if_neg same, if_neg same]

/-- The names are listed once each, in the order of their bytes. -/
theorem pairwise_names (r : Registry α) :
    r.names.Pairwise fun a b ↦ Utf8.encode a < Utf8.encode b := by
  have nodup : r.names.Nodup :=
    (List.mergeSort_perm _ _).nodup_iff.mpr (Listing.nodup_eraseDups _)
  have ascending : r.names.Pairwise (· ≤ ·) := Listing.pairwise_mergeSort_le _
  refine (ascending.and nodup).imp ?_
  rintro a b ⟨upTo, different⟩
  exact Utf8.encode_lt_encode (Std.lt_of_le_of_ne upTo different)

/-- What a name resolves to by some registrations: the handler of the last one of this name. -/
inductive Resolves (requests : ι → Request α) (ids : List ι) (name : String) :
    Except GatewayError α → Prop
  | registered (before : List ι) (i : ι) (later : List ι) (handler : α) :
    ids = before ++ i :: later → requests i = .register name handler →
    (∀ j ∈ later, ∀ other, requests j ≠ .register name other) →
    Resolves requests ids name (.ok handler)
  | unregistered :
    (∀ i ∈ ids, ∀ handler, requests i ≠ .register name handler) →
    Resolves requests ids name
      (.error (.config .unsupportedProtocol ("unsupported protocol: " ++ name)))

/-- A registration of another name changes nothing for a name. -/
theorem Resolves.concat {found : Except GatewayError α} (h : Resolves requests ids name found)
    {i : ι} (others : ∀ handler, requests i ≠ .register name handler) :
    Resolves requests (ids ++ [i]) name found := by
  cases h with
  | registered before j later handler split own last =>
    subst split
    refine .registered before j (later ++ [i]) handler (by simp) own ?_
    rw [List.forall_mem_append]
    exact ⟨last, List.forall_mem_singleton.mpr others⟩
  | unregistered none_ =>
    apply Resolves.unregistered
    rw [List.forall_mem_append]
    exact ⟨none_, List.forall_mem_singleton.mpr others⟩

/-- A name resolves to a handler if one was registered under it. -/
theorem Resolves.exists_ok_iff {found : Except GatewayError α}
    (h : Resolves requests ids name found) :
    (∃ handler, found = .ok handler) ↔
      ∃ i ∈ ids, ∃ handler, requests i = .register name handler := by
  cases h with
  | registered before i later handler split own last =>
    have among : i ∈ ids := split ▸ List.mem_append_right before List.mem_cons_self
    exact ⟨fun _ ↦ ⟨i, among, handler, own⟩, fun _ ↦ ⟨handler, rfl⟩⟩
  | unregistered none_ =>
    exact ⟨nofun, fun ⟨i, among, handler, own⟩ ↦ absurd own (none_ i among handler)⟩

/-- What a change makes of a registry. -/
theorem exists_register_of_run {request : Request α} {body : Shared.Section (Registry α) Empty}
    (called : request.call = .change body) (run : body.run r = .ok made) :
    ∃ name handler, request = .register name handler ∧ made = r.register name handler := by
  cases request with
  | register name handler =>
    cases called
    exact ⟨name, handler, rfl, (Except.ok.inj run).symm⟩
  | lookup | names => cases called

/-! ## Histories -/

variable [DecidableEq ι] {events : List (Shared.Event ι)}
  {s t : Shared ι (Registry α) Empty (Answer α)}

/-- The registry that calls share after events, if each of them can happen in its turn. -/
def after? (requests : ι → Request α) (events : List (Shared.Event ι)) :
    Option (Shared ι (Registry α) Empty (Answer α)) :=
  Shared.after? (fun i ↦ (requests i).call) empty events

/-- At any time every name resolves to what was published last under it. -/
theorem resolves_of_after? (h : after? requests events = some s) (name : String) :
    Resolves requests (published events) name (s.now.lookup name) := by
  let resolved (ids : List ι) (r : Registry α) : Prop :=
    ∀ name, Resolves requests ids name (r.lookup name)
  refine Shared.holds_of_changes resolved ?_ ?_ h name
  · exact fun name ↦ .unregistered nofun
  · intro ids i body old new called holds run name
    obtain ⟨own, handler, request, rfl⟩ := exists_register_of_run called run
    rw [lookup_register]
    by_cases same : name = own
    · subst same
      rw [if_pos rfl]
      exact .registered ids i [] handler rfl request nofun
    · rw [if_neg same]
      refine (holds name).concat fun other mine ↦ same ?_
      rw [request] at mine
      cases mine
      rfl

/-- At any time the names are those under which something was published. -/
theorem mem_names_iff_of_after? (h : after? requests events = some s) (name : String) :
    name ∈ s.now.names ↔
      ∃ i handler, .publish i ∈ events ∧ requests i = .register name handler := by
  rw [← exists_lookup_iff, (resolves_of_after? h name).exists_ok_iff]
  simp only [Shared.mem_published_iff_publish_mem h, exists_and_left]

/-- Only a registration of a name changes what the name resolves to. -/
theorem lookup_concat {e : Shared.Event ι} (h : after? requests events = some s)
    (h' : after? requests (events ++ [e]) = some t)
    (others : ∀ i handler, e = .publish i → requests i ≠ .register name handler) :
    t.now.lookup name = s.now.lookup name := by
  obtain ⟨middle, before, happened⟩ := Shared.after?_concat_iff.mp h'
  obtain rfl : middle = s := Option.some.inj (before.symm.trans h)
  obtain ⟨-, same⟩ | ⟨i, body, publishes, called, run⟩ :=
    (Shared.recorded_of_after? before).change_of_move (Shared.move_of_step happened)
  · rw [same]
  · obtain ⟨own, handler, request, made⟩ := exists_register_of_run called run
    rw [made, lookup_register, if_neg]
    rintro rfl
    exact others i handler publishes request

/-- Whatever happens next, a name that resolves to a handler resolves to one. -/
theorem lookup_later {later : List (Shared.Event ι)} (h : after? requests events = some s)
    (h' : after? requests (events ++ later) = some t)
    (there : ∃ handler, s.now.lookup name = .ok handler) :
    ∃ handler, t.now.lookup name = .ok handler := by
  refine Shared.holds_later (fun r ↦ ∃ handler, r.lookup name = .ok handler) ?_ h h' there
  intro i body old new called found run
  obtain ⟨own, handler, -, rfl⟩ := exists_register_of_run called run
  rw [lookup_register]
  by_cases same : name = own
  · rw [if_pos same]
    exact ⟨handler, rfl⟩
  · rw [if_neg same]
    exact found

/-- A registry that calls share serves the handlers that were registered last. -/
structure ServesLast (requests : ι → Request α) (events : List (Shared.Event ι))
    (s : Shared ι (Registry α) Empty (Answer α)) : Prop where
  /-- At any time a name resolves to the handler that was registered last under it, of those that
  are published by then, in the order in which they had the lock. -/
  current : ∀ name, Resolves requests (published events) name (s.now.lookup name)
  /-- A question for a name is answered with what was published before it took its look. -/
  lookup : ∀ i name answer, requests i = .lookup name → s.phase i = .answered answer →
    ∃ before later found, events = before ++ .load i :: later ∧
      Resolves requests (published before) name found ∧ answer = .handler found
  /-- A question for the names is answered with those under which something was published by then,
  once each in the order of their bytes. -/
  names : ∀ i answer, requests i = .names → s.phase i = .answered answer →
    ∃ before later names, events = before ++ .load i :: later ∧
      (∀ name, name ∈ names ↔
        ∃ j handler, .publish j ∈ before ∧ requests j = .register name handler) ∧
      (names.Pairwise fun a b ↦ Utf8.encode a < Utf8.encode b) ∧ answer = .names names
  /-- A registration that has come to its end is published. -/
  registered : ∀ i result, s.phase i = .left result → .publish i ∈ events
  /-- Only a registration of a name changes what the name resolves to. -/
  others : ∀ e t, after? requests (events ++ [e]) = some t →
    ∀ name, (∀ i handler, e = .publish i → requests i ≠ .register name handler) →
      t.now.lookup name = s.now.lookup name
  /-- A name that is registered stays registered. -/
  lasting : ∀ later t, after? requests (events ++ later) = some t →
    ∀ name, (∃ handler, s.now.lookup name = .ok handler) →
      ∃ handler, t.now.lookup name = .ok handler

/-- However calls come between each other, a registry serves the handlers that were registered
last. -/
theorem servesLast_of_after? (h : after? requests events = some s) :
    ServesLast requests events s := by
  constructor
  case current => exact resolves_of_after? h
  case lookup =>
    intro i name answer own there
    obtain ⟨before, later, u, split, happened, rfl⟩ :=
      Shared.exists_load_of_answered h (congrArg Request.call own) there
    exact ⟨before, later, _, split, resolves_of_after? happened name, rfl⟩
  case names =>
    intro i answer own there
    obtain ⟨before, later, u, split, happened, rfl⟩ :=
      Shared.exists_load_of_answered h (congrArg Request.call own) there
    exact ⟨before, later, _, split, mem_names_iff_of_after? happened, pairwise_names _, rfl⟩
  case registered =>
    intro i result there
    apply (Shared.publish_mem_iff_of_left h there).mpr
    cases result with
    | ok => rfl
    | error e => cases e
  case others => exact fun e t h' name others ↦ lookup_concat h h' others
  case lasting => exact fun later t h' name there ↦ lookup_later h h' there

/-- Three registrations, two of one name, with questions between and behind them. -/
def overlap : Nat → Request Nat
  | 0 => .register "rpc" 10
  | 1 => .register "grpc" 11
  | 2 => .register "rpc" 12
  | 3 | 4 => .lookup "rpc"
  | 5 => .lookup "raw"
  | _ => .names

/-- The first question takes its look while the second registration of the name has the lock. -/
def overlapping : List (Shared.Event Nat) := [
  .lock 0, .look 0, .publish 0, .unlock 0, .lock 2, .look 2, .load 3, .publish 2, .answer 3,
  .unlock 2, .lock 1, .look 1, .load 4, .publish 1, .answer 4, .load 5, .unlock 1, .answer 5,
  .load 6, .answer 6]

/-- The questions are answered with the handler that was registered last before they looked, or with
the error that names the protocol; and no registration is lost. -/
theorem servesLast_overlapping : ∃ s, after? overlap overlapping = some s ∧
    s.phase 3 = .answered (.handler (.ok 10)) ∧ s.phase 4 = .answered (.handler (.ok 12)) ∧
    s.phase 5 = .answered (.handler (.error (.unsupportedProtocol "raw"))) ∧
    (∃ names, s.phase 6 = .answered (.names names) ∧
      names.Pairwise fun a b ↦ Utf8.encode a < Utf8.encode b) ∧
    .publish 0 ∈ overlapping ∧ Resolves overlap [0, 2, 1] "rpc" (.ok 12) := by
  have happened : after? overlap overlapping = some _ := rfl
  have serves := servesLast_of_after? happened
  obtain ⟨_, _, names, -, -, ascending, answer⟩ := serves.names 6 _ rfl rfl
  exact ⟨_, happened, rfl, rfl, rfl, ⟨names, congrArg Shared.Phase.answered answer, ascending⟩,
    serves.registered 0 _ rfl, serves.current "rpc"⟩

end HttpGateway.Registry
