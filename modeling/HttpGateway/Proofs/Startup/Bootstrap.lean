import HttpGateway.Proofs.Lifecycle.OneRelay
import HttpGateway.Proofs.Startup.Registration
import HttpGateway.Proofs.Startup.Validation
import HttpGateway.Proofs.Traversal
import HttpGateway.Rehearsal.Offline

/-!
# Starting from a valid configuration

What validation has seen is not refused later: the numbers of a valid configuration are statuses,
and its success statuses are all new. So a start fails for two reasons only, an error code that is
mapped already and a route of a protocol that is not built in, and in this order. A gateway that
starts maps what is configured and what it starts from, and finds a handler for each of its routes.
-/

namespace HttpGateway

namespace Config

/-- The codes that are configured. -/
def codes (c : Config) : List ResultCode := c.errorCodes.map fun entry ↦ ⟨entry.code⟩

/-- What a valid configuration says about statuses. -/
theorem statuses_of_isValid {c : Config} (valid : c.isValid = true) :
    (∀ entry ∈ c.errorCodes, isStatus entry.httpStatus = true) ∧ c.successStatuses.Nodup ∧
      ∀ n ∈ c.successStatuses, isStatus n = true ∧ n ≠ 200 := by
  have conforms := isValid_iff.mp valid
  refine ⟨fun entry mem ↦ isStatus_iff.mpr (conforms.codes entry mem), conforms.once, ?_⟩
  intro n mem
  obtain ⟨inside, unusual⟩ := conforms.statuses n mem
  exact ⟨isStatus_iff.mpr inside, unusual⟩

end Config

namespace Hook

variable {σ : Type}

/-- A number that may be configured as a status is one. -/
theorem exists_statusOf {n : Nat} (h : Config.isStatus n = true) :
    ∃ status, statusOf n = .ok status := by
  simp only [Config.isStatus, Bool.and_eq_true, decide_eq_true_eq] at h
  refine ⟨⟨n, by omega⟩, ?_⟩
  unfold statusOf Status.ofNat?
  rw [dif_pos (by omega)]

/-- The status of a number has this number. -/
theorem code_of_statusOf {n : Nat} {status : Status} (h : statusOf n = .ok status) :
    status.code = n := by
  unfold statusOf Status.ofNat? at h
  split at h
  · next made =>
    split at made
    · cases made
      cases h
      rfl
    · cases made
  · cases h

/-- The hook of a valid configuration registers the codes and statuses that are configured. -/
theorem exists_ofConfig {c : Config} (valid : c.isValid = true) :
    ∃ codes success, (ofConfig c : Except GatewayError (Hook σ)) = .ok (errorCodes codes success) ∧
      codes.map (fun e ↦ (e.1, e.2.code)) =
        c.errorCodes.map (fun entry ↦ (⟨entry.code⟩, entry.httpStatus)) ∧
      success.map Status.code = c.successStatuses := by
  obtain ⟨entries, -, numbers⟩ := Config.statuses_of_isValid valid
  let pairOf (entry : ErrorCodeConfig) : Except GatewayError (ResultCode × Status) :=
    return (⟨entry.code⟩, ← statusOf entry.httpStatus)
  have pairs : ∃ codes, c.errorCodes.mapM pairOf = .ok codes := by
    rw [Traversal.exists_mapM_eq_ok_iff]
    intro entry mem
    obtain ⟨status, h⟩ := exists_statusOf (entries entry mem)
    refine ⟨(⟨entry.code⟩, status), ?_⟩
    simp only [pairOf, h]
    rfl
  have statuses : ∃ success, c.successStatuses.mapM statusOf = .ok success := by
    rw [Traversal.exists_mapM_eq_ok_iff]
    exact fun n mem ↦ exists_statusOf (numbers n mem).1
  obtain ⟨codes, madeCodes⟩ := pairs
  obtain ⟨success, madeSuccess⟩ := statuses
  refine ⟨codes, success, ?_, ?_, ?_⟩
  · change (c.errorCodes.mapM pairOf >>= fun codes ↦ _) = _
    rw [madeCodes]
    change (c.successStatuses.mapM statusOf >>= fun success ↦ _) = _
    rw [madeSuccess]
    rfl
  · apply Traversal.map_of_mapM madeCodes
    intro entry _ pair h
    simp only [pairOf] at h
    cases found : statusOf entry.httpStatus with
    | error e => rw [found] at h; cases h
    | ok status =>
      rw [found] at h
      cases h
      exact congrArg (Prod.mk _) (code_of_statusOf found)
  · exact (Traversal.map_of_mapM madeSuccess fun n _ status ↦ code_of_statusOf).trans
      (List.map_id _)

/-- The hook makes the mapping with all codes and statuses, if they are taken. -/
theorem setup_errorCodes_of_ok {codes : List (ResultCode × Status)} {success : List Status}
    {m coded made : StatusMapping} (h : m.registerCodes codes = .ok coded)
    (h' : coded.registerSuccesses success = .ok made) (world : σ) :
    (errorCodes codes success).setup (m, world) = .ok () (made, world) := by
  have first := forM_register_of_ok h world
  have second := forM_register_of_ok h' world
  exact (bind_of_ok first).trans second

/-- The hook fails if a code is refused. -/
theorem setup_errorCodes_of_error {codes : List (ResultCode × Status)} {m : StatusMapping}
    {refusal : StatusMapping.Refusal} (h : m.registerCodes codes = .error refusal)
    (success : List Status) (world : σ) :
    ∃ left, (errorCodes codes success).setup (m, world) = .error refusal.error (left, world) := by
  obtain ⟨left, first⟩ := forM_register_of_error h world
  exact ⟨left, bind_of_error first⟩

end Hook

namespace Assembly

variable {σ : Type} {a : Assembly σ} {hook : Hook σ} {world : σ}

/-- A gateway of one hook is built if the hook sets up. -/
theorem build_of_ok (hooks : a.hooks = [hook]) {made : StatusMapping}
    (h : hook.setup (.initial, world) = .ok () (made, world)) :
    a.build world =
      (.ok ⟨table a.handlers, made.close, table a.transports, a.hooks, a.count⟩, world) := by
  have one : a.hooks.forM Hook.setup (.initial, world) = .ok () (made, world) := by
    rw [hooks]
    exact Hook.bind_of_ok h
  unfold build
  simp only [EStateM.run, one]

/-- A gateway of one hook is not built if the hook fails. -/
theorem build_of_error (hooks : a.hooks = [hook]) {left : StatusMapping} {e : GatewayError}
    (h : hook.setup (.initial, world) = .error e (left, world)) :
    a.build world = (.error e, world) := by
  have one : a.hooks.forM Hook.setup (.initial, world) = .error e (left, world) := by
    rw [hooks]
    exact Hook.bind_of_error h
  unfold build
  simp only [EStateM.run, one]

end Assembly

/-- The protocols of a table are accepted if all of them are registered. -/
theorem checkProtocols_of_known {registered : List String} {routes : RouteTable}
    (h : ∀ route ∈ routes.routes, route.protocol ∈ registered) :
    checkProtocols registered routes = .ok () := by
  have none_ : (routes.protocols.find? fun protocol ↦ !registered.contains protocol) = none := by
    rw [List.find?_eq_none]
    intro protocol mem
    obtain ⟨route, listed, rfl⟩ := RouteTable.mem_protocols_iff.mp mem
    simp [h route listed]
  unfold checkProtocols
  rw [none_]

/-- A route of a table is refused if not all of their protocols are registered. -/
theorem checkProtocols_of_unknown {registered : List String} {routes : RouteTable}
    (h : ¬ ∀ route ∈ routes.routes, route.protocol ∈ registered) :
    ∃ route ∈ routes.routes, route.protocol ∉ registered ∧
      checkProtocols registered routes = .error (unregistered route.protocol) := by
  unfold checkProtocols
  cases found : routes.protocols.find? fun protocol ↦ !registered.contains protocol with
  | none =>
    rw [List.find?_eq_none] at found
    refine absurd (fun route mem ↦ ?_) h
    have known := found route.protocol (RouteTable.mem_protocols_iff.mpr ⟨route, mem, rfl⟩)
    simpa using known
  | some protocol =>
    obtain ⟨route, mem, rfl⟩ := RouteTable.mem_protocols_iff.mp (List.mem_of_find?_eq_some found)
    have unknown := List.find?_some found
    exact ⟨route, mem, by simpa using unknown, rfl⟩

/-- The names of the built-in protocols. -/
def builtinNames : List String := ["http", "rpc", "grpc", "raw"]

/-- The built-in protocols are registered, and no others. -/
theorem mem_names_builtin {σ χ : Type} (net : Networks σ χ) (config : Config) (name : String) :
    name ∈ (Assembly.table (builtinHandlers net config)).names ↔ name ∈ builtinNames := by
  rw [Registry.mem_names_iff]
  unfold Assembly.table builtinHandlers builtinNames
  simp only [List.foldl_cons, List.foldl_nil, Registry.find?_register, Registry.find?_empty,
    List.mem_cons, List.not_mem_nil, or_false]
  by_cases raw : name = "raw"
  · simp [raw]
  · by_cases grpc : name = "grpc"
    · simp [grpc]
    · by_cases rpc : name = "rpc"
      · simp [rpc]
      · by_cases http : name = "http" <;> simp [raw, grpc, rpc, http]

namespace Config

/-- No two configured codes are equal, and none of them is mapped from the start. -/
def HasFreeCodes (c : Config) : Prop :=
  c.codes.Nodup ∧ ∀ code ∈ c.codes, code ∉ StatusMapping.seed.map Prod.fst

/-- Each route names a built-in protocol. -/
def NamesBuiltin (c : Config) : Prop := ∀ route ∈ c.routes, route.protocol ∈ builtinNames

instance (c : Config) : Decidable c.HasFreeCodes := inferInstanceAs (Decidable (_ ∧ _))

instance (c : Config) : Decidable c.NamesBuiltin :=
  inferInstanceAs (Decidable (∀ route ∈ c.routes, _))

/-- Pairs that are those of a configuration are pairs of its codes. -/
theorem map_fst_of_pairs {c : Config} {codes : List (ResultCode × Status)}
    (pairs : codes.map (fun e ↦ (e.1, e.2.code)) =
      c.errorCodes.map fun entry ↦ (⟨entry.code⟩, entry.httpStatus)) :
    codes.map Prod.fst = c.codes := by
  have firsts := congrArg (List.map Prod.fst) pairs
  rwa [List.map_map, List.map_map] at firsts

/-- Codes are free on the mapping that a gateway starts with if the configuration says so. -/
theorem areFree_iff {c : Config} {codes : List (ResultCode × Status)}
    (h : codes.map Prod.fst = c.codes) :
    StatusMapping.initial.AreFree codes ↔ c.HasFreeCodes := by
  unfold StatusMapping.AreFree HasFreeCodes
  rw [← h]
  refine and_congr_right fun _ ↦ ?_
  simp only [List.forall_mem_map]
  exact forall_congr' fun e ↦ imp_congr_right fun _ ↦ StatusMapping.lookup_eq_none_iff

end Config

/-- The route table of a configuration. -/
def tableOf (config : Config) : RouteTable :=
  .ofConfig config.routes ⟨config.timeouts.callTimeoutMs⟩

/-- The routes of the table name built-in protocols if the configured ones do. -/
theorem forall_protocol_tableOf_iff (config : Config) :
    (∀ route ∈ (tableOf config).routes, route.protocol ∈ builtinNames) ↔ config.NamesBuiltin := by
  unfold tableOf
  simp only [RouteTable.mem_routes_ofConfig_iff, forall_exists_index, and_imp,
    forall_apply_eq_imp_iff₂]
  exact Iff.rfl

/-- A mapping says of codes and statuses what a configuration says of them, and of other codes what
every mapping says from the start. -/
structure StatusMapping.Follows (m : StatusMapping) (config : Config) : Prop where
  closed : m.isSealed = true
  configured : ∀ entry ∈ config.errorCodes, (m.httpStatus ⟨entry.code⟩).code = entry.httpStatus
  seeded : ∀ e ∈ seed, m.httpStatus e.1 = e.2
  other : ∀ code, code ∉ config.codes → code ∉ seed.map Prod.fst →
    m.httpStatus code = .internalServerError
  success : ∀ status, m.isSuccess status = true ↔
    status = .ok ∨ status.code ∈ config.successStatuses

/-- What was started follows its configuration: the mapping, the number of routes, and a handler for
each of them. -/
structure Bootstrapped.Follows {σ : Type} (b : Bootstrapped σ) (config : Config) : Prop where
  mapping : b.gateway.mapping.Follows config
  size : b.routes.size = config.routes.length
  found : ∀ route ∈ b.routes.routes,
    ∃ handler, b.gateway.registry.lookup route.protocol = .ok handler

namespace StatusMapping

/-- The mapping with all that is configured follows the configuration. -/
theorem follows_of_free {config : Config} (free : config.HasFreeCodes)
    {codes : List (ResultCode × Status)} {success : List Status}
    (pairs : codes.map (fun e ↦ (e.1, e.2.code)) =
      config.errorCodes.map fun entry ↦ (⟨entry.code⟩, entry.httpStatus))
    (numbers : success.map Status.code = config.successStatuses) :
    Follows ⟨seed ++ codes, [.ok] ++ success, true⟩ config := by
  have names := Config.map_fst_of_pairs pairs
  -- No code comes twice, neither in front nor behind, so each has the status that it came with.
  have nodup : ((seed ++ codes).map Prod.fst).Nodup := by
    rw [List.map_append, names, List.nodup_append]
    refine ⟨by decide, free.1, fun code inSeed other mem same ↦ ?_⟩
    exact free.2 other mem (same ▸ inSeed)
  have status : ∀ e ∈ seed ++ codes,
      httpStatus ⟨seed ++ codes, [.ok] ++ success, true⟩ e.1 = e.2 := by
    intro e mem
    unfold httpStatus lookup?
    rw [lookup_of_mem nodup mem]
    rfl
  constructor
  case closed => rfl
  case configured =>
    intro entry mem
    have listed : (⟨entry.code⟩, entry.httpStatus) ∈ codes.map fun e ↦ (e.1, e.2.code) :=
      pairs ▸ List.mem_map_of_mem mem
    obtain ⟨e, inside, same⟩ := List.mem_map.mp listed
    obtain ⟨code, number⟩ := Prod.mk.inj same
    rw [← code, status e (List.mem_append_right seed inside)]
    exact number
  case seeded => exact fun e mem ↦ status e (List.mem_append_left codes mem)
  case other =>
    intro code unconfigured unseeded
    unfold httpStatus lookup?
    rw [lookup_eq_none_iff.mpr]
    · rfl
    · rw [List.map_append, names, List.mem_append, not_or]
      exact ⟨unseeded, unconfigured⟩
  case success =>
    intro s
    have inSuccess : s ∈ success ↔ s.code ∈ config.successStatuses := by
      rw [← numbers, List.mem_map]
      constructor
      · exact fun mem ↦ ⟨s, mem, rfl⟩
      · rintro ⟨s', mem, same⟩
        cases s
        cases s'
        cases same
        exact mem
    unfold isSuccess
    rw [List.contains_eq_mem, decide_eq_true_eq, List.mem_append, List.mem_singleton, inSuccess]

/-- Behind free codes, the success statuses of a valid configuration are all taken. -/
theorem registerSuccesses_of_isValid {config : Config} (valid : config.isValid = true)
    {success : List Status} (numbers : success.map Status.code = config.successStatuses)
    (codes : List (ResultCode × Status)) :
    registerSuccesses ⟨codes, [.ok], false⟩ success = .ok ⟨codes, [.ok] ++ success, false⟩ := by
  obtain ⟨-, nodup, new⟩ := Config.statuses_of_isValid valid
  apply registerSuccesses_of_free rfl
  · rw [← numbers] at nodup
    exact List.Pairwise.of_map Status.code
      (fun a b different same ↦ different (congrArg Status.code same)) nodup
  · intro status mem
    have number := (new status.code (numbers ▸ List.mem_map_of_mem mem)).2
    have different : status ≠ .ok := fun same ↦ number (congrArg Status.code same)
    unfold isSuccess
    simpa using different

end StatusMapping

section

variable {σ χ : Type} (net : Networks σ χ) {config : Config} (valid : config.isValid = true)
  (world : σ)
include valid

/-- With free codes a valid configuration makes a gateway, and its routes decide. -/
theorem bootstrap_of_hasFreeCodes (free : config.HasFreeCodes) :
    ∃ g : Gateway σ, g.registry = Assembly.table (builtinHandlers net config) ∧
      g.mapping.Follows config ∧
      (checkProtocols g.registry.names (tableOf config) = .ok () →
        (bootstrap net config world).1 = .ok ⟨g, tableOf config⟩) ∧
      ∀ e, checkProtocols g.registry.names (tableOf config) = .error e →
        (bootstrap net config world).1 = .error e := by
  obtain ⟨codes, success, made, pairs, numbers⟩ := Hook.exists_ofConfig (σ := σ) valid
  have names := Config.map_fst_of_pairs pairs
  have coded := StatusMapping.registerCodes_of_areFree rfl ((Config.areFree_iff names).mpr free)
  have setUp := Hook.setup_errorCodes_of_ok coded
    (StatusMapping.registerSuccesses_of_isValid valid numbers _) world
  let a : Assembly σ :=
    ⟨builtinHandlers net config, [], [Hook.errorCodes codes success], net.pool.count⟩
  let g : Gateway σ := ⟨Assembly.table a.handlers,
    ⟨StatusMapping.seed ++ codes, [.ok] ++ success, true⟩, Assembly.table a.transports, a.hooks,
    a.count⟩
  have built : a.build world = (.ok g, world) := Assembly.build_of_ok rfl setUp
  have same : bootstrap net config world = a.bootstrap config world := by
    unfold bootstrap
    rw [made]
  refine ⟨g, rfl, StatusMapping.follows_of_free free pairs numbers, fun known ↦ ?_,
    fun e refused ↦ ?_⟩
  · rw [same]
    unfold tableOf at known ⊢
    simp only [Assembly.bootstrap, built, known]
  · rw [same]
    unfold tableOf at refused
    simp only [Assembly.bootstrap, built, refused]

/-- Without free codes a valid configuration is refused for one of its codes. -/
theorem bootstrap_of_not_hasFreeCodes (taken : ¬ config.HasFreeCodes) :
    ∃ code ∈ config.codes, ∃ existing : Status, (bootstrap net config world).1 = .error
      ⟨.config, .unknown, "code " ++ code.text ++ " already mapped to " ++ existing.text⟩ := by
  obtain ⟨codes, success, made, pairs, numbers⟩ := Hook.exists_ofConfig (σ := σ) valid
  have names := Config.map_fst_of_pairs pairs
  obtain ⟨front, e, rest, existing, split, -, refused⟩ :=
    StatusMapping.registerCodes_of_not_areFree rfl (mt (Config.areFree_iff names).mp taken)
  obtain ⟨left, failed⟩ := Hook.setup_errorCodes_of_error refused success world
  let a : Assembly σ :=
    ⟨builtinHandlers net config, [], [Hook.errorCodes codes success], net.pool.count⟩
  have built := Assembly.build_of_error (a := a) rfl failed
  refine ⟨e.1, ?_, existing, ?_⟩
  · rw [← names, split]
    exact List.mem_map_of_mem (List.mem_append_right front List.mem_cons_self)
  · unfold bootstrap
    rw [made]
    change (a.bootstrap config world).1 = _
    unfold Assembly.bootstrap
    rw [built]
    rfl

/-- With free codes and known protocols a valid configuration starts, and is followed. -/
theorem bootstrap_of_namesBuiltin (free : config.HasFreeCodes) (known : config.NamesBuiltin) :
    ∃ b, (bootstrap net config world).1 = .ok b ∧ b.Follows config := by
  obtain ⟨g, registry, mapping, starts, -⟩ := bootstrap_of_hasFreeCodes net valid world free
  have registered : ∀ route ∈ (tableOf config).routes, route.protocol ∈ g.registry.names := by
    intro route mem
    rw [registry, mem_names_builtin]
    exact (forall_protocol_tableOf_iff config).mpr known route mem
  refine ⟨⟨g, tableOf config⟩, starts (checkProtocols_of_known registered), mapping,
    RouteTable.size_ofConfig _ _, ?_⟩
  exact fun route mem ↦ Registry.exists_lookup_iff.mpr (registered route mem)

/-- With free codes but an unknown protocol a valid configuration is refused for a route. -/
theorem bootstrap_of_not_namesBuiltin (free : config.HasFreeCodes)
    (unknown : ¬ config.NamesBuiltin) :
    ∃ route ∈ config.routes, route.protocol ∉ builtinNames ∧ (bootstrap net config world).1 =
      .error ⟨.config, .unsupportedProtocol,
        "route uses unregistered protocol " ++ route.protocol⟩ := by
  obtain ⟨g, registry, -, -, refuses⟩ := bootstrap_of_hasFreeCodes net valid world free
  have unregistered_ :
      ¬ ∀ route ∈ (tableOf config).routes, route.protocol ∈ g.registry.names := by
    intro registered
    refine unknown ((forall_protocol_tableOf_iff config).mp fun route mem ↦ ?_)
    rw [← mem_names_builtin net config, ← registry]
    exact registered route mem
  obtain ⟨route, mem, absent, refused⟩ := checkProtocols_of_unknown unregistered_
  obtain ⟨c, configured, rfl⟩ := RouteTable.mem_routes_ofConfig_iff.mp mem
  rw [registry, mem_names_builtin] at absent
  exact ⟨c, configured, absent, refuses _ refused⟩

omit world in
/-- The hook of a valid configuration is made, and its success statuses are taken if its codes
are. -/
theorem exists_registerSuccesses_of_isValid :
    ∃ codes success, (Hook.ofConfig config : Except GatewayError (Hook σ)) =
        .ok (Hook.errorCodes codes success) ∧
      ∀ coded, StatusMapping.initial.registerCodes codes = .ok coded →
        ∃ made, coded.registerSuccesses success = .ok made := by
  obtain ⟨codes, success, made, -, numbers⟩ := Hook.exists_ofConfig (σ := σ) valid
  refine ⟨codes, success, made, fun coded taken ↦ ?_⟩
  by_cases free : StatusMapping.initial.AreFree codes
  · rw [StatusMapping.registerCodes_of_areFree rfl free] at taken
    cases taken
    exact ⟨_, StatusMapping.registerSuccesses_of_isValid valid numbers _⟩
  · obtain ⟨-, e, -, existing, -, -, refused⟩ :=
      StatusMapping.registerCodes_of_not_areFree rfl free
    rw [refused] at taken
    cases taken

/-- A valid configuration starts if and only if no two of its error codes are equal, none of them is
mapped from the start, and each route names a built-in protocol; what is started follows it. If a
code is not free, a code is what is reported, whatever the routes name; otherwise it is a route of
an unregistered protocol. No number that was accepted as a status is refused, and no success status
is refused at all. -/
theorem bootstrap_of_isValid :
    ((∃ b, (bootstrap net config world).1 = .ok b) ↔
      config.HasFreeCodes ∧ config.NamesBuiltin) ∧
    (∀ b, (bootstrap net config world).1 = .ok b → b.Follows config) ∧
    (¬ config.HasFreeCodes → ∃ code ∈ config.codes, ∃ existing : Status,
      (bootstrap net config world).1 = .error
        ⟨.config, .unknown, "code " ++ code.text ++ " already mapped to " ++ existing.text⟩) ∧
    (config.HasFreeCodes → ¬ config.NamesBuiltin →
      ∃ route ∈ config.routes, route.protocol ∉ builtinNames ∧
        (bootstrap net config world).1 = .error ⟨.config, .unsupportedProtocol,
          "route uses unregistered protocol " ++ route.protocol⟩) ∧
    ∃ codes success, (Hook.ofConfig config : Except GatewayError (Hook σ)) =
        .ok (Hook.errorCodes codes success) ∧
      ∀ coded, StatusMapping.initial.registerCodes codes = .ok coded →
        ∃ made, coded.registerSuccesses success = .ok made := by
  have taken := bootstrap_of_not_hasFreeCodes net valid world
  have known := bootstrap_of_namesBuiltin net valid world
  have unknown := bootstrap_of_not_namesBuiltin net valid world
  have starts : ∀ b, (bootstrap net config world).1 = .ok b →
      config.HasFreeCodes ∧ config.NamesBuiltin := by
    intro b h
    by_cases free : config.HasFreeCodes
    · refine ⟨free, Decidable.byContradiction fun names ↦ ?_⟩
      obtain ⟨route, -, -, refused⟩ := unknown free names
      rw [refused] at h
      cases h
    · obtain ⟨code, -, existing, refused⟩ := taken free
      rw [refused] at h
      cases h
  refine ⟨⟨?_, ?_⟩, ?_, taken, unknown, exists_registerSuccesses_of_isValid valid⟩
  · exact fun ⟨b, h⟩ ↦ starts b h
  · rintro ⟨free, names⟩
    obtain ⟨b, h, -⟩ := known free names
    exact ⟨b, h⟩
  · intro b h
    obtain ⟨free, names⟩ := starts b h
    obtain ⟨b', h', follows⟩ := known free names
    rw [h] at h'
    cases h'
    exact follows

end

/-- A configuration with codes and statuses of its own and routes of two protocols. -/
def twoServices : Config where
  routes := [⟨"web", none, none, 1, "http", "127.0.0.1:3000", none, none⟩,
    ⟨"orders", none, none, 5, "grpc", "127.0.0.1:50051", none, some 20⟩]
  errorCodes := [⟨-7, 418⟩, ⟨500, 503⟩]
  successStatuses := [201, 404]

/-- The same with a route of a protocol that is not built in. -/
def oldService : Config :=
  { twoServices with routes := [⟨"old", none, none, 0, "thrift", "a:1", none, none⟩] }

/-- The same with a code that is mapped from the start as well. -/
def oldServiceOfCode : Config := { oldService with errorCodes := [⟨21, 400⟩] }

/-- The first of these configurations starts and is followed. The second is refused for its route,
and the last for its code, whatever its route. -/
theorem bootstrap_twoServices :
    (∃ b, (bootstrap Offline.networks twoServices .fresh).1 = .ok b ∧
      (b.gateway.mapping.httpStatus ⟨-7⟩).code = 418 ∧
      b.gateway.mapping.httpStatus .serverTimeout = .gatewayTimeout ∧
      b.gateway.mapping.httpStatus ⟨8⟩ = .internalServerError ∧
      b.gateway.mapping.isSuccess .notFound = true ∧ b.routes.size = 2) ∧
    (bootstrap Offline.networks oldService .fresh).1 =
      .error ⟨.config, .unsupportedProtocol, "route uses unregistered protocol thrift"⟩ ∧
    ∃ existing : Status, (bootstrap Offline.networks oldServiceOfCode .fresh).1 =
      .error ⟨.config, .unknown,
        "code " ++ ResultCode.serverTimeout.text ++ " already mapped to " ++ existing.text⟩ := by
  have valid : twoServices.isValid = true ∧ oldService.isValid = true ∧
      oldServiceOfCode.isValid = true := by decide
  refine ⟨?_, ?_, ?_⟩
  · obtain ⟨starts, follows, -⟩ := bootstrap_of_isValid Offline.networks valid.1 .fresh
    obtain ⟨b, h⟩ := starts.mpr ⟨by decide, by decide⟩
    obtain ⟨mapping, size, -⟩ := follows b h
    refine ⟨b, h, mapping.configured ⟨-7, 418⟩ List.mem_cons_self,
      mapping.seeded (.serverTimeout, .gatewayTimeout) (by decide),
      mapping.other _ (by decide) (by decide), ?_, size⟩
    exact (mapping.success .notFound).mpr (.inr (by decide))
  · obtain ⟨-, -, -, unknown, -⟩ := bootstrap_of_isValid Offline.networks valid.2.1 .fresh
    obtain ⟨route, mem, -, refused⟩ := unknown (by decide) (by decide)
    obtain rfl := List.mem_singleton.mp mem
    exact refused
  · obtain ⟨-, -, taken, -⟩ := bootstrap_of_isValid Offline.networks valid.2.2 .fresh
    obtain ⟨code, mem, existing, refused⟩ := taken (by decide)
    obtain rfl := List.mem_singleton.mp mem
    exact ⟨existing, refused⟩

end HttpGateway
