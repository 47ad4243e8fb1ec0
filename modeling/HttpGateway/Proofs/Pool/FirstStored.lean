import HttpGateway.Proofs.Pool.Histories

/-!
# The first channel is kept

However requests come between each other, a pool keeps for each address the channel of the request
that came first to storing its own, and keeps it for good. Whoever looks up after that is given this
channel and does not dial; whoever has dialed uses its own channel, stored or not, or is told why
there is none; and what has failed or was given up leaves nothing behind.
-/

namespace HttpGateway.Grpc.ChannelPool

variable {χ : Type} {events : List (Event χ)} {p q : ChannelPool χ}

/-- No request for an address has come to storing its channel. -/
def Unstored (events : List (Event χ)) (address : String) : Prop :=
  ∀ i, Asks events i address → .store i ∉ events

/-- A channel was opened by the request for an address that came first to storing its own. -/
def FirstStored (events : List (Event χ)) (address : String) (channel : χ) : Prop :=
  ∃ before i later, events = before ++ .store i :: later ∧ Asks before i address ∧
    .dialed i (.ok channel) ∈ before ∧ Unstored before address

/-! ## Requests -/

/-- What a request asks for, it asks for ever after. -/
theorem Asks.append {i : Nat} {address : String} (h : Asks events i address)
    (later : List (Event χ)) : Asks (events ++ later) i address := by
  unfold Asks at h ⊢
  rw [List.filterMap_append, List.getElem?_append_left (List.getElem?_eq_some_iff.mp h).1]
  exact h

/-- A request asks for one address. -/
theorem Asks.unique {i : Nat} {a b : String} (ha : Asks events i a) (hb : Asks events i b) :
    a = b :=
  Option.some.inj (ha.symm.trans hb)

/-- A request in the pool asks for its address. -/
theorem Traced.asks (h : Traced events p) {i : Nat} {r : ChannelRequest χ}
    (there : p.requests[i]? = some r) : Asks events i r.address := by
  unfold Asks
  rw [← h.asked, List.getElem?_map, there]
  rfl

/-- A request that has taken a step is in the pool, on its course. -/
theorem Traced.course_of_mem (h : Traced events p) {e : Event χ} {i : Nat} (mem : e ∈ events)
    (own : e.request? = some i) : ∃ r, p.requests[i]? = some r ∧
      Course i r.phase (steps events i) ∧ e ∈ steps events i := by
  have taken : e ∈ steps events i := mem_steps_iff.mpr ⟨mem, own⟩
  cases there : p.requests[i]? with
  | none =>
    rw [h.unasked i there] at taken
    cases taken
  | some r => exact ⟨r, rfl, h.course i r there, taken⟩

/-- A request that has taken a step asks for what it asks for later. -/
theorem Traced.asks_of_mem (h : Traced events p) {e : Event χ} {i : Nat} {address : String}
    {later : List (Event χ)} (mem : e ∈ events) (own : e.request? = some i)
    (asks : Asks (events ++ later) i address) : Asks events i address := by
  obtain ⟨r, there, -⟩ := h.course_of_mem mem own
  obtain rfl := asks.unique ((h.asks there).append later)
  exact h.asks there

namespace Course

variable {i : Nat} {phase : Phase χ} {taken : List (Event χ)}

/-- Who has not begun has taken no step. -/
theorem of_asking (h : Course i .asking taken) : taken = [] := by
  cases h
  rfl

/-- Who has opened a channel uses it once it has come to storing it. -/
theorem of_opened (h : Course i phase taken) {channel : χ}
    (mem : .dialed i (.ok channel) ∈ taken) :
    (phase = .opened channel ∧ .store i ∉ taken) ∨
      (phase = .done (.ok channel) ∧ .store i ∈ taken) := by
  cases h with
  | opened channel' =>
    obtain rfl : channel = channel' := by simpa using mem
    exact .inl ⟨rfl, by simp⟩
  | stored channel' =>
    obtain rfl : channel = channel' := by simpa using mem
    exact .inr ⟨rfl, by simp⟩
  | asking | found | missed | dialing | failed | cancelled => simp at mem

/-- Who has opened a channel has opened one. -/
theorem opened_unique (h : Course i phase taken) {c c' : χ} (mem : .dialed i (.ok c) ∈ taken)
    (mem' : .dialed i (.ok c') ∈ taken) : c = c' := by
  cases h with
  | opened channel | stored channel =>
    obtain rfl : c = channel := by simpa using mem
    obtain rfl : c' = c := by simpa using mem'
    rfl
  | asking | found | missed | dialing | failed | cancelled => simp at mem

/-- Who has dialed has no result but that of its dial. -/
theorem of_dial (h : Course i phase taken) (mem : .dial i ∈ taken)
    {result : Except GatewayError χ} (done : phase = .done result) :
    .dialed i result ∈ taken := by
  cases h with
  | failed e =>
    cases done
    simp
  | stored channel =>
    cases done
    simp
  | found => simp at mem
  | asking | missed | dialing | opened | cancelled => cases done

/-- Who holds a channel that is not stored yet has opened it. -/
theorem dialed_of_opened {channel : χ} (h : Course i (.opened channel) taken) :
    .dialed i (.ok channel) ∈ taken := by
  cases h
  simp

/-- Who has failed is told why, and stores nothing. -/
theorem of_failed (h : Course i phase taken) {e : GatewayError}
    (mem : .dialed i (.error e) ∈ taken) : phase = .done (.error e) ∧ .store i ∉ taken := by
  cases h with
  | failed e' =>
    obtain rfl : e = e' := by simpa using mem
    exact ⟨rfl, by simp⟩
  | asking | found | missed | dialing | opened | stored | cancelled => simp at mem

/-- Who was cancelled stores nothing. -/
theorem of_cancel (h : Course i phase taken) (mem : .cancel i ∈ taken) : .store i ∉ taken := by
  cases h with
  | cancelled => simp
  | asking | found | missed | dialing | failed | opened | stored => simp at mem

end Course

/-! ## Channels -/

/-- A channel behind the stored ones is that of its address if there was none. -/
theorem channel?_of_stored {address : String} {channel : χ}
    (h : q.stored = p.stored ++ [(address, channel)]) (other : String) : q.channel? other =
      (p.channel? other).or (if other = address then some channel else none) := by
  unfold ChannelPool.channel?
  rw [h, List.lookup_append]
  by_cases same : other = address
  · subst same
    rw [List.lookup_cons, beq_self_eq_true, if_pos rfl]
  · rw [List.lookup_cons, beq_false_of_ne same, if_neg same]
    rfl

/-- A move leaves the channel of an address alone, or stores the first one. -/
theorem Move.channel? {e : Event χ} (move : Move p e q) (address : String) :
    q.channel? address = p.channel? address ∨
      p.channel? address = none ∧ ∃ i channel, e = .store i ∧
        p.requests[i]? = some ⟨address, .opened channel⟩ ∧ q.channel? address = some channel := by
  cases move with
  | stored i asked channel there free =>
    rw [channel?_of_stored (p := p) rfl address]
    by_cases same : address = asked
    · subst same
      rw [if_pos rfl, free]
      exact .inr ⟨rfl, i, channel, rfl, there, rfl⟩
    · rw [if_neg same]
      exact .inl Option.or_none
  | arrive | found | missed | dial | failed | opened | late | cancel => exact .inl rfl

/-- After a request has come to storing, there is a channel for its address. -/
theorem Move.exists_channel {i : Nat} (move : Move p (.store i) q) :
    ∃ address channel kept, p.requests[i]? = some ⟨address, .opened channel⟩ ∧
      q.channel? address = some kept := by
  cases move with
  | late i address channel faster there found => exact ⟨address, channel, faster, there, found⟩
  | stored i address channel there free =>
    refine ⟨address, channel, channel, there, ?_⟩
    rw [channel?_of_stored (p := p) rfl address, free, if_pos rfl]
    rfl

/-- Who came first at some time came first for ever after. -/
theorem FirstStored.append {address : String} {channel : χ}
    (h : FirstStored events address channel) (further : List (Event χ)) :
    FirstStored (events ++ further) address channel := by
  obtain ⟨before, i, later, rfl, asks, opened, unstored⟩ := h
  refine ⟨before, i, later ++ further, ?_, asks, opened, unstored⟩
  rw [List.append_assoc, List.cons_append]

/-- Where somebody came first, somebody came. -/
theorem FirstStored.not_unstored {address : String} {channel : χ}
    (h : FirstStored events address channel) : ¬ Unstored events address := by
  obtain ⟨before, i, later, rfl, asks, -, -⟩ := h
  exact fun unstored ↦ unstored i (asks.append _) (List.mem_append_right _ List.mem_cons_self)

/-- A request opens one channel. -/
theorem Traced.opened_unique (h : Traced events p) {i : Nat} {c c' : χ}
    (mem : .dialed i (.ok c) ∈ events) (mem' : .dialed i (.ok c') ∈ events) : c = c' := by
  obtain ⟨r, -, course, taken⟩ := h.course_of_mem mem rfl
  exact course.opened_unique taken (mem_steps_iff.mpr ⟨mem', rfl⟩)

/-- Of two requests for an address that come to storing, one comes second. -/
private theorem FirstStored.before_le {before before' later later' : List (Event χ)} {i j : Nat}
    {address : String} (same : before ++ .store i :: later = before' ++ .store j :: later')
    (asks : Asks before i address) (unstored : Unstored before' address) :
    before'.length ≤ before.length := by
  obtain ⟨more, rfl, rest⟩ | ⟨more, rfl, rest⟩ := List.append_eq_append_iff.mp same
  · cases more with
    | nil => simp
    | cons e more =>
      -- Then `i` has come to storing before `j` has, and asks for the same address.
      obtain rfl : .store i = e := by simpa using (List.cons.inj rest).1
      exact absurd (List.mem_append_right _ List.mem_cons_self) (unstored i (asks.append _))
  · simp

/-- Only one request came first. -/
theorem FirstStored.unique (traced : Traced events p) {address : String} {c c' : χ}
    (h : FirstStored events address c) (h' : FirstStored events address c') : c = c' := by
  obtain ⟨before, i, later, rfl, asks, opened, unstored⟩ := h
  obtain ⟨before', j, later', same, asks', opened', unstored'⟩ := h'
  have lengths : before.length = before'.length :=
    Nat.le_antisymm (before_le same.symm asks' unstored) (before_le same asks unstored')
  obtain ⟨rfl, rest⟩ := List.append_inj same lengths
  obtain ⟨first, -⟩ := List.cons.inj rest
  cases first
  exact traced.opened_unique (List.mem_append_left _ opened) (List.mem_append_left _ opened')

/-- What a pool knows of its history, and which channels it has. -/
structure Recorded (events : List (Event χ)) (p : ChannelPool χ) : Prop where
  traced : Traced events p
  first : ∀ address channel, p.channel? address = some channel →
    FirstStored events address channel
  unstored : ∀ address, p.channel? address = none → Unstored events address
  single : (p.stored.map Prod.fst).Nodup
  counted : p.opened = events.countP Event.opens

/-- An empty pool has no history. -/
theorem recorded_empty : Recorded [] (empty : ChannelPool χ) where
  traced := ⟨rfl, nofun, fun _ _ ↦ rfl⟩
  first := nofun
  unstored _ _ := nofun
  single := List.nodup_nil
  counted := rfl

/-- A move stores at most one channel, for an address that had none. -/
theorem Move.nodup {e : Event χ} (move : Move p e q) (h : (p.stored.map Prod.fst).Nodup) :
    (q.stored.map Prod.fst).Nodup := by
  cases move with
  | stored i address channel there free =>
    change ((p.stored ++ [(address, channel)]).map Prod.fst).Nodup
    rw [List.map_append, List.nodup_append]
    refine ⟨h, List.pairwise_singleton _ address, ?_⟩
    intro a ha b hb same
    obtain ⟨entry, listed, rfl⟩ := List.mem_map.mp ha
    obtain rfl : b = address := by simpa using hb
    have absent := List.lookup_eq_none_iff.mp free entry listed
    simp [same] at absent
  | arrive | found | missed | dial | failed | opened | late | cancel => exact h

/-- A move counts the dials that succeed. -/
theorem Move.opened_eq {e : Event χ} (move : Move p e q) :
    q.opened = p.opened + [e].countP Event.opens := by
  cases move with
  | arrive | found | missed | dial | failed | opened | late | stored | cancel => rfl

/-- Every step is recorded. -/
theorem Recorded.step {e : Event χ} (h : Recorded events p) (move : Move p e q) :
    Recorded (events ++ [e]) q := by
  have traced := h.traced.step move
  constructor
  case traced => exact traced
  case first =>
    intro address channel found
    obtain same | ⟨free, i, opened, rfl, there, kept⟩ := move.channel? address
    · exact (h.first address channel (same.symm.trans found)).append _
    · rw [kept] at found
      cases found
      have taken := (h.traced.course i _ there).dialed_of_opened
      exact ⟨events, i, [], rfl, h.traced.asks there, (mem_steps_iff.mp taken).1,
        h.unstored address free⟩
  case unstored =>
    intro address free i asks stored
    have before : p.channel? address = none := by
      obtain same | ⟨free', -⟩ := move.channel? address
      · exact same.symm.trans free
      · exact free'
    rcases List.mem_append.mp stored with earlier | now
    · exact h.unstored address before i (h.traced.asks_of_mem earlier rfl asks) earlier
    · obtain rfl := List.mem_singleton.mp now
      obtain ⟨asked, channel, kept, there, found⟩ := move.exists_channel
      obtain rfl := asks.unique ((h.traced.asks there).append _)
      rw [free] at found
      cases found
  case single => exact move.nodup h.single
  case counted => rw [move.opened_eq, h.counted, List.countP_append]

/-- Every history is recorded. -/
theorem recorded_of_after? (h : after? events = some p) : Recorded events p :=
  holds_of_after? recorded_empty (fun _ _ _ _ recorded last ↦ recorded.step (move_of_step last)) h

/-- The channel of an address is the one whose request came first. -/
theorem Recorded.channel?_eq_some_iff (h : Recorded events p) {address : String} {channel : χ} :
    p.channel? address = some channel ↔ FirstStored events address channel := by
  constructor
  · exact h.first address channel
  · intro came
    cases found : p.channel? address with
    | none => exact absurd (h.unstored address found) came.not_unstored
    | some kept => rw [(h.first address kept found).unique h.traced came]

/-- There is a channel for an address exactly when some request that has opened one came to storing
it. -/
theorem Recorded.exists_channel_iff (h : Recorded events p) {address : String} :
    (∃ channel, p.channel? address = some channel) ↔
      ∃ i channel, Asks events i address ∧ .dialed i (.ok channel) ∈ events ∧
        .store i ∈ events := by
  constructor
  · rintro ⟨channel, found⟩
    obtain ⟨before, i, later, rfl, asks, opened, -⟩ := h.first address channel found
    exact ⟨i, channel, asks.append _, List.mem_append_left _ opened,
      List.mem_append_right _ List.mem_cons_self⟩
  · rintro ⟨i, channel, asks, -, stored⟩
    cases found : p.channel? address with
    | none => exact absurd stored (h.unstored address found i asks)
    | some kept => exact ⟨kept, rfl⟩

/-- A channel that is stored stays, whatever happens next. -/
theorem Recorded.channel?_append (h : Recorded events p) {later : List (Event χ)}
    (h' : Recorded (events ++ later) q) {address : String} {channel : χ}
    (found : p.channel? address = some channel) : q.channel? address = some channel :=
  h'.channel?_eq_some_iff.mpr ((h.channel?_eq_some_iff.mp found).append later)

/-! ## Results -/

/-- A request has a result when it is done. -/
theorem result?_eq_some_iff {i : Nat} {result : Except GatewayError χ} :
    p.result? i = some result ↔ ∃ address, p.requests[i]? = some ⟨address, .done result⟩ := by
  unfold result?
  split
  · next address result' there =>
    rw [there]
    simp
  · next other =>
    constructor
    · nofun
    · rintro ⟨address, there⟩
      exact absurd there (other address result)

/-- A move adds a request, or takes one on that is not done. -/
theorem Move.requests {e : Event χ} (move : Move p e q) :
    (e.request? = none ∧ ∃ r, q.requests = p.requests ++ [r]) ∨
      ∃ i address phase next, e.request? = some i ∧ p.requests[i]? = some ⟨address, phase⟩ ∧
        (∀ result, phase ≠ .done result) ∧ q.requests = p.requests.set i ⟨address, next⟩ := by
  cases move with
  | arrive address => exact .inl ⟨rfl, _, rfl⟩
  | found i address channel there => exact .inr ⟨_, _, _, _, rfl, there, nofun, rfl⟩
  | missed i address there => exact .inr ⟨_, _, _, _, rfl, there, nofun, rfl⟩
  | dial i address there => exact .inr ⟨_, _, _, _, rfl, there, nofun, rfl⟩
  | failed i address e there => exact .inr ⟨_, _, _, _, rfl, there, nofun, rfl⟩
  | opened i address channel there => exact .inr ⟨_, _, _, _, rfl, there, nofun, rfl⟩
  | late i address channel faster there => exact .inr ⟨_, _, _, _, rfl, there, nofun, rfl⟩
  | stored i address channel there => exact .inr ⟨_, _, _, _, rfl, there, nofun, rfl⟩
  | cancel i address there => exact .inr ⟨_, _, _, _, rfl, there, nofun, rfl⟩

/-- A request that is done takes no step. -/
theorem Move.of_result? {e : Event χ} (move : Move p e q) {i : Nat}
    {result : Except GatewayError χ} (h : p.result? i = some result) :
    e.request? ≠ some i ∧ q.result? i = some result := by
  obtain ⟨address, done⟩ := result?_eq_some_iff.mp h
  obtain ⟨nobodys, r, added⟩ | ⟨j, asked, phase, next, own, there, busy, set⟩ := move.requests
  · refine ⟨by rw [nobodys]; nofun, result?_eq_some_iff.mpr ⟨address, ?_⟩⟩
    rw [added, List.getElem?_append_left (List.getElem?_eq_some_iff.mp done).1]
    exact done
  · have other : j ≠ i := by
      rintro rfl
      rw [there] at done
      cases done
      exact busy result rfl
    refine ⟨?_, result?_eq_some_iff.mpr ⟨address, ?_⟩⟩
    · rw [own]
      exact fun same ↦ other (Option.some.inj same)
    · rw [set, List.getElem?_set_ne other]
      exact done

/-- A request that is done takes no steps any more and keeps its result. -/
theorem result?_of_foldlM {later : List (Event χ)} {i : Nat} {result : Except GatewayError χ}
    (h : later.foldlM step p = some q) (done : p.result? i = some result) :
    q.result? i = some result ∧ ∀ e ∈ later, e.request? ≠ some i := by
  induction later generalizing p with
  | nil =>
    cases h
    exact ⟨done, nofun⟩
  | cons e later ih =>
    rw [List.foldlM_cons] at h
    obtain ⟨m, first, rest⟩ := Option.bind_eq_some_iff.mp h
    obtain ⟨other, kept⟩ := (move_of_step first).of_result? done
    obtain ⟨result, others⟩ := ih rest kept
    refine ⟨result, ?_⟩
    intro e' mem
    rcases List.mem_cons.mp mem with rfl | mem
    · exact other
    · exact others e' mem

/-- Who holds a channel that is not stored yet can come to storing it, and uses it then. -/
theorem exists_step_store {i : Nat} {address : String} {channel : χ}
    (there : p.requests[i]? = some ⟨address, .opened channel⟩) :
    ∃ q, p.step (.store i) = some q ∧ q.result? i = some (.ok channel) := by
  have bound : i < p.requests.length := (List.getElem?_eq_some_iff.mp there).1
  have used : ∀ stored dialed opened, ChannelPool.result?
      ⟨stored, p.requests.set i ⟨address, .done (.ok channel)⟩, dialed, opened⟩ i =
      some (.ok channel) :=
    fun _ _ _ ↦ result?_eq_some_iff.mpr ⟨address, List.getElem?_set_self bound⟩
  simp only [step, there]
  split
  · exact ⟨_, rfl, used _ _ _⟩
  · exact ⟨_, rfl, used _ _ _⟩

/-- Who looks up after a channel was stored is given the channel of its address. -/
theorem result?_of_lookup {before later : List (Event χ)} {i j : Nat} {address : String}
    (h : after? (before ++ .lookup i :: later) = some p)
    (asks : Asks (before ++ .lookup i :: later) i address)
    (asked : Asks (before ++ .lookup i :: later) j address) (stored : .store j ∈ before) :
    .dial i ∉ before ++ .lookup i :: later ∧
      ∃ channel, p.channel? address = some channel ∧ p.result? i = some (.ok channel) := by
  -- The look-up happens to the pool `m`; what it finds there is the result from then on.
  obtain ⟨m, earlier, rest⟩ := after?_append h
  obtain ⟨n, looked, rest⟩ := Option.bind_eq_some_iff.mp rest
  have known := recorded_of_after? earlier
  have present : m.channel? address ≠ none := fun free ↦
    known.unstored address free j (known.traced.asks_of_mem stored rfl asked) stored
  cases move_of_step looked with
  | missed i asking there free =>
    obtain rfl := asks.unique ((known.traced.asks there).append _)
    exact absurd free present
  | found i asking channel there found =>
    obtain rfl := asks.unique ((known.traced.asks there).append _)
    have done : (m.moved i address (.done (.ok channel))).result? i = some (.ok channel) :=
      result?_eq_some_iff.mpr
        ⟨address, List.getElem?_set_self (List.getElem?_eq_some_iff.mp there).1⟩
    obtain ⟨result, others⟩ := result?_of_foldlM rest done
    refine ⟨?_, channel, known.channel?_append (recorded_of_after? h) found, result⟩
    intro dials
    rcases List.mem_append.mp dials with early | late
    · have taken : .dial i ∈ steps before i := mem_steps_iff.mpr ⟨early, rfl⟩
      rw [(known.traced.course i _ there).of_asking] at taken
      cases taken
    · rcases List.mem_cons.mp late with now | later
      · cases now
      · exact others _ later rfl

/-- A pool keeps the first channel of each address and gives every request what is due to it. -/
structure KeepsFirst (events : List (Event χ)) (p : ChannelPool χ) : Prop where
  /-- There is one channel for an address at most. -/
  single : (p.stored.map Prod.fst).Nodup
  /-- It is the one whose request came first to storing it. -/
  first : ∀ address channel,
    p.channel? address = some channel ↔ FirstStored events address channel
  /-- It is there exactly when some request that has opened one came to storing it. -/
  present : ∀ address, (∃ channel, p.channel? address = some channel) ↔
    ∃ i channel, Asks events i address ∧ .dialed i (.ok channel) ∈ events ∧ .store i ∈ events
  /-- It stays, whatever happens next. -/
  lasting : ∀ later q, after? (events ++ later) = some q → ∀ address channel,
    p.channel? address = some channel → q.channel? address = some channel
  /-- A dial that fails or is cancelled stores nothing. -/
  nothing : ∀ i, (∃ e, .dialed i (.error e) ∈ events) ∨ .cancel i ∈ events → .store i ∉ events
  /-- Whoever looks up after that is given the channel, and does not dial. -/
  given : ∀ before i later address j, events = before ++ .lookup i :: later →
    Asks events i address → Asks events j address → .store j ∈ before →
    .dial i ∉ events ∧
      ∃ channel, p.channel? address = some channel ∧ p.result? i = some (.ok channel)
  /-- Whoever has opened a channel uses it, once it has come to storing it. -/
  own : ∀ i channel, .dialed i (.ok channel) ∈ events →
    (.store i ∈ events ∧ p.result? i = some (.ok channel)) ∨
      (.store i ∉ events ∧ p.result? i = none ∧
        ∃ q, p.step (.store i) = some q ∧ q.result? i = some (.ok channel))
  /-- Whoever has failed to is told why. -/
  failed : ∀ i e, .dialed i (.error e) ∈ events → p.result? i = some (.error e)
  /-- Whoever has dialed has no other result. -/
  dialed : ∀ i result, .dial i ∈ events → p.result? i = some result → .dialed i result ∈ events
  /-- The dials that succeed are counted. -/
  counted : p.opened = events.countP Event.opens

/-- However requests come between each other, a pool keeps the first channel of each address and
gives every request what is due to it. -/
theorem keepsFirst_of_after? (h : after? events = some p) : KeepsFirst events p := by
  have recorded := recorded_of_after? h
  constructor
  case single => exact recorded.single
  case first => exact fun _ _ ↦ recorded.channel?_eq_some_iff
  case present => exact fun _ ↦ recorded.exists_channel_iff
  case lasting =>
    intro later q h' address channel found
    exact recorded.channel?_append (recorded_of_after? h') found
  case nothing =>
    rintro i (⟨e, failed⟩ | cancelled) stored
    · obtain ⟨r, -, course, taken⟩ := recorded.traced.course_of_mem failed rfl
      exact (course.of_failed taken).2 (mem_steps_iff.mpr ⟨stored, rfl⟩)
    · obtain ⟨r, -, course, taken⟩ := recorded.traced.course_of_mem cancelled rfl
      exact course.of_cancel taken (mem_steps_iff.mpr ⟨stored, rfl⟩)
  case given =>
    rintro before i later address j rfl asks asked stored
    exact result?_of_lookup h asks asked stored
  case own =>
    intro i channel opened
    obtain ⟨⟨address, phase⟩, there, course, taken⟩ :=
      recorded.traced.course_of_mem opened rfl
    obtain ⟨rfl, unstored⟩ | ⟨rfl, stored⟩ := course.of_opened taken
    · have pending : p.result? i = none := by
        unfold result?
        rw [there]
      exact .inr ⟨fun stored ↦ unstored (mem_steps_iff.mpr ⟨stored, rfl⟩), pending,
        exists_step_store there⟩
    · exact .inl ⟨(mem_steps_iff.mp stored).1, result?_eq_some_iff.mpr ⟨address, there⟩⟩
  case failed =>
    intro i e failed
    obtain ⟨⟨address, phase⟩, there, course, taken⟩ :=
      recorded.traced.course_of_mem failed rfl
    obtain ⟨rfl, -⟩ := course.of_failed taken
    exact result?_eq_some_iff.mpr ⟨address, there⟩
  case dialed =>
    intro i result dials done
    obtain ⟨r, there, course, taken⟩ := recorded.traced.course_of_mem dials rfl
    obtain ⟨address, there'⟩ := result?_eq_some_iff.mp done
    rw [there] at there'
    cases there'
    exact (mem_steps_iff.mp (course.of_dial taken rfl)).1
  case counted => exact recorded.counted

/-- Three requests for an address race, one of which is cancelled and one of which loses; a fourth
comes after them. -/
def race : List (Event Nat) := [
  .arrive "a", .arrive "a", .arrive "a", .lookup 0, .lookup 1, .lookup 2, .dial 0, .dial 1, .dial 2,
  .dialed 1 (.ok 11), .store 1, .dialed 0 (.ok 10), .cancel 2, .store 0, .arrive "a", .lookup 3]

/-- The faster of two channels is kept, the loser uses its own, and who comes later is given the one
that is kept. -/
theorem keepsFirst_race : ∃ p, after? race = some p ∧ p.channel? "a" = some 11 ∧
    p.result? 0 = some (.ok 10) ∧ p.result? 3 = some (.ok 11) ∧ .store 2 ∉ race ∧
    p.opened = 2 := by
  have happened : after? race = some _ := rfl
  have kept := keepsFirst_of_after? happened
  have came : FirstStored race "a" 11 := by
    refine ⟨race.take 10, 1, race.drop 11, rfl, rfl, by simp [race], ?_⟩
    intro i asks stored
    simp [race] at stored
  have cancelled : (.cancel 2 : Event Nat) ∈ race := by simp [race]
  have lost : (.dialed 0 (.ok 10) : Event Nat) ∈ race := by simp [race]
  refine ⟨_, happened, (kept.first _ _).mpr came, ?_, ?_, kept.nothing 2 (.inr cancelled),
    kept.counted⟩
  · obtain ⟨-, used⟩ | ⟨unstored, -⟩ := kept.own 0 10 lost
    · exact used
    · exact absurd (by simp [race]) unstored
  · obtain ⟨-, channel, found, given⟩ :=
      kept.given (race.take 15) 3 [] "a" 1 rfl rfl rfl (by simp [race])
    rw [(kept.first _ _).mpr came] at found
    cases found
    exact given

end HttpGateway.Grpc.ChannelPool
