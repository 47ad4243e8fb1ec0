import HttpGateway.Error

/-!
# Channels kept per address

A pool keeps at most one channel for each address. A request for a channel looks it up; if there is
none it dials, and stores what it opened unless another request was faster. Look-up and storing are
steps of their own with the dial between them, so any number of requests for one address may be
under way at once. A request that has dialed uses its own channel in any case.
-/

namespace HttpGateway.Grpc

/-- How far a request for a channel has come. -/
inductive Phase (χ : Type)
  | asking
  | missed
  | dialing
  /-- The dial succeeded; the channel is not stored yet. -/
  | opened (channel : χ)
  | done (result : Except GatewayError χ)
  | cancelled

/-- A request for a channel to an address. -/
structure ChannelRequest (χ : Type) where
  address : String
  phase : Phase χ

/-- A pool of channels with the requests it has got, the number of dials begun and the number of
dials that succeeded. -/
structure ChannelPool (χ : Type) where
  stored : List (String × χ)
  requests : List (ChannelRequest χ)
  dialed : Nat
  opened : Nat

namespace ChannelPool

variable {χ : Type}

/-- A pool without channels and requests. -/
def empty : ChannelPool χ := ⟨[], [], 0, 0⟩

/-- The channel stored for an address. -/
def channel? (p : ChannelPool χ) (address : String) : Option χ := p.stored.lookup address

/-- The number of channels stored. -/
def size (p : ChannelPool χ) : Nat := p.stored.length

/-- Something that happens to a pool; requests are named by their number. -/
inductive Event (χ : Type)
  | arrive (address : String)
  | lookup (request : Nat)
  | dial (request : Nat)
  | dialed (request : Nat) (result : Except GatewayError χ)
  | store (request : Nat)
  | cancel (request : Nat)

/-- The pool with a request moved on. -/
def moved (p : ChannelPool χ) (i : Nat) (address : String) (phase : Phase χ) : ChannelPool χ :=
  { p with requests := p.requests.set i ⟨address, phase⟩ }

/-- What becomes of a pool when something happens, if it can happen. -/
def step (p : ChannelPool χ) : Event χ → Option (ChannelPool χ)
  | .arrive address => some { p with requests := p.requests ++ [⟨address, .asking⟩] }
  | .lookup i =>
    match p.requests[i]? with
    | some ⟨address, .asking⟩ =>
      match p.channel? address with
      | some channel => some (p.moved i address (.done (.ok channel)))
      | none => some (p.moved i address .missed)
    | _ => none
  | .dial i =>
    match p.requests[i]? with
    | some ⟨address, .missed⟩ => some { p.moved i address .dialing with dialed := p.dialed + 1 }
    | _ => none
  | .dialed i (.error e) =>
    match p.requests[i]? with
    | some ⟨address, .dialing⟩ => some (p.moved i address (.done (.error e)))
    | _ => none
  | .dialed i (.ok channel) =>
    match p.requests[i]? with
    | some ⟨address, .dialing⟩ =>
      some { p.moved i address (.opened channel) with opened := p.opened + 1 }
    | _ => none
  | .store i =>
    match p.requests[i]? with
    | some ⟨address, .opened channel⟩ =>
      let p := p.moved i address (.done (.ok channel))
      match p.channel? address with
      | some _ => some p
      | none => some { p with stored := p.stored ++ [(address, channel)] }
    | _ => none
  | .cancel i =>
    match p.requests[i]? with
    | some ⟨address, .dialing⟩ => some (p.moved i address .cancelled)
    | _ => none

/-- The pool after a row of events; those that cannot happen are passed over. -/
def run (p : ChannelPool χ) (events : List (Event χ)) : ChannelPool χ :=
  events.foldl (fun p e ↦ (p.step e).getD p) p

/-- The result of a request that is done. -/
def result? (p : ChannelPool χ) (i : Nat) : Option (Except GatewayError χ) :=
  match p.requests[i]? with
  | some ⟨_, .done result⟩ => some result
  | _ => none

/-- The events of requests made at the same time: all look up first, and then the dials come to
their ends one after another. -/
def together (first : Nat) (dial : String → Except GatewayError χ) (addresses : List String) :
    List (Event χ) :=
  let numbered := (List.range addresses.length).zip addresses
  addresses.map .arrive ++
    numbered.map (fun (i, _) ↦ .lookup (first + i)) ++
    numbered.map (fun (i, _) ↦ .dial (first + i)) ++
    numbered.flatMap fun (i, address) ↦ [.dialed (first + i) (dial address), .store (first + i)]

/-- Requests channels to addresses at the same time. -/
def getAll (p : ChannelPool χ) (dial : String → Except GatewayError χ) (addresses : List String) :
    List (Except GatewayError χ) × ChannelPool χ :=
  let first := p.requests.length
  let p := p.run (together first dial addresses)
  ((List.range addresses.length).filterMap fun i ↦ p.result? (first + i), p)

end ChannelPool
end HttpGateway.Grpc
