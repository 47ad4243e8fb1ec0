import HttpGateway.Grpc.Carriage
import HttpGateway.Grpc.Invocation
import HttpGateway.Rehearsal.Script

/-!
# A scripted gRPC peer

A peer that lets itself be reached after a while, or refuses, and answers after another while.
Both the sender and the channel hold a request to its time limit: the sender to the limit of the
call from the moment it was sent, the channel to the limit that the request states from the moment
the peer was reached. A request without a path and a query of its own makes the channel give out.
What arrives of a response is what the connection carries of it.
-/

namespace HttpGateway.Rehearsal

/-- The script of a gRPC peer. -/
structure GrpcPeer where
  /-- Why no channel to the peer is given, if none is. -/
  channelFailure : Option GatewayError
  connectDelay : Duration
  refuses : Bool
  delay : Duration
  script : Grpc.Response

namespace GrpcPeer

/-- The peer refuses the connection. -/
def refused : Grpc.Failure := ⟨.unavailable, "refused"⟩

/-- The channel reports the end of the time limit. -/
def expired : Grpc.Failure := ⟨.cancelled, "Timeout expired"⟩

/-- A channel to the peer; all that is known of it is the address it leads to. -/
def channel (peer : GrpcPeer) (address : String) (r : Rehearsal) :
    Except GatewayError String × Rehearsal :=
  match peer.channelFailure with
  | some e => (.error e, r)
  | none => (.ok address, note (.channel address) r)

/-- The channel gives out. -/
def gaveOut : Grpc.Failure := ⟨.unknown, "transport error"⟩

/-- What arrives of a response. -/
def arrived : Except Grpc.Failure Grpc.Response → Grpc.Arrival
  | .ok response => .answered response
  | .error failure => .failed failure

/-- The response of the peer as it arrives. -/
def response (peer : GrpcPeer) : Grpc.Arrival := arrived (Grpc.carried peer.script)

/-- What becomes of a request that has reached the peer: the answer comes, or one of the two limits
ends first. If both end at once, the channel is first to report. -/
def served (peer : GrpcPeer) (limit : Duration) (r : Rehearsal) : Grpc.Arrival × Rehearsal :=
  let left : Duration := ⟨limit.millis - peer.connectDelay.millis⟩
  let channel := Grpc.stated limit
  if channel.millis ≤ left.millis then
    if peer.delay.millis < channel.millis then (peer.response, wait peer.delay r)
    else (.failed expired, wait channel r)
  else if peer.delay.millis < left.millis then (peer.response, wait peer.delay r)
  else (.silent, wait left r)

/-- Sends a request to the peer. -/
def send (peer : GrpcPeer) (address : String) (request : Grpc.Request) (limit : Duration)
    (r : Rehearsal) : Grpc.Arrival × Rehearsal :=
  if limit.millis ≤ peer.connectDelay.millis then (.silent, wait limit r)
  else
    let r := wait peer.connectDelay r
    if request.path.text.isEmpty then (.failed gaveOut, r)
    else if peer.refuses then (.failed refused, r)
    else match Grpc.turnedAway? address request with
      | some answer => (arrived answer, r)
      | none => peer.served limit (note (.request request) r)

/-- The network that leads to the peer. -/
def network (peer : GrpcPeer) : Grpc.Network Rehearsal String :=
  ⟨peer.channel, peer.send⟩

/-- The hook that notes the reply in the bundle of a gRPC call. -/
def noteReply : Hook Rehearsal where
  setup := pure ()
  before := pure ()
  after x := match x.bundle with
    | some (.grpc header wire) => note (.reply header wire)
    | _ => id

/-- The parts of a gateway that leads gRPC calls and remote procedures to the peer. -/
def parts (peer : GrpcPeer) : Assembly Rehearsal :=
  let transport := Grpc.transport peer.network
  assembly [("grpc", .grpc transport), ("rpc", .rpc (some transport))] [] [noteReply]

end GrpcPeer
end HttpGateway.Rehearsal
