import HttpGateway.Bootstrap

/-!
# Without a network

The ways to the services when there is no route to any address: nothing can be connected to, and
names cannot be looked up.
-/

namespace HttpGateway

/-- The world without a network: the pool of channels, and what has been counted. -/
structure Offline where
  pool : Grpc.ChannelPool Empty
  counters : List Counter

namespace Offline

/-- The world before anything happened. -/
def fresh : Offline := ⟨.empty, []⟩

/-- What a connection that has no route fails with. -/
def noRoute : String := "Network is unreachable (os error 101)"

/-- What a look-up of a name fails with. -/
def noNames : String :=
  "failed to lookup address information: Temporary failure in name resolution"

/-- What a connection to an address fails with. -/
def whyUnreachable (address : String) : String :=
  if SocketAddress.isValid (Utf8.encode address) then noRoute else noNames

/-- The pool of channels in this world. -/
def channels : Grpc.PoolIn Offline Empty :=
  ⟨pool, fun pool o ↦ { o with pool }, fun c o ↦ { o with counters := o.counters ++ [c] }⟩

/-- A channel that cannot be opened. -/
def connect (_ : String) (_ : Duration) (o : Offline) : Grpc.DialResult Empty × Offline :=
  (.failed "transport error", o)

/-- The ways to the services. -/
def networks : Networks Offline Empty where
  backends := ⟨fun _ _ o ↦ (.unreachable "client error (Connect)", o), fun _ o ↦ o⟩
  connect := connect
  invoke channel := nomatch channel
  pool := channels
  conversations address _ _ o := (.unreachable (whyUnreachable address), o)

end Offline
end HttpGateway
