import HttpGateway.Text.Ascii
import HttpGateway.Http.Status

/-!
# Counters

What the gateway counts: exchanges by outcome, protocol and status, and the channels opened for the
channel pool.
-/

namespace HttpGateway

/-- Something that is counted. -/
inductive Counter
  /-- A finished exchange, and whether its status counts as success. -/
  | exchange (success : Bool) (protocol : String) (status : Status)
  /-- A channel opened for the channel pool. -/
  | poolDial
  deriving DecidableEq

namespace Counter

/-- The name of a counter with its labels. -/
def name : Counter → String
  | exchange success protocol status =>
    "gateway_exchanges_total\x7boutcome=" ++ (if success then "success" else "failure") ++
      ",protocol=" ++ protocol ++ ",status=" ++ Decimal.text status.code ++ "\x7d"
  | poolDial => "gateway_grpc_pool_dials_total\x7b\x7d"

/-- How often each of the events happened, each once, in the order of their names. -/
def tally (events : List Counter) : List (String × Nat) :=
  let names := (events.map name).eraseDups.mergeSort fun a b ↦ decide (a ≤ b)
  names.map fun n ↦ (n, (events.map name).count n)

end Counter
end HttpGateway
