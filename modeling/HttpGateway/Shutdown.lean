/-!
# The stop signal

A signal that is broadcast to whoever has subscribed. Only the latest signal is kept: a subscriber
that missed earlier ones is first told how many, and then gets the latest.
-/

namespace HttpGateway

/-- The broadcast: how many signals went out, and for each subscriber, in order of subscription, the
number of signals it has dealt with, or nothing once it has left. -/
structure Shutdown where
  sent : Nat
  subscribers : List (Option Nat)
  deriving DecidableEq

namespace Shutdown

/-- What a subscriber finds. -/
inductive Receipt
  | signal
  | nothing
  | lagged (missed : Nat)
  | closed
  deriving DecidableEq

/-- A broadcast without subscribers. -/
def initial : Shutdown := ⟨0, []⟩

/-- A further subscriber, which sees later signals only. -/
def subscribe (s : Shutdown) : Nat × Shutdown :=
  (s.subscribers.length, { s with subscribers := s.subscribers ++ [some s.sent] })

/-- A subscriber leaves. -/
def unsubscribe (s : Shutdown) (i : Nat) : Shutdown :=
  { s with subscribers := s.subscribers.set i none }

/-- Sends a signal, and tells how many subscribers there are. -/
def trigger (s : Shutdown) : Nat × Shutdown :=
  (s.subscribers.countP Option.isSome, { s with sent := s.sent + 1 })

/-- A subscriber looks for a signal. -/
def receive (s : Shutdown) (i : Nat) : Receipt × Shutdown :=
  match s.subscribers[i]? with
  | some (some seen) =>
    if seen = s.sent then (.nothing, s)
    else if seen + 1 = s.sent then
      (.signal, { s with subscribers := s.subscribers.set i (some s.sent) })
    else
      (.lagged (s.sent - 1 - seen),
        { s with subscribers := s.subscribers.set i (some (s.sent - 1)) })
  | _ => (.closed, s)

end Shutdown
end HttpGateway
