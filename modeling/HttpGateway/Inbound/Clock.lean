import HttpGateway.Duration

/-!
# Time limits

A world that tells the time lets a run be held to a limit: a run that is over before the limit keeps
its result, and of any other run only that remains which happened before the limit.
-/

namespace HttpGateway

/-- How a world tells the time. -/
structure Clock (σ : Type) where
  now : σ → Duration
  /-- The world at a moment, without what would have happened from that moment on. -/
  stop : Duration → σ → σ

namespace Clock

variable {σ α : Type}

/-- A run held to a time limit; there is no result if it takes as long as the limit. -/
def within (clock : Clock σ) (limit : Duration) (run : σ → α × σ) (world : σ) : Option α × σ :=
  let deadline : Duration := ⟨(clock.now world).millis + limit.millis⟩
  let (result, later) := run world
  if (clock.now later).millis < deadline.millis then (some result, later)
  else (none, clock.stop deadline later)

/-- A run that is over before the limit is not touched by it. -/
theorem within_eq_some (clock : Clock σ) (limit : Duration) (run : σ → α × σ) (world : σ)
    (h : (clock.now (run world).2).millis < (clock.now world).millis + limit.millis) :
    clock.within limit run world = (some (run world).1, (run world).2) := by
  unfold within
  exact if_pos h

end Clock
end HttpGateway
