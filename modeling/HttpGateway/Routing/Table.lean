import HttpGateway.Config
import HttpGateway.Routing.Host
import HttpGateway.Stage

/-!
# The route table

Routes stand in order of priority, the highest first, and those of equal priority in the order in
which they were configured. A request takes the first route whose conditions it meets; a condition
that is not stated is always met.
-/

namespace HttpGateway

/-- A route: a condition on request heads, and where the requests go that meet it. -/
structure Route where
  name : String
  protocol : String
  target : Target
  priority : Nat
  host : Option String
  pathPrefix : Option String
  deriving DecidableEq

namespace Route

/-- The route of a configuration; the time limit is the default one if none is configured. -/
def ofConfig (timeout : Duration) (c : RouteConfig) : Route where
  name := c.name
  protocol := c.protocol
  target := ⟨c.target, c.method, (c.timeoutMs.map Duration.mk).getD timeout⟩
  priority := c.priority
  host := c.host
  pathPrefix := c.pathPrefix

/-- A request head meets the conditions of a route. -/
def accepts (r : Route) (head : RequestHead) : Bool :=
  (r.host.all fun host ↦ Host.accepts host head) &&
    (r.pathPrefix.all fun start ↦ start.toList.isPrefixOf head.uri.path.toList)

end Route

/-- The route table, in the order in which routes are tried. -/
structure RouteTable where
  routes : List Route
  deriving DecidableEq

namespace RouteTable

/-- The table of configured routes. -/
def ofConfig (configs : List RouteConfig) (timeout : Duration) : RouteTable :=
  ⟨(configs.map (Route.ofConfig timeout)).mergeSort fun a b ↦ decide (b.priority ≤ a.priority)⟩

/-- The first route that takes a request head. -/
def find? (t : RouteTable) (head : RequestHead) : Option Route :=
  t.routes.find? fun r ↦ r.accepts head

/-- The protocols that routes name, each once, in order. -/
def protocols (t : RouteTable) : List String :=
  ((t.routes.map Route.protocol).eraseDups).mergeSort fun a b ↦ decide (a ≤ b)

/-- The number of routes. -/
def size (t : RouteTable) : Nat := t.routes.length

/-- There are as many routes as are configured. -/
theorem size_ofConfig (configs : List RouteConfig) (timeout : Duration) :
    (ofConfig configs timeout).size = configs.length := by
  unfold size ofConfig
  rw [List.length_mergeSort, List.length_map]

/-- The routes of the table are the configured ones. -/
theorem mem_routes_ofConfig_iff {configs : List RouteConfig} {timeout : Duration} {route : Route} :
    route ∈ (ofConfig configs timeout).routes ↔
      ∃ c ∈ configs, Route.ofConfig timeout c = route := by
  unfold ofConfig
  rw [List.mem_mergeSort, List.mem_map]

/-- The protocols of the table are those of its routes. -/
theorem mem_protocols_iff {t : RouteTable} {protocol : String} :
    protocol ∈ t.protocols ↔ ∃ route ∈ t.routes, route.protocol = protocol := by
  unfold protocols
  rw [List.mem_mergeSort, List.mem_eraseDups, List.mem_map]

end RouteTable
end HttpGateway
