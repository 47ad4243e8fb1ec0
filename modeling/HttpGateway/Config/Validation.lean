import HttpGateway.Config
import HttpGateway.SocketAddress
import HttpGateway.Text.Utf8

/-!
# What a configuration must satisfy

Validation lists every rule that a configuration breaks, in a fixed order: the settings one by one,
then the routes, the error codes and the success statuses, each in order. A problem names the field
and what is wrong with it.
-/

namespace HttpGateway

namespace Config

/-- A field of the configuration that a rule speaks about. -/
inductive Field
  | bindAddress
  | maxBodySize
  | requestSecs
  | callTimeout
  | bufferSize
  | dialTimeout
  | metricsAddress
  | routeName (route : Nat)
  | routeProtocol (route : Nat)
  | routeTarget (route : Nat)
  | routePathPrefix (route : Nat)
  | routeTimeout (route : Nat)
  | codeStatus (entry : Nat)
  | successStatus (entry : Nat)
  deriving DecidableEq, Repr

/-- The path of a field. -/
def Field.path : Field → String
  | bindAddress => "listener.bind_address"
  | maxBodySize => "listener.max_body_size"
  | requestSecs => "timeouts.request_secs"
  | callTimeout => "timeouts.call_timeout_ms"
  | bufferSize => "proxy.buffer_size"
  | dialTimeout => "grpc.dial_timeout_ms"
  | metricsAddress => "observability.metrics_address"
  | routeName i => "routes[" ++ Decimal.text i ++ "].name"
  | routeProtocol i => "routes[" ++ Decimal.text i ++ "].protocol"
  | routeTarget i => "routes[" ++ Decimal.text i ++ "].target"
  | routePathPrefix i => "routes[" ++ Decimal.text i ++ "].path_prefix"
  | routeTimeout i => "routes[" ++ Decimal.text i ++ "].timeout_ms"
  | codeStatus i => "error_codes[" ++ Decimal.text i ++ "].http_status"
  | successStatus i => "success_statuses[" ++ Decimal.text i ++ "]"

/-- What is wrong with a field. -/
inductive Flaw
  | notAnAddress (value : String)
  | notPositive
  | empty
  | duplicateName (name : String)
  | noSlash
  | invalidStatus (status : Nat)
  | repeatedStatus (status : Nat)
  deriving DecidableEq, Repr

/-- The wording of a flaw. -/
def Flaw.message : Flaw → String
  | notAnAddress value => "not a socket address: " ++ value
  | notPositive => "must be > 0"
  | empty => "must not be empty"
  | duplicateName name => "duplicate route name " ++ name
  | noSlash => "must start with '/'"
  | invalidStatus status => "invalid HTTP status " ++ Decimal.text status
  | repeatedStatus status => "status " ++ Decimal.text status ++ " is already a success status"

/-- A broken rule. -/
structure Problem where
  field : Field
  flaw : Flaw
  deriving DecidableEq, Repr

/-- The wording of a broken rule. -/
def Problem.text (problem : Problem) : String :=
  problem.field.path ++ ": " ++ problem.flaw.message

/-- The text is a socket address. -/
def isSocketAddress (s : String) : Bool := SocketAddress.isValid (Utf8.encode s)

/-- A problem, if a rule is broken. -/
def require (holds : Bool) (field : Field) (flaw : Flaw) : List Problem :=
  if holds then [] else [⟨field, flaw⟩]

/-- The problems of the settings. -/
def settingProblems (c : Config) : List Problem :=
  require (isSocketAddress c.listener.bindAddress) .bindAddress
      (.notAnAddress c.listener.bindAddress) ++
    require (0 < c.listener.maxBodySize) .maxBodySize .notPositive ++
    require (0 < c.timeouts.requestSecs) .requestSecs .notPositive ++
    require (0 < c.timeouts.callTimeoutMs) .callTimeout .notPositive ++
    require (0 < c.proxy.bufferSize) .bufferSize .notPositive ++
    require (0 < c.grpc.dialTimeoutMs) .dialTimeout .notPositive ++
    require (!c.observability.metricsEnabled || isSocketAddress c.observability.metricsAddress)
      .metricsAddress (.notAnAddress c.observability.metricsAddress)

/-- The problem of a route's name, given the names before it. -/
def nameProblems (seen : List String) (i : Nat) (name : String) : List Problem :=
  if name.isEmpty then [⟨.routeName i, .empty⟩]
  else require (!seen.contains name) (.routeName i) (.duplicateName name)

/-- The problems of a route, given the names before it. -/
def routeProblems (seen : List String) (i : Nat) (route : RouteConfig) : List Problem :=
  nameProblems seen i route.name ++
    require (!route.protocol.isEmpty) (.routeProtocol i) .empty ++
    require (!route.target.isEmpty) (.routeTarget i) .empty ++
    require (route.pathPrefix.all fun p ↦ p.startsWith "/") (.routePathPrefix i) .noSlash ++
    require (route.timeoutMs ≠ some 0) (.routeTimeout i) .notPositive

/-- The problems of routes that follow others with the given names. -/
def routesProblems (seen : List String) : List RouteConfig → List Problem
  | [] => []
  | route :: routes =>
    routeProblems seen seen.length route ++ routesProblems (seen ++ [route.name]) routes

/-- A number that may be configured as a status. -/
def isStatus (n : Nat) : Bool := 100 ≤ n && n ≤ 599

/-- The problems of error codes that follow so many others. -/
def codesProblems (i : Nat) : List ErrorCodeConfig → List Problem
  | [] => []
  | entry :: entries =>
    require (isStatus entry.httpStatus) (.codeStatus i) (.invalidStatus entry.httpStatus) ++
      codesProblems (i + 1) entries

/-- The problems of success statuses that follow others. -/
def statusesProblems (seen : List Nat) : List Nat → List Problem
  | [] => []
  | status :: statuses =>
    (if isStatus status then
      require (status ≠ 200 && !seen.contains status) (.successStatus seen.length)
        (.repeatedStatus status)
    else [⟨.successStatus seen.length, .invalidStatus status⟩]) ++
      statusesProblems (seen ++ [status]) statuses

/-- Every rule that a configuration breaks. -/
def problems (c : Config) : List Problem :=
  settingProblems c ++ routesProblems [] c.routes ++ codesProblems 0 c.errorCodes ++
    statusesProblems [] c.successStatuses

/-- The configuration breaks no rule. -/
def isValid (c : Config) : Bool := c.problems.isEmpty

end Config
end HttpGateway
