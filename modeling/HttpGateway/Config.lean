import HttpGateway.Text.Ascii

/-!
# The configuration

All settings of the gateway with their defaults. A route names a protocol and an address, and states
the host and the path prefix that a request must have.
-/

namespace HttpGateway

/-- Where requests come in, and how large their bodies may be. -/
structure ListenerConfig where
  bindAddress : String := "0.0.0.0:8080"
  maxBodySize : Nat := 4 * 1024 * 1024
  deriving DecidableEq, Repr

/-- Time limits: of a whole request in seconds, of a call in milliseconds. -/
structure TimeoutConfig where
  requestSecs : Nat := 60
  callTimeoutMs : Nat := 30000
  deriving DecidableEq, Repr

/-- Settings of proxied requests; no flush interval means that a body goes out in one piece. -/
structure ProxyConfig where
  flushIntervalMs : Nat := 100
  bufferSize : Nat := 32 * 1024
  connectTimeoutMs : Nat := 5000
  deriving DecidableEq, Repr

/-- Settings of gRPC calls. -/
structure GrpcConfig where
  dialTimeoutMs : Nat := 3000
  deriving DecidableEq, Repr

/-- Settings of logs and counters. -/
structure ObservabilityConfig where
  logLevel : String := "info"
  metricsEnabled : Bool := true
  metricsAddress : String := "0.0.0.0:9090"
  deriving DecidableEq, Repr

/-- A route: which requests it takes, and where they go. -/
structure RouteConfig where
  name : String
  host : Option String
  pathPrefix : Option String
  priority : Nat
  protocol : String
  target : String
  method : Option String
  timeoutMs : Option Nat
  deriving DecidableEq, Repr

/-- A result code with the HTTP status it gets. -/
structure ErrorCodeConfig where
  code : Int
  httpStatus : Nat
  deriving DecidableEq, Repr

/-- All settings of the gateway. -/
structure Config where
  listener : ListenerConfig := {}
  timeouts : TimeoutConfig := {}
  proxy : ProxyConfig := {}
  grpc : GrpcConfig := {}
  observability : ObservabilityConfig := {}
  routes : List RouteConfig := []
  errorCodes : List ErrorCodeConfig := []
  successStatuses : List Nat := []
  deriving DecidableEq, Repr

/-- The filter for log lines that a level asks for. -/
def ObservabilityConfig.directives (level : String) : String :=
  "relay_gateway=" ++ level ++ ",tower_http=" ++ level

end HttpGateway
