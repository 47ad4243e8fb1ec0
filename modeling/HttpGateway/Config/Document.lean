import HttpGateway.Config
import HttpGateway.Json

/-!
# A configuration as a JSON document

Every setting is a member under its name, and an optional one that is absent is null. Reading takes
a missing setting, or one of another type, for its default.
-/

namespace HttpGateway

/-- The document of a route. -/
def RouteConfig.document (r : RouteConfig) : Json := .object [
  ("name", .string r.name), ("host", .ofString? r.host), ("path_prefix", .ofString? r.pathPrefix),
  ("priority", .ofNat r.priority), ("protocol", .string r.protocol), ("target", .string r.target),
  ("method", .ofString? r.method), ("timeout_ms", .ofNat? r.timeoutMs)]

/-- The route of a document. -/
def RouteConfig.ofDocument (j : Json) : RouteConfig where
  name := (j.member "name").string?.getD ""
  host := (j.member "host").string?
  pathPrefix := (j.member "path_prefix").string?
  priority := (j.member "priority").nat?.getD 0
  protocol := (j.member "protocol").string?.getD ""
  target := (j.member "target").string?.getD ""
  method := (j.member "method").string?
  timeoutMs := (j.member "timeout_ms").nat?

/-- Reading the document of a route gives the route back. -/
theorem RouteConfig.ofDocument_document (r : RouteConfig) : ofDocument r.document = r := by
  rcases r with ⟨name, _ | host, _ | start, priority, protocol, target, _ | method, _ | timeout⟩ <;>
    rfl

namespace Config

/-- The document of a configuration. -/
def document (c : Config) : Json := .object [
  ("listener", .object [("bind_address", .string c.listener.bindAddress),
    ("max_body_size", .ofNat c.listener.maxBodySize)]),
  ("timeouts", .object [("request_secs", .ofNat c.timeouts.requestSecs),
    ("call_timeout_ms", .ofNat c.timeouts.callTimeoutMs)]),
  ("proxy", .object [("flush_interval_ms", .ofNat c.proxy.flushIntervalMs),
    ("buffer_size", .ofNat c.proxy.bufferSize),
    ("connect_timeout_ms", .ofNat c.proxy.connectTimeoutMs)]),
  ("grpc", .object [("dial_timeout_ms", .ofNat c.grpc.dialTimeoutMs)]),
  ("observability", .object [("log_level", .string c.observability.logLevel),
    ("metrics_enabled", .bool c.observability.metricsEnabled),
    ("metrics_address", .string c.observability.metricsAddress)]),
  ("routes", .array (c.routes.map RouteConfig.document)),
  ("error_codes", .array (c.errorCodes.map fun e ↦
    .object [("code", .integer e.code), ("http_status", .ofNat e.httpStatus)])),
  ("success_statuses", .array (c.successStatuses.map .ofNat))]

/-- The configuration of a document. -/
def ofDocument (j : Json) : Config :=
  let base : Config := {}
  let listener := j.member "listener"
  let timeouts := j.member "timeouts"
  let proxy := j.member "proxy"
  let shown := j.member "observability"
  { listener := ⟨(listener.member "bind_address").string?.getD base.listener.bindAddress,
      (listener.member "max_body_size").nat?.getD base.listener.maxBodySize⟩
    timeouts := ⟨(timeouts.member "request_secs").nat?.getD base.timeouts.requestSecs,
      (timeouts.member "call_timeout_ms").nat?.getD base.timeouts.callTimeoutMs⟩
    proxy := ⟨(proxy.member "flush_interval_ms").nat?.getD base.proxy.flushIntervalMs,
      (proxy.member "buffer_size").nat?.getD base.proxy.bufferSize,
      (proxy.member "connect_timeout_ms").nat?.getD base.proxy.connectTimeoutMs⟩
    grpc := ⟨((j.member "grpc").member "dial_timeout_ms").nat?.getD base.grpc.dialTimeoutMs⟩
    observability := ⟨(shown.member "log_level").string?.getD base.observability.logLevel,
      (shown.member "metrics_enabled").bool?.getD base.observability.metricsEnabled,
      (shown.member "metrics_address").string?.getD base.observability.metricsAddress⟩
    routes := (j.member "routes").items.map RouteConfig.ofDocument
    errorCodes := (j.member "error_codes").items.map fun e ↦
      ⟨(e.member "code").integer?.getD 0, (e.member "http_status").nat?.getD 0⟩
    successStatuses := (j.member "success_statuses").items.map fun s ↦ s.nat?.getD 0 }

/-- Reading the document of a configuration gives the configuration back. -/
theorem ofDocument_document (c : Config) : ofDocument c.document = c := by
  have routes : (c.routes.map RouteConfig.document).map RouteConfig.ofDocument = c.routes := by
    rw [List.map_map]
    exact List.map_id'' RouteConfig.ofDocument_document _
  have codes : (c.errorCodes.map fun e ↦
      Json.object [("code", .integer e.code), ("http_status", .ofNat e.httpStatus)]).map
      (fun e ↦ (⟨(e.member "code").integer?.getD 0, (e.member "http_status").nat?.getD 0⟩ :
        ErrorCodeConfig)) = c.errorCodes := by
    rw [List.map_map]
    exact List.map_id'' (fun _ ↦ rfl) _
  have statuses : (c.successStatuses.map Json.ofNat).map (fun s ↦ s.nat?.getD 0) =
      c.successStatuses := by
    rw [List.map_map]
    exact List.map_id'' (fun _ ↦ rfl) _
  show ({ c with routes := _, errorCodes := _, successStatuses := _ } : Config) = c
  exact congr (congr (congrArg (fun r e s ↦ { c with
    routes := r, errorCodes := e, successStatuses := s }) routes) codes) statuses

end Config
end HttpGateway
