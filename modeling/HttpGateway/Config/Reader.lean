import HttpGateway.Config.Validation
import HttpGateway.Toml.Reader

/-!
# Reading a configuration

A configuration is a TOML document. Settings that are not given have their defaults, unknown ones
are passed over, and each has to be of its type and within its range. A group of settings is written
as a table, or as an array in the order of the settings. What has been read must also break no rule.
-/

namespace HttpGateway

namespace Config

/-- A group of settings as it is written. -/
inductive Group
  | named (members : List (String × Toml))
  | listed (items : List Toml)

namespace Group

/-- The group that a value is. A date names no setting, so that all of them have their defaults. -/
def ofToml? : Toml → Option Group
  | .table _ members => some (.named members)
  | .array items | .rows items => some (.listed items)
  | .dateTime _ => some (.named [])
  | _ => none

/-- The setting of a name and of a place in the order. -/
def get? : Group → Nat → String → Option Toml
  | named members, _, name => members.lookup name
  | listed items, place, _ => items[place]?

/-- A setting that must be given. -/
def required {α : Type} (g : Group) (place : Nat) (name : String) (read : Toml → Option α) :
    Option α :=
  (g.get? place name).bind read

/-- A setting with a default. -/
def withDefault {α : Type} (g : Group) (place : Nat) (name : String) (read : Toml → Option α)
    (default : α) : Option α :=
  match g.get? place name with
  | none => some default
  | some value => read value

end Group

/-- A text. -/
def readText : Toml → Option String
  | .string s => some s
  | _ => none

/-- A truth value. -/
def readBool : Toml → Option Bool
  | .boolean b => some b
  | _ => none

/-- An integer within bounds. -/
def readInt (low high : Int) : Toml → Option Int
  | .integer n => if low ≤ n && n ≤ high then some n else none
  | _ => none

/-- A number below a power of two. -/
def readNat (bits : Nat) (value : Toml) : Option Nat :=
  (readInt 0 (Int.ofNat (1 <<< bits) - 1) value).map Int.toNat

/-- A list of values. -/
def readList {α : Type} (read : Toml → Option α) : Toml → Option (List α)
  | .array items | .rows items => items.mapM read
  | _ => none

/-- The listener's settings. -/
def readListener (value : Toml) : Option ListenerConfig := do
  let g ← Group.ofToml? value
  let d : ListenerConfig := {}
  return {
    bindAddress := ← g.withDefault 0 "bind_address" readText d.bindAddress
    maxBodySize := ← g.withDefault 1 "max_body_size" (readNat 64) d.maxBodySize }

/-- The time limits. -/
def readTimeouts (value : Toml) : Option TimeoutConfig := do
  let g ← Group.ofToml? value
  let d : TimeoutConfig := {}
  return {
    requestSecs := ← g.withDefault 0 "request_secs" (readNat 64) d.requestSecs
    callTimeoutMs := ← g.withDefault 1 "call_timeout_ms" (readNat 64) d.callTimeoutMs }

/-- The settings of proxied requests. -/
def readProxy (value : Toml) : Option ProxyConfig := do
  let g ← Group.ofToml? value
  let d : ProxyConfig := {}
  return {
    flushIntervalMs := ← g.withDefault 0 "flush_interval_ms" (readNat 64) d.flushIntervalMs
    bufferSize := ← g.withDefault 1 "buffer_size" (readNat 64) d.bufferSize
    connectTimeoutMs := ← g.withDefault 2 "connect_timeout_ms" (readNat 64) d.connectTimeoutMs }

/-- The settings of gRPC calls. -/
def readGrpc (value : Toml) : Option GrpcConfig := do
  let g ← Group.ofToml? value
  let d : GrpcConfig := {}
  return { dialTimeoutMs := ← g.withDefault 0 "dial_timeout_ms" (readNat 64) d.dialTimeoutMs }

/-- The settings of logs and counters. -/
def readObservability (value : Toml) : Option ObservabilityConfig := do
  let g ← Group.ofToml? value
  let d : ObservabilityConfig := {}
  return {
    logLevel := ← g.withDefault 0 "log_level" readText d.logLevel
    metricsEnabled := ← g.withDefault 1 "metrics_enabled" readBool d.metricsEnabled
    metricsAddress := ← g.withDefault 2 "metrics_address" readText d.metricsAddress }

/-- A route. -/
def readRoute (value : Toml) : Option RouteConfig := do
  let g ← Group.ofToml? value
  let text (value : Toml) : Option (Option String) := (readText value).map some
  return {
    name := ← g.required 0 "name" readText
    host := ← g.withDefault 1 "host" text none
    pathPrefix := ← g.withDefault 2 "path_prefix" text none
    priority := ← g.withDefault 3 "priority" (readNat 32) 0
    protocol := ← g.required 4 "protocol" readText
    target := ← g.required 5 "target" readText
    method := ← g.withDefault 6 "method" text none
    timeoutMs := ← g.withDefault 7 "timeout_ms" (fun v ↦ (readNat 64 v).map some) none }

/-- A result code with its status. -/
def readErrorCode (value : Toml) : Option ErrorCodeConfig := do
  let g ← Group.ofToml? value
  return {
    code := ← g.required 0 "code" (readInt (-2147483648) 2147483647)
    httpStatus := ← g.required 1 "http_status" (readNat 16) }

/-- All settings, from the top-level table of a document. -/
def ofMembers? (members : List (String × Toml)) : Option Config := do
  let g : Group := .named members
  return {
    listener := ← g.withDefault 0 "listener" readListener {}
    timeouts := ← g.withDefault 1 "timeouts" readTimeouts {}
    proxy := ← g.withDefault 2 "proxy" readProxy {}
    grpc := ← g.withDefault 3 "grpc" readGrpc {}
    observability := ← g.withDefault 4 "observability" readObservability {}
    routes := ← g.withDefault 5 "routes" (readList readRoute) []
    errorCodes := ← g.withDefault 6 "error_codes" (readList readErrorCode) []
    successStatuses := ← g.withDefault 7 "success_statuses" (readList (readNat 16)) [] }

/-- Why there is no configuration. -/
inductive Fault
  | missing
  | notText
  /-- The text is no TOML, or a setting is of the wrong type or out of its range. -/
  | malformed
  | invalid (problems : List Problem)
  deriving DecidableEq, Repr

/-- The wording of a fault; nothing is said about where a text is malformed. -/
def Fault.message : Fault → String
  | missing => "IO error: No such file or directory (os error 2)"
  | notText => "IO error: stream did not contain valid UTF-8"
  | malformed => "Parse error"
  | invalid problems => "Validation failed: " ++ ", ".intercalate (problems.map Problem.text)

/-- The configuration of a text. -/
def ofText (s : String) : Except Fault Config :=
  match (Toml.ofText? s).bind ofMembers? with
  | none => .error .malformed
  | some c =>
    match c.problems with
    | [] => .ok c
    | problems => .error (.invalid problems)

/-- The configuration of a file, given its content if there is such a file. -/
def ofFile : Option Bytes → Except Fault Config
  | none => .error .missing
  | some content =>
    match Utf8.decode? content with
    | none => .error .notText
    | some s => ofText s

end Config
end HttpGateway
