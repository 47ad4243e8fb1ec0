import HttpGateway.Text.Decimal

/-!
# Gateway errors

A failure anywhere on the way of an exchange carries a kind, a result code and a message. The kind
decides whether a handler may turn it into a normal answer, the code selects the HTTP status, and
code and message reach the caller.
-/

namespace HttpGateway

/-- What sort of failure an error is. -/
inductive ErrorKind
  /-- The gateway is set up wrongly: an unregistered protocol, a missing transport. -/
  | config
  /-- The inbound request cannot be turned into a call. -/
  | request
  /-- The call failed before the service could answer. -/
  | transport
  /-- The service answered with a failure that is meant for the caller. -/
  | business
  /-- Anything else. -/
  | framework
  deriving DecidableEq, Repr

/-- The name of a kind. -/
def ErrorKind.name : ErrorKind → String
  | .config => "config"
  | .request => "request"
  | .transport => "transport"
  | .business => "business"
  | .framework => "framework"

/-- A result code shared by all downstream protocols. -/
structure ResultCode where
  value : Int
  deriving DecidableEq, Repr

namespace ResultCode

/-- The result codes that the gateway knows by name. -/
def serverDecodeFail : ResultCode := ⟨1⟩
@[inherit_doc serverDecodeFail] def serverEncodeFail : ResultCode := ⟨2⟩
@[inherit_doc serverDecodeFail] def serverNoService : ResultCode := ⟨11⟩
@[inherit_doc serverDecodeFail] def serverNoFunction : ResultCode := ⟨12⟩
@[inherit_doc serverDecodeFail] def serverTimeout : ResultCode := ⟨21⟩
@[inherit_doc serverDecodeFail] def serverOverload : ResultCode := ⟨22⟩
@[inherit_doc serverDecodeFail] def serverLimited : ResultCode := ⟨23⟩
@[inherit_doc serverDecodeFail] def serverSystemError : ResultCode := ⟨31⟩
@[inherit_doc serverDecodeFail] def serverAuthFail : ResultCode := ⟨41⟩
@[inherit_doc serverDecodeFail] def serverValidateFail : ResultCode := ⟨51⟩
@[inherit_doc serverDecodeFail] def clientInvokeTimeout : ResultCode := ⟨101⟩
@[inherit_doc serverDecodeFail] def clientConnectFail : ResultCode := ⟨111⟩
@[inherit_doc serverDecodeFail] def clientNetError : ResultCode := ⟨141⟩
@[inherit_doc serverDecodeFail] def clientCanceled : ResultCode := ⟨161⟩
@[inherit_doc serverDecodeFail] def unknown : ResultCode := ⟨999⟩
@[inherit_doc serverDecodeFail] def invalidRequest : ResultCode := ⟨10001⟩
@[inherit_doc serverDecodeFail] def unsupportedProtocol : ResultCode := ⟨10002⟩
@[inherit_doc serverDecodeFail] def noTransport : ResultCode := ⟨10003⟩

/-- The decimal text of a code. -/
def text (code : ResultCode) : String := Decimal.intText code.value

end ResultCode

/-- A failure on the way of an exchange. -/
structure GatewayError where
  kind : ErrorKind
  code : ResultCode
  message : String
  deriving DecidableEq, Repr

namespace GatewayError

/-- A fault in how the gateway is set up. -/
def config (code : ResultCode) (message : String) : GatewayError := ⟨.config, code, message⟩

/-- An inbound request that no call can be made of. -/
def invalidRequest (message : String) : GatewayError := ⟨.request, .invalidRequest, message⟩

/-- A protocol that nobody registered. -/
def unsupportedProtocol (name : String) : GatewayError :=
  config .unsupportedProtocol ("unsupported protocol: " ++ name)

/-- A call that failed before the service could answer. -/
def transport (code : ResultCode) (message : String) : GatewayError := ⟨.transport, code, message⟩

/-- A failure that the service means for the caller. -/
def business (code : ResultCode) (message : String) : GatewayError := ⟨.business, code, message⟩

/-- A failure of the gateway itself. -/
def framework (code : ResultCode) (message : String) : GatewayError := ⟨.framework, code, message⟩

/-- Only errors of the business kind may become a normal answer. -/
def isBusiness (e : GatewayError) : Bool := e.kind = .business

/-- The error in one line. -/
def describe (e : GatewayError) : String :=
  e.kind.name ++ " error, code: " ++ e.code.text ++ ", msg: " ++ e.message

end GatewayError

/-- An exchange is given up without an answer, because something that was taken for granted does not
hold. -/
structure Breakdown where
  message : String
  deriving DecidableEq, Repr

/-- What ends an exchange before its time. -/
inductive Halt
  | failed (e : GatewayError)
  | brokenOff (b : Breakdown)
  deriving DecidableEq, Repr

end HttpGateway
