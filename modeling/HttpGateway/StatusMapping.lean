import HttpGateway.Error
import HttpGateway.Http.Status
import HttpGateway.Shared

/-!
# From result codes to HTTP statuses

A table from result codes to statuses and a set of statuses that count as success. Both start from
fixed defaults and only ever grow: a code that is mapped and a status that is in the set cannot be
registered again, and after sealing nothing can be registered.

Calls share a mapping: a registration looks whether the mapping is open and what it holds while it
has the lock, and publishes a new table in place of the one that it saw.
-/

namespace HttpGateway

/-- The code table and the success statuses. -/
structure StatusMapping where
  codes : List (ResultCode × Status)
  success : List Status
  isSealed : Bool
  deriving DecidableEq

namespace StatusMapping

/-- The codes that every mapping starts with. -/
def seed : List (ResultCode × Status) := [
  (.serverDecodeFail, .badRequest),
  (.serverEncodeFail, .internalServerError),
  (.serverNoService, .notFound),
  (.serverNoFunction, .notFound),
  (.serverTimeout, .gatewayTimeout),
  (.serverOverload, .tooManyRequests),
  (.serverLimited, .tooManyRequests),
  (.serverAuthFail, .unauthorized),
  (.serverValidateFail, .badRequest),
  (.clientInvokeTimeout, .requestTimeout),
  (.clientCanceled, .requestTimeout),
  (.clientNetError, .internalServerError),
  (.unknown, .internalServerError),
  (.invalidRequest, .forbidden)]

/-- The mapping that a gateway starts with. -/
def initial : StatusMapping := ⟨seed, [.ok], false⟩

/-- The status that a code is mapped to. -/
def lookup? (m : StatusMapping) (code : ResultCode) : Option Status := m.codes.lookup code

/-- The status of a code; a code that is not mapped is an internal error. -/
def httpStatus (m : StatusMapping) (code : ResultCode) : Status :=
  (m.lookup? code).getD .internalServerError

/-- Whether a status counts as success. -/
def isSuccess (m : StatusMapping) (status : Status) : Bool := m.success.contains status

/-- Why a registration is refused. -/
inductive Refusal
  | closed
  | mapped (code : ResultCode) (status : Status)
  | listed (status : Status)
  deriving DecidableEq

/-- The wording of a refusal. -/
def Refusal.message : Refusal → String
  | .closed => "error mapping can only be extended during plugin setup"
  | .mapped code status => "code " ++ code.text ++ " already mapped to " ++ status.text
  | .listed status => "status " ++ status.text ++ " already registered as success"

/-- A refused registration is a fault in how the gateway is set up. -/
def Refusal.error (refusal : Refusal) : GatewayError := .config .unknown refusal.message

/-- Maps a code that is not mapped yet. -/
def registerCode (m : StatusMapping) (code : ResultCode) (status : Status) :
    Except Refusal StatusMapping :=
  if m.isSealed then .error .closed
  else match m.lookup? code with
    | some existing => .error (.mapped code existing)
    | none => .ok { m with codes := m.codes ++ [(code, status)] }

/-- Adds a success status that is not listed yet. -/
def registerSuccess (m : StatusMapping) (status : Status) : Except Refusal StatusMapping :=
  if m.isSealed then .error .closed
  else if m.isSuccess status then .error (.listed status)
  else .ok { m with success := m.success ++ [status] }

/-- Ends registration. -/
def close (m : StatusMapping) : StatusMapping := { m with isSealed := true }

/-- A registration succeeds exactly on an open mapping without the code. -/
theorem registerCode_isOk_iff (m : StatusMapping) (code : ResultCode) (status : Status) :
    (∃ m', m.registerCode code status = .ok m') ↔ m.isSealed = false ∧ m.lookup? code = none := by
  unfold registerCode
  cases m.isSealed <;> cases m.lookup? code <;> simp

/-- A success status is added exactly to an open mapping that does not list it. -/
theorem registerSuccess_isOk_iff (m : StatusMapping) (status : Status) :
    (∃ m', m.registerSuccess status = .ok m') ↔
      m.isSealed = false ∧ m.isSuccess status = false := by
  unfold registerSuccess
  cases m.isSealed <;> cases m.isSuccess status <;> simp

/-! ## Calls at the same time -/

open Shared (Section Call)

/-- What registering a code does under the lock. -/
def codeSection (code : ResultCode) (status : Status) : Section StatusMapping Refusal :=
  .look fun seen ↦
    if seen.isSealed then .refuse .closed
    else .look fun seen ↦
      match seen.lookup? code with
      | some existing => .refuse (.mapped code existing)
      | none => .publish fun now ↦ { now with codes := seen.codes ++ [(code, status)] }

/-- What registering a success status does under the lock. -/
def successSection (status : Status) : Section StatusMapping Refusal :=
  .look fun seen ↦
    if seen.isSealed then .refuse .closed
    else .look fun seen ↦
      if seen.isSuccess status then .refuse (.listed status)
      else .publish fun now ↦ { now with success := seen.success ++ [status] }

/-- A call of a mapping that calls share. -/
inductive Request
  | registerCode (code : ResultCode) (status : Status)
  | registerSuccess (status : Status)
  | close
  | httpStatus (code : ResultCode)
  | isSuccess (status : Status)
  | isSealed
  deriving DecidableEq

/-- What a question about a mapping is answered. -/
inductive Answer
  | status (status : Status)
  | flag (flag : Bool)
  deriving DecidableEq

/-- The steps of a call. -/
def Request.call : Request → Call StatusMapping Refusal Answer
  | .registerCode code status => .change (codeSection code status)
  | .registerSuccess status => .change (successSection status)
  | .close => .change (.publish StatusMapping.close)
  | .httpStatus code => .question fun m ↦ .status (m.httpStatus code)
  | .isSuccess status => .question fun m ↦ .flag (m.isSuccess status)
  | .isSealed => .question fun m ↦ .flag m.isSealed

/-- Left alone, registering a code under the lock is registering it. -/
@[simp] theorem run_codeSection (m : StatusMapping) (code : ResultCode) (status : Status) :
    (codeSection code status).run m = m.registerCode code status := by
  unfold codeSection registerCode
  cases opened : m.isSealed <;> cases found : m.lookup? code <;> simp [Section.run, opened, found]

/-- Left alone, registering a success status under the lock is registering it. -/
@[simp] theorem run_successSection (m : StatusMapping) (status : Status) :
    (successSection status).run m = m.registerSuccess status := by
  unfold successSection registerSuccess
  cases opened : m.isSealed <;> cases listed : m.isSuccess status <;>
    simp [Section.run, opened, listed]

end StatusMapping
end HttpGateway
