import HttpGateway.Error

/-!
# Call statuses of gRPC

A gRPC call ends with one of seventeen codes and a message. Every status other than success becomes
a transport error, in which a passed deadline and a cancelled call keep codes of their own.
-/

namespace HttpGateway.Grpc

/-- How a call ended. -/
inductive Code
  | ok
  | cancelled
  | unknown
  | invalidArgument
  | deadlineExceeded
  | notFound
  | alreadyExists
  | permissionDenied
  | resourceExhausted
  | failedPrecondition
  | aborted
  | outOfRange
  | unimplemented
  | internal
  | unavailable
  | dataLoss
  | unauthenticated
  deriving DecidableEq, Repr

namespace Code

/-- The codes in the order of their numbers, which start from zero. -/
def all : List Code := [
  ok, cancelled, unknown, invalidArgument, deadlineExceeded, notFound, alreadyExists,
  permissionDenied, resourceExhausted, failedPrecondition, aborted, outOfRange, unimplemented,
  internal, unavailable, dataLoss, unauthenticated]

/-- The code that a field names: its number in decimal without leading zeros; anything else says
that the outcome is unknown. -/
def ofDigits (field : Bytes) : Code :=
  (all.find? fun code ↦ Decimal.digits (all.idxOf code) = field).getD unknown

/-- The code for a response that names none, judged by its HTTP status. -/
def ofHttp : Nat → Code
  | 400 => internal
  | 401 => unauthenticated
  | 403 => permissionDenied
  | 404 => unimplemented
  | 429 | 502 | 503 | 504 => unavailable
  | _ => unknown

/-- The name of a code. -/
def name : Code → String
  | ok => "Ok"
  | cancelled => "Cancelled"
  | unknown => "Unknown"
  | invalidArgument => "InvalidArgument"
  | deadlineExceeded => "DeadlineExceeded"
  | notFound => "NotFound"
  | alreadyExists => "AlreadyExists"
  | permissionDenied => "PermissionDenied"
  | resourceExhausted => "ResourceExhausted"
  | failedPrecondition => "FailedPrecondition"
  | aborted => "Aborted"
  | outOfRange => "OutOfRange"
  | unimplemented => "Unimplemented"
  | internal => "Internal"
  | unavailable => "Unavailable"
  | dataLoss => "DataLoss"
  | unauthenticated => "Unauthenticated"

/-- What a code means, in words. -/
def meaning : Code → String
  | ok => "The operation completed successfully"
  | cancelled => "The operation was cancelled"
  | unknown => "Unknown error"
  | invalidArgument => "Client specified an invalid argument"
  | deadlineExceeded => "Deadline expired before operation could complete"
  | notFound => "Some requested entity was not found"
  | alreadyExists => "Some entity that we attempted to create already exists"
  | permissionDenied => "The caller does not have permission to execute the specified operation"
  | resourceExhausted => "Some resource has been exhausted"
  | failedPrecondition =>
    "The system is not in a state required for the operation's execution"
  | aborted => "The operation was aborted"
  | outOfRange => "Operation was attempted past the valid range"
  | unimplemented => "Operation is not implemented or not supported"
  | internal => "Internal error"
  | unavailable => "The service is currently unavailable"
  | dataLoss => "Unrecoverable data loss or corruption"
  | unauthenticated => "The request does not have valid authentication credentials"

/-- The result code of a call that ended so. -/
def resultCode : Code → ResultCode
  | deadlineExceeded => .clientInvokeTimeout
  | cancelled => .clientCanceled
  | _ => .clientNetError

end Code

/-- The status of a call that did not succeed. -/
structure Failure where
  code : Code
  message : String
  deriving DecidableEq, Repr

/-- A failed call is a transport error. -/
def Failure.error (failure : Failure) : GatewayError :=
  .transport failure.code.resultCode ("grpc " ++ failure.code.meaning ++ ": " ++ failure.message)

end HttpGateway.Grpc
