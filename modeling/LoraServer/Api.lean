import LoraServer.Types

/-!
The `api` package's `errToRPCError` (`internal/api/errors.go`): an error's cause picks the gRPC
status code through the `errToCode` table, and the status carries the cause.
-/

namespace LoraServer

/-- The gRPC status codes the table uses. -/
inductive Code
  | unknown | invalidArgument | notFound | alreadyExists | failedPrecondition | internal
deriving DecidableEq, Repr

/-- `errToCode`. -/
def errToCode : Sentinel → Option Code
  | .errFPortMustNotBeZero => some .invalidArgument
  | .errFPortMustBeZero => some .invalidArgument
  | .errNoLastRXInfoSet => some .failedPrecondition
  | .errInvalidDataRate => some .internal
  | .errMaxPayloadSizeExceeded => some .invalidArgument
  | .gatewayErrDoesNotExist => some .notFound
  | .gatewayErrAlreadyExists => some .alreadyExists
  | .gatewayErrInvalidAggregationInterval => some .invalidArgument
  | .gatewayErrInvalidName => some .invalidArgument
  | .sessionErrDoesNotExistOrFCntOrMICInvalid => some .notFound
  | .sessionErrDoesNotExist => some .notFound

/-- `errToRPCError`: the status code of the error's cause, `codes.Unknown` when the cause is
not in the table, and the cause itself. -/
def errToRPCError (err : GoError) : Code × GoError :=
  let cause := err.cause
  let code := match cause with
    | .sentinel e => (errToCode e).getD .unknown
    | _ => .unknown
  (code, cause)

end LoraServer
