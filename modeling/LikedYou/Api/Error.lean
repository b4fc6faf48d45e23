import LikedYou.Fault
import LikedYou.Json.Document

/-!
# Errors at the boundary

A caller only ever learns that a request was wrong, or that the service failed. Which storage fault
was behind a failure is never told: the message of a failure is fixed by the operation.
-/

namespace LikedYou.Api

/-- What sort of error it is. -/
inductive ErrorCode where
  | invalidInput
  | missingField
  | invalidPaginationToken
  | internalError
  | databaseError
  | serviceUnavailable
  deriving DecidableEq, Repr

namespace ErrorCode

/-- The codes as they are written in documents. -/
def names : List String :=
  ["INVALID_INPUT", "MISSING_FIELD", "INVALID_PAGINATION_TOKEN", "INTERNAL_ERROR",
    "DATABASE_ERROR", "SERVICE_UNAVAILABLE"]

/-- The place of a code in `names`. -/
def index : ErrorCode → Fin 6
  | invalidInput => 0
  | missingField => 1
  | invalidPaginationToken => 2
  | internalError => 3
  | databaseError => 4
  | serviceUnavailable => 5

/-- The code at a place in `names`. -/
def ofIndex : Fin 6 → ErrorCode
  | 0 => invalidInput
  | 1 => missingField
  | 2 => invalidPaginationToken
  | 3 => internalError
  | 4 => databaseError
  | 5 => serviceUnavailable

theorem ofIndex_index (code : ErrorCode) : ofIndex code.index = code := by cases code <;> rfl

theorem index_ofIndex : ∀ i : Fin 6, (ofIndex i).index = i := by decide

/-- The code as it is written in documents. -/
def name (code : ErrorCode) : String := names.get code.index

/-- The word for a code in plain text. -/
def word : ErrorCode → String
  | invalidInput => "InvalidInput"
  | missingField => "MissingField"
  | invalidPaginationToken => "InvalidPaginationToken"
  | internalError => "InternalError"
  | databaseError => "DatabaseError"
  | serviceUnavailable => "ServiceUnavailable"

/-- The HTTP status of an error. -/
def status : ErrorCode → Nat
  | invalidInput | missingField | invalidPaginationToken => 400
  | internalError | databaseError => 500
  | serviceUnavailable => 503

/-- The message where there is no better one. -/
def defaultMessage : ErrorCode → String
  | invalidInput => "Invalid input data"
  | missingField => "Required field is missing"
  | invalidPaginationToken => "Invalid pagination token"
  | internalError => "Internal server error"
  | databaseError => "Database operation failed"
  | serviceUnavailable => "Service temporarily unavailable"

/-- Whether the caller made a mistake. -/
def isInvalidArgument (code : ErrorCode) : Bool := code.status = 400

end ErrorCode

instance : Json.Document ErrorCode where
  shape := .choice ErrorCode.names
  toData := ErrorCode.index
  ofData := ErrorCode.ofIndex
  ofData_toData := ErrorCode.ofIndex_index
  toData_ofData := ErrorCode.index_ofIndex

/-- An error as a caller sees it. -/
structure Error where
  code : ErrorCode
  message : String
  deriving DecidableEq, Repr

instance : Json.Document Error where
  shape := .record "ApiError" <|
    .cons (.required "code") (Json.Document.shape ErrorCode) <|
    .cons (.required "message") .text .nil
  toData e := (Json.Document.toData e.code, e.message, ())
  ofData := fun (code, message, ()) => ⟨Json.Document.ofData code, message⟩
  ofData_toData e := congrArg (Error.mk · e.message) (Json.Document.ofData_toData e.code)
  toData_ofData := fun (code, message, ()) =>
    congrArg (·, message, ()) (Json.Document.toData_ofData (α := ErrorCode) code)

namespace Error

/-- An error with the default message of its code. -/
def ofCode (code : ErrorCode) : Error := ⟨code, code.defaultMessage⟩

/-- An error in plain text. -/
def text (e : Error) : String := s!"{e.code.word}: {e.message}"

/-- What the caller learns of a fault. `failure` is what is said when the storage failed. -/
def ofFault (failure : String) : Fault → Error
  | .invalidToken _ => ofCode .invalidPaginationToken
  | .missingField field => ⟨.missingField, s!"{field} is required"⟩
  | .sameUser => ⟨.invalidInput, "actor and recipient cannot be the same user"⟩
  | .mutualCheck _ => ⟨.internalError, "failed to check mutual like"⟩
  | .storage _ => ⟨.internalError, failure⟩

end Error

end LikedYou.Api
