/-!
# Error codes

Every failure of the portal has a numeric code, by which a user interface chooses its words. Codes
below 1000 are general; 1xxx concern sign-in, 2xxx permissions, 3xxx storage, 4xxx request forms and
9xxx the system.
-/

namespace AccessPortal

inductive ErrorCode where
  /-- Validation failed. -/
  | validationFailed
  /-- Resource not found. -/
  | notFound
  /-- Invalid request. -/
  | invalidRequest
  /-- User is not authenticated. -/
  | notAuthenticated
  /-- Invalid credentials (username/password). -/
  | invalidCredentials
  /-- Session has expired or was revoked. -/
  | sessionExpired
  /-- Auth service could not be reached. -/
  | authServiceUnavailable
  /-- Auth service returned a role outside the catalog. -/
  | unknownRole
  /-- Auth service returned an unexpected payload. -/
  | invalidAuthResponse
  /-- Permission denied. -/
  | permissionDenied
  /-- Durable storage could not be read. -/
  | storageReadFailed
  /-- Durable storage rejected a write. -/
  | storageWriteFailed
  /-- Stored data could not be decoded. -/
  | storageCorrupted
  /-- Field id not present in the request type. -/
  | formFieldNotFound
  /-- Field id already present in the request type. -/
  | formFieldExists
  /-- Field id not offered by the field catalog. -/
  | formFieldNotInCatalog
  /-- Default fields can be disabled but not removed. -/
  | formFieldIsDefault
  /-- Internal error. -/
  | internalError
  /-- Network error. -/
  | networkError
  /-- Configuration error. -/
  | configError
  deriving DecidableEq, Repr, Inhabited

namespace ErrorCode

def all : List ErrorCode :=
  [.validationFailed, .notFound, .invalidRequest, .notAuthenticated, .invalidCredentials,
   .sessionExpired, .authServiceUnavailable, .unknownRole, .invalidAuthResponse,
   .permissionDenied, .storageReadFailed, .storageWriteFailed, .storageCorrupted,
   .formFieldNotFound, .formFieldExists, .formFieldNotInCatalog, .formFieldIsDefault,
   .internalError, .networkError, .configError]

/-- The number of a code, which is also how it is transmitted. -/
def number : ErrorCode → UInt16
  | .validationFailed => 2
  | .notFound => 3
  | .invalidRequest => 5
  | .notAuthenticated => 1001
  | .invalidCredentials => 1002
  | .sessionExpired => 1005
  | .authServiceUnavailable => 1010
  | .unknownRole => 1011
  | .invalidAuthResponse => 1012
  | .permissionDenied => 2001
  | .storageReadFailed => 3001
  | .storageWriteFailed => 3002
  | .storageCorrupted => 3003
  | .formFieldNotFound => 4001
  | .formFieldExists => 4002
  | .formFieldNotInCatalog => 4003
  | .formFieldIsDefault => 4004
  | .internalError => 9001
  | .networkError => 9003
  | .configError => 9005

/-- Whether the user may succeed by trying the same thing again. -/
def isRetryable : ErrorCode → Bool
  | .authServiceUnavailable | .storageReadFailed | .storageWriteFailed | .networkError => true
  | _ => false

/-- What the user is told. -/
def message : ErrorCode → String
  | .validationFailed => "Validation failed"
  | .notFound => "Resource not found"
  | .invalidRequest => "Invalid request"
  | .notAuthenticated => "Please sign in to continue"
  | .invalidCredentials => "Invalid username or password"
  | .sessionExpired => "Your session has expired, please sign in again"
  | .authServiceUnavailable => "The sign-in service is unavailable, try again later"
  | .unknownRole => "Your account has a role this portal does not recognise"
  | .invalidAuthResponse => "The sign-in service returned an unexpected response"
  | .permissionDenied => "You do not have permission to do that"
  | .storageReadFailed => "Saved data could not be read"
  | .storageWriteFailed => "Changes could not be saved, try again"
  | .storageCorrupted => "Saved data is corrupted"
  | .formFieldNotFound => "Form field not found"
  | .formFieldExists => "Form field already present"
  | .formFieldNotInCatalog => "Form field is not available in the catalog"
  | .formFieldIsDefault => "Default form fields can only be disabled"
  | .internalError => "Internal error"
  | .networkError => "Network error"
  | .configError => "Configuration error"

/-- The code with the given number. -/
def ofNumber? (n : Nat) : Option ErrorCode :=
  all.find? (·.number.toNat == n)

/-- A code is displayed as its number. -/
def text (code : ErrorCode) : String :=
  toString code.number.toNat

end ErrorCode

/-- Numbers no error code. -/
structure InvalidErrorCode where
  number : Nat
  deriving DecidableEq, Repr

def InvalidErrorCode.message (e : InvalidErrorCode) : String :=
  "invalid error code: " ++ toString e.number

end AccessPortal
