import AccessPortal.Access.Role
import AccessPortal.Detail
import AccessPortal.Storage.Key

/-!
# Errors around the session

Three kinds, each closer to the user than the one before: what a request to the auth service ends
in, why there is no signed-in user, and why a cached session cannot be restored.
-/

namespace AccessPortal

/-- What a request to the auth service ends in when it does not succeed. -/
inductive ServiceError where
  /-- The request did not reach the service or its answer did not come back. -/
  | transport
  | invalidResponse (detail : String)
  | unauthorized
  | forbidden (message : String)
  | notFound (message : String)
  | validation (message : String)
  | internal (message : String)
  /-- A value could not be put into JSON or taken out of it. -/
  | serialization
  | configuration (message : String)
  deriving DecidableEq, Repr

namespace ServiceError

def message : ServiceError → String
  | .transport => "HTTP error: " ++ Detail.transport
  | .invalidResponse detail => "Invalid response: " ++ detail
  | .unauthorized => "Authentication required"
  | .forbidden message => "Permission denied: " ++ message
  | .notFound message => "Not found: " ++ message
  | .validation message => "Validation error: " ++ message
  | .internal message => "Internal error: " ++ message
  | .serialization => "Serialization error: " ++ Detail.json
  | .configuration message => "Configuration error: " ++ message

def code : ServiceError → ErrorCode
  | .transport => .networkError
  | .invalidResponse _ | .serialization => .invalidAuthResponse
  | .unauthorized => .notAuthenticated
  | .forbidden _ => .permissionDenied
  | .notFound _ => .notFound
  | .validation _ => .invalidRequest
  | .internal _ => .internalError
  | .configuration _ => .configError

/-- Whether the service rejected the caller's credentials or token. -/
def isAuthFailure : ServiceError → Bool
  | .unauthorized => true
  | _ => false

end ServiceError

/-- Why there is no signed-in user, in words for the user. -/
inductive AuthError where
  | invalidCredentials
  | denied (message : String)
  | unavailable (detail : String)
  | unknownRole (role : String)
  | invalidResponse (detail : String)
  | notAuthenticated
  | sessionExpired
  deriving DecidableEq, Repr

namespace AuthError

def message : AuthError → String
  | .invalidCredentials => "Invalid username or password"
  | .denied message => "Sign-in was refused: " ++ message
  | .unavailable detail => "Authentication service unavailable: " ++ detail
  | .unknownRole role => "Account role '" ++ role ++ "' is not recognised by this portal"
  | .invalidResponse detail => "Unexpected response from authentication service: " ++ detail
  | .notAuthenticated => "Please sign in to continue"
  | .sessionExpired => "Your session has expired, please sign in again"

def code : AuthError → ErrorCode
  | .invalidCredentials => .invalidCredentials
  | .denied _ => .permissionDenied
  | .unavailable _ => .authServiceUnavailable
  | .unknownRole _ => .unknownRole
  | .invalidResponse _ => .invalidAuthResponse
  | .notAuthenticated => .notAuthenticated
  | .sessionExpired => .sessionExpired

/-- What a failed sign-in request means to the user. -/
def ofService : ServiceError → AuthError
  | .unauthorized | .validation _ => .invalidCredentials
  | .forbidden message => .denied message
  | .transport => .unavailable Detail.transport
  | .internal message | .notFound message | .configuration message => .unavailable message
  | .invalidResponse detail => .invalidResponse detail
  | .serialization => .invalidResponse Detail.json

end AuthError

/-- Why a cached session cannot be restored. -/
inductive CacheError where
  | storage (cause : StorageError)
  /-- The stored profile is not the text of a profile. -/
  | corrupt
  /-- Some of the keys of a session are there and others are not. -/
  | incomplete
  | unknownRole (role : UnknownRole)
  | roleMismatch (cached profile : Role)
  deriving DecidableEq, Repr

namespace CacheError

def message : CacheError → String
  | .storage cause => "Session cache storage error: " ++ cause.message
  | .corrupt => "Session cache is corrupt: " ++ Detail.json
  | .incomplete => "Session cache is incomplete"
  | .unknownRole role => "Session cache has an unrecognised role: " ++ role.message
  | .roleMismatch cached profile =>
    "Session cache role mismatch: cached " ++ cached.id ++ " but profile says " ++ profile.id

def code : CacheError → ErrorCode
  | .storage cause => cause.code
  | .corrupt | .incomplete | .unknownRole _ | .roleMismatch _ _ => .storageCorrupted

end CacheError
end AccessPortal
