import AccessPortal.ErrorCode
import AccessPortal.Storage.SystemFault

/-!
# Storage keys and storage errors

What the portal stores is a cache of data issued by the auth service, plus the form customizations;
it is never the system of record. A key consists of ASCII letters, digits, underscores and hyphens,
so that it can serve as a file name.
-/

namespace AccessPortal

inductive StorageError where
  /-- The store itself could not be opened. -/
  | io (fault : SystemFault)
  | read (key : String) (fault : SystemFault)
  | write (key : String) (fault : SystemFault)
  | writeRejected (reason : String)
  | invalidKey (key : String)
  deriving DecidableEq, Repr

namespace StorageError

def message : StorageError → String
  | .io fault => "IO error: " ++ fault.text
  | .read key fault => "Failed to read '" ++ key ++ "': " ++ fault.text
  | .write key fault => "Failed to write '" ++ key ++ "': " ++ fault.text
  | .writeRejected reason => "Write rejected: " ++ reason
  | .invalidKey key => "Invalid storage key: " ++ key

def code : StorageError → ErrorCode
  | .read _ _ => .storageReadFailed
  | .io _ | .write _ _ | .writeRejected _ => .storageWriteFailed
  | .invalidKey _ => .invalidRequest

/-- What lies behind a storage error, the nearest cause first. -/
def causes : StorageError → List String
  | .io fault | .read _ fault | .write _ fault => [fault.text]
  | .writeRejected _ | .invalidKey _ => []

end StorageError

namespace StorageKey

def isKeyCharacter (c : Char) : Bool :=
  c.isAlphanum || c == '_' || c == '-'

def isValid (key : String) : Bool :=
  !key.isEmpty && key.toList.all isKeyCharacter

def check (key : String) : Except StorageError Unit :=
  if isValid key then .ok () else .error (.invalidKey key)

def accessToken : String := "access_token"
def refreshToken : String := "refresh_token"
def userRole : String := "user_role"
def userProfile : String := "user_profile"
def formConfigurations : String := "form_configurations"

/-- The keys that belong to the session, in the order in which they are removed. -/
def sessionKeys : List String :=
  [accessToken, refreshToken, userRole, userProfile]

end StorageKey
end AccessPortal
