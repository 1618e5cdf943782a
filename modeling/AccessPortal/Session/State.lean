import AccessPortal.Account.User
import AccessPortal.Navigation.Item
import AccessPortal.Session.Error
import AccessPortal.Text.Quoted

/-!
# The session

A session holds the signed-in user and the tokens issued at sign-in. A session that is not signed in
grants nothing: every check fails and no part of the navigation tree is visible.
-/

namespace AccessPortal

inductive AuthState where
  | unauthenticated
  /-- The auth service has been asked and has not answered yet. -/
  | authenticating
  | authenticated (user : User)
  deriving DecidableEq, Repr, Inhabited

structure Session where
  state : AuthState := .unauthenticated
  accessToken : Option String := none
  refreshToken : Option String := none
  /-- When the user signed in, in milliseconds since the start of 1970. -/
  loggedInAt : Option Int64 := none
  /-- The service rejected the session, and nobody has signed in or out since. -/
  expired : Bool := false
  deriving DecidableEq, Repr, Inhabited

namespace Session

def currentUser (session : Session) : Option User :=
  match session.state with
  | .authenticated user => some user
  | _ => none

def isAuthenticated (session : Session) : Bool :=
  session.currentUser.isSome

def currentRole (session : Session) : Option Role :=
  session.currentUser.map (·.role)

/-- The signed-in user, or why there is none. -/
def requireUser (session : Session) : Except AuthError User :=
  match session.currentUser with
  | some user => .ok user
  | none => .error (if session.expired then .sessionExpired else .notAuthenticated)

/-- The session without a user and without tokens. -/
def cleared (session : Session) : Session :=
  { session with
    state := .unauthenticated, accessToken := none, refreshToken := none, loggedInAt := none }

/-! ## Authorization -/

def checkPermission (session : Session) (permission : Permission) : Bool :=
  session.currentRole.any (·.hasPermission permission)

def checkAny (session : Session) (permissions : List Permission) : Bool :=
  session.currentRole.any (·.hasAny permissions)

def checkAll (session : Session) (permissions : List Permission) : Bool :=
  session.currentRole.any (·.hasAll permissions)

def visibleNavigation (session : Session) (tree : List NavigationItem) : List NavigationItem :=
  session.currentRole.elim [] (NavigationItem.visibleTo · tree)

end Session

/-! ## Diagnostics -/

def Role.diagnosticName : Role → String
  | .endUser => "EndUser"
  | .manager => "Manager"
  | .roleOwner => "RoleOwner"
  | .securityAdmin => "SecurityAdmin"
  | .complianceOfficer => "ComplianceOfficer"
  | .auditor => "Auditor"
  | .firefighterController => "FirefighterController"
  | .systemAdmin => "SystemAdmin"

def User.diagnostic (user : User) : String :=
  "User \x7b id: " ++ Text.quoted user.id ++ ", name: " ++ Text.quoted user.name
    ++ ", email: " ++ Text.quoted user.email ++ ", department: " ++ Text.quoted user.department
    ++ ", role: " ++ user.role.diagnosticName ++ " \x7d"

def AuthState.diagnostic : AuthState → String
  | .unauthenticated => "Unauthenticated"
  | .authenticating => "Authenticating"
  | .authenticated user => "Authenticated(" ++ user.diagnostic ++ ")"

/-- A session as diagnostics show it; of the tokens, only whether there is one. -/
def Session.diagnostic (session : Session) : String :=
  "AuthSession \x7b state: " ++ session.state.diagnostic
    ++ ", has_token: " ++ toString session.accessToken.isSome
    ++ ", expired: " ++ toString session.expired ++ " \x7d"

/-- Credentials as diagnostics show them; the password is never shown. -/
def Credentials.diagnostic (credentials : Credentials) : String :=
  "Credentials \x7b username: " ++ Text.quoted credentials.username
    ++ ", password: " ++ Text.quoted "<redacted>" ++ " \x7d"

end AccessPortal
