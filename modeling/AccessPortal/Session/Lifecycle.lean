import AccessPortal.Session.Cache
import AccessPortal.Session.State

/-!
# The life of a session

Signing in and out, losing the session, and coming back to it from the cache. Each step is a program
that ends with its outcome and the session after it.

The cache only ever describes one user. A sign-in drops the session before it, in memory and in the
cache, whatever becomes of it; and failing to write the cache does not fail the sign-in. The auth
service has the last word: a rejected token ends the session, and a user that the service reports
replaces the cached one, while a service that cannot be reached leaves the cached session standing.
-/

namespace AccessPortal
namespace Session

def report (level : Log.Level) (message : String) (fields : List (String × String) := []) :
    Program Unit :=
  Log.report { level, source := .session, message, fields }

/-- Removes keys one after the other, whether or not each can be removed. -/
def clearKeys : List String → Program Unit
  | [] => pure ()
  | key :: keys => do
    match ← Store.remove key with
    | .ok () => pure ()
    | .error e =>
      report .warn "Failed to clear cached session key" [("key", key), ("error", e.message)]
    clearKeys keys

/-- Removes the cached session as far as the store allows. -/
def clearCache : Program Unit :=
  clearKeys StorageKey.sessionKeys

def tearDown (session : Session) : Program Session := do
  clearCache
  return session.cleared

/-- Writes the session to the cache; if that fails, says so and clears the cache. -/
def cache (session : CachedSession) (complaint : String) : Program Unit := do
  match ← session.persist.run with
  | .ok () => pure ()
  | .error e =>
    report .warn complaint [("error", (CacheError.storage e).message)]
    clearCache

/-! ## Signing in and out -/

def login (session : Session) (credentials : Credentials) :
    Program (Except AuthError User × Session) := do
  report .info "Signing in" [("username", credentials.username)]
  let session ← session.tearDown
  let session := { session with expired := false, state := .authenticating }
  match ← Service.login credentials with
  | .error e =>
    let session ← session.tearDown
    report .warn "Sign-in failed" [("username", credentials.username), ("error", e.message)]
    return (.error (.ofService e), session)
  | .ok grant =>
    match User.ofProfile grant.user with
    | .error role =>
      let session ← session.tearDown
      report .warn "Sign-in refused: unrecognised role"
        [("username", credentials.username), ("role", role.id)]
      return (.error (.unknownRole role.id), session)
    | .ok user =>
      let loggedInAt ← Clock.now
      cache ⟨grant.accessToken, grant.refreshToken, user, loggedInAt⟩
        "Failed to cache session, continuing without it"
      report .info "Signed in" [("user_id", user.id), ("role", user.role.id)]
      let session :=
        { session with
          accessToken := some grant.accessToken
          refreshToken := grant.refreshToken
          loggedInAt := some loggedInAt
          state := .authenticated user }
      return (.ok user, session)

/-- Signs out. The service is told if there is a token, and whatever it answers is no obstacle. -/
def logout (session : Session) : Program Session := do
  match session.accessToken with
  | some token =>
    match ← Service.logout token with
    | .ok () => pure ()
    | .error e => report .warn "Logout notification failed" [("error", e.message)]
  | none => pure ()
  let userId := session.currentUser.map (·.id)
  let session ← session.tearDown
  report .info "Signed out"
    [("user_id", userId.elim "None" fun id => "Some(" ++ Text.quoted id ++ ")")]
  return { session with expired := false }

/-- Drops a session whose token the service has rejected. The service is not asked again. -/
def expire (session : Session) : Program Session := do
  if session.isAuthenticated then
    report .warn "Session rejected by server, signing out"
  let session ← session.tearDown
  return { session with expired := true }

/-- Drops the session if an error of the service means that it was rejected, and tells whether. -/
def observe (session : Session) (error : ServiceError) : Program (Bool × Session) := do
  if error.isAuthFailure then
    return (true, ← session.expire)
  else
    return (false, session)

/-! ## Coming back -/

/--
Takes the session from the cache, if one is there. A cache that is incomplete or contradicts itself
is cleared; one that the store fails to read is left alone.
-/
def tryRestore (session : Session) : Program (Except CacheError Bool × Session) := do
  match ← CachedSession.load.run with
  | .ok (some cached) =>
    report .info "Restored cached session"
      [("user_id", cached.user.id), ("role", cached.user.role.id)]
    let session :=
      { session with
        accessToken := some cached.accessToken
        refreshToken := cached.refreshToken
        loggedInAt := some cached.loggedInAt
        state := .authenticated cached.user }
    return (.ok true, session)
  | .ok none =>
    report .debug "No cached session"
    return (.ok false, session.cleared)
  | .error (.storage e) => return (.error (.storage e), session.cleared)
  | .error e => return (.error e, ← session.tearDown)

/-- Takes the session from the cache and tells whether there is one now. -/
def restore (session : Session) : Program (Bool × Session) := do
  match ← session.tryRestore with
  | (.ok restored, session) => return (restored, session)
  | (.error e, session) =>
    report .warn "Could not restore cached session"
      [("error", e.message), ("code", e.code.text)]
    return (false, session)

/-- Reports that the service describes the user otherwise than the session does. -/
def announce (session : Session) (user : User) : Program Unit :=
  if session.currentUser ≠ some user then
    report .info "Session updated from server" [("user_id", user.id), ("role", user.role.id)]
  else
    pure ()

/-- When the user signed in; a session that does not know begins now. -/
def signInTime (session : Session) : Program Int64 :=
  match session.loggedInAt with
  | some time => pure time
  | none => Clock.now

/-- Goes on with the user that the service reports. -/
def confirm (session : Session) (token : String) (user : User) : Program (Bool × Session) := do
  session.announce user
  let loggedInAt ← session.signInTime
  cache ⟨token, session.refreshToken, user, loggedInAt⟩ "Failed to cache reconciled session"
  return (true, { session with state := .authenticated user })

/-- Goes on with what the service answers about the token of the session. -/
def reconcile (session : Session) (token : String) :
    Except ServiceError Profile → Program (Bool × Session)
  | .error e => do
    if e.isAuthFailure then
      return (false, ← session.expire)
    else
      report .warn "Could not reconcile session, keeping cached copy" [("error", e.message)]
      return (true, session)
  | .ok profile =>
    match User.ofProfile profile with
    | .error role => do
      report .warn "Server reports an unrecognised role, signing out" [("role", role.id)]
      return (false, ← session.tearDown)
    | .ok user => session.confirm token user

/-- Takes the session from the cache and lets the service confirm who the user is. -/
def resume (session : Session) : Program (Bool × Session) := do
  let (restored, session) ← session.restore
  match restored, session.accessToken with
  | true, some token => session.reconcile token (← Service.currentUser token)
  | _, _ => return (false, session)

end Session
end AccessPortal
