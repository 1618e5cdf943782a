import AccessPortal.Account.Codec
import AccessPortal.Json.Reader
import AccessPortal.Json.Writer
import AccessPortal.Program

/-!
# The session cache

A copy of the session in the store lets the portal come back signed in after a restart. It is spread
over four keys. `CachedSession.persist` first removes all of them, then writes the profile and the
role, and the access token last. `CachedSession.load` needs the access token, the role and the
profile together, and they must agree: so what a failure part-way leaves is never taken for a
session, and one user's token never stands beside another's profile.
-/

namespace AccessPortal

structure StoredProfile where
  user : Profile
  loggedInAt : Int64
  deriving DecidableEq, Repr, Inhabited

namespace StoredProfile

def toJson (stored : StoredProfile) : Json :=
  .object [("user", stored.user.toJson), ("loggedInAt", Json.ofInt64 stored.loggedInAt)]

def layout : List Json.Slot :=
  [⟨"user", false⟩, ⟨"loggedInAt", false⟩]

def ofJson? (value : Json) : Option StoredProfile := do
  let [user, loggedInAt] ← Json.slots layout value | none
  return {
    user := ← Json.required Profile.ofJson? user
    loggedInAt := ← Json.required Json.asInt64 loggedInAt }

def toText (stored : StoredProfile) : String :=
  stored.toJson.write

def parse (text : String) : Option StoredProfile :=
  (Json.read text).bind ofJson?

end StoredProfile

structure CachedSession where
  accessToken : String
  refreshToken : Option String
  user : User
  loggedInAt : Int64
  deriving DecidableEq, Repr, Inhabited

namespace CachedSession

/-- Removes keys one after the other, up to the first that cannot be removed. -/
def removeKeys : List String → ExceptT StorageError Program Unit
  | [] => pure ()
  | key :: keys => do
    ExceptT.mk (Store.remove key)
    removeKeys keys

/-- Replaces the cached session by this one, or stops at the first operation that fails. -/
def persist (session : CachedSession) : ExceptT StorageError Program Unit := do
  let profile : StoredProfile := ⟨session.user.toProfile, session.loggedInAt⟩
  removeKeys StorageKey.sessionKeys
  ExceptT.mk (Store.set StorageKey.userProfile profile.toText)
  ExceptT.mk (Store.set StorageKey.userRole session.user.role.id)
  match session.refreshToken with
  | some token => ExceptT.mk (Store.set StorageKey.refreshToken token)
  | none => pure ()
  ExceptT.mk (Store.set StorageKey.accessToken session.accessToken)

/-- The user and the sign-in time that a stored role and a stored profile agree on. -/
def identify (role profile : String) : Except CacheError (User × Int64) := do
  let cached ← (Role.parse role).mapError .unknownRole
  let stored ← match StoredProfile.parse profile with
    | some stored => .ok stored
    | none => .error .corrupt
  let user ← (User.ofProfile stored.user).mapError .unknownRole
  if user.role = cached then return (user, stored.loggedInAt)
  else .error (.roleMismatch cached user.role)

/-- What a key holds, a failure of the store being one of the cache. -/
def readKey (key : String) : ExceptT CacheError Program (Option String) :=
  ExceptT.mk do
    let reply ← Store.get key
    return reply.mapError .storage

/--
The cached session, or `none` if the store holds neither a token nor a role nor a profile. The
refresh token is read last, once everything else is in order.
-/
def load : ExceptT CacheError Program (Option CachedSession) := do
  let accessToken ← readKey StorageKey.accessToken
  let role ← readKey StorageKey.userRole
  let profile ← readKey StorageKey.userProfile
  match accessToken, role, profile with
  | none, none, none => return none
  | some accessToken, some role, some profile =>
    if accessToken.isEmpty then throw .incomplete
    else
      let (user, loggedInAt) ← ExceptT.mk (pure (identify role profile))
      let refreshToken ← readKey StorageKey.refreshToken
      return some { accessToken, refreshToken, user, loggedInAt }
  | _, _, _ => throw .incomplete

end CachedSession
end AccessPortal
