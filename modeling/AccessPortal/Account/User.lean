import AccessPortal.Access.Lookup

/-!
# Users

The auth service describes a user by a `Profile`, whose role is any text. A `User` has a role of the
catalog; becoming one is where a foreign role is refused. Permissions are never stored with a user,
they always follow from the role.
-/

namespace AccessPortal

/-- A user as the auth service describes them. -/
structure Profile where
  id : String
  role : String
  name : String
  email : String
  department : String := ""
  deriving DecidableEq, Repr, Inhabited

structure User where
  id : String
  name : String
  email : String
  department : String
  role : Role
  deriving DecidableEq, Repr, Inhabited

namespace User

/-- The user that a profile describes, provided that its role is in the catalog. -/
def ofProfile (profile : Profile) : Except UnknownRole User :=
  match Role.parse profile.role with
  | .ok role => .ok ⟨profile.id, profile.name, profile.email, profile.department, role⟩
  | .error e => .error e

def toProfile (user : User) : Profile :=
  ⟨user.id, user.role.id, user.name, user.email, user.department⟩

def permissions (user : User) : List Permission :=
  user.role.permissionSet

def hasPermission (user : User) (permission : Permission) : Bool :=
  user.role.hasPermission permission

end User

structure Credentials where
  username : String
  password : String
  deriving DecidableEq, Inhabited

/-- What the auth service hands out at sign-in. -/
structure Grant where
  accessToken : String
  refreshToken : Option String
  user : Profile
  deriving DecidableEq, Repr, Inhabited

end AccessPortal
