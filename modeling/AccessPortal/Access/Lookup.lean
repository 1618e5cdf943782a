import AccessPortal.Access.Role

/-!
# Authorization by id

Answers for callers that hold only the id of a role or of a permission, for example one read back
from storage. An id outside the catalogs grants nothing: every question about it has an answer, and
the answer is no.
-/

namespace AccessPortal

/-- The permissions of a role as a set, listed in catalog order. -/
def Role.permissionSet (role : Role) : List Permission :=
  Permission.all.filter role.hasPermission

namespace Access

def hasPermission (role : String) (permission : Permission) : Bool :=
  (Role.ofId? role).any (·.hasPermission permission)

/-- Whether the role and the permission with the given ids exist and the role holds it. -/
def hasPermissionId (role permission : String) : Bool :=
  (Permission.ofId? permission).any (hasPermission role)

def permissionsOf (role : String) : List Permission :=
  ((Role.ofId? role).map (·.permissionSet)).getD []

/--
The permissions of a role split by functional area, each part in the role's own order. Areas in
which the role holds nothing are left out.
-/
def permissionsByArea (role : Role) : List (PermissionArea × List Permission) :=
  PermissionArea.all.filterMap fun area =>
    match role.permissions.filter (·.area == area) with
    | [] => none
    | held => some (area, held)

end Access
end AccessPortal
