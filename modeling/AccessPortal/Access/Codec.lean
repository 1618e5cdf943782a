import AccessPortal.Access.Role
import AccessPortal.ErrorCode
import AccessPortal.Json.Record

/-!
# Catalog entries in JSON

Permissions, areas and roles are written as their ids, error codes as their numbers.
-/

namespace AccessPortal

def PermissionArea.toJson (area : PermissionArea) : Json :=
  .string area.id

def PermissionArea.ofJson? : Json → Option PermissionArea :=
  Json.asName ofId?

def Permission.toJson (permission : Permission) : Json :=
  .string permission.id

def Permission.ofJson? : Json → Option Permission :=
  Json.asName ofId?

def Role.toJson (role : Role) : Json :=
  .string role.id

def Role.ofJson? : Json → Option Role :=
  Json.asName ofId?

def ErrorCode.toJson (code : ErrorCode) : Json :=
  .integer code.number.toNat

/-- A number in the range of error codes that is one of them. -/
def ErrorCode.ofJson? (value : Json) : Option ErrorCode := do
  let n ← Json.asIntegerIn 0 65535 value
  ofNumber? n.toNat

end AccessPortal
