import AccessPortal.Access.Codec
import AccessPortal.Account.User

/-!
# Users, sign-in requests and grants in JSON

Members are written in the order in which the layouts list them.
-/

namespace AccessPortal

namespace Profile

def toJson (profile : Profile) : Json :=
  .object
    [("id", .string profile.id), ("role", .string profile.role), ("name", .string profile.name),
     ("email", .string profile.email), ("department", .string profile.department)]

/-- The members of a profile; a missing department is empty. -/
def layout : List Json.Slot :=
  [⟨"id", false⟩, ⟨"role", false⟩, ⟨"name", false⟩, ⟨"email", false⟩, ⟨"department", true⟩]

def ofJson? (value : Json) : Option Profile := do
  let [id, role, name, email, department] ← Json.slots layout value | none
  return {
    id := ← Json.required Json.asString id
    role := ← Json.required Json.asString role
    name := ← Json.required Json.asString name
    email := ← Json.required Json.asString email
    department := ← Json.orElse "" Json.asString department }

end Profile

namespace User

def toJson (user : User) : Json :=
  .object
    [("id", .string user.id), ("name", .string user.name), ("email", .string user.email),
     ("department", .string user.department), ("role", user.role.toJson)]

def layout : List Json.Slot :=
  [⟨"id", false⟩, ⟨"name", false⟩, ⟨"email", false⟩, ⟨"department", false⟩, ⟨"role", false⟩]

def ofJson? (value : Json) : Option User := do
  let [id, name, email, department, role] ← Json.slots layout value | none
  return {
    id := ← Json.required Json.asString id
    name := ← Json.required Json.asString name
    email := ← Json.required Json.asString email
    department := ← Json.required Json.asString department
    role := ← Json.required Role.ofJson? role }

end User

namespace Credentials

def toJson (credentials : Credentials) : Json :=
  .object
    [("username", .string credentials.username), ("password", .string credentials.password)]

def layout : List Json.Slot :=
  [⟨"username", false⟩, ⟨"password", false⟩]

def ofJson? (value : Json) : Option Credentials := do
  let [username, password] ← Json.slots layout value | none
  return {
    username := ← Json.required Json.asString username
    password := ← Json.required Json.asString password }

end Credentials

namespace Grant

/-- A grant without a refresh token is written without that member. -/
def toJson (grant : Grant) : Json :=
  .object
    (("accessToken", .string grant.accessToken)
      :: (Json.memberIfSome "refreshToken" .string grant.refreshToken
        ++ [("user", grant.user.toJson)]))

def layout : List Json.Slot :=
  [⟨"accessToken", false⟩, ⟨"refreshToken", true⟩, ⟨"user", false⟩]

def ofJson? (value : Json) : Option Grant := do
  let [accessToken, refreshToken, user] ← Json.slots layout value | none
  return {
    accessToken := ← Json.required Json.asString accessToken
    refreshToken := ← Json.optional Json.asString refreshToken
    user := ← Json.required Profile.ofJson? user }

end Grant
end AccessPortal
