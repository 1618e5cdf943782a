import AccessPortal.Access.Lookup
import AccessPortal.Account.User
import AccessPortal.Calendar
import AccessPortal.Forms.Form
import AccessPortal.Navigation.Item
import AccessPortal.Text.Column

/-!
# What the console prints

Everything is printed as lines, with columns of fixed widths.
-/

namespace AccessPortal
namespace Console

open Text (alignLeft alignRight)

def roleLine (role : Role) : String :=
  alignLeft 24 role.id ++ " " ++ alignLeft 26 role.displayName ++ " "
    ++ alignRight 3 (toString role.permissions.length) ++ " permissions  " ++ role.description

/-- The permissions of a role under the names of their areas. -/
def permissionLines (role : Role) : List String :=
  (role.displayName ++ " (" ++ role.id ++ ")")
    :: (Access.permissionsByArea role).flatMap fun (area, permissions) =>
      ("  " ++ area.displayName) :: permissions.map fun permission => "    " ++ permission.id

def checkLine (role : Role) (permission : Permission) : String :=
  role.id ++ (if role.hasPermission permission then " has " else " lacks ") ++ permission.id

mutual

/-- An item and everything below it, each level indented further. -/
def itemLines (indent : Nat) : NavigationItem → List String
  | ⟨name, path, _, children⟩ =>
    (alignLeft indent "" ++ alignLeft 28 name ++ " " ++ path)
      :: match children with
        | none => []
        | some items => treeLines (indent + 2) items

def treeLines (indent : Nat) : List NavigationItem → List String
  | [] => []
  | item :: items => itemLines indent item ++ treeLines indent items

end

/-- The user, and when they signed in if that is a date of the calendar. -/
def userLines (user : User) (loggedInAt : Option Int64) : List String :=
  [user.name ++ " <" ++ user.email ++ ">",
   "  id:         " ++ user.id,
   "  department: " ++ user.department,
   "  role:       " ++ user.role.displayName ++ " (" ++ user.role.id ++ ")"]
    ++ ((loggedInAt.bind fun time => Calendar.ofMilliseconds? time.toInt).map fun time =>
      "  signed in:  " ++ time.text).toList

/-- The fields that are printed of a form, as they are displayed. -/
def printedFields (form : RequestForm) (all : Bool) : List FormField :=
  sortByOrder (·.order) (form.fields.filter fun field => all || field.enabled)

def fieldLine (field : FormField) : String :=
  let remarks :=
    (if field.required then ["required"] else []) ++ if field.enabled then [] else ["disabled"]
  "  " ++ alignRight 3 (toString field.order.toInt) ++ "  " ++ alignLeft 20 field.id ++ " "
    ++ alignLeft 26 field.label ++ " " ++ alignLeft 9 field.type.id ++ " "
    ++ String.intercalate ", " remarks

def formLines (form : RequestForm) (all : Bool) : List String :=
  (form.name ++ " [" ++ (if form.enabled then "enabled" else "disabled") ++ "] - "
      ++ form.description)
    :: (printedFields form all).map fieldLine

def catalogLine (field : FormField) : String :=
  alignLeft 20 field.id ++ " " ++ alignLeft 22 field.label ++ " " ++ field.category

end Console
end AccessPortal
