import AccessPortal.Account.User
import AccessPortal.Forms.Form
import AccessPortal.Settings

/-!
# Console commands

What an operator can ask for. Commands about the catalogs need nothing else; the others work on the
session or on the forms in the store.
-/

namespace AccessPortal
namespace Console

inductive FormsCommand where
  /-- Prints the fields of a form, the disabled ones only on request. -/
  | print (type : RequestType) (all : Bool)
  | setField (type : RequestType) (field : String) (patch : FieldPatch)
  | move (type : RequestType) (field : String) (direction : MoveDirection)
  | catalog (type : RequestType)
  | add (type : RequestType) (field : String)
  | remove (type : RequestType) (field : String)
  | reset
  deriving DecidableEq, Repr, Inhabited

inductive Command where
  | roles
  | permissions (role : Role)
  /-- Tells, also by the exit code, whether a role holds a permission. -/
  | check (role : Role) (permission : Permission)
  /-- Prints what a role sees of the navigation tree; without a role, what the user sees. -/
  | navigation (role : Option Role)
  | login (credentials : Credentials)
  | logout
  /-- Prints who is signed in, on request after asking the auth service. -/
  | whoami (reconcile : Bool)
  | forms (command : FormsCommand)
  deriving DecidableEq, Inhabited

/-- A command with the settings it runs under. -/
structure Invocation where
  settings : Settings
  command : Command
  deriving DecidableEq, Inhabited

end Console
end AccessPortal
