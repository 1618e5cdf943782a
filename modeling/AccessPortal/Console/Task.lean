import AccessPortal.Console.Command
import AccessPortal.Console.Lines
import AccessPortal.Console.Report
import AccessPortal.Forms.Saving
import AccessPortal.Forms.Shipped
import AccessPortal.Navigation.PortalTree
import AccessPortal.Session.Lifecycle

/-!
# Commands at work

What a command does once the command line is understood. Some commands are done right away; the
others are programs over the store. A command about the session first checks that the settings let
it reach the auth service.

Commands about the forms load a working copy, and save it after a change (`FormsCommand.perform`).
-/

namespace AccessPortal
namespace Console

inductive Task : Type 1 where
  | finished (report : Report)
  /-- To be run over the opened store. -/
  | onStore (program : Program Report)

def Failure.ofForms (e : FormError) : Failure :=
  ⟨e.message, e.causes⟩

def Failure.ofAuth (e : AuthError) : Failure :=
  ⟨"[" ++ e.code.text ++ "] " ++ e.message, []⟩

/-! ## The forms -/

/-- What becomes of a command about the forms: the lines it prints, or why it failed. -/
abbrev Outcome := Except Failure (List String)

def saveChanges (copy : WorkingCopy) : Program (Outcome × WorkingCopy) := do
  if copy.unsaved then
    match ← copy.save with
    | (.ok (), copy) => return (.ok ["Saved"], copy)
    | (.error e, copy) => return (.error (.ofForms e), copy)
  else return (.ok [], copy)

/-- Goes on to save after a change, unless it failed. -/
def afterChange : Except FormError Unit × WorkingCopy → Program (Outcome × WorkingCopy)
  | (.ok (), copy) => saveChanges copy
  | (.error e, copy) => return (.error (.ofForms e), copy)

/-- A direction as it is named when there is no way on. -/
def endName : MoveDirection → String
  | .up => "Up"
  | .down => "Down"

/-- Carries out a command about the forms on a working copy. -/
def FormsCommand.perform (copy : WorkingCopy) :
    FormsCommand → Program (Outcome × WorkingCopy)
  | .print type all =>
    match copy.forms.form? type with
    | some form => return (.ok (formLines form all), copy)
    | none => return (.error ⟨type.id ++ " is not configured", []⟩, copy)
  | .catalog type => return (.ok ((copy.availableFields type).map catalogLine), copy)
  | .setField type field patch => afterChange (copy.updateField type field patch)
  | .move type field direction =>
    match copy.moveField type field direction with
    | (.ok true, copy) => saveChanges copy
    | (.ok false, copy) =>
      return (.ok [field ++ " is already at the " ++ endName direction ++ " end"], copy)
    | (.error e, copy) => return (.error (.ofForms e), copy)
  | .add type field => afterChange (copy.addField type field)
  | .remove type field => afterChange (copy.removeField type field)
  | .reset => do
    match ← copy.reset with
    | (.ok (), copy) => return (.ok ["Form configuration reset"], copy)
    | (.error e, copy) => return (.error (.ofForms e), copy)

def Report.ofOutcome : Outcome → Report
  | .ok lines => .ofLines lines
  | .error failure => .ofFailure failure

/-- A command about the forms as a run of its own. -/
def FormsCommand.program (command : FormsCommand) : Program Report := do
  let copy ← WorkingCopy.load .shipped FormField.catalog
  let (outcome, _) ← command.perform copy
  return .ofOutcome outcome

/-! ## The session -/

def navigationOfUser : Program Report := do
  let (restored, session) ← Session.restore {}
  if restored then
    return .ofLines (treeLines 0 (session.visibleNavigation NavigationItem.portalTree))
  else return .ofFailure ⟨"not signed in; pass --role or run `grc-console login`", []⟩

def login (credentials : Credentials) : Program Report := do
  match ← Session.login {} credentials with
  | (.ok user, _) =>
    return .ofLines ["Signed in as " ++ user.name ++ " (" ++ user.role.displayName ++ ")"]
  | (.error e, _) => return .ofFailure (.ofAuth e)

def logout : Program Report := do
  let (_, session) ← Session.restore {}
  let _ ← session.logout
  return .ofLines ["Signed out"]

def whoami (reconcile : Bool) : Program Report := do
  let (restored, session) ←
    if reconcile then Session.resume {} else Session.restore {}
  match session.requireUser with
  | .ok user =>
    return .ofLines
      (if restored then userLines user session.loggedInAt else ["Not signed in"])
  | .error e => return .ofLines ["Not signed in: [" ++ e.code.text ++ "] " ++ e.message]

/-- A program that may ask the auth service. -/
def withService (settings : Settings) (program : Program Report) : Task :=
  match settings.check with
  | .ok () => .onStore program
  | .error e => .finished (.ofFailure ⟨e.message, []⟩)

/-! ## All commands -/

def Invocation.task (invocation : Invocation) : Task :=
  match invocation.command with
  | .roles => .finished (.ofLines (Role.all.map roleLine))
  | .permissions role => .finished (.ofLines (permissionLines role))
  | .check role permission =>
    .finished
      { exitCode := if role.hasPermission permission then 0 else 1
        output := printLines [checkLine role permission] }
  | .navigation (some role) =>
    .finished (.ofLines (treeLines 0 (NavigationItem.visibleTo role NavigationItem.portalTree)))
  | .navigation none => withService invocation.settings navigationOfUser
  | .login credentials => withService invocation.settings (login credentials)
  | .logout => withService invocation.settings logout
  | .whoami reconcile => withService invocation.settings (whoami reconcile)
  | .forms command => .onStore command.program

end Console
end AccessPortal
