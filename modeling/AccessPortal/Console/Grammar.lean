import AccessPortal.Console.Command
import AccessPortal.Console.CommandLine

/-!
# The grammar of the console

The address of the auth service, the storage directory and the log level can be given on every level
of the command line and in the environment. The deepest level on which an option is given decides,
and the environment only where no level has it. A storage directory cannot be empty, not even in the
environment, unless every level gives one.
-/

namespace AccessPortal
namespace Console

/-- The options of every level, with what their values must satisfy. -/
def sharedOptions : Table Check :=
  [("api-url", .anything), ("storage-dir", (!·.isEmpty)), ("log-level", .anything)]

def switch? : String → Option Bool
  | "true" => some true
  | "false" => some false
  | _ => none

def commandLevels : Table Level :=
  [("roles", {}), ("permissions", { values := [.reads Role.ofId?] }),
   ("check", { values := [.reads Role.ofId?, .reads Permission.ofId?] }),
   ("nav", { options := [("role", .reads Role.ofId?)] }),
   ("login", { options := [("username", .anything), ("password", .anything)] }),
   ("logout", {}), ("whoami", { flags := ["reconcile"] })]

def typeCheck : Check :=
  .reads RequestType.ofId?

def formsLevels : Table Level :=
  [("show", { values := [typeCheck], flags := ["all"] }),
   ("set-field",
    { values := [typeCheck, .anything]
      options := [("enabled", .reads switch?), ("required", .reads switch?),
        ("label", .anything)] }),
   ("move", { values := [typeCheck, .anything, .reads MoveDirection.ofId?] }),
   ("catalog", { values := [typeCheck] }), ("add", { values := [typeCheck, .anything] }),
   ("remove", { values := [typeCheck, .anything] }), ("reset", {})]

/-- The level with the options of every level. -/
def Level.withShared (level : Level) : Level :=
  { level with options := level.options ++ sharedOptions }

def Level.ofSubcommands (names : List String) : Level :=
  Level.withShared { subcommands := names ++ ["help"] }

def rootLevel : Level :=
  .ofSubcommands (commandLevels.map (·.1) ++ ["forms"])

def formsLevel : Level :=
  .ofSubcommands (formsLevels.map (·.1))

/-- What help can be asked for. -/
def helpTopics : List (List String) :=
  [] :: (commandLevels.map (·.1) ++ ["forms", "help"]).map ([·])
    ++ (formsLevels.map (·.1) ++ ["help"]).map (["forms", ·])

def helpOn (topic : List String) : Refusal :=
  if helpTopics.contains topic then .help else .usage

/-! ## Commands -/

/-- The value of an option, if it is given; a value that does not parse is an error. -/
def Found.option? {α : Type} (found : Found) (name : String) (parse? : String → Option α) :
    Option (Option α) :=
  match found.options.find? name with
  | none => some none
  | some value => (parse? value).map some

def formsCommand? (name : String) (found : Found) : Option FormsCommand :=
  match name, found.values with
  | "show", [type] => do return .print (← RequestType.ofId? type) (found.flags.contains "all")
  | "set-field", [type, field] => do
    let type ← RequestType.ofId? type
    let enabled ← found.option? "enabled" switch?
    let required ← found.option? "required" switch?
    let label ← found.option? "label" some
    return .setField type field { label, enabled, required }
  | "move", [type, field, direction] => do
    return .move (← RequestType.ofId? type) field (← MoveDirection.ofId? direction)
  | "catalog", [type] => do return .catalog (← RequestType.ofId? type)
  | "add", [type, field] => do return .add (← RequestType.ofId? type) field
  | "remove", [type, field] => do return .remove (← RequestType.ofId? type) field
  | "reset", [] => some .reset
  | _, _ => none

/-- The command of a level; the password can be given in the environment. -/
def command? (value? : String → Option String) (name : String) (found : Found) :
    Option Command :=
  match name, found.values with
  | "roles", [] => some .roles
  | "permissions", [role] => do return .permissions (← Role.ofId? role)
  | "check", [role, permission] => do
    return .check (← Role.ofId? role) (← Permission.ofId? permission)
  | "nav", [] => do return .navigation (← found.option? "role" Role.ofId?)
  | "login", [] => do
    let username ← found.options.find? "username"
    let password ← (found.options.find? "password").or (value? "GRC_PASSWORD")
    return .login ⟨username, password⟩
  | "logout", [] => some .logout
  | "whoami", [] => some (.whoami (found.flags.contains "reconcile"))
  | _, _ => none

/-! ## Invocations -/

/-- The value of a shared option, given what the levels hold, the deepest first. -/
def sharedValue (name : String) (levels : List Found) : Option String :=
  levels.findSome? (·.options.find? name)

/-- Whether no level is left with an empty storage directory. -/
def hasStorageDir (value? : String → Option String) (levels : List Found) : Bool :=
  levels.all fun found =>
    (found.options.find? "storage-dir").or (value? "GRC_STORAGE_DIR") != some ""

/-- A command under the settings of the environment and of the levels, the deepest first. -/
def invocation (value? : String → Option String) (levels : List Found) (command : Command) :
    Except Refusal Invocation :=
  if hasStorageDir value? levels then
    let settings := Settings.ofEnvironment value?
    .ok
      { command
        settings :=
          { settings with
            baseUrl := (sharedValue "api-url" levels).getD settings.baseUrl
            storageDir := (sharedValue "storage-dir" levels).getD settings.storageDir
            logLevel := (sharedValue "log-level" levels).getD settings.logLevel } }
  else .error .usage

/-- The subcommand of a level, which must have one, with what it holds. -/
def subcommand (levels : Table Level) (found : Found) : Except Refusal (String × Found) := do
  let some (name, words) := found.subcommand | .error .usage
  match levels.find? name with
  | some level => return (name, ← level.withShared.read words)
  | none => .error (if name = "help" then helpOn words else .usage)

/-- The meaning of a command line, given the variables of the environment. -/
def Invocation.read (value? : String → Option String) (words : List String) :
    Except Refusal Invocation := do
  let root ← rootLevel.read words
  match root.subcommand with
  | some ("forms", words) =>
    let forms ← formsLevel.read words
    match forms.subcommand with
    | some ("help", topic) => .error (helpOn ("forms" :: topic))
    | _ =>
      let (name, found) ← subcommand formsLevels forms
      let some command := formsCommand? name found | .error .usage
      invocation value? [found, forms, root] (.forms command)
  | _ =>
    let (name, found) ← subcommand commandLevels root
    let some command := command? value? name found | .error .usage
    invocation value? [found, root] command

end Console
end AccessPortal
