/-!
# Log records

What the portal reports about its own work. A record is printed as one line: its level, its message
and its fields, each as `name=value`.
-/

namespace AccessPortal
namespace Log

/-- How much attention a record asks for, the most urgent first. -/
inductive Level where
  | error | warn | info | debug | trace
  deriving DecidableEq, Repr, Inhabited

namespace Level

/-- A level lets through the records of its own rank and of every lower one. -/
def rank : Level → Nat
  | .error => 1
  | .warn => 2
  | .info => 3
  | .debug => 4
  | .trace => 5

def label : Level → String
  | .error => "ERROR"
  | .warn => "WARN"
  | .info => "INFO"
  | .debug => "DEBUG"
  | .trace => "TRACE"

end Level

/-- The part of the portal that a record comes from. -/
inductive Source where
  | session | forms | merge | fileStore
  deriving DecidableEq, Repr, Inhabited

/-- The name by which a log filter can select a part of the portal. -/
def Source.path : Source → String
  | .session => "grc_client::session"
  | .forms => "grc_client::form_config"
  | .merge => "shared::form_config::merge"
  | .fileStore => "grc_client::storage::file"

structure Record where
  level : Level
  source : Source
  message : String
  fields : List (String × String) := []
  deriving DecidableEq, Repr, Inhabited

/-- Whether a record has a field of the given name; the message is a field as well. -/
def Record.hasField (record : Record) (name : String) : Bool :=
  name == "message" || record.fields.any (·.1 == name)

def Record.line (record : Record) : String :=
  record.fields.foldl (fun line (name, value) => line ++ " " ++ name ++ "=" ++ value)
    (record.level.label ++ " " ++ record.message)

end Log
end AccessPortal
