import AccessPortal.Storage.Table

/-!
# Command lines

A command line is read level by level: the words of a level are its options, its flags and its
values, in any order, until the name of a subcommand opens the next level.

An option is written `--name value` or `--name=value`. A word that starts with a hyphen is an option
or a flag, so it can only be a value if it is attached with an equals sign, or if it is a lone
hyphen; behind the word `--` every word is a value. Nothing may be given twice on one level.

Each value is checked where it stands, so a request for help behind a wrong value is not heard.
-/

namespace AccessPortal
namespace Console

/-- Why a command line is not carried out. -/
inductive Refusal where
  | usage
  | help
  deriving DecidableEq, Repr, Inhabited

/-- What a value must satisfy. -/
abbrev Check := String → Bool

def Check.anything : Check :=
  fun _ => true

/-- The values that can be read in some way. -/
def Check.reads {α : Type} (parse? : String → Option α) : Check :=
  fun text => (parse? text).isSome

/-- What one level of a command line may hold. -/
structure Level where
  /-- The options, each of which takes one value. -/
  options : Table Check := []
  flags : List String := []
  /-- The values that there is room for. -/
  values : List Check := []
  subcommands : List String := []
  deriving Inhabited

structure Found where
  options : Table String := []
  flags : List String := []
  values : List String := []
  /-- The subcommand, with the words that follow it. -/
  subcommand : Option (String × List String) := none
  deriving Repr, Inhabited

inductive Word where
  /-- The word behind which all words are values. -/
  | escape
  /-- A word that starts with two hyphens, with what is attached to it. -/
  | long (name : String) (attached : Option String)
  /-- A word that starts with one hyphen. -/
  | short (letter : Char)
  | value (text : String)
  deriving DecidableEq, Repr, Inhabited

def Word.ofText (text : String) : Word :=
  match text.toList with
  | ['-', '-'] => .escape
  | '-' :: '-' :: rest =>
    match rest.span (· != '=') with
    | (name, _ :: attached) => .long (String.ofList name) (some (String.ofList attached))
    | (name, []) => .long (String.ofList name) none
  | '-' :: letter :: _ => .short letter
  | _ => .value text

namespace Found

def addOption (found : Found) (check : Check) (name value : String) : Except Refusal Found :=
  match found.options.find? name with
  | some _ => .error .usage
  | none =>
    if check value then .ok { found with options := found.options.put name value }
    else .error .usage

def addFlag (found : Found) (name : String) : Except Refusal Found :=
  if found.flags.contains name then .error .usage
  else .ok { found with flags := name :: found.flags }

end Found

namespace Level

/-- Adds a value, if the level has room for it. -/
def addValue (level : Level) (found : Found) (value : String) : Except Refusal Found :=
  match level.values[found.values.length]? with
  | some check =>
    if check value then .ok { found with values := found.values ++ [value] }
    else .error .usage
  | none => .error .usage

/-- Reads the words of a level, given what was found so far. -/
def scan (level : Level) (found : Found) : List String → Except Refusal Found
  | [] => .ok found
  | text :: rest =>
    if level.subcommands.contains text then
      .ok { found with subcommand := some (text, rest) }
    else
      match Word.ofText text with
      | .escape => rest.foldlM level.addValue found
      | .short letter => .error (if letter = 'h' then .help else .usage)
      | .value value => do level.scan (← level.addValue found value) rest
      | .long name attached =>
        match level.options.find? name, attached, rest with
        | some check, some value, rest => do
          level.scan (← found.addOption check name value) rest
        | some _, none, [] => .error .usage
        | some check, none, next :: rest =>
          match Word.ofText next with
          | .value value => do level.scan (← found.addOption check name value) rest
          | _ => .error .usage
        | none, some _, _ => .error .usage
        | none, none, rest =>
          if level.flags.contains name then do level.scan (← found.addFlag name) rest
          else .error (if name = "help" then .help else .usage)

/-- What a level holds, and what stands behind it. -/
def read (level : Level) (words : List String) : Except Refusal Found :=
  level.scan {} words

end Level
end Console
end AccessPortal
