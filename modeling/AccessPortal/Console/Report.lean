/-!
# Reports

What a run of the console leaves behind: an exit code and what it printed. A failure is printed as
its message, followed by what caused it, numbered if there is more than one cause.
-/

namespace AccessPortal
namespace Console

/-- What went wrong, and why, the nearest cause first. -/
structure Failure where
  message : String
  causes : List String := []
  deriving DecidableEq, Repr, Inhabited

structure Report where
  exitCode : UInt32 := 0
  output : String := ""
  errors : String := ""
  deriving DecidableEq, Repr, Inhabited

def printLines (lines : List String) : String :=
  String.join (lines.map (· ++ "\n"))

/-- A text whose further lines are indented. -/
def hang (indent : String) (text : String) : String :=
  String.ofList (text.toList.flatMap fun c => if c = '\n' then c :: indent.toList else [c])

namespace Failure

/-- A cause and its place among several. -/
def numberedCause (cause : String) (place : Nat) : String :=
  let number := toString place
  "\n" ++ String.ofList (List.replicate (5 - number.length) ' ') ++ number ++ ": "
    ++ hang "       " cause

def causesText : List String → String
  | [] => ""
  | [cause] => "\n\nCaused by:\n    " ++ hang "    " cause
  | causes => "\n\nCaused by:" ++ String.join (causes.zipIdx.map fun (cause, i) =>
      numberedCause cause i)

def text (failure : Failure) : String :=
  "Error: " ++ failure.message ++ causesText failure.causes ++ "\n"

end Failure

namespace Report

def ofLines (lines : List String) : Report :=
  { output := printLines lines }

def ofFailure (failure : Failure) : Report :=
  { exitCode := 1, errors := failure.text }

end Report
end Console
end AccessPortal
