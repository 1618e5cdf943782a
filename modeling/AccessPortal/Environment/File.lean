import AccessPortal.Environment.Assignment
import AccessPortal.Storage.Path

/-!
# Environment files

A run takes variables from a file `.env` in the directory where it is, or else in the nearest one
around that has such a file. What is set already is kept. The file holds assignments, each on a line
of its own; inside quotes and after a backslash lines go on. After the first statement that is not
well formed, the rest of the file is passed over.
-/

namespace AccessPortal
namespace EnvironmentFile

def name : String :=
  ".env"

/-! ## Statements -/

/-- Where a text is cut into statements. -/
inductive Phase where
  /-- Nothing but blanks since the last statement. -/
  | start
  | plain
  /-- After a blank that follows something else. -/
  | blank
  | escaped
  | verbatim
  | verbatimEscaped
  | quoted
  | quotedEscaped
  /-- In a comment, which is not a part of the statement. -/
  | comment
  deriving DecidableEq, Repr

/-- Where a text is after one more character; the end of a line is left to `statements`. -/
def Phase.after (c : Char) : Phase → Phase
  | .escaped => .plain
  | .verbatim => if c = '\'' then .plain else if c = '\\' then .verbatimEscaped else .verbatim
  | .verbatimEscaped => .verbatim
  | .quoted => if c = '"' then .plain else if c = '\\' then .quotedEscaped else .quoted
  | .quotedEscaped => .quoted
  | .comment => .comment
  | phase =>
    if c = '#' ∧ phase ≠ .plain then .comment
    else if c = '\\' then .escaped
    else if c = '"' then .quoted
    else if c = '\'' then .verbatim
    else if Text.isBlank c then
      match phase with
      | .start => .start
      | .plain => if c = '\r' then .plain else .blank
      | _ => .plain
    else .plain

/-- Whether the end of a line ends a statement, too. -/
def Phase.endsWithLine : Phase → Bool
  | .verbatim | .verbatimEscaped | .quoted | .quotedEscaped => false
  | _ => true

/-- Whether the end of the file ends a statement. -/
def Phase.endsWithFile : Phase → Bool
  | .start | .plain | .comment => true
  | _ => false

/--
The statements of a text, without those that it breaks off. `read` has what was read of the first
one, the last character first.
-/
def statements (phase : Phase) (read : List Char) : List Char → List (List Char)
  | [] => if phase.endsWithFile then [read.reverse] else []
  | c :: rest =>
    if c = '\n' ∧ phase.endsWithLine then read.reverse :: statements .start [] rest
    else
      let phase := phase.after c
      statements phase (if phase = .comment then read else c :: read) rest

/-! ## Assignments -/

/-- The assignments of the statements up to the first that is not well formed. -/
def assignments : List (List Char) → List Assignment
  | [] => []
  | statement :: rest =>
    let statement := Text.trim statement
    if statement.isEmpty || statement.head? = some '#' then assignments rest
    else
      match Assignment.read? statement with
      | some assignment => assignment :: assignments rest
      | none => []

/-- The text of lines, up to the first that is not UTF-8. -/
def decode : List (List UInt8) → List Char
  | [] => []
  | line :: rest =>
    match String.fromUTF8? ⟨line.toArray⟩ with
    | none => []
    | some text => if rest.isEmpty then text.toList else text.toList ++ '\n' :: decode rest

def withoutMark : List Char → List Char
  | '\ufeff' :: rest => rest
  | text => text

def read (bytes : ByteArray) : List Assignment :=
  let text := withoutMark (decode (bytes.toList.splitOnP (· == 10)))
  assignments (statements .start [] text)

def perform (assignments : List Assignment) (value? : String → Option String) :
    String → Option String :=
  assignments.foldl (fun value? assignment => assignment.perform value?) value?

/-! ## Finding the file -/

/-- What the file holds that is nearest to a place, given by its names, the last first. -/
def find? (root : Directory) : List String → Option ByteArray
  | [] => fileAt? []
  | name :: around => (fileAt? (name :: around)).or (find? root around)
where
  fileAt? (names : List String) : Option ByteArray :=
    match root.at? (names.reverse ++ [EnvironmentFile.name]) with
    | some (.file bytes) => some bytes
    | _ => none

/-- The variables of a run at the given place. -/
def extend (here : Place) (root : Directory) (value? : String → Option String) :
    String → Option String :=
  match find? root here.reverse with
  | some bytes => perform (read bytes) value?
  | none => value?

end EnvironmentFile
end AccessPortal
