import AccessPortal.Text.Alphanumeric
import AccessPortal.Text.Blank

/-!
# Assignments to variables

A statement `name=value` gives a variable of the environment its value; the word `export` may stand
before it. The value can be in quotes. Between single ones every character stands for itself.
Elsewhere a backslash makes the next character stand for itself or a line feed, and a dollar sign
stands before the name of another variable, in braces or not, whose value is put there.

Reading a statement does not depend on the variables: `Assignment.read?` keeps references as they
are, and `Assignment.perform` follows them.
-/

namespace AccessPortal

inductive ValuePiece where
  | literal (c : Char)
  /-- What the variable of this name holds; nothing if it is not set. See `lookup?`. -/
  | reference (name : String)
  deriving DecidableEq, Repr

namespace ValuePiece

/-- The variable that a reference asks for: a name in braces may go on after a sign of equality. -/
def variableOf (reference : String) : String :=
  String.ofList (reference.toList.takeWhile (· != '='))

/--
What a reference stands for. An environment consists of entries `name=value`, and a reference stands
for what follows it and a sign of equality in an entry. So where `A` holds `b=c`, there is `c` for
the reference `A=b`.
-/
def lookup? (value? : String → Option String) (reference : String) : Option String := do
  let name := variableOf reference
  let entry := name.toList ++ '=' :: (← value? name).toList
  let front := reference.toList ++ ['=']
  if front.isPrefixOf entry then some (String.ofList (entry.drop front.length)) else none

def expand (value? : String → Option String) : ValuePiece → String
  | .literal c => c.toString
  | .reference name => (lookup? value? name).getD ""

/-- Where the reader of a value stands. -/
inductive Phase where
  /-- Where every character is read for its own meaning. -/
  | plain
  | escaped
  | verbatim
  /-- In a name after a dollar sign. -/
  | name (read : String)
  /-- In a name in braces. -/
  | braced (read : String)
  /-- After the blank that ends a value. -/
  | ended
  deriving DecidableEq, Repr

/-- What a character stands for after a backslash. -/
def escape? (c : Char) : Option Char :=
  if "\\'\"$ ".toList.contains c then some c else if c = 'n' then some '\n' else none

/--
The pieces of a value, if it is well formed; `quoted` says whether double quotes are open. The
character that ends a name without braces stands for itself, whatever it is, unless it begins
another reference.
-/
def read? (quoted : Bool) : Phase → List Char → Option (List ValuePiece)
  | .plain, [] | .escaped, [] => if quoted then none else some []
  | .name read, [] => if quoted then none else some [.reference read]
  | .verbatim, [] | .braced _, [] => none
  | .ended, [] => some []
  | .plain, c :: rest =>
    match c with
    | '$' => read? quoted (.name "") rest
    | '\\' => read? quoted .escaped rest
    | '"' => read? (!quoted) .plain rest
    | _ =>
      if quoted then (read? quoted .plain rest).map (.literal c :: ·)
      else if c = '\'' then read? quoted .verbatim rest
      else if c = ' ' ∨ c = '\t' then read? quoted .ended rest
      else (read? quoted .plain rest).map (.literal c :: ·)
  | .escaped, c :: rest => do
    let c ← escape? c
    (read? quoted .plain rest).map (.literal c :: ·)
  | .verbatim, c :: rest =>
    if c = '\'' then read? quoted .plain rest
    else (read? quoted .verbatim rest).map (.literal c :: ·)
  | .name read, c :: rest =>
    if Text.isAlphanumeric c then read? quoted (.name (read.push c)) rest
    else if c = '\x7b' ∧ read = "" then read? quoted (.braced "") rest
    else if c = '$' then (read? quoted (.name "") rest).map (.reference read :: ·)
    else (read? quoted .plain rest).map (.reference read :: .literal c :: ·)
  | .braced read, c :: rest =>
    if c = '\x7d' then (read? quoted .plain rest).map (.reference read :: ·)
    else read? quoted (.braced (read.push c)) rest
  | .ended, c :: rest =>
    if c = ' ' ∨ c = '\t' then read? quoted .ended rest
    else if c = '#' then some []
    else none

end ValuePiece

structure Assignment where
  name : String
  value : List ValuePiece
  deriving DecidableEq, Repr

namespace Assignment

/-- A name at the beginning of a text, and what follows it and the blanks after it. -/
def readName? : List Char → Option (String × List Char)
  | [] => none
  | c :: rest =>
    let isNameCharacter (c : Char) := c.isAlphanum || c == '_' || c == '.'
    if c.isAlpha || c == '_' then
      some (String.ofList (c :: rest.takeWhile isNameCharacter),
        (rest.dropWhile isNameCharacter).dropWhile Text.isBlank)
    else none

/-- What follows a sign of equality and the blanks after it. -/
def skipEqual? : List Char → Option (List Char)
  | '=' :: rest => some (rest.dropWhile Text.isBlank)
  | _ => none

/-- A name, which may be `export`, and the text of its value. -/
def readSides? (text : List Char) : Option (String × List Char) := do
  let (name, rest) ← readName? text
  match skipEqual? rest with
  | some value => some (name, value)
  | none =>
    if name = "export" then
      let (name, rest) ← readName? rest
      return (name, ← skipEqual? rest)
    else none

/-- The assignment that a statement without blanks around it makes, if it is well formed. -/
def read? (text : List Char) : Option Assignment := do
  let (name, value) ← readSides? text
  if value.head? = some '#' then return { name, value := [] }
  else return { name, value := ← ValuePiece.read? false .plain value }

/-- The variables after an assignment. One that is set already keeps its value. -/
def perform (assignment : Assignment) (value? : String → Option String) :
    String → Option String :=
  fun name =>
    (value? name).or
      (if name = assignment.name then
        some (String.join (assignment.value.map (·.expand value?)))
      else none)

end Assignment
end AccessPortal
