import AccessPortal.Text.Alphanumeric
import AccessPortal.Text.Blank
import AccessPortal.Text.Numeral

/-!
# Patterns for the values of fields

A log filter may ask for fields whose value matches a regular expression. `Pattern.isWellFormed`
says which texts are one: alternatives between bars, groups in parentheses, sets in brackets, the
repetitions `?`, `*` and `+`, escapes after a backslash, and flags.

A pattern is matched without tables of characters. So the classes `\d`, `\s` and `\w`, the edges of
words and the case of letters are known for bytes only, that is after the flag `-u`. Bytes in turn
must not match a part of a character, so with them there is no dot, no complement and, in a set,
nothing beyond ASCII. Counted repetitions need a closing brace, which ends the field in a filter, so
an opening one is refused.

Groups, sets and repetitions may stand inside one another, down to `maxDepth` levels; a sequence of
parts, alternatives and the operators between sets are levels as well.

The readers carry a fuel argument. Each step takes at least one character, so `isWellFormed` hands
in enough for every text.
-/

namespace AccessPortal
namespace Log
namespace Pattern

/-- The deepest nesting of a pattern. -/
def maxDepth : Nat := 250

/-- How deep the parts are nested that were read so far in a group or a set. -/
structure Nesting where
  /-- The parts since the last bar or operator, the latest first. -/
  parts : List Nat := []
  /-- What is before the last bar or operator. -/
  before : Option Nat := none
  deriving DecidableEq, Repr

namespace Nesting

/-- Two parts and more are one level deeper than the deepest of them. -/
def sequence (nesting : Nesting) : Nat :=
  match nesting.parts with
  | [] => 0
  | [depth] => depth
  | parts => parts.foldl max 0 + 1

def depth (nesting : Nesting) : Nat :=
  match nesting.before with
  | none => nesting.sequence
  | some before => max before nesting.sequence + 1

def add (depth : Nat) (nesting : Nesting) : Nesting :=
  { nesting with parts := depth :: nesting.parts }

/-- The latest part is repeated. -/
def repeatLast (nesting : Nesting) : Nesting :=
  match nesting.parts with
  | [] => nesting
  | depth :: parts => { nesting with parts := (depth + 1) :: parts }

/-- After a bar: all alternatives stand side by side. -/
def afterBar (nesting : Nesting) : Nesting :=
  { before := some (max (nesting.before.getD 0) nesting.sequence) }

/-- After an operator: all that is before stands on its left. -/
def afterOperator (nesting : Nesting) : Nesting :=
  { before := some nesting.depth }

end Nesting

/-- How the characters of a pattern are understood; flags change it up to the end of a group. -/
structure Mode where
  /-- Whether letters stand for themselves in either case. -/
  caseless : Bool := false
  /-- Whether characters are matched, and not bytes. -/
  wide : Bool := true
  /-- Whether blanks and comments may stand between the parts of a pattern. -/
  spaced : Bool := false
  deriving DecidableEq, Repr

/-- The text from its first character that is neither blank nor in a comment. -/
def skip (comment : Bool) : List Char → List Char
  | [] => []
  | c :: rest =>
    if comment then skip (c != '\n') rest
    else if Text.isBlank c then skip false rest
    else if c == '#' then skip true rest
    else c :: rest

namespace Mode

/-- What is left to read of a text. -/
def skip (mode : Mode) (text : List Char) : List Char :=
  if mode.spaced then Pattern.skip false text else text

/-- The character seen after a dash in a set. A comment hides only its sign and the blanks after. -/
def peek? (mode : Mode) (text : List Char) : Option Char :=
  if mode.spaced then
    match text.dropWhile Text.isBlank with
    | '#' :: rest => (rest.dropWhile Text.isBlank).head?
    | rest => rest.head?
  else text.head?

/-- The mode after flags: those after a dash are taken away, the others are added. -/
def change (mode : Mode) (flags : List Char) : Mode :=
  let added := flags.takeWhile (· != '-')
  let removed := flags.dropWhile (· != '-')
  let after (flag : Char) (before : Bool) : Bool :=
    added.contains flag || (before && !removed.contains flag)
  { caseless := after 'i' mode.caseless
    wide := after 'u' mode.wide
    spaced := after 'x' mode.spaced }

/-- Whether characters and sets can be matched: not in either case without tables. -/
def literals (mode : Mode) : Bool :=
  !(mode.caseless && mode.wide)

end Mode

/-! ## Single characters and escapes -/

/-- What a single character or an escape stands for. -/
inductive Atom where
  /-- A character; `byte` says that two hexadecimal digits name it. -/
  | char (c : Char) (byte : Bool)
  /-- The digits, blanks or characters of words, or the complement of one of these. -/
  | kind (complement : Bool)
  /-- An end of the text, or of a word in it. -/
  | edge (ofWord : Bool)
  deriving DecidableEq, Repr

/-- Whether an atom may stand outside of sets. -/
def Atom.allowed (mode : Mode) : Atom → Bool
  | .char c byte => mode.literals && (mode.wide || !byte || c.toNat < 0x80)
  | .kind complement => !mode.wide && !complement
  | .edge ofWord => !ofWord || !mode.wide

/-- Whether an atom may be a member of a set. -/
def Atom.allowedInSet (mode : Mode) : Atom → Bool
  | .char c _ => mode.literals && (mode.wide || c.toNat < 0x80)
  | .kind complement => !mode.wide && !complement
  | .edge _ => false

/-- The number written by so many hexadecimal digits, and what follows them. -/
def readHex? (mode : Mode) : Nat → Nat → List Char → Option (Nat × List Char)
  | 0, value, text => some (value, text)
  | digits + 1, value, text =>
    match mode.skip text with
    | [] => none
    | c :: rest => do
      let digit ← Text.hexDigit? c
      readHex? mode digits (16 * value + digit) rest

/-- The character written by so many hexadecimal digits, and what follows them. -/
def readCode? (mode : Mode) (digits : Nat) (text : List Char) : Option (Atom × List Char) := do
  let (value, rest) ← readHex? mode digits 0 text
  if value.isValidChar then some (.char (Char.ofNat value) (digits == 2), rest) else none

/-- The atom written after a backslash, and what follows it. -/
def readEscape? (mode : Mode) : List Char → Option (Atom × List Char)
  | [] => none
  | c :: rest =>
    match c with
    | 'x' => readCode? mode 2 rest
    | 'u' => readCode? mode 4 rest
    | 'U' => readCode? mode 8 rest
    | 'a' => some (.char '\x07' false, rest)
    | 'f' => some (.char '\x0c' false, rest)
    | 't' => some (.char '\t' false, rest)
    | 'n' => some (.char '\n' false, rest)
    | 'r' => some (.char '\r' false, rest)
    | 'v' => some (.char '\x0b' false, rest)
    | 'd' | 's' | 'w' => some (.kind false, rest)
    | 'D' | 'S' | 'W' => some (.kind true, rest)
    | 'A' | 'z' => some (.edge false, rest)
    | 'b' | 'B' | '<' | '>' => some (.edge true, rest)
    | _ => if c.isAlphanum || 0x80 ≤ c.toNat then none else some (.char c false, rest)

/-! ## Sets -/

/-- The sets of ASCII characters that have a name, which stands between `[:` and `:]`. -/
def setNames : List String :=
  ["alnum", "alpha", "ascii", "blank", "cntrl", "digit", "graph", "lower", "print", "punct",
   "space", "upper", "word", "xdigit"]

/-- A named set after its opening bracket: whether it is a complement, and what follows it. -/
def readNamed? : List Char → Option (Bool × List Char)
  | ':' :: text =>
    let complement := text.head? == some '^'
    let text := if complement then text.tail else text
    match text.dropWhile (· != ':') with
    | ':' :: ']' :: rest =>
      if setNames.contains (String.ofList (text.takeWhile (· != ':'))) then some (complement, rest)
      else none
    | _ => none
  | _ => none

/-- Where the reader of a set stands. -/
inductive Place where
  | opened
  /-- After the sign of a complement. -/
  | complement
  /-- After dashes at the beginning, which stand for themselves. -/
  | dashes
  | members
  deriving DecidableEq, Repr

/-- A member of a set that is no set itself, and what follows it. -/
def readMember? (mode : Mode) : List Char → Option (Atom × List Char)
  | [] => none
  | '\\' :: rest => readEscape? mode rest
  | c :: rest => some (.char c false, rest)

/-- What follows a member of a set or a range of members, if they are allowed there. -/
def readMembers? (mode : Mode) (text : List Char) : Option (List Char) := do
  let (first, rest) ← readMember? mode text
  let alone := if first.allowedInSet mode then some rest else none
  match mode.skip rest with
  | '-' :: after =>
    if mode.peek? after == some ']' || mode.peek? after == some '-' then alone
    else
      let (last, rest) ← readMember? mode (mode.skip after)
      match first, last with
      | .char a _, .char b _ =>
        if a ≤ b && first.allowedInSet mode && last.allowedInSet mode then some rest else none
      | _, _ => none
  | _ => alone

/--
The depth of a set and what follows it, if it is well formed. `outer` has the sets around the
innermost one. The operators between sets take two characters and bind nothing that could fail.
-/
def readSet? (mode : Mode) :
    Nat → Place → Nesting → List Nesting → List Char → Option (Nat × List Char)
  | 0, _, _, _, _ => none
  | fuel + 1, place, set, outer, text =>
    match place, mode.skip text with
    | _, [] => none
    | .opened, '^' :: rest =>
      if mode.wide then readSet? mode fuel .complement set outer rest else none
    | .opened, '-' :: rest | .complement, '-' :: rest | .dashes, '-' :: rest =>
      if mode.literals then readSet? mode fuel .dashes (set.add 0) outer rest else none
    | .opened, ']' :: rest | .complement, ']' :: rest =>
      if mode.literals then readSet? mode fuel .members (set.add 0) outer rest else none
    | _, ']' :: rest =>
      match outer with
      | [] => some (set.depth + 1, rest)
      | around :: outer => readSet? mode fuel .members (around.add (set.depth + 1)) outer rest
    | _, '[' :: rest =>
      match readNamed? rest with
      | some (complement, rest) =>
        if mode.literals && (mode.wide || !complement) then
          readSet? mode fuel .members (set.add 0) outer rest
        else none
      | none => readSet? mode fuel .opened {} (set :: outer) rest
    | _, '&' :: '&' :: rest | _, '-' :: '-' :: rest | _, '~' :: '~' :: rest =>
      readSet? mode fuel .members set.afterOperator outer rest
    | _, text => do
      let rest ← readMembers? mode text
      readSet? mode fuel .members (set.add 0) outer rest

/-! ## Groups -/

/-- What is known after a part of a pattern. -/
structure State where
  mode : Mode := {}
  /-- How deep the innermost open group is nested so far. -/
  nesting : Nesting := {}
  /-- The modes and depths of the groups around it, the innermost first. -/
  outer : List (Mode × Nesting) := []
  names : List (List Char) := []
  /-- Whether there is something before that can be repeated. -/
  repeatable : Bool := false
  deriving DecidableEq, Repr

namespace State

/-- The state at the beginning of a group that is read in the given mode. -/
def enter (state : State) (mode : Mode) : State :=
  { state with
    mode
    nesting := {}
    outer := (state.mode, state.nesting) :: state.outer
    repeatable := false }

/-- The state after a part that can be repeated. -/
def advance (state : State) (depth : Nat) : State :=
  { state with nesting := state.nesting.add depth, repeatable := true }

def leave? (state : State) : Option State :=
  match state.outer with
  | [] => none
  | (mode, nesting) :: outer =>
    some (advance { state with mode, nesting, outer } (state.nesting.depth + 1))

/-- The state after flags, which are a part of their own and cannot be repeated. -/
def change (state : State) (mode : Mode) : State :=
  { state with mode, nesting := state.nesting.add 0, repeatable := false }

def alternate (state : State) : State :=
  { state with nesting := state.nesting.afterBar, repeatable := false }

def repeatLast (state : State) : State :=
  { state with nesting := state.nesting.repeatLast }

end State

def isName : List Char → Bool
  | [] => false
  | c :: rest =>
    (c == '_' || Text.isAlphabetic c)
      && rest.all fun c => "_.[]".toList.contains c || Text.isAlphanumeric c

/-- The beginning of a group with a name, after the angle that opens the name. -/
def readName? (state : State) (text : List Char) : Option (State × List Char) :=
  let name := text.takeWhile (· != '>')
  match text.dropWhile (· != '>') with
  | [] => none
  | _ :: rest =>
    if isName name && !state.names.contains name then
      some ({ state.enter state.mode with names := name :: state.names }, rest)
    else none

/-- Flags, the last first, with the sign that ends them and what follows it. -/
def readFlags? : List Char → List Char → Option (List Char × Char × List Char)
  | _, [] => none
  | flags, c :: rest =>
    if c == ':' || c == ')' then
      if flags.head? == some '-' then none else some (flags, c, rest)
    else if "imsURux-".toList.contains c && !flags.contains c then readFlags? (c :: flags) rest
    else none

/-- The beginning of a group after its parenthesis, or flags for the rest of the group around. -/
def readGroup? (state : State) (text : List Char) : Option (State × List Char) :=
  match state.mode.skip text with
  | '?' :: 'P' :: '<' :: rest => readName? state rest
  | '?' :: '<' :: rest => readName? state rest
  | '?' :: rest => do
    let (flags, sign, rest) ← readFlags? [] rest
    let mode := state.mode.change flags.reverse
    if sign == ':' then some (state.enter mode, rest)
    else if flags.isEmpty then none
    else some (state.change mode, rest)
  | rest => some (state.enter state.mode, rest)

/-- What follows a repetition: with one more sign, it takes as little as it can. -/
def skipLazy : List Char → List Char
  | '?' :: rest => rest
  | rest => rest

/-- The state after one part of a pattern, which starts with `c`, and what follows it. -/
def step? (state : State) (c : Char) (rest : List Char) : Option (State × List Char) :=
  match c with
  | '(' => readGroup? state rest
  | ')' => state.leave?.map (·, rest)
  | '|' => some (state.alternate, rest)
  | '?' | '*' | '+' => if state.repeatable then some (state.repeatLast, skipLazy rest) else none
  | '\x7b' => none
  | '[' => do
    let (depth, rest) ← readSet? state.mode (rest.length + 1) .opened {} [] rest
    some (state.advance depth, rest)
  | '.' => if state.mode.wide then some (state.advance 0, rest) else none
  | '^' | '$' => some (state.advance 0, rest)
  | '\\' => do
    let (atom, rest) ← readEscape? state.mode rest
    if atom.allowed state.mode then some (state.advance 0, rest) else none
  | c => if (Atom.char c false).allowed state.mode then some (state.advance 0, rest) else none

/-- Whether the rest of a pattern is well formed. -/
def accepts : Nat → State → List Char → Bool
  | 0, _, _ => false
  | fuel + 1, state, text =>
    match state.mode.skip text with
    | [] => state.outer.isEmpty && state.nesting.depth ≤ maxDepth
    | c :: rest => (step? state c rest).any fun (state, rest) => accepts fuel state rest

def isWellFormed (text : List Char) : Bool :=
  accepts (text.length + 1) {} text

end Pattern
end Log
end AccessPortal
