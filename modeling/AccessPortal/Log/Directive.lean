import AccessPortal.Log.Pattern
import AccessPortal.Log.Record
import AccessPortal.Text.Bytes

/-!
# Directives of log filters

A directive is a level, a source, or `source=level`; a source alone lets everything from it through,
and so does one with nothing after the equals sign. A directive that names a source is meant for
every source whose name starts so. It can further ask for a span or for a field, in brackets and
braces. The portal opens no spans, and the value of a field is looked at in spans only, so a
directive that asks for one of these lets nothing through.

Levels are names in any case or the numbers 0 to 5.

The blanks around a directive do not count when its signs are looked for, but the parts of it are
cut out of the text as it is given, at the positions that the signs have without the blanks. So a
blank behind a level spoils it, and one in front shifts what is cut.
-/

namespace AccessPortal
namespace Log

structure Directive where
  /-- The start of the names of the sources meant; `none` for all. -/
  source : Option String := none
  /-- The name of a field that a record must have. -/
  field : Option String := none
  /-- The highest rank let through; 0 lets nothing through. -/
  rank : Nat
  deriving DecidableEq, Repr

/-- What a directive asks for in brackets. -/
inductive Condition where
  /-- That a record has a field of this name. -/
  | field (name : String)
  /-- Something that only a span can have. -/
  | span
  deriving DecidableEq, Repr

namespace Condition

/-- Whether a field can be asked to have a value: a number, or what a pattern matches. -/
def isValue (text : List Char) : Bool :=
  Text.isNumber text || Pattern.isWellFormed text

/-- The condition written by a text in braces: a name, or a name and a value. -/
def ofField? (text : List Char) : Option Condition :=
  if text.isEmpty then none
  else
    match text.span (· != '=') with
    | (name, []) => some (.field (String.ofList name))
    | (_, _ :: value) => if isValue (value.takeWhile (· != '=')) then some .span else none

end Condition

namespace Directive

def rank? (text : List Char) : Option Nat :=
  match Text.number? text with
  | some n => if n ≤ 5 then some n else none
  | none =>
    match Text.lower text with
    | "off" => some 0
    | "error" => some 1
    | "warn" => some 2
    | "info" => some 3
    | "debug" => some 4
    | "trace" => some 5
    | _ => none

/-- Whether a directive may start with this character, if not with a bracket. -/
def startsWith (c : Char) : Bool :=
  c == '-' || c == ':' || c == '_' || Text.isAlphanumeric c

/-- The rank that stands after the equals sign at the given position. -/
def level? (text : List Char) (position : Nat) : Option Nat := do
  let level ← Text.Bytes.drop? text (position + 1)
  if level.isEmpty then some Level.trace.rank else rank? level

/--
What is asked for in brackets, the first of which is in front of `rest` and at the given position,
with what follows them and its position.
-/
def brackets? (text rest : List Char) (position : Nat) : Option (Condition × List Char × Nat) := do
  let (span, rest) := rest.span fun c => c != ']' && c != '\x7b'
  let position := position + 1 + Text.byteSize span
  match rest with
  | ']' :: rest => some (.span, rest, position + 1)
  | '\x7b' :: rest =>
    let (field, rest) := rest.span (· != '\x7d')
    let last := position + 1 + Text.byteSize field
    let condition ← Condition.ofField? (← Text.Bytes.slice? text (position + 1) last)
    match rest with
    | '\x7d' :: ']' :: rest => some (if span.isEmpty then condition else .span, rest, last + 2)
    | _ => none
  | _ => none

/-- A directive whose brackets are at the given position; none if it can let nothing through. -/
def conditional? (source : Option String) (text rest : List Char) (position : Nat) :
    Option (Option Directive) := do
  let (condition, rest, position) ← brackets? text rest position
  let rank ←
    match rest with
    | [] => some Level.trace.rank
    | '=' :: _ => level? text position
    | _ => none
  match condition with
  | .field field => some (some { source, field := some field, rank })
  | .span => some none

/-- The directive written by a text, if it is well formed; none if it can let nothing through. -/
def parse? (text : List Char) : Option (Option Directive) :=
  match Text.trim text with
  | [] => none
  | '[' :: rest => conditional? none text rest 0
  | c :: rest =>
    if !startsWith c then none
    else
      let (name, rest) := (c :: rest).span fun c => c != '=' && c != '['
      let position := Text.byteSize name
      match rest with
      | [] =>
        match rank? text with
        | some rank => some (some { rank })
        | none => some (some { source := some (String.ofList text), rank := Level.trace.rank })
      | sign :: rest => do
        let source := String.ofList (← Text.Bytes.take? text position)
        if sign == '[' then conditional? (some source) text rest position
        else return some { source := some source, rank := ← level? text position }

def concerns (directive : Directive) (record : Record) : Bool :=
  directive.source.all (fun source => source.toList.isPrefixOf record.source.path.toList)
    && directive.field.all record.hasField

/-- How specific a directive is about the source, by the length of the name. -/
def weight (directive : Directive) : Nat :=
  directive.source.elim 0 (·.utf8ByteSize + 1)

/--
Whether a directive is at least as specific as another one. A field makes it more so, and of two
fields the one whose name is later in the alphabet.
-/
def precedes (a b : Directive) : Bool :=
  b.weight < a.weight || (a.weight == b.weight &&
    match a.field, b.field with
    | _, none => true
    | none, some _ => false
    | some first, some second => decide (second ≤ first))

end Directive
end Log
end AccessPortal
