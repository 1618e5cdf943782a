import AccessPortal.Json.Value

/-!
# Writing JSON text

`Json.write` prints a value without blanks. In strings, only the quote, the backslash and the
characters below U+0020 are escaped; those with a one-letter escape use it, the others are written
with four lower-case hexadecimal digits.
-/

namespace AccessPortal
namespace Json

/-- A number below sixteen as a lower-case hexadecimal digit. -/
def hexDigit (n : Nat) : Char :=
  Nat.digitChar n

/-- How one character is written inside a string literal. -/
def escape (c : Char) : List Char :=
  if c = '"' then ['\\', '"']
  else if c = '\\' then ['\\', '\\']
  else if c = '\x08' then ['\\', 'b']
  else if c = '\x0c' then ['\\', 'f']
  else if c = '\n' then ['\\', 'n']
  else if c = '\r' then ['\\', 'r']
  else if c = '\t' then ['\\', 't']
  else if c.toNat < 0x20 then
    ['\\', 'u', '0', '0', hexDigit (c.toNat / 16), hexDigit (c.toNat % 16)]
  else [c]

def escapeAll : List Char → List Char
  | [] => []
  | c :: rest => escape c ++ escapeAll rest

def writeText (s : String) : List Char :=
  '"' :: (escapeAll s.toList ++ ['"'])

def writeInteger : Int → List Char
  | .ofNat n => Nat.toDigits 10 n
  | .negSucc n => '-' :: Nat.toDigits 10 (n + 1)

mutual

/-- The characters of a value. An unreadable place is written `null`, having no spelling left. -/
def writeChars : Json → List Char
  | .null => ['n', 'u', 'l', 'l']
  | .bool true => ['t', 'r', 'u', 'e']
  | .bool false => ['f', 'a', 'l', 's', 'e']
  | .integer n => writeInteger n
  | .decimal spelling => spelling.toList
  | .string s => writeText s
  | .array [] => ['[', ']']
  | .array (item :: items) => '[' :: (writeChars item ++ (writeItems items ++ [']']))
  | .object [] => ['\x7b', '\x7d']
  | .object ((name, value) :: members) =>
    '\x7b' :: (writeText name ++ ':' :: (writeChars value ++ (writeMembers members ++ ['\x7d'])))
  | .unreadable => ['n', 'u', 'l', 'l']

/-- The further items of an array, each after a comma. -/
def writeItems : List Json → List Char
  | [] => []
  | item :: items => ',' :: (writeChars item ++ writeItems items)

/-- The further members of an object, each after a comma. -/
def writeMembers : List (String × Json) → List Char
  | [] => []
  | (name, value) :: members =>
    ',' :: (writeText name ++ ':' :: (writeChars value ++ writeMembers members))

end

def write (value : Json) : String :=
  String.ofList (writeChars value)

end Json
end AccessPortal
