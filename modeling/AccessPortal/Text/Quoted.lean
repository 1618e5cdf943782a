import AccessPortal.Text.Invisible

/-!
# Quoted text

The form in which diagnostics show a string: between double quotes, so that its ends and every
character in it can be seen. The quote and the backslash are escaped, the tab, the line feed, the
carriage return and NUL have an escape of one letter, and every other character that does not show
by itself is given by its number in hexadecimal.
-/

namespace AccessPortal
namespace Text

def showCharacter (c : Char) : String :=
  if c = '\x00' then "\\0"
  else if c = '\t' then "\\t"
  else if c = '\r' then "\\r"
  else if c = '\n' then "\\n"
  else if c = '\\' then "\\\\"
  else if c = '"' then "\\\""
  else if isInvisible c then
    "\\u\x7b" ++ String.ofList (Nat.toDigits 16 c.toNat) ++ "\x7d"
  else c.toString

def quoted (s : String) : String :=
  "\"" ++ String.join (s.toList.map showCharacter) ++ "\""

end Text
end AccessPortal
