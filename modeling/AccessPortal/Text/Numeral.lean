/-!
# Numerals

Numbers as they are given in settings. `number?` reads whole ones: decimal digits, at least one,
with or without a plus sign. `isNumber` also knows signs, fractions and exponents.
-/

namespace AccessPortal
namespace Text

/-- ASCII letters in lower case, everything else as it is. -/
def lower (text : List Char) : String :=
  String.ofList (text.map Char.toLower)

def ofDigits (digits : List Char) : Nat :=
  digits.foldl (fun n c => 10 * n + (c.toNat - '0'.toNat)) 0

def isDigits (text : List Char) : Bool :=
  !text.isEmpty && text.all Char.isDigit

def number? (text : List Char) : Option Nat :=
  let digits := if text.head? = some '+' then text.tail else text
  if isDigits digits then some (ofDigits digits) else none

/-- A text without the sign that it may start with. -/
def unsigned : List Char → List Char
  | '+' :: rest => rest
  | '-' :: rest => rest
  | text => text

/--
Whether a text is a number: a sign or none, digits with at most one point among them, and an
exponent or none. The words for infinity and for no number are numbers too, in any case.
-/
def isNumber (text : List Char) : Bool :=
  let text := unsigned text
  let digits := text.takeWhile fun c => c != 'e' && c != 'E'
  let whole := digits.takeWhile (· != '.')
  let fraction := (digits.dropWhile (· != '.')).drop 1
  let exponent := text.drop digits.length
  ["inf", "infinity", "nan"].contains (lower text)
    || (isDigits (whole ++ fraction)
      && (exponent.isEmpty || isDigits (unsigned (exponent.drop 1))))

/-- The value of a hexadecimal digit in either case. -/
def hexDigit? (c : Char) : Option Nat :=
  if '0' ≤ c ∧ c ≤ '9' then some (c.toNat - '0'.toNat)
  else if 'a' ≤ c ∧ c ≤ 'f' then some (c.toNat - 'a'.toNat + 10)
  else if 'A' ≤ c ∧ c ≤ 'F' then some (c.toNat - 'A'.toNat + 10)
  else none

end Text
end AccessPortal
