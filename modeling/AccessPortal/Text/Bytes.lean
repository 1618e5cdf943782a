/-!
# Positions in bytes

Cutting a text at positions that count the bytes of its UTF-8 form. A position inside of a character
cuts nothing.
-/

namespace AccessPortal
namespace Text

def byteSize : List Char → Nat
  | [] => 0
  | c :: rest => c.utf8Size + byteSize rest

namespace Bytes

/-- What is left of a text after so many bytes. -/
def drop? : List Char → Nat → Option (List Char)
  | text, 0 => some text
  | [], _ + 1 => none
  | c :: rest, n => if c.utf8Size ≤ n then drop? rest (n - c.utf8Size) else none

/-- The first so many bytes of a text. -/
def take? : List Char → Nat → Option (List Char)
  | _, 0 => some []
  | [], _ + 1 => none
  | c :: rest, n =>
    if c.utf8Size ≤ n then (take? rest (n - c.utf8Size)).map (c :: ·) else none

/-- The bytes of a text from one position up to another. -/
def slice? (text : List Char) (first last : Nat) : Option (List Char) :=
  (drop? text first).bind (take? · (last - first))

end Bytes
end Text
end AccessPortal
