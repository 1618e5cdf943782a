/-!
# JSON values

The value type that every stored and transmitted text of the portal stands for. Members of an
object keep the order in which they are written, repetitions included: whether a repeated member is
an error or overwrites the earlier one is decided by the type that is decoded, not by the text.

Text can be well formed and still stand for no value, when an escape in a string names half of a
surrogate pair. Such a place is kept as `Json.unreadable`: it does no harm under a member that
nobody reads, and no decoder accepts it.
-/

namespace AccessPortal

inductive Json where
  | null
  | bool (b : Bool)
  /-- A number written without fraction and exponent; `-0` is not one of them. -/
  | integer (n : Int)
  /-- Any other number. No type of the portal holds one, so its spelling is all that is kept. -/
  | decimal (spelling : String)
  | string (s : String)
  | array (items : List Json)
  | object (members : List (String × Json))
  /-- A string, or an object with a member name, that names half of a surrogate pair. -/
  | unreadable
  deriving Inhabited, Repr

namespace Json

/-- The characters that may stand between the tokens of a text. -/
def isBlank (c : Char) : Bool :=
  c == ' ' || c == '\t' || c == '\n' || c == '\r'

def skipBlanks (text : List Char) : List Char :=
  text.dropWhile isBlank

/--
The number of arrays and objects that may be open around any place of a text that is decoded.

Members that nobody reads are exempt, as they are skipped and not decoded.
-/
def maxNesting : Nat := 127

mutual

/--
Whether a value can be held as it is, with at most `room` arrays and objects open around any place:
nothing in it is unreadable.
-/
def isReadable (room : Nat) : Json → Bool
  | .unreadable => false
  | .array items => 0 < room && allReadable (room - 1) items
  | .object members => 0 < room && membersReadable (room - 1) members
  | _ => true

/-- `isReadable` for all items of an array. -/
def allReadable (room : Nat) : List Json → Bool
  | [] => true
  | item :: items => isReadable room item && allReadable room items

/-- `isReadable` for all members of an object. -/
def membersReadable (room : Nat) : List (String × Json) → Bool
  | [] => true
  | (_, value) :: members => isReadable room value && membersReadable room members

end

end Json
end AccessPortal
