/-!
# Columns

Text in columns of a fixed width. A width counts characters; text that is too wide is not cut.
-/

namespace AccessPortal
namespace Text

def alignLeft (width : Nat) (text : String) : String :=
  text ++ String.ofList (List.replicate (width - text.length) ' ')

def alignRight (width : Nat) (text : String) : String :=
  String.ofList (List.replicate (width - text.length) ' ') ++ text

/-- A number in decimal digits, filled up with zeros on the left. -/
def zeroPadded (width : Nat) (n : Nat) : String :=
  let digits := toString n
  String.ofList (List.replicate (width - digits.length) '0') ++ digits

end Text
end AccessPortal
