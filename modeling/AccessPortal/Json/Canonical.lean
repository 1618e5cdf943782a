import AccessPortal.Json.Value

/-!
# Canonical values

A value is canonical if the members of every object in it are in ascending order of their names, no
name twice. Of several members with one name, the last one is meant.
-/

namespace AccessPortal
namespace Json

/-- Puts a member at its place among sorted ones, unless its name is taken. -/
def addMember (name : String) (value : Json) : List (String × Json) → List (String × Json)
  | [] => [(name, value)]
  | (n, old) :: members =>
    if name < n then (name, value) :: (n, old) :: members
    else if n < name then (n, old) :: addMember name value members
    else (n, old) :: members

mutual

/-- The canonical value that means the same. -/
def canonical : Json → Json
  | .array items => .array (canonicalItems items)
  | .object members => .object (canonicalMembers members)
  | value => value

def canonicalItems : List Json → List Json
  | [] => []
  | item :: items => canonical item :: canonicalItems items

def canonicalMembers : List (String × Json) → List (String × Json)
  | [] => []
  | (name, value) :: members => addMember name (canonical value) (canonicalMembers members)

end

end Json
end AccessPortal
