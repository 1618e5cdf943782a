import AccessPortal.Access.Codec
import AccessPortal.Navigation.Item

/-!
# Navigation trees in JSON

An item is written with its gate, even an empty one, and with a list of children only if it has
one. The tree is the only recursive type of the portal, and so the only one whose text can reach the
nesting limit: each level of a tree opens an object and the array that holds it, and an item of the
deepest level still opens the array of its gate.
-/

namespace AccessPortal
namespace NavigationItem

mutual

def toJson : NavigationItem → Json
  | ⟨name, path, gate, none⟩ =>
    .object
      [("name", .string name), ("path", .string path),
       ("requiredPermissions", Json.ofList Permission.toJson gate)]
  | ⟨name, path, gate, some children⟩ =>
    .object
      [("name", .string name), ("path", .string path),
       ("requiredPermissions", Json.ofList Permission.toJson gate),
       ("children", .array (itemsToJson children))]

def itemsToJson : List NavigationItem → List Json
  | [] => []
  | item :: items => toJson item :: itemsToJson items

end

/-- A tree is written as the array of its topmost items. -/
def treeToJson (tree : List NavigationItem) : Json :=
  .array (itemsToJson tree)

/-- The members of an item; only the first two are needed. -/
def layout : List Json.Slot :=
  [⟨"name", false⟩, ⟨"path", false⟩, ⟨"requiredPermissions", true⟩, ⟨"children", true⟩]

/-- An item, given how its gate and its children are read. -/
def ofParts? (gate : Json → Option (List Permission))
    (children : Json → Option (List NavigationItem)) (value : Json) : Option NavigationItem := do
  let [name, path, requiredPermissions, below] ← Json.slots layout value | none
  return {
    name := ← Json.required Json.asString name
    path := ← Json.required Json.asString path
    requiredPermissions := ← Json.orElse [] gate requiredPermissions
    children := ← Json.optional children below }

/-- A permission of a gate, where at most `room` arrays and objects may still be opened. -/
def gatePermission? (room : Nat) : Json → Option Permission
  | .object members => if room = 0 then none else Permission.ofJson? (.object members)
  | value => Permission.ofJson? value

/-- An item, where at most `room` arrays and objects may still be opened. -/
def ofJsonWithin? : Nat → Json → Option NavigationItem
  | 0 => fun _ => none
  | 1 => ofParts? (fun _ => none) (fun _ => none)
  | room + 2 =>
    ofParts? (Json.asList (gatePermission? room)) (Json.asList (ofJsonWithin? room))

def ofJson? : Json → Option NavigationItem :=
  ofJsonWithin? Json.maxNesting

/-- A tree is read from the array of its topmost items. -/
def treeOfJson? : Json → Option (List NavigationItem) :=
  Json.asList (ofJsonWithin? (Json.maxNesting - 1))

end NavigationItem
end AccessPortal
