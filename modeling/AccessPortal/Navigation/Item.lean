import AccessPortal.Access.Role

/-!
# The navigation tree

An item of the tree carries a gate, a list of permissions. A role passes a gate that asks for
nothing, or of which it holds at least one permission. What a user sees is the tree without the
items whose gate stays shut; an item that is not seen hides everything below it, and an item that
is seen stays even when nothing is left below it.
-/

namespace AccessPortal

structure NavigationItem where
  name : String
  path : String
  /-- The gate: one of these permissions opens it, and so does an empty list. -/
  requiredPermissions : List Permission := []
  /-- `none` for an entry that has no level below it, as opposed to an empty one. -/
  children : Option (List NavigationItem) := none
  deriving Repr, Inhabited

namespace NavigationItem

def passes (role : Role) (gate : List Permission) : Bool :=
  gate.isEmpty || role.hasAny gate

mutual

/-- The item with only those below it that can be reached through gates that `opens` accepts. -/
def pruneBelow (opens : List Permission → Bool) : NavigationItem → NavigationItem
  | ⟨name, path, gate, none⟩ => ⟨name, path, gate, none⟩
  | ⟨name, path, gate, some children⟩ => ⟨name, path, gate, some (prune opens children)⟩

/-- The items that can be reached through gates that `opens` accepts, in their order. -/
def prune (opens : List Permission → Bool) : List NavigationItem → List NavigationItem
  | [] => []
  | item :: items =>
    if opens item.requiredPermissions then pruneBelow opens item :: prune opens items
    else prune opens items

end

def visibleTo (role : Role) (tree : List NavigationItem) : List NavigationItem :=
  prune (passes role) tree

/-- What the role with the given id may see. Behind an unknown id, only open gates are passed. -/
def visibleToId (role : String) (tree : List NavigationItem) : List NavigationItem :=
  match Role.ofId? role with
  | some role => visibleTo role tree
  | none => prune List.isEmpty tree

mutual

/-- The item or the first one below it that has the given path, parents before children. -/
def findBelow? (path : String) : NavigationItem → Option NavigationItem
  | item@⟨_, here, _, none⟩ => if here == path then some item else none
  | item@⟨_, here, _, some children⟩ =>
    if here == path then some item else findByPath? path children

/-- The first item with the given path, depth first and parents before children. -/
def findByPath? (path : String) : List NavigationItem → Option NavigationItem
  | [] => none
  | item :: items =>
    match findBelow? path item with
    | some found => some found
    | none => findByPath? path items

end

end NavigationItem
end AccessPortal
