import AccessPortal.Navigation.PortalTree
import AccessPortal.Proofs.Json.Records

/-!
# What a role sees of a tree

A tree is listed parents before children, each item as the chain of entries that leads from it to
the top. The listing tells the whole tree (`listing_injective`), and so it can say what becomes of
one: a role sees just the items on whose chain every gate opens to it (`sees_iff_listing`). An id
outside the catalog opens no gate but the empty ones.
-/

namespace AccessPortal

/-- The gate asks for nothing, or for a permission that the role with the id holds. -/
def Access.Opens (role : String) (gate : List Permission) : Prop :=
  gate = [] ∨ ∃ permission ∈ gate, ∃ known ∈ Role.ofId? role, permission ∈ known.permissions

instance (role : String) (gate : List Permission) : Decidable (Access.Opens role gate) :=
  inferInstanceAs (Decidable (_ ∨ _))

namespace NavigationItem

structure Entry where
  name : String
  path : String
  requiredPermissions : List Permission
  /-- Whether there is a level below the item, be it an empty one. -/
  hasLevel : Bool
  deriving DecidableEq

def entry (item : NavigationItem) : Entry :=
  ⟨item.name, item.path, item.requiredPermissions, item.children.isSome⟩

mutual

/-- The chains of an item and of everything below it, parents before children. A chain begins with
an entry and goes on with its ancestors, the nearest first. -/
def listingBelow (ancestors : List Entry) : NavigationItem → List (List Entry)
  | ⟨name, path, gate, none⟩ => [⟨name, path, gate, false⟩ :: ancestors]
  | ⟨name, path, gate, some children⟩ =>
    (⟨name, path, gate, true⟩ :: ancestors)
      :: listing (⟨name, path, gate, true⟩ :: ancestors) children

def listing (ancestors : List Entry) : List NavigationItem → List (List Entry)
  | [] => []
  | item :: items => listingBelow ancestors item ++ listing ancestors items

end

/-! ## The listing tells the tree -/

/-- What follows in a listing is not below an item at this depth. -/
def Returns (depth : Nat) (rest : List (List Entry)) : Prop :=
  ∀ chain ∈ rest.head?, chain.length ≤ depth

theorem head?_listingBelow (ancestors : List Entry) (item : NavigationItem) :
    (listingBelow ancestors item).head? = some (item.entry :: ancestors) := by
  obtain ⟨name, path, gate, children⟩ := item
  cases children <;> rfl

/-- The siblings of an item are no deeper than the item. -/
theorem returns_siblings {ancestors : List Entry} {rest : List (List Entry)}
    (returns : Returns ancestors.length rest) (items : List NavigationItem) :
    Returns (ancestors.length + 1) (listing ancestors items ++ rest) := by
  intro chain first
  cases items with
  | nil => exact Nat.le_succ_of_le (returns chain first)
  | cons item items =>
      simp only [listing, List.append_assoc, List.head?_append, head?_listingBelow,
        Option.some_or, Option.mem_some_iff] at first
      rw [← first]
      exact Nat.le_refl _

theorem not_returns_listing {ancestors : List Entry} {item : NavigationItem}
    {items : List NavigationItem} {rest : List (List Entry)} :
    ¬ Returns ancestors.length (listing ancestors (item :: items) ++ rest) := by
  intro returns
  have first : item.entry :: ancestors ∈ (listing ancestors (item :: items) ++ rest).head? := by
    simp only [listing, List.append_assoc, List.head?_append, head?_listingBelow, Option.some_or,
      Option.mem_some_iff]
  have deeper := returns _ first
  rw [List.length_cons] at deeper
  omega

mutual

/-- An item is told by its part of a listing, whatever follows that is not below it. -/
theorem listingBelow_append_inj : ∀ (first second : NavigationItem) (ancestors : List Entry)
    {rest rest' : List (List Entry)}, Returns (ancestors.length + 1) rest →
      Returns (ancestors.length + 1) rest' →
      listingBelow ancestors first ++ rest = listingBelow ancestors second ++ rest' →
        first = second ∧ rest = rest'
  | ⟨_, _, _, none⟩, ⟨_, _, _, none⟩, _, _, _, _, _, same => by
      obtain ⟨entries, rest⟩ := List.cons.inj same
      cases entries
      exact ⟨rfl, rest⟩
  | ⟨_, _, _, none⟩, ⟨_, _, _, some _⟩, _, _, _, _, _, same => by
      cases (List.cons.inj same).1
  | ⟨_, _, _, some _⟩, ⟨_, _, _, none⟩, _, _, _, _, _, same => by
      cases (List.cons.inj same).1
  | ⟨name, path, gate, some children⟩, ⟨_, _, _, some children'⟩, ancestors, _, _,
      returns, returns', same => by
      obtain ⟨entries, below⟩ := List.cons.inj same
      cases entries
      obtain ⟨rfl, rest⟩ := listing_append_inj children children'
        (⟨name, path, gate, true⟩ :: ancestors) returns returns' below
      exact ⟨rfl, rest⟩

theorem listing_append_inj : ∀ (first second : List NavigationItem) (ancestors : List Entry)
    {rest rest' : List (List Entry)}, Returns ancestors.length rest →
      Returns ancestors.length rest' →
      listing ancestors first ++ rest = listing ancestors second ++ rest' →
        first = second ∧ rest = rest'
  | [], [], _, _, _, _, _, same => ⟨rfl, same⟩
  | [], item :: items, ancestors, rest, rest', returns, _, same => by
      have same : rest = listing ancestors (item :: items) ++ rest' := same
      rw [same] at returns
      exact absurd returns not_returns_listing
  | item :: items, [], ancestors, rest, rest', _, returns', same => by
      have same : listing ancestors (item :: items) ++ rest = rest' := same
      rw [← same] at returns'
      exact absurd returns' not_returns_listing
  | item :: items, item' :: items', ancestors, _, _, returns, returns', same => by
      rw [listing, listing, List.append_assoc, List.append_assoc] at same
      obtain ⟨rfl, others⟩ := listingBelow_append_inj item item' ancestors
        (returns_siblings returns items) (returns_siblings returns' items') same
      obtain ⟨rfl, rest⟩ := listing_append_inj items items' ancestors returns returns' others
      exact ⟨rfl, rest⟩

end

theorem listing_injective : Function.Injective (listing []) := by
  intro first second same
  have nothing : Returns ([] : List Entry).length [] := nofun
  refine (listing_append_inj first second [] nothing nothing ?_).1
  rw [same]

/-! ## What is left of a tree -/

theorem pruneBelow_eq (opens : List Permission → Bool) (item : NavigationItem) :
    pruneBelow opens item = { item with children := item.children.map (prune opens) } := by
  obtain ⟨name, path, gate, children⟩ := item
  cases children <;> rfl

/-- The items of one level stay in their order, and each keeps its level. -/
theorem prune_eq_map (opens : List Permission → Bool) (items : List NavigationItem) :
    prune opens items =
      (items.filter fun item => opens item.requiredPermissions).map fun item =>
        { item with children := item.children.map (prune opens) } := by
  induction items with
  | nil => rfl
  | cons item items ih =>
      rw [prune, ih, pruneBelow_eq]
      cases opened : opens item.requiredPermissions with
      | true => simp [opened]
      | false => simp [opened]

def passable (opens : List Permission → Bool) (chain : List Entry) : Bool :=
  chain.all fun entry => opens entry.requiredPermissions

mutual

/-- Every chain in the listing of an item goes through the item. -/
theorem suffix_of_mem_listingBelow : ∀ (item : NavigationItem) {ancestors chain : List Entry},
    chain ∈ listingBelow ancestors item → item.entry :: ancestors <:+ chain
  | ⟨_, _, _, none⟩, _, _, mem => List.mem_singleton.mp mem ▸ List.suffix_refl _
  | ⟨_, _, _, some children⟩, _, _, mem => by
      rcases List.mem_cons.mp mem with rfl | mem
      · exact List.suffix_refl _
      · exact suffix_of_mem_listing children mem

theorem suffix_of_mem_listing : ∀ (items : List NavigationItem) {ancestors chain : List Entry},
    chain ∈ listing ancestors items → ancestors <:+ chain
  | [], _, _, mem => nomatch mem
  | item :: items, _, _, mem => by
      rcases List.mem_append.mp mem with mem | mem
      · exact (List.suffix_cons _ _).trans (suffix_of_mem_listingBelow item mem)
      · exact suffix_of_mem_listing items mem

end

/-- Behind a gate that stays shut nothing can be reached. -/
theorem filter_listingBelow_of_shut {opens : List Permission → Bool} {item : NavigationItem}
    (shut : opens item.requiredPermissions = false) (ancestors : List Entry) :
    (listingBelow ancestors item).filter (passable opens) = [] := by
  refine List.filter_eq_nil_iff.mpr fun chain mem passes => ?_
  have through : item.entry ∈ chain :=
    (suffix_of_mem_listingBelow item mem).mem List.mem_cons_self
  have opened := List.all_eq_true.mp passes item.entry through
  rw [show item.entry.requiredPermissions = item.requiredPermissions from rfl, shut] at opened
  cases opened

mutual

/-- What is left of an item that can be reached is what can be reached of it. -/
theorem listingBelow_pruneBelow (opens : List Permission → Bool) :
    ∀ (item : NavigationItem) {ancestors : List Entry},
      passable opens (item.entry :: ancestors) = true →
      listingBelow ancestors (pruneBelow opens item) =
        (listingBelow ancestors item).filter (passable opens)
  | ⟨name, path, gate, none⟩, ancestors, reached => by
      have reached : passable opens (⟨name, path, gate, false⟩ :: ancestors) = true := reached
      rw [pruneBelow, listingBelow, List.filter_singleton, reached]
      rfl
  | ⟨name, path, gate, some children⟩, ancestors, reached => by
      have reached : passable opens (⟨name, path, gate, true⟩ :: ancestors) = true := reached
      rw [pruneBelow, listingBelow, listingBelow, List.filter_cons_of_pos reached,
        listing_prune opens children reached]

theorem listing_prune (opens : List Permission → Bool) :
    ∀ (items : List NavigationItem) {ancestors : List Entry},
      passable opens ancestors = true →
      listing ancestors (prune opens items) = (listing ancestors items).filter (passable opens)
  | [], _, _ => rfl
  | item :: items, ancestors, reached => by
      have others := listing_prune opens items reached
      rw [prune, listing, List.filter_append]
      cases opened : opens item.requiredPermissions with
      | true =>
          have here : passable opens (item.entry :: ancestors) = true := by
            rw [passable, List.all_cons]
            exact Bool.and_eq_true_iff.mpr ⟨opened, reached⟩
          rw [if_pos rfl, listing, listingBelow_pruneBelow opens item here, others]
      | false =>
          rw [if_neg Bool.false_ne_true, filter_listingBelow_of_shut opened, others,
            List.nil_append]

end

/-! ## What a role sees -/

/-- The gates that a role of the catalog passes, and those that are passed behind an unknown id, are
the ones that open to the id. -/
theorem visibleToId_eq_prune (role : String) (tree : List NavigationItem) :
    visibleToId role tree = prune (fun gate => decide (Access.Opens role gate)) tree := by
  unfold visibleToId
  cases found : Role.ofId? role with
  | some known =>
      refine congrArg (prune · tree) (funext fun gate => ?_)
      rw [Bool.eq_iff_iff]
      simp [passes, Role.hasAny, Role.hasPermission, Access.Opens, found]
  | none =>
      refine congrArg (prune · tree) (funext fun gate => ?_)
      rw [Bool.eq_iff_iff]
      simp [Access.Opens, found]

theorem passable_opens (role : String) :
    passable (fun gate => decide (Access.Opens role gate)) =
      fun chain => decide (∀ entry ∈ chain, Access.Opens role entry.requiredPermissions) := by
  funext chain
  rw [Bool.eq_iff_iff]
  simp [passable]

theorem listing_visibleToId (role : String) (tree : List NavigationItem) :
    listing [] (visibleToId role tree) = (listing [] tree).filter fun chain =>
      decide (∀ entry ∈ chain, Access.Opens role entry.requiredPermissions) := by
  rw [visibleToId_eq_prune, ← passable_opens]
  exact listing_prune _ tree rfl

/--
What the role with an id sees of a tree is the tree whose listing is that of the whole tree, less
the chains with a gate that does not open to the role. Of each level the items with an open gate
stay, in their order, each with a level below it if it had one, and however little is left there.
-/
theorem sees_iff_listing (role : String) (tree : List NavigationItem) :
    (∀ seen, seen = visibleToId role tree ↔
      listing [] seen = (listing [] tree).filter fun chain =>
        decide (∀ entry ∈ chain, Access.Opens role entry.requiredPermissions)) ∧
    (Role.ofId? role = none →
      listing [] (visibleToId role tree) = (listing [] tree).filter fun chain =>
        decide (∀ entry ∈ chain, entry.requiredPermissions = [])) ∧
    visibleToId role tree =
      (tree.filter fun item => decide (Access.Opens role item.requiredPermissions)).map
        (fun item => { item with children := item.children.map (visibleToId role) }) ∧
    ∀ known : Role, visibleToId known.id tree = visibleTo known tree := by
  have listed := listing_visibleToId role tree
  refine ⟨fun seen => ⟨fun same => ?_, fun same => ?_⟩, fun unknown => ?_, ?_, fun known => ?_⟩
  · rw [same, listed]
  · exact listing_injective (same.trans listed.symm)
  · rw [listed]
    simp [Access.Opens, unknown]
  · have below : visibleToId role = prune fun gate => decide (Access.Opens role gate) :=
      funext (visibleToId_eq_prune role)
    rw [below]
    exact prune_eq_map _ tree
  · rw [visibleToId, Role.ofId?_id]

theorem sees_iff_listing_outsider :
    Role.ofId? "root" = none ∧
      listing [] (visibleToId "root" portalTree) =
        [[⟨"Administration", "/admin", [], true⟩], [⟨"Help", "/help", [], false⟩]] := by
  have unknown : Role.ofId? "root" = none := by decide
  obtain ⟨-, outside, -⟩ := sees_iff_listing "root" portalTree
  exact ⟨unknown, (outside unknown).trans (by decide +kernel)⟩

end NavigationItem
end AccessPortal
