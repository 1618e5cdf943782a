import AccessPortal.Proofs.Navigation.Listing

/-!
# Finding an item by its path

A tree is searched parents before children and siblings in their order, and the first item with the
path is found (`findByPath?_eq`); there is none only if no item of the tree has the path, however
deep. In what a role sees of a tree, the search finds the first item with the path that the role can
reach, which need not be the first one of the whole tree: a path may stand in the tree several
times, and not all of these places can be reached (`finds_first`).
-/

namespace AccessPortal
namespace NavigationItem

/-- A place in a tree: the item there with all that is below it, and the items above it, the nearest
first. -/
structure Occurrence where
  item : NavigationItem
  above : List NavigationItem

namespace Occurrence

def chain (place : Occurrence) : List Entry :=
  (place.item :: place.above).map entry

def reached (opens : List Permission → Bool) (place : Occurrence) : Bool :=
  (place.item :: place.above).all fun item => opens item.requiredPermissions

def pruned (opens : List Permission → Bool) (place : Occurrence) : Occurrence :=
  ⟨pruneBelow opens place.item, place.above.map (pruneBelow opens)⟩

theorem reached_eq_passable (opens : List Permission → Bool) (place : Occurrence) :
    place.reached opens = passable opens place.chain := by
  rw [reached, passable, chain, List.all_map]
  rfl

theorem reached_iff {opens : List Permission → Bool} {place : Occurrence} :
    place.reached opens = true ↔
      ∀ item ∈ place.item :: place.above, opens item.requiredPermissions = true :=
  List.all_eq_true

end Occurrence

mutual

/-- The places of an item and of everything below it, parents before children. -/
def occurrencesBelow (above : List NavigationItem) : NavigationItem → List Occurrence
  | item@⟨_, _, _, none⟩ => [⟨item, above⟩]
  | item@⟨_, _, _, some children⟩ => ⟨item, above⟩ :: occurrences (item :: above) children

def occurrences (above : List NavigationItem) : List NavigationItem → List Occurrence
  | [] => []
  | item :: items => occurrencesBelow above item ++ occurrences above items

end

/-- The item is in the tree, at any depth, with these items above it. -/
inductive Lies (tree : List NavigationItem) : NavigationItem → List NavigationItem → Prop
  | top {item : NavigationItem} (mem : item ∈ tree) : Lies tree item []
  | child {parent item : NavigationItem} {above children : List NavigationItem}
      (lies : Lies tree parent above) (level : parent.children = some children)
      (mem : item ∈ children) : Lies tree item (parent :: above)

/-! ## The places of a tree are where its items lie -/

theorem mem_occurrencesBelow_self (above : List NavigationItem) (item : NavigationItem) :
    ⟨item, above⟩ ∈ occurrencesBelow above item := by
  obtain ⟨name, path, gate, children⟩ := item
  cases children with
  | none => exact List.mem_singleton_self _
  | some children => exact List.mem_cons_self

theorem mem_occurrences_of_mem {above items : List NavigationItem} {item : NavigationItem}
    (mem : item ∈ items) : ⟨item, above⟩ ∈ occurrences above items := by
  induction items with
  | nil => cases mem
  | cons first items ih =>
      rcases List.mem_cons.mp mem with rfl | mem
      · exact List.mem_append_left _ (mem_occurrencesBelow_self above item)
      · exact List.mem_append_right _ (ih mem)

mutual

/-- With an item of a tree the tree has what is right below the item. -/
theorem child_mem_occurrencesBelow : ∀ (root : NavigationItem) {above : List NavigationItem}
    {place : Occurrence} {children : List NavigationItem} {item : NavigationItem},
    place ∈ occurrencesBelow above root → place.item.children = some children →
      item ∈ children → ⟨item, place.item :: place.above⟩ ∈ occurrencesBelow above root
  | ⟨_, _, _, none⟩, _, _, _, _, mem, level, _ => by
      obtain rfl := List.mem_singleton.mp mem
      cases level
  | ⟨_, _, _, some children⟩, _, _, _, _, mem, level, child => by
      rcases List.mem_cons.mp mem with rfl | mem
      · obtain rfl := Option.some.inj level
        exact List.mem_cons_of_mem _ (mem_occurrences_of_mem child)
      · exact List.mem_cons_of_mem _ (child_mem_occurrences children mem level child)

theorem child_mem_occurrences : ∀ (items : List NavigationItem) {above : List NavigationItem}
    {place : Occurrence} {children : List NavigationItem} {item : NavigationItem},
    place ∈ occurrences above items → place.item.children = some children →
      item ∈ children → ⟨item, place.item :: place.above⟩ ∈ occurrences above items
  | [], _, _, _, _, mem, _, _ => nomatch mem
  | first :: items, _, _, _, _, mem, level, child => by
      rcases List.mem_append.mp mem with mem | mem
      · exact List.mem_append_left _ (child_mem_occurrencesBelow first mem level child)
      · exact List.mem_append_right _ (child_mem_occurrences items mem level child)

end

section

variable {tree : List NavigationItem}

mutual

theorem lies_of_mem_occurrencesBelow : ∀ (root : NavigationItem) {above : List NavigationItem}
    {place : Occurrence}, Lies tree root above → place ∈ occurrencesBelow above root →
      Lies tree place.item place.above
  | ⟨_, _, _, none⟩, _, _, lies, mem => by
      obtain rfl := List.mem_singleton.mp mem
      exact lies
  | ⟨_, _, _, some children⟩, _, _, lies, mem => by
      rcases List.mem_cons.mp mem with rfl | mem
      · exact lies
      · exact lies_of_mem_occurrences children (fun _ child => lies.child rfl child) mem

theorem lies_of_mem_occurrences : ∀ (items : List NavigationItem) {above : List NavigationItem}
    {place : Occurrence}, (∀ item ∈ items, Lies tree item above) →
      place ∈ occurrences above items → Lies tree place.item place.above
  | [], _, _, _, mem => nomatch mem
  | first :: items, _, _, lie, mem => by
      rcases List.mem_append.mp mem with mem | mem
      · exact lies_of_mem_occurrencesBelow first (lie first List.mem_cons_self) mem
      · exact lies_of_mem_occurrences items
          (fun item inside => lie item (List.mem_cons_of_mem _ inside)) mem

end

theorem mem_occurrences_iff {place : Occurrence} :
    place ∈ occurrences [] tree ↔ Lies tree place.item place.above := by
  constructor
  · exact lies_of_mem_occurrences tree fun _ mem => .top mem
  · obtain ⟨item, above⟩ := place
    intro lies
    change Lies tree item above at lies
    induction lies with
    | top mem => exact mem_occurrences_of_mem mem
    | child _ level mem ih => exact child_mem_occurrences tree ih level mem

end

/-! ## What is found -/

mutual

theorem findBelow?_eq (path : String) : ∀ (item : NavigationItem) (above : List NavigationItem),
    findBelow? path item =
      ((occurrencesBelow above item).find? fun place => place.item.path == path).map (·.item)
  | ⟨_, here, _, none⟩, _ => by
      cases found : here == path with
      | true => simp [findBelow?, occurrencesBelow, found]
      | false => simp [findBelow?, occurrencesBelow, found]
  | ⟨name, here, gate, some children⟩, above => by
      have deeper := findByPath?_eq path children (⟨name, here, gate, some children⟩ :: above)
      cases found : here == path with
      | true => simp [findBelow?, occurrencesBelow, found]
      | false => simp [findBelow?, occurrencesBelow, found, deeper]

/-- What is found is the item at the first place with the path. -/
theorem findByPath?_eq (path : String) : ∀ (items above : List NavigationItem),
    findByPath? path items =
      ((occurrences above items).find? fun place => place.item.path == path).map (·.item)
  | [], _ => rfl
  | item :: items, above => by
      rw [findByPath?, occurrences, List.find?_append, findBelow?_eq path item above,
        findByPath?_eq path items above]
      cases (occurrencesBelow above item).find? fun place => place.item.path == path with
      | none => rfl
      | some place => rfl

end

/-! ## Places that are left -/

mutual

/-- The chains of a listing are those of the places, in the same order. -/
theorem map_chain_occurrencesBelow : ∀ (item : NavigationItem) (above : List NavigationItem),
    (occurrencesBelow above item).map Occurrence.chain = listingBelow (above.map entry) item
  | ⟨_, _, _, none⟩, _ => rfl
  | ⟨name, path, gate, some children⟩, above => by
      rw [occurrencesBelow, listingBelow, List.map_cons,
        map_chain_occurrences children (⟨name, path, gate, some children⟩ :: above)]
      rfl

theorem map_chain_occurrences : ∀ (items above : List NavigationItem),
    (occurrences above items).map Occurrence.chain = listing (above.map entry) items
  | [], _ => rfl
  | item :: items, above => by
      rw [occurrences, listing, List.map_append, map_chain_occurrencesBelow item above,
        map_chain_occurrences items above]

end

/-- Behind a gate that stays shut no place can be reached. -/
theorem filter_occurrencesBelow_of_shut {opens : List Permission → Bool} {item : NavigationItem}
    (shut : opens item.requiredPermissions = false) (above : List NavigationItem) :
    (occurrencesBelow above item).filter (Occurrence.reached opens) = [] := by
  have chains := filter_listingBelow_of_shut shut (above.map entry)
  rw [← map_chain_occurrencesBelow, List.filter_map, List.map_eq_nil_iff] at chains
  rw [funext (Occurrence.reached_eq_passable opens)]
  exact chains

mutual

theorem occurrencesBelow_pruneBelow (opens : List Permission → Bool) :
    ∀ (item : NavigationItem) {above : List NavigationItem},
      Occurrence.reached opens ⟨item, above⟩ = true →
      occurrencesBelow (above.map (pruneBelow opens)) (pruneBelow opens item) =
        ((occurrencesBelow above item).filter (Occurrence.reached opens)).map
          (Occurrence.pruned opens)
  | ⟨_, _, _, none⟩, above, reached => by
      rw [occurrencesBelow, List.filter_cons_of_pos reached]
      rfl
  | ⟨name, path, gate, some children⟩, above, reached => by
      have deeper := occurrences_prune opens children reached
      rw [occurrencesBelow, List.filter_cons_of_pos reached, List.map_cons, ← deeper]
      rfl

/-- The places of what is left of a tree are the places of the tree that can be reached. -/
theorem occurrences_prune (opens : List Permission → Bool) :
    ∀ (items : List NavigationItem) {above : List NavigationItem},
      (above.all fun item => opens item.requiredPermissions) = true →
      occurrences (above.map (pruneBelow opens)) (prune opens items) =
        ((occurrences above items).filter (Occurrence.reached opens)).map
          (Occurrence.pruned opens)
  | [], _, _ => rfl
  | item :: items, above, reached => by
      have others := occurrences_prune opens items reached
      rw [prune, occurrences, List.filter_append, List.map_append]
      cases opened : opens item.requiredPermissions with
      | true =>
          have here : Occurrence.reached opens ⟨item, above⟩ = true := by
            rw [Occurrence.reached, List.all_cons]
            exact Bool.and_eq_true_iff.mpr ⟨opened, reached⟩
          rw [if_pos rfl, occurrences, occurrencesBelow_pruneBelow opens item here, others]
      | false =>
          rw [if_neg Bool.false_ne_true, filter_occurrencesBelow_of_shut opened, others]
          rfl

end

/-- In a pruned tree the first place with the path is found that can be reached. -/
theorem findByPath?_prune (path : String) (opens : List Permission → Bool)
    (tree : List NavigationItem) :
    findByPath? path (prune opens tree) =
      ((occurrences [] tree).find? fun place =>
        place.item.path == path && place.reached opens).map fun place =>
          pruneBelow opens place.item := by
  have samePath (place : Occurrence) : (place.pruned opens).item.path = place.item.path := by
    rw [Occurrence.pruned, pruneBelow_eq]
  have noneAbove : (([] : List NavigationItem).all fun item => opens item.requiredPermissions) =
      true := rfl
  have left := occurrences_prune opens tree noneAbove
  rw [List.map_nil] at left
  have sameTest (place : Occurrence) :
      decide (place.reached opens = true ∧ ((place.pruned opens).item.path == path) = true) =
        (place.item.path == path && place.reached opens) := by
    rw [samePath, Bool.eq_iff_iff, decide_eq_true_iff, Bool.and_eq_true_iff, and_comm]
  rw [findByPath?_eq path _ [], left, List.find?_map, List.find?_filter, Option.map_map]
  simp only [Function.comp_def, sameTest]
  rfl

theorem visibleTo_eq_prune (role : Role) :
    visibleTo role = prune fun gate => decide (Access.Opens role.id gate) := by
  funext tree
  rw [← visibleToId_eq_prune, visibleToId, Role.ofId?_id]

theorem Occurrence.reached_opens (role : String) (place : Occurrence) :
    (place.reached fun gate => decide (Access.Opens role gate)) =
      decide (∀ gated ∈ place.item :: place.above,
        Access.Opens role gated.requiredPermissions) := by
  rw [Bool.eq_iff_iff, reached_iff]
  simp only [decide_eq_true_eq]

/--
What is found under a path is the item at the first place with that path, parents before children
and siblings in their order; nothing is found exactly if no item of the tree has the path. In what a
role sees, that is the first place with the path all of whose gates from the top down open to the
role, if there is one, and of the item there the role gets what it sees below.
-/
theorem finds_first (path : String) (tree : List NavigationItem) :
    (∀ place, place ∈ occurrences [] tree ↔ Lies tree place.item place.above) ∧
    findByPath? path tree =
      ((occurrences [] tree).find? fun place => place.item.path == path).map (·.item) ∧
    (findByPath? path tree = none ↔ ∀ item above, Lies tree item above → item.path ≠ path) ∧
    ∀ role : Role,
      findByPath? path (visibleTo role tree) =
        ((occurrences [] tree).find? fun place =>
          place.item.path == path && decide (∀ gated ∈ place.item :: place.above,
            Access.Opens role.id gated.requiredPermissions)).map
          (fun place =>
            { place.item with children := place.item.children.map (visibleTo role) }) ∧
      ((findByPath? path (visibleTo role tree)).isSome ↔
        ∃ item above, Lies tree item above ∧ item.path = path ∧
          ∀ gated ∈ item :: above, Access.Opens role.id gated.requiredPermissions) := by
  have whole := findByPath?_eq path tree []
  refine ⟨fun _ => mem_occurrences_iff, whole, ?_, fun role => ?_⟩
  · rw [whole, Option.map_eq_none_iff, List.find?_eq_none]
    constructor
    · intro absent item above lies same
      exact absent ⟨item, above⟩ (mem_occurrences_iff.mpr lies) (beq_iff_eq.mpr same)
    · intro absent place mem same
      exact absent place.item place.above (mem_occurrences_iff.mp mem) (beq_iff_eq.mp same)
  · rw [visibleTo_eq_prune, findByPath?_prune]
    simp only [Occurrence.reached_opens]
    refine ⟨by simp only [pruneBelow_eq], ?_⟩
    rw [Option.isSome_map, List.find?_isSome]
    constructor
    · rintro ⟨place, mem, fits⟩
      obtain ⟨same, reached⟩ := Bool.and_eq_true_iff.mp fits
      exact ⟨place.item, place.above, mem_occurrences_iff.mp mem, beq_iff_eq.mp same,
        of_decide_eq_true reached⟩
    · rintro ⟨item, above, lies, same, reached⟩
      exact ⟨⟨item, above⟩, mem_occurrences_iff.mpr lies,
        Bool.and_eq_true_iff.mpr ⟨beq_iff_eq.mpr same, decide_eq_true reached⟩⟩

/-- A path stands in a tree twice, and the first place is behind a gate. -/
theorem finds_first_behind_gate :
    let tree : List NavigationItem :=
      [{ name := "Administration", path := "/admin", requiredPermissions := [.manageUsers]
         children := some [{ name := "Manual", path := "/help" }] },
        { name := "Help", path := "/help" }]
    (findByPath? "/help" tree).map (·.name) = some "Manual" ∧
      (findByPath? "/help" (visibleTo .endUser tree)).map (·.name) = some "Help" ∧
      (findByPath? "/admin" tree).isSome ∧
      findByPath? "/admin" (visibleTo .endUser tree) = none := by
  intro tree
  obtain ⟨-, help, -, seenHelp⟩ := finds_first "/help" tree
  obtain ⟨-, admin, -, seenAdmin⟩ := finds_first "/admin" tree
  refine ⟨?_, ?_, ?_, ?_⟩
  · rw [help]
    decide
  · rw [(seenHelp .endUser).1]
    decide
  · rw [admin]
    decide
  · rw [(seenAdmin .endUser).1]
    decide

end NavigationItem
end AccessPortal
