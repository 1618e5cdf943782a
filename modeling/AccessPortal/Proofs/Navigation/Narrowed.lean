import AccessPortal.Proofs.Navigation.Listing

/-!
# What several roles see of a tree

To narrow a tree for one role and then for another is to narrow it once, to what opens to both
(`prune_prune`). So narrowing for the same role again takes nothing away, the order of two roles
does not matter, and what a role sees of a tree it also sees of what a wider one sees
(`visibleTo_composes`). Behind an unknown id only the empty gates open, and these open to everyone.
-/

namespace AccessPortal

theorem Permission.mem_all (permission : Permission) : permission ∈ all := by
  cases permission <;> decide

namespace NavigationItem

variable {first second : List Permission → Bool}

/-! ## Pruning a tree twice -/

theorem passable_and (first second : List Permission → Bool) (chain : List Entry) :
    passable (fun gate => first gate && second gate) chain =
      (passable first chain && passable second chain) := by
  rw [Bool.eq_iff_iff]
  simp [passable, forall_and]

/-- What is left of a tree that was pruned twice can be reached through gates that both accept. -/
theorem prune_prune (first second : List Permission → Bool) (tree : List NavigationItem) :
    prune first (prune second tree) = prune (fun gate => first gate && second gate) tree := by
  refine listing_injective ?_
  rw [listing_prune first _ rfl, listing_prune second _ rfl, listing_prune _ _ rfl,
    List.filter_filter]
  exact congrArg (List.filter · _) (funext fun chain => (passable_and first second chain).symm)

theorem prune_comm (first second : List Permission → Bool) (tree : List NavigationItem) :
    prune first (prune second tree) = prune second (prune first tree) := by
  rw [prune_prune, prune_prune]
  exact congrArg (prune · tree) (funext fun gate => Bool.and_comm _ _)

/-- Where every gate opens, nothing is taken away. -/
theorem prune_of_open (opened : ∀ gate, first gate = true) (tree : List NavigationItem) :
    prune first tree = tree := by
  refine listing_injective ?_
  rw [listing_prune first _ rfl]
  refine List.filter_eq_self.mpr fun chain _ => ?_
  exact List.all_eq_true.mpr fun entry _ => opened entry.requiredPermissions

section

variable (wider : ∀ gate, first gate = true → second gate = true)
include wider

/-- Nothing is hidden that can be reached through fewer gates. -/
theorem prune_prune_of_wider (tree : List NavigationItem) :
    prune first (prune second tree) = prune first tree := by
  rw [prune_prune]
  refine congrArg (prune · tree) (funext fun gate => ?_)
  cases opened : first gate with
  | true => exact wider gate opened
  | false => rfl

theorem listing_prune_sublist (tree : List NavigationItem) :
    (listing [] (prune first tree)).Sublist (listing [] (prune second tree)) := by
  rw [listing_prune first _ rfl, listing_prune second _ rfl]
  refine List.monotone_filter_right _ fun chain reached => ?_
  refine List.all_eq_true.mpr fun entry mem => ?_
  exact wider _ (List.all_eq_true.mp reached entry mem)

end

/-! ## The gates that open to a role -/

theorem passes_iff {role : Role} {gate : List Permission} :
    passes role gate = true ↔ gate = [] ∨ ∃ permission ∈ gate, permission ∈ role.permissions := by
  simp [passes, Role.hasAny, Role.hasPermission]

theorem passes_of_isEmpty (role : Role) (gate : List Permission) (empty : gate.isEmpty = true) :
    passes role gate = true :=
  passes_iff.mpr (.inl (List.isEmpty_iff.mp empty))

/-- Who holds more passes more gates. -/
theorem passes_of_subset {role wider : Role} (subset : role.permissions ⊆ wider.permissions)
    (gate : List Permission) (opened : passes role gate = true) : passes wider gate = true := by
  obtain empty | ⟨permission, asked, held⟩ := passes_iff.mp opened
  · exact passes_iff.mpr (.inl empty)
  · exact passes_iff.mpr (.inr ⟨permission, asked, subset held⟩)

/-- Who holds everything passes every gate. -/
theorem passes_systemAdmin (gate : List Permission) : passes .systemAdmin gate = true := by
  cases gate with
  | nil => rfl
  | cons permission gate =>
      exact passes_iff.mpr (.inr ⟨permission, List.mem_cons_self, permission.mem_all⟩)

theorem visibleToId_of_unknown {id : String} (unknown : Role.ofId? id = none) :
    visibleToId id = prune List.isEmpty := by
  funext tree
  rw [visibleToId, unknown]

/--
Narrowing a tree for a role twice is narrowing it once, and it may be narrowed for two roles in
either order. A role sees of what a wider role sees what it sees of the whole tree, and so the wider
role sees all of that. The role that holds every permission sees the whole tree. Behind an unknown
id there is nothing to be seen but what every role sees.
-/
theorem visibleTo_composes (tree : List NavigationItem) (role other : Role) :
    visibleTo role (visibleTo role tree) = visibleTo role tree ∧
    visibleTo other (visibleTo role tree) = visibleTo role (visibleTo other tree) ∧
    (role.permissions ⊆ other.permissions →
      visibleTo role (visibleTo other tree) = visibleTo role tree ∧
        (listing [] (visibleTo role tree)).Sublist (listing [] (visibleTo other tree))) ∧
    visibleTo .systemAdmin tree = tree ∧
    ∀ id, Role.ofId? id = none →
      visibleToId id (visibleTo role tree) = visibleToId id tree ∧
        (listing [] (visibleToId id tree)).Sublist (listing [] (visibleTo role tree)) := by
  refine ⟨?_, ?_, fun subset => ?_, ?_, fun id unknown => ?_⟩
  · exact prune_prune_of_wider (fun _ opened => opened) tree
  · exact prune_comm (passes other) (passes role) tree
  · have wider := passes_of_subset subset
    exact ⟨prune_prune_of_wider wider tree, listing_prune_sublist wider tree⟩
  · exact prune_of_open passes_systemAdmin tree
  · rw [visibleToId_of_unknown unknown]
    have wider := passes_of_isEmpty role
    exact ⟨prune_prune_of_wider wider tree, listing_prune_sublist wider tree⟩

/-- A manager may do all that an end user may. -/
theorem visibleTo_composes_manager :
    Role.endUser.permissions ⊆ Role.manager.permissions ∧ Role.ofId? "root" = none ∧
      visibleTo .endUser (visibleTo .manager portalTree) = visibleTo .endUser portalTree ∧
      (visibleTo .endUser portalTree).length < (visibleTo .manager portalTree).length ∧
      visibleToId "root" (visibleTo .endUser portalTree) = visibleToId "root" portalTree := by
  have subset : Role.endUser.permissions ⊆ Role.manager.permissions := by decide
  have unknown : Role.ofId? "root" = none := by decide
  obtain ⟨-, -, wider, -, outside⟩ := visibleTo_composes portalTree .endUser .manager
  exact ⟨subset, unknown, (wider subset).1, by decide, (outside "root" unknown).1⟩

end NavigationItem
end AccessPortal
