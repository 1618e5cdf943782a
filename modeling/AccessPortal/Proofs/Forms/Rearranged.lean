import AccessPortal.Proofs.Forms.Keyed
import Mathlib.Logic.Equiv.Basic

/-!
# Moves one after the other

A move exchanges two order values or changes nothing (`attemptMove_of_movable`,
`attemptMove_of_stuck`). So moves in any number, possible or not, leave everything about a form as
it is but for the order values, and these only change places (`afterMoves_rearranges`). Nothing is
assumed of the form: fields may share their ids and their order values.
-/

namespace AccessPortal

def FormField.unordered (field : FormField) : FormField :=
  { field with order := 0 }

namespace RequestForm

variable {form moved after : RequestForm} {id : String} {direction : MoveDirection}

/-! ## What no move changes -/

/-- The forms differ at most in which field has which of the order values. -/
structure Rearranges (form after : RequestForm) : Prop where
  rest : { after with fields := form.fields } = form
  fields : after.fields.map FormField.unordered = form.fields.map FormField.unordered
  orders : (after.fields.map (·.order)).Perm (form.fields.map (·.order))

theorem Rearranges.refl (form : RequestForm) : form.Rearranges form :=
  ⟨rfl, rfl, .refl _⟩

theorem Rearranges.trans (first : form.Rearranges moved) (second : moved.Rearranges after) :
    form.Rearranges after where
  rest :=
    (congrArg (fun other => { other with fields := form.fields }) second.rest).trans first.rest
  fields := second.fields.trans first.fields
  orders := second.orders.trans first.orders

theorem exchangeOrders_rearranges (form : RequestForm) (a b : Fin form.fields.length) :
    form.Rearranges (form.exchangeOrders a b) :=
  ⟨rfl, map_exchangeOrders (fun _ _ => rfl) form a b, form.orders_exchangeOrders a b⟩

/-! ## One move -/

def attemptMove (form : RequestForm) (id : String) (direction : MoveDirection) :
    Bool × RequestForm :=
  match form.move? id direction with
  | some moved => (true, moved)
  | none => (false, form)

/-- The first field of the id in the display is one of two neighbours, the other one lies in this
direction, and their order values differ. -/
structure Movable (form : RequestForm) (id : String) (direction : MoveDirection)
    (upper lower : Fin form.fields.length) : Prop where
  neighbours : ∃ front back, form.displayPlaces = front ++ upper :: lower :: back
  first : form.displayPlaces.find? (fun i => (form.fields.get i).id == id) =
    some (direction.mover upper lower)
  differ : (form.fields.get upper).order ≠ (form.fields.get lower).order

def withOrdersOf (form : RequestForm)
    (place : Fin form.fields.length → Fin form.fields.length) : RequestForm :=
  { form with
    fields := (List.finRange form.fields.length).map fun i =>
      { form.fields.get i with order := (form.fields.get (place i)).order } }

theorem exchangeOrders_eq_withOrdersOf (form : RequestForm) (a b : Fin form.fields.length) :
    form.exchangeOrders a b = form.withOrdersOf (Equiv.swap a b) := by
  unfold exchangeOrders withOrdersOf
  simp only [RequestForm.mk.injEq, true_and]
  refine List.ext_getElem (by simp) fun i inside _ => ?_
  have bound : i < form.fields.length := by simpa using inside
  by_cases atSecond : b.val = i
  · have same : (⟨i, bound⟩ : Fin form.fields.length) = b := Fin.ext atSecond.symm
    subst atSecond
    simp [Equiv.swap_apply_right]
  · by_cases atFirst : a.val = i
    · subst atFirst
      simp [atSecond]
    · have other : Equiv.swap a b ⟨i, bound⟩ = ⟨i, bound⟩ :=
        Equiv.swap_apply_of_ne_of_ne (fun same => atFirst (congrArg Fin.val same).symm)
          fun same => atSecond (congrArg Fin.val same).symm
      simp [atFirst, atSecond, other]

theorem move?_eq_some_iff_movable :
    form.move? id direction = some moved ↔ ∃ upper lower,
      form.Movable id direction upper lower ∧ moved = form.exchangeOrders upper lower := by
  rw [move?_eq_some_iff]
  constructor
  · intro h
    obtain ⟨front, a, b, back, places, found, differ, rfl⟩ := h
    exact ⟨a, b, ⟨⟨front, back, places⟩, found, differ⟩, rfl⟩
  · intro h
    obtain ⟨a, b, ⟨⟨front, back, places⟩, found, differ⟩, rfl⟩ := h
    exact ⟨front, a, b, back, places, found, differ, rfl⟩

/-- Where there is such a neighbour, the two exchange their order values, and that is all. -/
theorem attemptMove_of_movable {upper lower : Fin form.fields.length}
    (movable : form.Movable id direction upper lower) :
    form.attemptMove id direction = (true, form.withOrdersOf (Equiv.swap upper lower)) := by
  have moves := move?_eq_some_iff_movable.mpr ⟨upper, lower, movable, rfl⟩
  rw [attemptMove, moves, exchangeOrders_eq_withOrdersOf]

/-- Where there is none, nothing changes. -/
theorem attemptMove_of_stuck (stuck : ∀ upper lower, ¬ form.Movable id direction upper lower) :
    form.attemptMove id direction = (false, form) := by
  have stays : form.move? id direction = none := by
    refine Option.eq_none_iff_forall_ne_some.mpr fun moved moves => ?_
    obtain ⟨upper, lower, movable, -⟩ := move?_eq_some_iff_movable.mp moves
    exact stuck upper lower movable
  rw [attemptMove, stays]

theorem attemptMove_eq_true_iff :
    (form.attemptMove id direction).1 = true ↔
      ∃ upper lower, form.Movable id direction upper lower := by
  constructor
  · intro moved
    by_contra none
    rw [attemptMove_of_stuck fun upper lower movable => none ⟨upper, lower, movable⟩] at moved
    cases moved
  · intro h
    obtain ⟨upper, lower, movable⟩ := h
    rw [attemptMove_of_movable movable]

theorem attemptMove_rearranges (form : RequestForm) (id : String) (direction : MoveDirection) :
    form.Rearranges (form.attemptMove id direction).2 := by
  unfold attemptMove
  split
  · rename_i moved moves
    obtain ⟨a, b, rfl⟩ := eq_of_move? moves
    exact form.exchangeOrders_rearranges a b
  · exact .refl form

/-! ## The places that a move looks at -/

theorem displayPlaces_perm_range (form : RequestForm) :
    (form.displayPlaces.map (·.val)).Perm (List.range form.fields.length) := by
  have perm := (sortByOrder_perm (fun i => (form.fields.get i).order)
    (List.finRange form.fields.length)).map (·.val)
  rwa [List.map_coe_finRange_eq_range] at perm

/-- The neighbour of a place is a place. -/
theorem neighbour?_lt {place count beside : Nat} (inside : place < count)
    (next : direction.neighbour? place count = some beside) : beside < count := by
  cases direction with
  | up =>
      simp only [MoveDirection.neighbour?, Option.ite_none_right_eq_some,
        Option.some.injEq] at next
      omega
  | down =>
      simp only [MoveDirection.neighbour?, Option.ite_none_right_eq_some,
        Option.some.injEq] at next
      omega

/-! ## Any number of moves -/

def afterMoves : List (String × MoveDirection) → RequestForm → RequestForm
  | [], form => form
  | (id, direction) :: moves, form => afterMoves moves (form.attemptMove id direction).2

theorem afterMoves_rearranges (moves : List (String × MoveDirection)) (form : RequestForm) :
    form.Rearranges (form.afterMoves moves) := by
  induction moves generalizing form with
  | nil => exact .refl form
  | cons next moves ih =>
      obtain ⟨id, direction⟩ := next
      exact (form.attemptMove_rearranges id direction).trans (ih _)

/--
After any moves a form is what it was but for the order values, and these have only changed places.
The next move takes place exactly if the first field of its id in the display has a neighbour in the
direction with another order value. Then the two exchange their values; if there is no move, nothing
changes. The display goes over the places of the list and each of them once, and the move looks at
no other place of the display than there are.
-/
theorem moves_only_rearrange (form : RequestForm) (moves : List (String × MoveDirection)) :
    let after := form.afterMoves moves
    { after with fields := form.fields } = form ∧
    after.fields.map FormField.unordered = form.fields.map FormField.unordered ∧
    (after.fields.map (·.order)).Perm (form.fields.map (·.order)) ∧
    (after.displayPlaces.map (·.val)).Perm (List.range after.fields.length) ∧
    ∀ id direction,
      let called := after.attemptMove id direction
      (called.1 = true ↔ ∃ upper lower, after.Movable id direction upper lower) ∧
      (∀ upper lower, after.Movable id direction upper lower →
        called.2 = after.withOrdersOf (Equiv.swap upper lower)) ∧
      (called.1 = false → called.2 = after) ∧
      ∀ here, after.displayPlaces.findIdx? (fun i => (after.fields.get i).id == id) = some here →
        here < after.displayPlaces.length ∧
          ∀ beside, direction.neighbour? here after.displayPlaces.length = some beside →
            beside < after.displayPlaces.length := by
  intro after
  have rearranges : form.Rearranges after := form.afterMoves_rearranges moves
  refine ⟨rearranges.rest, rearranges.fields, rearranges.orders, after.displayPlaces_perm_range,
    fun id direction => ⟨attemptMove_eq_true_iff, fun upper lower movable => ?_, fun stays => ?_,
      fun here found => ?_⟩⟩
  · rw [attemptMove_of_movable movable]
  · rw [attemptMove_of_stuck fun upper lower movable => ?_]
    cases stays.symm.trans (attemptMove_eq_true_iff.mpr ⟨upper, lower, movable⟩)
  · have inside := (List.findIdx?_eq_some_iff_getElem.mp found).choose
    exact ⟨inside, fun beside next => neighbour?_lt inside next⟩

/-- Two fields share their id and each of two order values is there twice. The second attempt to
move the field stops at a tie. -/
theorem moves_only_rearrange_tied :
    let form := ofOrders [("a", 20), ("b", 10), ("a", 10), ("c", 20)]
    let after := form.afterMoves [("a", .down), ("a", .down)]
    let upper : Fin after.fields.length := ⟨1, by decide⟩
    let lower : Fin after.fields.length := ⟨2, by decide⟩
    after.fields.map (·.order) = [10, 10, 20, 20] ∧ after.Movable "b" .down upper lower ∧
      (after.attemptMove "b" .down).2 = after.withOrdersOf (Equiv.swap upper lower) ∧
      (after.attemptMove "a" .down).2 = after ∧
      (after.fields.map (·.order)).Perm (form.fields.map (·.order)) := by
  intro form after upper lower
  have movable : after.Movable "b" .down upper lower :=
    ⟨⟨[⟨0, by decide⟩], [⟨3, by decide⟩], by decide⟩, by decide, by decide⟩
  obtain ⟨-, -, orders, -, calls⟩ :=
    moves_only_rearrange form [("a", .down), ("a", .down)]
  exact ⟨by decide, movable, (calls "b" .down).2.1 upper lower movable,
    (calls "a" .down).2.2.1 (by decide), orders⟩

end RequestForm
end AccessPortal
