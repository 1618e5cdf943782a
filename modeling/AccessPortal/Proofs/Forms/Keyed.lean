import AccessPortal.Proofs.Forms.Adding
import AccessPortal.Proofs.Forms.Moves
import AccessPortal.Proofs.Forms.Reread

/-!
# Forms without ties

A form is keyed if no two of its fields share their id or their order value. The shipped forms are,
and every change keeps it that does not set order values by hand. In a keyed form every field can be
moved on until it is at the end, and a move is undone by moving back (`Keyed.move_back`,
`Keyed.at_end`).
-/

namespace AccessPortal

def MoveDirection.outermost? {α : Type} (l : List α) : MoveDirection → Option α
  | .up => l.head?
  | .down => l.getLast?

namespace RequestForm

variable {form moved : RequestForm} {field : FormField} {id : String} {direction : MoveDirection}

/-- No two fields share their id, and no two share their order value. -/
structure Keyed (form : RequestForm) : Prop where
  ids : (form.fields.map (·.id)).Nodup
  orders : (form.fields.map (·.order)).Nodup

instance : DecidablePred Keyed := fun form =>
  decidable_of_iff ((form.fields.map (·.id)).Nodup ∧ (form.fields.map (·.order)).Nodup)
    ⟨fun ⟨ids, orders⟩ => ⟨ids, orders⟩, fun keyed => ⟨keyed.ids, keyed.orders⟩⟩

/-! ## Changes -/

theorem orders_exchangeOrders (form : RequestForm) (a b : Fin form.fields.length) :
    ((form.exchangeOrders a b).fields.map (·.order)).Perm (form.fields.map (·.order)) := by
  have inside : a.val < (form.fields.map (·.order)).length := by simp
  have inside' : b.val < (form.fields.map (·.order)).length := by simp
  simpa [exchangeOrders] using List.set_set_perm inside inside'

namespace Keyed

theorem updateField (keyed : form.Keyed) {patch : FieldPatch} (free : patch.order = none)
    (id : String) : (form.updateField id patch.apply).Keyed := by
  have sameId (field : FormField) : (patch.apply field).id = field.id := rfl
  have sameOrder (field : FormField) : (patch.apply field).order = field.order := by
    simp [FieldPatch.apply, free]
  unfold RequestForm.updateField
  refine ⟨?_, ?_⟩
  · rw [map_updateFirst _ sameId]
    exact keyed.ids
  · rw [map_updateFirst _ sameOrder]
    exact keyed.orders

theorem move (keyed : form.Keyed) (moves : form.move? id direction = some moved) :
    moved.Keyed := by
  obtain ⟨a, b, rfl⟩ := eq_of_move? moves
  refine ⟨?_, (form.orders_exchangeOrders a b).nodup_iff.mpr keyed.orders⟩
  rw [form.map_id_exchangeOrders a b]
  exact keyed.ids

theorem append (keyed : form.Keyed) (absent : form.hasField field.id = false)
    (above : ∀ other ∈ form.fields, other.order < field.order) : (form.append field).Keyed where
  ids := by
    have fresh : field.id ∉ form.fields.map (·.id) := by
      simpa [hasField] using absent
    simpa [RequestForm.append, List.nodup_append, keyed.ids] using fresh
  orders := by
    have fresh : field.order ∉ form.fields.map (·.order) := by
      intro taken
      obtain ⟨other, mem, same⟩ := List.mem_map.mp taken
      have below := above other mem
      rw [same] at below
      exact Int32.lt_irrefl below
    simpa [RequestForm.append, List.nodup_append, keyed.orders] using fresh

theorem without (keyed : form.Keyed) (id : String) : (form.without id).Keyed :=
  have part : (form.without id).fields.Sublist form.fields := List.filter_sublist
  ⟨keyed.ids.sublist (part.map _), keyed.orders.sublist (part.map _)⟩

/-! ## Moves -/

variable {front back : List FormField} {upper lower : FormField}

theorem beside (keyed : form.Keyed) (displayed : form.displayed = front ++ upper :: lower :: back) :
    form.Beside front upper lower back := by
  refine ⟨keyed.ids, displayed, ?_⟩
  have orders := ((sortByOrder_perm (·.order) form.fields).map (·.order)).nodup_iff.mpr keyed.orders
  rw [show sortByOrder (·.order) form.fields = _ from displayed] at orders
  simp only [List.map_append, List.map_cons, List.nodup_append, List.nodup_cons] at orders
  simp_all

/-- Without ties, two neighbours that exchange their order values change places. -/
theorem exchange_displayed (keyed : form.Keyed) (beside : form.Beside front upper lower back) :
    (form.exchange upper lower).displayed =
      front ++ { lower with order := upper.order } :: { upper with order := lower.order } ::
        back := by
  have only {field other : FormField} (mem : field ∈ front ++ back) (inForm : other ∈ form.fields)
      (tied : field.order = other.order) : field = other := by
    refine List.inj_on_of_nodup_map keyed.orders (beside.mem_iff.mpr ?_) inForm tied
    grind
  refine beside.exchange_displayed_iff.mpr ⟨fun field mem tied => ?_, fun field mem tied => ?_⟩
  · have inFront : field ∈ front ++ back := List.mem_append_left back mem
    have same := only inFront beside.upper_mem tied
    exact absurd (congrArg (·.id) same) (beside.others inFront).1
  · have inBack : field ∈ front ++ back := List.mem_append_right front mem
    have same := only inBack beside.lower_mem tied
    exact absurd (congrArg (·.id) same) (beside.others inBack).2

/-- To move a field back gives back the form as it was. -/
theorem move_back (keyed : form.Keyed) (moves : form.move? id direction = some moved) :
    moved.move? id direction.opposite = some form := by
  have keyedAfter := keyed.move moves
  obtain ⟨front, upper, lower, back, beside, named, rfl⟩ :=
    (move?_eq_some_iff_beside keyed.ids).mp moves
  refine (move?_eq_some_iff_beside keyedAfter.ids).mpr ⟨front, _, _, back,
    keyedAfter.beside (keyed.exchange_displayed beside), ?_, beside.exchange_undone.symm⟩
  cases direction <;> exact named

/-- A field that there is and that cannot be moved is at the end. -/
theorem at_end (keyed : form.Keyed) (there : form.hasField id = true)
    (stays : form.move? id direction = none) :
    ∃ field, direction.outermost? form.displayed = some field ∧ field.id = id := by
  obtain ⟨field, mem, named⟩ := List.any_eq_true.mp there
  have named : field.id = id := beq_iff_eq.mp named
  obtain ⟨front, back, displayed⟩ := List.append_of_mem (mem_sortByOrder.mpr mem)
  have displayed : form.displayed = front ++ field :: back := displayed
  have noMove {front back : List FormField} {upper lower : FormField}
      (displayed : form.displayed = front ++ upper :: lower :: back)
      (named : (direction.mover upper lower).id = id) : False := by
    have moves := (move?_eq_some_iff_beside keyed.ids).mpr
      ⟨front, upper, lower, back, keyed.beside displayed, named, rfl⟩
    rw [stays] at moves
    cases moves
  refine ⟨field, ?_, named⟩
  cases direction with
  | up =>
      rcases List.eq_nil_or_concat front with rfl | ⟨front, upper, rfl⟩
      · rw [displayed]
        rfl
      · exact (noMove (by simpa using displayed) named).elim
  | down =>
      cases back with
      | nil =>
          rw [displayed]
          exact List.getLast?_concat
      | cons lower back => exact (noMove displayed named).elim

end Keyed
end RequestForm

/-! ## All forms -/

namespace FormSet

/-- Every form is keyed. -/
def Keyed (forms : FormSet) : Prop :=
  ∀ type form, forms.form? type = some form → form.Keyed

theorem Keyed.set {forms : FormSet} (keyed : forms.Keyed) {form : RequestForm}
    (formKeyed : form.Keyed) (type : RequestType) : (forms.set type form).Keyed := by
  intro other found there
  rw [form?_set] at there
  split at there
  · obtain rfl := Option.some.inj there
    exact formKeyed
  · exact keyed other found there

theorem shipped_keyed : shipped.Keyed := by
  intro type form found
  cases type <;> (cases found; decide)

end FormSet

namespace WorkingCopy

variable {copy : WorkingCopy} {type : RequestType}

theorem updateField_keyed (keyed : copy.forms.Keyed) {patch : FieldPatch}
    (free : patch.order = none) (type : RequestType) (id : String) :
    (copy.updateField type id patch).2.forms.Keyed := by
  unfold updateField
  split
  · exact keyed
  · rename_i form found
    split
    · exact keyed.set ((keyed type form found).updateField free id) type
    · exact keyed

theorem moveField_keyed (keyed : copy.forms.Keyed) (type : RequestType) (id : String)
    (direction : MoveDirection) : (copy.moveField type id direction).2.forms.Keyed := by
  unfold moveField
  split
  · exact keyed
  · rename_i form found
    split
    · split
      · rename_i moved moves
        exact keyed.set ((keyed type form found).move moves) type
      · exact keyed
    · exact keyed

theorem addField_keyed (keyed : copy.forms.Keyed) (type : RequestType) (id : String) :
    (copy.addField type id).2.forms.Keyed := by
  unfold addField
  split
  · exact keyed
  · exact keyed
  · rename_i field form offered found
    split
    · exact keyed
    · rename_i absent
      split
      · exact keyed
      · rename_i order next
        have named : field.id = id := by simpa using List.find?_some offered
        let added : FormField := { field with order, enabled := true, required := false }
        have fresh : form.hasField added.id = false := by simpa [added, named] using absent
        have above : ∀ other ∈ form.fields, other.order < added.order := form.lt_nextOrder? next
        exact keyed.set ((keyed type form found).append fresh above) type

theorem removeField_keyed (keyed : copy.forms.Keyed) (type : RequestType) (id : String) :
    (copy.removeField type id).2.forms.Keyed := by
  unfold removeField
  split
  · exact keyed
  · split
    · exact keyed
    · rename_i form found
      split
      · exact keyed.set ((keyed type form found).without id) type
      · exact keyed

end WorkingCopy
end AccessPortal
