import AccessPortal.Proofs.Forms.Adding
import AccessPortal.Proofs.Forms.Attempts
import AccessPortal.Proofs.Forms.Patches

/-!
# Edits that do not meet

An edit of one request type sees nothing of the other forms and leaves them as they are
(`ConfinedTo`), and so two edits of different types answer the same and end with the same forms in
either order, whether they succeed or fail. Within a form, a patch changes the first field with the
id, which still has its id and its place afterwards, and so patches of different fields do not meet
either (`updateField_comm`).
-/

namespace AccessPortal

section

variable {α : Type} {p q : α → Bool} {f g : α → α}

/-- The first element with the property is changed, and it stays in its place. -/
theorem updateFirst_of_any {l : List α} (there : l.any p = true) (f : α → α) :
    ∃ front a back, l = front ++ a :: back ∧ (∀ other ∈ front, p other = false) ∧ p a = true ∧
      updateFirst p f l = front ++ f a :: back := by
  induction l with
  | nil => cases there
  | cons a l ih =>
      cases here : p a with
      | true => exact ⟨[], a, l, rfl, nofun, here, by simp [updateFirst, here]⟩
      | false =>
          rw [List.any_cons, here, Bool.false_or] at there
          obtain ⟨front, found, back, rfl, before, itself, changed⟩ := ih there
          refine ⟨a :: front, found, back, rfl, fun other mem => ?_, itself, ?_⟩
          · rcases List.mem_cons.mp mem with rfl | mem
            · exact here
            · exact before other mem
          · rw [updateFirst, if_neg (by simp [here]), changed]
            rfl

theorem updateFirst_updateFirst (keeps : ∀ a, p (f a) = p a) (l : List α) :
    updateFirst p g (updateFirst p f l) = updateFirst p (fun a => g (f a)) l := by
  induction l with
  | nil => rfl
  | cons a l ih =>
      cases here : p a with
      | true => simp [updateFirst, here, keeps]
      | false => simp [updateFirst, here, ih]

/-- Changes of different elements do not meet if neither makes or unmakes one that the other is
about. -/
theorem updateFirst_comm (differ : ∀ a, p a = true → q a = false) (keeps : ∀ a, q (f a) = q a)
    (keeps' : ∀ a, p (g a) = p a) (l : List α) :
    updateFirst q g (updateFirst p f l) = updateFirst p f (updateFirst q g l) := by
  induction l with
  | nil => rfl
  | cons a l ih =>
      cases first : p a with
      | true =>
          have second := differ a first
          simp [updateFirst, first, second, keeps]
      | false =>
          cases second : q a with
          | true => simp [updateFirst, first, second, keeps']
          | false => simp [updateFirst, first, second, ih]

end

/-! ## Patches of the fields of a form -/

/-- A patch leaves a field its id, and so whatever is asked of the id. -/
theorem FieldPatch.named_apply (patch : FieldPatch) (id : String) (field : FormField) :
    ((patch.apply field).id == id) = (field.id == id) :=
  rfl

namespace RequestForm

variable {id other : String}

theorem hasField_updateField (form : RequestForm) (id : String) (patch : FieldPatch)
    (other : String) : (form.updateField id patch.apply).hasField other = form.hasField other := by
  have sameId (field : FormField) : (patch.apply field).id = field.id := rfl
  have ids : (form.updateField id patch.apply).fields.map (·.id) = form.fields.map (·.id) :=
    map_updateFirst _ sameId form.fields
  rw [Bool.eq_iff_iff, hasField, hasField, any_id_iff, any_id_iff, ids]

theorem updateField_updateField (form : RequestForm) (id : String) (first second : FieldPatch) :
    (form.updateField id first.apply).updateField id second.apply =
      form.updateField id (first.followedBy second).apply := by
  have once := updateFirst_updateFirst (p := (·.id == id)) (g := second.apply)
    (first.named_apply id) form.fields
  simp only [updateField, once, FieldPatch.patching.apply_apply first second]

theorem updateField_comm (differ : id ≠ other) (form : RequestForm) (first second : FieldPatch) :
    (form.updateField id first.apply).updateField other second.apply =
      (form.updateField other second.apply).updateField id first.apply := by
  have apart (field : FormField) (named : (field.id == id) = true) : (field.id == other) = false :=
    beq_false_of_ne fun same => differ ((beq_iff_eq.mp named).symm.trans same)
  simp only [updateField,
    updateFirst_comm apart (first.named_apply other) (second.named_apply id)]

end RequestForm

theorem FormSet.set_comm {type other : RequestType} (differ : type ≠ other) (forms : FormSet)
    (form form' : RequestForm) :
    (forms.set type form).set other form' = (forms.set other form').set type form := by
  ext1
  funext asked
  simp only [form?_set]
  split
  · rename_i same
    rw [if_neg fun twice => differ (twice.symm.trans same)]
  · rfl

namespace WorkingCopy

variable {copy : WorkingCopy} {type other : RequestType}

theorem form?_replaceForm (copy : WorkingCopy) (type : RequestType) (form : RequestForm)
    (other : RequestType) :
    (copy.replaceForm type form).forms.form? other =
      if other = type then some form else copy.forms.form? other :=
  rfl

theorem replaceForm_replaceForm (copy : WorkingCopy) (type : RequestType)
    (first second : RequestForm) :
    (copy.replaceForm type first).replaceForm type second = copy.replaceForm type second := by
  simp only [replaceForm, FormSet.set_set]

theorem replaceForm_comm (differ : type ≠ other) (copy : WorkingCopy) (form form' : RequestForm) :
    (copy.replaceForm type form).replaceForm other form' =
      (copy.replaceForm other form').replaceForm type form := by
  simp only [replaceForm, FormSet.set_comm differ]

/-! ## One patch after another -/

theorem updateField_updateField (copy : WorkingCopy) (type : RequestType) (id : String)
    (first second : FieldPatch) :
    (copy.updateField type id first).2.updateField type id second =
      copy.updateField type id (first.followedBy second) := by
  cases found : copy.forms.form? type with
  | none => simp [updateField, found]
  | some form =>
      cases there : form.hasField id with
      | false => simp [updateField, found, there]
      | true =>
          simp [updateField, found, there, form?_replaceForm, RequestForm.hasField_updateField,
            RequestForm.updateField_updateField, replaceForm_replaceForm]

theorem updateField_again (copy : WorkingCopy) (type : RequestType) (id : String)
    (patch : FieldPatch) :
    (copy.updateField type id patch).2.updateField type id patch =
      copy.updateField type id patch := by
  rw [updateField_updateField]
  unfold updateField
  rw [FieldPatch.patching.apply_followedBy_self]

theorem updateForm_updateForm (copy : WorkingCopy) (type : RequestType)
    (first second : FormPatch) :
    (copy.updateForm type first).2.updateForm type second =
      copy.updateForm type (first.followedBy second) := by
  cases found : copy.forms.form? type with
  | none => simp [updateForm, found]
  | some form =>
      simp [updateForm, found, form?_replaceForm, FormPatch.patching.apply_apply,
        replaceForm_replaceForm]

theorem updateForm_again (copy : WorkingCopy) (type : RequestType) (patch : FormPatch) :
    (copy.updateForm type patch).2.updateForm type patch = copy.updateForm type patch := by
  rw [updateForm_updateForm]
  unfold updateForm
  rw [FormPatch.patching.apply_followedBy_self]

/-! ## Edits of different forms -/

/-- A change that gives another form at most to this type, and that does not see the forms of the
others. -/
structure ConfinedTo {α : Type} (type : RequestType) (change : WorkingCopy → α × WorkingCopy) :
    Prop where
  own : ∀ copy, (change copy).2 = copy ∨ ∃ form, (change copy).2 = copy.replaceForm type form
  blind : ∀ copy {other}, type ≠ other → ∀ form,
    change (copy.replaceForm other form) = ((change copy).1, (change copy).2.replaceForm other form)

/-- Two changes of a working copy come to the same in either order. -/
structure Commute {α β : Type} (first : WorkingCopy → α × WorkingCopy)
    (second : WorkingCopy → β × WorkingCopy) (copy : WorkingCopy) : Prop where
  firstAnswer : (first (second copy).2).1 = (first copy).1
  secondAnswer : (second (first copy).2).1 = (second copy).1
  ends : (second (first copy).2).2 = (first (second copy).2).2

theorem ConfinedTo.commute {α β : Type} {first : WorkingCopy → α × WorkingCopy}
    {second : WorkingCopy → β × WorkingCopy} (ofType : ConfinedTo type first)
    (ofOther : ConfinedTo other second) (differ : type ≠ other) (copy : WorkingCopy) :
    Commute first second copy := by
  obtain unchanged | ⟨form, changed⟩ := ofType.own copy
  · obtain unchanged' | ⟨form', changed'⟩ := ofOther.own copy
    · exact ⟨by rw [unchanged'], by rw [unchanged], by rw [unchanged, unchanged', unchanged]⟩
    · have after := ofType.blind copy differ form'
      rw [← changed'] at after
      exact ⟨by rw [after], by rw [unchanged], by rw [after, unchanged, changed']⟩
  · have after := ofOther.blind copy differ.symm form
    rw [← changed] at after
    obtain unchanged' | ⟨form', changed'⟩ := ofOther.own copy
    · exact ⟨by rw [unchanged'], by rw [after], by rw [after, unchanged', changed]⟩
    · have after' := ofType.blind copy differ form'
      rw [← changed'] at after'
      refine ⟨by rw [after'], by rw [after], ?_⟩
      rw [after, after', changed, changed']
      exact (replaceForm_comm differ copy form form').symm

/-! ## What each edit sees -/

theorem form?_replaceForm_of_ne (differ : type ≠ other) (copy : WorkingCopy)
    (form : RequestForm) :
    (copy.replaceForm other form).forms.form? type = copy.forms.form? type :=
  if_neg differ

theorem updateField_confined (type : RequestType) (id : String) (patch : FieldPatch) :
    ConfinedTo type fun copy => copy.updateField type id patch where
  own copy := by
    unfold updateField
    split
    · exact .inl rfl
    · split
      · exact .inr ⟨_, rfl⟩
      · exact .inl rfl
  blind copy other differ form := by
    simp only [updateField, form?_replaceForm_of_ne differ]
    split
    · rfl
    · split
      · rw [replaceForm_comm differ]
      · rfl

theorem updateForm_confined (type : RequestType) (patch : FormPatch) :
    ConfinedTo type fun copy => copy.updateForm type patch where
  own copy := by
    unfold updateForm
    split
    · exact .inl rfl
    · exact .inr ⟨_, rfl⟩
  blind copy other differ form := by
    simp only [updateForm, form?_replaceForm_of_ne differ]
    split
    · rfl
    · rw [replaceForm_comm differ]

theorem moveField_confined (type : RequestType) (id : String) (direction : MoveDirection) :
    ConfinedTo type fun copy => copy.moveField type id direction where
  own copy := by
    unfold moveField
    split
    · exact .inl rfl
    · split
      · split
        · exact .inr ⟨_, rfl⟩
        · exact .inl rfl
      · exact .inl rfl
  blind copy other differ form := by
    simp only [moveField, form?_replaceForm_of_ne differ]
    split
    · rfl
    · split
      · split
        · rw [replaceForm_comm differ]
        · rfl
      · rfl

theorem addField_confined (type : RequestType) (id : String) :
    ConfinedTo type fun copy => copy.addField type id where
  own copy := by
    unfold addField
    split
    · exact .inl rfl
    · exact .inl rfl
    · split
      · exact .inl rfl
      · split
        · exact .inl rfl
        · exact .inr ⟨_, rfl⟩
  blind copy other differ form := by
    have catalog : (copy.replaceForm other form).catalog = copy.catalog := rfl
    simp only [addField, form?_replaceForm_of_ne differ, catalog]
    split
    · rfl
    · rfl
    · split
      · rfl
      · split
        · rfl
        · rw [replaceForm_comm differ]

theorem removeField_confined (type : RequestType) (id : String) :
    ConfinedTo type fun copy => copy.removeField type id where
  own copy := by
    unfold removeField
    split
    · exact .inl rfl
    · split
      · exact .inl rfl
      · split
        · exact .inr ⟨_, rfl⟩
        · exact .inl rfl
  blind copy other differ form := by
    have defaults : (copy.replaceForm other form).defaults = copy.defaults := rfl
    simp only [removeField, form?_replaceForm_of_ne differ, defaults]
    split
    · rfl
    · split
      · rfl
      · split
        · rw [replaceForm_comm differ]
        · rfl

def Edit.type? : Edit → Option RequestType
  | .updateField type _ _ | .updateForm type _ | .moveField type _ _ | .addField type _
  | .removeField type _ => some type
  | .save | .reset => none

theorem Edit.confined {edit : Edit} (ofType : edit.type? = some type) :
    ∃ change, (∀ copy, edit.attempt copy = pure (change copy)) ∧ ConfinedTo type change := by
  cases edit with
  | updateField edited id patch =>
      obtain rfl := Option.some.inj ofType
      exact ⟨_, fun _ => rfl, updateField_confined edited id patch⟩
  | updateForm edited patch =>
      obtain rfl := Option.some.inj ofType
      exact ⟨_, fun _ => rfl, updateForm_confined edited patch⟩
  | moveField edited id direction =>
      obtain rfl := Option.some.inj ofType
      exact ⟨_, fun _ => rfl, moveField_confined edited id direction⟩
  | addField edited id =>
      obtain rfl := Option.some.inj ofType
      exact ⟨_, fun _ => rfl, addField_confined edited id⟩
  | removeField edited id =>
      obtain rfl := Option.some.inj ofType
      exact ⟨_, fun _ => rfl, removeField_confined edited id⟩
  | save => cases ofType
  | reset => cases ofType

theorem updateField_comm {id id' : String} (differ : id ≠ id') (type : RequestType)
    (patch patch' : FieldPatch) (copy : WorkingCopy) :
    Commute (fun copy => copy.updateField type id patch)
      (fun copy => copy.updateField type id' patch') copy := by
  cases found : copy.forms.form? type with
  | none => exact ⟨by simp [updateField, found], by simp [updateField, found],
      by simp [updateField, found]⟩
  | some form =>
      cases first : form.hasField id <;> cases second : form.hasField id' <;>
        refine ⟨?_, ?_, ?_⟩ <;>
        simp [updateField, found, first, second, form?_replaceForm,
          RequestForm.hasField_updateField, RequestForm.updateField_comm differ,
          replaceForm_replaceForm]

/-- Edits that do not meet: two updates of different fields, or any two edits of different request
types. -/
inductive Edit.Apart : Edit → Edit → Prop
  | fields {type type' : RequestType} {id id' : String} {patch patch' : FieldPatch}
      (differ : (type, id) ≠ (type', id')) :
      Apart (.updateField type id patch) (.updateField type' id' patch')
  | types {first second : Edit} {type other : RequestType} (ofType : first.type? = some type)
      (ofOther : second.type? = some other) (differ : type ≠ other) : Apart first second

def Edit.inTurn (first second : Edit) (copy : WorkingCopy) :
    Program ((first.Reply × second.Reply) × WorkingCopy) := do
  let (reply, copy) ← first.attempt copy
  let (reply', copy) ← second.attempt copy
  return ((reply, reply'), copy)

theorem Edit.Apart.commute {first second : Edit} (apart : first.Apart second) :
    ∃ change change', (∀ copy, first.attempt copy = pure (change copy)) ∧
      (∀ copy, second.attempt copy = pure (change' copy)) ∧
      ∀ copy, Commute change change' copy := by
  cases apart with
  | types ofType ofOther differ =>
      obtain ⟨change, attempts, ownType⟩ := confined ofType
      obtain ⟨change', attempts', ownType'⟩ := confined ofOther
      exact ⟨change, change', attempts, attempts', ownType.commute ownType' differ⟩
  | @fields type type' id id' patch patch' differ =>
      refine ⟨_, _, fun _ => rfl, fun _ => rfl, fun copy => ?_⟩
      by_cases same : type = type'
      · subst same
        exact updateField_comm (fun same => differ (congrArg (type, ·) same)) type patch patch' copy
      · exact (updateField_confined type id patch).commute (updateField_confined type' id' patch')
          same copy

theorem Edit.Apart.inTurn {first second : Edit} (apart : first.Apart second)
    (copy : WorkingCopy) :
    first.inTurn second copy =
      (fun done => (done.1.swap, done.2)) <$> second.inTurn first copy := by
  obtain ⟨change, change', attempts, attempts', commute⟩ := apart.commute
  obtain ⟨firstAnswer, secondAnswer, ends⟩ := commute copy
  simp only [Edit.inTurn, attempts, attempts', pure_bind, map_pure, Prod.swap_prod_mk,
    firstAnswer, secondAnswer, ends]

/-! ## What an update changes -/

/-- The request type has got this form, which is to be saved, and nothing else is different. -/
structure Replaced (copy : WorkingCopy) (type : RequestType) (form : RequestForm)
    (after : WorkingCopy) : Prop where
  own : after.forms.form? type = some form
  others : ∀ other, other ≠ type → after.forms.form? other = copy.forms.form? other
  defaults : after.defaults = copy.defaults
  catalog : after.catalog = copy.catalog
  unsaved : after.unsaved = true

theorem replaced_replaceForm (copy : WorkingCopy) (type : RequestType) (form : RequestForm) :
    copy.Replaced type form (copy.replaceForm type form) where
  own := if_pos rfl
  others _ differs := if_neg differs
  defaults := rfl
  catalog := rfl
  unsaved := rfl

theorem updateField_replaces {after : WorkingCopy} {id : String} {patch : FieldPatch}
    (updated : copy.updateField type id patch = (.ok (), after)) :
    ∃ form front field back, copy.forms.form? type = some form ∧
      form.fields = front ++ field :: back ∧ (∀ other ∈ front, other.id ≠ id) ∧ field.id = id ∧
      copy.Replaced type { form with fields := front ++ patch.apply field :: back } after := by
  unfold updateField at updated
  split at updated
  · cases updated
  · rename_i form found
    split at updated
    · rename_i there
      obtain ⟨front, field, back, fields, before, named, changed⟩ :=
        updateFirst_of_any there patch.apply
      refine ⟨form, front, field, back, found, fields, fun other mem => ?_, beq_iff_eq.mp named, ?_⟩
      · exact beq_eq_false_iff_ne.mp (before other mem)
      · rw [← changed, ← (Prod.mk.inj updated).2]
        exact copy.replaced_replaceForm type (form.updateField id patch.apply)
    · cases updated

theorem updateForm_replaces {after : WorkingCopy} {patch : FormPatch}
    (updated : copy.updateForm type patch = (.ok (), after)) :
    ∃ form, copy.forms.form? type = some form ∧
      copy.Replaced type (patch.apply form) after := by
  unfold updateForm at updated
  split at updated
  · cases updated
  · rename_i form found
    rw [← (Prod.mk.inj updated).2]
    exact ⟨form, found, copy.replaced_replaceForm type (patch.apply form)⟩

/--
An update of a field changes the first field with the id, in it the parts that the patch gives, and
nothing else; an update of a form changes just the parts of the form that its patch gives. To make
the same update again changes nothing, and two updates of the same field or form come to the one
whose patch gives what the second one gives and else what the first one gives. Two updates of
different fields, and any two edits of different request types, may be made in either order: each of
them answers the same, and the working copy is the same after both.
-/
theorem edits_stay_apart (copy : WorkingCopy) :
    (∀ type id patch after, copy.updateField type id patch = (.ok (), after) →
      ∃ form front field back, copy.forms.form? type = some form ∧
        form.fields = front ++ field :: back ∧ (∀ other ∈ front, other.id ≠ id) ∧ field.id = id ∧
        copy.Replaced type { form with fields := front ++ patch.apply field :: back } after ∧
        ∀ part, (patch.apply field).part part = (patch.given part).getD (field.part part)) ∧
    (∀ type patch after, copy.updateForm type patch = (.ok (), after) →
      ∃ form, copy.forms.form? type = some form ∧
        copy.Replaced type (patch.apply form) after ∧
        ∀ part, (patch.apply form).part part = (patch.given part).getD (form.part part)) ∧
    (∀ first second : FieldPatch,
      (∀ part, (first.followedBy second).given part =
        (second.given part).or (first.given part)) ∧
      (∀ field, second.apply (first.apply field) = (first.followedBy second).apply field) ∧
      (∀ field, first.apply (first.apply field) = first.apply field) ∧
      ∀ type id,
        (copy.updateField type id first).2.updateField type id second =
          copy.updateField type id (first.followedBy second) ∧
        (copy.updateField type id first).2.updateField type id first =
          copy.updateField type id first) ∧
    (∀ first second : FormPatch,
      (∀ part, (first.followedBy second).given part =
        (second.given part).or (first.given part)) ∧
      (∀ form, second.apply (first.apply form) = (first.followedBy second).apply form) ∧
      (∀ form, first.apply (first.apply form) = first.apply form) ∧
      ∀ type,
        (copy.updateForm type first).2.updateForm type second =
          copy.updateForm type (first.followedBy second) ∧
        (copy.updateForm type first).2.updateForm type first = copy.updateForm type first) ∧
    ∀ first second : Edit, first.Apart second →
      first.inTurn second copy =
        (fun done => (done.1.swap, done.2)) <$> second.inTurn first copy := by
  refine ⟨fun type id patch after updated => ?_, fun type patch after updated => ?_,
    fun first second => ?_, fun first second => ?_, fun first second apart => apart.inTurn copy⟩
  · obtain ⟨form, front, field, back, found, fields, before, named, replaced⟩ :=
      updateField_replaces updated
    exact ⟨form, front, field, back, found, fields, before, named, replaced,
      FieldPatch.patching.applied patch field⟩
  · obtain ⟨form, found, replaced⟩ := updateForm_replaces updated
    exact ⟨form, found, replaced, FormPatch.patching.applied patch form⟩
  · exact ⟨FieldPatch.patching.joined first second, FieldPatch.patching.apply_apply first second,
      FieldPatch.patching.apply_again first, fun type id =>
        ⟨copy.updateField_updateField type id first second, copy.updateField_again type id first⟩⟩
  · exact ⟨FormPatch.patching.joined first second, FormPatch.patching.apply_apply first second,
      FormPatch.patching.apply_again first, fun type =>
        ⟨copy.updateForm_updateForm type first second, copy.updateForm_again type first⟩⟩

/-- Of two fields with one id the first is patched, and a removal that fails elsewhere does not meet
the patch. -/
theorem edits_stay_apart_repeated_id :
    let note (label : String) : FormField :=
      { id := "note", label, type := .text, order := 3, category := "general" }
    let form : RequestForm :=
      { RequestForm.lockAccount with fields := [note "first", note "second"] }
    let copy : WorkingCopy :=
      { defaults := .shipped, catalog := FormField.catalog
        forms := FormSet.shipped.set .lockAccount form }
    let patch : FieldPatch := { label := some "Reason" }
    let after := (copy.updateField .lockAccount "note" patch).2
    let update : Edit := .updateField .lockAccount "note" patch
    let removal : Edit := .removeField .copyUser "nobody"
    copy.updateField .lockAccount "note" patch = (.ok (), after) ∧
      (∃ front field back, form.fields = front ++ field :: back ∧
        (∀ other ∈ front, other.id ≠ "note") ∧ field.id = "note" ∧
        after.forms.form? .lockAccount =
          some { form with fields := front ++ patch.apply field :: back }) ∧
      update.Apart removal ∧
      (copy.removeField .copyUser "nobody").1 = .error (.fieldNotFound .copyUser "nobody") ∧
      update.inTurn removal copy =
        (fun done => (done.1.swap, done.2)) <$> removal.inTurn update copy := by
  intro note form copy patch after update removal
  have updates : copy.updateField .lockAccount "note" patch = (.ok (), after) := rfl
  have apart : update.Apart removal := .types rfl rfl (by decide)
  obtain ⟨changes, -, -, -, eitherOrder⟩ := edits_stay_apart copy
  obtain ⟨form', front, field, back, found, fields, before, named, replaced, -⟩ :=
    changes .lockAccount "note" patch after updates
  obtain rfl : form = form' := Option.some.inj found
  exact ⟨updates, ⟨front, field, back, fields, before, named, replaced.own⟩, apart, rfl,
    eitherOrder update removal apart⟩

end WorkingCopy
end AccessPortal
