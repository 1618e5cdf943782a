import AccessPortal.Forms.Saving
import AccessPortal.Proofs.Forms.Stored
import AccessPortal.Proofs.Program.Events

/-!
# Forms in normal form

A form is in normal form if its fields are the default ones in their order and then others. Saved
forms come back as they were exactly if they are in normal form (`merge_eq_iff`). What is loaded is
in normal form, whatever was stored, and every change keeps it but one: a patch may put any list in
the place of the fields.
-/

namespace AccessPortal

/-- The ids of a list of fields begin with the default ones, in order, and repeat none later. -/
def NormalFields (defaults fields : List FormField) : Prop :=
  ∃ added, fields.map (·.id) = defaults.map (·.id) ++ added ∧
    ∀ id ∈ added, id ∉ defaults.map (·.id)

namespace FormSet

def Distinct (defaults : FormSet) : Prop :=
  ∀ type form, defaults.form? type = some form → (form.fields.map (·.id)).Nodup

def Normal (defaults forms : FormSet) : Prop :=
  ∀ type default form, defaults.form? type = some default → forms.form? type = some form →
    NormalFields default.fields form.fields

def SameTypes (defaults forms : FormSet) : Prop :=
  ∀ type, (forms.form? type).map (·.requestType) = (defaults.form? type).map (·.requestType)

end FormSet

/-! ## Merging -/

theorem ids_mergeFields (defaults saved : List FormField) :
    (mergeFields defaults saved).map (·.id) =
      defaults.map (·.id)
        ++ (saved.filter fun field => !defaults.any (·.id == field.id)).map (·.id) := by
  unfold mergeFields
  rw [List.map_append, List.map_map]
  congr 1
  refine List.map_congr_left fun field _ => ?_
  cases found : saved.find? (·.id == field.id) with
  | none => simp [found]
  | some chosen =>
      have same : chosen.id = field.id := by simpa using List.find?_some found
      simp [found, same]

theorem any_id_iff {defaults : List FormField} {id : String} :
    defaults.any (·.id == id) = true ↔ id ∈ defaults.map (·.id) := by
  simp

theorem normal_mergeFields (defaults saved : List FormField) :
    NormalFields defaults (mergeFields defaults saved) := by
  refine ⟨_, ids_mergeFields defaults saved, fun id mem listed => ?_⟩
  obtain ⟨field, kept, rfl⟩ := List.mem_map.mp mem
  have foreign := (List.mem_filter.mp kept).2
  rw [any_id_iff.mpr listed] at foreign
  cases foreign

theorem find?_of_mem {front : List FormField} (distinct : (front.map (·.id)).Nodup)
    {field : FormField} (mem : field ∈ front) (back : List FormField) :
    (front ++ back).find? (·.id == field.id) = some field := by
  induction front with
  | nil => cases mem
  | cons first front ih =>
      obtain ⟨fresh, distinct⟩ := List.nodup_cons.mp distinct
      rw [List.cons_append, List.find?_cons]
      rcases List.mem_cons.mp mem with rfl | mem
      · simp
      · have different : first.id ≠ field.id := by
          intro same
          exact fresh (List.mem_map.mpr ⟨field, mem, same.symm⟩)
        rw [beq_false_of_ne different]
        exact ih distinct mem

/-- Fields with the ids of the default ones take their places. -/
theorem map_find?_of_ids {defaults front : List FormField}
    (ids : front.map (·.id) = defaults.map (·.id)) (distinct : (front.map (·.id)).Nodup)
    (back : List FormField) :
    defaults.map (fun field => ((front ++ back).find? (·.id == field.id)).getD field) = front := by
  let chosen (id : String) : FormField := ((front ++ back).find? (·.id == id)).getD default
  have byId : defaults.map (fun field => ((front ++ back).find? (·.id == field.id)).getD field) =
      (defaults.map (·.id)).map chosen := by
    rw [List.map_map]
    refine List.map_congr_left fun field mem => ?_
    have listed : field.id ∈ front.map (·.id) := ids ▸ List.mem_map_of_mem mem
    obtain ⟨other, inside, same⟩ := List.mem_map.mp listed
    have there := find?_of_mem distinct inside back
    rw [same] at there
    simp only [Function.comp, chosen, there]
    rfl
  rw [byId, ← ids, List.map_map]
  refine (List.map_congr_left fun field mem => ?_).trans (List.map_id front)
  simp only [Function.comp, chosen, find?_of_mem distinct mem back]
  rfl

/-- Saved fields in normal form take the places of the default fields, and the others follow. -/
theorem NormalFields.mergeFields_eq {defaults fields : List FormField}
    (normal : NormalFields defaults fields) (distinct : (defaults.map (·.id)).Nodup) :
    mergeFields defaults fields = fields := by
  obtain ⟨added, ids, foreign⟩ := normal
  obtain ⟨front, back, rfl, inFront, inBack⟩ := List.map_eq_append_iff.mp ids
  have noneOfFront : front.filter (fun field => !defaults.any (·.id == field.id)) = [] := by
    refine List.filter_eq_nil_iff.mpr fun field mem => ?_
    have known : field.id ∈ defaults.map (·.id) := inFront ▸ List.mem_map_of_mem mem
    rw [any_id_iff.mpr known]
    exact Bool.false_ne_true
  have allOfBack : back.filter (fun field => !defaults.any (·.id == field.id)) = back := by
    refine List.filter_eq_self.mpr fun field mem => ?_
    have unknown := foreign field.id (inBack ▸ List.mem_map_of_mem mem)
    rw [← any_id_iff] at unknown
    simpa using unknown
  have places := map_find?_of_ids inFront (inFront ▸ distinct) back
  rw [mergeFields, places, List.filter_append, noneOfFront, allOfBack]
  rfl

theorem normalFields_refl (defaults : List FormField) : NormalFields defaults defaults :=
  ⟨[], by simp, by simp⟩

theorem RequestForm.normal_merge (form : RequestForm) (saved : SavedForm) :
    NormalFields form.fields (form.merge saved).fields := by
  unfold merge
  cases saved.fields with
  | none => exact normalFields_refl form.fields
  | some fields => exact normal_mergeFields form.fields fields

theorem RequestForm.merge_saved {default form : RequestForm}
    (distinct : (default.fields.map (·.id)).Nodup)
    (sameType : form.requestType = default.requestType)
    (normal : NormalFields default.fields form.fields) : default.merge form.saved = form := by
  have fields := normal.mergeFields_eq distinct
  simp [merge, saved, fields, ← sameType]

namespace FormSet

theorem form?_merge (defaults : FormSet) (snapshot : Snapshot) (type : RequestType) :
    (defaults.merge snapshot).form? type =
      (defaults.form? type).map fun form => (snapshot.get? type.id).elim form form.merge :=
  rfl

theorem form?_set (forms : FormSet) (type : RequestType) (form : RequestForm)
    (other : RequestType) :
    (forms.set type form).form? other = if other = type then some form else forms.form? other :=
  rfl

theorem sameTypes_merge (defaults : FormSet) (snapshot : Snapshot) :
    defaults.SameTypes (defaults.merge snapshot) := by
  intro type
  rw [form?_merge, Option.map_map]
  refine Option.map_congr fun form _ => ?_
  cases snapshot.get? type.id with
  | none => rfl
  | some saved => rfl

theorem SameTypes.set {defaults forms : FormSet} (same : defaults.SameTypes forms)
    {type : RequestType} {form form' : RequestForm} (found : forms.form? type = some form)
    (sameType : form'.requestType = form.requestType) :
    defaults.SameTypes (forms.set type form') := by
  intro other
  rw [form?_set]
  by_cases changed : other = type
  · have before := same type
    rw [found, Option.map_some] at before
    rw [changed, if_pos rfl, Option.map_some, sameType]
    exact before
  · rw [if_neg changed]
    exact same other

theorem Normal.set {defaults forms : FormSet} (normal : defaults.Normal forms)
    {type : RequestType} {form' : RequestForm}
    (refined : ∀ default, defaults.form? type = some default →
      NormalFields default.fields form'.fields) :
    defaults.Normal (forms.set type form') := by
  intro other default form ofDefault ofForms
  rw [form?_set] at ofForms
  by_cases changed : other = type
  · rw [changed] at ofDefault
    rw [if_pos changed] at ofForms
    obtain rfl := Option.some.inj ofForms
    exact refined default ofDefault
  · rw [if_neg changed] at ofForms
    exact normal other default form ofDefault ofForms

/-- Whatever was saved, it comes back in normal form. -/
theorem normal_merge (defaults : FormSet) (snapshot : Snapshot) :
    defaults.Normal (defaults.merge snapshot) := by
  intro type default form ofDefault ofMerge
  rw [form?_merge, ofDefault, Option.map_some] at ofMerge
  obtain rfl := Option.some.inj ofMerge
  cases snapshot.get? type.id with
  | none => exact normalFields_refl default.fields
  | some saved => exact default.normal_merge saved

theorem normal_refl (defaults : FormSet) : defaults.Normal defaults := by
  intro type default form ofDefault ofForms
  obtain rfl := Option.some.inj (ofDefault.symm.trans ofForms)
  exact normalFields_refl default.fields

/-- Forms of the default types come back from what is saved of them if they are in normal form. -/
theorem merge_eq_iff {defaults forms : FormSet} (distinct : defaults.Distinct)
    (sameTypes : defaults.SameTypes forms) :
    defaults.merge forms.snapshot = forms ↔ defaults.Normal forms := by
  constructor
  · intro same
    have normal := normal_merge defaults forms.snapshot
    rwa [same] at normal
  · intro normal
    ext1
    funext type
    have sameType := sameTypes type
    rw [form?_merge, forms.get?_snapshot type]
    cases ofDefault : defaults.form? type with
    | none =>
        rw [ofDefault] at sameType
        exact (Option.map_eq_none_iff.mp sameType).symm
    | some default =>
        rw [ofDefault] at sameType
        obtain ⟨form, ofForms, sameType⟩ := Option.map_eq_some_iff.mp sameType
        have back := RequestForm.merge_saved (distinct type default ofDefault) sameType
          (normal type default form ofDefault ofForms)
        rw [ofForms]
        exact congrArg some back

end FormSet

/-! ## Changes of the working copy -/

/-- What a change leaves as it is in one field, an update leaves as it is in all of them. -/
theorem map_updateFirst {β : Type} {part : FormField → β} (p : FormField → Bool)
    {change : FormField → FormField} (same : ∀ field, part (change field) = part field)
    (fields : List FormField) :
    (updateFirst p change fields).map part = fields.map part := by
  induction fields with
  | nil => rfl
  | cons field fields ih =>
      rw [updateFirst]
      split
      · simp [same]
      · simp [ih]

namespace RequestForm

/-- What does not depend on the order value is left as it is in every field. -/
theorem map_exchangeOrders {β : Type} {part : FormField → β}
    (same : ∀ (field : FormField) (order : Int32), part { field with order } = part field)
    (form : RequestForm) (a b : Fin form.fields.length) :
    (form.exchangeOrders a b).fields.map part = form.fields.map part := by
  have kept (i : Fin form.fields.length) :
      (form.fields.map part).set i (part form.fields[i]) = form.fields.map part := by
    have inside : i.val < (form.fields.map part).length := by simp
    simpa using List.set_getElem_self inside
  unfold exchangeOrders
  simp only [List.map_set, same]
  rw [kept a, kept b]

theorem map_id_exchangeOrders (form : RequestForm) (a b : Fin form.fields.length) :
    (form.exchangeOrders a b).fields.map (·.id) = form.fields.map (·.id) :=
  map_exchangeOrders (fun _ _ => rfl) form a b

theorem eq_of_move? {form moved : RequestForm} {id : String} {direction : MoveDirection}
    (moves : form.move? id direction = some moved) : ∃ a b, moved = form.exchangeOrders a b := by
  unfold move? at moves
  simp only [Option.bind_eq_bind, Option.bind_eq_some_iff] at moves
  obtain ⟨here, -, beside, -, a, -, b, -, moved⟩ := moves
  split at moved
  · cases moved
  · exact ⟨a, b, (Option.some.inj moved).symm⟩

end RequestForm

namespace WorkingCopy

inductive Edit where
  | updateField (type : RequestType) (id : String) (patch : FieldPatch)
  | updateForm (type : RequestType) (patch : FormPatch)
  | moveField (type : RequestType) (id : String) (direction : MoveDirection)
  | addField (type : RequestType) (id : String)
  | removeField (type : RequestType) (id : String)
  | save
  | reset

def Edit.program (copy : WorkingCopy) : Edit → Program WorkingCopy
  | .updateField type id patch => return (copy.updateField type id patch).2
  | .updateForm type patch => return (copy.updateForm type patch).2
  | .moveField type id direction => return (copy.moveField type id direction).2
  | .addField type id => return (copy.addField type id).2
  | .removeField type id => return (copy.removeField type id).2
  | .save => return (← copy.save).2
  | .reset => return (← copy.reset).2

def edited : List Edit → WorkingCopy → Program WorkingCopy
  | [], copy => pure copy
  | edit :: edits, copy => do edited edits (← edit.program copy)

/-- The edit puts no other list in the place of the fields of a form. -/
def Edit.KeepsFieldList : Edit → Prop
  | .updateForm _ patch => patch.fields = none
  | _ => True

def Refines (copy : WorkingCopy) (type : RequestType) (edit : Edit) (form form' : RequestForm) :
    Prop :=
  form'.requestType = form.requestType ∧
    (edit.KeepsFieldList → ∀ default, copy.defaults.form? type = some default →
      NormalFields default.fields form.fields → NormalFields default.fields form'.fields)

inductive Changes (copy : WorkingCopy) (edit : Edit) : WorkingCopy → Prop where
  | nothing (unsaved : Bool) : Changes copy edit { copy with unsaved }
  | everything (unsaved : Bool) : Changes copy edit { copy with forms := copy.defaults, unsaved }
  | one {type : RequestType} {form form' : RequestForm} (found : copy.forms.form? type = some form)
      (refines : copy.Refines type edit form form') :
      Changes copy edit (copy.replaceForm type form')

namespace Changes

variable {copy after : WorkingCopy} {edit : Edit}

theorem defaults_eq (changes : copy.Changes edit after) : after.defaults = copy.defaults := by
  cases changes with
  | nothing unsaved => rfl
  | everything unsaved => rfl
  | one found refines => rfl

theorem sameTypes (changes : copy.Changes edit after)
    (same : copy.defaults.SameTypes copy.forms) : copy.defaults.SameTypes after.forms := by
  cases changes with
  | nothing unsaved => exact same
  | everything unsaved => exact fun _ => rfl
  | one found refines => exact same.set found refines.1

theorem normal (changes : copy.Changes edit after) (keeps : edit.KeepsFieldList)
    (normal : copy.defaults.Normal copy.forms) : copy.defaults.Normal after.forms := by
  cases changes with
  | nothing unsaved => exact normal
  | everything unsaved => exact copy.defaults.normal_refl
  | one found refines =>
      refine normal.set fun default ofDefault => ?_
      exact refines.2 keeps default ofDefault (normal _ default _ ofDefault found)

end Changes

theorem refines_of_ids {copy : WorkingCopy} {type : RequestType} {edit : Edit}
    {form form' : RequestForm} (sameType : form'.requestType = form.requestType)
    (sameIds : form'.fields.map (·.id) = form.fields.map (·.id)) :
    copy.Refines type edit form form' := by
  refine ⟨sameType, fun _ default _ normal => ?_⟩
  unfold NormalFields
  rw [sameIds]
  exact normal

theorem updateField_changes (copy : WorkingCopy) (type : RequestType) (id : String)
    (patch : FieldPatch) :
    copy.Changes (.updateField type id patch) (copy.updateField type id patch).2 := by
  unfold updateField
  split
  · exact .nothing _
  · rename_i form found
    split
    · have sameId (field : FormField) : (patch.apply field).id = field.id := rfl
      exact .one found (refines_of_ids rfl (map_updateFirst _ sameId form.fields))
    · exact .nothing _

theorem updateForm_changes (copy : WorkingCopy) (type : RequestType) (patch : FormPatch) :
    copy.Changes (.updateForm type patch) (copy.updateForm type patch).2 := by
  unfold updateForm
  split
  · exact .nothing _
  · rename_i form found
    refine .one found ⟨rfl, fun keeps default _ normal => ?_⟩
    have same : (patch.apply form).fields = form.fields := by
      rw [FormPatch.apply, show patch.fields = none from keeps]
      rfl
    rw [same]
    exact normal

theorem moveField_changes (copy : WorkingCopy) (type : RequestType) (id : String)
    (direction : MoveDirection) :
    copy.Changes (.moveField type id direction) (copy.moveField type id direction).2 := by
  unfold moveField
  split
  · exact .nothing _
  · rename_i form found
    split
    · split
      · rename_i moved moves
        obtain ⟨a, b, rfl⟩ := RequestForm.eq_of_move? moves
        exact .one found (refines_of_ids rfl (form.map_id_exchangeOrders a b))
      · exact .nothing _
    · exact .nothing _

theorem addField_changes (copy : WorkingCopy) (type : RequestType) (id : String) :
    copy.Changes (.addField type id) (copy.addField type id).2 := by
  unfold addField
  split
  · exact .nothing _
  · exact .nothing _
  · rename_i field form inCatalog found
    split
    · exact .nothing _
    · rename_i absent
      split
      · exact .nothing _
      · rename_i order _
        refine .one found ⟨rfl, fun _ default _ normal => ?_⟩
        obtain ⟨added, ids, foreign⟩ := normal
        have itsId : field.id = id := by simpa using List.find?_some inCatalog
        have fresh : id ∉ form.fields.map (·.id) := by
          simpa [RequestForm.hasField] using absent
        refine ⟨added ++ [id], by simp [RequestForm.append, ids, itsId], fun other mem => ?_⟩
        rcases List.mem_append.mp mem with mem | mem
        · exact foreign other mem
        · rw [List.mem_singleton.mp mem]
          intro listed
          exact fresh (ids ▸ List.mem_append_left added listed)

theorem removeField_changes (copy : WorkingCopy) (type : RequestType) (id : String) :
    copy.Changes (.removeField type id) (copy.removeField type id).2 := by
  unfold removeField
  split
  · exact .nothing _
  · rename_i notDefault
    split
    · exact .nothing _
    · rename_i form found
      split
      · refine .one found ⟨rfl, fun _ default ofDefault normal => ?_⟩
        obtain ⟨added, ids, foreign⟩ := normal
        have kept : id ∉ default.fields.map (·.id) := by
          simpa [ofDefault, RequestForm.hasField] using notDefault
        have front : (default.fields.map (·.id)).filter (· != id) = default.fields.map (·.id) :=
          List.filter_eq_self.mpr fun other mem => bne_iff_ne.mpr fun same => kept (same ▸ mem)
        refine ⟨added.filter (· != id), ?_, fun other mem => ?_⟩
        · have remaining : (form.without id).fields.map (·.id) =
              (form.fields.map (·.id)).filter (· != id) := by
            rw [List.filter_map]
            rfl
          rw [remaining, ids, List.filter_append, front]
        · exact foreign other (List.mem_filter.mp mem).1
      · exact .nothing _

variable {σ : Type} {handler : Handler σ}

theorem save_changes (copy : WorkingCopy) (state : σ) :
    copy.save.Ends handler (fun (_, after) _ => copy.Changes .save after) state := by
  refine (Program.ends_any _ _).bind fun reply s _ => ?_
  cases reply with
  | error e => exact (Program.ends_any _ _).bind fun _ _ _ => .pure (.nothing _)
  | ok _ => exact (Program.ends_any _ _).bind fun _ _ _ => .pure (.nothing false)

theorem reset_changes (copy : WorkingCopy) (state : σ) :
    copy.reset.Ends handler (fun (_, after) _ => copy.Changes .reset after) state := by
  refine (Program.ends_any _ _).bind fun reply s _ => ?_
  cases reply with
  | error e => exact .pure (.nothing _)
  | ok _ => exact (Program.ends_any _ _).bind fun _ _ _ => .pure (.everything false)

theorem edit_changes (copy : WorkingCopy) (edit : Edit) (state : σ) :
    (edit.program copy).Ends handler (fun after _ => copy.Changes edit after) state := by
  cases edit with
  | updateField type id patch => exact .pure (copy.updateField_changes type id patch)
  | updateForm type patch => exact .pure (copy.updateForm_changes type patch)
  | moveField type id direction => exact .pure (copy.moveField_changes type id direction)
  | addField type id => exact .pure (copy.addField_changes type id)
  | removeField type id => exact .pure (copy.removeField_changes type id)
  | save => exact (copy.save_changes state).bind fun _ _ changes => .pure changes
  | reset => exact (copy.reset_changes state).bind fun _ _ changes => .pure changes

end WorkingCopy
end AccessPortal
