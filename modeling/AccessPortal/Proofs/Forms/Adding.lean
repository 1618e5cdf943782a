import AccessPortal.Forms.Shipped
import AccessPortal.Proofs.Forms.Normal
import AccessPortal.Proofs.Forms.Sorted

/-!
# Adding a field

A field from the catalog goes behind all fields of a form, as long as there is an order value above
all others (`nextOrder?_isSome_iff`). It is displayed last, and nothing else changes; to remove it
again undoes the addition (`WorkingCopy.addField_appends`).
-/

namespace AccessPortal

namespace RequestForm

/-! ## The largest order value -/

/-- Going through more values gives the largest of them and of what was the largest so far. -/
theorem largest_foldl (m : Int32) (orders : List Int32) :
    ∃ largest, orders.foldl
        (fun largest order => some (largest.elim order fun m => if m < order then order else m))
        (some m) = some largest ∧
      largest ∈ m :: orders ∧ ∀ order ∈ m :: orders, order ≤ largest := by
  induction orders generalizing m with
  | nil => exact ⟨m, rfl, by simp, by simp⟩
  | cons order orders ih =>
      obtain ⟨largest, run, mem, above⟩ := ih (if m < order then order else m)
      have notBelow := above _ List.mem_cons_self
      refine ⟨largest, run, by grind, fun other listed => ?_⟩
      have (inRest : other ∈ orders) := above other (List.mem_cons_of_mem _ inRest)
      grind

/-- No order value exceeds the largest one, which is the order value of some field. -/
theorem maxOrder?_spec (form : RequestForm) :
    form.maxOrder? = none ∧ form.fields = [] ∨
      ∃ last ∈ form.fields, form.maxOrder? = some last.order ∧
        ∀ field ∈ form.fields, field.order ≤ last.order := by
  unfold maxOrder?
  cases listed : form.fields with
  | nil => exact .inl ⟨rfl, rfl⟩
  | cons first rest =>
      obtain ⟨largest, run, mem, above⟩ := largest_foldl first.order (rest.map (·.order))
      change largest ∈ (first :: rest).map (·.order) at mem
      obtain ⟨last, inForm, rfl⟩ := List.mem_map.mp mem
      exact .inr ⟨last, inForm, run, fun field mem => above _ (List.mem_map_of_mem mem)⟩

theorem lt_succ_of_le {m n : Int32} (le : n ≤ m) (room : m ≠ Int32.maxValue) : n < m + 1 := by
  have room : m.toInt ≠ 2147483647 := fun full => room (Int32.toInt_inj.mp full)
  have inside := m.toInt_lt
  have inside' := m.le_toInt
  rw [Int32.le_iff_toInt_le] at le
  rw [Int32.lt_iff_toInt_lt, Int32.toInt_add, Int32.toInt_one, Int.bmod_eq_of_le] <;> omega

/-- The next order value is above those of all fields. -/
theorem lt_nextOrder? {form : RequestForm} {order : Int32} (next : form.nextOrder? = some order) :
    ∀ field ∈ form.fields, field.order < order := by
  intro field mem
  unfold nextOrder? at next
  obtain ⟨-, empty⟩ | ⟨last, -, largest, above⟩ := form.maxOrder?_spec
  · rw [empty] at mem
    cases mem
  · simp only [largest] at next
    split at next
    · cases next
    · rename_i room
      obtain rfl := Option.some.inj next
      exact lt_succ_of_le (above field mem) room

/-- There is a next order value unless the largest possible one is taken. -/
theorem nextOrder?_isSome_iff {form : RequestForm} :
    form.nextOrder?.isSome ↔ ∀ field ∈ form.fields, field.order < Int32.maxValue := by
  unfold nextOrder?
  obtain ⟨largest, empty⟩ | ⟨last, mem, largest, above⟩ := form.maxOrder?_spec
  · simp [largest, empty]
  · rw [largest]
    constructor
    · intro h field mem
      have le := above field mem
      grind
    · intro below
      have room := below last mem
      grind

/-! ## A form with one more field -/

variable {form : RequestForm} {field : FormField}

/-- An enabled field above all others is displayed last. -/
theorem enabledFields_append (enabled : field.enabled = true)
    (above : ∀ other ∈ form.fields, other.order < field.order) :
    (form.append field).enabledFields = form.enabledFields ++ [field] := by
  unfold enabledFields append
  rw [List.filter_append, List.filter_cons_of_pos enabled, List.filter_nil]
  refine sortByOrder_concat fun other mem => ?_
  have below := above other (List.mem_filter.mp mem).1
  grind

theorem requiredFields_append (enabled : field.enabled = true) (optional : field.required = false)
    (above : ∀ other ∈ form.fields, other.order < field.order) :
    (form.append field).requiredFields = form.requiredFields := by
  unfold requiredFields
  rw [enabledFields_append enabled above, List.filter_append,
    List.filter_cons_of_neg (by simp [optional]), List.filter_nil, List.append_nil]

theorem hasField_append (form : RequestForm) (field : FormField) (id : String) :
    (form.append field).hasField id = (form.hasField id || field.id == id) := by
  simp [append, hasField]

/-- To take away what a form did not have before gives back the form. -/
theorem without_append (absent : form.hasField field.id = false) :
    (form.append field).without field.id = form := by
  have kept : form.fields.filter (·.id != field.id) = form.fields := by
    refine List.filter_eq_self.mpr fun other mem => ?_
    simpa using (List.any_eq_false.mp absent) other mem
  unfold without append
  simp only [List.filter_append, kept]
  simp

end RequestForm

namespace FormSet

theorem set_set (forms : FormSet) (type : RequestType) (first second : RequestForm) :
    (forms.set type first).set type second = forms.set type second := by
  ext1
  funext other
  simp only [form?_set]
  split <;> rfl

theorem set_same {forms : FormSet} {type : RequestType} {form : RequestForm}
    (found : forms.form? type = some form) : forms.set type form = forms := by
  ext1
  funext other
  rw [form?_set]
  split
  · rename_i same
    rw [same, found]
  · rfl

end FormSet

namespace WorkingCopy

variable {copy : WorkingCopy} {type : RequestType} {form : RequestForm} {field : FormField}
  {id : String}

theorem availableFields_eq (configured : copy.forms.form? type = some form) :
    copy.availableFields type = copy.catalog.filter fun offer => !form.hasField offer.id := by
  rw [availableFields, configured]
  rfl

theorem availableFields_append (configured : copy.forms.form? type = some form) :
    (copy.replaceForm type (form.append field)).availableFields type =
      (copy.availableFields type).filter (·.id != field.id) := by
  have changed : (copy.replaceForm type (form.append field)).forms.form? type =
      some (form.append field) := if_pos rfl
  rw [availableFields_eq changed, availableFields_eq configured, List.filter_filter]
  refine List.filter_congr fun offered _ => ?_
  simp only [RequestForm.hasField_append]
  grind

/-- To remove an added field gives back the forms as they were. -/
theorem removeField_append (configured : copy.forms.form? type = some form)
    (absent : form.hasField field.id = false)
    (foreign : (copy.defaults.form? type).any (·.hasField field.id) = false) :
    (copy.replaceForm type (form.append field)).removeField type field.id =
      (.ok (), { copy with unsaved := true }) := by
  have there : (form.append field).hasField field.id = true := by
    simp [RequestForm.hasField_append]
  simp [removeField, replaceForm, foreign, there, RequestForm.without_append absent,
    FormSet.set_set, FormSet.form?_set, FormSet.set_same configured]

/--
A field of the catalog is added behind all fields of a form if these leave an order value, and only
then. It is enabled and not required, and so it is displayed last and need not be filled in. All
other forms stay as they are. On offer is all of the catalog that the form has no field with the id
of; what has the id of the added field was on offer and is gone, and the rest still is. If the field
is not of the default form, to remove it gives back the forms as they were.
-/
theorem addField_appends (configured : copy.forms.form? type = some form)
    (offered : copy.catalog.find? (·.id == id) = some field) (absent : form.hasField id = false) :
    copy.enabledFields type = form.enabledFields ∧
    copy.requiredFields type = form.requiredFields ∧
    copy.availableFields type = copy.catalog.filter (fun offer => !form.hasField offer.id) ∧
    (∀ offer ∈ copy.catalog, offer.id = id → offer ∈ copy.availableFields type) ∧
    ((∀ other ∈ form.fields, other.order < Int32.maxValue) →
      ∃ added after, copy.addField type id = (.ok (), after) ∧
        (∃ order, added = { field with order, enabled := true, required := false } ∧
          ∀ other ∈ form.fields, other.order < order) ∧
        after.forms.form? type = some (form.append added) ∧
        after.enabledFields type = copy.enabledFields type ++ [added] ∧
        after.requiredFields type = copy.requiredFields type ∧
        (∀ other, other ≠ type → after.forms.form? other = copy.forms.form? other) ∧
        after.availableFields type = (copy.availableFields type).filter (·.id != id) ∧
        ((copy.defaults.form? type).any (·.hasField id) = false →
          ∃ again, after.removeField type id = (.ok (), again) ∧ again.forms = copy.forms)) ∧
    ((∃ other ∈ form.fields, other.order = Int32.maxValue) →
      copy.addField type id = (.error (.orderExhausted type), copy)) := by
  obtain rfl : field.id = id := by simpa using List.find?_some offered
  have onOffer := availableFields_eq configured
  refine ⟨by rw [enabledFields, configured]; rfl, by rw [requiredFields, configured]; rfl, onOffer,
    fun offer listed named => ?_, ?_, ?_⟩
  · rw [onOffer, List.mem_filter, named, absent]
    exact ⟨listed, rfl⟩
  · intro room
    obtain ⟨order, next⟩ := Option.isSome_iff_exists.mp (form.nextOrder?_isSome_iff.mpr room)
    have above := form.lt_nextOrder? next
    let added : FormField := { field with order, enabled := true, required := false }
    refine ⟨added, copy.replaceForm type (form.append added), ?_, ⟨order, rfl, above⟩, ?_, ?_, ?_,
      fun other differs => ?_, availableFields_append configured, fun foreign => ?_⟩
    · simp [addField, offered, configured, absent, next, added]
    · simp [replaceForm, FormSet.form?_set]
    · have shown : (form.append added).enabledFields = form.enabledFields ++ [added] :=
        RequestForm.enabledFields_append rfl above
      simp [enabledFields, replaceForm, FormSet.form?_set, configured, shown]
    · have filledIn : (form.append added).requiredFields = form.requiredFields :=
        RequestForm.requiredFields_append rfl rfl above
      simp [requiredFields, replaceForm, FormSet.form?_set, configured, filledIn]
    · simp [replaceForm, FormSet.form?_set, differs]
    · have absent : form.hasField added.id = false := absent
      exact ⟨_, removeField_append configured absent foreign, rfl⟩
  · intro full
    obtain ⟨other, mem, last⟩ := full
    have taken : form.nextOrder? = none := by
      refine Option.not_isSome_iff_eq_none.mp fun room => ?_
      have below := form.nextOrder?_isSome_iff.mp room other mem
      rw [last] at below
      exact absurd below Int32.lt_irrefl
    simp [addField, offered, configured, absent, taken]

/--
The cost center is put behind fields that are listed by descending order values, one of them
negative, one disabled. Behind a field with the largest order value there is no place for it.
-/
theorem addField_appends_cost_center :
    let field (id : String) (order : Int32) (enabled : Bool) : FormField :=
      { id, label := id, type := .text, enabled, order, category := "general" }
    let form (last : Int32) : RequestForm :=
      { RequestForm.copyUser with
        fields := [field "target" last true, field "team" 7 false, field "source" (-5) true] }
    let copy (last : Int32) : WorkingCopy :=
      { defaults := .shipped, catalog := FormField.catalog
        forms := FormSet.shipped.set .copyUser (form last) }
    (∀ last, (form last).hasField "cost_center" = false) ∧
      (∃ added after, (copy 40).addField .copyUser "cost_center" = (.ok (), after) ∧
        after.enabledFields .copyUser = (copy 40).enabledFields .copyUser ++ [added] ∧
        added.id = "cost_center" ∧ 40 < added.order ∧
        (∃ offer ∈ (copy 40).availableFields .copyUser, offer.id = "cost_center") ∧
        (∀ offer ∈ after.availableFields .copyUser, offer.id ≠ "cost_center") ∧
        ∃ again, after.removeField .copyUser "cost_center" = (.ok (), again) ∧
          again.forms = (copy 40).forms) ∧
      (copy Int32.maxValue).addField .copyUser "cost_center" =
        (.error (.orderExhausted .copyUser), copy Int32.maxValue) := by
  intro field form copy
  have absent (last : Int32) : (form last).hasField "cost_center" = false := rfl
  have configured (last : Int32) : (copy last).forms.form? .copyUser = some (form last) := rfl
  obtain ⟨-, -, -, onOffer, appends, -⟩ := addField_appends (configured 40) rfl (absent 40)
  obtain ⟨-, -, -, -, -, exhausted⟩ := addField_appends (configured Int32.maxValue) rfl
    (absent Int32.maxValue)
  obtain ⟨_, after, adds, ⟨order, rfl, above⟩, -, shown, -, -, left, removes⟩ :=
    appends (by decide)
  have last : 40 < order := above (field "target" 40 true) List.mem_cons_self
  obtain ⟨offer, listed, named⟩ : ∃ offer ∈ (copy 40).catalog, offer.id = "cost_center" := by
    decide
  have gone (offer : FormField) (still : offer ∈ after.availableFields .copyUser) :
      offer.id ≠ "cost_center" := by
    rw [left, List.mem_filter] at still
    exact bne_iff_ne.mp still.2
  exact ⟨absent, ⟨_, after, adds, shown, rfl, last, ⟨offer, onOffer offer listed named, named⟩,
    gone, removes rfl⟩, exhausted (by decide)⟩

end WorkingCopy
end AccessPortal
