import AccessPortal.Forms.Error
import AccessPortal.Forms.FormSet

/-!
# The working copy of the forms

Forms are changed in a working copy, which remembers whether it has changes that are not saved.
Every change either happens as a whole or fails and leaves the working copy as it was. A field can
be added only from the field catalog, and only fields that are not of the default forms can be
removed.
-/

namespace AccessPortal

/-- The forms as they are being worked on. -/
structure WorkingCopy where
  /-- The forms without any customization. -/
  defaults : FormSet
  /-- The fields that can be added. -/
  catalog : List FormField
  forms : FormSet
  /-- Whether there are changes that are not saved. -/
  unsaved : Bool := false

namespace WorkingCopy

/-! ## Views -/

/-- The enabled fields of a form as they are displayed; none where there is no form. -/
def enabledFields (copy : WorkingCopy) (type : RequestType) : List FormField :=
  (copy.forms.form? type).elim [] RequestForm.enabledFields

/-- The enabled and required fields of a form as they are displayed. -/
def requiredFields (copy : WorkingCopy) (type : RequestType) : List FormField :=
  (copy.forms.form? type).elim [] RequestForm.requiredFields

/-- The catalog fields that a form does not have yet. -/
def availableFields (copy : WorkingCopy) (type : RequestType) : List FormField :=
  (copy.forms.form? type).elim [] fun form => copy.catalog.filter fun field =>
    !form.hasField field.id

/-- The working copy as diagnostics show it. -/
def diagnostic (copy : WorkingCopy) : String :=
  "FormConfigStore \x7b request_types: " ++ toString copy.forms.size
    ++ ", has_unsaved_changes: " ++ toString copy.unsaved ++ " \x7d"

/-! ## Changes -/

/-- Gives a request type another form; this is a change to be saved. -/
def replaceForm (copy : WorkingCopy) (type : RequestType) (form : RequestForm) : WorkingCopy :=
  { copy with forms := copy.forms.set type form, unsaved := true }

/-- Changes the parts of a field that a patch gives. -/
def updateField (copy : WorkingCopy) (type : RequestType) (id : String) (patch : FieldPatch) :
    Except FormError Unit × WorkingCopy :=
  match copy.forms.form? type with
  | none => (.error (.notConfigured type), copy)
  | some form =>
    if form.hasField id then
      (.ok (), copy.replaceForm type (form.updateField id patch.apply))
    else (.error (.fieldNotFound type id), copy)

/-- Changes the parts of a form that a patch gives. -/
def updateForm (copy : WorkingCopy) (type : RequestType) (patch : FormPatch) :
    Except FormError Unit × WorkingCopy :=
  match copy.forms.form? type with
  | none => (.error (.notConfigured type), copy)
  | some form => (.ok (), copy.replaceForm type (patch.apply form))

/-- Moves a field by one place in display order, and tells whether there was such a move. -/
def moveField (copy : WorkingCopy) (type : RequestType) (id : String)
    (direction : MoveDirection) : Except FormError Bool × WorkingCopy :=
  match copy.forms.form? type with
  | none => (.error (.notConfigured type), copy)
  | some form =>
    if form.hasField id then
      match form.move? id direction with
      | some moved => (.ok true, copy.replaceForm type moved)
      | none => (.ok false, copy)
    else (.error (.fieldNotFound type id), copy)

/-- Adds a field of the catalog behind all fields of a form, enabled and not required. -/
def addField (copy : WorkingCopy) (type : RequestType) (id : String) :
    Except FormError Unit × WorkingCopy :=
  match copy.catalog.find? (·.id == id), copy.forms.form? type with
  | none, _ => (.error (.notInCatalog id), copy)
  | some _, none => (.error (.notConfigured type), copy)
  | some field, some form =>
    if form.hasField id then (.error (.fieldExists type id), copy)
    else
      match form.nextOrder? with
      | none => (.error (.orderExhausted type), copy)
      | some order =>
        (.ok (), copy.replaceForm type
          (form.append { field with order, enabled := true, required := false }))

/-- Removes a field, every occurrence of it, unless the default form has it. -/
def removeField (copy : WorkingCopy) (type : RequestType) (id : String) :
    Except FormError Unit × WorkingCopy :=
  if (copy.defaults.form? type).any (·.hasField id) then (.error (.defaultField id), copy)
  else
    match copy.forms.form? type with
    | none => (.error (.notConfigured type), copy)
    | some form =>
      if form.hasField id then (.ok (), copy.replaceForm type (form.without id))
      else (.error (.fieldNotFound type id), copy)

end WorkingCopy
end AccessPortal
