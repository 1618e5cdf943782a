import AccessPortal.Forms.Snapshot

/-!
# Saved customizations over the shipped forms

What was saved is folded over the defaults of the running version. Each default field keeps its
place and gives way to a saved field of the same id; a default field that was not saved stays, so
fields that are new in this version show up. Saved fields that are not defaults follow in the order
in which they were saved. Request types without a default form are dropped.
-/

namespace AccessPortal

/-- The default fields with saved ones in their place, and then the saved fields of other ids. -/
def mergeFields (defaults saved : List FormField) : List FormField :=
  defaults.map (fun field => (saved.find? (·.id == field.id)).getD field)
    ++ saved.filter fun field => !defaults.any (·.id == field.id)

/-- A default form with what was saved of it. -/
def RequestForm.merge (form : RequestForm) (saved : SavedForm) : RequestForm where
  requestType := form.requestType
  name := saved.name.getD form.name
  description := saved.description.getD form.description
  icon := saved.icon.getD form.icon
  enabled := saved.enabled.getD form.enabled
  fields := saved.fields.elim form.fields (mergeFields form.fields)

/-- The default forms with what was saved of them. -/
def FormSet.merge (defaults : FormSet) (saved : Snapshot) : FormSet :=
  defaults.map fun type form => (saved.get? type.id).elim form form.merge

end AccessPortal
