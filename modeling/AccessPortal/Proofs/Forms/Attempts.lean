import AccessPortal.Proofs.Forms.Normal

/-!
# What an edit answers

An edit of the working copy answers whether it went well, and a move also whether there was such a
move. A change is made as a whole, and is then to be saved, or it is not made at all
(`AllOrNothing`).
-/

namespace AccessPortal
namespace WorkingCopy

def Edit.Reply : Edit → Type
  | .moveField _ _ _ => Except FormError Bool
  | _ => Except FormError Unit

def Edit.attempt (copy : WorkingCopy) : (edit : Edit) → Program (edit.Reply × WorkingCopy)
  | .updateField type id patch => return copy.updateField type id patch
  | .updateForm type patch => return copy.updateForm type patch
  | .moveField type id direction => return copy.moveField type id direction
  | .addField type id => return copy.addField type id
  | .removeField type id => return copy.removeField type id
  | .save => copy.save
  | .reset => copy.reset

/-- The program of an edit is the attempt, whatever it answers. -/
theorem Edit.program_eq (copy : WorkingCopy) (edit : Edit) :
    edit.program copy = do return (← edit.attempt copy).2 := by
  cases edit <;> rfl

def Edit.MakesChange : (edit : Edit) → edit.Reply → Prop
  | .moveField _ _ _, reply => reply = .ok true
  | .updateField _ _ _, reply | .updateForm _ _, reply | .addField _ _, reply
  | .removeField _ _, reply => reply = .ok ()
  | .save, _ | .reset, _ => False

/-- The edit brought the working copy and the store together. -/
def Edit.Synchronizes : (edit : Edit) → edit.Reply → Prop
  | .save, reply | .reset, reply => reply = .ok ()
  | .moveField _ _ _, _ | .updateField _ _ _, _ | .updateForm _ _, _ | .addField _ _, _
  | .removeField _ _, _ => False

/-- A change succeeds and is to be saved, or it leaves the working copy as it is. -/
structure AllOrNothing {α : Type} (copy : WorkingCopy) (done : α)
    (result : Except FormError α × WorkingCopy) : Prop where
  unsaved : result.1 = .ok done → result.2.unsaved = true
  unchanged : result.1 ≠ .ok done → result.2 = copy

namespace AllOrNothing

variable {α : Type} {copy : WorkingCopy} {done : α}

theorem nothing {result : Except FormError α} (failed : result ≠ .ok done) :
    copy.AllOrNothing done (result, copy) :=
  ⟨fun succeeded => absurd succeeded failed, fun _ => rfl⟩

theorem all (type : RequestType) (form : RequestForm) :
    copy.AllOrNothing done (.ok done, copy.replaceForm type form) :=
  ⟨fun _ => rfl, fun failed => absurd rfl failed⟩

end AllOrNothing

theorem updateField_allOrNothing (copy : WorkingCopy) (type : RequestType) (id : String)
    (patch : FieldPatch) : copy.AllOrNothing () (copy.updateField type id patch) := by
  unfold updateField
  split
  · exact .nothing nofun
  · split
    · exact .all _ _
    · exact .nothing nofun

theorem updateForm_allOrNothing (copy : WorkingCopy) (type : RequestType) (patch : FormPatch) :
    copy.AllOrNothing () (copy.updateForm type patch) := by
  unfold updateForm
  split
  · exact .nothing nofun
  · exact .all _ _

theorem moveField_allOrNothing (copy : WorkingCopy) (type : RequestType) (id : String)
    (direction : MoveDirection) :
    copy.AllOrNothing true (copy.moveField type id direction) := by
  unfold moveField
  split
  · exact .nothing nofun
  · split
    · split
      · exact .all _ _
      · exact .nothing nofun
    · exact .nothing nofun

theorem addField_allOrNothing (copy : WorkingCopy) (type : RequestType) (id : String) :
    copy.AllOrNothing () (copy.addField type id) := by
  unfold addField
  split
  · exact .nothing nofun
  · exact .nothing nofun
  · split
    · exact .nothing nofun
    · split
      · exact .nothing nofun
      · exact .all _ _

theorem removeField_allOrNothing (copy : WorkingCopy) (type : RequestType) (id : String) :
    copy.AllOrNothing () (copy.removeField type id) := by
  unfold removeField
  split
  · exact .nothing nofun
  · split
    · exact .nothing nofun
    · split
      · exact .all _ _
      · exact .nothing nofun

end WorkingCopy
end AccessPortal
