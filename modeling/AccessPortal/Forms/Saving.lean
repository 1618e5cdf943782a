import AccessPortal.Forms.Codec
import AccessPortal.Forms.WorkingCopy
import AccessPortal.Program

/-!
# Loading and saving the forms

The whole working copy is saved as one text under one key. What is loaded is the saved snapshot over
the default forms; with no snapshot, or with one that cannot be read, it is the default forms. A
failed save or reset changes nothing and can be tried again.
-/

namespace AccessPortal
namespace WorkingCopy

/-- Reports something about the forms. -/
def report (level : Log.Level) (message : String) (fields : List (String × String)) :
    Program Unit :=
  Log.report { level, source := .forms, message, fields }

/-- Reports the saved request types that do not exist any more. -/
def reportForeign : List String → Program Unit
  | [] => pure ()
  | id :: ids => do
    Log.report
      { level := .debug, source := .merge
        message := "Ignoring saved form config for unknown request type"
        fields := [("request_type", id)] }
    reportForeign ids

/-- The working copy of the saved forms, unless what is stored cannot be read. -/
def tryLoad (defaults : FormSet) (catalog : List FormField) :
    Program (Except FormError WorkingCopy) := do
  match ← Store.get StorageKey.formConfigurations with
  | .error e => return .error (.persistence e)
  | .ok none => return .ok { defaults, catalog, forms := defaults }
  | .ok (some text) =>
    match Snapshot.parse text with
    | none => return .error .corrupt
    | some saved =>
      reportForeign saved.foreignIds
      return .ok { defaults, catalog, forms := defaults.merge saved }

/-- The working copy of the saved forms, or of the default forms if those cannot be read. -/
def load (defaults : FormSet) (catalog : List FormField) : Program WorkingCopy := do
  match ← tryLoad defaults catalog with
  | .ok copy => return copy
  | .error e =>
    report .warn "Using default form configuration"
      [("error", e.message), ("code", e.code.text)]
    return { defaults, catalog, forms := defaults }

/-- Stores all forms. -/
def save (copy : WorkingCopy) : Program (Except FormError Unit × WorkingCopy) := do
  let text := copy.forms.toText
  match ← Store.set StorageKey.formConfigurations text with
  | .error e =>
    report .error "Failed to save form configuration" [("error", e.message)]
    return (.error (.persistence e), copy)
  | .ok () =>
    report .info "Form configuration saved" [("bytes", toString text.utf8ByteSize)]
    return (.ok (), { copy with unsaved := false })

/-- Drops all customizations, the stored ones and those of the working copy. -/
def reset (copy : WorkingCopy) : Program (Except FormError Unit × WorkingCopy) := do
  match ← Store.remove StorageKey.formConfigurations with
  | .error e => return (.error (.persistence e), copy)
  | .ok () =>
    report .info "Form configuration reset to defaults" []
    return (.ok (), { copy with forms := copy.defaults, unsaved := false })

end WorkingCopy
end AccessPortal
