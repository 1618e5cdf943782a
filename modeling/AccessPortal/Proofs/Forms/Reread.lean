import AccessPortal.Console.Task
import AccessPortal.Proofs.Forms.Attempts
import AccessPortal.Proofs.Forms.Reload
import AccessPortal.Proofs.Program.Alike

/-!
# Commands about the forms, with and without reading them again

Over a store that works, a command leaves a working copy that is what would be loaded of the store
now (`perform_current`): a change is saved at once, and in normal form it is read as it was. So it
does not matter whether the next command goes on with the working copy or loads it again.
-/

namespace AccessPortal

/-- A store that works for the forms: they can be saved and dropped, and are then what was saved.
Reading may fail, but goes on to fail in the same way. -/
structure StoresForms {σ : Type} (handler : Handler σ)
    (stored : σ → Except StorageError (Option String)) (works : σ → Prop) : Prop where
  get : ∀ s, works s →
    (handler (.get StorageKey.formConfigurations) s).1 = stored s ∧
      works (handler (.get StorageKey.formConfigurations) s).2 ∧
      stored (handler (.get StorageKey.formConfigurations) s).2 = stored s
  set : ∀ text s, works s →
    (handler (.set StorageKey.formConfigurations text) s).1 = .ok () ∧
      works (handler (.set StorageKey.formConfigurations text) s).2 ∧
      stored (handler (.set StorageKey.formConfigurations text) s).2 = .ok (some text)
  remove : ∀ s, works s →
    (handler (.remove StorageKey.formConfigurations) s).1 = .ok () ∧
      works (handler (.remove StorageKey.formConfigurations) s).2 ∧
      stored (handler (.remove StorageKey.formConfigurations) s).2 = .ok none
  log : ∀ record s, works s →
    works (handler (.log record) s).2 ∧ stored (handler (.log record) s).2 = stored s

namespace WorkingCopy

variable {σ : Type} {handler : Handler σ} {stored : σ → Except StorageError (Option String)}
  {works : σ → Prop} {defaults : FormSet} {catalog : List FormField}

def Holding (stored : σ → Except StorageError (Option String)) (works : σ → Prop)
    (found : Except StorageError (Option String)) (s : σ) : Prop :=
  works s ∧ stored s = found

variable {found : Except StorageError (Option String)}

/-! ## Loading -/

theorem log_preserves (store : StoresForms handler stored works) (record : Log.Record) :
    (Log.report record).Preserves handler (Holding stored works found) := by
  refine .operation fun s holding => ?_
  obtain ⟨working, same⟩ := holding
  obtain ⟨still, kept⟩ := store.log record s working
  exact ⟨still, kept.trans same⟩

/-- Loading gives the working copy of what is stored, and leaves the store as it is. -/
theorem load_ofStored (store : StoresForms handler stored works) {s : σ}
    (holding : Holding stored works found s) :
    (load defaults catalog).Ends handler
      (fun copy next => copy = ofStored defaults catalog found ∧
        Holding stored works found next) s := by
  have read (s : σ) (holding : Holding stored works found s) :
      Holding stored works found (handler (.get StorageKey.formConfigurations) s).2 := by
    obtain ⟨-, still, kept⟩ := store.get s holding.1
    exact ⟨still, kept.trans holding.2⟩
  have told (record : Log.Record) (s : σ) (holding : Holding stored works found s) :
      Holding stored works found (handler (.log record) s).2 := by
    obtain ⟨still, kept⟩ := store.log record s holding.1
    exact ⟨still, kept.trans holding.2⟩
  have answer := (store.get s holding.1).1.trans holding.2
  have loaded := load_answers handler defaults catalog s
  rw [answer] at loaded
  exact loaded.and ((load_preserves read told defaults catalog).ends holding)

/-! ## Saving and dropping -/

/-- A working copy of the defaults whose forms are read as they are saved. -/
structure Readable (defaults : FormSet) (catalog : List FormField) (copy : WorkingCopy) :
    Prop where
  defaults_eq : copy.defaults = defaults
  catalog_eq : copy.catalog = catalog
  normal : defaults.Normal copy.forms
  sameTypes : defaults.SameTypes copy.forms

theorem readable_ofStored : Readable defaults catalog (ofStored defaults catalog found) :=
  have loaded := loaded_ofStored defaults catalog found
  ⟨rfl, rfl, loaded.normal, loaded.sameTypes⟩

theorem Readable.changes {copy after : WorkingCopy} {edit : Edit}
    (readable : Readable defaults catalog copy) (changes : copy.Changes edit after)
    (keeps : edit.KeepsFieldList) : Readable defaults catalog after := by
  obtain ⟨rfl, rfl, normal, sameTypes⟩ := readable
  have catalog_eq : after.catalog = copy.catalog := by
    cases changes with
    | nothing unsaved => rfl
    | everything unsaved => rfl
    | one found refines => rfl
  exact ⟨changes.defaults_eq, catalog_eq, changes.normal keeps normal, changes.sameTypes sameTypes⟩

/-- What was saved is loaded as it was. -/
theorem Readable.ofStored_toText {copy : WorkingCopy} (readable : Readable defaults catalog copy)
    (distinct : defaults.Distinct) :
    ofStored defaults catalog (.ok (some copy.forms.toText)) = { copy with unsaved := false } := by
  obtain ⟨rfl, rfl, normal, sameTypes⟩ := readable
  have back := (FormSet.merge_eq_iff distinct sameTypes).mpr normal
  simp only [ofStored, copy.forms.parse_toText, Option.elim_some, back]

def Current (stored : σ → Except StorageError (Option String)) (works : σ → Prop)
    (defaults : FormSet) (catalog : List FormField) (copy : WorkingCopy) (s : σ) : Prop :=
  works s ∧ copy = ofStored defaults catalog (stored s)

theorem save_current (store : StoresForms handler stored works) (distinct : defaults.Distinct)
    {copy : WorkingCopy} (readable : Readable defaults catalog copy) {s : σ} (working : works s) :
    copy.save.Ends handler
      (fun (result, after) next => result = .ok () ∧
        Current stored works defaults catalog after next) s := by
  obtain ⟨reply, still, now⟩ := store.set copy.forms.toText s working
  have written : (Store.set StorageKey.formConfigurations copy.forms.toText).Ends handler
      (fun reply next => reply = .ok () ∧
        Holding stored works (.ok (some copy.forms.toText)) next) s :=
    .operation trivial ⟨reply, still, now⟩
  refine written.bind fun reply next ends => ?_
  obtain ⟨rfl, holding⟩ := ends
  refine .bind ((log_preserves store _).ends holding) fun _ last holding =>
    .pure ⟨rfl, holding.1, ?_⟩
  rw [holding.2, readable.ofStored_toText distinct]

theorem reset_current (store : StoresForms handler stored works) {copy : WorkingCopy}
    (readable : Readable defaults catalog copy) {s : σ} (working : works s) :
    copy.reset.Ends handler
      (fun (result, after) next => result = .ok () ∧
        Current stored works defaults catalog after next) s := by
  obtain ⟨rfl, rfl, -, -⟩ := readable
  obtain ⟨reply, still, now⟩ := store.remove s working
  have dropped : (Store.remove StorageKey.formConfigurations).Ends handler
      (fun reply next => reply = .ok () ∧ Holding stored works (.ok none) next) s :=
    .operation trivial ⟨reply, still, now⟩
  refine dropped.bind fun reply next ends => ?_
  obtain ⟨rfl, holding⟩ := ends
  refine .bind ((log_preserves store _).ends holding) fun _ last holding =>
    .pure ⟨rfl, holding.1, ?_⟩
  rw [holding.2]
  rfl

/-! ## Changing -/

def Settled {α : Type} (copy : WorkingCopy) (done : α)
    (result : Except FormError α × WorkingCopy) : Prop :=
  result.2 = copy ∨ (result.1 = .ok done ∧ result.2.unsaved = true)

theorem AllOrNothing.settled {α : Type} {copy : WorkingCopy} {done : α}
    {result : Except FormError α × WorkingCopy} (decided : copy.AllOrNothing done result) :
    copy.Settled done result := by
  by_cases succeeded : result.1 = .ok done
  · exact .inr ⟨succeeded, decided.unsaved succeeded⟩
  · exact .inl (decided.unchanged succeeded)

end WorkingCopy

/-! ## Commands -/

namespace Console

open WorkingCopy

variable {σ τ : Type} {handler : Handler σ} {stored : σ → Except StorageError (Option String)}
  {works : σ → Prop} {defaults : FormSet} {catalog : List FormField}

section

variable {copy : WorkingCopy} {α : Type} {done : α} {result : Except FormError α × WorkingCopy}
  {s : σ}

/-- What was changed is saved, and otherwise the working copy is the one that was current. -/
theorem saveChanges_current (store : StoresForms handler stored works)
    (distinct : defaults.Distinct) (current : Current stored works defaults catalog copy s)
    (settled : copy.Settled done result) (readable : Readable defaults catalog result.2) :
    (saveChanges result.2).Ends handler
      (fun (_, after) next => Current stored works defaults catalog after next) s := by
  obtain ⟨working, read⟩ := current
  unfold saveChanges
  by_cases unsaved : result.2.unsaved = true
  · rw [if_pos unsaved]
    refine (save_current store distinct readable working).bind fun result next ends => ?_
    obtain ⟨result, after⟩ := result
    obtain ⟨rfl, current⟩ := ends
    exact .pure current
  · rw [if_neg unsaved]
    rcases settled with same | ⟨-, changed⟩
    · exact .pure ⟨working, same.trans read⟩
    · exact absurd changed unsaved

theorem current_of_settled (current : Current stored works defaults catalog copy s)
    (settled : copy.Settled done result) (failed : result.1 ≠ .ok done) :
    Current stored works defaults catalog result.2 s := by
  rcases settled with same | ⟨succeeded, -⟩
  · rw [same]
    exact current
  · exact absurd succeeded failed

theorem afterChange_current (store : StoresForms handler stored works)
    (distinct : defaults.Distinct) (current : Current stored works defaults catalog copy s)
    {result : Except FormError Unit × WorkingCopy} (settled : copy.Settled () result)
    (readable : Readable defaults catalog result.2) :
    (afterChange result).Ends handler
      (fun (_, after) next => Current stored works defaults catalog after next) s := by
  obtain ⟨result, after⟩ := result
  cases result with
  | ok _ => exact saveChanges_current store distinct current settled readable
  | error e => exact .pure (current_of_settled current settled nofun)

end

/-- A command that starts with what would be loaded ends with what would be loaded. -/
theorem FormsCommand.perform_current (store : StoresForms handler stored works)
    (distinct : defaults.Distinct) {copy : WorkingCopy} {s : σ}
    (current : Current stored works defaults catalog copy s) (command : FormsCommand) :
    (command.perform copy).Ends handler
      (fun (_, after) next => Current stored works defaults catalog after next) s := by
  have readable : Readable defaults catalog copy := by
    rw [current.2]
    exact readable_ofStored
  cases command with
  | print type all =>
      simp only [perform]
      split
      · exact .pure current
      · exact .pure current
  | catalog type => exact .pure current
  | setField type field patch =>
      exact afterChange_current store distinct current
        (copy.updateField_allOrNothing type field patch).settled
        (readable.changes (copy.updateField_changes type field patch) trivial)
  | add type field =>
      exact afterChange_current store distinct current
        (copy.addField_allOrNothing type field).settled
        (readable.changes (copy.addField_changes type field) trivial)
  | remove type field =>
      exact afterChange_current store distinct current
        (copy.removeField_allOrNothing type field).settled
        (readable.changes (copy.removeField_changes type field) trivial)
  | move type field direction =>
      have settled := (copy.moveField_allOrNothing type field direction).settled
      have readable := readable.changes (copy.moveField_changes type field direction) trivial
      simp only [perform]
      split
      · rename_i after moved
        rw [moved] at settled readable
        exact saveChanges_current store distinct current settled readable
      · rename_i after stayed
        rw [stayed] at settled
        exact .pure (current_of_settled current settled nofun)
      · rename_i e after failed
        rw [failed] at settled
        exact .pure (current_of_settled current settled nofun)
  | reset =>
      refine (reset_current store readable current.1).bind fun result next ends => ?_
      obtain ⟨result, after⟩ := result
      obtain ⟨rfl, current⟩ := ends
      exact .pure current

/-! ## Two stores with the same forms -/

section

variable {other : Handler τ} {stored' : τ → Except StorageError (Option String)}
  {works' : τ → Prop}

def SameForms (stored : σ → Except StorageError (Option String)) (works : σ → Prop)
    (stored' : τ → Except StorageError (Option String)) (works' : τ → Prop) (s : σ) (t : τ) :
    Prop :=
  works s ∧ works' t ∧ stored s = stored' t

theorem log_alike (store : StoresForms handler stored works)
    (store' : StoresForms other stored' works') (record : Log.Record) :
    (Log.report record).CannotTell handler other (SameForms stored works stored' works') := by
  refine .operation fun s t same => ⟨rfl, ?_⟩
  obtain ⟨working, working', same⟩ := same
  obtain ⟨still, kept⟩ := store.log record s working
  obtain ⟨still', kept'⟩ := store'.log record t working'
  exact ⟨still, still', kept.trans (same.trans kept'.symm)⟩

theorem save_alike (store : StoresForms handler stored works)
    (store' : StoresForms other stored' works') (copy : WorkingCopy) :
    copy.save.CannotTell handler other (SameForms stored works stored' works') := by
  refine .bind (.operation fun s t same => ?_) fun reply => ?_
  · obtain ⟨working, working', -⟩ := same
    obtain ⟨reply, still, now⟩ := store.set copy.forms.toText s working
    obtain ⟨reply', still', now'⟩ := store'.set copy.forms.toText t working'
    exact ⟨reply.trans reply'.symm, still, still', now.trans now'.symm⟩
  · cases reply with
    | error e => exact .bind (log_alike store store' _) fun _ => .pure _
    | ok _ => exact .bind (log_alike store store' _) fun _ => .pure _

theorem reset_alike (store : StoresForms handler stored works)
    (store' : StoresForms other stored' works') (copy : WorkingCopy) :
    copy.reset.CannotTell handler other (SameForms stored works stored' works') := by
  refine .bind (.operation fun s t same => ?_) fun reply => ?_
  · obtain ⟨working, working', -⟩ := same
    obtain ⟨reply, still, now⟩ := store.remove s working
    obtain ⟨reply', still', now'⟩ := store'.remove t working'
    exact ⟨reply.trans reply'.symm, still, still', now.trans now'.symm⟩
  · cases reply with
    | error e => exact .pure _
    | ok _ => exact .bind (log_alike store store' _) fun _ => .pure _

theorem saveChanges_alike (store : StoresForms handler stored works)
    (store' : StoresForms other stored' works') (copy : WorkingCopy) :
    (saveChanges copy).CannotTell handler other (SameForms stored works stored' works') := by
  unfold saveChanges
  split
  · refine .bind (save_alike store store' copy) fun result => ?_
    obtain ⟨result, after⟩ := result
    cases result with
    | error e => exact .pure _
    | ok _ => exact .pure _
  · exact .pure _

theorem afterChange_alike (store : StoresForms handler stored works)
    (store' : StoresForms other stored' works') (result : Except FormError Unit × WorkingCopy) :
    (afterChange result).CannotTell handler other (SameForms stored works stored' works') := by
  obtain ⟨result, after⟩ := result
  cases result with
  | error e => exact .pure _
  | ok _ => exact saveChanges_alike store store' after

theorem FormsCommand.perform_alike (store : StoresForms handler stored works)
    (store' : StoresForms other stored' works') (copy : WorkingCopy) (command : FormsCommand) :
    (command.perform copy).CannotTell handler other (SameForms stored works stored' works') := by
  cases command with
  | print type all =>
      simp only [perform]
      split
      · exact .pure _
      · exact .pure _
  | catalog type => exact .pure _
  | setField type field patch => exact afterChange_alike store store' _
  | add type field => exact afterChange_alike store store' _
  | remove type field => exact afterChange_alike store store' _
  | move type field direction =>
      simp only [perform]
      split
      · exact saveChanges_alike store store' _
      · exact .pure _
      · exact .pure _
  | reset =>
      refine .bind (reset_alike store store' copy) fun result => ?_
      obtain ⟨result, after⟩ := result
      cases result with
      | error e => exact .pure _
      | ok _ => exact .pure _

end
end Console
end AccessPortal
