import AccessPortal.Forms.Shipped
import AccessPortal.Proofs.Forms.Normal
import AccessPortal.Proofs.Storage.Contents

/-!
# Saving and loading again

Forms that are saved and loaded again are the same forms exactly if they are in normal form. What is
loaded is in normal form, and so is what every edit makes of it that does not replace a list of
fields (`forms_return`).
-/

namespace AccessPortal
namespace WorkingCopy

variable {σ : Type} {handler : Handler σ} {defaults : FormSet}

/-! ## Loading -/

structure Loaded (defaults : FormSet) (copy : WorkingCopy) : Prop where
  defaults_eq : copy.defaults = defaults
  forms : copy.forms = defaults ∨ ∃ snapshot, copy.forms = defaults.merge snapshot

def ofStored (defaults : FormSet) (catalog : List FormField)
    (stored : Except StorageError (Option String)) : WorkingCopy where
  defaults
  catalog
  forms :=
    match stored with
    | .ok (some text) => (Snapshot.parse text).elim defaults defaults.merge
    | _ => defaults

theorem loaded_ofStored (defaults : FormSet) (catalog : List FormField)
    (stored : Except StorageError (Option String)) :
    Loaded defaults (ofStored defaults catalog stored) := by
  refine ⟨rfl, ?_⟩
  unfold ofStored
  split
  · rename_i text
    cases Snapshot.parse text with
    | none => exact .inl rfl
    | some snapshot => exact .inr ⟨snapshot, rfl⟩
  · exact .inl rfl

theorem tryLoad_answers (handler : Handler σ) (defaults : FormSet) (catalog : List FormField)
    (state : σ) :
    let stored := (handler (.get StorageKey.formConfigurations) state).1
    (tryLoad defaults catalog).Ends handler
      (fun result _ => match result with
        | .ok copy => copy = ofStored defaults catalog stored
        | .error _ => ofStored defaults catalog stored = { defaults, catalog, forms := defaults })
      state := by
  intro stored
  have read : (Store.get StorageKey.formConfigurations).Ends handler
      (fun reply _ => stored = reply) state :=
    .operation trivial rfl
  refine read.bind fun reply s same => ?_
  rw [same]
  cases reply with
  | error e => exact .pure rfl
  | ok found =>
      cases found with
      | none => exact .pure rfl
      | some text =>
          dsimp only
          cases parsed : Snapshot.parse text with
          | none => exact .pure (by simp [ofStored, parsed])
          | some snapshot =>
              refine (Program.ends_any _ _).bind fun _ _ _ => .pure ?_
              simp [ofStored, parsed]

/-- What is loaded depends on nothing but what the store answers. -/
theorem load_answers (handler : Handler σ) (defaults : FormSet) (catalog : List FormField)
    (state : σ) :
    (load defaults catalog).Ends handler
      (fun copy _ => copy =
        ofStored defaults catalog (handler (.get StorageKey.formConfigurations) state).1)
      state := by
  refine (tryLoad_answers handler defaults catalog state).bind fun result s loaded => ?_
  cases result with
  | ok copy => exact .pure loaded
  | error e => exact (Program.ends_any _ _).bind fun _ _ _ => .pure loaded.symm

section

variable {inv : σ → Prop}
  (get : ∀ s, inv s → inv (handler (.get StorageKey.formConfigurations) s).2)
  (log : ∀ record s, inv s → inv (handler (.log record) s).2)
include get log

/-- Loading only reads and reports. -/
theorem tryLoad_preserves (defaults : FormSet) (catalog : List FormField) :
    (tryLoad defaults catalog).Preserves handler inv := by
  have foreign (ids : List String) : (reportForeign ids).Preserves handler inv := by
    induction ids with
    | nil => exact .pure _
    | cons id ids ih => exact .bind (.operation (log _)) fun _ => ih
  refine .bind (.operation get) fun reply => ?_
  split
  · exact .pure _
  · exact .pure _
  · split
    · exact .pure _
    · exact .bind (foreign _) fun _ => .pure _

theorem load_preserves (defaults : FormSet) (catalog : List FormField) :
    (load defaults catalog).Preserves handler inv := by
  refine .bind (tryLoad_preserves get log defaults catalog) fun result => ?_
  cases result with
  | ok copy => exact .pure _
  | error e => exact .bind (.operation (log _)) fun _ => .pure _

end

theorem load_ends (defaults : FormSet) (catalog : List FormField) (state : σ) :
    (load defaults catalog).Ends handler (fun copy _ => Loaded defaults copy) state := by
  refine (load_answers handler defaults catalog state).imp ?_
  intro copy _ loaded
  rw [loaded]
  exact loaded_ofStored defaults catalog _

/-- Where a text can be read, its snapshot is loaded. -/
theorem load_stored_ends (defaults : FormSet) (catalog : List FormField) {text : String}
    {snapshot : Snapshot} {state : σ} (parsed : Snapshot.parse text = some snapshot)
    (stored : (handler (.get StorageKey.formConfigurations) state).1 = .ok (some text)) :
    (load defaults catalog).Ends handler (fun copy _ => copy.forms = defaults.merge snapshot)
      state := by
  refine (load_answers handler defaults catalog state).imp ?_
  intro copy _ loaded
  rw [loaded, stored]
  simp [ofStored, parsed]

theorem Loaded.normal {copy : WorkingCopy} (loaded : Loaded defaults copy) :
    defaults.Normal copy.forms := by
  rcases loaded.forms with shipped | ⟨snapshot, merged⟩
  · rw [shipped]
    exact defaults.normal_refl
  · rw [merged]
    exact defaults.normal_merge snapshot

theorem Loaded.sameTypes {copy : WorkingCopy} (loaded : Loaded defaults copy) :
    defaults.SameTypes copy.forms := by
  rcases loaded.forms with shipped | ⟨snapshot, merged⟩
  · rw [shipped]
    exact fun _ => rfl
  · rw [merged]
    exact defaults.sameTypes_merge snapshot

/-! ## Editing -/

theorem edited_ends (handler : Handler σ) {copy : WorkingCopy} (edits : List Edit)
    (onDefaults : copy.defaults = defaults)
    (same : defaults.SameTypes copy.forms) (state : σ) :
    (edited edits copy).Ends handler
      (fun after _ => after.defaults = defaults ∧ defaults.SameTypes after.forms) state := by
  induction edits generalizing copy state with
  | nil => exact .pure ⟨onDefaults, same⟩
  | cons edit edits ih =>
      refine (copy.edit_changes edit state).bind fun after s changes => ?_
      subst onDefaults
      have kept := changes.sameTypes same
      exact ih changes.defaults_eq kept s

/-- After any edits of what was loaded the request types are still those of the default forms. -/
theorem reached_sameTypes (defaults : FormSet) (catalog : List FormField) (edits : List Edit)
    (state : σ) :
    (load defaults catalog >>= edited edits).Ends handler
      (fun copy _ => defaults.SameTypes copy.forms) state := by
  refine (load_ends defaults catalog state).bind fun copy s loaded => ?_
  have ends := edited_ends handler edits loaded.defaults_eq loaded.sameTypes s
  exact ends.mono (fun _ kept => kept) fun _ _ reached => reached.2

/-! ## Saving -/

/-- Saving stores the text and does nothing else but report how that went. -/
def Saves (copy : WorkingCopy) (text : String) : Prop :=
  ∀ events answer, copy.save.Performs events answer →
    ∃ reply record, events = [.set StorageKey.formConfigurations text reply, .log record]

theorem saves_toText (copy : WorkingCopy) : copy.Saves copy.forms.toText := by
  intro events answer performs
  obtain ⟨first, rest, reply, rfl, stores, reports⟩ := Program.Performs.of_bind performs
  obtain rfl := Program.performs_operation_iff.mp stores
  cases reply with
  | error e =>
      obtain ⟨logged, done, _, rfl, logs, ends⟩ := Program.Performs.of_bind reports
      obtain rfl := Program.performs_operation_iff.mp logs
      cases ends
      exact ⟨_, _, rfl⟩
  | ok _ =>
      obtain ⟨logged, done, _, rfl, logs, ends⟩ := Program.Performs.of_bind reports
      obtain rfl := Program.performs_operation_iff.mp logs
      cases ends
      exact ⟨_, _, rfl⟩

/-- Forms that were loaded and edited come back from what is saved of them if they are in normal
form, and they are unless an edit replaced a list of fields. -/
theorem forms_return (distinct : defaults.Distinct) (catalog : List FormField) :
    (∀ {σ : Type} (handler : Handler σ) (start : σ) (edits : List Edit),
      let copy := ((load defaults catalog >>= edited edits).run handler start).1
      copy.Saves copy.forms.toText ∧
      (∃ snapshot, Snapshot.parse copy.forms.toText = some snapshot ∧
        (defaults.merge snapshot = copy.forms ↔ defaults.Normal copy.forms)) ∧
      ∀ {σ' : Type} (later : Handler σ') (state : σ'),
        (later (.get StorageKey.formConfigurations) state).1 = .ok (some copy.forms.toText) →
          (((load defaults catalog).run later state).1.forms = copy.forms ↔
            defaults.Normal copy.forms)) ∧
    (∀ {σ : Type} (handler : Handler σ) (start : σ),
      defaults.Normal ((load defaults catalog).run handler start).1.forms) ∧
    (∀ {σ : Type} (handler : Handler σ) (state : σ) (copy : WorkingCopy) (edit : Edit),
      copy.defaults = defaults → edit.KeepsFieldList → defaults.Normal copy.forms →
        defaults.Normal ((edit.program copy).run handler state).1.forms) := by
  refine ⟨?_, ?_, ?_⟩
  · intro σ handler start edits copy
    have sameTypes : defaults.SameTypes copy.forms :=
      (reached_sameTypes defaults catalog edits start).outcome
    have parsed := copy.forms.parse_toText
    have returns := FormSet.merge_eq_iff distinct sameTypes
    refine ⟨copy.saves_toText, ⟨_, parsed, returns⟩, fun later state stored => ?_⟩
    have loaded : ((load defaults catalog).run later state).1.forms =
        defaults.merge copy.forms.snapshot :=
      (load_stored_ends defaults catalog parsed stored).outcome
    rw [loaded]
    exact returns
  · intro σ handler start
    have loaded : Loaded defaults ((load defaults catalog).run handler start).1 :=
      (load_ends defaults catalog start).outcome
    exact loaded.normal
  · intro σ handler state copy edit onDefaults keeps normal
    have changes : copy.Changes edit ((edit.program copy).run handler state).1 :=
      (copy.edit_changes edit state).outcome
    subst onDefaults
    exact changes.normal keeps normal

/-- An added field comes back; of a form that lost all of its fields the default ones come back. -/
theorem forms_return_shipped :
    let reached (edit : Edit) := ((load .shipped FormField.catalog >>= edited [edit]).run
      Plan.welcoming.handle {}).1.forms
    let added := reached (.addField .newAccount "cost_center")
    let emptied := reached (.updateForm .newAccount { fields := some [] })
    FormSet.shipped.Distinct ∧
      (∃ snapshot, Snapshot.parse added.toText = some snapshot ∧
        FormSet.shipped.merge snapshot = added) ∧
      ∃ snapshot, Snapshot.parse emptied.toText = some snapshot ∧
        FormSet.shipped.merge snapshot ≠ emptied := by
  have distinct : FormSet.shipped.Distinct := by
    intro type form shipped
    cases type <;> (cases shipped; decide)
  obtain ⟨returns, loaded, kept⟩ := forms_return distinct FormField.catalog
  refine ⟨distinct, ?_, ?_⟩
  · obtain ⟨-, ⟨snapshot, parsed, same⟩, -⟩ :=
      returns Plan.welcoming.handle {} [.addField .newAccount "cost_center"]
    have start : (load .shipped FormField.catalog).Ends Plan.welcoming.handle
        (fun copy _ => Loaded .shipped copy) {} :=
      load_ends .shipped FormField.catalog _
    refine ⟨snapshot, parsed, same.mpr ?_⟩
    simp only [edited, Program.run_bind, Program.run_pure]
    exact kept _ _ _ _ start.outcome.defaults_eq trivial (loaded Plan.welcoming.handle {})
  · obtain ⟨-, ⟨snapshot, parsed, same⟩, -⟩ :=
      returns Plan.welcoming.handle {} [.updateForm .newAccount { fields := some [] }]
    refine ⟨snapshot, parsed, fun equal => ?_⟩
    obtain ⟨added, ids, -⟩ := same.mp equal .newAccount _ _ rfl rfl
    cases ids

end WorkingCopy
end AccessPortal
