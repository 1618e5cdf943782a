import AccessPortal.Proofs.Forms.Reread
import AccessPortal.Proofs.Program.Since

/-!
# Changes that are not saved

A working copy says whether it has changes that are not saved. As long as it says no, loading again
gives the forms that it has; and it says yes exactly if an edit changed the forms and neither saving
nor dropping succeeded since (`unsaved_sound`). Any operation on the store may fail meanwhile.
-/

namespace AccessPortal
namespace WorkingCopy

variable {σ : Type} {handler : Handler σ} {contents : σ → Contents} {defaults : FormSet}
  {catalog : List FormField}

/-- A list that an edit puts in the place of the fields of a form is in normal form. -/
def Edit.RespectsDefaults (defaults : FormSet) : Edit → Prop
  | .updateForm type patch => ∀ fields ∈ patch.fields, ∀ default,
      defaults.form? type = some default → NormalFields default.fields fields
  | _ => True

structure Attempt where
  edit : Edit
  reply : edit.Reply

def journal (handler : Handler σ) : List Edit → WorkingCopy → σ → List Attempt
  | [], _, _ => []
  | edit :: edits, copy, state =>
    let ended := (edit.attempt copy).run handler state
    ⟨edit, ended.1.1⟩ :: journal handler edits ended.1.2 ended.2

/-- The forms were changed, and since then neither saving nor dropping them succeeded. -/
def Pending (attempts : List Attempt) : Prop :=
  Since (fun attempt => attempt.edit.MakesChange attempt.reply)
    (fun attempt => attempt.edit.Synchronizes attempt.reply) attempts

theorem pending_concat (past : List Attempt) (last : Attempt) :
    Pending (past ++ [last]) ↔
      last.edit.MakesChange last.reply ∨ Pending past ∧ ¬ last.edit.Synchronizes last.reply :=
  since_concat past last

/-- Unless there are changes that are not saved, the working copy is what would be loaded now. -/
structure Truthful (contents : Contents) (defaults : FormSet) (catalog : List FormField)
    (copy : WorkingCopy) : Prop where
  readable : Readable defaults catalog copy
  current : copy.unsaved = false →
    ofStored defaults catalog (.ok (contents StorageKey.formConfigurations)) = copy

variable {copy : WorkingCopy}

/-! ## Changes -/

theorem Readable.updateForm {type : RequestType} {patch : FormPatch}
    (readable : Readable defaults catalog copy)
    (respects : (Edit.updateForm type patch).RespectsDefaults defaults) :
    Readable defaults catalog (copy.updateForm type patch).2 := by
  cases given : patch.fields with
  | none => exact readable.changes (copy.updateForm_changes type patch) given
  | some fields =>
      unfold WorkingCopy.updateForm
      split
      · exact readable
      · rename_i form found
        have replaced : (patch.apply form).fields = fields := by simp [FormPatch.apply, given]
        refine ⟨readable.defaults_eq, readable.catalog_eq, ?_, readable.sameTypes.set found rfl⟩
        refine readable.normal.set fun default ofDefault => ?_
        rw [replaced]
        exact respects fields given default ofDefault

theorem Truthful.change {store : Contents} {α : Type} {done : α}
    {result : Except FormError α × WorkingCopy} (truthful : Truthful store defaults catalog copy)
    (decided : copy.AllOrNothing done result) (readable : Readable defaults catalog result.2) :
    Truthful store defaults catalog result.2 ∧
      (result.2.unsaved = true ↔ result.1 = .ok done ∨ copy.unsaved = true ∧ ¬ False) := by
  by_cases succeeded : result.1 = .ok done
  · have unsaved := decided.unsaved succeeded
    refine ⟨⟨readable, fun saved => ?_⟩, fun _ => .inl succeeded, fun _ => unsaved⟩
    rw [unsaved] at saved
    cases saved
  · have same := decided.unchanged succeeded
    rw [same]
    exact ⟨truthful, fun unsaved => .inr ⟨unsaved, id⟩, fun h => (h.resolve_left succeeded).1⟩

/-! ## Saving and dropping -/

theorem Truthful.saved {store : Contents} (distinct : defaults.Distinct)
    (readable : Readable defaults catalog copy)
    (stored : store StorageKey.formConfigurations = some copy.forms.toText) :
    Truthful store defaults catalog { copy with unsaved := false } where
  readable := ⟨readable.defaults_eq, readable.catalog_eq, readable.normal, readable.sameTypes⟩
  current _ := by rw [stored, readable.ofStored_toText distinct]

theorem Truthful.dropped {store : Contents} (readable : Readable defaults catalog copy)
    (absent : store StorageKey.formConfigurations = none) :
    Truthful store defaults catalog { copy with forms := copy.defaults, unsaved := false } := by
  obtain ⟨rfl, rfl, -, -⟩ := readable
  exact ⟨⟨rfl, rfl, copy.defaults.normal_refl, fun _ => rfl⟩, fun _ => by rw [absent]; rfl⟩

/-- Goes on after a report, which leaves the store as it is. -/
theorem report_ends (faithful : Faithful handler contents) {α : Type}
    {post : α → σ → Prop} {next : Program α} {s : σ} (level : Log.Level) (message : String)
    (fields : List (String × String))
    (rest : ∀ last, contents last = contents s → next.Ends handler post last) :
    (do report level message fields; next).Ends handler post s := by
  have reported : (report level message fields).Ends handler
      (fun _ last => contents last = contents s) s :=
    .operation trivial (faithful.after _ s)
  exact reported.bind fun _ last same => rest last same

theorem save_truthful (faithful : Faithful handler contents) (distinct : defaults.Distinct)
    {s : σ} (truthful : Truthful (contents s) defaults catalog copy) :
    copy.save.Ends handler
      (fun (reply, after) next => Truthful (contents next) defaults catalog after ∧
        (after.unsaved = true ↔ False ∨ copy.unsaved = true ∧ ¬ reply = .ok ()))
      s := by
  refine (faithful.set_ends _ _ s).bind fun reply next after => ?_
  cases reply with
  | error e =>
      have same : contents next = contents s := after
      refine report_ends faithful _ _ _ fun last kept => .pure ⟨?_, by simp⟩
      rw [kept, same]
      exact truthful
  | ok _ =>
      have stored : contents next StorageKey.formConfigurations = some copy.forms.toText := by
        rw [after, Contents.after, Function.update_self]
      refine report_ends faithful _ _ _ fun last kept => .pure ⟨?_, by simp⟩
      rw [← kept] at stored
      exact .saved distinct truthful.readable stored

theorem reset_truthful (faithful : Faithful handler contents) {s : σ}
    (truthful : Truthful (contents s) defaults catalog copy) :
    copy.reset.Ends handler
      (fun (reply, after) next => Truthful (contents next) defaults catalog after ∧
        (after.unsaved = true ↔ False ∨ copy.unsaved = true ∧ ¬ reply = .ok ()))
      s := by
  refine (faithful.remove_ends _ s).bind fun reply next after => ?_
  cases reply with
  | error e =>
      have same : contents next = contents s := after
      refine .pure ⟨?_, by simp⟩
      rw [same]
      exact truthful
  | ok _ =>
      have absent : contents next StorageKey.formConfigurations = none := by
        rw [after, Contents.after, Function.update_self]
      refine report_ends faithful _ _ _ fun last kept => .pure ⟨?_, by simp⟩
      rw [← kept] at absent
      exact .dropped truthful.readable absent

/-! ## Any edit, and any edits -/

/-- An edit keeps what the flag says true, and turns the flag on and off as it should. -/
theorem attempt_truthful (faithful : Faithful handler contents) (distinct : defaults.Distinct)
    {s : σ} (truthful : Truthful (contents s) defaults catalog copy) {edit : Edit}
    (respects : edit.RespectsDefaults defaults) :
    (edit.attempt copy).Ends handler
      (fun (reply, after) next => Truthful (contents next) defaults catalog after ∧
        (after.unsaved = true ↔
          edit.MakesChange reply ∨ copy.unsaved = true ∧ ¬ edit.Synchronizes reply))
      s := by
  have readable := truthful.readable
  cases edit with
  | updateField type id patch =>
      exact .pure (truthful.change (copy.updateField_allOrNothing type id patch)
        (readable.changes (copy.updateField_changes type id patch) trivial))
  | updateForm type patch =>
      exact .pure (truthful.change (copy.updateForm_allOrNothing type patch)
        (readable.updateForm respects))
  | moveField type id direction =>
      exact .pure (truthful.change (copy.moveField_allOrNothing type id direction)
        (readable.changes (copy.moveField_changes type id direction) trivial))
  | addField type id =>
      exact .pure (truthful.change (copy.addField_allOrNothing type id)
        (readable.changes (copy.addField_changes type id) trivial))
  | removeField type id =>
      exact .pure (truthful.change (copy.removeField_allOrNothing type id)
        (readable.changes (copy.removeField_changes type id) trivial))
  | save => exact save_truthful faithful distinct truthful
  | reset => exact reset_truthful faithful truthful

theorem edited_truthful (faithful : Faithful handler contents) (distinct : defaults.Distinct)
    {edits : List Edit} (respect : ∀ edit ∈ edits, edit.RespectsDefaults defaults)
    {s : σ} (truthful : Truthful (contents s) defaults catalog copy) {past : List Attempt}
    (known : copy.unsaved = true ↔ Pending past) :
    (edited edits copy).Ends handler
      (fun after next => Truthful (contents next) defaults catalog after ∧
        (after.unsaved = true ↔ Pending (past ++ journal handler edits copy s)))
      s := by
  induction edits generalizing copy s past with
  | nil =>
      have nothing : past ++ journal handler [] copy s = past := List.append_nil past
      rw [nothing]
      exact .pure ⟨truthful, known⟩
  | cons edit edits ih =>
      have first := attempt_truthful faithful distinct truthful (respect edit List.mem_cons_self)
      have others (e : Edit) (mem : e ∈ edits) := respect e (List.mem_cons_of_mem edit mem)
      obtain ⟨kept, flag⟩ := first.outcome
      let attempted : Attempt := ⟨edit, ((edit.attempt copy).run handler s).1.1⟩
      rw [known] at flag
      have next := ih others kept (flag.trans (pending_concat past attempted).symm)
      rw [List.append_assoc] at next
      refine ⟨fun _ _ => trivial, ?_⟩
      rw [edited, Edit.program_eq, Program.run_bind, Program.run_bind]
      exact next.outcome

/--
Over any stored text, and whatever fails: as long as the working copy says that nothing is unsaved,
the forms are those that would be loaded now; and it says that something is exactly if an edit
changed the forms and neither saving nor dropping them succeeded since.
-/
theorem unsaved_sound (distinct : defaults.Distinct) (faithful : Faithful handler contents)
    (catalog : List FormField) {start : σ} {found : Option String}
    (read : (handler (.get StorageKey.formConfigurations) start).1 = .ok found)
    (edits : List Edit) (respect : ∀ edit ∈ edits, edit.RespectsDefaults defaults) :
    let loaded := (load defaults catalog).run handler start
    let ended := (edited edits loaded.1).run handler loaded.2
    (ended.1.unsaved = false →
      ∀ {τ : Type} (later : Handler τ) (state : τ),
        (later (.get StorageKey.formConfigurations) state).1 =
            .ok (contents ended.2 StorageKey.formConfigurations) →
          ((load defaults catalog).run later state).1.forms = ended.1.forms) ∧
    (ended.1.unsaved = true ↔ Pending (journal handler edits loaded.1 loaded.2)) := by
  intro loaded ended
  have keeps : (load defaults catalog).Preserves handler fun s => contents s = contents start := by
    apply load_preserves
    · intro s same
      exact (faithful.after (.get StorageKey.formConfigurations) s).trans same
    · intro record s same
      exact (faithful.after (.log record) s).trans same
  have same : contents loaded.2 = contents start := (keeps.ends rfl).outcome
  have answer : loaded.1 =
      ofStored defaults catalog (.ok (contents loaded.2 StorageKey.formConfigurations)) := by
    have admits := faithful.admits (.get StorageKey.formConfigurations) start
    rw [read] at admits
    have there : found = contents start StorageKey.formConfigurations := admits
    rw [same, ← there, ← read]
    exact (load_answers handler defaults catalog start).outcome
  have truthful : Truthful (contents loaded.2) defaults catalog loaded.1 := by
    rw [answer]
    exact ⟨readable_ofStored, fun _ => rfl⟩
  have clean : loaded.1.unsaved = true ↔ Pending [] := by
    rw [answer]
    exact ⟨nofun, fun pending => absurd pending not_since_nil⟩
  obtain ⟨truthful, flag⟩ := (edited_truthful faithful distinct respect truthful clean).outcome
  refine ⟨fun saved τ later state again => ?_, flag⟩
  have reloaded := (load_answers later defaults catalog state).outcome
  rw [reloaded, again]
  exact congrArg forms (truthful.current saved)

/-- Over a text that cannot be read, the first attempt to save is denied, and a field of the default
form cannot be removed. -/
theorem unsaved_sound_denied :
    let plan : Plan := { fault? := fun k => if k = 2 then some (.writeRejected "denied") else none }
    let start : Plan.World := ⟨[(StorageKey.formConfigurations, "\x7b")], 0⟩
    let defaults : FormSet := FormSet.empty.set .lockAccount .lockAccount
    let listed := RequestForm.lockAccount.fields ++ FormField.catalog.take 1
    let edits : List Edit :=
      [.addField .lockAccount "ticket_reference", .save,
        .updateForm .lockAccount { fields := some listed }, .save,
        .removeField .lockAccount "comments"]
    let loaded := (load defaults FormField.catalog).run plan.handle start
    let ended := (edited edits loaded.1).run plan.handle loaded.2
    let denied := (edited (edits.take 2) loaded.1).run plan.handle loaded.2
    defaults.Distinct ∧
      (plan.handle (.get StorageKey.formConfigurations) start).1 = .ok (some "\x7b") ∧
      (∀ edit ∈ edits, edit.RespectsDefaults defaults) ∧
      denied.1.unsaved = true ∧ ended.1.unsaved = false ∧
      ((load defaults FormField.catalog).run Contents.serve ended.2.contents).1.forms =
        ended.1.forms ∧
      ¬ Pending (journal plan.handle edits loaded.1 loaded.2) := by
  intro plan start defaults listed edits loaded ended denied
  have distinct : defaults.Distinct := by
    intro type form found
    cases type <;> (cases found; try decide)
  have normal : NormalFields RequestForm.lockAccount.fields listed :=
    ⟨["cost_center"], rfl, by decide⟩
  have respect : ∀ edit ∈ edits, edit.RespectsDefaults defaults := by
    intro edit mem
    simp only [edits, List.mem_cons, List.not_mem_nil, or_false] at mem
    rcases mem with rfl | rfl | rfl | rfl | rfl
    case inr.inr.inl =>
      intro fields given default ofDefault
      cases given
      cases ofDefault
      exact normal
    all_goals exact True.intro
  have read : (plan.handle (.get StorageKey.formConfigurations) start).1 = .ok (some "\x7b") := rfl
  have unsaved : denied.1.unsaved = true := by decide +kernel
  have saved : ended.1.unsaved = false := by decide +kernel
  obtain ⟨current, pending⟩ :=
    unsaved_sound distinct plan.faithful FormField.catalog read edits respect
  refine ⟨distinct, read, respect, unsaved, saved, ?_, ?_⟩
  · exact current saved Contents.serve ended.2.contents rfl
  · exact fun since => Bool.false_ne_true (saved.symm.trans (pending.mpr since))

end WorkingCopy
end AccessPortal
