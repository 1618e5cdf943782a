import AccessPortal.Proofs.Console.Restarts
import AccessPortal.Proofs.Forms.Keyed
import AccessPortal.Proofs.Storage.Committed

/-!
# Order values under commands about the forms

No command line sets an order value by hand. So whatever commands are run, each in a run of its own,
the forms stay keyed if nothing was stored at first: a field that cannot be moved any more is at the
end of the display, and a move is undone by the move back (`order_values_stay_apart`).
-/

namespace AccessPortal
namespace Console

open WorkingCopy

/-! ## What can be typed -/

/-- A command that some command line means. -/
def FormsCommand.CanBeTyped (command : FormsCommand) : Prop :=
  ∃ value? words settings, Invocation.read value? words = .ok ⟨settings, .forms command⟩

section

variable {value? : String → Option String} {name : String} {found : Found}
  {command : FormsCommand}

theorem command?_ne_forms : command? value? name found ≠ some (.forms command) := by
  unfold command?
  split <;> simp [Option.bind_eq_some_iff]

theorem order_of_formsCommand? {type : RequestType} {field : String} {patch : FieldPatch}
    (read : formsCommand? name found = some (.setField type field patch)) : patch.order = none := by
  unfold formsCommand? at read
  split at read
  all_goals simp only [Option.bind_eq_bind, Option.bind_eq_some_iff, Option.pure_def,
    Option.some.injEq, reduceCtorEq, and_false, exists_false, FormsCommand.setField.injEq] at read
  obtain ⟨_, _, _, _, _, _, _, _, _, _, rfl⟩ := read
  rfl

theorem invocation_command {levels : List Found} {command : Command} {invoked : Invocation}
    (read : invocation value? levels command = .ok invoked) : invoked.command = command := by
  unfold invocation at read
  split at read
  · cases read
    rfl
  · cases read

theorem formsCommand?_of_read {words : List String} {settings : Settings}
    (read : Invocation.read value? words = .ok ⟨settings, .forms command⟩) :
    ∃ name found, formsCommand? name found = some command := by
  simp only [Invocation.read, bind, Except.bind] at read
  split at read
  · cases read
  split at read
  · split at read
    · cases read
    split at read
    · cases read
    split at read
    · cases read
    split at read
    · rename_i means
      cases invocation_command read
      exact ⟨_, _, means⟩
    · cases read
  · split at read
    · cases read
    split at read
    · rename_i means
      cases invocation_command read
      exact absurd means command?_ne_forms
    · cases read

end

/-- The command line gives no order value. -/
theorem FormsCommand.CanBeTyped.order {type : RequestType} {field : String} {patch : FieldPatch}
    (typed : (FormsCommand.setField type field patch).CanBeTyped) : patch.order = none := by
  obtain ⟨value?, words, settings, read⟩ := typed
  obtain ⟨name, found, means⟩ := formsCommand?_of_read read
  exact order_of_formsCommand? means

/-! ## A store that commits or refuses -/

/-- Reading tells what is stored of the forms, and saving or dropping them either takes place or
changes nothing. Saving takes place exactly if the store works, and does so from then on. -/
structure CommitsForms {σ : Type} (handler : Handler σ)
    (stored : σ → Except StorageError (Option String)) (works : σ → Prop) : Prop where
  get : ∀ s, (handler (.get StorageKey.formConfigurations) s).1 = stored s ∧
    (handler (.get StorageKey.formConfigurations) s).2 = s
  set : ∀ text s,
    (handler (.set StorageKey.formConfigurations text) s).1 = .ok () ∧
        stored (handler (.set StorageKey.formConfigurations text) s).2 = .ok (some text) ∧
        works (handler (.set StorageKey.formConfigurations text) s).2 ∨
      ¬ works s ∧ ∃ e, (handler (.set StorageKey.formConfigurations text) s).1 = .error e ∧
        stored (handler (.set StorageKey.formConfigurations text) s).2 = stored s
  remove : ∀ s,
    (handler (.remove StorageKey.formConfigurations) s).1 = .ok () ∧
        stored (handler (.remove StorageKey.formConfigurations) s).2 = .ok none ∨
      ∃ e, (handler (.remove StorageKey.formConfigurations) s).1 = .error e ∧
        stored (handler (.remove StorageKey.formConfigurations) s).2 = stored s
  log : ∀ record s, stored (handler (.log record) s).2 = stored s ∧
    (works s → works (handler (.log record) s).2)

section

variable {σ : Type} {handler : Handler σ} {stored : σ → Except StorageError (Option String)}
  {works : σ → Prop} {copy : WorkingCopy} {s : σ}

def workingCopy (stored : Except StorageError (Option String)) : WorkingCopy :=
  ofStored .shipped FormField.catalog stored

theorem readable_workingCopy (found : Except StorageError (Option String)) :
    Readable .shipped FormField.catalog (workingCopy found) :=
  readable_ofStored

/-- What a run would load now is keyed. -/
def Tidy (stored : σ → Except StorageError (Option String)) (s : σ) : Prop :=
  (workingCopy (stored s)).forms.Keyed

variable (store : CommitsForms handler stored works)
include store

theorem CommitsForms.report_ends {α : Type} {post : α → σ → Prop} {next : Program α}
    (level : Log.Level) (message : String) (fields : List (String × String))
    (rest : ∀ last, stored last = stored s → (works s → works last) → next.Ends handler post last) :
    (do WorkingCopy.report level message fields; next).Ends handler post s := by
  have reported : (WorkingCopy.report level message fields).Ends handler
      (fun _ last => stored last = stored s ∧ (works s → works last)) s :=
    .operation trivial (store.log _ s)
  exact reported.bind fun _ last kept => rest last kept.1 kept.2

theorem CommitsForms.load_ends (s : σ) :
    (WorkingCopy.load .shipped FormField.catalog).Ends handler
      (fun copy last => copy = workingCopy (stored s) ∧ stored last = stored s ∧
        (works s → works last)) s := by
  have answers := load_answers handler .shipped FormField.catalog s
  rw [(store.get s).1] at answers
  have kept : (WorkingCopy.load .shipped FormField.catalog).Ends handler
      (fun _ last => stored last = stored s ∧ (works s → works last)) s := by
    refine (load_preserves (fun t kept => ?_) (fun record t kept => ?_) _ _).ends ⟨rfl, id⟩
    · rw [(store.get t).2]
      exact kept
    · obtain ⟨same, still⟩ := store.log record t
      exact ⟨same.trans kept.1, fun working => still (kept.2 working)⟩
  exact answers.and kept

/-- Saving either takes place, and then can take place again, or changes nothing. -/
theorem CommitsForms.save_ends (copy : WorkingCopy) (s : σ) :
    copy.save.Ends handler
      (fun (result, _) last =>
        result = .ok () ∧ stored last = .ok (some copy.forms.toText) ∧ works last ∨
          ¬ works s ∧ ∃ e, result = .error e ∧ stored last = stored s) s := by
  have written : (Store.set StorageKey.formConfigurations copy.forms.toText).Ends handler
      (fun reply last => reply = .ok () ∧ stored last = .ok (some copy.forms.toText) ∧ works last ∨
        ¬ works s ∧ ∃ e, reply = .error e ∧ stored last = stored s) s :=
    .operation trivial (store.set copy.forms.toText s)
  refine written.bind fun reply last ends => ?_
  obtain ⟨rfl, now, working⟩ | ⟨broken, e, rfl, same⟩ := ends
  · refine store.report_ends _ _ _ fun last kept still => .pure (.inl ?_)
    exact ⟨rfl, kept.trans now, still working⟩
  · refine store.report_ends _ _ _ fun last kept _ => .pure (.inr ?_)
    exact ⟨broken, _, rfl, kept.trans same⟩

/-- A change is saved, and can be saved again, or it is reported that this failed. -/
theorem CommitsForms.saveChanges_ends (unsaved : copy.unsaved = true) (s : σ) :
    (saveChanges copy).Ends handler
      (fun (outcome, _) last =>
        outcome = .ok ["Saved"] ∧ stored last = .ok (some copy.forms.toText) ∧ works last ∨
          ¬ works s ∧ (∃ failure, outcome = .error failure) ∧ stored last = stored s) s := by
  rw [saveChanges, if_pos unsaved]
  refine (store.save_ends copy s).bind fun result last ends => ?_
  obtain ⟨result, after⟩ := result
  obtain ⟨rfl, now, working⟩ | ⟨broken, e, rfl, same⟩ := ends
  · exact .pure (.inl ⟨rfl, now, working⟩)
  · exact .pure (.inr ⟨broken, ⟨_, rfl⟩, same⟩)

/-! ## One command -/

theorem CommitsForms.saveChanges_tidy (tidy : Tidy stored s)
    (readable : Readable .shipped FormField.catalog copy) (keyed : copy.forms.Keyed) :
    (saveChanges copy).Ends handler (fun _ last => Tidy stored last) s := by
  by_cases unsaved : copy.unsaved = true
  · refine (store.saveChanges_ends unsaved s).imp fun _ last ends => ?_
    unfold Tidy
    obtain ⟨-, now, -⟩ | ⟨-, -, same⟩ := ends
    · rw [now, workingCopy, readable.ofStored_toText shipped_distinct]
      exact keyed
    · rw [same]
      exact tidy
  · rw [saveChanges, if_neg unsaved]
    exact .pure tidy

theorem CommitsForms.afterChange_tidy (tidy : Tidy stored s)
    {result : Except FormError Unit × WorkingCopy}
    (readable : Readable .shipped FormField.catalog result.2) (keyed : result.2.forms.Keyed) :
    (afterChange result).Ends handler (fun _ last => Tidy stored last) s := by
  obtain ⟨reply, after⟩ := result
  cases reply with
  | ok _ => exact store.saveChanges_tidy tidy readable keyed
  | error e => exact .pure tidy

/-- A command that can be typed keeps the stored forms keyed. -/
theorem CommitsForms.perform_tidy (tidy : Tidy stored s) {command : FormsCommand}
    (typed : command.CanBeTyped) :
    (command.perform (workingCopy (stored s))).Ends handler (fun _ last => Tidy stored last) s := by
  have keyed : (workingCopy (stored s)).forms.Keyed := tidy
  generalize found : workingCopy (stored s) = copy at keyed
  have readable : Readable .shipped FormField.catalog copy := found ▸ readable_workingCopy _
  cases command with
  | print type all =>
      simp only [FormsCommand.perform]
      split
      · exact .pure tidy
      · exact .pure tidy
  | catalog type => exact .pure tidy
  | setField type id patch =>
      exact store.afterChange_tidy tidy
        (readable.changes (copy.updateField_changes type id patch) trivial)
        (updateField_keyed keyed typed.order type id)
  | add type id =>
      exact store.afterChange_tidy tidy
        (readable.changes (copy.addField_changes type id) trivial) (addField_keyed keyed type id)
  | remove type id =>
      exact store.afterChange_tidy tidy
        (readable.changes (copy.removeField_changes type id) trivial)
        (removeField_keyed keyed type id)
  | move type id direction =>
      have readable := readable.changes (copy.moveField_changes type id direction) trivial
      have keyed := moveField_keyed keyed type id direction
      simp only [FormsCommand.perform]
      split
      · rename_i after moved
        rw [moved] at readable keyed
        exact store.saveChanges_tidy tidy readable keyed
      · exact .pure tidy
      · exact .pure tidy
  | reset =>
      have dropped : (Store.remove StorageKey.formConfigurations).Ends handler
          (fun reply last => Tidy stored last) s := by
        refine .operation trivial ?_
        unfold Tidy
        obtain ⟨-, now⟩ | ⟨e, -, same⟩ := store.remove s
        · rw [now]
          exact FormSet.shipped_keyed
        · rw [same]
          exact tidy
      have told : copy.reset.Ends handler (fun _ last => Tidy stored last) s := by
        refine dropped.bind fun reply last now => ?_
        cases reply with
        | error e => exact .pure now
        | ok _ =>
            refine store.report_ends _ _ _ fun last same _ => .pure ?_
            unfold Tidy
            rw [same]
            exact now
      refine told.bind fun result last now => ?_
      obtain ⟨reply, after⟩ := result
      cases reply with
      | error e => exact .pure now
      | ok _ => exact .pure now

theorem CommitsForms.program_tidy (tidy : Tidy stored s) {command : FormsCommand}
    (typed : command.CanBeTyped) :
    command.program.Ends handler (fun _ last => Tidy stored last) s := by
  refine (store.load_ends s).bind fun copy loaded ends => ?_
  obtain ⟨rfl, same, -⟩ := ends
  have tidy : Tidy stored loaded := by
    unfold Tidy
    rw [same]
    exact tidy
  rw [← same]
  refine (store.perform_tidy tidy typed).bind fun result last now => ?_
  exact .pure now

omit store in
theorem moveField_cases (copy : WorkingCopy) (type : RequestType) (id : String)
    (direction : MoveDirection) :
    (∃ form moved, copy.forms.form? type = some form ∧ form.hasField id = true ∧
        form.move? id direction = some moved ∧
        copy.moveField type id direction = (.ok true, copy.replaceForm type moved)) ∨
      (∃ form, copy.forms.form? type = some form ∧ form.hasField id = true ∧
        form.move? id direction = none ∧ copy.moveField type id direction = (.ok false, copy)) ∨
      (∃ e, copy.moveField type id direction = (.error e, copy)) ∧
        ∀ form, copy.forms.form? type = some form → form.hasField id = false := by
  unfold moveField
  cases found : copy.forms.form? type with
  | none => exact .inr (.inr ⟨⟨_, rfl⟩, nofun⟩)
  | some form =>
      cases there : form.hasField id with
      | false =>
          refine .inr (.inr ⟨⟨.fieldNotFound type id, by simp [there]⟩, fun other same => ?_⟩)
          exact Option.some.inj same ▸ there
      | true =>
          cases moves : form.move? id direction with
          | none => exact .inr (.inl ⟨form, rfl, there, moves, by simp [there, moves]⟩)
          | some moved => exact .inl ⟨form, moved, rfl, there, moves, by simp [there, moves]⟩

/-- How a run ends that is to move a field of these forms. -/
inductive MoveEnds (stored : σ → Except StorageError (Option String)) (works : σ → Prop)
    (forms : FormSet) (type : RequestType) (id : String) (direction : MoveDirection) (s : σ) :
    Report → σ → Prop
  | saved {form moved : RequestForm} {last : σ} (found : forms.form? type = some form)
      (there : form.hasField id = true) (moves : form.move? id direction = some moved)
      (now : (workingCopy (stored last)).forms = forms.set type moved) (working : works last) :
      MoveEnds stored works forms type id direction s (.ofLines ["Saved"]) last
  | stayed {form : RequestForm} {last : σ} (found : forms.form? type = some form)
      (there : form.hasField id = true) (stays : form.move? id direction = none) :
      MoveEnds stored works forms type id direction s
        (.ofLines [id ++ " is already at the " ++ endName direction ++ " end"]) last
  | failed {last : σ} (failure : Failure)
      (cause : works s → ∀ form, forms.form? type = some form → form.hasField id = false) :
      MoveEnds stored works forms type id direction s (.ofFailure failure) last

theorem CommitsForms.move_ends (type : RequestType) (id : String) (direction : MoveDirection)
    (s : σ) :
    (FormsCommand.move type id direction).program.Ends handler
      (MoveEnds stored works (workingCopy (stored s)).forms type id direction s) s := by
  refine (store.load_ends s).bind fun copy loaded ends => ?_
  obtain ⟨rfl, same, still⟩ := ends
  simp only [FormsCommand.perform]
  obtain ⟨form, moved, found, there, moves, changed⟩ | ⟨form, found, there, stays, unchanged⟩ |
    ⟨⟨e, refused⟩, absent⟩ := moveField_cases (workingCopy (stored s)) type id direction
  · have readable := (readable_workingCopy (stored s)).changes
      (moveField_changes _ type id direction) trivial
    rw [changed] at readable ⊢
    refine (store.saveChanges_ends rfl loaded).bind fun result last ends => ?_
    obtain ⟨outcome, after⟩ := result
    obtain ⟨rfl, now, working⟩ | ⟨broken, ⟨failure, rfl⟩, -⟩ := ends
    · refine .pure (.saved found there moves ?_ working)
      rw [now, workingCopy, readable.ofStored_toText shipped_distinct]
      rfl
    · exact .pure (.failed failure fun working => absurd (still working) broken)
  · rw [unchanged]
    exact .pure (.stayed found there stays)
  · rw [refused]
    exact .pure (.failed _ fun _ => absent)

omit store

theorem printLines_singleton (line : String) : printLines [line] = line ++ "\n" := by
  simp [printLines, String.join]

theorem at_end_ne_saved (id : String) (direction : MoveDirection) :
    Report.ofLines [id ++ " is already at the " ++ endName direction ++ " end"] ≠
      .ofLines ["Saved"] := by
  intro same
  have lengths := congrArg (fun report => report.output.length) same
  simp only [Report.ofLines, printLines_singleton, String.length_append] at lengths
  have longer : " is already at the ".length = 19 := by decide
  have shorter : "Saved".length = 5 := by decide
  omega

namespace MoveEnds

variable {forms : FormSet} {type : RequestType} {id : String} {direction : MoveDirection}
  {form moved : RequestForm} {report : Report} {last : σ}

theorem congr {last' : σ} (ends : MoveEnds stored works forms type id direction s report last)
    (same : stored last' = stored last) (still : works last → works last') :
    MoveEnds stored works forms type id direction s report last' := by
  cases ends with
  | saved found there moves now working =>
      exact .saved found there moves (same ▸ now) (still working)
  | stayed found there stays => exact .stayed found there stays
  | failed failure cause => exact .failed failure cause

/-- It is true that a field is at the end if it is reported. -/
theorem at_end (keyed : forms.Keyed)
    (ends : MoveEnds stored works forms type id direction s report last)
    (told : report = .ofLines [id ++ " is already at the " ++ endName direction ++ " end"]) :
    ∃ form field, forms.form? type = some form ∧
      direction.outermost? form.displayed = some field ∧ field.id = id := by
  cases ends with
  | saved => exact absurd told.symm (at_end_ne_saved id direction)
  | stayed found there stays =>
      obtain ⟨field, outermost, named⟩ := (keyed type _ found).at_end there stays
      exact ⟨_, field, found, outermost, named⟩
  | failed failure => cases congrArg Report.exitCode told

theorem of_saved (ends : MoveEnds stored works forms type id direction s report last)
    (told : report = .ofLines ["Saved"]) :
    ∃ form moved, forms.form? type = some form ∧ form.hasField id = true ∧
      form.move? id direction = some moved ∧
      (workingCopy (stored last)).forms = forms.set type moved ∧ works last := by
  cases ends with
  | saved found there moves now working => exact ⟨_, _, found, there, moves, now, working⟩
  | stayed => exact absurd told (at_end_ne_saved id direction)
  | failed failure => cases congrArg Report.exitCode told

/-- A move that was carried out can be undone where forms can be stored. -/
theorem back (keyed : forms.Keyed) (found : forms.form? type = some form)
    (there : form.hasField id = true) (moves : form.move? id direction = some moved)
    (working : works s)
    (ends : MoveEnds stored works (forms.set type moved) type id direction.opposite s report last) :
    report = .ofLines ["Saved"] ∧ (workingCopy (stored last)).forms = forms := by
  have foundMoved : (forms.set type moved).form? type = some moved := by
    simp [FormSet.form?_set]
  have thereMoved : moved.hasField id = true := by
    obtain ⟨a, b, rfl⟩ := RequestForm.eq_of_move? moves
    unfold RequestForm.hasField at there ⊢
    rw [any_id_iff] at there ⊢
    rwa [form.map_id_exchangeOrders a b]
  have undoes := (keyed type form found).move_back moves
  cases ends with
  | saved found' there' moves' now working' =>
      cases found'.symm.trans foundMoved
      cases moves'.symm.trans undoes
      refine ⟨rfl, ?_⟩
      rw [now, FormSet.set_set, FormSet.set_same found]
  | stayed found' there' stays =>
      cases found'.symm.trans foundMoved
      cases stays.symm.trans undoes
  | failed failure cause =>
      have absent := cause working moved foundMoved
      rw [thereMoved] at absent
      cases absent

end MoveEnds

end

/-! ## Runs one after the other -/

variable {σ : Type} {settings : Settings} {world : World σ} {root : Directory} {place : Place}

namespace Surroundings

theorem commitsForms (client : Http.Client) (transport : Http.Transport σ) :
    CommitsForms (handle client transport) stored Works where
  get _ := ⟨rfl, rfl⟩
  set text here := by
    by_cases works : here.Works
    · obtain ⟨accepted, working, now⟩ := DirectoryStore.set_workable works text
      exact .inl ⟨accepted, now, working⟩
    · have commits :=
        DirectoryStore.setWith_commits {} StorageKey.formConfigurations text here.directory
      cases reply : (DirectoryStore.set StorageKey.formConfigurations text here.directory).1 with
      | ok _ => exact absurd (DirectoryStore.workable_of_set reply) works
      | error e => exact .inr ⟨works, e, reply, commits.failed e reply⟩
  remove here := by
    have commits :=
      DirectoryStore.removeWith_commits false StorageKey.formConfigurations here.directory
    cases reply : (DirectoryStore.remove StorageKey.formConfigurations here.directory).1 with
    | ok _ => exact .inl ⟨reply, commits.done reply⟩
    | error e => exact .inr ⟨e, reply, commits.failed e reply⟩
  log _ _ := ⟨rfl, id⟩

theorem room_run {α : Type} (client : Http.Client) (transport : Http.Transport σ)
    (program : Program α) (here : Surroundings σ) :
    (program.run (handle client transport) here).2.directory.room = here.directory.room := by
  induction program generalizing here with
  | done answer => rfl
  | perform operation next ih =>
      refine (ih _ (handle client transport operation here).2).trans ?_
      cases operation with
      | set key value => exact DirectoryStore.room_set key value here.directory
      | remove key => exact DirectoryStore.room_remove key here.directory
      | _ => rfl

end Surroundings

/-- The next run finds the storage directory as a run left it. -/
theorem runProgram_leaves
    (opened : world.root.openAt world.here settings.storageDir = (.ok place, root))
    (filter : Log.Filter) (transport : Http.Transport σ) (program : Program Report) :
    let ended := program.run (Surroundings.handle ⟨settings.baseUrl⟩ transport)
      (world.surroundings root place settings.storageDir)
    let run := runProgram settings filter transport program world
    run.report = ended.1 ∧
      run.world.root.openAt run.world.here settings.storageDir = (.ok place, run.world.root) ∧
      (run.world.surroundings run.world.root place settings.storageDir).directory =
        ended.2.directory := by
  intro ended run
  obtain ⟨report, after⟩ := runProgram_opened opened filter transport program
  have inside := Surroundings.sameInside_run ⟨settings.baseUrl⟩ transport program
    (world.surroundings root place settings.storageDir)
  have room := Surroundings.room_run ⟨settings.baseUrl⟩ transport program
    (world.surroundings root place settings.storageDir)
  obtain ⟨again, entries⟩ := opened_putAt opened inside
  change run.world = _ at after
  rw [after]
  refine ⟨report, again, ?_⟩
  exact (congrArg₂ Directory.mk entries room.symm :)

def worldAfterRuns (settings : Settings) (filter : Log.Filter) (transport : Http.Transport σ) :
    List FormsCommand → World σ → World σ
  | [], world => world
  | command :: commands, world =>
    worldAfterRuns settings filter transport commands
      (runProgram settings filter transport command.program world).world

def loadedForms (settings : Settings) (transport : Http.Transport σ) (world : World σ) : FormSet :=
  match world.root.openAt world.here settings.storageDir with
  | (.error _, _) => .shipped
  | (.ok place, root) =>
    ((WorkingCopy.load .shipped FormField.catalog).run
      (Surroundings.handle ⟨settings.baseUrl⟩ transport)
      (world.surroundings root place settings.storageDir)).1.forms

theorem loadedForms_eq
    (opened : world.root.openAt world.here settings.storageDir = (.ok place, root))
    (transport : Http.Transport σ) :
    loadedForms settings transport world =
      (workingCopy (world.surroundings root place settings.storageDir).stored).forms := by
  have store := Surroundings.commitsForms ⟨settings.baseUrl⟩ transport
  have loads := (store.load_ends (world.surroundings root place settings.storageDir)).outcome
  rw [loadedForms, opened]
  exact congrArg WorkingCopy.forms loads.1

/-- A move as a run of its own, from what is loaded of its world to what is stored after it. -/
theorem runProgram_move
    (opened : world.root.openAt world.here settings.storageDir = (.ok place, root))
    (filter : Log.Filter) (transport : Http.Transport σ) (type : RequestType) (id : String)
    (direction : MoveDirection) :
    let run := runProgram settings filter transport
      (FormsCommand.move type id direction).program world
    run.world.root.openAt run.world.here settings.storageDir = (.ok place, run.world.root) ∧
      MoveEnds Surroundings.stored Surroundings.Works (loadedForms settings transport world) type
        id direction (world.surroundings root place settings.storageDir) run.report
        (run.world.surroundings run.world.root place settings.storageDir) := by
  intro run
  have store := Surroundings.commitsForms ⟨settings.baseUrl⟩ transport
  have ends := (store.move_ends type id direction
    (world.surroundings root place settings.storageDir)).outcome
  obtain ⟨report, again, left⟩ :=
    runProgram_leaves opened filter transport (FormsCommand.move type id direction).program
  refine ⟨again, ?_⟩
  rw [loadedForms_eq opened, report]
  refine ends.congr ?_ fun working => ?_
  · exact congrArg (DirectoryStore.get StorageKey.formConfigurations) left
  · unfold Surroundings.Works
    rw [left]
    exact working

theorem worldAfterRuns_tidy
    (opened : world.root.openAt world.here settings.storageDir = (.ok place, root))
    (tidy : Tidy Surroundings.stored (world.surroundings root place settings.storageDir))
    (filter : Log.Filter) (transport : Http.Transport σ) {commands : List FormsCommand}
    (typed : ∀ command ∈ commands, command.CanBeTyped) :
    let after := worldAfterRuns settings filter transport commands world
    ∃ root', after.root.openAt after.here settings.storageDir = (.ok place, root') ∧
      Tidy Surroundings.stored (after.surroundings root' place settings.storageDir) := by
  induction commands generalizing world root with
  | nil => exact ⟨root, opened, tidy⟩
  | cons command commands ih =>
      have store := Surroundings.commitsForms ⟨settings.baseUrl⟩ transport
      have kept := (store.program_tidy tidy (typed command List.mem_cons_self)).outcome
      obtain ⟨-, again, left⟩ := runProgram_leaves opened filter transport command.program
      refine ih again ?_ fun command mem => typed command (List.mem_cons_of_mem _ mem)
      unfold Tidy Surroundings.stored at kept ⊢
      rw [left]
      exact kept

/--
Starting from a storage directory without stored forms, whatever commands are typed and run: no two
fields of a form share their id or their order value. A move is reported as being at the end only of
a field that is at this end of the display, and a move that was carried out is undone, field by
field, by the move back.
-/
theorem order_values_stay_apart
    (opened : world.root.openAt world.here settings.storageDir = (.ok place, root))
    (fresh : DirectoryStore.get StorageKey.formConfigurations
      (world.surroundings root place settings.storageDir).directory = .ok none)
    (filter : Log.Filter) (transport : Http.Transport σ) {commands : List FormsCommand}
    (typed : ∀ command ∈ commands, command.CanBeTyped) :
    let after := worldAfterRuns settings filter transport commands world
    let forms := loadedForms settings transport after
    (∀ type form, forms.form? type = some form →
      (form.fields.map (·.id)).Nodup ∧ (form.fields.map (·.order)).Nodup) ∧
    ∀ (type : RequestType) (id : String) (direction : MoveDirection),
      let moved := runProgram settings filter transport
        (FormsCommand.move type id direction).program after
      let back := runProgram settings filter transport
        (FormsCommand.move type id direction.opposite).program moved.world
      (moved.report =
          .ofLines [id ++ " is already at the " ++ endName direction ++ " end"] →
        ∃ form field, forms.form? type = some form ∧
          direction.outermost? form.displayed = some field ∧ field.id = id) ∧
      (moved.report = .ofLines ["Saved"] →
        back.report = .ofLines ["Saved"] ∧
          loadedForms settings transport back.world = forms) := by
  intro after forms
  have start : Tidy Surroundings.stored (world.surroundings root place settings.storageDir) := by
    unfold Tidy Surroundings.stored
    rw [fresh]
    exact FormSet.shipped_keyed
  obtain ⟨root', opened', tidy⟩ := worldAfterRuns_tidy opened start filter transport typed
  have loaded : forms = _ := loadedForms_eq opened' transport
  have keyed : forms.Keyed := loaded ▸ tidy
  refine ⟨fun type form found => ⟨(keyed type form found).ids, (keyed type form found).orders⟩, ?_⟩
  intro type id direction moved back
  obtain ⟨openedMoved, ends⟩ := runProgram_move opened' filter transport type id direction
  refine ⟨ends.at_end keyed, fun told => ?_⟩
  obtain ⟨form, movedForm, found, there, moves, now, working⟩ := ends.of_saved told
  obtain ⟨openedBack, endsBack⟩ :=
    runProgram_move openedMoved filter transport type id direction.opposite
  rw [loadedForms_eq openedMoved transport, now] at endsBack
  obtain ⟨toldBack, nowBack⟩ := MoveEnds.back keyed found there moves working endsBack
  exact ⟨toldBack, (loadedForms_eq openedBack transport).trans nowBack⟩

/-- After commands of which nothing is left, the last field of a form is moved up and back, and the
first one is refused to be moved up. -/
theorem order_values_stay_apart_comments :
    let settings : Settings := {}
    let world : World Unit := ⟨{ entries := [(".grc", .directory [])] }, [], (), 0⟩
    let transport : Http.Transport Unit := fun _ network => (none, network)
    let commands : List FormsCommand :=
      [.remove .lockAccount "comments", .move .lockAccount "user_id" .up, .reset]
    let after := worldAfterRuns settings (.upTo .info) transport commands world
    let moved := runProgram settings (.upTo .info) transport
      (FormsCommand.move .lockAccount "comments" .up).program after
    let back := runProgram settings (.upTo .info) transport
      (FormsCommand.move .lockAccount "comments" MoveDirection.up.opposite).program moved.world
    world.root.openAt world.here settings.storageDir = (.ok [".grc"], world.root) ∧
      (∀ command ∈ commands, command.CanBeTyped) ∧
      (∃ form field, (loadedForms settings transport after).form? .lockAccount = some form ∧
        form.displayed.head? = some field ∧ field.id = "user_id") ∧
      back.report = .ofLines ["Saved"] ∧
      loadedForms settings transport back.world = loadedForms settings transport after := by
  intro settings world transport commands
  -- Written out, the runs are compared as they stand; what they store is never read back.
  dsimp only
  have opened : world.root.openAt world.here settings.storageDir = (.ok [".grc"], world.root) := by
    change world.root.openAt world.here ".grc" = _
    rfl
  have fresh : DirectoryStore.get StorageKey.formConfigurations
      (world.surroundings world.root [".grc"] settings.storageDir).directory = .ok none :=
    DirectoryStore.get_of_none DirectoryStore.isValid_formConfigurations (by decide)
  have typed : ∀ command ∈ commands, command.CanBeTyped := by
    intro command mem
    simp only [commands, List.mem_cons, List.not_mem_nil, or_false] at mem
    rcases mem with rfl | rfl | rfl
    · exact ⟨fun _ => none, ["forms", "remove", "lock-account", "comments"], settings,
        by decide +kernel⟩
    · exact ⟨fun _ => none, ["forms", "move", "lock-account", "user_id", "up"], settings,
        by decide +kernel⟩
    · exact ⟨fun _ => none, ["forms", "reset"], settings, by decide +kernel⟩
  obtain ⟨-, moves⟩ := order_values_stay_apart opened fresh (.upTo .info) transport typed
  have saved : (runProgram settings (.upTo .info) transport
      (FormsCommand.move .lockAccount "comments" .up).program
      (worldAfterRuns settings (.upTo .info) transport commands world)).report =
        .ofLines ["Saved"] := by
    decide +kernel
  have stays : (runProgram settings (.upTo .info) transport
      (FormsCommand.move .lockAccount "user_id" .up).program
      (worldAfterRuns settings (.upTo .info) transport commands world)).report =
        .ofLines ["user_id is already at the Up end"] := by
    decide +kernel
  exact ⟨opened, typed, (moves .lockAccount "user_id" .up).1 stays,
    (moves .lockAccount "comments" .up).2 saved⟩

end Console
end AccessPortal
