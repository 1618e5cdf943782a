import AccessPortal.Console.Run
import AccessPortal.Proofs.Forms.Reread
import AccessPortal.Proofs.Storage.Files

/-!
# Commands about the forms, each in a run of its own

A run opens the storage directory, loads the forms and carries out one command. Its report does not
tell whether the commands before it were carried out in runs of their own or in the same run, on one
working copy (`restarts_do_not_show`). The report is what the user sees, the exit code and the two
outputs; what is logged on the way (`Ended.log`) is not a part of it.
-/

namespace AccessPortal

/-- A directory in which forms can be stored: there may be any file, but no directory, where they
are kept and where they are written first. -/
structure Directory.Workable (dir : Directory) : Prop where
  fits : dir.canName (DirectoryStore.temporaryName StorageKey.formConfigurations) = true
  file : ∀ inner, dir.entries.find? StorageKey.formConfigurations ≠ some (.directory inner)
  temporary : ∀ inner, dir.entries.find?
    (DirectoryStore.temporaryName StorageKey.formConfigurations) ≠ some (.directory inner)

namespace DirectoryStore

variable {dir : Directory}

theorem isValid_formConfigurations : StorageKey.isValid StorageKey.formConfigurations := by
  decide

theorem noDirectory_of_entries {name : String}
    (noDirectory : ∀ inner, dir.entries.find? name ≠ some (.directory inner))
    (inner : List (String × DirectoryEntry)) : dir.find? name ≠ some (.directory inner) := by
  intro found
  rw [Directory.find?_eq_of_canName (Directory.canName_of_find? found)] at found
  exact noDirectory inner found

/-- What is read depends on the entries alone, as the name is not too long. -/
theorem get_eq_of_entries {dir' : Directory} (works : dir.Workable) (works' : dir'.Workable)
    (same : dir.entries = dir'.entries) :
    get StorageKey.formConfigurations dir = get StorageKey.formConfigurations dir' := by
  unfold get
  rw [Directory.find?_eq_of_canName (canName_of_temporaryName works.fits),
    Directory.find?_eq_of_canName (canName_of_temporaryName works'.fits), same]

theorem set_workable (works : dir.Workable) (text : String) :
    (set StorageKey.formConfigurations text dir).1 = .ok () ∧
      (set StorageKey.formConfigurations text dir).2.Workable ∧
      get StorageKey.formConfigurations (set StorageKey.formConfigurations text dir).2 =
        .ok (some text) := by
  have valid := isValid_formConfigurations
  have inside := sameInside_set {} StorageKey.formConfigurations text dir
  have written := set_ok valid works.fits (noDirectory_of_entries works.file)
    (noDirectory_of_entries works.temporary) text
  change Directory.SameInside (set StorageKey.formConfigurations text dir).2.entries _ at inside
  rw [written] at inside ⊢
  refine ⟨rfl, ⟨works.fits, ?_, ?_⟩, ?_⟩
  · exact fun inner directory => works.file inner ((inside _ inner).mp directory)
  · exact fun inner directory => works.temporary inner ((inside _ inner).mp directory)
  · exact get_of_file valid (Directory.find?_put _ (canName_of_temporaryName works.fits))

/-- Where the forms could be written, they can be stored. -/
theorem workable_of_set {text : String}
    (written : (set StorageKey.formConfigurations text dir).1 = .ok ()) : dir.Workable := by
  unfold set setWith at written
  rw [check_of_valid isValid_formConfigurations] at written
  dsimp only at written
  split at written
  · cases written
  rename_i beside
  split at written
  · cases written
  rename_i renamed
  obtain ⟨fits, rfl⟩ := writeFile_ok beside
  have different :
      StorageKey.formConfigurations ≠ temporaryName StorageKey.formConfigurations := by
    decide
  refine ⟨fits, fun inner found => ?_, fun inner found => ?_⟩
  · refine Directory.noDirectory_of_rename renamed inner ?_
    rw [Directory.find?_put_of_ne different,
      Directory.find?_eq_of_canName (canName_of_temporaryName fits)]
    exact found
  · refine Directory.noDirectory_of_writeFile beside inner ?_
    rw [Directory.find?_eq_of_canName fits]
    exact found

theorem remove_workable (works : dir.Workable) :
    (remove StorageKey.formConfigurations dir).1 = .ok () ∧
      (remove StorageKey.formConfigurations dir).2.Workable ∧
      get StorageKey.formConfigurations (remove StorageKey.formConfigurations dir).2 =
        .ok none := by
  have valid := isValid_formConfigurations
  have canName := canName_of_temporaryName works.fits
  have inside := sameInside_remove false StorageKey.formConfigurations dir
  have removed := remove_ok valid canName (noDirectory_of_entries works.file)
  change Directory.SameInside (remove StorageKey.formConfigurations dir).2.entries _ at inside
  rw [removed] at inside ⊢
  refine ⟨rfl, ⟨works.fits, ?_, ?_⟩, ?_⟩
  · exact fun inner directory => works.file inner ((inside _ inner).mp directory)
  · exact fun inner directory => works.temporary inner ((inside _ inner).mp directory)
  · exact get_of_none valid (Directory.find?_erase_self _ dir)

end DirectoryStore

namespace Console

open WorkingCopy

variable {σ : Type}

def Surroundings.stored (here : Surroundings σ) : Except StorageError (Option String) :=
  DirectoryStore.get StorageKey.formConfigurations here.directory

def Surroundings.Works (here : Surroundings σ) : Prop :=
  here.directory.Workable

namespace Surroundings

theorem storesForms (client : Http.Client) (transport : Http.Transport σ) :
    StoresForms (handle client transport) stored Works where
  get _ works := ⟨rfl, works, rfl⟩
  set text _ works := DirectoryStore.set_workable works text
  remove _ works := DirectoryStore.remove_workable works
  log _ _ works := ⟨works, rfl⟩

/-- Loading gives the working copy of what is stored. -/
theorem run_load (client : Http.Client) (transport : Http.Transport σ) {here : Surroundings σ}
    {found : Except StorageError (Option String)} (works : here.Works)
    (same : here.stored = found) :
    let loaded := (WorkingCopy.load .shipped FormField.catalog).run (handle client transport) here
    loaded.1 = ofStored .shipped FormField.catalog found ∧ loaded.2.Works ∧
      loaded.2.stored = found :=
  (load_ofStored (storesForms client transport) ⟨works, same⟩).outcome

/-- No program makes, changes or removes a directory in the storage directory. -/
theorem sameInside_run {α : Type} (client : Http.Client) (transport : Http.Transport σ)
    (program : Program α) (here : Surroundings σ) :
    Directory.SameInside (program.run (handle client transport) here).2.directory.entries
      here.directory.entries := by
  induction program generalizing here with
  | done answer => exact Directory.sameInside_refl _
  | perform operation next ih =>
      refine (ih _ (handle client transport operation here).2).trans ?_
      cases operation with
      | set key value => exact DirectoryStore.sameInside_set {} key value here.directory
      | remove key => exact DirectoryStore.sameInside_remove false key here.directory
      | _ => exact Directory.sameInside_refl _

end Surroundings

/-! ## Runs one after the other -/

def World.surroundings (world : World σ) (root : Directory) (place : Place) (path : String) :
    Surroundings σ where
  directory := { root.directoryAt place with room := Path.room path }
  network := world.network
  now := world.now

/-- The reports on commands, each carried out in a run of its own. -/
def reportsOfRuns (settings : Settings) (filter : Log.Filter) (transport : Http.Transport σ) :
    List FormsCommand → World σ → List Report
  | [], _ => []
  | command :: commands, world =>
    let ended := runProgram settings filter transport command.program world
    ended.report :: reportsOfRuns settings filter transport commands ended.world

def performAll : List FormsCommand → WorkingCopy → Program (List Report)
  | [], _ => return []
  | command :: commands, copy => do
    let (outcome, copy) ← command.perform copy
    return .ofOutcome outcome :: (← performAll commands copy)

def programOfAll (commands : List FormsCommand) : Program (List Report) := do
  performAll commands (← WorkingCopy.load .shipped FormField.catalog)

section

variable (handler : Handler σ) (command : FormsCommand)

theorem run_program (state : σ) :
    let loaded := (WorkingCopy.load .shipped FormField.catalog).run handler state
    let ended := (command.perform loaded.1).run handler loaded.2
    command.program.run handler state = (.ofOutcome ended.1.1, ended.2) := by
  intro loaded ended
  rw [FormsCommand.program, Program.run_bind, Program.run_bind]
  rfl

theorem run_performAll_cons (commands : List FormsCommand) (copy : WorkingCopy) (state : σ) :
    let ended := (command.perform copy).run handler state
    ((performAll (command :: commands) copy).run handler state).1 =
      .ofOutcome ended.1.1 :: ((performAll commands ended.1.2).run handler ended.2).1 := by
  intro ended
  rw [performAll, Program.run_bind]
  exact congrArg Prod.fst (Program.run_bind handler _ _ _)

end

variable {settings : Settings} {world : World σ} {root : Directory} {place : Place}

theorem runProgram_opened
    (opened : world.root.openAt world.here settings.storageDir = (.ok place, root))
    (filter : Log.Filter) (transport : Http.Transport σ) (program : Program Report) :
    let ended := program.run (Surroundings.handle ⟨settings.baseUrl⟩ transport)
      (world.surroundings root place settings.storageDir)
    (runProgram settings filter transport program world).report = ended.1 ∧
      (runProgram settings filter transport program world).world =
        { world with
          root := root.putAt (.directory ended.2.directory.entries) place
          network := ended.2.network } := by
  unfold runProgram
  rw [opened]
  exact ⟨rfl, rfl⟩

/-- The directory that one run leaves is the one that the next run opens. -/
theorem opened_putAt
    (opened : world.root.openAt world.here settings.storageDir = (.ok place, root))
    {entries : Table DirectoryEntry}
    (inside : Directory.SameInside entries (root.directoryAt place).entries) :
    let after := root.putAt (.directory entries) place
    after.openAt world.here settings.storageDir = (.ok place, after) ∧
      (after.directoryAt place).entries = entries := by
  intro after
  obtain ⟨old, there⟩ := Directory.at?_of_openAt opened
  have oldEntries : (root.directoryAt place).entries = old := by
    rw [Directory.directoryAt, there]
  rw [oldEntries] at inside
  have newEntries : (after.directoryAt place).entries = entries := by
    rw [Directory.directoryAt, Directory.at?_putAt entries there]
  exact ⟨Directory.openAt_again opened (Directory.hasDirectory_putAt there inside), newEntries⟩

/-- What one run finds in the storage directory, the next one does, if it leaves it like that. -/
theorem surroundings_putAt
    (opened : world.root.openAt world.here settings.storageDir = (.ok place, root))
    {directory : Directory} (works : directory.Workable)
    (fits : (world.surroundings root place settings.storageDir).Works)
    (inside : Directory.SameInside directory.entries (root.directoryAt place).entries) :
    let after := root.putAt (.directory directory.entries) place
    after.openAt world.here settings.storageDir = (.ok place, after) ∧
      ∀ later : World σ, (later.surroundings after place settings.storageDir).Works ∧
        (later.surroundings after place settings.storageDir).stored =
          DirectoryStore.get StorageKey.formConfigurations directory := by
  intro after
  obtain ⟨again, newEntries⟩ := opened_putAt opened inside
  refine ⟨again, fun later => ?_⟩
  have entries : (later.surroundings after place settings.storageDir).directory.entries =
      directory.entries :=
    newEntries
  have workable : (later.surroundings after place settings.storageDir).directory.Workable := by
    refine ⟨fits.fits, ?_, ?_⟩
    · rw [entries]
      exact works.file
    · rw [entries]
      exact works.temporary
  exact ⟨workable, DirectoryStore.get_eq_of_entries workable works entries⟩

/-- A run of its own reports what the command does on the working copy that is current, and leaves
a storage directory of which the same is read. -/
theorem run_alike
    (opened : world.root.openAt world.here settings.storageDir = (.ok place, root))
    (works : (world.surroundings root place settings.storageDir).Works)
    (distinct : FormSet.shipped.Distinct) (filter : Log.Filter) (transport : Http.Transport σ)
    {copy : WorkingCopy} {here : Surroundings σ}
    (current : Current Surroundings.stored Surroundings.Works .shipped FormField.catalog copy here)
    (same : (world.surroundings root place settings.storageDir).stored = here.stored)
    (command : FormsCommand) :
    let ended := (command.perform copy).run (Surroundings.handle ⟨settings.baseUrl⟩ transport) here
    let run := runProgram settings filter transport command.program world
    run.report = .ofOutcome ended.1.1 ∧
      Current Surroundings.stored Surroundings.Works .shipped FormField.catalog ended.1.2 ended.2 ∧
      run.world.root.openAt run.world.here settings.storageDir = (.ok place, run.world.root) ∧
      (run.world.surroundings run.world.root place settings.storageDir).Works ∧
      (run.world.surroundings run.world.root place settings.storageDir).stored =
        ended.2.stored := by
  intro ended run
  have store := Surroundings.storesForms ⟨settings.baseUrl⟩ transport
  obtain ⟨loaded, working, still⟩ := Surroundings.run_load ⟨settings.baseUrl⟩ transport works same
  rw [← current.2] at loaded
  obtain ⟨answers, working, -, stored⟩ :=
    FormsCommand.perform_alike store store copy command _ here ⟨working, current.1, still⟩
  have kept : Current Surroundings.stored Surroundings.Works .shipped FormField.catalog
      ended.1.2 ended.2 :=
    (FormsCommand.perform_current store distinct current command).outcome
  obtain ⟨report, after⟩ := runProgram_opened opened filter transport command.program
  have inside := Surroundings.sameInside_run ⟨settings.baseUrl⟩ transport command.program
    (world.surroundings root place settings.storageDir)
  rw [run_program, loaded] at report after inside
  obtain ⟨again, later⟩ := surroundings_putAt opened working works inside
  change run.world = _ at after
  rw [after]
  exact ⟨by rw [report, answers], kept, again, (later _).1, (later _).2.trans stored⟩

theorem reportsOfRuns_eq
    (opened : world.root.openAt world.here settings.storageDir = (.ok place, root))
    (works : (world.surroundings root place settings.storageDir).Works)
    (distinct : FormSet.shipped.Distinct) (filter : Log.Filter) (transport : Http.Transport σ)
    (commands : List FormsCommand)
    {copy : WorkingCopy} {here : Surroundings σ}
    (current : Current Surroundings.stored Surroundings.Works .shipped FormField.catalog copy here)
    (same : (world.surroundings root place settings.storageDir).stored = here.stored) :
    reportsOfRuns settings filter transport commands world =
      ((performAll commands copy).run (Surroundings.handle ⟨settings.baseUrl⟩ transport)
        here).1 := by
  induction commands generalizing world root copy here with
  | nil => rfl
  | cons command commands ih =>
      obtain ⟨report, current, opened, works, same⟩ :=
        run_alike opened works distinct filter transport current same command
      rw [reportsOfRuns, run_performAll_cons, report, ih opened works current same]

theorem shipped_distinct : FormSet.shipped.Distinct := by
  intro type form shipped
  cases type <;> (cases shipped; decide)

/--
Over a storage directory in which forms can be stored, whatever is stored there at first, commands
in runs of their own are reported as they are in one run that loads the forms once, goes on with
one working copy and saves it after each change. Reports consist of the exit code, the printed lines
and the errors; the lines of the log are left out.
-/
theorem restarts_do_not_show
    (opened : world.root.openAt world.here settings.storageDir = (.ok place, root))
    (works : (world.surroundings root place settings.storageDir).directory.Workable)
    (filter : Log.Filter) (transport : Http.Transport σ) (commands : List FormsCommand) :
    reportsOfRuns settings filter transport commands world =
      ((programOfAll commands).run (Surroundings.handle ⟨settings.baseUrl⟩ transport)
        (world.surroundings root place settings.storageDir)).1 := by
  obtain ⟨loaded, working, still⟩ := Surroundings.run_load ⟨settings.baseUrl⟩ transport works rfl
  rw [← still] at loaded
  rw [programOfAll, Program.run_bind]
  exact reportsOfRuns_eq opened works shipped_distinct filter transport commands
    ⟨working, loaded⟩ still.symm

/-- The stored forms are no text at first, and there is a temporary file left. -/
theorem restarts_do_not_show_corrupt :
    let settings : Settings := {}
    let kept : List (String × DirectoryEntry) :=
      [("form_configurations", .file ⟨#[0xFF]⟩), ("form_configurations.tmp", .file ⟨#[]⟩)]
    let world : World Unit := ⟨{ entries := [(".grc", .directory kept)] }, [], (), 0⟩
    let transport : Http.Transport Unit := fun _ network => (none, network)
    let commands : List FormsCommand :=
      [.remove .newAccount "budget", .move .lockAccount "comments" .down, .reset,
        .add .newAccount "cost_center", .move .newAccount "cost_center" .up,
        .print .newAccount true, .remove .newAccount "email", .catalog .newAccount]
    world.root.openAt world.here settings.storageDir = (.ok [".grc"], world.root) ∧
      (world.surroundings world.root [".grc"] settings.storageDir).directory.Workable ∧
      reportsOfRuns settings (.upTo .info) transport commands world =
        ((programOfAll commands).run (Surroundings.handle ⟨settings.baseUrl⟩ transport)
          (world.surroundings world.root [".grc"] settings.storageDir)).1 ∧
      (reportsOfRuns settings (.upTo .info) transport commands world).take 4 =
        [{ exitCode := 1, errors := "Error: Field 'budget' not found on new-account\n" },
          .ofLines ["comments is already at the Down end"], .ofLines ["Form configuration reset"],
          .ofLines ["Saved"]] := by
  intro settings kept world transport commands
  have opened : world.root.openAt world.here settings.storageDir = (.ok [".grc"], world.root) := by
    change world.root.openAt world.here ".grc" = _
    rfl
  have works : (world.surroundings world.root [".grc"] settings.storageDir).directory.Workable :=
    ⟨by decide, fun _ => nofun, fun _ => nofun⟩
  exact ⟨opened, works, restarts_do_not_show opened works (.upTo .info) transport commands,
    by decide +kernel⟩

end Console
end AccessPortal
