import AccessPortal.Proofs.Storage.Files

/-!
# The value that was committed last

Whatever the operating system does to a store in a directory, a key has the value that was last set
or removed with success (`reads_last_committed`). A value is committed by the renaming of its
temporary file, so whatever fails before that shows under no key; and a temporary file that is left
behind is overwritten the next time.
-/

namespace AccessPortal

/-! ## Operations on files -/

namespace Directory

theorem canName_erase (name other : String) (dir : Directory) :
    (dir.erase name).canName other = dir.canName other :=
  rfl

theorem find?_erase_of_ne {name other : String} (different : other ≠ name) (dir : Directory) :
    (dir.erase name).find? other = dir.find? other := by
  unfold find?
  rw [canName_erase]
  simp only [erase, Table.find?_erase_of_ne different]

theorem find?_writeFile_of_ne {name other : String} (different : other ≠ name) (bytes : ByteArray)
    (fault : Option WriteFault) (dir : Directory) :
    (dir.writeFile name bytes fault).2.find? other = dir.find? other := by
  unfold writeFile
  split
  · rfl
  · rfl
  · split
    · exact find?_put_of_ne different _ dir
    · rfl
    · exact find?_put_of_ne different _ dir

theorem rename_error {old new : String} {fault : Bool} {dir after : Directory} {e : SystemFault}
    (failed : dir.rename old new fault = (.error e, after)) : after = dir := by
  unfold rename at failed
  split at failed
  all_goals cases failed
  all_goals rfl

theorem rename_ok {old new : String} {fault : Bool} {dir after : Directory}
    (renamed : dir.rename old new fault = (.ok (), after)) :
    ∃ bytes, dir.find? old = some (.file bytes) ∧
      after = (dir.erase old).put new (.file bytes) := by
  unfold rename at renamed
  split at renamed
  · cases renamed
  · cases renamed
  · rename_i bytes found _
    cases renamed
    exact ⟨bytes, found, rfl⟩
  · cases renamed

theorem removeFile_error {name : String} {fault : Bool} {dir after : Directory} {e : SystemFault}
    (failed : dir.removeFile name fault = (.error e, after)) : after = dir := by
  unfold removeFile at failed
  split at failed
  all_goals cases failed
  all_goals rfl

theorem removeFile_ok {name : String} {fault : Bool} {dir after : Directory}
    (removed : dir.removeFile name fault = (.ok (), after)) : after = dir.erase name := by
  unfold removeFile at removed
  split at removed
  all_goals cases removed
  rfl

end Directory

namespace DirectoryStore

theorem check_ok {key : String} (checked : StorageKey.check key = .ok ()) :
    StorageKey.isValid key := by
  by_contra invalid
  rw [check_of_not_valid invalid] at checked
  cases checked

theorem valid_ne_temporaryName (key : String) {other : String} (valid : StorageKey.isValid other) :
    other ≠ temporaryName key := by
  intro same
  rw [same, isValid_temporaryName] at valid
  cases valid

/-- What is read under a key depends on the file of that name only. -/
theorem get_congr {key : String} {first second : Directory}
    (same : StorageKey.isValid key → first.find? key = second.find? key) :
    get key first = get key second := by
  by_cases valid : StorageKey.isValid key = true
  · rw [get, get, same valid]
  · rw [get, get, check_of_not_valid valid]
    rfl

/-! ## One operation -/

/-- An operation that is to give a key a value either does so, or nothing is read otherwise than
before. What is read under other keys does not change in any case. -/
structure Commits (key : String) (value : Option String) (before : Directory)
    (result : Except StorageError Unit × Directory) : Prop where
  done : result.1 = .ok () → get key result.2 = .ok value
  failed : ∀ e, result.1 = .error e → get key result.2 = get key before
  others : ∀ other, other ≠ key → get other result.2 = get other before

theorem commits_nothing (key : String) (value : Option String) (e : StorageError)
    {before after : Directory}
    (same : ∀ other, StorageKey.isValid other → after.find? other = before.find? other) :
    Commits key value before (.error e, after) where
  done := nofun
  failed _ _ := get_congr (same key)
  others other _ := get_congr (same other)

theorem setWith_commits (faults : SetFaults) (key value : String) (dir : Directory) :
    Commits key (some value) dir (setWith faults key value dir) := by
  unfold setWith
  split
  · exact commits_nothing key _ _ fun _ _ => rfl
  rename_i checked
  have valid := check_ok checked
  have aside (other : String) (isValid : StorageKey.isValid other) :=
    dir.find?_writeFile_of_ne (valid_ne_temporaryName key isValid) value.toUTF8 faults.write
  split
  · rename_i after written
    rw [written] at aside
    exact commits_nothing key _ _ aside
  rename_i beside written
  rw [written] at aside
  obtain ⟨canName, rfl⟩ := writeFile_ok written
  split
  · rename_i renamed
    rw [Directory.rename_error renamed]
    exact commits_nothing key _ _ aside
  · rename_i renamed
    obtain ⟨bytes, found, rfl⟩ := Directory.rename_ok renamed
    rw [Directory.find?_put _ canName] at found
    cases found
    refine ⟨fun _ => ?_, nofun, fun other different => get_congr fun isValid => ?_⟩
    · exact get_of_file valid (Directory.find?_put _ (canName_of_temporaryName canName))
    · rw [Directory.find?_put_of_ne different,
        Directory.find?_erase_of_ne (valid_ne_temporaryName key isValid)]
      exact aside other isValid

theorem removeWith_commits (fault : Bool) (key : String) (dir : Directory) :
    Commits key none dir (removeWith fault key dir) := by
  unfold removeWith
  split
  · exact commits_nothing key _ _ fun _ _ => rfl
  rename_i checked
  have valid := check_ok checked
  split
  · rename_i absent
    exact ⟨fun _ => get_of_none valid absent, nofun, fun _ _ => rfl⟩
  split
  · rename_i removed
    rw [Directory.removeFile_error removed]
    exact commits_nothing key _ _ fun _ _ => rfl
  · rename_i removed
    rw [Directory.removeFile_ok removed]
    refine ⟨fun _ => ?_, nofun, fun other different => get_congr fun _ => ?_⟩
    · exact get_of_none valid (Directory.find?_erase_self key dir)
    · exact Directory.find?_erase_of_ne different dir

/-! ## Runs -/

/-- An operation on the store, with where the operating system lets it down. -/
inductive Step where
  | get (key : String)
  | set (faults : SetFaults) (key value : String)
  | remove (fault : Bool) (key : String)

namespace Step

/-- The key and the value that it is to have; reading gives no value to any key. -/
def change? : Step → Option (String × Option String)
  | get _ => none
  | set _ key value => some (key, some value)
  | remove _ key => some (key, none)

def run (dir : Directory) : Step → Except StorageError Unit × Directory
  | get key => ((DirectoryStore.get key dir).map fun _ => (), dir)
  | set faults key value => setWith faults key value dir
  | remove fault key => removeWith fault key dir

end Step

def after : List Step → Directory → Directory
  | [], dir => dir
  | step :: steps, dir => after steps (step.run dir).2

def committed : List Step → Directory → List (String × Option String)
  | [], _ => []
  | step :: steps, dir =>
    let ended := step.run dir
    (if ended.1.isOk then step.change?.toList else []) ++ committed steps ended.2

/-- The value that a key was given last, if it was given any: `some none` where it was removed. -/
def last? (key : String) (changes : List (String × Option String)) : Option (Option String) :=
  (changes.reverse.find? (·.1 == key)).map (·.2)

theorem last?_append (key : String) (earlier later : List (String × Option String)) :
    last? key (earlier ++ later) = (last? key later).or (last? key earlier) := by
  simp only [last?, List.reverse_append, List.find?_append, Option.map_or]

theorem last?_singleton (key : String) (change : String × Option String) :
    last? key [change] = if change.1 = key then some change.2 else none := by
  by_cases same : change.1 = key
  · simp [last?, same]
  · simp [last?, same]

theorem Commits.reads {key : String} {value : Option String} {dir : Directory}
    {result : Except StorageError Unit × Directory} (commits : Commits key value dir result)
    (other : String) :
    get other result.2 =
      (last? other (if result.1.isOk then [(key, value)] else [])).elim (get other dir) .ok := by
  obtain ⟨reply, after⟩ := result
  by_cases same : key = other
  · subst same
    cases reply with
    | ok _ => simpa [Except.isOk, Except.toBool, last?_singleton] using commits.done rfl
    | error e => exact commits.failed e rfl
  · have unchanged := commits.others other (Ne.symm same)
    cases reply with
    | ok _ => simpa [Except.isOk, Except.toBool, last?_singleton, same] using unchanged
    | error e => exact unchanged

theorem reads_step (step : Step) (dir : Directory) (key : String) :
    get key (step.run dir).2 =
      (last? key (if (step.run dir).1.isOk then step.change?.toList else [])).elim (get key dir)
        .ok := by
  cases step with
  | get other =>
      rw [Step.change?, Option.toList_none, ite_self]
      rfl
  | set faults other value => exact (setWith_commits faults other value dir).reads key
  | remove fault other => exact (removeWith_commits fault other dir).reads key

theorem reads_after (steps : List Step) (dir : Directory) (key : String) :
    get key (after steps dir) = (last? key (committed steps dir)).elim (get key dir) .ok := by
  induction steps generalizing dir with
  | nil => rfl
  | cons step steps ih =>
      rw [after, ih, committed, last?_append, reads_step step dir key]
      cases last? key (committed steps (step.run dir).2) with
      | some value => rfl
      | none => rw [Option.none_or, Option.elim_none]

/--
Whatever is in the directory, and wherever the operating system lets the store down: each key has
the value that was committed to it last, or what was read before, and the next operation commits its
value or changes nothing that is read.
-/
theorem reads_last_committed (start : Directory) (steps : List Step) :
    let dir := after steps start
    (∀ key, get key dir = (last? key (committed steps start)).elim (get key start) .ok) ∧
    (∀ faults key value, Commits key (some value) dir (setWith faults key value dir)) ∧
    (∀ fault key, Commits key none dir (removeWith fault key dir)) := by
  intro dir
  exact ⟨reads_after steps start, fun faults key value => setWith_commits faults key value dir,
    fun fault key => removeWith_commits fault key dir⟩

/-- A write that is cut off and a renaming that fails leave a temporary file behind, a directory
stands where a value should go, and one removal fails. -/
theorem reads_last_committed_torn :
    let start : Directory :=
      { entries := [("token", .file "old".toUTF8), ("role", .directory []),
          ("profile.tmp", .file ⟨#[0xff]⟩)] }
    let steps : List Step :=
      [.set { write := some (.after 1) } "token" "new", .set {} "role" "auditor",
        .set {} "profile" "first", .set { rename := true } "profile" "second",
        .remove true "profile", .remove false "token"]
    committed steps start = [("profile", some "first"), ("token", none)] ∧
      (after steps start).entries.map (·.1) =
        ["role", "token.tmp", "role.tmp", "profile", "profile.tmp"] ∧
      get "token" (after steps start) = .ok none ∧
      get "role" (after steps start) = .error (.read "role" .isDirectory) ∧
      get "profile" (after steps start) = .ok (some "first") := by
  intro start steps
  obtain ⟨reads, -, -⟩ := reads_last_committed start steps
  have changes : committed steps start = [("profile", some "first"), ("token", none)] := by
    decide +kernel
  refine ⟨changes, by decide +kernel, ?_, ?_, ?_⟩
  · rw [reads, changes]
    rfl
  · rw [reads, changes]
    rfl
  · rw [reads, changes]
    rfl

end DirectoryStore
end AccessPortal
