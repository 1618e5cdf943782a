import AccessPortal.Proofs.Storage.Places
import AccessPortal.Storage.InDirectory

/-!
# What a store does to its directory

Whatever fails, a store in a directory neither makes nor changes nor removes a directory there
(`sameInside_set`, `sameInside_remove`). Where no directory stands in the way and the name of the
temporary file is not too long, what is set is read (`set_ok`, `get_of_file`), and what is removed
is gone (`remove_ok`, `get_of_none`).
-/

namespace AccessPortal

/-! ## Directories in the directory of a store stay as they are -/

namespace Directory

theorem sameInside_refl (entries : Table DirectoryEntry) : SameInside entries entries :=
  fun _ _ => Iff.rfl

theorem SameInside.trans {first second third : Table DirectoryEntry}
    (h : SameInside first second) (h' : SameInside second third) : SameInside first third :=
  fun name inner => (h name inner).trans (h' name inner)

theorem sameInside_put {name : String} {entries : Table DirectoryEntry}
    (noDirectory : ∀ inner, entries.find? name ≠ some (.directory inner)) (bytes : ByteArray) :
    SameInside (entries.put name (.file bytes)) entries := by
  intro other inner
  by_cases same : other = name
  · subst same
    simp [noDirectory inner]
  · rw [Table.find?_put_of_ne same]

theorem sameInside_erase {name : String} {entries : Table DirectoryEntry}
    (noDirectory : ∀ inner, entries.find? name ≠ some (.directory inner)) :
    SameInside (entries.erase name) entries := by
  intro other inner
  by_cases same : other = name
  · subst same
    simp [noDirectory inner]
  · rw [Table.find?_erase_of_ne same]

theorem find?_eq_of_canName {name : String} {dir : Directory} (h : dir.canName name = true) :
    dir.find? name = dir.entries.find? name :=
  if_pos h

theorem find?_erase_self (name : String) (dir : Directory) :
    (dir.erase name).find? name = none := by
  unfold find?
  split
  · exact Table.find?_erase_self name dir.entries
  · rfl

theorem sameInside_writeFile (name : String) (bytes : ByteArray) (fault : Option WriteFault)
    (dir : Directory) : SameInside (dir.writeFile name bytes fault).2.entries dir.entries := by
  unfold writeFile
  split
  · exact sameInside_refl _
  · exact sameInside_refl _
  · rename_i canName noDirectory
    rw [find?_eq_of_canName canName] at noDirectory
    split
    · exact sameInside_put noDirectory _
    · exact sameInside_refl _
    · exact sameInside_put noDirectory _

theorem sameInside_rename (old : String) {new : String} (fault : Bool) {dir : Directory}
    (canName : dir.canName new = true) :
    SameInside (dir.rename old new fault).2.entries dir.entries := by
  unfold rename
  split
  · exact sameInside_refl _
  · exact sameInside_refl _
  · -- A file moves from one name to another, so neither of the two was a directory.
    rename_i bytes found noDirectory
    rw [find?_eq_of_canName (canName_of_find? found)] at found
    rw [find?_eq_of_canName canName] at noDirectory
    have erased : SameInside (dir.entries.erase old) dir.entries :=
      sameInside_erase fun inner directory => nomatch found.symm.trans directory
    have free : ∀ inner, (dir.entries.erase old).find? new ≠ some (.directory inner) :=
      fun inner directory => noDirectory inner ((erased new inner).mp directory)
    exact (sameInside_put free bytes).trans erased
  · exact sameInside_refl _

theorem sameInside_removeFile (name : String) (fault : Bool) (dir : Directory) :
    SameInside (dir.removeFile name fault).2.entries dir.entries := by
  unfold removeFile
  split
  · exact sameInside_refl _
  · rename_i bytes found
    rw [find?_eq_of_canName (canName_of_find? found)] at found
    exact sameInside_erase fun inner directory => nomatch found.symm.trans directory
  · exact sameInside_refl _
  · exact sameInside_refl _

/-! ## How long names may be stays as it is -/

theorem room_writeFile (name : String) (bytes : ByteArray) (fault : Option WriteFault)
    (dir : Directory) : (dir.writeFile name bytes fault).2.room = dir.room := by
  unfold writeFile
  split
  · rfl
  · rfl
  · split <;> rfl

theorem room_rename (old new : String) (fault : Bool) (dir : Directory) :
    (dir.rename old new fault).2.room = dir.room := by
  unfold rename
  split <;> rfl

theorem room_removeFile (name : String) (fault : Bool) (dir : Directory) :
    (dir.removeFile name fault).2.room = dir.room := by
  unfold removeFile
  split <;> rfl

/-! ## Nothing is put in the place of a directory -/

theorem noDirectory_of_writeFile {name : String} {bytes : ByteArray} {fault : Option WriteFault}
    {dir after : Directory} (written : dir.writeFile name bytes fault = (.ok (), after))
    (inner : Table DirectoryEntry) : dir.find? name ≠ some (.directory inner) := by
  intro found
  unfold writeFile at written
  rw [canName_of_find? found, found] at written
  cases written

theorem noDirectory_of_rename {old new : String} {fault : Bool} {dir after : Directory}
    (renamed : dir.rename old new fault = (.ok (), after)) (inner : Table DirectoryEntry) :
    dir.find? new ≠ some (.directory inner) := by
  intro found
  unfold rename at renamed
  rw [found] at renamed
  split at renamed
  · cases renamed
  · cases renamed
  · rename_i noDirectory
    exact noDirectory inner rfl
  · cases renamed

end Directory

namespace DirectoryStore

open Directory

theorem room_set (key value : String) (dir : Directory) :
    (set key value dir).2.room = dir.room := by
  unfold set setWith
  split
  · rfl
  have first := dir.room_writeFile (temporaryName key) value.toUTF8 none
  split
  · rename_i written
    rw [written] at first
    exact first
  · rename_i after written
    rw [written] at first
    have second := after.room_rename (temporaryName key) key false
    split
    · rename_i renamed
      rw [renamed] at second
      exact second.trans first
    · rename_i renamed
      rw [renamed] at second
      exact second.trans first

theorem room_remove (key : String) (dir : Directory) : (remove key dir).2.room = dir.room := by
  unfold remove removeWith
  split
  · rfl
  split
  · rfl
  have removed := dir.room_removeFile key false
  split
  · rename_i after
    rw [after] at removed
    exact removed
  · rename_i after
    rw [after] at removed
    exact removed

theorem canName_of_temporaryName {key : String} {dir : Directory}
    (canName : dir.canName (temporaryName key) = true) : dir.canName key = true := by
  have longer : (temporaryName key).utf8ByteSize = key.utf8ByteSize + 4 := by
    rw [temporaryName, String.utf8ByteSize_append]
    rfl
  simp only [Directory.canName, decide_eq_true_eq] at canName ⊢
  omega

theorem writeFile_ok {name : String} {bytes : ByteArray} {fault : Option WriteFault}
    {dir after : Directory} (written : dir.writeFile name bytes fault = (.ok (), after)) :
    dir.canName name = true ∧ after = dir.put name (.file bytes) := by
  unfold writeFile at written
  split at written
  · cases written
  · cases written
  · rename_i canName _
    split at written
    · exact ⟨canName, (Prod.mk.inj written).2.symm⟩
    · cases written
    · cases written

theorem sameInside_set (faults : SetFaults) (key value : String) (dir : Directory) :
    SameInside (setWith faults key value dir).2.entries dir.entries := by
  unfold setWith
  split
  · exact sameInside_refl _
  have first := sameInside_writeFile (temporaryName key) value.toUTF8 faults.write dir
  split
  · rename_i written
    rw [written] at first
    exact first
  · rename_i after written
    rw [written] at first
    obtain ⟨canName, rfl⟩ := writeFile_ok written
    have second := sameInside_rename (temporaryName key) faults.rename
      (show (dir.put (temporaryName key) (.file value.toUTF8)).canName key = true from
        canName_of_temporaryName canName)
    split
    · rename_i renamed
      rw [renamed] at second
      exact second.trans first
    · rename_i renamed
      rw [renamed] at second
      exact second.trans first

theorem sameInside_remove (fault : Bool) (key : String) (dir : Directory) :
    SameInside (removeWith fault key dir).2.entries dir.entries := by
  unfold removeWith
  split
  · exact sameInside_refl _
  split
  · exact sameInside_refl _
  have removed := sameInside_removeFile key fault dir
  split
  · rename_i after
    rw [after] at removed
    exact removed
  · rename_i after
    rw [after] at removed
    exact removed

end DirectoryStore

/-! ## Where nothing stands in the way -/

namespace Table

variable {α : Type}

theorem erase_of_find?_none {name : String} {table : Table α} (absent : table.find? name = none) :
    table.erase name = table := by
  induction table with
  | nil => rfl
  | cons entry table ih =>
      obtain ⟨other, value⟩ := entry
      by_cases same : other = name
      · simp [find?, same] at absent
      · rw [find?, if_neg same] at absent
        rw [erase, if_neg same, ih absent]

end Table

theorem fromUTF8?_toUTF8 (text : String) : String.fromUTF8? text.toUTF8 = some text := by
  simp only [String.fromUTF8?, String.toUTF8_eq_toByteArray, dif_pos text.isValidUTF8]
  rfl

/-- A name with a dot in it is no key. -/
theorem isValid_temporaryName (key : String) :
    StorageKey.isValid (DirectoryStore.temporaryName key) = false := by
  have dot : ".tmp".toList.all StorageKey.isKeyCharacter = false := by decide
  rw [StorageKey.isValid, DirectoryStore.temporaryName, String.toList_append, List.all_append, dot,
    Bool.and_false, Bool.and_false]

namespace DirectoryStore

variable {dir : Directory} {key : String}

theorem check_of_not_valid (invalid : ¬ StorageKey.isValid key) :
    StorageKey.check key = .error (.invalidKey key) :=
  if_neg invalid

theorem check_of_valid (valid : StorageKey.isValid key) : StorageKey.check key = .ok () :=
  if_pos valid

/-- Nothing keeps a value from being written unless a directory has one of the two names. -/
theorem set_ok (valid : StorageKey.isValid key) (fits : dir.canName (temporaryName key) = true)
    (noDirectory : ∀ inner, dir.find? key ≠ some (.directory inner))
    (noDirectory' : ∀ inner, dir.find? (temporaryName key) ≠ some (.directory inner))
    (value : String) :
    set key value dir = (.ok (), ((dir.put (temporaryName key) (.file value.toUTF8)).erase
      (temporaryName key)).put key (.file value.toUTF8)) := by
  have written : dir.writeFile (temporaryName key) value.toUTF8 none =
      (.ok (), dir.put (temporaryName key) (.file value.toUTF8)) := by
    unfold Directory.writeFile
    rw [fits]
    split
    · rename_i h
      cases h
    · rename_i directory
      exact absurd directory (noDirectory' _)
    · rfl
  have different : key ≠ temporaryName key := by
    intro same
    rw [same, isValid_temporaryName] at valid
    cases valid
  have renamed : (dir.put (temporaryName key) (.file value.toUTF8)).rename (temporaryName key) key
      false = (.ok (), ((dir.put (temporaryName key) (.file value.toUTF8)).erase
        (temporaryName key)).put key (.file value.toUTF8)) := by
    unfold Directory.rename
    rw [Directory.find?_put _ fits, Directory.find?_put_of_ne different]
    cases found : dir.find? key with
    | none => rfl
    | some entry =>
        cases entry with
        | file bytes => rfl
        | directory inner => exact absurd found (noDirectory inner)
  rw [set, setWith, check_of_valid valid]
  simp only [written, renamed]

theorem remove_ok (valid : StorageKey.isValid key) (canName : dir.canName key = true)
    (noDirectory : ∀ inner, dir.find? key ≠ some (.directory inner)) :
    remove key dir = (.ok (), dir.erase key) := by
  rw [remove, removeWith, check_of_valid valid]
  cases found : dir.find? key with
  | none =>
      have absent := found
      rw [Directory.find?_eq_of_canName canName] at absent
      simp only [Directory.erase, Table.erase_of_find?_none absent]
  | some entry =>
      cases entry with
      | file bytes => simp only [Directory.removeFile, found]
      | directory inner => exact absurd found (noDirectory inner)

theorem get_of_file (valid : StorageKey.isValid key) {value : String}
    (found : dir.find? key = some (.file value.toUTF8)) : get key dir = .ok (some value) := by
  rw [get, check_of_valid valid, found]
  simp only [fromUTF8?_toUTF8]
  rfl

theorem get_of_none (valid : StorageKey.isValid key) (found : dir.find? key = none) :
    get key dir = .ok none := by
  rw [get, check_of_valid valid, found]
  rfl

end DirectoryStore
end AccessPortal
