import AccessPortal.Proofs.Storage.Committed
import AccessPortal.Storage.Choice

/-!
# What an operation on a key depends on

How an operation on a key goes, and what it leaves there, depends on nothing but what the store
keeps for that key (`Storage.setWith_agrees`, `Storage.removeWith_agrees`), and what the store keeps
for another stays the same (`Storage.setWith_beside`, `Storage.removeWith_beside`). In a directory,
that is the file of the key and the temporary file beside it.
-/

namespace AccessPortal

/-! ## Directories that agree on names -/

namespace Directory

/-- The directories leave the same room, and each of the names stands for the same in both. -/
structure AgreeOn (names : List String) (first second : Directory) : Prop where
  room : first.room = second.room
  find? : ∀ name ∈ names, first.find? name = second.find? name

namespace AgreeOn

variable {names : List String} {first second : Directory} {name : String}

theorem canName (agree : AgreeOn names first second) (name : String) :
    first.canName name = second.canName name := by
  unfold Directory.canName
  rw [agree.room]

theorem put (agree : AgreeOn names first second) (name : String) (entry : DirectoryEntry) :
    AgreeOn names (first.put name entry) (second.put name entry) where
  room := agree.room
  find? other mem := by
    by_cases same : other = name
    · subst same
      cases named : second.canName other with
      | true =>
          rw [find?_put entry named, find?_put entry ((agree.canName other).trans named)]
      | false =>
          have unnamed := (agree.canName other).trans named
          simp [Directory.find?, canName_put, named, unnamed]
    · rw [find?_put_of_ne same, find?_put_of_ne same, agree.find? other mem]

theorem erase (agree : AgreeOn names first second) (name : String) :
    AgreeOn names (first.erase name) (second.erase name) where
  room := agree.room
  find? other mem := by
    by_cases same : other = name
    · subst same
      rw [find?_erase_self, find?_erase_self]
    · rw [find?_erase_of_ne same, find?_erase_of_ne same, agree.find? other mem]

theorem writeFile (agree : AgreeOn names first second) (mem : name ∈ names) (bytes : ByteArray)
    (fault : Option WriteFault) :
    ∃ reply one two, first.writeFile name bytes fault = (reply, one) ∧
      second.writeFile name bytes fault = (reply, two) ∧ AgreeOn names one two := by
  unfold Directory.writeFile
  rw [agree.canName name, agree.find? name mem]
  split
  · exact ⟨_, _, _, rfl, rfl, agree⟩
  · exact ⟨_, _, _, rfl, rfl, agree⟩
  · split
    · exact ⟨_, _, _, rfl, rfl, agree.put name _⟩
    · exact ⟨_, _, _, rfl, rfl, agree⟩
    · exact ⟨_, _, _, rfl, rfl, agree.put name _⟩

theorem rename (agree : AgreeOn names first second) {old new : String} (ofOld : old ∈ names)
    (ofNew : new ∈ names) (fault : Bool) :
    ∃ reply one two, first.rename old new fault = (reply, one) ∧
      second.rename old new fault = (reply, two) ∧ AgreeOn names one two := by
  unfold Directory.rename
  rw [agree.find? old ofOld, agree.find? new ofNew]
  split
  · exact ⟨_, _, _, rfl, rfl, agree⟩
  · exact ⟨_, _, _, rfl, rfl, agree⟩
  · exact ⟨_, _, _, rfl, rfl, (agree.erase old).put new _⟩
  · exact ⟨_, _, _, rfl, rfl, agree⟩

theorem removeFile (agree : AgreeOn names first second) (mem : name ∈ names) (fault : Bool) :
    ∃ reply one two, first.removeFile name fault = (reply, one) ∧
      second.removeFile name fault = (reply, two) ∧ AgreeOn names one two := by
  unfold Directory.removeFile
  rw [agree.find? name mem]
  split
  · exact ⟨_, _, _, rfl, rfl, agree⟩
  · exact ⟨_, _, _, rfl, rfl, agree.erase name⟩
  · exact ⟨_, _, _, rfl, rfl, agree⟩
  · exact ⟨_, _, _, rfl, rfl, agree⟩

theorem refl (dir : Directory) : AgreeOn names dir dir :=
  ⟨rfl, fun _ _ => rfl⟩

theorem trans {third : Directory} (agree : AgreeOn names first second)
    (agree' : AgreeOn names second third) : AgreeOn names first third :=
  ⟨agree.room.trans agree'.room,
    fun name mem => (agree.find? name mem).trans (agree'.find? name mem)⟩

theorem symm (agree : AgreeOn names first second) : AgreeOn names second first :=
  ⟨agree.room.symm, fun name mem => (agree.find? name mem).symm⟩

end AgreeOn

/-! ### Operations on other names -/

section

variable {names : List String} {name : String}

theorem agreeOn_put (fresh : name ∉ names) (entry : DirectoryEntry) (dir : Directory) :
    AgreeOn names (dir.put name entry) dir where
  room := rfl
  find? _ mem := find?_put_of_ne (ne_of_mem_of_not_mem mem fresh) entry dir

theorem agreeOn_erase (fresh : name ∉ names) (dir : Directory) :
    AgreeOn names (dir.erase name) dir where
  room := rfl
  find? _ mem := find?_erase_of_ne (ne_of_mem_of_not_mem mem fresh) dir

theorem agreeOn_writeFile (fresh : name ∉ names) (bytes : ByteArray) (fault : Option WriteFault)
    (dir : Directory) : AgreeOn names (dir.writeFile name bytes fault).2 dir := by
  unfold writeFile
  split
  · exact .refl dir
  · exact .refl dir
  · split
    · exact agreeOn_put fresh _ dir
    · exact .refl dir
    · exact agreeOn_put fresh _ dir

theorem agreeOn_rename {old new : String} (freshOld : old ∉ names) (freshNew : new ∉ names)
    (fault : Bool) (dir : Directory) : AgreeOn names (dir.rename old new fault).2 dir := by
  unfold rename
  split
  · exact .refl dir
  · exact .refl dir
  · exact (agreeOn_put freshNew _ _).trans (agreeOn_erase freshOld dir)
  · exact .refl dir

theorem agreeOn_removeFile (fresh : name ∉ names) (fault : Bool) (dir : Directory) :
    AgreeOn names (dir.removeFile name fault).2 dir := by
  unfold removeFile
  split
  · exact .refl dir
  · exact agreeOn_erase fresh dir
  · exact .refl dir
  · exact .refl dir

end
end Directory

namespace DirectoryStore

open Directory

variable {key : String} {first second : Directory}

theorem get_agrees (agree : AgreeOn [key, temporaryName key] first second) :
    get key first = get key second :=
  get_congr fun _ => agree.find? key (by simp)

theorem setWith_agrees (agree : AgreeOn [key, temporaryName key] first second)
    (faults : SetFaults) (value : String) :
    ∃ reply one two, setWith faults key value first = (reply, one) ∧
      setWith faults key value second = (reply, two) ∧
      AgreeOn [key, temporaryName key] one two := by
  have own : key ∈ [key, temporaryName key] := by simp
  have beside : temporaryName key ∈ [key, temporaryName key] := by simp
  obtain ⟨written, first', second', onFirst, onSecond, agree'⟩ :=
    agree.writeFile beside value.toUTF8 faults.write
  obtain ⟨renamed, one, two, onFirst', onSecond', agree''⟩ :=
    agree'.rename beside own faults.rename
  unfold setWith
  split
  · exact ⟨_, _, _, rfl, rfl, agree⟩
  rw [onFirst, onSecond]
  cases written with
  | error fault => exact ⟨_, _, _, rfl, rfl, agree'⟩
  | ok _ =>
      simp only [onFirst', onSecond']
      cases renamed with
      | error fault => exact ⟨_, _, _, rfl, rfl, agree''⟩
      | ok _ => exact ⟨_, _, _, rfl, rfl, agree''⟩

theorem removeWith_agrees (agree : AgreeOn [key, temporaryName key] first second) (fault : Bool) :
    ∃ reply one two, removeWith fault key first = (reply, one) ∧
      removeWith fault key second = (reply, two) ∧
      AgreeOn [key, temporaryName key] one two := by
  have own : key ∈ [key, temporaryName key] := by simp
  obtain ⟨removed, one, two, onFirst, onSecond, agree'⟩ := agree.removeFile own fault
  unfold removeWith
  rw [agree.find? key own]
  split
  · exact ⟨_, _, _, rfl, rfl, agree⟩
  split
  · exact ⟨_, _, _, rfl, rfl, agree⟩
  rw [onFirst, onSecond]
  cases removed with
  | error fault => exact ⟨_, _, _, rfl, rfl, agree'⟩
  | ok _ => exact ⟨_, _, _, rfl, rfl, agree'⟩

/-! ## Other names -/

theorem setWith_beside {names : List String} (fresh : key ∉ names)
    (fresh' : temporaryName key ∉ names) (faults : SetFaults) (value : String) (dir : Directory) :
    AgreeOn names (setWith faults key value dir).2 dir := by
  have written := agreeOn_writeFile fresh' value.toUTF8 faults.write dir
  unfold setWith
  split
  · exact .refl dir
  split
  · rename_i after
    rw [after] at written
    exact written
  rename_i beside after
  rw [after] at written
  have renamed := agreeOn_rename fresh' fresh faults.rename beside
  split
  · rename_i after
    rw [after] at renamed
    exact renamed.trans written
  · rename_i after
    rw [after] at renamed
    exact renamed.trans written

theorem removeWith_beside {names : List String} (fresh : key ∉ names) (fault : Bool)
    (dir : Directory) : AgreeOn names (removeWith fault key dir).2 dir := by
  have removed := agreeOn_removeFile fresh fault dir
  unfold removeWith
  split
  · exact .refl dir
  split
  · exact .refl dir
  split
  · rename_i after
    rw [after] at removed
    exact removed
  · rename_i after
    rw [after] at removed
    exact removed

theorem temporaryName_injective {first second : String}
    (same : temporaryName first = temporaryName second) : first = second := by
  simpa [temporaryName, String.ext_iff] using same

end DirectoryStore

/-! ## Stores in memory that agree on a key -/

namespace MemoryStore

structure AgreeAt (key : String) (first second : MemoryStore) : Prop where
  value : first.entries.find? key = second.entries.find? key
  failWrites : first.failWrites = second.failWrites
  rejectedKeys : first.rejectedKeys = second.rejectedKeys

variable {key : String} {first second : MemoryStore}

theorem AgreeAt.refl (key : String) (store : MemoryStore) : AgreeAt key store store :=
  ⟨rfl, rfl, rfl⟩

theorem AgreeAt.symm (agree : AgreeAt key first second) : AgreeAt key second first :=
  ⟨agree.value.symm, agree.failWrites.symm, agree.rejectedKeys.symm⟩

theorem AgreeAt.trans {third : MemoryStore} (agree : AgreeAt key first second)
    (agree' : AgreeAt key second third) : AgreeAt key first third where
  value := agree.value.trans agree'.value
  failWrites := agree.failWrites.trans agree'.failWrites
  rejectedKeys := agree.rejectedKeys.trans agree'.rejectedKeys

theorem get_agrees (agree : AgreeAt key first second) : first.get key = second.get key := by
  unfold MemoryStore.get
  rw [agree.value]

theorem set_agrees (agree : AgreeAt key first second) (value : String) :
    (first.set key value).1 = (second.set key value).1 ∧
      AgreeAt key (first.set key value).2 (second.set key value).2 := by
  unfold MemoryStore.set checkWritable
  rw [agree.failWrites, agree.rejectedKeys]
  split
  · exact ⟨rfl, agree⟩
  · split
    · exact ⟨rfl, agree⟩
    · refine ⟨rfl, ?_, rfl, rfl⟩
      rw [Table.find?_put_self, Table.find?_put_self]

theorem remove_agrees (agree : AgreeAt key first second) :
    (first.remove key).1 = (second.remove key).1 ∧
      AgreeAt key (first.remove key).2 (second.remove key).2 := by
  unfold MemoryStore.remove checkWritable
  rw [agree.failWrites]
  split
  · exact ⟨rfl, agree⟩
  · refine ⟨rfl, ?_, rfl, agree.rejectedKeys⟩
    rw [Table.find?_erase_self, Table.find?_erase_self]

theorem set_beside {other : String} (different : other ≠ key) (value : String)
    (store : MemoryStore) : AgreeAt other (store.set key value).2 store := by
  unfold MemoryStore.set
  split
  · exact .refl other store
  · split
    · exact .refl other store
    · exact ⟨Table.find?_put_of_ne different value store.entries, rfl, rfl⟩

theorem remove_beside {other : String} (different : other ≠ key) (store : MemoryStore) :
    AgreeAt other (store.remove key).2 store := by
  unfold MemoryStore.remove
  split
  · exact .refl other store
  · exact ⟨Table.find?_erase_of_ne different store.entries, rfl, rfl⟩

end MemoryStore

/-! ## Stores of either kind -/

namespace Storage

open DirectoryStore (SetFaults temporaryName)

/-- `set`, where the operating system fails as told; there is no such thing in memory. -/
def setWith (faults : SetFaults) (key value : String) :
    Storage → Except StorageError Unit × Storage
  | .memory store => (store.set key value).map id .memory
  | .directory dir => (DirectoryStore.setWith faults key value dir).map id .directory

def removeWith (fault : Bool) (key : String) : Storage → Except StorageError Unit × Storage
  | .memory store => (store.remove key).map id .memory
  | .directory dir => (DirectoryStore.removeWith fault key dir).map id .directory

inductive AgreeAt (key : String) : Storage → Storage → Prop where
  | memory {first second : MemoryStore} (agree : MemoryStore.AgreeAt key first second) :
      AgreeAt key (.memory first) (.memory second)
  | directory {first second : Directory}
      (agree : Directory.AgreeOn [key, temporaryName key] first second) :
      AgreeAt key (.directory first) (.directory second)

variable {key : String} {first second : Storage}

theorem AgreeAt.refl (key : String) (store : Storage) : AgreeAt key store store :=
  match store with
  | .memory store => .memory (.refl key store)
  | .directory dir => .directory (.refl dir)

theorem AgreeAt.symm (agree : AgreeAt key first second) : AgreeAt key second first := by
  cases agree with
  | memory agree => exact .memory agree.symm
  | directory agree => exact .directory agree.symm

theorem AgreeAt.trans {third : Storage} (agree : AgreeAt key first second)
    (agree' : AgreeAt key second third) : AgreeAt key first third := by
  cases agree with
  | memory agree =>
      cases agree' with
      | memory agree' => exact .memory (agree.trans agree')
  | directory agree =>
      cases agree' with
      | directory agree' => exact .directory (agree.trans agree')

theorem get_agrees (agree : AgreeAt key first second) : first.get key = second.get key := by
  cases agree with
  | memory agree => exact MemoryStore.get_agrees agree
  | directory agree => exact DirectoryStore.get_agrees agree

theorem setWith_agrees (agree : AgreeAt key first second) (faults : SetFaults) (value : String) :
    (first.setWith faults key value).1 = (second.setWith faults key value).1 ∧
      AgreeAt key (first.setWith faults key value).2 (second.setWith faults key value).2 := by
  cases agree with
  | memory agree =>
      obtain ⟨replies, agree'⟩ := MemoryStore.set_agrees agree value
      exact ⟨replies, .memory agree'⟩
  | directory agree =>
      obtain ⟨reply, one, two, onFirst, onSecond, agree'⟩ :=
        DirectoryStore.setWith_agrees agree faults value
      simp only [setWith, onFirst, onSecond]
      exact ⟨rfl, .directory agree'⟩

theorem removeWith_agrees (agree : AgreeAt key first second) (fault : Bool) :
    (first.removeWith fault key).1 = (second.removeWith fault key).1 ∧
      AgreeAt key (first.removeWith fault key).2 (second.removeWith fault key).2 := by
  cases agree with
  | memory agree =>
      obtain ⟨replies, agree'⟩ := MemoryStore.remove_agrees agree
      exact ⟨replies, .memory agree'⟩
  | directory agree =>
      obtain ⟨reply, one, two, onFirst, onSecond, agree'⟩ :=
        DirectoryStore.removeWith_agrees agree fault
      simp only [removeWith, onFirst, onSecond]
      exact ⟨rfl, .directory agree'⟩

theorem setWith_beside {other : String} (valid : StorageKey.isValid other)
    (different : other ≠ key) (faults : SetFaults) (value : String) (store : Storage) :
    AgreeAt other (store.setWith faults key value).2 store := by
  cases store with
  | memory store => exact .memory (MemoryStore.set_beside different value store)
  | directory dir =>
      by_cases isKey : StorageKey.isValid key = true
      · refine .directory (DirectoryStore.setWith_beside ?_ ?_ faults value dir)
        · simp [Ne.symm different, DirectoryStore.valid_ne_temporaryName other isKey]
        · have unlike : temporaryName key ≠ temporaryName other := fun same =>
            different (DirectoryStore.temporaryName_injective same).symm
          simp [unlike, Ne.symm (DirectoryStore.valid_ne_temporaryName key valid)]
      · have refused : (setWith faults key value (.directory dir)).2 = .directory dir := by
          simp [setWith, DirectoryStore.setWith, DirectoryStore.check_of_not_valid isKey]
        rw [refused]
        exact .refl other _

theorem removeWith_beside {other : String} (different : other ≠ key) (fault : Bool)
    (store : Storage) : AgreeAt other (store.removeWith fault key).2 store := by
  cases store with
  | memory store => exact .memory (MemoryStore.remove_beside different store)
  | directory dir =>
      by_cases isKey : StorageKey.isValid key = true
      · refine .directory (DirectoryStore.removeWith_beside ?_ fault dir)
        simp [Ne.symm different, DirectoryStore.valid_ne_temporaryName other isKey]
      · have refused : (removeWith fault key (.directory dir)).2 = .directory dir := by
          simp [removeWith, DirectoryStore.removeWith, DirectoryStore.check_of_not_valid isKey]
        rw [refused]
        exact .refl other _

/-! ### Several keys -/

variable {keys : List String}

theorem setWith_agree (valid : ∀ k ∈ keys, StorageKey.isValid k) (own : key ∈ keys)
    (agree : ∀ k ∈ keys, AgreeAt k first second) (faults : SetFaults) (value : String) :
    ∀ k ∈ keys,
      AgreeAt k (first.setWith faults key value).2 (second.setWith faults key value).2 := by
  intro other mem
  by_cases same : other = key
  · subst same
    exact (setWith_agrees (agree other own) faults value).2
  · have beside := setWith_beside (valid other mem) same faults value
    exact (beside first).trans ((agree other mem).trans (beside second).symm)

theorem removeWith_agree (own : key ∈ keys) (agree : ∀ k ∈ keys, AgreeAt k first second)
    (fault : Bool) :
    ∀ k ∈ keys, AgreeAt k (first.removeWith fault key).2 (second.removeWith fault key).2 := by
  intro other mem
  by_cases same : other = key
  · subst same
    exact (removeWith_agrees (agree other own) fault).2
  · have beside := removeWith_beside same fault
    exact (beside first).trans ((agree other mem).trans (beside second).symm)

end Storage
end AccessPortal
