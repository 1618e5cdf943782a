import AccessPortal.Proofs.Storage.Contents
import AccessPortal.Proofs.Storage.Files
import Mathlib.Data.List.Nodup

/-!
# The store in a directory is the store in memory

Over a fresh directory, the store in a directory answers like an empty store in memory, however
often it is opened again (`directory_refines_memory`). After each step there is one file for each
key. The temporary file never stands in the way, as its name is no key.
-/

namespace AccessPortal

/-! ## Tables of files -/

namespace Table

variable {α β : Type}

theorem find?_map (f : α → β) (name : String) (table : Table α) :
    Table.find? name (table.map fun entry => (entry.1, f entry.2)) =
      (table.find? name).map f := by
  induction table with
  | nil => rfl
  | cons entry table ih =>
      simp only [List.map_cons, find?]
      split
      · rfl
      · exact ih

theorem put_map (f : α → β) (name : String) (value : α) (table : Table α) :
    Table.put name (f value) (table.map fun entry => (entry.1, f entry.2)) =
      (table.put name value).map fun entry => (entry.1, f entry.2) := by
  induction table with
  | nil => rfl
  | cons entry table ih =>
      simp only [List.map_cons, put]
      split
      · rfl
      · rw [List.map_cons, ih]

theorem erase_map (f : α → β) (name : String) (table : Table α) :
    Table.erase name (table.map fun entry => (entry.1, f entry.2)) =
      (table.erase name).map fun entry => (entry.1, f entry.2) := by
  induction table with
  | nil => rfl
  | cons entry table ih =>
      simp only [List.map_cons, erase]
      split
      · exact ih
      · rw [List.map_cons, ih]

theorem erase_put_of_find?_none {name : String} {table : Table α}
    (absent : table.find? name = none) (value : α) : (table.put name value).erase name = table := by
  induction table with
  | nil => simp [put, erase]
  | cons entry table ih =>
      obtain ⟨other, old⟩ := entry
      by_cases same : other = name
      · simp [find?, same] at absent
      · rw [find?, if_neg same] at absent
        rw [put, if_neg same, erase, if_neg same, ih absent]

theorem mem_names_put {name other : String} {value : α} {table : Table α} :
    other ∈ (table.put name value).map (·.1) ↔ other = name ∨ other ∈ table.map (·.1) := by
  induction table with
  | nil => simp [put]
  | cons entry table ih =>
      obtain ⟨first, old⟩ := entry
      by_cases same : first = name
      · simp [put, same]
      · simp only [put, same, if_false, List.map_cons, List.mem_cons, ih]
        grind

theorem nodup_put (name : String) (value : α) {table : Table α}
    (distinct : (table.map (·.1)).Nodup) : ((table.put name value).map (·.1)).Nodup := by
  induction table with
  | nil => simp [put]
  | cons entry table ih =>
      obtain ⟨first, old⟩ := entry
      obtain ⟨fresh, distinct⟩ := List.nodup_cons.mp distinct
      by_cases same : first = name
      · subst same
        rw [put, if_pos rfl]
        exact List.nodup_cons.mpr ⟨fresh, distinct⟩
      · rw [put, if_neg same, List.map_cons, List.nodup_cons]
        exact ⟨fun mem => (mem_names_put.mp mem).elim same fresh, ih distinct⟩

theorem names_erase (name : String) (table : Table α) :
    ((table.erase name).map (·.1)).Sublist (table.map (·.1)) := by
  induction table with
  | nil => exact List.Sublist.refl _
  | cons entry table ih =>
      obtain ⟨first, old⟩ := entry
      by_cases same : first = name
      · rw [erase, if_pos same]
        exact ih.cons _
      · rw [erase, if_neg same]
        exact ih.cons_cons _

end Table

/-! ## One operation on both stores -/

namespace MemoryStore

structure Open (store : MemoryStore) : Prop where
  accepts : store.failWrites = false ∧ store.rejectedKeys = []
  distinct : (store.entries.map (·.1)).Nodup
  valid : ∀ key ∈ store.entries.map (·.1), StorageKey.isValid key

def files (store : MemoryStore) : Table DirectoryEntry :=
  store.entries.map fun entry => (entry.1, .file entry.2.toUTF8)

theorem find?_files (store : MemoryStore) (name : String) :
    store.files.find? name = (store.entries.find? name).map fun value => .file value.toUTF8 :=
  Table.find?_map (fun value : String => DirectoryEntry.file value.toUTF8) name store.entries

theorem Open.find?_temporaryName {store : MemoryStore} (isOpen : store.Open) (key : String) :
    store.entries.find? (DirectoryStore.temporaryName key) = none := by
  refine Table.find?_eq_none fun mem => ?_
  have valid := isOpen.valid _ mem
  rw [isValid_temporaryName] at valid
  cases valid

theorem set_of_open {store : MemoryStore} (isOpen : store.Open) {key : String}
    (valid : StorageKey.isValid key) (value : String) :
    store.set key value = (.ok (), { store with entries := store.entries.put key value }) := by
  simp [set, checkWritable, StorageKey.check, valid, isOpen.accepts, bind, Except.bind, pure,
    Except.pure]

theorem remove_of_open {store : MemoryStore} (isOpen : store.Open) {key : String}
    (valid : StorageKey.isValid key) :
    store.remove key = (.ok (), { store with entries := store.entries.erase key }) := by
  simp [remove, checkWritable, StorageKey.check, valid, isOpen.accepts, bind, Except.bind, pure,
    Except.pure]

theorem Open.put {store : MemoryStore} (isOpen : store.Open) {key : String}
    (valid : StorageKey.isValid key) (value : String) :
    Open { store with entries := store.entries.put key value } where
  accepts := isOpen.accepts
  distinct := Table.nodup_put key value isOpen.distinct
  valid other mem := by
    rcases Table.mem_names_put.mp mem with rfl | mem
    · exact valid
    · exact isOpen.valid other mem

theorem Open.erase {store : MemoryStore} (isOpen : store.Open) (key : String) :
    Open { store with entries := store.entries.erase key } where
  accepts := isOpen.accepts
  distinct := isOpen.distinct.sublist (Table.names_erase key store.entries)
  valid other mem := isOpen.valid other ((Table.names_erase key store.entries).subset mem)

end MemoryStore

namespace DirectoryStore

variable {store : MemoryStore} {dir : Directory} {key : String}

theorem get_files (holds : dir.entries = store.files)
    (fits : StorageKey.isValid key → dir.canName (temporaryName key) = true) :
    get key dir = store.get key := by
  by_cases valid : StorageKey.isValid key = true
  · have found : dir.find? key =
        (store.entries.find? key).map fun value => .file value.toUTF8 := by
      rw [Directory.find?_eq_of_canName (canName_of_temporaryName (fits valid)), holds,
        MemoryStore.find?_files]
    have read : store.get key = .ok (store.entries.find? key) := by
      rw [MemoryStore.get, check_of_valid valid]
      rfl
    rw [read]
    cases there : store.entries.find? key with
    | none => exact get_of_none valid (by rw [found, there]; rfl)
    | some value => exact get_of_file valid (by rw [found, there]; rfl)
  · rw [get, MemoryStore.get, check_of_not_valid valid]
    rfl

theorem noDirectory_files (holds : dir.entries = store.files) (name : String)
    (inner : List (String × DirectoryEntry)) : dir.find? name ≠ some (.directory inner) := by
  intro found
  rw [Directory.find?_eq_of_canName (Directory.canName_of_find? found), holds,
    MemoryStore.find?_files] at found
  obtain ⟨value, -, same⟩ := Option.map_eq_some_iff.mp found
  cases same

theorem set_files (isOpen : store.Open) (holds : dir.entries = store.files)
    (fits : StorageKey.isValid key → dir.canName (temporaryName key) = true) (value : String) :
    (set key value dir).1 = (store.set key value).1 ∧
      (set key value dir).2.entries = (store.set key value).2.files ∧
      (store.set key value).2.Open := by
  by_cases valid : StorageKey.isValid key = true
  · have free : Table.find? (temporaryName key) store.files = none := by
      rw [MemoryStore.find?_files, isOpen.find?_temporaryName]
      rfl
    rw [MemoryStore.set_of_open isOpen valid, set_ok valid (fits valid)
      (noDirectory_files holds key) (noDirectory_files holds _)]
    refine ⟨rfl, ?_, isOpen.put valid value⟩
    simp only [Directory.put, Directory.erase, holds, Table.erase_put_of_find?_none free]
    exact Table.put_map (fun value : String => DirectoryEntry.file value.toUTF8) key value
      store.entries
  · simp [set, setWith, MemoryStore.set, MemoryStore.checkWritable, check_of_not_valid valid, holds,
      isOpen, bind, Except.bind]

theorem remove_files (isOpen : store.Open) (holds : dir.entries = store.files)
    (fits : StorageKey.isValid key → dir.canName (temporaryName key) = true) :
    (remove key dir).1 = (store.remove key).1 ∧
      (remove key dir).2.entries = (store.remove key).2.files ∧
      (store.remove key).2.Open := by
  by_cases valid : StorageKey.isValid key = true
  · rw [MemoryStore.remove_of_open isOpen valid,
      remove_ok valid (canName_of_temporaryName (fits valid)) (noDirectory_files holds key)]
    refine ⟨rfl, ?_, isOpen.erase key⟩
    simp only [Directory.erase, holds]
    exact Table.erase_map (fun value : String => DirectoryEntry.file value.toUTF8) key store.entries
  · simp [remove, removeWith, MemoryStore.remove, MemoryStore.checkWritable,
      check_of_not_valid valid, holds, isOpen, bind, Except.bind]

end DirectoryStore

/-! ## Steps and runs -/

/-- What one does with a store, or to it: it may be dropped and opened again. -/
inductive StoreStep where
  | get (key : String)
  | set (key value : String)
  | remove (key : String)
  | reopen
  deriving DecidableEq, Repr

namespace StoreStep

inductive Reply where
  | found (result : Except StorageError (Option String))
  | done (result : Except StorageError Unit)
  deriving DecidableEq

def key? : StoreStep → Option String
  | get key | set key _ | remove key => some key
  | reopen => none

def run {σ : Type} (step : StoreStep → σ → Reply × σ) : List StoreStep → σ → List (Reply × σ)
  | [], _ => []
  | first :: steps, state => step first state :: run step steps (step first state).2

end StoreStep

def MemoryStore.step (step : StoreStep) (store : MemoryStore) : StoreStep.Reply × MemoryStore :=
  match step with
  | .get key => (.found (store.get key), store)
  | .set key value => (store.set key value).map .done id
  | .remove key => (store.remove key).map .done id
  | .reopen => (.done (.ok ()), store)

namespace DirectoryStore

structure Opened where
  root : Directory
  place : Place

namespace Opened

def directory (opened : Opened) (path : String) : Directory :=
  { opened.root.directoryAt opened.place with room := Path.room path }

def putBack (opened : Opened) (dir : Directory) : Opened :=
  { opened with root := opened.root.putAt (.directory dir.entries) opened.place }

/-- A step on a store that is opened by a path, for one who is at the given place. -/
def step (here : Place) (path : String) (step : StoreStep) (opened : Opened) :
    StoreStep.Reply × Opened :=
  match step with
  | .get key => (.found (get key (opened.directory path)), opened)
  | .set key value => (set key value (opened.directory path)).map .done opened.putBack
  | .remove key => (remove key (opened.directory path)).map .done opened.putBack
  | .reopen =>
    match opened.root.openAt here path with
    | (.ok place, root) => (.done (.ok ()), ⟨root, place⟩)
    | (.error fault, root) => (.done (.error (.io fault)), { opened with root })

/-- There is one file for each key of the store in memory, with the bytes of its value, and nothing
else: no temporary file either. -/
structure Holds (opened : Opened) (store : MemoryStore) : Prop where
  there : opened.root.hasDirectory opened.place = true
  distinct : ((opened.root.directoryAt opened.place).entries.map (·.1)).Nodup
  files : ∀ name, (opened.root.directoryAt opened.place).entries.find? name =
    (store.entries.find? name).map fun value => .file value.toUTF8
  noTemporary : ∀ key,
    (opened.root.directoryAt opened.place).entries.find? (temporaryName key) = none

/-- Outside of the directory of the store, nothing is other than it was; no directory was made. -/
structure LeavesAlone (opened : Opened) (before : Opened) : Prop where
  place : opened.place = before.place
  files : ∀ other, ¬ before.place <+: other → opened.root.fileAt? other = before.root.fileAt? other
  directories : ∀ other, opened.root.hasDirectory other = before.root.hasDirectory other

structure Mirrors (before opened : Opened) (store : MemoryStore) : Prop where
  there : opened.root.at? opened.place = some (.directory store.files)
  isOpen : store.Open
  alone : opened.LeavesAlone before

variable {before opened : Opened} {store : MemoryStore} {path : String}

theorem directoryAt_of_mirrors (mirrors : Mirrors before opened store) :
    (opened.root.directoryAt opened.place).entries = store.files := by
  rw [Directory.directoryAt, mirrors.there]

theorem holds_of_mirrors (mirrors : Mirrors before opened store) : opened.Holds store where
  there := by
    rw [Directory.hasDirectory, mirrors.there]
  distinct := by
    rw [directoryAt_of_mirrors mirrors, MemoryStore.files, List.map_map]
    exact mirrors.isOpen.distinct
  files name := by
    rw [directoryAt_of_mirrors mirrors, MemoryStore.find?_files]
  noTemporary key := by
    rw [directoryAt_of_mirrors mirrors, MemoryStore.find?_files,
      mirrors.isOpen.find?_temporaryName]
    rfl

/-- Other files are put back. -/
theorem mirrors_putBack (mirrors : Mirrors before opened store) {dir : Directory}
    {after : MemoryStore} (holds : dir.entries = after.files) (isOpen : after.Open)
    (inside : Directory.SameInside dir.entries store.files) :
    Mirrors before (opened.putBack dir) after where
  there := by
    rw [← holds]
    exact Directory.at?_putAt dir.entries mirrors.there
  isOpen := isOpen
  alone := by
    refine ⟨mirrors.alone.place, fun other outside => ?_, fun other => ?_⟩
    · have elsewhere : ¬ opened.place <+: other := by
        rw [mirrors.alone.place]
        exact outside
      exact (Directory.fileAt?_putAt mirrors.there elsewhere).trans
        (mirrors.alone.files other outside)
    · exact (Directory.hasDirectory_putAt mirrors.there inside other).trans
        (mirrors.alone.directories other)

theorem step_mirrors {start : Directory} {here : Place}
    (wasOpened : start.openAt here path = (.ok before.place, before.root))
    (mirrors : Mirrors before opened store) (step : StoreStep)
    (fits : ∀ key ∈ step.key?, StorageKey.isValid key →
      (temporaryName key).utf8ByteSize ≤ Path.room path) :
    (opened.step here path step).1 = (store.step step).1 ∧
      Mirrors before (opened.step here path step).2 (store.step step).2 := by
  have holds : (opened.directory path).entries = store.files := directoryAt_of_mirrors mirrors
  have canName (key : String) (mem : key ∈ step.key?) (valid : StorageKey.isValid key) :
      (opened.directory path).canName (temporaryName key) = true :=
    decide_eq_true (fits key mem valid)
  cases step with
  | get key => exact ⟨congrArg _ (get_files holds (canName key rfl)), mirrors⟩
  | set key value =>
      obtain ⟨reply, files, isOpen⟩ := set_files mirrors.isOpen holds (canName key rfl) value
      have inside := sameInside_set {} key value (opened.directory path)
      rw [holds] at inside
      exact ⟨congrArg _ reply, mirrors_putBack mirrors files isOpen inside⟩
  | remove key =>
      obtain ⟨reply, files, isOpen⟩ := remove_files mirrors.isOpen holds (canName key rfl)
      have inside := sameInside_remove false key (opened.directory path)
      rw [holds] at inside
      exact ⟨congrArg _ reply, mirrors_putBack mirrors files isOpen inside⟩
  | reopen =>
      have again := Directory.openAt_again wasOpened mirrors.alone.directories
      have same : opened.step here path .reopen = (.done (.ok ()), opened) := by
        simp only [step, again, ← mirrors.alone.place]
      rw [same]
      exact ⟨rfl, mirrors⟩

theorem run_mirrors {start : Directory} {here : Place}
    (wasOpened : start.openAt here path = (.ok before.place, before.root))
    (mirrors : Mirrors before opened store) {steps : List StoreStep}
    (fits : ∀ step ∈ steps, ∀ key ∈ step.key?, StorageKey.isValid key →
      (temporaryName key).utf8ByteSize ≤ Path.room path) :
    List.Forall₂ (fun onDisk inMemory => onDisk.1 = inMemory.1 ∧ Mirrors before onDisk.2 inMemory.2)
      (StoreStep.run (Opened.step here path) steps opened)
      (StoreStep.run MemoryStore.step steps store) := by
  induction steps generalizing opened store with
  | nil => exact .nil
  | cons first steps ih =>
      have step := step_mirrors wasOpened mirrors first (fits first List.mem_cons_self)
      exact .cons step (ih step.2 fun step mem => fits step (List.mem_cons_of_mem _ mem))

end Opened

/--
A store in a directory that holds nothing yet answers each step like a store in memory that is
empty, keys that are no names included, provided only that the names of the temporary files are not
too long. After each step the directory holds what the store in memory does, and the rest of the
file system is as it was.
-/
theorem directory_refines_memory {start root : Directory} {here place : Place} {path : String}
    (opened : start.openAt here path = (.ok place, root))
    (fresh : (root.directoryAt place).entries = []) (steps : List StoreStep)
    (fits : ∀ step ∈ steps, ∀ key ∈ step.key?, StorageKey.isValid key →
      (temporaryName key).utf8ByteSize ≤ Path.room path) :
    List.Forall₂
      (fun onDisk inMemory => onDisk.1 = inMemory.1 ∧ onDisk.2.Holds inMemory.2 ∧
        onDisk.2.LeavesAlone ⟨root, place⟩)
      (StoreStep.run (Opened.step here path) steps ⟨root, place⟩)
      (StoreStep.run MemoryStore.step steps {}) := by
  obtain ⟨entries, there⟩ := Directory.at?_of_openAt opened
  have empty : entries = [] := by
    rw [Directory.directoryAt, there] at fresh
    exact fresh
  subst empty
  have mirrors : Opened.Mirrors ⟨root, place⟩ ⟨root, place⟩ {} :=
    ⟨there, ⟨⟨rfl, rfl⟩, List.nodup_nil, nofun⟩, rfl, fun _ _ => rfl, fun _ => rfl⟩
  exact (Opened.run_mirrors opened mirrors fits).imp fun _ _ ends =>
    ⟨ends.1, Opened.holds_of_mirrors ends.2, ends.2.alone⟩

/-- A store in a directory that is made for it, together with the one around it. -/
theorem directory_refines_memory_nested :
    let root := (Directory.empty.openAt [] "data/store").2
    let steps : List StoreStep :=
      [.set "user_role" "auditor", .reopen, .get "user_role", .get "../user_role",
        .remove "user_role", .get "user_role"]
    (StoreStep.run (Opened.step [] "data/store") steps ⟨root, ["data", "store"]⟩).map (·.1) =
      [.done (.ok ()), .done (.ok ()), .found (.ok (some "auditor")),
        .found (.error (.invalidKey "../user_role")), .done (.ok ()), .found (.ok none)] ∧
    List.Forall₂
      (fun onDisk inMemory => onDisk.1 = inMemory.1 ∧ onDisk.2.Holds inMemory.2 ∧
        onDisk.2.LeavesAlone ⟨root, ["data", "store"]⟩)
      (StoreStep.run (Opened.step [] "data/store") steps ⟨root, ["data", "store"]⟩)
      (StoreStep.run MemoryStore.step steps {}) := by
  intro root steps
  have opened : Directory.empty.openAt [] "data/store" = (.ok ["data", "store"], root) := by
    rfl
  have fresh : (root.directoryAt ["data", "store"]).entries = [] := by
    rfl
  exact ⟨by decide +kernel, directory_refines_memory opened fresh steps (by decide)⟩

end DirectoryStore
end AccessPortal
