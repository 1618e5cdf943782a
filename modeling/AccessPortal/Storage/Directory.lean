import AccessPortal.Storage.SystemFault
import AccessPortal.Storage.Table

/-!
# Directories

The part of a file system that the file store depends on: a directory holds files, which are bytes,
and further directories. A name has at most `maxNameBytes` bytes, and fewer where it would make the
path to it too long. Replacing a file by renaming another over it happens entirely or not at all.
-/

namespace AccessPortal

inductive DirectoryEntry where
  | file (bytes : ByteArray)
  | directory (entries : List (String × DirectoryEntry))

def Directory.maxNameBytes : Nat := 255

/-- A directory, by the names in it, as it is reached by some path. -/
structure Directory where
  entries : Table DirectoryEntry
  /-- The longest name that the path leaves room for, in bytes. -/
  room : Nat := Directory.maxNameBytes

namespace Directory

def empty : Directory :=
  { entries := [] }

def canName (name : String) (dir : Directory) : Bool :=
  name.utf8ByteSize ≤ dir.room

/-- What a name stands for; nothing is found under a name that is too long. -/
def find? (name : String) (dir : Directory) : Option DirectoryEntry :=
  if dir.canName name then dir.entries.find? name else none

/-- Gives a name to an entry, in the place of what had it before. -/
def put (name : String) (entry : DirectoryEntry) (dir : Directory) : Directory :=
  { dir with entries := dir.entries.put name entry }

theorem canName_of_find? {name : String} {entry : DirectoryEntry} {dir : Directory}
    (h : dir.find? name = some entry) : dir.canName name = true := by
  unfold find? at h
  split at h
  · assumption
  · simp at h

theorem find?_put {name : String} (entry : DirectoryEntry) {dir : Directory}
    (h : dir.canName name = true) : (dir.put name entry).find? name = some entry := by
  have hp : (dir.put name entry).canName name = true := h
  rw [find?, if_pos hp]
  exact Table.find?_put_self ..

def erase (name : String) (dir : Directory) : Directory :=
  { dir with entries := dir.entries.erase name }

/-- What may keep the operating system from writing a file that nothing else stands against. -/
inductive WriteFault where
  /-- The file is neither created nor changed. -/
  | beforeOpening
  /-- The file holds no more than the first bytes. -/
  | after (count : Nat)
  deriving DecidableEq, Repr

/--
Writes a file whole, in the place of an older one. This fails if the name is too long or is a
directory, and where a fault strikes.
-/
def writeFile (name : String) (bytes : ByteArray) (fault : Option WriteFault) (dir : Directory) :
    Except SystemFault Unit × Directory :=
  match dir.canName name, dir.find? name with
  | false, _ => (.error .nameTooLong, dir)
  | true, some (.directory _) => (.error .isDirectory, dir)
  | true, _ =>
    match fault with
    | none => (.ok (), dir.put name (.file bytes))
    | some .beforeOpening => (.error .denied, dir)
    | some (.after count) => (.error .noSpace, dir.put name (.file (bytes.extract 0 count)))

/--
Renames a file, in the place of one that already has the new name. This fails if there is no such
file or the new name is a directory, and then changes nothing.
-/
def rename (old new : String) (fault : Bool) (dir : Directory) :
    Except SystemFault Unit × Directory :=
  match fault, dir.find? old, dir.find? new with
  | true, _, _ => (.error .denied, dir)
  | false, some (.file _), some (.directory _) => (.error .isDirectory, dir)
  | false, some (.file bytes), _ => (.ok (), (dir.erase old).put new (.file bytes))
  | false, _, _ => (.error .missing, dir)

/-- Removes a file. This fails if the name is no file, and then changes nothing. -/
def removeFile (name : String) (fault : Bool) (dir : Directory) :
    Except SystemFault Unit × Directory :=
  match fault, dir.find? name with
  | true, _ => (.error .denied, dir)
  | false, some (.file _) => (.ok (), dir.erase name)
  | false, some (.directory _) => (.error .isDirectory, dir)
  | false, none => (.error .missing, dir)

end Directory
end AccessPortal
