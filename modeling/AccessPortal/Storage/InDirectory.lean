import AccessPortal.Log.Record
import AccessPortal.Storage.Directory
import AccessPortal.Storage.Key

/-!
# The store in a directory

One file for each key, named by the key, holding the value's UTF-8 bytes. A value is first written
to a temporary file beside it and then renamed into place, so that a failed write leaves the old
value; what it may leave behind is the temporary file, whose name is no valid key.
-/

namespace AccessPortal
namespace DirectoryStore

/-- The name of the temporary file that a value is written to first. -/
def temporaryName (key : String) : String :=
  key ++ ".tmp"

/-- Where the operating system lets an attempt to set a key down. -/
structure SetFaults where
  write : Option Directory.WriteFault := none
  rename : Bool := false
  deriving DecidableEq, Repr

def get (key : String) (dir : Directory) : Except StorageError (Option String) := do
  StorageKey.check key
  match dir.find? key with
  | none => return none
  | some (.directory _) => .error (.read key .isDirectory)
  | some (.file bytes) =>
    match String.fromUTF8? bytes with
    | some value => return some value
    | none => .error (.read key .notText)

/-- `set`, where the operating system fails as told. -/
def setWith (faults : SetFaults) (key value : String) (dir : Directory) :
    Except StorageError Unit × Directory :=
  match StorageKey.check key with
  | .error e => (.error e, dir)
  | .ok () =>
    match dir.writeFile (temporaryName key) value.toUTF8 faults.write with
    | (.error fault, dir) => (.error (.write key fault), dir)
    | (.ok (), dir) =>
      match dir.rename (temporaryName key) key faults.rename with
      | (.error fault, dir) => (.error (.write key fault), dir)
      | (.ok (), dir) => (.ok (), dir)

def set (key value : String) (dir : Directory) : Except StorageError Unit × Directory :=
  setWith {} key value dir

/-- `remove`, where the operating system fails if told so. -/
def removeWith (fault : Bool) (key : String) (dir : Directory) :
    Except StorageError Unit × Directory :=
  match StorageKey.check key with
  | .error e => (.error e, dir)
  | .ok () =>
    match dir.find? key with
    | none => (.ok (), dir)
    | some _ =>
      match dir.removeFile key fault with
      | (.error fault, dir) => (.error (.write key fault), dir)
      | (.ok (), dir) => (.ok (), dir)

/-- Removing a key that is not there succeeds. -/
def remove (key : String) (dir : Directory) : Except StorageError Unit × Directory :=
  removeWith false key dir

/-! ## What the store reports -/

def setRecords (key value : String) : Except StorageError Unit → List Log.Record
  | .ok () =>
    [{ level := .debug, source := .fileStore, message := "Stored value",
       fields := [("key", key), ("bytes", toString value.utf8ByteSize)] }]
  | .error _ => []

def removeRecords (key : String) (before : Directory) :
    Except StorageError Unit → List Log.Record
  | .ok () =>
    if (before.find? key).isSome then
      [{ level := .debug, source := .fileStore, message := "Removed value",
         fields := [("key", key)] }]
    else []
  | .error _ => []

end DirectoryStore
end AccessPortal
