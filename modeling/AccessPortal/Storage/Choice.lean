import AccessPortal.Storage.InDirectory
import AccessPortal.Storage.InMemory

/-!
# Stores of either kind

A store keeps its values in memory or in a directory.
-/

namespace AccessPortal

inductive Storage where
  | memory (store : MemoryStore)
  | directory (dir : Directory)

namespace Storage

def get (key : String) : Storage → Except StorageError (Option String)
  | .memory store => store.get key
  | .directory dir => DirectoryStore.get key dir

def set (key value : String) : Storage → Except StorageError Unit × Storage
  | .memory store => (store.set key value).map id .memory
  | .directory dir => (DirectoryStore.set key value dir).map id .directory

def remove (key : String) : Storage → Except StorageError Unit × Storage
  | .memory store => (store.remove key).map id .memory
  | .directory dir => (DirectoryStore.remove key dir).map id .directory

end Storage
end AccessPortal
