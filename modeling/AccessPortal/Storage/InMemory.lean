import AccessPortal.Storage.Key
import AccessPortal.Storage.Table

/-!
# The store in memory

A map that can be told to refuse writing, either altogether or for single keys.
-/

namespace AccessPortal

structure MemoryStore where
  entries : Table String := []
  /-- Refuses every `set` and every `remove`. -/
  failWrites : Bool := false
  /-- The keys that cannot be set. They can still be removed. -/
  rejectedKeys : List String := []
  deriving Repr, Inhabited

namespace MemoryStore

def size (store : MemoryStore) : Nat :=
  store.entries.length

def get (key : String) (store : MemoryStore) : Except StorageError (Option String) := do
  StorageKey.check key
  return store.entries.find? key

/-- Lets a write pass if the key is valid and the store is not read-only. -/
def checkWritable (key : String) (store : MemoryStore) : Except StorageError Unit := do
  StorageKey.check key
  if store.failWrites then
    .error (.writeRejected ("store is read-only (" ++ key ++ ")"))

def set (key value : String) (store : MemoryStore) : Except StorageError Unit × MemoryStore :=
  match store.checkWritable key with
  | .error e => (.error e, store)
  | .ok () =>
    if store.rejectedKeys.contains key then (.error (.writeRejected key), store)
    else (.ok (), { store with entries := store.entries.put key value })

/-- Removing a key that is not there succeeds. -/
def remove (key : String) (store : MemoryStore) : Except StorageError Unit × MemoryStore :=
  match store.checkWritable key with
  | .error e => (.error e, store)
  | .ok () => (.ok (), { store with entries := store.entries.erase key })

end MemoryStore
end AccessPortal
