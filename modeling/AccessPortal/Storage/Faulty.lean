import AccessPortal.Storage.Choice

/-!
# Stores that fail on some keys

A store in which reading or removing certain keys fails before it is tried. What a store of its own
accord never does can so be brought about at will; nothing else about it changes.
-/

namespace AccessPortal

structure FaultyStore where
  store : Storage
  unreadable : List String := []
  unremovable : List String := []

namespace FaultyStore

def get (key : String) (faulty : FaultyStore) : Except StorageError (Option String) :=
  if faulty.unreadable.contains key then .error (.read key .denied) else faulty.store.get key

def set (key value : String) (faulty : FaultyStore) : Except StorageError Unit × FaultyStore :=
  (faulty.store.set key value).map id fun store => { faulty with store }

def remove (key : String) (faulty : FaultyStore) : Except StorageError Unit × FaultyStore :=
  if faulty.unremovable.contains key then (.error (.write key .denied), faulty)
  else (faulty.store.remove key).map id fun store => { faulty with store }

end FaultyStore
end AccessPortal
