import AccessPortal.Proofs.Storage.Agree
import AccessPortal.Proofs.Storage.Contents

/-!
# One store for all

A host keeps one store, in memory or in a directory, and a service beside it. An operation on the
store fails as it may, but by its key and by how often that key was used before. Whatever fails, the
host is faithful to what is read of its store (`Host.faithful`).

A part of what a program can use of a host is some keys, with or without the service. How a part is
used and what it answers depends on the part alone (`Host.handle_agrees`), and shows in no other one
(`Host.handle_beside`).
-/

namespace AccessPortal

/-! ## What is read of a store -/

namespace Storage

open DirectoryStore (SetFaults)

variable {key : String}

def contents : Storage → Contents
  | .memory store => store.entries.find?
  | .directory dir => fun key => (DirectoryStore.get key dir).toOption.join

theorem contents_of_ok {dir after : Directory} {value : Option String}
    (commits : DirectoryStore.Commits key value dir (.ok (), after)) :
    contents (.directory after) = Function.update (contents (.directory dir)) key value := by
  funext other
  by_cases same : other = key
  · subst same
    rw [Function.update_self]
    exact congrArg (·.toOption.join) (commits.done rfl)
  · rw [Function.update_of_ne same]
    exact congrArg (·.toOption.join) (commits.others other same)

theorem contents_of_error {dir after : Directory} {value : Option String} {e : StorageError}
    (commits : DirectoryStore.Commits key value dir (.error e, after)) :
    contents (.directory after) = contents (.directory dir) := by
  funext other
  by_cases same : other = key
  · subst same
    exact congrArg (·.toOption.join) (commits.failed e rfl)
  · exact congrArg (·.toOption.join) (commits.others other same)

theorem admits_get (store : Storage) (key : String) :
    store.contents.Admits (.get key (store.get key)) := by
  cases store with
  | memory store => exact Plan.admits_get store key
  | directory dir =>
      simp only [contents, Storage.get]
      cases read : DirectoryStore.get key dir with
      | error e => trivial
      | ok value => simp [Contents.Admits, read, Except.toOption]

theorem contents_setWith (faults : SetFaults) (key value : String) (store : Storage) :
    (store.setWith faults key value).2.contents =
      store.contents.after (.set key value (store.setWith faults key value).1) := by
  cases store with
  | memory store => exact Plan.after_set store key value
  | directory dir =>
      have commits := DirectoryStore.setWith_commits faults key value dir
      simp only [setWith]
      generalize DirectoryStore.setWith faults key value dir = result at commits ⊢
      obtain ⟨reply, after⟩ := result
      cases reply with
      | ok _ => exact contents_of_ok commits
      | error e => exact contents_of_error commits

theorem contents_removeWith (fault : Bool) (key : String) (store : Storage) :
    (store.removeWith fault key).2.contents =
      store.contents.after (.remove key (store.removeWith fault key).1) := by
  cases store with
  | memory store => exact Plan.after_remove store key
  | directory dir =>
      have commits := DirectoryStore.removeWith_commits fault key dir
      simp only [removeWith]
      generalize DirectoryStore.removeWith fault key dir = result at commits ⊢
      obtain ⟨reply, after⟩ := result
      cases reply with
      | ok _ => exact contents_of_ok commits
      | error e => exact contents_of_error commits

end Storage

/-! ## Hosts -/

/-- What lets the next operation on a key down. -/
structure Mishap where
  /-- The operation is refused before it is tried. -/
  refused? : Option StorageError := none
  set : DirectoryStore.SetFaults := {}
  remove : Bool := false

/-- A store, the number of uses of each key, and the state of the auth service and the clock. -/
structure Host (ω : Type) where
  store : Storage
  uses : String → Nat
  service : ω

namespace Host

variable {ω : Type}

def used (host : Host ω) (key : String) (store : Storage) : Host ω :=
  { host with store, uses := Function.update host.uses key (host.uses key + 1) }

/-- Answers for the store, which is let down by the key and the number of its uses, and hands the
rest to the service. -/
def handle (mishaps : String → Nat → Mishap) (service : Handler ω) : Handler (Host ω) :=
  fun operation host => match operation with
  | .get key =>
    match (mishaps key (host.uses key)).refused? with
    | some e => (.error e, host.used key host.store)
    | none => (host.store.get key, host.used key host.store)
  | .set key value =>
    let mishap := mishaps key (host.uses key)
    match mishap.refused? with
    | some e => (.error e, host.used key host.store)
    | none => (host.store.setWith mishap.set key value).map id (host.used key)
  | .remove key =>
    let mishap := mishaps key (host.uses key)
    match mishap.refused? with
    | some e => (.error e, host.used key host.store)
    | none => (host.store.removeWith mishap.remove key).map id (host.used key)
  | .log _ => ((), host)
  | operation => (service operation host.service).map id fun service => { host with service }

def contents (host : Host ω) : Contents :=
  host.store.contents

/-- Whatever lets it down, the store changes by successful writes only and tells the truth. -/
theorem faithful (mishaps : String → Nat → Mishap) (service : Handler ω) :
    Faithful (handle mishaps service) contents where
  admits operation host := by
    cases operation with
    | get key =>
        simp only [handle]
        split
        · trivial
        · exact host.store.admits_get key
    | _ => trivial
  after operation host := by
    cases operation with
    | get key =>
        simp only [handle]
        split
        · rfl
        · cases host.store.get key <;> rfl
    | set key value =>
        simp only [handle]
        split
        · rfl
        · exact Storage.contents_setWith _ key value host.store
    | remove key =>
        simp only [handle]
        split
        · rfl
        · exact Storage.contents_removeWith _ key host.store
    | _ => rfl

/-! ## Parts of a host -/

/-- The hosts agree on the keys, and on the service if it belongs to the part. -/
structure AgreeFor (keys : List String) (outside : Prop) (first second : Host ω) : Prop where
  store : ∀ key ∈ keys, Storage.AgreeAt key first.store second.store
  uses : ∀ key ∈ keys, first.uses key = second.uses key
  service : outside → first.service = second.service

end Host

/-- It uses some of the keys, or the service if that is allowed, or it reports something. -/
def Event.Within (keys : List String) (outside : Prop) : Event → Prop
  | .get key _ | .set key _ _ | .remove key _ => key ∈ keys
  | .login _ _ | .logout _ _ | .currentUser _ _ | .now _ => outside
  | .log _ => True

namespace Host

variable {ω : Type} {keys : List String} {outside : Prop} {first second : Host ω} {β : Type}
  {mishaps : String → Nat → Mishap} {service : Handler ω}

theorem AgreeFor.refl (host : Host ω) : AgreeFor keys outside host host :=
  ⟨fun key _ => .refl key host.store, fun _ _ => rfl, fun _ => rfl⟩

theorem AgreeFor.trans {third : Host ω} (agree : AgreeFor keys outside first second)
    (agree' : AgreeFor keys outside second third) : AgreeFor keys outside first third where
  store key mem := (agree.store key mem).trans (agree'.store key mem)
  uses key mem := (agree.uses key mem).trans (agree'.uses key mem)
  service asked := (agree.service asked).trans (agree'.service asked)

theorem AgreeFor.used (agree : AgreeFor keys outside first second) {key : String}
    (own : key ∈ keys) {one two : Storage} (stores : ∀ k ∈ keys, Storage.AgreeAt k one two) :
    AgreeFor keys outside (first.used key one) (second.used key two) where
  store := stores
  uses other mem := by
    simp only [Host.used, agree.uses key own, Function.update_apply, agree.uses other mem]
  service := agree.service

/-- How the part is used and what it answers depends on the part alone. -/
theorem handle_agrees (valid : ∀ key ∈ keys, StorageKey.isValid key) {operation : Operation β}
    {reply : β} (within : (operation.event reply).Within keys outside)
    (agree : AgreeFor keys outside first second) :
    (handle mishaps service operation first).1 = (handle mishaps service operation second).1 ∧
      AgreeFor keys outside (handle mishaps service operation first).2
        (handle mishaps service operation second).2 := by
  cases operation with
  | get key =>
      have own : key ∈ keys := within
      simp only [handle, agree.uses key own, Storage.get_agrees (agree.store key own)]
      split
      · exact ⟨rfl, agree.used own agree.store⟩
      · exact ⟨rfl, agree.used own agree.store⟩
  | set key value =>
      have own : key ∈ keys := within
      simp only [handle, agree.uses key own]
      split
      · exact ⟨rfl, agree.used own agree.store⟩
      · exact ⟨(Storage.setWith_agrees (agree.store key own) _ value).1,
          agree.used own (Storage.setWith_agree valid own agree.store _ value)⟩
  | remove key =>
      have own : key ∈ keys := within
      simp only [handle, agree.uses key own]
      split
      · exact ⟨rfl, agree.used own agree.store⟩
      · exact ⟨(Storage.removeWith_agrees (agree.store key own) _).1,
          agree.used own (Storage.removeWith_agree own agree.store _)⟩
  | login | logout | currentUser | now =>
      have asked : outside := within
      simp only [handle, agree.service asked]
      exact ⟨rfl, agree.store, agree.uses, fun _ => rfl⟩
  | log record => exact ⟨rfl, agree⟩

theorem used_beside {key : String} (foreign : key ∉ keys) (host : Host ω) {store : Storage}
    (stores : ∀ k ∈ keys, Storage.AgreeAt k store host.store) :
    AgreeFor keys outside (host.used key store) host where
  store := stores
  uses _ mem := Function.update_of_ne (ne_of_mem_of_not_mem mem foreign) _ _
  service _ := rfl

/-- The use of one part shows in no other. -/
theorem handle_beside (valid : ∀ key ∈ keys, StorageKey.isValid key) {others : List String}
    {beyond : Prop} (apart : ∀ key ∈ others, key ∉ keys) (apart' : beyond → ¬ outside)
    {operation : Operation β} {reply : β}
    (within : (operation.event reply).Within others beyond) (host : Host ω) :
    AgreeFor keys outside (handle mishaps service operation host).2 host := by
  cases operation with
  | get key =>
      have foreign := apart key within
      simp only [handle]
      split
      · exact used_beside foreign host fun k _ => .refl k host.store
      · exact used_beside foreign host fun k _ => .refl k host.store
  | set key value =>
      have foreign := apart key within
      simp only [handle]
      split
      · exact used_beside foreign host fun k _ => .refl k host.store
      · exact used_beside foreign host fun k mem =>
          Storage.setWith_beside (valid k mem) (ne_of_mem_of_not_mem mem foreign) _ value host.store
  | remove key =>
      have foreign := apart key within
      simp only [handle]
      split
      · exact used_beside foreign host fun k _ => .refl k host.store
      · exact used_beside foreign host fun k mem =>
          Storage.removeWith_beside (ne_of_mem_of_not_mem mem foreign) _ host.store
  | login | logout | currentUser | now =>
      have asked : beyond := within
      exact ⟨fun k _ => .refl k host.store, fun _ _ => rfl, fun own => absurd own (apart' asked)⟩
  | log record => exact .refl host

end Host
end AccessPortal
