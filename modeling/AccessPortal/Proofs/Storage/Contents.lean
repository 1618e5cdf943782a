import AccessPortal.Proofs.Program.Events
import AccessPortal.Storage.InMemory
import Mathlib.Logic.Function.Basic

/-!
# What a store holds

The contents of a store are what it holds under each key. A handler is `Faithful` to the contents of
its state if they change by nothing but successful writes and are what successful reads answer; any
single operation may fail, and a failed one changes nothing. If that is said of the keys of the
session alone, they are `Undisturbed`. It is `Reliable` if no operation on the store fails at all
under a valid key. Nothing is said about the auth service and the clock, whose
answers are arbitrary.

The store in memory is faithful whatever makes its operations fail (`Plan.faithful`).
-/

namespace AccessPortal

abbrev Contents : Type :=
  String → Option String

namespace Contents

def after (contents : Contents) : Event → Contents
  | .set key value (.ok ()) => Function.update contents key (some value)
  | .remove key (.ok ()) => Function.update contents key none
  | _ => contents

/-- What an event claims to have read is what is there. -/
def Admits (contents : Contents) : Event → Prop
  | .get key (.ok value) => value = contents key
  | _ => True

/-- Answers from the contents and never fails. No service can be reached. -/
def serve : Handler Contents := fun operation contents =>
  match operation with
  | .get key => (.ok (contents key), contents)
  | .set key value => (.ok (), Function.update contents key (some value))
  | .remove key => (.ok (), Function.update contents key none)
  | .login _ => (.error .transport, contents)
  | .logout _ => (.error .transport, contents)
  | .currentUser _ => (.error .transport, contents)
  | .now => (0, contents)
  | .log _ => ((), contents)

end Contents

def Event.StoreFails : Event → Prop
  | .get _ (.error _) | .set _ _ (.error _) | .remove _ (.error _) => True
  | _ => False

instance : DecidablePred Event.StoreFails
  | .get _ (.error _) | .set _ _ (.error _) | .remove _ (.error _) => .isTrue trivial
  | .get _ (.ok _) | .set _ _ (.ok _) | .remove _ (.ok _) => .isFalse id
  | .login _ _ | .logout _ _ | .currentUser _ _ | .now _ | .log _ => .isFalse id

def Operation.HasValidKey {β : Type} : Operation β → Prop
  | .get key | .set key _ | .remove key => StorageKey.isValid key
  | _ => True

section

variable {σ : Type} {handler : Handler σ} {contents : σ → Contents}

/-- The contents change by successful writes only, and reads that succeed tell them. -/
structure Faithful (handler : Handler σ) (contents : σ → Contents) : Prop where
  admits : ∀ {β : Type} (operation : Operation β) (state : σ),
    (contents state).Admits (operation.event (handler operation state).1)
  after : ∀ {β : Type} (operation : Operation β) (state : σ),
    contents (handler operation state).2 =
      (contents state).after (operation.event (handler operation state).1)

structure Reliable (handler : Handler σ) (contents : σ → Contents) : Prop
    extends Faithful handler contents where
  available : ∀ {β : Type} (operation : Operation β), operation.HasValidKey → ∀ state,
    ¬ (operation.event (handler operation state).1).StoreFails

theorem Faithful.recorded (faithful : Faithful handler contents) :
    Faithful handler.recorded fun moment : List Event × σ => contents moment.2 where
  admits operation moment := faithful.admits operation moment.2
  after operation moment := faithful.after operation moment.2

theorem Faithful.set_ends (faithful : Faithful handler contents) (key value : String) (state : σ) :
    (Store.set key value).Ends handler
      (fun reply next => contents next = (contents state).after (.set key value reply)) state :=
  .operation trivial (faithful.after (.set key value) state)

theorem Faithful.remove_ends (faithful : Faithful handler contents) (key : String) (state : σ) :
    (Store.remove key).Ends handler
      (fun reply next => contents next = (contents state).after (.remove key reply)) state :=
  .operation trivial (faithful.after (.remove key) state)

/-- Nothing but the session itself writes its keys, and what is read of them is there. -/
structure Undisturbed (handler : Handler σ) (contents : σ → Contents) : Prop where
  admits : ∀ key ∈ StorageKey.sessionKeys, ∀ state,
    (contents state).Admits (.get key (handler (.get key) state).1)
  after : ∀ {β : Type} (operation : Operation β) (state : σ), ∀ key ∈ StorageKey.sessionKeys,
    contents (handler operation state).2 key =
      (contents state).after (operation.event (handler operation state).1) key

theorem Faithful.undisturbed (faithful : Faithful handler contents) :
    Undisturbed handler contents where
  admits key _ state := faithful.admits (.get key) state
  after operation state key _ := congrFun (faithful.after operation state) key

theorem Undisturbed.recorded (undisturbed : Undisturbed handler contents) :
    Undisturbed handler.recorded fun moment : List Event × σ => contents moment.2 where
  admits key own moment := undisturbed.admits key own moment.2
  after operation moment key own := undisturbed.after operation moment.2 key own

namespace Reliable

theorem get (reliable : Reliable handler contents) {key : String}
    (valid : StorageKey.isValid key) (state : σ) :
    (handler (.get key) state).1 = .ok (contents state key) ∧
      contents (handler (.get key) state).2 = contents state := by
  have admits := reliable.admits (.get key) state
  have after := reliable.after (.get key) state
  have available := reliable.available (.get key) valid state
  cases reply : (handler (.get key) state).1 with
  | error e => simp [reply, Operation.event, Event.StoreFails] at available
  | ok value =>
      rw [reply] at admits after
      exact ⟨congrArg Except.ok admits, after⟩

theorem set (reliable : Reliable handler contents) {key : String}
    (valid : StorageKey.isValid key) (value : String) (state : σ) :
    (handler (.set key value) state).1 = .ok () ∧
      contents (handler (.set key value) state).2 =
        Function.update (contents state) key (some value) := by
  have after := reliable.after (.set key value) state
  have available := reliable.available (.set key value) valid state
  cases reply : (handler (.set key value) state).1 with
  | error e => simp [reply, Operation.event, Event.StoreFails] at available
  | ok _ =>
      rw [reply] at after
      exact ⟨rfl, after⟩

theorem remove (reliable : Reliable handler contents) {key : String}
    (valid : StorageKey.isValid key) (state : σ) :
    (handler (.remove key) state).1 = .ok () ∧
      contents (handler (.remove key) state).2 =
        Function.update (contents state) key none := by
  have after := reliable.after (.remove key) state
  have available := reliable.available (.remove key) valid state
  cases reply : (handler (.remove key) state).1 with
  | error e => simp [reply, Operation.event, Event.StoreFails] at available
  | ok _ =>
      rw [reply] at after
      exact ⟨rfl, after⟩

theorem set_ends (reliable : Reliable handler contents) {key : String}
    (valid : StorageKey.isValid key) (value : String) (state : σ) :
    (Store.set key value).Ends handler
      (fun reply next => reply = .ok () ∧
        contents next = Function.update (contents state) key (some value))
      state :=
  .operation trivial (reliable.set valid value state)

theorem remove_ends (reliable : Reliable handler contents) {key : String}
    (valid : StorageKey.isValid key) (state : σ) :
    (Store.remove key).Ends handler
      (fun reply next => reply = .ok () ∧
        contents next = Function.update (contents state) key none)
      state :=
  .operation trivial (reliable.remove valid state)

end Reliable
end

theorem Contents.reliable_serve : Reliable serve id where
  admits operation contents := by cases operation <;> trivial
  after operation contents := by cases operation <;> rfl
  available operation _ contents := by cases operation <;> exact id

theorem Table.find?_eq_none {α : Type} {name : String} {table : Table α}
    (absent : name ∉ table.map (·.1)) : table.find? name = none := by
  induction table with
  | nil => rfl
  | cons entry table ih =>
      simp only [List.map_cons, List.mem_cons, not_or] at absent
      rw [find?, if_neg (Ne.symm absent.1), ih absent.2]

theorem Table.find?_append {α : Type} (name : String) (first second : Table α) :
    Table.find? name (first ++ second) = (first.find? name).or (second.find? name) := by
  induction first with
  | nil => rfl
  | cons entry first ih =>
      simp only [List.cons_append, find?]
      split
      · rfl
      · exact ih

namespace Contents

def without (contents : Contents) (keys : List String) : Contents := fun key =>
  if key ∈ keys then none else contents key

def having (contents : Contents) (table : Table String) : Contents := fun key =>
  (table.find? key).or (contents key)

theorem without_nil (contents : Contents) : contents.without [] = contents := by
  funext key
  simp [without]

theorem without_cons (contents : Contents) (first : String) (keys : List String) :
    Contents.without (Function.update contents first none) keys =
      contents.without (first :: keys) := by
  funext key
  unfold without
  by_cases same : key = first
  · simp [same]
  · simp [same]

theorem without_of_mem (contents : Contents) {key : String} {keys : List String}
    (mem : key ∈ keys) : contents.without keys key = none :=
  if_pos mem

/-- Entries of different keys may be put one after the other. -/
theorem having_cons (contents : Contents) {name : String} (value : String) {table : Table String}
    (fresh : name ∉ table.map (·.1)) :
    Contents.having (Function.update contents name (some value)) table =
      contents.having ((name, value) :: table) := by
  funext key
  unfold having
  by_cases same : name = key
  · subst same
    have absent : table.find? name = none := Table.find?_eq_none fresh
    simp [Table.find?, absent]
  · simp [Table.find?, same, Function.update_of_ne (Ne.symm same)]

end Contents

/-! ## A store in memory that fails as planned -/

theorem Table.find?_put (table : Table String) (key value : String) :
    (table.put key value).find? = Function.update table.find? key (some value) := by
  funext other
  by_cases same : other = key
  · subst same
    rw [find?_put_self, Function.update_self]
  · rw [find?_put_of_ne same, Function.update_of_ne same]

theorem Table.find?_erase (table : Table String) (key : String) :
    (table.erase key).find? = Function.update table.find? key none := by
  funext other
  by_cases same : other = key
  · subst same
    rw [find?_erase_self, Function.update_self]
  · rw [find?_erase_of_ne same, Function.update_of_ne same]

/-- What happens at each operation, by how many operations came before it. -/
structure Plan where
  /-- The failure of an operation on the store that does not get through. -/
  fault? : Nat → Option StorageError := fun _ => none
  login : Nat → Except ServiceError Grant := fun _ => .error .transport
  logout : Nat → Except ServiceError Unit := fun _ => .error .transport
  currentUser : Nat → Except ServiceError Profile := fun _ => .error .transport
  now : Nat → Int64 := fun _ => 0

namespace Plan

structure World where
  entries : Table String := []
  count : Nat := 0

def World.contents (world : World) : Contents :=
  world.entries.find?

/-- Answers by the plan, and from the store in memory where the plan lets an operation through. -/
def handle (plan : Plan) : Handler World := fun operation world =>
  let store : MemoryStore := { entries := world.entries }
  let next (store : MemoryStore) : World := ⟨store.entries, world.count + 1⟩
  match operation with
  | .get key =>
    match plan.fault? world.count with
    | some e => (.error e, next store)
    | none => (store.get key, next store)
  | .set key value =>
    match plan.fault? world.count with
    | some e => (.error e, next store)
    | none => (store.set key value).map id next
  | .remove key =>
    match plan.fault? world.count with
    | some e => (.error e, next store)
    | none => (store.remove key).map id next
  | .login _ => (plan.login world.count, next store)
  | .logout _ => (plan.logout world.count, next store)
  | .currentUser _ => (plan.currentUser world.count, next store)
  | .now => (plan.now world.count, next store)
  | .log _ => ((), next store)

theorem admits_get (store : MemoryStore) (key : String) :
    Contents.Admits store.entries.find? (.get key (store.get key)) := by
  unfold MemoryStore.get
  cases StorageKey.check key with
  | error e => trivial
  | ok _ => rfl

theorem after_set (store : MemoryStore) (key value : String) :
    (store.set key value).2.entries.find? =
      Contents.after store.entries.find? (.set key value (store.set key value).1) := by
  unfold MemoryStore.set
  cases store.checkWritable key with
  | error e => rfl
  | ok _ =>
      by_cases rejected : store.rejectedKeys.contains key = true
      · simp only [rejected, if_true]
        rfl
      · simp only [rejected]
        exact Table.find?_put store.entries key value

theorem after_remove (store : MemoryStore) (key : String) :
    (store.remove key).2.entries.find? =
      Contents.after store.entries.find? (.remove key (store.remove key).1) := by
  unfold MemoryStore.remove
  cases store.checkWritable key with
  | error e => rfl
  | ok _ => exact Table.find?_erase store.entries key

/-- Whatever fails, the store in memory changes by successful writes only and tells the truth. -/
theorem faithful (plan : Plan) : Faithful plan.handle World.contents where
  admits operation world := by
    cases operation with
    | get key =>
        simp only [handle]
        split
        · trivial
        · exact admits_get { entries := world.entries } key
    | _ => trivial
  after operation world := by
    cases operation with
    | get key =>
        simp only [handle]
        split
        · rfl
        · cases reply : MemoryStore.get key { entries := world.entries } <;> rfl
    | set key value =>
        simp only [handle]
        split
        · rfl
        · exact after_set { entries := world.entries } key value
    | remove key =>
        simp only [handle]
        split
        · rfl
        · exact after_remove { entries := world.entries } key
    | _ => rfl

/-- Where nothing is planned to fail, the store in memory is reliable. -/
theorem reliable {plan : Plan} (calm : ∀ n, plan.fault? n = none) :
    Reliable plan.handle World.contents where
  toFaithful := plan.faithful
  available operation valid world := by
    have check (key : String) (isValid : StorageKey.isValid key) :
        StorageKey.check key = .ok () :=
      if_pos isValid
    cases operation with
    | get key =>
        have reply : (plan.handle (.get key) world).1 = .ok (world.entries.find? key) := by
          simp only [handle, calm, MemoryStore.get, check key valid]
          rfl
        simp [reply, Operation.event, Event.StoreFails]
    | set key value =>
        have reply : (plan.handle (.set key value) world).1 = .ok () := by
          simp [handle, calm, MemoryStore.set, MemoryStore.checkWritable, check key valid]
        simp [reply, Operation.event, Event.StoreFails]
    | remove key =>
        have reply : (plan.handle (.remove key) world).1 = .ok () := by
          simp [handle, calm, MemoryStore.remove, MemoryStore.checkWritable, check key valid]
        simp [reply, Operation.event, Event.StoreFails]
    | _ => exact id

/-- A service that signs everyone in as one user, whose role is another one later. -/
def welcoming : Plan where
  login _ := .ok ⟨"token", some "refresh", ⟨"u-1", "auditor", "Ada", "ada@example.org", ""⟩⟩
  currentUser _ := .ok ⟨"u-1", "manager", "Ada", "ada@example.org", ""⟩
  now k := Int64.ofNat k

/-- The same service over a store that fails from some operation on. -/
def denyingFrom (n : Nat) : Plan :=
  { welcoming with fault? := fun k => if n ≤ k then some (.writeRejected "denied") else none }

end Plan
end AccessPortal
