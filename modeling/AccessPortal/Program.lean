import AccessPortal.Account.User
import AccessPortal.Log.Record
import AccessPortal.Session.Error

/-!
# Programs

Everything the portal does outside of itself is one of a few operations on the store, the auth
service, the clock and the log. A `Program` is a computation that performs such operations and goes
on with their answers. It says nothing about who answers: a `Handler` does, and the same program
runs over the store in memory, over a directory, over a store that fails at will, over a service
that is scripted or one that is reached by HTTP.

Running a program is running its operations in their order (`Program.run_bind`).
-/

namespace AccessPortal

/-- One operation on what lies outside of the portal, by the type of its answer. -/
inductive Operation : Type → Type where
  | get (key : String) : Operation (Except StorageError (Option String))
  | set (key value : String) : Operation (Except StorageError Unit)
  | remove (key : String) : Operation (Except StorageError Unit)
  | login (credentials : Credentials) : Operation (Except ServiceError Grant)
  | logout (token : String) : Operation (Except ServiceError Unit)
  | currentUser (token : String) : Operation (Except ServiceError Profile)
  /-- The time in milliseconds since the start of 1970. -/
  | now : Operation Int64
  | log (record : Log.Record) : Operation Unit

/-- A computation that performs operations and ends with an answer. -/
inductive Program (α : Type) : Type 1 where
  | done (answer : α)
  | perform {β : Type} (operation : Operation β) (next : β → Program α)

/-- What answers the operations, over a state of its own. -/
def Handler (σ : Type) : Type 1 :=
  {β : Type} → Operation β → σ → β × σ

namespace Program

variable {α β σ : Type}

/-- The program that goes on with the answer of another one. -/
def bind (program : Program α) (next : α → Program β) : Program β :=
  match program with
  | .done answer => next answer
  | .perform operation rest => .perform operation fun reply => (rest reply).bind next

instance : Monad Program where
  pure := .done
  bind := bind

/-- The answer of a program and the state that its operations leave. -/
def run (handler : Handler σ) : Program α → σ → α × σ
  | .done answer, state => (answer, state)
  | .perform operation next, state =>
    let (reply, state) := handler operation state
    (next reply).run handler state

/-- The answer of a program whose operations are carried out by actions. -/
def interpret {m : Type → Type} [Monad m] (serve : {β : Type} → Operation β → m β) :
    Program α → m α
  | .done answer => pure answer
  | .perform operation next => do (next (← serve operation)).interpret serve

/-- The states after each single operation of a program, in order. -/
def states (handler : Handler σ) : Program α → σ → List σ
  | .done _, _ => []
  | .perform operation next, state =>
    let (reply, state) := handler operation state
    state :: (next reply).states handler state

@[simp]
theorem run_done (handler : Handler σ) (answer : α) (state : σ) :
    (done answer).run handler state = (answer, state) :=
  rfl

@[simp]
theorem run_pure (handler : Handler σ) (answer : α) (state : σ) :
    (pure answer : Program α).run handler state = (answer, state) :=
  rfl

@[simp]
theorem run_perform (handler : Handler σ) (operation : Operation β) (next : β → Program α)
    (state : σ) :
    (perform operation next).run handler state =
      (next (handler operation state).1).run handler (handler operation state).2 :=
  rfl

@[simp]
theorem run_bind (handler : Handler σ) (program : Program α) (next : α → Program β)
    (state : σ) :
    (program >>= next).run handler state =
      (next (program.run handler state).1).run handler (program.run handler state).2 := by
  change (program.bind next).run handler state = _
  induction program generalizing state with
  | done answer => rfl
  | perform operation rest ih =>
      simp only [bind, run_perform]
      exact ih _ _

theorem states_bind (handler : Handler σ) (program : Program α) (next : α → Program β)
    (state : σ) :
    (program >>= next).states handler state =
      program.states handler state
        ++ (next (program.run handler state).1).states handler (program.run handler state).2 := by
  change (program.bind next).states handler state = _
  induction program generalizing state with
  | done answer => rfl
  | perform operation rest ih =>
      simp only [bind, states, run_perform, List.cons_append]
      exact congrArg _ (ih _ _)

instance : LawfulMonad Program :=
  LawfulMonad.mk' Program
    (fun program => by
      change program.bind _ = program
      induction program with
      | done answer => rfl
      | perform operation rest ih => exact congrArg (perform operation) (funext ih))
    (fun _ _ => rfl)
    (fun program first second => by
      change (program.bind first).bind second =
        program.bind fun answer => (first answer).bind second
      induction program with
      | done answer => rfl
      | perform operation rest ih => exact congrArg (perform operation) (funext ih))

end Program

/-! ## The operations as programs -/

namespace Store

def get (key : String) : Program (Except StorageError (Option String)) :=
  .perform (.get key) .done

def set (key value : String) : Program (Except StorageError Unit) :=
  .perform (.set key value) .done

def remove (key : String) : Program (Except StorageError Unit) :=
  .perform (.remove key) .done

end Store

namespace Service

def login (credentials : Credentials) : Program (Except ServiceError Grant) :=
  .perform (.login credentials) .done

def logout (token : String) : Program (Except ServiceError Unit) :=
  .perform (.logout token) .done

def currentUser (token : String) : Program (Except ServiceError Profile) :=
  .perform (.currentUser token) .done

end Service

/-- The time in milliseconds since the start of 1970. -/
def Clock.now : Program Int64 :=
  .perform .now .done

namespace Log

def report (record : Record) : Program Unit :=
  .perform (.log record) .done

end Log
end AccessPortal
