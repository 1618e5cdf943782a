import AccessPortal.Proofs.Program.Upholds

/-!
# Events

An event is an operation together with its answer. A recorded handler keeps the list of everything
that has happened so far beside the state, so that a statement about a run can speak of its past.

`Program.Performs` says that a program goes through certain events to a certain end. It mentions no
handler: the events determine what the program does next. Each run performs the events that it
records (`Program.recorded_performs`).
-/

namespace AccessPortal

inductive Event where
  | get (key : String) (reply : Except StorageError (Option String))
  | set (key value : String) (reply : Except StorageError Unit)
  | remove (key : String) (reply : Except StorageError Unit)
  | login (credentials : Credentials) (reply : Except ServiceError Grant)
  | logout (token : String) (reply : Except ServiceError Unit)
  | currentUser (token : String) (reply : Except ServiceError Profile)
  | now (time : Int64)
  | log (record : Log.Record)

def Operation.event {β : Type} : Operation β → β → Event
  | .get key => .get key
  | .set key value => .set key value
  | .remove key => .remove key
  | .login credentials => .login credentials
  | .logout token => .logout token
  | .currentUser token => .currentUser token
  | .now => .now
  | .log record => fun _ => .log record

/-- Answers as `handler` does and writes down what happens. -/
def Handler.recorded {σ : Type} (handler : Handler σ) : Handler (List Event × σ) :=
  fun operation (past, state) =>
    let (reply, state) := handler operation state
    (reply, past ++ [operation.event reply], state)

/-- Writing down an event leaves nothing of another kind on record. -/
theorem own_recorded {β σ : Type} {own : Event → Prop} (handler : Handler σ)
    {operation : Operation β} (owned : ∀ reply, own (operation.event reply))
    (moment : List Event × σ) (before : ∀ event ∈ moment.1, own event) :
    ∀ event ∈ (handler.recorded operation moment).2.1, own event := by
  intro event mem
  rcases List.mem_append.mp mem with mem | mem
  · exact before event mem
  · rw [List.mem_singleton.mp mem]
    exact owned _

namespace Program

variable {α β ε σ : Type} {handler : Handler σ}

/-- The program goes through the events in their order and ends with the answer. -/
inductive Performs : Program α → List Event → α → Prop where
  | done (answer : α) : Performs (.done answer) [] answer
  | perform {β : Type} (operation : Operation β) (reply : β) {next : β → Program α}
      {events : List Event} {answer : α} (rest : Performs (next reply) events answer) :
      Performs (.perform operation next) (operation.event reply :: events) answer

theorem performs_operation (operation : Operation β) (reply : β) :
    Performs (.perform operation .done) [operation.event reply] reply :=
  .perform operation reply (.done reply)

theorem Performs.bind {program : Program α} {next : α → Program β} {first rest : List Event}
    {a : α} {b : β} (begins : Performs program first a) (ends : Performs (next a) rest b) :
    Performs (program >>= next) (first ++ rest) b := by
  induction begins with
  | done answer => exact ends
  | perform operation reply _ ih => exact .perform operation reply (ih ends)

theorem Performs.of_bind {program : Program α} {next : α → Program β} {events : List Event}
    {b : β} (performs : Performs (program >>= next) events b) :
    ∃ first rest a, events = first ++ rest ∧ Performs program first a ∧
      Performs (next a) rest b := by
  induction program generalizing events with
  | done answer => exact ⟨[], events, answer, rfl, .done answer, performs⟩
  | perform operation continuation ih =>
      cases performs with
      | perform operation reply performs =>
          obtain ⟨first, rest, a, rfl, begins, ends⟩ := ih reply performs
          exact ⟨_, rest, a, rfl, .perform operation reply begins, ends⟩

/-- What a program still makes of its answer at the end is no event. -/
theorem Performs.of_map {program : Program α} {f : α → β} {events : List Event} {b : β}
    (performs : Performs (program >>= fun a => pure (f a)) events b) :
    ∃ a, Performs program events a ∧ b = f a := by
  obtain ⟨first, rest, a, rfl, begins, ends⟩ := Performs.of_bind performs
  cases ends
  exact ⟨a, by rwa [List.append_nil], rfl⟩

theorem performs_operation_iff {operation : Operation β} {events : List Event} {reply : β} :
    Performs (.perform operation .done) events reply ↔ events = [operation.event reply] := by
  constructor
  · intro performs
    cases performs with
    | perform operation reply rest =>
        cases rest
        rfl
  · intro same
    subst same
    exact performs_operation operation reply

/-- A program that may stop with an error gets through if both of its parts do. -/
theorem performs_exceptBind_iff {program : ExceptT ε Program α} {next : α → ExceptT ε Program β}
    {events : List Event} {b : β} :
    Performs (program >>= next).run events (.ok b) ↔
      ∃ first rest a, events = first ++ rest ∧ Performs program.run first (.ok a) ∧
        Performs (next a).run rest (.ok b) := by
  constructor
  · intro performs
    obtain ⟨first, rest, result, rfl, begins, ends⟩ := Performs.of_bind performs
    cases result with
    | ok a => exact ⟨first, rest, a, rfl, begins, ends⟩
    | error e => nomatch ends
  · intro h
    obtain ⟨first, rest, a, rfl, begins, ends⟩ := h
    exact Performs.bind begins ends

/-- A single operation that gets through is an event of its own. -/
theorem performs_exceptBind_operation_iff {operation : Operation (Except ε α)}
    {next : α → ExceptT ε Program β} {events : List Event} {b : β} :
    Performs (ExceptT.mk (.perform operation .done) >>= next).run events (.ok b) ↔
      ∃ a rest, events = operation.event (.ok a) :: rest ∧
        Performs (next a).run rest (.ok b) := by
  rw [performs_exceptBind_iff]
  constructor
  · intro h
    obtain ⟨first, rest, a, rfl, begins, ends⟩ := h
    have event : first = [operation.event (.ok a)] := performs_operation_iff.mp begins
    rw [event]
    exact ⟨a, rest, rfl, ends⟩
  · intro h
    obtain ⟨a, rest, rfl, ends⟩ := h
    exact ⟨_, rest, a, rfl, performs_operation operation (.ok a), ends⟩

/-- Recording changes nothing else about a run. -/
theorem run_recorded (handler : Handler σ) (program : Program α) (past : List Event) (state : σ) :
    (program.run handler.recorded (past, state)).1 = (program.run handler state).1 ∧
      (program.run handler.recorded (past, state)).2.2 = (program.run handler state).2 := by
  induction program generalizing past state with
  | done answer => exact ⟨rfl, rfl⟩
  | perform operation next ih => exact ih _ _ _

/-- A run performs what it records. -/
theorem recorded_performs (handler : Handler σ) (program : Program α) (past : List Event)
    (state : σ) :
    ∃ events, (program.run handler.recorded (past, state)).2.1 = past ++ events ∧
      Performs program events (program.run handler.recorded (past, state)).1 := by
  induction program generalizing past state with
  | done answer => exact ⟨[], by simp, .done answer⟩
  | perform operation next ih =>
      obtain ⟨events, recorded, performs⟩ :=
        ih (handler operation state).1 (past ++ [operation.event (handler operation state).1])
          (handler operation state).2
      refine ⟨operation.event (handler operation state).1 :: events, ?_,
        .perform operation _ performs⟩
      rw [run_perform]
      exact recorded.trans (List.append_assoc ..)

/-- What happened before a program stays on record. -/
theorem mem_recorded (handler : Handler σ) (program : Program α) {moment : List Event × σ}
    {event : Event} (mem : event ∈ moment.1) :
    event ∈ (program.run handler.recorded moment).2.1 := by
  obtain ⟨events, recorded, -⟩ := program.recorded_performs handler moment.1 moment.2
  have split : (program.run handler.recorded moment).2.1 = moment.1 ++ events := recorded
  rw [split]
  exact List.mem_append_left events mem

end Program
end AccessPortal
