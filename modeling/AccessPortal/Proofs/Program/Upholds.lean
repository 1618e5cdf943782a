import AccessPortal.Program

/-!
# What a run upholds

A judgement about one run of a program: a condition holds after each single operation, and another
one holds of the answer and the last state. It is composed along the program, so that nothing has to
be said about the run of a long program but what its parts uphold. Nothing is assumed about who
answers the operations.

`Program.Preserves` is the case of an invariant: where it holds before the run it holds after each
operation, and so also if the run is cut off at any point.
-/

namespace AccessPortal
namespace Program

variable {α β ε σ : Type} {handler : Handler σ} {inv inv' : σ → Prop}

/-- The run keeps `inv` after each operation and ends with an answer and a state as `post` says. -/
structure Upholds (handler : Handler σ) (inv : σ → Prop) (post : α → σ → Prop)
    (program : Program α) (state : σ) : Prop where
  throughout : ∀ s ∈ program.states handler state, inv s
  outcome : post (program.run handler state).1 (program.run handler state).2

namespace Upholds

theorem pure {post : α → σ → Prop} {answer : α} {state : σ} (ends : post answer state) :
    Upholds handler inv post (Pure.pure answer) state :=
  ⟨fun _ mem => (nomatch mem), ends⟩

theorem perform {post : α → σ → Prop} {operation : Operation β} {next : β → Program α} {state : σ}
    (kept : inv (handler operation state).2)
    (rest : Upholds handler inv post (next (handler operation state).1)
      (handler operation state).2) :
    Upholds handler inv post (.perform operation next) state := by
  refine ⟨?_, rest.outcome⟩
  intro s mem
  rcases List.mem_cons.mp mem with rfl | mem
  · exact kept
  · exact rest.throughout s mem

/-- A program that is a single operation. -/
theorem operation {post : β → σ → Prop} {operation : Operation β} {state : σ}
    (kept : inv (handler operation state).2)
    (ends : post (handler operation state).1 (handler operation state).2) :
    Upholds handler inv post (.perform operation .done) state :=
  perform kept (pure ends)

theorem bind {middle : α → σ → Prop} {post : β → σ → Prop} {program : Program α}
    {next : α → Program β} {state : σ} (first : Upholds handler inv middle program state)
    (rest : ∀ a s, middle a s → Upholds handler inv post (next a) s) :
    Upholds handler inv post (program >>= next) state := by
  have second := rest _ _ first.outcome
  refine ⟨?_, ?_⟩
  · intro s mem
    rw [states_bind] at mem
    rcases List.mem_append.mp mem with mem | mem
    · exact first.throughout s mem
    · exact second.throughout s mem
  · rw [run_bind]
    exact second.outcome

/-- A program whose answer is known hands it on. -/
theorem exceptBind_known {middle : σ → Prop} {post : Except ε β → σ → Prop} {a : α}
    {program : ExceptT ε Program α} {next : α → ExceptT ε Program β} {state : σ}
    (first : Upholds handler inv (fun result s => result = .ok a ∧ middle s) program.run state)
    (rest : ∀ s, middle s → Upholds handler inv post (next a).run s) :
    Upholds handler inv post (program >>= next).run state := by
  apply bind first
  intro _ s ends
  obtain ⟨rfl, holds⟩ := ends
  exact rest s holds

theorem mono {post post' : α → σ → Prop} {program : Program α} {state : σ}
    (upholds : Upholds handler inv post program state) (keeps : ∀ s, inv s → inv' s)
    (ends : ∀ a s, post a s → post' a s) : Upholds handler inv' post' program state :=
  ⟨fun s mem => keeps s (upholds.throughout s mem), ends _ _ upholds.outcome⟩

/-- Of a run that upholds something, the end alone is kept, and what follows from it. -/
theorem imp {post post' : α → σ → Prop} {program : Program α} {state : σ}
    (upholds : Upholds handler inv post program state) (ends : ∀ a s, post a s → post' a s) :
    Upholds handler (fun _ => True) post' program state :=
  upholds.mono (fun _ _ => trivial) ends

theorem and {post post' : α → σ → Prop} {program : Program α} {state : σ}
    (upholds : Upholds handler inv post program state)
    (ends : Upholds handler inv' post' program state) :
    Upholds handler inv (fun a s => post a s ∧ post' a s) program state :=
  ⟨upholds.throughout, upholds.outcome, ends.outcome⟩

end Upholds

/-- The run ends with an answer and a state as `post` says. -/
abbrev Ends (handler : Handler σ) (post : α → σ → Prop) (program : Program α) (state : σ) : Prop :=
  Upholds handler (fun _ => True) post program state

/-- A run ends, whatever it does. -/
theorem ends_any (program : Program α) (state : σ) : program.Ends handler (fun _ _ => True) state :=
  ⟨fun _ _ => trivial, trivial⟩

def Preserves (handler : Handler σ) (inv : σ → Prop) (program : Program α) : Prop :=
  ∀ state, inv state → Upholds handler inv (fun _ => inv) program state

namespace Preserves

theorem ends {program : Program α} (preserves : Preserves handler inv program) {state : σ}
    (holds : inv state) : program.Ends handler (fun _ => inv) state :=
  (preserves state holds).imp fun _ _ kept => kept

theorem pure (answer : α) : Preserves handler inv (Pure.pure answer) :=
  fun _ holds => .pure holds

theorem operation {operation : Operation β}
    (kept : ∀ state, inv state → inv (handler operation state).2) :
    Preserves handler inv (.perform operation .done) :=
  fun state holds => .operation (kept state holds) (kept state holds)

theorem bind {program : Program α} {next : α → Program β}
    (first : Preserves handler inv program) (rest : ∀ a, Preserves handler inv (next a)) :
    Preserves handler inv (program >>= next) :=
  fun state holds => (first state holds).bind fun a s kept => rest a s kept

theorem exceptBind {program : ExceptT ε Program α} {next : α → ExceptT ε Program β}
    (first : Preserves handler inv program.run) (rest : ∀ a, Preserves handler inv (next a).run) :
    Preserves handler inv (program >>= next).run := by
  refine bind first fun result => ?_
  cases result with
  | ok a => exact rest a
  | error e => exact pure _

end Preserves
end Program
end AccessPortal
