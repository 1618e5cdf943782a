import AccessPortal.Program

/-!
# States that a program cannot tell apart

Two states are alike if each operation of a program is answered in the same way in both and leaves
states that are alike again. The two may belong to different handlers. What a program answers is
then the same in both, and this is composed along the program as its other judgements are.
-/

namespace AccessPortal
namespace Program

variable {α β σ τ : Type} {first : Handler σ} {second : Handler τ} {alike : σ → τ → Prop}

/-- In states that are alike, the program gives the same answer and leaves states that are alike. -/
def CannotTell (first : Handler σ) (second : Handler τ) (alike : σ → τ → Prop)
    (program : Program α) : Prop :=
  ∀ s t, alike s t →
    (program.run first s).1 = (program.run second t).1 ∧
      alike (program.run first s).2 (program.run second t).2

namespace CannotTell

theorem pure (answer : α) : CannotTell first second alike (Pure.pure answer) :=
  fun _ _ same => ⟨rfl, same⟩

theorem operation {operation : Operation β}
    (same : ∀ s t, alike s t → (first operation s).1 = (second operation t).1 ∧
      alike (first operation s).2 (second operation t).2) :
    CannotTell first second alike (.perform operation .done) :=
  same

theorem bind {program : Program α} {next : α → Program β}
    (before : CannotTell first second alike program)
    (rest : ∀ a, CannotTell first second alike (next a)) :
    CannotTell first second alike (program >>= next) := by
  intro s t same
  obtain ⟨answers, states⟩ := before s t same
  rw [run_bind, run_bind, answers]
  exact rest _ _ _ states

end CannotTell
end Program
end AccessPortal
