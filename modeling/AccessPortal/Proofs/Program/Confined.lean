import AccessPortal.Proofs.Program.Alike
import AccessPortal.Proofs.Program.Events

/-!
# Programs that keep to their own

A program is confined to some events if no run of it records another, whoever answers. Two handlers
that treat these events alike are then alike for the program (`Confined.cannotTell`), and what the
events keep, the program keeps (`Confined.keeps`).
-/

namespace AccessPortal

namespace Program

variable {σ τ α : Type}

/-- Whoever answers, the program adds only events of its own to what is on record. -/
def Confined (own : Event → Prop) (program : Program α) : Prop :=
  ∀ {σ : Type} (handler : Handler σ),
    program.Preserves handler.recorded fun moment => ∀ event ∈ moment.1, own event

variable {first : Handler σ} {second : Handler τ} {alike : σ → τ → Prop} {own : Event → Prop}

/-- Two runs stay alike as long as the events of the first one are such that both handlers treat
alike. -/
theorem run_alike
    (step : ∀ {β : Type} (operation : Operation β) s t, alike s t →
      own (operation.event (first operation s).1) →
        (first operation s).1 = (second operation t).1 ∧
          alike (first operation s).2 (second operation t).2)
    (program : Program α) {past : List Event} {s : σ} {t : τ} (same : alike s t)
    (owned : ∀ event ∈ (program.run first.recorded (past, s)).2.1, own event) :
    (program.run first s).1 = (program.run second t).1 ∧
      alike (program.run first s).2 (program.run second t).2 := by
  induction program generalizing past s t with
  | done answer => exact ⟨rfl, same⟩
  | perform operation next ih =>
      have happened : own (operation.event (first operation s).1) :=
        owned _ ((next (first operation s).1).mem_recorded first
          (List.mem_append_right past (List.mem_singleton_self _)))
      obtain ⟨replies, same'⟩ := step operation s t same happened
      rw [run_perform, run_perform, ← replies]
      exact ih _ same' owned

namespace Confined

variable {program : Program α}

theorem cannotTell (confined : Confined own program)
    (step : ∀ {β : Type} (operation : Operation β) s t, alike s t →
      own (operation.event (first operation s).1) →
        (first operation s).1 = (second operation t).1 ∧
          alike (first operation s).2 (second operation t).2) :
    CannotTell first second alike program := by
  intro s t same
  have start : ∀ event ∈ (([], s) : List Event × σ).1, own event := nofun
  exact run_alike step program same ((confined first).ends start).outcome

/-- What each event of its own keeps, the program keeps. -/
theorem keeps {inv : σ → Prop} (confined : Confined own program)
    (step : ∀ {β : Type} (operation : Operation β) s, inv s →
      own (operation.event (first operation s).1) → inv (first operation s).2)
    {s : σ} (holds : inv s) : inv (program.run first s).2 := by
  have told : CannotTell first first (fun s t => s = t ∧ inv s) program := by
    refine confined.cannotTell fun operation s t same owned => ?_
    obtain ⟨rfl, holds⟩ := same
    exact ⟨rfl, rfl, step operation s holds owned⟩
  exact (told s s ⟨rfl, holds⟩).2.2

end Confined
end Program
end AccessPortal
