import AccessPortal.Proofs.Storage.Contents

/-!
# Runs in which nothing fails

A store may fail, and in one run it happens not to. Such a run is also one over a reliable store,
the mended one, which answers from the contents that there should be (`run_mended`). So what holds
of reliable stores holds of every run without failures.
-/

namespace AccessPortal

variable {σ : Type} {handler : Handler σ} {contents : σ → Contents}

def Calm (past : List Event) : Prop :=
  ∀ event ∈ past, ¬ event.StoreFails

instance : DecidablePred Calm := fun past =>
  inferInstanceAs (Decidable (∀ event ∈ past, ¬ event.StoreFails))

/-- Answers for the store from contents kept beside the state, and otherwise as `handler` does. -/
def Handler.mended (handler : Handler σ) : Handler (σ × Contents) := fun operation state =>
  match operation with
  | .get key => (.ok (state.2 key), (handler (.get key) state.1).2, state.2)
  | .set key value =>
    (.ok (), (handler (.set key value) state.1).2, Function.update state.2 key (some value))
  | .remove key =>
    (.ok (), (handler (.remove key) state.1).2, Function.update state.2 key none)
  | operation => ((handler operation state.1).1, (handler operation state.1).2, state.2)

theorem reliable_mended (handler : Handler σ) : Reliable handler.mended Prod.snd where
  admits operation state := by cases operation <;> trivial
  after operation state := by cases operation <;> rfl
  available operation _ state := by cases operation <;> exact id

/-- An operation that does not fail is answered in the same way where nothing can fail. -/
theorem mended_step (faithful : Faithful handler contents) {β : Type} (operation : Operation β)
    (state : σ) (calm : ¬ (operation.event (handler operation state).1).StoreFails) :
    handler.mended operation (state, contents state) =
      ((handler operation state).1, (handler operation state).2,
        contents (handler operation state).2) := by
  have admits := faithful.admits operation state
  have after := faithful.after operation state
  cases operation with
  | get key =>
      cases reply : (handler (.get key) state).1 with
      | error e =>
          rw [reply] at calm
          exact absurd trivial calm
      | ok value =>
          rw [reply] at admits after
          have there : value = contents state key := admits
          rw [after, Handler.mended, there]
          rfl
  | set key value =>
      cases reply : (handler (.set key value) state).1 with
      | error e =>
          rw [reply] at calm
          exact absurd trivial calm
      | ok done =>
          rw [reply] at after
          rw [after]
          rfl
  | remove key =>
      cases reply : (handler (.remove key) state).1 with
      | error e =>
          rw [reply] at calm
          exact absurd trivial calm
      | ok done =>
          rw [reply] at after
          rw [after]
          rfl
  | _ =>
      rw [after]
      rfl

/-- What happened before a program is part of what happened. -/
theorem calm_before {α : Type} (program : Program α) (moment : List Event × σ)
    (calm : Calm (program.run handler.recorded moment).2.1) : Calm moment.1 :=
  fun event mem => calm event (program.mem_recorded handler mem)

/-- A run in which nothing fails is a run over a store that never fails. -/
theorem run_mended (faithful : Faithful handler contents) {α : Type} (program : Program α)
    {moment : List Event × σ} (calm : Calm (program.run handler.recorded moment).2.1) :
    program.run handler.mended (moment.2, contents moment.2) =
      ((program.run handler.recorded moment).1, (program.run handler.recorded moment).2.2,
        contents (program.run handler.recorded moment).2.2) := by
  induction program generalizing moment with
  | done answer => rfl
  | perform operation next ih =>
      have first := calm_before (next (handler operation moment.2).1)
        (handler.recorded operation moment).2 calm
      have step := mended_step faithful operation moment.2
        (first _ (List.mem_append_right _ (List.mem_singleton_self _)))
      rw [Program.run_perform, step]
      exact ih _ calm

end AccessPortal
