import AccessPortal.Proofs.Forms.Unsaved
import AccessPortal.Proofs.Storage.Shared

/-!
# Edits that fail

An edit that fails changes neither the working copy nor what is stored, whichever it is and for
whatever reason. So it can be tried again, and what succeeds in the end comes to the same as if it
had succeeded at once (`failures_leave_no_trace`).
-/

namespace AccessPortal
namespace WorkingCopy

variable {σ : Type} {handler : Handler σ} {contents : σ → Contents} {copy : WorkingCopy}

/-- The edit answers with an error, or there is no such move. -/
def Edit.Fails : (edit : Edit) → edit.Reply → Prop
  | .moveField _ _ _, reply => reply = .ok false ∨ ∃ e, reply = .error e
  | .updateField _ _ _, reply | .updateForm _ _, reply | .addField _ _, reply
  | .removeField _ _, reply | .save, reply | .reset, reply => ∃ e, reply = .error e

/-- An attempt that fails has changed nothing, and one that does not fail is what it would be over a
store that never does. -/
structure ComesTo (copy : WorkingCopy) (store : Contents) (edit : Edit)
    (ended : edit.Reply × WorkingCopy) (after : Contents) : Prop where
  unchanged : edit.Fails ended.1 → ended.2 = copy ∧ after = store
  ideal : ¬ edit.Fails ended.1 → (edit.attempt copy).run Contents.serve store = (ended, after)

theorem ComesTo.failure {store : Contents} {edit : Edit} {reply : edit.Reply}
    (fails : edit.Fails reply) : ComesTo copy store edit (reply, copy) store :=
  ⟨fun _ => ⟨rfl, rfl⟩, fun succeeds => absurd fails succeeds⟩

theorem ComesTo.success {store after : Contents} {edit : Edit} {ended : edit.Reply × WorkingCopy}
    (succeeds : ¬ edit.Fails ended.1)
    (same : (edit.attempt copy).run Contents.serve store = (ended, after)) :
    ComesTo copy store edit ended after :=
  ⟨fun fails => absurd fails succeeds, fun _ => same⟩

/-! ## One attempt -/

/-- An edit that does not ask the store is the same over every store. -/
theorem comesTo_of_pure {edit : Edit} {result : edit.Reply × WorkingCopy} (s : σ)
    (pure : edit.attempt copy = Pure.pure result)
    (unchanged : edit.Fails result.1 → result.2 = copy) :
    (edit.attempt copy).Ends handler
      (fun ended last => ComesTo copy (contents s) edit ended (contents last)) s := by
  rw [pure]
  refine .pure ?_
  by_cases fails : edit.Fails result.1
  · obtain ⟨reply, after⟩ := result
    cases unchanged fails
    exact .failure fails
  · refine .success fails ?_
    rw [pure, Program.run_pure]

theorem save_comesTo (faithful : Faithful handler contents) (copy : WorkingCopy) (s : σ) :
    copy.save.Ends handler
      (fun ended last => ComesTo copy (contents s) .save ended (contents last)) s := by
  refine (faithful.set_ends _ _ s).bind fun reply next after => ?_
  cases reply with
  | error e =>
      have same : contents next = contents s := after
      refine report_ends faithful _ _ _ fun last kept => .pure ?_
      rw [kept, same]
      exact .failure ⟨_, rfl⟩
  | ok _ =>
      refine report_ends faithful _ _ _ fun last kept => .pure ?_
      rw [kept, after]
      exact .success nofun rfl

theorem reset_comesTo (faithful : Faithful handler contents) (copy : WorkingCopy) (s : σ) :
    copy.reset.Ends handler
      (fun ended last => ComesTo copy (contents s) .reset ended (contents last)) s := by
  refine (faithful.remove_ends _ s).bind fun reply next after => ?_
  cases reply with
  | error e =>
      have same : contents next = contents s := after
      refine .pure ?_
      rw [same]
      exact .failure ⟨_, rfl⟩
  | ok _ =>
      refine report_ends faithful _ _ _ fun last kept => .pure ?_
      rw [kept, after]
      exact .success nofun rfl

theorem attempt_comesTo (faithful : Faithful handler contents) (copy : WorkingCopy) (edit : Edit)
    (s : σ) :
    (edit.attempt copy).Ends handler
      (fun ended last => ComesTo copy (contents s) edit ended (contents last)) s := by
  have refused {result : Except FormError Unit × WorkingCopy}
      (decided : copy.AllOrNothing () result) (fails : ∃ e, result.1 = .error e) :
      result.2 = copy := by
    obtain ⟨e, failed⟩ := fails
    exact decided.unchanged (by simp [failed])
  cases edit with
  | updateField type id patch =>
      exact comesTo_of_pure s rfl (refused (copy.updateField_allOrNothing type id patch))
  | updateForm type patch =>
      exact comesTo_of_pure s rfl (refused (copy.updateForm_allOrNothing type patch))
  | moveField type id direction =>
      refine comesTo_of_pure s rfl fun fails => ?_
      refine (copy.moveField_allOrNothing type id direction).unchanged ?_
      rcases fails with nowhere | ⟨e, failed⟩
      · simp [nowhere]
      · simp [failed]
  | addField type id =>
      exact comesTo_of_pure s rfl (refused (copy.addField_allOrNothing type id))
  | removeField type id =>
      exact comesTo_of_pure s rfl (refused (copy.removeField_allOrNothing type id))
  | save => exact save_comesTo faithful copy s
  | reset => exact reset_comesTo faithful copy s

/-! ## Any number of attempts that fail -/

theorem edited_failing (faithful : Faithful handler contents) {edits : List Edit} {start : σ}
    (failing : ∀ attempt ∈ journal handler edits copy start, attempt.edit.Fails attempt.reply) :
    let failed := (edited edits copy).run handler start
    failed.1 = copy ∧ contents failed.2 = contents start := by
  induction edits generalizing start with
  | nil => exact ⟨rfl, rfl⟩
  | cons edit edits ih =>
      intro failed
      have first := (attempt_comesTo faithful copy edit start).outcome
      obtain ⟨same, kept⟩ := first.unchanged (failing _ List.mem_cons_self)
      have later : ∀ attempt ∈ journal handler edits copy
          ((edit.attempt copy).run handler start).2, attempt.edit.Fails attempt.reply := by
        intro attempt mem
        refine failing attempt (List.mem_cons_of_mem _ ?_)
        rw [same]
        exact mem
      have rest := ih later
      have unfolded : failed =
          (edited edits copy).run handler ((edit.attempt copy).run handler start).2 := by
        simp only [failed, edited, Edit.program_eq, Program.run_bind, Program.run_pure, same]
      rw [unfolded, ← kept]
      exact rest

/-- Saving and dropping answer what the store does. -/
theorem save_reply (handler : Handler σ) (copy : WorkingCopy) (s : σ) :
    (copy.save.run handler s).1.1 =
      (handler (.set StorageKey.formConfigurations copy.forms.toText) s).1.mapError
        .persistence := by
  simp only [save, Store.set, Program.run_bind, Program.run_perform, Program.run_done]
  split
  · rename_i failed
    rw [failed, Program.run_bind]
    rfl
  · rename_i done
    rw [done, Program.run_bind]
    rfl

theorem reset_reply (handler : Handler σ) (copy : WorkingCopy) (s : σ) :
    (copy.reset.run handler s).1.1 =
      (handler (.remove StorageKey.formConfigurations) s).1.mapError .persistence := by
  simp only [reset, Store.remove, Program.run_bind, Program.run_perform, Program.run_done]
  split
  · rename_i failed
    rw [failed]
    rfl
  · rename_i done
    rw [done, Program.run_bind]
    rfl

/--
After any number of edits that fail, the working copy and what is stored are as before. The next
edit fails and changes nothing either, or comes to what it would have come to at once if nothing had
failed; and saving and dropping fail for no other reason than that the store does not write.
-/
theorem failures_leave_no_trace (faithful : Faithful handler contents) (copy : WorkingCopy)
    (start : σ) (edits : List Edit)
    (failing : ∀ attempt ∈ journal handler edits copy start, attempt.edit.Fails attempt.reply) :
    let failed := (edited edits copy).run handler start
    failed.1 = copy ∧ contents failed.2 = contents start ∧
      (∀ edit : Edit,
        let ended := (edit.attempt failed.1).run handler failed.2
        (edit.Fails ended.1.1 → ended.1.2 = copy ∧ contents ended.2 = contents start) ∧
        (¬ edit.Fails ended.1.1 →
          (edit.attempt copy).run Contents.serve (contents start) = (ended.1, contents ended.2))) ∧
      (copy.save.run handler failed.2).1.1 =
        (handler (.set StorageKey.formConfigurations copy.forms.toText) failed.2).1.mapError
          .persistence ∧
      (copy.reset.run handler failed.2).1.1 =
        (handler (.remove StorageKey.formConfigurations) failed.2).1.mapError .persistence := by
  intro failed
  obtain ⟨same, kept⟩ := edited_failing faithful failing
  refine ⟨same, kept, fun edit => ?_, save_reply handler copy failed.2,
    reset_reply handler copy failed.2⟩
  have comes := (attempt_comesTo faithful copy edit failed.2).outcome
  rw [kept] at comes
  intro ended
  have again : ended = (edit.attempt copy).run handler failed.2 := by rw [← same]
  rw [again]
  exact ⟨comes.unchanged, comes.ideal⟩

/-- Two attempts to save and one to drop the forms fail in a directory, each at another point, and
other edits are refused in between. Then saving succeeds. -/
theorem failures_leave_no_trace_on_disk :
    let mishaps : String → Nat → Mishap := fun _ uses =>
      [{ set := { rename := true } }, { set := { write := some (.after 3) } },
        { remove := true }].getD uses {}
    let dir : Directory :=
      { entries := [(StorageKey.formConfigurations, .file "\x7b\x7d".toUTF8)] }
    let start : Host Contents := ⟨.directory dir, fun _ => 0, fun _ => none⟩
    let handle : Handler (Host Contents) := Host.handle mishaps Contents.serve
    let forms := FormSet.empty.set .lockAccount .lockAccount
    let copy : WorkingCopy := ⟨forms, [], forms, true⟩
    let edits : List Edit :=
      [.save, .addField .lockAccount "cost_center", .save, .moveField .lockAccount "comments" .down,
        .reset, .removeField .lockAccount "comments"]
    let failed := (edited edits copy).run handle start
    let retried := (copy.save).run handle failed.2
    (∀ attempt ∈ journal handle edits copy start, attempt.edit.Fails attempt.reply) ∧
      failed.1 = copy ∧ failed.2.contents = start.contents ∧
      retried.1 = (.ok (), { copy with unsaved := false }) ∧
      retried.2.contents StorageKey.formConfigurations = some copy.forms.toText := by
  intro mishaps dir start handle forms copy edits failed retried
  have failing : ∀ attempt ∈ journal handle edits copy start,
      attempt.edit.Fails attempt.reply := by
    intro attempt mem
    simp only [edits, journal, List.mem_cons, List.not_mem_nil, or_false] at mem
    rcases mem with rfl | rfl | rfl | rfl | rfl | rfl
    case inr.inr.inr.inl => exact .inl rfl
    all_goals exact ⟨_, rfl⟩
  obtain ⟨same, kept, next, saved, -⟩ :=
    failures_leave_no_trace (Host.faithful mishaps Contents.serve) copy start edits failing
  have accepted : retried.1.1 = .ok () := saved.trans rfl
  have again : (Edit.save.attempt failed.1).run handle failed.2 = retried := by
    rw [same]
    rfl
  obtain ⟨-, ideal⟩ := next .save
  rw [again] at ideal
  have succeeds : ¬ Edit.save.Fails retried.1.1 := by
    rw [accepted]
    exact nofun
  have undone := ideal succeeds
  refine ⟨failing, same, kept, (congrArg Prod.fst undone).symm, ?_⟩
  have stored : retried.2.contents =
      Function.update start.contents StorageKey.formConfigurations (some copy.forms.toText) :=
    (congrArg Prod.snd undone).symm
  rw [stored, Function.update_self]

end WorkingCopy
end AccessPortal
