/-!
# What came last

A list of what happened says that something has been the case since: one of its members brings it
about, and none of the later ones ends it.
-/

namespace AccessPortal

variable {α : Type} {begins ends : α → Prop}

/-- A member begins something that no later member ends. -/
def Since (begins ends : α → Prop) (past : List α) : Prop :=
  ∃ earlier first later, past = earlier ++ first :: later ∧ begins first ∧ ∀ a ∈ later, ¬ ends a

theorem not_since_nil : ¬ Since begins ends [] := by
  intro since
  obtain ⟨earlier, first, later, split, -⟩ := since
  cases earlier <;> cases split

theorem since_concat (past : List α) (last : α) :
    Since begins ends (past ++ [last]) ↔ begins last ∨ Since begins ends past ∧ ¬ ends last := by
  constructor
  · intro since
    obtain ⟨earlier, first, later, split, starts, lasting⟩ := since
    rcases List.eq_nil_or_concat later with rfl | ⟨later, newest, rfl⟩
    · obtain ⟨-, same⟩ := List.append_inj' split rfl
      rw [List.singleton_inj.mp same]
      exact .inl starts
    · have split' : past ++ [last] = (earlier ++ first :: later) ++ [newest] := by
        simpa using split
      obtain ⟨same, equal⟩ := List.append_inj' split' rfl
      rw [List.singleton_inj.mp equal]
      refine .inr ⟨⟨earlier, first, later, same, starts, ?_⟩, ?_⟩
      · intro a mem
        exact lasting a (by simp [mem])
      · exact lasting newest (by simp)
  · intro since
    obtain starts | ⟨⟨earlier, first, later, rfl, starts, lasting⟩, keeps⟩ := since
    · exact ⟨past, last, [], rfl, starts, by simp⟩
    · refine ⟨earlier, first, later ++ [last], by simp, starts, ?_⟩
      intro a mem
      rcases List.mem_append.mp mem with mem | mem
      · exact lasting a mem
      · rw [List.mem_singleton.mp mem]
        exact keeps

end AccessPortal
