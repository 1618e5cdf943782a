import AccessPortal.Forms.Form

/-!
# The display order

A list that is sorted by its keys is the one arrangement of it in which a smaller key comes first
and, between equal keys, what is listed first (`sortByOrder_eq_iff`). So one can tell what becomes
of the display when keys change: if two neighbours exchange their keys, all others stay in order
(`filter_sortByOrder_exchanged`), and the two change places unless others share their keys
(`sortByOrder_exchanged_iff`).
-/

namespace AccessPortal

variable {α β : Type} {order : α → Int32} {a b : α} {l sorted : List α}

/-- Comes first in the display of a list: by a smaller key, or by an earlier place in the list. -/
def Precedes (order : α → Int32) (l : List α) (a b : α) : Prop :=
  order a < order b ∨ order a = order b ∧ [a, b].Sublist l

theorem Precedes.le (precedes : Precedes order l a b) : order a ≤ order b := by
  obtain less | ⟨same, -⟩ := precedes <;> grind

theorem Precedes.congr {order' : α → Int32} (first : order' a = order a)
    (second : order' b = order b) (precedes : Precedes order l a b) : Precedes order' l a b := by
  unfold Precedes
  rw [first, second]
  exact precedes

/-! ## Sorting rearranges -/

theorem insertByOrder_perm (order : α → Int32) (a : α) (l : List α) :
    (insertByOrder order a l).Perm (a :: l) := by
  induction l with
  | nil => exact .refl _
  | cons b l ih =>
      rw [insertByOrder]
      split
      · exact .refl _
      · exact (ih.cons b).trans (.swap a b l)

theorem sortByOrder_perm (order : α → Int32) (l : List α) : (sortByOrder order l).Perm l := by
  induction l with
  | nil => exact .refl _
  | cons a l ih => exact (insertByOrder_perm order a _).trans (ih.cons a)

@[simp]
theorem mem_sortByOrder : a ∈ sortByOrder order l ↔ a ∈ l :=
  (sortByOrder_perm order l).mem_iff

/-- Where `a` is put, everything before it has a smaller key, and nothing behind it has one. -/
theorem insertByOrder_pairwise {rest : List α}
    (pairwise : rest.Pairwise (Precedes order l)) (there : ∀ b ∈ rest, b ∈ l) :
    (insertByOrder order a rest).Pairwise (Precedes order (a :: l)) := by
  have later {x y : α} (precedes : Precedes order l x y) : Precedes order (a :: l) x y :=
    precedes.imp_right fun tied => ⟨tied.1, tied.2.cons a⟩
  induction rest with
  | nil => exact List.pairwise_singleton _ a
  | cons b rest ih =>
      obtain ⟨first, pairwise⟩ := List.pairwise_cons.mp pairwise
      rw [insertByOrder]
      split
      · rename_i notAbove
        refine List.pairwise_cons.mpr ⟨fun c mem => ?_, ?_⟩
        · have above : order a ≤ order c := by
            rcases List.mem_cons.mp mem with rfl | mem
            · exact notAbove
            · have := (first c mem).le
              grind
          by_cases tied : order a = order c
          · exact .inr ⟨tied, (List.singleton_sublist.mpr (there c mem)).cons_cons a⟩
          · exact .inl (by grind)
        · exact (List.pairwise_cons.mpr ⟨first, pairwise⟩).imp later
      · rename_i above
        refine List.pairwise_cons.mpr ⟨fun c mem => ?_, ?_⟩
        · rcases List.mem_cons.mp ((insertByOrder_perm order a rest).mem_iff.mp mem) with rfl | mem
          · exact .inl (by grind)
          · exact later (first c mem)
        · exact ih pairwise fun c mem => there c (List.mem_cons_of_mem b mem)

theorem sortByOrder_pairwise (order : α → Int32) (l : List α) :
    (sortByOrder order l).Pairwise (Precedes order l) := by
  induction l with
  | nil => exact .nil
  | cons a l ih => exact insertByOrder_pairwise ih fun b mem => mem_sortByOrder.mp mem

theorem not_sublist_swap (nodup : l.Nodup) (first : [a, b].Sublist l) : ¬ [b, a].Sublist l := by
  intro second
  induction l with
  | nil => cases first
  | cons c l ih =>
      obtain ⟨fresh, nodup⟩ := List.nodup_cons.mp nodup
      cases first with
      | cons _ first =>
          cases second with
          | cons _ second => exact ih nodup first second
          | cons_cons _ second => exact fresh (first.subset (by simp))
      | cons_cons _ first =>
          cases second with
          | cons _ second => exact fresh (second.subset (by simp))
          | cons_cons _ second => exact fresh (List.singleton_sublist.mp first)

/-- In a list without repetitions, no two elements precede each other. -/
theorem Precedes.asymm (nodup : l.Nodup) (precedes : Precedes order l a b) :
    ¬ Precedes order l b a := by
  intro converse
  have less := precedes.le
  have more := converse.le
  obtain strict | ⟨-, first⟩ := precedes
  · grind
  · obtain strict | ⟨-, second⟩ := converse
    · grind
    · exact not_sublist_swap nodup first second

/-- There is one arrangement in which everything precedes what comes later. -/
theorem sortByOrder_eq_iff (nodup : l.Nodup) :
    sortByOrder order l = sorted ↔ sorted.Perm l ∧ sorted.Pairwise (Precedes order l) := by
  constructor
  · rintro rfl
    exact ⟨sortByOrder_perm order l, sortByOrder_pairwise order l⟩
  · intro h
    obtain ⟨perm, pairwise⟩ := h
    refine List.Perm.eq_of_pairwise (fun a b _ _ precedes converse => ?_)
      (sortByOrder_pairwise order l) pairwise ((sortByOrder_perm order l).trans perm.symm)
    exact absurd converse (precedes.asymm nodup)

/-! ## Sorting parts and images of a list -/

theorem insertByOrder_congr {order' : α → Int32} (atFirst : order' a = order a)
    (same : ∀ b ∈ l, order' b = order b) : insertByOrder order' a l = insertByOrder order a l := by
  induction l with
  | nil => rfl
  | cons b l ih =>
      rw [insertByOrder, insertByOrder, atFirst, same b List.mem_cons_self,
        ih fun c mem => same c (List.mem_cons_of_mem b mem)]

/-- The display depends on the keys of the elements alone. -/
theorem sortByOrder_congr {order' : α → Int32} (same : ∀ b ∈ l, order' b = order b) :
    sortByOrder order' l = sortByOrder order l := by
  induction l with
  | nil => rfl
  | cons a l ih =>
      rw [sortByOrder, sortByOrder, ih fun b mem => same b (List.mem_cons_of_mem a mem)]
      refine insertByOrder_congr (same a List.mem_cons_self) fun b mem => ?_
      exact same b (List.mem_cons_of_mem a (mem_sortByOrder.mp mem))

theorem insertByOrder_map (f : α → β) (order : β → Int32) (a : α) (l : List α) :
    insertByOrder order (f a) (l.map f) = (insertByOrder (order ∘ f) a l).map f := by
  induction l with
  | nil => rfl
  | cons b l ih =>
      rw [List.map_cons, insertByOrder, insertByOrder, ih]
      simp only [Function.comp]
      split <;> rfl

theorem sortByOrder_map (f : α → β) (order : β → Int32) (l : List α) :
    sortByOrder order (l.map f) = (sortByOrder (order ∘ f) l).map f := by
  induction l with
  | nil => rfl
  | cons a l ih => rw [List.map_cons, sortByOrder, ih, insertByOrder_map, sortByOrder]

/-- What is put last with the largest key is displayed last. -/
theorem sortByOrder_concat (largest : ∀ b ∈ l, order b ≤ order a) :
    sortByOrder order (l ++ [a]) = sortByOrder order l ++ [a] := by
  have insert_concat {first : α} {rest : List α} (le : order first ≤ order a) :
      insertByOrder order first (rest ++ [a]) = insertByOrder order first rest ++ [a] := by
    induction rest with
    | nil => simp [insertByOrder, le]
    | cons b rest ih =>
        rw [List.cons_append, insertByOrder, insertByOrder, ih]
        split <;> rfl
  induction l with
  | nil => rfl
  | cons b l ih =>
      rw [List.cons_append, sortByOrder, ih fun c mem => largest c (List.mem_cons_of_mem b mem),
        insert_concat (largest b List.mem_cons_self), sortByOrder]

theorem insertByOrder_filter (p : α → Bool) {rest : List α}
    (ascending : rest.Pairwise fun b c => order b ≤ order c) :
    (insertByOrder order a rest).filter p =
      if p a then insertByOrder order a (rest.filter p) else rest.filter p := by
  induction rest with
  | nil => simp [insertByOrder, List.filter_cons]
  | cons b rest ih =>
      obtain ⟨first, ascending⟩ := List.pairwise_cons.mp ascending
      rw [insertByOrder]
      split
      · rename_i notAbove
        have front : insertByOrder order a ((b :: rest).filter p) = a :: (b :: rest).filter p := by
          cases kept : (b :: rest).filter p with
          | nil => rfl
          | cons c others =>
              have mem : c ∈ b :: rest := (List.mem_filter.mp (kept ▸ List.mem_cons_self)).1
              have le : order a ≤ order c := by
                rcases List.mem_cons.mp mem with rfl | mem
                · exact notAbove
                · have := first c mem
                  grind
              rw [insertByOrder, if_pos le]
        rw [front, List.filter_cons]
      · rename_i above
        rw [List.filter_cons, List.filter_cons, ih ascending]
        split
        · split
          · rw [insertByOrder, if_neg above]
          · rfl
        · rfl

/-- Leaving out elements and sorting may be done in either order. -/
theorem sortByOrder_filter (p : α → Bool) (order : α → Int32) (l : List α) :
    sortByOrder order (l.filter p) = (sortByOrder order l).filter p := by
  induction l with
  | nil => rfl
  | cons a l ih =>
      have ascending := (sortByOrder_pairwise order l).imp Precedes.le
      rw [sortByOrder, insertByOrder_filter p ascending, List.filter_cons, ← ih]
      split
      · rfl
      · rfl

/-! ## Exchanging two keys -/

section

variable {order' : α → Int32} {front back : List α}

/-- Two elements of a list have exchanged their keys, and all others have kept theirs. -/
structure Exchanged (l : List α) (a b : α) (order order' : α → Int32) : Prop where
  first : order' a = order b
  second : order' b = order a
  others : ∀ c ∈ l, c ≠ a → c ≠ b → order' c = order c

/-- The others stay in order among themselves. -/
theorem filter_sortByOrder_exchanged (exchanged : Exchanged l a b order order') {p : α → Bool}
    (without : ∀ c ∈ l, p c = true → c ≠ a ∧ c ≠ b) :
    (sortByOrder order' l).filter p = (sortByOrder order l).filter p := by
  rw [← sortByOrder_filter, ← sortByOrder_filter]
  refine sortByOrder_congr fun c mem => ?_
  obtain ⟨mem, kept⟩ := List.mem_filter.mp mem
  obtain ⟨notFirst, notSecond⟩ := without c mem kept
  exact exchanged.others c mem notFirst notSecond

/--
Two neighbours that exchange their keys change places, and everything else stays where it is,
exactly if whatever shares a key with one of them is listed on the right side of the other.
-/
theorem sortByOrder_exchanged_iff (nodup : l.Nodup)
    (displayed : sortByOrder order l = front ++ a :: b :: back) (below : order a < order b)
    (exchanged : Exchanged l a b order order') :
    sortByOrder order' l = front ++ b :: a :: back ↔
      (∀ c ∈ front, order c = order a → [c, b].Sublist l) ∧
        ∀ c ∈ back, order c = order b → [a, c].Sublist l := by
  have perm : (front ++ a :: b :: back).Perm l := displayed ▸ sortByOrder_perm order l
  have pairwise := displayed ▸ sortByOrder_pairwise order l
  obtain ⟨-, rest, apart⟩ := List.nodup_append.mp (perm.nodup_iff.mpr nodup)
  obtain ⟨freshA, freshB, -⟩ := by simpa using rest
  have keepsFront {c : α} (mem : c ∈ front) : order' c = order c :=
    exchanged.others c (perm.mem_iff.mp (by simp [mem])) (apart c mem a (by simp))
      (apart c mem b (by simp))
  have keepsBack {c : α} (mem : c ∈ back) : order' c = order c := by
    refine exchanged.others c (perm.mem_iff.mp (by simp [mem])) ?_ ?_
    · rintro rfl
      exact freshA.2 mem
    · rintro rfl
      exact freshB mem
  rw [sortByOrder_eq_iff nodup]
  simp only [List.pairwise_append, List.pairwise_cons, List.mem_cons] at pairwise ⊢
  obtain ⟨inFront, ⟨afterA, afterB, inBack⟩, across⟩ := pairwise
  constructor
  · intro h
    obtain ⟨-, -, ⟨-, behindA, -⟩, beforeB⟩ := h
    refine ⟨fun c mem tied => ?_, fun c mem tied => ?_⟩
    · obtain less | ⟨-, listed⟩ := beforeB c mem b (.inl rfl)
      · rw [keepsFront mem, exchanged.second, tied] at less
        exact absurd less Int32.lt_irrefl
      · exact listed
    · obtain less | ⟨-, listed⟩ := behindA c mem
      · rw [keepsBack mem, exchanged.first, tied] at less
        exact absurd less Int32.lt_irrefl
      · exact listed
  · intro h
    obtain ⟨beforeB, behindA⟩ := h
    refine ⟨(List.Perm.append_left front (.swap a b back)).trans perm, ?_, ⟨?_, ?_, ?_⟩, ?_⟩
    · exact inFront.imp_of_mem fun first second => .congr (keepsFront first) (keepsFront second)
    · rintro c (rfl | mem)
      · exact .inl (by rw [exchanged.first, exchanged.second]; exact below)
      · have above := (afterB c mem).le
        exact .inl (by grind [exchanged.second, keepsBack mem])
    · intro c mem
      have above := (afterB c mem).le
      by_cases tied : order c = order b
      · exact .inr ⟨by rw [exchanged.first, keepsBack mem, tied], behindA c mem tied⟩
      · exact .inl (by grind [exchanged.first, keepsBack mem])
    · exact inBack.imp_of_mem fun first second => .congr (keepsBack first) (keepsBack second)
    · rintro c mem d (rfl | rfl | inBack)
      · have notAbove := (across c mem a (.inl rfl)).le
        by_cases tied : order c = order a
        · exact .inr ⟨by rw [exchanged.second, keepsFront mem, tied], beforeB c mem tied⟩
        · exact .inl (by grind [exchanged.second, keepsFront mem])
      · have notAbove := (across c mem d (.inl rfl)).le
        exact .inl (by grind [exchanged.first, keepsFront mem])
      · exact .congr (keepsFront mem) (keepsBack inBack) (across c mem d (.inr (.inr inBack)))

end

end AccessPortal
