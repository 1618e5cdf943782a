import AccessPortal.Proofs.Forms.Sorted
import Mathlib.Data.List.Nodup

/-!
# Moving a field

A move finds the first field of an id in the display and its neighbour there, and exchanges their
order values if these differ (`move?_eq_some_iff`). Where the ids differ, this is the exchange of
two order values in the form (`move?_eq_some_iff_beside`), which the same exchange undoes
(`Beside.exchange_undone`). Of the display, it exchanges the two neighbours unless some other field
shares an order value with one of them (`Beside.exchange_displayed_iff`).
-/

namespace AccessPortal

namespace MoveDirection

/-- Of two neighbours in the display, the one that goes in this direction. -/
def mover {α : Type} (upper lower : α) : MoveDirection → α
  | .up => lower
  | .down => upper

def opposite : MoveDirection → MoveDirection
  | .up => .down
  | .down => .up

end MoveDirection

def FormField.exchanged (first second field : FormField) : FormField :=
  if field.id = first.id then { field with order := second.order }
  else if field.id = second.id then { field with order := first.order }
  else field

namespace FormField

variable {first second field : FormField}

@[simp]
theorem exchanged_id (first second field : FormField) :
    (exchanged first second field).id = field.id := by
  unfold exchanged
  split
  · rfl
  · split <;> rfl

@[simp]
theorem exchanged_first (first second : FormField) :
    exchanged first second first = { first with order := second.order } :=
  if_pos rfl

@[simp]
theorem exchanged_second (other : first.id ≠ second.id) :
    exchanged first second second = { second with order := first.order } := by
  rw [exchanged, if_neg (Ne.symm other), if_pos rfl]

@[simp]
theorem exchanged_other (notFirst : field.id ≠ first.id) (notSecond : field.id ≠ second.id) :
    exchanged first second field = field := by
  rw [exchanged, if_neg notFirst, if_neg notSecond]

theorem exchanged_undone (apart : first.id ≠ second.id)
    (atFirst : field.id = first.id → field = first)
    (atSecond : field.id = second.id → field = second) :
    exchanged { second with order := first.order } { first with order := second.order }
      (exchanged first second field) = field := by
  by_cases isFirst : field.id = first.id
  · obtain rfl := atFirst isFirst
    rw [exchanged_first]
    exact exchanged_second (Ne.symm apart)
  · by_cases isSecond : field.id = second.id
    · obtain rfl := atSecond isSecond
      rw [exchanged_second apart]
      exact exchanged_first _ _
    · rw [exchanged_other isFirst isSecond]
      exact exchanged_other isSecond isFirst

end FormField

namespace RequestForm

variable {form moved : RequestForm} {id : String} {direction : MoveDirection}

/-- The form in which two fields have exchanged their order values. -/
def exchange (form : RequestForm) (first second : FormField) : RequestForm :=
  { form with fields := form.fields.map (FormField.exchanged first second) }

/-! ## Places -/

theorem displayed_eq_map (form : RequestForm) :
    form.displayed = form.displayPlaces.map form.fields.get := by
  have sorted := sortByOrder_map form.fields.get (·.order) (List.finRange form.fields.length)
  rwa [List.map_get_finRange] at sorted

theorem displayPlaces_nodup (form : RequestForm) : form.displayPlaces.Nodup :=
  (sortByOrder_perm _ _).nodup_iff.mpr (List.nodup_finRange _)

theorem mem_displayPlaces (form : RequestForm) (i : Fin form.fields.length) :
    i ∈ form.displayPlaces :=
  mem_sortByOrder.mpr (List.mem_finRange i)

theorem exchangeOrders_comm (form : RequestForm) {a b : Fin form.fields.length} (apart : a ≠ b) :
    form.exchangeOrders a b = form.exchangeOrders b a := by
  unfold exchangeOrders
  simp only [RequestForm.mk.injEq, true_and]
  exact List.set_comm _ _ (by simpa [Fin.ext_iff] using apart)

/-- Where nothing is listed twice, what is found is found at its place. -/
theorem findIdx?_of_find? {α : Type} {l : List α} {p : α → Bool} {a : α} {i : Nat}
    (nodup : l.Nodup) (found : l.find? p = some a) (there : l[i]? = some a) :
    l.findIdx? p = some i := by
  obtain ⟨holds, j, inside, same, first⟩ := List.find?_eq_some_iff_getElem.mp found
  obtain ⟨inside', same'⟩ := List.getElem?_eq_some_iff.mp there
  obtain rfl : i = j := (nodup.getElem_inj_iff).mp (same'.trans same.symm)
  refine List.findIdx?_eq_some_iff_getElem.mpr ⟨inside, by rwa [same], fun k before => ?_⟩
  simpa using first k before

theorem find?_of_findIdx? {α : Type} {l : List α} {p : α → Bool} {a : α} {i : Nat}
    (found : l.findIdx? p = some i) (there : l[i]? = some a) : l.find? p = some a := by
  obtain ⟨inside, holds, first⟩ := List.findIdx?_eq_some_iff_getElem.mp found
  obtain ⟨_, same⟩ := List.getElem?_eq_some_iff.mp there
  refine List.find?_eq_some_iff_getElem.mpr ⟨same ▸ holds, i, inside, same, fun j before => ?_⟩
  simpa using first j before

theorem neighbours_of_getElem? {α : Type} {l : List α} {a b : α} {i : Nat}
    (first : l[i]? = some a) (second : l[i + 1]? = some b) :
    ∃ front back, l = front ++ a :: b :: back := by
  obtain ⟨inside, rfl⟩ := List.getElem?_eq_some_iff.mp second
  obtain ⟨inside', rfl⟩ := List.getElem?_eq_some_iff.mp first
  refine ⟨l.take i, l.drop (i + 2), ?_⟩
  rw [← List.drop_eq_getElem_cons inside, ← List.drop_eq_getElem_cons inside',
    List.take_append_drop]

theorem ne_of_neighbours {α : Type} {l front back : List α} {a b : α} (nodup : l.Nodup)
    (split : l = front ++ a :: b :: back) : a ≠ b := by
  rintro rfl
  rw [split] at nodup
  simpa using (List.nodup_append.mp nodup).2.1

/--
A move takes place if the first field of the id in the display has a neighbour on that side that
does not share its order value.
-/
theorem move?_eq_some_iff :
    form.move? id direction = some moved ↔ ∃ front a b back,
      form.displayPlaces = front ++ a :: b :: back ∧
      form.displayPlaces.find? (fun i => (form.fields.get i).id == id) =
        some (direction.mover a b) ∧
      (form.fields.get a).order ≠ (form.fields.get b).order ∧
      moved = form.exchangeOrders a b := by
  have nodup := form.displayPlaces_nodup
  unfold move?
  simp only [Option.bind_eq_bind, Option.bind_eq_some_iff]
  constructor
  · intro h
    obtain ⟨here, found, beside, next, a, atHere, b, atBeside, moves⟩ := h
    split at moves
    · cases moves
    rename_i differ
    obtain rfl := Option.some.inj moves
    have first := find?_of_findIdx? found atHere
    cases direction with
    | up =>
        simp only [MoveDirection.neighbour?, Option.ite_none_right_eq_some] at next
        obtain ⟨positive, back⟩ := next
        obtain ⟨before, rfl⟩ := Nat.exists_eq_add_one.mpr positive
        obtain rfl : before = beside := by simpa using back
        obtain ⟨front, rest, places⟩ := neighbours_of_getElem? atBeside atHere
        refine ⟨front, b, a, rest, places, first, Ne.symm differ, ?_⟩
        exact form.exchangeOrders_comm (ne_of_neighbours nodup places).symm
    | down =>
        simp only [MoveDirection.neighbour?, Option.ite_none_right_eq_some] at next
        obtain ⟨-, on⟩ := next
        obtain rfl := Option.some.inj on
        obtain ⟨front, rest, places⟩ := neighbours_of_getElem? atHere atBeside
        exact ⟨front, a, b, rest, places, first, differ, rfl⟩
  · intro h
    obtain ⟨front, a, b, back, places, found, differ, rfl⟩ := h
    have atFirst : form.displayPlaces[front.length]? = some a := by simp [places]
    have atSecond : form.displayPlaces[front.length + 1]? = some b := by simp [places]
    have count : form.displayPlaces.length = front.length + 2 + back.length := by
      simp [places]
      omega
    cases direction with
    | up =>
        refine ⟨_, findIdx?_of_find? nodup found atSecond, front.length,
          by simp [MoveDirection.neighbour?], b, atSecond, a, atFirst, ?_⟩
        rw [form.exchangeOrders_comm (ne_of_neighbours nodup places)]
        exact if_neg (Ne.symm differ)
    | down =>
        have inside : front.length + 1 < form.displayPlaces.length := by omega
        refine ⟨_, findIdx?_of_find? nodup found atFirst, front.length + 1,
          by simp [MoveDirection.neighbour?, inside], a, atFirst, b, atSecond, ?_⟩
        exact if_neg differ

/-! ## Forms whose ids differ -/

theorem nodup_of_distinct (distinct : (form.fields.map (·.id)).Nodup) : form.fields.Nodup :=
  .of_map _ distinct

theorem eq_of_id_eq (distinct : (form.fields.map (·.id)).Nodup) {first second : FormField}
    (inForm : first ∈ form.fields) (inForm' : second ∈ form.fields) (same : first.id = second.id) :
    first = second :=
  List.inj_on_of_nodup_map distinct inForm inForm' same

theorem index_eq_of_id_eq (distinct : (form.fields.map (·.id)).Nodup) {i j : Nat}
    {inside : i < form.fields.length} {inside' : j < form.fields.length}
    (same : form.fields[i].id = form.fields[j].id) : i = j := by
  have bound : i < (form.fields.map (·.id)).length := by simpa
  have bound' : j < (form.fields.map (·.id)).length := by simpa
  exact (List.Nodup.getElem_inj_iff distinct).mp (show (form.fields.map (·.id))[i] =
    (form.fields.map (·.id))[j] by simpa using same)

theorem exchangeOrders_eq (distinct : (form.fields.map (·.id)).Nodup)
    {a b : Fin form.fields.length} (apart : a ≠ b) :
    form.exchangeOrders a b = form.exchange (form.fields.get a) (form.fields.get b) := by
  unfold exchangeOrders exchange
  simp only [RequestForm.mk.injEq, true_and, Fin.getElem_fin, List.get_eq_getElem]
  refine List.ext_getElem (by simp) fun i inside inside' => ?_
  have bound : i < form.fields.length := by simpa using inside'
  by_cases atSecond : b.val = i
  · subst atSecond
    have other : form.fields[b.val].id ≠ form.fields[a.val].id := fun same =>
      apart (Fin.ext (index_eq_of_id_eq distinct same).symm)
    simp [FormField.exchanged, other]
  · by_cases atFirst : a.val = i
    · subst atFirst
      simp [FormField.exchanged, atSecond]
    · have notFirst : form.fields[i].id ≠ form.fields[a.val].id := fun same =>
        atFirst (index_eq_of_id_eq distinct same).symm
      have notSecond : form.fields[i].id ≠ form.fields[b.val].id := fun same =>
        atSecond (index_eq_of_id_eq distinct same).symm
      simp [FormField.exchanged, atFirst, atSecond, notFirst, notSecond]

theorem find?_of_only {α : Type} {l : List α} {p : α → Bool} {a : α} (mem : a ∈ l)
    (holds : p a = true) (only : ∀ b ∈ l, p b = true → b = a) : l.find? p = some a := by
  cases found : l.find? p with
  | none => exact absurd holds (List.find?_eq_none.mp found a mem)
  | some b => rw [only b (List.mem_of_find?_eq_some found) (List.find?_some found)]

/-- Two neighbours in the display of a form whose ids differ, with different order values. -/
structure Beside (form : RequestForm) (front : List FormField) (upper lower : FormField)
    (back : List FormField) : Prop where
  distinct : (form.fields.map (·.id)).Nodup
  displayed : form.displayed = front ++ upper :: lower :: back
  differ : upper.order ≠ lower.order

/-- A move takes place between neighbours in the display whose order values differ. -/
theorem move?_eq_some_iff_beside (distinct : (form.fields.map (·.id)).Nodup) :
    form.move? id direction = some moved ↔ ∃ front upper lower back,
      form.Beside front upper lower back ∧ (direction.mover upper lower).id = id ∧
        moved = form.exchange upper lower := by
  rw [move?_eq_some_iff]
  constructor
  · intro h
    obtain ⟨front, a, b, back, places, found, differ, rfl⟩ := h
    have apart := ne_of_neighbours form.displayPlaces_nodup places
    have named : (form.fields.get (direction.mover a b)).id = id := by
      simpa using List.find?_some found
    refine ⟨front.map form.fields.get, form.fields.get a, form.fields.get b,
      back.map form.fields.get, ⟨distinct, by simp [displayed_eq_map, places], differ⟩, ?_,
      exchangeOrders_eq distinct apart⟩
    cases direction <;> exact named
  · intro h
    obtain ⟨front, upper, lower, back, ⟨-, displayed, differ⟩, named, rfl⟩ := h
    rw [displayed_eq_map] at displayed
    obtain ⟨front, rest, places, rfl, fromUpper⟩ := List.map_eq_append_iff.mp displayed
    obtain ⟨a, rest, rfl, rfl, fromLower⟩ := List.map_eq_cons_iff.mp fromUpper
    obtain ⟨b, back, rfl, rfl, rfl⟩ := List.map_eq_cons_iff.mp fromLower
    have apart := ne_of_neighbours form.displayPlaces_nodup places
    refine ⟨front, a, b, back, places, ?_, differ, (exchangeOrders_eq distinct apart).symm⟩
    have named : (form.fields.get (direction.mover a b)).id = id := by
      cases direction <;> exact named
    refine find?_of_only (form.mem_displayPlaces _) (beq_iff_eq.mpr named) fun c _ same => ?_
    exact Fin.ext (index_eq_of_id_eq distinct ((beq_iff_eq.mp same).trans named.symm))

/-! ## The display after a move -/

variable {front back : List FormField} {upper lower : FormField}

theorem exchange_displayed (form : RequestForm) (first second : FormField) :
    (form.exchange first second).displayed =
      (sortByOrder ((·.order) ∘ FormField.exchanged first second) form.fields).map
        (FormField.exchanged first second) :=
  sortByOrder_map _ _ _

namespace Beside

variable (beside : form.Beside front upper lower back)
include beside

theorem mem_iff {field : FormField} :
    field ∈ form.fields ↔ field ∈ front ∨ field = upper ∨ field = lower ∨ field ∈ back := by
  have perm := sortByOrder_perm (·.order) form.fields
  rw [← perm.mem_iff]
  simp [show sortByOrder (·.order) form.fields = _ from beside.displayed]

theorem upper_mem : upper ∈ form.fields :=
  beside.mem_iff.mpr (.inr (.inl rfl))

theorem lower_mem : lower ∈ form.fields :=
  beside.mem_iff.mpr (.inr (.inr (.inl rfl)))

theorem ids_nodup : ((front ++ upper :: lower :: back).map (·.id)).Nodup := by
  have perm := (sortByOrder_perm (·.order) form.fields).map (·.id)
  rw [show sortByOrder (·.order) form.fields = _ from beside.displayed] at perm
  exact perm.nodup_iff.mpr beside.distinct

theorem ids_ne : upper.id ≠ lower.id := by
  intro same
  obtain rfl := eq_of_id_eq beside.distinct beside.upper_mem beside.lower_mem same
  exact beside.differ rfl

theorem others {field : FormField} (mem : field ∈ front ++ back) :
    field.id ≠ upper.id ∧ field.id ≠ lower.id := by
  have nodup := beside.ids_nodup
  simp only [List.map_append, List.map_cons, List.nodup_append, List.nodup_cons, List.mem_cons,
    List.mem_map] at nodup
  grind

theorem below : upper.order < lower.order := by
  have ascending := (sortByOrder_pairwise (·.order) form.fields).imp Precedes.le
  rw [show sortByOrder (·.order) form.fields = _ from beside.displayed] at ascending
  have le : upper.order ≤ lower.order :=
    (List.pairwise_cons.mp (List.pairwise_append.mp ascending).2.1).1 lower (by simp)
  have differ := beside.differ
  grind

theorem exchanged : Exchanged form.fields upper lower (·.order)
    ((·.order) ∘ FormField.exchanged upper lower) where
  first := by simp
  second := by simp [beside.ids_ne]
  others := fun field mem notUpper notLower => by
    have notUpper := mt (eq_of_id_eq beside.distinct mem beside.upper_mem) notUpper
    have notLower := mt (eq_of_id_eq beside.distinct mem beside.lower_mem) notLower
    simp [notUpper, notLower]

theorem map_exchanged_undone {l : List FormField} (sub : ∀ field ∈ l, field ∈ form.fields) :
    (l.map (FormField.exchanged upper lower)).map (FormField.exchanged
      { lower with order := upper.order } { upper with order := lower.order }) = l := by
  rw [List.map_map]
  refine (List.map_congr_left fun field mem => ?_).trans (List.map_id l)
  exact FormField.exchanged_undone beside.ids_ne
    (eq_of_id_eq beside.distinct (sub field mem) beside.upper_mem)
    (eq_of_id_eq beside.distinct (sub field mem) beside.lower_mem)

/-- Exchanging the same two order values once more gives back the form. -/
theorem exchange_undone : (form.exchange upper lower).exchange { lower with order := upper.order }
    { upper with order := lower.order } = form := by
  unfold exchange
  congr 1
  exact beside.map_exchanged_undone fun _ mem => mem

theorem map_exchanged {l : List FormField} (sub : ∀ field ∈ l, field ∈ front ++ back) :
    l.map (FormField.exchanged upper lower) = l := by
  refine (List.map_congr_left fun field mem => ?_).trans (List.map_id l)
  obtain ⟨notUpper, notLower⟩ := beside.others (sub field mem)
  exact FormField.exchanged_other notUpper notLower

theorem filter_displayed : form.displayed.filter
    (fun field => field.id != upper.id && field.id != lower.id) = front ++ back := by
  have keep {l : List FormField} (sub : ∀ field ∈ l, field ∈ front ++ back) :
      l.filter (fun field => field.id != upper.id && field.id != lower.id) = l :=
    List.filter_eq_self.mpr fun field mem => by simpa using beside.others (sub field mem)
  rw [beside.displayed, List.filter_append, keep (by simp_all), List.filter_cons_of_neg (by simp),
    List.filter_cons_of_neg (by simp), keep (by simp_all)]

/-- What is neither of the two neighbours is displayed in the same order as before. -/
theorem exchange_others : (form.exchange upper lower).displayed.filter
    (fun field => field.id != upper.id && field.id != lower.id) = front ++ back := by
  rw [exchange_displayed, List.filter_map]
  simp only [Function.comp_def, FormField.exchanged_id]
  have kept := filter_sortByOrder_exchanged beside.exchanged
    (p := fun field => field.id != upper.id && field.id != lower.id) (by grind)
  rw [← Function.comp_def, kept]
  rw [show sortByOrder _ _ = form.displayed from rfl, beside.filter_displayed,
    beside.map_exchanged fun _ mem => mem]

/--
The two neighbours change places in the display, and everything else stays where it is, exactly
if whatever shares an order value with one of them is listed on the right side of the other.
-/
theorem exchange_displayed_iff : (form.exchange upper lower).displayed =
      front ++ { lower with order := upper.order } :: { upper with order := lower.order } :: back ↔
    (∀ field ∈ front, field.order = upper.order → [field, lower].Sublist form.fields) ∧
      ∀ field ∈ back, field.order = lower.order → [upper, field].Sublist form.fields := by
  rw [← sortByOrder_exchanged_iff (nodup_of_distinct beside.distinct) beside.displayed
    beside.below beside.exchanged, exchange_displayed]
  have images : (front ++ lower :: upper :: back).map (FormField.exchanged upper lower) =
      front ++ { lower with order := upper.order } :: { upper with order := lower.order } ::
        back := by
    rw [List.map_append, List.map_cons, List.map_cons, FormField.exchanged_first,
      FormField.exchanged_second beside.ids_ne, beside.map_exchanged fun _ mem => by simp [mem],
      beside.map_exchanged fun _ mem => by simp [mem]]
  rw [← images]
  refine ⟨fun same => ?_, congrArg _⟩
  have undone := congrArg (List.map (FormField.exchanged { lower with order := upper.order }
    { upper with order := lower.order })) same
  rwa [beside.map_exchanged_undone fun field mem => mem_sortByOrder.mp mem,
    beside.map_exchanged_undone fun field mem => by grind [beside.mem_iff]] at undone

end Beside

/--
A move that takes place exchanges the order values of the field and of its neighbour in the display,
and nothing else in the form. The other fields are displayed in the same order as before. The two
have changed places in the display, and the others stayed where they were, exactly if every other
field with the upper one's order value is listed before the lower one, and every other field with
the lower one's is listed after the upper one.
-/
theorem move_display (distinct : (form.fields.map (·.id)).Nodup)
    (moves : form.move? id direction = some moved) :
    ∃ front upper lower back,
      form.displayed = front ++ upper :: lower :: back ∧ upper.order < lower.order ∧
      (direction.mover upper lower).id = id ∧ moved = form.exchange upper lower ∧
      moved.displayed.filter (fun field => field.id != upper.id && field.id != lower.id) =
        front ++ back ∧
      (moved.displayed =
          front ++ { lower with order := upper.order } :: { upper with order := lower.order } ::
            back ↔
        (∀ field ∈ front, field.order = upper.order → [field, lower].Sublist form.fields) ∧
          ∀ field ∈ back, field.order = lower.order → [upper, field].Sublist form.fields) := by
  obtain ⟨front, upper, lower, back, beside, named, rfl⟩ :=
    (move?_eq_some_iff_beside distinct).mp moves
  exact ⟨front, upper, lower, back, beside.displayed, beside.below, named, rfl,
    beside.exchange_others, beside.exchange_displayed_iff⟩

def ofOrders (orders : List (String × Int32)) : RequestForm where
  requestType := .copyUser
  name := "Copy user"
  description := ""
  icon := "copy"
  enabled := true
  fields := orders.map fun (id, order) =>
    { id, label := id, type := .text, enabled := true, required := false, order, category := "" }

/-- What shares its value with the upper neighbour and is listed first is not in the way. -/
theorem move_display_tied :
    let form := ofOrders [("a", 10), ("b", 10), ("c", 30)]
    (form.fields.map (·.id)).Nodup ∧ ∃ moved, form.move? "c" .up = some moved ∧
      moved.displayed.map (·.id) = ["a", "c", "b"] ∧ ∃ front upper lower back,
        form.displayed = front ++ upper :: lower :: back ∧ upper.order < lower.order ∧
        lower.id = "c" ∧ moved = form.exchange upper lower ∧
        moved.displayed.filter (fun field => field.id != upper.id && field.id != lower.id) =
          front ++ back := by
  intro form
  have distinct : (form.fields.map (·.id)).Nodup := by decide
  have moves : form.move? "c" .up = some (ofOrders [("a", 10), ("b", 30), ("c", 10)]) := rfl
  obtain ⟨front, upper, lower, back, displayed, below, named, exchanged, others, -⟩ :=
    move_display distinct moves
  exact ⟨distinct, _, moves, rfl, front, upper, lower, back, displayed, below, named, exchanged,
    others⟩

/--
With order values that are shared, a move does not always exchange two neighbours: the field that
takes over its neighbour's value goes before whatever shares this value and is listed later.
-/
theorem move_passes_tied : ¬ ∀ (form moved : RequestForm) (id : String) (direction : MoveDirection),
    (form.fields.map (·.id)).Nodup → form.move? id direction = some moved →
      ∃ front upper lower back, form.displayed.map (·.id) = front ++ upper :: lower :: back ∧
        direction.mover upper lower = id ∧
        moved.displayed.map (·.id) = front ++ lower :: upper :: back := by
  intro exchanges
  obtain ⟨front, upper, lower, back, before, rfl, after⟩ :=
    exchanges (ofOrders [("c", 30), ("a", 10), ("b", 10)]) _ "c" .up (by decide) rfl
  have before : ["a", "b", "c"] = front ++ upper :: "c" :: back := before
  have after : ["c", "a", "b"] = front ++ "c" :: upper :: back := after
  cases front with
  | nil => simp at before
  | cons first front =>
      have isFirst : "a" = first := (List.cons.inj before).1
      have isNot : "c" = first := (List.cons.inj after).1
      exact absurd (isFirst.trans isNot.symm) (by decide)

end RequestForm
end AccessPortal
