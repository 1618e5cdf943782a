import AccessPortal.Console.Lines
import AccessPortal.Proofs.Forms.Moves

/-!
# One display order for all

Fields are put in order in several places: a move sorts the places of all fields, what is filled in
are the enabled or the required fields, sorted after the choice, and the console sorts what it
prints. All of them follow one arrangement of the fields, in which a smaller order value comes first
and an earlier place between equal ones (`displayPlaces_eq_iff`). What is printed of a field shows
which one it is (`Console.fieldLine_shows`).
-/

namespace AccessPortal

/-! ## Printed fields -/

namespace Console

def blanks (count : Nat) : String :=
  String.ofList (List.replicate count ' ')

theorem blanks_append (first second : Nat) :
    blanks first ++ blanks second = blanks (first + second) := by
  rw [blanks, blanks, ← String.ofList_append, List.replicate_append_replicate]
  rfl

/-- The line of a field shows its order value, its id and its label, with blanks between them. -/
theorem fieldLine_shows (field : FormField) :
    ∃ indent gap rest, 0 < gap ∧ fieldLine field =
      blanks indent ++ toString field.order.toInt ++ "  " ++ field.id ++ blanks gap ++
        field.label ++ rest := by
  have order : "  " ++ Text.alignRight 3 (toString field.order.toInt) =
      blanks (2 + (3 - (toString field.order.toInt).length)) ++ toString field.order.toInt := by
    rw [← blanks_append, String.append_assoc]
    rfl
  have named (front : String) : front ++ Text.alignLeft 20 field.id ++ " " =
      front ++ field.id ++ blanks (20 - field.id.length + 1) := by
    simp only [Text.alignLeft, ← blanks_append, String.append_assoc]
    rfl
  have labelled : Text.alignLeft 26 field.label =
      field.label ++ blanks (26 - field.label.length) := rfl
  let remarks := (if field.required then ["required"] else []) ++
    if field.enabled then [] else ["disabled"]
  refine ⟨2 + (3 - (toString field.order.toInt).length), 20 - field.id.length + 1,
    blanks (26 - field.label.length) ++ " " ++ Text.alignLeft 9 field.type.id ++ " " ++
      String.intercalate ", " remarks, Nat.succ_pos _, ?_⟩
  rw [fieldLine, order, named, labelled]
  simp only [String.append_assoc]
  rfl

end Console

namespace RequestForm

def DisplayedBefore (form : RequestForm) (i j : Fin form.fields.length) : Prop :=
  (form.fields.get i).order < (form.fields.get j).order ∨
    (form.fields.get i).order = (form.fields.get j).order ∧ i < j

theorem DisplayedBefore.asymm {form : RequestForm} {i j : Fin form.fields.length}
    (before : form.DisplayedBefore i j) : ¬ form.DisplayedBefore j i := by
  unfold DisplayedBefore at *
  grind

/-- One place stands before another in the list of all places if it is the smaller one. -/
theorem displayedBefore_of_precedes {form : RequestForm} {i j : Fin form.fields.length}
    (precedes : Precedes (fun i => (form.fields.get i).order)
      (List.finRange form.fields.length) i j) :
    form.DisplayedBefore i j := by
  refine precedes.imp_right fun tied => ⟨tied.1, ?_⟩
  exact List.pairwise_pair.mp ((List.pairwise_lt_finRange _).sublist tied.2)

/-- The display is the only arrangement of the places with every field before those that come after
it. -/
theorem displayPlaces_eq_iff (form : RequestForm) {places : List (Fin form.fields.length)} :
    places = form.displayPlaces ↔
      places.Perm (List.finRange form.fields.length) ∧ places.Pairwise form.DisplayedBefore := by
  have perm : form.displayPlaces.Perm (List.finRange form.fields.length) := sortByOrder_perm _ _
  have pairwise : form.displayPlaces.Pairwise form.DisplayedBefore :=
    (sortByOrder_pairwise _ _).imp displayedBefore_of_precedes
  constructor
  · rintro rfl
    exact ⟨perm, pairwise⟩
  · intro h
    obtain ⟨perm', pairwise'⟩ := h
    exact List.Perm.eq_of_pairwise (fun _ _ _ _ before after => absurd after before.asymm)
      pairwise' pairwise (perm'.trans perm.symm)

/-! ## What is displayed of the fields -/

theorem enabledFields_eq_filter (form : RequestForm) :
    form.enabledFields = form.displayed.filter (·.enabled) :=
  sortByOrder_filter _ _ _

theorem requiredFields_eq_filter (form : RequestForm) :
    form.requiredFields = form.displayed.filter fun field => field.enabled && field.required := by
  rw [requiredFields, enabledFields_eq_filter, List.filter_filter]
  exact congrArg (List.filter · _) (funext fun field => Bool.and_comm _ _)

theorem printedFields_all (form : RequestForm) :
    Console.printedFields form true = form.displayed := by
  simp [Console.printedFields, displayed]

theorem printedFields_enabled (form : RequestForm) :
    Console.printedFields form false = form.enabledFields := by
  simp [Console.printedFields, enabledFields]

/--
The display as a move reads it off the places of the fields is an arrangement of the fields: the one
with smaller order values first and earlier places first between equal ones. The enabled fields and
the required ones are displayed as they follow each other there. The console prints a line for each
field of the display, or for each enabled one, and the line shows which field it is of.
-/
theorem displays_agree (form : RequestForm) :
    let display := form.displayPlaces.map form.fields.get
    (∀ places : List (Fin form.fields.length), places = form.displayPlaces ↔
      places.Perm (List.finRange form.fields.length) ∧
        places.Pairwise fun i j => (form.fields.get i).order < (form.fields.get j).order ∨
          (form.fields.get i).order = (form.fields.get j).order ∧ i < j) ∧
    display.Perm form.fields ∧
    form.enabledFields = display.filter (·.enabled) ∧
    form.requiredFields = display.filter (fun field => field.enabled && field.required) ∧
    Console.printedFields form true = display ∧
    Console.printedFields form false = form.enabledFields ∧
    (∀ all, Console.formLines form all =
      (form.name ++ " [" ++ (if form.enabled then "enabled" else "disabled") ++ "] - "
          ++ form.description)
        :: (if all then display else form.enabledFields).map Console.fieldLine) ∧
    ∀ field, ∃ indent gap rest, 0 < gap ∧ Console.fieldLine field =
      Console.blanks indent ++ toString field.order.toInt ++ "  " ++ field.id ++
        Console.blanks gap ++ field.label ++ rest := by
  intro display
  have displayed : display = form.displayed := form.displayed_eq_map.symm
  rw [displayed]
  refine ⟨fun places => form.displayPlaces_eq_iff, sortByOrder_perm _ _,
    form.enabledFields_eq_filter, form.requiredFields_eq_filter, form.printedFields_all,
    form.printedFields_enabled, fun all => ?_, Console.fieldLine_shows⟩
  cases all with
  | true => rw [if_pos rfl, Console.formLines, form.printedFields_all]
  | false => rw [if_neg Bool.false_ne_true, Console.formLines, form.printedFields_enabled]

end RequestForm
end AccessPortal
