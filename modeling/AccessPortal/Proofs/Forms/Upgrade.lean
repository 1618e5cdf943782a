import AccessPortal.Forms.Shipped
import AccessPortal.Proofs.Forms.Normal

/-!
# Saved forms over newer defaults

What was saved outlives the version of the portal that saved it. Merged into any defaults it brings
back every saved field as it was, in the place of the default field of its id or behind all of them,
and takes nothing from the defaults that was not saved (`merge_upgrades`). So forms that are saved
again come back over the same defaults, and over newer ones with all of their fields.
-/

namespace AccessPortal

/-- The form has what was saved, and of the default form what was not saved. -/
structure RequestForm.Combines (default : RequestForm) (saved : SavedForm) (form : RequestForm) :
    Prop where
  requestType : form.requestType = default.requestType
  name : form.name = saved.name.getD default.name
  description : form.description = saved.description.getD default.description
  icon : form.icon = saved.icon.getD default.icon
  enabled : form.enabled = saved.enabled.getD default.enabled
  ids : form.fields.map (·.id) = default.fields.map (·.id) ++
    ((saved.fields.getD []).filter fun field => !default.hasField field.id).map (·.id)
  field? : ∀ id, form.field? id =
    ((saved.fields.getD []).find? (·.id == id)).or (default.field? id)

/-! ## Fields -/

/-- A saved field is found in the place of the default field of its id. -/
theorem find?_replaced (defaults saved : List FormField) (id : String) :
    (defaults.map fun field => (saved.find? (·.id == field.id)).getD field).find? (·.id == id) =
      (defaults.find? (·.id == id)).map fun field =>
        (saved.find? (·.id == id)).getD field := by
  induction defaults with
  | nil => rfl
  | cons field defaults ih =>
      have sameId : ((saved.find? (·.id == field.id)).getD field).id = field.id := by
        cases found : saved.find? (·.id == field.id) with
        | none => rfl
        | some chosen => simpa using List.find?_some found
      rw [List.map_cons, List.find?_cons, List.find?_cons, sameId]
      by_cases same : field.id = id
      · simp [same]
      · rw [beq_false_of_ne same]
        exact ih

theorem find?_mergeFields (defaults saved : List FormField) (id : String) :
    (mergeFields defaults saved).find? (·.id == id) =
      (saved.find? (·.id == id)).or (defaults.find? (·.id == id)) := by
  rw [mergeFields, List.find?_append, find?_replaced]
  cases known : defaults.find? (·.id == id) with
  | some field =>
      cases saved.find? (·.id == id) with
      | none => rfl
      | some chosen => rfl
  | none =>
      have foreign : defaults.any (·.id == id) = false := by
        simpa using known
      have kept : (saved.filter fun field => !defaults.any (·.id == field.id)).find? (·.id == id) =
          saved.find? (·.id == id) := by
        rw [List.find?_filter]
        refine congrArg (List.find? · saved) (funext fun field => ?_)
        by_cases same : field.id = id
        · rw [same, foreign]
          simp
        · simp [same]
      rw [Option.map_none, Option.none_or, kept, Option.or_none]

/-! ## Forms -/

namespace RequestForm

theorem combines_merge (default : RequestForm) (saved : SavedForm) :
    default.Combines saved (default.merge saved) where
  requestType := rfl
  name := rfl
  description := rfl
  icon := rfl
  enabled := rfl
  ids := by
    unfold merge
    cases saved.fields with
    | none => simp
    | some fields => exact ids_mergeFields default.fields fields
  field? id := by
    unfold merge RequestForm.field?
    cases saved.fields with
    | none => rfl
    | some fields => exact find?_mergeFields default.fields fields id

end RequestForm

namespace FormSet

/-- Where nothing was saved of a form, it is merged with a saved form that has no part. -/
theorem form?_merge_getD (defaults : FormSet) (snapshot : Snapshot) (type : RequestType) :
    (defaults.merge snapshot).form? type =
      (defaults.form? type).map fun form => form.merge ((snapshot.get? type.id).getD {}) := by
  rw [form?_merge]
  cases snapshot.get? type.id with
  | none => rfl
  | some saved => rfl

theorem merge_congr {defaults : FormSet} {first second : Snapshot}
    (agree : ∀ type, (defaults.form? type).isSome →
      first.get? type.id = second.get? type.id) :
    defaults.merge first = defaults.merge second := by
  ext1
  funext type
  rw [form?_merge_getD, form?_merge_getD]
  cases found : defaults.form? type with
  | none => rfl
  | some form => rw [agree type (by rw [found]; rfl)]

/-- Forms that were saved keep their fields over any defaults. -/
theorem field?_merge_snapshot (forms newer : FormSet) {type : RequestType} {default : RequestForm}
    (ofNewer : newer.form? type = some default) :
    ∃ form, (newer.merge forms.snapshot).form? type = some form ∧
      ∀ id, form.field? id = ((forms.form? type).bind (·.field? id)).or (default.field? id) := by
  refine ⟨_, by rw [form?_merge_getD, ofNewer, Option.map_some], fun id => ?_⟩
  rw [(default.combines_merge _).field? id, forms.get?_snapshot type]
  cases forms.form? type with
  | none => rfl
  | some form => rfl

/--
Merging gives the request types of the defaults, and for each the default form with what was saved
of it. Entries of other request types do not matter. What is saved of the result gives the same
again, and over any newer defaults each field that the result had, next to the fields that are new.
-/
theorem merge_upgrades {defaults : FormSet} (distinct : defaults.Distinct) (snapshot : Snapshot) :
    let merged := defaults.merge snapshot
    (∀ type, defaults.form? type = none → merged.form? type = none) ∧
    (∀ type default, defaults.form? type = some default →
      ∃ form, merged.form? type = some form ∧
        default.Combines ((snapshot.get? type.id).getD {}) form) ∧
    (∀ other : Snapshot, (∀ type, (defaults.form? type).isSome →
        other.get? type.id = snapshot.get? type.id) →
      defaults.merge other = merged) ∧
    ∃ again, Snapshot.parse merged.toText = some again ∧ defaults.merge again = merged ∧
      ∀ (newer : FormSet) (type : RequestType) (default : RequestForm),
        newer.form? type = some default →
          ∃ form, (newer.merge again).form? type = some form ∧
            ∀ id, form.field? id =
              ((merged.form? type).bind (·.field? id)).or (default.field? id) := by
  intro merged
  have form? (type : RequestType) := defaults.form?_merge_getD snapshot type
  refine ⟨fun type absent => ?_, fun type default found => ?_, fun other agree => ?_,
    merged.snapshot, merged.parse_toText, ?_, fun newer type default found => ?_⟩
  · rw [form? type, absent, Option.map_none]
  · exact ⟨_, by rw [form? type, found, Option.map_some], default.combines_merge _⟩
  · exact merge_congr agree
  · have sameTypes : defaults.SameTypes merged := defaults.sameTypes_merge snapshot
    exact (merge_eq_iff distinct sameTypes).mpr (defaults.normal_merge snapshot)
  · exact merged.field?_merge_snapshot newer found

/-- A field that was added becomes a default one, one that was a default is none any more, and one
is new. Of the two fields that were saved under one id, the first counts. -/
theorem merge_upgrades_unlock :
    let field (id label : String) (order : Int32) : FormField :=
      { id, label, type := .text, order, category := "general" }
    let older : RequestForm :=
      { RequestForm.unlockAccount with fields := [field "user" "User" 1, field "reason" "Why" 2] }
    let newer : RequestForm :=
      { RequestForm.unlockAccount with
        fields := [field "ticket" "Ticket" 1, field "until" "Until" 2] }
    let saved : SavedForm :=
      { name := some "Unlock"
        fields := some
          [field "ticket" "Our ticket" 7, field "user" "Login" 3, field "ticket" "" 9] }
    let defaults := FormSet.empty.set .unlockAccount older
    let merged := defaults.merge (.ofList [("unlock-account", saved), ("merge-account", saved)])
    defaults.Distinct ∧
      (merged.form? .unlockAccount).map (·.fields.map (·.label)) =
        some ["Login", "Why", "Our ticket", ""] ∧
      ∃ again, Snapshot.parse merged.toText = some again ∧ defaults.merge again = merged ∧
        ∃ form, ((FormSet.empty.set .unlockAccount newer).merge again).form? .unlockAccount =
            some form ∧
          ["ticket", "until", "user", "reason", "comments"].map
              (fun id => (form.field? id).map (·.label)) =
            [some "Our ticket", some "Until", some "Login", some "Why", none] := by
  intro field older newer saved defaults merged
  have distinct : defaults.Distinct := by
    intro type form found
    cases type <;> (cases found; try decide)
  have labels : (merged.form? .unlockAccount).map (·.fields.map (·.label)) =
      some ["Login", "Why", "Our ticket", ""] := by
    decide +kernel
  obtain ⟨-, -, -, again, parsed, same, upgrades⟩ := merge_upgrades distinct
    (.ofList [("unlock-account", saved), ("merge-account", saved)])
  obtain ⟨form, found, fields⟩ :=
    upgrades (FormSet.empty.set .unlockAccount newer) .unlockAccount newer rfl
  refine ⟨distinct, labels, again, parsed, same, form, found, ?_⟩
  simp only [fields]
  decide +kernel

end FormSet
end AccessPortal
