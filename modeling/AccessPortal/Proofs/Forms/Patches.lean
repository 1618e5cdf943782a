import AccessPortal.Forms.Form

/-!
# Patches, part by part

A field and a form consist of parts, and a patch gives some of them. To apply a patch is to take
what it gives and to leave every other part (`Patching`). Two laws follow for any records that are
patched in this way: a patch that is applied again changes nothing more, and two patches one after
the other are one patch, which gives what the second one gives and else what the first one gives.
-/

namespace AccessPortal

/-- Records are told by their parts, to apply a patch to one is to take the parts that it gives, and
a patch followed by another gives what the other gives and else what it gives itself. -/
structure Patching {Record Patch Part : Type} {Value : Part → Type}
    (part : Record → (p : Part) → Value p) (given : Patch → (p : Part) → Option (Value p))
    (apply : Patch → Record → Record) (followedBy : Patch → Patch → Patch) : Prop where
  told : ∀ {record other : Record}, (∀ p, part record p = part other p) → record = other
  applied : ∀ patch record p, part (apply patch record) p = (given patch p).getD (part record p)
  joined : ∀ first second p,
    given (followedBy first second) p = (given second p).or (given first p)

namespace Patching

variable {Record Patch Part : Type} {Value : Part → Type} {part : Record → (p : Part) → Value p}
  {given : Patch → (p : Part) → Option (Value p)} {apply : Patch → Record → Record}
  {followedBy : Patch → Patch → Patch} (patching : Patching part given apply followedBy)
include patching

theorem apply_apply (first second : Patch) (record : Record) :
    apply second (apply first record) = apply (followedBy first second) record := by
  refine patching.told fun p => ?_
  rw [patching.applied, patching.applied, patching.applied, patching.joined, Option.getD_or]

theorem apply_followedBy_self (patch : Patch) : apply (followedBy patch patch) = apply patch := by
  funext record
  refine patching.told fun p => ?_
  rw [patching.applied, patching.applied, patching.joined, Option.or_self]

theorem apply_again (patch : Patch) (record : Record) :
    apply patch (apply patch record) = apply patch record := by
  rw [patching.apply_apply, patching.apply_followedBy_self]

end Patching

/-! ## Fields -/

namespace FormField

inductive Part where
  | id | label | type | enabled | required | order | category | placeholder | description | options

def Part.Value : Part → Type
  | .id | .label | .category => String
  | .type => FieldType
  | .enabled | .required => Bool
  | .order => Int32
  | .placeholder | .description => Option String
  | .options => Option (List FieldOption)

def part (field : FormField) : (p : Part) → p.Value
  | .id => field.id
  | .label => field.label
  | .type => field.type
  | .enabled => field.enabled
  | .required => field.required
  | .order => field.order
  | .category => field.category
  | .placeholder => field.placeholder
  | .description => field.description
  | .options => field.options

end FormField

namespace FieldPatch

/-- What a patch gives for a part. The id and the type are never given, and a part that a field need
not have is given as one that it has. -/
def given (patch : FieldPatch) : (p : FormField.Part) → Option p.Value
  | .id | .type => none
  | .label => patch.label
  | .enabled => patch.enabled
  | .required => patch.required
  | .order => patch.order
  | .category => patch.category
  | .placeholder => patch.placeholder.map some
  | .description => patch.description.map some
  | .options => patch.options.map some

/-- The patch that gives what the second one gives and else what the first one gives. -/
def followedBy (first second : FieldPatch) : FieldPatch where
  label := second.label <|> first.label
  enabled := second.enabled <|> first.enabled
  required := second.required <|> first.required
  order := second.order <|> first.order
  category := second.category <|> first.category
  placeholder := second.placeholder <|> first.placeholder
  description := second.description <|> first.description
  options := second.options <|> first.options

/-- To replace a part that may be absent is to replace it as a whole. -/
theorem orElse_eq_getD {α : Type} (given part : Option α) :
    (given <|> part) = (given.map some).getD part := by
  cases given <;> rfl

theorem map_orElse {α : Type} (second first : Option α) :
    (second <|> first).map some = (second.map some).or (first.map some) := by
  cases second <;> rfl

theorem patching : Patching FormField.part given apply followedBy where
  told {field other} same := by
    obtain ⟨⟩ := field
    obtain ⟨⟩ := other
    exact (FormField.mk.injEq ..).mpr ⟨same .id, same .label, same .type, same .enabled,
      same .required, same .order, same .category, same .placeholder, same .description,
      same .options⟩
  applied patch field p := by
    cases p with
    | id | label | type | enabled | required | order | category => rfl
    | placeholder | description | options => exact orElse_eq_getD _ _
  joined first second p := by
    cases p with
    | id | type => rfl
    | label | enabled | required | order | category => exact Option.or_eq_orElse.symm
    | placeholder | description | options => exact map_orElse _ _

end FieldPatch

/-! ## Forms -/

namespace RequestForm

inductive Part where
  | requestType | name | description | icon | enabled | fields

def Part.Value : Part → Type
  | .requestType => RequestType
  | .name | .description | .icon => String
  | .enabled => Bool
  | .fields => List FormField

def part (form : RequestForm) : (p : Part) → p.Value
  | .requestType => form.requestType
  | .name => form.name
  | .description => form.description
  | .icon => form.icon
  | .enabled => form.enabled
  | .fields => form.fields

end RequestForm

namespace FormPatch

def given (patch : FormPatch) : (p : RequestForm.Part) → Option p.Value
  | .requestType => none
  | .name => patch.name
  | .description => patch.description
  | .icon => patch.icon
  | .enabled => patch.enabled
  | .fields => patch.fields

def followedBy (first second : FormPatch) : FormPatch where
  name := second.name <|> first.name
  description := second.description <|> first.description
  icon := second.icon <|> first.icon
  enabled := second.enabled <|> first.enabled
  fields := second.fields <|> first.fields

theorem patching : Patching RequestForm.part given apply followedBy where
  told {form other} same := by
    obtain ⟨⟩ := form
    obtain ⟨⟩ := other
    exact (RequestForm.mk.injEq ..).mpr ⟨same .requestType, same .name, same .description,
      same .icon, same .enabled, same .fields⟩
  applied patch form p := by
    cases p <;> rfl
  joined first second p := by
    cases p with
    | requestType => rfl
    | name | description | icon | enabled | fields => exact Option.or_eq_orElse.symm

end FormPatch
end AccessPortal
