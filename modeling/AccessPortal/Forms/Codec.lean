import AccessPortal.Forms.Merging
import AccessPortal.Json.Reader
import AccessPortal.Json.Record
import AccessPortal.Json.Writer

/-!
# Forms in JSON

Fields and forms leave out the optional parts that they do not have. Patches and saved forms write
every part, `null` where there is none, and a patch that is written as an array must be complete.
-/

namespace AccessPortal

def FieldType.toJson (type : FieldType) : Json :=
  .string type.id

def FieldType.ofJson? : Json → Option FieldType :=
  Json.asName ofId?

def RequestType.toJson (type : RequestType) : Json :=
  .string type.id

def RequestType.ofJson? : Json → Option RequestType :=
  Json.asName ofId?

def MoveDirection.toJson (direction : MoveDirection) : Json :=
  .string direction.id

def MoveDirection.ofJson? : Json → Option MoveDirection :=
  Json.asName ofId?

namespace FieldOption

def toJson (option : FieldOption) : Json :=
  .object [("value", .string option.value), ("label", .string option.label)]

def layout : List Json.Slot :=
  [⟨"value", false⟩, ⟨"label", false⟩]

def ofJson? (value : Json) : Option FieldOption := do
  let [chosen, label] ← Json.slots layout value | none
  return {
    value := ← Json.required Json.asString chosen
    label := ← Json.required Json.asString label }

end FieldOption

namespace FormField

def toJson (field : FormField) : Json :=
  .object
    ([("id", .string field.id), ("label", .string field.label), ("type", field.type.toJson),
      ("enabled", .bool field.enabled), ("required", .bool field.required),
      ("order", Json.ofInt32 field.order), ("category", .string field.category)]
    ++ Json.memberIfSome "placeholder" .string field.placeholder
    ++ Json.memberIfSome "description" .string field.description
    ++ Json.memberIfSome "options" (Json.ofList FieldOption.toJson) field.options)

def layout : List Json.Slot :=
  [⟨"id", false⟩, ⟨"label", false⟩, ⟨"type", false⟩, ⟨"enabled", false⟩, ⟨"required", false⟩,
   ⟨"order", false⟩, ⟨"category", false⟩, ⟨"placeholder", true⟩, ⟨"description", true⟩,
   ⟨"options", true⟩]

def ofJson? (value : Json) : Option FormField := do
  let [id, label, type, enabled, required, order, category, placeholder, description, options] ←
    Json.slots layout value | none
  return {
    id := ← Json.required Json.asString id
    label := ← Json.required Json.asString label
    type := ← Json.required FieldType.ofJson? type
    enabled := ← Json.required Json.asBool enabled
    required := ← Json.required Json.asBool required
    order := ← Json.required Json.asInt32 order
    category := ← Json.required Json.asString category
    placeholder := ← Json.optional Json.asString placeholder
    description := ← Json.optional Json.asString description
    options := ← Json.optional (Json.asList FieldOption.ofJson?) options }

end FormField

namespace RequestForm

def toJson (form : RequestForm) : Json :=
  .object
    [("requestType", form.requestType.toJson), ("name", .string form.name),
     ("description", .string form.description), ("icon", .string form.icon),
     ("enabled", .bool form.enabled), ("fields", Json.ofList FormField.toJson form.fields)]

def layout : List Json.Slot :=
  [⟨"requestType", false⟩, ⟨"name", false⟩, ⟨"description", false⟩, ⟨"icon", false⟩,
   ⟨"enabled", false⟩, ⟨"fields", false⟩]

def ofJson? (value : Json) : Option RequestForm := do
  let [requestType, name, description, icon, enabled, fields] ← Json.slots layout value | none
  return {
    requestType := ← Json.required RequestType.ofJson? requestType
    name := ← Json.required Json.asString name
    description := ← Json.required Json.asString description
    icon := ← Json.required Json.asString icon
    enabled := ← Json.required Json.asBool enabled
    fields := ← Json.required (Json.asList FormField.ofJson?) fields }

end RequestForm

namespace FormSet

/-- A form set is written as an object from request type ids to forms, in storage order. -/
def toJson (forms : FormSet) : Json :=
  .object (forms.toList.map fun (type, form) => (type.id, form.toJson))

/-- Every member name must be a request type id; of repeated members the last stays. -/
def ofJson? : Json → Option FormSet
  | .object members => do
    let entries ← members.mapM fun (id, value) =>
      (RequestType.ofId? id).bind fun type => (RequestForm.ofJson? value).map (type, ·)
    return ofList entries
  | _ => none

end FormSet

namespace SavedForm

def toJson (saved : SavedForm) : Json :=
  .object
    [("name", Json.ofOption .string saved.name),
     ("description", Json.ofOption .string saved.description),
     ("icon", Json.ofOption .string saved.icon), ("enabled", Json.ofOption .bool saved.enabled),
     ("fields", Json.ofOption (Json.ofList FormField.toJson) saved.fields)]

def layout : List Json.Slot :=
  [⟨"name", true⟩, ⟨"description", true⟩, ⟨"icon", true⟩, ⟨"enabled", true⟩, ⟨"fields", true⟩]

def ofJson? (value : Json) : Option SavedForm := do
  let [name, description, icon, enabled, fields] ← Json.slots layout value | none
  return {
    name := ← Json.optional Json.asString name
    description := ← Json.optional Json.asString description
    icon := ← Json.optional Json.asString icon
    enabled := ← Json.optional Json.asBool enabled
    fields := ← Json.optional (Json.asList FormField.ofJson?) fields }

end SavedForm

namespace Snapshot

/-- A snapshot is written as an object from ids to saved forms, by ascending id. -/
def toJson (snapshot : Snapshot) : Json :=
  .object (snapshot.entries.map fun (id, saved) => (id, saved.toJson))

/-- Any member name is an id; of repeated members the last stays. -/
def ofJson? : Json → Option Snapshot
  | .object members => do
    let entries ← members.mapM fun (id, value) => (SavedForm.ofJson? value).map (id, ·)
    return ofList entries
  | _ => none

def parse (text : String) : Option Snapshot :=
  (Json.read text).bind ofJson?

end Snapshot

/-- What a save stores: the text of all forms. -/
def FormSet.toText (forms : FormSet) : String :=
  forms.toJson.write

namespace FieldPatch

def toJson (patch : FieldPatch) : Json :=
  .object
    [("label", Json.ofOption .string patch.label), ("enabled", Json.ofOption .bool patch.enabled),
     ("required", Json.ofOption .bool patch.required),
     ("order", Json.ofOption Json.ofInt32 patch.order),
     ("category", Json.ofOption .string patch.category),
     ("placeholder", Json.ofOption .string patch.placeholder),
     ("description", Json.ofOption .string patch.description),
     ("options", Json.ofOption (Json.ofList FieldOption.toJson) patch.options)]

def layout : List Json.Slot :=
  [⟨"label", false⟩, ⟨"enabled", false⟩, ⟨"required", false⟩, ⟨"order", false⟩,
   ⟨"category", false⟩, ⟨"placeholder", false⟩, ⟨"description", false⟩, ⟨"options", false⟩]

def ofJson? (value : Json) : Option FieldPatch := do
  let [label, enabled, required, order, category, placeholder, description, options] ←
    Json.slots layout value | none
  return {
    label := ← Json.optional Json.asString label
    enabled := ← Json.optional Json.asBool enabled
    required := ← Json.optional Json.asBool required
    order := ← Json.optional Json.asInt32 order
    category := ← Json.optional Json.asString category
    placeholder := ← Json.optional Json.asString placeholder
    description := ← Json.optional Json.asString description
    options := ← Json.optional (Json.asList FieldOption.ofJson?) options }

end FieldPatch

namespace FormPatch

def toJson (patch : FormPatch) : Json :=
  .object
    [("name", Json.ofOption .string patch.name),
     ("description", Json.ofOption .string patch.description),
     ("icon", Json.ofOption .string patch.icon), ("enabled", Json.ofOption .bool patch.enabled),
     ("fields", Json.ofOption (Json.ofList FormField.toJson) patch.fields)]

def layout : List Json.Slot :=
  [⟨"name", false⟩, ⟨"description", false⟩, ⟨"icon", false⟩, ⟨"enabled", false⟩,
   ⟨"fields", false⟩]

def ofJson? (value : Json) : Option FormPatch := do
  let [name, description, icon, enabled, fields] ← Json.slots layout value | none
  return {
    name := ← Json.optional Json.asString name
    description := ← Json.optional Json.asString description
    icon := ← Json.optional Json.asString icon
    enabled := ← Json.optional Json.asBool enabled
    fields := ← Json.optional (Json.asList FormField.ofJson?) fields }

end FormPatch
end AccessPortal
