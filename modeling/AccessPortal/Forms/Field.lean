/-!
# Fields of a request form
-/

namespace AccessPortal

inductive FieldType where
  | text | select | checkbox | radio | textarea | date | email
  deriving DecidableEq, Repr, Inhabited

namespace FieldType

def all : List FieldType :=
  [.text, .select, .checkbox, .radio, .textarea, .date, .email]

/-- The name of a widget in stored text and on the console. -/
def id : FieldType → String
  | .text => "text"
  | .select => "select"
  | .checkbox => "checkbox"
  | .radio => "radio"
  | .textarea => "textarea"
  | .date => "date"
  | .email => "email"

def ofId? (id : String) : Option FieldType :=
  all.find? (·.id == id)

end FieldType

structure FieldOption where
  value : String
  label : String
  deriving DecidableEq, Repr, Inhabited

/-- One field of a form. Fields are displayed by ascending `order`, which may have gaps and ties. -/
structure FormField where
  id : String
  label : String
  type : FieldType
  enabled : Bool := true
  required : Bool := false
  order : Int32
  category : String
  placeholder : Option String := none
  description : Option String := none
  options : Option (List FieldOption) := none
  deriving DecidableEq, Repr, Inhabited

/-- A partial change of a field: what is `none` stays as it is. The id and the type are fixed. -/
structure FieldPatch where
  label : Option String := none
  enabled : Option Bool := none
  required : Option Bool := none
  order : Option Int32 := none
  category : Option String := none
  placeholder : Option String := none
  description : Option String := none
  options : Option (List FieldOption) := none
  deriving DecidableEq, Repr, Inhabited

/-- The field with the given parts replaced. A part can be set but not taken away again. -/
def FieldPatch.apply (patch : FieldPatch) (field : FormField) : FormField where
  id := field.id
  label := patch.label.getD field.label
  type := field.type
  enabled := patch.enabled.getD field.enabled
  required := patch.required.getD field.required
  order := patch.order.getD field.order
  category := patch.category.getD field.category
  placeholder := patch.placeholder <|> field.placeholder
  description := patch.description <|> field.description
  options := patch.options <|> field.options

end AccessPortal
