import AccessPortal.Forms.Form

/-!
# The forms of the portal

A form set holds at most one form for each request type. It is known by what it answers for each
type; listed, its forms come in the order of `RequestType.all`.
-/

namespace AccessPortal

/-- At most one form for each request type. -/
@[ext]
structure FormSet where
  form? : RequestType → Option RequestForm

namespace FormSet

def empty : FormSet :=
  ⟨fun _ => none⟩

/-- The set in which `form` is the form of `type`, whatever it was before. -/
def set (forms : FormSet) (type : RequestType) (form : RequestForm) : FormSet :=
  ⟨fun t => if t = type then some form else forms.form? t⟩

def map (f : RequestType → RequestForm → RequestForm) (forms : FormSet) : FormSet :=
  ⟨fun type => (forms.form? type).map (f type)⟩

/-- The forms with their request types, in storage order. -/
def toList (forms : FormSet) : List (RequestType × RequestForm) :=
  RequestType.all.filterMap fun type => (forms.form? type).map (type, ·)

/-- The set with the given forms; of several for one type, the last stays. -/
def ofList (entries : List (RequestType × RequestForm)) : FormSet :=
  entries.foldl (fun forms (type, form) => forms.set type form) empty

def size (forms : FormSet) : Nat :=
  forms.toList.length

end FormSet
end AccessPortal
