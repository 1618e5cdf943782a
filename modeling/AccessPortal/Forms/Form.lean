import AccessPortal.Forms.Display
import AccessPortal.Forms.Field

/-!
# Request forms

Each kind of access request has a form: a few texts, a switch and a list of fields. A field is named
by its id, and where ids repeat the first field is meant. The list order of the fields matters only
between fields of equal `order`.
-/

namespace AccessPortal

inductive RequestType where
  | newAccount | changeAccount | copyUser | removeAccount | lockAccount | unlockAccount
  deriving DecidableEq, Repr, Inhabited

namespace RequestType

/-- All request types, in the order in which they are stored. -/
def all : List RequestType :=
  [.newAccount, .changeAccount, .copyUser, .removeAccount, .lockAccount, .unlockAccount]

def id : RequestType → String
  | .newAccount => "new-account"
  | .changeAccount => "change-account"
  | .copyUser => "copy-user"
  | .removeAccount => "remove-account"
  | .lockAccount => "lock-account"
  | .unlockAccount => "unlock-account"

def ofId? (id : String) : Option RequestType :=
  all.find? (·.id == id)

end RequestType

structure UnknownRequestType where
  id : String
  deriving DecidableEq, Repr

def UnknownRequestType.message (e : UnknownRequestType) : String :=
  "unknown request type: " ++ e.id

def RequestType.parse (id : String) : Except UnknownRequestType RequestType :=
  match ofId? id with
  | some type => .ok type
  | none => .error ⟨id⟩

structure RequestForm where
  requestType : RequestType
  name : String
  description : String
  icon : String
  enabled : Bool
  fields : List FormField
  deriving DecidableEq, Repr, Inhabited

/-- Where a field goes when it is moved by one place in display order. -/
inductive MoveDirection where
  | up | down
  deriving DecidableEq, Repr, Inhabited

namespace MoveDirection

def id : MoveDirection → String
  | .up => "up"
  | .down => "down"

def ofId? : String → Option MoveDirection
  | "up" => some .up
  | "down" => some .down
  | _ => none

/-- The place beside `place` among `count` places, if there is one on that side. -/
def neighbour? (place count : Nat) : MoveDirection → Option Nat
  | .up => if 0 < place then some (place - 1) else none
  | .down => if place + 1 < count then some (place + 1) else none

end MoveDirection

namespace RequestForm

def field? (form : RequestForm) (id : String) : Option FormField :=
  form.fields.find? (·.id == id)

def hasField (form : RequestForm) (id : String) : Bool :=
  form.fields.any (·.id == id)

def updateField (form : RequestForm) (id : String) (change : FormField → FormField) :
    RequestForm :=
  { form with fields := updateFirst (·.id == id) change form.fields }

def append (form : RequestForm) (field : FormField) : RequestForm :=
  { form with fields := form.fields ++ [field] }

/-- Takes away all fields with the given id. -/
def without (form : RequestForm) (id : String) : RequestForm :=
  { form with fields := form.fields.filter (·.id != id) }

/-! ## Display -/

def displayed (form : RequestForm) : List FormField :=
  sortByOrder (·.order) form.fields

def enabledFields (form : RequestForm) : List FormField :=
  sortByOrder (·.order) (form.fields.filter (·.enabled))

/-- The enabled fields that must be filled in, as they are displayed. -/
def requiredFields (form : RequestForm) : List FormField :=
  form.enabledFields.filter (·.required)

/-- The places of the fields in the list, in display order. -/
def displayPlaces (form : RequestForm) : List (Fin form.fields.length) :=
  sortByOrder (fun i => form.fields[i].order) (List.finRange form.fields.length)

def maxOrder? (form : RequestForm) : Option Int32 :=
  (form.fields.map (·.order)).foldl
    (fun largest order => some (largest.elim order fun m => if m < order then order else m)) none

/--
An order value behind all fields: one more than the largest, or 1 on an empty form. There is none
when the largest value that an order can have is taken.
-/
def nextOrder? (form : RequestForm) : Option Int32 :=
  match form.maxOrder? with
  | none => some 1
  | some largest => if largest = Int32.maxValue then none else some (largest + 1)

/-! ## Moving a field -/

/-- Exchanges the order values of the fields at two places. -/
def exchangeOrders (form : RequestForm) (a b : Fin form.fields.length) : RequestForm :=
  let first := form.fields[a]
  let second := form.fields[b]
  { form with
    fields := (form.fields.set a { first with order := second.order }).set b
      { second with order := first.order } }

/--
Moves a field by one place in display order, by exchanging its order value with its neighbour's.

There is no move when the form has no such field, when the field is already at that end, and when
the neighbour has the same order value, so that an exchange would change nothing.
-/
def move? (form : RequestForm) (id : String) (direction : MoveDirection) : Option RequestForm := do
  let places := form.displayPlaces
  let here ← places.findIdx? fun i => form.fields[i].id == id
  let beside ← direction.neighbour? here places.length
  let a ← places[here]?
  let b ← places[beside]?
  if form.fields[a].order = form.fields[b].order then none
  else some (form.exchangeOrders a b)

end RequestForm

/-- A partial change of a form: what is `none` stays as it is. A list of fields replaces the old. -/
structure FormPatch where
  name : Option String := none
  description : Option String := none
  icon : Option String := none
  enabled : Option Bool := none
  fields : Option (List FormField) := none
  deriving DecidableEq, Repr, Inhabited

def FormPatch.apply (patch : FormPatch) (form : RequestForm) : RequestForm where
  requestType := form.requestType
  name := patch.name.getD form.name
  description := patch.description.getD form.description
  icon := patch.icon.getD form.icon
  enabled := patch.enabled.getD form.enabled
  fields := patch.fields.getD form.fields

end AccessPortal
