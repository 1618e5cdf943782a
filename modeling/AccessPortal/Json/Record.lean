import AccessPortal.Json.Value

/-!
# Records in JSON

A record type lists its members as *slots*. A record is written as an object with its slots in
order; it is read from an object, whatever the order of its members, or from an array that holds
the slots in order.

In an object, members without a slot are skipped and a repeated slot is an error. An array may end
early only before slots that are marked so, and holds nothing after the last one.
-/

namespace AccessPortal
namespace Json

structure Slot where
  name : String
  /-- Whether a record written as an array may end before this member. -/
  mayEndBefore : Bool := false
  deriving DecidableEq, Repr

def lookup (name : String) : List (String × Json) → Option Json
  | [] => none
  | (n, value) :: members => if n == name then some value else lookup name members

def occurrences (name : String) (members : List (String × Json)) : Nat :=
  members.countP (·.1 == name)

/-- The slots of an array record: items fill them from the left, all others must be omittable. -/
def fill : List Slot → List Json → Option (List (Option Json))
  | [], [] => some []
  | [], _ :: _ => none
  | _ :: slots, item :: items => (fill slots items).map (some item :: ·)
  | slot :: slots, [] => if slot.mayEndBefore then (fill slots []).map (none :: ·) else none

/-- What a value holds in each slot of a record, if it is such a record at all. -/
def slots (layout : List Slot) : Json → Option (List (Option Json))
  | .object members =>
    if layout.all fun slot => occurrences slot.name members ≤ 1 then
      some (layout.map fun slot => lookup slot.name members)
    else none
  | .array items => fill layout items
  | _ => none

/-! ## Members -/

def required {α : Type} (decode : Json → Option α) : Option Json → Option α
  | some value => decode value
  | none => none

/-- A member that may be absent or `null`. -/
def optional {α : Type} (decode : Json → Option α) : Option Json → Option (Option α)
  | some .null => some none
  | some value => (decode value).map some
  | none => some none

/-- A member that stands for `default` when it is absent; `null` is a value like any other. -/
def orElse {α : Type} (default : α) (decode : Json → Option α) : Option Json → Option α
  | some value => decode value
  | none => some default

/-- An optional part that is written `null` when absent. -/
def ofOption {α : Type} (encode : α → Json) : Option α → Json
  | some a => encode a
  | none => .null

/-- An optional part that is left out when absent. -/
def memberIfSome {α : Type} (name : String) (encode : α → Json) : Option α → List (String × Json)
  | some a => [(name, encode a)]
  | none => []

/-! ## Simple values -/

def asString : Json → Option String
  | .string s => some s
  | _ => none

def asBool : Json → Option Bool
  | .bool b => some b
  | _ => none

def asIntegerIn (low high : Int) : Json → Option Int
  | .integer n => if low ≤ n ∧ n ≤ high then some n else none
  | _ => none

def asInt32 (value : Json) : Option Int32 :=
  (asIntegerIn Int32.minValue.toInt Int32.maxValue.toInt value).map Int32.ofInt

def ofInt32 (n : Int32) : Json :=
  .integer n.toInt

def asInt64 (value : Json) : Option Int64 :=
  (asIntegerIn Int64.minValue.toInt Int64.maxValue.toInt value).map Int64.ofInt

def ofInt64 (n : Int64) : Json :=
  .integer n.toInt

def asList {α : Type} (decode : Json → Option α) : Json → Option (List α)
  | .array items => items.mapM decode
  | _ => none

def ofList {α : Type} (encode : α → Json) (items : List α) : Json :=
  .array (items.map encode)

/--
One of finitely many named values: its name as a string, or an object with that name as its only
member and `null` under it.
-/
def asName {α : Type} (ofId? : String → Option α) : Json → Option α
  | .string id => ofId? id
  | .object [(id, .null)] => ofId? id
  | _ => none

end Json
end AccessPortal
