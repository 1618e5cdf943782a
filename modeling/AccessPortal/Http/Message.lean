/-!
# Requests and responses
-/

namespace AccessPortal
namespace Http

inductive Method where
  | get | post
  deriving DecidableEq, Repr, Inhabited

def Method.name : Method → String
  | .get => "GET"
  | .post => "POST"

structure Request where
  method : Method
  url : String
  authorization : Option String := none
  contentType : Option String := none
  body : String := ""
  deriving DecidableEq, Repr, Inhabited

/-- A response as it is read, with its body as text. A body that is not UTF-8 has no counterpart. -/
structure Response where
  status : Nat
  body : String := ""
  deriving DecidableEq, Repr, Inhabited

/-- What carries requests to a server, over a state of its own; `none` if no response comes back. -/
def Transport (σ : Type) : Type :=
  Request → σ → Option Response × σ

/--
Whether a text can be sent as the value of a header: of the control characters of ASCII, only the
tab may occur in it.
-/
def isHeaderValue (text : String) : Bool :=
  text.toList.all fun c => c == '\t' || (0x20 ≤ c.toNat && c.toNat != 0x7f)

end Http
end AccessPortal
