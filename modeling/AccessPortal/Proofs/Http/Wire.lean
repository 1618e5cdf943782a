import AccessPortal.Http.Client
import Mathlib.Data.List.DropRight

/-!
# What goes out

A network that keeps a list of what was sent over it (`onWire`). Whatever is behind it, and whatever
comes back, a client adds to the list the one request of a call, if there is one and its address can
be read (`Client.exchange_sends`). Which texts are read as an address is up to whoever sends the
requests, and is a parameter here. Where the requests of a client go to is a matter of the address
that it was given, without the slashes at its end (`Client.Addresses`).
-/

namespace AccessPortal
namespace Http

variable {α τ : Type}

/--
The network, with every request written down that is sent. One whose address is not `readable` is
not sent.
-/
def onWire (readable : String → Bool) (transport : Transport τ) : Transport (List Request × τ) :=
  fun request (sent, network) =>
    if readable request.url then
      ((transport request network).1, sent ++ [request], (transport request network).2)
    else
      (none, sent, network)

/-- The request with a token. There is none if the token cannot stand in a header. -/
def bearing (token : String) (request : Request) : List Request :=
  if isHeaderValue token then [{ request with authorization := some ("Bearer " ++ token) }] else []

theorem isHeaderValue_bearer (token : String) :
    isHeaderValue ("Bearer " ++ token) = isHeaderValue token := by
  have plain : isHeaderValue "Bearer " = true := by decide
  unfold isHeaderValue at plain ⊢
  rw [String.toList_append, List.all_append, plain, Bool.true_and]

namespace Client

def paths : List String :=
  ["/api/auth/login", "/api/auth/logout", "/api/auth/me"]

/--
The client was given this address, with any number of slashes behind it, and the addresses of what
is asked for there can be read.
-/
structure Addresses (client : Client) (readable : String → Bool) (base : String) : Prop where
  given : ∃ count, client.baseUrl = base ++ String.ofList (List.replicate count '/')
  bare : base.toList.getLast? ≠ some '/'
  read : ∀ path ∈ paths, readable (base ++ path) = true

theorem trimSlashesEnd_append {base : String} (bare : base.toList.getLast? ≠ some '/')
    (count : Nat) :
    trimSlashesEnd (base ++ String.ofList (List.replicate count '/')) = base := by
  have kept : base.toList.rdropWhile (· == '/') = base.toList := by
    rw [List.rdropWhile_eq_self_iff]
    intro nonempty last
    rw [List.getLast?_eq_some_getLast nonempty] at bare
    exact bare (congrArg some (beq_iff_eq.mp last))
  have slashes : (List.replicate count '/').dropWhile (· == '/') = [] := by simp
  rw [trimSlashesEnd, String.toList_append, String.toList_ofList, List.reverse_append,
    List.reverse_replicate, List.dropWhile_append, slashes, List.isEmpty_nil, if_pos rfl]
  exact (congrArg String.ofList kept).trans String.ofList_toList

theorem Addresses.url_eq {client : Client} {readable : String → Bool} {base path : String}
    (address : client.Addresses readable base) (asked : path ∈ paths) :
    client.url path = base ++ path := by
  obtain ⟨count, given⟩ := address.given
  have slash : "/" ++ trimSlashesStart path = path := by
    revert path
    decide
  rw [url, given, trimSlashesEnd_append address.bare, String.append_assoc, slash]

theorem toList_withToken (token : String) (request : Request) :
    (withToken (some token) request).toList = bearing token request := by
  rw [withToken, bearing, isHeaderValue_bearer]
  split <;> rfl

theorem url_of_withToken {token : Option String} {request made : Request}
    (built : withToken token request = some made) : made.url = request.url := by
  cases token with
  | none =>
      cases built
      rfl
  | some token =>
      simp only [withToken, Option.ite_none_right_eq_some] at built
      rw [← Option.some_inj.mp built.2]

/-! ## The list of what was sent -/

/-- A call sends its request, if there is one, where that can be addressed. -/
theorem exchange_sends {readable : String → Bool} (transport : Transport τ)
    {request : Option Request} (read : ∀ made, request = some made → readable made.url = true)
    (accept : Response → Except ServiceError α) (network : List Request × τ) :
    (exchange (onWire readable transport) request accept network).2.1 =
      network.1 ++ request.toList := by
  cases request with
  | none => simp [exchange]
  | some request =>
      have addressed := read request rfl
      cases came : (transport request network.2).1 <;> simp [exchange, onWire, addressed, came]

section

variable {client : Client} {readable : String → Bool} {base : String}
  (address : client.Addresses readable base)
include address

/-- What is asked for at the address of a client is sent there. -/
theorem Addresses.sends (transport : Transport τ) {path : String} (asked : path ∈ paths)
    (token : Option String) {request : Request} (addressed : request.url = base ++ path)
    (accept : Response → Except ServiceError α) (network : List Request × τ) :
    (exchange (onWire readable transport) (withToken token request) accept network).2.1 =
      network.1 ++ (withToken token request).toList := by
  refine exchange_sends transport (fun made built => ?_) accept network
  rw [url_of_withToken built, addressed]
  exact address.read path asked

theorem login_sends (transport : Transport τ) (credentials : Credentials)
    (network : List Request × τ) :
    (client.login (onWire readable transport) credentials network).2.1 = network.1 ++
      [{ method := .post, url := base ++ "/api/auth/login", authorization := none
         contentType := some "application/json", body := credentials.toJson.write }] := by
  have asked : "/api/auth/login" ∈ paths := by decide
  have addressed := address.url_eq asked
  rw [login, post, postRequest, addressed, address.sends transport asked none rfl]
  rfl

theorem logout_sends (transport : Transport τ) (token : String) (network : List Request × τ) :
    (client.logout (onWire readable transport) token network).2.1 =
      network.1 ++ bearing token { method := .post, url := base ++ "/api/auth/logout" } := by
  have asked : "/api/auth/logout" ∈ paths := by decide
  have addressed := address.url_eq asked
  rw [logout, postWithoutBody, bareRequest, addressed,
    address.sends transport asked (some token) rfl, toList_withToken]

theorem currentUser_sends (transport : Transport τ) (token : String)
    (network : List Request × τ) :
    (client.currentUser (onWire readable transport) token network).2.1 =
      network.1 ++ bearing token { method := .get, url := base ++ "/api/auth/me" } := by
  have asked : "/api/auth/me" ∈ paths := by decide
  have addressed := address.url_eq asked
  rw [currentUser, get, getRequest, addressed,
    address.sends transport asked (some token) rfl, toList_withToken]

end

end Client
end Http
end AccessPortal
