import AccessPortal.Console.Run
import AccessPortal.Proofs.Session.Calls
import AccessPortal.Proofs.Storage.Contents

/-!
# What comes back from the auth service

For a request there comes back a response or nothing (`Client.answer`), and what the client makes of
it depends on nothing else (`Client.understand`). It takes a value from it exactly if the status is
one of success and the body is JSON of the expected shape (`Delivers`).

A handler with an `Uplink` asks the auth service over HTTP in this way. The console is one
(`Console.Surroundings.uplink`), and so is any store beside a client (`Uplink.beside`).
-/

namespace AccessPortal
namespace Http

variable {α σ τ : Type}

/-- A success came back, with a value as JSON. -/
def Delivers (decode? : Json → Option α) (answer : Option Response) (value : α) : Prop :=
  ∃ response, answer = some response ∧ Status.isSuccess response.status ∧
    (Json.read response.body).bind decode? = some value

theorem Delivers.unique {decode? : Json → Option α} {answer : Option Response} {value other : α}
    (delivers : Delivers decode? answer value) (again : Delivers decode? answer other) :
    value = other := by
  obtain ⟨response, rfl, -, read⟩ := delivers
  obtain ⟨_, same, -, read'⟩ := again
  obtain rfl := Option.some.inj same
  exact Option.some.inj (read.symm.trans read')

def inOrder : Transport (List Response) := fun _ responses =>
  (responses.head?, responses.tail)

namespace Client

def answer (transport : Transport τ) (request : Option Request) (network : τ) :
    Option Response × τ :=
  request.elim (none, network) fun request => transport request network

def understand (decode? : Json → Option α) (answer : Option Response) : Except ServiceError α :=
  answer.elim (.error .transport) (decode decode?)

theorem exchange_eq (transport : Transport τ) (request : Option Request)
    (decode? : Json → Option α) (network : τ) :
    exchange transport request (decode decode?) network =
      (understand decode? (answer transport request network).1,
        (answer transport request network).2) := by
  cases request with
  | none => rfl
  | some request =>
      simp only [exchange, answer, Option.elim_some]
      split
      · rename_i came
        rw [came]
        rfl
      · rename_i came
        rw [came]
        rfl

theorem isSuccess_of_successBody {response : Response} {body : String}
    (taken : successBody response = .ok body) :
    Status.isSuccess response.status ∧ body = response.body := by
  unfold successBody at taken
  split at taken
  · rename_i success
    exact ⟨success, (Except.ok.inj taken).symm⟩
  · split at taken <;> cases taken

theorem understand_eq_ok_iff {decode? : Json → Option α} {answer : Option Response} {value : α} :
    understand decode? answer = .ok value ↔ Delivers decode? answer value := by
  constructor
  · intro understood
    cases answer with
    | none => cases understood
    | some response =>
        cases taken : successBody response with
        | error e => simp [understand, decode, taken, bind, Except.bind] at understood
        | ok body =>
            obtain ⟨success, rfl⟩ := isSuccess_of_successBody taken
            cases read : (Json.read response.body).bind decode? with
            | none => simp [understand, decode, taken, read, bind, Except.bind] at understood
            | some found =>
                simp only [understand, decode, taken, read, bind, Except.bind, pure, Except.pure,
                  Option.elim_some] at understood
                rw [Except.ok.inj understood] at read
                exact ⟨response, rfl, success, read⟩
  · intro delivered
    obtain ⟨response, rfl, success, read⟩ := delivered
    simp only [understand, decode, successBody, success, read, if_true, bind, Except.bind, pure,
      Except.pure, Option.elim_some]

/-- The body of a success has to be readable. -/
theorem understand_of_unreadable {decode? : Json → Option α} {response : Response}
    (success : Status.isSuccess response.status)
    (unreadable : ∀ value, ¬ Delivers decode? (some response) value) :
    understand decode? (some response) = .error (.invalidResponse Detail.json) := by
  cases read : (Json.read response.body).bind decode? with
  | none =>
      simp only [understand, decode, successBody, success, read, if_true, bind, Except.bind,
        Option.elim_some]
  | some value => exact absurd ⟨response, rfl, success, read⟩ (unreadable value)

/-- A response that is no success is told by its status. -/
theorem understand_of_refused (decode? : Json → Option α) {response : Response} {e : ServiceError}
    (refused : successBody response = .error e) :
    understand decode? (some response) = .error e := by
  simp only [understand, decode, refused, bind, Except.bind, Option.elim_some]

/-- Four statuses have a meaning of their own. -/
theorem successBody_of_other {response : Response}
    (refused : ¬ Status.isSuccess response.status)
    (other : response.status ∉ [400, 401, 403, 404]) :
    successBody response =
      .error (.internal (Status.text response.status ++ ": " ++ response.body)) := by
  unfold successBody
  rw [if_neg refused]
  split <;> simp_all

/-- The client takes only a status for the rejection of a token. -/
theorem understand_eq_unauthorized_iff {decode? : Json → Option α} {answer : Option Response} :
    understand decode? answer = .error .unauthorized ↔ answer.map (·.status) = some 401 := by
  cases answer with
  | none => exact ⟨nofun, nofun⟩
  | some response =>
      obtain ⟨status, body⟩ := response
      constructor
      · intro understood
        cases taken : successBody ⟨status, body⟩ with
        | ok body =>
            simp only [understand, decode, taken, bind, Except.bind, Option.elim_some] at understood
            split at understood <;> cases understood
        | error e =>
            rw [understand_of_refused decode? taken] at understood
            cases understood
            unfold successBody at taken
            split at taken
            · cases taken
            · split at taken <;> simp_all
      · intro rejected
        cases rejected
        rfl

end Client

/-! ## Handlers that ask the service over HTTP -/

/-- Operations on the auth service go over a network that is a part of the state, and no other
operation touches it. -/
structure Uplink (σ τ : Type) where
  handler : Handler σ
  client : Client
  transport : Transport τ
  network : σ → τ
  login : ∀ credentials state, (handler (.login credentials) state).map id network =
    client.login transport credentials (network state)
  logout : ∀ token state, (handler (.logout token) state).map id network =
    client.logout transport token (network state)
  currentUser : ∀ token state, (handler (.currentUser token) state).map id network =
    client.currentUser transport token (network state)
  apart : ∀ {β : Type} (operation : Operation β), ¬ operation.AsksService → ∀ state,
    network (handler operation state).2 = network state

namespace Uplink

def loginAnswer (uplink : Uplink σ τ) (credentials : Credentials) (state : σ) :
    Option Response × τ :=
  Client.answer uplink.transport
    (uplink.client.postRequest "/api/auth/login" credentials.toJson none) (uplink.network state)

def currentUserAnswer (uplink : Uplink σ τ) (token : String) (state : σ) : Option Response × τ :=
  Client.answer uplink.transport (uplink.client.getRequest "/api/auth/me" (some token))
    (uplink.network state)

theorem reply_login (uplink : Uplink σ τ) (credentials : Credentials) (state : σ) :
    (uplink.handler (.login credentials) state).1 =
      Client.understand Grant.ofJson? (uplink.loginAnswer credentials state).1 := by
  have asked := uplink.login credentials state
  rw [Client.login, Client.post, Client.exchange_eq] at asked
  exact congrArg Prod.fst asked

theorem reply_currentUser (uplink : Uplink σ τ) (token : String) (state : σ) :
    (uplink.handler (.currentUser token) state).1 =
        Client.understand Profile.ofJson? (uplink.currentUserAnswer token state).1 ∧
      uplink.network (uplink.handler (.currentUser token) state).2 =
        (uplink.currentUserAnswer token state).2 := by
  have asked := uplink.currentUser token state
  rw [Client.currentUser, Client.get, Client.exchange_eq] at asked
  exact ⟨congrArg Prod.fst asked, congrArg Prod.snd asked⟩

/-- What a session does beside asking the service leaves the network alone. -/
theorem network_of_upkeep (uplink : Uplink σ τ) {network : τ} {β : Type}
    (operation : Operation β) (upkeep : operation.IsUpkeep) (state : σ)
    (same : uplink.network state = network) :
    uplink.network (uplink.handler operation state).2 = network :=
  (uplink.apart operation (not_asks_of_upkeep upkeep) state).trans same

/-- The handler, with everything written down that happens. -/
def recorded (uplink : Uplink σ τ) : Uplink (List Event × σ) τ where
  handler := Handler.recorded uplink.handler
  client := uplink.client
  transport := uplink.transport
  network moment := uplink.network moment.2
  login credentials moment := uplink.login credentials moment.2
  logout token moment := uplink.logout token moment.2
  currentUser token moment := uplink.currentUser token moment.2
  apart operation other moment := uplink.apart operation other moment.2

/-- The service over HTTP, and everything else from a handler that knows nothing of the network. -/
def beside (client : Client) (transport : Transport τ) (others : Handler σ) :
    Uplink (σ × τ) τ where
  handler operation state :=
    match operation with
    | .login credentials => (client.login transport credentials state.2).map id (state.1, ·)
    | .logout token => (client.logout transport token state.2).map id (state.1, ·)
    | .currentUser token => (client.currentUser transport token state.2).map id (state.1, ·)
    | operation => (others operation state.1).map id (·, state.2)
  client := client
  transport := transport
  network state := state.2
  login _ _ := rfl
  logout _ _ := rfl
  currentUser _ _ := rfl
  apart operation other state := by
    cases operation with
    | login | logout | currentUser => exact absurd trivial other
    | _ => rfl

/-- A service beside a store leaves the store alone. -/
theorem faithful_beside {others : Handler σ} {contents : σ → Contents} (client : Client)
    (transport : Transport τ) (faithful : Faithful others contents) :
    Faithful (beside client transport others).handler fun state => contents state.1 where
  admits operation state := by
    cases operation with
    | get key => exact faithful.admits (.get key) state.1
    | _ => trivial
  after operation state := by
    cases operation with
    | get key => exact faithful.after (.get key) state.1
    | set key value => exact faithful.after (.set key value) state.1
    | remove key => exact faithful.after (.remove key) state.1
    | now => exact faithful.after .now state.1
    | log record => exact faithful.after (.log record) state.1
    | _ => rfl

end Uplink
end Http

/-- The console asks the service over HTTP. -/
def Console.Surroundings.uplink {τ : Type} (client : Http.Client) (transport : Http.Transport τ) :
    Http.Uplink (Surroundings τ) τ where
  handler := handle client transport
  client := client
  transport := transport
  network := network
  login _ _ := rfl
  logout _ _ := rfl
  currentUser _ _ := rfl
  apart operation other here := by
    cases operation with
    | login | logout | currentUser => exact absurd trivial other
    | _ => rfl

end AccessPortal
