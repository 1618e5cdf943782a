import AccessPortal.Account.Codec
import AccessPortal.Http.Message
import AccessPortal.Http.Status
import AccessPortal.Json.Canonical
import AccessPortal.Json.Reader
import AccessPortal.Json.Writer
import AccessPortal.Settings

/-!
# The client of the auth service

A request goes to the configured address, followed by one slash and the path of the endpoint. A
token is sent as `Bearer` authorization; one that cannot stand in a header keeps the request from
being sent. The status of the response says whether it succeeded, and if it did, its body has to be
JSON of the expected shape.
-/

namespace AccessPortal
namespace Http

/-- A client of the auth service at an address. -/
structure Client where
  baseUrl : String
  deriving DecidableEq, Repr, Inhabited

namespace Client

/-- The client for settings, provided that the service can be reached with them. -/
def ofSettings (settings : Settings) : Except ServiceError Client := do
  settings.check
  return ⟨settings.baseUrl⟩

/-- The text without the slashes at its end. -/
def trimSlashesEnd (text : String) : String :=
  String.ofList (text.toList.reverse.dropWhile (· == '/')).reverse

/-- The text without the slashes at its start. -/
def trimSlashesStart (text : String) : String :=
  String.ofList (text.toList.dropWhile (· == '/'))

/-- Where an endpoint is: the address, one slash and the path. -/
def url (client : Client) (path : String) : String :=
  trimSlashesEnd client.baseUrl ++ "/" ++ trimSlashesStart path

/-! ## Requests -/

/-- The request with a token, unless the token cannot be sent. -/
def withToken (token : Option String) (request : Request) : Option Request :=
  match token with
  | none => some request
  | some token =>
    let value := "Bearer " ++ token
    if isHeaderValue value then some { request with authorization := some value } else none

def getRequest (client : Client) (path : String) (token : Option String) : Option Request :=
  withToken token { method := .get, url := client.url path }

/-- A request with a value in JSON. -/
def postRequest (client : Client) (path : String) (value : Json) (token : Option String) :
    Option Request :=
  withToken token
    { method := .post, url := client.url path
      contentType := some "application/json", body := value.write }

/-- A request without a body. -/
def bareRequest (client : Client) (path : String) (token : Option String) : Option Request :=
  withToken token { method := .post, url := client.url path }

/-! ## Responses -/

/-- The body of a successful response; any other response is an error by its status. -/
def successBody (response : Response) : Except ServiceError String :=
  if Status.isSuccess response.status then .ok response.body
  else
    match response.status with
    | 401 => .error .unauthorized
    | 403 => .error (.forbidden response.body)
    | 404 => .error (.notFound response.body)
    | 400 => .error (.validation response.body)
    | status => .error (.internal (Status.text status ++ ": " ++ response.body))

def decode {α : Type} (decode? : Json → Option α) (response : Response) :
    Except ServiceError α := do
  let body ← successBody response
  match (Json.read body).bind decode? with
  | some value => return value
  | none => .error (.invalidResponse Detail.json)

def anyJson? (value : Json) : Option Json :=
  if value.isReadable Json.maxNesting then some value.canonical else none

/-! ## Calls -/

variable {α σ : Type}

/-- Sends a request, if there is one, and goes on with the response, if one comes back. -/
def exchange (transport : Transport σ) (request : Option Request)
    (accept : Response → Except ServiceError α) (state : σ) : Except ServiceError α × σ :=
  match request with
  | none => (.error .transport, state)
  | some request =>
    match transport request state with
    | (none, state) => (.error .transport, state)
    | (some response, state) => (accept response, state)

def get (client : Client) (transport : Transport σ) (path : String) (token : Option String)
    (decode? : Json → Option α) : σ → Except ServiceError α × σ :=
  exchange transport (client.getRequest path token) (decode decode?)

def post (client : Client) (transport : Transport σ) (path : String) (value : Json)
    (token : Option String) (decode? : Json → Option α) : σ → Except ServiceError α × σ :=
  exchange transport (client.postRequest path value token) (decode decode?)

/-- Sends a request without a body and looks at nothing of the response but its status. -/
def postWithoutBody (client : Client) (transport : Transport σ) (path : String)
    (token : Option String) : σ → Except ServiceError Unit × σ :=
  exchange transport (client.bareRequest path token) fun response =>
    (successBody response).map fun _ => ()

def login (client : Client) (transport : Transport σ) (credentials : Credentials) :
    σ → Except ServiceError Grant × σ :=
  client.post transport "/api/auth/login" credentials.toJson none Grant.ofJson?

def logout (client : Client) (transport : Transport σ) (token : String) :
    σ → Except ServiceError Unit × σ :=
  client.postWithoutBody transport "/api/auth/logout" (some token)

def currentUser (client : Client) (transport : Transport σ) (token : String) :
    σ → Except ServiceError Profile × σ :=
  client.get transport "/api/auth/me" (some token) Profile.ofJson?

end Client
end Http
end AccessPortal
