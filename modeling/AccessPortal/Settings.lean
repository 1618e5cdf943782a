import AccessPortal.Session.Error
import AccessPortal.Text.Numeral

/-!
# Settings

Where the auth service is, how long to wait for it, where the store lies and what is logged. The
settings come from the environment, each with a default.
-/

namespace AccessPortal

/-- The settings of a portal. -/
structure Settings where
  /-- The address of the auth service. -/
  baseUrl : String := "http://localhost:8080"
  /-- How many seconds a request may take. -/
  timeout : UInt64 := 30
  storageDir : String := ".grc"
  /-- The log filter that holds unless the run has one of its own. -/
  logLevel : String := "info"
  /-- Where log files are written. -/
  logDir : Option String := none
  deriving DecidableEq, Repr, Inhabited

namespace Settings

/-- A number of seconds that fits into 64 bits. -/
def seconds? (text : String) : Option UInt64 :=
  match Text.number? text.toList with
  | some n => if n < UInt64.size then some (UInt64.ofNat n) else none
  | none => none

/-- The settings of an environment. A timeout that is no number of seconds is passed over. -/
def ofEnvironment (value? : String → Option String) : Settings :=
  let default : Settings := {}
  { baseUrl := (value? "GRC_API_URL").getD default.baseUrl
    timeout := ((value? "GRC_TIMEOUT_SECS").bind seconds?).getD default.timeout
    storageDir := (value? "GRC_STORAGE_DIR").getD default.storageDir
    logLevel := (value? "GRC_LOG_LEVEL").getD default.logLevel
    logDir := value? "GRC_LOG_DIR" }

/-- Whether an address names one of the protocols that the portal speaks. -/
def hasProtocol (url : String) : Bool :=
  "http://".toList.isPrefixOf url.toList || "https://".toList.isPrefixOf url.toList

/-- Lets settings pass that the portal can reach the auth service with. -/
def check (settings : Settings) : Except ServiceError Unit :=
  if !hasProtocol settings.baseUrl then
    .error (.configuration
      ("base_url must start with http:// or https://, got '" ++ settings.baseUrl ++ "'"))
  else if settings.timeout = 0 then
    .error (.configuration "timeout must be at least one second")
  else .ok ()

end Settings
end AccessPortal
