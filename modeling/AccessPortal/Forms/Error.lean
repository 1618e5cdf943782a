import AccessPortal.Detail
import AccessPortal.Forms.Form
import AccessPortal.Storage.Key

/-!
# Errors around the forms
-/

namespace AccessPortal

/-- Why the forms cannot be loaded, changed or saved. -/
inductive FormError where
  | persistence (cause : StorageError)
  /-- The forms have no text. -/
  | serialization
  /-- What is stored is not the text of a snapshot. -/
  | corrupt
  | notConfigured (type : RequestType)
  | fieldNotFound (type : RequestType) (field : String)
  | fieldExists (type : RequestType) (field : String)
  | notInCatalog (field : String)
  | defaultField (field : String)
  | orderExhausted (type : RequestType)
  deriving DecidableEq, Repr

namespace FormError

def message : FormError → String
  | .persistence cause => "Failed to persist form configuration: " ++ cause.message
  | .serialization => "Failed to serialize form configuration: " ++ Detail.json
  | .corrupt => "Saved form configuration is corrupt: " ++ Detail.json
  | .notConfigured type => "Request type '" ++ type.id ++ "' is not configured"
  | .fieldNotFound type field => "Field '" ++ field ++ "' not found on " ++ type.id
  | .fieldExists type field => "Field '" ++ field ++ "' is already on " ++ type.id
  | .notInCatalog field => "Field '" ++ field ++ "' is not in the field catalog"
  | .defaultField field => "Field '" ++ field ++ "' is a default field; disable it instead"
  | .orderExhausted type => "No display order left on " ++ type.id

def code : FormError → ErrorCode
  | .persistence cause => cause.code
  | .serialization => .internalError
  | .corrupt => .storageCorrupted
  | .notConfigured _ => .notFound
  | .fieldNotFound _ _ => .formFieldNotFound
  | .fieldExists _ _ => .formFieldExists
  | .notInCatalog _ => .formFieldNotInCatalog
  | .defaultField _ => .formFieldIsDefault
  | .orderExhausted _ => .validationFailed

/-- What lies behind an error of the forms, the nearest cause first. -/
def causes : FormError → List String
  | .persistence cause => cause.message :: cause.causes
  | .serialization | .corrupt => [Detail.json]
  | _ => []

end FormError
end AccessPortal
