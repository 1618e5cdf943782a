import AccessPortal.Forms.FormSet

/-!
# The shipped forms and the field catalog

`FormSet.shipped` has a form for every request type. `FormField.catalog` lists the fields that can
be added to any of them; their order value is a placeholder, set when a field is added.
-/

namespace AccessPortal

namespace FormField

/-- Choices given as pairs of a value and its label. -/
def choices (pairs : List (String × String)) : Option (List FieldOption) :=
  some (pairs.map fun (value, label) => ⟨value, label⟩)

def systems : Option (List FieldOption) :=
  choices
    [("sap_erp", "SAP ERP"), ("active_directory", "Active Directory"),
     ("salesforce", "Salesforce"), ("workday", "Workday"), ("oracle_db", "Oracle Database")]

def departments : Option (List FieldOption) :=
  choices
    [("finance", "Finance"), ("hr", "Human Resources"), ("it", "Information Technology"),
     ("operations", "Operations"), ("sales", "Sales")]

def userId (order : Int32) : FormField where
  id := "user_id"
  label := "User ID"
  type := .text
  required := true
  order := order
  category := "user"
  placeholder := some "e.g. jdoe"

def targetSystem (order : Int32) : FormField where
  id := "system"
  label := "Target System"
  type := .select
  required := true
  order := order
  category := "access"
  options := systems

def justification (order : Int32) : FormField where
  id := "justification"
  label := "Business Justification"
  type := .textarea
  required := true
  order := order
  category := "justification"
  description := some "Explain why this access is needed"

/-- The fields that can be added to any form. -/
def catalog : List FormField :=
  [{ id := "cost_center", label := "Cost Center", type := .text, order := 0,
     category := "employment", placeholder := some "e.g. CC-1042" },
   { id := "ticket_reference", label := "Ticket Reference", type := .text, order := 0,
     category := "general", placeholder := some "e.g. INC0012345" },
   { id := "employee_type", label := "Employee Type", type := .select, order := 0,
     category := "employment",
     options := choices
       [("employee", "Employee"), ("contractor", "Contractor"), ("vendor", "Vendor")] },
   { id := "location", label := "Location", type := .text, order := 0, category := "employment" },
   { id := "priority", label := "Priority", type := .radio, order := 0, category := "general",
     options := choices [("low", "Low"), ("medium", "Medium"), ("high", "High")] },
   { id := "access_end_date", label := "Access End Date", type := .date, order := 0,
     category := "access",
     description := some "Access is revoked automatically after this date" },
   { id := "contact_email", label := "Contact Email", type := .email, order := 0,
     category := "general" }]

end FormField

namespace RequestForm

def newAccount : RequestForm where
  requestType := .newAccount
  name := "New Account"
  description := "Provision a new account in a target system"
  icon := "user-plus"
  enabled := true
  fields :=
    [{ id := "first_name", label := "First Name", type := .text, required := true, order := 1,
       category := "personal" },
     { id := "last_name", label := "Last Name", type := .text, required := true, order := 2,
       category := "personal" },
     { id := "email", label := "Email", type := .email, required := true, order := 3,
       category := "personal", placeholder := some "name@company.com" },
     { id := "department", label := "Department", type := .select, required := true, order := 4,
       category := "employment", options := FormField.departments },
     { id := "manager", label := "Manager", type := .text, order := 5,
       category := "employment" },
     { id := "job_title", label := "Job Title", type := .text, order := 6,
       category := "employment" },
     { id := "start_date", label := "Start Date", type := .date, required := true, order := 7,
       category := "employment" },
     FormField.targetSystem 8,
     { id := "roles", label := "Requested Roles", type := .select, required := true, order := 9,
       category := "access" },
     FormField.justification 10,
     { id := "temporary_access", label := "Temporary Access", type := .checkbox,
       enabled := false, order := 11, category := "access" },
     { id := "end_date", label := "Access End Date", type := .date, enabled := false,
       order := 12, category := "access" }]

def changeAccount : RequestForm where
  requestType := .changeAccount
  name := "Change Account"
  description := "Add or remove roles on an existing account"
  icon := "user-cog"
  enabled := true
  fields :=
    [FormField.userId 1,
     FormField.targetSystem 2,
     { id := "add_roles", label := "Roles to Add", type := .select, order := 3,
       category := "access" },
     { id := "remove_roles", label := "Roles to Remove", type := .select, order := 4,
       category := "access" },
     { id := "effective_date", label := "Effective Date", type := .date, order := 5,
       category := "access" },
     FormField.justification 6]

def copyUser : RequestForm where
  requestType := .copyUser
  name := "Copy User"
  description := "Mirror the access of an existing user"
  icon := "copy"
  enabled := true
  fields :=
    [{ id := "source_user", label := "Copy From", type := .text, required := true, order := 1,
       category := "user" },
     { id := "target_user", label := "Copy To", type := .text, required := true, order := 2,
       category := "user" },
     { id := "system", label := "Target System", type := .select, order := 3,
       category := "access", options := FormField.systems },
     { id := "copy_scope", label := "Copy Scope", type := .radio, order := 4,
       category := "access",
       options := FormField.choices [("all", "All access"), ("roles_only", "Roles only")] },
     FormField.justification 5]

def removeAccount : RequestForm where
  requestType := .removeAccount
  name := "Remove Account"
  description := "Deprovision an account from a target system"
  icon := "user-minus"
  enabled := true
  fields :=
    [FormField.userId 1,
     FormField.targetSystem 2,
     { id := "removal_date", label := "Removal Date", type := .date, required := true,
       order := 3, category := "access" },
     { id := "reason", label := "Reason", type := .select, required := true, order := 4,
       category := "justification",
       options := FormField.choices
         [("resignation", "Resignation"), ("termination", "Termination"),
          ("transfer", "Transfer"), ("other", "Other")] },
     { id := "transfer_data_to", label := "Transfer Data To", type := .text, enabled := false,
       order := 5, category := "user" },
     { id := "comments", label := "Comments", type := .textarea, order := 6,
       category := "justification" }]

def lockAccount : RequestForm where
  requestType := .lockAccount
  name := "Lock Account"
  description := "Temporarily block sign-in to an account"
  icon := "lock"
  enabled := true
  fields :=
    [FormField.userId 1,
     FormField.targetSystem 2,
     { id := "lock_reason", label := "Lock Reason", type := .select, required := true,
       order := 3, category := "justification",
       options := FormField.choices
         [("security_incident", "Security incident"), ("leave_of_absence", "Leave of absence"),
          ("investigation", "Investigation")] },
     { id := "lock_duration", label := "Duration", type := .radio, order := 4,
       category := "access",
       options := FormField.choices [("temporary", "Temporary"), ("indefinite", "Indefinite")] },
     { id := "comments", label := "Comments", type := .textarea, order := 5,
       category := "justification" }]

def unlockAccount : RequestForm where
  requestType := .unlockAccount
  name := "Unlock Account"
  description := "Restore sign-in to a locked account"
  icon := "unlock"
  enabled := true
  fields :=
    [FormField.userId 1,
     FormField.targetSystem 2,
     { id := "unlock_reason", label := "Unlock Reason", type := .textarea, required := true,
       order := 3, category := "justification" },
     { id := "identity_verified", label := "Identity Verified", type := .checkbox,
       required := true, order := 4, category := "verification",
       description := some "Confirm the requester's identity was verified out of band" }]

end RequestForm

/-- The forms of this version of the portal, one for every request type. -/
def FormSet.shipped : FormSet where
  form?
    | .newAccount => some .newAccount
    | .changeAccount => some .changeAccount
    | .copyUser => some .copyUser
    | .removeAccount => some .removeAccount
    | .lockAccount => some .lockAccount
    | .unlockAccount => some .unlockAccount

end AccessPortal
