import AccessPortal.Access.Permission

/-!
# Roles

Every user has exactly one role, and a role lists its permissions one by one. Roles do not inherit
from each other, so widening one never widens another.
-/

namespace AccessPortal

inductive Role where
  | endUser | manager | roleOwner | securityAdmin | complianceOfficer | auditor
  | firefighterController | systemAdmin
  deriving DecidableEq, Repr, Inhabited

namespace Role

def all : List Role :=
  [.endUser, .manager, .roleOwner, .securityAdmin, .complianceOfficer, .auditor,
   .firefighterController, .systemAdmin]

/-- The name of a role in stored and transmitted text. -/
def id : Role → String
  | .endUser => "end_user"
  | .manager => "manager"
  | .roleOwner => "role_owner"
  | .securityAdmin => "security_admin"
  | .complianceOfficer => "compliance_officer"
  | .auditor => "auditor"
  | .firefighterController => "firefighter_controller"
  | .systemAdmin => "system_admin"

def displayName : Role → String
  | .endUser => "End User"
  | .manager => "Manager"
  | .roleOwner => "Role Owner"
  | .securityAdmin => "Security Administrator"
  | .complianceOfficer => "Compliance Officer"
  | .auditor => "Auditor"
  | .firefighterController => "Firefighter Controller"
  | .systemAdmin => "System Administrator"

def description : Role → String
  | .endUser => "Requests access for themselves and tracks their own requests"
  | .manager => "Approves access for direct reports and reviews team certifications"
  | .roleOwner => "Maintains business roles and approves assignments to owned roles"
  | .securityAdmin => "Administers roles, SoD rules, policies and emergency access"
  | .complianceOfficer => "Runs certification campaigns and control evaluations against frameworks"
  | .auditor => "Read-only access to requests, logs, controls and reports"
  | .firefighterController => "Grants and monitors emergency privileged access sessions"
  | .systemAdmin => "Full access including system and form configuration"

/-- The permissions of a role, in the order in which it lists them. -/
def permissions : Role → List Permission
  | .endUser =>
    [.viewDashboard, .viewAccessRequests, .createAccessRequest, .cancelAccessRequest,
     .requestFirefighterAccess, .viewCertifications]
  | .manager =>
    [.viewDashboard, .viewAccessRequests, .viewAllAccessRequests, .createAccessRequest,
     .cancelAccessRequest, .approveAccessRequest, .rejectAccessRequest, .requestFirefighterAccess,
     .viewRiskAnalysis, .viewCertifications, .completeCertification, .viewReports,
     .submitBulkAccess]
  | .roleOwner =>
    [.viewDashboard, .viewAccessRequests, .createAccessRequest, .approveAccessRequest,
     .rejectAccessRequest, .viewRoles, .createRole, .editRole, .viewRiskAnalysis,
     .runRiskAnalysis, .viewSodRules, .viewCertifications, .completeCertification,
     .viewEntitlementIntelligence, .viewReports]
  | .securityAdmin =>
    [.viewDashboard, .viewAccessRequests, .viewAllAccessRequests, .approveAccessRequest,
     .rejectAccessRequest, .viewRoles, .createRole, .editRole, .deleteRole, .viewRiskAnalysis,
     .runRiskAnalysis, .manageMitigations, .viewSodRules, .manageSodRules,
     .approveFirefighterAccess, .viewFirefighterLogs, .manageFirefighterIds, .submitBulkAccess,
     .approveBulkAccess, .viewEntitlementIntelligence, .manageEntitlementIntelligence,
     .viewSecurityControls, .evaluateSecurityControls, .viewContextualRisk, .manageContextualRisk,
     .viewPolicies, .createPolicy, .editPolicy, .deployPolicy, .viewLiveSessions,
     .terminateLiveSession, .viewAuditLogs, .viewReports, .exportReports]
  | .complianceOfficer =>
    [.viewDashboard, .viewAccessRequests, .viewAllAccessRequests, .viewRiskAnalysis,
     .runRiskAnalysis, .viewSodRules, .manageSodRules, .viewCertifications, .manageCertifications,
     .completeCertification, .viewCompliance, .manageComplianceFrameworks, .viewSecurityControls,
     .evaluateSecurityControls, .viewContextualRisk, .viewPolicies, .viewReports, .exportReports,
     .viewAuditLogs, .exportAuditLogs]
  | .auditor =>
    [.viewDashboard, .viewAccessRequests, .viewAllAccessRequests, .viewRoles, .viewRiskAnalysis,
     .viewSodRules, .viewCertifications, .viewFirefighterLogs, .viewCompliance,
     .viewSecurityControls, .viewContextualRisk, .viewPolicies, .viewLiveSessions, .viewReports,
     .exportReports, .viewAuditLogs, .exportAuditLogs]
  | .firefighterController =>
    [.viewDashboard, .viewAccessRequests, .requestFirefighterAccess, .approveFirefighterAccess,
     .viewFirefighterLogs, .manageFirefighterIds, .viewLiveSessions, .terminateLiveSession,
     .viewAuditLogs, .viewReports]
  | .systemAdmin => Permission.all

def hasPermission (role : Role) (permission : Permission) : Bool :=
  role.permissions.contains permission

def hasAny (role : Role) (permissions : List Permission) : Bool :=
  permissions.any role.hasPermission

def hasAll (role : Role) (permissions : List Permission) : Bool :=
  permissions.all role.hasPermission

def ofId? (id : String) : Option Role :=
  all.find? (·.id == id)

end Role

structure UnknownRole where
  id : String
  deriving DecidableEq, Repr

def UnknownRole.message (e : UnknownRole) : String :=
  "unknown role: " ++ e.id

def Role.parse (id : String) : Except UnknownRole Role :=
  match ofId? id with
  | some role => .ok role
  | none => .error ⟨id⟩

end AccessPortal
