/-!
# Permissions

The closed catalog of things a user of the portal may do, each in one functional area. Names exist
only at the edge: a permission arrives and leaves as its id, and everything inside the library works
with `Permission`.
-/

namespace AccessPortal

inductive PermissionArea where
  | dashboard | accessRequests | risk | roles | certification | firefighter | reports | audit
  | settings | workflowAdmin | bulkAccess | sodRules | entitlementIntelligence | compliance
  | contextualRisk | policies | liveSessions
  deriving DecidableEq, Repr, Inhabited

namespace PermissionArea

def all : List PermissionArea :=
  [.dashboard, .accessRequests, .risk, .roles, .certification, .firefighter, .reports, .audit,
   .settings, .workflowAdmin, .bulkAccess, .sodRules, .entitlementIntelligence, .compliance,
   .contextualRisk, .policies, .liveSessions]

/-- The name of an area in stored and transmitted text. -/
def id : PermissionArea → String
  | .dashboard => "dashboard"
  | .accessRequests => "access_requests"
  | .risk => "risk"
  | .roles => "roles"
  | .certification => "certification"
  | .firefighter => "firefighter"
  | .reports => "reports"
  | .audit => "audit"
  | .settings => "settings"
  | .workflowAdmin => "workflow_admin"
  | .bulkAccess => "bulk_access"
  | .sodRules => "sod_rules"
  | .entitlementIntelligence => "entitlement_intelligence"
  | .compliance => "compliance"
  | .contextualRisk => "contextual_risk"
  | .policies => "policies"
  | .liveSessions => "live_sessions"

def displayName : PermissionArea → String
  | .dashboard => "Dashboard"
  | .accessRequests => "Access Requests"
  | .risk => "Risk Analysis"
  | .roles => "Roles"
  | .certification => "Access Certification"
  | .firefighter => "Firefighter Access"
  | .reports => "Reports"
  | .audit => "Audit"
  | .settings => "Settings"
  | .workflowAdmin => "Workflow Administration"
  | .bulkAccess => "Bulk Access"
  | .sodRules => "SoD Rules"
  | .entitlementIntelligence => "Entitlement Intelligence"
  | .compliance => "Compliance"
  | .contextualRisk => "Contextual Risk"
  | .policies => "Policies"
  | .liveSessions => "Live Sessions"

def ofId? (id : String) : Option PermissionArea :=
  all.find? (·.id == id)

end PermissionArea

inductive Permission where
  | viewDashboard | viewAccessRequests | viewAllAccessRequests | createAccessRequest
  | cancelAccessRequest | approveAccessRequest | rejectAccessRequest | viewRiskAnalysis
  | runRiskAnalysis | manageMitigations | viewRoles | createRole | editRole | deleteRole
  | viewCertifications | manageCertifications | completeCertification | requestFirefighterAccess
  | approveFirefighterAccess | viewFirefighterLogs | manageFirefighterIds | viewReports
  | exportReports | viewAuditLogs | exportAuditLogs | viewSettings | manageUsers
  | manageFormConfig | manageSystemConfig | viewWorkflows | manageWorkflows | submitBulkAccess
  | approveBulkAccess | viewSodRules | manageSodRules | viewEntitlementIntelligence
  | manageEntitlementIntelligence | viewCompliance | manageComplianceFrameworks
  | viewSecurityControls | evaluateSecurityControls | viewContextualRisk | manageContextualRisk
  | viewPolicies | createPolicy | editPolicy | deletePolicy | deployPolicy | viewLiveSessions
  | terminateLiveSession
  deriving DecidableEq, Repr, Inhabited

namespace Permission

def all : List Permission :=
  [.viewDashboard, .viewAccessRequests, .viewAllAccessRequests, .createAccessRequest,
   .cancelAccessRequest, .approveAccessRequest, .rejectAccessRequest, .viewRiskAnalysis,
   .runRiskAnalysis, .manageMitigations, .viewRoles, .createRole, .editRole, .deleteRole,
   .viewCertifications, .manageCertifications, .completeCertification, .requestFirefighterAccess,
   .approveFirefighterAccess, .viewFirefighterLogs, .manageFirefighterIds, .viewReports,
   .exportReports, .viewAuditLogs, .exportAuditLogs, .viewSettings, .manageUsers,
   .manageFormConfig, .manageSystemConfig, .viewWorkflows, .manageWorkflows, .submitBulkAccess,
   .approveBulkAccess, .viewSodRules, .manageSodRules, .viewEntitlementIntelligence,
   .manageEntitlementIntelligence, .viewCompliance, .manageComplianceFrameworks,
   .viewSecurityControls, .evaluateSecurityControls, .viewContextualRisk, .manageContextualRisk,
   .viewPolicies, .createPolicy, .editPolicy, .deletePolicy, .deployPolicy, .viewLiveSessions,
   .terminateLiveSession]

/-- The name of a permission in stored and transmitted text. -/
def id : Permission → String
  | .viewDashboard => "view_dashboard"
  | .viewAccessRequests => "view_access_requests"
  | .viewAllAccessRequests => "view_all_access_requests"
  | .createAccessRequest => "create_access_request"
  | .cancelAccessRequest => "cancel_access_request"
  | .approveAccessRequest => "approve_access_request"
  | .rejectAccessRequest => "reject_access_request"
  | .viewRiskAnalysis => "view_risk_analysis"
  | .runRiskAnalysis => "run_risk_analysis"
  | .manageMitigations => "manage_mitigations"
  | .viewRoles => "view_roles"
  | .createRole => "create_role"
  | .editRole => "edit_role"
  | .deleteRole => "delete_role"
  | .viewCertifications => "view_certifications"
  | .manageCertifications => "manage_certifications"
  | .completeCertification => "complete_certification"
  | .requestFirefighterAccess => "request_firefighter_access"
  | .approveFirefighterAccess => "approve_firefighter_access"
  | .viewFirefighterLogs => "view_firefighter_logs"
  | .manageFirefighterIds => "manage_firefighter_ids"
  | .viewReports => "view_reports"
  | .exportReports => "export_reports"
  | .viewAuditLogs => "view_audit_logs"
  | .exportAuditLogs => "export_audit_logs"
  | .viewSettings => "view_settings"
  | .manageUsers => "manage_users"
  | .manageFormConfig => "manage_form_config"
  | .manageSystemConfig => "manage_system_config"
  | .viewWorkflows => "view_workflows"
  | .manageWorkflows => "manage_workflows"
  | .submitBulkAccess => "submit_bulk_access"
  | .approveBulkAccess => "approve_bulk_access"
  | .viewSodRules => "view_sod_rules"
  | .manageSodRules => "manage_sod_rules"
  | .viewEntitlementIntelligence => "view_entitlement_intelligence"
  | .manageEntitlementIntelligence => "manage_entitlement_intelligence"
  | .viewCompliance => "view_compliance"
  | .manageComplianceFrameworks => "manage_compliance_frameworks"
  | .viewSecurityControls => "view_security_controls"
  | .evaluateSecurityControls => "evaluate_security_controls"
  | .viewContextualRisk => "view_contextual_risk"
  | .manageContextualRisk => "manage_contextual_risk"
  | .viewPolicies => "view_policies"
  | .createPolicy => "create_policy"
  | .editPolicy => "edit_policy"
  | .deletePolicy => "delete_policy"
  | .deployPolicy => "deploy_policy"
  | .viewLiveSessions => "view_live_sessions"
  | .terminateLiveSession => "terminate_live_session"

def area : Permission → PermissionArea
  | .viewDashboard => .dashboard
  | .viewAccessRequests => .accessRequests
  | .viewAllAccessRequests => .accessRequests
  | .createAccessRequest => .accessRequests
  | .cancelAccessRequest => .accessRequests
  | .approveAccessRequest => .accessRequests
  | .rejectAccessRequest => .accessRequests
  | .viewRiskAnalysis => .risk
  | .runRiskAnalysis => .risk
  | .manageMitigations => .risk
  | .viewRoles => .roles
  | .createRole => .roles
  | .editRole => .roles
  | .deleteRole => .roles
  | .viewCertifications => .certification
  | .manageCertifications => .certification
  | .completeCertification => .certification
  | .requestFirefighterAccess => .firefighter
  | .approveFirefighterAccess => .firefighter
  | .viewFirefighterLogs => .firefighter
  | .manageFirefighterIds => .firefighter
  | .viewReports => .reports
  | .exportReports => .reports
  | .viewAuditLogs => .audit
  | .exportAuditLogs => .audit
  | .viewSettings => .settings
  | .manageUsers => .settings
  | .manageFormConfig => .settings
  | .manageSystemConfig => .settings
  | .viewWorkflows => .workflowAdmin
  | .manageWorkflows => .workflowAdmin
  | .submitBulkAccess => .bulkAccess
  | .approveBulkAccess => .bulkAccess
  | .viewSodRules => .sodRules
  | .manageSodRules => .sodRules
  | .viewEntitlementIntelligence => .entitlementIntelligence
  | .manageEntitlementIntelligence => .entitlementIntelligence
  | .viewCompliance => .compliance
  | .manageComplianceFrameworks => .compliance
  | .viewSecurityControls => .compliance
  | .evaluateSecurityControls => .compliance
  | .viewContextualRisk => .contextualRisk
  | .manageContextualRisk => .contextualRisk
  | .viewPolicies => .policies
  | .createPolicy => .policies
  | .editPolicy => .policies
  | .deletePolicy => .policies
  | .deployPolicy => .policies
  | .viewLiveSessions => .liveSessions
  | .terminateLiveSession => .liveSessions

def ofId? (id : String) : Option Permission :=
  all.find? (·.id == id)

end Permission

structure UnknownPermission where
  id : String
  deriving DecidableEq, Repr

def UnknownPermission.message (e : UnknownPermission) : String :=
  "unknown permission: " ++ e.id

def Permission.parse (id : String) : Except UnknownPermission Permission :=
  match ofId? id with
  | some permission => .ok permission
  | none => .error ⟨id⟩

end AccessPortal
