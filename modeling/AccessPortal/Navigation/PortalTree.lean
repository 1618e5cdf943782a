import AccessPortal.Navigation.Item

/-!
# The shipped navigation tree
-/

namespace AccessPortal

def NavigationItem.portalTree : List NavigationItem :=
  [⟨"Dashboard", "/dashboard", [.viewDashboard], none⟩,
   ⟨"Access Requests", "/access-requests", [.viewAccessRequests, .viewAllAccessRequests], some
     [⟨"My Requests", "/access-requests/mine", [.viewAccessRequests], none⟩,
      ⟨"New Request", "/access-requests/new", [.createAccessRequest], none⟩,
      ⟨"All Requests", "/access-requests/all", [.viewAllAccessRequests], none⟩,
      ⟨"Bulk Access", "/access-requests/bulk", [.submitBulkAccess, .approveBulkAccess], none⟩]⟩,
   ⟨"Approvals", "/approvals",
     [.approveAccessRequest, .rejectAccessRequest, .approveBulkAccess], none⟩,
   ⟨"Firefighter", "/firefighter",
     [.requestFirefighterAccess, .approveFirefighterAccess, .viewFirefighterLogs,
      .manageFirefighterIds], some
     [⟨"Request Emergency Access", "/firefighter/request", [.requestFirefighterAccess], none⟩,
      ⟨"Firefighter Approvals", "/firefighter/approvals", [.approveFirefighterAccess], none⟩,
      ⟨"Session Logs", "/firefighter/logs", [.viewFirefighterLogs], none⟩,
      ⟨"Firefighter IDs", "/firefighter/ids", [.manageFirefighterIds], none⟩]⟩,
   ⟨"Roles", "/roles", [.viewRoles], none⟩,
   ⟨"Risk Analysis", "/risk", [.viewRiskAnalysis], none⟩,
   ⟨"SoD Rules", "/sod-rules", [.viewSodRules], none⟩,
   ⟨"Certifications", "/certifications",
     [.viewCertifications, .manageCertifications, .completeCertification], none⟩,
   ⟨"Entitlement Intelligence", "/entitlements", [.viewEntitlementIntelligence], none⟩,
   ⟨"Security Controls", "/security-controls", [.viewSecurityControls], none⟩,
   ⟨"Compliance", "/compliance", [.viewCompliance], none⟩,
   ⟨"Contextual Risk", "/contextual-risk", [.viewContextualRisk], none⟩,
   ⟨"Policies", "/policies", [.viewPolicies], none⟩,
   ⟨"Live Sessions", "/live-sessions", [.viewLiveSessions], none⟩,
   ⟨"Reports", "/reports", [.viewReports], none⟩,
   ⟨"Audit Logs", "/audit", [.viewAuditLogs], none⟩,
   ⟨"Administration", "/admin", [], some
     [⟨"Users", "/admin/users", [.manageUsers], none⟩,
      ⟨"Workflows", "/admin/workflows", [.viewWorkflows, .manageWorkflows], none⟩,
      ⟨"Request Forms", "/admin/forms", [.manageFormConfig], none⟩,
      ⟨"System Configuration", "/admin/system", [.manageSystemConfig], none⟩]⟩,
   ⟨"Settings", "/settings", [.viewSettings], none⟩,
   ⟨"Help", "/help", [], none⟩]

end AccessPortal
