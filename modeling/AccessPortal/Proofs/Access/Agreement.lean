import AccessPortal.Proofs.Navigation.Levels
import AccessPortal.Proofs.Navigation.Narrowed
import AccessPortal.Session.State

/-!
# Who may do what

The same question can be asked of a role, of the id of a role, of two ids and of a session, and a
role or a permission arrives as a value, as an id or in JSON. All answers rest on the list of
permissions that a role has (`mem_permissionsOf_id`), and an id stands for the one entry of a
catalog whose name it is, in snake case (`Role.ofId?_eq_some_iff`, `Permission.ofId?_eq_some_iff`).
What is outside of the catalogs and who is not signed in gets no for an answer (`answers_agree`).
-/

namespace AccessPortal

/-! ## Names and ids -/

/-- A name of words that are written together, each with a capital: the words in lower case, with
underscores between them. -/
def Text.snakeCase (name : String) : String :=
  String.ofList <|
    match name.toList with
    | [] => []
    | first :: rest =>
      first.toLower :: rest.flatMap fun c => if c.isUpper then ['_', c.toLower] else [c.toLower]

def Permission.catalogName : Permission → String
  | .viewDashboard => "ViewDashboard"
  | .viewAccessRequests => "ViewAccessRequests"
  | .viewAllAccessRequests => "ViewAllAccessRequests"
  | .createAccessRequest => "CreateAccessRequest"
  | .cancelAccessRequest => "CancelAccessRequest"
  | .approveAccessRequest => "ApproveAccessRequest"
  | .rejectAccessRequest => "RejectAccessRequest"
  | .viewRiskAnalysis => "ViewRiskAnalysis"
  | .runRiskAnalysis => "RunRiskAnalysis"
  | .manageMitigations => "ManageMitigations"
  | .viewRoles => "ViewRoles"
  | .createRole => "CreateRole"
  | .editRole => "EditRole"
  | .deleteRole => "DeleteRole"
  | .viewCertifications => "ViewCertifications"
  | .manageCertifications => "ManageCertifications"
  | .completeCertification => "CompleteCertification"
  | .requestFirefighterAccess => "RequestFirefighterAccess"
  | .approveFirefighterAccess => "ApproveFirefighterAccess"
  | .viewFirefighterLogs => "ViewFirefighterLogs"
  | .manageFirefighterIds => "ManageFirefighterIds"
  | .viewReports => "ViewReports"
  | .exportReports => "ExportReports"
  | .viewAuditLogs => "ViewAuditLogs"
  | .exportAuditLogs => "ExportAuditLogs"
  | .viewSettings => "ViewSettings"
  | .manageUsers => "ManageUsers"
  | .manageFormConfig => "ManageFormConfig"
  | .manageSystemConfig => "ManageSystemConfig"
  | .viewWorkflows => "ViewWorkflows"
  | .manageWorkflows => "ManageWorkflows"
  | .submitBulkAccess => "SubmitBulkAccess"
  | .approveBulkAccess => "ApproveBulkAccess"
  | .viewSodRules => "ViewSodRules"
  | .manageSodRules => "ManageSodRules"
  | .viewEntitlementIntelligence => "ViewEntitlementIntelligence"
  | .manageEntitlementIntelligence => "ManageEntitlementIntelligence"
  | .viewCompliance => "ViewCompliance"
  | .manageComplianceFrameworks => "ManageComplianceFrameworks"
  | .viewSecurityControls => "ViewSecurityControls"
  | .evaluateSecurityControls => "EvaluateSecurityControls"
  | .viewContextualRisk => "ViewContextualRisk"
  | .manageContextualRisk => "ManageContextualRisk"
  | .viewPolicies => "ViewPolicies"
  | .createPolicy => "CreatePolicy"
  | .editPolicy => "EditPolicy"
  | .deletePolicy => "DeletePolicy"
  | .deployPolicy => "DeployPolicy"
  | .viewLiveSessions => "ViewLiveSessions"
  | .terminateLiveSession => "TerminateLiveSession"

theorem Permission.id_eq_snakeCase (permission : Permission) :
    permission.id = Text.snakeCase permission.catalogName := by
  cases permission <;> rfl

theorem Role.id_eq_snakeCase (role : Role) : role.id = Text.snakeCase role.diagnosticName := by
  cases role <;> rfl

/-- An id is that of the entry that is found by it. -/
theorem find?_id_eq_some_iff {α : Type} {id : α → String} {all : List α}
    (found : ∀ a, all.find? (id · == id a) = some a) {text : String} {a : α} :
    all.find? (id · == text) = some a ↔ text = id a := by
  constructor
  · intro there
    have same := List.find?_some there
    exact (beq_iff_eq.mp same).symm
  · rintro rfl
    exact found a

theorem Permission.ofId?_eq_some_iff {id : String} {permission : Permission} :
    ofId? id = some permission ↔ id = permission.id :=
  find?_id_eq_some_iff ofId?_id

theorem Role.ofId?_eq_some_iff {id : String} {role : Role} :
    ofId? id = some role ↔ id = role.id :=
  find?_id_eq_some_iff ofId?_id

theorem Role.ofId?_eq_none_iff {id : String} : ofId? id = none ↔ ∀ role : Role, id ≠ role.id := by
  rw [Option.eq_none_iff_forall_ne_some]
  exact forall_congr' fun role => not_congr ofId?_eq_some_iff

/-! ## The permissions of a role -/

theorem Role.hasPermission_iff {role : Role} {permission : Permission} :
    role.hasPermission permission = true ↔ permission ∈ role.permissions :=
  List.contains_iff_mem

theorem PermissionArea.mem_all (area : PermissionArea) : area ∈ all := by
  cases area <;> decide

/-- No role lists a permission twice. -/
theorem Role.nodup_permissions (role : Role) : role.permissions.Nodup := by
  cases role <;> decide

namespace Access

theorem permissionsOf_id (role : Role) : permissionsOf role.id = role.permissionSet := by
  rw [permissionsOf, Role.ofId?_id]
  rfl

/-- The set of an id is the list of the role. -/
theorem mem_permissionsOf_id {role : Role} {permission : Permission} :
    permission ∈ permissionsOf role.id ↔ permission ∈ role.permissions := by
  rw [permissionsOf_id, Role.permissionSet, List.mem_filter, Role.hasPermission_iff]
  exact and_iff_right permission.mem_all

theorem nodup_permissionsOf_id (role : Role) : (permissionsOf role.id).Nodup := by
  have catalog : Permission.all.Nodup := by decide
  rw [permissionsOf_id]
  exact catalog.filter _

theorem permissionsOf_of_unknown {id : String} (unknown : Role.ofId? id = none) :
    permissionsOf id = [] := by
  rw [permissionsOf, unknown]
  rfl

theorem hasPermission_iff {id : String} {permission : Permission} :
    hasPermission id permission = true ↔ permission ∈ permissionsOf id := by
  cases found : Role.ofId? id with
  | none => simp [hasPermission, permissionsOf, found]
  | some role =>
      obtain rfl := Role.ofId?_eq_some_iff.mp found
      rw [mem_permissionsOf_id, ← Role.hasPermission_iff, hasPermission, found]
      rfl

theorem hasPermissionId_iff {role permission : String} :
    hasPermissionId role permission = true ↔
      ∃ known named, role = Role.id known ∧ permission = Permission.id named ∧
        named ∈ permissionsOf role := by
  rw [hasPermissionId, Option.any_eq_true]
  constructor
  · rintro ⟨named, found, held⟩
    cases known : Role.ofId? role with
    | none => simp [hasPermission, known] at held
    | some known' =>
        exact ⟨known', named, Role.ofId?_eq_some_iff.mp known,
          Permission.ofId?_eq_some_iff.mp found, hasPermission_iff.mp held⟩
  · rintro ⟨-, named, -, found, held⟩
    exact ⟨named, Permission.ofId?_eq_some_iff.mpr found, hasPermission_iff.mpr held⟩

/-! ## Split by area -/

/-- A part is what the role holds in its area, and there is one for each area with anything held. -/
theorem mem_permissionsByArea {role : Role} {part : PermissionArea × List Permission} :
    part ∈ permissionsByArea role ↔
      part.2 ≠ [] ∧ part.2 = role.permissions.filter (·.area == part.1) := by
  obtain ⟨area, held⟩ := part
  rw [permissionsByArea, List.mem_filterMap]
  constructor
  · rintro ⟨area', -, made⟩
    split at made
    · cases made
    · rename_i nonempty
      cases made
      exact ⟨nonempty, rfl⟩
  · rintro ⟨nonempty, same⟩
    refine ⟨area, area.mem_all, ?_⟩
    rw [← show held = _ from same]
    cases held with
    | nil => exact absurd rfl nonempty
    | cons first rest => rfl

theorem area_of_mem {role : Role} {part : PermissionArea × List Permission}
    (mem : part ∈ permissionsByArea role) {permission : Permission} (held : permission ∈ part.2) :
    permission.area = part.1 := by
  rw [(mem_permissionsByArea.mp mem).2] at held
  exact beq_iff_eq.mp (List.mem_filter.mp held).2

/-- The areas of the parts are in the order of the catalog, and no area has two parts. -/
theorem areas_sublist (role : Role) :
    ((permissionsByArea role).map (·.1)).Sublist PermissionArea.all := by
  unfold permissionsByArea
  generalize PermissionArea.all = areas
  induction areas with
  | nil => exact List.Sublist.slnil
  | cons area areas ih =>
      rw [List.filterMap_cons]
      split
      · exact ih.cons area
      · rename_i part made
        split at made
        · cases made
        · cases made
          exact ih.cons_cons area

theorem nodup_areas (role : Role) : ((permissionsByArea role).map (·.1)).Nodup := by
  have catalog : PermissionArea.all.Nodup := by decide
  exact catalog.sublist (areas_sublist role)

theorem mem_flatMap_permissionsByArea {role : Role} {permission : Permission} :
    permission ∈ (permissionsByArea role).flatMap (·.2) ↔ permission ∈ role.permissions := by
  rw [List.mem_flatMap]
  constructor
  · rintro ⟨part, mem, held⟩
    rw [(mem_permissionsByArea.mp mem).2] at held
    exact (List.mem_filter.mp held).1
  · intro held
    have inPart : permission ∈ role.permissions.filter (·.area == permission.area) :=
      List.mem_filter.mpr ⟨held, beq_self_eq_true _⟩
    refine ⟨(permission.area, _), mem_permissionsByArea.mpr ⟨?_, rfl⟩, inPart⟩
    exact List.ne_nil_of_mem inPart

/-- Parts of different areas have nothing in common. -/
theorem nodup_flatMap_permissionsByArea (role : Role) :
    ((permissionsByArea role).flatMap (·.2)).Nodup := by
  rw [List.nodup_flatMap]
  constructor
  · intro part mem
    rw [(mem_permissionsByArea.mp mem).2]
    exact role.nodup_permissions.filter _
  · have differ : (permissionsByArea role).Pairwise (fun part other => part.1 ≠ other.1) :=
      List.pairwise_map.mp (nodup_areas role)
    refine differ.imp_of_mem fun mem mem' differ permission held held' => differ ?_
    exact (area_of_mem mem held).symm.trans (area_of_mem mem' held')

theorem permissionsByArea_perm (role : Role) :
    ((permissionsByArea role).flatMap (·.2)).Perm (permissionsOf role.id) := by
  rw [List.perm_ext_iff_of_nodup (nodup_flatMap_permissionsByArea role)
    (nodup_permissionsOf_id role)]
  intro permission
  rw [mem_flatMap_permissionsByArea, mem_permissionsOf_id]

end Access

/-! ## Sessions -/

namespace Session

variable {session : Session} {user : User}

theorem currentRole_of_signedIn (signedIn : session.currentUser = some user) :
    session.currentRole = some user.role := by
  rw [currentRole, signedIn]
  rfl

theorem currentRole_of_signedOut (signedOut : session.currentUser = none) :
    session.currentRole = none := by
  rw [currentRole, signedOut]
  rfl

theorem checkPermission_iff (signedIn : session.currentUser = some user)
    {permission : Permission} :
    session.checkPermission permission = true ↔
      permission ∈ Access.permissionsOf user.role.id := by
  rw [checkPermission, currentRole_of_signedIn signedIn, Access.mem_permissionsOf_id]
  exact Role.hasPermission_iff

theorem checkAny_iff (signedIn : session.currentUser = some user) {asked : List Permission} :
    session.checkAny asked = true ↔
      ∃ permission ∈ asked, permission ∈ Access.permissionsOf user.role.id := by
  simp only [checkAny, currentRole_of_signedIn signedIn, Option.any_some, Role.hasAny,
    List.any_eq_true, Role.hasPermission_iff, Access.mem_permissionsOf_id]

theorem checkAll_iff (signedIn : session.currentUser = some user) {asked : List Permission} :
    session.checkAll asked = true ↔ asked ⊆ Access.permissionsOf user.role.id := by
  simp only [checkAll, currentRole_of_signedIn signedIn, Option.any_some, Role.hasAll,
    List.all_eq_true, Role.hasPermission_iff, List.subset_def, Access.mem_permissionsOf_id]

end Session

namespace Access

/--
Two ids are granted just what the set of the first holds of the permission with the second, and an
id that is not of a role has nothing in its set. A string in JSON is a role or a permission if it is
the name of one in snake case, and then it is the one that is found by it as an id. A session
answers out of the set of the role that is signed in, and refuses everything when nobody is. Split
by area, the set of a role is all there, each permission once and in its own area.
-/
theorem answers_agree (role permission : String) (asked : List Permission) (session : Session) :
    (hasPermissionId role permission = true ↔
      ∃ known named, role = Role.id known ∧ permission = Permission.id named ∧
        named ∈ permissionsOf role) ∧
    (∀ known named, named ∈ permissionsOf (Role.id known) ↔ named ∈ known.permissions) ∧
    ((∀ known, role ≠ Role.id known) → permissionsOf role = []) ∧
    (∀ text word, Json.read text = some (.string word) →
      (Json.read text).bind Role.ofJson? = Role.ofId? word ∧
      (Json.read text).bind Permission.ofJson? = Permission.ofId? word ∧
      (∀ known, Role.ofId? word = some known ↔ word = Text.snakeCase known.diagnosticName) ∧
      ∀ named, Permission.ofId? word = some named ↔
        word = Text.snakeCase named.catalogName) ∧
    (∀ user, session.currentUser = some user →
      (session.checkAny asked = true ↔
        ∃ named ∈ asked, named ∈ permissionsOf user.role.id) ∧
      (session.checkAll asked = true ↔ asked ⊆ permissionsOf user.role.id) ∧
      ∀ named, session.checkPermission named = true ↔ named ∈ permissionsOf user.role.id) ∧
    (session.currentUser = none →
      session.checkAny asked = false ∧ session.checkAll asked = false ∧
      (∀ named, session.checkPermission named = false) ∧
      ∀ tree, session.visibleNavigation tree = []) ∧
    ∀ known,
      ((permissionsByArea known).flatMap (·.2)).Perm (permissionsOf known.id) ∧
      (permissionsOf known.id).Nodup ∧
      ((permissionsByArea known).map (·.1)).Nodup ∧
      ∀ part ∈ permissionsByArea known, part.2 ≠ [] ∧ ∀ named ∈ part.2, named.area = part.1 := by
  refine ⟨hasPermissionId_iff, fun _ _ => mem_permissionsOf_id, fun unknown => ?_,
    fun text word read => ?_, fun user signedIn => ?_, fun signedOut => ?_, fun known => ?_⟩
  · exact permissionsOf_of_unknown (Role.ofId?_eq_none_iff.mpr unknown)
  · rw [read]
    refine ⟨rfl, rfl, fun known => ?_, fun named => ?_⟩
    · rw [Role.ofId?_eq_some_iff, known.id_eq_snakeCase]
    · rw [Permission.ofId?_eq_some_iff, named.id_eq_snakeCase]
  · exact ⟨Session.checkAny_iff signedIn, Session.checkAll_iff signedIn,
      fun _ => Session.checkPermission_iff signedIn⟩
  · have noRole := Session.currentRole_of_signedOut signedOut
    unfold Session.checkAny Session.checkAll Session.checkPermission Session.visibleNavigation
    rw [noRole]
    exact ⟨rfl, rfl, fun _ => rfl, fun _ => rfl⟩
  · exact ⟨permissionsByArea_perm known, nodup_permissionsOf_id known, nodup_areas known,
      fun part mem => ⟨(mem_permissionsByArea.mp mem).1, fun _ held => area_of_mem mem held⟩⟩

/--
An auditor who may see the logs and not delete roles, with both permissions of the area of the logs
in one part and no part for the settings, an id of no role, and nobody signed in.
-/
theorem answers_agree_auditor :
    let user : User :=
      { id := "7", name := "Ann", email := "ann@corp.example", department := "", role := .auditor }
    let session : Session := { state := .authenticated user, accessToken := some "t" }
    let asked : List Permission := [.deleteRole, .viewAuditLogs]
    let text := "\"audit\\u006fr\""
    hasPermissionId "auditor" "view_audit_logs" = true ∧
      (∀ known, "superuser" ≠ Role.id known) ∧ permissionsOf "superuser" = [] ∧
      Json.read text = some (.string "auditor") ∧
      (Json.read text).bind Role.ofJson? = some .auditor ∧
      session.currentUser = some user ∧
      session.checkAny asked = true ∧ session.checkAll asked = false ∧
      ({} : Session).currentUser = none ∧ ({} : Session).checkAll [] = false ∧
      (.audit, [.viewAuditLogs, .exportAuditLogs]) ∈ permissionsByArea .auditor ∧
      (∀ part ∈ permissionsByArea .auditor, part.1 ≠ .settings) ∧
      (permissionsByArea .auditor).length = 13 ∧
      ((permissionsByArea .auditor).flatMap (·.2)).Perm (permissionsOf "auditor") := by
  intro user session asked text
  have unknown : ∀ known, "superuser" ≠ Role.id known := by
    intro known
    cases known <;> decide
  have read : Json.read "\"audit\\u006fr\"" = some (.string "auditor") := by rfl
  have signedIn : session.currentUser = some user := rfl
  have signedOut : ({} : Session).currentUser = none := rfl
  have seesLogs : Permission.viewAuditLogs ∈ permissionsOf "auditor" := by decide
  have deletesNone : Permission.deleteRole ∉ permissionsOf "auditor" := by decide
  obtain ⟨granted, -, -, decoded, answers, -, byArea⟩ :=
    answers_agree "auditor" "view_audit_logs" asked session
  obtain ⟨-, -, empty, -, -, refuses, -⟩ := answers_agree "superuser" "" [] {}
  obtain ⟨any, all, -⟩ := answers user signedIn
  obtain ⟨asRole, -, named, -⟩ := decoded text "auditor" read
  refine ⟨granted.mpr ⟨.auditor, .viewAuditLogs, rfl, rfl, seesLogs⟩, unknown, empty unknown, read,
    asRole.trans ((named .auditor).mpr (by decide)), signedIn, ?_, ?_, signedOut,
    (refuses signedOut).2.1, by decide, by decide, by decide, (byArea .auditor).1⟩
  · exact any.mpr ⟨.viewAuditLogs, by decide, seesLogs⟩
  · exact Bool.eq_false_iff.mpr fun granted => deletesNone (all.mp granted List.mem_cons_self)

end Access
end AccessPortal
