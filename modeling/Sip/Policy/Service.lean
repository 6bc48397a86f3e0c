import Sip.Audit.Service
import Sip.PyValue

/-!
# The policy service

`principal_for` merges the active role bindings of an identity into one principal;
`authorize` tests a request against a principal. Spatial restrictions are free-form
documents, so a region identifier can be any JSON value: the set of them is then
built and sorted, which fails on values that have no hash or no order.
-/

namespace Sip

set_option autoImplicit false

inductive Audience where
  | «private» | family | project | owner | «public»
  deriving DecidableEq

def roleActions : List (String × List String) := [
  ("tenant_admin", ["*"]),
  ("project_admin", ["project:*", "asset:*", "scene:*", "construction:*", "liveforever:*", "representation:*",
    "export:*", "ops:support_request", "ops:cost_read"]),
  ("restricted_export_approver", ["construction:restricted_export", "construction:read", "asset:read"]),
  ("restricted_reader", ["construction:restricted_read", "construction:read", "asset:read"]),
  ("construction_verifier", ["construction:verify", "construction:read", "asset:read"]),
  ("liveforever_reviewer", ["liveforever:review", "liveforever:read", "asset:read"]),
  ("capture_operator", ["asset:create", "capture:*", "scene:read"]),
  ("reviewer", ["asset:read", "scene:read", "scene:review", "measurement:review", "construction:read",
    "liveforever:read"]),
  ("publisher", ["representation:publish", "scene:commit", "scene:read", "asset:read"]),
  ("privacy_officer", ["consent:*", "deletion:*", "liveforever:*", "asset:read", "security:privacy_manage",
    "security:incident_manage", "security:cache_invalidate"]),
  ("security_admin", ["security:threat_manage", "security:privileged_access", "security:workload_identity",
    "security:key_manage", "security:privacy_manage", "security:audit_verify", "security:provider_governance",
    "security:cache_invalidate", "security:release_manage", "security:transport_verify",
    "security:capture_finalize", "security:immersive_safety", "security:incident_manage", "asset:read"]),
  ("key_custodian", ["security:key_manage", "asset:read"]),
  ("release_manager", ["security:release_manage", "security:audit_verify", "qa:campaign_manage",
    "qa:waiver_approve", "qa:candidate_sign", "qa:production_admit", "qa:read", "asset:read"]),
  ("qa_operator", ["qa:evidence_record", "qa:read", "asset:read"]),
  ("qa_reviewer", ["qa:evidence_record", "qa:read", "security:audit_verify", "asset:read"]),
  ("ops_admin", ["ops:observe", "ops:slo_manage", "ops:cost_manage", "ops:quota_manage", "ops:incident_manage",
    "ops:support_request", "deployment:read", "asset:read"]),
  ("deployment_admin", ["deployment:profile_manage", "deployment:project_assign", "deployment:residency_manage",
    "deployment:transfer_manage", "deployment:edge_manage", "deployment:update_manage", "deployment:migrate",
    "deployment:autoscale_manage", "deployment:aws_manage", "deployment:admit", "deployment:drift_check",
    "deployment:read", "asset:read"]),
  ("recovery_admin", ["recovery:objective_manage", "recovery:backup_manage", "recovery:restore",
    "recovery:key_recover", "recovery:game_day", "recovery:production_admit", "retention:manage", "deletion:plan",
    "deletion:approve", "deletion:execute", "tenant:offboard", "migration:exercise", "asset:read", "export:read"]),
  ("recovery_operator", ["recovery:backup_manage", "recovery:restore", "recovery:game_day", "retention:manage",
    "deletion:plan", "asset:read", "export:read"]),
  ("deletion_approver", ["deletion:approve", "asset:read"]),
  ("deletion_executor", ["deletion:execute", "asset:read"]),
  ("residency_officer", ["deployment:residency_manage", "deployment:transfer_manage", "deployment:admit",
    "deployment:read", "asset:read"]),
  ("edge_operator", ["deployment:edge_manage", "deployment:update_manage", "deployment:read", "asset:read"]),
  ("budget_approver", ["ops:budget_override", "ops:cost_read", "asset:read"]),
  ("support_approver", ["ops:support_approve", "ops:support_read", "asset:read"]),
  ("support_engineer", ["ops:support_access", "ops:support_read", "ops:observe", "asset:read"]),
  ("specialized_support", ["ops:support_access", "ops:support_read", "ops:observe", "construction:restricted_read",
    "liveforever:read", "asset:read"]),
  ("viewer", ["asset:read", "scene:read", "construction:read", "liveforever:read", "ops:cost_read"]),
  ("service_worker", ["operation:lease", "operation:checkpoint", "operation:complete", "asset:read",
    "asset:create"])]

/-- Approvals that a namespace wildcard does not reach. -/
def exactGrantActions : List String := [
  "construction:restricted_export", "construction:restricted_read", "construction:verify", "liveforever:review",
  "security:threat_manage", "security:privileged_access", "security:workload_identity", "security:key_manage",
  "security:privacy_manage", "security:audit_verify", "security:provider_governance", "security:cache_invalidate",
  "security:release_manage", "security:transport_verify", "security:capture_finalize", "security:immersive_safety",
  "security:incident_manage", "qa:campaign_manage", "qa:evidence_record", "qa:waiver_approve", "qa:candidate_sign",
  "qa:production_admit", "ops:slo_manage", "ops:cost_manage", "ops:quota_manage", "ops:budget_override",
  "ops:support_approve", "ops:support_access", "ops:incident_manage", "deployment:profile_manage",
  "deployment:project_assign", "deployment:residency_manage", "deployment:transfer_manage",
  "deployment:edge_manage", "deployment:update_manage", "deployment:migrate", "deployment:autoscale_manage",
  "deployment:aws_manage", "deployment:admit", "deployment:drift_check", "recovery:objective_manage",
  "recovery:backup_manage", "recovery:restore", "recovery:key_recover", "recovery:game_day",
  "recovery:production_admit", "retention:manage", "deletion:plan", "deletion:approve", "deletion:execute",
  "tenant:offboard", "migration:exercise"]

structure IdentityRow where
  identityId : String
  tenantId : String
  displayName : String
  identityType : String := "user"
  disabled : Bool := false

structure RoleBindingRow where
  bindingId : String
  tenantId : String
  projectId : Option String
  identityId : String
  role : String
  purposesJson : List String
  spatialRestrictionsJson : List Dict
  expiresAt : Option Nat

structure SignedPrincipal where
  subjectId : String
  tenantId : String
  projectIds : List String := []
  roles : List String := []
  purposes : List String := []
  audience : Audience := .private
  attributes : Dict := []

structure PolicyDecision where
  allowed : Bool
  reasonCode : String
  obligations : List String
  evaluatedPolicyVersion : String := "sip-policy-1.1.0"

structure AccessRequest where
  action : String
  tenantId : String
  projectId : Option String
  purpose : Option String := none
  classification : String := "internal"
  requiredAudience : Option Audience := none
  spatialRegionId : Option String := none
  auditDenial : Bool := true

section Regions

/-- `sorted({..})` of region identifiers: texts among themselves and numbers among themselves have an
order, lists and objects have no hash. -/
def sortedRegions (values : List Json) : Except Raised (List Json) :=
  if values.all fun value => value.text?.isSome then .ok (sortedSet (fun value => value.text?.getD "") values)
  else if values.all fun value => value.rat?.isSome then .ok (sortedSet (fun value => value.rat?.getD 0) values)
  else if values.all Json.hashable then .error (.typeError "'<' not supported between instances")
  else .error (.typeError "unhashable type")

/-- `restriction.get("effect") == "allow" and restriction.get("region_id")`. -/
def allowedRegion? (restriction : Dict) : Option Json :=
  if (restriction.get "effect").isText "allow" && (restriction.get "region_id").truthy then
    some (restriction.get "region_id")
  else none

end Regions

structure PolicyStore where
  identities : Table IdentityRow (fun row => row.identityId)
  projects : Table ProjectRow (fun row => row.projectId)
  roleBindings : Table RoleBindingRow (fun row => row.bindingId)
  audit : AuditLog

namespace PolicyService

def roleAllows (role action : String) : Bool :=
  let grants := (roleActions.lookup role).getD []
  if "*" ∈ grants ∨ action ∈ grants then true
  else if action ∈ exactGrantActions then false
  else String.ofList (action.toList.takeWhile (· ≠ ':')) ++ ":*" ∈ grants

/-- Classifications that only privileged roles reach. -/
def sensitive : List String := ["critical_infrastructure", "biometric", "minor"]

def sensitiveRoles : List String := ["tenant_admin", "project_admin", "privacy_officer", "reviewer"]

/-- The first of the chained tests that refuses the request. -/
def scopeDenial (principal : SignedPrincipal) (req : AccessRequest) : Option String :=
  let tenantAdmin := "tenant_admin" ∈ principal.roles
  if principal.tenantId ≠ req.tenantId then some "TENANT_MISMATCH"
  else if (given req.projectId).any (· ∉ principal.projectIds) ∧ ¬ tenantAdmin then some "PROJECT_SCOPE_DENIED"
  else if ¬ principal.roles.any (roleAllows · req.action) then some "ACTION_DENIED"
  else if (given req.purpose).any (· ∉ principal.purposes) ∧ ¬ tenantAdmin then some "PURPOSE_DENIED"
  else if req.requiredAudience.any (fun required => principal.audience ∉ [required, .private]) ∧ ¬ tenantAdmin then
    some "AUDIENCE_DENIED"
  else none

/-- A later test overrides the reason of an earlier one. -/
def sensitiveDenial (principal : SignedPrincipal) (req : AccessRequest) : Option String :=
  if req.classification ∈ sensitive ∧ ¬ principal.roles.any (· ∈ sensitiveRoles) then
    some "SENSITIVE_CLASSIFICATION_DENIED"
  else none

def regionDenial (principal : SignedPrincipal) (req : AccessRequest) : Except Raised (Option String) :=
  match given req.spatialRegionId with
  | none => .ok none
  | some region => do
    let allowedRegions ← Json.asSet ((principal.attributes.get? "spatial_region_ids").getD (.arr []))
    if !allowedRegions.isEmpty && !allowedRegions.any (Json.isText region) then
      return some "SPATIAL_REGION_DENIED"
    return none

def denial (principal : SignedPrincipal) (req : AccessRequest) : Except Raised (Option String) := do
  let region ← regionDenial principal req
  return region <|> sensitiveDenial principal req <|> scopeDenial principal req

/-- The audit event of a refusal. -/
def denialEvent (principal : SignedPrincipal) (req : AccessRequest) (reason : String) : AuditRequest where
  tenantId := req.tenantId
  projectId := req.projectId
  actorId := principal.subjectId
  action := "authorize:" ++ req.action
  resourceType := "policy_decision"
  resourceId := (given req.projectId).getD req.tenantId
  outcome := "denied"
  details := some [("reason", .str reason), ("purpose", .ofOption req.purpose),
    ("classification", .str req.classification), ("spatial_region_id", .ofOption req.spatialRegionId)]

/-- `if not allowed and audit_denial: self.audit.append(..)`. -/
def recordDenial (svc : AuditService) (log : AuditLog) (now : Nat) (auditId : String)
    (principal : SignedPrincipal) (req : AccessRequest) (reason : String) : Except Raised AuditLog :=
  if req.auditDenial then svc.append log now auditId (denialEvent principal req reason) else .ok log

def authorize (svc : AuditService) (log : AuditLog) (now : Nat) (auditId : String)
    (principal : SignedPrincipal) (req : AccessRequest) : Except Raised (PolicyDecision × AuditLog) := do
  let reason? ← denial principal req
  let obligations := if req.classification ∈ sensitive then
    ["no_external_provider", "watermark_sensitive", "audit_every_read"] else []
  match reason? with
  | none => return ({ allowed := true, reasonCode := "ALLOW", obligations }, log)
  | some reason =>
    let log' ← recordDenial svc log now auditId principal req reason
    return ({ allowed := false, reasonCode := reason, obligations }, log')

def bindRole (db : PolicyStore) (row : RoleBindingRow) : Except Raised PolicyStore := do
  raiseIf (roleActions.lookup row.role = none) (validationError "ROLE_UNKNOWN" "role is not defined")
  let identity ← orRaise (db.identities.get? row.identityId) (notFoundError "identity" row.identityId)
  raiseIf (identity.tenantId ≠ row.tenantId) (notFoundError "identity" row.identityId)
  match given row.projectId with
  | none => pure ()
  | some projectId => do
    let project ← orRaise (db.projects.get? projectId) (notFoundError "project" projectId)
    raiseIf (project.tenantId ≠ row.tenantId) (notFoundError "project" projectId)
  let roleBindings ← orRaise (db.roleBindings.insert? row) (.integrityError "role_bindings.binding_id")
  return { db with roleBindings }

/-- The bindings of an identity that apply in a project and have not expired. -/
def activeBindings (db : PolicyStore) (now : Nat) (tenantId identityId : String) (projectId : Option String) :
    List RoleBindingRow :=
  let rows := db.roleBindings.rows.filter fun row =>
    row.tenantId = tenantId ∧ row.identityId = identityId ∧ (row.projectId = projectId ∨ row.projectId = none)
  rows.filter fun row => row.expiresAt.all (now < ·)

def regionsOf (active : List RoleBindingRow) : List Json :=
  active.flatMap fun row => row.spatialRestrictionsJson.filterMap allowedRegion?

def principalFor (db : PolicyStore) (now : Nat) (tenantId identityId : String) (projectId : Option String)
    (audience : Audience) : Except Raised SignedPrincipal := do
  let identity ← orRaise (db.identities.get? identityId) (notFoundError "identity" identityId)
  raiseIf (identity.tenantId ≠ tenantId ∨ identity.disabled = true) (notFoundError "identity" identityId)
  let active := activeBindings db now tenantId identityId projectId
  let regions ← sortedRegions (regionsOf active)
  return {
    subjectId := identityId, tenantId,
    projectIds := (given projectId).toList,
    roles := sortedSet id (active.map RoleBindingRow.role),
    purposes := sortedSet id (active.flatMap RoleBindingRow.purposesJson),
    audience,
    attributes := [("spatial_region_ids", .arr regions)] }

end PolicyService

end Sip
