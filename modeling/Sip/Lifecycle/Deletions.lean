import Sip.Foundation.CivilTime
import Sip.Lifecycle.Holds
import Sip.Spatial.Merge

/-!
# Deletion of assets

A deletion is planned, requested against a rehearsed backup, approved by somebody else
and executed. The plan collects what depends on the asset from every mapped table, its
holds and its retention rule, and the request keeps the digest of that snapshot. The
execution plans again and goes on only if the digest is the same.
-/

namespace Sip

set_option autoImplicit false

/-- The columns of a retention rule that a deletion reads. -/
structure RetentionRule where
  retentionRuleId : String
  tenantId : String
  projectId : Option String
  retentionClass : String
  minimumDays : Nat
  backupExpiryDays : Nat
  active : Bool := true
  version : Int

structure BackupRunRow where
  backupId : String
  state : String
  restoreRehearsedAt : Option Nat

inductive DeletionState where
  | awaitingApproval | approved | executed
  deriving DecidableEq

structure DeletionRequestRow where
  deletionId : String
  tenantId : String
  projectId : String
  resourceType : String
  resourceId : String
  dryRunReport : Dict
  backupReference : String
  state : DeletionState
  requestedBy : String
  approvedBy : Option String := none
  executedAt : Option Nat := none

structure DeletionEvidenceRow where
  evidenceId : String
  deletionId : String
  tenantId : String
  projectId : String
  resourceType : String
  resourceId : String
  action : String
  affectedReferences : List Dict
  keyIds : List String
  residualLocations : List Dict
  backupExpiryDeadline : Nat
  evidenceHash : String

/-- A mapped table, each row as the values of its columns. -/
structure MappedTable where
  name : String
  columns : List String
  primaryKey : List String
  rows : List Dict

structure DeletionDb extends HoldDb where
  rules : List RetentionRule
  backups : Table BackupRunRow (fun row => row.backupId)
  deletions : Table DeletionRequestRow (fun row => row.deletionId)
  deletionEvidence : Table DeletionEvidenceRow (fun row => row.evidenceId)
  tables : List MappedTable

structure Dependency where
  table : String
  recordId : String
  disposition : String
  status : Option Json := none

def Dependency.toDict (d : Dependency) : Dict :=
  [("table", .str d.table), ("record_id", .str d.recordId), ("disposition", .str d.disposition)] ++
    d.status.toList.map fun status => ("status", status)

structure DeletionSnapshot where
  assetId : String
  sha256 : String
  dependencies : List Dependency
  otherActiveReferences : Nat
  legalHolds : List LegalHoldRow
  rule : Option RetentionRule
  retentionClass : String
  ageDays : Nat
  minimumRetentionMet : Bool
  blockers : List String

def holdSummary (row : LegalHoldRow) : Json := .obj [
  ("hold_id", .str row.holdId), ("resource_type", .str row.resourceType), ("resource_id", .str row.resourceId),
  ("authority_reference", .str row.authorityReference)]

namespace DeletionSnapshot
variable (s : DeletionSnapshot)

def toDict : Dict := [
  ("asset_id", .str s.assetId),
  ("sha256", .str s.sha256),
  ("dependencies", .arr (s.dependencies.map fun d => .obj d.toDict)),
  ("other_active_references", .int s.otherActiveReferences),
  ("legal_holds", .arr (s.legalHolds.map holdSummary)),
  ("retention_rule_id", (s.rule.map fun rule => Json.str rule.retentionRuleId).getD .null),
  ("retention_rule_version", (s.rule.map fun rule => Json.int rule.version).getD .null),
  ("retention_class", .str s.retentionClass),
  ("age_days", .int s.ageDays),
  ("minimum_retention_met", .bool s.minimumRetentionMet),
  ("blockers", .arr (s.blockers.map .str))]

def hash : String := canonicalSha256 (.obj s.toDict)

def eligible : Bool := s.blockers = []

def requiredControls : List String := [
  "dry_run", "verified_backup_reference", "independent_approval", "unchanged_dependency_snapshot",
  "audit_and_erasure_evidence", "index_cache_export_dependency_review"]

/-- What `plan_asset_deletion` returns. -/
def report : Dict :=
  ("schema_version", .str "1.0.0") :: s.toDict ++ [
    ("dependency_snapshot_hash", .str s.hash),
    ("eligible", .bool s.eligible),
    ("physical_object_will_be_removed", .bool (s.otherActiveReferences = 0)),
    ("required_controls", .arr (requiredControls.map .str))]

end DeletionSnapshot

namespace LifecycleService

section Planning
variable (py : PyText)

mutual
/-- `_contains_reference`; the keys of a dictionary are not looked at. -/
def containsReference (target : String) : Json → Bool
  | .obj fields => containsReferenceFields target fields
  | .arr items => containsReferenceItems target items
  | .str s => s = target
  | v => py.str v = target
def containsReferenceItems (target : String) : List Json → Bool
  | [] => false
  | v :: vs => containsReference target v || containsReferenceItems target vs
def containsReferenceFields (target : String) : Dict → Bool
  | [] => false
  | (_, v) :: fs => containsReference target v || containsReferenceFields target fs
end

def excludedTables : List String := [
  "assets", "asset_refs", "audit_events", "deletion_requests", "deletion_evidence", "backup_runs", "legal_holds",
  "retention_rules", "key_rotations", "usage_ledger", "quota_policies"]

/-- `_dependency_disposition`. -/
def dependencyDisposition (tableName : String) : String :=
  if tableName ∈ ["representations", "representation_bindings", "scene_commits"] then "withdraw_or_supersede_derivative"
  else if tableName ∈ ["search_documents"] then "purge_index"
  else if tableName ∈ ["notifications"] then "redact_notification_payload"
  else if tableName ∈ ["construction_records", "memory_records", "collaboration_comments", "collaboration_tasks"] then
    "review_shared_rights_and_redact_or_tombstone"
  else "review_dependency"

/-- The rows of a table in the scope of a project; a table without the column is not narrowed to the project. -/
def scopedRows (table : MappedTable) (tenantId projectId : String) : List Dict :=
  table.rows.filter fun row => (Dict.get row "tenant_id").isText tenantId ∧
    ("project_id" ∈ table.columns → (Dict.get row "project_id").isText projectId)

/-- The first column of the primary key that has a value. -/
def recordId (table : MappedTable) (row : Dict) : String :=
  match table.primaryKey.find? fun column => !((Dict.get row column) matches .null) with
  | some column => py.str (Dict.get row column)
  | none => "unknown"

def scanTable (tenantId projectId assetId digest : String) (table : MappedTable) : List Dependency :=
  if table.name ∈ excludedTables ∨ "tenant_id" ∉ table.columns then []
  else
    let referring := (scopedRows table tenantId projectId).filter fun row =>
      containsReferenceFields py assetId row || containsReferenceFields py digest row
    referring.map fun row => ⟨table.name, recordId py table row, dependencyDisposition table.name, none⟩

/-- Every export of the project counts as a dependency. -/
def exportDependencies (db : DeletionDb) (tenantId projectId : String) : List Dependency :=
  (db.tables.filter fun table => table.name = "exports").flatMap fun table =>
    (scopedRows table tenantId projectId).map fun row =>
      ⟨"exports", py.str (Dict.get row "export_id"), "must_be_invalidated_or_reissued", some (Dict.get row "status")⟩

/-- `_dependencies`. -/
def dependencies (db : DeletionDb) (tenantId projectId assetId digest : String) : List Dependency :=
  sortBy (fun d => toLex (d.table, d.recordId))
    (db.tables.flatMap (scanTable py tenantId projectId assetId digest) ++ exportDependencies py db tenantId projectId)

def latestRule (rules : List RetentionRule) : Option RetentionRule := (sortBy (fun rule => -rule.version) rules).head?

/-- `_retention_rule`: the latest rule of the project, or else of the tenant. -/
def retentionRule (db : DeletionDb) (tenantId projectId retentionClass : String) : Option RetentionRule :=
  latestRule (db.rules.filter fun rule => rule.tenantId = tenantId ∧ rule.projectId = some projectId ∧
    rule.retentionClass = retentionClass ∧ rule.active = true) <|>
  latestRule (db.rules.filter fun rule => rule.tenantId = tenantId ∧ rule.projectId = none ∧
    rule.retentionClass = retentionClass ∧ rule.active = true)

/-- The active holds on the asset or on its project. -/
def matchingHolds (db : DeletionDb) (tenantId projectId assetId : String) : List LegalHoldRow :=
  db.holds.rows.filter fun row => row.tenantId = tenantId ∧ row.projectId = projectId ∧ row.state = .active ∧
    ((row.resourceType = "asset" ∧ row.resourceId = assetId) ∨ (row.resourceType = "project" ∧ row.resourceId = projectId))

/-- `max(0, (db_now() - ref.created_at).days)`. -/
def ageDays (ref : AssetRefRow) (now : Nat) : Nat := (now - ref.createdAt) / 86400000000

/-- The snapshot of an asset of a given age. -/
def snapshotAt (db : DeletionDb) (tenantId projectId assetId : String) (ref : AssetRefRow) (age : Nat) : DeletionSnapshot :=
  let holds := matchingHolds db tenantId projectId assetId
  let rule := retentionRule db tenantId projectId ref.retentionClass
  let minimumMet := rule.all fun rule => rule.minimumDays ≤ age
  { assetId
    sha256 := ref.sha256
    dependencies := dependencies py db tenantId projectId assetId ref.sha256
    otherActiveReferences := (AssetService.otherReferences db.toAssetDb ref).length
    legalHolds := holds
    rule
    retentionClass := ref.retentionClass
    ageDays := age
    minimumRetentionMet := minimumMet
    blockers :=
      (if ref.legalHold = true ∨ holds ≠ [] then ["legal_hold_active"] else []) ++
      (if minimumMet then [] else ["minimum_retention_not_met"]) ++
      (if ref.tombstonedAt ≠ none then ["already_tombstoned"] else []) }

def planAssetDeletion (db : DeletionDb) (now : Nat) (tenantId projectId assetId : String) : Except Raised DeletionSnapshot := do
  let ref ← orRaise ((db.refs.get? assetId).filter fun ref => ref.tenantId = tenantId ∧ ref.projectId = projectId)
    (notFoundError "asset" assetId)
  let _ ← orRaise (db.assets.get? ref.sha256) (validationError "OBJECT_REFERENCE_BROKEN" "asset metadata is missing")
  return snapshotAt py db tenantId projectId assetId ref (ageDays ref now)

end Planning

structure DeletionDemand where
  tenantId : String
  projectId : String
  assetId : String
  backupId : String
  actorId : String

section Requests
variable (svc : AuditService) (py : PyText)

def requestRow (req : DeletionDemand) (plan : DeletionSnapshot) (deletionId : String) : DeletionRequestRow where
  deletionId := deletionId
  tenantId := req.tenantId
  projectId := req.projectId
  resourceType := "asset"
  resourceId := req.assetId
  dryRunReport := plan.report
  backupReference := req.backupId
  state := .awaitingApproval
  requestedBy := req.actorId

def requestAudit (req : DeletionDemand) (plan : DeletionSnapshot) (deletionId : String) : AuditRequest where
  tenantId := req.tenantId
  projectId := some req.projectId
  actorId := req.actorId
  action := "deletion:request"
  resourceType := "asset"
  resourceId := req.assetId
  outcome := "allowed"
  details := some [("deletion_id", .str deletionId), ("backup_id", .str req.backupId), ("snapshot_hash", .str plan.hash)]

/-- `request_asset_deletion`; the plan is made at `planned`. -/
def requestAssetDeletion (db : DeletionDb) (planned : Nat) (stamp : Stamp) (newUuid : String) (req : DeletionDemand) :
    Except Raised (String × DeletionDb) := do
  let plan ← planAssetDeletion py db planned req.tenantId req.projectId req.assetId
  raiseIf (plan.eligible = false) (conflictError "DELETION_INELIGIBLE" "asset deletion is blocked"
    [("blockers", .arr (plan.blockers.map .str))])
  let _ ← orRaise ((db.backups.get? req.backupId).filter fun backup =>
      backup.state = "verified" ∧ backup.restoreRehearsedAt.isSome = true)
    (conflictError "VERIFIED_BACKUP_REQUIRED" "deletion requires a successfully rehearsed backup")
  let deletions ← orRaise (db.deletions.insert? (requestRow req plan newUuid)) (.integrityError "deletion_requests.deletion_id")
  let base ← db.toStore.record svc stamp (requestAudit req plan newUuid)
  return (newUuid, { db with toStore := base, deletions })

def approvalAudit (row : DeletionRequestRow) (tenantId projectId actorId : String) : AuditRequest where
  tenantId := tenantId
  projectId := some projectId
  actorId := actorId
  action := "deletion:approve"
  resourceType := row.resourceType
  resourceId := row.resourceId
  outcome := "allowed"
  details := some [("deletion_id", .str row.deletionId), ("requested_by", .str row.requestedBy)]

def approveDeletion (db : DeletionDb) (stamp : Stamp) (tenantId projectId deletionId actorId : String) :
    Except Raised DeletionDb := do
  let row ← orRaise ((db.deletions.get? deletionId).filter fun row => row.tenantId = tenantId ∧ row.projectId = projectId)
    (notFoundError "deletion_request" deletionId)
  raiseIf (row.requestedBy = actorId)
    (conflictError "INDEPENDENT_APPROVER_REQUIRED" "requester cannot approve destructive deletion")
  raiseIf (row.state ≠ .awaitingApproval)
    (conflictError "DELETION_STATE_INVALID" "deletion request is not awaiting approval")
  let deletions := db.deletions.set { row with approvedBy := some actorId, state := .approved }
  let base ← db.toStore.record svc stamp (approvalAudit row tenantId projectId actorId)
  return { db with toStore := base, deletions }

end Requests

/-- What the first transaction of an execution reads. -/
structure DeletionInputs where
  assetId : String
  expectedSnapshot : Json
  keyIds : List String
  backupId : String
  approvedBy : String

/-- What an execution draws: the clock when it plans, and the stamps of its two writing transactions. -/
structure ExecutionDraw where
  planned : Nat
  tombstone : Stamp
  evidence : Stamp
  evidenceId : String

/-- The database and the object store. -/
structure ErasureState where
  db : DeletionDb
  store : LocalContentAddressedStore

section Execution
variable (svc : AuditService) (py : PyText)

def deletionInputs (db : DeletionDb) (tenantId projectId deletionId : String) : Except Raised DeletionInputs := do
  let row ← orRaise ((db.deletions.get? deletionId).filter fun row => row.tenantId = tenantId ∧ row.projectId = projectId)
    (notFoundError "deletion_request" deletionId)
  let notApproved := conflictError "DELETION_NOT_APPROVED" "deletion request lacks independent approval"
  raiseIf (row.state ≠ .approved) notApproved
  let approvedBy ← orRaise (given row.approvedBy) notApproved
  let expectedSnapshot ← orRaise (Dict.get? row.dryRunReport "dependency_snapshot_hash") (.keyError "dependency_snapshot_hash")
  let ref ← orRaise (db.refs.get? row.resourceId) (notFoundError "asset" row.resourceId)
  let keyIds := ((db.assets.get? ref.sha256).map fun object => object.encryptionMetadata.keyId).toList.filter (· ≠ "")
  return ⟨row.resourceId, expectedSnapshot, keyIds, row.backupReference, approvedBy⟩

/-- What an execution goes on with: the request and a plan with the digest that was approved. -/
def executionPlan (db : DeletionDb) (planned : Nat) (tenantId projectId deletionId : String) :
    Except Raised (DeletionInputs × DeletionSnapshot) := do
  let inputs ← deletionInputs db tenantId projectId deletionId
  let current ← planAssetDeletion py db planned tenantId projectId inputs.assetId
  let expected := py.str inputs.expectedSnapshot
  raiseIf (current.hash ≠ expected) (conflictError "DELETION_DEPENDENCIES_CHANGED"
    "deletion impact changed after approval; a new dry run is required"
    [("expected", .str expected), ("actual", .str current.hash)])
  raiseIf (current.eligible = false) (conflictError "DELETION_INELIGIBLE" "asset deletion is now blocked"
    [("blockers", .arr (current.blockers.map .str))])
  return (inputs, current)

def residualLocations (inputs : DeletionInputs) (current : DeletionSnapshot) (deadline : Nat) : List Dict :=
  [("location_type", .str "verified_backup"), ("reference", .str inputs.backupId), ("access_state", .str "restricted"),
    ("expiry_deadline", .str (isoformat deadline))] ::
  current.dependencies.map fun d => ("location_type", .str "dependency") :: d.toDict

def evidenceBody (inputs : DeletionInputs) (current : DeletionSnapshot) (impact : TombstoneResult)
    (deletionId actorId : String) (deadline : Nat) : Dict := [
  ("deletion_id", .str deletionId),
  ("asset_id", .str inputs.assetId),
  ("sha256", .str current.sha256),
  ("impact", .obj impact.toDict),
  ("approved_by", .str inputs.approvedBy),
  ("executed_by", .str actorId),
  ("key_ids", .arr (inputs.keyIds.map .str)),
  ("residual_locations", .arr ((residualLocations inputs current deadline).map .obj)),
  ("backup_expiry_deadline", .str (isoformat deadline))]

def erasureAudit (tenantId projectId actorId assetId : String) (details : Dict) : AuditRequest where
  tenantId := tenantId
  projectId := some projectId
  actorId := actorId
  action := "deletion:execute"
  resourceType := "asset"
  resourceId := assetId
  outcome := "allowed"
  details := some details

/-- The last transaction of an execution: the evidence, and the state of the request. -/
def recordErasure (db : DeletionDb) (draw : ExecutionDraw) (inputs : DeletionInputs) (current : DeletionSnapshot)
    (impact : TombstoneResult) (tenantId projectId deletionId actorId : String) : Except Raised (Dict × DeletionDb) := do
  let row ← orRaise (db.deletions.get? deletionId) .assertionError
  let expiryDays := ((retentionRule db tenantId projectId current.retentionClass).map RetentionRule.backupExpiryDays).getD 30
  let deadline := draw.evidence.now + expiryDays * 86400000000
  let evidenceHash := canonicalSha256 (.obj (evidenceBody inputs current impact deletionId actorId deadline))
  let evidence : DeletionEvidenceRow := {
    evidenceId := draw.evidenceId
    deletionId, tenantId, projectId
    resourceType := "asset"
    resourceId := inputs.assetId
    action := if impact.physicalObjectWillBeRemoved then "tombstone_and_object_erasure" else "tombstone_shared_object_retained"
    affectedReferences := current.dependencies.map Dependency.toDict
    keyIds := inputs.keyIds
    residualLocations := residualLocations inputs current deadline
    backupExpiryDeadline := deadline
    evidenceHash }
  let deletionEvidence ← orRaise (db.deletionEvidence.insert? evidence) (.integrityError "deletion_evidence.evidence_id")
  let deletions := db.deletions.set { row with state := .executed, executedAt := some draw.evidence.now }
  let ids : Dict :=
    [("deletion_id", .str deletionId), ("evidence_id", .str draw.evidenceId), ("evidence_hash", .str evidenceHash)]
  let base ← db.toStore.record svc draw.evidence
    (erasureAudit tenantId projectId actorId inputs.assetId (ids ++ impact.toDict))
  return (impact.toDict ++ ids ++ [("backup_expiry_deadline", .str (isoformat deadline))],
    { db with toStore := base, deletions, deletionEvidence })

/-- `execute_deletion`; the tombstone stays when recording the evidence fails. -/
def executeDeletion (s : ErasureState) (draw : ExecutionDraw) (tenantId projectId deletionId actorId : String) :
    ErasureState × Except Raised Dict :=
  match executionPlan py s.db draw.planned tenantId projectId deletionId with
  | .error e => (s, .error e)
  | .ok (inputs, current) =>
    let (assets, outcome) := AssetService.tombstone svc draw.tombstone ⟨s.db.toAssetDb, s.store⟩
      ⟨tenantId, projectId, inputs.assetId, actorId, false⟩
    let erased : ErasureState := ⟨{ s.db with toAssetDb := assets.db }, assets.store⟩
    match outcome with
    | .error e => (erased, .error e)
    | .ok impact => match recordErasure svc erased.db draw inputs current impact tenantId projectId deletionId actorId with
      | .error e => (erased, .error e)
      | .ok (result, db) => ({ erased with db }, .ok result)

end Execution

end LifecycleService

end Sip
