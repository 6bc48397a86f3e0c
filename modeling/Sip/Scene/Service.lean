import Sip.PyValue
import Sip.Transaction

/-!
# The scene service

Commits of a scene branch and the two operations that move its head. `commit` reads
the branch row under a lock, compares the head with the expected one and renders the
live entities and bindings of the scene; `rollback_branch` copies a stored snapshot.
Each is given as the parts between which other requests can run, and as their
composition.
-/

namespace Sip

set_option autoImplicit false

structure SceneCommitRow where
  commitId : String
  tenantId : String
  projectId : String
  sceneId : String
  branch : String
  parentIdsJson : List String
  message : String
  semanticSnapshotJson : Dict
  snapshotHash : String
  rootManifestHash : String
  fieldVisitId : Option String := none
  workflowEventId : Option String := none
  changeEvidenceIdsJson : List String := []
  policyChecksJson : Dict := []
  signaturesJson : List Dict := []
  reviewState : String := "unreviewed"
  validFrom : Option Nat := none
  validTo : Option Nat := none
  recordedAt : Nat
  createdBy : String
  supersedesCommitId : Option String := none

structure SceneBranchRow where
  branchId : String
  tenantId : String
  projectId : String
  sceneId : String
  name : String
  headCommitId : String
  isProtected : Bool := false

structure SceneEntityRow where
  entityId : String
  tenantId : String
  projectId : String
  sceneId : String
  entityType : String
  name : String
  attributesJson : Dict
  sourceClass : String
  authorityClass : String
  confidence : PyFloat
  provenanceJson : Dict
  policyJson : Dict
  stableSupportJson : Dict
  supersededAt : Option Nat := none

structure RepresentationBindingRow where
  bindingId : String
  tenantId : String
  projectId : String
  sceneId : String
  representationId : String
  role : String
  coordinateFrameId : String
  transformJson : Json
  authorityClass : String
  authorityCeiling : String
  intendedUsesJson : List String
  audiencePolicyJson : Dict
  supersededAt : Option Nat := none
  commitId : String := ""
  reviewDecisionJson : Dict := []
  clientProfileJson : Dict := []
  publishedBy : String := ""
  publishedAt : Nat := 0

structure EvidenceRecordRow where
  evidenceId : String
  tenantId : String
  projectId : String

structure SceneStore extends Store where
  commits : Table SceneCommitRow (fun row => row.commitId)
  branches : Table SceneBranchRow (fun row => row.branchId)
  entities : Table SceneEntityRow (fun row => row.entityId)
  bindings : Table RepresentationBindingRow (fun row => row.bindingId)
  evidence : Table EvidenceRecordRow (fun row => row.evidenceId)

def SceneStore.empty : SceneStore := { Store.empty with
  commits := .empty, branches := .empty, entities := .empty, bindings := .empty, evidence := .empty }

/-- The scope of a branch. -/
structure BranchKey where
  tenantId : String
  projectId : String
  sceneId : String
  branch : String
  deriving DecidableEq

structure CommitRequest extends BranchKey where
  expectedHead : String
  message : String
  actorId : String
  fieldVisitId : Option String := none
  workflowEventId : Option String := none
  changeEvidenceIds : Option (List String) := none
  policyChecks : Option Dict := none
  signatures : Option (List Dict) := none
  reviewState : String := "unreviewed"
  validFrom : Option Nat := none
  validTo : Option Nat := none

structure RollbackRequest extends BranchKey where
  targetCommitId : String
  actorId : String

/-- What a request draws: a commit identifier besides the stamp. -/
structure CommitStamp extends Stamp where
  commitId : String

structure CommitResult where
  commitId : String
  snapshotHash : String
  rootManifestHash : String
  parentIds : List String
  branch : String
  fieldVisitId : Option String
  workflowEventId : Option String
  changeEvidenceIds : List String
  reviewState : String
  validFrom : Option Nat
  validTo : Option Nat
  recordedAt : Nat
  idempotentReplay : Bool

namespace SceneService

def commitResult (row : SceneCommitRow) (idempotentReplay : Bool) : CommitResult where
  commitId := row.commitId
  snapshotHash := row.snapshotHash
  rootManifestHash := row.rootManifestHash
  parentIds := row.parentIdsJson
  branch := row.branch
  fieldVisitId := row.fieldVisitId
  workflowEventId := row.workflowEventId
  changeEvidenceIds := row.changeEvidenceIdsJson
  reviewState := row.reviewState
  validFrom := row.validFrom
  validTo := row.validTo
  recordedAt := row.recordedAt
  idempotentReplay := idempotentReplay

def branch? (db : SceneStore) (key : BranchKey) : Option SceneBranchRow :=
  db.branches.rows.find? fun row => row.tenantId = key.tenantId ∧ row.projectId = key.projectId ∧
    row.sceneId = key.sceneId ∧ row.name = key.branch

/-- An insert into `scene_commits`: the primary key, and one commit for a workflow event of a project. -/
def insertCommit (db : SceneStore) (row : SceneCommitRow) : Except Raised SceneStore := do
  raiseIf (row.workflowEventId ≠ none ∧ db.commits.rows.any fun other =>
      other.tenantId = row.tenantId ∧ other.projectId = row.projectId ∧ other.workflowEventId = row.workflowEventId)
    (.integrityError "uq_scene_commit_workflow_event")
  let commits ← orRaise (db.commits.insert? row) (.integrityError "scene_commits.commit_id")
  return { db with commits }

/-- `branch_row.head_commit_id = commit_id`. -/
def setHead (db : SceneStore) (branch : SceneBranchRow) (commitId : String) : SceneStore :=
  let branches := db.branches.modify branch.branchId (fun row => { row with headCommitId := commitId }) fun _ => rfl
  { db with branches }

section Snapshot

def renderEntity (item : SceneEntityRow) : Json := .obj [
  ("entity_id", .str item.entityId),
  ("entity_type", .str item.entityType),
  ("name", .str item.name),
  ("attributes", .obj item.attributesJson),
  ("source_class", .str item.sourceClass),
  ("authority_class", .str item.authorityClass),
  ("confidence", .float item.confidence),
  ("provenance", .obj item.provenanceJson),
  ("policy", .obj item.policyJson),
  ("stable_support", .obj item.stableSupportJson)]

def renderBinding (item : RepresentationBindingRow) : Json := .obj [
  ("binding_id", .str item.bindingId),
  ("representation_id", .str item.representationId),
  ("role", .str item.role),
  ("coordinate_frame_id", .str item.coordinateFrameId),
  ("transform", item.transformJson),
  ("authority_class", .str item.authorityClass),
  ("authority_ceiling", .str item.authorityCeiling),
  ("intended_uses", .arr (item.intendedUsesJson.map .str)),
  ("audience_policy", .obj item.audiencePolicyJson)]

/-- The live entities of a scene, as a commit renders them. -/
def liveEntities (db : SceneStore) (key : BranchKey) : Json :=
  let entities := db.entities.rows.filter fun row => row.tenantId = key.tenantId ∧ row.projectId = key.projectId ∧
    row.sceneId = key.sceneId ∧ row.supersededAt = none
  .arr ((sortBy SceneEntityRow.entityId entities).map renderEntity)

/-- The live bindings of a scene, as a commit renders them. -/
def liveRepresentations (db : SceneStore) (key : BranchKey) : Json :=
  let bindings := db.bindings.rows.filter fun row => row.tenantId = key.tenantId ∧ row.projectId = key.projectId ∧
    row.sceneId = key.sceneId ∧ row.supersededAt = none
  .arr ((sortBy RepresentationBindingRow.bindingId bindings).map renderBinding)

def renderSnapshot (db : SceneStore) (key : BranchKey) : Dict := [
  ("schema_version", .str "1.0.0"),
  ("scene_id", .str key.sceneId),
  ("entities", liveEntities db key),
  ("representations", liveRepresentations db key)]

/-- The snapshot that `create_scene` records. -/
def createdSnapshot (sceneId name : String) : Dict := [
  ("scene_id", .str sceneId),
  ("name", .str name),
  ("entities", .arr []),
  ("representations", .arr []),
  ("schema_version", .str "1.0.0")]

end Snapshot

section Commit
variable (svc : AuditService)

def CommitRequest.evidenceIds (req : CommitRequest) : List String :=
  sortedSet id (req.changeEvidenceIds.getD [])

def checkEvidence (db : SceneStore) (req : CommitRequest) (evidenceId : String) : Except Raised Unit := do
  let evidence ← orRaise (db.evidence.get? evidenceId) (notFoundError "evidence" evidenceId)
  raiseIf (evidence.tenantId ≠ req.tenantId ∨ evidence.projectId ≠ req.projectId) (notFoundError "evidence" evidenceId)

/-- Before the lock: the commit that already carries the workflow event, if there is one. -/
def commitLookup (db : SceneStore) (req : CommitRequest) : Except Raised (Option CommitResult) := do
  raiseIf (req.validFrom.any fun start => req.validTo.any fun stop => stop ≤ start)
    (validationError "SCENE_VALID_TIME_INVALID" "scene commit valid_to must be later than valid_from")
  let existing := (given req.workflowEventId).bind fun event => db.commits.rows.find? fun row =>
    row.tenantId = req.tenantId ∧ row.projectId = req.projectId ∧ row.workflowEventId = some event
  match existing with
  | some row => do
    raiseIf (row.sceneId ≠ req.sceneId ∨ row.branch ≠ req.branch ∨ row.reviewState ≠ req.reviewState)
      (conflictError "SCENE_WORKFLOW_EVENT_REBOUND"
        "workflow event is already bound to a different scene commit scope")
    return some (commitResult row true)
  | none => do
    (CommitRequest.evidenceIds req).forM (checkEvidence db req)
    return none

/-- The row of a new commit: the scene as its tables hold it now. -/
def commitRow (db : SceneStore) (stamp : CommitStamp) (req : CommitRequest) : SceneCommitRow where
  commitId := stamp.commitId
  tenantId := req.tenantId
  projectId := req.projectId
  sceneId := req.sceneId
  branch := req.branch
  parentIdsJson := [req.expectedHead]
  message := req.message
  semanticSnapshotJson := renderSnapshot db req.toBranchKey
  snapshotHash := canonicalSha256 (.obj (renderSnapshot db req.toBranchKey))
  rootManifestHash := canonicalSha256 (.obj (renderSnapshot db req.toBranchKey))
  fieldVisitId := req.fieldVisitId
  workflowEventId := req.workflowEventId
  changeEvidenceIdsJson := CommitRequest.evidenceIds req
  policyChecksJson := req.policyChecks.getD []
  signaturesJson := req.signatures.getD []
  reviewState := req.reviewState
  validFrom := req.validFrom
  validTo := req.validTo
  recordedAt := stamp.now
  createdBy := req.actorId

/-- What a commit that holds the lock is about to write. -/
structure PreparedCommit where
  branch : SceneBranchRow
  row : SceneCommitRow

/-- Under the lock: the branch row, the comparison with the expected head, and the rendered scene. -/
def commitLocked (db : SceneStore) (stamp : CommitStamp) (req : CommitRequest) : Except Raised PreparedCommit := do
  let branch ← orRaise (branch? db req.toBranchKey) (notFoundError "scene_branch" req.branch)
  raiseIf (branch.headCommitId ≠ req.expectedHead)
    (conflictError "SCENE_HEAD_CHANGED" "scene branch changed since the client read it"
      [("expected", .str req.expectedHead), ("actual", .str branch.headCommitId)])
  return { branch, row := commitRow db stamp req }

def committedPayload (row : SceneCommitRow) : Dict := [
  ("scene_id", .str row.sceneId), ("branch", .str row.branch), ("snapshot_hash", .str row.snapshotHash),
  ("parent_count", .int 1), ("review_state", .str row.reviewState),
  ("change_evidence_count", .int row.changeEvidenceIdsJson.length)]

def committedEvent (row : SceneCommitRow) : EventRequest where
  eventType := "scene.committed"
  schemaVersion := "1.0.0"
  tenantId := row.tenantId
  projectId := row.projectId
  aggregateType := "scene_commit"
  aggregateId := row.commitId
  payload := committedPayload row
  producer := "scene-service"
  actorId := some row.createdBy
  workloadIdentity := none
  causationId := row.workflowEventId

def committedAudit (req : CommitRequest) (row : SceneCommitRow) : AuditRequest where
  tenantId := req.tenantId
  projectId := some req.projectId
  actorId := req.actorId
  action := "scene:commit"
  resourceType := "scene_commit"
  resourceId := row.commitId
  outcome := "allowed"
  details := some [("scene_id", .str req.sceneId), ("branch", .str req.branch), ("parent", .str req.expectedHead),
    ("snapshot_hash", .str row.snapshotHash)]

/-- The end of the transaction: the commit row, the head, the event and the audit entry. -/
def commitWrite (db : SceneStore) (stamp : CommitStamp) (req : CommitRequest) (p : PreparedCommit) : Except Raised SceneStore := do
  let db := setHead (← insertCommit db p.row) p.branch p.row.commitId
  let s ← db.emit stamp.toStamp (committedEvent p.row)
  let s ← s.record svc stamp.toStamp (committedAudit req p.row)
  return { db with toStore := s }

def commit (db : SceneStore) (stamp : CommitStamp) (req : CommitRequest) :
    Except Raised (CommitResult × SceneStore) := do
  match ← commitLookup db req with
  | some replay => return (replay, db)
  | none => do
    let prepared ← commitLocked db stamp req
    let db ← commitWrite svc db stamp req prepared
    return (commitResult prepared.row false, db)

end Commit

section Rollback

structure RollbackResult where
  commitId : String
  restoredFrom : String
  superseded : String
  snapshotHash : String

/-- The target commit and the branch row, both read without a lock. -/
def rollbackRead (db : SceneStore) (req : RollbackRequest) : Except Raised (SceneCommitRow × SceneBranchRow) := do
  let target ← orRaise (db.commits.get? req.targetCommitId) (notFoundError "scene_commit" req.targetCommitId)
  let branch ← orRaise (branch? db req.toBranchKey) (notFoundError "scene_commit" req.targetCommitId)
  raiseIf (target.sceneId ≠ req.sceneId) (notFoundError "scene_commit" req.targetCommitId)
  return (target, branch)

def rollbackRow (stamp : CommitStamp) (req : RollbackRequest) (target : SceneCommitRow) (branch : SceneBranchRow) :
    SceneCommitRow where
  commitId := stamp.commitId
  tenantId := req.tenantId
  projectId := req.projectId
  sceneId := req.sceneId
  branch := req.branch
  parentIdsJson := [branch.headCommitId]
  message := "Rollback semantic state to " ++ req.targetCommitId
  semanticSnapshotJson := target.semanticSnapshotJson
  snapshotHash := target.snapshotHash
  rootManifestHash := if target.rootManifestHash = "" then target.snapshotHash else target.rootManifestHash
  fieldVisitId := target.fieldVisitId
  workflowEventId := target.workflowEventId
  changeEvidenceIdsJson := target.changeEvidenceIdsJson
  policyChecksJson := target.policyChecksJson.set "rollback" (.str "passed")
  signaturesJson := []
  reviewState := "rollback"
  validFrom := target.validFrom
  validTo := target.validTo
  recordedAt := stamp.now
  createdBy := req.actorId
  supersedesCommitId := some branch.headCommitId

/-- The end of the transaction: the rollback commit and the head. -/
def rollbackWrite (db : SceneStore) (stamp : CommitStamp) (req : RollbackRequest) (target : SceneCommitRow)
    (branch : SceneBranchRow) : Except Raised SceneStore := do
  let db ← insertCommit db (rollbackRow stamp req target branch)
  return setHead db branch stamp.commitId

def rollbackBranch (db : SceneStore) (stamp : CommitStamp) (req : RollbackRequest) :
    Except Raised (RollbackResult × SceneStore) := do
  let (target, branch) ← rollbackRead db req
  let db ← rollbackWrite db stamp req target branch
  return (⟨stamp.commitId, req.targetCommitId, branch.headCommitId, target.snapshotHash⟩, db)

end Rollback

end SceneService

end Sip
