import Sip.Hybrid.Database
import Sip.Spatial.Measurements

/-!
# Deficiencies and their issues

A deficiency is kept twice: as an issue with a governed life cycle, and as a construction
record from before there were issues. Each of the two has operations of its own, and none
of these looks at the other side.
-/

namespace Sip

set_option autoImplicit false

inductive IssueState where
  | open | acknowledged | corrected | retestRequired | verifiedClosed | disputed | superseded
  deriving DecidableEq

def IssueState.value : IssueState → String
  | .open => "open"
  | .acknowledged => "acknowledged"
  | .corrected => "corrected"
  | .retestRequired => "retest_required"
  | .verifiedClosed => "verified_closed"
  | .disputed => "disputed"
  | .superseded => "superseded"

/-- `target_state in ISSUE_STATES` -/
def IssueState.ofText? (text : String) : Option IssueState :=
  [IssueState.open, acknowledged, corrected, retestRequired, verifiedClosed, disputed, superseded].find?
    fun state => state.value = text

/-- The states that an issue may go to. -/
def IssueState.next : IssueState → List IssueState
  | .open => [.acknowledged, .corrected, .disputed, .superseded]
  | .acknowledged => [.corrected, .disputed, .superseded]
  | .corrected => [.retestRequired, .verifiedClosed, .open, .disputed]
  | .retestRequired => [.verifiedClosed, .open, .disputed]
  | .disputed => [.open, .acknowledged, .superseded]
  | .verifiedClosed => []
  | .superseded => []

def IssueState.needsEvidence (state : IssueState) : Bool := state ∈ [.corrected, .retestRequired, .verifiedClosed]

inductive IssueSeverity where
  | low | medium | high | lifeSafety
  deriving DecidableEq

def IssueSeverity.value : IssueSeverity → String
  | .low => "low"
  | .medium => "medium"
  | .high => "high"
  | .lifeSafety => "life_safety"

def IssueSeverity.ofText? (text : String) : Option IssueSeverity :=
  [low, medium, high, lifeSafety].find? fun severity => severity.value = text

structure ConstructionIssueRow where
  issueId : String
  tenantId : String
  projectId : String
  idempotencyKey : String
  requestHash : String
  issueType : String
  description : String
  entityId : Option String
  placeId : Option String
  observedCommitId : Option String
  observedAt : Nat
  evidenceJson : List Json
  reporterId : String
  severity : IssueSeverity
  responsibleParty : Option String
  dueAt : Option Nat
  status : IssueState
  permissionsJson : Dict
  historyJson : List Json
  residualLimitationsJson : List String
  verificationJson : Dict
  createdAt : Nat
  updatedAt : Nat

/-- `ConstructionRecordRow` with all its columns. -/
structure FacilityRecordRow extends ConstructionRecordRow where
  recordType : String
  parentId : Option String := none
  state : String
  dataJson : Dict
  evidenceAssetIdsJson : List String
  createdBy : String
  createdAt : Nat

structure ConstructionDb extends Store where
  refs : Table AssetRefRow (fun row => row.assetId)
  objects : Table AssetRow (fun row => row.sha256)
  commits : Table SceneCommitRow (fun row => row.commitId)
  records : Table FacilityRecordRow (fun row => row.recordId)
  issues : Table ConstructionIssueRow (fun row => row.issueId)

structure ConstructionService where
  py : PyConversions
  audit : AuditService

namespace ConstructionService

/-- A service with the zero key. -/
def zeroConstruction : ConstructionService where
  py := {
    str := fun value => value.text?.getD ""
    str_text := str_text_getD
    float := fun _ => .error (.typeError "float() argument must be a string or a real number")
    dict := fun value => orRaise value.fields? (.typeError "object is not iterable") }
  audit := .zeroKey

section Evidence
variable (svc : ConstructionService)

/-- `str(text or "").strip()` -/
def bareText (text : String) : String := String.ofList (strip text.toList)

/-- The hash in an evidence entry, beside the ones that the entries before it have given. -/
def evidenceHash (codePrefix assetId : String) (hashes : List (String × String)) (supplied : Json) :
    Except Raised (List (String × String)) :=
  match supplied with
  | .null => .ok hashes
  | supplied => do
    let digest := String.ofList (HybridControl.bareDigest (svc.py.str supplied))
    raiseIf ((hashes.lookup assetId).any fun prior => prior ≠ digest)
      (validationError (codePrefix ++ "_HASH_CONFLICT") "one evidence asset cannot be submitted with conflicting hashes"
        [("asset_id", .str assetId)])
    return if (hashes.lookup assetId).isSome then hashes else hashes ++ [(assetId, digest)]

/-- `evidence_ids_and_hashes`: the entries from an index on. -/
def evidenceEntries (codePrefix : String) : Nat → List (String × String) → List Json →
    Except Raised (List String × List (String × String))
  | _, hashes, [] => .ok ([], hashes)
  | index, hashes, item :: items => do
    let fields ← orRaise item.fields? (validationError (codePrefix ++ "_ITEM_INVALID") "evidence entries must be objects"
      [("index", .int index)])
    let assetId := bareText (HybridControl.textOr svc.py.toPyText fields "asset_id" "")
    raiseIf (assetId = "") (validationError (codePrefix ++ "_ASSET_ID_REQUIRED")
      "every evidence entry must identify an immutable asset" [("index", .int index)])
    let hashes ← svc.evidenceHash codePrefix assetId hashes (Dict.get fields "sha256")
    let (ids, hashes) ← evidenceEntries codePrefix (index + 1) hashes items
    return (assetId :: ids, hashes)

/-- `evidence_ids_and_hashes` -/
def evidenceIdsAndHashes (items : List Json) (codePrefix : String) : Except Raised (List String × List (String × String)) :=
  svc.evidenceEntries codePrefix 0 [] items

variable (db : ConstructionDb) (tenantId projectId : String)

/-- One asset of `require_scoped_immutable_assets`. -/
def requireScopedAsset (expectedHashes : List (String × String)) (codePrefix assetId : String) : Except Raised AssetRefRow := do
  let outside := validationError (codePrefix ++ "_ASSET_SCOPE")
    "evidence asset is missing, tombstoned, or outside the tenant/project scope" [("asset_id", .str assetId)]
  let ref ← orRaise (db.refs.get? assetId) outside
  raiseIf (ref.tenantId ≠ tenantId ∨ ref.projectId ≠ projectId ∨ ref.tombstonedAt ≠ none) outside
  raiseIf (isDigest ref.sha256 = false) (validationError (codePrefix ++ "_ASSET_HASH_INVALID")
    "evidence asset does not retain a valid SHA-256 content identity" [("asset_id", .str assetId)])
  raiseIf (db.objects.get? ref.sha256).isNone (validationError (codePrefix ++ "_ASSET_OBJECT_MISSING")
    "evidence asset points to missing immutable object metadata" [("asset_id", .str assetId), ("sha256", .str ref.sha256)])
  match expectedHashes.lookup assetId with
  | none => return ref
  | some supplied => do
    let expected := String.ofList (HybridControl.bareDigest supplied)
    raiseIf (isDigest expected = false ∨ expected ≠ ref.sha256) (validationError (codePrefix ++ "_ASSET_HASH_MISMATCH")
      "evidence asset hash does not match the retained immutable content identity"
      [("asset_id", .str assetId), ("expected_sha256", .str expected), ("actual_sha256", .str ref.sha256)])
    return ref

/-- `require_scoped_immutable_assets` -/
def requireScopedImmutableAssets (assetIds : List String) (expectedHashes : List (String × String)) (codePrefix : String)
    (requireNonempty : Bool) : Except Raised (List AssetRefRow) := do
  let ids := assetIds.map bareText
  raiseIf ("" ∈ ids)
    (validationError (codePrefix ++ "_ASSET_ID_REQUIRED") "evidence asset identifiers must be non-empty")
  raiseIf (requireNonempty = true ∧ ids = [])
    (validationError (codePrefix ++ "_ASSET_REQUIRED") "at least one immutable evidence asset is required")
  let unknown := sortedSet id ((expectedHashes.map Prod.fst).filter fun assetId => assetId ∉ ids)
  raiseIf (unknown ≠ []) (validationError (codePrefix ++ "_HASH_REFERENCE_INVALID")
    "expected evidence hashes may refer only to supplied asset identifiers" [("asset_ids", Json.texts unknown)])
  (distinctBy id ids).mapM (requireScopedAsset db tenantId projectId expectedHashes codePrefix)

end Evidence

section Scope
variable (db : ConstructionDb) (tenantId projectId : String)

/-- `_scoped(.., ConstructionIssueRow, ..)` -/
def scopedIssue (issueId : String) : Except Raised ConstructionIssueRow := do
  let row ← orRaise (db.issues.get? issueId) (notFoundError "issue" issueId)
  raiseIf (row.tenantId ≠ tenantId ∨ row.projectId ≠ projectId) (notFoundError "issue" issueId)
  return row

/-- `_scoped(.., ConstructionRecordRow, ..)` -/
def scopedRecord (recordId label : String) : Except Raised FacilityRecordRow := do
  let row ← orRaise (db.records.get? recordId) (notFoundError label recordId)
  raiseIf (row.tenantId ≠ tenantId ∨ row.projectId ≠ projectId) (notFoundError label recordId)
  return row

/-- `_scoped_commit` -/
def scopedCommit (commitId : String) : Except Raised SceneCommitRow := do
  let row ← orRaise (db.commits.get? commitId) (notFoundError "scene_commit" commitId)
  raiseIf (row.tenantId ≠ tenantId ∨ row.projectId ≠ projectId) (notFoundError "scene_commit" commitId)
  return row

/-- `if commit_id: self._scoped_commit(..)` -/
def requireCommit (commitId : Option String) : Except Raised Unit :=
  match commitId with
  | none | some "" => .ok ()
  | some commitId => do
    let _ ← scopedCommit db tenantId projectId commitId

/-- `_idempotent(.., ConstructionIssueRow, ..)` -/
def idempotentIssue (key requestHash : String) : Except Raised (Option ConstructionIssueRow) :=
  match db.issues.rows.find? fun row => row.tenantId = tenantId ∧ row.projectId = projectId ∧ row.idempotencyKey = key with
  | none => .ok none
  | some prior => do
    raiseIf (prior.requestHash ≠ requestHash)
      (conflictError "IDEMPOTENCY_PAYLOAD_CONFLICT" "idempotency key was reused with different input")
    return some prior

end Scope

/-- What `_record` writes about a resource. -/
structure RecordedAction where
  tenantId : String
  projectId : String
  actorId : String
  action : String
  resourceType : String
  resourceId : String
  details : Dict
  eventType : String
  aggregateType : String

namespace RecordedAction

def entry (act : RecordedAction) : AuditRequest where
  tenantId := act.tenantId
  projectId := some act.projectId
  actorId := act.actorId
  action := act.action
  resourceType := act.resourceType
  resourceId := act.resourceId
  outcome := "allowed"
  details := some act.details

/-- `{"resource_id": resource_id, **details}` -/
def payload (act : RecordedAction) : Dict := Dict.merge [("resource_id", .str act.resourceId)] act.details

def event (act : RecordedAction) : EventRequest where
  eventType := act.eventType
  schemaVersion := "1.0.0"
  tenantId := act.tenantId
  projectId := act.projectId
  aggregateType := act.aggregateType
  aggregateId := act.resourceId
  payload := act.payload
  producer := "construction"
  actorId := some act.actorId
  workloadIdentity := none

end RecordedAction

/-- `_record` -/
def recordAction (svc : ConstructionService) (store : Store) (stamp : Stamp) (act : RecordedAction) : Except Raised Store := do
  let store ← store.record svc.audit stamp act.entry
  store.emit stamp act.event

/-- An action whose audit entry is accepted is recorded, if its event is in the catalog and its payload is acceptable. -/
theorem recordAction_of {svc : ConstructionService} {store : Store} {stamp : Stamp} {act : RecordedAction} {log : AuditLog}
    {catalogued : EventCatalogEntry} (haudit : store.record svc.audit stamp act.entry = .ok { store with audit := log })
    (hcatalog : getEvent act.eventType "1.0.0" = .ok catalogued) (howner : "construction" = catalogued.owner)
    (haggregate : catalogued.aggregate = act.aggregateType) (hpayload : validatePayload act.payload = .ok ()) :
    ∃ outbox, svc.recordAction store stamp act = .ok { store with audit := log, outbox } := by
  obtain ⟨event, hevent⟩ := Store.emit_total ({ store with audit := log } : Store) stamp (r := act.event) hcatalog howner
    haggregate hpayload
  simp only [recordAction, bind_eq_ok]
  exact ⟨_, _, haudit, hevent⟩

section Issues
variable (svc : ConstructionService)

structure IssueRequest where
  tenantId : String
  projectId : String
  issueType : String
  description : String
  evidence : List Json
  reporterId : String
  severity : String
  idempotencyKey : String
  entityId : Option String := none
  placeId : Option String := none
  observedCommitId : Option String := none
  responsibleParty : Option String := none
  dueAt : Option Nat := none
  permissions : Dict := []

/-- What the creation of an issue draws: an identifier besides the stamp. -/
structure IssueStamp extends Stamp where
  issueId : String

structure IssueResult where
  issueId : String
  status : IssueState
  severity : IssueSeverity
  historyCount : Nat
  verification : Dict
  idempotentReplay : Bool

/-- `_issue_result` -/
def issueResult (row : ConstructionIssueRow) (replay : Bool) : IssueResult :=
  ⟨row.issueId, row.status, row.severity, row.historyJson.length, row.verificationJson, replay⟩

def IssueRequest.digest (req : IssueRequest) : String := canonicalSha256 (.obj [
  ("issue_type", .str req.issueType), ("description", .str req.description), ("evidence", .arr req.evidence),
  ("severity", .str req.severity), ("entity_id", .ofOption req.entityId), ("place_id", .ofOption req.placeId),
  ("observed_commit_id", .ofOption req.observedCommitId), ("responsible_party", .ofOption req.responsibleParty),
  ("due_at", .ofOption (req.dueAt.map isoformat)), ("permissions", .obj req.permissions)])

def newIssue (stamp : IssueStamp) (req : IssueRequest) (severity : IssueSeverity) : ConstructionIssueRow where
  issueId := stamp.issueId
  tenantId := req.tenantId
  projectId := req.projectId
  idempotencyKey := req.idempotencyKey
  requestHash := req.digest
  issueType := req.issueType
  description := req.description
  entityId := req.entityId
  placeId := req.placeId
  observedCommitId := req.observedCommitId
  observedAt := stamp.now
  evidenceJson := req.evidence
  reporterId := req.reporterId
  severity := severity
  responsibleParty := req.responsibleParty
  dueAt := req.dueAt
  status := .open
  permissionsJson := req.permissions
  historyJson := [.obj [("state", .str "open"), ("at", .str (isoformat stamp.now)), ("actor_id", .str req.reporterId)]]
  residualLimitationsJson := []
  verificationJson := []
  createdAt := stamp.now
  updatedAt := stamp.now

def creationAction (stamp : IssueStamp) (req : IssueRequest) : RecordedAction where
  tenantId := req.tenantId
  projectId := req.projectId
  actorId := req.reporterId
  action := "construction:issue_create"
  resourceType := "construction_issue"
  resourceId := stamp.issueId
  details := [("severity", .str req.severity), ("issue_type", .str req.issueType)]
  eventType := "construction.issue.created"
  aggregateType := "construction_issue"

/-- The checks of an issue, up to whether there is one under its key. -/
def checkIssue (db : ConstructionDb) (req : IssueRequest) : Except Raised (IssueSeverity × Option ConstructionIssueRow) := do
  let severity ← orRaise (if req.evidence = [] then none else IssueSeverity.ofText? req.severity)
    (validationError "ISSUE_INVALID" "issue requires valid severity and evidence")
  let (ids, hashes) ← svc.evidenceIdsAndHashes req.evidence "CONSTRUCTION_ISSUE_EVIDENCE"
  let _ ← requireScopedImmutableAssets db req.tenantId req.projectId ids hashes "CONSTRUCTION_ISSUE_EVIDENCE" true
  let prior ← idempotentIssue db req.tenantId req.projectId req.idempotencyKey req.digest
  return (severity, prior)

/-- `create_issue` -/
def createIssue (db : ConstructionDb) (stamp : IssueStamp) (req : IssueRequest) :
    Except Raised (ConstructionDb × IssueResult) := do
  let (severity, prior) ← svc.checkIssue db req
  match prior with
  | some prior => return (db, issueResult prior true)
  | none => do
    requireCommit db req.tenantId req.projectId req.observedCommitId
    let row := newIssue stamp req severity
    let issues ← orRaise (db.issues.insert? row) (.integrityError "construction_issues.issue_id")
    let store ← svc.recordAction db.toStore stamp.toStamp (creationAction stamp req)
    return ({ db with toStore := store, issues }, issueResult row false)

structure TransitionRequest where
  issueId : String
  tenantId : String
  projectId : String
  actorId : String
  targetState : String
  evidence : List Json
  note : String
  residualLimitations : List String := []

/-- `evidence_ids_and_hashes(..) if evidence else ([], {})` -/
def transitionEvidence (evidence : List Json) : Except Raised (List String × List (String × String)) :=
  if evidence = [] then .ok ([], []) else svc.evidenceIdsAndHashes evidence "CONSTRUCTION_ISSUE_TRANSITION_EVIDENCE"

/-- The issue of a transition, with the evidence checked. -/
def readIssue (db : ConstructionDb) (target : IssueState) (req : TransitionRequest) : Except Raised ConstructionIssueRow := do
  let (ids, hashes) ← svc.transitionEvidence req.evidence
  let row ← scopedIssue db req.tenantId req.projectId req.issueId
  let _ ← requireScopedImmutableAssets db req.tenantId req.projectId ids hashes "CONSTRUCTION_ISSUE_TRANSITION_EVIDENCE"
    target.needsEvidence
  return row

def checkTransition (row : ConstructionIssueRow) (target : IssueState) (req : TransitionRequest) : Except Raised Unit := do
  raiseIf (target ∉ row.status.next) (conflictError "ISSUE_TRANSITION_INVALID"
    ("cannot transition " ++ row.status.value ++ " to " ++ target.value))
  raiseIf (target.needsEvidence = true ∧ req.evidence = [])
    (validationError "ISSUE_TRANSITION_EVIDENCE" "correction, retest, and closure require evidence")
  raiseIf (target = .verifiedClosed ∧ req.actorId = row.reporterId)
    (validationError "ISSUE_INDEPENDENT_VERIFIER" "verified closure requires an independent verifier")

/-- `actor_id if target_state == "verified_closed" else None` -/
def verifier (target : IssueState) (req : TransitionRequest) : Json :=
  if target = .verifiedClosed then .str req.actorId else .null

def transitioned (row : ConstructionIssueRow) (target : IssueState) (now : Nat) (req : TransitionRequest) :
    ConstructionIssueRow := { row with
  status := target
  historyJson := row.historyJson ++ [.obj [
    ("state", .str target.value), ("at", .str (isoformat now)), ("actor_id", .str req.actorId), ("note", .str req.note),
    ("evidence", .arr req.evidence), ("verifier_id", verifier target req)]]
  residualLimitationsJson := req.residualLimitations
  verificationJson := if target = .verifiedClosed then [
      ("verifier_id", verifier target req), ("verified_at", .str (isoformat now)), ("evidence", .arr req.evidence),
      ("residual_limitations", Json.texts req.residualLimitations)]
    else row.verificationJson
  updatedAt := now }

def transitionAction (target : IssueState) (req : TransitionRequest) : RecordedAction where
  tenantId := req.tenantId
  projectId := req.projectId
  actorId := req.actorId
  action := "construction:issue_transition"
  resourceType := "construction_issue"
  resourceId := req.issueId
  details := [("target_state", .str target.value), ("verifier_id", verifier target req)]
  eventType := "construction.issue.transitioned"
  aggregateType := "construction_issue"

/-- `transition_issue` -/
def transitionIssue (db : ConstructionDb) (stamp : Stamp) (req : TransitionRequest) :
    Except Raised (ConstructionDb × IssueResult) := do
  let target ← orRaise (IssueState.ofText? req.targetState)
    (validationError "ISSUE_STATE_INVALID" "unsupported issue state")
  let row ← svc.readIssue db target req
  if target = row.status then return (db, issueResult row true)
  else do
    checkTransition row target req
    let row := transitioned row target stamp.now req
    let store ← svc.recordAction db.toStore stamp (transitionAction target req)
    return ({ db with toStore := store, issues := db.issues.set row }, issueResult row false)

end Issues

section LegacyAdapters
variable (svc : ConstructionService)

structure DeficiencyRequest where
  tenantId : String
  projectId : String
  entityId : String
  description : String
  severity : String
  evidenceAssetIds : List String
  actorId : String

/-- What a new deficiency draws: for its issue, for the key of that issue and for the record. -/
structure DeficiencyStamp where
  issue : IssueStamp
  keyId : String
  recordId : String
  recordedAt : Nat

def legacyKey (stamp : DeficiencyStamp) : String := "legacy-deficiency:" ++ stamp.keyId

def deficiencyIssue (stamp : DeficiencyStamp) (req : DeficiencyRequest) : IssueRequest where
  tenantId := req.tenantId
  projectId := req.projectId
  issueType := "deficiency"
  description := req.description
  evidence := req.evidenceAssetIds.map fun item => .obj [("asset_id", .str item)]
  reporterId := req.actorId
  severity := req.severity
  idempotencyKey := legacyKey stamp
  entityId := some req.entityId

def deficiencyRecord (stamp : DeficiencyStamp) (req : DeficiencyRequest) (issueId : String) : FacilityRecordRow where
  recordId := stamp.recordId
  tenantId := req.tenantId
  projectId := req.projectId
  recordType := "deficiency"
  entityId := some req.entityId
  state := "open"
  dataJson := [
    ("description", .str req.description), ("severity", .str req.severity), ("issue_id", .str issueId),
    ("history", .arr [.obj [("state", .str "open"), ("at", .str (isoformat stamp.recordedAt)), ("actor", .str req.actorId)]])]
  evidenceAssetIdsJson := req.evidenceAssetIds
  createdBy := req.actorId
  createdAt := stamp.recordedAt

/-- `create_deficiency`: the issue is committed before the record is written. -/
def createDeficiency (db : ConstructionDb) (stamp : DeficiencyStamp) (req : DeficiencyRequest) :
    ConstructionDb × Except Raised String :=
  match svc.createIssue db stamp.issue (deficiencyIssue stamp req) with
  | .error e => (db, .error e)
  | .ok (db, result) =>
    match db.records.insert? (deficiencyRecord stamp req result.issueId) with
    | none => (db, .error (.integrityError "construction_records.record_id"))
    | some records => ({ db with records }, .ok stamp.recordId)

structure RetestRequest where
  deficiencyId : String
  tenantId : String
  projectId : String
  correction : String
  correctionAssetIds : List String
  testResult : String
  testAssetIds : List String
  testerId : String

structure RetestResult where
  deficiencyId : String
  state : String
  testResult : String
  historyCount : Nat

/-- The checks of a correction with its retest: the record and the history it has so far. -/
def readRetest (db : ConstructionDb) (req : RetestRequest) : Except Raised (FacilityRecordRow × List Json) := do
  raiseIf (req.testResult ∉ ["pass", "fail"] ∨ req.correctionAssetIds = [] ∨ req.testAssetIds = [])
    (validationError "CORRECTION_RETEST_EVIDENCE" "valid correction and retest evidence are required")
  let row ← scopedRecord db req.tenantId req.projectId req.deficiencyId "deficiency"
  let _ ← requireScopedImmutableAssets db req.tenantId req.projectId (req.correctionAssetIds ++ req.testAssetIds) []
    "CONSTRUCTION_DEFICIENCY_RETEST_EVIDENCE" true
  raiseIf (row.recordType ≠ "deficiency") (notFoundError "deficiency" req.deficiencyId)
  raiseIf (row.state = "closed")
    (conflictError "DEFICIENCY_ALREADY_CLOSED" "closed deficiency cannot be changed without a new record")
  let history ← Json.iterate ((Dict.get? row.dataJson "history").getD (.arr []))
  return (row, history)

def retested (row : FacilityRecordRow) (history : List Json) (now : Nat) (req : RetestRequest) : FacilityRecordRow := { row with
  state := if req.testResult = "pass" then "closed" else "open"
  dataJson := Dict.merge row.dataJson [
    ("history", .arr (history ++ [
      .obj [("state", .str "corrected"), ("correction", .str req.correction), ("asset_ids", Json.texts req.correctionAssetIds),
        ("at", .str (isoformat now)), ("actor", .str req.testerId)],
      .obj [("state", .str "retested"), ("result", .str req.testResult), ("asset_ids", Json.texts req.testAssetIds),
        ("at", .str (isoformat now)), ("actor", .str req.testerId)]])),
    ("last_test_result", .str req.testResult),
    ("closed_by", if req.testResult = "pass" then .str req.testerId else .null)]
  evidenceAssetIdsJson := sortedSet id (row.evidenceAssetIdsJson ++ req.correctionAssetIds ++ req.testAssetIds) }

/-- `correct_and_retest` -/
def correctAndRetest (db : ConstructionDb) (now : Nat) (req : RetestRequest) : Except Raised (ConstructionDb × RetestResult) := do
  let (row, history) ← readRetest db req
  let row := retested row history now req
  return ({ db with records := db.records.set row }, ⟨req.deficiencyId, row.state, req.testResult, history.length + 2⟩)

end LegacyAdapters

end ConstructionService

end Sip
