import Sip.Archive.Writing
import Sip.Construction.OwnerPackage

/-!
# Handing out owner packages

A handoff builds a package once for its key and request and retains it; later calls with
the key and the request get the retained package. The restricted annex needs an approval,
which is looked at when the package is built.
-/

namespace Sip

set_option autoImplicit false
open CapturePackage (pathParts)
open ArchiveSafety

/-- A file, and the members it has as an archive if it is one. -/
structure HandoffFile where
  bytes : Bytes
  entries : Option (List ZipMember)

/-- The ZIP library and the strict JSON reader. -/
structure HandoffRuntime where
  /-- The size that deflating leaves of a member. -/
  deflatedSize : Bytes → Nat
  /-- The bytes of the archive of some members. -/
  archive : List (String × Bytes) → Bytes
  /-- `json.loads(data, object_pairs_hook=_strict_json_object)`, or an error. -/
  strictLoads : Bytes → Option Json

structure PackageValidation where
  valid : Bool
  findings : List Json
  rootHash : String
  checkedMembers : Nat
  archiveMembers : Nat
  zipSha256 : String
  memberCount : Nat

inductive HandoffStatus where
  | building | verified | failed
  deriving DecidableEq

def HandoffStatus.value : HandoffStatus → String
  | .building => "building"
  | .verified => "verified"
  | .failed => "failed"

structure ConstructionHandoffRow where
  handoffId : String
  tenantId : String
  projectId : String
  idempotencyKey : String
  requestHash : String
  scopeJson : Dict
  acceptedSceneCommitId : Option String
  inventoryJson : List Json := []
  verifiedAttributesJson : Dict := []
  documentsJson : List Json := []
  testsJson : List Json := []
  warrantiesJson : List Json
  trainingJson : List Json
  openIssuesJson : List Json := []
  exclusionsJson : List String
  exportsJson : List Json := []
  audienceProfilesJson : Dict
  checksumsJson : List (String × String) := []
  rootHash : String := ""
  packagePath : Option String := none
  status : HandoffStatus := .building
  validationJson : Option PackageValidation := none
  createdBy : String

structure ConstructionRestrictedExportApprovalRow where
  approvalId : String
  tenantId : String
  projectId : String
  requestHash : String
  scopeJson : Dict
  classification : String
  audience : String
  purpose : String
  approverId : String
  expiresAt : Nat
  approvalHash : String

/-- The tables of the service and the files of the host. -/
structure HandoffDb extends FacilityDb where
  handoffs : Table ConstructionHandoffRow (fun row => row.handoffId)
  approvals : Table ConstructionRestrictedExportApprovalRow (fun row => row.approvalId)
  files : List (String × HandoffFile)

namespace ConstructionService

section Archive

def ownerHandoffMembers : List String := [
  "manifest.json", "checksums.json", "reports/technical.json", "reports/owner.json", "data/inventory.json",
  "data/documents.json", "data/issues.json", "data/commissioning.json", "data/interchange.json",
  "data/handoff-validation.json", "viewer/index.html", "README.txt"]

/-- `verify_owner_handoff` -/
def verifyOwnerHandoff (rt : HandoffRuntime) (file : Option HandoffFile) : Except Raised PackageValidation := do
  let file ← orRaise file (validationError "HANDOFF_MISSING" "handoff package does not exist")
  let members ← orRaise file.entries (.badZipFile "File is not a zip file")
  let names ← validateZipMembers "HANDOFF" {} members
  let report := verifyChecksumManifest rt.strictLoads ⟨ownerHandoffMembers, ownerHandoffMembers⟩ members names
  return {
    valid := report.valid, findings := report.findings, rootHash := report.rootHash
    checkedMembers := report.checkedMembers, archiveMembers := report.archiveMembers
    zipSha256 := sha256Hex file.bytes, memberCount := names.length }

/-- A file with these members. -/
def packMembers (rt : HandoffRuntime) (members : List (String × Bytes)) : HandoffFile where
  bytes := rt.archive members
  entries := some (written rt.deflatedSize members)

end Archive

section Approval
variable (svc : ConstructionService)

structure OwnerHandoffRequest extends HandoffRequest where
  destination : String
  actorId : String
  idempotencyKey : String
  classification : String := "internal"
  audience : String := "owner"
  purpose : String := "owner_handoff"
  restrictedExportApprovalId : Option String := none

/-- `_handoff_request_payload` -/
def handoffRequestPayload (req : HandoffRequest) (destinationName classification audience purpose : String) : Dict := [
  ("scope", .obj req.scopeJson), ("accepted_scene_commit_id", .ofOption req.acceptedSceneCommitId),
  ("warranties", .arr req.warranties), ("training", .arr req.training), ("exclusions", Json.texts req.exclusions),
  ("audience_profiles", .obj req.audienceProfiles), ("destination_name", .str destinationName),
  ("classification", .str classification), ("audience", .str audience), ("purpose", .str purpose)]

/-- `destination.name` -/
def pathName (path : String) : String := (pathParts path).getLast?.getD ""

def OwnerHandoffRequest.digest (req : OwnerHandoffRequest) : String := canonicalSha256 (.obj
  (handoffRequestPayload req.toHandoffRequest (pathName req.destination) req.classification req.audience req.purpose))

structure ApprovalRequest extends HandoffRequest where
  destinationName : String
  classification : String
  audience : String
  purpose : String
  approverId : String
  expiresAt : Nat

def ApprovalRequest.digest (req : ApprovalRequest) : String := canonicalSha256 (.obj
  (handoffRequestPayload req.toHandoffRequest req.destinationName req.classification req.audience req.purpose))

def ApprovalRequest.approvalHash (req : ApprovalRequest) : String := canonicalSha256 (.obj [
  ("tenant_id", .str req.tenantId), ("project_id", .str req.projectId), ("request_hash", .str (ApprovalRequest.digest req)),
  ("scope", .obj req.scopeJson), ("classification", .str req.classification), ("audience", .str req.audience),
  ("purpose", .str req.purpose), ("approver_id", .str req.approverId), ("expires_at", .str (isoformat req.expiresAt))])

def newApproval (approvalId : String) (req : ApprovalRequest) : ConstructionRestrictedExportApprovalRow where
  approvalId := approvalId
  tenantId := req.tenantId
  projectId := req.projectId
  requestHash := ApprovalRequest.digest req
  scopeJson := req.scopeJson
  classification := req.classification
  audience := req.audience
  purpose := req.purpose
  approverId := req.approverId
  expiresAt := req.expiresAt
  approvalHash := req.approvalHash

def approvalAction (approvalId : String) (req : ApprovalRequest) : RecordedAction where
  tenantId := req.tenantId
  projectId := req.projectId
  actorId := req.approverId
  action := "construction:restricted_export_approve"
  resourceType := "construction_restricted_export_approval"
  resourceId := approvalId
  details := [
    ("request_hash", .str (ApprovalRequest.digest req)), ("classification", .str req.classification),
    ("audience", .str req.audience), ("purpose", .str req.purpose), ("expires_at", .str (isoformat req.expiresAt))]
  eventType := "construction.restricted_export.approved"
  aggregateType := "construction_restricted_export_approval"

/-- The approval of a request by its approver, if there is one. -/
def existingApproval (db : HandoffDb) (req : ApprovalRequest) : Option ConstructionRestrictedExportApprovalRow :=
  db.approvals.rows.find? fun row => row.tenantId = req.tenantId ∧ row.projectId = req.projectId ∧
    row.requestHash = ApprovalRequest.digest req ∧ row.approverId = req.approverId

def checkApprovalRequest (now : Nat) (req : ApprovalRequest) : Except Raised Unit := do
  raiseIf (req.includesRestricted = false) (validationError "RESTRICTED_EXPORT_SCOPE_REQUIRED"
    "restricted-export approval requires an explicit restricted annex scope")
  raiseIf (bareText req.classification = "" ∨ bareText req.audience = "" ∨ bareText req.purpose = "")
    (validationError "RESTRICTED_EXPORT_CONTEXT_REQUIRED" "classification, audience, and purpose are required")
  raiseIf (req.expiresAt ≤ now) (validationError "RESTRICTED_EXPORT_APPROVAL_EXPIRED" "approval expiry must be in the future")

/-- `approve_restricted_export`: the approval, and whether it was there before. -/
def approveRestrictedExport (db : HandoffDb) (approvalId : String) (stamp : Stamp) (req : ApprovalRequest) :
    Except Raised (HandoffDb × ConstructionRestrictedExportApprovalRow × Bool) := do
  checkApprovalRequest stamp.now req
  requireCommit db.toConstructionDb req.tenantId req.projectId req.acceptedSceneCommitId
  match existingApproval db req with
  | some existing => do
    raiseIf (existing.approvalHash ≠ req.approvalHash) (conflictError "RESTRICTED_EXPORT_APPROVAL_CONFLICT"
      "an approval already exists for this request with different immutable context")
    return (db, existing, true)
  | none => do
    let row := newApproval approvalId req
    let approvals ← orRaise (db.approvals.insert? row) (.integrityError "construction_restricted_export_approvals.approval_id")
    let store ← svc.recordAction db.toStore stamp (approvalAction approvalId req)
    return ({ db with toStore := store, approvals }, row, false)

/-- The approval that a restricted export names, checked against the request, the time and the actor. -/
def checkApproval (db : HandoffDb) (now : Nat) (req : OwnerHandoffRequest) : Except Raised Unit := do
  let approvalId ← orRaise (given req.restrictedExportApprovalId) (authorizationError "RESTRICTED_EXPORT_APPROVAL_REQUIRED"
    "restricted owner export requires a current server-side approval record")
  let approval ← orRaise (db.approvals.get? approvalId) (notFoundError "restricted_export_approval" approvalId)
  raiseIf (approval.tenantId ≠ req.tenantId ∨ approval.projectId ≠ req.projectId)
    (notFoundError "restricted_export_approval" approvalId)
  raiseIf (approval.requestHash ≠ req.digest ∨
      canonicalSha256 (.obj approval.scopeJson) ≠ canonicalSha256 (.obj req.scopeJson) ∨
      approval.classification ≠ req.classification ∨ approval.audience ≠ req.audience ∨ approval.purpose ≠ req.purpose)
    (authorizationError "RESTRICTED_EXPORT_APPROVAL_MISMATCH" "restricted-export approval does not match this handoff request")
  raiseIf (approval.expiresAt ≤ now)
    (authorizationError "RESTRICTED_EXPORT_APPROVAL_EXPIRED" "restricted-export approval has expired")
  raiseIf (approval.approverId = req.actorId) (authorizationError "RESTRICTED_EXPORT_SEPARATION_OF_DUTIES"
    "the handoff requester cannot approve their own restricted export")

/-- `if include_restricted: ..` -/
def requireApproval (db : HandoffDb) (now : Nat) (req : OwnerHandoffRequest) : Except Raised Unit :=
  if req.includesRestricted then checkApproval db now req else .ok ()

end Approval

section Handoff
variable (svc : ConstructionService) (rt : HandoffRuntime)

structure HandoffResult where
  handoffId : String
  status : HandoffStatus
  packagePath : Option String
  rootHash : String
  validation : Option PackageValidation
  idempotentReplay : Bool

/-- `_handoff_result` -/
def handoffResult (row : ConstructionHandoffRow) (replay : Bool) : HandoffResult :=
  ⟨row.handoffId, row.status, row.packagePath, row.rootHash, row.validationJson, replay⟩

/-- `_idempotent(.., ConstructionHandoffRow, ..)` -/
def idempotentHandoff (db : HandoffDb) (req : OwnerHandoffRequest) : Except Raised (Option ConstructionHandoffRow) :=
  match db.handoffs.rows.find? fun row => row.tenantId = req.tenantId ∧ row.projectId = req.projectId ∧
    row.idempotencyKey = req.idempotencyKey with
  | none => .ok none
  | some prior => do
    raiseIf (prior.requestHash ≠ req.digest)
      (conflictError "IDEMPOTENCY_PAYLOAD_CONFLICT" "idempotency key was reused with different input")
    return some prior

/-- The file of a retained package. -/
def retainedFile (db : HandoffDb) (prior : ConstructionHandoffRow) : Option HandoffFile :=
  (given prior.packagePath).bind fun path => db.files.lookup path

/-- The retained package of a verified handoff is there and still the one that was verified. -/
def checkRetained (db : HandoffDb) (prior : ConstructionHandoffRow) : Except Raised Unit := do
  let file ← orRaise (retainedFile db prior) (conflictError "HANDOFF_REPLAY_PACKAGE_MISSING"
    "the retained verified handoff package is missing" [("handoff_id", .str prior.handoffId)])
  let validation ← verifyOwnerHandoff rt (some file)
  let retained := (prior.validationJson.map PackageValidation.zipSha256).getD ""
  raiseIf (validation.valid = false ∨ validation.rootHash ≠ prior.rootHash ∨ retained = "" ∨ validation.zipSha256 ≠ retained)
    (conflictError "HANDOFF_REPLAY_PACKAGE_CHANGED" "the retained handoff package no longer matches its verified identity"
      [("handoff_id", .str prior.handoffId), ("retained_root_hash", .str prior.rootHash),
       ("current_root_hash", .str validation.rootHash)])

/-- The handoff that is there for the key and the request, and, if it is verified, its package. -/
def findHandoff (db : HandoffDb) (req : OwnerHandoffRequest) : Except Raised (Option ConstructionHandoffRow) := do
  raiseIf (isTrue (req.audienceProfiles.get "restricted_owner_export_approved") = true)
    (validationError "RESTRICTED_EXPORT_CALLER_ASSERTION_PROHIBITED"
      "caller-controlled restricted-export approval flags are not authorization")
  let prior ← idempotentHandoff db req
  if prior.any (fun row => row.status = .verified) then prior.forM (checkRetained rt db)
  return prior

def newHandoff (handoffId : String) (req : OwnerHandoffRequest) : ConstructionHandoffRow where
  handoffId := handoffId
  tenantId := req.tenantId
  projectId := req.projectId
  idempotencyKey := req.idempotencyKey
  requestHash := req.digest
  scopeJson := req.scopeJson
  acceptedSceneCommitId := req.acceptedSceneCommitId
  warrantiesJson := req.warranties
  trainingJson := req.training
  exclusionsJson := req.exclusions
  audienceProfilesJson := req.audienceProfiles
  createdBy := req.actorId

/-- The table with the row of the handoff, and the row. -/
def handoffRow (db : HandoffDb) (handoffId : String) (req : OwnerHandoffRequest) (prior : Option ConstructionHandoffRow) :
    Except Raised (Table ConstructionHandoffRow (fun row => row.handoffId) × ConstructionHandoffRow) :=
  match prior with
  | some row => .ok (db.handoffs, row)
  | none => do
    requireCommit db.toConstructionDb req.tenantId req.projectId req.acceptedSceneCommitId
    let row := newHandoff handoffId req
    let handoffs ← orRaise (db.handoffs.insert? row) (.integrityError "construction_handoffs.handoff_id")
    return (handoffs, row)

/-- What is needed before a package is written: the row, the approval of the annex and the snapshot. -/
def prepareHandoff (db : HandoffDb) (handoffId : String) (now : Nat) (req : OwnerHandoffRequest)
    (prior : Option ConstructionHandoffRow) : Except Raised
      (Table ConstructionHandoffRow (fun row => row.handoffId) × ConstructionHandoffRow × HandoffSnapshot) := do
  let (handoffs, row) ← handoffRow db handoffId req prior
  requireApproval db now req
  let snapshot ← svc.handoffSnapshot (db.project req.tenantId req.projectId) now req.toHandoffRequest
  return (handoffs, row, snapshot)

/-- The row of a handoff after its package is written and verified. -/
def builtHandoff (row : ConstructionHandoffRow) (snapshot : HandoffSnapshot) (destination : String)
    (validation : PackageValidation) : ConstructionHandoffRow := { row with
  inventoryJson := snapshot.inventory.entries
  verifiedAttributesJson := snapshot.verifiedAttributes
  documentsJson := snapshot.documents
  testsJson := snapshot.commissioning
  openIssuesJson := snapshot.issues.filter fun item =>
    ¬ ((item.fields?.getD []).get "status").isText "verified_closed" ∧ ¬ ((item.fields?.getD []).get "status").isText "superseded"
  exportsJson := snapshot.interchange
  checksumsJson := snapshot.checksums
  rootHash := validation.rootHash
  packagePath := some destination
  status := if validation.valid then .verified else .failed
  validationJson := some validation }

def handoffAction (row : ConstructionHandoffRow) (req : OwnerHandoffRequest) : RecordedAction where
  tenantId := req.tenantId
  projectId := req.projectId
  actorId := req.actorId
  action := "construction:handoff_create"
  resourceType := "construction_handoff"
  resourceId := row.handoffId
  details := [("root_hash", .str row.rootHash), ("status", .str row.status.value)]
  eventType := "construction.handoff.created"
  aggregateType := "construction_handoff"

/-- The end of a handoff, with its package in place. -/
def finishHandoff (db : HandoffDb) (stamp : Stamp) (req : OwnerHandoffRequest)
    (handoffs : Table ConstructionHandoffRow (fun row => row.handoffId)) (row : ConstructionHandoffRow)
    (snapshot : HandoffSnapshot) : Except Raised (HandoffDb × HandoffResult) := do
  let validation ← verifyOwnerHandoff rt (db.files.lookup req.destination)
  let row := builtHandoff row snapshot req.destination validation
  let store ← svc.recordAction db.toStore stamp (handoffAction row req)
  return ({ db with toStore := store, handoffs := handoffs.set row }, handoffResult row false)

/-- The database with a file written. -/
def writeFile (db : HandoffDb) (path : String) (file : HandoffFile) : HandoffDb := { db with files := (path, file) :: db.files }

/-- `create_owner_handoff`. A package that has been written stays when the transaction is rolled back after it. -/
def createOwnerHandoff (db : HandoffDb) (handoffId : String) (stamp : Stamp) (req : OwnerHandoffRequest) :
    HandoffDb × Except Raised HandoffResult :=
  match findHandoff rt db req with
  | .error e => (db, .error e)
  | .ok prior =>
    match prior.filter fun row => row.status = .verified with
    | some row => (db, .ok (handoffResult row true))
    | none =>
      match svc.prepareHandoff db handoffId stamp.now req prior with
      | .error e => (db, .error e)
      | .ok (handoffs, row, snapshot) =>
        let db := writeFile db req.destination (packMembers rt snapshot.members)
        match svc.finishHandoff rt db stamp req handoffs row snapshot with
        | .error e => (db, .error e)
        | .ok (db, result) => (db, .ok result)

end Handoff

end ConstructionService

end Sip
