import Sip.LiveForever.Database

/-!
# The LiveForever service

Granting and revoking consent, and the three calls that write memory records: creating
one, reviewing one and revising one. A revision goes through creation and is a second
transaction after it. `visible_records` selects row by row what an audience may see.
-/

namespace Sip

set_option autoImplicit false

structure GrantRequest where
  tenantId : String
  projectId : String
  subjectId : String
  grantedBy : String
  purposes : List String
  audiences : List Audience
  scopes : List String
  derivativePolicy : Dict
  expiresAt : Option Nat

structure RevokeRequest where
  grantId : String
  tenantId : String
  projectId : String
  actorId : String
  reason : String

structure RecordRequest where
  tenantId : String
  projectId : String
  recordType : String
  subjectId : Option String
  relatedIds : List String
  data : Dict
  sourceClass : SourceClass
  confidence : PyFloat
  evidenceAssetIds : List String
  audience : Audience
  actorId : String
  purpose : String := "preservation"
  generatedLineage : Option Dict := none
  subjectScope : Option Dict := none

structure ReviewRequest where
  recordId : String
  tenantId : String
  projectId : String
  reviewerId : String
  targetSourceClass : SourceClass
  rationale : String
  evidenceAssetIds : List String
  confidence : PyFloat
  idempotencyKey : String

structure RevisionRequest where
  recordId : String
  tenantId : String
  projectId : String
  editorId : String
  correctionType : String
  reason : String
  changes : Dict
  audience : Option Audience := none
  purpose : String := "family_review"

structure RevocationResult where
  grantId : String
  affectedRecords : Nat
  affectedDerivatives : Nat
  idempotentReplay : Bool

structure RecordReviewResult where
  reviewId : String
  sourceRecordId : String
  reviewedRecordId : String
  sourceClass : SourceClass
  reviewerId : String
  reviewHash : String
  idempotentReplay : Bool

/-- What a call draws: the identifiers of the rows it inserts, besides a stamp for each transaction that writes. -/
structure LiveForeverStamp extends Stamp where
  newId : String
  reviewId : String := ""
  later : Stamp := ⟨0, ""⟩

namespace LiveForeverService

variable (svc : AuditService) (py : PyScalars)

section Writes

/-- What `_record` is told about a change. -/
structure Entry where
  tenantId : String
  projectId : String
  actorId : String
  action : String
  resourceType : String
  resourceId : String
  details : Dict
  eventType : String
  aggregateType : String

def Entry.audit (entry : Entry) : AuditRequest where
  tenantId := entry.tenantId
  projectId := some entry.projectId
  actorId := entry.actorId
  action := entry.action
  resourceType := entry.resourceType
  resourceId := entry.resourceId
  outcome := "allowed"
  details := some entry.details

def Entry.event (entry : Entry) : EventRequest where
  eventType := entry.eventType
  schemaVersion := "1.0.0"
  tenantId := entry.tenantId
  projectId := entry.projectId
  aggregateType := entry.aggregateType
  aggregateId := entry.resourceId
  payload := ("resource_id", .str entry.resourceId) :: entry.details
  producer := "liveforever"
  actorId := some entry.actorId
  workloadIdentity := none

/-- `_record`. -/
def record (db : LiveForeverDb) (stamp : Stamp) (entry : Entry) : Except Raised LiveForeverDb := do
  let s ← db.toStore.record svc stamp entry.audit
  let s ← s.emit stamp entry.event
  return { db with toStore := s }

def insertRecord (db : LiveForeverDb) (row : LiveForeverRecordRow) : Except Raised LiveForeverDb := do
  let records ← orRaise (db.records.insert? row) (.integrityError "memory_records.record_id")
  return { db with records }

/-- `_scoped` of a memory record. -/
def scopedRecord (db : LiveForeverDb) (recordId tenantId projectId : String) : Except Raised LiveForeverRecordRow := do
  let row ← orRaise (db.records.get? recordId) (notFoundError "memory_record" recordId)
  raiseIf (row.tenantId ≠ tenantId ∨ row.projectId ≠ projectId) (notFoundError "memory_record" recordId)
  return row

end Writes

section Grants

def texts (values : List String) : Json := .arr (values.map .str)

def GrantRequest.row (req : GrantRequest) (grantId : String) : SubjectGrantRow where
  grantId := grantId
  tenantId := req.tenantId
  projectId := req.projectId
  purposesJson := sortedSet id req.purposes
  audiencesJson := sortedSet id (req.audiences.map Audience.value)
  scopesJson := sortedSet id req.scopes
  expiresAt := req.expiresAt
  revokedAt := none
  derivativePolicyJson := req.derivativePolicy
  subjectId := req.subjectId
  grantedBy := req.grantedBy

def grantEntry (row : SubjectGrantRow) : Entry where
  tenantId := row.tenantId
  projectId := row.projectId
  actorId := row.grantedBy
  action := "consent:grant"
  resourceType := "consent_grant"
  resourceId := row.grantId
  details := [("subject_id", .str row.subjectId), ("purposes", texts row.purposesJson),
    ("audiences", texts row.audiencesJson), ("scopes", texts row.scopesJson)]
  eventType := "liveforever.consent.granted"
  aggregateType := "consent_grant"

def grantConsent (db : LiveForeverDb) (stamp : LiveForeverStamp) (req : GrantRequest) :
    Except Raised (String × LiveForeverDb) := do
  raiseIf (stripText req.subjectId = "")
    (validationError "CONSENT_SUBJECT_REQUIRED" "consent requires a non-empty subject identifier")
  raiseIf (req.purposes = [] ∨ req.audiences = [] ∨ req.scopes = [])
    (validationError "CONSENT_SCOPE_REQUIRED" "consent requires purpose, audience, and scope")
  raiseIf (req.expiresAt.any fun expiry => expiry ≤ stamp.now)
    (validationError "CONSENT_EXPIRY_INVALID" "consent cannot be created already expired")
  let grants ← orRaise (db.grants.insert? (GrantRequest.row req stamp.newId)) (.integrityError "consent_grants.grant_id")
  let db ← record svc { db with grants } stamp.toStamp (grantEntry (GrantRequest.row req stamp.newId))
  return (stamp.newId, db)

/-- The record is about the person whose grant is revoked. -/
def affected (grant : SubjectGrantRow) (row : LiveForeverRecordRow) : Bool :=
  row.tenantId = grant.tenantId ∧ row.projectId = grant.projectId ∧ row.subjectId = some grant.subjectId

def revokedData (grantId reason : String) (data : Dict) : Dict := data.update [
  ("access_state", .str "consent_revoked_review_required"),
  ("revoked_grant_id", .str grantId),
  ("revocation_reason", .str reason),
  ("derivative_access_disabled", .bool true)]

def withdrawRecord (grant : SubjectGrantRow) (reason : String) (row : LiveForeverRecordRow) : LiveForeverRecordRow :=
  if affected grant row then { row with dataJson := revokedData grant.grantId reason row.dataJson } else row

def withdrawGovernance (grant : SubjectGrantRow) (now : Nat) (actorId : String) (row : LiveForeverGovernanceRow) :
    LiveForeverGovernanceRow :=
  if row.tenantId = grant.tenantId ∧ row.projectId = grant.projectId ∧ row.consentGrantId = some grant.grantId then
    { row with state := "revoked", revokedAt := some now, revokedBy := some actorId, freezeHighRisk := true }
  else row

def derives (grant : SubjectGrantRow) (row : LiveForeverDerivativeRow) : Bool :=
  row.tenantId = grant.tenantId ∧ row.projectId = grant.projectId ∧
    (grant.grantId ∈ row.consentGrantIdsJson ∨ grant.subjectId ∈ row.subjectIdsJson)

def withdrawDerivative (grant : SubjectGrantRow) (reason : String) (row : LiveForeverDerivativeRow) :
    LiveForeverDerivativeRow :=
  if derives grant row then { row with
    state := "withdrawn"
    withdrawalAction := some "disable_access_and_queue_deletion_review"
    policyJson := row.policyJson.update [("revoked_grant_id", .str grant.grantId), ("revocation_reason", .str reason),
      ("access_disabled", .bool true)] }
  else row

/-- The rows after a revocation. -/
def withdraw (db : LiveForeverDb) (grant : SubjectGrantRow) (now : Nat) (actorId reason : String) : LiveForeverDb := { db with
  grants := db.grants.set { grant with state := "revoked", revokedAt := some now, revokedBy := some actorId }
  records := db.records.mapRows (withdrawRecord grant reason) fun r => by unfold withdrawRecord; split <;> rfl
  governance := db.governance.mapRows (withdrawGovernance grant now actorId)
    fun r => by unfold withdrawGovernance; split <;> rfl
  derivatives := db.derivatives.mapRows (withdrawDerivative grant reason)
    fun r => by unfold withdrawDerivative; split <;> rfl }

def revokeEntry (grant : SubjectGrantRow) (actorId reason : String) (records derivatives : Nat) : Entry where
  tenantId := grant.tenantId
  projectId := grant.projectId
  actorId := actorId
  action := "consent:revoke"
  resourceType := "consent_grant"
  resourceId := grant.grantId
  details := [("reason", .str reason), ("affected_records", .int records), ("affected_derivatives", .int derivatives)]
  eventType := "liveforever.consent.revoked"
  aggregateType := "consent_grant"

def revokeConsent (db : LiveForeverDb) (stamp : LiveForeverStamp) (req : RevokeRequest) :
    Except Raised (RevocationResult × LiveForeverDb) := do
  let grant ← orRaise (db.grants.get? req.grantId) (notFoundError "consent_grant" req.grantId)
  raiseIf (grant.tenantId ≠ req.tenantId ∨ grant.projectId ≠ req.projectId) (notFoundError "consent_grant" req.grantId)
  if grant.state = "revoked" then return (⟨req.grantId, 0, 0, true⟩, db)
  else do
    let records := db.records.rows.countP (affected grant)
    let derivatives := db.derivatives.rows.countP (derives grant)
    let db ← record svc (withdraw db grant stamp.now req.actorId req.reason) stamp.toStamp
      (revokeEntry grant req.actorId req.reason records derivatives)
    return (⟨req.grantId, records, derivatives, false⟩, db)

end Grants

section Creation

/-- The scope of a record that is about no person. -/
structure SubjectScope where
  kind : String
  scopeId : String
  consentBasis : String
  relatedSubjectIds : List String

def SubjectScope.json (scope : SubjectScope) : Json := .obj [
  ("kind", .str scope.kind), ("scope_id", .str scope.scopeId), ("consent_basis", .str scope.consentBasis),
  ("related_subject_ids", texts scope.relatedSubjectIds)]

def subjectlessTypes : List String := ["place", "object", "event", "timeline", "theme"]

def consentBases : List String := [
  "non_personal_subject", "public_record", "documented_owner_authority", "documented_family_authority"]

/-- The scope of a record without a subject, with whitespace taken off and repetitions removed. -/
def subjectScope (recordType : String) (scope : Option Dict) : Except Raised SubjectScope := do
  raiseIf (recordType ∉ subjectlessTypes ∨ (scope.getD []).isEmpty)
    (validationError "MEMORY_SUBJECT_SCOPE_REQUIRED"
      "subject-less records require an explicit non-person subject_scope and an eligible record type"
      [("eligible_record_types", texts (sortBy id subjectlessTypes))])
  let fields := scope.getD []
  let part := fun key => stripped py (either (fields.get key) (.str ""))
  let related ← ((fields.get? "related_subject_ids").getD (.arr [])).iterate
  let scope : SubjectScope := {
    kind := part "kind"
    scopeId := part "scope_id"
    consentBasis := part "consent_basis"
    relatedSubjectIds := sortedSet id ((related.map (stripped py)).filter fun text => text ≠ "") }
  raiseIf (scope.kind = "" ∨ scope.scopeId = "")
    (validationError "MEMORY_SUBJECT_SCOPE_INVALID" "subject_scope requires kind and scope_id")
  raiseIf (scope.consentBasis ∉ consentBases)
    (validationError "MEMORY_SUBJECT_SCOPE_CONSENT_BASIS" "subject_scope requires an explicit governed consent basis"
      [("allowed", texts (sortBy id consentBases))])
  return scope

def lineageHashes : List String := ["model_checkpoint_hash", "prompt_hash", "output_hash"]

def lineageKeys : List String := [
  "model_manifest_id", "model_checkpoint_hash", "prompt_hash", "input_asset_ids", "output_hash"]

/-- `_validate_generated_lineage`, with the input assets it names. -/
def validateGeneratedLineage (value : Option Dict) : Except Raised (Dict × List String) := do
  let fields := value.getD []
  raiseIf fields.isEmpty
    (validationError "GENERATED_LINEAGE_REQUIRED" "generated record requires model, prompt, input, and output lineage")
  let missing := sortBy id (lineageKeys.filter fun key => (fields.get? key).isNone)
  raiseIf (missing ≠ [])
    (validationError "GENERATED_LINEAGE_INCOMPLETE" "generated lineage is incomplete" [("missing", texts missing)])
  lineageHashes.forM fun key =>
    raiseIf (isDigest (py.str (fields.get key)) = false)
      (validationError "GENERATED_LINEAGE_HASH" (key ++ " must be a SHA-256 digest"))
  let items ← ((fields.get? "input_asset_ids").getD (.arr [])).iterate
  let inputs := (items.map (stripped py)).filter fun text => text ≠ ""
  raiseIf (inputs = [])
    (validationError "GENERATED_LINEAGE_INPUTS_REQUIRED" "generated lineage requires immutable input assets")
  return (fields.set "input_asset_ids" (texts (sortedSet id inputs)), sortedSet id inputs)

/-- Whom a record is about and what that allows: the subject with its consent, or a scope. -/
structure Subject where
  subjectId : Option String
  scope : Option SubjectScope
  consentContext : Dict

/-- The consent checks of `create_record`: the related persons of a scope, or the subject. -/
def checkSubject (db : LiveForeverDb) (now : Nat) (req : RecordRequest) : Except Raised Subject :=
  let use : Use := ⟨req.purpose, req.audience, req.recordType⟩
  match req.subjectId.map stripText with
  | none => do
    let scope ← subjectScope py req.recordType req.subjectScope
    scope.relatedSubjectIds.forM fun relatedId => do
      let _ ← requireConsent db now req.tenantId req.projectId relatedId use
    return ⟨none, some scope, []⟩
  | some subjectId => do
    let grant ← requireConsent db now req.tenantId req.projectId subjectId use
    enforceHighRiskFreeze db req.tenantId req.projectId subjectId
      (if req.sourceClass = .generated then "generated" else "record")
    return ⟨some subjectId, none, [("grant_id", .str grant.grantId), ("purpose", .str req.purpose),
      ("audience", .str req.audience.value), ("scope", .str req.recordType), ("evaluated_at", .str (isoformat now))]⟩

def sourceLabel (req : RecordRequest) : Except Raised String := do
  let label := py.str (either (req.data.get "source_label") (.str (defaultSourceLabel req.sourceClass)))
  raiseIf (label ∉ sourceLabels)
    (validationError "MEMORY_SOURCE_LABEL" "memory source label is not part of the governed truth legend"
      [("source_label", .str label), ("allowed", texts (sortBy id sourceLabels))])
  raiseIf (label = "verified" ∨ label = "corroborated_synthesis")
    (validationError "MEMORY_TRUTH_LABEL_REVIEW_REQUIRED"
      "verified and corroborated truth labels require a governed independent review")
  return label

def generatedLabel : String := "AI-GENERATED RECONSTRUCTION — NOT A HISTORICAL FACT"

/-- The document of a new record. -/
def recordData (req : RecordRequest) (recordId label : String) (time : Dict) (subject : Subject) : Except Raised Dict := do
  let data := req.data
  let name := either (either (either (data.get "working_label") (data.get "title")) (data.get "name")) (data.get "label")
  let themes ← listOr (data.get "themes")
  let assertions ← listOr (data.get "assertions")
  let fields := data.update [
    ("working_label", .str (py.str (either name (.str (req.recordType ++ ":" ++ String.ofList (recordId.toList.take 8)))))),
    ("contributor_id", .str (py.str (either (data.get "contributor_id") (.str req.actorId)))),
    ("source_label", .str label),
    ("time_expression", .obj time),
    ("themes", .arr themes),
    ("emotional_sensitivity", (data.get? "emotional_sensitivity").getD (.str "unspecified")),
    ("assertions", .arr assertions),
    ("consent_context", either (data.get "consent_context") (.obj subject.consentContext)),
    ("subject_scope", (subject.scope.map SubjectScope.json).getD .null),
    ("status", (data.get? "status").getD (.str "active")),
    ("access_state", .str "active")]
  return if req.sourceClass = .generated then fields.set "generated_label" (.str generatedLabel) else fields

def recordRow (req : RecordRequest) (recordId : String) (now : Nat) (subject : Subject) (data : Dict)
    (lineage : Option Dict) : LiveForeverRecordRow where
  recordId := recordId
  tenantId := req.tenantId
  projectId := req.projectId
  recordType := req.recordType
  subjectId := subject.subjectId
  relatedIdsJson := sortedSet id req.relatedIds
  dataJson := data
  sourceClass := req.sourceClass
  confidence := req.confidence
  evidenceAssetIdsJson := sortedSet id req.evidenceAssetIds
  audience := req.audience
  generatedLineageJson := lineage
  createdBy := req.actorId
  createdAt := now

def recordEntry (row : LiveForeverRecordRow) (label : String) : Entry where
  tenantId := row.tenantId
  projectId := row.projectId
  actorId := row.createdBy
  action := "liveforever:record_create"
  resourceType := "memory_record"
  resourceId := row.recordId
  details := [("record_type", .str row.recordType), ("source_class", .str row.sourceClass.value),
    ("source_label", .str label), ("audience", .str row.audience.value)]
  eventType := "liveforever.memory.recorded"
  aggregateType := "memory_record"

/-- The lineage that a record keeps and the assets it was generated from; other records keep what they are given. -/
def lineageOf (req : RecordRequest) : Except Raised (Option Dict × List String) :=
  if req.sourceClass = .generated then do
    let (lineage, inputs) ← validateGeneratedLineage py req.generatedLineage
    return (some lineage, inputs)
  else .ok (req.generatedLineage, [])

/-- The checks at the head of `create_record`. -/
def checkRecord (req : RecordRequest) : Except Raised Unit := do
  raiseIf (req.recordType ∉ memoryTypes) (validationError "MEMORY_RECORD_TYPE" "unsupported LiveForever record type")
  raiseIf (¬ (0 ≤ req.confidence.value ∧ req.confidence.value ≤ 1))
    (validationError "MEMORY_CONFIDENCE" "confidence must be between zero and one")
  raiseIf (req.subjectId.map stripText = some "")
    (validationError "MEMORY_SUBJECT_BLANK"
      "blank subject identifiers are prohibited; use an explicit governed subject_scope for non-person subjects")
  raiseIf (req.sourceClass = .corroborated ∨ req.sourceClass = .verified)
    (validationError "MEMORY_GOVERNED_REVIEW_REQUIRED"
      "corroborated and verified LiveForever records must be produced by the governed independent-review transition")

/-- The inputs of a generated record are immutable assets of the project. -/
def requireInputs (db : LiveForeverDb) (req : RecordRequest) (inputs : List String) : Except Raised Unit :=
  if req.sourceClass = .generated then
    requireScopedImmutableAssets db req.tenantId req.projectId inputs "GENERATED_LINEAGE_INPUT" true
  else .ok ()

/-- A record without a subject has its scope checked before the lineage. -/
def checkUnnamed (db : LiveForeverDb) (now : Nat) (req : RecordRequest) : Except Raised (Option Subject) :=
  if req.subjectId = none then some <$> checkSubject py db now req else .ok none

/-- A record with a subject has its consent checked after the lineage. -/
def checkNamed (db : LiveForeverDb) (now : Nat) (req : RecordRequest) (unnamed : Option Subject) : Except Raised Subject :=
  match unnamed with
  | some subject => .ok subject
  | none => checkSubject py db now req

def createRecord (db : LiveForeverDb) (stamp : LiveForeverStamp) (req : RecordRequest) :
    Except Raised (String × LiveForeverDb) := do
  checkRecord req
  let label ← sourceLabel py req
  let time ← normalizeTimeExpression py (req.data.get "time_expression")
  let unnamed ← checkUnnamed py db stamp.now req
  let lineage ← lineageOf py req
  let subject ← checkNamed py db stamp.now req unnamed
  let data ← recordData py req stamp.newId label time subject
  requireScopedImmutableAssets db req.tenantId req.projectId req.evidenceAssetIds "LIVEFOREVER_RECORD_EVIDENCE" false
  requireInputs db req lineage.2
  let db ← insertRecord db (recordRow req stamp.newId stamp.now subject data lineage.1)
  let db ← record svc db stamp.toStamp (recordEntry (recordRow req stamp.newId stamp.now subject data lineage.1) label)
  return (stamp.newId, db)

end Creation

section Review

/-- `_memory_payload`. -/
def memoryPayload (row : LiveForeverRecordRow) : Dict := [
  ("record_id", .str row.recordId),
  ("record_type", .str row.recordType),
  ("subject_id", .ofOption row.subjectId),
  ("related_ids", texts row.relatedIdsJson),
  ("data", .obj row.dataJson),
  ("source_class", .str row.sourceClass.value),
  ("source_label", (row.dataJson.get? "source_label").getD (.str "unknown")),
  ("confidence", .float row.confidence),
  ("evidence_asset_ids", texts row.evidenceAssetIdsJson),
  ("audience", .str row.audience.value),
  ("generated_lineage", (row.generatedLineageJson.map Json.obj).getD .null),
  ("contributor_id", .str row.createdBy),
  ("created_at", .str (isoformat row.createdAt)),
  ("status", (row.dataJson.get? "status").getD (.str "active"))]

def reviewBody (req : ReviewRequest) : Dict := [
  ("record_id", .str req.recordId),
  ("target_source_class", .str req.targetSourceClass.value),
  ("rationale", .str (stripText req.rationale)),
  ("evidence_asset_ids", texts (sortedSet id req.evidenceAssetIds)),
  ("confidence", .float req.confidence)]

def reviewResult (row : LiveForeverRecordReviewRow) (idempotentReplay : Bool) : RecordReviewResult where
  reviewId := row.reviewId
  sourceRecordId := row.sourceRecordId
  reviewedRecordId := row.reviewedRecordId
  sourceClass := row.targetSourceClass
  reviewerId := row.reviewerId
  reviewHash := row.reviewHash
  idempotentReplay := idempotentReplay

def minimumEvidence (target : SourceClass) : Nat := if target = .corroborated then 2 else 1

/-- The checks at the head of `review_record`. -/
def checkReview (req : ReviewRequest) : Except Raised Unit := do
  raiseIf (req.targetSourceClass ≠ .corroborated ∧ req.targetSourceClass ≠ .verified)
    (validationError "MEMORY_REVIEW_TARGET_INVALID"
      "governed record review may produce only corroborated or verified records")
  raiseIf ((sortedSet id req.evidenceAssetIds).length < minimumEvidence req.targetSourceClass)
    (validationError "MEMORY_REVIEW_EVIDENCE_INSUFFICIENT"
      "the requested truth class does not have enough independently identified immutable evidence"
      [("required", .int (minimumEvidence req.targetSourceClass))])
  raiseIf (stripText req.rationale = "" ∨ stripText req.idempotencyKey = "" ∨
      ¬ (0 ≤ req.confidence.value ∧ req.confidence.value ≤ 1))
    (validationError "MEMORY_REVIEW_INVALID" "review requires rationale, idempotency, and valid confidence")

/-- The row of the review itself. -/
def reviewRow (req : ReviewRequest) (stamp : LiveForeverStamp) (source : LiveForeverRecordRow) : LiveForeverRecordReviewRow where
  reviewId := stamp.reviewId
  tenantId := req.tenantId
  projectId := req.projectId
  sourceRecordId := source.recordId
  reviewedRecordId := stamp.newId
  idempotencyKey := req.idempotencyKey
  requestHash := canonicalSha256 (.obj (reviewBody req))
  reviewerId := req.reviewerId
  targetSourceClass := req.targetSourceClass
  rationale := stripText req.rationale
  evidenceAssetIdsJson := sortedSet id req.evidenceAssetIds
  confidence := req.confidence
  reviewHash := canonicalSha256 (.obj (reviewBody req ++ [("review_id", .str stamp.reviewId),
    ("reviewer_id", .str req.reviewerId), ("source_record_hash", .str (canonicalSha256 (.obj (memoryPayload source))))]))

/-- The record that a review produces. -/
def reviewedRow (req : ReviewRequest) (stamp : LiveForeverStamp) (source : LiveForeverRecordRow) : LiveForeverRecordRow where
  recordId := stamp.newId
  tenantId := req.tenantId
  projectId := req.projectId
  recordType := source.recordType
  subjectId := source.subjectId
  relatedIdsJson := sortedSet id (source.relatedIdsJson ++ [source.recordId])
  dataJson := source.dataJson.update [
    ("source_label", .str (if req.targetSourceClass = .corroborated then "corroborated_synthesis" else "verified")),
    ("revision_of", .str source.recordId),
    ("governed_review", .obj [("review_id", .str stamp.reviewId), ("reviewer_id", .str req.reviewerId),
      ("rationale", .str (stripText req.rationale)), ("evidence_asset_ids", texts (sortedSet id req.evidenceAssetIds)),
      ("review_hash", .str (reviewRow req stamp source).reviewHash), ("reviewed_at", .str (isoformat stamp.now))]),
    ("status", .str "active")]
  sourceClass := req.targetSourceClass
  confidence := req.confidence
  evidenceAssetIdsJson := sortedSet id (source.evidenceAssetIdsJson ++ req.evidenceAssetIds)
  audience := source.audience
  generatedLineageJson := source.generatedLineageJson
  createdBy := req.reviewerId
  createdAt := stamp.now

/-- The source once a review has taken its place. -/
def supersededRow (source : LiveForeverRecordRow) (now : Nat) (reviewedId : String) : LiveForeverRecordRow := { source with
  supersededAt := some now
  dataJson := source.dataJson.update [("status", .str "superseded"), ("superseded_by", .str reviewedId)] }

def insertReview (db : LiveForeverDb) (row : LiveForeverRecordReviewRow) : Except Raised LiveForeverDb := do
  raiseIf (db.reviews.rows.any fun other => other.tenantId = row.tenantId ∧ other.projectId = row.projectId ∧
      other.idempotencyKey = row.idempotencyKey) (.integrityError "uq_liveforever_record_review_idempotency")
  raiseIf (db.reviews.rows.any fun other => other.tenantId = row.tenantId ∧ other.projectId = row.projectId ∧
      other.reviewedRecordId = row.reviewedRecordId) (.integrityError "uq_liveforever_record_review_result")
  let reviews ← orRaise (db.reviews.insert? row) (.integrityError "liveforever_record_reviews.review_id")
  return { db with reviews }

def reviewEntry (row : LiveForeverRecordReviewRow) : Entry where
  tenantId := row.tenantId
  projectId := row.projectId
  actorId := row.reviewerId
  action := "liveforever:record_review"
  resourceType := "liveforever_record_review"
  resourceId := row.reviewId
  details := [("source_record_id", .str row.sourceRecordId), ("reviewed_record_id", .str row.reviewedRecordId),
    ("target_source_class", .str row.targetSourceClass.value), ("review_hash", .str row.reviewHash)]
  eventType := "liveforever.memory.reviewed"
  aggregateType := "liveforever_record_review"

/-- What a review that is no replay requires of the record. -/
def reviewable (db : LiveForeverDb) (now : Nat) (req : ReviewRequest) : Except Raised LiveForeverRecordRow := do
  let source ← scopedRecord db req.recordId req.tenantId req.projectId
  raiseIf (source.supersededAt ≠ none)
    (conflictError "MEMORY_REVIEW_SOURCE_SUPERSEDED" "superseded records cannot be reviewed again")
  raiseIf (req.reviewerId = source.createdBy)
    (validationError "MEMORY_INDEPENDENT_REVIEWER_REQUIRED"
      "the contributor of a LiveForever record may not independently corroborate or verify it")
  requireScopedImmutableAssets db req.tenantId req.projectId req.evidenceAssetIds "LIVEFOREVER_REVIEW_EVIDENCE" true
  match given source.subjectId with
  | none => return source
  | some subjectId => do
    let _ ← requireConsent db now req.tenantId req.projectId subjectId ⟨"family_review", source.audience, source.recordType⟩
    return source

def reviewRecord (db : LiveForeverDb) (stamp : LiveForeverStamp) (req : ReviewRequest) :
    Except Raised (RecordReviewResult × LiveForeverDb) := do
  checkReview req
  let prior := db.reviews.rows.find? fun row => row.tenantId = req.tenantId ∧ row.projectId = req.projectId ∧
    row.idempotencyKey = req.idempotencyKey
  match prior with
  | some prior => do
    raiseIf (prior.requestHash ≠ canonicalSha256 (.obj (reviewBody req)))
      (conflictError "MEMORY_REVIEW_IDEMPOTENCY_CONFLICT" "review idempotency key was reused")
    return (reviewResult prior true, db)
  | none => do
    let source ← reviewable db stamp.now req
    let db ← insertRecord db (reviewedRow req stamp source)
    let db ← insertReview db (reviewRow req stamp source)
    let db := { db with records := db.records.set (supersededRow source stamp.now stamp.newId) }
    let db ← record svc db stamp.toStamp (reviewEntry (reviewRow req stamp source))
    return (reviewResult (reviewRow req stamp source) false, db)

end Review

section Revision

/-- What a revision hashes of the original. -/
def originalPayload (row : LiveForeverRecordRow) : Dict := [
  ("record_id", .str row.recordId),
  ("record_type", .str row.recordType),
  ("subject_id", .ofOption row.subjectId),
  ("related_ids", texts row.relatedIdsJson),
  ("data", .obj row.dataJson),
  ("source_class", .str row.sourceClass.value),
  ("confidence", .float row.confidence),
  ("evidence_asset_ids", texts row.evidenceAssetIdsJson),
  ("audience", .str row.audience.value),
  ("generated_lineage", (row.generatedLineageJson.map Json.obj).getD .null),
  ("created_by", .str row.createdBy),
  ("created_at", .str (isoformat row.createdAt))]

def disputes (correctionType : String) : Bool :=
  correctionType = "factual_correction" ∨ correctionType = "alternate_interpretation"

def revisedData (original : LiveForeverRecordRow) (now : Nat) (req : RevisionRequest) : Dict :=
  let data := (original.dataJson.update req.changes).update [
    ("revision_of", .str req.recordId),
    ("correction", .obj [("type", .str req.correctionType), ("reason", .str req.reason),
      ("editor_id", .str req.editorId), ("original_hash", .str (canonicalSha256 (.obj (originalPayload original)))),
      ("created_at", .str (isoformat now))]),
    ("status", .str (if req.correctionType = "consent_restriction" then "restricted" else "active"))]
  let data := if original.sourceClass = .corroborated ∨ original.sourceClass = .verified then
      data.update [("source_label", .str "disputed"), ("review_required", .bool true)]
    else data
  if disputes req.correctionType then data.set "source_label" (.str "disputed") else data

/-- A correction of a reviewed record is a new claim, and a factual one disputes the original. -/
def revisedClass (original : LiveForeverRecordRow) (req : RevisionRequest) : SourceClass :=
  if original.sourceClass = .corroborated ∨ original.sourceClass = .verified ∨ disputes req.correctionType then .disputed
  else original.sourceClass

/-- `original["data"].get("subject_scope")`. -/
def storedScope (original : LiveForeverRecordRow) : Option Dict := (original.dataJson.get "subject_scope").fields?

/-- What the revision asks `create_record` for. -/
def revisionRecord (original : LiveForeverRecordRow) (now : Nat) (req : RevisionRequest) : RecordRequest where
  tenantId := req.tenantId
  projectId := req.projectId
  recordType := original.recordType
  subjectId := original.subjectId
  relatedIds := sortedSet id (original.relatedIdsJson ++ [req.recordId])
  data := revisedData original now req
  sourceClass := revisedClass original req
  confidence := original.confidence
  evidenceAssetIds := original.evidenceAssetIdsJson
  audience := req.audience.getD original.audience
  actorId := req.editorId
  purpose := req.purpose
  generatedLineage := original.generatedLineageJson
  subjectScope := storedScope original

def reviseEntry (req : RevisionRequest) (revisedId : String) : Entry where
  tenantId := req.tenantId
  projectId := req.projectId
  actorId := req.editorId
  action := "liveforever:record_revise"
  resourceType := "memory_record"
  resourceId := revisedId
  details := [("supersedes_record_id", .str req.recordId), ("correction_type", .str req.correctionType),
    ("original_preserved", .bool true)]
  eventType := "liveforever.memory.recorded"
  aggregateType := "memory_record"

/-- The first two transactions of `revise_record`: reading the original and creating the revision. -/
def createRevision (db : LiveForeverDb) (stamp : LiveForeverStamp) (req : RevisionRequest) :
    Except Raised (String × LiveForeverDb) := do
  raiseIf (req.correctionType ∉ correctionTypes)
    (validationError "MEMORY_CORRECTION_TYPE" "unsupported correction type"
      [("allowed", texts (sortBy id correctionTypes))])
  raiseIf (stripText req.reason = "" ∨ req.changes = [])
    (validationError "MEMORY_CORRECTION_INVALID" "a correction requires a reason and explicit changes")
  let original ← scopedRecord db req.recordId req.tenantId req.projectId
  createRecord svc py db stamp (revisionRecord original stamp.now req)

/-- Its last transaction. -/
def recordRevision (db : LiveForeverDb) (stamp : LiveForeverStamp) (req : RevisionRequest) (revisedId : String) :
    Except Raised LiveForeverDb := do
  let _ ← scopedRecord db req.recordId req.tenantId req.projectId
  record svc db stamp.later (reviseEntry req revisedId)

/-- `revise_record`: the revision stays even if recording it afterwards fails. -/
def reviseRecord (db : LiveForeverDb) (stamp : LiveForeverStamp) (req : RevisionRequest) :
    LiveForeverDb × Except Raised String :=
  match createRevision svc py db stamp req with
  | .error e => (db, .error e)
  | .ok (revisedId, created) => match recordRevision svc created stamp req revisedId with
    | .error e => (created, .error e)
    | .ok db => (db, .ok revisedId)

end Revision

section Reading

/-- `_allowed_record_audiences`. -/
def allowedRecordAudiences : Audience → List Audience
  | .private => [.private, .family, .public]
  | .family => [.family, .public]
  | .public => [.public]
  | .project => [.project, .public]
  | .owner => [.owner, .project, .public]

/-- The rows that `visible_records` keeps. -/
def visibleRows (db : LiveForeverDb) (now : Nat) (tenantId projectId : String) (audience : Audience) (purpose : String)
    (subjectId : Option String) : List LiveForeverRecordRow :=
  let rows := db.records.rows.filter fun row => row.tenantId = tenantId ∧ row.projectId = projectId ∧
    row.supersededAt = none ∧ (given subjectId = none ∨ row.subjectId = given subjectId)
  rows.filter fun row => row.audience ∈ allowedRecordAudiences audience ∧
    (row.dataJson.get "derivative_access_disabled").truthy = false ∧
    ((given row.subjectId).all fun subject =>
      (requireConsent db now tenantId projectId subject ⟨purpose, audience, row.recordType⟩).isOk)

def visibleRecords (db : LiveForeverDb) (now : Nat) (tenantId projectId : String) (audience : Audience) (purpose : String)
    (subjectId : Option String := none) : List Dict :=
  (visibleRows db now tenantId projectId audience purpose subjectId).map memoryPayload

end Reading

section Histories

/-- A call that changes the state. -/
inductive Call where
  | grantConsent (req : GrantRequest)
  | revokeConsent (req : RevokeRequest)
  | createRecord (req : RecordRequest)
  | reviewRecord (req : ReviewRequest)
  | reviseRecord (req : RevisionRequest)

/-- A call and what it draws. -/
structure Act where
  call : Call
  stamp : LiveForeverStamp

/-- What a call leaves; one that raises inside its only transaction leaves what it found. -/
def perform (db : LiveForeverDb) (act : Act) : LiveForeverDb :=
  match act.call with
  | .grantConsent req => ((grantConsent svc db act.stamp req).map Prod.snd).toOption.getD db
  | .revokeConsent req => ((revokeConsent svc db act.stamp req).map Prod.snd).toOption.getD db
  | .createRecord req => ((createRecord svc py db act.stamp req).map Prod.snd).toOption.getD db
  | .reviewRecord req => ((reviewRecord svc db act.stamp req).map Prod.snd).toOption.getD db
  | .reviseRecord req => (reviseRecord svc py db act.stamp req).1

end Histories

end LiveForeverService

end Sip
