import Sip.Hybrid.Leases

/-!
# What a worker reports

Progress, a candidate or a failure. Each call verifies the token, checks the conversion
in a transaction of its own, drives the operation through the operation service and
writes the conversion in a last transaction, which does not look at its state again.
-/

namespace Sip

set_option autoImplicit false

/-- `ProviderProgressContract`. -/
structure ProgressReport where
  conversionId : String
  sequence : Int
  stage : String
  completedWorkUnits : PyFloat
  totalWorkUnits : Option PyFloat := none
  workUnitName : String
  resourceUse : Dict := []
  warnings : List String := []
  lastDurableCheckpointHash : Option String := none
  estimatedOutputBytes : Option Int := none

/-- The candidate that a worker submits. -/
structure CandidateReport where
  outputAssetId : String
  outputAssetSha256 : String
  outputRole : String
  kind : RepresentationKind
  coordinateFrameId : String
  sourceClass : SourceClass
  authorityClass : AuthorityClass
  lossy : Bool
  intendedUses : List String
  prohibitedUses : List String
  quality : Dict
  supportMap : Dict
  workerReceiptHash : String
  candidateCoreHash : String
  formatMetadata : Option Dict := none
  limitations : Option (List String) := none
  informationLosses : Option (List String) := none
  metadata : Option Dict := none

structure FailureReport where
  errorCode : String
  retryable : Bool
  cleanupReceiptHash : String
  cleanupVerified : Bool
  lastDurableCheckpointHash : Option String := none
  resourceUse : Option Dict := none

structure CandidateResult where
  conversionId : String
  representationId : String
  state : String
  idempotentReplay : Bool

structure FailureResult where
  conversionId : String
  operationId : String
  state : ConversionState
  failureHash : String
  cleanupReceiptHash : Option String
  preservedBindingIds : List String := []
  failure : Dict := []
  idempotentReplay : Bool

namespace HybridControl

section Progress
variable (svc : HybridControlService) (draw : HybridDraw)

/-- The constraints of `ProviderProgressContract`. -/
def progressValid (report : ProgressReport) : Prop :=
  1 ≤ report.sequence ∧ report.stage ≠ "" ∧ 0 ≤ report.completedWorkUnits.value ∧
    (∀ total ∈ report.totalWorkUnits, 0 < total.value ∧ report.completedWorkUnits.value ≤ total.value) ∧
    report.workUnitName ≠ "" ∧ (∀ hash ∈ report.lastDurableCheckpointHash, isDigest hash = true) ∧
    ∀ bytes ∈ report.estimatedOutputBytes, 0 ≤ bytes

instance (report : ProgressReport) : Decidable (progressValid report) := inferInstanceAs (Decidable (_ ∧ _))

def intOrNull (n : Option Int) : Json := (n.map Json.int).getD .null

/-- `contract.model_dump(mode="json")`. -/
def progressDocument (report : ProgressReport) : Dict := [
  ("conversion_id", .str report.conversionId), ("sequence", .int report.sequence), ("stage", .str report.stage),
  ("completed_work_units", .float report.completedWorkUnits),
  ("total_work_units", floatOrNull report.totalWorkUnits),
  ("work_unit_name", .str report.workUnitName), ("resource_use", .obj report.resourceUse),
  ("warnings", .texts report.warnings), ("last_durable_checkpoint_hash", .ofOption report.lastDurableCheckpointHash),
  ("estimated_output_bytes", intOrNull report.estimatedOutputBytes)]

/-- What a row was recorded for. -/
def recordedReport (row : ProviderProgressRow) : ProgressReport where
  conversionId := row.conversionId
  sequence := row.sequence
  stage := row.stage
  completedWorkUnits := row.completedWorkUnits
  totalWorkUnits := row.totalWorkUnits
  workUnitName := row.workUnitName
  resourceUse := row.resourceUseJson
  warnings := row.warningsJson
  lastDurableCheckpointHash := row.checkpointHash
  estimatedOutputBytes := row.estimatedOutputBytes

def sameReport (row : ProviderProgressRow) (report : ProgressReport) : Bool :=
  Json.pyEq (.obj (progressDocument (recordedReport row))) (.obj (progressDocument report))

/-- `ORDER BY sequence DESC LIMIT 1`. -/
def latestProgress? (db : HybridDb) (conversionId : String) : Option ProviderProgressRow :=
  @List.argmax _ Int Int.instLinearOrder.toPreorder Int.decLt ProviderProgressRow.sequence
    (db.progress.rows.filter fun row => row.conversionId = conversionId)

/-- The report against the latest one: whether it repeats that one. -/
def checkAgainstPrior (report : ProgressReport) : Option ProviderProgressRow → Except Raised Bool
  | none => .ok false
  | some prior =>
    if report.sequence = prior.sequence then do
      raiseIf (¬ sameReport prior report) (conflictError "HYB_PROGRESS_SEQUENCE_CONFLICT"
        "provider progress sequence is already bound to different evidence")
      return true
    else do
      raiseIf (report.sequence < prior.sequence) (conflictError "HYB_PROGRESS_SEQUENCE_NOT_MONOTONIC"
        "provider progress sequence must advance monotonically")
      raiseIf (report.completedWorkUnits.value < prior.completedWorkUnits.value ∧ report.workUnitName = prior.workUnitName)
        (conflictError "HYB_PROGRESS_REGRESSION" "provider objective progress cannot move backwards")
      return false

/-- `set((provider.recovery_contract_json or {}).get("objective_progress_units", []))`. -/
def recoveryUnits (db : HybridDb) (providerId : String) : Except Raised (List Json) :=
  match db.providers.get? providerId with
  | none => .ok []
  | some provider => provider.recoveryContractJson.setAt "objective_progress_units"

def checkUnit (db : HybridDb) (row : SpatialConversionRow) (report : ProgressReport) : Except Raised Unit := do
  let units ← recoveryUnits db row.providerId
  raiseIf (units.isEmpty = false ∧ ¬ units.any (Json.isText report.workUnitName)) (validationError
    "HYB_PROGRESS_UNIT_UNDECLARED" "provider progress unit is not declared by its recovery contract")

/-- The first transaction: whether the report has been recorded already. -/
def acceptsProgress (lease : WorkerCredential) (report : ProgressReport) (db : HybridDb) : Except Raised Bool := do
  let row ← scopedConversion db report.conversionId lease.tenantId lease.projectId
  raiseIf (row.state ∉ [.admitted, .running]) (conflictError "HYB_PROGRESS_STATE_INVALID"
    "conversion cannot accept progress in its current state" [("state", .str row.state.value)])
  let repeated ← checkAgainstPrior report (latestProgress? db row.conversionId)
  if repeated then return true
  else
    checkUnit db row report
    return false

/-- `0.0 if total is None else min(1.0, completed / total)`. -/
def normalizedProgress (py : PyNumbers) (report : ProgressReport) : Except Raised PyFloat :=
  match report.totalWorkUnits with
  | none => .ok .zero
  | some total => do
    let ratio ← py.ratio report.completedWorkUnits total
    return if ratio.value < PyFloat.one.value then ratio else .one

def progressCheckpoint (report : ProgressReport) : Dict := [
  ("sequence", .int report.sequence), ("stage", .str report.stage),
  ("safe_to_resume", .bool (given report.lastDurableCheckpointHash).isSome),
  ("checkpoint_hash", .ofOption report.lastDurableCheckpointHash), ("work_unit_name", .str report.workUnitName),
  ("completed_work_units", .float report.completedWorkUnits),
  ("total_work_units", floatOrNull report.totalWorkUnits)]

def progressRow (progressId : String) (report : ProgressReport) : ProviderProgressRow where
  progressId := progressId
  conversionId := report.conversionId
  sequence := report.sequence
  stage := report.stage
  completedWorkUnits := report.completedWorkUnits
  totalWorkUnits := report.totalWorkUnits
  workUnitName := report.workUnitName
  resourceUseJson := report.resourceUse
  warningsJson := report.warnings
  checkpointHash := report.lastDurableCheckpointHash
  estimatedOutputBytes := report.estimatedOutputBytes

def progressPayload (report : ProgressReport) : Dict := [
  ("conversion_id", .str report.conversionId), ("sequence", .int report.sequence), ("stage", .str report.stage),
  ("completed_work_units", .float report.completedWorkUnits),
  ("total_work_units", floatOrNull report.totalWorkUnits),
  ("work_unit_name", .str report.workUnitName), ("checkpoint_hash", .ofOption report.lastDurableCheckpointHash)]

/-- The insert, with the unique constraint of the table. -/
def insertProgress (db : HybridDb) (row : ProviderProgressRow) : Except Raised HybridDb := do
  raiseIf (∃ other ∈ db.progress.rows, other.conversionId = row.conversionId ∧ other.sequence = row.sequence)
    (.integrityError "uq_provider_progress_sequence")
  let progress ← orRaise (db.progress.insert? row) (.integrityError "provider_progress.progress_id")
  return { db with progress }

/-- The last transaction; a report that another call has recorded meanwhile is not recorded again. -/
def writeProgress (stamp : Stamp) (progressId workerId : String) (lease : WorkerCredential) (report : ProgressReport)
    (db : HybridDb) : Except Raised (ProgressReport × HybridDb) := do
  let row ← scopedConversion db report.conversionId lease.tenantId lease.projectId
  match (latestProgress? db row.conversionId).filter fun prior => report.sequence ≤ prior.sequence with
  | some prior => do
    raiseIf (¬ (prior.sequence = report.sequence ∧ sameReport prior report = true)) (conflictError
      "HYB_PROGRESS_SEQUENCE_NOT_MONOTONIC" "provider progress sequence must advance monotonically")
    return (report, db)
  | none => do
    let db ← insertProgress db (progressRow progressId report)
    let row := { row with state := .running }
    let db := saveConversion db row
    let s ← db.emit stamp (conversionEvent row "representation.provider.progressed" (progressPayload report) none
      (some workerId))
    return (report, { db with toStore := s })

theorem insertProgress_eq_ok {db db' : HybridDb} {row : ProviderProgressRow} (h : insertProgress db row = .ok db') :
    db'.conversions = db.conversions ∧ db'.operations = db.operations := by
  simp only [insertProgress, bind_eq_ok] at h
  obtain ⟨_, _, _, _, hdb⟩ := h
  cases hdb
  exact ⟨rfl, rfl⟩

theorem writeProgress_eq_ok {stamp : Stamp} {progressId workerId : String} {lease : WorkerCredential}
    {report result : ProgressReport} {db db' : HybridDb}
    (h : writeProgress stamp progressId workerId lease report db = .ok (result, db')) : db'.operations = db.operations ∧
      ∃ row, db.conversions.get? report.conversionId = some row ∧ (db'.conversions = db.conversions ∨
        db'.conversions = db.conversions.set { row with state := .running }) := by
  obtain ⟨row, hrow, h⟩ := bind_eq_ok.mp h
  have hfound := scopedConversion_eq_ok hrow
  split at h
  · obtain ⟨_, _, hout⟩ := bind_eq_ok.mp h
    cases hout
    exact ⟨rfl, row, hfound, .inl rfl⟩
  · simp only [bind_eq_ok] at h
    obtain ⟨inserted, hinserted, s, hs, hout⟩ := h
    cases hout
    obtain ⟨hconversions, hoperations⟩ := insertProgress_eq_ok hinserted
    obtain ⟨_, rfl⟩ := Store.emit_eq_ok hs
    refine ⟨hoperations, row, hfound, .inr ?_⟩
    simp only [saveConversion, hconversions]

/-- The transactions of `record_progress` after its check. -/
def advanceProgress (lease : WorkerCredential) (report : ProgressReport) : HybridMethod ProgressReport := do
  ensureOperationStarted draw lease svc.py
  let normalized ← normalizedProgress svc.py report
  let workerId ← lease.workload
  let _ ← .transaction .checkpoint (onStore fun s => OperationService.checkpoint s (draw.now .checkpoint)
    lease.operationId workerId normalized (progressCheckpoint report))
  .transaction .write (writeProgress (draw.stamp .write) (draw.newId .write) workerId lease report)

def recordProgress (token : String) (report : ProgressReport) : HybridMethod ProgressReport := do
  let lease ← verifyWorkerToken svc draw token
  raiseIf (¬ progressValid report) (validationError "HYB_PROGRESS_INVALID"
    "provider progress violates the canonical contract")
  raiseIf (report.conversionId ≠ lease.conversionId) (authenticationError "HYB_WORKER_SCOPE_MISMATCH"
    "worker token does not authorize this conversion")
  if ← .read .check (acceptsProgress lease report) then return report
  else advanceProgress svc draw lease report

end Progress

section Complete
variable (svc : HybridControlService) (draw : HybridDraw)

/-- `_OUTPUT_ROLE_KIND_COMPATIBILITY`: every role has one kind. -/
def roleKinds : List (String × RepresentationKind) := [
  ("metric_mesh", .metric), ("metric_surface", .metric), ("metric_volume", .metric), ("visual_mesh", .visual),
  ("gaussian_splat", .visual), ("visual_splat", .visual), ("photorealistic_scene", .visual),
  ("interaction_proxy", .interaction), ("collision_proxy", .interaction), ("collision_geometry", .interaction),
  ("navigation_surface", .interaction), ("occlusion_hull", .interaction), ("spatial_audio_geometry", .interaction),
  ("design_mesh", .design), ("bim_design", .design), ("evidence_mesh", .evidence), ("evidence_geometry", .evidence)]

/-- `_require_role_kind_compatibility`. -/
def requireRoleKindCompatibility (outputRole : String) (kind : RepresentationKind) : Except Raised Unit := do
  let allowed ← orRaise (roleKinds.lookup outputRole) (validationError "HYB_OUTPUT_ROLE_KIND_UNDECLARED"
    "output role has no platform authority-kind contract" [("output_role", .str outputRole)])
  raiseIf (kind ≠ allowed) (validationError "HYB_OUTPUT_ROLE_KIND_MISMATCH"
    "candidate representation kind is incompatible with the admitted output role"
    [("output_role", .str outputRole), ("kind", .str kind.value), ("allowed_kinds", .texts [allowed.value])])

/-- `_truth_label`. -/
def truthLabel : RepresentationKind → String
  | .metric => "metric-derived-not-field-verified"
  | .visual => "visual-non-metric"
  | .interaction => "disposable-non-authoritative-proxy"
  | .design => "design-intent-not-observed"
  | .evidence => "evidence-linked"

/-- `int((claims.get("output_staging_scope") or {}).get("maximum_bytes", 0))`. -/
def maximumOutputBytes (py : PyNumbers) (lease : WorkerCredential) : Except Raised Int := do
  let value := lease.claims.get "output_staging_scope"
  let fields ← if value.truthy then orRaise value.fields? noGet else .ok []
  intAt py fields "maximum_bytes" 0

/-- The asset and the object that a worker submits. -/
def checkOutput (row : SpatialConversionRow) (lease : WorkerCredential) (report : CandidateReport) (db : HybridDb) :
    Except Raised Unit := do
  let asset ← orRaise (db.refs.get? report.outputAssetId) (notFoundError "asset" report.outputAssetId)
  raiseIf (asset.tenantId ≠ row.tenantId ∨ asset.projectId ≠ row.projectId ∨ asset.tombstonedAt ≠ none)
    (notFoundError "asset" report.outputAssetId)
  let digest ← normalizeDigest report.outputAssetSha256
  raiseIf (asset.sha256 ≠ digest) (validationError "HYB_OUTPUT_HASH_MISMATCH"
    "quarantine output asset hash does not match the provider claim")
  let obj ← orRaise (db.objects.get? asset.sha256) (validationError "HYB_OUTPUT_OBJECT_MISSING"
    "quarantine output object metadata is missing")
  let maximum ← maximumOutputBytes svc.py lease
  raiseIf (maximum < 1 ∨ maximum < obj.byteCount) (authorizationError "HYB_OUTPUT_BYTE_ENVELOPE_EXCEEDED"
    "provider output exceeds the exact admitted write-only quarantine envelope"
    [("maximum_bytes", .int maximum), ("actual_bytes", .int obj.byteCount)])
  let frame ← orRaise (db.frames.get? report.coordinateFrameId) (notFoundError "coordinate_frame" report.coordinateFrameId)
  raiseIf (frame.tenantId ≠ row.tenantId ∨ frame.projectId ≠ row.projectId ∨ frame.deprecatedAt ≠ none)
    (notFoundError "coordinate_frame" report.coordinateFrameId)

/-- `list(policy_context.get(key, default))`. -/
def policyList (row : SpatialConversionRow) (key : String) (default : List Json) : Except Raised Json := do
  let items ← Json.iterate ((row.policyContextJson.get? key).getD (.arr default))
  return .arr items

def candidatePrivacy (row : SpatialConversionRow) : Except Raised Dict := do
  let audiences ← policyList row "allowed_audiences" [(row.policyContextJson.get? "audience").getD (.str "project")]
  let grants ← policyList row "consent_grant_ids" []
  let scopes ← policyList row "required_consent_scopes" []
  return [
    ("allowed_audiences", audiences), ("allowed_purposes", .texts [row.purpose]), ("consent_grant_ids", grants),
    ("required_scopes", scopes), ("purpose", .str row.purpose),
    ("policy_snapshot_hash", .str (canonicalSha256 (.obj row.policyContextJson)))]

def inputIds (snapshots : List SourceSnapshot) : List String := snapshots.map SourceSnapshot.assetId

def candidateProvenance (row : SpatialConversionRow) (report : CandidateReport) : Dict := [
  ("source_ids", .texts (inputIds row.sourceAssetsJson)), ("reference_ids", .texts (inputIds row.referenceAssetsJson)),
  ("conversion_id", .str row.conversionId), ("operation_id", .str row.operationId),
  ("request_hash", .str row.requestHash), ("admission_decision_hash", .str row.admissionDecisionHash),
  ("provider_id", .str row.providerId), ("provider_version", .str row.providerVersion),
  ("provider_manifest_hash", .str row.providerManifestHash), ("promotion_id", .str row.promotionId),
  ("worker_receipt_hash", .str report.workerReceiptHash), ("candidate_core_hash", .str report.candidateCoreHash),
  ("output_role", .str report.outputRole)]

/-- What the check of a candidate gives: a result that exists already, or the documents of the new one. -/
inductive CandidateCheck where
  | replay (result : CandidateResult)
  | accepted (privacy provenance : Dict) (dependencies : List String)

/-- The candidate that the operation has already produced, if it is the same. -/
def priorCandidate (row : SpatialConversionRow) (report : CandidateReport) (existing : RepresentationAssetRow) :
    Except Raised CandidateCheck := do
  raiseIf (existing.assetId ≠ report.outputAssetId) (conflictError "HYB_CANDIDATE_IDEMPOTENCY_CONFLICT"
    "conversion already produced a different candidate")
  return .replay ⟨row.conversionId, existing.representationId, existing.state, true⟩

/-- A conversion that accepts no candidate any more may repeat the one it has. -/
def completedCandidate (row : SpatialConversionRow) : Except Raised CandidateCheck :=
  match given row.candidateRepresentationId with
  | some representationId => .ok (.replay ⟨row.conversionId, representationId, row.state.value, true⟩)
  | none => .error (conflictError "HYB_COMPLETION_STATE_INVALID"
      "conversion cannot accept a candidate in its current state" [("state", .str row.state.value)])

/-- The checks of a candidate of a conversion under way. -/
def newCandidate (row : SpatialConversionRow) (lease : WorkerCredential) (report : CandidateReport) (db : HybridDb) :
    Except Raised CandidateCheck := do
  raiseIf (report.outputRole ∉ row.outputRolesJson) (validationError "HYB_OUTPUT_ROLE_UNREQUESTED"
    "provider output role was not requested")
  requireRoleKindCompatibility report.outputRole report.kind
  raiseIf (∃ use ∈ report.intendedUses, use ∉ row.intendedUsesJson) (validationError "HYB_INTENDED_USE_UNREQUESTED"
    "candidate declares an intended use not admitted for the conversion")
  checkOutput svc row lease report db
  let stale := authorizationError "HYB_PROVIDER_SNAPSHOT_STALE" "provider descriptor changed before candidate completion"
  let provider ← orRaise (db.providers.get? row.providerId) stale
  raiseIf (provider.manifestHash ≠ row.providerManifestHash) stale
  match db.representations.rows.find? fun rep => rep.operationId = some row.operationId with
  | some existing => priorCandidate row report existing
  | none => do
    let privacy ← candidatePrivacy row
    return .accepted privacy (candidateProvenance row report) (inputIds (row.sourceAssetsJson ++ row.referenceAssetsJson))

/-- The first transaction of `complete_candidate`. -/
def acceptsCandidate (lease : WorkerCredential) (report : CandidateReport) (db : HybridDb) : Except Raised CandidateCheck := do
  let row ← scopedConversion db lease.conversionId lease.tenantId lease.projectId
  if row.state ∈ [.admitted, .running, .returnedPendingValidation] then newCandidate svc row lease report db
  else completedCandidate row

def workerCandidate (lease : WorkerCredential) (report : CandidateReport) (workerId : String) (privacy provenance : Dict)
    (dependencies : List String) : CandidateRequest where
  tenantId := lease.tenantId
  projectId := lease.projectId
  sceneId := lease.sceneId
  assetId := report.outputAssetId
  kind := report.kind
  providerId := lease.providerId
  coordinateFrameId := report.coordinateFrameId
  sourceClass := report.sourceClass
  authorityClass := report.authorityClass
  lossy := report.lossy
  intendedUses := sortedSet id report.intendedUses
  prohibitedUses := sortedSet id (report.prohibitedUses ++ ["automatic_publication"])
  quality := report.quality
  provenance := provenance
  supportMap := report.supportMap
  actorId := workerId
  operationId := some lease.operationId
  formatMetadata := some (report.formatMetadata.getD [])
  derivationPolicy := some [("publication", .str "independent_validation_required"),
    ("conversion_id", .str lease.conversionId)]
  limitations := some (report.limitations.getD [])
  informationLosses := some (report.informationLosses.getD [])
  privacyInheritance := some privacy
  dependencies := some dependencies
  metadata := some ((report.metadata.getD []).merge [("output_role", .str report.outputRole),
    ("truth_label", ((report.metadata.getD []).get? "truth_label").getD (.str (truthLabel report.kind)))])

def workerReceipt (lease : WorkerCredential) (report : CandidateReport) (workerId : String) :
    RepresentationService.ReceiptRequest where
  tenantId := lease.tenantId
  projectId := lease.projectId
  operationId := lease.operationId
  workerReceiptHash := report.workerReceiptHash
  candidateCoreHash := report.candidateCoreHash
  actorId := workerId

def candidateOutput (lease : WorkerCredential) (report : CandidateReport) (representationId digest : String) : Dict := [
  ("conversion_id", .str lease.conversionId), ("representation_id", .str representationId),
  ("asset_id", .str report.outputAssetId), ("asset_sha256", .str digest),
  ("worker_receipt_hash", .str report.workerReceiptHash), ("candidate_core_hash", .str report.candidateCoreHash)]

def quarantinedPayload (conversionId : String) (report : CandidateReport) (representationId digest manifestHash : String) :
    Dict := [
  ("conversion_id", .str conversionId), ("representation_id", .str representationId),
  ("asset_id", .str report.outputAssetId), ("asset_sha256", .str digest), ("manifest_hash", .str manifestHash),
  ("output_role", .str report.outputRole), ("state", .str "quarantined")]

/-- The last transaction of `complete_candidate`. -/
def writeCandidate (stamp : Stamp) (workerId : String) (lease : WorkerCredential) (report : CandidateReport)
    (representationId digest : String) (db : HybridDb) : Except Raised (CandidateResult × HybridDb) := do
  let row ← scopedConversion db lease.conversionId lease.tenantId lease.projectId
  let row := { row with candidateRepresentationId := some representationId, state := .quarantined }
  let db := saveConversion db row
  let rep ← orRaise (db.representations.get? representationId) (.attributeError "'NoneType' object has no attribute 'manifest_hash'")
  let s ← db.emit stamp (hybridEvent "representation.output.quarantined" "representation" representationId row.tenantId
    row.projectId (quarantinedPayload row.conversionId report representationId digest rep.manifestHash) none (some workerId))
  return (⟨lease.conversionId, representationId, "quarantined", false⟩, { db with toStore := s })

theorem writeCandidate_eq_ok {stamp : Stamp} {workerId : String} {lease : WorkerCredential} {report : CandidateReport}
    {representationId digest : String} {db db' : HybridDb} {result : CandidateResult}
    (h : writeCandidate stamp workerId lease report representationId digest db = .ok (result, db')) :
    db'.operations = db.operations ∧ ∃ row, db.conversions.get? lease.conversionId = some row ∧ db'.conversions =
      db.conversions.set { row with candidateRepresentationId := some representationId, state := .quarantined } := by
  simp only [writeCandidate, bind_eq_ok] at h
  obtain ⟨row, hrow, rep, _, s, hs, hout⟩ := h
  cases hout
  obtain ⟨_, rfl⟩ := Store.emit_eq_ok hs
  exact ⟨rfl, row, scopedConversion_eq_ok hrow, rfl⟩

/-- The transactions of `complete_candidate` after its check. -/
def submitCandidate (lease : WorkerCredential) (report : CandidateReport) (privacy provenance : Dict)
    (dependencies : List String) : HybridMethod CandidateResult := do
  let workerId ← lease.workload
  let representationId ← .transaction .createCandidate (onRepresentations fun db =>
    RepresentationService.createCandidate svc.audit svc.py.toPyText db
      ⟨draw.stamp .createCandidate, draw.newId .createCandidate⟩
      (workerCandidate lease report workerId privacy provenance dependencies))
  .transaction .attachReceipt (onRepresentations fun db => do
    let db ← RepresentationService.attachWorkerReceipt svc.audit db (draw.stamp .attachReceipt)
      (workerReceipt lease report workerId)
    return ((), db))
  ensureOperationStarted draw lease svc.py
  let digest ← normalizeDigest report.outputAssetSha256
  let _ ← .transaction .complete (onStore fun s => OperationService.complete s (draw.now .complete) lease.operationId
    workerId (candidateOutput lease report representationId digest))
  .transaction .write (writeCandidate (draw.stamp .write) workerId lease report representationId digest)

/-- What follows the check of a candidate. -/
def finishCandidate (lease : WorkerCredential) (report : CandidateReport) : CandidateCheck → HybridMethod CandidateResult
  | .replay result => return result
  | .accepted privacy provenance dependencies => submitCandidate svc draw lease report privacy provenance dependencies

def completeCandidate (token : String) (report : CandidateReport) : HybridMethod CandidateResult := do
  let lease ← verifyWorkerToken svc draw token
  requireDigest report.outputAssetSha256 "output_asset_sha256"
  requireDigest report.workerReceiptHash "worker_receipt_hash"
  requireDigest report.candidateCoreHash "candidate_core_hash"
  let check ← .read .check (acceptsCandidate svc lease report)
  finishCandidate svc draw lease report check

end Complete

section Fail
variable (svc : HybridControlService) (draw : HybridDraw)

/-- `^[A-Z][A-Z0-9_]{2,127}$`. -/
def isFailureCode (code : String) : Bool :=
  match code.toList with
  | [] => false
  | first :: rest => first.isUpper && 2 ≤ rest.length && rest.length ≤ 127 &&
      rest.all fun c => c.isUpper || c.isDigit || c = '_'

/-- The report with a normal error code. -/
def checkFailureReport (report : FailureReport) : Except Raised FailureReport := do
  let errorCode := svc.admission.upper (String.ofList (strip report.errorCode.toList))
  raiseIf (isFailureCode errorCode = false) (validationError "HYB_PROVIDER_ERROR_CODE_INVALID"
    "provider error code must be a stable uppercase machine code")
  requireDigest report.cleanupReceiptHash "cleanup_receipt_hash"
  match report.lastDurableCheckpointHash with
  | none => return { report with errorCode }
  | some hash => do
    requireDigest hash "last_durable_checkpoint_hash"
    return { report with errorCode }

def failureEvidence (lease : WorkerCredential) (report : FailureReport) : Dict := [
  ("conversion_id", .str lease.conversionId), ("operation_id", .str lease.operationId),
  ("error_code", .str report.errorCode), ("retryable", .bool report.retryable),
  ("cleanup_receipt_hash", .str report.cleanupReceiptHash), ("cleanup_verified", .bool report.cleanupVerified),
  ("last_durable_checkpoint_hash", .ofOption report.lastDurableCheckpointHash),
  ("resource_use", .obj (report.resourceUse.getD []))]

def failureHash (lease : WorkerCredential) (report : FailureReport) : String := canonicalSha256 (.obj (failureEvidence lease report))

/-- The states that a failure leaves. -/
def failedStates : List ConversionState := [.failedRetryable, .failedTerminal, .cleanupQuarantined]

/-- The live bindings of the roles that the conversion was to produce. -/
def preservedBindings (db : HybridDb) (row : SpatialConversionRow) : List String :=
  (db.bindings.rows.filter fun binding => binding.tenantId = row.tenantId ∧ binding.projectId = row.projectId ∧
    binding.sceneId = row.sceneId ∧ binding.role ∈ row.outputRolesJson ∧ binding.supersededAt = none).map
      RepresentationBindingRow.bindingId

/-- The first transaction: a failure that was reported before, or the bindings that stay. -/
def acceptsFailure (lease : WorkerCredential) (report : FailureReport) (db : HybridDb) :
    Except Raised (FailureResult ⊕ List String) := do
  let row ← scopedConversion db lease.conversionId lease.tenantId lease.projectId
  if row.state ∈ failedStates then
    raiseIf (row.failureHash.getD "" ≠ failureHash lease report) (conflictError "HYB_PROVIDER_FAILURE_IMMUTABLE_CONFLICT"
      "provider failure is already bound to different evidence")
    return .inl {
      conversionId := row.conversionId, operationId := row.operationId, state := row.state,
      failureHash := failureHash lease report, cleanupReceiptHash := row.cleanupReceiptHash, failure := row.failureJson,
      idempotentReplay := true }
  else
    raiseIf (row.state ∉ [.admitted, .running]) (conflictError "HYB_PROVIDER_FAILURE_STATE_INVALID"
      "conversion cannot accept provider failure evidence" [("state", .str row.state.value)])
    return .inr (preservedBindings db row)

def failedState (report : FailureReport) : ConversionState :=
  if report.cleanupVerified = false then .cleanupQuarantined
  else if report.retryable then .failedRetryable else .failedTerminal

def operationFailure (lease : WorkerCredential) (report : FailureReport) : Dict := [
  ("code", .str (if report.cleanupVerified then report.errorCode else "HYB_PROVIDER_CLEANUP_UNVERIFIED")),
  ("message", .str "provider execution failed; governed cleanup evidence retained"),
  ("retryable", .bool (report.retryable && report.cleanupVerified)),
  ("failure_hash", .str (failureHash lease report)), ("cleanup_receipt_hash", .str report.cleanupReceiptHash),
  ("cleanup_verified", .bool report.cleanupVerified),
  ("last_durable_checkpoint_hash", .ofOption report.lastDurableCheckpointHash),
  ("resource_use", .obj (report.resourceUse.getD []))]

def failedOperation (lease : WorkerCredential) (report : FailureReport) (operation : OperationRow) : OperationRow :=
  { operation with
    errorJson := operationFailure lease report
    state := if report.cleanupVerified then operation.state else .quarantined }

def failurePayload (lease : WorkerCredential) (report : FailureReport) (preserved : List String) : Dict :=
  (failureEvidence lease report).merge [("failure_hash", .str (failureHash lease report)),
    ("state", .str (failedState report).value), ("preserved_binding_ids", .texts preserved)]

def cleanupPayload (row : SpatialConversionRow) (lease : WorkerCredential) (report : FailureReport) : Dict := [
  ("conversion_id", .str row.conversionId), ("operation_id", .str row.operationId),
  ("cleanup_receipt_hash", .str report.cleanupReceiptHash), ("cleanup_verified", .bool report.cleanupVerified),
  ("failure_hash", .str (failureHash lease report))]

def cleanupEvent (report : FailureReport) : String :=
  if report.cleanupVerified then "representation.cleanup.completed" else "representation.cleanup.failed"

def failedRow (lease : WorkerCredential) (report : FailureReport) (preserved : List String) (row : SpatialConversionRow) :
    SpatialConversionRow :=
  { row with
    failureJson := failurePayload lease report preserved
    failureHash := some (failureHash lease report)
    cleanupReceiptHash := some report.cleanupReceiptHash
    state := failedState report }

def failureAudit (row : SpatialConversionRow) (workerId : String) (lease : WorkerCredential) (report : FailureReport)
    (preserved : List String) : AuditRequest :=
  conversionAudit row workerId "hybrid_conversion:fail" (if report.cleanupVerified then "allowed" else "quarantined") [
    ("error_code", .str report.errorCode), ("retryable", .bool (report.retryable && report.cleanupVerified)),
    ("failure_hash", .str (failureHash lease report)), ("cleanup_verified", .bool report.cleanupVerified),
    ("preserved_binding_count", .int preserved.length)]

/-- The last transaction of `report_provider_failure`. -/
def writeFailure (stamp : Stamp) (workerId : String) (lease : WorkerCredential) (report : FailureReport)
    (preserved : List String) (db : HybridDb) : Except Raised (FailureResult × HybridDb) := do
  let row ← scopedConversion db lease.conversionId lease.tenantId lease.projectId
  let operation ← OperationService.find db.toStore row.operationId
  let row := failedRow lease report preserved row
  let db := saveConversion { db with toStore := db.toStore.saveOperation (failedOperation lease report operation) } row
  let s ← db.emit stamp (conversionEvent row "representation.operation.failed" (failurePayload lease report preserved) none
    (some workerId))
  let s ← s.emit stamp (conversionEvent row (cleanupEvent report) (cleanupPayload row lease report) none (some workerId))
  let s ← s.record svc.audit stamp (failureAudit row workerId lease report preserved)
  return ({
    conversionId := lease.conversionId, operationId := lease.operationId, state := failedState report,
    failureHash := failureHash lease report, cleanupReceiptHash := some report.cleanupReceiptHash,
    preservedBindingIds := preserved, idempotentReplay := false }, { db with toStore := s })

theorem writeFailure_eq_ok {svc : HybridControlService} {stamp : Stamp} {workerId : String} {lease : WorkerCredential}
    {report : FailureReport} {preserved : List String} {db db' : HybridDb} {result : FailureResult}
    (h : writeFailure svc stamp workerId lease report preserved db = .ok (result, db')) :
    ∃ row operation, db.conversions.get? lease.conversionId = some row ∧
      db.operation? row.operationId = some operation ∧
      db'.conversions = db.conversions.set (failedRow lease report preserved row) ∧
      db'.operations = db.operations.set (failedOperation lease report operation) := by
  simp only [writeFailure, bind_eq_ok] at h
  obtain ⟨row, hrow, operation, hoperation, s₁, hs₁, s₂, hs₂, s₃, hs₃, hout⟩ := h
  cases hout
  obtain ⟨_, rfl⟩ := Store.emit_eq_ok hs₁
  obtain ⟨_, rfl⟩ := Store.emit_eq_ok hs₂
  obtain ⟨_, rfl⟩ := Store.record_eq_ok hs₃
  exact ⟨row, operation, scopedConversion_eq_ok hrow, orRaise_eq_ok.mp hoperation, rfl, rfl⟩

/-- The transactions of `report_provider_failure` after its check. -/
def retainFailure (lease : WorkerCredential) (report : FailureReport) (preserved : List String) : HybridMethod FailureResult := do
  ensureOperationStarted draw lease svc.py
  let workerId ← lease.workload
  let _ ← .transaction .fail (onStore fun s => OperationService.fail s (draw.now .fail) lease.operationId workerId
    report.errorCode "provider execution failed; inspect retained governed failure evidence"
    (report.retryable && report.cleanupVerified))
  .transaction .write (writeFailure svc (draw.stamp .write) workerId lease report preserved)

def reportProviderFailure (token : String) (request : FailureReport) : HybridMethod FailureResult := do
  let report ← checkFailureReport svc request
  let lease ← verifyWorkerToken svc draw token failedStates
  match ← .read .check (acceptsFailure lease report) with
  | .inl result => return result
  | .inr preserved => retainFailure svc draw lease report preserved

end Fail

end HybridControl

end Sip
