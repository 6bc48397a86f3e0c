import Sip.Hybrid.Sources

/-!
# The admission of a conversion

`create_conversion` validates a request, creates the operation that carries it, admits
it against the quota and records the conversion with the token of its worker. These are
separate transactions: a request that the quota denies leaves its operation behind, in
quarantine, and a repeated request finds that operation again.
-/

namespace Sip

set_option autoImplicit false

/-- What admission has decided about a request before anything is recorded. -/
structure Cleared where
  sources : ValidatedSources
  selected : SelectedProvider
  executionZone : String
  region : String
  deploymentMode : String
  external : Bool
  consentReceipts : List Json
  modelReceipts : List Json

structure ResourceEstimate where
  inputBytes : Nat
  sourceCount : Nat
  referenceCount : Nat
  maxOutputBytes : Int
  estimateProfile : String
  estimatedGpuSeconds : PyFloat

/-- The row stands for the dictionary that the service renders it as. -/
structure ConversionResult where
  row : SpatialConversionRow
  workerToken : Option String := none
  idempotentReplay : Bool

/-- The name of the class of an exception that has no code. -/
def Raised.typeName : Raised → String
  | .sip error => error.code
  | .integrityError _ => "IntegrityError"
  | .typeError _ => "TypeError"
  | .valueError _ => "ValueError"
  | .keyError _ => "KeyError"
  | .attributeError _ => "AttributeError"
  | .overflowError _ => "OverflowError"
  | .fileNotFoundError _ => "FileNotFoundError"
  | .osError _ => "OSError"
  | .assertionError => "AssertionError"
  | .invalidTag => "InvalidTag"
  | .badZipFile _ => "BadZipFile"
  | .linAlgError _ => "LinAlgError"

@[simp] theorem Method.liftM_eq {ι ε σ α : Type} (x : Except ε α) : (liftM x : Method ι ε σ α) = .done x := rfl

namespace HybridControl

section Clear
variable (svc : HybridControlService) (draw : HybridDraw)

/-- `Classification(value)`. -/
def classificationOf (value : String) : Except Raised Classification :=
  orRaise (Classification.ofValue? value) (.valueError "not a valid Classification")

/-- `_authorize_models`. -/
def authorizeModels (modelIds : List String) (purpose classification region tenantId : String) (db : HybridDb) :
    Except Raised (List Json) :=
  modelIds.mapM fun modelId => do
    let row ← orRaise (db.models.get? modelId) (authorizationError "MODEL_NOT_REGISTERED"
      "provider references an unregistered model manifest" [("model_id", .str modelId)])
    let value ← classificationOf classification
    let receipt ← svc.authorizeModel db (draw.now .models) row purpose value region tenantId
    return .obj receipt

def selectionRequest (req : ConversionRequest) (classification : String) : Except Raised SelectionRequest := do
  let py := svc.py.toPyText
  let sceneClass ← requiredText py req.policyContext "scene_class"
  let executionZone ← requiredText py req.policyContext "execution_zone"
  let hardwareProfile ← requiredText py req.policyContext "hardware_profile"
  let region ← requiredText py req.policyContext "region"
  let listAt (key : String) := stringList py ((req.providerSelector.get? key).getD (.arr [])) key
  let requiredCapabilities ← listAt "required_capabilities"
  let forbiddenCapabilities ← listAt "forbidden_capabilities"
  let preferredProviderIds ← listAt "preferred_provider_ids"
  return {
    classification, purpose := req.purpose, region, sceneClass, executionZone, hardwareProfile,
    deploymentMode := textOr py req.policyContext "deployment_mode" "local_only",
    outputRoles := req.outputRoles, intendedUses := req.intendedUses,
    requiredCapabilities, forbiddenCapabilities, preferredProviderIds }

/-- Shadow and research promotions execute in an isolated test context only. -/
def checkPromotionState (req : ConversionRequest) (state : PromotionState) : Except Raised Unit :=
  raiseIf (state ∈ [.shadow, .researchIsolated] ∧ ¬ (svc.environment ∈ ["development", "test"] ∧
      (req.policyContext.get "research_isolated").truthy = true))
    (authorizationError "HYB_PROVIDER_PROMOTION_NOT_PRODUCTION_ELIGIBLE"
      "shadow or research-isolated promotions require an explicit isolated test context")

def executionRequest (req : ConversionRequest) (classification region : String) (external : Bool) :
    Except Raised ExecutionRequest := do
  let value ← classificationOf classification
  return ⟨value, req.purpose, region, external⟩

def consentRequest (req : ConversionRequest) (classification : String) : ConsentRequest where
  tenantId := req.tenantId
  projectId := req.projectId
  purpose := req.purpose
  intendedUses := req.intendedUses
  audience := textOr svc.py.toPyText req.policyContext "audience" "project"
  classification := classification
  policyContext := req.policyContext

/-- Everything that is checked before an operation is created. -/
def clear (req : ConversionRequest) : HybridMethod Cleared := do
  let sources ← .read .sources (validateConversionSources svc.py.toPyText req)
  let selection ← selectionRequest svc req sources.effectiveClassification
  let selected ← .read .select fun db => svc.providers.select db.toRepresentationDb (draw.now .select) selection
  checkPromotionState svc req selected.promotion.state
  let external := (selected.provider.securityContractJson.get "external_processing").truthy
  .read .descriptor (validateProviderForRequest svc.providers svc.py selected.provider req sources)
  let execution ← executionRequest req sources.effectiveClassification selection.region external
  let _ ← .read .execution fun db =>
    ProviderRegistry.authorizeExecution db.toRepresentationDb (draw.now .execution) selected.provider.providerId execution
  let consentReceipts ← .read .consents (validateConsents svc.py.toPyText (draw.now .consents)
    (consentRequest svc req sources.effectiveClassification))
  let modelReceipts ← .read .models (authorizeModels svc draw selected.provider.modelManifestIdsJson req.purpose
    sources.effectiveClassification selection.region req.tenantId)
  return {
    sources, selected, executionZone := selection.executionZone, region := selection.region,
    deploymentMode := selection.deploymentMode, external, consentReceipts, modelReceipts }

end Clear

section Rejection
variable (svc : HybridControlService) (draw : HybridDraw)

def rejectionPayload (subject : String × Json) (requestHash : Json) (code : String) (operationCreated : Bool) : Dict :=
  (if operationCreated then [subject] else []) ++ [("request_hash", requestHash), ("error_code", .str code),
    ("retryable", .bool false), ("operation_created", .bool operationCreated)]

def rejectionAudit (tenantId projectId actorId resourceType resourceId : String) (requestHash : Json) (code : String)
    (operationCreated : Bool) : AuditRequest where
  tenantId := tenantId
  projectId := some projectId
  actorId := actorId
  action := "hybrid_conversion:admit"
  resourceType := resourceType
  resourceId := resourceId
  outcome := "denied"
  details := some [("request_hash", requestHash), ("error_code", .str code), ("operation_created", .bool operationCreated)]

/-- `_record_pre_admission_rejection`. -/
def recordPreAdmissionRejection (req : ConversionRequest) (actorId : String) (error : Raised) : HybridMethod Unit :=
  .transaction .rejection fun db => do
    let stamp := draw.stamp .rejection
    let code := error.typeName
    let hash : Json := .str (requestHash req)
    let aggregateId := "request:" ++ requestHash req
    let s ← db.emit stamp (hybridEvent "representation.operation.rejected" "spatial_conversion" aggregateId
      req.tenantId req.projectId (rejectionPayload ("operation_id", .null) hash code false) (some actorId) none)
    let s ← s.record svc.audit stamp (rejectionAudit req.tenantId req.projectId actorId "spatial_conversion_request"
      aggregateId hash code false)
    return ((), { db with toStore := s })

/-- The row of an operation that admission has denied. -/
def rejectedOperation (row : OperationRow) (now : Nat) (code : String) : OperationRow :=
  { row with state := .quarantined, errorJson := OperationService.failure code "admission denied" false, updatedAt := now }

/-- `_mark_operation_rejected`. -/
def markOperationRejected (operationId : String) (error : Raised) : HybridMethod Unit :=
  .transaction .rejectOperation fun db =>
    match db.operation? operationId with
    | none => .ok ((), db)
    | some row => do
      let stamp := draw.stamp .rejectOperation
      let code := error.typeName
      let hash := row.inputJson.get "request_hash"
      let s := db.toStore.saveOperation (rejectedOperation row stamp.now code)
      let s ← s.emit stamp (hybridEvent "representation.operation.rejected" "spatial_conversion" operationId
        row.tenantId row.projectId (rejectionPayload ("operation_id", .str operationId) hash code true)
        (some row.createdBy) none)
      let s ← s.record svc.audit stamp (rejectionAudit row.tenantId row.projectId row.createdBy "operation" operationId
        hash code true)
      return ((), { db with toStore := s })

end Rejection

section Quota
variable (svc : HybridControlService)

/-- A finite number where the source calls `float(value)`. -/
def finiteFloat (value : Json) : Except Raised PyFloat := do
  let x ← svc.py.float value
  orRaise x.finite? (.valueError "Out of range float values are not JSON compliant")

/-- `_resource_estimate`. -/
def resourceEstimate (sources : ValidatedSources) (constraints : Dict) : Except Raised ResourceEstimate := do
  let multiplier ← svc.py.float ((constraints.get? "maximum_output_multiplier").getD (.float ⟨"4.0", by decide⟩))
  raiseIf (multiplier.le .zero = true ∨ (Double.finite ⟨"100.0", by decide⟩).lt multiplier = true)
    (validationError "HYB_OUTPUT_MULTIPLIER_INVALID" "maximum output multiplier must be in (0, 100]")
  let factor ← orRaise multiplier.finite? (.valueError "cannot convert float NaN to integer")
  let scaled ← svc.py.scaled sources.inputBytes factor
  let gpuSeconds ← finiteFloat svc ((constraints.get? "estimated_gpu_seconds").getD (.float .zero))
  return {
    inputBytes := sources.inputBytes
    sourceCount := sources.sourceSnapshots.length
    referenceCount := sources.referenceSnapshots.length
    maxOutputBytes := max 1 scaled
    estimateProfile := svc.py.str ((constraints.get? "estimate_profile").getD (.str "deterministic-byte-envelope-v1"))
    estimatedGpuSeconds := gpuSeconds }

def ResourceEstimate.document (estimate : ResourceEstimate) : Dict := [
  ("input_bytes", .int estimate.inputBytes), ("source_count", .int estimate.sourceCount),
  ("reference_count", .int estimate.referenceCount), ("max_output_bytes", .int estimate.maxOutputBytes),
  ("estimate_profile", .str estimate.estimateProfile), ("estimated_gpu_seconds", .float estimate.estimatedGpuSeconds)]

def usageRequest (req : ConversionRequest) (operationId actorId providerId : String) (inputBytes : Nat) :
    Except Raised UsageRequest := do
  let quantity ← svc.py.floatOfInt inputBytes
  let unitCost ← finiteFloat svc ((req.policyContext.get? "unit_cost_per_byte").getD (.float .zero))
  return {
    tenantId := req.tenantId, projectId := req.projectId, operationId := some operationId,
    resourceType := "hybrid_provider_input_bytes", quantity, unit := "bytes", unitCost,
    currency := svc.py.str ((req.policyContext.get? "currency").getD (.str "USD")),
    priceSourceVersion := svc.py.str ((req.policyContext.get? "price_source_version").getD (.str "local-reference-v1")),
    estimated := true, actorId,
    metadata := some [("provider_id", .str providerId), ("request_hash", .str (requestHash req))] }

/-- The admission against the quota, with the arguments that are computed inside the `try`. -/
def admitUsage (draw : HybridDraw) (req : ConversionRequest) (operationId actorId providerId : String)
    (inputBytes : Nat) : HybridMethod UsageAdmission := do
  let usage ← usageRequest svc req operationId actorId providerId inputBytes
  .transaction .quota (onQuotas fun db =>
    svc.admission.admitAndRecord svc.audit db ⟨draw.stamp .quota, draw.newId .quota⟩ usage)

def floatOrNull (x : Option PyFloat) : Json := (x.map Json.float).getD .null

/-- `quota_receipt`; an infinite cost has no JSON text. -/
def UsageAdmission.document (receipt : UsageAdmission) : Except Raised Json := do
  let cost ← orRaise receipt.attributedCost (.valueError "Out of range float values are not JSON compliant")
  return .obj [
    ("admitted", .bool true), ("usage_id", .str receipt.usageId), ("current", .float receipt.current),
    ("projected", .float receipt.projected), ("soft_limit_exceeded", .bool receipt.softLimitExceeded),
    ("hard_limit", floatOrNull receipt.hardLimit), ("attributed_cost", .float cost),
    ("currency", .str receipt.currency), ("price_source_version", .str receipt.priceSourceVersion)]

end Quota

section Documents

def snapshotDocument (snapshot : SourceSnapshot) : Json := .obj [
  ("asset_id", .str snapshot.assetId), ("sha256", .str snapshot.sha256), ("role", .str snapshot.role),
  ("coordinate_frame_id", .str snapshot.coordinateFrameId), ("use", .ofOption snapshot.use),
  ("classification", .str snapshot.classification), ("source_class", .str snapshot.sourceClass),
  ("authority_class", .str snapshot.authorityClass), ("legal_hold", .bool snapshot.legalHold),
  ("byte_count", .int snapshot.byteCount)]

def snapshotsDocument (snapshots : List SourceSnapshot) : Json := .arr (snapshots.map snapshotDocument)

/-- The input that the operation is bound to. -/
def immutableInput (req : ConversionRequest) (sources : ValidatedSources) : Dict := (requestBody req).merge [
  ("request_hash", .str (requestHash req)),
  ("effective_classification", .str sources.effectiveClassification),
  ("classification_context", .obj sources.classificationContext),
  ("validated_sources", snapshotsDocument sources.sourceSnapshots),
  ("validated_references", snapshotsDocument sources.referenceSnapshots)]

def operationRequest (req : ConversionRequest) (sources : ValidatedSources) (actorId : String) (maxAttempts : Int)
    (traceparent : Option String) : CreateRequest where
  tenantId := req.tenantId
  projectId := req.projectId
  operationType := "spatial.conversion"
  idempotencyKey := req.idempotencyKey
  inputManifest := immutableInput req sources
  actorId := actorId
  maxAttempts := maxAttempts
  traceparent := traceparent

def admissionDecision (req : ConversionRequest) (cleared : Cleared) (quotaReceipt : Json) : Dict := [
  ("allowed", .bool true),
  ("request_hash", .str (requestHash req)),
  ("provider", .obj [
    ("provider_id", .str cleared.selected.provider.providerId),
    ("provider_version", .str cleared.selected.provider.version),
    ("provider_manifest_hash", .str cleared.selected.provider.manifestHash),
    ("promotion_id", .str cleared.selected.promotion.promotionId),
    ("promotion_hash", .str cleared.selected.promotion.promotionHash),
    ("benchmark_evidence_hash", .str cleared.selected.promotion.benchmarkEvidenceHash),
    ("descriptor_snapshot", .obj cleared.selected.descriptor),
    ("descriptor_snapshot_hash", .str cleared.selected.provider.manifestHash)]),
  ("policy_snapshot_hash", .str (canonicalSha256 (.obj req.policyContext))),
  ("source_snapshot_hash", .str (canonicalSha256 (snapshotsDocument cleared.sources.sourceSnapshots))),
  ("reference_snapshot_hash", .str (canonicalSha256 (snapshotsDocument cleared.sources.referenceSnapshots))),
  ("consent_receipts", .arr cleared.consentReceipts),
  ("model_authorization_receipts", .arr cleared.modelReceipts),
  ("quota_receipt", quotaReceipt),
  ("classification", .str cleared.sources.effectiveClassification),
  ("classification_context", .obj cleared.sources.classificationContext),
  ("external_processing", .bool cleared.external),
  ("execution_zone", .str cleared.executionZone),
  ("region", .str cleared.region),
  ("deployment_mode", .str cleared.deploymentMode)]

def workerPermissions : List String := ["asset:read_exact", "quarantine:write", "operation:checkpoint", "operation:complete"]

def inputAssetDocument (snapshot : SourceSnapshot) : Json := .obj [
  ("asset_id", .str snapshot.assetId), ("sha256", .str snapshot.sha256), ("role", .str snapshot.role)]

/-- The claims of the token that the worker of a conversion gets. -/
def credentialClaims (req : ConversionRequest) (cleared : Cleared) (estimate : ResourceEstimate)
    (conversionId operationId credentialId admissionHash : String) (ttlSeconds : Nat) : Dict := [
  ("type", .str "hybrid-worker-lease"),
  ("credential_id", .str credentialId),
  ("credential_generation", .int 1),
  ("conversion_id", .str conversionId),
  ("operation_id", .str operationId),
  ("tenant_id", .str req.tenantId),
  ("project_id", .str req.projectId),
  ("scene_id", .str req.sceneId),
  ("scene_revision_id", .str req.sceneRevisionId),
  ("provider_id", .str cleared.selected.provider.providerId),
  ("provider_version", .str cleared.selected.provider.version),
  ("provider_manifest_hash", .str cleared.selected.provider.manifestHash),
  ("promotion_id", .str cleared.selected.promotion.promotionId),
  ("promotion_hash", .str cleared.selected.promotion.promotionHash),
  ("workload_identity", .str ("sip-provider:" ++ cleared.selected.provider.providerId ++ ":" ++ conversionId)),
  ("worker_lease_generation", .int 1),
  ("lease_ttl_seconds", .int ttlSeconds),
  ("permissions", .texts workerPermissions),
  ("input_assets", .arr ((cleared.sources.sourceSnapshots ++ cleared.sources.referenceSnapshots).map inputAssetDocument)),
  ("output_staging_scope", .obj [
    ("mode", .str "write_only_quarantine"),
    ("namespace", .str ("quarantine/" ++ req.tenantId ++ "/" ++ req.projectId ++ "/" ++ conversionId)),
    ("maximum_bytes", .int estimate.maxOutputBytes)]),
  ("publication_permission", .bool false),
  ("admission_decision_hash", .str admissionHash)]

end Documents

section Create
variable (svc : HybridControlService) (draw : HybridDraw)

/-- The conversion under the idempotency key of a request. -/
def priorConversion? (db : HybridDb) (req : ConversionRequest) : Option SpatialConversionRow :=
  db.conversions.rows.find? fun row =>
    row.tenantId = req.tenantId ∧ row.projectId = req.projectId ∧ row.idempotencyKey = req.idempotencyKey

/-- `hashlib.sha256(token.encode("utf-8")).hexdigest()`. -/
def tokenHash (token : String) : String := sha256Hex (utf8 token.toList)

/-- `datetime.fromtimestamp(int(token_claims["exp"]), UTC)`. -/
def tokenExpiry (py : PyNumbers) (claims : Dict) : Except Raised Nat := do
  let value ← orRaise (claims.get? "exp") (.keyError "exp")
  let exp ← py.int value
  return seconds exp.toNat

structure Admitted where
  req : ConversionRequest
  cleared : Cleared
  estimate : ResourceEstimate
  operationId : String
  conversionId : String
  actorId : String
  decision : Dict
  claims : Dict
  workerToken : String
  expiresAt : Nat

def admittedRow (a : Admitted) : SpatialConversionRow where
  conversionId := a.conversionId
  operationId := a.operationId
  tenantId := a.req.tenantId
  projectId := a.req.projectId
  sceneId := a.req.sceneId
  sceneRevisionId := a.req.sceneRevisionId
  purpose := a.req.purpose
  intendedUsesJson := a.req.intendedUses
  outputRolesJson := a.req.outputRoles
  sourceAssetsJson := a.cleared.sources.sourceSnapshots
  referenceAssetsJson := a.cleared.sources.referenceSnapshots
  constraintsJson := a.req.constraints
  policyContextJson := a.req.policyContext
  providerSelectorJson := a.req.providerSelector
  providerId := a.cleared.selected.provider.providerId
  providerVersion := a.cleared.selected.provider.version
  providerManifestHash := a.cleared.selected.provider.manifestHash
  promotionId := a.cleared.selected.promotion.promotionId
  requestHash := requestHash a.req
  admissionState := "allowed"
  admissionDecisionJson := a.decision
  admissionDecisionHash := canonicalSha256 (.obj a.decision)
  resourceEstimateJson := ResourceEstimate.document a.estimate
  credentialClaimsJson := a.claims
  workerLeaseGeneration := 1
  workerTokenHash := some (tokenHash a.workerToken)
  workerTokenExpiresAt := some a.expiresAt
  state := .admitted
  idempotencyKey := a.req.idempotencyKey
  requestedBy := a.actorId

def requestedPayload (row : SpatialConversionRow) : Dict := [
  ("conversion_id", .str row.conversionId), ("operation_id", .str row.operationId), ("request_hash", .str row.requestHash)]

def admittedPayload (row : SpatialConversionRow) : Dict := [
  ("conversion_id", .str row.conversionId), ("provider_id", .str row.providerId),
  ("provider_manifest_hash", .str row.providerManifestHash), ("promotion_id", .str row.promotionId),
  ("admission_decision_hash", .str row.admissionDecisionHash)]

def conversionEvent (row : SpatialConversionRow) (eventType : String) (payload : Dict) (actorId workload : Option String) :
    EventRequest :=
  hybridEvent eventType "spatial_conversion" row.conversionId row.tenantId row.projectId payload actorId workload

def conversionAudit (row : SpatialConversionRow) (actorId action outcome : String) (details : Dict) : AuditRequest where
  tenantId := row.tenantId
  projectId := some row.projectId
  actorId := actorId
  action := action
  resourceType := "spatial_conversion"
  resourceId := row.conversionId
  outcome := outcome
  details := some details

/-- The insert, with the unique constraints of the table. -/
def insertConversion (db : HybridDb) (row : SpatialConversionRow) : Except Raised HybridDb := do
  raiseIf (row.operationId ∈ db.conversions.rows.map SpatialConversionRow.operationId)
    (.integrityError "spatial_conversions.operation_id")
  raiseIf (∃ other ∈ db.conversions.rows, other.tenantId = row.tenantId ∧ other.projectId = row.projectId ∧
      other.idempotencyKey = row.idempotencyKey) (.integrityError "uq_spatial_conversion_idempotency")
  let conversions ← orRaise (db.conversions.insert? row) (.integrityError "spatial_conversions.conversion_id")
  return { db with conversions }

def writeAdmission (stamp : Stamp) (a : Admitted) (db : HybridDb) : Except Raised (ConversionResult × HybridDb) := do
  let row := admittedRow a
  let db ← insertConversion db row
  let s ← db.emit stamp (conversionEvent row "representation.operation.requested" (requestedPayload row)
    (some a.actorId) none)
  let s ← s.emit stamp (conversionEvent row "representation.operation.admitted" (admittedPayload row) (some a.actorId) none)
  let s ← s.record svc.audit stamp (conversionAudit row a.actorId "hybrid_conversion:admit" "allowed"
    [("request_hash", .str row.requestHash), ("admission_decision_hash", .str row.admissionDecisionHash),
     ("provider_id", .str row.providerId)])
  return (⟨row, some a.workerToken, false⟩, { db with toStore := s })

theorem writeAdmission_eq_ok {svc : HybridControlService} {stamp : Stamp} {a : Admitted} {db db' : HybridDb}
    {result : ConversionResult} (h : writeAdmission svc stamp a db = .ok (result, db')) :
    a.operationId ∉ db.conversions.rows.map SpatialConversionRow.operationId ∧
      db.conversions.insert? (admittedRow a) = some db'.conversions ∧ db'.operations = db.operations := by
  simp only [writeAdmission, insertConversion, bind_eq_ok, raiseIf_eq_ok, orRaise_eq_ok] at h
  obtain ⟨inserted, ⟨_, hoperation, _, _, conversions, hconversions, hdb⟩, s₁, hs₁, s₂, hs₂, s₃, hs₃, hout⟩ := h
  cases hdb
  cases hout
  obtain ⟨_, rfl⟩ := Store.emit_eq_ok hs₁
  obtain ⟨_, rfl⟩ := Store.emit_eq_ok hs₂
  obtain ⟨_, rfl⟩ := Store.record_eq_ok hs₃
  exact ⟨hoperation, hconversions, rfl⟩

/-- The decision and the credential of a cleared request; tokens are issued at the instant of the last transaction. -/
def issue (req : ConversionRequest) (actorId : String) (ttlSeconds : Nat) (cleared : Cleared) (estimate : ResourceEstimate)
    (operationId : String) (receipt : UsageAdmission) : Except Raised Admitted := do
  let quotaReceipt ← UsageAdmission.document receipt
  let decision := admissionDecision req cleared quotaReceipt
  let conversionId := draw.newId .admission
  let claims := credentialClaims req cleared estimate conversionId operationId (draw.newId .verify)
    (canonicalSha256 (.obj decision)) ttlSeconds
  let workerToken := svc.tokenCodec.encode claims (draw.now .admission) ttlSeconds
  let tokenClaims ← svc.tokenCodec.decode svc.py workerToken (draw.now .admission)
  let expiresAt ← tokenExpiry svc.py tokenClaims
  return ⟨req, cleared, estimate, operationId, conversionId, actorId, decision, claims, workerToken, expiresAt⟩

/-- A request whose key has no conversion yet. -/
def admitConversion (req : ConversionRequest) (actorId : String) (traceparent : Option String) (ttlSeconds : Nat) :
    HybridMethod ConversionResult := do
  let cleared ← (clear svc draw req).rescue (recordPreAdmissionRejection svc draw req actorId)
  let maxAttempts ← svc.py.int ((req.policyContext.get? "max_attempts").getD (.int 3))
  let operation ← .perform .createOperation fun db =>
    let (s, result) := svc.operations.create db.toStore (draw.now .createOperation) (draw.newId .createOperation)
      (draw.auditId .createOperation) (operationRequest req cleared.sources actorId maxAttempts traceparent)
    ({ db with toStore := s }, result)
  let estimate ← resourceEstimate svc cleared.sources req.constraints
  let receipt ← (admitUsage svc draw req operation.operationId actorId cleared.selected.provider.providerId
    estimate.inputBytes).rescue (markOperationRejected svc draw operation.operationId)
  let admitted ← issue svc draw req actorId ttlSeconds cleared estimate operation.operationId receipt
  .transaction .admission (writeAdmission svc (draw.stamp .admission) admitted)

/-- The conversion that a request with the same key has produced. -/
def replayOf (req : ConversionRequest) (prior : SpatialConversionRow) : Except Raised ConversionResult := do
  raiseIf (prior.requestHash ≠ requestHash req) (conflictError "HYB_IDEMPOTENCY_PAYLOAD_CONFLICT"
    "conversion idempotency key was reused with different immutable input")
  return ⟨prior, none, true⟩

/-- What is checked of a request without any row. -/
def checkRequest (request : ConversionRequest) (actorId : String) (ttlSeconds : Int) : Except Raised ConversionRequest := do
  raiseIf (¬ (30 ≤ ttlSeconds ∧ ttlSeconds ≤ 900)) (validationError "HYB_WORKER_LEASE_TTL_INVALID"
    "worker lease TTL must be between 30 and 900 seconds")
  let req ← contractOf request
  raiseIf (req.requestedBy ≠ actorId) (authorizationError "HYB_REQUESTER_MISMATCH"
    "conversion requester must match the authenticated actor")
  raiseIf ((given req.requestHash).any (· ≠ requestHash req)) (validationError "HYB_REQUEST_HASH_MISMATCH"
    "conversion request hash does not match canonical content")
  return req

def createConversion (request : ConversionRequest) (actorId : String) (traceparent : Option String := none)
    (ttlSeconds : Int := 900) : HybridMethod ConversionResult := do
  let req ← checkRequest request actorId ttlSeconds
  match ← .read .prior fun db => .ok (priorConversion? db req) with
  | some prior => replayOf req prior
  | none => admitConversion svc draw req actorId traceparent ttlSeconds.toNat

end Create

section Issue
variable (svc : HybridControlService) (draw : HybridDraw) (req : ConversionRequest) (actorId : String) (ttlSeconds : Nat)
  (cleared : Cleared) (estimate : ResourceEstimate) (operationId : String)

theorem tokenExpiry_body (codec : SignedTokenCodec) (py : PyNumbers) (claims : Dict) (issued : Nat)
    (hclaims : (claims.map Prod.fst).Nodup) :
    tokenExpiry py (codec.body claims issued ttlSeconds).sorted = .ok (seconds (unixSeconds issued + ttlSeconds)) := by
  have hvalue := codec.get?_exp_body claims issued ttlSeconds hclaims
  have hnat : ((unixSeconds issued : Int) + ttlSeconds).toNat = unixSeconds issued + ttlSeconds := by omega
  simp only [tokenExpiry, bind_eq_ok, orRaise_eq_ok]
  refine ⟨_, hvalue, _, py.int_int _, ?_⟩
  rw [hnat]
  rfl

theorem nodup_credentialClaims (conversionId credentialId admissionHash : String) :
    ((credentialClaims req cleared estimate conversionId operationId credentialId admissionHash ttlSeconds).map
      Prod.fst).Nodup :=
  (by decide : ["type", "credential_id", "credential_generation", "conversion_id", "operation_id", "tenant_id",
    "project_id", "scene_id", "scene_revision_id", "provider_id", "provider_version", "provider_manifest_hash",
    "promotion_id", "promotion_hash", "workload_identity", "worker_lease_generation", "lease_ttl_seconds",
    "permissions", "input_assets", "output_staging_scope", "publication_permission", "admission_decision_hash"].Nodup)

/-- What is recorded of a cleared request. -/
def admittedOf (quotaReceipt : Json) : Admitted :=
  let decision := admissionDecision req cleared quotaReceipt
  let claims := credentialClaims req cleared estimate (draw.newId .admission) operationId (draw.newId .verify)
    (canonicalSha256 (.obj decision)) ttlSeconds
  ⟨req, cleared, estimate, operationId, draw.newId .admission, actorId, decision, claims,
    svc.tokenCodec.encode claims (draw.now .admission) ttlSeconds, seconds (unixSeconds (draw.now .admission) + ttlSeconds)⟩

/-- A credential can always be issued: the token is read back at the instant at which it is made. -/
theorem issue_of_receipt {receipt : UsageAdmission} {quotaReceipt : Json} (h : UsageAdmission.document receipt = .ok quotaReceipt) :
    issue svc draw req actorId ttlSeconds cleared estimate operationId receipt =
      .ok (admittedOf svc draw req actorId ttlSeconds cleared estimate operationId quotaReceipt) := by
  have hkeys := nodup_credentialClaims req ttlSeconds cleared estimate operationId (draw.newId .admission) (draw.newId .verify)
    (canonicalSha256 (.obj (admissionDecision req cleared quotaReceipt)))
  have hdecode := svc.tokenCodec.decode_encode _ (draw.now .admission) ttlSeconds svc.py hkeys (Nat.le_add_right _ _)
  have hexpiry := tokenExpiry_body ttlSeconds svc.tokenCodec svc.py _ (draw.now .admission) hkeys
  simp only [issue, bind_eq_ok]
  exact ⟨quotaReceipt, h, _, hdecode, _, hexpiry, rfl⟩

end Issue

section Returns
variable {svc : HybridControlService} {draw : HybridDraw} {req : ConversionRequest} {db db' : HybridDb}

/-- What has been checked of a request that was cleared, all in one state. -/
structure ClearedBy (svc : HybridControlService) (draw : HybridDraw) (req : ConversionRequest) (db : HybridDb)
    (cleared : Cleared) : Prop where
  sources : validateConversionSources svc.py.toPyText req db = .ok cleared.sources
  selected : ∃ selection, selectionRequest svc req cleared.sources.effectiveClassification = .ok selection ∧
    svc.providers.select db.toRepresentationDb (draw.now .select) selection = .ok cleared.selected
  known : ∃ value, classificationOf cleared.sources.effectiveClassification = .ok value
  consents : validateConsents svc.py.toPyText (draw.now .consents)
    (consentRequest svc req cleared.sources.effectiveClassification) db = .ok cleared.consentReceipts

theorem clear_eq_ok {cleared : Cleared} (h : (clear svc draw req).run db = (db', .ok cleared)) :
    db = db' ∧ ClearedBy svc draw req db cleared := by
  simp only [clear, Method.bind_eq, Method.pure_eq, Method.liftM_eq, Method.run_bind_eq_ok, Method.run_read_eq_ok,
    Method.run_done_eq_ok] at h
  obtain ⟨_, sources, ⟨rfl, hsources⟩, _, selection, ⟨rfl, hselection⟩, _, selected, ⟨rfl, hselected⟩, _, _, ⟨rfl, _⟩,
    _, _, ⟨rfl, _⟩, _, execution, ⟨rfl, hexecution⟩, _, _, ⟨rfl, _⟩, _, receipts, ⟨rfl, hconsents⟩, _, models, ⟨rfl, _⟩,
    rfl, hcleared⟩ := h
  cases hcleared
  obtain ⟨value, hvalue, _⟩ := bind_eq_ok.mp hexecution
  exact ⟨rfl, hsources, ⟨selection, hselection, hselected⟩, ⟨value, hvalue⟩, hconsents⟩

/-- A conversion that was admitted, and not found again, has been cleared. -/
theorem createConversion_cleared {request : ConversionRequest} {actorId : String} {traceparent : Option String}
    {ttlSeconds : Int} {result : ConversionResult}
    (h : (createConversion svc draw request actorId traceparent ttlSeconds).run db = (db', .ok result))
    (hnew : result.idempotentReplay = false) :
    ∃ req cleared, checkRequest request actorId ttlSeconds = .ok req ∧ ClearedBy svc draw req db cleared := by
  simp only [createConversion, Method.bind_eq, Method.liftM_eq, Method.run_bind_eq_ok, Method.run_read_eq_ok,
    Method.run_done_eq_ok] at h
  obtain ⟨_, req, ⟨rfl, hreq⟩, _, prior, ⟨rfl, hprior⟩, h⟩ := h
  cases prior with
  | some prior =>
    obtain ⟨rfl, hreplay⟩ := Method.run_done_eq_ok.mp h
    obtain ⟨_, _, hresult⟩ := bind_eq_ok.mp hreplay
    cases hresult
    cases hnew
  | none =>
    simp only [admitConversion, Method.bind_eq, Method.run_bind_eq_ok, Method.run_rescue_eq_ok] at h
    obtain ⟨_, cleared, hcleared, _⟩ := h
    exact ⟨req, cleared, hreq, (clear_eq_ok hcleared).2⟩

end Returns

end HybridControl

end Sip
