import Mathlib.Data.List.MinMax
import Sip.Hybrid.Database

/-!
# The inputs of a conversion request

The sources, the references and the sensitivity signals of a request are checked and
folded into one effective classification, which selects the provider, the consents and
the models that the conversion needs. Requests are as the contract accepts them: its
errors are those of the validation library and carry no details here.
-/

namespace Sip

set_option autoImplicit false

structure ConversionAsset where
  assetId : String
  role : String
  sha256 : String
  coordinateFrameId : String
  use : Option String := none

/-- `SpatialConversionRequestContract`. -/
structure ConversionRequest where
  operationId : Option String := none
  tenantId : String
  projectId : String
  sceneId : String
  sceneRevisionId : String
  purpose : String
  intendedUses : List String
  outputRoles : List String
  sourceAssets : List ConversionAsset
  referenceAssets : List ConversionAsset := []
  constraints : Dict := []
  policyContext : Dict
  providerSelector : Dict
  requestedBy : String
  idempotencyKey : String
  requestHash : Option String := none

structure ValidatedSources where
  sourceSnapshots : List SourceSnapshot
  referenceSnapshots : List SourceSnapshot
  effectiveClassification : String
  classificationContext : Dict
  inputBytes : Nat

namespace HybridControl

section Contract

/-- `^(sha256:)?[a-f0-9]{64}$`. -/
def digestPattern (value : String) : Bool :=
  let cs := value.toList
  isDigest (String.ofList (if "sha256:".toList.isPrefixOf cs then cs.drop 7 else cs))

/-- `request_lists_are_unique`. -/
def uniqueTexts (values : List String) : Except Raised (List String) := do
  let texts := values.map fun value => String.ofList (strip value.toList)
  raiseIf ("" ∈ texts ∨ ¬ texts.Nodup) (.valueError "conversion request lists must contain unique non-empty entries")
  return texts

/-- `SpatialConversionRequestContract.model_validate(request)`. -/
def validated (req : ConversionRequest) : Except Raised ConversionRequest := do
  raiseIf (req.intendedUses = [] ∨ req.outputRoles = [] ∨ req.sourceAssets.isEmpty = true ∨
      (∃ item ∈ req.sourceAssets ++ req.referenceAssets, digestPattern item.sha256 = false) ∨
      req.policyContext.isEmpty = true ∨ req.providerSelector.isEmpty = true ∨
      req.idempotencyKey.toList.length < 1 ∨ 256 < req.idempotencyKey.toList.length ∨
      req.requestHash.any (isDigest · = false))
    (.valueError "spatial conversion request")
  let intendedUses ← uniqueTexts req.intendedUses
  let outputRoles ← uniqueTexts req.outputRoles
  return { req with intendedUses, outputRoles }

/-- The contract's errors become the error of the service. -/
def contractOf (req : ConversionRequest) : Except Raised ConversionRequest :=
  match validated req with
  | .ok req => .ok req
  | .error _ => .error (validationError "HYB_CONVERSION_REQUEST_INVALID"
      "spatial conversion request violates the canonical contract")

def assetDocument (item : ConversionAsset) : Json := .obj [
  ("asset_id", .str item.assetId), ("role", .str item.role), ("sha256", .str item.sha256),
  ("coordinate_frame_id", .str item.coordinateFrameId), ("use", .ofOption item.use)]

/-- `contract.model_dump(mode="json", by_alias=True)` without the hash and the operation. -/
def requestBody (req : ConversionRequest) : Dict := [
  ("schema", .str "sip.spatial-conversion.request/1.1"),
  ("tenant_id", .str req.tenantId),
  ("project_id", .str req.projectId),
  ("scene_id", .str req.sceneId),
  ("scene_revision_id", .str req.sceneRevisionId),
  ("purpose", .str req.purpose),
  ("intended_uses", .texts req.intendedUses),
  ("output_roles", .texts req.outputRoles),
  ("source_assets", .arr (req.sourceAssets.map assetDocument)),
  ("reference_assets", .arr (req.referenceAssets.map assetDocument)),
  ("constraints", .obj req.constraints),
  ("policy_context", .obj req.policyContext),
  ("provider_selector", .obj req.providerSelector),
  ("requested_by", .str req.requestedBy),
  ("idempotency_key", .str req.idempotencyKey)]

def requestHash (req : ConversionRequest) : String := canonicalSha256 (.obj (requestBody req))

end Contract

section Classification

/-- `_CLASSIFICATION_RANK.get(item, 999)`. -/
def classificationRank (value : String) : Nat :=
  ([("public", 0), ("internal", 1), ("confidential", 2), ("restricted", 3), ("critical_infrastructure", 4),
    ("biometric", 4), ("minor", 4)].lookup value).getD 999

/-- `_HARD_EXTERNAL_DENY`. -/
def hardExternalDeny : List String := ["critical_infrastructure", "biometric", "minor"]

/-- `_SPATIAL_SENSITIVITY_FLOORS`. -/
def sensitivityFloors : List (String × String) := [
  ("public_fixture", "public"),
  ("public_cleared_landmark_geometry", "public"),
  ("geometry_or_layout", "internal"),
  ("relationship_graph", "confidential"),
  ("private_residential_layout", "restricted"),
  ("restricted_building_system", "restricted"),
  ("inferred_occupancy_or_security", "restricted"),
  ("precise_private_location", "restricted"),
  ("intimate_place", "restricted"),
  ("liveforever_sensitive_relationships", "restricted"),
  ("security_system_topology", "critical_infrastructure"),
  ("critical_infrastructure_layout", "critical_infrastructure"),
  ("biometric_geometry", "biometric"),
  ("minor_relationship_graph", "minor")]

/-- `_EXTERNAL_DENY_SENSITIVITY_SIGNALS`. -/
def externalDenySignals : List String := [
  "private_residential_layout", "restricted_building_system", "inferred_occupancy_or_security",
  "precise_private_location", "intimate_place", "liveforever_sensitive_relationships", "security_system_topology",
  "critical_infrastructure_layout", "biometric_geometry", "minor_relationship_graph"]

/-- `max(classifications, key=..)`: the first of the highest ones; a project always has a classification. -/
def effectiveOf (classifications : List String) : String := (classifications.argmax classificationRank).getD ""

end Classification

section Sources

/-- The asset, its frame and its object, as one input is admitted. -/
def sourceSnapshot (db : HybridDb) (req : ConversionRequest) (item : ConversionAsset) : Except Raised SourceSnapshot := do
  let asset ← orRaise (db.refs.get? item.assetId) (notFoundError "asset" item.assetId)
  raiseIf (asset.tenantId ≠ req.tenantId ∨ asset.projectId ≠ req.projectId ∨ asset.tombstonedAt ≠ none)
    (notFoundError "asset" item.assetId)
  let digest ← normalizeDigest item.sha256
  raiseIf (asset.sha256 ≠ digest) (validationError "HYB_SOURCE_HASH_MISMATCH"
    "conversion source hash does not match immutable storage" [("asset_id", .str item.assetId)])
  let frame ← orRaise (db.frames.get? item.coordinateFrameId) (notFoundError "coordinate_frame" item.coordinateFrameId)
  raiseIf (frame.tenantId ≠ req.tenantId ∨ frame.projectId ≠ req.projectId ∨ frame.deprecatedAt ≠ none)
    (notFoundError "coordinate_frame" item.coordinateFrameId)
  let obj ← orRaise (db.objects.get? asset.sha256) (validationError "HYB_SOURCE_OBJECT_MISSING"
    "conversion source object metadata is missing" [("asset_id", .str item.assetId)])
  return {
    assetId := asset.assetId, sha256 := asset.sha256, role := item.role, coordinateFrameId := item.coordinateFrameId,
    use := item.use, classification := asset.classification, sourceClass := asset.sourceClass,
    authorityClass := asset.authorityClass, legalHold := asset.legalHold, byteCount := obj.byteCount }

/-- The loop over the inputs; an asset may be named once. -/
def snapshots (db : HybridDb) (req : ConversionRequest) : List String → List ConversionAsset →
    Except Raised (List SourceSnapshot)
  | _, [] => .ok []
  | seen, item :: items => do
    raiseIf (item.assetId ∈ seen) (validationError "HYB_DUPLICATE_ASSET_REFERENCE"
      "conversion request references the same asset more than once" [("asset_id", .str item.assetId)])
    let snapshot ← sourceSnapshot db req item
    let rest ← snapshots db req (item.assetId :: seen) items
    return snapshot :: rest

/-- The declared signals: registered identifiers, each once and in order. -/
def sensitivitySignals (policyContext : Dict) : Except Raised (List String) := do
  let invalid := validationError "HYB_SPATIAL_SENSITIVITY_INVALID"
    "spatial sensitivity signals must be a list of non-empty registered identifiers"
  let items ← match (policyContext.get? "spatial_sensitivity").getD (.arr []) with
    | .null => .ok []
    | .arr items => .ok items
    | _ => .error invalid
  let texts ← orRaise (items.mapM Json.text?) invalid
  raiseIf (∃ text ∈ texts, RepresentationService.blank text) invalid
  let signals := sortedSet id (texts.map fun text => String.ofList (strip text.toList))
  let unknown := signals.filter fun signal => sensitivityFloors.lookup signal = none
  raiseIf (unknown ≠ []) (authorizationError "HYB_SPATIAL_SENSITIVITY_UNKNOWN"
    "unknown spatial sensitivity facts fail closed before provider admission"
    [("unknown_signal_count", .int unknown.length)])
  return signals

def floorOf (signal : String) : String := (sensitivityFloors.lookup signal).getD ""

/-- Everything that the effective classification is computed from, in its order. -/
def classificationsOf (project : ProjectRow) (inputs : List SourceSnapshot) (signals : List String) : List String :=
  project.classification :: inputs.map SourceSnapshot.classification ++ signals.map floorOf

def classificationBasis (project : ProjectRow) (inputs : List SourceSnapshot) (signals : List String) : List Json :=
  .obj [("type", .str "project_classification"), ("project_id", .str project.projectId),
    ("classification", .str project.classification)] ::
  inputs.map (fun input => .obj [("type", .str "asset_classification"), ("asset_id", .str input.assetId),
    ("role", .str input.role), ("classification", .str input.classification),
    ("source_class", .str input.sourceClass), ("authority_class", .str input.authorityClass)]) ++
  signals.map (fun signal => .obj [("type", .str "spatial_sensitivity"), ("signal", .str signal),
    ("classification_floor", .str (floorOf signal))])

def externalProcessingDenied (signals : List String) : Bool := signals.any (· ∈ externalDenySignals)

def classificationContext (project : ProjectRow) (inputs : List SourceSnapshot) (signals : List String)
    (policyContext : Dict) : Dict := [
  ("effective_classification", .str (effectiveOf (classificationsOf project inputs signals))),
  ("basis", .arr (classificationBasis project inputs signals)),
  ("spatial_sensitivity", .texts signals),
  ("external_processing_denied", .bool (externalProcessingDenied signals)),
  ("review_evidence_hash", policyContext.get "classification_review_evidence_hash")]

/-- The project, the commit and the inputs of a request. -/
def requestInputs (db : HybridDb) (req : ConversionRequest) :
    Except Raised (ProjectRow × List SourceSnapshot × List SourceSnapshot) := do
  let project ← orRaise (db.projects.get? req.projectId) (notFoundError "project" req.projectId)
  raiseIf (project.tenantId ≠ req.tenantId) (notFoundError "project" req.projectId)
  let commit ← orRaise (db.commits.get? req.sceneRevisionId) (notFoundError "scene_commit" req.sceneRevisionId)
  raiseIf (commit.tenantId ≠ req.tenantId ∨ commit.projectId ≠ req.projectId ∨ commit.sceneId ≠ req.sceneId)
    (notFoundError "scene_commit" req.sceneRevisionId)
  let sources ← snapshots db req [] req.sourceAssets
  let references ← snapshots db req (req.sourceAssets.map ConversionAsset.assetId) req.referenceAssets
  return (project, sources, references)

def checkReviewHash (py : PyText) (policyContext : Dict) : Except Raised Unit :=
  match policyContext.get "classification_review_evidence_hash" with
  | .null => .ok ()
  | reviewHash => requireDigest (py.str reviewHash) "classification_review_evidence_hash"

/-- `_validate_conversion_sources`. -/
def validateConversionSources (py : PyText) (req : ConversionRequest) (db : HybridDb) : Except Raised ValidatedSources := do
  let (project, sources, references) ← requestInputs db req
  let signals ← sensitivitySignals req.policyContext
  let inputs := sources ++ references
  checkReviewHash py req.policyContext
  return {
    sourceSnapshots := sources
    referenceSnapshots := references
    effectiveClassification := effectiveOf (classificationsOf project inputs signals)
    classificationContext := classificationContext project inputs signals req.policyContext
    inputBytes := (inputs.map SourceSnapshot.byteCount).sum }

end Sources

section Provider

/-- `_validate_provider_for_request`: the license evidence of the provider. -/
def checkLicense (py : PyText) (provider : ProviderManifestRow) : Except Raised Unit := do
  raiseIf (provider.dependencyInventoryJson.isEmpty = true) (authorizationError
    "HYB_PROVIDER_DEPENDENCY_INVENTORY_MISSING" "provider cannot execute without a pinned dependency inventory")
  let evidence := provider.licenseEvidenceJson
  raiseIf (evidence.isEmpty = true ∨ ∃ item ∈ evidence, py.str (Dict.get item "review_state") ≠ "verified")
    (authorizationError "HYB_PROVIDER_LICENSE_EVIDENCE_INCOMPLETE"
      "provider license and output-right evidence must be verified before execution")
  let components := evidence.map fun item =>
    String.ofList ((strip (py.str ((Dict.get? item "component").getD (.str ""))).toList).map lowerChar)
  raiseIf (¬ components.Nodup) (authorizationError "HYB_PROVIDER_LICENSE_EVIDENCE_DUPLICATE"
    "provider license evidence components must be unique")
  let required := ["code", "dependencies", "output"] ++
    if provider.modelManifestIdsJson = [] then [] else ["weights", "dataset"]
  let missing := required.filter (· ∉ components)
  raiseIf (missing ≠ []) (authorizationError "HYB_PROVIDER_LICENSE_EVIDENCE_INCOMPLETE"
    "provider approval lacks separately reviewed source, dependency, model-data, or output-right evidence"
    [("missing_component_count", .int missing.length)])

/-- `descriptor.get("data_governance") or {}`. -/
def dataGovernance (descriptor : Dict) : Except Raised Dict :=
  let value := Dict.get descriptor "data_governance"
  if value.truthy then orRaise value.fields? (.attributeError "object has no attribute 'get'") else .ok []

/-- `descriptor.get("output_rights", "").lower()`. -/
def outputRights (descriptor : Dict) : Except Raised String := do
  let text ← orRaise ((Dict.get? descriptor "output_rights").getD (.str "")).text?
    (.attributeError "object has no attribute 'lower'")
  return String.ofList (text.toList.map lowerChar)

/-- The secondary uses of source data, which no request body can authorize. -/
def checkSecondaryUses (py : PyText) (governance : Dict) : List (String × String) → Except Raised Unit
  | [] => .ok ()
  | (field, secondaryUse) :: uses => do
    let posture := py.str ((governance.get? field).getD (.str ""))
    raiseIf (posture ∉ ["prohibited", "separate_authorization_required"]) (authorizationError
      "HYB_PROVIDER_DATA_USE_UNKNOWN" "provider secondary-use posture is unknown")
    raiseIf (posture ≠ "prohibited") (authorizationError "HYB_PROVIDER_SECONDARY_USE_NOT_AUTHORIZED"
      "provider secondary data use requires a separately signed server-side authorization"
      [("secondary_use", .str secondaryUse)])
    checkSecondaryUses py governance uses

def secondaryUses : List (String × String) := [
  ("training_use", "provider_training"), ("public_demonstration", "public_demonstration"),
  ("unrelated_retention", "unrelated_retention")]

/-- The data-governance terms of the descriptor. -/
def checkGovernance (py : PyNumbers) (descriptor policyContext : Dict) : Except Raised Unit := do
  let rights ← outputRights descriptor
  raiseIf (rights ∈ ["", "unknown", "research_only", "prohibited"]) (authorizationError
    "HYB_PROVIDER_OUTPUT_RIGHTS_DENIED" "provider output rights are not approved for this execution")
  let governance ← dataGovernance descriptor
  raiseIf (¬ (governance.get "source_data_use").isText "requested_operation_only") (authorizationError
    "HYB_PROVIDER_DATA_USE_UNBOUNDED" "provider data use is not limited to the admitted operation")
  let region := py.str ((policyContext.get? "region").getD (.str ""))
  let regions ← if (governance.get "processing_regions").truthy then Json.asSet (governance.get "processing_regions")
    else .ok []
  raiseIf (¬ regions.any (Json.isText region)) (authorizationError "HYB_PROVIDER_PROCESSING_REGION_DENIED"
    "provider data-governance terms do not cover the requested processing region")
  checkSecondaryUses py.toPyText governance secondaryUses
  let retention := Dict.get descriptor "retention_days"
  let days ← if retention.truthy then py.int retention else .ok 0
  raiseIf (0 < days) (authorizationError "HYB_PROVIDER_RETENTION_NOT_AUTHORIZED"
    "provider source-data retention requires a separately signed server-side authorization"
    [("retention_days", .int days)])

/-- The transfer of the inputs to the provider and its isolation. -/
def checkSecurity (provider : ProviderManifestRow) (effectiveClassification : String) (policyContext : Dict)
    (externalDenied : Bool) : Except Raised Unit := do
  let security := provider.securityContractJson
  let external := (security.get "external_processing").truthy
  raiseIf (external = true ∧ (effectiveClassification ∈ hardExternalDeny ∨ externalDenied = true)) (authorizationError
    "HYB_SENSITIVE_EXTERNAL_PROCESSING_DENIED"
    "sensitive spatial classifications and disclosure contexts are denied from external providers")
  raiseIf (external = true ∧ ¬ (policyContext.get "allow_external_transfer").truthy) (authorizationError
    "HYB_EXTERNAL_TRANSFER_NOT_APPROVED" "external provider transfer was not explicitly approved")
  raiseIf (¬ (security.get "supports_read_only_inputs").truthy ∨ ¬ (security.get "supports_write_only_staging").truthy)
    (authorizationError "HYB_PROVIDER_SECURITY_CONTRACT_INADEQUATE"
      "provider lacks read-only input and write-only quarantine support")
  raiseIf (security.get "writes_outside_job_workspace").truthy (authorizationError
    "HYB_PROVIDER_UNBOUNDED_WRITE_DENIED" "provider declares writes outside its isolated job workspace")

/-- `_validate_provider_for_request`. -/
def validateProviderForRequest (registry : ProviderRegistry) (py : PyNumbers) (provider : ProviderManifestRow)
    (req : ConversionRequest) (sources : ValidatedSources) (db : HybridDb) : Except Raised Unit := do
  checkLicense py.toPyText provider
  let descriptor ← registry.getDescriptor db.toRepresentationDb provider.providerId
  checkGovernance py descriptor req.policyContext
  raiseIf (∃ item ∈ req.sourceAssets ++ req.referenceAssets, item.role ∉ provider.inputRolesJson)
    (validationError "HYB_PROVIDER_INPUT_ROLE_UNSUPPORTED"
      "provider does not accept every requested source or reference role")
  checkSecurity provider sources.effectiveClassification req.policyContext
    (sources.classificationContext.get "external_processing_denied").truthy

end Provider

section Consents

structure ConsentRequest where
  tenantId : String
  projectId : String
  purpose : String
  intendedUses : List String
  audience : String
  classification : String
  policyContext : Dict

/-- A grant that is in force for the project. -/
def grantInForce (now : Nat) (req : ConsentRequest) (grant : ConsentGrantRow) : Prop :=
  grant.tenantId = req.tenantId ∧ grant.projectId = req.projectId ∧ grant.state = "active" ∧ grant.revokedAt = none ∧
    ¬ grant.expiresAt.any (· ≤ now)

instance (now : Nat) (req : ConsentRequest) (grant : ConsentGrantRow) : Decidable (grantInForce now req grant) :=
  inferInstanceAs (Decidable (_ ∧ _))

/-- What is retained of a grant that was used. -/
def grantReceipt (grant : ConsentGrantRow) : Json := .obj [
  ("grant_id", .str grant.grantId),
  ("grant_snapshot_hash", .str (canonicalSha256 (.obj [
    ("state", .str grant.state),
    ("purposes", .texts grant.purposesJson),
    ("audiences", .texts grant.audiencesJson),
    ("scopes", .texts grant.scopesJson),
    ("derivative_policy", .obj grant.derivativePolicyJson),
    ("expires_at", .ofOption (grant.expiresAt.map isoformat))])))]

/-- One turn of the loop over the grants. -/
def checkGrant (db : HybridDb) (now : Nat) (req : ConsentRequest) (requiredScopes : List String) (grantId : String) :
    Except Raised Json := do
  let named : Dict := [("grant_id", .str grantId)]
  let invalid := authorizationError "HYB_CONSENT_INVALID"
    "conversion consent grant is missing, revoked, expired, or out of scope" named
  let grant ← orRaise (db.grants.get? grantId) invalid
  raiseIf (¬ grantInForce now req grant) invalid
  raiseIf (req.purpose ∉ grant.purposesJson) (authorizationError "HYB_CONSENT_PURPOSE_DENIED"
    "consent does not permit the conversion purpose" named)
  raiseIf (req.audience ∉ grant.audiencesJson) (authorizationError "HYB_CONSENT_AUDIENCE_DENIED"
    "consent does not permit the requested audience" named)
  raiseIf (∃ scopeName ∈ requiredScopes, scopeName ∉ grant.scopesJson) (authorizationError "HYB_CONSENT_SCOPE_DENIED"
    "consent does not include every required derivative scope" named)
  let prohibited ← grant.derivativePolicyJson.setAt "prohibited_uses"
  raiseIf (∃ use ∈ req.intendedUses, prohibited.any (Json.isText use)) (authorizationError
    "HYB_CONSENT_DERIVATIVE_USE_DENIED" "consent derivative policy prohibits a requested intended use" named)
  return grantReceipt grant

/-- The consent that a request needs by its classification or its own declaration. -/
def consentRequired (req : ConsentRequest) : Prop :=
  req.classification ∈ ["biometric", "minor"] ∨ (req.policyContext.get "consent_required").truthy = true

instance (req : ConsentRequest) : Decidable (consentRequired req) := inferInstanceAs (Decidable (_ ∨ _))

/-- `_validate_consents`. -/
def validateConsents (py : PyText) (now : Nat) (req : ConsentRequest) (db : HybridDb) : Except Raised (List Json) := do
  let listed ← stringList py ((req.policyContext.get? "consent_grant_ids").getD (.arr [])) "consent_grant_ids"
  let grantIds := sortedSet id listed
  let requiredScopes ← stringList py ((req.policyContext.get? "required_consent_scopes").getD (.arr []))
    "required_consent_scopes"
  raiseIf (consentRequired req ∧ grantIds = []) (authorizationError "HYB_CONSENT_REQUIRED"
    "conversion requires explicit active consent grants")
  grantIds.mapM (checkGrant db now req requiredScopes)

end Consents

end HybridControl

end Sip
