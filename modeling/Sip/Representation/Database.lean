import Sip.Scene.Service
import Sip.Spatial.Assertions
import Sip.Spatial.Measurements

/-!
# The rows of providers, representations and conversions

Provider manifests and their promotions, the representations that are derived with
them, and the conversions that govern such a derivation. The documents that services
read by key stay documents; lists that every writer fills with texts are lists of
texts.
-/

namespace Sip

set_option autoImplicit false

structure ProviderManifestRow where
  providerId : String
  version : String
  providerClass : String := "local_open_source"
  sourceRevision : String
  imageDigest : Option String := none
  executableDigest : Option String := none
  approvalState : String := "denied"
  allowedClassificationsJson : List String := []
  allowedPurposesJson : List String := []
  allowedRegionsJson : List String := []
  deploymentsJson : List String := []
  executionModesJson : List String := []
  inputRolesJson : List String := []
  outputRolesJson : List String := []
  coordinateContractJson : Dict := []
  securityContractJson : Dict := []
  recoveryContractJson : Dict := []
  modelManifestIdsJson : List String := []
  dependencyInventoryJson : List Dict := []
  licenseEvidenceJson : List Dict := []
  benchmarkProfileIdsJson : List String := []
  descriptorJson : Dict := []
  retentionDays : Option Int := none
  expiresAt : Option Nat := none
  manifestHash : String
  manifestSignature : Option String := none

structure ProviderManifestRevisionRow where
  manifestHash : String
  providerId : String
  providerVersion : String
  descriptorJson : Dict
  manifestSignature : String

inductive PromotionState where
  | discovered | researchIsolated | shadow | limited | active | deprecated | blocked
  deriving DecidableEq

def PromotionState.value : PromotionState → String
  | .discovered => "discovered"
  | .researchIsolated => "research_isolated"
  | .shadow => "shadow"
  | .limited => "limited"
  | .active => "active"
  | .deprecated => "deprecated"
  | .blocked => "blocked"

/-- What a promotion is signed for. -/
structure PromotionScope where
  dataClassifications : List String
  sceneClasses : List String
  outputRoles : List String
  intendedUses : List String
  executionZones : List String
  hardwareProfiles : List String

structure ProviderPromotionRow extends PromotionScope where
  promotionId : String
  providerId : String
  providerVersion : String
  providerManifestHash : String
  state : PromotionState
  benchmarkEvidenceHash : String
  policySnapshotHash : String
  validFrom : Nat
  validUntil : Option Nat
  promotionHash : String
  signedBy : String
  signature : String
  supersededAt : Option Nat := none

inductive ConversionState where
  | admitted | running | manualExported | returnedPendingValidation | quarantined | validated | qualityFailed
  | cancelRequested | cancelled | rejected | published | failedRetryable | failedTerminal | cleanupQuarantined
  deriving DecidableEq

def ConversionState.value : ConversionState → String
  | .admitted => "admitted"
  | .running => "running"
  | .manualExported => "manual_exported"
  | .returnedPendingValidation => "returned_pending_validation"
  | .quarantined => "quarantined"
  | .validated => "validated"
  | .qualityFailed => "quality_failed"
  | .cancelRequested => "cancel_requested"
  | .cancelled => "cancelled"
  | .rejected => "rejected"
  | .published => "published"
  | .failedRetryable => "failed_retryable"
  | .failedTerminal => "failed_terminal"
  | .cleanupQuarantined => "cleanup_quarantined"

/-- An input of a conversion as it was admitted. -/
structure SourceSnapshot where
  assetId : String
  sha256 : String
  role : String
  coordinateFrameId : String
  use : Option String
  classification : String
  sourceClass : String
  authorityClass : String
  legalHold : Bool
  byteCount : Nat

structure SpatialConversionRow where
  conversionId : String
  operationId : String
  tenantId : String
  projectId : String
  sceneId : String
  sceneRevisionId : String
  purpose : String
  intendedUsesJson : List String
  outputRolesJson : List String
  sourceAssetsJson : List SourceSnapshot
  referenceAssetsJson : List SourceSnapshot
  constraintsJson : Dict
  policyContextJson : Dict
  providerSelectorJson : Dict
  providerId : String
  providerVersion : String
  providerManifestHash : String
  promotionId : String
  requestHash : String
  admissionState : String
  admissionDecisionJson : Dict
  admissionDecisionHash : String
  resourceEstimateJson : Dict
  credentialClaimsJson : Dict
  workerLeaseGeneration : Int := 1
  workerTokenHash : Option String := none
  workerTokenExpiresAt : Option Nat := none
  failureJson : Dict := []
  failureHash : Option String := none
  cleanupReceiptHash : Option String := none
  candidateRepresentationId : Option String := none
  state : ConversionState := .admitted
  idempotencyKey : String
  requestedBy : String

structure IntendedUseValidationRow where
  validationId : String
  tenantId : String
  projectId : String
  conversionId : String
  representationId : String
  intendedUse : String
  profileId : String
  profileVersion : String
  validatorId : String
  validatorManifestHash : String
  metricsJson : Dict
  thresholdsJson : Dict
  coverageJson : Dict
  topologyJson : Dict
  coordinateValidationJson : Dict
  behaviorValidationJson : Dict
  limitationsJson : List String
  passed : Bool
  candidateSnapshotHash : String
  policySnapshotHash : String
  validationHash : String

structure RepresentationDb extends Store where
  refs : Table AssetRefRow (fun row => row.assetId)
  frames : Table CoordinateFrameRow (fun row => row.frameId)
  commits : Table SceneCommitRow (fun row => row.commitId)
  grants : Table ConsentGrantRow (fun row => row.grantId)
  providers : Table ProviderManifestRow (fun row => row.providerId)
  revisions : Table ProviderManifestRevisionRow (fun row => row.manifestHash)
  promotions : Table ProviderPromotionRow (fun row => row.promotionId)
  representations : Table RepresentationAssetRow (fun row => row.representationId)
  bindings : Table RepresentationBindingRow (fun row => row.bindingId)
  conversions : Table SpatialConversionRow (fun row => row.conversionId)
  validations : Table IntendedUseValidationRow (fun row => row.validationId)

def RepresentationDb.empty : RepresentationDb := { Store.empty with
  refs := .empty, frames := .empty, commits := .empty, grants := .empty, providers := .empty, revisions := .empty,
  promotions := .empty, representations := .empty, bindings := .empty, conversions := .empty, validations := .empty }

namespace Dict

/-- `set(d.get(key, []))`. -/
def setAt (d : Dict) (key : String) : Except Raised (List Json) := Json.asSet ((d.get? key).getD (.arr []))

/-- `str(item) for item in d.get(key, [])`. -/
def textsAt (py : PyText) (d : Dict) (key : String) : Except Raised (List String) := do
  let items ← Json.iterate ((d.get? key).getD (.arr []))
  return items.map py.str

/-- `{**d, **e}`. -/
def merge (d e : Dict) : Dict := e.foldl (fun d field => d.set field.1 field.2) d

theorem lookup_merge_of_not_mem (d : Dict) {e : Dict} {key : String} (h : key ∉ e.map Prod.fst) :
    (d.merge e).lookup key = d.lookup key := by
  induction e generalizing d with
  | nil => rfl
  | cons field e ih =>
    rw [List.map_cons, List.mem_cons, not_or] at h
    have hrest := ih (d.set field.1 field.2) h.2
    rw [lookup_set, if_neg h.1] at hrest
    exact hrest

theorem lookup_merge_of_mem (d : Dict) {e : Dict} (he : (e.map Prod.fst).Nodup) {key : String} {value : Json}
    (h : (key, value) ∈ e) : (d.merge e).lookup key = some value := by
  induction e generalizing d with
  | nil => exact absurd h List.not_mem_nil
  | cons field e ih =>
    rw [List.map_cons, List.nodup_cons] at he
    rcases List.mem_cons.mp h with rfl | hrest
    · have hkept := lookup_merge_of_not_mem (d.set key value) he.1
      rw [lookup_set, if_pos rfl] at hkept
      exact hkept
    · exact ih (d.set field.1 field.2) he.2 hrest

end Dict

/-- A text list as a JSON document. -/
def Json.texts (texts : List String) : Json := .arr (texts.map .str)

end Sip
