import Sip.Foundation.Methods
import Sip.Hybrid.Tokens
import Sip.Lifecycle.Quota
import Sip.Operations.Service
import Sip.Policy.Service
import Sip.Representation.Providers

/-!
# The state of the hybrid control service

The control service reads and writes the rows of most other services. Its methods
commit several transactions, some of them through those services; each transaction has
a stage, and a call draws a clock reading and identifiers for every stage.
-/

namespace Sip

set_option autoImplicit false

structure ModelManifestRow where
  modelId : String
  checkpointHash : String

structure ProviderProgressRow where
  progressId : String
  conversionId : String
  sequence : Int
  stage : String
  completedWorkUnits : PyFloat
  totalWorkUnits : Option PyFloat
  workUnitName : String
  resourceUseJson : Dict
  warningsJson : List String
  checkpointHash : Option String
  estimatedOutputBytes : Option Int

/-- An asset that leaves with a manual export, or comes back from one. -/
structure TransferredAsset where
  assetId : String
  sha256 : String
  role : String

structure ManualProviderTransferRow where
  transferId : String
  tenantId : String
  projectId : String
  conversionId : String
  providerId : String
  outboundAssets : List TransferredAsset
  outboundManifestHash : String
  policyDecisionHash : String
  oneTimeCodeHash : String
  receiptJson : Dict := []
  receiptHash : Option String := none
  returnedOutputsJson : List TransferredAsset := []
  state : String := "exported"
  exportedBy : String
  returnedBy : Option String := none
  returnedAt : Option Nat := none

structure InteractionProfileRow where
  profileId : String
  profileType : String
  version : String
  intendedUsesJson : List String

structure HybridSceneViewRow where
  viewId : String
  tenantId : String
  projectId : String
  sceneId : String
  sceneRevisionId : String
  principalId : String
  purpose : String
  audience : String
  deviceProfile : String
  timeContextJson : Dict
  bindingsJson : Dict
  excludedSummaryJson : Dict
  interactionPolicyJson : Dict
  truthLabelsJson : Dict
  streamingJson : Dict
  policySnapshotHash : String
  manifestHash : String
  tokenHash : String
  expiresAt : Nat

structure HybridDb extends RepresentationDb where
  objects : Table AssetRow (fun row => row.sha256)
  models : Table ModelManifestRow (fun row => row.modelId)
  quotas : Table QuotaPolicyRow (fun row => row.quotaId)
  ledger : Table UsageLedgerRow (fun row => row.usageId)
  progress : Table ProviderProgressRow (fun row => row.progressId)
  transfers : Table ManualProviderTransferRow (fun row => row.transferId)
  profiles : Table InteractionProfileRow (fun row => row.profileId)
  views : Table HybridSceneViewRow (fun row => row.viewId)
  identities : Table IdentityRow (fun row => row.identityId)
  roleBindings : Table RoleBindingRow (fun row => row.bindingId)

def HybridDb.empty : HybridDb := { RepresentationDb.empty with
  objects := .empty, models := .empty, quotas := .empty, ledger := .empty, progress := .empty, transfers := .empty,
  profiles := .empty, views := .empty, identities := .empty, roleBindings := .empty }

/-- The transactions of the control service and of the services that it calls. -/
inductive HybridStage where
  | prior | sources | select | descriptor | execution | consents | models | rejection | admission
  | createOperation | quota | rejectOperation | getOperation | lease | start | heartbeat | checkpoint | complete | fail
  | requestCancel | verify | check | createCandidate | attachReceipt | review | write
  deriving DecidableEq

/-- What a call draws from outside at each of its stages. -/
structure HybridDraw where
  now : HybridStage → Nat
  auditId : HybridStage → String
  newId : HybridStage → String

def HybridDraw.stamp (draw : HybridDraw) (stage : HybridStage) : Stamp := ⟨draw.now stage, draw.auditId stage⟩

abbrev HybridMethod (α : Type) := Method HybridStage Raised HybridDb α

section Services
variable {α : Type}

/-- A transaction of the operation service. -/
def onStore (t : Store → Except Raised (Store × α)) (db : HybridDb) : Except Raised (α × HybridDb) := do
  let (s, a) ← t db.toStore
  return (a, { db with toStore := s })

/-- A transaction of the representation service. -/
def onRepresentations (t : RepresentationDb → Except Raised (α × RepresentationDb)) (db : HybridDb) :
    Except Raised (α × HybridDb) := do
  let (a, r) ← t db.toRepresentationDb
  return (a, { db with toRepresentationDb := r })

/-- The tables of the admission controller. -/
def HybridDb.quotaDb (db : HybridDb) : QuotaDb := { db.toStore with quotas := db.quotas, ledger := db.ledger }

def onQuotas (t : QuotaDb → Except Raised (α × QuotaDb)) (db : HybridDb) : Except Raised (α × HybridDb) := do
  let (a, q) ← t db.quotaDb
  return (a, { db with toStore := q.toStore, ledger := q.ledger })

theorem onStore_eq_ok {t : Store → Except Raised (Store × α)} {db db' : HybridDb} {a : α}
    (h : onStore t db = .ok (a, db')) : ∃ s, t db.toStore = .ok (s, a) ∧ db' = { db with toStore := s } := by
  obtain ⟨⟨s, b⟩, ht, hdb⟩ := bind_eq_ok.mp h
  cases hdb
  exact ⟨s, ht, rfl⟩

theorem onRepresentations_eq_ok {t : RepresentationDb → Except Raised (α × RepresentationDb)} {db db' : HybridDb} {a : α}
    (h : onRepresentations t db = .ok (a, db')) :
    ∃ r, t db.toRepresentationDb = .ok (a, r) ∧ db' = { db with toRepresentationDb := r } := by
  obtain ⟨⟨b, r⟩, ht, hdb⟩ := bind_eq_ok.mp h
  cases hdb
  exact ⟨r, ht, rfl⟩

theorem onQuotas_eq_ok {t : QuotaDb → Except Raised (α × QuotaDb)} {db db' : HybridDb} {a : α}
    (h : onQuotas t db = .ok (a, db')) :
    ∃ q, t db.quotaDb = .ok (a, q) ∧ db' = { db with toStore := q.toStore, ledger := q.ledger } := by
  obtain ⟨⟨b, q⟩, ht, hdb⟩ := bind_eq_ok.mp h
  cases hdb
  exact ⟨q, ht, rfl⟩

end Services

/-- `HybridControlService(..)`; whether a model may be used is the decision of the model registry, which only reads. -/
structure HybridControlService where
  audit : AuditService
  operations : OperationService
  providers : ProviderRegistry
  py : PyNumbers
  admission : AdmissionController
  tokenCodec : SignedTokenCodec
  authorizeModel : HybridDb → Nat → ModelManifestRow → String → Classification → String → String → Except Raised Dict
  profileIntegrityValid : InteractionProfileRow → Bool
  environment : String := "production"

namespace HybridControl

section Texts

/-- `value.removeprefix("sha256:").lower()`. -/
def bareDigest (value : String) : List Char :=
  let cs := value.toList
  (if "sha256:".toList.isPrefixOf cs then cs.drop 7 else cs).map lowerChar

/-- `_require_digest`. -/
def requireDigest (value name : String) : Except Raised Unit :=
  raiseIf (isDigest (String.ofList (bareDigest value)) = false)
    (validationError "HYB_DIGEST_INVALID" (name ++ " must be an exact lowercase SHA-256 digest"))

/-- `_normalize_digest`. -/
def normalizeDigest (value : String) : Except Raised String := do
  requireDigest (String.ofList (bareDigest value)) "sha256"
  return String.ofList (bareDigest value)

/-- `str(value).strip()`. -/
def stripped (py : PyText) (value : Json) : String := String.ofList (strip (py.str value).toList)

/-- `_required_text`. -/
def requiredText (py : PyText) (d : Dict) (key : String) : Except Raised String := do
  let text := stripped py ((d.get? key).getD (.str ""))
  raiseIf (text = "") (validationError "HYB_POLICY_CONTEXT_INCOMPLETE"
    "conversion policy context is missing a required field" [("field", .str key)])
  return text

/-- `_string_list`. -/
def stringList (py : PyText) (value : Json) (name : String) : Except Raised (List String) :=
  match value with
  | .null => .ok []
  | .arr items => do
    let texts := items.map (stripped py)
    raiseIf ("" ∈ texts ∨ ¬ texts.Nodup)
      (validationError "HYB_LIST_INVALID" (name ++ " must contain unique non-empty strings"))
    return texts
  | _ => .error (validationError "HYB_LIST_INVALID" (name ++ " must be a list"))

/-- `str(d.get(key) or default)`. -/
def textOr (py : PyText) (d : Dict) (key default : String) : String :=
  if (d.get key).truthy then py.str (d.get key) else default

end Texts

/-- `_event`: the events of conversions come from one producer. -/
def hybridEvent (eventType aggregateType aggregateId tenantId projectId : String) (payload : Dict)
    (actorId workloadIdentity : Option String) : EventRequest where
  eventType := eventType
  schemaVersion := "1.0.0"
  tenantId := tenantId
  projectId := projectId
  aggregateType := aggregateType
  aggregateId := aggregateId
  payload := payload
  producer := "representation-api"
  actorId := actorId
  workloadIdentity := workloadIdentity
  correlationId := aggregateId

/-- `_scoped_conversion`. -/
def scopedConversion (db : HybridDb) (conversionId tenantId projectId : String) : Except Raised SpatialConversionRow := do
  let row ← orRaise (db.conversions.get? conversionId) (notFoundError "spatial_conversion" conversionId)
  raiseIf (row.tenantId ≠ tenantId ∨ row.projectId ≠ projectId) (notFoundError "spatial_conversion" conversionId)
  return row

theorem scopedConversion_eq_ok {db : HybridDb} {conversionId tenantId projectId : String} {row : SpatialConversionRow}
    (h : scopedConversion db conversionId tenantId projectId = .ok row) : db.conversions.get? conversionId = some row := by
  simp only [scopedConversion, bind_eq_ok, orRaise_eq_ok, raiseIf_eq_ok] at h
  obtain ⟨found, hfound, _, _, hrow⟩ := h
  cases hrow
  exact hfound

/-- Write the changed columns of a conversion back. -/
def saveConversion (db : HybridDb) (row : SpatialConversionRow) : HybridDb :=
  { db with conversions := db.conversions.set row }

end HybridControl

end Sip
