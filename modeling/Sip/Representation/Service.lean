import Mathlib.Data.List.MinMax
import Sip.PyEquality
import Sip.Representation.Database

/-!
# The representation service

A candidate is created in quarantine with a policy that is computed from its sources,
gets the evidence of its worker attached, and is reviewed for its uses. When a
resource changes, the representations that refer to it are taken out of service.
Identifiers in documents are texts: a list that holds anything else is refused, as
the comparison with a text column is.
-/

namespace Sip

set_option autoImplicit false

structure CandidateRequest where
  tenantId : String
  projectId : String
  sceneId : String
  assetId : String
  kind : RepresentationKind
  providerId : String
  coordinateFrameId : String
  sourceClass : SourceClass
  authorityClass : AuthorityClass
  lossy : Bool
  intendedUses : List String
  prohibitedUses : List String
  quality : Dict
  provenance : Dict
  supportMap : Dict
  actorId : String
  operationId : Option String := none
  representationId : Option String := none
  formatMetadata : Option Dict := none
  derivationPolicy : Option Dict := none
  limitations : Option (List String) := none
  informationLosses : Option (List String) := none
  privacyInheritance : Option Dict := none
  dependencies : Option (List String) := none
  fallbackRepresentationId : Option String := none
  metadata : Option Dict := none

/-- What a call draws: an identifier for a new row besides the stamp. -/
structure RepresentationStamp extends Stamp where
  newId : String

namespace RepresentationService

section Inheritance
variable (py : PyText)

/-- `sorted(set(provenance.get("source_ids", [])) | set(requested.get("source_ids", [])))`. -/
def sourceIds (provenance requested : Dict) : Except Raised (List String) := do
  let produced ← provenance.setAt "source_ids"
  let declared ← requested.setAt "source_ids"
  let ids ← orRaise ((produced ++ declared).mapM Json.text?) (.typeError "source identifiers are texts")
  return sortedSet id ids

/-- `source_ids or ["__none__"]`. -/
def queriedIds (ids : List String) : List String := if ids = [] then ["__none__"] else ids

def assetSources (db : RepresentationDb) (tenantId projectId : String) (ids : List String) : List AssetRefRow :=
  db.refs.rows.filter fun row =>
    row.tenantId = tenantId ∧ row.projectId = projectId ∧ row.assetId ∈ queriedIds ids

def representationSources (db : RepresentationDb) (tenantId projectId : String) (ids : List String) :
    List RepresentationAssetRow :=
  db.representations.rows.filter fun row =>
    row.tenantId = tenantId ∧ row.projectId = projectId ∧ row.representationId ∈ queriedIds ids

/-- `(row.provenance_json or {}).get("policy", {})`, if it is a dictionary. -/
def assetPolicy? (row : AssetRefRow) : Option Dict := ((row.provenanceJson.get? "policy").getD (.obj [])).fields?

/-- The policies of the sources, in the order they are read. -/
def sourcePolicies (assets : List AssetRefRow) (representations : List RepresentationAssetRow) : List Dict :=
  assets.filterMap assetPolicy? ++ representations.map RepresentationAssetRow.privacyInheritanceJson

/-- `str(policy["classification"])`, if there is a true one. -/
def declaredClassification? (policy : Dict) : Option String :=
  if (policy.get "classification").truthy then some (py.str (policy.get "classification")) else none

def classifications (assets : List AssetRefRow) (representations : List RepresentationAssetRow) (requested : Dict) :
    List String :=
  assets.map AssetRefRow.classification ++
    representations.filterMap (fun row => declaredClassification? py row.privacyInheritanceJson) ++
    (declaredClassification? py requested).toList

/-- `classification_order.get(value, 99)`. -/
def classificationRank (value : String) : Nat :=
  ([("public", 0), ("internal", 1), ("confidential", 2), ("restricted", 3), ("critical_infrastructure", 4),
    ("biometric", 5), ("minor", 5)].lookup value).getD 99

/-- `max(classifications or ["internal"], key=..)`: the first of the highest ones. -/
def effectiveClassification (classifications : List String) : String :=
  (classifications.argmax classificationRank).getD "internal"

/-- The texts that the dictionaries list under a key. -/
def textsOf (key : String) (policies : List Dict) : Except Raised (List String) := do
  let texts ← policies.mapM fun policy => policy.textsAt py key
  return texts.flatten

def retentionClasses (assets : List AssetRefRow) (representations : List RepresentationAssetRow) (requested : Dict) :
    Except Raised (List String) := do
  let declared ← textsOf py "retention_classes"
    (representations.map RepresentationAssetRow.privacyInheritanceJson ++ [requested])
  return sortedSet id (assets.map AssetRefRow.retentionClass ++ declared)

def legalHold (assets : List AssetRefRow) (representations : List RepresentationAssetRow) (requested : Dict) : Bool :=
  assets.any AssetRefRow.legalHold ||
    representations.any (fun row => (row.privacyInheritanceJson.get "legal_hold").truthy) ||
    (requested.get "legal_hold").truthy

/-- The audiences of the policies that declare some. -/
def audienceSets (policies : List Dict) : Except Raised (List (List String)) :=
  (policies.filter fun policy => (policy.get "allowed_audiences").truthy).mapM fun policy =>
    policy.textsAt py "allowed_audiences"

/-- `sorted(set.intersection(*audience_sets)) if audience_sets else []`. -/
def intersection (sets : List (List String)) : List String :=
  match sets with
  | [] => []
  | first :: rest => sortedSet id (first.filter fun item => rest.all fun set => item ∈ set)

def allowedAudiences (policies : List Dict) : Except Raised (List String) := do
  let sets ← audienceSets py policies
  raiseIf (sets ≠ [] ∧ intersection sets = []) (validationError "DERIVATIVE_AUDIENCE_POLICY_EMPTY"
    "source audience policies have no permitted intersection")
  return intersection sets

def unionKeys : List String := ["consent_grant_ids", "export_dependencies", "deletion_dependencies", "legal_hold_ids"]

def inheritedUnions (policies : List Dict) : Except Raised Dict :=
  unionKeys.mapM fun key => do
    let texts ← textsOf py key policies
    return (key, Json.texts (sortedSet id texts))

/-- What the output asset adds: the hold is put on it, or it is reported as unresolved. -/
def holdOutput (db : RepresentationDb) (tenantId projectId assetId classification : String) (held : Bool) :
    Except Raised (List String × Table AssetRefRow (fun row => row.assetId)) :=
  match (db.refs.get? assetId).filter fun asset => asset.tenantId = tenantId ∧ asset.projectId = projectId with
  | none => .ok (["output_asset_reference_unresolved"], db.refs)
  | some asset => do
    raiseIf (classificationRank asset.classification < classificationRank classification)
      (validationError "DERIVATIVE_CLASSIFICATION_DOWNGRADE"
        "derived asset classification is less restrictive than an input"
        [("output_asset_id", .str assetId), ("output_classification", .str asset.classification),
         ("required_classification", .str classification)])
    return ([], if held then db.refs.set { asset with legalHold := true } else db.refs)

structure InheritanceRequest where
  tenantId : String
  projectId : String
  outputAssetId : String
  provenance : Dict
  requested : Dict

/-- The policy without its hash. -/
def inheritedFields (req : InheritanceRequest) (ids matched : List String) (classification : String)
    (retention : List String) (held : Bool) (blockers : List String) (unions : Dict) (audiences : List String) : Dict :=
  let unresolved := sortedSet id (ids.filter (· ∉ matched))
  let blockers := blockers ++ if unresolved = [] then [] else ["source_policy_unresolved"]
  let fields := (req.requested.merge [
    ("source_ids", .texts ids),
    ("resolved_source_ids", .texts (sortedSet id matched)),
    ("unresolved_source_policy_ids", .texts unresolved),
    ("classification", .str classification),
    ("retention_classes", .texts retention),
    ("legal_hold", .bool held),
    ("policy_blockers", .texts (sortedSet id blockers))]).merge unions
  if audiences = [] then fields else fields.set "allowed_audiences" (.texts audiences)

/-- `_effective_privacy_inheritance`: the policy, and the references with the hold on the output asset. -/
def effectivePrivacyInheritance (db : RepresentationDb) (req : InheritanceRequest) :
    Except Raised (Dict × Table AssetRefRow (fun row => row.assetId)) := do
  let ids ← sourceIds req.provenance req.requested
  let assets := assetSources db req.tenantId req.projectId ids
  let representations := representationSources db req.tenantId req.projectId ids
  let matched := assets.map AssetRefRow.assetId ++ representations.map RepresentationAssetRow.representationId
  let retention ← retentionClasses py assets representations req.requested
  let held := legalHold assets representations req.requested
  let classification := effectiveClassification (classifications py assets representations req.requested)
  let policies := sourcePolicies assets representations ++ [req.requested]
  let audiences ← allowedAudiences py policies
  let unions ← inheritedUnions py policies
  let (blockers, refs) ← holdOutput db req.tenantId req.projectId req.outputAssetId classification held
  let fields := inheritedFields req ids matched classification retention held blockers unions audiences
  let hashed := fields.filter fun field => field.1 ≠ "inheritance_hash"
  return (fields.set "inheritance_hash" (.str (canonicalSha256 (.obj hashed))), refs)

end Inheritance

section Create
variable (svc : AuditService) (py : PyText)

/-- The combinations of kind, source and authority that no candidate may have. -/
def checkAuthority (req : CandidateRequest) : Except Raised Unit := do
  raiseIf (req.kind = .interaction ∧ req.authorityClass ≠ .derivedNonAuthoritative)
    (validationError "INTERACTION_AUTHORITY_INVALID"
      "interaction proxies must carry the exact derived_non_authoritative authority class")
  raiseIf (req.kind = .visual ∧ req.authorityClass ∈ [.metric, .fieldVerified])
    (validationError "VISUAL_AUTHORITY_INVALID" "visual representations cannot carry metric authority")
  raiseIf (req.kind = .metric ∧ req.sourceClass = .generated ∧ req.authorityClass = .fieldVerified)
    (validationError "GENERATED_VERIFICATION_INVALID" "generated geometry cannot be field verified by confidence alone")

/-- `str.strip()` leaves nothing. -/
def blank (text : String) : Bool := strip text.toList = []

/-- `"splat" in str(format_metadata.get("format", "")).lower()`. -/
def declaresSplat (formatMetadata : Dict) : Prop :=
  "splat".toList <:+: (py.str ((formatMetadata.get? "format").getD (.str ""))).toList.map lowerChar

instance (formatMetadata : Dict) : Decidable (declaresSplat py formatMetadata) :=
  inferInstanceAs (Decidable (_ <:+: _))

def candidateId (stamp : RepresentationStamp) (req : CandidateRequest) : String :=
  (given req.representationId).getD stamp.newId

/-- The checks that need no row. -/
def checkCandidate (stamp : RepresentationStamp) (req : CandidateRequest) : Except Raised Unit := do
  checkAuthority req
  raiseIf (declaresSplat py (req.formatMetadata.getD []) ∧ ¬ ((req.metadata.getD []).get "truth_label").truthy)
    (validationError "SPLAT_TRUTH_LABEL_REQUIRED"
      "Gaussian or splat representations require an explicit visual/non-metric truth label")
  raiseIf (req.fallbackRepresentationId = some (candidateId stamp req))
    (validationError "REPRESENTATION_FALLBACK_CYCLE" "representation cannot fall back to itself")
  raiseIf (blank req.sceneId) (validationError "REPRESENTATION_SCENE_ID_INVALID"
    "representation candidates require a concrete scene identifier")
  raiseIf (blank req.assetId) (validationError "REPRESENTATION_ASSET_ID_INVALID"
    "representation candidates require a concrete immutable asset identifier")
  raiseIf (blank req.coordinateFrameId) (validationError "REPRESENTATION_FRAME_ID_INVALID"
    "representation candidates require a concrete coordinate-frame identifier")

/-- `if provider.expires_at and _aware(provider.expires_at) <= db_now()`. -/
def expired (expiresAt : Option Nat) (now : Nat) : Bool := expiresAt.any (· ≤ now)

/-- The asset, the frame, the scene and the provider of a candidate. -/
def checkReferences (db : RepresentationDb) (now : Nat) (req : CandidateRequest) : Except Raised Unit := do
  let asset ← orRaise (db.refs.get? req.assetId) (notFoundError "asset" req.assetId)
  raiseIf (asset.tenantId ≠ req.tenantId ∨ asset.projectId ≠ req.projectId ∨ asset.tombstonedAt ≠ none)
    (notFoundError "asset" req.assetId)
  let frame ← orRaise (db.frames.get? req.coordinateFrameId) (notFoundError "coordinate_frame" req.coordinateFrameId)
  raiseIf (frame.tenantId ≠ req.tenantId ∨ frame.projectId ≠ req.projectId ∨ frame.deprecatedAt ≠ none)
    (notFoundError "coordinate_frame" req.coordinateFrameId)
  raiseIf (∀ commit ∈ db.commits.rows,
      ¬ (commit.tenantId = req.tenantId ∧ commit.projectId = req.projectId ∧ commit.sceneId = req.sceneId))
    (notFoundError "scene" req.sceneId)
  let provider ← orRaise (db.providers.get? req.providerId) (notFoundError "provider_manifest" req.providerId)
  raiseIf (provider.approvalState ≠ "approved") (authorizationError "REPRESENTATION_PROVIDER_NOT_APPROVED"
    "new representation candidates require an approved provider manifest"
    [("provider_id", .str req.providerId), ("approval_state", .str provider.approvalState)])
  raiseIf (expired provider.expiresAt now) (authorizationError "REPRESENTATION_PROVIDER_APPROVAL_EXPIRED"
    "new representation candidates cannot use an expired provider approval" [("provider_id", .str req.providerId)])

def checkFallback (db : RepresentationDb) (req : CandidateRequest) : Except Raised Unit :=
  match given req.fallbackRepresentationId with
  | none => .ok ()
  | some fallbackId => do
    let fallback ← orRaise (db.representations.get? fallbackId) (notFoundError "fallback_representation" fallbackId)
    raiseIf (fallback.tenantId ≠ req.tenantId ∨ fallback.projectId ≠ req.projectId ∨ fallback.sceneId ≠ req.sceneId)
      (notFoundError "fallback_representation" fallbackId)

/-- Interaction proxies never rise above their derived authority. -/
def authorityCeiling (req : CandidateRequest) : AuthorityClass :=
  if req.kind = .interaction then .derivedNonAuthoritative else req.authorityClass

def informationLosses (req : CandidateRequest) : List String :=
  let losses := sortedSet id (req.informationLosses.getD [])
  if req.lossy ∧ losses = [] then ["provider_declared_lossy_conversion"] else losses

def candidateManifest (stamp : RepresentationStamp) (req : CandidateRequest) (policy : Dict) : Json := .obj [
  ("representation_id", .str (candidateId stamp req)),
  ("tenant_id", .str req.tenantId),
  ("project_id", .str req.projectId),
  ("scene_id", .str req.sceneId),
  ("asset_id", .str req.assetId),
  ("operation_id", .ofOption req.operationId),
  ("kind", .str req.kind.value),
  ("provider_id", .str req.providerId),
  ("coordinate_frame_id", .str req.coordinateFrameId),
  ("source_class", .str req.sourceClass.value),
  ("authority_class", .str req.authorityClass.value),
  ("authority_ceiling", .str (authorityCeiling req).value),
  ("lossy", .bool req.lossy),
  ("intended_uses", .texts req.intendedUses),
  ("prohibited_uses", .texts req.prohibitedUses),
  ("format", .obj (req.formatMetadata.getD [])),
  ("derivation_policy", .obj (req.derivationPolicy.getD [])),
  ("limitations", .texts (sortedSet id (req.limitations.getD []))),
  ("information_losses", .texts (informationLosses req)),
  ("privacy_inheritance", .obj policy),
  ("dependencies", .texts (sortedSet id (req.dependencies.getD []))),
  ("fallback_representation_id", .ofOption req.fallbackRepresentationId),
  ("metadata", .obj (req.metadata.getD [])),
  ("provenance_hash", .str (canonicalSha256 (.obj req.provenance))),
  ("support_map_hash", .str (canonicalSha256 (.obj req.supportMap)))]

def candidateRow (stamp : RepresentationStamp) (req : CandidateRequest) (policy : Dict) : RepresentationAssetRow where
  representationId := candidateId stamp req
  tenantId := req.tenantId
  projectId := req.projectId
  sceneId := req.sceneId
  assetId := req.assetId
  operationId := req.operationId
  kind := req.kind
  providerId := req.providerId
  coordinateFrameId := req.coordinateFrameId
  sourceClass := req.sourceClass
  authorityClass := req.authorityClass
  authorityCeiling := authorityCeiling req
  disposable := req.kind = .interaction
  lossy := req.lossy
  intendedUsesJson := req.intendedUses
  prohibitedUsesJson := req.prohibitedUses
  qualityJson := req.quality
  provenanceJson := req.provenance
  supportMapJson := req.supportMap
  formatJson := req.formatMetadata.getD []
  derivationPolicyJson := req.derivationPolicy.getD []
  limitationsJson := sortedSet id (req.limitations.getD [])
  informationLossJson := informationLosses req
  privacyInheritanceJson := policy
  dependenciesJson := sortedSet id (req.dependencies.getD [])
  fallbackRepresentationId := req.fallbackRepresentationId
  manifestHash := canonicalSha256 (candidateManifest stamp req policy)
  metadataJson := req.metadata.getD []
  state := "quarantined"

def sameDocument (a b : Dict) : Prop := canonicalSha256 (.obj a) = canonicalSha256 (.obj b)

instance (a b : Dict) : Decidable (sameDocument a b) := inferInstanceAs (Decidable (_ = _))

/-- An operation that has a candidate already may only repeat it. -/
def SameCandidate (existing row : RepresentationAssetRow) : Prop :=
  existing.sceneId = row.sceneId ∧ existing.assetId = row.assetId ∧ existing.kind = row.kind ∧
  existing.coordinateFrameId = row.coordinateFrameId ∧ existing.providerId = row.providerId ∧
  existing.sourceClass = row.sourceClass ∧ existing.authorityClass = row.authorityClass ∧ existing.lossy = row.lossy ∧
  existing.intendedUsesJson = row.intendedUsesJson ∧ existing.prohibitedUsesJson = row.prohibitedUsesJson ∧
  sameDocument existing.provenanceJson row.provenanceJson ∧ sameDocument existing.formatJson row.formatJson ∧
  sameDocument existing.derivationPolicyJson row.derivationPolicyJson ∧
  existing.limitationsJson = row.limitationsJson ∧ existing.informationLossJson = row.informationLossJson ∧
  sameDocument existing.privacyInheritanceJson row.privacyInheritanceJson ∧
  existing.dependenciesJson = row.dependenciesJson ∧
  existing.fallbackRepresentationId = row.fallbackRepresentationId

instance (existing row : RepresentationAssetRow) : Decidable (SameCandidate existing row) :=
  inferInstanceAs (Decidable (_ ∧ _))

/-- The candidate that an operation has produced. -/
def candidateOf? (db : RepresentationDb) (tenantId projectId : String) (operationId : Option String) :
    Option RepresentationAssetRow := do
  let operationId ← given operationId
  db.representations.rows.find? fun row =>
    row.tenantId = tenantId ∧ row.projectId = projectId ∧ row.operationId = some operationId

def checkRepeated (existing row : RepresentationAssetRow) : Except Raised Unit := do
  raiseIf (¬ SameCandidate existing row) (conflictError "REPRESENTATION_OPERATION_CONFLICT"
    "operation is already bound to a different representation candidate")
  raiseIf (existing.representationId ≠ row.representationId) (conflictError "REPRESENTATION_IDEMPOTENCY_CONFLICT"
    "operation candidate identifier does not match the durable candidate")

def candidatePayload (row : RepresentationAssetRow) : Dict := [
  ("candidate_id", .str row.representationId), ("representation_id", .str row.representationId),
  ("operation_id", .ofOption row.operationId), ("asset_id", .str row.assetId), ("kind", .str row.kind.value),
  ("provider_id", .str row.providerId), ("state", .str "quarantined"), ("manifest_hash", .str row.manifestHash),
  ("authority_ceiling", .str row.authorityCeiling.value)]

def candidateEvent (row : RepresentationAssetRow) (actorId : String) : EventRequest where
  eventType := "representation.candidate_created"
  schemaVersion := "1.0.0"
  tenantId := row.tenantId
  projectId := row.projectId
  aggregateType := "representation"
  aggregateId := row.representationId
  payload := candidatePayload row
  producer := "representation-api"
  actorId := some actorId
  workloadIdentity := none
  correlationId := (given row.operationId).getD row.representationId
  causationId := row.operationId

def candidateAudit (row : RepresentationAssetRow) (actorId : String) : AuditRequest where
  tenantId := row.tenantId
  projectId := some row.projectId
  actorId := actorId
  action := "representation:candidate_create"
  resourceType := "representation"
  resourceId := row.representationId
  outcome := "allowed"
  details := some [("kind", .str row.kind.value), ("provider_id", .str row.providerId), ("state", .str "quarantined")]

def insertCandidate (db : RepresentationDb) (stamp : RepresentationStamp) (row : RepresentationAssetRow)
    (actorId : String) : Except Raised RepresentationDb := do
  let representations ← orRaise (db.representations.insert? row) (conflictError "REPRESENTATION_ID_CONFLICT"
    "representation identifier is already bound to another candidate"
    [("representation_id", .str row.representationId)])
  let s ← db.emit stamp.toStamp (candidateEvent row actorId)
  let s ← s.record svc stamp.toStamp (candidateAudit row actorId)
  return { db with toStore := s, representations }

def createCandidate (db : RepresentationDb) (stamp : RepresentationStamp) (req : CandidateRequest) :
    Except Raised (String × RepresentationDb) := do
  checkCandidate py stamp req
  checkReferences db stamp.now req
  let (policy, refs) ← effectivePrivacyInheritance py db
    ⟨req.tenantId, req.projectId, req.assetId, req.provenance, req.privacyInheritance.getD []⟩
  checkFallback db req
  raiseIf (candidateId stamp req ∈ req.dependencies.getD [])
    (validationError "REPRESENTATION_DEPENDENCY_CYCLE" "representation cannot depend on itself")
  let db := { db with refs }
  let row := candidateRow stamp req policy
  match candidateOf? db req.tenantId req.projectId req.operationId with
  | some existing => do
    checkRepeated existing row
    return (existing.representationId, db)
  | none => do
    let db ← insertCandidate svc db stamp row req.actorId
    return (row.representationId, db)

end Create

section Receipt
variable (svc : AuditService)

/-- `list(value or [])`. -/
def listOf (value : Json) : Except Raised (List Json) := if value.truthy then value.iterate else .ok []

/-- The provenance with the evidence of a worker. -/
def withReceipt (provenance : Dict) (workerReceiptHash candidateCoreHash : String) : Except Raised Dict := do
  let core := provenance.get "candidate_core_hash"
  raiseIf (core.truthy ∧ ¬ core.isText candidateCoreHash) (conflictError "REPRESENTATION_RECEIPT_CONFLICT"
    "candidate is already bound to a different immutable candidate core")
  let receipts ← listOf (provenance.get "worker_receipts")
  let evidence : Json := .obj [("worker_receipt_hash", .str workerReceiptHash), ("candidate_core_hash", .str candidateCoreHash)]
  let receipts := if receipts.any (Json.pyEq · evidence) then receipts else receipts ++ [evidence]
  return provenance.merge [("worker_receipt_hash", .str workerReceiptHash),
    ("candidate_core_hash", .str candidateCoreHash), ("worker_receipts", .arr receipts)]

structure ReceiptRequest where
  tenantId : String
  projectId : String
  operationId : String
  workerReceiptHash : String
  candidateCoreHash : String
  actorId : String

def receiptAudit (req : ReceiptRequest) (representationId : String) : AuditRequest where
  tenantId := req.tenantId
  projectId := some req.projectId
  actorId := req.actorId
  action := "representation:worker_receipt_attach"
  resourceType := "representation"
  resourceId := representationId
  outcome := "allowed"
  details := some [("operation_id", .str req.operationId), ("worker_receipt_hash", .str req.workerReceiptHash),
    ("candidate_core_hash", .str req.candidateCoreHash)]

def attachWorkerReceipt (db : RepresentationDb) (stamp : Stamp) (req : ReceiptRequest) :
    Except Raised RepresentationDb := do
  let row ← orRaise (db.representations.rows.find? fun row =>
      row.tenantId = req.tenantId ∧ row.projectId = req.projectId ∧ row.operationId = some req.operationId)
    (notFoundError "representation_candidate_for_operation" req.operationId)
  raiseIf (row.state ≠ "quarantined") (conflictError "REPRESENTATION_RECEIPT_STATE_CONFLICT"
    "worker evidence can only be attached while a candidate is quarantined" [("state", .str row.state)])
  let provenanceJson ← withReceipt row.provenanceJson req.workerReceiptHash req.candidateCoreHash
  let s ← db.record svc stamp (receiptAudit req row.representationId)
  return { db with toStore := s, representations := db.representations.set { row with provenanceJson } }

end Receipt

section Review
variable (svc : AuditService) (py : PyConversions)

structure ReviewRequest where
  reviewerId : String
  approvedUses : List String
  metrics : Dict
  passed : Bool

structure ReviewOutcome where
  representationId : String
  state : String
  approvedUses : List String

/-- `reviewer_id.startswith("sip-worker:")`. -/
def isWorker (identity : String) : Bool := "sip-worker:".toList.isPrefixOf identity.toList

def reviewableStates : List String := ["quarantined", "quality_failed", "approved"]

def checkReview (row : RepresentationAssetRow) (req : ReviewRequest) : Except Raised Unit := do
  raiseIf (isWorker req.reviewerId) (authorizationError "WORKER_REVIEWER_NOT_INDEPENDENT"
    "a representation-producing worker cannot independently approve its own output")
  raiseIf (row.state ∉ reviewableStates) (conflictError "REPRESENTATION_REVIEW_STATE"
    "representation cannot be reviewed in its current state")
  raiseIf ((given row.operationId).isSome ∧ ¬ ((row.provenanceJson.get "worker_receipt_hash").truthy ∧
      (row.provenanceJson.get "candidate_core_hash").truthy))
    (conflictError "REPRESENTATION_WORKER_EVIDENCE_MISSING"
      "worker-derived candidates require an immutable receipt before quality review")
  let unrequested := sortedSet id (req.approvedUses.filter (· ∉ row.intendedUsesJson))
  raiseIf (unrequested ≠ []) (validationError "REPRESENTATION_USE_NOT_REQUESTED"
    "review cannot approve unrequested use" [("uses", .texts unrequested)])
  raiseIf (req.passed = true ∧ (req.approvedUses = [] ∨ req.metrics.isEmpty = true))
    (validationError "REPRESENTATION_REVIEW_EVIDENCE_INCOMPLETE"
      "a passing independent review requires approved uses and retained quantitative metrics")

/-- `dict(value)`. -/
def dictOf : Json → Except Raised Dict
  | .obj fields => .ok fields
  | value => py.dict value

/-- `dict(prior_quality.get("review", {}))`. -/
def priorReview (quality : Dict) : Except Raised Dict := dictOf py ((quality.get? "review").getD (.obj []))

def newlyApproved (req : ReviewRequest) : List String := if req.passed then req.approvedUses else []

def validationRecord (now : Nat) (req : ReviewRequest) : Dict := [
  ("reviewer_id", .str req.reviewerId),
  ("passed", .bool req.passed),
  ("approved_uses", .texts (sortedSet id (newlyApproved req))),
  ("metrics", .obj req.metrics),
  ("metrics_hash", .str (canonicalSha256 (.obj req.metrics))),
  ("reviewed_at", .str (isoformat now)),
  ("independent_from_worker", .bool true)]

/-- `any(item.get("validation_hash") == validation_hash for item in validations)`. -/
def hasValidation (hash : String) : List Json → Except Raised Bool
  | [] => .ok false
  | .obj fields :: items => if (Dict.get fields "validation_hash").isText hash then .ok true else hasValidation hash items
  | _ :: _ => .error (.attributeError "object has no attribute 'get'")

def withValidation (record : Dict) (validations : List Json) : Except Raised (List Json) := do
  let hash := canonicalSha256 (.obj record)
  let recorded ← hasValidation hash validations
  return if recorded then validations else validations ++ [.obj (record.set "validation_hash" (.str hash))]

/-- The uses of all reviews so far: earlier approvals are kept. -/
def mergedApproved (prior : Dict) (req : ReviewRequest) : Except Raised (List String) := do
  let earlier ← prior.textsAt py.toPyText "approved_uses"
  return sortedSet id (earlier ++ newlyApproved req)

/-- `quality_json` after a review, and the uses that are approved then. -/
def reviewedQuality (now : Nat) (quality : Dict) (req : ReviewRequest) : Except Raised (Dict × List String) := do
  let prior ← priorReview py quality
  let merged ← mergedApproved py prior req
  let validations ← ((prior.get? "validations").getD (.arr [])).iterate
  let validations ← withValidation (validationRecord now req) validations
  let review : Json := .obj [
    ("reviewer_id", .str req.reviewerId),
    ("approved_uses", .texts merged),
    ("metrics", .obj req.metrics),
    ("reviewed_at", .str (isoformat now)),
    ("independent_from_worker", .bool true),
    ("validations", .arr validations)]
  return (quality.set "review" review, merged)

def reviewAudit (row : RepresentationAssetRow) (req : ReviewRequest) : AuditRequest where
  tenantId := row.tenantId
  projectId := some row.projectId
  actorId := req.reviewerId
  action := "representation:quality_review"
  resourceType := "representation"
  resourceId := row.representationId
  outcome := "allowed"
  details := some [("passed", .bool req.passed), ("approved_uses", .texts (sortedSet id (newlyApproved req))),
    ("metrics_hash", .str (canonicalSha256 (.obj req.metrics)))]

/-- The row after a review. -/
def reviewedRow (row : RepresentationAssetRow) (quality : Dict) (merged : List String) : RepresentationAssetRow :=
  { row with qualityJson := quality, state := if merged = [] then "quality_failed" else "approved" }

def reviewQuality (db : RepresentationDb) (stamp : Stamp) (representationId : String) (req : ReviewRequest) :
    Except Raised (ReviewOutcome × RepresentationDb) := do
  let row ← orRaise (db.representations.get? representationId) (notFoundError "representation" representationId)
  checkReview row req
  let (quality, merged) ← reviewedQuality py stamp.now row.qualityJson req
  let s ← db.record svc stamp (reviewAudit row req)
  let reviewed := reviewedRow row quality merged
  return (⟨representationId, reviewed.state, sortedSet id (newlyApproved req)⟩,
    { db with toStore := s, representations := db.representations.set reviewed })

end Review

section Invalidate
variable (svc : AuditService) (py : PyText)

structure InvalidationRequest where
  tenantId : String
  projectId : String
  changedResourceId : String
  reason : String
  actorId : String
  queueRegeneration : Bool := true

structure RegenerationPlan where
  representationId : String
  operationType : Option String
  idempotencyKey : String
  inputManifest : Dict
  inputManifestHash : String
  blockedReasons : List String

/-- What one invalidation has done so far. -/
structure Sweep where
  db : RepresentationDb
  invalidated : List String := []
  supersededBindings : List String := []
  plans : List RegenerationPlan := []

/-- Everything that a representation refers to. -/
def references (row : RepresentationAssetRow) : Except Raised (List Json) := do
  let produced ← row.provenanceJson.setAt "source_ids"
  let inherited ← row.privacyInheritanceJson.setAt "source_ids"
  let consented ← row.privacyInheritanceJson.setAt "consent_grant_ids"
  let deleted ← row.privacyInheritanceJson.setAt "deletion_dependencies"
  return row.dependenciesJson.map .str ++ produced ++ inherited ++ consented ++ deleted

/-- `any(token in reason.lower() for token in ..)`. -/
def policyRevocation (reason : String) : Bool :=
  ["consent", "revok", "delet", "legal hold", "privacy"].any fun token =>
    token.toList <:+: reason.toList.map lowerChar

def rebuildInput (req : InvalidationRequest) (row : RepresentationAssetRow) : Except Raised Dict := do
  let produced ← row.provenanceJson.setAt "source_ids"
  let sourceIds ← orRaise (produced.mapM Json.text?) (.typeError "source identifiers are texts")
  return [
    ("schema", .str "sip.representation-regeneration/v1"),
    ("invalidated_representation_id", .str row.representationId),
    ("scene_id", .str row.sceneId),
    ("provider_id", .str row.providerId),
    ("kind", .str row.kind.value),
    ("coordinate_frame_id", .str row.coordinateFrameId),
    ("changed_resource_id", .str req.changedResourceId),
    ("reason", .str req.reason),
    ("source_ids", .texts (sortedSet id sourceIds)),
    ("dependencies", .texts (sortedSet id row.dependenciesJson)),
    ("derivation_policy", .obj row.derivationPolicyJson),
    ("prior_manifest_hash", .str row.manifestHash)]

def planFor (req : InvalidationRequest) (row : RepresentationAssetRow) : Except Raised RegenerationPlan := do
  let input ← rebuildInput req row
  let operationType := String.ofList
    (strip (py.str ((row.derivationPolicyJson.get? "operation_type").getD (.str ""))).toList)
  let privacyBlockers ← row.privacyInheritanceJson.textsAt py "policy_blockers"
  let blockers := (if operationType = "" then ["missing_operation_type"] else []) ++
    (if policyRevocation req.reason then ["policy_reauthorization_required"] else []) ++ privacyBlockers
  let hash := canonicalSha256 (.obj input)
  return {
    representationId := row.representationId
    operationType := if operationType = "" then none else some operationType
    idempotencyKey := "regenerate:" ++ row.representationId ++ ":" ++ String.ofList (hash.toList.take 16)
    inputManifest := input
    inputManifestHash := hash
    blockedReasons := sortedSet id blockers }

def RegenerationPlan.document (plan : RegenerationPlan) : Json := .obj [
  ("representation_id", .str plan.representationId),
  ("operation_type", .ofOption plan.operationType),
  ("idempotency_key", .str plan.idempotencyKey),
  ("input_manifest", .obj plan.inputManifest),
  ("input_manifest_hash", .str plan.inputManifestHash),
  ("blocked_reasons", .texts plan.blockedReasons),
  ("queued", .bool false),
  ("operation_id", .null)]

/-- The row of a representation that is taken out of service. -/
def invalidatedRow (now : Nat) (req : InvalidationRequest) (plan : RegenerationPlan) (row : RepresentationAssetRow) :
    RepresentationAssetRow :=
  { row with
    state := "invalidated"
    deprecatedAt := some now
    metadataJson := row.metadataJson.merge [
      ("invalidation", .obj [("resource_id", .str req.changedResourceId), ("reason", .str req.reason),
        ("at", .str (isoformat now))]),
      ("regeneration_plan", plan.document)] }

/-- The live bindings of a representation in its project. -/
def liveBindingsOf (db : RepresentationDb) (req : InvalidationRequest) (representationId : String) :
    List RepresentationBindingRow :=
  db.bindings.rows.filter fun binding => binding.tenantId = req.tenantId ∧ binding.projectId = req.projectId ∧
    binding.representationId = representationId ∧ binding.supersededAt = none

def RepresentationBindingRow.superseded (now : Nat) (row : RepresentationBindingRow) : RepresentationBindingRow :=
  { row with supersededAt := some now }

/-- `for binding in bindings: binding.superseded_at = now`. -/
def supersede (bindings : Table RepresentationBindingRow (fun row => row.bindingId)) (now : Nat) (ids : List String) :
    Table RepresentationBindingRow (fun row => row.bindingId) :=
  ids.foldl (fun bindings bindingId =>
    bindings.modify bindingId (RepresentationBindingRow.superseded now) fun _ => rfl) bindings

def invalidationPayload (req : InvalidationRequest) (plan : RegenerationPlan) (supersededCount : Nat) : Dict := [
  ("representation_id", .str plan.representationId),
  ("changed_resource_id", .str req.changedResourceId),
  ("reason", .str req.reason),
  ("superseded_binding_count", .int supersededCount),
  ("regeneration_plan_hash", .str plan.inputManifestHash),
  ("regeneration_blocked_reasons", .texts plan.blockedReasons)]

def invalidationEvent (req : InvalidationRequest) (representationId : String) (payload : Dict) : EventRequest where
  eventType := "representation.dependency_invalidated"
  schemaVersion := "1.0.0"
  tenantId := req.tenantId
  projectId := req.projectId
  aggregateType := "representation"
  aggregateId := representationId
  payload := payload
  producer := "representation-api"
  actorId := some req.actorId
  workloadIdentity := none
  causationId := some req.changedResourceId

def invalidationAudit (req : InvalidationRequest) (representationId : String) (payload : Dict) : AuditRequest where
  tenantId := req.tenantId
  projectId := some req.projectId
  actorId := req.actorId
  action := "representation:dependency_invalidate"
  resourceType := "representation"
  resourceId := representationId
  outcome := "allowed"
  details := some payload

/-- Take one representation out of service. -/
def invalidateRow (now : Nat) (stamps : Nat → Stamp) (req : InvalidationRequest) (sweep : Sweep)
    (row : RepresentationAssetRow) : Except Raised Sweep := do
  let plan ← planFor py req row
  let bound := (liveBindingsOf sweep.db req row.representationId).map RepresentationBindingRow.bindingId
  let payload := invalidationPayload req plan bound.length
  let stamp := stamps sweep.invalidated.length
  let s ← sweep.db.emit stamp (invalidationEvent req row.representationId payload)
  let s ← s.record svc stamp (invalidationAudit req row.representationId payload)
  return {
    db := { sweep.db with
      toStore := s
      representations := sweep.db.representations.set (invalidatedRow now req plan row)
      bindings := supersede sweep.db.bindings now bound }
    invalidated := sweep.invalidated ++ [row.representationId]
    supersededBindings := sweep.supersededBindings ++ bound
    plans := sweep.plans ++ [plan] }

def sweepRow (now : Nat) (stamps : Nat → Stamp) (req : InvalidationRequest) (sweep : Sweep)
    (row : RepresentationAssetRow) : Except Raised Sweep := do
  let refers ← references row
  if refers.any (Json.isText req.changedResourceId) then invalidateRow svc py now stamps req sweep row else return sweep

def liveRepresentations (db : RepresentationDb) (tenantId projectId : String) : List RepresentationAssetRow :=
  db.representations.rows.filter fun row =>
    row.tenantId = tenantId ∧ row.projectId = projectId ∧ row.deprecatedAt = none

/-- The transaction: one pass over the representations of the project that are in service. -/
def sweepProject (db : RepresentationDb) (now : Nat) (stamps : Nat → Stamp) (req : InvalidationRequest) :
    Except Raised Sweep := do
  raiseIf (req.reason = "") (validationError "REPRESENTATION_INVALIDATION_REASON_REQUIRED"
    "dependency invalidation requires a reason")
  (liveRepresentations db req.tenantId req.projectId).foldlM (sweepRow svc py now stamps req) ⟨db, [], [], []⟩

/-- The rebuild operations are asked for after the transaction, of a service that the class does not have. -/
def queuePlans (req : InvalidationRequest) (plans : List RegenerationPlan) : Except Raised Unit :=
  raiseIf (req.queueRegeneration = true ∧ ∃ plan ∈ plans, plan.blockedReasons = [])
    (.attributeError "'RepresentationService' object has no attribute 'operations'")

def invalidateDependencies (db : RepresentationDb) (now : Nat) (stamps : Nat → Stamp) (req : InvalidationRequest) :
    RepresentationDb × Except Raised Sweep :=
  match sweepProject svc py db now stamps req with
  | .error e => (db, .error e)
  | .ok sweep => (sweep.db, (queuePlans req sweep.plans).map fun _ => sweep)

end Invalidate

section View

structure ViewRequest where
  tenantId : String
  projectId : String
  sceneId : String
  intendedUse : String
  audience : String
  role : Option String := none
  clientProfile : Dict := []

structure SelectedLayer where
  bindingId : String
  representationId : String
  kind : RepresentationKind
  role : String
  coordinateFrameId : String
  transform : Json
  authorityClass : String
  authorityCeiling : String
  intendedUses : List String
  usedFallback : Bool

structure ViewSelection where
  selected : List SelectedLayer := []
  rejected : List (String × String) := []

/-- `role and binding.role != role`. -/
def offRole (req : ViewRequest) (binding : RepresentationBindingRow) : Bool := (given req.role).any (· ≠ binding.role)

/-- `set((binding.audience_policy_json or {}).get("allowed_audiences", [audience]))`. -/
def bindingAudiences (req : ViewRequest) (binding : RepresentationBindingRow) : Except Raised (List Json) :=
  Json.asSet ((binding.audiencePolicyJson.get? "allowed_audiences").getD (.arr [.str req.audience]))

/-- `a.issubset(b)`. -/
def subset (a b : List Json) : Bool := a.all fun x => b.any (Json.scalarEq x)

def inService (row : RepresentationAssetRow) : Prop := row.state = "published" ∧ row.deprecatedAt = none

instance (row : RepresentationAssetRow) : Decidable (inService row) := inferInstanceAs (Decidable (_ ∧ _))

/-- The representation behind a text identifier, if it is in service. -/
def servedRepresentation? (db : RepresentationDb) (representationId : Option String) : Option RepresentationAssetRow :=
  ((given representationId).bind db.representations.get?).filter fun row => inService row

def layer (binding : RepresentationBindingRow) (representation : RepresentationAssetRow) (usedFallback : Bool) :
    SelectedLayer where
  bindingId := binding.bindingId
  representationId := representation.representationId
  kind := representation.kind
  role := binding.role
  coordinateFrameId := binding.coordinateFrameId
  transform := binding.transformJson
  authorityClass := binding.authorityClass
  authorityCeiling := binding.authorityCeiling
  intendedUses := binding.intendedUsesJson
  usedFallback := usedFallback

/-- What the selection does with one live binding: nothing, a refusal with its reason, or a layer. -/
def considerBinding (db : RepresentationDb) (req : ViewRequest) (capabilities : List Json)
    (binding : RepresentationBindingRow) : Except Raised (Option (String ⊕ SelectedLayer)) := do
  if offRole req binding then return none
  if req.intendedUse ∉ binding.intendedUsesJson then return some (.inl "intended_use_not_bound")
  let audiences ← bindingAudiences req binding
  if !audiences.any (Json.isText req.audience) then return some (.inl "audience_denied")
  match (db.representations.get? binding.representationId).filter fun row => inService row with
  | none => return some (.inl "representation_unavailable")
  | some representation => do
    let required ← binding.clientProfileJson.setAt "required_capabilities"
    if subset required capabilities then return some (.inr (layer binding representation false))
    match servedRepresentation? db representation.fallbackRepresentationId with
    | none => return some (.inl "client_incompatible_no_fallback")
    | some fallback => return some (.inr (layer binding fallback true))

def noteBinding (db : RepresentationDb) (req : ViewRequest) (capabilities : List Json) (view : ViewSelection)
    (binding : RepresentationBindingRow) : Except Raised ViewSelection := do
  match ← considerBinding db req capabilities binding with
  | none => return view
  | some (.inl reason) => return { view with rejected := view.rejected ++ [(binding.bindingId, reason)] }
  | some (.inr layer) => return { view with selected := view.selected ++ [layer] }

/-- The live bindings of the scene, the latest first. -/
def sceneBindings (db : RepresentationDb) (req : ViewRequest) : List RepresentationBindingRow :=
  sortBy (fun binding => OrderDual.toDual binding.publishedAt) (db.bindings.rows.filter fun binding =>
    binding.tenantId = req.tenantId ∧ binding.projectId = req.projectId ∧ binding.sceneId = req.sceneId ∧
    binding.supersededAt = none)

def selectForView (db : RepresentationDb) (req : ViewRequest) : Except Raised ViewSelection := do
  let capabilities ← req.clientProfile.setAt "capabilities"
  (sceneBindings db req).foldlM (noteBinding db req capabilities) {}

end View

section Proxy

structure ProxyReplacement where
  reprojected : List Json
  unresolved : List Json

/-- `anchor.get("semantic_support_id") in supported`. -/
def anchorSupported (supported : List Json) : Json → Except Raised Bool
  | .obj fields => do
    let support := Dict.get fields "semantic_support_id"
    raiseIf (support.hashable = false) (.typeError "unhashable type")
    return supported.any (Json.scalarEq support)
  | _ => .error (.attributeError "object has no attribute 'get'")

def splitAnchors (supported : List Json) : List Json → Except Raised ProxyReplacement
  | [] => .ok ⟨[], []⟩
  | anchor :: anchors => do
    let keep ← anchorSupported supported anchor
    let rest ← splitAnchors supported anchors
    return if keep then { rest with reprojected := anchor :: rest.reprojected }
      else { rest with unresolved := anchor :: rest.unresolved }

def replaceProxy (db : RepresentationDb) (oldId newId : String) :
    Except Raised (ProxyReplacement × RepresentationDb) := do
  let invalid := validationError "PROXY_REPLACEMENT_INVALID" "both representations must be interaction proxies"
  let old ← orRaise (db.representations.get? oldId) invalid
  let new ← orRaise (db.representations.get? newId) invalid
  raiseIf (old.kind ≠ .interaction ∨ new.kind ≠ .interaction) invalid
  raiseIf (old.sceneId ≠ new.sceneId ∨ old.coordinateFrameId ≠ new.coordinateFrameId)
    (validationError "PROXY_REPLACEMENT_FRAME_MISMATCH"
      "proxy replacement must remain in the same scene and coordinate frame")
  let anchors ← ((old.supportMapJson.get? "anchors").getD (.arr [])).iterate
  let supported ← new.supportMapJson.setAt "semantic_support_ids"
  let split ← splitAnchors supported anchors
  let supportMapJson := new.supportMapJson.merge [("anchors", .arr split.reprojected), ("replaces", .str oldId)]
  let representations := (db.representations.set { new with supportMapJson }).modify oldId
    (fun row => { row with state := "superseded" }) fun _ => rfl
  return (split, { db with representations })

end Proxy

end RepresentationService

end Sip
