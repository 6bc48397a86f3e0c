import Sip.Representation.Database

/-!
# The provider registry

A provider executes under promotions: signed permissions for a scope, of which one
with an executable state supersedes those of the same provider version that it
overlaps. `select` picks a provider with a promotion that covers a request.
Instants are in UTC; the states of a promotion are those that its contract accepts.
-/

namespace Sip

set_option autoImplicit false

/-- `ProviderRegistry(database, audit, signing_key)` refuses keys below 32 bytes. -/
structure ProviderRegistry where
  audit : AuditService
  signingKey : Bytes
  long : 32 ≤ signingKey.length

structure PromotionRequest extends PromotionScope where
  providerId : String
  state : PromotionState
  benchmarkEvidenceHash : String
  policySnapshotHash : String
  validFrom : Option Nat
  validUntil : Option Nat
  actorId : String
  promotionId : Option String := none

structure SelectionRequest where
  classification : String
  purpose : String
  region : String
  deploymentMode : String
  sceneClass : String
  outputRoles : List String
  intendedUses : List String
  executionZone : String
  hardwareProfile : String
  requiredCapabilities : List String
  forbiddenCapabilities : List String := []
  preferredProviderIds : List String := []

structure SelectedProvider where
  provider : ProviderManifestRow
  promotion : ProviderPromotionRow
  descriptor : Dict

structure ExecutionRequest where
  classification : Classification
  purpose : String
  region : String
  external : Bool

/-- The states in which a provider may execute. -/
def PromotionState.executable (state : PromotionState) : Prop := state ∈ [.active, .limited, .shadow, .researchIsolated]

instance (state : PromotionState) : Decidable state.executable := inferInstanceAs (Decidable (_ ∈ _))

/-- `set(..)` of each dimension, sorted. -/
def PromotionScope.sorted (scope : PromotionScope) : PromotionScope where
  dataClassifications := sortedSet id scope.dataClassifications
  sceneClasses := sortedSet id scope.sceneClasses
  outputRoles := sortedSet id scope.outputRoles
  intendedUses := sortedSet id scope.intendedUses
  executionZones := sortedSet id scope.executionZones
  hardwareProfiles := sortedSet id scope.hardwareProfiles

def PromotionScope.nonempty (scope : PromotionScope) : Prop :=
  scope.dataClassifications ≠ [] ∧ scope.sceneClasses ≠ [] ∧ scope.outputRoles ≠ [] ∧ scope.intendedUses ≠ [] ∧
    scope.executionZones ≠ [] ∧ scope.hardwareProfiles ≠ []

instance (scope : PromotionScope) : Decidable scope.nonempty := inferInstanceAs (Decidable (_ ∧ _))

/-- `_promotion_scope_overlaps`. -/
def PromotionScope.overlaps (a b : PromotionScope) : Prop :=
  (∃ x ∈ a.dataClassifications, x ∈ b.dataClassifications) ∧ (∃ x ∈ a.sceneClasses, x ∈ b.sceneClasses) ∧
  (∃ x ∈ a.outputRoles, x ∈ b.outputRoles) ∧ (∃ x ∈ a.intendedUses, x ∈ b.intendedUses) ∧
  (∃ x ∈ a.executionZones, x ∈ b.executionZones) ∧ (∃ x ∈ a.hardwareProfiles, x ∈ b.hardwareProfiles)

instance (a b : PromotionScope) : Decidable (a.overlaps b) := inferInstanceAs (Decidable (_ ∧ _))

/-- The request lies in the scope. -/
def PromotionScope.covers (scope : PromotionScope) (req : SelectionRequest) : Prop :=
  req.classification ∈ scope.dataClassifications ∧ req.sceneClass ∈ scope.sceneClasses ∧
  (∀ role ∈ req.outputRoles, role ∈ scope.outputRoles) ∧ (∀ use ∈ req.intendedUses, use ∈ scope.intendedUses) ∧
  req.executionZone ∈ scope.executionZones ∧ req.hardwareProfile ∈ scope.hardwareProfiles

instance (scope : PromotionScope) (req : SelectionRequest) : Decidable (scope.covers req) :=
  inferInstanceAs (Decidable (_ ∧ _))

namespace ProviderRegistry
variable (registry : ProviderRegistry)

section Integrity

/-- `_signature`. -/
def signature (digest : String) : String := hex (hmacSha256 registry.signingKey (utf8 digest.toList))

/-- `_descriptor_body`. -/
def descriptorBody (descriptor : Dict) : Dict :=
  descriptor.filter fun field => field.1 ≠ "manifest_hash" ∧ field.1 ≠ "manifest_signature"

def descriptorDigest (descriptor : Dict) : String := canonicalSha256 (.obj (descriptorBody descriptor))

def providerIntegrityValid (row : ProviderManifestRow) : Prop :=
  row.descriptorJson ≠ [] ∧ (given row.manifestSignature).isSome ∧
    descriptorDigest row.descriptorJson = row.manifestHash ∧
    row.manifestSignature = some (registry.signature (descriptorDigest row.descriptorJson))

/-- The text that registration puts under the key. -/
def describes (descriptor : Dict) (key value : String) : Prop := (descriptor.get key).isText value

instance (descriptor : Dict) (key value : String) : Decidable (describes descriptor key value) :=
  inferInstanceAs (Decidable (_ = true))

def revisionIntegrityValid (row : ProviderManifestRevisionRow) : Prop :=
  descriptorDigest row.descriptorJson = row.manifestHash ∧
    row.manifestSignature = registry.signature (descriptorDigest row.descriptorJson) ∧
    describes row.descriptorJson "provider_id" row.providerId ∧
    describes row.descriptorJson "provider_version" row.providerVersion

/-- What is signed of a promotion. -/
def promotionBody (row : ProviderPromotionRow) : Json := .obj [
  ("promotion_id", .str row.promotionId),
  ("provider_id", .str row.providerId),
  ("provider_version", .str row.providerVersion),
  ("provider_manifest_hash", .str row.providerManifestHash),
  ("state", .str row.state.value),
  ("data_classifications", .texts row.sorted.dataClassifications),
  ("scene_classes", .texts row.sorted.sceneClasses),
  ("output_roles", .texts row.sorted.outputRoles),
  ("intended_uses", .texts row.sorted.intendedUses),
  ("execution_zones", .texts row.sorted.executionZones),
  ("hardware_profiles", .texts row.sorted.hardwareProfiles),
  ("benchmark_evidence_hash", .str row.benchmarkEvidenceHash),
  ("policy_snapshot_hash", .str row.policySnapshotHash),
  ("valid_from", .str (isoformat row.validFrom)),
  ("valid_until", .ofOption (row.validUntil.map isoformat)),
  ("signed_by", .str row.signedBy)]

def promotionIntegrityValid (row : ProviderPromotionRow) : Prop :=
  canonicalSha256 (promotionBody row) = row.promotionHash ∧
    row.signature = registry.signature (canonicalSha256 (promotionBody row))

instance (row : ProviderManifestRow) : Decidable (registry.providerIntegrityValid row) :=
  decidable_of_iff (¬ row.descriptorJson.isEmpty = true ∧ (given row.manifestSignature).isSome = true ∧
    descriptorDigest row.descriptorJson = row.manifestHash ∧
    row.manifestSignature = some (registry.signature (descriptorDigest row.descriptorJson)))
    (by simp [providerIntegrityValid])

instance (row : ProviderManifestRevisionRow) : Decidable (registry.revisionIntegrityValid row) :=
  inferInstanceAs (Decidable (_ ∧ _))

instance (row : ProviderPromotionRow) : Decidable (registry.promotionIntegrityValid row) :=
  inferInstanceAs (Decidable (_ ∧ _))

end Integrity

section Promote

/-- The provider of a promotion, with its descriptor and revision intact. -/
def promotable (db : RepresentationDb) (req : PromotionRequest) : Except Raised ProviderManifestRow := do
  let provider ← orRaise (db.providers.get? req.providerId) (notFoundError "provider_manifest" req.providerId)
  raiseIf (provider.descriptorJson.isEmpty = true ∨ given provider.manifestSignature = none)
    (validationError "PROVIDER_CAPABILITY_DESCRIPTOR_REQUIRED"
      "provider promotion requires a complete signed capability descriptor")
  raiseIf (¬ registry.providerIntegrityValid provider) (authorizationError "PROVIDER_MANIFEST_INTEGRITY_INVALID"
    "provider promotion requires an intact signed capability descriptor")
  let damaged := authorizationError "PROVIDER_REVISION_INTEGRITY_INVALID"
    "provider promotion requires an intact immutable descriptor revision"
  let revision ← orRaise (db.revisions.get? provider.manifestHash) damaged
  raiseIf (¬ registry.revisionIntegrityValid revision) damaged
  raiseIf (req.state.executable ∧ provider.approvalState ≠ "approved")
    (authorizationError "PROVIDER_PROMOTION_STATE_DENIED"
      "only approved provider descriptors may enter executable promotion states")
  return provider

/-- The row of a promotion before it is signed. -/
def unsignedPromotion (now : Nat) (newId : String) (req : PromotionRequest) (provider : ProviderManifestRow) :
    ProviderPromotionRow :=
  { req.toPromotionScope.sorted with
    promotionId := (given req.promotionId).getD newId, providerId := req.providerId, providerVersion := provider.version,
    providerManifestHash := provider.manifestHash, state := req.state,
    benchmarkEvidenceHash := req.benchmarkEvidenceHash, policySnapshotHash := req.policySnapshotHash,
    validFrom := req.validFrom.getD now, validUntil := req.validUntil, signedBy := req.actorId,
    promotionHash := "", signature := "" }

def signedPromotion (row : ProviderPromotionRow) : ProviderPromotionRow :=
  let digest := canonicalSha256 (promotionBody row)
  { row with promotionHash := digest, signature := registry.signature digest }

theorem promotionIntegrityValid_signed (row : ProviderPromotionRow) :
    registry.promotionIntegrityValid (registry.signedPromotion row) := ⟨rfl, rfl⟩

/-- `ProviderPromotionContract.model_validate(..)`. -/
def checkPromotion (row : ProviderPromotionRow) : Except Raised Unit := do
  raiseIf (isDigest row.providerManifestHash = false) (.valueError "provider_manifest_hash")
  raiseIf (∃ value ∈ row.dataClassifications, Classification.ofValue? value = none) (.valueError "data_classifications")
  raiseIf (¬ row.nonempty) (.valueError "scope")
  raiseIf (isDigest row.benchmarkEvidenceHash = false) (.valueError "benchmark_evidence_hash")
  raiseIf (isDigest row.policySnapshotHash = false) (.valueError "policy_snapshot_hash")
  raiseIf (row.validUntil.any (· ≤ row.validFrom)) (.valueError "valid_until must be after valid_from")

/-- The live promotions of the provider version that an executable one takes the place of. -/
def supersededBy (row other : ProviderPromotionRow) : Prop :=
  row.state.executable ∧ other.providerId = row.providerId ∧ other.providerVersion = row.providerVersion ∧
    other.supersededAt = none ∧ other.overlaps row.toPromotionScope

instance (row other : ProviderPromotionRow) : Decidable (supersededBy row other) :=
  inferInstanceAs (Decidable (_ ∧ _))

def supersedePromotions (promotions : Table ProviderPromotionRow (fun row => row.promotionId)) (now : Nat)
    (row : ProviderPromotionRow) : Table ProviderPromotionRow (fun row => row.promotionId) where
  rows := promotions.rows.map fun other => if supersededBy row other then { other with supersededAt := some now } else other
  nodup := by
    have hkeys : (promotions.rows.map fun other =>
        if supersededBy row other then { other with supersededAt := some now } else other).map
          (fun row => row.promotionId) = promotions.rows.map (fun row => row.promotionId) := by
      rw [List.map_map]
      apply List.map_congr_left
      intro other _
      simp only [Function.comp_apply]
      split <;> rfl
    rw [hkeys]
    exact promotions.nodup

def promotionPayload (row : ProviderPromotionRow) : Dict := [
  ("promotion_id", .str row.promotionId), ("provider_id", .str row.providerId),
  ("provider_version", .str row.providerVersion), ("provider_manifest_hash", .str row.providerManifestHash),
  ("state", .str row.state.value), ("promotion_hash", .str row.promotionHash)]

def promotionEvent (row : ProviderPromotionRow) : EventRequest where
  eventType := "provider.promotion_changed"
  schemaVersion := "1.0.0"
  tenantId := "system"
  projectId := ""
  aggregateType := "provider_promotion"
  aggregateId := row.promotionId
  payload := promotionPayload row
  producer := "provider-registry"
  actorId := some row.signedBy
  workloadIdentity := none
  causationId := some row.providerId

def promotionAudit (row : ProviderPromotionRow) : AuditRequest where
  tenantId := "system"
  projectId := none
  actorId := row.signedBy
  action := "provider:promote"
  resourceType := "provider_promotion"
  resourceId := row.promotionId
  outcome := "allowed"
  details := some [("provider_id", .str row.providerId), ("state", .str row.state.value),
    ("promotion_hash", .str row.promotionHash)]

def writePromotion (db : RepresentationDb) (stamp : Stamp) (row : ProviderPromotionRow) :
    Except Raised RepresentationDb := do
  let promotions := supersedePromotions db.promotions stamp.now row
  raiseIf (row.promotionHash ∈ promotions.rows.map ProviderPromotionRow.promotionHash)
    (.integrityError "provider_promotions.promotion_hash")
  let promotions ← orRaise (promotions.insert? row) (.integrityError "provider_promotions.promotion_id")
  let s ← db.emit stamp (promotionEvent row)
  let s ← s.record registry.audit stamp (promotionAudit row)
  return { db with toStore := s, promotions }

def promote (db : RepresentationDb) (stamp : Stamp) (newId : String) (req : PromotionRequest) :
    Except Raised (ProviderPromotionRow × RepresentationDb) := do
  let provider ← registry.promotable db req
  let row := registry.signedPromotion (unsignedPromotion stamp.now newId req provider)
  checkPromotion row
  match db.promotions.get? row.promotionId with
  | some existing => do
    raiseIf (existing.promotionHash ≠ row.promotionHash) (conflictError "PROVIDER_PROMOTION_ID_CONFLICT"
      "promotion identifier is already bound to different scope")
    return (existing, db)
  | none => do
    let db ← registry.writePromotion db stamp row
    return (row, db)

end Promote

section Select

/-- A promotion that `select` looks at. -/
def promotionInForce (now : Nat) (promotion : ProviderPromotionRow) : Prop :=
  promotion.supersededAt = none ∧ promotion.state.executable ∧ promotion.validFrom ≤ now ∧
    ¬ promotion.validUntil.any (· ≤ now)

/-- The provider is intact, approved and the one that the promotion was signed for. -/
def providerInForce (now : Nat) (promotion : ProviderPromotionRow) (provider : ProviderManifestRow) : Prop :=
  registry.providerIntegrityValid provider ∧ promotion.providerVersion = provider.version ∧
    promotion.providerManifestHash = provider.manifestHash ∧ registry.promotionIntegrityValid promotion ∧
    provider.approvalState = "approved" ∧ ¬ provider.expiresAt.any (· ≤ now)

/-- `set((provider.descriptor_json or {}).get("capabilities", []))`. -/
def capabilities (provider : ProviderManifestRow) : Except Raised (List Json) :=
  provider.descriptorJson.setAt "capabilities"

/-- The provider itself permits the request. -/
def providerAdmits (provider : ProviderManifestRow) (capabilities : List Json) (req : SelectionRequest) : Prop :=
  req.classification ∈ provider.allowedClassificationsJson ∧ req.purpose ∈ provider.allowedPurposesJson ∧
    req.region ∈ provider.allowedRegionsJson ∧ req.deploymentMode ∈ provider.deploymentsJson ∧
    (∀ role ∈ req.outputRoles, role ∈ provider.outputRolesJson) ∧
    (∀ capability ∈ req.requiredCapabilities, capabilities.any (Json.isText capability)) ∧
    ∀ capability ∈ req.forbiddenCapabilities, ¬ capabilities.any (Json.isText capability)

instance (now : Nat) (promotion : ProviderPromotionRow) : Decidable (promotionInForce now promotion) :=
  inferInstanceAs (Decidable (_ ∧ _))

instance (now : Nat) (promotion : ProviderPromotionRow) (provider : ProviderManifestRow) :
    Decidable (registry.providerInForce now promotion provider) :=
  inferInstanceAs (Decidable (_ ∧ _))

instance (provider : ProviderManifestRow) (capabilities : List Json) (req : SelectionRequest) :
    Decidable (providerAdmits provider capabilities req) :=
  inferInstanceAs (Decidable (_ ∧ _))

/-- The candidate that a promotion gives, if any. -/
def candidateFor (db : RepresentationDb) (now : Nat) (req : SelectionRequest) (promotion : ProviderPromotionRow) :
    Except Raised (Option (ProviderManifestRow × ProviderPromotionRow)) :=
  if ¬ promotionInForce now promotion then .ok none
  else match db.providers.get? promotion.providerId with
    | none => .ok none
    | some provider =>
      if ¬ registry.providerInForce now promotion provider then .ok none
      else do
        let capabilities ← capabilities provider
        return if providerAdmits provider capabilities req ∧ promotion.covers req then some (provider, promotion) else none

/-- `preferred.index(provider_id) if provider_id in preferred else len(preferred)`, then the identifier and the version. -/
def candidateKey (req : SelectionRequest) (candidate : ProviderManifestRow × ProviderPromotionRow) :
    Nat ×ₗ String ×ₗ String :=
  toLex (req.preferredProviderIds.idxOf candidate.1.providerId, toLex (candidate.1.providerId, candidate.1.version))

def select (db : RepresentationDb) (now : Nat) (req : SelectionRequest) : Except Raised SelectedProvider := do
  let candidates ← db.promotions.rows.mapM (registry.candidateFor db now req)
  let (provider, promotion) ← orRaise (sortBy (candidateKey req) candidates.reduceOption).head?
    (authorizationError "HYB_PROVIDER_NO_ELIGIBLE_MATCH"
      "no approved provider meets the requested capability and policy envelope"
      [("retryable", .bool false), ("remediation", .str "register or promote an eligible provider")])
  let damaged := authorizationError "PROVIDER_REVISION_INTEGRITY_INVALID"
    "selected provider has no intact immutable descriptor revision"
  let revision ← orRaise (db.revisions.get? provider.manifestHash) damaged
  raiseIf (¬ registry.revisionIntegrityValid revision) damaged
  return ⟨provider, promotion, revision.descriptorJson⟩

end Select

section Execute

/-- The reasons for which a manifest does not permit an execution. -/
def executionDenials (row : ProviderManifestRow) (now : Nat) (req : ExecutionRequest) : List String :=
  (if row.approvalState ≠ "approved" then ["not_approved"] else []) ++
  (if row.expiresAt.any (· ≤ now) then ["approval_expired"] else []) ++
  (if req.classification.value ∉ row.allowedClassificationsJson then ["classification_not_allowed"] else []) ++
  (if req.purpose ∉ row.allowedPurposesJson then ["purpose_not_allowed"] else []) ++
  (if req.region ∉ row.allowedRegionsJson then ["region_not_allowed"] else []) ++
  (if req.external ∧ req.classification ∈ [.criticalInfrastructure, .biometric, .minor]
    then ["sensitive_external_processing_denied"] else [])

def authorizeExecution (db : RepresentationDb) (now : Nat) (providerId : String) (req : ExecutionRequest) :
    Except Raised ProviderManifestRow := do
  let row ← orRaise (db.providers.get? providerId) (authorizationError "PROVIDER_NOT_REGISTERED"
    "provider execution is denied because no approved manifest exists")
  let reasons := executionDenials row now req
  raiseIf (reasons ≠ []) (authorizationError "PROVIDER_EXECUTION_DENIED"
    "provider manifest does not permit this execution" [("reasons", .texts reasons)])
  return row

/-- `get_descriptor`. -/
def getDescriptor (db : RepresentationDb) (providerId : String) : Except Raised Dict := do
  let row ← orRaise (db.providers.get? providerId) (notFoundError "provider_manifest" providerId)
  raiseIf (¬ registry.providerIntegrityValid row) (authorizationError "PROVIDER_MANIFEST_INTEGRITY_INVALID"
    "provider descriptor integrity verification failed")
  return row.descriptorJson

end Execute

end ProviderRegistry

end Sip
