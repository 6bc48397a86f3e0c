import Sip.Representation.Providers
import Sip.Representation.Service

/-!
# The representation publisher

The only service that binds a reviewed representation to a scene commit. The binding
takes the place of the live bindings of its role, its uses are among the approved
ones, and its audience policy stays within the inherited one. A candidate of a
governed conversion has to match the conversion, its provider and its promotion too.
-/

namespace Sip

set_option autoImplicit false

structure PublishRequest where
  representationId : String
  commitId : String
  role : String
  publisherId : String
  transform : Option (List (List PyFloat)) := none
  intendedUses : Option (List String) := none
  reviewDecision : Option Dict := none
  audiencePolicy : Option Dict := none
  clientProfile : Option Dict := none

namespace RepresentationPublisher
open RepresentationService

section Checks
variable (py : PyConversions)

def identityTransform : List (List PyFloat) :=
  [[.one, .zero, .zero, .zero], [.zero, .one, .zero, .zero], [.zero, .zero, .one, .zero], [.zero, .zero, .zero, .one]]

/-- `transform or [[1.0, ..], ..]`, of size 4x4. -/
def bindingTransform (req : PublishRequest) : Except Raised (List (List PyFloat)) := do
  let given := req.transform.getD []
  let transform := if given = [] then identityTransform else given
  raiseIf (transform.length ≠ 4 ∨ ∃ row ∈ transform, row.length ≠ 4)
    (validationError "REPRESENTATION_BINDING_TRANSFORM_INVALID" "binding transform must be 4x4")
  return transform

/-- The commit shares the scope of the representation, which has been approved. -/
def checkScope (db : RepresentationDb) (req : PublishRequest) (rep : RepresentationAssetRow) :
    Except Raised SceneCommitRow := do
  let mismatch := validationError "REPRESENTATION_COMMIT_SCOPE_MISMATCH" "representation and commit do not share scope"
  let commit ← orRaise (db.commits.get? req.commitId) mismatch
  raiseIf (commit.tenantId ≠ rep.tenantId ∨ commit.projectId ≠ rep.projectId ∨ commit.sceneId ≠ rep.sceneId) mismatch
  raiseIf (rep.state ≠ "approved") (conflictError "REPRESENTATION_NOT_APPROVED"
    "only quality-approved candidates may be published")
  return commit

def checkProvider (db : RepresentationDb) (now : Nat) (rep : RepresentationAssetRow) : Except Raised Unit := do
  let denied := authorizationError "PROVIDER_PUBLICATION_DENIED"
    "representation publication is denied because its provider is not currently approved"
  let provider ← orRaise (db.providers.get? rep.providerId) denied
  raiseIf (provider.approvalState ≠ "approved" ∨ expired provider.expiresAt now) denied
  let admitted := rep.provenanceJson.get "provider_manifest_hash"
  raiseIf (admitted.truthy ∧ ¬ admitted.isText provider.manifestHash) (authorizationError "PROVIDER_MANIFEST_CHANGED"
    "provider policy changed after computation; the candidate must be re-admitted and reviewed")

/-- `rep.quality_json.get("review", {})`, which has to be a dictionary. -/
def reviewOf (rep : RepresentationAssetRow) : Except Raised Dict :=
  orRaise ((rep.qualityJson.get? "review").getD (.obj [])).fields? (.attributeError "object has no attribute 'get'")

/-- The uses that the reviews have approved. -/
def reviewedUses (rep : RepresentationAssetRow) : Except Raised (List Json) := do
  let review ← reviewOf rep
  review.setAt "approved_uses"

/-- `a or b` of two dictionaries. -/
def orElse (a : Option Dict) (b : Dict) : Dict :=
  match a with
  | some (field :: fields) => field :: fields
  | _ => b

/-- A publication without a governed conversion: the uses of the binding and the review decision. -/
def authorizeReviewed (req : PublishRequest) (rep : RepresentationAssetRow) : Except Raised (List String × Dict) := do
  let reviewed ← reviewedUses rep
  raiseIf (¬ reviewed.any (Json.isText req.role)) (authorizationError "REPRESENTATION_USE_NOT_APPROVED"
    "requested publication role was not independently approved")
  let intended := req.intendedUses.getD []
  let boundUses := sortedSet id (if intended = [] then [req.role] else intended)
  let unauthorized := boundUses.filter fun use => ¬ reviewed.any (Json.isText use)
  raiseIf (unauthorized ≠ []) (authorizationError "REPRESENTATION_USE_NOT_APPROVED"
    "binding includes uses not independently approved" [("uses", .texts unauthorized)])
  let review ← reviewOf rep
  return (boundUses, orElse req.reviewDecision review)

end Checks

section Governed
variable (registry : ProviderRegistry) (py : PyConversions)

/-- What the provenance of a governed candidate has to repeat. -/
def expectedProvenance (conversion : SpatialConversionRow) : List (String × String) := [
  ("conversion_id", conversion.conversionId),
  ("operation_id", conversion.operationId),
  ("request_hash", conversion.requestHash),
  ("admission_decision_hash", conversion.admissionDecisionHash),
  ("provider_id", conversion.providerId),
  ("provider_version", conversion.providerVersion),
  ("provider_manifest_hash", conversion.providerManifestHash),
  ("promotion_id", conversion.promotionId)]

def checkConversion (req : PublishRequest) (rep : RepresentationAssetRow) (commit : SceneCommitRow)
    (conversion : SpatialConversionRow) : Except Raised Unit := do
  raiseIf (conversion.candidateRepresentationId ≠ some rep.representationId)
    (authorizationError "HYB_PUBLICATION_CANDIDATE_MISMATCH"
      "conversion does not identify this representation as its quarantined candidate")
  raiseIf (conversion.state ≠ .validated) (authorizationError "HYB_PUBLICATION_CONVERSION_NOT_VALIDATED"
    "governed conversion must be in validated state before publication" [("state", .str conversion.state.value)])
  raiseIf (commit.commitId ≠ conversion.sceneRevisionId) (authorizationError "HYB_PUBLICATION_SCENE_SNAPSHOT_STALE"
    "candidate may only bind to the exact scene revision admitted for conversion")
  raiseIf (req.role ∉ conversion.outputRolesJson) (authorizationError "HYB_PUBLICATION_ROLE_UNADMITTED"
    "publication role was not admitted for this conversion")
  raiseIf (py.str ((rep.metadataJson.get? "output_role").getD (.str req.role)) ≠ req.role)
    (authorizationError "HYB_PUBLICATION_OUTPUT_ROLE_MISMATCH" "candidate output role differs from requested binding role")
  let mismatches := (expectedProvenance conversion).filter fun (key, value) => ¬ (rep.provenanceJson.get key).isText value
  raiseIf (mismatches ≠ []) (authorizationError "HYB_PUBLICATION_PROVENANCE_MISMATCH"
    "candidate provenance differs from immutable conversion admission"
    [("fields", .texts (sortedSet id (mismatches.map Prod.fst)))])
  raiseIf (rep.manifestHash = "") (authorizationError "HYB_PUBLICATION_CANDIDATE_HASH_MISSING"
    "candidate manifest hash is missing")

/-- The provider revision that the conversion was admitted with is still the current one. -/
def checkSnapshot (db : RepresentationDb) (conversion : SpatialConversionRow) : Except Raised Dict := do
  let stale := authorizationError "HYB_PUBLICATION_PROVIDER_SNAPSHOT_STALE"
    "provider descriptor no longer matches the admitted immutable revision"
  let provider ← orRaise (db.providers.get? conversion.providerId) stale
  let revision ← orRaise (db.revisions.get? conversion.providerManifestHash) stale
  raiseIf (provider.version ≠ conversion.providerVersion ∨ provider.manifestHash ≠ conversion.providerManifestHash ∨
    ¬ registry.providerIntegrityValid provider ∨ ¬ registry.revisionIntegrityValid revision) stale
  let admitted ← dictOf py ((conversion.admissionDecisionJson.get? "provider").getD (.obj []))
  let snapshot ← dictOf py ((admitted.get? "descriptor_snapshot").getD (.obj []))
  raiseIf (¬ (admitted.get "descriptor_snapshot_hash").isText conversion.providerManifestHash ∨
      ProviderRegistry.descriptorDigest snapshot ≠ conversion.providerManifestHash ∨
      ¬ Json.pyEq (.obj snapshot) (.obj revision.descriptorJson))
    (authorizationError "HYB_PUBLICATION_DESCRIPTOR_SNAPSHOT_INVALID"
      "retained admission descriptor snapshot is missing or no longer integrity-valid")
  return admitted

def checkGovernedPromotion (db : RepresentationDb) (now : Nat) (conversion : SpatialConversionRow) (admitted : Dict) :
    Except Raised ProviderPromotionRow := do
  let stale := authorizationError "HYB_PUBLICATION_PROMOTION_STALE"
    "provider promotion is no longer active, current, or integrity-valid"
  let promotion ← orRaise (db.promotions.get? conversion.promotionId) stale
  raiseIf (promotion.supersededAt ≠ none ∨ promotion.state ∉ [.active, .limited] ∨
    promotion.providerId ≠ conversion.providerId ∨ promotion.providerVersion ≠ conversion.providerVersion ∨
    promotion.providerManifestHash ≠ conversion.providerManifestHash ∨ now < promotion.validFrom ∨
    promotion.validUntil.any (· ≤ now) ∨ ¬ registry.promotionIntegrityValid promotion) stale
  raiseIf (¬ (admitted.get "promotion_hash").isText promotion.promotionHash)
    (authorizationError "HYB_PUBLICATION_PROMOTION_SNAPSHOT_MISMATCH"
      "publication promotion differs from the admitted promotion snapshot")
  return promotion

/-- The passing validations of the bound uses for the current snapshot. -/
def passingValidations (db : RepresentationDb) (rep : RepresentationAssetRow) (conversion : SpatialConversionRow)
    (boundUses : List String) : List IntendedUseValidationRow :=
  db.validations.rows.filter fun row =>
    row.conversionId = conversion.conversionId ∧ row.representationId = rep.representationId ∧
    row.intendedUse ∈ boundUses ∧ row.passed = true ∧ row.candidateSnapshotHash = rep.manifestHash ∧
    row.policySnapshotHash = conversion.admissionDecisionHash

/-- `startswith(("sip-worker:", "sip-provider:"))`, the provider itself, or the requester. -/
def dependentValidator (conversion : SpatialConversionRow) (validatorId : String) : Bool :=
  isWorker validatorId || "sip-provider:".toList.isPrefixOf validatorId.toList ||
    validatorId = conversion.providerId || validatorId = conversion.requestedBy

def checkUses (db : RepresentationDb) (req : PublishRequest) (rep : RepresentationAssetRow)
    (conversion : SpatialConversionRow) (promotion : ProviderPromotionRow) :
    Except Raised (List String × List IntendedUseValidationRow) := do
  let intended := req.intendedUses.getD []
  let boundUses := sortedSet id (if intended = [] then conversion.intendedUsesJson else intended)
  raiseIf (boundUses = []) (validationError "HYB_PUBLICATION_USE_REQUIRED"
    "governed publication requires at least one intended use")
  raiseIf (∃ use ∈ boundUses, use ∉ conversion.intendedUsesJson) (authorizationError "HYB_PUBLICATION_USE_UNADMITTED"
    "binding contains an intended use not admitted for conversion")
  raiseIf (∃ use ∈ boundUses, use ∉ promotion.intendedUses) (authorizationError "HYB_PUBLICATION_USE_PROMOTION_DENIED"
    "binding use is outside the current provider promotion")
  let rows := passingValidations db rep conversion boundUses
  let missing := boundUses.filter fun use => use ∉ rows.map IntendedUseValidationRow.intendedUse
  raiseIf (missing ≠ []) (authorizationError "HYB_PUBLICATION_VALIDATION_MISSING"
    "every bound intended use requires a current independent passing validation" [("uses", .texts missing)])
  raiseIf (rows.any fun row => dependentValidator conversion row.validatorId)
    (authorizationError "HYB_PUBLICATION_VALIDATOR_NOT_INDEPENDENT"
      "validation is not independent from provider or requester")
  let reviewed ← reviewedUses rep
  raiseIf (∃ use ∈ boundUses, ¬ reviewed.any (Json.isText use))
    (authorizationError "HYB_PUBLICATION_REVIEW_SNAPSHOT_MISMATCH"
      "representation review does not retain every passing intended-use validation")
  return (boundUses, rows)

def governedReview (rep : RepresentationAssetRow) (conversion : SpatialConversionRow) (promotion : ProviderPromotionRow)
    (boundUses : List String) (rows : List IntendedUseValidationRow) : Dict := [
  ("mode", .str "governed_conversion"),
  ("conversion_id", .str conversion.conversionId),
  ("request_hash", .str conversion.requestHash),
  ("admission_decision_hash", .str conversion.admissionDecisionHash),
  ("provider_manifest_hash", .str conversion.providerManifestHash),
  ("promotion_id", .str promotion.promotionId),
  ("promotion_hash", .str promotion.promotionHash),
  ("candidate_snapshot_hash", .str rep.manifestHash),
  ("validation_ids", .texts (sortBy id (rows.map IntendedUseValidationRow.validationId))),
  ("validation_hashes", .texts (sortBy id (rows.map IntendedUseValidationRow.validationHash))),
  ("approved_uses", .texts boundUses),
  ("independent_validation", .bool true)]

/-- `_authorize_governed_publication`. -/
def authorizeGovernedPublication (db : RepresentationDb) (now : Nat) (req : PublishRequest) (rep : RepresentationAssetRow)
    (commit : SceneCommitRow) (conversion : SpatialConversionRow) : Except Raised (List String × Dict) := do
  checkConversion py req rep commit conversion
  let admitted ← checkSnapshot registry py db conversion
  let promotion ← checkGovernedPromotion registry db now conversion admitted
  let (boundUses, rows) ← checkUses db req rep conversion promotion
  return (boundUses, governedReview rep conversion promotion boundUses rows)

/-- The conversion that a representation was made by. -/
def conversionOf? (db : RepresentationDb) (rep : RepresentationAssetRow) : Option SpatialConversionRow := do
  let operationId ← given rep.operationId
  db.conversions.rows.find? fun row => row.operationId = operationId

def authorizeUses (db : RepresentationDb) (now : Nat) (req : PublishRequest) (rep : RepresentationAssetRow)
    (commit : SceneCommitRow) : Except Raised (List String × Dict) :=
  match conversionOf? db rep with
  | some conversion => do
    let (boundUses, review) ← authorizeGovernedPublication registry py db now req rep commit conversion
    return (boundUses, orElse req.reviewDecision review)
  | none => authorizeReviewed req rep

end Governed

section Policy
variable (py : PyConversions)

/-- The audiences that a binding is asked for: the inherited ones where none are. -/
def requestedAudiences (inherited requested : List String) : List String :=
  if inherited ≠ [] ∧ requested = [] then inherited else requested

/-- `str(requested_policy.get("purpose") or inherited_policy.get("purpose") or role)`. -/
def publicationPurpose (requestedPolicy inheritedPolicy : Dict) (role : String) : String :=
  if (requestedPolicy.get "purpose").truthy then py.str (requestedPolicy.get "purpose")
  else if (inheritedPolicy.get "purpose").truthy then py.str (inheritedPolicy.get "purpose")
  else role

/-- A grant that the inherited policy names permits the publication. -/
def checkGrant (db : RepresentationDb) (now : Nat) (rep : RepresentationAssetRow) (purpose : String)
    (audiences scopes : List String) (grantId : String) : Except Raised Unit := do
  let invalid := authorizationError "REPRESENTATION_CONSENT_INVALID"
    "representation publication requires a current in-scope consent grant" [("grant_id", .str grantId)]
  let grant ← orRaise (db.grants.get? grantId) invalid
  raiseIf (grant.tenantId ≠ rep.tenantId ∨ grant.projectId ≠ rep.projectId ∨ grant.state ≠ "active" ∨
    grant.revokedAt ≠ none ∨ expired grant.expiresAt now) invalid
  raiseIf (purpose ∉ grant.purposesJson) (authorizationError "REPRESENTATION_CONSENT_PURPOSE_DENIED"
    "consent grant does not permit the publication purpose" [("grant_id", .str grantId), ("purpose", .str purpose)])
  raiseIf (audiences ≠ [] ∧ ∃ audience ∈ audiences, audience ∉ grant.audiencesJson)
    (authorizationError "REPRESENTATION_CONSENT_AUDIENCE_DENIED"
      "consent grant does not permit every requested audience"
      [("grant_id", .str grantId), ("requested_audiences", .texts (sortedSet id audiences))])
  raiseIf (scopes ≠ [] ∧ ∃ scope ∈ scopes, scope ∉ grant.scopesJson)
    (authorizationError "REPRESENTATION_CONSENT_SCOPE_DENIED"
      "consent grant does not include every required derivative scope"
      [("grant_id", .str grantId), ("required_scopes", .texts (sortedSet id scopes))])

/-- The audience policy of the binding: within what the representation inherits. -/
def bindingPolicy (db : RepresentationDb) (now : Nat) (req : PublishRequest) (rep : RepresentationAssetRow) :
    Except Raised Dict := do
  let inheritedPolicy := rep.privacyInheritanceJson
  let blockers ← inheritedPolicy.textsAt py.toPyText "policy_blockers"
  raiseIf (blockers ≠ []) (authorizationError "REPRESENTATION_POLICY_BLOCKED"
    "representation publication is blocked until every inherited source policy resolves"
    [("policy_blockers", .texts (sortedSet id blockers))])
  let requestedPolicy := orElse req.audiencePolicy inheritedPolicy
  let inherited ← inheritedPolicy.textsAt py.toPyText "allowed_audiences"
  let asked ← requestedPolicy.textsAt py.toPyText "allowed_audiences"
  let audiences := requestedAudiences inherited asked
  let requestedPolicy := if inherited ≠ [] ∧ asked = [] then
    requestedPolicy.set "allowed_audiences" (.texts (sortedSet id inherited)) else requestedPolicy
  raiseIf (inherited ≠ [] ∧ ∃ audience ∈ audiences, audience ∉ inherited)
    (authorizationError "REPRESENTATION_AUDIENCE_WIDENING_DENIED"
      "publication audience cannot be broader than inherited source policy"
      [("inherited_audiences", .texts (sortedSet id inherited)),
       ("requested_audiences", .texts (sortedSet id audiences))])
  let purpose := publicationPurpose py requestedPolicy inheritedPolicy req.role
  let purposes ← inheritedPolicy.textsAt py.toPyText "allowed_purposes"
  raiseIf (purposes ≠ [] ∧ purpose ∉ purposes) (authorizationError "REPRESENTATION_PURPOSE_DENIED"
    "publication purpose is not permitted by inherited source policy"
    [("purpose", .str purpose), ("allowed_purposes", .texts (sortedSet id purposes))])
  let scopes ← inheritedPolicy.textsAt py.toPyText "required_scopes"
  let grants ← inheritedPolicy.textsAt py.toPyText "consent_grant_ids"
  (sortedSet id grants).forM (checkGrant db now rep purpose audiences scopes)
  return requestedPolicy.set "purpose" (.str purpose)

end Policy

section Publish
variable (svc : AuditService) (registry : ProviderRegistry) (py : PyConversions)

def liveBindingsOfRole (db : RepresentationDb) (rep : RepresentationAssetRow) (role : String) :
    List RepresentationBindingRow :=
  db.bindings.rows.filter fun binding => binding.tenantId = rep.tenantId ∧ binding.projectId = rep.projectId ∧
    binding.sceneId = rep.sceneId ∧ binding.role = role ∧ binding.supersededAt = none

def transformDocument (transform : List (List PyFloat)) : Json :=
  .arr (transform.map fun row => .arr (row.map .float))

def bindingRow (stamp : RepresentationStamp) (req : PublishRequest) (rep : RepresentationAssetRow)
    (transform : List (List PyFloat)) (boundUses : List String) (review policy : Dict) : RepresentationBindingRow where
  bindingId := stamp.newId
  tenantId := rep.tenantId
  projectId := rep.projectId
  sceneId := rep.sceneId
  commitId := req.commitId
  representationId := req.representationId
  role := req.role
  coordinateFrameId := rep.coordinateFrameId
  transformJson := transformDocument transform
  authorityClass := rep.authorityClass.value
  authorityCeiling := rep.authorityCeiling.value
  intendedUsesJson := boundUses
  reviewDecisionJson := review
  audiencePolicyJson := policy
  clientProfileJson := req.clientProfile.getD []
  publishedBy := req.publisherId
  publishedAt := stamp.now

def publicationPayload (binding : RepresentationBindingRow) : Dict := [
  ("binding_id", .str binding.bindingId), ("representation_id", .str binding.representationId),
  ("commit_id", .str binding.commitId), ("role", .str binding.role),
  ("coordinate_frame_id", .str binding.coordinateFrameId), ("authority_ceiling", .str binding.authorityCeiling),
  ("intended_uses", .texts binding.intendedUsesJson)]

def publicationEvent (binding : RepresentationBindingRow) : EventRequest where
  eventType := "representation.published"
  schemaVersion := "1.0.0"
  tenantId := binding.tenantId
  projectId := binding.projectId
  aggregateType := "representation_binding"
  aggregateId := binding.bindingId
  payload := publicationPayload binding
  producer := "representation-publisher"
  actorId := some binding.publishedBy
  workloadIdentity := none
  causationId := some binding.representationId

def publicationAudit (binding : RepresentationBindingRow) : AuditRequest where
  tenantId := binding.tenantId
  projectId := some binding.projectId
  actorId := binding.publishedBy
  action := "representation:publish"
  resourceType := "representation_binding"
  resourceId := binding.bindingId
  outcome := "allowed"
  details := some [("representation_id", .str binding.representationId), ("commit_id", .str binding.commitId),
    ("role", .str binding.role)]

/-- The end of the transaction: the role changes hands and the representation counts as published. -/
def writeBinding (db : RepresentationDb) (stamp : RepresentationStamp) (rep : RepresentationAssetRow)
    (binding : RepresentationBindingRow) : Except Raised RepresentationDb := do
  let prior := (liveBindingsOfRole db rep binding.role).map RepresentationBindingRow.bindingId
  let bindings ← orRaise ((supersede db.bindings stamp.now prior).insert? binding)
    (.integrityError "representation_bindings.binding_id")
  let s ← db.emit stamp.toStamp (publicationEvent binding)
  let s ← s.record svc stamp.toStamp (publicationAudit binding)
  return { db with toStore := s, bindings, representations := db.representations.set { rep with state := "published" } }

def publish (db : RepresentationDb) (stamp : RepresentationStamp) (req : PublishRequest) :
    Except Raised (String × RepresentationDb) := do
  raiseIf (isWorker req.publisherId) (authorizationError "WORKER_PUBLICATION_DENIED"
    "worker workload identities have no representation publication permission")
  let transform ← bindingTransform req
  let rep ← orRaise (db.representations.get? req.representationId) (notFoundError "representation" req.representationId)
  let commit ← checkScope db req rep
  checkProvider db stamp.now rep
  raiseIf (req.role ∈ rep.prohibitedUsesJson) (authorizationError "REPRESENTATION_USE_PROHIBITED"
    "requested publication role is prohibited")
  let (boundUses, review) ← authorizeUses registry py db stamp.now req rep commit
  let policy ← bindingPolicy py db stamp.now req rep
  let db ← writeBinding svc db stamp rep (bindingRow stamp req rep transform boundUses review policy)
  return (stamp.newId, db)

end Publish

section Writes
variable {svc : AuditService} {registry : ProviderRegistry} {py : PyConversions} {db db' : RepresentationDb}
  {stamp : RepresentationStamp} {req : PublishRequest}

theorem writeBinding_writes {rep : RepresentationAssetRow} {binding : RepresentationBindingRow}
    (h : writeBinding svc db stamp rep binding = .ok db') :
    (supersede db.bindings stamp.now ((liveBindingsOfRole db rep binding.role).map
        RepresentationBindingRow.bindingId)).insert? binding = some db'.bindings ∧
      ∃ s bindings, db' = { db with
        toStore := s, bindings, representations := db.representations.set { rep with state := "published" } } := by
  simp only [writeBinding, bind_eq_ok, orRaise_eq_ok] at h
  obtain ⟨bindings, hbindings, s, -, s', -, hdb⟩ := h
  cases hdb
  exact ⟨hbindings, s', bindings, rfl⟩

/-- Everything that a publication has read and written. -/
structure Publication (registry : ProviderRegistry) (py : PyConversions) (db : RepresentationDb)
    (stamp : RepresentationStamp) (req : PublishRequest) (rep : RepresentationAssetRow) (binding : RepresentationBindingRow) :
    Prop where
  found : db.representations.get? req.representationId = some rep
  approved : rep.state = "approved"
  authorized : ∃ commit review, authorizeUses registry py db stamp.now req rep commit = .ok (binding.intendedUsesJson, review)
  policy : bindingPolicy py db stamp.now req rep = .ok binding.audiencePolicyJson
  row : ∃ transform review, binding =
    bindingRow stamp req rep transform binding.intendedUsesJson review binding.audiencePolicyJson

theorem publish_writes {bindingId : String} (h : publish svc registry py db stamp req = .ok (bindingId, db')) :
    bindingId = stamp.newId ∧ ∃ rep binding, Publication registry py db stamp req rep binding ∧
      writeBinding svc db stamp rep binding = .ok db' := by
  simp only [publish, checkScope, bind_eq_ok, raiseIf_eq_ok, orRaise_eq_ok] at h
  obtain ⟨-, -, transform, -, rep, hrep, commit, ⟨commit', -, -, -, -, happroved, -⟩, -, -, -, -, ⟨boundUses, review⟩, huses,
    policy, hpolicy, after, hwrite, heq⟩ := h
  cases heq
  exact ⟨rfl, rep, _, ⟨hrep, not_not.mp happroved, ⟨commit, review, huses⟩, hpolicy, transform, review, rfl⟩, hwrite⟩

end Writes

end RepresentationPublisher

end Sip
