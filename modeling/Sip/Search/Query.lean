import Mathlib.Algebra.Order.Field.Basic
import Mathlib.Data.List.Dedup
import Sip.Assets.Service
import Sip.Foundation.Box
import Sip.Policy.Service
import Sip.Search.EditDistance

/-!
# The spatial search query

Numbers are of an ordered field, so that scores are exact. A query admits the documents of the project that the
principal may see, drops those that fail a condition of the specification or do not score above zero, and returns
the first ones by score and identifier. Of a document the columns are kept that a query reads; the hash and the
explanation of a query, and the audit entry written after it, are left out.
-/

namespace Sip

set_option autoImplicit false

/-- `datetime.min` and `datetime.max` in UTC, in microseconds since the epoch. -/
def datetimeMin : Int := -62135596800000000

def datetimeMax : Int := 253402300799999999

abbrev Instant := {t : Int // datetimeMin ≤ t ∧ t ≤ datetimeMax}

section Documents

/-- A policy as `_normalize_policy` leaves it. -/
structure DocumentPolicy where
  audience : Audience := .private
  allowedSubjectIds : List String := []
  allowedRoles : List String := []
  purposes : List String := []
  spatialRegionIds : List String := []
  consentActive : Bool := true
  redacted : Bool := false
  visibleFromEntityIds : List String := []
  visibilityPrecomputed : Bool := false

structure Relationship where
  type : String
  sourceId : Option String
  targetId : Option String
  depth : Int

variable (K : Type) [Field K] [LinearOrder K]

structure SearchDocumentRow where
  documentId : String
  tenantId : String
  projectId : String
  entityId : Option String := none
  entityType : Option String := none
  termsJson : List String := []
  embeddingJson : Option (List K) := none
  embeddingModelManifestId : Option String := none
  spatialBoundsJson : Option (Box (Fin 3) K) := none
  spatialFrameId : Option String := none
  floorId : Option String := none
  roomId : Option String := none
  temporalStart : Option Instant := none
  temporalEnd : Option Instant := none
  sourceClass : SourceClass := .observed
  authorityClass : AuthorityClass := .evidence
  confidence : K := 1
  tagsJson : List String := []
  workflowStatus : Option String := none
  relationshipsJson : List Relationship := []
  evidenceIdsJson : List String := []
  policyJson : DocumentPolicy := {}
  classification : Classification := .internal
  sourceSequence : Int := 0
  indexSequence : Int := 0
  sceneCommitId : Option String := none
  temporal_ordered : ∀ s ∈ temporalStart, ∀ e ∈ temporalEnd, s ≤ e

theorem untimed_ordered : ∀ s ∈ (none : Option Instant), ∀ e ∈ (none : Option Instant), s ≤ e := by simp

end Documents

section Specifications

inductive SpatialOperator where
  | within | intersects | near | visibleFrom | onLevel
  deriving DecidableEq

def SpatialOperator.value : SpatialOperator → String
  | .within => "within"
  | .intersects => "intersects"
  | .near => "near"
  | .visibleFrom => "visible_from"
  | .onLevel => "on_level"

structure TemporalInterval where
  start : Instant
  «end» : Instant
  ordered : start ≤ «end»

inductive GraphDirection where
  | outbound | inbound | either
  deriving DecidableEq

structure GraphTraversal where
  startEntityIds : List String
  relationshipTypes : List String
  direction : GraphDirection := .either
  maxDepth : Int := 1

variable (K : Type) [Field K] [LinearOrder K]

/-- A predicate that `validate_operator_fields` accepts. -/
structure SpatialPredicate where
  operator : SpatialOperator
  frameId : Option String := none
  bounds : Option (Box (Fin 3) K) := none
  point : Option (Fin 3 → K) := none
  distanceM : Option K := none
  observerEntityId : Option String := none
  levelId : Option String := none
  distance_nonneg : ∀ d ∈ distanceM, 0 ≤ d
  complete : match operator with
    | .within | .intersects => (given frameId).isSome ∧ bounds.isSome
    | .near => (given frameId).isSome ∧ point.isSome ∧ distanceM.isSome
    | .visibleFrom => (given frameId).isSome ∧ (point.isSome ∨ (given observerEntityId).isSome)
    | .onLevel => (given levelId).isSome

structure SearchQuerySpec where
  tenantId : String
  projectId : String
  fullText : Option String := none
  embedding : Option (List K) := none
  embeddingModelManifestId : Option String := none
  entityTypes : List String := []
  floorIds : List String := []
  roomIds : List String := []
  spatial : List (SpatialPredicate K) := []
  temporalInterval : Option TemporalInterval := none
  changedBetween : Option TemporalInterval := none
  graph : Option GraphTraversal := none
  sourceClasses : List SourceClass := []
  authorityClasses : List AuthorityClass := []
  minimumConfidence : Option K := none
  tags : List String := []
  workflowStatuses : List String := []
  evidenceIds : List String := []
  sceneCommitId : Option String := none
  purpose : Option String := none
  criticalWorkflow : Bool := false
  limit : Nat := 50
  timeoutMs : Nat := 2000

end Specifications

/-- What a query computes with: the tokens and the words of a text, `str.lower()`, `math.sqrt`, `math.pi`, and the float
that a refusal reports a volume as. -/
structure SearchService (K : Type) [Field K] [LinearOrder K] where
  tokenize : String → List String
  split : String → List String
  lower : String → String
  root : K → K
  pi : K
  float : K → PyFloat
  tokenize_empty : tokenize "" = []

namespace SearchService
variable {K : Type} [Field K] [LinearOrder K]

section Authorization

def audienceAccess : Audience → List Audience
  | .private => [.private, .family, .project, .owner, .public]
  | .family => [.family, .public]
  | .project => [.project, .public]
  | .owner => [.owner, .project, .public]
  | .public => [.public]

def privilegedSensitiveRoles : List String := ["tenant_admin", "project_admin", "privacy_officer", "reviewer"]

/-- `set(xs).intersection(ys)` is not empty. -/
def intersects (xs ys : List String) : Bool := xs.any fun x => x ∈ ys

def isTenantAdmin (principal : SignedPrincipal) : Bool := "tenant_admin" ∈ principal.roles

/-- `set(principal.attributes.get("spatial_region_ids", []))` -/
def principalRegions (principal : SignedPrincipal) : Except Raised (List Json) :=
  ((principal.attributes.lookup "spatial_region_ids").getD (.arr [])).asSet

/-- `_authorized` -/
def authorized (row : SearchDocumentRow K) (principal : SignedPrincipal) (spec : SearchQuerySpec K) : Except Raised Bool :=
  let policy := row.policyJson
  if policy.redacted = true ∨ policy.consentActive = false then .ok false
  else if policy.allowedSubjectIds ≠ [] ∧ principal.subjectId ∉ policy.allowedSubjectIds ∧
      isTenantAdmin principal = false then .ok false
  else if policy.allowedRoles ≠ [] ∧ intersects policy.allowedRoles principal.roles = false then .ok false
  else if policy.purposes ≠ [] ∧ intersects policy.purposes principal.purposes = false ∧ isTenantAdmin principal = false then
    .ok false
  else if (given spec.purpose).any (fun purpose => purpose ∉ principal.purposes) = true ∧ isTenantAdmin principal = false then
    .ok false
  else if policy.audience ∉ audienceAccess principal.audience ∧ isTenantAdmin principal = false then .ok false
  else if row.classification ∈ [Classification.criticalInfrastructure, .biometric, .minor] ∧
      intersects privilegedSensitiveRoles principal.roles = false then .ok false
  else do
    let regions ← principalRegions principal
    return regions = [] ∨ policy.spatialRegionIds = [] ∨ intersects policy.spatialRegionIds (regions.filterMap Json.text?) = true

/-- `[row for row in rows if f(row)]` -/
def filterOk {α : Type} (f : α → Except Raised Bool) : List α → Except Raised (List α)
  | [] => .ok []
  | row :: rows => do
    let keep ← f row
    let rest ← filterOk f rows
    return if keep then row :: rest else rest

/-- The answer is yes. -/
def granted : Except Raised Bool → Bool
  | .ok answer => answer
  | .error _ => false

theorem granted_eq_true_iff {answer : Except Raised Bool} : granted answer = true ↔ answer = .ok true := by
  cases answer with
  | ok answer => simp [granted]
  | error error => simp [granted]

theorem filterOk_eq_ok_iff {α : Type} {f : α → Except Raised Bool} {rows kept : List α} :
    filterOk f rows = .ok kept ↔ (∀ row ∈ rows, ∃ answer, f row = .ok answer) ∧ kept = rows.filter fun row => granted (f row) := by
  induction rows generalizing kept with
  | nil => simp [filterOk, eq_comm]
  | cons row rows ih =>
    simp only [filterOk, bind_eq_ok]
    constructor
    · rintro ⟨keep, hkeep, rest, hrest, h⟩
      obtain ⟨hall, rfl⟩ := ih.mp hrest
      refine ⟨List.forall_mem_cons.mpr ⟨⟨keep, hkeep⟩, hall⟩, ?_⟩
      cases h
      rw [List.filter_cons, hkeep]
      rfl
    · rintro ⟨hall, rfl⟩
      obtain ⟨⟨keep, hkeep⟩, hrest⟩ := List.forall_mem_cons.mp hall
      refine ⟨keep, hkeep, _, ih.mpr ⟨hrest, rfl⟩, ?_⟩
      rw [List.filter_cons, hkeep]
      rfl

end Authorization

section Lexical

/-- How much a term of a document counts for a term of the query that it is not equal to. -/
def similarity (query document : String) : K :=
  let shorter := min query.toList.length document.toList.length
  let maximumDistance := if 9 ≤ shorter then 2 else 1
  if 4 ≤ shorter ∧ boundedEditDistance query.toList document.toList maximumDistance ≤ maximumDistance then
    if maximumDistance = 1 then 78 / 100 else 68 / 100
  else 0

def bestMatch (documentTerms : List String) (query : String) : K :=
  if query ∈ documentTerms then 1 else (documentTerms.map (similarity query)).foldl max 0

/-- `_lexical_score`, for the terms of a query without repetitions. -/
def lexicalScore (queryTerms documentTerms : List String) : K :=
  if queryTerms = [] then 0 else (queryTerms.map (bestMatch documentTerms)).sum / queryTerms.length

end Lexical

variable (svc : SearchService K)

/-- `_cosine` -/
def cosine (left right : List K) : K :=
  if left = [] ∨ right = [] ∨ left.length ≠ right.length then 0
  else
    let dot := (List.zipWith (· * ·) left right).sum
    let leftNorm := svc.root (left.map fun a => a * a).sum
    let rightNorm := svc.root (right.map fun b => b * b).sum
    if leftNorm ≠ 0 ∧ rightNorm ≠ 0 then dot / (leftNorm * rightNorm) else 0

section Conditions

/-- `_temporal_overlap` -/
def temporalOverlap (row : SearchDocumentRow K) (interval : TemporalInterval) : Bool :=
  (row.temporalStart.map Subtype.val).getD datetimeMin ≤ interval.end.val ∧
    interval.start.val ≤ (row.temporalEnd.map Subtype.val).getD datetimeMax

/-- The body of the loop over `spec.spatial`. -/
def spatialMatch (row : SearchDocumentRow K) (predicate : SpatialPredicate K) : Bool :=
  match predicate.operator with
  | .onLevel => row.floorId = predicate.levelId
  | operator => row.spatialBoundsJson.any fun rowBounds =>
    row.spatialFrameId = predicate.frameId && match operator with
      | .within => predicate.bounds.any fun bounds =>
        ∀ i, bounds.minimum i ≤ rowBounds.minimum i ∧ rowBounds.maximum i ≤ bounds.maximum i
      | .intersects => predicate.bounds.any fun bounds =>
        ∀ i, rowBounds.minimum i ≤ bounds.maximum i ∧ bounds.minimum i ≤ rowBounds.maximum i
      | .near => predicate.point.any fun point => predicate.distanceM.any fun distance =>
        svc.root (Box.squaredGap point rowBounds) ≤ distance
      | _ =>
        (given predicate.observerEntityId).all (fun observer => observer ∈ row.policyJson.visibleFromEntityIds) &&
          (predicate.point.isNone || row.policyJson.visibilityPrecomputed)

/-- The condition on one relationship under `spec.graph`. -/
def relationshipMatch (row : SearchDocumentRow K) (graph : GraphTraversal) (relationship : Relationship) : Bool :=
  relationship.type ∈ graph.relationshipTypes ∧ relationship.depth ≤ graph.maxDepth ∧
    ((∃ source ∈ relationship.sourceId, source ∈ graph.startEntityIds) ∨
      (∃ target ∈ relationship.targetId, target ∈ graph.startEntityIds) ∨
      (∃ entity ∈ row.entityId, entity ∈ graph.startEntityIds))

/-- A condition of a specification: whether it is there, whether a document meets it, and the reason it then gives. -/
structure Condition where
  present : Bool
  met : Bool
  reason : String

/-- `row.column not in set(alternatives)`, for a list of alternatives that is not empty. -/
def oneOf {α : Type} [DecidableEq α] (alternatives : List α) (column : Option α) (reason : String) : Condition where
  present := alternatives ≠ []
  met := column.any fun value => value ∈ alternatives
  reason := reason

def queryTerms (spec : SearchQuerySpec K) : List String := (svc.tokenize (spec.fullText.getD "")).dedup

/-- The conditions that `_matches` tests, in its order. -/
def conditions (row : SearchDocumentRow K) (spec : SearchQuerySpec K) : List Condition := [
  oneOf spec.entityTypes row.entityType "entity_type",
  oneOf spec.floorIds row.floorId "floor",
  oneOf spec.roomIds row.roomId "room",
  oneOf spec.sourceClasses (some row.sourceClass) "source_class",
  oneOf spec.authorityClasses (some row.authorityClass) "authority_class",
  ⟨spec.minimumConfidence.isSome, spec.minimumConfidence.all fun minimum => minimum ≤ row.confidence, "confidence"⟩,
  ⟨spec.tags ≠ [], (spec.tags.map svc.lower).all fun tag => tag ∈ row.tagsJson, "tags"⟩,
  oneOf spec.workflowStatuses row.workflowStatus "workflow_status",
  ⟨spec.evidenceIds ≠ [], intersects spec.evidenceIds row.evidenceIdsJson, "evidence"⟩,
  ⟨(given spec.sceneCommitId).isSome, row.sceneCommitId = spec.sceneCommitId, "scene_commit"⟩,
  ⟨svc.queryTerms spec ≠ [], 0 < (lexicalScore (svc.queryTerms spec) row.termsJson : K), "full_text"⟩,
  ⟨spec.embedding.isSome,
    row.embeddingModelManifestId = spec.embeddingModelManifestId ∧ row.embeddingJson ≠ none, "semantic"⟩,
  ⟨spec.temporalInterval.isSome, spec.temporalInterval.all (temporalOverlap row), "temporal_interval"⟩,
  ⟨spec.changedBetween.isSome, spec.changedBetween.all (temporalOverlap row), "changed_between"⟩] ++
  spec.spatial.map (fun predicate => ⟨true, svc.spatialMatch row predicate, "spatial:" ++ predicate.operator.value⟩) ++
  [⟨spec.graph.isSome, spec.graph.all fun graph => row.relationshipsJson.any (relationshipMatch row graph), "graph"⟩]

/-- `_matches`: the reasons, unless a condition that is there is not met. -/
def «matches» (row : SearchDocumentRow K) (spec : SearchQuerySpec K) : Option (List String) :=
  let conditions := svc.conditions row spec
  if conditions.all (fun condition => !condition.present || condition.met) then
    some ((conditions.filter Condition.present).map Condition.reason)
  else none

end Conditions

section Compilation

def spatialCost : SpatialOperator → Nat
  | .within => 5
  | .intersects => 6
  | .near => 5
  | .visibleFrom => 12
  | .onLevel => 2

def scalarFilters (spec : SearchQuerySpec K) : Nat :=
  spec.entityTypes.length + spec.floorIds.length + spec.roomIds.length + spec.sourceClasses.length +
    spec.authorityClasses.length + spec.tags.length + spec.workflowStatuses.length + spec.evidenceIds.length

def complexity (spec : SearchQuerySpec K) : Int :=
  1 + scalarFilters spec +
    (match given spec.fullText with
      | some text => min 10 (max 1 ((svc.split text).length / 4))
      | none => 0) +
    (if spec.embedding.isSome then 12 else 0) +
    (spec.spatial.map fun predicate => spatialCost predicate.operator).sum +
    (if spec.temporalInterval.isSome then 3 else 0) + (if spec.changedBetween.isSome then 5 else 0) +
    (match spec.graph with
      | some graph => 4 * graph.maxDepth + graph.relationshipTypes.length
      | none => 0)

def predicateVolume (predicate : SpatialPredicate K) : K :=
  match predicate.bounds, predicate.operator, predicate.distanceM with
  | some bounds, _, _ => ∏ i, (bounds.maximum i - bounds.minimum i)
  | none, .near, some distance => 4 / 3 * svc.pi * distance ^ 3
  | _, _, _ => 0

/-- The budgets that `compile_query` enforces. -/
def compileQuery (spec : SearchQuerySpec K) : Except Raised Unit := do
  raiseIf (200 < spec.limit) (validationError "QUERY_RESULT_LIMIT_EXCEEDED" "query result limit exceeds the service budget"
    [("requested", .int spec.limit), ("maximum", .int 200)])
  raiseIf (5000 < spec.timeoutMs) (validationError "QUERY_TIME_LIMIT_EXCEEDED" "query timeout exceeds the service budget"
    [("requested_ms", .int spec.timeoutMs), ("maximum_ms", .int 5000)])
  raiseIf (60 < svc.complexity spec) (validationError "QUERY_COMPLEXITY_EXCEEDED"
    "query complexity exceeds the service budget" [("complexity", .int (svc.complexity spec)), ("maximum", .int 60)])
  let volume := (spec.spatial.map svc.predicateVolume).sum
  raiseIf (10000000 < volume) (validationError "QUERY_SPATIAL_VOLUME_EXCEEDED"
    "query spatial volume exceeds the service budget"
    [("volume_m3", .float (svc.float volume)), ("maximum_m3", .float (svc.float 10000000))])

end Compilation

section Ranking

/-- A document with its score and the reasons it matched for. -/
structure Ranked (K : Type) [Field K] [LinearOrder K] where
  score : K
  row : SearchDocumentRow K
  reasons : List String

def fresh (row : SearchDocumentRow K) : Bool := row.sourceSequence ≤ row.indexSequence

def structured (reasons : List String) : K := min 1 (12 / 100 * reasons.length)

/-- The cosine of the two embeddings, when they are of one model. -/
def vectorScore (row : SearchDocumentRow K) (spec : SearchQuerySpec K) : K :=
  match spec.embedding, row.embeddingJson with
  | some query, some document =>
    if document ≠ [] ∧ spec.embeddingModelManifestId = row.embeddingModelManifestId then svc.cosine query document else 0
  | _, _ => 0

/-- The part of the score that the conditions have no part in. -/
def contentScore (row : SearchDocumentRow K) (spec : SearchQuerySpec K) : K :=
  lexicalScore (svc.queryTerms spec) row.termsJson * (50 / 100) + svc.vectorScore row spec * (35 / 100)

def score (row : SearchDocumentRow K) (spec : SearchQuerySpec K) (reasons : List String) : K :=
  if svc.queryTerms spec = [] ∧ spec.embedding.isNone = true then max (10 / 100) (structured reasons)
  else svc.contentScore row spec + structured reasons * (15 / 100)

/-- A query with neither terms nor an embedding. -/
def Unscored (spec : SearchQuerySpec K) : Prop :=
  svc.queryTerms spec = [] ∧ spec.embedding.isNone = true

/-- The document meets all conditions, and what its terms and its embedding score is so far below zero that only the
further reasons bring the score above it. -/
def Lifted (spec spec' : SearchQuerySpec K) (row : SearchDocumentRow K) : Prop :=
  ¬ svc.Unscored spec ∧ ∃ reasons reasons', svc.matches row spec = some reasons ∧ svc.matches row spec' = some reasons' ∧
    svc.contentScore row spec + structured reasons * (15 / 100) ≤ 0 ∧
    0 < svc.contentScore row spec + structured reasons' * (15 / 100)

/-- The body of the loop over the authorized documents. -/
def rankRow (spec : SearchQuerySpec K) (row : SearchDocumentRow K) : Option (Ranked K) :=
  if fresh row = false ∧ spec.criticalWorkflow = true then none
  else match svc.matches row spec with
    | none => none
    | some reasons => if 0 < svc.score row spec reasons then some ⟨svc.score row spec reasons, row, reasons⟩ else none

/-- What a query returns; the rendering of its items is left out. -/
structure SearchResult (K : Type) [Field K] [LinearOrder K] where
  items : List (Ranked K)
  authorizedCount : Nat
  authorizedMatchCount : Nat
  truncated : Bool
  staleAuthorizedDocuments : Nat
  criticalStaleResultsOmitted : Nat
  canonicalLookupRequired : Bool

def projectDocuments (db : Table (SearchDocumentRow K) fun row => row.documentId) (spec : SearchQuerySpec K) :
    List (SearchDocumentRow K) :=
  db.rows.filter fun row => row.tenantId = spec.tenantId ∧ row.projectId = spec.projectId

def rankOrder (ranked : List (Ranked K)) : List (Ranked K) :=
  sortBy (fun entry => toLex (-entry.score, entry.row.documentId)) ranked

/-- The checks that both ways to search start with. -/
def requireScope (principal : SignedPrincipal) (spec : SearchQuerySpec K) : Except Raised Unit := do
  raiseIf (principal.tenantId ≠ spec.tenantId) (authorizationError "SEARCH_TENANT_SCOPE_DENIED"
    "search tenant does not match authenticated principal")
  raiseIf (spec.projectId ∉ principal.projectIds ∧ isTenantAdmin principal = false)
    (authorizationError "SEARCH_PROJECT_SCOPE_DENIED" "search project is outside authenticated scope")

/-- `authorized = [row for row in rows if _authorized(row, principal, spec)]` -/
def authorizedDocuments (db : Table (SearchDocumentRow K) fun row => row.documentId) (principal : SignedPrincipal)
    (spec : SearchQuerySpec K) : Except Raised (List (SearchDocumentRow K)) :=
  filterOk (fun row => authorized row principal spec) (projectDocuments db spec)

/-- What the loop over the authorized documents collects in `ranked`. -/
def matchedDocuments (db : Table (SearchDocumentRow K) fun row => row.documentId) (principal : SignedPrincipal)
    (spec : SearchQuerySpec K) : Except Raised (List (Ranked K)) := do
  let admitted ← authorizedDocuments db principal spec
  return admitted.filterMap (svc.rankRow spec)

/-- `elapsed` is the time in milliseconds that has gone by when a document comes up. -/
def query (db : Table (SearchDocumentRow K) fun row => row.documentId) (elapsed : SearchDocumentRow K → Nat)
    (principal : SignedPrincipal) (spec : SearchQuerySpec K) : Except Raised (SearchResult K) := do
  requireScope principal spec
  svc.compileQuery spec
  let admitted ← authorizedDocuments db principal spec
  raiseIf (admitted.any fun row => spec.timeoutMs < elapsed row)
    (validationError "QUERY_EXECUTION_TIMEOUT" "authorized search exceeded its execution budget")
  let ranked := admitted.filterMap (svc.rankRow spec)
  let stale := (admitted.filter fun row => !fresh row).length
  let items := (rankOrder ranked).take spec.limit
  return {
    items, authorizedCount := items.length, authorizedMatchCount := ranked.length, truncated := spec.limit < ranked.length,
    staleAuthorizedDocuments := stale, criticalStaleResultsOmitted := if spec.criticalWorkflow then stale else 0,
    canonicalLookupRequired := spec.criticalWorkflow && stale ≠ 0 }

end Ranking

end SearchService

end Sip
