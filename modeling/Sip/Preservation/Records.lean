import Sip.Assets.Service

/-!
# The rows of a project as an export reads them

The tables that an import replays and those that are only archived are read in one way:
every column of a row by its name, an instant as its ISO text. A row is therefore a
dictionary here, and a table is the list of its rows; the references to assets keep
their own records.
-/

namespace Sip
namespace Preservation

set_option autoImplicit false

/-- `_NATIVE_REPLAY_MODELS`. -/
inductive Native where
  | coordinateFrame | spatialTransform | evidenceRecord | assertion | derivationEvent | sceneCommit | sceneBranch
  | sceneTag | sceneEntity | representationAsset | geometryAssetManifest | representationBinding | annotationRecord
  | anchorRemap | measurement | consentGrant | constructionRecord | constructionRecordVerification | memoryRecord
  | liveForeverRecordReview | collaborationComment | collaborationTask | retentionRule | legalHold
  deriving DecidableEq

namespace Native

def all : List Native := [
  .coordinateFrame, .spatialTransform, .evidenceRecord, .assertion, .derivationEvent, .sceneCommit, .sceneBranch,
  .sceneTag, .sceneEntity, .representationAsset, .geometryAssetManifest, .representationBinding, .annotationRecord,
  .anchorRemap, .measurement, .consentGrant, .constructionRecord, .constructionRecordVerification, .memoryRecord,
  .liveForeverRecordReview, .collaborationComment, .collaborationTask, .retentionRule, .legalHold]

/-- `model.__tablename__`. -/
def tableName : Native → String
  | .coordinateFrame => "coordinate_frames"
  | .spatialTransform => "spatial_transforms"
  | .evidenceRecord => "evidence_records"
  | .assertion => "assertions"
  | .derivationEvent => "derivation_events"
  | .sceneCommit => "scene_commits"
  | .sceneBranch => "scene_branches"
  | .sceneTag => "scene_tags"
  | .sceneEntity => "scene_entities"
  | .representationAsset => "representations"
  | .geometryAssetManifest => "geometry_asset_manifests"
  | .representationBinding => "representation_bindings"
  | .annotationRecord => "spatial_annotations"
  | .anchorRemap => "anchor_remaps"
  | .measurement => "measurements"
  | .consentGrant => "consent_grants"
  | .constructionRecord => "construction_records"
  | .constructionRecordVerification => "construction_record_verifications"
  | .memoryRecord => "memory_records"
  | .liveForeverRecordReview => "liveforever_record_reviews"
  | .collaborationComment => "collaboration_comments"
  | .collaborationTask => "collaboration_tasks"
  | .retentionRule => "retention_rules"
  | .legalHold => "legal_holds"

/-- `_PRIMARY_KEY_FIELDS`. -/
def primaryKey : Native → String
  | .coordinateFrame => "frame_id"
  | .spatialTransform => "transform_id"
  | .evidenceRecord => "evidence_id"
  | .assertion => "assertion_id"
  | .derivationEvent => "derivation_id"
  | .sceneCommit => "commit_id"
  | .sceneBranch => "branch_id"
  | .sceneTag => "tag_id"
  | .sceneEntity => "entity_id"
  | .representationAsset => "representation_id"
  | .geometryAssetManifest => "geometry_manifest_id"
  | .representationBinding => "binding_id"
  | .annotationRecord => "annotation_id"
  | .anchorRemap => "remap_id"
  | .measurement => "measurement_id"
  | .consentGrant => "grant_id"
  | .constructionRecord => "record_id"
  | .constructionRecordVerification => "verification_id"
  | .memoryRecord => "record_id"
  | .liveForeverRecordReview => "review_id"
  | .collaborationComment => "comment_id"
  | .collaborationTask => "task_id"
  | .retentionRule => "retention_rule_id"
  | .legalHold => "hold_id"

theorem mem_all (m : Native) : m ∈ all := by cases m <;> decide

theorem nodup_tableName : (all.map tableName).Nodup := by decide

end Native

/-- `_ARCHIVED_PROJECT_MODELS`. -/
inductive Archived where
  | roleBinding | savedQuery | agentProposal | auditEvent | operation | outboxEvent | searchDocument | notification
  | export | deletionRequest | deletionEvidence | quotaPolicy | usageLedger
  deriving DecidableEq

namespace Archived

def all : List Archived := [
  .roleBinding, .savedQuery, .agentProposal, .auditEvent, .operation, .outboxEvent, .searchDocument, .notification,
  .export, .deletionRequest, .deletionEvidence, .quotaPolicy, .usageLedger]

def tableName : Archived → String
  | .roleBinding => "role_bindings"
  | .savedQuery => "saved_queries"
  | .agentProposal => "agent_proposals"
  | .auditEvent => "audit_events"
  | .operation => "operations"
  | .outboxEvent => "outbox_events"
  | .searchDocument => "search_documents"
  | .notification => "notifications"
  | .export => "exports"
  | .deletionRequest => "deletion_requests"
  | .deletionEvidence => "deletion_evidence"
  | .quotaPolicy => "quota_policies"
  | .usageLedger => "usage_ledger"

def primaryKey : Archived → String
  | .roleBinding => "binding_id"
  | .savedQuery => "saved_query_id"
  | .agentProposal => "proposal_id"
  | .auditEvent => "audit_id"
  | .operation => "operation_id"
  | .outboxEvent => "event_id"
  | .searchDocument => "document_id"
  | .notification => "notification_id"
  | .export => "export_id"
  | .deletionRequest => "deletion_id"
  | .deletionEvidence => "evidence_id"
  | .quotaPolicy => "quota_id"
  | .usageLedger => "usage_id"

theorem nodup_tableName : (all.map tableName).Nodup := by decide

end Archived

/-- A row as `_serialize_model` shows it. -/
structure Row where
  columns : Dict
  distinct : (Json.obj columns).Distinct

namespace Row
variable (r : Row)

def get (column : String) : Json := r.columns.get column

/-- `str(row.column)` of a text column. -/
def text (column : String) : String := ((r.get column).text?).getD ""

def document : Json := .obj r.columns

end Row

structure PreservationDb where
  tenants : List Row
  projects : List Row
  native : Native → List Row
  archived : Archived → List Row
  providers : List Row
  models : List Row
  assets : Table AssetRow (fun row => row.sha256)
  refs : Table AssetRefRow (fun row => row.assetId)
  /-- A JSON column holds a dictionary. -/
  provenance_distinct : ∀ ref ∈ refs.rows, (Json.obj ref.provenanceJson).Distinct

def PreservationDb.empty : PreservationDb where
  tenants := []
  projects := []
  native _ := []
  archived _ := []
  providers := []
  models := []
  assets := .empty
  refs := .empty
  provenance_distinct ref h := by cases h

section Queries

/-- `session.get(model, identifier)`. -/
def getRow (rows : List Row) (primaryKey identifier : String) : Option Row :=
  rows.find? fun r => (r.get primaryKey).isText identifier

/-- `_project_rows`; archived rows may also belong to the tenant alone. -/
def projectRows (rows : List Row) (primaryKey tenantId projectId : String) (tenantWide : Bool) : List Row :=
  sortBy (fun r => r.text primaryKey) (rows.filter fun r => (r.get "tenant_id").isText tenantId ∧
    ((r.get "project_id").isText projectId ∨ (tenantWide = true ∧ ¬ (r.get "project_id").truthy)))

def tableRows (db : PreservationDb) (tenantId projectId : String) (m : Native) : List Row :=
  projectRows (db.native m) m.primaryKey tenantId projectId false

def archivedRows (db : PreservationDb) (tenantId projectId : String) (m : Archived) : List Row :=
  projectRows (db.archived m) m.primaryKey tenantId projectId true

/-- `(row.get(column) or {}).get("model_manifest_id")`, if it is given. Only texts identify models. -/
def modelManifestId (column : String) (r : Row) : Except Raised (Option String) := do
  let lineage := r.get column
  if lineage.truthy then
    let fields ← orRaise lineage.fields? (.attributeError "object has no attribute 'get'")
    let value := fields.get "model_manifest_id"
    if value.truthy then
      return some (← orRaise value.text? (.typeError "unsupported identifier"))
    else return none
  else return none

/-- `_referenced_governance_rows`. -/
def referencedGovernanceRows (db : PreservationDb) (tables : Native → List Row) : Except Raised (List Row × List Row) := do
  let providerIds := (tables .representationAsset).filterMap fun r => given (r.get "provider_id").text?
  let lineages ← (tables .memoryRecord).mapM (modelManifestId "generated_lineage_json")
  let provenances ← (tables .representationAsset).mapM (modelManifestId "provenance_json")
  let modelIds := lineages.filterMap id ++ provenances.filterMap id
  return ((sortedSet id providerIds).filterMap (getRow db.providers "provider_id"),
    (sortedSet id modelIds).filterMap (getRow db.models "model_id"))

end Queries

section Assets

/-- `value.isoformat()` of a column; SQLite gives an instant back without its offset. -/
def columnIso (instant : Nat) : String := String.ofList ((isoText instant).take ((isoText instant).length - 6))

/-- `_serialize_model(ref)`. -/
def serializeRef (ref : AssetRefRow) : Dict := [
  ("asset_id", .str ref.assetId), ("tenant_id", .str ref.tenantId), ("project_id", .str ref.projectId),
  ("sha256", .str ref.sha256), ("original_name", .str ref.originalName), ("classification", .str ref.classification),
  ("retention_class", .str ref.retentionClass), ("source_class", .str ref.sourceClass),
  ("authority_class", .str ref.authorityClass), ("provenance_json", .obj ref.provenanceJson),
  ("legal_hold", .bool ref.legalHold), ("created_by", .str ref.createdBy), ("created_at", .str (columnIso ref.createdAt)),
  ("tombstoned_at", .ofOption (ref.tombstonedAt.map columnIso))]

/-- `_portable_asset_object`. -/
def portableAssetObject (row : AssetRow) : Dict := [
  ("sha256", .str row.sha256), ("byte_count", .int row.byteCount), ("media_type", .str row.mediaType),
  ("created_at", .str (columnIso row.createdAt)), ("content_encoding", .str "identity"),
  ("encryption", .str "destination_managed_on_import")]

/-- The references that an export and a recovery point take: those of the project that are not tombstoned. -/
def liveRefs (refs : List AssetRefRow) (tenantId projectId : String) : List AssetRefRow :=
  sortBy (fun ref => ref.assetId)
    (refs.filter fun ref => ref.tenantId = tenantId ∧ ref.projectId = projectId ∧ ref.tombstonedAt = none)

end Assets

end Preservation
end Sip
