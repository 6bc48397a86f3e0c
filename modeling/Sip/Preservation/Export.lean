import Sip.Preservation.Records
import Sip.Preservation.Unpacking

/-!
# Exporting a project

One session reads the project and the objects behind its live references; the files of
the package are written from that, the manifest last, and packed. What deflating leaves of
a file and the bytes of the archive are parameters. A second transaction records the export.
-/

namespace Sip
namespace Preservation

set_option autoImplicit false

/-- The ZIP writer. -/
structure ZipWriter where
  /-- The size that deflating leaves of a file. -/
  deflatedSize : Bytes → Nat
  /-- The bytes of the archive. -/
  archive : List ZipEntry → Bytes

section Documents

def table (rows : List Row) : Json := .arr (rows.map Row.document)

/-- A dictionary of tables by name. -/
def tables (named : List (String × List Row)) : Dict := named.map fun (name, rows) => (name, table rows)

/-- `{name: canonical_sha256(rows) for name, rows in sorted(tables.items())}`. -/
def tableDigests (named : List (String × List Row)) : Dict :=
  (sortBy Prod.fst named).map fun (name, rows) => (name, .str (canonicalSha256 (table rows)))

/-- `sorted(tables)`. -/
def tableNames (named : List (String × List Row)) : Json := .arr ((sortBy id (named.map Prod.fst)).map .str)

def archivedPath : List String := ["evidence", "archived-project-records.json"]

def governancePath : List String := ["governance", "provider-model-manifests.json"]

def archivedDocument (archived : List (String × List Row)) : Dict := [
  ("schema", .str "sip.archived-project-records/v1"), ("activation_policy", .str "preserved_only_not_replayed"),
  ("tables", .obj (tables archived)), ("table_digests", .obj (tableDigests archived))]

def governanceDocument (governance : List (String × List Row)) : Dict := [
  ("schema", .str "sip.preserved-governance/v1"), ("activation_policy", .str "deny_by_default_reapproval_required"),
  ("tables", .obj (tables governance)), ("table_digests", .obj (tableDigests governance))]

def restorePolicy : Dict := [
  ("native_rows_replayed", .bool true), ("stable_ids_preserved_unless_collision", .bool true),
  ("security_identities_and_roles_replayed", .bool false), ("provider_and_model_approvals_replayed", .bool false),
  ("queued_operations_and_events_replayed", .bool false), ("derived_search_indexes_replayed", .bool false),
  ("historical_audit_rows_inserted_into_destination_chain", .bool false),
  ("source_package_retained_as_immutable_evidence", .bool true)]

def truthRules : Dict := [
  ("metric_visual_interaction_design_evidence_separate", .bool true), ("generated_content_labeled", .bool true),
  ("policy_records_included", .bool true), ("provider_reapproval_required", .bool true)]

/-- What one session has read. -/
structure Snapshot where
  tenant : Row
  project : Row
  native : List (String × List Row)
  archived : List (String × List Row)
  governance : List (String × List Row)
  /-- The live references with the rows and the bytes of their objects, in the order of their identifiers. -/
  assets : List (AssetRefRow × AssetRow × Bytes)

namespace Snapshot
variable (s : Snapshot)

def assetManifest (entry : AssetRefRow × AssetRow × Bytes) : Json :=
  .obj [("reference", .obj (serializeRef entry.1)), ("object", .obj (portableAssetObject entry.2.1))]

def metadata (now : Nat) (actorId : String) : Dict := [
  ("format", .str "sip-open-preservation"), ("format_version", .str "1.1.0"), ("domain_schema_version", .str "1.1.0"),
  ("created_at", .str (isoformat now)), ("created_by", .str actorId),
  ("tenant", s.tenant.document), ("project", s.project.document),
  ("assets", .arr (s.assets.map assetManifest)),
  ("tables", .obj (tables s.native)), ("native_replay_tables", tableNames s.native),
  ("table_digests", .obj (tableDigests s.native)),
  ("archived_records", .obj [
    ("path", .str (joinPath archivedPath)), ("tables", tableNames s.archived),
    ("table_digests", .obj (tableDigests s.archived))]),
  ("preserved_governance", .obj [
    ("path", .str (joinPath governancePath)), ("tables", tableNames s.governance),
    ("table_digests", .obj (tableDigests s.governance)), ("automatically_activated", .bool false)]),
  ("restore_policy", .obj restorePolicy), ("truth_rules", .obj truthRules)]

/-- The object files, each content once. -/
def objectFiles : List (AssetRefRow × AssetRow × Bytes) → List (List String × Bytes)
  | [] => []
  | entry :: entries =>
    (["objects", entry.1.sha256], entry.2.2) :: (objectFiles entries).filter fun file => file.1 ≠ ["objects", entry.1.sha256]

/-- Everything but the manifest. -/
def listedFiles (now : Nat) (actorId : String) : List (List String × Bytes) :=
  (archivedPath, documentBytes (.obj (archivedDocument s.archived))) ::
  (governancePath, documentBytes (.obj (governanceDocument s.governance))) ::
  (["metadata.json"], documentBytes (.obj (s.metadata now actorId))) :: objectFiles s.assets

end Snapshot

/-- `(str(path), sha256_file(path))`. -/
def fileEntry (file : List String × Bytes) : String × String := (joinPath file.1, sha256Hex file.2)

def manifest (listed : List (List String × Bytes)) : Dict := [
  ("format", .str "sip-open-preservation-manifest"), ("format_version", .str "1.1.0"),
  ("files", .arr ((sortBy toLex (listed.map fileEntry)).map fun entry =>
    .obj [("path", .str entry.1), ("sha256", .str entry.2)])),
  ("root_hash", .str (merkleRoot (listed.map fileEntry)))]

/-- All files of the package in the order of their paths. -/
def packageFiles (listed : List (List String × Bytes)) : List (List String × Bytes) :=
  sortBy Prod.fst ((["manifest.json"], documentBytes (.obj (manifest listed))) :: listed)

end Documents

section Export

/-- One live reference: its object row and its bytes. -/
def readObject (assets : Table AssetRow (fun row => row.sha256)) (store : LocalContentAddressedStore) (ref : AssetRefRow) :
    Except Raised (AssetRefRow × AssetRow × Bytes) := do
  let object ← orRaise (assets.get? ref.sha256)
    (validationError "EXPORT_OBJECT_MISSING" "asset object metadata is missing" [("asset_id", .str ref.assetId)])
  let payload ← store.readBytes ref.sha256
  raiseIf (sha256Hex payload ≠ ref.sha256) (validationError "EXPORT_OBJECT_INTEGRITY_FAILED"
    "asset plaintext does not match its content identity" [("asset_id", .str ref.assetId)])
  return (ref, object, payload)

/-- The session of `export_project`. -/
def takeSnapshot (db : PreservationDb) (store : LocalContentAddressedStore) (tenantId projectId : String) :
    Except Raised Snapshot := do
  let tenant ← orRaise (getRow db.tenants "tenant_id" tenantId) (notFoundError "project" projectId)
  let project ← orRaise (getRow db.projects "project_id" projectId) (notFoundError "project" projectId)
  raiseIf (¬ (project.get "tenant_id").isText tenantId) (notFoundError "project" projectId)
  let governance ← referencedGovernanceRows db (tableRows db tenantId projectId)
  let assets ← (liveRefs db.refs.rows tenantId projectId).mapM (readObject db.assets store)
  return {
    tenant, project, assets
    native := Native.all.map fun m => (m.tableName, tableRows db tenantId projectId m)
    archived := Archived.all.map fun m => (m.tableName, archivedRows db tenantId projectId m)
    governance := [("provider_manifests", governance.1), ("model_manifests", governance.2)] }

/-- A written package. -/
structure Package where
  files : List (List String × Bytes)
  manifest : Dict
  rootHash : String
  file : PackageFile

/-- The files of a snapshot, packed. -/
def packSnapshot (zip : ZipWriter) (s : Snapshot) (now : Nat) (actorId : String) : Package :=
  let listed := s.listedFiles now actorId
  let files := packageFiles listed
  let entries := files.map (zipEntry zip.deflatedSize)
  { files, manifest := manifest listed, rootHash := merkleRoot (listed.map fileEntry),
    file := ⟨zip.archive entries, some entries⟩ }

/-- `export_project` up to the record of it. -/
def exportPackage (zip : ZipWriter) (db : PreservationDb) (store : LocalContentAddressedStore) (now : Nat)
    (tenantId projectId actorId : String) : Except Raised Package := do
  let s ← takeSnapshot db store tenantId projectId
  return packSnapshot zip s now actorId

/-- The row that records an export. -/
def exportRow (p : Package) (exportId tenantId projectId path actorId : String) (now : Nat) : Dict := [
  ("export_id", .str exportId), ("tenant_id", .str tenantId), ("project_id", .str projectId),
  ("format", .str "sip-open-preservation"), ("status", .str "complete"), ("manifest_json", .obj p.manifest),
  ("root_hash", .str p.rootHash), ("path", .str path), ("created_by", .str actorId), ("created_at", .str (columnIso now))]

end Export

end Preservation
end Sip
