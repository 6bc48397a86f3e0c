import Sip.Scene.Service

/-!
# Where scenes and branches come from

`create_scene` draws a scene identifier, `create_branch` branches off a commit of the
scene, and `import_project` replays the rows of a preservation package: it gives new
identifiers to rows whose own are taken and leaves the identifiers of scenes alone.
-/

namespace Sip

set_option autoImplicit false

structure SceneCreation where
  tenantId : String
  projectId : String
  name : String
  actorId : String

/-- What `create_scene` and the import of an old package draw. -/
structure SceneStamp extends CommitStamp where
  sceneId : String
  branchId : String

structure SceneCreated where
  sceneId : String
  commitId : String
  branch : String

structure BranchCreation extends BranchKey where
  fromCommitId : String
  isProtected : Bool := false

/-- The rows of a package that a scene store holds; `native_replay_tables` has twenty more tables. -/
structure NativeTables where
  evidenceRecords : List EvidenceRecordRow
  sceneCommits : List SceneCommitRow
  sceneBranches : List SceneBranchRow
  sceneEntities : List SceneEntityRow
  representationBindings : List RepresentationBindingRow

structure ImportRequest where
  tenantId : String
  projectId : String
  actorId : String
  classification : String := "internal"
  sourceRootHash : String
  tables : NativeTables

/-- For a category, the new identifiers of the old ones. -/
abbrev IdMaps := String → List (String × String)

/-- What an import draws: for a category and an identifier that is taken, the one with which the loop ends; and the maps of
the assets and of the tables that hold no scene rows. -/
structure ImportStamp where
  now : Nat
  draw : String → String → String
  others : IdMaps

namespace SceneService

section Creation
variable (svc : AuditService)

/-- An insert into `scene_branches`: the primary key, and one branch of a name for a scene of a project. -/
def insertBranch (db : SceneStore) (row : SceneBranchRow) : Except Raised SceneStore := do
  raiseIf (db.branches.rows.any fun other => other.tenantId = row.tenantId ∧ other.projectId = row.projectId ∧
      other.sceneId = row.sceneId ∧ other.name = row.name)
    (.integrityError "uq_scene_branch")
  let branches ← orRaise (db.branches.insert? row) (.integrityError "scene_branches.branch_id")
  return { db with branches }

def createdCommit (stamp : SceneStamp) (req : SceneCreation) : SceneCommitRow where
  commitId := stamp.commitId
  tenantId := req.tenantId
  projectId := req.projectId
  sceneId := stamp.sceneId
  branch := "main"
  parentIdsJson := []
  message := "Initialize scene"
  semanticSnapshotJson := createdSnapshot stamp.sceneId req.name
  snapshotHash := canonicalSha256 (.obj (createdSnapshot stamp.sceneId req.name))
  rootManifestHash := canonicalSha256 (.obj (createdSnapshot stamp.sceneId req.name))
  policyChecksJson := [("initialization", .str "passed")]
  reviewState := "system_initialized"
  recordedAt := stamp.now
  createdBy := req.actorId

def createdBranch (stamp : SceneStamp) (tenantId projectId : String) (isProtected : Bool) : SceneBranchRow where
  branchId := stamp.branchId
  tenantId := tenantId
  projectId := projectId
  sceneId := stamp.sceneId
  name := "main"
  headCommitId := stamp.commitId
  isProtected := isProtected

def createdPayload (row : SceneCommitRow) : Dict := [
  ("scene_id", .str row.sceneId), ("branch", .str "main"), ("snapshot_hash", .str row.snapshotHash), ("parent_count", .int 0)]

def createdEvent (row : SceneCommitRow) : EventRequest where
  eventType := "scene.committed"
  schemaVersion := "1.0.0"
  tenantId := row.tenantId
  projectId := row.projectId
  aggregateType := "scene_commit"
  aggregateId := row.commitId
  payload := createdPayload row
  producer := "scene-service"
  actorId := some row.createdBy
  workloadIdentity := none

def createdAudit (row : SceneCommitRow) : AuditRequest where
  tenantId := row.tenantId
  projectId := some row.projectId
  actorId := row.createdBy
  action := "scene:create"
  resourceType := "scene"
  resourceId := row.sceneId
  outcome := "allowed"
  details := some [("commit_id", .str row.commitId)]

def createScene (db : SceneStore) (stamp : SceneStamp) (req : SceneCreation) : Except Raised (SceneCreated × SceneStore) := do
  let project ← orRaise (db.projects.get? req.projectId) (notFoundError "project" req.projectId)
  raiseIf (project.tenantId ≠ req.tenantId ∨ project.status ≠ "active") (notFoundError "project" req.projectId)
  let row := createdCommit stamp req
  let db ← insertCommit db row
  let db ← insertBranch db (createdBranch stamp req.tenantId req.projectId true)
  let s ← db.emit stamp.toStamp (createdEvent row)
  let s ← s.record svc stamp.toStamp (createdAudit row)
  return (⟨stamp.sceneId, stamp.commitId, "main"⟩, { db with toStore := s })

/-- The commit that a branch starts from is one of the scene in the project. -/
def createBranch (db : SceneStore) (branchId : String) (req : BranchCreation) : Except Raised (String × SceneStore) := do
  let commit ← orRaise (db.commits.get? req.fromCommitId) (notFoundError "scene_commit" req.fromCommitId)
  raiseIf (commit.tenantId ≠ req.tenantId ∨ commit.projectId ≠ req.projectId ∨ commit.sceneId ≠ req.sceneId)
    (notFoundError "scene_commit" req.fromCommitId)
  raiseIf ((branch? db req.toBranchKey).isSome) (conflictError "BRANCH_EXISTS" "scene branch already exists")
  let row : SceneBranchRow := ⟨branchId, req.tenantId, req.projectId, req.sceneId, req.branch, req.fromCommitId, req.isProtected⟩
  let db ← insertBranch db row
  return (branchId, db)

end Creation

section Maps
variable (maps : IdMaps)

def mapped (category value : String) : String := ((maps category).lookup value).getD value

/-- The order in which `_mapped_any` tries the categories. -/
def anyCategories : List String := [
  "asset", "frame", "spatial_transform", "geometry_manifest", "evidence", "assertion", "derivation", "annotation",
  "anchor_remap", "scene_tag", "commit", "branch", "entity", "representation", "representation_binding", "measurement",
  "consent", "construction", "construction_verification", "memory", "memory_review", "comment", "task", "retention_rule",
  "legal_hold", "scene"]

def mappedAny (value : String) : String := (anyCategories.findSome? fun category => (maps category).lookup value).getD value

/-- The category whose identifiers stand under a key: the keys themselves, and an ending. -/
def keyCategories : List (List String × Option String × String) := [
  (["scene_id"], some "_scene_id", "scene"),
  (["frame_id", "coordinate_frame_id", "parent_frame_id"], some "_frame_id", "frame"),
  (["commit_id", "scene_commit_id", "head_commit_id", "supersedes_commit_id", "expected_head", "parent_ids"],
    some "_commit_id", "commit"),
  (["entity_id", "semantic_support_id"], some "_entity_id", "entity"),
  (["representation_id", "originating_representation_id", "replaces"], some "_representation_id", "representation"),
  (["binding_id"], some "_binding_id", "representation_binding"),
  (["measurement_id"], some "_measurement_id", "measurement"),
  (["transform_id", "spatial_transform_id", "supersedes_transform_id"], some "_transform_id", "spatial_transform"),
  (["geometry_manifest_id", "supersedes_manifest_id"], some "_manifest_id", "geometry_manifest"),
  (["evidence_id", "change_evidence_id"], some "_evidence_id", "evidence"),
  (["assertion_id", "supersedes_assertion_id"], some "_assertion_id", "assertion"),
  (["annotation_id"], some "_annotation_id", "annotation"),
  (["remap_id", "anchor_remap_id"], some "_remap_id", "anchor_remap"),
  (["grant_id"], some "_grant_id", "consent"),
  (["evidence_ids", "change_evidence_ids"], none, "evidence")]

/-- A text under a key. -/
def remapText (key value : String) : String :=
  let normalized := key.toList.map lowerChar
  let matching := keyCategories.find? fun (keys, ending, _) =>
    keys.any (fun name => name.toList = normalized) ∨ ending.any fun ending => ending.toList <:+ normalized
  match matching with
  | some (_, _, category) => mapped maps category value
  | none =>
    if "asset_id".toList <:+: normalized then mapped maps "asset" value
    else if normalized ∈ ["source_ids", "related_ids", "record_id", "record_ids"].map String.toList then mappedAny maps value
    else value

mutual
/-- `_remap_json`, below a key. -/
def remapJson (key : String) : Json → Json
  | .obj fields => .obj (remapFields fields)
  | .arr items => .arr (remapItems key items)
  | .str value => .str (remapText maps key value)
  | .null => .null
  | .bool b => .bool b
  | .num n => .num n
def remapItems (key : String) : List Json → List Json
  | [] => []
  | item :: items => remapJson key item :: remapItems key items
def remapFields : Dict → Dict
  | [] => []
  | (key, value) :: fields => (key, remapJson key value) :: remapFields fields
end

end Maps

section Allocation

/-- The identifier itself, or the one that was drawn if it is taken. -/
def collisionSafeId (taken : String → Bool) (candidate preferred : String) : String :=
  if taken preferred then candidate else preferred

/-- The identifiers of one table, after those seen. -/
def allocateReplayIds (table : String) (taken : String → Bool) (draw : String → String) (seen : List String) :
    List String → Except Raised (List (String × String))
  | [] => .ok []
  | old :: rest => do
    raiseIf (old = "") (validationError "IMPORT_PRIMARY_KEY_INVALID" "native replay row has an invalid primary key"
      [("table", .str table)])
    raiseIf (old ∈ seen) (validationError "IMPORT_DUPLICATE_ID" "native replay table contains duplicate identifiers"
      [("table", .str table), ("id", .str old)])
    let others ← allocateReplayIds table taken draw (old :: seen) rest
    return (old, collisionSafeId taken (draw old) old) :: others

/-- The scene identifiers of the package, each to itself. -/
def allocateSceneIds (tables : NativeTables) : List (String × String) :=
  let sceneIds := tables.sceneCommits.map SceneCommitRow.sceneId ++ tables.sceneBranches.map SceneBranchRow.sceneId ++
    tables.sceneEntities.map SceneEntityRow.sceneId ++ tables.representationBindings.map RepresentationBindingRow.sceneId
  (sceneIds.filter (· ≠ "")).map fun sceneId => (sceneId, sceneId)

/-- The maps that the rows are replayed with. -/
def importMaps (db : SceneStore) (stamp : ImportStamp) (tables : NativeTables) : Except Raised IdMaps := do
  let evidence ← allocateReplayIds "evidence_records" (fun id => (db.evidence.get? id).isSome) (stamp.draw "evidence") []
    (tables.evidenceRecords.map EvidenceRecordRow.evidenceId)
  let commits ← allocateReplayIds "scene_commits" (fun id => (db.commits.get? id).isSome) (stamp.draw "commit") []
    (tables.sceneCommits.map SceneCommitRow.commitId)
  let branches ← allocateReplayIds "scene_branches" (fun id => (db.branches.get? id).isSome) (stamp.draw "branch") []
    (tables.sceneBranches.map SceneBranchRow.branchId)
  let entities ← allocateReplayIds "scene_entities" (fun id => (db.entities.get? id).isSome) (stamp.draw "entity") []
    (tables.sceneEntities.map SceneEntityRow.entityId)
  let bindings ← allocateReplayIds "representation_bindings" (fun id => (db.bindings.get? id).isSome)
    (stamp.draw "representation_binding") [] (tables.representationBindings.map RepresentationBindingRow.bindingId)
  return fun category =>
    if category = "evidence" then evidence else if category = "commit" then commits
    else if category = "branch" then branches else if category = "entity" then entities
    else if category = "representation_binding" then bindings
    else if category = "scene" then allocateSceneIds tables
    else stamp.others category

end Allocation

section Replay
variable (maps : IdMaps) (req : ImportRequest)

def replayEvidence (source : EvidenceRecordRow) : EvidenceRecordRow :=
  ⟨mapped maps "evidence" source.evidenceId, req.tenantId, req.projectId⟩

def replayCommit (source : SceneCommitRow) : SceneCommitRow :=
  let snapshot := remapFields maps source.semanticSnapshotJson
  { source with
    commitId := mapped maps "commit" source.commitId
    tenantId := req.tenantId
    projectId := req.projectId
    sceneId := mapped maps "scene" source.sceneId
    parentIdsJson := source.parentIdsJson.map (mapped maps "commit")
    supersedesCommitId := source.supersedesCommitId.map (mapped maps "commit")
    semanticSnapshotJson := snapshot
    snapshotHash := canonicalSha256 (.obj snapshot)
    rootManifestHash := canonicalSha256 (.obj snapshot)
    changeEvidenceIdsJson := source.changeEvidenceIdsJson.map (mapped maps "evidence")
    policyChecksJson := remapFields maps source.policyChecksJson
    signaturesJson := source.signaturesJson.map (remapFields maps)
    createdBy := if source.createdBy = "" then req.actorId else source.createdBy }

def replayBranch (source : SceneBranchRow) : SceneBranchRow :=
  { source with
    branchId := mapped maps "branch" source.branchId
    tenantId := req.tenantId
    projectId := req.projectId
    sceneId := mapped maps "scene" source.sceneId
    headCommitId := mapped maps "commit" source.headCommitId }

def replayEntity (source : SceneEntityRow) : SceneEntityRow :=
  { source with
    entityId := mapped maps "entity" source.entityId
    tenantId := req.tenantId
    projectId := req.projectId
    sceneId := mapped maps "scene" source.sceneId
    attributesJson := remapFields maps source.attributesJson
    provenanceJson := Dict.set (remapFields maps source.provenanceJson) "preservation_import"
      (.obj [("source_root_hash", .str req.sourceRootHash), ("source_entity_id", .str source.entityId)])
    policyJson := remapFields maps source.policyJson
    stableSupportJson := remapFields maps source.stableSupportJson }

def replayBinding (source : RepresentationBindingRow) : RepresentationBindingRow :=
  { source with
    bindingId := mapped maps "representation_binding" source.bindingId
    tenantId := req.tenantId
    projectId := req.projectId
    sceneId := mapped maps "scene" source.sceneId
    commitId := mapped maps "commit" source.commitId
    representationId := mapped maps "representation" source.representationId
    coordinateFrameId := mapped maps "frame" source.coordinateFrameId
    reviewDecisionJson := remapFields maps source.reviewDecisionJson
    audiencePolicyJson := remapFields maps source.audiencePolicyJson
    clientProfileJson := remapFields maps source.clientProfileJson }

def replayEvidenceRow (db : SceneStore) (source : EvidenceRecordRow) : Except Raised SceneStore := do
  let evidence ← orRaise (db.evidence.insert? (replayEvidence maps req source)) (.integrityError "evidence_records.evidence_id")
  return { db with evidence }

def replayCommitRow (db : SceneStore) (source : SceneCommitRow) : Except Raised SceneStore :=
  insertCommit db (replayCommit maps req source)

def replayBranchRow (db : SceneStore) (source : SceneBranchRow) : Except Raised SceneStore :=
  insertBranch db (replayBranch maps req source)

def replayEntityRow (db : SceneStore) (source : SceneEntityRow) : Except Raised SceneStore := do
  let entities ← orRaise (db.entities.insert? (replayEntity maps req source)) (.integrityError "scene_entities.entity_id")
  return { db with entities }

def replayBindingRow (db : SceneStore) (source : RepresentationBindingRow) : Except Raised SceneStore := do
  let bindings ← orRaise (db.bindings.insert? (replayBinding maps req source))
    (.integrityError "representation_bindings.binding_id")
  return { db with bindings }

/-- The tables in the order of `_NATIVE_REPLAY_MODELS`. -/
def replayNativeRows (db : SceneStore) : Except Raised SceneStore := do
  let db ← req.tables.evidenceRecords.foldlM (replayEvidenceRow maps req) db
  let db ← req.tables.sceneCommits.foldlM (replayCommitRow maps req) db
  let db ← req.tables.sceneBranches.foldlM (replayBranchRow maps req) db
  let db ← req.tables.sceneEntities.foldlM (replayEntityRow maps req) db
  req.tables.representationBindings.foldlM (replayBindingRow maps req) db

end Replay

section Import

/-- `_create_import_scope` -/
def createImportScope (db : SceneStore) (tenantId projectId classification : String) : Except Raised SceneStore := do
  let projects ← orRaise (db.projects.insert? ⟨projectId, tenantId, classification, "active"⟩)
    (conflictError "IMPORT_PROJECT_EXISTS" "destination project already exists")
  return { db with projects }

/-- What `import_project` does to the scene store. -/
def importProject (db : SceneStore) (stamp : ImportStamp) (req : ImportRequest) : Except Raised SceneStore := do
  let db ← createImportScope db req.tenantId req.projectId req.classification
  let maps ← importMaps db stamp req.tables
  replayNativeRows maps req db

/-- A package that has no tables to replay: one new scene whose snapshot says what the package held. -/
structure LegacyImport where
  tenantId : String
  projectId : String
  actorId : String
  classification : String := "internal"
  sourceRootHash : String
  importedTables : Json
  assetIdMap : Json

def legacySnapshot (req : LegacyImport) : Dict := [
  ("schema_version", .str "legacy-preservation-import/v1"), ("imported_tables", req.importedTables),
  ("asset_id_map", req.assetIdMap), ("source_root_hash", .str req.sourceRootHash), ("native_replay", .bool false)]

def legacyCommit (stamp : SceneStamp) (req : LegacyImport) : SceneCommitRow where
  commitId := stamp.commitId
  tenantId := req.tenantId
  projectId := req.projectId
  sceneId := stamp.sceneId
  branch := "main"
  parentIdsJson := []
  message := "Legacy open preservation package import"
  semanticSnapshotJson := legacySnapshot req
  snapshotHash := canonicalSha256 (.obj (legacySnapshot req))
  rootManifestHash := ""
  recordedAt := stamp.now
  createdBy := req.actorId

/-- `_import_legacy_snapshot` -/
def importLegacySnapshot (db : SceneStore) (stamp : SceneStamp) (req : LegacyImport) : Except Raised SceneStore := do
  let db ← createImportScope db req.tenantId req.projectId req.classification
  let db ← insertCommit db (legacyCommit stamp req)
  insertBranch db (createdBranch stamp req.tenantId req.projectId false)

end Import

end SceneService

end Sip
