import Sip.Scene.Service

/-!
# What the commit after a rollback contains

`rollback_branch` stores a copy of the target's snapshot and leaves the entity and
binding tables alone; `commit` renders those tables. So the commit after a rollback
shows the target's scene exactly when the tables still did before the rollback.
-/

namespace Sip
namespace SceneService

set_option autoImplicit false

section Spec
variable {svc : AuditService} {db db' : SceneStore}

theorem insertCommit_ok {row : SceneCommitRow} (h : insertCommit db row = .ok db') :
    ∃ commits, db.commits.insert? row = some commits ∧ db' = { db with commits } := by
  simp only [insertCommit, bind_eq_ok, orRaise_eq_ok] at h
  obtain ⟨_, _, commits, hinsert, h⟩ := h
  cases h
  exact ⟨commits, hinsert, rfl⟩

theorem get?_commits_insertCommit {row : SceneCommitRow} (h : insertCommit db row = .ok db') (commitId : String) :
    db'.commits.get? commitId = if commitId = row.commitId then some row else db.commits.get? commitId := by
  obtain ⟨commits, hinsert, rfl⟩ := insertCommit_ok h
  exact Table.get?_insert hinsert commitId

theorem commitWrite_ok {stamp : CommitStamp} {req : CommitRequest} {p : PreparedCommit}
    (h : commitWrite svc db stamp req p = .ok db') :
    ∃ inserted, insertCommit db p.row = .ok inserted ∧ db'.commits = inserted.commits ∧
      db'.branches = (setHead inserted p.branch p.row.commitId).branches := by
  simp only [commitWrite, bind_eq_ok] at h
  obtain ⟨inserted, hinsert, _, _, _, _, h⟩ := h
  cases h
  exact ⟨inserted, hinsert, rfl, rfl⟩

theorem commitLocked_ok {stamp : CommitStamp} {req : CommitRequest} {p : PreparedCommit}
    (h : commitLocked db stamp req = .ok p) :
    branch? db req.toBranchKey = some p.branch ∧ p.branch.headCommitId = req.expectedHead ∧
      p.row = commitRow db stamp req := by
  simp only [commitLocked, bind_eq_ok, orRaise_eq_ok, raiseIf_eq_ok, ne_eq, not_not] at h
  obtain ⟨branch, hbranch, _, hhead, h⟩ := h
  cases h
  exact ⟨hbranch, hhead, rfl⟩

/-- A call of `commit` that is no replay stores the scene as the tables hold it. -/
theorem commit_ok {stamp : CommitStamp} {req : CommitRequest} {result : CommitResult}
    (h : commit svc db stamp req = .ok (result, db')) (hnew : result.idempotentReplay = false) :
    ∃ row, db'.commits.get? result.commitId = some row ∧
      row.semanticSnapshotJson = renderSnapshot db req.toBranchKey := by
  simp only [commit, bind_eq_ok] at h
  obtain ⟨lookup, hlookup, h⟩ := h
  cases lookup with
  | some replay =>
    cases h
    simp only [commitLookup, bind_eq_ok] at hlookup
    obtain ⟨_, _, hlookup⟩ := hlookup
    split at hlookup
    · obtain ⟨_, _, hreplay⟩ := bind_eq_ok.mp hlookup
      cases hreplay
      cases hnew
    · obtain ⟨_, _, hreplay⟩ := bind_eq_ok.mp hlookup
      cases hreplay
  | none =>
    obtain ⟨p, hp, h⟩ := bind_eq_ok.mp h
    obtain ⟨db'', hwrite, h⟩ := bind_eq_ok.mp h
    cases h
    obtain ⟨inserted, hinsert, hcommits, _⟩ := commitWrite_ok hwrite
    obtain ⟨_, _, hrow⟩ := commitLocked_ok hp
    refine ⟨p.row, ?_, by rw [hrow]; rfl⟩
    rw [hcommits, get?_commits_insertCommit hinsert]
    simp [commitResult]

theorem rollbackBranch_ok {stamp : CommitStamp} {req : RollbackRequest} {result : RollbackResult}
    (h : rollbackBranch db stamp req = .ok (result, db')) :
    ∃ target, db.commits.get? req.targetCommitId = some target ∧
      db'.entities = db.entities ∧ db'.bindings = db.bindings := by
  simp only [rollbackBranch, rollbackWrite, rollbackRead, bind_eq_ok, orRaise_eq_ok] at h
  obtain ⟨⟨target, branch⟩, ⟨found, hfound, _, _, _, _, hread⟩, written, ⟨inserted, hinsert, hwritten⟩, h⟩ := h
  cases h
  cases hwritten
  cases hread
  obtain ⟨commits, _, rfl⟩ := insertCommit_ok hinsert
  exact ⟨target, hfound, rfl, rfl⟩

end Spec

/-- The stored snapshot holds these entities and representations. -/
def Shows (row : SceneCommitRow) (entities representations : Option Json) : Prop :=
  row.semanticSnapshotJson.get? "entities" = entities ∧
    row.semanticSnapshotJson.get? "representations" = representations

theorem shows_renderSnapshot {row : SceneCommitRow} {db : SceneStore} {key : BranchKey}
    (h : row.semanticSnapshotJson = renderSnapshot db key) :
    Shows row (some (liveEntities db key)) (some (liveRepresentations db key)) := by
  simp [Shows, h, renderSnapshot, Dict.get?, List.lookup_cons]

theorem liveEntities_congr {db db' : SceneStore} (h : db'.entities = db.entities) (key : BranchKey) :
    liveEntities db' key = liveEntities db key := by
  simp only [liveEntities, h]

theorem liveRepresentations_congr {db db' : SceneStore} (h : db'.bindings = db.bindings) (key : BranchKey) :
    liveRepresentations db' key = liveRepresentations db key := by
  simp only [liveRepresentations, h]

section Sample

def mainBranch : BranchKey := ⟨"t1", "p1", "s1", "main"⟩

def initialSnapshot : Dict := [
  ("scene_id", .str "s1"), ("name", .str "Hall"), ("entities", .arr []), ("representations", .arr []),
  ("schema_version", .str "1.0.0")]

/-- The commit that creating a scene leaves. -/
def initialCommit : SceneCommitRow where
  commitId := "c0"
  tenantId := "t1"
  projectId := "p1"
  sceneId := "s1"
  branch := "main"
  parentIdsJson := []
  message := "Initialize scene"
  semanticSnapshotJson := initialSnapshot
  snapshotHash := canonicalSha256 (.obj initialSnapshot)
  rootManifestHash := canonicalSha256 (.obj initialSnapshot)
  policyChecksJson := [("initialization", .str "passed")]
  reviewState := "system_initialized"
  recordedAt := 0
  createdBy := "ana"

def door : SceneEntityRow where
  entityId := "e1"
  tenantId := "t1"
  projectId := "p1"
  sceneId := "s1"
  entityType := "door"
  name := "North door"
  attributesJson := []
  sourceClass := "measured"
  authorityClass := "reference"
  confidence := .one
  provenanceJson := []
  policyJson := []
  stableSupportJson := []

def mainRow : SceneBranchRow := ⟨"b1", "t1", "p1", "s1", "main", "c0", true⟩

/-- A new scene, with the entities given. -/
def newScene (entities : Table SceneEntityRow (fun row => row.entityId)) : SceneStore := { SceneStore.empty with
  projects := .single ⟨"p1", "t1", "internal", "active"⟩
  commits := ⟨[initialCommit], by decide⟩
  branches := ⟨[mainRow], by decide⟩
  entities := entities }

def rollbackToInitial : RollbackRequest := { mainBranch with targetCommitId := "c0", actorId := "ana" }

def stampOf (commitId : String) : CommitStamp := ⟨⟨0, "a1"⟩, commitId⟩

theorem forbidden_committedPayload (row : SceneCommitRow) : ∀ p ∈ committedPayload row, forbidden p.1 = false := by
  have hall : ["scene_id", "branch", "snapshot_hash", "parent_count", "review_state", "change_evidence_count"].all
      (fun key => forbidden key = false) = true := by decide
  intro p hp
  have hkey : p.1 ∈ ["scene_id", "branch", "snapshot_hash", "parent_count", "review_state",
      "change_evidence_count"] := List.mem_map_of_mem (f := Prod.fst) hp
  simpa using List.all_eq_true.mp hall p.1 hkey

/-- Scope and review state fit their columns, and the commit names at most as many pieces of evidence as fit a word. -/
theorem validatePayload_committed {row : SceneCommitRow} {snapshot : Json} (hscene : row.sceneId.toList.length ≤ 64)
    (hbranch : row.branch.toList.length ≤ 128) (hstate : row.reviewState.toList.length ≤ 32)
    (hhash : row.snapshotHash = canonicalSha256 snapshot) (hevidence : row.changeEvidenceIdsJson.length < 2 ^ 63) :
    validatePayload (committedPayload row) = .ok () := by
  apply validatePayload_flat
  · intro p hp
    refine ⟨forbidden_committedPayload row p hp, ?_⟩
    simp only [committedPayload, List.mem_cons, List.not_mem_nil, or_false] at hp
    rcases hp with rfl | rfl | rfl | rfl | rfl | rfl <;> exact trivial
  · have h₁ := fieldSize_str_le "scene_id" row.sceneId
    have h₂ := fieldSize_str_le "branch" row.branch
    have h₃ := fieldSize_str_le "snapshot_hash" row.snapshotHash
    have h₄ := @fieldSize_int_le "parent_count" 1 (by decide)
    have h₅ := fieldSize_str_le "review_state" row.reviewState
    have h₆ := @fieldSize_int_le "change_evidence_count" row.changeEvidenceIdsJson.length hevidence
    have hkeys : (stringText "scene_id").length + (stringText "branch").length + (stringText "snapshot_hash").length +
        (stringText "parent_count").length + (stringText "review_state").length +
        (stringText "change_evidence_count").length = 84 := by decide
    have hlen : row.snapshotHash.toList.length = 64 := by rw [hhash, length_canonicalSha256]
    simp only [committedPayload, List.map_cons, List.map_nil, List.sum_cons, List.sum_nil]
    omega

/-- A plain commit onto the current head of a branch: no evidence, no workflow event. -/
def plainCommit (key : BranchKey) (head message actorId : String) : CommitRequest :=
  { key with expectedHead := head, message, actorId }

section PlainCommit
variable (svc : AuditService) {db : SceneStore} {stamp : CommitStamp} {key : BranchKey} {branch : SceneBranchRow}
  {message actorId : String}

theorem commitLocked_plain (hbranch : branch? db key = some branch) :
    commitLocked db stamp (plainCommit key branch.headCommitId message actorId) =
      .ok ⟨branch, commitRow db stamp (plainCommit key branch.headCommitId message actorId)⟩ := by
  simp only [commitLocked, bind_eq_ok, orRaise_eq_ok, raiseIf_eq_ok, ne_eq, not_not]
  exact ⟨branch, hbranch, (), rfl, rfl⟩

theorem insertCommit_total {row : SceneCommitRow} (hfresh : db.commits.get? row.commitId = none)
    (hevent : row.workflowEventId = none) : ∃ db', insertCommit db row = .ok db' := by
  obtain ⟨commits, hcommits⟩ := Table.insert?_isSome hfresh
  simp only [insertCommit, hcommits, bind_eq_ok, raiseIf_eq_ok]
  exact ⟨_, (), by simp [hevent], commits, rfl, rfl⟩

/-- In a store without audit entries the write goes through. -/
theorem commitWrite_plain (hfresh : db.commits.get? stamp.commitId = none) (haudit : db.audit = .empty)
    (hscene : key.sceneId.toList.length ≤ 64) (hname : key.branch.toList.length ≤ 128) :
    ∃ db', commitWrite svc db stamp (plainCommit key branch.headCommitId message actorId)
      ⟨branch, commitRow db stamp (plainCommit key branch.headCommitId message actorId)⟩ = .ok db' := by
  let row := commitRow db stamp (plainCommit key branch.headCommitId message actorId)
  have hpayload : validatePayload (committedPayload row) = .ok () :=
    validatePayload_committed hscene hname (by simp [row, commitRow, plainCommit]) rfl
      (by simp [row, commitRow, plainCommit, CommitRequest.evidenceIds, sortedSet, distinctBy, sortBy])
  obtain ⟨inserted, hinsert⟩ := @insertCommit_total db row hfresh rfl
  have hstore : inserted.audit = .empty := by
    obtain ⟨commits, _, rfl⟩ := insertCommit_ok hinsert
    exact haudit
  obtain ⟨event, hemit⟩ := Store.emit_total (setHead inserted branch row.commitId).toStore stamp.toStamp rfl rfl rfl
    (r := committedEvent row) hpayload
  have hempty : ({ (setHead inserted branch row.commitId).toStore with
      outbox := inserted.outbox ++ [event] } : Store).audit = .empty := hstore
  obtain ⟨log, hlog⟩ := Store.record_of_empty svc stamp.toStamp
    (committedAudit (plainCommit key branch.headCommitId message actorId) row) hempty
  simp only [commitWrite, bind_eq_ok]
  exact ⟨_, inserted, hinsert, _, hemit, _, hlog, rfl⟩

theorem commit_plain (hbranch : branch? db key = some branch) (hfresh : db.commits.get? stamp.commitId = none)
    (haudit : db.audit = .empty) (hscene : key.sceneId.toList.length ≤ 64) (hname : key.branch.toList.length ≤ 128) :
    ∃ result db', commit svc db stamp (plainCommit key branch.headCommitId message actorId) = .ok (result, db') ∧
      result.idempotentReplay = false := by
  obtain ⟨db', hwrite⟩ := @commitWrite_plain svc db stamp key branch message actorId hfresh haudit hscene hname
  refine ⟨commitResult (commitRow db stamp (plainCommit key branch.headCommitId message actorId)) false, db', ?_, rfl⟩
  simp only [commit, bind_eq_ok]
  exact ⟨none, rfl, bind_eq_ok.mpr ⟨_, commitLocked_plain hbranch, bind_eq_ok.mpr ⟨db', hwrite, rfl⟩⟩⟩

end PlainCommit

def commitOnto (head : String) : CommitRequest := plainCommit mainBranch head "m" "ana"

/-- The new scene after a rollback to its initial commit. -/
def rolledScene (entities : Table SceneEntityRow (fun row => row.entityId)) : SceneStore := { newScene entities with
  commits := ⟨[initialCommit, rollbackRow (stampOf "c1") rollbackToInitial initialCommit mainRow], by decide⟩
  branches := ⟨[{ mainRow with headCommitId := "c1" }], by decide⟩ }

theorem rollback_newScene (entities : Table SceneEntityRow (fun row => row.entityId)) :
    rollbackBranch (newScene entities) (stampOf "c1") rollbackToInitial =
      .ok (⟨"c1", "c0", "c0", initialCommit.snapshotHash⟩, rolledScene entities) := rfl

theorem commit_rolledScene (entities : Table SceneEntityRow (fun row => row.entityId)) :
    ∃ result after, commit .zeroKey (rolledScene entities) (stampOf "c2") (commitOnto "c1") = .ok (result, after) ∧
      result.idempotentReplay = false :=
  @commit_plain .zeroKey (rolledScene entities) (stampOf "c2") mainBranch { mainRow with headCommitId := "c1" }
    "m" "ana" rfl rfl rfl (by decide) (by decide)

end Sample

end SceneService
end Sip
