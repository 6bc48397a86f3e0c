import Sip.Scene.Import
import Sip.Spatial.MergeConcurrency

/-!
# Scenes of different projects

`rollback_branch` recognises its target by the scene alone. A rollback stays within the
project as long as no scene identifier is used by two projects: `create_scene` draws a
new one, commits, branches, rollbacks and merges stay with a scene of their project, and
an import keeps the identifiers of the package.
-/

namespace Sip
namespace SpatialDataService

set_option autoImplicit false

open SceneService

section Uses

/-- A commit or a branch of the project belongs to the scene. -/
def Uses (db : SceneStore) (sceneId tenantId projectId : String) : Prop :=
  (∃ row ∈ db.commits.rows, row.sceneId = sceneId ∧ row.tenantId = tenantId ∧ row.projectId = projectId) ∨
  ∃ row ∈ db.branches.rows, row.sceneId = sceneId ∧ row.tenantId = tenantId ∧ row.projectId = projectId

/-- No other project uses the scene identifier. -/
def NoOtherUses (db : SceneStore) (sceneId tenantId projectId : String) : Prop :=
  ∀ tenantId' projectId', Uses db sceneId tenantId' projectId' → tenantId' = tenantId ∧ projectId' = projectId

/-- No scene identifier is used by two projects. -/
def ScenesApart (db : SceneStore) : Prop :=
  ∀ sceneId tenantId projectId, Uses db sceneId tenantId projectId → NoOtherUses db sceneId tenantId projectId

/-- What is used in `db'` and was not before is one of the scenes, by the project. -/
def Adds (db db' : SceneStore) (scenes : List String) (tenantId projectId : String) : Prop :=
  ∀ sceneId tenantId' projectId', Uses db' sceneId tenantId' projectId' →
    Uses db sceneId tenantId' projectId' ∨ (sceneId ∈ scenes ∧ tenantId' = tenantId ∧ projectId' = projectId)

variable {db db' db'' : SceneStore} {scenes : List String} {tenantId projectId : String}

theorem branch?_eq_some {key : BranchKey} {branch : SceneBranchRow} (h : branch? db key = some branch) :
    branch ∈ db.branches.rows ∧ branch.tenantId = key.tenantId ∧ branch.projectId = key.projectId ∧
      branch.sceneId = key.sceneId := by
  have hfound := List.find?_some h
  simp only [decide_eq_true_eq] at hfound
  exact ⟨List.mem_of_find?_eq_some h, hfound.1, hfound.2.1, hfound.2.2.1⟩

theorem uses_of_branch? {key : BranchKey} {branch : SceneBranchRow} (h : branch? db key = some branch) :
    Uses db key.sceneId key.tenantId key.projectId := by
  obtain ⟨hin, htenant, hproject, hscene⟩ := branch?_eq_some h
  exact Or.inr ⟨branch, hin, hscene, htenant, hproject⟩

theorem uses_of_commit {row : SceneCommitRow} {commitId : String} (h : db.commits.get? commitId = some row) :
    Uses db row.sceneId row.tenantId row.projectId :=
  Or.inl ⟨row, ((Table.get?_eq_some_iff _ _ _).mp h).1, rfl, rfl, rfl⟩

theorem scenesApart_of_adds (h : ScenesApart db) (hadds : Adds db db' scenes tenantId projectId)
    (hfree : ∀ sceneId ∈ scenes, NoOtherUses db sceneId tenantId projectId) : ScenesApart db' := by
  intro sceneId t p huses t' p' huses'
  rcases hadds _ _ _ huses with hold | ⟨hin, rfl, rfl⟩
  · rcases hadds _ _ _ huses' with hold' | ⟨hin', rfl, rfl⟩
    · exact h _ _ _ hold _ _ hold'
    · obtain ⟨ht, hp⟩ := hfree sceneId hin' t p hold
      exact ⟨ht.symm, hp.symm⟩
  · rcases hadds _ _ _ huses' with hold' | ⟨_, ht, hp⟩
    · exact hfree sceneId hin t' p' hold'
    · exact ⟨ht, hp⟩

theorem adds_of_eq (hcommits : db'.commits = db.commits) (hbranches : db'.branches = db.branches) :
    Adds db db' scenes tenantId projectId := by
  intro sceneId t p h
  rw [Uses, hcommits, hbranches] at h
  exact Or.inl h

theorem Adds.trans (h : Adds db db' scenes tenantId projectId) (h' : Adds db' db'' scenes tenantId projectId) :
    Adds db db'' scenes tenantId projectId := by
  intro sceneId t p huses
  rcases h' _ _ _ huses with hold | hnew
  · exact h _ _ _ hold
  · exact Or.inr hnew

theorem adds_insertCommit {row : SceneCommitRow} (h : insertCommit db row = .ok db') (hscene : row.sceneId ∈ scenes)
    (htenant : row.tenantId = tenantId) (hproject : row.projectId = projectId) : Adds db db' scenes tenantId projectId := by
  obtain ⟨commits, hinsert, rfl⟩ := insertCommit_ok h
  have hrows := (Table.insert?_eq_some hinsert).2
  intro sceneId t p huses
  rcases huses with ⟨other, hin, hs, ht, hp⟩ | hbranch
  · rw [show ({ db with commits } : SceneStore).commits.rows = db.commits.rows ++ [row] from hrows] at hin
    rcases List.mem_append.mp hin with hold | hnew
    · exact Or.inl (Or.inl ⟨other, hold, hs, ht, hp⟩)
    · have heq := List.mem_singleton.mp hnew
      subst heq
      exact Or.inr ⟨hs ▸ hscene, ht.symm.trans htenant, hp.symm.trans hproject⟩
  · exact Or.inl (Or.inr hbranch)

theorem adds_insertBranch {row : SceneBranchRow} (h : insertBranch db row = .ok db') (hscene : row.sceneId ∈ scenes)
    (htenant : row.tenantId = tenantId) (hproject : row.projectId = projectId) : Adds db db' scenes tenantId projectId := by
  simp only [insertBranch, bind_eq_ok, orRaise_eq_ok] at h
  obtain ⟨_, _, branches, hinsert, h⟩ := h
  cases h
  have hrows := (Table.insert?_eq_some hinsert).2
  intro sceneId t p huses
  rcases huses with hcommit | ⟨other, hin, hs, ht, hp⟩
  · exact Or.inl (Or.inl hcommit)
  · rw [show ({ db with branches } : SceneStore).branches.rows = db.branches.rows ++ [row] from hrows] at hin
    rcases List.mem_append.mp hin with hold | hnew
    · exact Or.inl (Or.inr ⟨other, hold, hs, ht, hp⟩)
    · have heq := List.mem_singleton.mp hnew
      subst heq
      exact Or.inr ⟨hs ▸ hscene, ht.symm.trans htenant, hp.symm.trans hproject⟩

/-- A moved head leaves the scope of the branch. -/
theorem adds_setHead (branch : SceneBranchRow) (commitId : String) :
    Adds db (setHead db branch commitId) scenes tenantId projectId := by
  intro sceneId t p huses
  rcases huses with hcommit | ⟨row, hin, hscope⟩
  · exact Or.inl (Or.inl hcommit)
  · obtain ⟨old, hold, rfl⟩ := List.mem_map.mp hin
    refine Or.inl (Or.inr ⟨old, hold, ?_⟩)
    split at hscope
    · exact hscope
    · exact hscope

theorem adds_foldlM {ρ : Type} {f : SceneStore → ρ → Except Raised SceneStore} {rows : List ρ}
    (hstep : ∀ row ∈ rows, ∀ db db', f db row = .ok db' → Adds db db' scenes tenantId projectId)
    (h : rows.foldlM f db = .ok db') : Adds db db' scenes tenantId projectId := by
  induction rows generalizing db with
  | nil =>
    cases h
    exact adds_of_eq rfl rfl
  | cons row rows ih =>
    rw [List.foldlM_cons] at h
    obtain ⟨next, hnext, h⟩ := bind_eq_ok.mp h
    apply (hstep row List.mem_cons_self db next hnext).trans
    exact ih (fun other hother => hstep other (List.mem_cons_of_mem row hother)) h

end Uses

section Writers
variable {svc : AuditService} {py : PyText} {db db' : SceneStore}

theorem adds_createScene {stamp : SceneStamp} {req : SceneCreation} {result : SceneCreated}
    (h : createScene svc db stamp req = .ok (result, db')) : Adds db db' [stamp.sceneId] req.tenantId req.projectId := by
  simp only [createScene, bind_eq_ok] at h
  obtain ⟨_, _, _, _, committed, hcommit, branched, hbranch, _, _, _, _, h⟩ := h
  cases h
  have hadds := (adds_insertCommit hcommit (List.mem_singleton_self _) rfl rfl).trans
    (adds_insertBranch hbranch (List.mem_singleton_self _) rfl rfl)
  exact hadds.trans (adds_of_eq rfl rfl)

theorem adds_createBranch {branchId : String} {req : BranchCreation} {result : String}
    (h : createBranch db branchId req = .ok (result, db')) :
    Uses db req.sceneId req.tenantId req.projectId ∧ Adds db db' [req.sceneId] req.tenantId req.projectId := by
  simp only [createBranch, bind_eq_ok, orRaise_eq_ok, raiseIf_eq_ok, not_or, ne_eq, not_not] at h
  obtain ⟨commit, hcommit, _, ⟨htenant, hproject, hscene⟩, _, _, branched, hbranch, h⟩ := h
  cases h
  have huses := uses_of_commit hcommit
  rw [htenant, hproject, hscene] at huses
  exact ⟨huses, adds_insertBranch hbranch (List.mem_singleton_self _) rfl rfl⟩

theorem adds_commit {stamp : CommitStamp} {req : CommitRequest} {result : CommitResult}
    (h : commit svc db stamp req = .ok (result, db')) : db' = db ∨
      (Uses db req.sceneId req.tenantId req.projectId ∧ Adds db db' [req.sceneId] req.tenantId req.projectId) := by
  simp only [commit, bind_eq_ok] at h
  obtain ⟨lookup, _, h⟩ := h
  cases lookup with
  | some replay =>
    cases h
    exact Or.inl rfl
  | none =>
    obtain ⟨p, hp, h⟩ := bind_eq_ok.mp h
    obtain ⟨written, hwrite, h⟩ := bind_eq_ok.mp h
    cases h
    obtain ⟨hbranch, _, hrow⟩ := commitLocked_ok hp
    obtain ⟨inserted, hinsert, hcommits, hbranches⟩ := commitWrite_ok hwrite
    rw [hrow] at hinsert
    have hadds := (adds_insertCommit hinsert (List.mem_singleton_self _) rfl rfl).trans
      (adds_setHead p.branch p.row.commitId)
    exact Or.inr ⟨uses_of_branch? hbranch, hadds.trans (adds_of_eq hcommits hbranches)⟩

theorem rollbackRead_ok {req : RollbackRequest} {target : SceneCommitRow} {branch : SceneBranchRow}
    (h : rollbackRead db req = .ok (target, branch)) : db.commits.get? req.targetCommitId = some target ∧
      branch? db req.toBranchKey = some branch ∧ target.sceneId = req.sceneId := by
  simp only [rollbackRead, bind_eq_ok, orRaise_eq_ok, raiseIf_eq_ok, ne_eq, not_not] at h
  obtain ⟨_, htarget, _, hbranch, _, hscene, h⟩ := h
  cases h
  exact ⟨htarget, hbranch, hscene⟩

theorem rollbackBranch_written {stamp : CommitStamp} {req : RollbackRequest} {result : RollbackResult}
    (h : rollbackBranch db stamp req = .ok (result, db')) : ∃ target branch inserted,
      rollbackRead db req = .ok (target, branch) ∧ insertCommit db (rollbackRow stamp req target branch) = .ok inserted ∧
      db' = setHead inserted branch stamp.commitId ∧ result.commitId = stamp.commitId := by
  simp only [rollbackBranch, rollbackWrite, bind_eq_ok] at h
  obtain ⟨⟨target, branch⟩, hread, written, ⟨inserted, hinsert, hwritten⟩, h⟩ := h
  cases h
  cases hwritten
  exact ⟨target, branch, inserted, hread, hinsert, rfl, rfl⟩

theorem adds_rollbackBranch {stamp : CommitStamp} {req : RollbackRequest} {result : RollbackResult}
    (h : rollbackBranch db stamp req = .ok (result, db')) :
    Uses db req.sceneId req.tenantId req.projectId ∧ Adds db db' [req.sceneId] req.tenantId req.projectId := by
  obtain ⟨target, branch, inserted, hread, hinsert, rfl, _⟩ := rollbackBranch_written h
  obtain ⟨_, hbranch, _⟩ := rollbackRead_ok hread
  refine ⟨uses_of_branch? hbranch, ?_⟩
  exact (adds_insertCommit hinsert (List.mem_singleton_self _) rfl rfl).trans (adds_setHead branch stamp.commitId)

theorem adds_mergeBranches {stamp : CommitStamp} {req : MergeRequest} {result : MergeOutcome}
    (h : mergeBranches svc py db stamp req = .ok (result, db')) : db' = db ∨
      (Uses db req.sceneId req.tenantId req.projectId ∧ Adds db db' [req.sceneId] req.tenantId req.projectId) := by
  simp only [mergeBranches, bind_eq_ok] at h
  obtain ⟨inputs, hread, decision, _, h⟩ := h
  cases decision with
  | review conflicts required unapproved =>
    cases h
    exact Or.inl rfl
  | publish conflicts snapshot =>
    obtain ⟨written, hwrite, h⟩ := bind_eq_ok.mp h
    cases h
    simp only [mergeRead, mergeTarget, mergeInput, bind_eq_ok, orRaise_eq_ok] at hread
    obtain ⟨target, htarget, _⟩ := hread
    obtain ⟨inserted, hinsert, hcommits, hbranches⟩ := mergeWrite_ok hwrite
    have hadds := (adds_insertCommit hinsert (List.mem_singleton_self _) rfl rfl).trans
      (adds_setHead inputs.target stamp.commitId)
    exact Or.inr ⟨uses_of_branch? htarget, hadds.trans (adds_of_eq hcommits hbranches)⟩

end Writers

section Imports
variable {db db' : SceneStore}

theorem adds_createImportScope {tenantId projectId classification : String} {scenes : List String}
    (h : createImportScope db tenantId projectId classification = .ok db') : Adds db db' scenes tenantId projectId := by
  simp only [createImportScope, bind_eq_ok, orRaise_eq_ok] at h
  obtain ⟨projects, _, h⟩ := h
  cases h
  exact adds_of_eq rfl rfl

theorem lookup_self (scenes : List String) (sceneId : String) :
    ((scenes.map fun id => (id, id)).lookup sceneId).getD sceneId = sceneId := by
  induction scenes with
  | nil => rfl
  | cons other scenes ih =>
    by_cases h : sceneId = other
    · simp [h]
    · have hne : (sceneId == other) = false := beq_eq_false_iff_ne.mpr h
      rw [List.map_cons, List.lookup_cons, hne]
      exact ih

/-- Scene identifiers are kept. -/
theorem mapped_scene {stamp : ImportStamp} {tables : NativeTables} {maps : IdMaps}
    (h : importMaps db stamp tables = .ok maps) (sceneId : String) : mapped maps "scene" sceneId = sceneId := by
  simp only [importMaps, bind_eq_ok] at h
  obtain ⟨_, _, _, _, _, _, _, _, _, _, h⟩ := h
  cases h
  exact lookup_self _ sceneId

/-- The scenes that a package has commits or branches of. -/
def packageScenes (tables : NativeTables) : List String :=
  tables.sceneCommits.map SceneCommitRow.sceneId ++ tables.sceneBranches.map SceneBranchRow.sceneId

theorem adds_replayNativeRows {maps : IdMaps} {req : ImportRequest}
    (hscene : ∀ sceneId, mapped maps "scene" sceneId = sceneId) (h : replayNativeRows maps req db = .ok db') :
    Adds db db' (packageScenes req.tables) req.tenantId req.projectId := by
  simp only [replayNativeRows, bind_eq_ok] at h
  obtain ⟨evidenced, hevidence, committed, hcommits, branched, hbranches, peopled, hentities, hbindings⟩ := h
  have h₁ : Adds db evidenced (packageScenes req.tables) req.tenantId req.projectId := by
    apply adds_foldlM _ hevidence
    intro source _ db db' h
    obtain ⟨_, _, h⟩ := bind_eq_ok.mp h
    cases h
    exact adds_of_eq rfl rfl
  have h₂ : Adds evidenced committed (packageScenes req.tables) req.tenantId req.projectId := by
    apply adds_foldlM _ hcommits
    intro source hsource db db' h
    apply adds_insertCommit h _ rfl rfl
    apply List.mem_append_left
    rw [show (replayCommit maps req source).sceneId = source.sceneId from hscene source.sceneId]
    exact List.mem_map_of_mem hsource
  have h₃ : Adds committed branched (packageScenes req.tables) req.tenantId req.projectId := by
    apply adds_foldlM _ hbranches
    intro source hsource db db' h
    apply adds_insertBranch h _ rfl rfl
    apply List.mem_append_right
    rw [show (replayBranch maps req source).sceneId = source.sceneId from hscene source.sceneId]
    exact List.mem_map_of_mem hsource
  have h₄ : Adds branched peopled (packageScenes req.tables) req.tenantId req.projectId := by
    apply adds_foldlM _ hentities
    intro source _ db db' h
    obtain ⟨_, _, h⟩ := bind_eq_ok.mp h
    cases h
    exact adds_of_eq rfl rfl
  have h₅ : Adds peopled db' (packageScenes req.tables) req.tenantId req.projectId := by
    apply adds_foldlM _ hbindings
    intro source _ db db' h
    obtain ⟨_, _, h⟩ := bind_eq_ok.mp h
    cases h
    exact adds_of_eq rfl rfl
  exact h₁.trans (h₂.trans (h₃.trans (h₄.trans h₅)))

theorem adds_importProject {stamp : ImportStamp} {req : ImportRequest} (h : importProject db stamp req = .ok db') :
    Adds db db' (packageScenes req.tables) req.tenantId req.projectId := by
  simp only [importProject, bind_eq_ok] at h
  obtain ⟨based, hscope, maps, hmaps, hreplay⟩ := h
  exact (adds_createImportScope hscope).trans (adds_replayNativeRows (mapped_scene hmaps) hreplay)

theorem adds_importLegacySnapshot {stamp : SceneStamp} {req : LegacyImport}
    (h : importLegacySnapshot db stamp req = .ok db') : Adds db db' [stamp.sceneId] req.tenantId req.projectId := by
  simp only [importLegacySnapshot, bind_eq_ok] at h
  obtain ⟨based, hscope, committed, hcommit, hbranch⟩ := h
  have hadds := (adds_insertCommit hcommit (List.mem_singleton_self _) rfl rfl).trans
    (adds_insertBranch hbranch (List.mem_singleton_self _) rfl rfl)
  exact (adds_createImportScope hscope).trans hadds

end Imports

section Runs

/-- The calls that write commits or branches; anything else that happens to the database leaves both alone. -/
inductive SceneAction where
  | createScene (stamp : SceneStamp) (req : SceneCreation)
  | createBranch (branchId : String) (req : BranchCreation)
  | commit (stamp : CommitStamp) (req : CommitRequest)
  | rollback (stamp : CommitStamp) (req : RollbackRequest)
  | merge (stamp : CommitStamp) (req : MergeRequest)
  | importProject (stamp : ImportStamp) (req : ImportRequest)
  | importLegacy (stamp : SceneStamp) (req : LegacyImport)
  | other (rest : SceneStore)

variable (svc : AuditService) (py : PyText)

def perform (db : SceneStore) : SceneAction → Except Raised SceneStore
  | .createScene stamp req => Prod.snd <$> createScene svc db stamp req
  | .createBranch branchId req => Prod.snd <$> createBranch db branchId req
  | .commit stamp req => Prod.snd <$> commit svc db stamp req
  | .rollback stamp req => Prod.snd <$> rollbackBranch db stamp req
  | .merge stamp req => Prod.snd <$> mergeBranches svc py db stamp req
  | .importProject stamp req => importProject db stamp req
  | .importLegacy stamp req => importLegacySnapshot db stamp req
  | .other rest => .ok { rest with commits := db.commits, branches := db.branches }

/-- A refused call leaves the database as it was. -/
def act (db : SceneStore) (action : SceneAction) : SceneStore :=
  match perform svc py db action with
  | .ok db' => db'
  | .error _ => db

/-- Scenes that come into being or are brought in are used by no other project. -/
def KeepsApart (db : SceneStore) : SceneAction → Prop
  | .createScene stamp req => NoOtherUses db stamp.sceneId req.tenantId req.projectId
  | .importProject _ req => ∀ sceneId ∈ packageScenes req.tables, NoOtherUses db sceneId req.tenantId req.projectId
  | .importLegacy stamp req => NoOtherUses db stamp.sceneId req.tenantId req.projectId
  | _ => True

variable {svc py} {db db' : SceneStore}

/-- Writers that stay with a scene of their project. -/
theorem scenesApart_within {sceneId tenantId projectId : String} (h : ScenesApart db)
    (huses : Uses db sceneId tenantId projectId) (hadds : Adds db db' [sceneId] tenantId projectId) : ScenesApart db' := by
  apply scenesApart_of_adds h hadds
  intro other hother
  rw [List.mem_singleton.mp hother]
  exact h sceneId tenantId projectId huses

theorem scenesApart_new {sceneId tenantId projectId : String} (h : ScenesApart db)
    (hfree : NoOtherUses db sceneId tenantId projectId) (hadds : Adds db db' [sceneId] tenantId projectId) :
    ScenesApart db' := by
  apply scenesApart_of_adds h hadds
  intro other hother
  rw [List.mem_singleton.mp hother]
  exact hfree

theorem scenesApart_perform {action : SceneAction} (h : ScenesApart db) (hkeeps : KeepsApart db action)
    (hperform : perform svc py db action = .ok db') : ScenesApart db' := by
  cases action with
  | createScene stamp req =>
    obtain ⟨⟨result, written⟩, hcall, rfl⟩ := map_eq_ok.mp hperform
    exact scenesApart_new h hkeeps (adds_createScene hcall)
  | createBranch branchId req =>
    obtain ⟨⟨result, written⟩, hcall, rfl⟩ := map_eq_ok.mp hperform
    obtain ⟨huses, hadds⟩ := adds_createBranch hcall
    exact scenesApart_within h huses hadds
  | commit stamp req =>
    obtain ⟨⟨result, written⟩, hcall, rfl⟩ := map_eq_ok.mp hperform
    rcases adds_commit hcall with rfl | ⟨huses, hadds⟩
    · exact h
    · exact scenesApart_within h huses hadds
  | rollback stamp req =>
    obtain ⟨⟨result, written⟩, hcall, rfl⟩ := map_eq_ok.mp hperform
    obtain ⟨huses, hadds⟩ := adds_rollbackBranch hcall
    exact scenesApart_within h huses hadds
  | merge stamp req =>
    obtain ⟨⟨result, written⟩, hcall, rfl⟩ := map_eq_ok.mp hperform
    rcases adds_mergeBranches hcall with rfl | ⟨huses, hadds⟩
    · exact h
    · exact scenesApart_within h huses hadds
  | importProject stamp req => exact scenesApart_of_adds h (adds_importProject hperform) hkeeps
  | importLegacy stamp req => exact scenesApart_new h hkeeps (adds_importLegacySnapshot hperform)
  | other rest =>
    cases hperform
    have hadds : Adds db { rest with commits := db.commits, branches := db.branches } [] "" "" := adds_of_eq rfl rfl
    exact scenesApart_of_adds h hadds (fun _ hin => absurd hin List.not_mem_nil)

theorem scenesApart_act {action : SceneAction} (hkeeps : KeepsApart db action) (h : ScenesApart db) :
    ScenesApart (act svc py db action) := by
  rw [act]
  split
  · next db' hperform => exact scenesApart_perform h hkeeps hperform
  · exact h

theorem scenesApart_run {start : SceneStore} (hstart : ScenesApart start) {actions : List SceneAction}
    (hkeeps : Along (act svc py) KeepsApart start actions) : ScenesApart (run (act svc py) start actions) :=
  run_invariant_along (fun _ _ hkeeps h => scenesApart_act hkeeps h) hstart hkeeps

/-- What a rollback copied: the snapshot of a commit of its own project. -/
def CopiesOwn (db db' : SceneStore) (req : RollbackRequest) (result : RollbackResult) : Prop :=
  ∃ target copy, db.commits.get? req.targetCommitId = some target ∧ db'.commits.get? result.commitId = some copy ∧
    copy.semanticSnapshotJson = target.semanticSnapshotJson ∧
    target.tenantId = req.tenantId ∧ target.projectId = req.projectId

/-- Every commit that `rollback_branch` accepts as a target is of the project exactly when no commit of another project
has the scene identifier of a branch. -/
theorem rollbackRead_own_iff : (∀ req target branch, rollbackRead db req = .ok (target, branch) →
      target.tenantId = req.tenantId ∧ target.projectId = req.projectId) ↔
    ∀ commit ∈ db.commits.rows, ∀ branch ∈ db.branches.rows, commit.sceneId = branch.sceneId →
      commit.tenantId = branch.tenantId ∧ commit.projectId = branch.projectId := by
  constructor
  · intro hown commit hcommit branch hbranch hscene
    let req : RollbackRequest := ⟨⟨branch.tenantId, branch.projectId, branch.sceneId, branch.name⟩, commit.commitId, ""⟩
    have hfound : ∃ other, branch? db req.toBranchKey = some other := by
      apply Option.isSome_iff_exists.mp
      apply List.find?_isSome.mpr
      exact ⟨branch, hbranch, decide_eq_true ⟨rfl, rfl, rfl, rfl⟩⟩
    obtain ⟨other, hother⟩ := hfound
    have htarget : db.commits.get? commit.commitId = some commit := (Table.mem_rows_iff _ _).mp hcommit
    apply hown req commit other
    simp only [rollbackRead, bind_eq_ok, orRaise_eq_ok, raiseIf_eq_ok, ne_eq, not_not]
    exact ⟨commit, htarget, other, hother, (), hscene, rfl⟩
  · intro happart req target branch hread
    obtain ⟨htarget, hbranch, hscene⟩ := rollbackRead_ok hread
    obtain ⟨hin, htenant, hproject, hkey⟩ := branch?_eq_some hbranch
    have hsame := happart target ((Table.get?_eq_some_iff _ _ _).mp htarget).1 branch hin (hscene.trans hkey.symm)
    exact ⟨hsame.1.trans htenant, hsame.2.trans hproject⟩

/-- In a run whose created and imported scenes are used by no other project, every rollback from the state that is
reached copies a commit of its own project. -/
theorem rollback_within_project {start : SceneStore} (hstart : ScenesApart start) {actions : List SceneAction}
    (hkeeps : Along (act svc py) KeepsApart start actions) {stamp : CommitStamp} {req : RollbackRequest}
    {result : RollbackResult} {after : SceneStore}
    (hrollback : rollbackBranch (run (act svc py) start actions) stamp req = .ok (result, after)) :
    CopiesOwn (run (act svc py) start actions) after req result := by
  have hreached := @scenesApart_run svc py start hstart actions hkeeps
  obtain ⟨target, branch, inserted, hread, hinsert, rfl, hid⟩ := rollbackBranch_written hrollback
  obtain ⟨htarget, hbranch, hscene⟩ := rollbackRead_ok hread
  have htargetUses := uses_of_commit htarget
  rw [hscene] at htargetUses
  have hsame := hreached _ _ _ (uses_of_branch? hbranch) _ _ htargetUses
  have hcopy : inserted.commits.get? result.commitId = some (rollbackRow stamp req target branch) := by
    rw [get?_commits_insertCommit hinsert, hid]
    exact if_pos rfl
  exact ⟨target, rollbackRow stamp req target branch, htarget, hcopy, rfl, hsame.1, hsame.2⟩

end Runs

section Sample

def hallStamp : SceneStamp := ⟨⟨⟨0, "a1"⟩, "c0"⟩, "s1", "b0"⟩

def hall : SceneCreation := ⟨"t1", "p1", "Hall", "ana"⟩

/-- A project without scenes. -/
def emptyProject : SceneStore := { SceneStore.empty with projects := .single ⟨"p1", "t1", "internal", "active"⟩ }

def hallStore (log : AuditLog) (outbox : List OutboxEventRow) : SceneStore := { emptyProject with
  commits := ⟨[createdCommit hallStamp hall], by decide⟩
  branches := ⟨[createdBranch hallStamp "t1" "p1" true], by decide⟩
  audit := log
  outbox := outbox }

theorem validatePayload_created {row : SceneCommitRow} {snapshot : Json} (hscene : row.sceneId.toList.length ≤ 64)
    (hhash : row.snapshotHash = canonicalSha256 snapshot) : validatePayload (SceneService.createdPayload row) = .ok () := by
  have hkeys : (SceneService.createdPayload row).map Prod.fst = ["scene_id", "branch", "snapshot_hash", "parent_count"] := rfl
  apply validatePayload_brief hkeys rfl (by decide)
  intro p hp
  simp only [SceneService.createdPayload, List.mem_cons, List.not_mem_nil, or_false] at hp
  rcases hp with rfl | rfl | rfl | rfl
  · exact brief_str hscene
  · exact brief_str (by decide)
  · rw [hhash]
    exact brief_sha256 snapshot
  · exact brief_int (by decide)

theorem createScene_hall : ∃ log outbox,
    createScene .zeroKey emptyProject hallStamp hall = .ok (⟨"s1", "c0", "main"⟩, hallStore log outbox) := by
  let row := createdCommit hallStamp hall
  have hinsert : insertCommit emptyProject row = .ok { emptyProject with commits := ⟨[row], by decide⟩ } := rfl
  have hbranch : insertBranch { emptyProject with commits := ⟨[row], by decide⟩ } (createdBranch hallStamp "t1" "p1" true) =
      .ok (hallStore .empty []) := rfl
  obtain ⟨event, hemit⟩ := Store.emit_total (hallStore .empty []).toStore hallStamp.toStamp rfl rfl rfl
    (r := createdEvent row) (validatePayload_created (by decide) rfl)
  obtain ⟨log, hlog⟩ := @Store.record_of_empty .zeroKey { (hallStore .empty []).toStore with outbox := [event] }
    hallStamp.toStamp (createdAudit row) rfl
  refine ⟨log, [event], ?_⟩
  simp only [createScene, bind_eq_ok, orRaise_eq_ok, raiseIf_eq_ok]
  exact ⟨_, rfl, (), by decide, _, hinsert, _, hbranch, _, hemit, _, hlog, rfl⟩

/-- The package of the project, imported under a new tenant and project. -/
def hallCopy : ImportRequest where
  tenantId := "t2"
  projectId := "p2"
  actorId := "ben"
  sourceRootHash := "r1"
  tables := {
    evidenceRecords := []
    sceneCommits := [createdCommit hallStamp hall]
    sceneBranches := [createdBranch hallStamp "t1" "p1" true]
    sceneEntities := []
    representationBindings := [] }

def copyStamp : ImportStamp := ⟨1, fun category _ => category ++ "-copy", fun _ => []⟩

/-- The commit and the branch get new identifiers, and the scene keeps its own. -/
theorem importProject_hallCopy (log : AuditLog) (outbox : List OutboxEventRow) : ∃ db,
    importProject (hallStore log outbox) copyStamp hallCopy = .ok db ∧
      db.commits.get? "c0" = some (createdCommit hallStamp hall) ∧
      branch? db ⟨"t2", "p2", "s1", "main"⟩ = some ⟨"branch-copy", "t2", "p2", "s1", "main", "commit-copy", true⟩ ∧
      db.commits.get? "r1" = none :=
  ⟨_, rfl, rfl, rfl, rfl⟩

theorem scenesApart_emptyProject : ScenesApart emptyProject := by
  intro sceneId tenantId projectId huses
  rcases huses with ⟨row, hin, _⟩ | ⟨row, hin, _⟩
  · exact absurd hin List.not_mem_nil
  · exact absurd hin List.not_mem_nil

theorem noOtherUses_emptyProject (sceneId tenantId projectId : String) :
    NoOtherUses emptyProject sceneId tenantId projectId := by
  intro t p huses
  rcases huses with ⟨row, hin, _⟩ | ⟨row, hin, _⟩
  · exact absurd hin List.not_mem_nil
  · exact absurd hin List.not_mem_nil

theorem act_of_ok {svc : AuditService} {py : PyText} {db db' : SceneStore} {action : SceneAction}
    (h : perform svc py db action = .ok db') : act svc py db action = db' := by
  rw [act, h]

/-- A rollback to a commit without a workflow event goes through. -/
theorem rollbackBranch_total {db : SceneStore} {stamp : CommitStamp} {req : RollbackRequest} {target : SceneCommitRow}
    {branch : SceneBranchRow} (htarget : db.commits.get? req.targetCommitId = some target)
    (hbranch : branch? db req.toBranchKey = some branch) (hscene : target.sceneId = req.sceneId)
    (hevent : target.workflowEventId = none) (hfresh : db.commits.get? stamp.commitId = none) :
    ∃ result after, rollbackBranch db stamp req = .ok (result, after) := by
  obtain ⟨inserted, hinsert⟩ := @insertCommit_total db (rollbackRow stamp req target branch) hfresh hevent
  have hread : rollbackRead db req = .ok (target, branch) := by
    simp only [rollbackRead, bind_eq_ok, orRaise_eq_ok, raiseIf_eq_ok, ne_eq, not_not]
    exact ⟨target, htarget, branch, hbranch, (), hscene, rfl⟩
  refine ⟨⟨stamp.commitId, req.targetCommitId, branch.headCommitId, target.snapshotHash⟩,
    setHead inserted branch stamp.commitId, ?_⟩
  simp only [rollbackBranch, rollbackWrite, bind_eq_ok]
  exact ⟨(target, branch), hread, _, ⟨inserted, hinsert, rfl⟩, rfl⟩

theorem run_createScene : ∃ log outbox, run (act .zeroKey plainText) emptyProject [.createScene hallStamp hall] =
    hallStore log outbox := by
  obtain ⟨log, outbox, hcreate⟩ := createScene_hall
  have hperform : perform .zeroKey plainText emptyProject (.createScene hallStamp hall) = .ok (hallStore log outbox) :=
    map_eq_ok.mpr ⟨_, hcreate, rfl⟩
  refine ⟨log, outbox, ?_⟩
  rw [run_cons, act_of_ok hperform, run_nil]

/-- The project is imported under another one, which then rolls its branch back to the first project's commit. -/
theorem rollback_copies_other_project : ∃ result after, ScenesApart emptyProject ∧
    rollbackBranch (run (act .zeroKey plainText) emptyProject
      [.createScene hallStamp hall, .importProject copyStamp hallCopy]) (stampOf "r1")
      ⟨⟨"t2", "p2", "s1", "main"⟩, "c0", "ben"⟩ = .ok (result, after) ∧
    ¬ CopiesOwn (run (act .zeroKey plainText) emptyProject
      [.createScene hallStamp hall, .importProject copyStamp hallCopy]) after
      ⟨⟨"t2", "p2", "s1", "main"⟩, "c0", "ben"⟩ result := by
  obtain ⟨log, outbox, hcreate⟩ := createScene_hall
  have hperform : perform .zeroKey plainText emptyProject (.createScene hallStamp hall) = .ok (hallStore log outbox) :=
    map_eq_ok.mpr ⟨_, hcreate, rfl⟩
  obtain ⟨db, himport, htarget, hbranch, hfresh⟩ := importProject_hallCopy log outbox
  have hperform' : perform .zeroKey plainText (hallStore log outbox) (.importProject copyStamp hallCopy) = .ok db := himport
  have hrun : run (act .zeroKey plainText) emptyProject
      [.createScene hallStamp hall, .importProject copyStamp hallCopy] = db := by
    rw [run_cons, act_of_ok hperform, run_cons, act_of_ok hperform', run_nil]
  rw [hrun]
  obtain ⟨result, after, hrollback⟩ := @rollbackBranch_total db (stampOf "r1") ⟨⟨"t2", "p2", "s1", "main"⟩, "c0", "ben"⟩
    (createdCommit hallStamp hall) _ htarget hbranch rfl rfl hfresh
  refine ⟨result, after, scenesApart_emptyProject, hrollback, ?_⟩
  rintro ⟨target, copy, hfound, _, _, htenant, _⟩
  have heq : target = createdCommit hallStamp hall := Option.some.inj (hfound.symm.trans htarget)
  rw [heq] at htenant
  exact absurd htenant (by decide)

theorem rollback_within_project_hall : ∃ result after,
    rollbackBranch (run (act .zeroKey plainText) emptyProject [.createScene hallStamp hall]) (stampOf "r1")
      ⟨⟨"t1", "p1", "s1", "main"⟩, "c0", "ana"⟩ = .ok (result, after) ∧
    CopiesOwn (run (act .zeroKey plainText) emptyProject [.createScene hallStamp hall]) after
      ⟨⟨"t1", "p1", "s1", "main"⟩, "c0", "ana"⟩ result := by
  obtain ⟨log, outbox, hrun⟩ := run_createScene
  have htotal : ∃ result after, rollbackBranch (hallStore log outbox) (stampOf "r1")
      ⟨⟨"t1", "p1", "s1", "main"⟩, "c0", "ana"⟩ = .ok (result, after) :=
    @rollbackBranch_total (hallStore log outbox) (stampOf "r1") ⟨⟨"t1", "p1", "s1", "main"⟩, "c0", "ana"⟩
      (createdCommit hallStamp hall) (createdBranch hallStamp "t1" "p1" true) rfl rfl rfl rfl rfl
  rw [← hrun] at htotal
  obtain ⟨result, after, hrollback⟩ := htotal
  have hkeeps : Along (act .zeroKey plainText) KeepsApart emptyProject [.createScene hallStamp hall] :=
    ⟨noOtherUses_emptyProject "s1" "t1" "p1", trivial⟩
  exact ⟨result, after, hrollback, rollback_within_project scenesApart_emptyProject hkeeps hrollback⟩

end Sample

end SpatialDataService
end Sip
