import Sip.Spatial.SceneIsolation

/-!
# The workflow event of a rollback commit

A project has at most one commit for a workflow event: the table enforces it, and every
writer of commits goes through the table. `rollback_branch` copies the event of its target
into a new commit of the project, so the table refuses it whenever a commit of the project
carries that event, and the target of a project's own scene always does.
-/

namespace Sip
namespace SpatialDataService

set_option autoImplicit false

open SceneService

section Events

/-- A project has at most one commit for a workflow event. -/
def UniqueEvents (db : SceneStore) : Prop :=
  ∀ a ∈ db.commits.rows, ∀ b ∈ db.commits.rows, a.tenantId = b.tenantId → a.projectId = b.projectId →
    a.workflowEventId = b.workflowEventId → a.workflowEventId ≠ none → a = b

/-- No commit of the project carries the event. -/
def EventFree (db : SceneStore) (tenantId projectId : String) (event : Option String) : Prop :=
  ∀ row ∈ db.commits.rows, row.tenantId = tenantId → row.projectId = projectId → event ≠ none →
    row.workflowEventId ≠ event

/-- The commits of `db'` are those of `db`, with commits that the table accepted one after the other. -/
inductive Commits : SceneStore → SceneStore → Prop where
  | refl {db db' : SceneStore} : db'.commits = db.commits → Commits db db'
  | insert {db mid next db' : SceneStore} {row : SceneCommitRow} :
      Commits db mid → insertCommit mid row = .ok next → db'.commits = next.commits → Commits db db'

variable {db db' db'' : SceneStore} {row : SceneCommitRow}

theorem insertCommit_ok_iff : insertCommit db row = .ok db' ↔
    EventFree db row.tenantId row.projectId row.workflowEventId ∧
      ∃ commits, db.commits.insert? row = some commits ∧ db' = { db with commits } := by
  simp only [insertCommit, bind_eq_ok, raiseIf_eq_ok, orRaise_eq_ok, List.any_eq_true, decide_eq_true_eq, not_and,
    not_exists, exists_const]
  constructor
  · rintro ⟨hfree, commits, hinsert, h⟩
    cases h
    refine ⟨?_, commits, hinsert, rfl⟩
    intro other hother htenant hproject hevent
    exact hfree hevent other hother htenant hproject
  · rintro ⟨hfree, commits, hinsert, rfl⟩
    refine ⟨?_, commits, hinsert, rfl⟩
    intro hevent other hother htenant hproject
    exact hfree other hother htenant hproject hevent

theorem uniqueEvents_of_eq (h : UniqueEvents db) (heq : db'.commits = db.commits) : UniqueEvents db' := by
  unfold UniqueEvents
  rw [heq]
  exact h

theorem uniqueEvents_insertCommit (h : UniqueEvents db) (hinsert : insertCommit db row = .ok db') : UniqueEvents db' := by
  obtain ⟨hfree, commits, hrow, rfl⟩ := insertCommit_ok_iff.mp hinsert
  have hrows := (Table.insert?_eq_some hrow).2
  intro a ha b hb htenant hproject hevent hsome
  rw [show ({ db with commits } : SceneStore).commits.rows = db.commits.rows ++ [row] from hrows] at ha hb
  rcases List.mem_append.mp ha with hold | hnew
  · rcases List.mem_append.mp hb with hold' | hnew'
    · exact h a hold b hold' htenant hproject hevent hsome
    · rw [List.mem_singleton.mp hnew'] at htenant hproject hevent
      exact absurd hevent (hfree a hold htenant hproject (hevent ▸ hsome))
  · rw [List.mem_singleton.mp hnew] at htenant hproject hevent hsome ⊢
    rcases List.mem_append.mp hb with hold' | hnew'
    · exact absurd hevent.symm (hfree b hold' htenant.symm hproject.symm hsome)
    · exact (List.mem_singleton.mp hnew').symm

theorem Commits.uniqueEvents (hcommits : Commits db db') (h : UniqueEvents db) : UniqueEvents db' := by
  induction hcommits with
  | refl heq => exact uniqueEvents_of_eq h heq
  | insert _ hinsert heq ih => exact uniqueEvents_of_eq (uniqueEvents_insertCommit ih hinsert) heq

theorem Commits.single (hinsert : insertCommit db row = .ok db') : Commits db db' := .insert (.refl rfl) hinsert rfl

theorem Commits.trans (h : Commits db db') (h' : Commits db' db'') : Commits db db'' := by
  induction h' with
  | refl heq =>
    cases h with
    | refl heq' => exact .refl (heq.trans heq')
    | insert before hinsert heq' => exact .insert before hinsert (heq.trans heq')
  | insert _ hinsert heq ih => exact .insert ih hinsert heq

theorem Commits.foldlM {ρ : Type} {f : SceneStore → ρ → Except Raised SceneStore}
    (hstep : ∀ row db db', f db row = .ok db' → Commits db db') {rows : List ρ} (h : rows.foldlM f db = .ok db') :
    Commits db db' := by
  induction rows generalizing db with
  | nil =>
    cases h
    exact .refl rfl
  | cons row rows ih =>
    rw [List.foldlM_cons] at h
    obtain ⟨next, hnext, h⟩ := bind_eq_ok.mp h
    exact (hstep row db next hnext).trans (ih h)

end Events

section Writers
variable {svc : AuditService} {py : PyText} {db db' : SceneStore}

theorem commits_insertBranch {row : SceneBranchRow} (h : insertBranch db row = .ok db') : Commits db db' := by
  simp only [insertBranch, bind_eq_ok] at h
  obtain ⟨_, _, _, _, h⟩ := h
  cases h
  exact .refl rfl

theorem commits_createScene {stamp : SceneStamp} {req : SceneCreation} {result : SceneCreated}
    (h : createScene svc db stamp req = .ok (result, db')) : Commits db db' := by
  simp only [createScene, bind_eq_ok] at h
  obtain ⟨_, _, _, _, committed, hcommit, branched, hbranch, _, _, _, _, h⟩ := h
  cases h
  exact ((Commits.single hcommit).trans (commits_insertBranch hbranch)).trans (.refl rfl)

theorem commits_createBranch {branchId : String} {req : BranchCreation} {result : String}
    (h : createBranch db branchId req = .ok (result, db')) : Commits db db' := by
  simp only [createBranch, bind_eq_ok] at h
  obtain ⟨_, _, _, _, _, _, branched, hbranch, h⟩ := h
  cases h
  exact commits_insertBranch hbranch

theorem commits_commit {stamp : CommitStamp} {req : CommitRequest} {result : CommitResult}
    (h : commit svc db stamp req = .ok (result, db')) : Commits db db' := by
  simp only [commit, bind_eq_ok] at h
  obtain ⟨lookup, _, h⟩ := h
  cases lookup with
  | some replay =>
    cases h
    exact .refl rfl
  | none =>
    obtain ⟨p, _, h⟩ := bind_eq_ok.mp h
    obtain ⟨written, hwrite, h⟩ := bind_eq_ok.mp h
    cases h
    obtain ⟨inserted, hinsert, hcommits, _⟩ := commitWrite_ok hwrite
    exact .insert (.refl rfl) hinsert hcommits

theorem commits_rollbackBranch {stamp : CommitStamp} {req : RollbackRequest} {result : RollbackResult}
    (h : rollbackBranch db stamp req = .ok (result, db')) : Commits db db' := by
  obtain ⟨_, _, inserted, _, hinsert, rfl, _⟩ := rollbackBranch_written h
  exact .insert (.refl rfl) hinsert rfl

theorem commits_mergeBranches {stamp : CommitStamp} {req : MergeRequest} {result : MergeOutcome}
    (h : mergeBranches svc py db stamp req = .ok (result, db')) : Commits db db' := by
  simp only [mergeBranches, bind_eq_ok] at h
  obtain ⟨inputs, _, decision, _, h⟩ := h
  cases decision with
  | review conflicts required unapproved =>
    cases h
    exact .refl rfl
  | publish conflicts snapshot =>
    obtain ⟨written, hwrite, h⟩ := bind_eq_ok.mp h
    cases h
    obtain ⟨inserted, hinsert, hcommits, _⟩ := mergeWrite_ok hwrite
    exact .insert (.refl rfl) hinsert hcommits

theorem commits_createImportScope {tenantId projectId classification : String}
    (h : createImportScope db tenantId projectId classification = .ok db') : Commits db db' := by
  simp only [createImportScope, bind_eq_ok] at h
  obtain ⟨_, _, h⟩ := h
  cases h
  exact .refl rfl

/-- Evidence, entities and bindings go to tables of their own. -/
theorem commits_replayNativeRows {maps : IdMaps} {req : ImportRequest} (h : replayNativeRows maps req db = .ok db') :
    Commits db db' := by
  simp only [replayNativeRows, bind_eq_ok] at h
  obtain ⟨evidenced, hevidence, committed, hcommits, branched, hbranches, peopled, hentities, hbindings⟩ := h
  have h₁ : Commits db evidenced := by
    apply Commits.foldlM _ hevidence
    intro source db db' h
    obtain ⟨_, _, h⟩ := bind_eq_ok.mp h
    cases h
    exact .refl rfl
  have h₂ : Commits evidenced committed := by
    apply Commits.foldlM _ hcommits
    intro source db db' h
    exact .single h
  have h₃ : Commits committed branched := by
    apply Commits.foldlM _ hbranches
    intro source db db' h
    exact commits_insertBranch h
  have h₄ : Commits branched peopled := by
    apply Commits.foldlM _ hentities
    intro source db db' h
    obtain ⟨_, _, h⟩ := bind_eq_ok.mp h
    cases h
    exact .refl rfl
  have h₅ : Commits peopled db' := by
    apply Commits.foldlM _ hbindings
    intro source db db' h
    obtain ⟨_, _, h⟩ := bind_eq_ok.mp h
    cases h
    exact .refl rfl
  exact h₁.trans (h₂.trans (h₃.trans (h₄.trans h₅)))

theorem commits_importProject {stamp : ImportStamp} {req : ImportRequest} (h : importProject db stamp req = .ok db') :
    Commits db db' := by
  simp only [importProject, bind_eq_ok] at h
  obtain ⟨based, hscope, maps, _, hreplay⟩ := h
  exact (commits_createImportScope hscope).trans (commits_replayNativeRows hreplay)

theorem commits_importLegacySnapshot {stamp : SceneStamp} {req : LegacyImport}
    (h : importLegacySnapshot db stamp req = .ok db') : Commits db db' := by
  simp only [importLegacySnapshot, bind_eq_ok] at h
  obtain ⟨based, hscope, committed, hcommit, hbranch⟩ := h
  exact ((commits_createImportScope hscope).trans (.single hcommit)).trans (commits_insertBranch hbranch)

theorem commits_perform {action : SceneAction} (hperform : perform svc py db action = .ok db') : Commits db db' := by
  cases action with
  | createScene stamp req =>
    obtain ⟨⟨result, written⟩, hcall, rfl⟩ := map_eq_ok.mp hperform
    exact commits_createScene hcall
  | createBranch branchId req =>
    obtain ⟨⟨result, written⟩, hcall, rfl⟩ := map_eq_ok.mp hperform
    exact commits_createBranch hcall
  | commit stamp req =>
    obtain ⟨⟨result, written⟩, hcall, rfl⟩ := map_eq_ok.mp hperform
    exact commits_commit hcall
  | rollback stamp req =>
    obtain ⟨⟨result, written⟩, hcall, rfl⟩ := map_eq_ok.mp hperform
    exact commits_rollbackBranch hcall
  | merge stamp req =>
    obtain ⟨⟨result, written⟩, hcall, rfl⟩ := map_eq_ok.mp hperform
    exact commits_mergeBranches hcall
  | importProject stamp req => exact commits_importProject hperform
  | importLegacy stamp req => exact commits_importLegacySnapshot hperform
  | other rest =>
    cases hperform
    exact .refl rfl

theorem uniqueEvents_act {action : SceneAction} (h : UniqueEvents db) : UniqueEvents (act svc py db action) := by
  rw [act]
  split
  · next db' hperform => exact (commits_perform hperform).uniqueEvents h
  · exact h

theorem uniqueEvents_run {start : SceneStore} (hstart : UniqueEvents start) (actions : List SceneAction) :
    UniqueEvents (run (act svc py) start actions) :=
  run_invariant (fun _ _ h => uniqueEvents_act h) hstart actions

end Writers

section Rollback
variable {db : SceneStore} {stamp : CommitStamp} {req : RollbackRequest} {target : SceneCommitRow} {branch : SceneBranchRow}

/-- The rollback goes through: a new commit is the head of the branch, with the snapshot and the hash of the target and
the previous head as its parent, and the project still has at most one commit for a workflow event. -/
def RollsBack (db : SceneStore) (stamp : CommitStamp) (req : RollbackRequest) (target : SceneCommitRow)
    (branch : SceneBranchRow) : Prop :=
  ∃ result after head copy, rollbackBranch db stamp req = .ok (result, after) ∧
    branch? after req.toBranchKey = some head ∧ head.headCommitId = stamp.commitId ∧
    after.commits.get? stamp.commitId = some copy ∧
    copy.semanticSnapshotJson = target.semanticSnapshotJson ∧ copy.snapshotHash = target.snapshotHash ∧
    copy.parentIdsJson = [branch.headCommitId] ∧ UniqueEvents after

/-- A commit of the project itself stands in the way of its event. -/
theorem eventFree_own (hfound : db.commits.get? req.targetCommitId = some target) :
    EventFree db target.tenantId target.projectId target.workflowEventId ↔ target.workflowEventId = none := by
  have hin := ((Table.get?_eq_some_iff _ _ _).mp hfound).1
  constructor
  · intro hfree
    by_contra hevent
    exact hfree target hin rfl rfl hevent rfl
  · intro hnone row _ _ _ hevent
    exact absurd hnone hevent

theorem rollbackRead_of (htarget : db.commits.get? req.targetCommitId = some target)
    (hbranch : branch? db req.toBranchKey = some branch) (hscene : target.sceneId = req.sceneId) :
    rollbackRead db req = .ok (target, branch) := by
  simp only [rollbackRead, bind_eq_ok, orRaise_eq_ok, raiseIf_eq_ok, ne_eq, not_not]
  exact ⟨target, htarget, branch, hbranch, (), hscene, rfl⟩

/-- What an accepted rollback leaves. -/
theorem rollsBack_of_insertCommit {inserted : SceneStore} (hunique : UniqueEvents db)
    (hread : rollbackRead db req = .ok (target, branch))
    (hinsert : insertCommit db (rollbackRow stamp req target branch) = .ok inserted) : RollsBack db stamp req target branch := by
  have hcall : rollbackBranch db stamp req =
      .ok (⟨stamp.commitId, req.targetCommitId, branch.headCommitId, target.snapshotHash⟩,
        setHead inserted branch stamp.commitId) := by
    simp only [rollbackBranch, rollbackWrite, bind_eq_ok]
    exact ⟨(target, branch), hread, _, ⟨inserted, hinsert, rfl⟩, rfl⟩
  have hhead : branch? (setHead inserted branch stamp.commitId) req.toBranchKey =
      some { branch with headCommitId := stamp.commitId } := by
    rw [branch?_setHead, branch?_insertCommit hinsert, (rollbackRead_ok hread).2.1]
    simp
  have hcopy : inserted.commits.get? stamp.commitId = some (rollbackRow stamp req target branch) := by
    rw [get?_commits_insertCommit hinsert]
    exact if_pos rfl
  have hafter : UniqueEvents (setHead inserted branch stamp.commitId) :=
    uniqueEvents_of_eq (uniqueEvents_insertCommit hunique hinsert) rfl
  exact ⟨_, _, _, _, hcall, hhead, rfl, hcopy, rfl, rfl, rfl, hafter⟩

/-- In every state that is reached, a rollback to a commit of the scene goes through exactly when no commit of the
project carries the workflow event of the target. -/
theorem rollback_iff_event_free {svc : AuditService} {py : PyText} {start : SceneStore} (hstart : UniqueEvents start)
    (actions : List SceneAction)
    (htarget : (run (act svc py) start actions).commits.get? req.targetCommitId = some target)
    (hbranch : branch? (run (act svc py) start actions) req.toBranchKey = some branch)
    (hscene : target.sceneId = req.sceneId) (hfresh : (run (act svc py) start actions).commits.get? stamp.commitId = none) :
    RollsBack (run (act svc py) start actions) stamp req target branch ↔
      EventFree (run (act svc py) start actions) req.tenantId req.projectId target.workflowEventId := by
  have hunique : UniqueEvents (run (act svc py) start actions) := uniqueEvents_run hstart actions
  have hread := rollbackRead_of htarget hbranch hscene
  constructor
  · rintro ⟨result, after, _, _, hcall, _⟩
    obtain ⟨target', branch', inserted, hread', hinsert, _⟩ := rollbackBranch_written hcall
    cases hread.symm.trans hread'
    exact (insertCommit_ok_iff.mp hinsert).1
  · intro hfree
    obtain ⟨commits, hcommits⟩ := @Table.insert?_isSome _ _ _ (rollbackRow stamp req target branch) hfresh
    apply rollsBack_of_insertCommit hunique hread
    exact insertCommit_ok_iff.mpr ⟨hfree, commits, hcommits, rfl⟩

end Rollback

section Sample

/-- A package of one scene, whose commit was made for a workflow event. -/
def eventfulCopy (workflowEventId : Option String) : ImportRequest where
  tenantId := "t2"
  projectId := "p2"
  actorId := "ben"
  sourceRootHash := "r1"
  tables := {
    evidenceRecords := []
    sceneCommits := [{ createdCommit hallStamp hall with workflowEventId }]
    sceneBranches := [createdBranch hallStamp "t1" "p1" true]
    sceneEntities := []
    representationBindings := [] }

def toFirst : RollbackRequest := ⟨⟨"t2", "p2", "s1", "main"⟩, "c0", "ben"⟩

theorem importProject_eventless : ∃ db target branch,
    importProject emptyProject copyStamp (eventfulCopy none) = .ok db ∧
    db.commits.get? "c0" = some target ∧ branch? db toFirst.toBranchKey = some branch ∧ target.sceneId = "s1" ∧
    target.workflowEventId = none ∧ db.commits.get? "r1" = none :=
  ⟨_, _, _, rfl, rfl, rfl, rfl, rfl, rfl⟩

theorem uniqueEvents_emptyProject : UniqueEvents emptyProject := by
  intro a ha
  exact absurd ha List.not_mem_nil

/-- The project's only commit was made for a workflow event; the rollback to it is refused by the table. -/
theorem rollback_to_event_refused : ∃ target branch,
    (run (act .zeroKey plainText) emptyProject [.importProject copyStamp (eventfulCopy (some "w1"))]).commits.get? "c0" =
      some target ∧
    branch? (run (act .zeroKey plainText) emptyProject [.importProject copyStamp (eventfulCopy (some "w1"))])
      toFirst.toBranchKey = some branch ∧ target.sceneId = toFirst.sceneId ∧
    rollbackBranch (run (act .zeroKey plainText) emptyProject [.importProject copyStamp (eventfulCopy (some "w1"))])
      (stampOf "r1") toFirst = .error (.integrityError "uq_scene_commit_workflow_event") ∧
    ¬ RollsBack (run (act .zeroKey plainText) emptyProject [.importProject copyStamp (eventfulCopy (some "w1"))])
      (stampOf "r1") toFirst target branch := by
  have hrefused : rollbackBranch (run (act .zeroKey plainText) emptyProject
      [.importProject copyStamp (eventfulCopy (some "w1"))]) (stampOf "r1") toFirst =
      .error (.integrityError "uq_scene_commit_workflow_event") := rfl
  refine ⟨_, _, rfl, rfl, rfl, hrefused, ?_⟩
  rintro ⟨result, after, _, _, hcall, _⟩
  rw [hrefused] at hcall
  cases hcall

theorem rollback_iff_event_free_eventless : ∃ target branch,
    RollsBack (run (act .zeroKey plainText) emptyProject [.importProject copyStamp (eventfulCopy none)]) (stampOf "r1")
      toFirst target branch := by
  obtain ⟨db, target, branch, himport, htarget, hbranch, hscene, hevent, hfresh⟩ := importProject_eventless
  have hrun : run (act .zeroKey plainText) emptyProject [.importProject copyStamp (eventfulCopy none)] = db := by
    have hperform : perform .zeroKey plainText emptyProject (.importProject copyStamp (eventfulCopy none)) = .ok db := himport
    rw [run_cons, act_of_ok hperform, run_nil]
  refine ⟨target, branch, ?_⟩
  apply (rollback_iff_event_free uniqueEvents_emptyProject _ (hrun ▸ htarget) (hrun ▸ hbranch) hscene (hrun ▸ hfresh)).mpr
  intro row _ _ _ hsome
  exact absurd hevent hsome

end Sample

end SpatialDataService
end Sip
