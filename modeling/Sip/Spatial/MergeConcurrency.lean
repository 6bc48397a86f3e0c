import Sip.Foundation.PlainDigests
import Sip.Scene.Concurrency
import Sip.Spatial.MergeReview

/-!
# Merges and commits that run at the same time

A merge reads the row of the target, the row of the source and the commits, merges,
and at the end moves the head of the target. It takes no lock and names the head it
has read first as parent, so a commit that moved the head in between is lost. Every
commit stays an ancestor of the head as long as each merge that writes finds the head
it has read.
-/

namespace Sip
namespace SpatialDataService

set_option autoImplicit false

open SceneService

inductive BranchRequest where
  | commit (req : CommitRequest)
  | merge (req : MergeRequest)

def BranchRequest.key : BranchRequest → BranchKey
  | .commit req => req.toBranchKey
  | .merge req => MergeRequest.target req

/-- How far a request has come; commits run as in the scene service. -/
inductive MergeCall where
  | scene (call : SceneCall)
  | waiting (req : MergeRequest)
  | targetRead (req : MergeRequest) (target : SceneBranchRow)
  | branchesRead (req : MergeRequest) (target source : SceneBranchRow)
  | loaded (req : MergeRequest) (inputs : MergeInputs)
  | finished

def BranchRequest.start : BranchRequest → MergeCall
  | .commit req => .scene (.waiting (.commit req))
  | .merge req => .waiting req

/-- The next step of a request. The update of the branch row waits while a commit holds its lock. -/
def next (svc : AuditService) (py : PyText) (who : Nat) (stamp : CommitStamp) (s : SceneShared) :
    MergeCall → Option (SceneShared × MergeCall)
  | .scene call => (SceneService.next svc who stamp s call).map fun (s', call') => (s', .scene call')
  | .waiting req => match mergeTarget s.db req with
    | .ok target => some (s, .targetRead req target)
    | .error _ => some (s, .finished)
  | .targetRead req target => match mergeSource s.db req with
    | .ok source => some (s, .branchesRead req target source)
    | .error _ => some (s, .finished)
  | .branchesRead req target source => match mergeLoad s.db req target source with
    | .ok inputs => some (s, .loaded req inputs)
    | .error _ => some (s, .finished)
  | .loaded req inputs => match mergeDecide py req inputs with
    | .ok (.publish conflicts snapshot) =>
      if s.lock = none then match mergeWrite svc s.db stamp req inputs conflicts snapshot with
        | .ok db => some ({ s with db }, .finished)
        | .error _ => some (s, .finished)
      else none
    | _ => some (s, .finished)
  | .finished => none

abbrev MergePool := Pool SceneShared MergeCall

def arrived (db : SceneStore) (request : Nat → BranchRequest) : MergePool := ⟨⟨db, none⟩, fun i => (request i).start⟩

/-- Every commit recorded on the branch is an ancestor of its head. -/
def Reached (db : SceneStore) (key : BranchKey) : Prop :=
  ∃ branch, branch? db key = some branch ∧ ∀ row ∈ onBranch db key, Ancestor db branch.headCommitId row.commitId

theorem Reached.extended {key : BranchKey} {db db' : SceneStore} (h : Reached db key) (hextended : Extended key db db') :
    Reached db' key := by
  obtain ⟨current, row, hcurrent, hbranch, hparent, hmem⟩ := hextended.spec
  obtain ⟨head, hhead, hreached⟩ := h
  rw [hcurrent, Option.some.injEq] at hhead
  subst hhead
  exact ⟨_, hbranch, ancestor_of_extended hmem hparent hreached⟩

section Steps
variable {svc : AuditService} {py : PyText} {who : Nat} {stamp : CommitStamp} {s s' : SceneShared} {call call' : MergeCall}

/-- What a step can do. -/
inductive MergeStep (svc : AuditService) (py : PyText) (who : Nat) (stamp : CommitStamp) (s : SceneShared) :
    MergeCall → SceneShared → MergeCall → Prop
  | scene (call call' : SceneCall) (s' : SceneShared) : SceneStep svc who stamp s call s' call' →
      MergeStep svc py who stamp s (.scene call) s' (.scene call')
  | stop (call : MergeCall) : MergeStep svc py who stamp s call s .finished
  | target (req : MergeRequest) (row : SceneBranchRow) : mergeTarget s.db req = .ok row →
      MergeStep svc py who stamp s (.waiting req) s (.targetRead req row)
  | source (req : MergeRequest) (target row : SceneBranchRow) :
      MergeStep svc py who stamp s (.targetRead req target) s (.branchesRead req target row)
  | load (req : MergeRequest) (target source : SceneBranchRow) (inputs : MergeInputs) :
      mergeLoad s.db req target source = .ok inputs →
      MergeStep svc py who stamp s (.branchesRead req target source) s (.loaded req inputs)
  | write (req : MergeRequest) (inputs : MergeInputs) (conflicts : List MergeConflict) (snapshot : Dict) (db : SceneStore) :
      mergeDecide py req inputs = .ok (.publish conflicts snapshot) → s.lock = none →
      mergeWrite svc s.db stamp req inputs conflicts snapshot = .ok db →
      MergeStep svc py who stamp s (.loaded req inputs) { s with db } .finished

theorem mergeStep_of_next (h : next svc py who stamp s call = some (s', call')) :
    MergeStep svc py who stamp s call s' call' := by
  match call with
  | .finished => cases h
  | .scene call =>
    simp only [next, Option.map_eq_some_iff] at h
    obtain ⟨⟨s'', call''⟩, hnext, heq⟩ := h
    cases heq
    exact .scene call call'' s'' (step_of_next hnext)
  | .waiting req =>
    simp only [next] at h
    split at h
    · rename_i target htarget
      cases h
      exact .target req target htarget
    · cases h
      exact .stop _
  | .targetRead req target =>
    simp only [next] at h
    split at h
    · rename_i source _
      cases h
      exact .source req target source
    · cases h
      exact .stop _
  | .branchesRead req target source =>
    simp only [next] at h
    split at h
    · rename_i inputs hload
      cases h
      exact .load req target source inputs hload
    · cases h
      exact .stop _
  | .loaded req inputs =>
    simp only [next] at h
    split at h
    · rename_i conflicts snapshot hdecide
      split at h
      · rename_i hfree
        split at h
        · rename_i db hwrite
          cases h
          exact .write req inputs conflicts snapshot db hdecide hfree hwrite
        · cases h
          exact .stop _
      · cases h
    · cases h
      exact .stop _

theorem mergeWrite_ok {db db' : SceneStore} {req : MergeRequest} {inputs : MergeInputs} {conflicts : List MergeConflict}
    {snapshot : Dict} (h : mergeWrite svc db stamp req inputs conflicts snapshot = .ok db') :
    ∃ inserted, insertCommit db (mergeRow stamp req inputs conflicts snapshot) = .ok inserted ∧
      db'.commits = inserted.commits ∧ db'.branches = (setHead inserted inputs.target stamp.commitId).branches := by
  simp only [mergeWrite, bind_eq_ok] at h
  obtain ⟨inserted, hinsert, _, _, _, _, h⟩ := h
  cases h
  exact ⟨inserted, hinsert, rfl, rfl⟩

end Steps

section Invariant
variable {svc : AuditService} {py : PyText} {key : BranchKey}

def isCommit : SceneCall → Prop
  | .waiting (.rollback _) | .read _ _ _ => False
  | _ => True

/-- What each request knows: a merge only knows which row the target is. -/
def View (key : BranchKey) (i : Nat) (s : SceneShared) : MergeCall → Prop
  | .scene call => SceneService.View key i s call ∧ isCommit call
  | .waiting req => MergeRequest.target req = key
  | .targetRead _ target | .branchesRead _ target _ =>
    ∃ current, branch? s.db key = some current ∧ current.branchId = target.branchId
  | .loaded _ inputs => inputs.left.commitId = inputs.target.headCommitId ∧
    ∃ current, branch? s.db key = some current ∧ current.branchId = inputs.target.branchId
  | .finished => True

/-- A merge that writes finds the head of the target that it has read. -/
def HeadUnmoved (svc : AuditService) (py : PyText) (key : BranchKey) (p : MergePool) (m : Move CommitStamp) : Prop :=
  ∀ req inputs conflicts snapshot db, p.call m.who = .loaded req inputs →
    mergeDecide py req inputs = .ok (.publish conflicts snapshot) → p.shared.lock = none →
    mergeWrite svc p.shared.db m.input req inputs conflicts snapshot = .ok db →
    (branch? p.shared.db key).map SceneBranchRow.headCommitId = some inputs.target.headCommitId

variable {who : Nat} {stamp : CommitStamp} {s s' : SceneShared} {call call' : MergeCall}

/-- A step leaves the database alone or extends the branch. -/
theorem mergeStep_extends (hstep : MergeStep svc py who stamp s call s' call') (hJ : View key who s call)
    (hunmoved : ∀ req inputs conflicts snapshot db, call = .loaded req inputs →
      mergeDecide py req inputs = .ok (.publish conflicts snapshot) → s.lock = none →
      mergeWrite svc s.db stamp req inputs conflicts snapshot = .ok db →
      (branch? s.db key).map SceneBranchRow.headCommitId = some inputs.target.headCommitId) :
    s'.db = s.db ∨ Extended key s.db s'.db := by
  cases hstep with
  | stop | target | source | load => exact .inl rfl
  | scene call call' s' hscene =>
    obtain ⟨hview, hcommit⟩ := hJ
    apply step_extends hscene hview
    rintro req target branch rfl
    exact hcommit.elim
  | write req inputs conflicts snapshot db hdecide hfree hwrite =>
    obtain ⟨hleft, current, hcurrent, hid⟩ := hJ
    have hhead := hunmoved req inputs conflicts snapshot db rfl hdecide hfree hwrite
    rw [hcurrent, Option.map_some, Option.some.injEq] at hhead
    obtain ⟨inserted, hinsert, hcommits, hbranches⟩ := mergeWrite_ok hwrite
    exact .inr ⟨current, inputs.target, _, inserted, hcurrent, hid, hinsert, by simp [mergeRow, hleft, hhead], hcommits,
      hbranches⟩

/-- What the moving call knows after its step. -/
theorem mergeStep_own (hstep : MergeStep svc py who stamp s call s' call') (hJ : View key who s call) :
    View key who s' call' := by
  cases hstep with
  | stop | write => trivial
  | scene call call' s' hscene =>
    obtain ⟨hview, hcommit⟩ := hJ
    refine ⟨step_own hscene hview, ?_⟩
    cases hscene with
    | stop | check | lock | write | abandon | overwrite => trivial
    | look => exact hcommit.elim
  | target req row htarget =>
    have hkey : MergeRequest.target req = key := hJ
    exact ⟨row, hkey ▸ orRaise_eq_ok.mp htarget, rfl⟩
  | source => exact hJ
  | load req target source inputs hload =>
    obtain ⟨htarget, _, _, _, hleft⟩ := mergeLoad_ok hload
    rw [View, htarget]
    exact ⟨hleft, hJ⟩

/-- While a commit of another call holds the lock, nobody writes. -/
theorem mergeStep_of_locked (hstep : MergeStep svc py who stamp s call s' call') (hJ : View key who s call) {j : Nat}
    (hj : j ≠ who) (hlock : s.lock = some j) : s' = s := by
  cases hstep with
  | stop | target | source | load => rfl
  | scene call call' s' hscene => exact step_of_locked hscene hJ.1 hj hlock
  | write req inputs conflicts snapshot db hdecide hfree =>
    rw [hlock] at hfree
    cases hfree

/-- A step leaves the other calls what they know. -/
theorem mergeStep_frame (hstep : MergeStep svc py who stamp s call s' call') (hJ : View key who s call)
    (hdb : s'.db = s.db ∨ Extended key s.db s'.db) {j : Nat} (hj : j ≠ who) {other : MergeCall}
    (hother : View key j s other) : View key j s' other := by
  have hrow : ∀ id, (∃ current, branch? s.db key = some current ∧ current.branchId = id) →
      ∃ current, branch? s'.db key = some current ∧ current.branchId = id := by
    rintro id ⟨current, hcurrent, hid⟩
    rcases hdb with hsame | hextended
    · exact ⟨current, hsame ▸ hcurrent, hid⟩
    · obtain ⟨current', hcurrent', hid'⟩ := hextended.branchId hcurrent
      exact ⟨current', hcurrent', hid'.trans hid⟩
  cases other with
  | waiting | finished => exact hother
  | targetRead | branchesRead => exact hrow _ hother
  | loaded => exact ⟨hother.1, hrow _ hother.2⟩
  | scene call =>
    obtain ⟨hview, hcommit⟩ := hother
    refine ⟨?_, hcommit⟩
    cases call with
    | waiting | checked | finished => exact hview
    | read => exact hcommit.elim
    | holding req p =>
      rw [mergeStep_of_locked hstep hJ hj hview.1]
      exact hview

/-- Any number of commits and merges onto one branch, in any interleaving of their steps in which every merge
that writes finds the head it has read: in every state reached every commit recorded on the branch is an
ancestor of its head. -/
theorem target_reached_along (svc : AuditService) (py : PyText) (key : BranchKey) (db : SceneStore)
    (request : Nat → BranchRequest) (hkey : ∀ i, (request i).key = key) (hreached : Reached db key)
    (moves : List (Move CommitStamp))
    (hunmoved : Along (Pool.step (next svc py)) (HeadUnmoved svc py key) (arrived db request) moves)
    (past : List (Move CommitStamp)) (hpast : past <+: moves) :
    Reached (run (Pool.step (next svc py)) (arrived db request) past).shared.db key := by
  have hview : ∀ i, View key i ⟨db, none⟩ (request i).start := by
    intro i
    have hi := hkey i
    cases hrequest : request i with
    | commit req =>
      rw [hrequest] at hi
      exact ⟨hi, trivial⟩
    | merge req =>
      rw [hrequest] at hi
      exact hi
  have hstart : Pool.Holds (fun s : SceneShared => Reached s.db key) (View key) (arrived db request) := ⟨hreached, hview⟩
  apply (Pool.invariant_along _ _ hstart (hunmoved.of_prefix hpast)).1
  · intro p m s l hP hp hnext
    have hstep := mergeStep_of_next hnext
    refine ⟨?_, mergeStep_own hstep (hp.2 m.who)⟩
    rcases mergeStep_extends hstep (hp.2 m.who) hP with hsame | hextended
    · rw [hsame]
      exact hp.1
    · exact hp.1.extended hextended
  · intro p m s l j hP hp hnext hj
    have hstep := mergeStep_of_next hnext
    exact mergeStep_frame hstep (hp.2 m.who) (mergeStep_extends hstep (hp.2 m.who) hP) hj (hp.2 j)

end Invariant

section LostCommit

/-- A new scene with a second branch at the same commit. -/
def twinScene : SceneStore := { newScene .empty with
  branches := ⟨[mainRow, ⟨"b2", "t1", "p1", "s1", "feature", "c0", false⟩], by decide⟩ }

def mergeTwin : MergeRequest where
  tenantId := "t1"
  projectId := "p1"
  sceneId := "s1"
  targetBranch := "main"
  sourceBranch := "feature"
  baseCommitId := "c0"
  actorId := "ana"
  message := "m"

def twinInputs : MergeInputs := ⟨mainRow, initialCommit, initialCommit, initialCommit⟩

def mergeStamp : CommitStamp := ⟨⟨0, "a2"⟩, "m1"⟩

def twinCommit : SceneCommitRow := commitRow twinScene (stampOf "c1") (commitOnto "c0")

def twinMerge : SceneCommitRow := mergeRow mergeStamp mergeTwin twinInputs [] initialSnapshot

/-- A merge and a commit onto the same branch. -/
def rivals : Nat → BranchRequest
  | 0 => .merge mergeTwin
  | _ => .commit (commitOnto "c0")

/-- The merge reads, the commit runs to its end, the merge writes. -/
def lostCommit : List (Move CommitStamp) :=
  [⟨0, mergeStamp⟩, ⟨0, mergeStamp⟩, ⟨0, mergeStamp⟩, ⟨1, stampOf "c1"⟩, ⟨1, stampOf "c1"⟩, ⟨1, stampOf "c1"⟩,
    ⟨0, mergeStamp⟩]

/-- The merge runs to its end without another request in between. -/
def mergeAlone : List (Move CommitStamp) := List.replicate 4 ⟨0, mergeStamp⟩

theorem reached_twin : Reached twinScene mainBranch := by
  refine ⟨mainRow, rfl, ?_⟩
  intro row hrow
  rw [List.mem_singleton.mp hrow]
  exact .refl

theorem ancestorIds_twin : ancestorIds twinScene [] ["c0"] = .ok ["c0"] := by
  have hfound : twinScene.commits.get? initialCommit.commitId = some initialCommit := rfl
  apply (@ancestorIds_visit twinScene [] [] initialCommit List.not_mem_nil hfound).trans
  rw [show initialCommit.parentIdsJson = [] from rfl, List.filter_nil, List.reverse_nil, List.nil_append, ancestorIds]
  rfl

theorem mergeLoad_twin : mergeLoad twinScene mergeTwin mainRow ⟨"b2", "t1", "p1", "s1", "feature", "c0", false⟩ =
    .ok twinInputs := by
  simp only [mergeLoad, mergeInput, bind_eq_ok, orRaise_eq_ok, raiseIf_eq_ok]
  exact ⟨initialCommit, rfl, initialCommit, rfl, initialCommit, rfl, (), by decide, _, ancestorIds_twin, (), by decide,
    _, ancestorIds_twin, (), by decide, rfl⟩

theorem mergeDecide_twin : mergeDecide plainText mergeTwin twinInputs = .ok (.publish [] initialSnapshot) := rfl

/-- The event hash of the commit's audit entry. -/
def commitHash : String := "c9d6e8307e1235d49dfff37b2c14631c3929428556f22a07202d68f5983442d0"

set_option maxRecDepth 10000 in
theorem twinCommit_eventHash :
    (AuditService.zeroKey.entry .empty 0 "a1" (committedAudit (commitOnto "c0") twinCommit)).eventHash = commitHash := by
  rw [AuditService.entry_eventHash]
  apply canonicalSha256_of_hashesTo
  decide +kernel

set_option maxRecDepth 10000 in
theorem twinMerge_eventHash :
    canonicalSha256 ((AuditService.zeroKey.entry .empty 0 "a2" (mergeAudit mergeTwin [] twinMerge)).body commitHash) ≠
      commitHash := by
  rw [canonicalSha256_eq]
  decide +kernel

theorem commit_twin : ∃ db, commitWrite .zeroKey twinScene (stampOf "c1") (commitOnto "c0") ⟨mainRow, twinCommit⟩ = .ok db ∧
    db.commits.rows = [initialCommit, twinCommit] ∧ branch? db mainBranch = some { mainRow with headCommitId := "c1" } ∧
    AuditService.zeroKey.append .empty 0 "a1" (committedAudit (commitOnto "c0") twinCommit) = .ok db.audit := by
  obtain ⟨db, hdb⟩ := @commitWrite_plain .zeroKey twinScene (stampOf "c1") mainBranch mainRow "m" "ana" rfl rfl
    (by decide) (by decide)
  have hwrite := hdb
  simp only [commitWrite, Store.emit, Store.record, bind_eq_ok] at hdb
  obtain ⟨inserted, hinsert, _, ⟨event, _, hemitted⟩, _, ⟨log, hlog, hrecorded⟩, hdb⟩ := hdb
  cases hemitted
  cases hrecorded
  cases hdb
  obtain ⟨commits, hcommits, rfl⟩ := insertCommit_ok hinsert
  refine ⟨_, hwrite, (Table.insert?_eq_some hcommits).2, rfl, hlog⟩

/-- The merge is written after the commit, with the old head as parent. -/
theorem merge_after_commit {db : SceneStore} (hrows : db.commits.rows = [initialCommit, twinCommit])
    (hbranch : branch? db mainBranch = some { mainRow with headCommitId := "c1" })
    (hlog : AuditService.zeroKey.append .empty 0 "a1" (committedAudit (commitOnto "c0") twinCommit) = .ok db.audit) :
    ∃ db', mergeWrite .zeroKey db mergeStamp mergeTwin twinInputs [] initialSnapshot = .ok db' ∧
      db'.commits.rows = [initialCommit, twinCommit, twinMerge] ∧
      branch? db' mainBranch = some { mainRow with headCommitId := "m1" } := by
  have hfresh : db.commits.get? "m1" = none := by
    rw [Table.get?_eq_none_iff, hrows]
    decide
  have htenant : (mergeAudit mergeTwin [] twinMerge).tenantId = (committedAudit (commitOnto "c0") twinCommit).tenantId := rfl
  obtain ⟨log, hsecond⟩ := AuditService.append_second hlog (by decide : "a2" ≠ "a1") htenant twinCommit_eventHash
    twinMerge_eventHash
  obtain ⟨db', hwrite⟩ := @mergeWrite_of_append .zeroKey db mergeStamp mergeTwin twinInputs initialSnapshot [] hfresh
    (by decide) (by decide) (by decide) (by decide) (by decide) (by decide) log hsecond
  obtain ⟨inserted, hinsert, hcommits, hbranches⟩ := mergeWrite_ok hwrite
  obtain ⟨commits, hinserted, rfl⟩ := insertCommit_ok hinsert
  refine ⟨db', hwrite, ?_, ?_⟩
  · rw [hcommits, (Table.insert?_eq_some hinserted).2, hrows]
    rfl
  · have hfound : branch? ({ db with commits } : SceneStore) mainBranch = some { mainRow with headCommitId := "c1" } := hbranch
    have hsame : branch? db' mainBranch = branch? (setHead { db with commits } mainRow "m1") mainBranch := by
      unfold branch?
      rw [hbranches]
      rfl
    rw [hsame, branch?_setHead, hfound]
    rfl

/-- After both requests the head reaches itself and the initial commit only. -/
theorem not_reached_of_fork {db : SceneStore} (hrows : db.commits.rows = [initialCommit, twinCommit, twinMerge])
    (hbranch : branch? db mainBranch = some { mainRow with headCommitId := "m1" }) : ¬ Reached db mainBranch := by
  rintro ⟨branch, hfound, hreached⟩
  rw [hbranch, Option.some.injEq] at hfound
  subst hfound
  have hlost := hreached twinCommit (by
    rw [onBranch, hrows]
    exact List.mem_filter.mpr ⟨by simp, by decide⟩)
  have hclosed : ∀ c, Ancestor db "m1" c → c = "m1" ∨ c = "c0" := by
    intro c hc
    induction hc with
    | refl => exact .inl rfl
    | tail _ hparent ih =>
      obtain ⟨row, hrow, hchild, hmem⟩ := hparent
      rw [hrows] at hrow
      simp only [List.mem_cons, List.not_mem_nil, or_false] at hrow
      rcases hrow with rfl | rfl | rfl
      · cases hmem
      · exact .inr (List.mem_singleton.mp hmem)
      · rcases List.mem_cons.mp hmem with hmem | hmem
        · exact .inr hmem
        · exact .inr (List.mem_singleton.mp hmem)
  rcases hclosed _ hlost with h | h <;> exact absurd h (by decide)

section Run

def sourceRow : SceneBranchRow := ⟨"b2", "t1", "p1", "s1", "feature", "c0", false⟩

theorem next_target : next .zeroKey plainText 0 mergeStamp ⟨twinScene, none⟩ (.waiting mergeTwin) =
    some (⟨twinScene, none⟩, .targetRead mergeTwin mainRow) := rfl

theorem next_source : next .zeroKey plainText 0 mergeStamp ⟨twinScene, none⟩ (.targetRead mergeTwin mainRow) =
    some (⟨twinScene, none⟩, .branchesRead mergeTwin mainRow sourceRow) := rfl

theorem next_load : next .zeroKey plainText 0 mergeStamp ⟨twinScene, none⟩ (.branchesRead mergeTwin mainRow sourceRow) =
    some (⟨twinScene, none⟩, .loaded mergeTwin twinInputs) := by
  have hload : mergeLoad twinScene mergeTwin mainRow sourceRow = .ok twinInputs := mergeLoad_twin
  simp only [next, hload]

theorem next_write {db db' : SceneStore}
    (hwrite : mergeWrite .zeroKey db mergeStamp mergeTwin twinInputs [] initialSnapshot = .ok db') :
    next .zeroKey plainText 0 mergeStamp ⟨db, none⟩ (.loaded mergeTwin twinInputs) = some (⟨db', none⟩, .finished) := by
  simp only [next, mergeDecide_twin, hwrite, if_pos]

theorem next_check : next .zeroKey plainText 1 (stampOf "c1") ⟨twinScene, none⟩
    (.scene (.waiting (.commit (commitOnto "c0")))) =
      some (⟨twinScene, none⟩, .scene (.checked (commitOnto "c0"))) := rfl

theorem next_lock : next .zeroKey plainText 1 (stampOf "c1") ⟨twinScene, none⟩ (.scene (.checked (commitOnto "c0"))) =
    some (⟨twinScene, some 1⟩, .scene (.holding (commitOnto "c0") ⟨mainRow, twinCommit⟩)) := by
  have hlocked : commitLocked twinScene (stampOf "c1") (commitOnto "c0") = .ok ⟨mainRow, twinCommit⟩ :=
    @commitLocked_plain twinScene (stampOf "c1") mainBranch mainRow "m" "ana" rfl
  simp only [next, SceneService.next, hlocked, if_pos, Option.map_some]

theorem next_commit {db : SceneStore}
    (hwrite : commitWrite .zeroKey twinScene (stampOf "c1") (commitOnto "c0") ⟨mainRow, twinCommit⟩ = .ok db) :
    next .zeroKey plainText 1 (stampOf "c1") ⟨twinScene, some 1⟩
      (.scene (.holding (commitOnto "c0") ⟨mainRow, twinCommit⟩)) = some (⟨db, none⟩, .scene .finished) := by
  simp only [next, SceneService.next, hwrite, Option.map_some]

/-- The calls when the merge has read everything. -/
def mergeLoaded : Nat → MergeCall :=
  Function.update (Function.update (Function.update (fun i => (rivals i).start) 0 (.targetRead mergeTwin mainRow)) 0
    (.branchesRead mergeTwin mainRow sourceRow)) 0 (.loaded mergeTwin twinInputs)

theorem run_reads (moves : List (Move CommitStamp)) :
    run (Pool.step (next .zeroKey plainText)) (arrived twinScene rivals)
      (⟨0, mergeStamp⟩ :: ⟨0, mergeStamp⟩ :: ⟨0, mergeStamp⟩ :: moves) =
    run (Pool.step (next .zeroKey plainText)) ⟨⟨twinScene, none⟩, mergeLoaded⟩ moves := by
  have h₁ : Pool.step (next .zeroKey plainText) (arrived twinScene rivals) ⟨0, mergeStamp⟩ = _ := Pool.step_of_some next_target
  rw [run_cons, h₁, run_cons, Pool.step_of_some next_source, run_cons, Pool.step_of_some next_load]
  rfl

end Run

/-- The commit is recorded and then lost: the merge moves the head to a commit that does not name it. -/
theorem merge_loses_commit : (∀ i, (rivals i).key = mainBranch) ∧ Reached twinScene mainBranch ∧
    ¬ Reached (run (Pool.step (next .zeroKey plainText)) (arrived twinScene rivals) lostCommit).shared.db mainBranch := by
  obtain ⟨db, hcommit, hrows, hbranch, hlog⟩ := commit_twin
  obtain ⟨db', hmerge, hrows', hbranch'⟩ := merge_after_commit hrows hbranch hlog
  have hkey : ∀ i, (rivals i).key = mainBranch := by
    intro i
    cases i <;> rfl
  refine ⟨hkey, reached_twin, ?_⟩
  let calls₄ := Function.update mergeLoaded 1 (.scene (.checked (commitOnto "c0")))
  let calls₅ := Function.update calls₄ 1 (.scene (.holding (commitOnto "c0") ⟨mainRow, twinCommit⟩))
  let calls₆ := Function.update calls₅ 1 (.scene .finished)
  have h₄ : Pool.step (next .zeroKey plainText) ⟨⟨twinScene, none⟩, mergeLoaded⟩ ⟨1, stampOf "c1"⟩ =
    ⟨⟨twinScene, none⟩, calls₄⟩ := Pool.step_of_some next_check
  have h₅ : Pool.step (next .zeroKey plainText) ⟨⟨twinScene, none⟩, calls₄⟩ ⟨1, stampOf "c1"⟩ =
    ⟨⟨twinScene, some 1⟩, calls₅⟩ := Pool.step_of_some next_lock
  have h₆ : Pool.step (next .zeroKey plainText) ⟨⟨twinScene, some 1⟩, calls₅⟩ ⟨1, stampOf "c1"⟩ =
    ⟨⟨db, none⟩, calls₆⟩ := Pool.step_of_some (next_commit hcommit)
  have h₇ : Pool.step (next .zeroKey plainText) ⟨⟨db, none⟩, calls₆⟩ ⟨0, mergeStamp⟩ =
    ⟨⟨db', none⟩, Function.update calls₆ 0 .finished⟩ := Pool.step_of_some (next_write hmerge)
  rw [lostCommit, run_reads, run_cons, h₄, run_cons, h₅, run_cons, h₆, run_cons, h₇, run_nil]
  exact not_reached_of_fork hrows' hbranch'

theorem target_reached_mergeAlone :
    Along (Pool.step (next .zeroKey plainText)) (HeadUnmoved .zeroKey plainText mainBranch) (arrived twinScene rivals)
      mergeAlone ∧
    Reached (run (Pool.step (next .zeroKey plainText)) (arrived twinScene rivals) mergeAlone).shared.db mainBranch := by
  have hread := run_reads []
  simp only [run_cons, run_nil] at hread
  have halong : Along (Pool.step (next .zeroKey plainText)) (HeadUnmoved .zeroKey plainText mainBranch)
      (arrived twinScene rivals) mergeAlone := by
    refine ⟨?_, ?_, ?_, ?_, trivial⟩
    · intro req inputs conflicts snapshot db hcall
      cases hcall
    · rw [show Pool.step (next .zeroKey plainText) (arrived twinScene rivals) ⟨0, mergeStamp⟩ = _ from
        Pool.step_of_some next_target]
      intro req inputs conflicts snapshot db hcall
      cases hcall
    · rw [show Pool.step (next .zeroKey plainText) (arrived twinScene rivals) ⟨0, mergeStamp⟩ = _ from
        Pool.step_of_some next_target, Pool.step_of_some next_source]
      intro req inputs conflicts snapshot db hcall
      cases hcall
    · rw [hread]
      intro req inputs conflicts snapshot db hcall _ _ _
      cases hcall
      rfl
  have hkey : ∀ i, (rivals i).key = mainBranch := by
    intro i
    cases i <;> rfl
  exact ⟨halong, target_reached_along .zeroKey plainText mainBranch twinScene rivals hkey reached_twin mergeAlone halong
    mergeAlone (List.prefix_refl _)⟩

end LostCommit

end SpatialDataService
end Sip
