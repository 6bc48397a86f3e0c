import Mathlib.Logic.Relation
import Sip.Foundation.Interleaving
import Sip.Scene.Rollback

/-!
# Commits and rollbacks that run at the same time

A commit locks the branch row when it reads it and holds the lock until its
transaction ends. A rollback reads the row without a lock and only its final update
has to wait for one. The branch stays a single line of history as long as no
rollback writes after the head it has read was moved.
-/

namespace Sip
namespace SceneService

set_option autoImplicit false

inductive SceneRequest where
  | commit (req : CommitRequest)
  | rollback (req : RollbackRequest)

def SceneRequest.key : SceneRequest → BranchKey
  | .commit req => req.toBranchKey
  | .rollback req => req.toBranchKey

/-- The database, and the call that holds the lock on the branch row. -/
structure SceneShared where
  db : SceneStore
  lock : Option Nat

/-- How far a request has come. -/
inductive SceneCall where
  | waiting (request : SceneRequest)
  | checked (req : CommitRequest)
  | holding (req : CommitRequest) (prepared : PreparedCommit)
  | read (req : RollbackRequest) (target : SceneCommitRow) (branch : SceneBranchRow)
  | finished

/-- The next step of a request. A step that needs the row lock waits while another call holds it; a
refusal ends the transaction without a change. -/
def next (svc : AuditService) (who : Nat) (stamp : CommitStamp) (s : SceneShared) : SceneCall → Option (SceneShared × SceneCall)
  | .waiting (.commit req) => match commitLookup s.db req with
    | .ok none => some (s, .checked req)
    | _ => some (s, .finished)
  | .checked req => if s.lock = none then match commitLocked s.db stamp req with
      | .ok prepared => some ({ s with lock := some who }, .holding req prepared)
      | .error _ => some (s, .finished)
    else none
  | .holding req prepared => match commitWrite svc s.db stamp req prepared with
    | .ok db => some (⟨db, none⟩, .finished)
    | .error _ => some (⟨s.db, none⟩, .finished)
  | .waiting (.rollback req) => match rollbackRead s.db req with
    | .ok (target, branch) => some (s, .read req target branch)
    | .error _ => some (s, .finished)
  | .read req target branch => if s.lock = none then match rollbackWrite s.db stamp req target branch with
      | .ok db => some ({ s with db }, .finished)
      | .error _ => some (s, .finished)
    else none
  | .finished => none

abbrev ScenePool := Pool SceneShared SceneCall

/-- Requests that have arrived and not yet started. -/
def arrived (db : SceneStore) (request : Nat → SceneRequest) : ScenePool :=
  ⟨⟨db, none⟩, fun i => .waiting (request i)⟩

section History

def onBranch (db : SceneStore) (key : BranchKey) : List SceneCommitRow :=
  db.commits.rows.filter fun row => (⟨row.tenantId, row.projectId, row.sceneId, row.branch⟩ : BranchKey) = key

def Parent (db : SceneStore) (child parent : String) : Prop :=
  ∃ row ∈ db.commits.rows, row.commitId = child ∧ parent ∈ row.parentIdsJson

/-- The second commit is reached from the first through `parent_ids_json`. -/
def Ancestor (db : SceneStore) : String → String → Prop := Relation.ReflTransGen (Parent db)

/-- Every commit recorded on the branch is an ancestor of the head, and of two of them one is an ancestor of
the other. -/
structure Linear (db : SceneStore) (key : BranchKey) : Prop where
  reached : ∃ branch, branch? db key = some branch ∧
    ∀ row ∈ onBranch db key, Ancestor db branch.headCommitId row.commitId
  chain : ∀ a ∈ onBranch db key, ∀ b ∈ onBranch db key, Ancestor db a.commitId b.commitId ∨ Ancestor db b.commitId a.commitId

theorem Ancestor.mono {db db' : SceneStore} (h : ∀ row ∈ db.commits.rows, row ∈ db'.commits.rows) {a b : String}
    (hab : Ancestor db a b) : Ancestor db' a b := by
  induction hab with
  | refl => exact .refl
  | tail _ hparent ih =>
    obtain ⟨row, hrow, hchild⟩ := hparent
    exact ih.tail ⟨row, h row hrow, hchild⟩

theorem branch?_setHead {db : SceneStore} {branch : SceneBranchRow} {commitId : String} {key : BranchKey} :
    branch? (setHead db branch commitId) key = (branch? db key).map fun row =>
      if row.branchId = branch.branchId then { row with headCommitId := commitId } else row := by
  simp only [branch?, setHead, Table.modify, List.find?_map]
  congr 2
  funext row
  simp only [Function.comp_apply]
  split <;> rfl

/-- A new commit on top of the head has been stored and the head moved to it. -/
def Extended (key : BranchKey) (db db' : SceneStore) : Prop :=
  ∃ current branch row inserted, branch? db key = some current ∧ current.branchId = branch.branchId ∧
    insertCommit db row = .ok inserted ∧ current.headCommitId ∈ row.parentIdsJson ∧
    db'.commits = inserted.commits ∧ db'.branches = (setHead inserted branch row.commitId).branches

section Extended
variable {key : BranchKey} {db db' : SceneStore}

theorem Extended.spec (h : Extended key db db') : ∃ current row, branch? db key = some current ∧
    branch? db' key = some { current with headCommitId := row.commitId } ∧ current.headCommitId ∈ row.parentIdsJson ∧
    ∀ r, r ∈ db'.commits.rows ↔ r ∈ db.commits.rows ∨ r = row := by
  obtain ⟨current, branch, row, inserted, hcurrent, hid, hinsert, hparent, hcommits, hbranches⟩ := h
  obtain ⟨commits, hinserted, rfl⟩ := insertCommit_ok hinsert
  have hfound : branch? ({ db with commits } : SceneStore) key = some current := hcurrent
  have hsame : branch? db' key = branch? (setHead { db with commits } branch row.commitId) key := by
    simp only [branch?, hbranches]
  refine ⟨current, row, hcurrent, ?_, hparent, ?_⟩
  · rw [hsame, branch?_setHead, hfound, Option.map_some, if_pos hid]
  · intro r
    rw [hcommits, (Table.insert?_eq_some hinserted).2, List.mem_append, List.mem_singleton]

/-- What was reached from the old head is reached from the new one. -/
theorem ancestor_of_extended {current : SceneBranchRow} {row : SceneCommitRow}
    (hmem : ∀ r, r ∈ db'.commits.rows ↔ r ∈ db.commits.rows ∨ r = row) (hparent : current.headCommitId ∈ row.parentIdsJson)
    (hreached : ∀ r ∈ onBranch db key, Ancestor db current.headCommitId r.commitId) :
    ∀ r ∈ onBranch db' key, Ancestor db' row.commitId r.commitId := by
  intro r hr
  obtain ⟨hr, hrkey⟩ := List.mem_filter.mp hr
  rcases (hmem r).mp hr with hr | rfl
  · have hstep : Parent db' row.commitId current.headCommitId := ⟨row, (hmem row).mpr (.inr rfl), rfl, hparent⟩
    exact .head hstep ((hreached r (List.mem_filter.mpr ⟨hr, hrkey⟩)).mono fun r hr => (hmem r).mpr (.inl hr))
  · exact .refl

theorem Extended.linear (h : Extended key db db') (hlinear : Linear db key) : Linear db' key := by
  obtain ⟨current, row, hcurrent, hbranch, hparent, hmem⟩ := h.spec
  obtain ⟨⟨head, hhead, hreached⟩, hchain⟩ := hlinear
  rw [hcurrent, Option.some.injEq] at hhead
  subst hhead
  have hold : ∀ a b, Ancestor db a b → Ancestor db' a b := fun a b => Ancestor.mono fun r hr => (hmem r).mpr (.inl hr)
  have hnew : ∀ r ∈ onBranch db' key, Ancestor db' row.commitId r.commitId := ancestor_of_extended hmem hparent hreached
  refine ⟨⟨_, hbranch, hnew⟩, ?_⟩
  intro a ha b hb
  obtain ⟨ha', hakey⟩ := List.mem_filter.mp ha
  obtain ⟨hb', hbkey⟩ := List.mem_filter.mp hb
  rcases (hmem a).mp ha' with haold | rfl
  · rcases (hmem b).mp hb' with hbold | rfl
    · exact (hchain a (List.mem_filter.mpr ⟨haold, hakey⟩) b (List.mem_filter.mpr ⟨hbold, hbkey⟩)).imp
        (hold _ _) (hold _ _)
    · exact .inr (hnew a ha)
  · exact .inl (hnew b hb)

/-- The branch is still found at the same row. -/
theorem Extended.branchId (h : Extended key db db') {current : SceneBranchRow} (hcurrent : branch? db key = some current) :
    ∃ current', branch? db' key = some current' ∧ current'.branchId = current.branchId := by
  obtain ⟨found, row, hfound, hbranch, _⟩ := h.spec
  rw [hcurrent, Option.some.injEq] at hfound
  subst hfound
  exact ⟨_, hbranch, rfl⟩

end Extended

end History

section Steps
variable {svc : AuditService} {who : Nat} {stamp : CommitStamp} {s s' : SceneShared} {call call' : SceneCall}

/-- What a step can do. -/
inductive SceneStep (svc : AuditService) (who : Nat) (stamp : CommitStamp) (s : SceneShared) :
    SceneCall → SceneShared → SceneCall → Prop
  | stop (call : SceneCall) : (∀ req p, call ≠ .holding req p) → SceneStep svc who stamp s call s .finished
  | check (req : CommitRequest) : SceneStep svc who stamp s (.waiting (.commit req)) s (.checked req)
  | lock (req : CommitRequest) (p : PreparedCommit) : s.lock = none → commitLocked s.db stamp req = .ok p →
      SceneStep svc who stamp s (.checked req) { s with lock := some who } (.holding req p)
  | write (req : CommitRequest) (p : PreparedCommit) (db : SceneStore) : commitWrite svc s.db stamp req p = .ok db →
      SceneStep svc who stamp s (.holding req p) ⟨db, none⟩ .finished
  | abandon (req : CommitRequest) (p : PreparedCommit) :
      SceneStep svc who stamp s (.holding req p) ⟨s.db, none⟩ .finished
  | look (req : RollbackRequest) (target : SceneCommitRow) (branch : SceneBranchRow) :
      rollbackRead s.db req = .ok (target, branch) →
      SceneStep svc who stamp s (.waiting (.rollback req)) s (.read req target branch)
  | overwrite (req : RollbackRequest) (target : SceneCommitRow) (branch : SceneBranchRow) (db : SceneStore) :
      s.lock = none → rollbackWrite s.db stamp req target branch = .ok db →
      SceneStep svc who stamp s (.read req target branch) { s with db } .finished

theorem step_of_next (h : next svc who stamp s call = some (s', call')) : SceneStep svc who stamp s call s' call' := by
  match call with
  | .finished => cases h
  | .waiting (.commit req) =>
    simp only [next] at h
    split at h
    · cases h
      exact .check req
    · cases h
      exact .stop _ (by simp)
  | .checked req =>
    simp only [next] at h
    split at h
    · rename_i hfree
      split at h
      · rename_i p hp
        cases h
        exact .lock req p hfree hp
      · cases h
        exact .stop _ (by simp)
    · cases h
  | .holding req p =>
    simp only [next] at h
    split at h
    · rename_i db hdb
      cases h
      exact .write req p db hdb
    · cases h
      exact .abandon req p
  | .waiting (.rollback req) =>
    simp only [next] at h
    split at h
    · rename_i target branch hread
      cases h
      exact .look req target branch hread
    · cases h
      exact .stop _ (by simp)
  | .read req target branch =>
    simp only [next] at h
    split at h
    · rename_i hfree
      split at h
      · rename_i db hdb
        cases h
        exact .overwrite req target branch db hfree hdb
      · cases h
        exact .stop _ (by simp)
    · cases h

end Steps

section Invariant
variable {svc : AuditService} {key : BranchKey}

/-- What each request knows about the shared state: a commit that holds the lock sees the head it will
name as parent, a rollback only knows which row it has read. -/
def View (key : BranchKey) (i : Nat) (s : SceneShared) : SceneCall → Prop
  | .waiting request => request.key = key
  | .checked req => req.toBranchKey = key
  | .holding _ p => s.lock = some i ∧ branch? s.db key = some p.branch ∧
      p.row.parentIdsJson = [p.branch.headCommitId]
  | .read req _ branch => req.toBranchKey = key ∧
      ∃ current, branch? s.db key = some current ∧ current.branchId = branch.branchId
  | .finished => True

/-- A rollback that is about to write finds the head it has read. -/
def HeadUnmoved (key : BranchKey) (p : ScenePool) (m : Move CommitStamp) : Prop :=
  ∀ req target branch, p.call m.who = .read req target branch →
    (branch? p.shared.db key).map SceneBranchRow.headCommitId = some branch.headCommitId

theorem rollbackWrite_ok {db db' : SceneStore} {stamp : CommitStamp} {req : RollbackRequest} {target : SceneCommitRow}
    {branch : SceneBranchRow} (h : rollbackWrite db stamp req target branch = .ok db') :
    ∃ inserted, insertCommit db (rollbackRow stamp req target branch) = .ok inserted ∧
      db' = setHead inserted branch stamp.commitId := by
  simp only [rollbackWrite, bind_eq_ok] at h
  obtain ⟨inserted, hinsert, h⟩ := h
  cases h
  exact ⟨inserted, hinsert, rfl⟩

theorem branch?_insertCommit {db db' : SceneStore} {row : SceneCommitRow} (h : insertCommit db row = .ok db') :
    branch? db' key = branch? db key := by
  obtain ⟨commits, _, rfl⟩ := insertCommit_ok h
  rfl

variable {who : Nat} {stamp : CommitStamp} {s s' : SceneShared} {call call' : SceneCall}

/-- A step leaves the database alone or extends the branch. -/
theorem step_extends (hstep : SceneStep svc who stamp s call s' call') (hJ : View key who s call)
    (hunmoved : ∀ req target branch, call = .read req target branch →
      (branch? s.db key).map SceneBranchRow.headCommitId = some branch.headCommitId) :
    s'.db = s.db ∨ Extended key s.db s'.db := by
  cases hstep with
  | stop | check | lock | abandon | look => exact .inl rfl
  | write req p db hwrite =>
    obtain ⟨_, hbranch, hparent⟩ := hJ
    obtain ⟨inserted, hinsert, hcommits, hbranches⟩ := commitWrite_ok hwrite
    exact .inr ⟨p.branch, p.branch, p.row, inserted, hbranch, rfl, hinsert, by simp [hparent], hcommits, hbranches⟩
  | overwrite req target branch db hfree hwrite =>
    obtain ⟨_, current, hcurrent, hid⟩ := hJ
    have hhead := hunmoved req target branch rfl
    rw [hcurrent, Option.map_some, Option.some.injEq] at hhead
    obtain ⟨inserted, hinsert, rfl⟩ := rollbackWrite_ok hwrite
    exact .inr ⟨current, branch, _, inserted, hcurrent, hid, hinsert, by simp [rollbackRow, hhead], rfl, rfl⟩

/-- While another call holds the lock, nobody writes. -/
theorem step_of_locked (hstep : SceneStep svc who stamp s call s' call') (hJ : View key who s call) {j : Nat}
    (hj : j ≠ who) (hlock : s.lock = some j) : s' = s := by
  cases hstep with
  | stop | check | look => rfl
  | lock req p hfree =>
    rw [hlock] at hfree
    cases hfree
  | write | abandon =>
    have hown : some j = some who := hlock.symm.trans hJ.1
    exact absurd (Option.some.inj hown) hj
  | overwrite req target branch db hfree =>
    rw [hlock] at hfree
    cases hfree

/-- What the moving call knows after its step. -/
theorem step_own (hstep : SceneStep svc who stamp s call s' call') (hJ : View key who s call) : View key who s' call' := by
  cases hstep with
  | stop | write | abandon | overwrite => trivial
  | check req => exact hJ
  | lock req p hfree hp =>
    obtain ⟨hbranch, hhead, hrow⟩ := commitLocked_ok hp
    have hkey : req.toBranchKey = key := hJ
    refine ⟨rfl, hkey ▸ hbranch, ?_⟩
    rw [hrow, hhead]
    rfl
  | look req target branch hread =>
    have hkey : req.toBranchKey = key := hJ
    simp only [rollbackRead, bind_eq_ok, orRaise_eq_ok] at hread
    obtain ⟨_, _, found, hfound, _, _, hread⟩ := hread
    cases hread
    exact ⟨hkey, branch, hkey ▸ hfound, rfl⟩

/-- A step leaves the other calls what they know. -/
theorem step_frame (hstep : SceneStep svc who stamp s call s' call') (hJ : View key who s call)
    (hdb : s'.db = s.db ∨ Extended key s.db s'.db) {j : Nat} (hj : j ≠ who) {other : SceneCall}
    (hother : View key j s other) : View key j s' other := by
  cases other with
  | waiting | checked | finished => exact hother
  | holding req p =>
    rw [step_of_locked hstep hJ hj hother.1]
    exact hother
  | read req target branch =>
    obtain ⟨hkey, current, hcurrent, hid⟩ := hother
    rcases hdb with hsame | hextended
    · exact ⟨hkey, current, hsame ▸ hcurrent, hid⟩
    · obtain ⟨current', hcurrent', hid'⟩ := hextended.branchId hcurrent
      exact ⟨hkey, current', hcurrent', hid'.trans hid⟩

/-- Any number of commits and rollbacks on one branch, in any interleaving in which every rollback that
writes finds the head it has read: in every state reached the branch is one line of history. -/
theorem branch_linear_along (svc : AuditService) (key : BranchKey) (db : SceneStore) (request : Nat → SceneRequest)
    (hkey : ∀ i, (request i).key = key) (hlinear : Linear db key) (moves : List (Move CommitStamp))
    (hunmoved : Along (Pool.step (next svc)) (HeadUnmoved key) (arrived db request) moves)
    (past : List (Move CommitStamp)) (hpast : past <+: moves) :
    Linear (run (Pool.step (next svc)) (arrived db request) past).shared.db key := by
  have hstart : Pool.Holds (fun s : SceneShared => Linear s.db key) (View key) (arrived db request) := ⟨hlinear, hkey⟩
  apply (Pool.invariant_along _ _ hstart (hunmoved.of_prefix hpast)).1
  · intro p m s l hP hp hnext
    have hstep := step_of_next hnext
    refine ⟨?_, step_own hstep (hp.2 m.who)⟩
    rcases step_extends hstep (hp.2 m.who) hP with hsame | hextended
    · rw [hsame]
      exact hp.1
    · exact hextended.linear hp.1
  · intro p m s l j hP hp hnext hj
    have hstep := step_of_next hnext
    exact step_frame hstep (hp.2 m.who) (step_extends hstep (hp.2 m.who) hP) hj (hp.2 j)

end Invariant

section LostCommit

/-- A rollback and a commit that both start from the initial commit. -/
def rivals : Nat → SceneRequest
  | 0 => .rollback rollbackToInitial
  | _ => .commit (commitOnto "c0")

/-- The rollback reads, the commit runs to its end, the rollback writes. -/
def lostCommit : List (Move CommitStamp) :=
  [⟨0, stampOf "r1"⟩, ⟨1, stampOf "c1"⟩, ⟨1, stampOf "c1"⟩, ⟨1, stampOf "c1"⟩, ⟨0, stampOf "r1"⟩]

/-- The rollback reads and writes without another request in between. -/
def rollbackAlone : List (Move CommitStamp) := [⟨0, stampOf "r1"⟩, ⟨0, stampOf "r1"⟩]

theorem linear_newScene : Linear (newScene .empty) mainBranch := by
  have hon : onBranch (newScene .empty) mainBranch = [initialCommit] := rfl
  refine ⟨⟨mainRow, rfl, ?_⟩, ?_⟩
  · rw [hon]
    intro row hrow
    rw [List.mem_singleton.mp hrow]
    exact .refl
  · rw [hon]
    intro a ha b hb
    rw [List.mem_singleton.mp ha, List.mem_singleton.mp hb]
    exact .inl .refl

/-- The database after the commit, with the initial commit as its parent. -/
theorem commit_newScene : ∃ db, commitWrite .zeroKey (newScene .empty) (stampOf "c1") (commitOnto "c0")
      ⟨mainRow, commitRow (newScene .empty) (stampOf "c1") (commitOnto "c0")⟩ = .ok db ∧
    db.commits.rows = [initialCommit, commitRow (newScene .empty) (stampOf "c1") (commitOnto "c0")] ∧
    branch? db mainBranch = some { mainRow with headCommitId := "c1" } := by
  obtain ⟨db, hdb⟩ := @commitWrite_plain .zeroKey (newScene .empty) (stampOf "c1") mainBranch mainRow "m" "ana" rfl rfl
    (by decide) (by decide)
  obtain ⟨inserted, hinsert, hcommits, hbranches⟩ := commitWrite_ok hdb
  obtain ⟨commits, hrows, rfl⟩ := insertCommit_ok hinsert
  refine ⟨db, hdb, ?_, ?_⟩
  · rw [hcommits, (Table.insert?_eq_some hrows).2]
    rfl
  · have hsame : branch? db mainBranch = branch? (setHead { newScene .empty with commits } mainRow "c1") mainBranch := by
      unfold branch?
      rw [hbranches]
      rfl
    rw [hsame, branch?_setHead]
    rfl

/-- The rows after both requests: neither of the two new commits is an ancestor of the other. -/
theorem not_linear_of_fork {db : SceneStore}
    (hrows : db.commits.rows = [initialCommit, commitRow (newScene .empty) (stampOf "c1") (commitOnto "c0"),
      rollbackRow (stampOf "r1") rollbackToInitial initialCommit mainRow])
    (hbranch : branch? db mainBranch = some { mainRow with headCommitId := "r1" }) : ¬ Linear db mainBranch := by
  intro hlinear
  obtain ⟨⟨branch, hfound, hreached⟩, _⟩ := hlinear
  rw [hbranch, Option.some.injEq] at hfound
  subst hfound
  have hlost := hreached (commitRow (newScene .empty) (stampOf "c1") (commitOnto "c0")) (by
    rw [onBranch, hrows]
    exact List.mem_filter.mpr ⟨by simp, by decide⟩)
  have hclosed : ∀ c, Ancestor db "r1" c → c = "r1" ∨ c = "c0" := by
    intro c hc
    induction hc with
    | refl => exact .inl rfl
    | tail _ hparent ih =>
      obtain ⟨row, hrow, hchild, hmem⟩ := hparent
      rw [hrows] at hrow
      simp only [List.mem_cons, List.not_mem_nil, or_false] at hrow
      rcases hrow with rfl | rfl | rfl
      · cases hmem
      · exact .inr (List.mem_singleton.mp hmem)
      · exact .inr (List.mem_singleton.mp hmem)
  rcases hclosed _ hlost with h | h <;> exact absurd h (by decide)

/-- The commit is recorded and then lost: the rollback moves the head to a commit beside it. -/
theorem rollback_loses_commit :
    ¬ Linear (run (Pool.step (next .zeroKey)) (arrived (newScene .empty) rivals) lostCommit).shared.db mainBranch := by
  obtain ⟨db, hwrite, hrows, hbranch⟩ := commit_newScene
  have hfresh : db.commits.get? "r1" = none := by
    rw [Table.get?_eq_none_iff, hrows]
    decide
  obtain ⟨inserted, hinsert⟩ := @insertCommit_total db
    (rollbackRow (stampOf "r1") rollbackToInitial initialCommit mainRow) hfresh rfl
  have hoverwrite : rollbackWrite db (stampOf "r1") rollbackToInitial initialCommit mainRow =
      .ok (setHead inserted mainRow "r1") := by
    simp only [rollbackWrite, hinsert]
    rfl
  have hrun : (run (Pool.step (next .zeroKey)) (arrived (newScene .empty) rivals) lostCommit).shared.db =
      setHead inserted mainRow "r1" := by
    have hread : next .zeroKey 0 (stampOf "r1") ⟨newScene .empty, none⟩ (.waiting (rivals 0)) =
        some (⟨newScene .empty, none⟩, .read rollbackToInitial initialCommit mainRow) := rfl
    have hcheck : next .zeroKey 1 (stampOf "c1") ⟨newScene .empty, none⟩ (.waiting (rivals 1)) =
        some (⟨newScene .empty, none⟩, .checked (commitOnto "c0")) := rfl
    have hlock : next .zeroKey 1 (stampOf "c1") ⟨newScene .empty, none⟩ (.checked (commitOnto "c0")) =
        some (⟨newScene .empty, some 1⟩, .holding (commitOnto "c0")
          ⟨mainRow, commitRow (newScene .empty) (stampOf "c1") (commitOnto "c0")⟩) := by
      have hlocked : commitLocked (newScene .empty) (stampOf "c1") (commitOnto "c0") =
          .ok ⟨mainRow, commitRow (newScene .empty) (stampOf "c1") (commitOnto "c0")⟩ :=
        @commitLocked_plain (newScene .empty) (stampOf "c1") mainBranch mainRow "m" "ana" rfl
      simp only [next, hlocked, if_pos]
    have hend : next .zeroKey 1 (stampOf "c1") ⟨newScene .empty, some 1⟩ (.holding (commitOnto "c0")
        ⟨mainRow, commitRow (newScene .empty) (stampOf "c1") (commitOnto "c0")⟩) = some (⟨db, none⟩, .finished) := by
      simp only [next, hwrite]
    have hlast : next .zeroKey 0 (stampOf "r1") ⟨db, none⟩ (.read rollbackToInitial initialCommit mainRow) =
        some (⟨setHead inserted mainRow "r1", none⟩, .finished) := by
      simp only [next, hoverwrite, if_pos]
    let calls₀ : Nat → SceneCall := fun i => .waiting (rivals i)
    let calls₁ := Function.update calls₀ 0 (.read rollbackToInitial initialCommit mainRow)
    let calls₂ := Function.update calls₁ 1 (.checked (commitOnto "c0"))
    let calls₃ := Function.update calls₂ 1 (.holding (commitOnto "c0")
      ⟨mainRow, commitRow (newScene .empty) (stampOf "c1") (commitOnto "c0")⟩)
    let calls₄ := Function.update calls₃ 1 .finished
    have h₁ : Pool.step (next .zeroKey) ⟨⟨newScene .empty, none⟩, calls₀⟩ ⟨0, stampOf "r1"⟩ =
      ⟨⟨newScene .empty, none⟩, calls₁⟩ := Pool.step_of_some hread
    have h₂ : Pool.step (next .zeroKey) ⟨⟨newScene .empty, none⟩, calls₁⟩ ⟨1, stampOf "c1"⟩ =
      ⟨⟨newScene .empty, none⟩, calls₂⟩ := Pool.step_of_some hcheck
    have h₃ : Pool.step (next .zeroKey) ⟨⟨newScene .empty, none⟩, calls₂⟩ ⟨1, stampOf "c1"⟩ =
      ⟨⟨newScene .empty, some 1⟩, calls₃⟩ := Pool.step_of_some hlock
    have h₄ : Pool.step (next .zeroKey) ⟨⟨newScene .empty, some 1⟩, calls₃⟩ ⟨1, stampOf "c1"⟩ =
      ⟨⟨db, none⟩, calls₄⟩ := Pool.step_of_some hend
    have h₅ : Pool.step (next .zeroKey) ⟨⟨db, none⟩, calls₄⟩ ⟨0, stampOf "r1"⟩ =
      ⟨⟨setHead inserted mainRow "r1", none⟩, Function.update calls₄ 0 .finished⟩ := Pool.step_of_some hlast
    have hstart : arrived (newScene .empty) rivals = ⟨⟨newScene .empty, none⟩, calls₀⟩ := rfl
    rw [lostCommit, hstart, run_cons, h₁, run_cons, h₂, run_cons, h₃, run_cons, h₄, run_cons, h₅, run_nil]
  rw [hrun]
  apply not_linear_of_fork
  · obtain ⟨commits, hcommits, rfl⟩ := insertCommit_ok hinsert
    simp [setHead, (Table.insert?_eq_some hcommits).2, hrows]
  · rw [branch?_setHead, branch?_insertCommit hinsert, hbranch]
    rfl

theorem branch_linear_rollbackAlone :
    Along (Pool.step (next .zeroKey)) (HeadUnmoved mainBranch) (arrived (newScene .empty) rivals) rollbackAlone ∧
    Linear (run (Pool.step (next .zeroKey)) (arrived (newScene .empty) rivals) rollbackAlone).shared.db mainBranch := by
  have hread : next .zeroKey 0 (stampOf "r1") ⟨newScene .empty, none⟩ (.waiting (rivals 0)) =
      some (⟨newScene .empty, none⟩, .read rollbackToInitial initialCommit mainRow) := rfl
  have hfirst : Pool.step (next .zeroKey) (arrived (newScene .empty) rivals) ⟨0, stampOf "r1"⟩ =
      ⟨⟨newScene .empty, none⟩, Function.update (fun i => .waiting (rivals i)) 0
        (.read rollbackToInitial initialCommit mainRow)⟩ := Pool.step_of_some hread
  have halong : Along (Pool.step (next .zeroKey)) (HeadUnmoved mainBranch) (arrived (newScene .empty) rivals)
      rollbackAlone := by
    refine ⟨?_, ?_, trivial⟩
    · intro req target branch hcall
      cases hcall
    rw [hfirst]
    intro req target branch hcall
    cases hcall
    rfl
  have hkey : ∀ i, (rivals i).key = mainBranch := by
    intro i
    cases i <;> rfl
  exact ⟨halong, branch_linear_along .zeroKey mainBranch (newScene .empty) rivals hkey linear_newScene rollbackAlone halong
    rollbackAlone (List.prefix_refl _)⟩

end LostCommit

end SceneService
end Sip
