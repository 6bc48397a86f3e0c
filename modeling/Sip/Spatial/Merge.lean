import Sip.PyEquality
import Sip.Scene.Service

/-!
# Three-way merges of scene branches

`_semantic_merge` merges two snapshots against a common base, entity by entity and
then top-level key by top-level key. `merge_branches` reads both branch heads,
decides whether the conflicts need a review, and publishes a commit with both heads
as parents. It takes no lock, so reading and writing are separate steps.
-/

namespace Sip

set_option autoImplicit false

/-- `str(value)`, which leaves a text as it is. -/
structure PyText where
  str : Json → String
  str_text : ∀ s, str (.str s) = s

theorem str_text_getD (s : String) : (Json.str s).text?.getD "" = s := rfl

structure MergeConflict where
  entityId : String
  categories : List String
  leftHash : String
  rightHash : String
  baseHash : String

structure MergeRequest where
  tenantId : String
  projectId : String
  sceneId : String
  targetBranch : String
  sourceBranch : String
  baseCommitId : String
  actorId : String
  message : String
  approvedReviewCategories : Option (List String) := none

namespace SpatialDataService

def protectedMergeKeys : List String := [
  "authority_class", "source_class", "measurement", "measurements", "consent", "policy", "safety", "code_compliance",
  "verification"]

section SemanticMerge

def addEntity (py : PyText) (entities : Dict) (item : Json) : Dict :=
  match item with
  | .obj fields => match Dict.get fields "entity_id" with
    | .null => entities
    | id => entities.set (py.str id) item
  | _ => entities

/-- The entities of a snapshot by identifier, and whether the snapshot keeps them as a dictionary. -/
def entityMap (py : PyText) (snapshot : Dict) : Except Raised (Dict × Bool) :=
  match (snapshot.lookup "entities").getD (.arr []) with
  | .obj fields => .ok (fields, true)
  | raw => do
    let items ← raw.iterate
    return (items.foldl (addEntity py) [], false)

/-- The three-way rule: the value that is taken, and whether the sides conflict. -/
def mergeValue (prior left right : Json) : Json × Bool :=
  if left.pyEq right then (left, false)
  else if left.pyEq prior then (right, false)
  else if right.pyEq prior then (left, false)
  else (left, true)

def changedKeys (value : Json) : List String :=
  match value with
  | .obj fields => fields.map Prod.fst ++ match Dict.get fields "attributes" with
    | .obj attributes => attributes.map Prod.fst
    | _ => []
  | _ => []

def entityCategories (left right : Json) : List String :=
  let categories := sortedSet id ((changedKeys left ++ changedKeys right).filter (· ∈ protectedMergeKeys))
  if categories = [] then ["semantic_conflict"] else categories

def topLevelCategories (key : String) : List String :=
  [if key = "representations" then "representation_binding" else "semantic_conflict"]

/-- The keys on which any of the three sides has a value. -/
def mergeKeys (base left right : Dict) : List String :=
  sortedSet id (base.map Prod.fst ++ left.map Prod.fst ++ right.map Prod.fst)

def conflictOf (entityId : String) (categories : List String) (prior left right : Json) : MergeConflict :=
  ⟨entityId, categories, canonicalSha256 left, canonicalSha256 right, canonicalSha256 prior⟩

/-- The merged entities in the order of their identifiers; an entity that is gone on the side that is taken is left out. -/
def mergeEntities (base left right : Dict) : Dict :=
  (mergeKeys base left right).filterMap fun key => match (mergeValue (base.get key) (left.get key) (right.get key)).1 with
    | .null => none
    | value => some (key, value)

def entityConflicts (base left right : Dict) : List MergeConflict :=
  (mergeKeys base left right).filterMap fun key =>
    if (mergeValue (base.get key) (left.get key) (right.get key)).2 then
      some (conflictOf key (entityCategories (left.get key) (right.get key)) (base.get key) (left.get key) (right.get key))
    else none

/-- The keys besides the entities. -/
def topLevelKeys (base left right : Dict) : List String :=
  (mergeKeys base left right).filter (· ≠ "entities")

/-- Every key that a side has is written, also when the side that is taken does not have it. -/
def mergeTopLevel (base left right merged : Dict) : Dict :=
  (topLevelKeys base left right).foldl (fun merged key =>
    merged.set key (mergeValue (base.get key) (left.get key) (right.get key)).1) merged

def topLevelConflicts (base left right : Dict) : List MergeConflict :=
  (topLevelKeys base left right).filterMap fun key =>
    if (mergeValue (base.get key) (left.get key) (right.get key)).2 then
      some (conflictOf ("scene:" ++ key) (topLevelCategories key) (base.get key) (left.get key) (right.get key))
    else none

def semanticMerge (py : PyText) (base left right : Dict) : Except Raised (Dict × List MergeConflict) := do
  let (baseEntities, dictStyle) ← entityMap py base
  let (leftEntities, _) ← entityMap py left
  let (rightEntities, _) ← entityMap py right
  let mergedEntities := mergeEntities baseEntities leftEntities rightEntities
  let entities := if dictStyle then Json.obj mergedEntities else .arr (mergedEntities.map Prod.snd)
  return (mergeTopLevel base left right (base.set "entities" entities),
    entityConflicts baseEntities leftEntities rightEntities ++ topLevelConflicts base left right)

end SemanticMerge

section History
open SceneService

/-- Parents that are still to be read, over the commits that have not been visited. -/
def unread (rows : List SceneCommitRow) (visited : List String) : Nat :=
  ((rows.filter fun row => row.commitId ∉ visited).map fun row => row.parentIdsJson.length).sum

theorem unread_cons_le (rows : List SceneCommitRow) (visited : List String) (current : String) :
    unread rows (current :: visited) ≤ unread rows visited := by
  induction rows with
  | nil => exact Nat.le_refl _
  | cons row rows ih =>
    simp only [unread, List.filter_cons] at ih ⊢
    split <;> split
    · simpa using ih
    · rename_i h₁ h₂
      simp only [List.mem_cons, not_or, decide_eq_true_eq] at h₁ h₂
      exact absurd h₁.2 h₂
    · simp only [List.map_cons, List.sum_cons]
      omega
    · exact ih

theorem unread_visit {rows : List SceneCommitRow} {visited : List String} {row : SceneCommitRow} (hrow : row ∈ rows)
    (hnew : row.commitId ∉ visited) :
    unread rows (row.commitId :: visited) + row.parentIdsJson.length ≤ unread rows visited := by
  induction rows with
  | nil => cases hrow
  | cons other rows ih =>
    rcases List.mem_cons.mp hrow with rfl | hrow
    · have hrest := unread_cons_le rows visited row.commitId
      simp only [unread, List.filter_cons] at hrest ⊢
      simp only [List.mem_cons, true_or, not_true_eq_false, decide_false, Bool.false_eq_true, if_false, hnew,
        not_false_eq_true, decide_true, if_true, List.map_cons, List.sum_cons] at hrest ⊢
      omega
    · have hrest := ih hrow
      simp only [unread, List.filter_cons] at hrest ⊢
      split <;> split
      · simp only [List.map_cons, List.sum_cons]
        omega
      · rename_i h₁ h₂
        simp only [List.mem_cons, not_or, decide_eq_true_eq] at h₁ h₂
        exact absurd h₁.2 h₂
      · simp only [List.map_cons, List.sum_cons]
        omega
      · exact hrest

/-- The commit and everything reachable from it; the pending commits are a stack. -/
def ancestorIds (db : SceneStore) (visited pending : List String) : Except Raised (List String) :=
  match pending with
  | [] => .ok visited
  | current :: rest =>
    if _hnew : current ∈ visited then ancestorIds db visited rest
    else match _hrow : db.commits.get? current with
      | none => .error (validationError "SCENE_COMMIT_GRAPH_INVALID" "scene history contains a missing parent"
          [("commit_id", .str current)])
      | some row => ancestorIds db (current :: visited)
          ((row.parentIdsJson.filter (· ∉ current :: visited)).reverse ++ rest)
termination_by pending.length + unread db.commits.rows visited
decreasing_by
  · simp
  · obtain ⟨hmem, hid⟩ := (Table.get?_eq_some_iff _ _ _).mp _hrow
    subst hid
    have hvisit := unread_visit hmem _hnew
    have hfilter := List.length_filter_le (fun id => decide (id ∉ row.commitId :: visited)) row.parentIdsJson
    simp only [List.length_append, List.length_reverse, List.length_cons]
    omega

end History

section Merge
open SceneService

/-- What a merge reads. -/
structure MergeInputs where
  target : SceneBranchRow
  base : SceneCommitRow
  left : SceneCommitRow
  right : SceneCommitRow

def outsideScope (req : MergeRequest) (commit : SceneCommitRow) : Prop :=
  commit.tenantId ≠ req.tenantId ∨ commit.projectId ≠ req.projectId ∨ commit.sceneId ≠ req.sceneId

instance (req : MergeRequest) (commit : SceneCommitRow) : Decidable (outsideScope req commit) :=
  inferInstanceAs (Decidable (_ ∨ _ ∨ _))

def MergeRequest.target (req : MergeRequest) : BranchKey := ⟨req.tenantId, req.projectId, req.sceneId, req.targetBranch⟩

def MergeRequest.source (req : MergeRequest) : BranchKey := ⟨req.tenantId, req.projectId, req.sceneId, req.sourceBranch⟩

def scopeInvalid : Raised :=
  validationError "SCENE_MERGE_SCOPE_INVALID" "merge commits are outside the requested tenant, project, or scene"

def mergeInput (req : MergeRequest) {α : Type} (row : Option α) : Except Raised α :=
  orRaise row (notFoundError "scene_merge_input"
    (req.targetBranch ++ ":" ++ req.sourceBranch ++ ":" ++ req.baseCommitId))

def mergeTarget (db : SceneStore) (req : MergeRequest) : Except Raised SceneBranchRow :=
  mergeInput req (branch? db (MergeRequest.target req))

def mergeSource (db : SceneStore) (req : MergeRequest) : Except Raised SceneBranchRow :=
  mergeInput req (branch? db (MergeRequest.source req))

/-- The base and the heads of the branch rows, and that the base is an ancestor of both heads. -/
def mergeLoad (db : SceneStore) (req : MergeRequest) (target source : SceneBranchRow) : Except Raised MergeInputs := do
  let base ← mergeInput req (db.commits.get? req.baseCommitId)
  let left ← orRaise (db.commits.get? target.headCommitId) scopeInvalid
  let right ← orRaise (db.commits.get? source.headCommitId) scopeInvalid
  raiseIf (outsideScope req base ∨ outsideScope req left ∨ outsideScope req right) scopeInvalid
  let baseInvalid := validationError "SCENE_MERGE_BASE_INVALID" "merge base must be an ancestor of both branch heads"
  let leftAncestors ← ancestorIds db [] [left.commitId]
  raiseIf (req.baseCommitId ∉ leftAncestors) baseInvalid
  let rightAncestors ← ancestorIds db [] [right.commitId]
  raiseIf (req.baseCommitId ∉ rightAncestors) baseInvalid
  return ⟨target, base, left, right⟩

def mergeRead (db : SceneStore) (req : MergeRequest) : Except Raised MergeInputs := do
  let target ← mergeTarget db req
  let source ← mergeSource db req
  mergeLoad db req target source

/-- The categories that have to be approved before a merge with these conflicts is published. -/
def requiredReviewCategories (conflicts : List MergeConflict) : List String :=
  let found := sortedSet id ((conflicts.flatMap MergeConflict.categories).filter (· ∈ protectedMergeKeys))
  if found ≠ [] then found else if conflicts ≠ [] then ["semantic_conflict"] else []

inductive MergeDecision where
  | review (conflicts : List MergeConflict) (required unapproved : List String)
  | publish (conflicts : List MergeConflict) (snapshot : Dict)

def approved (req : MergeRequest) : List String := req.approvedReviewCategories.getD []

/-- Whether a review is missing, and otherwise the snapshot: that of the target if there were conflicts. -/
def mergeDecide (py : PyText) (req : MergeRequest) (inputs : MergeInputs) : Except Raised MergeDecision := do
  let (merged, conflicts) ← semanticMerge py inputs.base.semanticSnapshotJson inputs.left.semanticSnapshotJson
    inputs.right.semanticSnapshotJson
  let required := requiredReviewCategories conflicts
  let unapproved := sortedSet id (required.filter (· ∉ approved req))
  if conflicts ≠ [] ∧ unapproved ≠ [] then return .review conflicts required unapproved
  else return .publish conflicts (if conflicts ≠ [] then inputs.left.semanticSnapshotJson else merged)

def mergeRow (stamp : CommitStamp) (req : MergeRequest) (inputs : MergeInputs) (conflicts : List MergeConflict)
    (snapshot : Dict) : SceneCommitRow where
  commitId := stamp.commitId
  tenantId := req.tenantId
  projectId := req.projectId
  sceneId := req.sceneId
  branch := req.targetBranch
  parentIdsJson := [inputs.left.commitId, inputs.right.commitId]
  message := req.message
  semanticSnapshotJson := snapshot
  snapshotHash := canonicalSha256 (.obj snapshot)
  rootManifestHash := canonicalSha256 (.obj snapshot)
  policyChecksJson := [
    ("merge_base", .str req.baseCommitId), ("conflict_count", .int conflicts.length),
    ("approved_review_categories", .arr ((sortedSet id (approved req)).map .str)),
    ("automatic_conflict_resolution", .bool false)]
  reviewState := if conflicts ≠ [] then "approved" else "automatic_nonconflicting"
  recordedAt := stamp.now
  createdBy := req.actorId

def mergePayload (req : MergeRequest) (conflicts : List MergeConflict) (row : SceneCommitRow) : Dict := [
  ("scene_id", .str req.sceneId), ("commit_id", .str row.commitId), ("parent_ids", .arr (row.parentIdsJson.map .str)),
  ("snapshot_hash", .str row.snapshotHash), ("merge_base", .str req.baseCommitId),
  ("conflict_count", .int conflicts.length)]

def mergeEvent (req : MergeRequest) (conflicts : List MergeConflict) (row : SceneCommitRow) : EventRequest where
  eventType := "scene.committed"
  schemaVersion := "1.0.0"
  tenantId := req.tenantId
  projectId := req.projectId
  aggregateType := "scene_commit"
  aggregateId := row.commitId
  payload := mergePayload req conflicts row
  producer := "scene-service"
  actorId := some req.actorId
  workloadIdentity := none

def mergeAudit (req : MergeRequest) (conflicts : List MergeConflict) (row : SceneCommitRow) : AuditRequest where
  tenantId := req.tenantId
  projectId := some req.projectId
  actorId := req.actorId
  action := "scene:merge"
  resourceType := "scene_commit"
  resourceId := row.commitId
  outcome := "allowed"
  details := some (mergePayload req conflicts row)

/-- The end of the transaction: the merge commit, the head of the target, the event and the audit entry. -/
def mergeWrite (svc : AuditService) (db : SceneStore) (stamp : CommitStamp) (req : MergeRequest) (inputs : MergeInputs)
    (conflicts : List MergeConflict) (snapshot : Dict) : Except Raised SceneStore := do
  let row := mergeRow stamp req inputs conflicts snapshot
  let db := setHead (← insertCommit db row) inputs.target row.commitId
  let s ← db.emit stamp.toStamp (mergeEvent req conflicts row)
  let s ← s.record svc stamp.toStamp (mergeAudit req conflicts row)
  return { db with toStore := s }

inductive MergeOutcome where
  | reviewRequired (targetHead sourceHead : String) (conflicts : List MergeConflict) (required unapproved : List String)
  | merged (row : SceneCommitRow)

def mergeBranches (svc : AuditService) (py : PyText) (db : SceneStore) (stamp : CommitStamp) (req : MergeRequest) :
    Except Raised (MergeOutcome × SceneStore) := do
  let inputs ← mergeRead db req
  match ← mergeDecide py req inputs with
  | .review conflicts required unapproved =>
    return (.reviewRequired inputs.left.commitId inputs.right.commitId conflicts required unapproved, db)
  | .publish conflicts snapshot =>
    let db ← mergeWrite svc db stamp req inputs conflicts snapshot
    return (.merged (mergeRow stamp req inputs conflicts snapshot), db)

end Merge

end SpatialDataService

end Sip
