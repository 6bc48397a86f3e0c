import Mathlib.Data.List.MinMax
import Sip.Audit.Successive
import Sip.Foundation.PlainDigests
import Sip.Foundation.Runs
import Sip.Recovery.Database

/-!
# The retention inventory

An evaluation computes the present situation of every resource of a project: the rule
that applies, whether a hold is active, and when it may be deleted. The situation is
kept as an assignment under its content hash. A situation whose hash is known already
is taken as recorded, whatever has become of that record since.
-/

namespace Sip

set_option autoImplicit false

/-- A resource of a project, as the inventory lists it. -/
structure InventoryResource where
  resourceType : String
  resourceId : String
  retentionClass : String
  createdAt : Nat

def InventoryResource.key (r : InventoryResource) : String × String := (r.resourceType, r.resourceId)

/-- What an evaluation finds about a resource. -/
structure RetentionSituation where
  resourceType : String
  resourceId : String
  retentionClass : String
  policySource : String
  holdStatus : String
  eligibleAt : Nat
  eligible : Bool

abbrev AssignmentTable := Table RetentionAssignmentRow (fun row => row.retentionAssignmentId)

structure InventoryDraw where
  now : Nat
  stamp : Stamp
  newUuid : Nat → String

namespace Recovery

section Inventory
variable (db : RecoveryDb) (tenantId projectId : String)

def inventoryResources : List InventoryResource :=
  ((db.refs.rows.filter fun ref => ref.tenantId = tenantId ∧ ref.projectId = projectId).map fun ref =>
    ⟨"asset", ref.assetId, ref.retentionClass, ref.createdAt⟩) ++
  ((db.memories.rows.filter fun row => row.tenantId = tenantId ∧ row.projectId = projectId).map fun row =>
    ⟨"memory_record", row.recordId, "liveforever_record", row.createdAt⟩) ++
  ((db.commits.rows.filter fun row => row.tenantId = tenantId ∧ row.projectId = projectId).map fun row =>
    ⟨"scene_commit", row.commitId, "scene_history", row.createdAt⟩) ++
  ((db.exports.rows.filter fun row => row.tenantId = tenantId ∧ row.projectId = projectId).map fun row =>
    ⟨"export", row.exportId, "export", row.createdAt⟩)

/-- The active holds on a resource or on its project. -/
def resourceHolds (r : InventoryResource) : List LegalHoldRow := db.holds.rows.filter fun hold =>
  hold.tenantId = tenantId ∧ hold.projectId = projectId ∧ hold.state = .active ∧
    ((hold.resourceType = r.resourceType ∧ hold.resourceId = r.resourceId) ∨
      (hold.resourceType = "project" ∧ hold.resourceId = projectId))

/-- The rule of a scope with the highest version. -/
def latestRule (scope : Option String) (retentionClass : String) : Option RetentionRuleRow :=
  @List.argmax _ Int Int.instLinearOrder.toPreorder Int.decLt RetentionRuleRow.version
    (db.rules.rows.filter fun rule => rule.tenantId = tenantId ∧ rule.projectId = scope ∧
      rule.retentionClass = retentionClass ∧ rule.active = true)

/-- `_retention_rule`: a rule of the project before one of the tenant. -/
def retentionRule (retentionClass : String) : Option RetentionRuleRow :=
  latestRule db tenantId (some projectId) retentionClass <|> latestRule db tenantId none retentionClass

def situation (now : Nat) (r : InventoryResource) : Except Raised RetentionSituation := do
  let rule := retentionRule db tenantId projectId r.retentionClass
  let eligibleAt ← plusDays r.createdAt ((rule.map RetentionRuleRow.minimumDays).getD 0)
  let holds := resourceHolds db tenantId projectId r
  return {
    resourceType := r.resourceType, resourceId := r.resourceId, retentionClass := r.retentionClass,
    policySource := (rule.map RetentionRuleRow.policySource).getD "default:no-minimum-retention",
    holdStatus := if holds.isEmpty then "none" else "active", eligibleAt,
    eligible := holds.isEmpty && decide (eligibleAt ≤ now) }

end Inventory

section Assign
variable (tenantId projectId actorId : String)

def situationBody (s : RetentionSituation) : Dict := [
  ("tenant_id", .str tenantId), ("project_id", .str projectId), ("resource_type", .str s.resourceType),
  ("resource_id", .str s.resourceId), ("retention_class", .str s.retentionClass), ("policy_source", .str s.policySource),
  ("hold_status", .str s.holdStatus), ("deletion_eligible_at", .str (isoformat s.eligibleAt)),
  ("deletion_eligible", .bool s.eligible)]

def situationDigest (s : RetentionSituation) : String := canonicalSha256 (.obj (situationBody tenantId projectId s))

def newAssignment (assignmentId : String) (s : RetentionSituation) : RetentionAssignmentRow where
  retentionAssignmentId := assignmentId
  tenantId := tenantId
  projectId := projectId
  resourceType := s.resourceType
  resourceId := s.resourceId
  retentionClass := s.retentionClass
  policySource := s.policySource
  holdStatus := s.holdStatus
  deletionEligibleAt := s.eligibleAt
  deletionEligible := s.eligible
  assignmentHash := situationDigest tenantId projectId s
  evaluatedBy := actorId

/-- An active assignment of a resource. -/
def activeFor (resourceType resourceId : String) (row : RetentionAssignmentRow) : Bool :=
  row.tenantId = tenantId ∧ row.projectId = projectId ∧ row.resourceType = resourceType ∧
    row.resourceId = resourceId ∧ row.state = .active

/-- The assignments with those of one resource superseded. -/
def supersede (t : AssignmentTable) (resourceType resourceId : String) : AssignmentTable where
  rows := t.rows.map fun row =>
    if activeFor tenantId projectId resourceType resourceId row then { row with state := .superseded } else row
  nodup := by
    have hkey : ((fun row : RetentionAssignmentRow => row.retentionAssignmentId) ∘ fun row =>
        if activeFor tenantId projectId resourceType resourceId row then { row with state := .superseded } else row) =
          fun row => row.retentionAssignmentId := by
      funext row
      simp only [Function.comp_apply]
      split <;> rfl
    rw [List.map_map, hkey]
    exact t.nodup

/-- One round of the loop: the assignment of a situation. -/
def assign (t : AssignmentTable) (assignmentId : String) (s : RetentionSituation) :
    Except Raised (RetentionAssignmentRow × AssignmentTable) :=
  match t.rows.find? fun row => row.assignmentHash = situationDigest tenantId projectId s with
  | some existing => .ok (existing, t)
  | none => do
    let row := newAssignment tenantId projectId actorId assignmentId s
    let t ← orRaise ((supersede tenantId projectId t s.resourceType s.resourceId).insert? row)
      (.integrityError "retention_assignments.retention_assignment_id")
    return (row, t)

/-- The loop over the resources. -/
def assignAll (db : RecoveryDb) (draw : InventoryDraw) :
    Nat → AssignmentTable → List InventoryResource → Except Raised (List RetentionAssignmentRow × AssignmentTable)
  | _, t, [] => .ok ([], t)
  | n, t, r :: rs => do
    let s ← situation db tenantId projectId draw.now r
    let (row, t) ← assign tenantId projectId actorId t (draw.newUuid n) s
    let (rows, t) ← assignAll db draw (n + 1) t rs
    return (row :: rows, t)

end Assign

/-- `_retention_result`. -/
def retentionResult (row : RetentionAssignmentRow) : Dict := [
  ("retention_assignment_id", .str row.retentionAssignmentId), ("resource_type", .str row.resourceType),
  ("resource_id", .str row.resourceId), ("retention_class", .str row.retentionClass),
  ("policy_source", .str row.policySource), ("hold_status", .str row.holdStatus),
  ("deletion_eligible_at", .str (isoformat row.deletionEligibleAt)), ("deletion_eligible", .bool row.deletionEligible),
  ("assignment_hash", .str row.assignmentHash), ("state", .str row.state.value)]

def inventoryHash (rows : List RetentionAssignmentRow) : String :=
  canonicalSha256 (.arr (rows.map fun row => .obj (retentionResult row)))

def inventoryCounts (rows : List RetentionAssignmentRow) : Dict := [
  ("resources", .int rows.length), ("eligible", .int (rows.filter RetentionAssignmentRow.deletionEligible).length)]

def inventoryNotice (tenantId projectId actorId : String) (rows : List RetentionAssignmentRow) : Notice where
  tenantId := tenantId
  projectId := projectId
  actorId := actorId
  action := "retention:inventory_evaluate"
  resourceType := "retention_inventory"
  resourceId := inventoryHash rows
  details := inventoryCounts rows
  eventType := "retention.inventory_evaluated"
  payload := inventoryCounts rows ++ [("inventory_hash", .str (inventoryHash rows))]

/-- `evaluate_retention_inventory`. -/
def evaluateRetentionInventory (svc : AuditService) (draw : InventoryDraw) (db : RecoveryDb)
    (tenantId projectId actorId : String) : Except Raised (List RetentionAssignmentRow × RecoveryDb) := do
  let _ ← requireProject db.toStore tenantId projectId
  let (rows, assignments) ← assignAll tenantId projectId actorId db draw 0 db.assignments
    (inventoryResources db tenantId projectId)
  let base ← auditAndEmit svc draw.stamp db.toStore (inventoryNotice tenantId projectId actorId rows)
  return (rows, { db with toStore := base, assignments })

/-- An assignment states a situation. -/
structure States (tenantId projectId : String) (row : RetentionAssignmentRow) (s : RetentionSituation) : Prop where
  tenantId_eq : row.tenantId = tenantId
  projectId_eq : row.projectId = projectId
  resourceType_eq : row.resourceType = s.resourceType
  resourceId_eq : row.resourceId = s.resourceId
  retentionClass_eq : row.retentionClass = s.retentionClass
  policySource_eq : row.policySource = s.policySource
  holdStatus_eq : row.holdStatus = s.holdStatus
  eligibleAt_eq : row.deletionEligibleAt = s.eligibleAt
  eligible_eq : row.deletionEligible = s.eligible

theorem states_newAssignment (tenantId projectId actorId assignmentId : String) (s : RetentionSituation) :
    States tenantId projectId (newAssignment tenantId projectId actorId assignmentId s) s :=
  ⟨rfl, rfl, rfl, rfl, rfl, rfl, rfl, rfl, rfl⟩

section Loop
variable {tenantId projectId actorId : String} {t t' : AssignmentTable} {resourceType resourceId : String}

def activeRows (tenantId projectId : String) (t : AssignmentTable) (resourceType resourceId : String) :
    List RetentionAssignmentRow := t.rows.filter (activeFor tenantId projectId resourceType resourceId)

theorem activeFor_iff {row : RetentionAssignmentRow} : activeFor tenantId projectId resourceType resourceId row = true ↔
    row.tenantId = tenantId ∧ row.projectId = projectId ∧ row.resourceType = resourceType ∧
      row.resourceId = resourceId ∧ row.state = .active := by
  simp [activeFor]

theorem activeFor_of_states {row : RetentionAssignmentRow} {s : RetentionSituation} (h : States tenantId projectId row s)
    (hactive : row.state = .active) : activeFor tenantId projectId s.resourceType s.resourceId row = true :=
  activeFor_iff.mpr ⟨h.tenantId_eq, h.projectId_eq, h.resourceType_eq, h.resourceId_eq, hactive⟩

/-- A superseded row is active for no resource. -/
theorem activeFor_superseded (row : RetentionAssignmentRow) :
    activeFor tenantId projectId resourceType resourceId { row with state := .superseded } = false := by
  simp [activeFor]

/-- Superseding the assignments of a resource leaves those of the other resources as they are. -/
theorem activeRows_supersede (t : AssignmentTable) (type' id' : String) :
    activeRows tenantId projectId (supersede tenantId projectId t resourceType resourceId) type' id' =
      if type' = resourceType ∧ id' = resourceId then [] else activeRows tenantId projectId t type' id' := by
  simp only [activeRows, supersede]
  induction t.rows with
  | nil => simp
  | cons row rows ih =>
    rw [List.map_cons, List.filter_cons, List.filter_cons, ih]
    by_cases hown : activeFor tenantId projectId resourceType resourceId row = true
    · obtain ⟨_, _, htype, hid, _⟩ := activeFor_iff.mp hown
      by_cases heq : type' = resourceType ∧ id' = resourceId
      · simp [hown, heq, activeFor_superseded]
      · have hother : ¬ activeFor tenantId projectId type' id' row = true := by
          intro h
          obtain ⟨_, _, htype', hid', _⟩ := activeFor_iff.mp h
          exact heq ⟨htype'.symm.trans htype, hid'.symm.trans hid⟩
        simp [hown, heq, hother, activeFor_superseded]
    · rw [if_neg hown]
      by_cases heq : type' = resourceType ∧ id' = resourceId
      · obtain ⟨rfl, rfl⟩ := heq
        simp [hown]
      · simp [heq]

/-- What a round of the loop does: it finds the situation recorded, or records it in place of what was active. -/
theorem assign_eq_ok {assignmentId : String} {s : RetentionSituation} {row : RetentionAssignmentRow}
    (h : assign tenantId projectId actorId t assignmentId s = .ok (row, t')) :
    (row ∈ t.rows ∧ row.assignmentHash = situationDigest tenantId projectId s ∧ t' = t) ∨
    (t'.rows = (supersede tenantId projectId t s.resourceType s.resourceId).rows ++ [row] ∧
      row = newAssignment tenantId projectId actorId assignmentId s) := by
  unfold assign at h
  split at h
  next existing hfound =>
    cases h
    exact .inl ⟨List.mem_of_find?_eq_some hfound, by simpa using List.find?_some hfound, rfl⟩
  next =>
    obtain ⟨inserted, hinsert, hout⟩ := bind_eq_ok.mp h
    cases hout
    exact .inr ⟨(Table.insert?_eq_some (orRaise_eq_ok.mp hinsert)).2, rfl⟩

theorem assign_of_recorded {assignmentId : String} {s : RetentionSituation} {row : RetentionAssignmentRow}
    (h : t.rows.find? (fun row => row.assignmentHash = situationDigest tenantId projectId s) = some row) :
    assign tenantId projectId actorId t assignmentId s = .ok (row, t) := by
  rw [assign, h]

theorem assign_of_new {assignmentId : String} {s : RetentionSituation}
    (hnew : ∀ row ∈ t.rows, row.assignmentHash ≠ situationDigest tenantId projectId s)
    (hinsert : (supersede tenantId projectId t s.resourceType s.resourceId).insert?
      (newAssignment tenantId projectId actorId assignmentId s) = some t') :
    assign tenantId projectId actorId t assignmentId s =
      .ok (newAssignment tenantId projectId actorId assignmentId s, t') := by
  have hnone : t.rows.find? (fun row => row.assignmentHash = situationDigest tenantId projectId s) = none := by
    rw [List.find?_eq_none]
    intro row hrow
    simpa using hnew row hrow
  rw [assign, hnone]
  exact bind_eq_ok.mpr ⟨t', orRaise_eq_ok.mpr hinsert, rfl⟩

theorem activeRows_assigned {s : RetentionSituation} {row : RetentionAssignmentRow}
    (hrows : t'.rows = (supersede tenantId projectId t s.resourceType s.resourceId).rows ++ [row])
    (hstates : States tenantId projectId row s) (hactive : row.state = .active) (type' id' : String) :
    activeRows tenantId projectId t' type' id' =
      if type' = s.resourceType ∧ id' = s.resourceId then [row] else activeRows tenantId projectId t type' id' := by
  have hold := @activeRows_supersede tenantId projectId s.resourceType s.resourceId t type' id'
  simp only [activeRows] at hold ⊢
  rw [hrows, List.filter_append, hold]
  split
  · rename_i heq
    obtain ⟨rfl, rfl⟩ := heq
    simp [activeFor_of_states hstates hactive]
  · rename_i hne
    have hother : ¬ activeFor tenantId projectId type' id' row = true := by
      intro h
      obtain ⟨_, _, htype, hid, _⟩ := activeFor_iff.mp h
      exact hne ⟨htype.symm.trans hstates.resourceType_eq, hid.symm.trans hstates.resourceId_eq⟩
    simp [hother]

/-- No resource has two active assignments. -/
def AtMostOne (t : AssignmentTable) : Prop :=
  ∀ tenantId projectId resourceType resourceId, (activeRows tenantId projectId t resourceType resourceId).length ≤ 1

theorem activeRows_other_scope {s : RetentionSituation} {row : RetentionAssignmentRow} {tenant' project' : String}
    (hrows : t'.rows = (supersede tenantId projectId t s.resourceType s.resourceId).rows ++ [row])
    (hstates : States tenantId projectId row s) (hscope : ¬ (tenant' = tenantId ∧ project' = projectId)) (type' id' : String) :
    activeRows tenant' project' t' type' id' = activeRows tenant' project' t type' id' := by
  have hnew : ¬ activeFor tenant' project' type' id' row = true := by
    intro h
    obtain ⟨htenant, hproject, _⟩ := activeFor_iff.mp h
    exact hscope ⟨htenant.symm.trans hstates.tenantId_eq, hproject.symm.trans hstates.projectId_eq⟩
  simp only [activeRows, hrows, List.filter_append, supersede]
  rw [List.filter_singleton, (Bool.not_eq_true _).mp hnew, cond_false, List.append_nil]
  induction t.rows with
  | nil => rfl
  | cons old rows ih =>
    rw [List.map_cons, List.filter_cons, List.filter_cons, ih]
    by_cases hown : activeFor tenantId projectId s.resourceType s.resourceId old = true
    · obtain ⟨htenant, hproject, _⟩ := activeFor_iff.mp hown
      have hother : ¬ activeFor tenant' project' type' id' old = true := by
        intro h
        obtain ⟨htenant', hproject', _⟩ := activeFor_iff.mp h
        exact hscope ⟨htenant'.symm.trans htenant, hproject'.symm.trans hproject⟩
      simp [hown, hother, activeFor_superseded]
    · rw [if_neg hown]

theorem atMostOne_assign {assignmentId : String} {s : RetentionSituation} {row : RetentionAssignmentRow} (hone : AtMostOne t)
    (h : assign tenantId projectId actorId t assignmentId s = .ok (row, t')) : AtMostOne t' := by
  intro tenant' project' type' id'
  obtain ⟨-, -, rfl⟩ | ⟨hrows, rfl⟩ := assign_eq_ok h
  · exact hone tenant' project' type' id'
  · have hstates := states_newAssignment tenantId projectId actorId assignmentId s
    by_cases hscope : tenant' = tenantId ∧ project' = projectId
    · obtain ⟨rfl, rfl⟩ := hscope
      rw [activeRows_assigned hrows hstates rfl]
      split
      · exact le_refl 1
      · exact hone tenant' project' type' id'
    · rw [activeRows_other_scope hrows hstates hscope]
      exact hone tenant' project' type' id'

theorem atMostOne_assignAll {db : RecoveryDb} {draw : InventoryDraw} {rs : List InventoryResource} {n : Nat}
    {rows : List RetentionAssignmentRow} (hone : AtMostOne t)
    (h : assignAll tenantId projectId actorId db draw n t rs = .ok (rows, t')) : AtMostOne t' := by
  induction rs generalizing n t rows with
  | nil =>
    cases h
    exact hone
  | cons r rs ih =>
    simp only [assignAll, bind_eq_ok] at h
    obtain ⟨s, _, ⟨row, t₁⟩, hassign, ⟨rows', t₂⟩, hrest, hout⟩ := h
    cases hout
    exact ih (atMostOne_assign hone hassign) hrest

end Loop

/-- Whatever is recorded under the hash of the present situation of a resource is its active assignment, and
no two situations have one hash: no situation returns that was superseded. -/
structure NoneReturns (tenantId projectId : String) (db : RecoveryDb) (now : Nat) (rs : List InventoryResource)
    (t : AssignmentTable) : Prop where
  recorded : ∀ r ∈ rs, ∀ s, situation db tenantId projectId now r = .ok s → ∀ row ∈ t.rows,
    row.assignmentHash = situationDigest tenantId projectId s → row.state = .active ∧ States tenantId projectId row s
  apart : ∀ r ∈ rs, ∀ r' ∈ rs, ∀ s s', situation db tenantId projectId now r = .ok s →
    situation db tenantId projectId now r' = .ok s' →
      situationDigest tenantId projectId s = situationDigest tenantId projectId s' → r.key = r'.key

/-- The resource has one active assignment, which states its present situation. -/
def Current (tenantId projectId : String) (db : RecoveryDb) (now : Nat) (t : AssignmentTable) (r : InventoryResource) : Prop :=
  ∃ s row, situation db tenantId projectId now r = .ok s ∧
    activeRows tenantId projectId t r.resourceType r.resourceId = [row] ∧ States tenantId projectId row s

section Evaluate
variable {tenantId projectId actorId : String} {db : RecoveryDb} {draw : InventoryDraw} {t t' : AssignmentTable}

theorem situation_key {now : Nat} {r : InventoryResource} {s : RetentionSituation}
    (h : situation db tenantId projectId now r = .ok s) : s.resourceType = r.resourceType ∧ s.resourceId = r.resourceId := by
  obtain ⟨eligibleAt, _, hs⟩ := bind_eq_ok.mp h
  cases hs
  exact ⟨rfl, rfl⟩

/-- One round makes the assignment of its resource current. -/
theorem current_assign {r : InventoryResource} {s : RetentionSituation} {assignmentId : String} {row : RetentionAssignmentRow}
    (hone : AtMostOne t) (hs : situation db tenantId projectId draw.now r = .ok s)
    (hrecorded : ∀ row ∈ t.rows, row.assignmentHash = situationDigest tenantId projectId s →
      row.state = .active ∧ States tenantId projectId row s)
    (h : assign tenantId projectId actorId t assignmentId s = .ok (row, t')) :
    activeRows tenantId projectId t' r.resourceType r.resourceId = [row] ∧ States tenantId projectId row s := by
  obtain ⟨htype, hid⟩ := situation_key hs
  obtain ⟨hrow, hhash, rfl⟩ | ⟨hrows, rfl⟩ := assign_eq_ok h
  · obtain ⟨hactive, hstates⟩ := hrecorded row hrow hhash
    have hfor := activeFor_of_states hstates hactive
    rw [htype, hid] at hfor
    have hmem : row ∈ activeRows tenantId projectId t' r.resourceType r.resourceId := List.mem_filter.mpr ⟨hrow, hfor⟩
    refine ⟨?_, hstates⟩
    obtain ⟨only, honly⟩ := List.length_eq_one_iff.mp
      (Nat.le_antisymm (hone tenantId projectId r.resourceType r.resourceId) (List.length_pos_of_mem hmem))
    rw [honly, List.mem_singleton] at hmem
    rw [honly, hmem]
  · have hstates := states_newAssignment tenantId projectId actorId assignmentId s
    rw [activeRows_assigned hrows hstates rfl, if_pos ⟨htype.symm, hid.symm⟩]
    exact ⟨rfl, hstates⟩

/-- A round does not touch the assignments of another resource. -/
theorem activeRows_assign_other {r : InventoryResource} {s : RetentionSituation} {assignmentId : String}
    {row : RetentionAssignmentRow} (hs : situation db tenantId projectId draw.now r = .ok s)
    (h : assign tenantId projectId actorId t assignmentId s = .ok (row, t')) {key : String × String} (hkey : key ≠ r.key) :
    activeRows tenantId projectId t' key.1 key.2 = activeRows tenantId projectId t key.1 key.2 := by
  obtain ⟨htype, hid⟩ := situation_key hs
  obtain ⟨-, -, rfl⟩ | ⟨hrows, rfl⟩ := assign_eq_ok h
  · rfl
  · rw [activeRows_assigned hrows (states_newAssignment tenantId projectId actorId assignmentId s) rfl, if_neg]
    intro heq
    exact hkey (Prod.ext (heq.1.trans htype) (heq.2.trans hid))

/-- The condition goes on to hold for the resources that are left. -/
theorem NoneReturns.rest {r : InventoryResource} {rs : List InventoryResource} {s : RetentionSituation}
    {assignmentId : String} {row : RetentionAssignmentRow} (h : NoneReturns tenantId projectId db draw.now (r :: rs) t)
    (hnew : r.key ∉ rs.map InventoryResource.key) (hs : situation db tenantId projectId draw.now r = .ok s)
    (hassign : assign tenantId projectId actorId t assignmentId s = .ok (row, t')) :
    NoneReturns tenantId projectId db draw.now rs t' := by
  have hother : ∀ r' ∈ rs, r'.key ≠ r.key := by
    intro r' hr' heq
    exact hnew (heq ▸ List.mem_map_of_mem hr')
  obtain ⟨htype, hid⟩ := situation_key hs
  refine ⟨?_, fun r₁ h₁ r₂ h₂ => h.apart r₁ (List.mem_cons_of_mem _ h₁) r₂ (List.mem_cons_of_mem _ h₂)⟩
  intro r' hr' s' hs' found hfound hhash
  obtain ⟨-, -, rfl⟩ | ⟨hrows, rfl⟩ := assign_eq_ok hassign
  · exact h.recorded r' (List.mem_cons_of_mem _ hr') s' hs' found hfound hhash
  · rw [hrows, List.mem_append, List.mem_singleton] at hfound
    rcases hfound with hfound | rfl
    · obtain ⟨old, hold, hfound⟩ := List.mem_map.mp hfound
      have hsame : old.assignmentHash = found.assignmentHash := by
        rw [← hfound]
        split <;> rfl
      obtain ⟨hactive, hstates⟩ := h.recorded r' (List.mem_cons_of_mem _ hr') s' hs' old hold (hsame.trans hhash)
      obtain ⟨htype', hid'⟩ := situation_key hs'
      have hspared : ¬ activeFor tenantId projectId s.resourceType s.resourceId old = true := by
        intro hown
        obtain ⟨_, _, h₁, h₂, _⟩ := activeFor_iff.mp hown
        apply hother r' hr'
        apply Prod.ext
        · exact htype'.symm.trans (hstates.resourceType_eq.symm.trans (h₁.trans htype))
        · exact hid'.symm.trans (hstates.resourceId_eq.symm.trans (h₂.trans hid))
      rw [if_neg hspared] at hfound
      rw [← hfound]
      exact ⟨hactive, hstates⟩
    · exact absurd (h.apart r' (List.mem_cons_of_mem _ hr') r List.mem_cons_self s' s hs' hs hhash.symm) (hother r' hr')

/-- The loop makes every resource current. -/
theorem current_assignAll {rs : List InventoryResource} {n : Nat} {rows : List RetentionAssignmentRow} (hone : AtMostOne t)
    (hkeys : (rs.map InventoryResource.key).Nodup) (hreturns : NoneReturns tenantId projectId db draw.now rs t)
    (h : assignAll tenantId projectId actorId db draw n t rs = .ok (rows, t')) :
    (∀ r ∈ rs, Current tenantId projectId db draw.now t' r) ∧ ∀ key ∉ rs.map InventoryResource.key,
      activeRows tenantId projectId t' key.1 key.2 = activeRows tenantId projectId t key.1 key.2 := by
  induction rs generalizing n t rows with
  | nil =>
    cases h
    exact ⟨fun r hr => absurd hr List.not_mem_nil, fun key _ => rfl⟩
  | cons r rs ih =>
    simp only [assignAll, bind_eq_ok] at h
    obtain ⟨s, hs, ⟨row, t₁⟩, hassign, ⟨rows', t₂⟩, hrest, hout⟩ := h
    cases hout
    rw [List.map_cons, List.nodup_cons] at hkeys
    obtain ⟨hcurrent, hframe⟩ := ih (atMostOne_assign hone hassign) hkeys.2 (hreturns.rest hkeys.1 hs hassign) hrest
    have hfirst := current_assign hone hs (hreturns.recorded r List.mem_cons_self s hs) hassign
    constructor
    · intro r' hr'
      rcases List.mem_cons.mp hr' with rfl | hr'
      · refine ⟨s, row, hs, ?_, hfirst.2⟩
        have hkept := hframe r'.key hkeys.1
        simp only [InventoryResource.key] at hkept
        rw [hkept]
        exact hfirst.1
      · exact hcurrent r' hr'
    · intro key hkey
      rw [List.map_cons, List.mem_cons, not_or] at hkey
      rw [hframe key hkey.2, activeRows_assign_other hs hassign hkey.1]

theorem nodup_keys {α : Type} {key : α → String} (table : Table α key) (p : α → Bool) (resourceType : String)
    (f : α → InventoryResource) (hf : ∀ row, (f row).key = (resourceType, key row)) :
    (((table.rows.filter p).map f).map InventoryResource.key).Nodup := by
  have hcomp : InventoryResource.key ∘ f = Prod.mk resourceType ∘ key := funext hf
  rw [List.map_map, hcomp, ← List.map_map]
  apply List.Nodup.map
  · intro a b hab
    exact (Prod.mk.inj hab).2
  · exact table.nodup.sublist (List.filter_sublist.map key)

theorem type_of_mem_keys {α : Type} {rows : List α} {resourceType : String} {f : α → InventoryResource}
    (hf : ∀ row, (f row).resourceType = resourceType) {k : String × String}
    (hk : k ∈ (rows.map f).map InventoryResource.key) : k.1 = resourceType := by
  simp only [List.map_map, List.mem_map, Function.comp_apply] at hk
  obtain ⟨row, _, rfl⟩ := hk
  exact hf row

/-- The inventory lists every resource once. -/
theorem nodup_inventoryResources (db : RecoveryDb) (tenantId projectId : String) :
    ((inventoryResources db tenantId projectId).map InventoryResource.key).Nodup := by
  simp only [inventoryResources, List.map_append]
  have hassets := fun k => @type_of_mem_keys _ (db.refs.rows.filter fun ref => ref.tenantId = tenantId ∧
    ref.projectId = projectId) "asset" (fun ref => ⟨"asset", ref.assetId, ref.retentionClass, ref.createdAt⟩) (fun _ => rfl) k
  have hmemories := fun k => @type_of_mem_keys _ (db.memories.rows.filter fun row => row.tenantId = tenantId ∧
    row.projectId = projectId) "memory_record" (fun row => ⟨"memory_record", row.recordId, "liveforever_record",
      row.createdAt⟩) (fun _ => rfl) k
  have hcommits := fun k => @type_of_mem_keys _ (db.commits.rows.filter fun row => row.tenantId = tenantId ∧
    row.projectId = projectId) "scene_commit" (fun row => ⟨"scene_commit", row.commitId, "scene_history", row.createdAt⟩)
      (fun _ => rfl) k
  have hexports := fun k => @type_of_mem_keys _ (db.exports.rows.filter fun row => row.tenantId = tenantId ∧
    row.projectId = projectId) "export" (fun row => ⟨"export", row.exportId, "export", row.createdAt⟩) (fun _ => rfl) k
  rw [List.nodup_append, List.nodup_append, List.nodup_append]
  refine ⟨⟨⟨nodup_keys db.refs _ "asset" _ fun _ => rfl, nodup_keys db.memories _ "memory_record" _ fun _ => rfl, ?_⟩,
    nodup_keys db.commits _ "scene_commit" _ fun _ => rfl, ?_⟩, nodup_keys db.exports _ "export" _ fun _ => rfl, ?_⟩
  · intro a ha b hb hab
    have := (hassets a ha).symm.trans (hab ▸ hmemories b hb)
    exact absurd this (by decide)
  · intro a ha b hb hab
    rcases List.mem_append.mp ha with ha | ha
    · exact absurd ((hassets a ha).symm.trans (hab ▸ hcommits b hb)) (by decide)
    · exact absurd ((hmemories a ha).symm.trans (hab ▸ hcommits b hb)) (by decide)
  · intro a ha b hb hab
    rcases List.mem_append.mp ha with ha | ha
    · rcases List.mem_append.mp ha with ha | ha
      · exact absurd ((hassets a ha).symm.trans (hab ▸ hexports b hb)) (by decide)
      · exact absurd ((hmemories a ha).symm.trans (hab ▸ hexports b hb)) (by decide)
    · exact absurd ((hcommits a ha).symm.trans (hab ▸ hexports b hb)) (by decide)

/-- What an evaluation leaves: the assignments of the loop, and nothing else changed but the log and the events. -/
theorem evaluateRetentionInventory_eq_ok {svc : AuditService} {db' : RecoveryDb} {rows : List RetentionAssignmentRow}
    (h : evaluateRetentionInventory svc draw db tenantId projectId actorId = .ok (rows, db')) :
    ∃ t' audit outbox, assignAll tenantId projectId actorId db draw 0 db.assignments
        (inventoryResources db tenantId projectId) = .ok (rows, t') ∧
      db' = { db with audit, outbox, assignments := t' } := by
  simp only [evaluateRetentionInventory, bind_eq_ok] at h
  obtain ⟨_, _, ⟨rows', t'⟩, hassign, base, hbase, hout⟩ := h
  cases hout
  obtain ⟨audit, outbox, rfl⟩ := auditAndEmit_eq_ok hbase
  exact ⟨t', audit, outbox, hassign, rfl⟩

end Evaluate

/-- The calls of a history; those elsewhere may change anything but the assignments. -/
inductive RetentionAct where
  | evaluate (draw : InventoryDraw) (tenantId projectId actorId : String)
  | placeHold (stamp : Stamp) (newUuid : String) (request : HoldRequest)
  | releaseHold (stamp : Stamp) (tenantId projectId holdId actorId : String)
  | elsewhere (change : RecoveryDb → RecoveryDb)

section Run
variable (svc : AuditService)

def retentionStep (db : RecoveryDb) : RetentionAct → RecoveryDb
  | .evaluate draw tenantId projectId actorId =>
    match evaluateRetentionInventory svc draw db tenantId projectId actorId with
    | .ok (_, db') => db'
    | .error _ => db
  | .placeHold stamp newUuid request =>
    match LifecycleService.placeHold svc stamp newUuid db.toHoldDb request with
    | .ok (_, held) => { db with toHoldDb := held }
    | .error _ => db
  | .releaseHold stamp tenantId projectId holdId actorId =>
    match LifecycleService.releaseHold svc stamp db.toHoldDb tenantId projectId holdId actorId with
    | .ok released => { db with toHoldDb := released }
    | .error _ => db
  | .elsewhere change => { change db with assignments := db.assignments }

theorem retentionStep_of_ok {svc : AuditService} {db db' : RecoveryDb} {draw : InventoryDraw}
    {tenantId projectId actorId : String} {rows : List RetentionAssignmentRow}
    (h : evaluateRetentionInventory svc draw db tenantId projectId actorId = .ok (rows, db')) :
    retentionStep svc db (.evaluate draw tenantId projectId actorId) = db' := by
  rw [retentionStep, h]

/-- No evaluation finds a resource back in a situation whose assignment was superseded. -/
def Regular (db : RecoveryDb) : RetentionAct → Prop
  | .evaluate draw tenantId projectId _ =>
    NoneReturns tenantId projectId db draw.now (inventoryResources db tenantId projectId) db.assignments
  | _ => True

theorem atMostOne_step {db : RecoveryDb} (act : RetentionAct) (h : AtMostOne db.assignments) :
    AtMostOne (retentionStep svc db act).assignments := by
  cases act with
  | evaluate draw tenantId projectId actorId =>
    simp only [retentionStep]
    split
    next rows db' heval =>
      obtain ⟨t', audit, outbox, hassign, rfl⟩ := evaluateRetentionInventory_eq_ok heval
      exact atMostOne_assignAll h hassign
    next => exact h
  | placeHold stamp newUuid request =>
    simp only [retentionStep]
    split
    next => exact h
    next => exact h
  | releaseHold stamp tenantId projectId holdId actorId =>
    simp only [retentionStep]
    split
    next => exact h
    next => exact h
  | elsewhere change => exact h

theorem atMostOne_run {db : RecoveryDb} (h : AtMostOne db.assignments) (acts : List RetentionAct) :
    AtMostOne (run (retentionStep svc) db acts).assignments :=
  @run_invariant _ _ (retentionStep svc) (fun db => AtMostOne db.assignments) (fun _ act h => atMostOne_step svc act h) _ h acts

/-- In a history in which no superseded situation returns, every evaluation leaves each resource of its project
with one active assignment, and that one states the present situation. -/
theorem evaluated_inventory_current {db : RecoveryDb} (hstart : db.assignments.rows = []) {acts : List RetentionAct}
    (hacts : Along (retentionStep svc) (Regular) db acts) {before : List RetentionAct} {draw : InventoryDraw}
    {tenantId projectId actorId : String} (hbefore : before ++ [.evaluate draw tenantId projectId actorId] <+: acts)
    {rows : List RetentionAssignmentRow} {db' : RecoveryDb}
    (hevaluated : evaluateRetentionInventory svc draw (run (retentionStep svc) db before) tenantId projectId actorId =
      .ok (rows, db')) :
    ∀ r ∈ inventoryResources db' tenantId projectId, Current tenantId projectId db' draw.now db'.assignments r := by
  have hfirst : AtMostOne db.assignments := by
    intro tenant' project' type' id'
    simp [activeRows, hstart]
  have hone := atMostOne_run svc hfirst before
  have hregular := ((hacts.of_prefix hbefore).of_append).1
  obtain ⟨t', audit, outbox, hassign, rfl⟩ := evaluateRetentionInventory_eq_ok hevaluated
  exact (current_assignAll hone (nodup_inventoryResources _ _ _) hregular hassign).1

end Run

section Sample

def plan : AssetRefRow where
  assetId := "a1"
  tenantId := "t1"
  projectId := "p1"
  sha256 := ""
  originalName := "plan.pdf"
  classification := "internal"
  retentionClass := "standard"
  sourceClass := "observed"
  authorityClass := "evidence"
  provenanceJson := []
  createdBy := "ana"

/-- A project with one asset and no rule. -/
def planDb (log : AuditLog) (outbox : List OutboxEventRow) (holds : List LegalHoldRow)
    (hholds : (holds.map LegalHoldRow.holdId).Nodup) (assignments : AssignmentTable) : RecoveryDb := {
  RecoveryDb.empty with
  projects := ⟨[⟨"p1", "t1", "internal", "active"⟩], List.nodup_singleton _⟩
  refs := ⟨[plan], List.nodup_singleton _⟩
  audit := log, outbox := outbox, holds := ⟨holds, hholds⟩, assignments := assignments }

def planSituation (held : Bool) : RetentionSituation where
  resourceType := "asset"
  resourceId := "a1"
  retentionClass := "standard"
  policySource := "default:no-minimum-retention"
  holdStatus := if held then "active" else "none"
  eligibleAt := 0
  eligible := !held

def planHold : HoldRequest := ⟨"t1", "p1", "project", "p1", "audit", "case 1", "ana"⟩

/-- An assignment of the asset, with its hash given. -/
def planAssignment (held : Bool) (assignmentId hash : String) (state : AssignmentState) : RetentionAssignmentRow :=
  { newAssignment "t1" "p1" "ana" assignmentId (planSituation held) with assignmentHash := hash, state := state }

theorem validatePayload_inventory {rows : List RetentionAssignmentRow} (hcount : rows.length < 2 ^ 63) :
    validatePayload (inventoryCounts rows ++ [("inventory_hash", .str (inventoryHash rows))]) = .ok () := by
  have hkeys : (inventoryCounts rows ++ [("inventory_hash", Json.str (inventoryHash rows))]).map Prod.fst =
      ["resources", "eligible", "inventory_hash"] := rfl
  apply validatePayload_brief hkeys rfl (by decide)
  intro p hp
  simp only [inventoryCounts, List.cons_append, List.nil_append, List.mem_cons, List.not_mem_nil, or_false] at hp
  rcases hp with rfl | rfl | rfl
  · exact brief_int (by simpa using hcount)
  · have hfilter := List.length_filter_le RetentionAssignmentRow.deletionEligible rows
    exact brief_int (by simpa using lt_of_le_of_lt hfilter hcount)
  · exact brief_sha256 _

section Steps
variable {log : AuditLog} {outbox : List OutboxEventRow} {holds : List LegalHoldRow}
  {hholds : (holds.map LegalHoldRow.holdId).Nodup} {t t' : AssignmentTable} {before : Nat} {ids hashes : List String}
  {hash : String}

/-- An evaluation of the project, given the situation that it finds and the assignment that it makes. -/
theorem evaluate_planDb (stamp : Stamp) (assignmentId : String) {held : Bool} {row : RetentionAssignmentRow}
    (hsituation : situation (planDb log outbox holds hholds t) "t1" "p1" stamp.now ⟨"asset", "a1", "standard", 0⟩ =
      .ok (planSituation held))
    (hassign : assign "t1" "p1" "ana" t assignmentId (planSituation held) = .ok (row, t'))
    (haudit : Succession "t1" before ids hashes log) (hnow : before ≤ stamp.now) (hid : stamp.auditId ∉ ids)
    (hhash : canonicalSha256 ((AuditService.zeroKey.entry .empty stamp.now stamp.auditId
      (inventoryNotice "t1" "p1" "ana" [row]).auditRequest).body (hashes.getLast?.getD genesisHash)) = hash)
    (hfresh : hash ∉ hashes) :
    ∃ log' outbox', evaluateRetentionInventory .zeroKey ⟨stamp.now, stamp, fun _ => assignmentId⟩
        (planDb log outbox holds hholds t) "t1" "p1" "ana" = .ok ([row], planDb log' outbox' holds hholds t') ∧
      Succession "t1" (stamp.now + 1) (ids ++ [stamp.auditId]) (hashes ++ [hash]) log' := by
  obtain ⟨log', hrecord, hnext⟩ := @Store.record_next .zeroKey (planDb log outbox holds hholds t).toStore "t1" before ids
    hashes hash stamp (inventoryNotice "t1" "p1" "ana" [row]).auditRequest haudit hnow rfl hid hhash hfresh
  obtain ⟨event, hemit⟩ := ({ (planDb log outbox holds hholds t).toStore with audit := log' } : Store).emit_total stamp
    (r := (inventoryNotice "t1" "p1" "ana" [row]).eventRequest) rfl rfl rfl
    (validatePayload_inventory (by simp))
  have hloop : assignAll "t1" "p1" "ana" (planDb log outbox holds hholds t) ⟨stamp.now, stamp, fun _ => assignmentId⟩ 0 t
      (inventoryResources (planDb log outbox holds hholds t) "t1" "p1") = .ok ([row], t') := by
    have hresources : inventoryResources (planDb log outbox holds hholds t) "t1" "p1" =
        [⟨"asset", "a1", "standard", 0⟩] := rfl
    rw [hresources]
    simp only [assignAll, bind_eq_ok]
    exact ⟨_, hsituation, ⟨row, t'⟩, hassign, ⟨[], t'⟩, rfl, rfl⟩
  refine ⟨log', outbox ++ [event], ?_, hnext⟩
  simp only [evaluateRetentionInventory, auditAndEmit, bind_eq_ok]
  exact ⟨_, rfl, ⟨[row], t'⟩, hloop, _, ⟨_, hrecord, hemit⟩, rfl⟩

end Steps

/-- The hashes of the two situations, of the three inventories and of the five audit events below. -/
def planDigest (held : Bool) : String :=
  if held then "7bdb1c42765b57edb2405efdb4b7d22ee8d116e4309951799128e124f8271584"
  else "99e0056460b4cf8e76e6933c80fb5e8dc1e69eb6c5ace0a273dd80f9182ab4bc"

def planInventory : List String := [
  "0d13e6c2eca3db994e0d3be4f90cc8c8b05168b7bda127e2d13087fc16695c02",
  "7523407237b1bb810f460ae7a4bfad9f34f8a045527f6e1ea0462aeff9db798d",
  "aac6832c19ba9519ea38aeb7f99e72381f25b9f1b26315adce1ea8af5c8c19cc"]

def planHashes : List String := [
  "34f9c17c6a6543bdfd9074fd88f11f6eec03c75018c9d7c693a0361be2c20f72",
  "8e9d8eac1283815c66685ec0d8c18e54ec9bf978f5046279a5523b199dbb9de9",
  "364cef9348a01a0701792505ec41ff54e84885a8bcf0b679402a0f2d5010d8be",
  "6779a20fe156deb91bb9a328a0e5604d3a84bd8005a4bf4c6fe8582245b146a8",
  "0921ffa5446075f058ce847562693faff3ac42bd99feabfda2c47bb30e8f19c9"]

def freeRow (state : AssignmentState) : RetentionAssignmentRow := planAssignment false "r1" (planDigest false) state

def heldRow : RetentionAssignmentRow := planAssignment true "r2" (planDigest true) .active

/-- The audit event of an evaluation, with the hash of the inventory given. -/
def inventoryAudit (rows : List RetentionAssignmentRow) (hash : String) : AuditRequest :=
  ⟨"t1", some "p1", "ana", "retention:inventory_evaluate", "retention_inventory", hash, "allowed",
    some (inventoryCounts rows), none, none, none, none, none, none, none, none, none⟩

theorem inventoryNotice_of_hash {rows : List RetentionAssignmentRow} {hash : String} (h : inventoryHash rows = hash) :
    (inventoryNotice "t1" "p1" "ana" rows).auditRequest = inventoryAudit rows hash := by
  rw [← h]
  rfl

/-- The documents that are hashed below: two situations, three inventories and five audit events. -/
def planDocuments : List (Json × String) := [
  (.obj (situationBody "t1" "p1" (planSituation false)), planDigest false),
  (.obj (situationBody "t1" "p1" (planSituation true)), planDigest true),
  (.arr [.obj (retentionResult (freeRow .active))], planInventory.getD 0 ""),
  (.arr [.obj (retentionResult heldRow)], planInventory.getD 1 ""),
  (.arr [.obj (retentionResult (freeRow .superseded))], planInventory.getD 2 ""),
  (AuditService.zeroBody 1 "e1" (inventoryAudit [freeRow .active] (planInventory.getD 0 "")) genesisHash, planHashes.getD 0 ""),
  (AuditService.zeroBody 2 "e2" (planHold.auditRequest "h1") (planHashes.getD 0 ""), planHashes.getD 1 ""),
  (AuditService.zeroBody 3 "e3" (inventoryAudit [heldRow] (planInventory.getD 1 "")) (planHashes.getD 1 ""), planHashes.getD 2 ""),
  (AuditService.zeroBody 4 "e4" (releaseAudit (planHold.row "h1") "ana") (planHashes.getD 2 ""), planHashes.getD 3 ""),
  (AuditService.zeroBody 5 "e5" (inventoryAudit [freeRow .superseded] (planInventory.getD 2 "")) (planHashes.getD 3 ""),
    planHashes.getD 4 "")]

set_option maxRecDepth 10000 in
theorem hashTo_planDocuments : hashTo planDocuments = true := by decide +kernel

theorem situationDigest_plan (held : Bool) : situationDigest "t1" "p1" (planSituation held) = planDigest held := by
  cases held with
  | false => exact canonicalSha256_of_hashTo hashTo_planDocuments 0 rfl
  | true => exact canonicalSha256_of_hashTo hashTo_planDocuments 1 rfl

def freeTable : AssignmentTable := ⟨[freeRow .active], List.nodup_singleton _⟩

def heldTable : AssignmentTable := ⟨[freeRow .superseded, heldRow], by decide⟩

theorem newAssignment_plan (held : Bool) (assignmentId : String) :
    newAssignment "t1" "p1" "ana" assignmentId (planSituation held) =
      planAssignment held assignmentId (planDigest held) .active := by
  rw [← situationDigest_plan]
  rfl

theorem planDigest_ne : planDigest false ≠ planDigest true := by decide

theorem assign_free : assign "t1" "p1" "ana" .empty "r1" (planSituation false) = .ok (freeRow .active, freeTable) := by
  rw [freeRow, ← newAssignment_plan]
  apply assign_of_new
  · intro row hrow
    cases hrow
  · rw [newAssignment_plan]
    rfl

theorem assign_held : assign "t1" "p1" "ana" freeTable "r2" (planSituation true) = .ok (heldRow, heldTable) := by
  rw [heldRow, ← newAssignment_plan]
  apply assign_of_new
  · intro row hrow
    rw [List.mem_singleton.mp hrow, situationDigest_plan]
    exact planDigest_ne
  · have hfree : supersede "t1" "p1" freeTable "asset" "a1" = ⟨[freeRow .superseded], List.nodup_singleton _⟩ := by
      simp [supersede, activeFor, freeTable, freeRow, planAssignment, newAssignment, planSituation]
    have hasset : (planSituation true).resourceType = "asset" ∧ (planSituation true).resourceId = "a1" := ⟨rfl, rfl⟩
    rw [newAssignment_plan, hasset.1, hasset.2, hfree]
    rfl

/-- The free situation is recorded, but no longer in force. -/
theorem assign_again : assign "t1" "p1" "ana" heldTable "r3" (planSituation false) =
    .ok (freeRow .superseded, heldTable) := by
  apply assign_of_recorded
  apply List.find?_cons_of_pos
  rw [situationDigest_plan]
  exact decide_eq_true rfl

theorem inventoryHash_free : inventoryHash [freeRow .active] = planInventory.getD 0 "" :=
  canonicalSha256_of_hashTo hashTo_planDocuments 2 rfl

theorem inventoryHash_held : inventoryHash [heldRow] = planInventory.getD 1 "" :=
  canonicalSha256_of_hashTo hashTo_planDocuments 3 rfl

theorem inventoryHash_again : inventoryHash [freeRow .superseded] = planInventory.getD 2 "" :=
  canonicalSha256_of_hashTo hashTo_planDocuments 4 rfl

theorem firstEvaluation_hash : canonicalSha256 ((AuditService.zeroKey.entry .empty 1 "e1"
    (inventoryNotice "t1" "p1" "ana" [freeRow .active]).auditRequest).body genesisHash) = planHashes.getD 0 "" := by
  rw [inventoryNotice_of_hash inventoryHash_free]
  exact canonicalSha256_of_hashTo hashTo_planDocuments 5 rfl

theorem hold_hash : canonicalSha256 ((AuditService.zeroKey.entry .empty 2 "e2" (planHold.auditRequest "h1")).body
    (planHashes.getD 0 "")) = planHashes.getD 1 "" := canonicalSha256_of_hashTo hashTo_planDocuments 6 rfl

theorem heldEvaluation_hash : canonicalSha256 ((AuditService.zeroKey.entry .empty 3 "e3"
    (inventoryNotice "t1" "p1" "ana" [heldRow]).auditRequest).body (planHashes.getD 1 "")) = planHashes.getD 2 "" := by
  rw [inventoryNotice_of_hash inventoryHash_held]
  exact canonicalSha256_of_hashTo hashTo_planDocuments 7 rfl

theorem release_hash : canonicalSha256 ((AuditService.zeroKey.entry .empty 4 "e4"
    (releaseAudit (planHold.row "h1") "ana")).body (planHashes.getD 2 "")) = planHashes.getD 3 "" :=
  canonicalSha256_of_hashTo hashTo_planDocuments 8 rfl

theorem lastEvaluation_hash : canonicalSha256 ((AuditService.zeroKey.entry .empty 5 "e5"
    (inventoryNotice "t1" "p1" "ana" [freeRow .superseded]).auditRequest).body (planHashes.getD 3 "")) =
      planHashes.getD 4 "" := by
  rw [inventoryNotice_of_hash inventoryHash_again]
  exact canonicalSha256_of_hashTo hashTo_planDocuments 9 rfl

def planStart : RecoveryDb := planDb .empty [] [] List.nodup_nil .empty

def evaluatePlan (n : Nat) (auditId assignmentId : String) : RetentionAct :=
  .evaluate ⟨n, ⟨n, auditId⟩, fun _ => assignmentId⟩ "t1" "p1" "ana"

/-- Evaluated, put under a hold, evaluated, and released again. -/
def holdHistory : List RetentionAct := [evaluatePlan 1 "e1" "r1", .placeHold ⟨2, "e2"⟩ "h1" planHold,
  evaluatePlan 3 "e3" "r2", .releaseHold ⟨4, "e4"⟩ "t1" "p1" "h1" "ana"]

theorem situation_free {log : AuditLog} {outbox : List OutboxEventRow} {t : AssignmentTable} (now : Nat) :
    situation (planDb log outbox [] List.nodup_nil t) "t1" "p1" now ⟨"asset", "a1", "standard", 0⟩ =
      .ok (planSituation false) := by
  have heligible : decide (0 ≤ now) = true := decide_eq_true (Nat.zero_le now)
  simp only [situation, bind_eq_ok]
  refine ⟨0, rfl, ?_⟩
  rw [heligible]
  rfl

/-- One evaluation leaves the asset with its present assignment. -/
theorem planStart_current : ∃ rows db', evaluateRetentionInventory .zeroKey ⟨1, ⟨1, "e1"⟩, fun _ => "r1"⟩ planStart
      "t1" "p1" "ana" = .ok (rows, db') ∧
    ∀ r ∈ inventoryResources db' "t1" "p1", Current "t1" "p1" db' 1 db'.assignments r := by
  obtain ⟨log, outbox, hevaluated, -⟩ := @evaluate_planDb .empty [] [] List.nodup_nil .empty freeTable 0 [] [] _ ⟨1, "e1"⟩ "r1"
    false (freeRow .active) (situation_free 1) assign_free (Succession.start "t1" 0) (Nat.zero_le 1) List.not_mem_nil rfl
    List.not_mem_nil
  have hnone : NoneReturns "t1" "p1" planStart 1 (inventoryResources planStart "t1" "p1") .empty := by
    refine ⟨fun _ _ _ _ row hrow => absurd hrow List.not_mem_nil, ?_⟩
    intro r hr r' hr' _ _ _ _ _
    rw [List.mem_singleton.mp hr, List.mem_singleton.mp hr']
  have hacts : Along (retentionStep .zeroKey) Regular planStart [evaluatePlan 1 "e1" "r1"] := ⟨hnone, trivial⟩
  exact ⟨_, _, hevaluated, @evaluated_inventory_current .zeroKey planStart rfl _ hacts [] _ _ _ _ List.prefix_rfl _ _ hevaluated⟩

def releasedHold : LegalHoldRow :=
  { planHold.row "h1" with state := .released, releasedBy := some "ana", releasedAt := some 4 }

section History
variable {log : AuditLog} {outbox : List OutboxEventRow} {t : AssignmentTable}

/-- The hold on the project is placed. -/
theorem place_planHold (haudit : Succession "t1" 2 ["e1"] (planHashes.take 1) log) :
    ∃ log', retentionStep .zeroKey (planDb log outbox [] List.nodup_nil t) (.placeHold ⟨2, "e2"⟩ "h1" planHold) =
        planDb log' outbox [planHold.row "h1"] (List.nodup_singleton _) t ∧
      Succession "t1" 3 ["e1", "e2"] (planHashes.take 2) log' := by
  obtain ⟨log', hrecord, hnext⟩ := @Store.record_next .zeroKey (planDb log outbox [] List.nodup_nil t).toStore "t1" 2 ["e1"]
    (planHashes.take 1) _ ⟨2, "e2"⟩ (planHold.auditRequest "h1") haudit (le_refl 2) rfl (by decide) hold_hash
    (by decide)
  refine ⟨log', ?_, hnext⟩
  have hplace : LifecycleService.placeHold .zeroKey ⟨2, "e2"⟩ "h1" (planDb log outbox [] List.nodup_nil t).toHoldDb planHold =
      .ok ("h1", (planDb log' outbox [planHold.row "h1"] (List.nodup_singleton _) t).toHoldDb) := by
    simp only [LifecycleService.placeHold]
    exact bind_eq_ok.mpr ⟨_, rfl, bind_eq_ok.mpr ⟨_, rfl, bind_eq_ok.mpr ⟨_, hrecord, rfl⟩⟩⟩
  simp only [retentionStep, hplace]
  rfl

/-- The hold on the project is released. -/
theorem release_planHold (haudit : Succession "t1" 4 ["e1", "e2", "e3"] (planHashes.take 3) log) :
    ∃ log', retentionStep .zeroKey (planDb log outbox [planHold.row "h1"] (List.nodup_singleton _) t)
          (.releaseHold ⟨4, "e4"⟩ "t1" "p1" "h1" "ana") =
        planDb log' outbox [releasedHold] (List.nodup_singleton _) t ∧
      Succession "t1" 5 ["e1", "e2", "e3", "e4"] (planHashes.take 4) log' := by
  obtain ⟨log', hrecord, hnext⟩ := @Store.record_next .zeroKey
    (planDb log outbox [planHold.row "h1"] (List.nodup_singleton _) t).toStore "t1" 4 ["e1", "e2", "e3"] (planHashes.take 3) _
    ⟨4, "e4"⟩ (releaseAudit (planHold.row "h1") "ana") haudit (le_refl 4) rfl (by decide) release_hash (by decide)
  refine ⟨log', ?_, hnext⟩
  have hrelease : LifecycleService.releaseHold .zeroKey ⟨4, "e4"⟩
      (planDb log outbox [planHold.row "h1"] (List.nodup_singleton _) t).toHoldDb "t1" "p1" "h1" "ana" =
        .ok (planDb log' outbox [releasedHold] (List.nodup_singleton _) t).toHoldDb := by
    simp only [LifecycleService.releaseHold]
    exact bind_eq_ok.mpr ⟨planHold.row "h1", rfl, bind_eq_ok.mpr ⟨_, hrecord, rfl⟩⟩
  simp only [retentionStep, hrelease]
  rfl

end History

theorem run_holdHistory : ∃ log outbox, run (retentionStep .zeroKey) planStart holdHistory =
      planDb log outbox [releasedHold] (List.nodup_singleton _) heldTable ∧
    Succession "t1" 5 ["e1", "e2", "e3", "e4"] (planHashes.take 4) log := by
  obtain ⟨log₁, outbox₁, hfirst, haudit₁⟩ := @evaluate_planDb .empty [] [] List.nodup_nil .empty freeTable 0 [] [] _ ⟨1, "e1"⟩
    "r1" false (freeRow .active) (situation_free 1) assign_free (Succession.start "t1" 0) (Nat.zero_le 1) List.not_mem_nil
    firstEvaluation_hash List.not_mem_nil
  obtain ⟨log₂, hplaced, haudit₂⟩ := @place_planHold log₁ outbox₁ freeTable haudit₁
  obtain ⟨log₃, outbox₃, hheld, haudit₃⟩ := @evaluate_planDb log₂ outbox₁ [planHold.row "h1"] (List.nodup_singleton _) freeTable
    heldTable 3 ["e1", "e2"] (planHashes.take 2) _ ⟨3, "e3"⟩ "r2" true heldRow rfl assign_held haudit₂ (le_refl 3) (by decide)
    heldEvaluation_hash (by decide)
  obtain ⟨log₄, hreleased, haudit₄⟩ := @release_planHold log₃ outbox₃ heldTable haudit₃
  have hstep₁ : retentionStep .zeroKey planStart (evaluatePlan 1 "e1" "r1") =
      planDb log₁ outbox₁ [] List.nodup_nil freeTable := retentionStep_of_ok hfirst
  have hstep₃ : retentionStep .zeroKey (planDb log₂ outbox₁ [planHold.row "h1"] (List.nodup_singleton _) freeTable)
      (evaluatePlan 3 "e3" "r2") = planDb log₃ outbox₃ [planHold.row "h1"] (List.nodup_singleton _) heldTable :=
    retentionStep_of_ok hheld
  refine ⟨log₄, outbox₃, ?_, haudit₄⟩
  rw [holdHistory, run_cons, hstep₁, run_cons, hplaced, run_cons, hstep₃, run_cons, hreleased, run_nil]

/-- After the release the asset is free again, but its only active assignment still says that it is held. -/
theorem released_asset_still_assigned_held : planStart.assignments.rows = [] ∧ ∃ rows db',
    evaluateRetentionInventory .zeroKey ⟨5, ⟨5, "e5"⟩, fun _ => "r3"⟩ (run (retentionStep .zeroKey) planStart holdHistory)
      "t1" "p1" "ana" = .ok (rows, db') ∧
    ¬ ∀ r ∈ inventoryResources db' "t1" "p1", Current "t1" "p1" db' 5 db'.assignments r := by
  obtain ⟨log, outbox, hrun, haudit⟩ := run_holdHistory
  obtain ⟨log', outbox', hlast, -⟩ := @evaluate_planDb log outbox [releasedHold] (List.nodup_singleton _) heldTable heldTable 5
    ["e1", "e2", "e3", "e4"] (planHashes.take 4) _ ⟨5, "e5"⟩ "r3" false (freeRow .superseded) rfl assign_again haudit (le_refl 5)
    (by decide) lastEvaluation_hash (by decide)
  refine ⟨rfl, _, _, hrun ▸ hlast, ?_⟩
  intro hall
  obtain ⟨s, row, hs, hrows, hstates⟩ := hall ⟨"asset", "a1", "standard", 0⟩ (List.mem_singleton.mpr rfl)
  have hfree : situation (planDb log' outbox' [releasedHold] (List.nodup_singleton _) heldTable) "t1" "p1" 5
      ⟨"asset", "a1", "standard", 0⟩ = .ok (planSituation false) := rfl
  cases hfree.symm.trans hs
  have hheld : activeRows "t1" "p1" heldTable "asset" "a1" = [heldRow] := by
    simp [activeRows, heldTable, activeFor, freeRow, heldRow, planAssignment, newAssignment, planSituation]
  cases hheld.symm.trans hrows
  exact absurd hstates.holdStatus_eq (by decide)

end Sample

end Recovery

end Sip
