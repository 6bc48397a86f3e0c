import Sip.Lifecycle.Holds

/-!
# The state of the recovery service

The rows that the recovery service reads and writes, with the database of the assets
and of the holds below them. An instant is a number of microseconds, and a sum that
leaves the calendar raises.
-/

namespace Sip

set_option autoImplicit false

structure MemoryRecordRow where
  recordId : String
  tenantId : String
  projectId : String
  subjectId : Option String
  dataJson : Dict
  evidenceAssetIdsJson : List String
  generatedLineageJson : Option Dict
  createdAt : Nat
  supersededAt : Option Nat := none

/-- The columns of a scene commit that the inventory reads. -/
structure CommitRecord where
  commitId : String
  tenantId : String
  projectId : String
  createdAt : Nat

structure ExportRow where
  exportId : String
  tenantId : String
  projectId : String
  format : String
  status : String
  manifestJson : Dict
  rootHash : String
  path : String
  createdBy : String
  createdAt : Nat

structure RetentionRuleRow where
  retentionRuleId : String
  tenantId : String
  projectId : Option String
  retentionClass : String
  policySource : String
  minimumDays : Int
  active : Bool := true
  version : Int

inductive AssignmentState where
  | active | superseded
  deriving DecidableEq

def AssignmentState.value : AssignmentState → String
  | .active => "active"
  | .superseded => "superseded"

structure RetentionAssignmentRow where
  retentionAssignmentId : String
  tenantId : String
  projectId : String
  resourceType : String
  resourceId : String
  retentionClass : String
  policySource : String
  holdStatus : String
  deletionEligibleAt : Nat
  deletionEligible : Bool
  assignmentHash : String
  state : AssignmentState := .active
  evaluatedBy : String

structure RecoveryDb extends HoldDb where
  memories : Table MemoryRecordRow (fun row => row.recordId)
  commits : Table CommitRecord (fun row => row.commitId)
  exports : Table ExportRow (fun row => row.exportId)
  rules : Table RetentionRuleRow (fun row => row.retentionRuleId)
  assignments : Table RetentionAssignmentRow (fun row => row.retentionAssignmentId)

def RecoveryDb.empty : RecoveryDb := {
  Store.empty with
  assets := .empty, refs := .empty, holds := .empty, memories := .empty, commits := .empty, exports := .empty,
  rules := .empty, assignments := .empty }

section Calendar

/-- `datetime.max`. -/
def lastInstant : Int := 3652059 * 86400 * 1000000 - 1

/-- `instant + timedelta(days=n)`. -/
def plusDays (instant : Nat) (days : Int) : Except Raised Nat := do
  raiseIf (999999999 < days ∨ days < -999999999) (.overflowError "days; must have magnitude <= 999999999")
  let sum := (instant : Int) + days * (86400 * 1000000)
  raiseIf (sum < 0 ∨ lastInstant < sum) (.overflowError "date value out of range")
  return sum.toNat

end Calendar

namespace Recovery

/-- `_require_project`. -/
def requireProject (s : Store) (tenantId projectId : String) : Except Raised ProjectRow :=
  orRaise ((s.projects.get? projectId).filter fun project => project.tenantId = tenantId) (notFoundError "project" projectId)

/-- What `_audit_and_emit` records about one resource. -/
structure Notice where
  tenantId : String
  projectId : String
  actorId : String
  action : String
  resourceType : String
  resourceId : String
  details : Dict
  eventType : String
  payload : Dict

namespace Notice
variable (n : Notice)

def auditRequest : AuditRequest where
  tenantId := n.tenantId
  projectId := some n.projectId
  actorId := n.actorId
  action := n.action
  resourceType := n.resourceType
  resourceId := n.resourceId
  outcome := "allowed"
  details := some n.details

def eventRequest : EventRequest where
  eventType := n.eventType
  schemaVersion := "1.0.0"
  tenantId := n.tenantId
  projectId := n.projectId
  aggregateType := n.resourceType
  aggregateId := n.resourceId
  payload := n.payload
  producer := "recovery-control"
  actorId := some n.actorId
  workloadIdentity := none
  correlationId := n.resourceId

end Notice

/-- `_audit_and_emit`. -/
def auditAndEmit (svc : AuditService) (stamp : Stamp) (s : Store) (n : Notice) : Except Raised Store := do
  let s ← s.record svc stamp n.auditRequest
  s.emit stamp n.eventRequest

theorem auditAndEmit_eq_ok {svc : AuditService} {stamp : Stamp} {s s' : Store} {n : Notice}
    (h : auditAndEmit svc stamp s n = .ok s') : ∃ audit outbox, s' = { s with audit, outbox } := by
  obtain ⟨recorded, hrecord, hemit⟩ := bind_eq_ok.mp h
  obtain ⟨audit, rfl⟩ := Store.record_eq_ok hrecord
  obtain ⟨outbox, rfl⟩ := Store.emit_eq_ok hemit
  exact ⟨audit, outbox, rfl⟩

end Recovery

end Sip
