import Sip.Errors
import Sip.Foundation.Table

/-!
# The rows the services read and write

One record per mapped table, with the column defaults; instants are microseconds.
Columns that no modelled function reads or writes are left out, among them the
random primary key of outbox events.
-/

namespace Sip

set_option autoImplicit false

inductive OperationState where
  | pending | leased | running | succeeded | failed | cancelRequested | cancelled | quarantined
  deriving DecidableEq

def OperationState.value : OperationState → String
  | .pending => "pending"
  | .leased => "leased"
  | .running => "running"
  | .succeeded => "succeeded"
  | .failed => "failed"
  | .cancelRequested => "cancel_requested"
  | .cancelled => "cancelled"
  | .quarantined => "quarantined"

structure OperationRow where
  operationId : String
  tenantId : String
  projectId : String
  operationType : String
  idempotencyKey : String
  inputManifestHash : String
  inputJson : Dict
  traceparent : Option String
  state : OperationState := .pending
  progress : PyFloat := .zero
  attempt : Int := 0
  maxAttempts : Int := 3
  leaseOwner : Option String := none
  leaseExpiresAt : Option Nat := none
  checkpointJson : Dict := []
  outputJson : Dict := []
  outputHash : Option String := none
  errorJson : Dict := []
  cancelRequested : Bool := false
  createdBy : String
  createdAt : Nat
  updatedAt : Nat

structure ProjectRow where
  projectId : String
  tenantId : String
  classification : String
  status : String := "active"

structure OutboxEventRow where
  eventType : String
  schemaVersion : String
  tenantId : String
  projectId : String
  aggregateType : String
  aggregateId : String
  producer : String
  classification : String
  actorId : Option String
  workloadIdentity : Option String
  traceId : Option String
  correlationId : String
  causationId : Option String := none
  payloadJson : Dict
  payloadHash : String
  occurredAt : Nat

/-- The columns of an audit event that its hash covers, the previous hash apart. -/
structure AuditFields where
  auditId : String
  tenantId : String
  projectId : Option String
  actorId : String
  action : String
  resourceType : String
  resourceId : String
  outcome : String
  detailsJson : Dict
  occurredAt : Nat

structure AuditEventRow extends AuditFields where
  previousHash : String
  eventHash : String
  signature : String

abbrev AuditLog := Table AuditEventRow (fun row => row.auditId)

structure Store where
  operations : Table OperationRow (fun row => row.operationId)
  projects : Table ProjectRow (fun row => row.projectId)
  outbox : List OutboxEventRow
  audit : AuditLog

def Store.empty : Store := ⟨.empty, .empty, [], .empty⟩

/-- `session.get(OperationRow, operation_id)`. -/
def Store.operation? (s : Store) (operationId : String) : Option OperationRow := s.operations.get? operationId

/-- Write the changed columns of an operation back. -/
def Store.saveOperation (s : Store) (row : OperationRow) : Store := { s with operations := s.operations.set row }

end Sip
