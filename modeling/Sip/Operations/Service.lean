import Sip.Audit.Service
import Sip.Events
import Sip.Foundation.Runs

/-!
# The operation service

Each method is a function from the store to a result and a new store; a method that
raises leaves its transaction rolled back. A call happens at one instant, which is
the clock value it is given, and draws the identifiers it is given. Methods return
the row where the service renders it as a dictionary.
-/

namespace Sip

set_option autoImplicit false

namespace OperationRow

def leaseExpired (row : OperationRow) (now : Nat) : Bool := row.leaseExpiresAt.any (· ≤ now)

/-- `row.lease_owner and not lease_expired and row.lease_owner != worker_id`; an empty owner counts as none. -/
def leasedToOther (row : OperationRow) (workerId : String) (now : Nat) : Bool :=
  row.leaseOwner.any (fun owner => owner ≠ "" ∧ owner ≠ workerId) && !row.leaseExpired now

def ownedBy (row : OperationRow) (workerId : String) (now : Nat) : Bool :=
  row.leaseOwner = some workerId ∧ row.leaseExpiresAt.any (now < ·) = true

def leasable (row : OperationRow) : Prop :=
  row.state = .pending ∨ row.state = .leased ∨ row.state = .running ∨ row.state = .failed

instance (row : OperationRow) : Decidable row.leasable := inferInstanceAs (Decidable (_ ∨ _))

def released (row : OperationRow) : OperationRow := { row with leaseOwner := none, leaseExpiresAt := none }

end OperationRow

/-- What `create` asks the deployment service; `str` is still to be applied to the worker class. -/
structure AdmissionRequest where
  tenantId : String
  projectId : String
  admissionType : String
  region : Json
  workerClass : Json
  operationType : String
  computeProfile : Json
  actorId : String

/-- The deployment service records its decisions in transactions of its own and does
not touch operations. -/
structure DeploymentService where
  authorizeIfConfigured : Store → Nat → AdmissionRequest → Store × Except Raised Unit
  operations_eq : ∀ s now r, (authorizeIfConfigured s now r).1.operations = s.operations

structure OperationService where
  audit : AuditService
  deployment : Option DeploymentService := none

structure CreateRequest where
  tenantId : String
  projectId : String
  operationType : String
  idempotencyKey : String
  inputManifest : Dict
  actorId : String
  maxAttempts : Int := 3
  traceparent : Option String := none

namespace OperationService

def outbox (s : Store) (now : Nat) (row : OperationRow) (eventType : String) (payload : Dict)
    (actorId : Option String := none) (workloadIdentity : Option String := none) : Except Raised Store := do
  let event ← createEvent s now {
    eventType, schemaVersion := "1.0.0", tenantId := row.tenantId, projectId := row.projectId,
    aggregateType := "operation", aggregateId := row.operationId, payload, producer := "workflow-service",
    actorId, workloadIdentity, traceparent := row.traceparent, correlationId := row.operationId }
  return { s with outbox := s.outbox ++ [event] }

def find (s : Store) (operationId : String) : Except Raised OperationRow :=
  orRaise (s.operation? operationId) (notFoundError "operation" operationId)

def ownedLease (s : Store) (now : Nat) (operationId workerId : String) : Except Raised OperationRow := do
  let row ← find s operationId
  raiseIf (row.ownedBy workerId now = false)
    (conflictError "OPERATION_LEASE_INVALID" "worker does not hold a valid lease")
  return row

def checkLeaseSeconds (leaseSeconds : Int) : Except Raised Unit :=
  raiseIf (leaseSeconds < 1 ∨ 3600 < leaseSeconds)
    (validationError "LEASE_TTL_INVALID" "lease duration must be between 1 and 3600 seconds")

def expiry (now : Nat) (leaseSeconds : Int) : Nat := now + seconds leaseSeconds.toNat

section Create
variable (ops : OperationService)

def authorize (s : Store) (now : Nat) (r : CreateRequest) : Store × Except Raised Unit :=
  match ops.deployment with
  | none => (s, .ok ())
  | some deployment => deployment.authorizeIfConfigured s now {
      tenantId := r.tenantId, projectId := r.projectId, admissionType := "worker_schedule",
      region := r.inputManifest.get "deployment_region",
      workerClass := (r.inputManifest.get? "worker_class").getD (.str r.operationType),
      operationType := r.operationType, computeProfile := r.inputManifest.get "compute_profile",
      actorId := r.actorId }

def prior? (s : Store) (r : CreateRequest) : Option OperationRow :=
  s.operations.rows.find? fun row => row.tenantId = r.tenantId ∧ row.projectId = r.projectId ∧
    row.operationType = r.operationType ∧ row.idempotencyKey = r.idempotencyKey

def newRow (now : Nat) (operationId : String) (r : CreateRequest) (traceparent : Option String) : OperationRow := {
  operationId, tenantId := r.tenantId, projectId := r.projectId, operationType := r.operationType,
  idempotencyKey := r.idempotencyKey, inputManifestHash := canonicalSha256 (.obj r.inputManifest),
  inputJson := r.inputManifest, traceparent, maxAttempts := r.maxAttempts, createdBy := r.actorId,
  createdAt := now, updatedAt := now }

/-- The transaction of `create`, after admission. -/
def insertOperation (s : Store) (now : Nat) (operationId auditId : String) (r : CreateRequest) :
    Except Raised (Store × OperationRow) := do
  let inputHash := canonicalSha256 (.obj r.inputManifest)
  let traceparent ← normalizeTraceparent r.traceparent
  match prior? s r with
  | some prior =>
    raiseIf (prior.inputManifestHash ≠ inputHash)
      (conflictError "IDEMPOTENCY_PAYLOAD_CONFLICT" "idempotency key was used with different input")
    return (s, prior)
  | none =>
    let row := newRow now operationId r traceparent
    let details : Dict := [("operation_type", .str r.operationType), ("input_manifest_hash", .str inputHash)]
    let s ← outbox s now row "operation.created" details (some r.actorId)
    let operations ← orRaise (s.operations.insert? row) (.integrityError "operations.operation_id")
    let audit ← ops.audit.append s.audit now auditId {
      tenantId := r.tenantId, projectId := some r.projectId, actorId := r.actorId, action := "operation:create",
      resourceType := "operation", resourceId := operationId, outcome := "allowed", details := some details }
    return ({ s with operations, audit }, row)

def create (s : Store) (now : Nat) (operationId auditId : String) (r : CreateRequest) :
    Store × Except Raised OperationRow :=
  if r.idempotencyKey = "" then
    (s, .error (validationError "IDEMPOTENCY_KEY_REQUIRED" "operation requires an idempotency key"))
  else
    match ops.authorize s now r with
    | (s, .error e) => (s, .error e)
    | (s, .ok _) =>
      match ops.insertOperation s now operationId auditId r with
      | .error e => (s, .error e)
      | .ok (s, row) => (s, .ok row)

end Create

section Leases
variable (s : Store) (now : Nat) (operationId workerId : String)

def lease (leaseSeconds : Int := 60) : Except Raised (Store × OperationRow) := do
  checkLeaseSeconds leaseSeconds
  let row ← find s operationId
  let expired := row.leaseExpired now
  raiseIf (¬ row.leasable) (conflictError "OPERATION_NOT_LEASABLE"
    "operation is in a terminal or cancelling state" [("state", .str row.state.value)])
  raiseIf (row.leasedToOther workerId now = true)
    (conflictError "OPERATION_ALREADY_LEASED" "operation has an active lease")
  raiseIf (row.maxAttempts ≤ row.attempt ∧ row.state = .failed)
    (conflictError "OPERATION_ATTEMPTS_EXHAUSTED" "operation exhausted retry attempts")
  let attempt := if row.state = .pending ∨ row.state = .failed ∨ expired = true then row.attempt + 1 else row.attempt
  let row := { row with
    attempt, state := .leased, leaseOwner := some workerId, leaseExpiresAt := some (expiry now leaseSeconds),
    updatedAt := now }
  let s ← outbox (s.saveOperation row) now row "operation.leased" [("worker_id", .str workerId), ("attempt", .int row.attempt)]
    none (some workerId)
  return (s, row)

def start : Except Raised (Store × OperationRow) := do
  let row ← ownedLease s now operationId workerId
  let row := if row.cancelRequested then { row.released with state := .cancelled, updatedAt := now }
    else { row with state := .running, updatedAt := now }
  return (s.saveOperation row, row)

def heartbeat (leaseSeconds : Int := 60) : Except Raised (Store × OperationRow) := do
  checkLeaseSeconds leaseSeconds
  let row ← ownedLease s now operationId workerId
  let row := { row with leaseExpiresAt := some (expiry now leaseSeconds), updatedAt := now }
  let s ← outbox (s.saveOperation row) now row "operation.lease_renewed"
    [("worker_id", .str workerId), ("lease_seconds", .int leaseSeconds)] none (some workerId)
  return (s, row)

end Leases

section Checkpoints

/-- The value `sequence <= prior_sequence` compares with, if it can. -/
def comparable? : Json → Option Rat
  | .int n => some n
  | .bool b => some (if b then 1 else 0)
  | .float x => some x.value
  | _ => none

def checkSequence (sequence prior : Json) : Except Raised Unit :=
  match sequence with
  | .null => .ok ()
  | _ => do
    let invalid := validationError "CHECKPOINT_SEQUENCE_INVALID" "checkpoint sequence must be a positive integer"
    let n ← orRaise sequence.asInt? invalid
    raiseIf (n < 1) invalid
    match prior with
    | .null => return ()
    | _ =>
      let bound ← orRaise (comparable? prior) (.typeError "'<=' not supported between these instances")
      raiseIf ((n : Rat) ≤ bound) (conflictError "CHECKPOINT_SEQUENCE_NOT_MONOTONIC"
        "checkpoint sequence must advance monotonically" [("prior_sequence", prior), ("sequence", sequence)])

/-- The manifest that a resumable checkpoint is persisted with. -/
def resumeManifest (checkpoint : Dict) : Except Raised Dict :=
  match checkpoint.get "manifest" with
  | .null => .ok (checkpoint.filter fun field => field.1 ≠ "manifest" ∧ field.1 ≠ "checkpoint_hash")
  | .obj manifest => .ok manifest
  | _ => .error (validationError "CHECKPOINT_MANIFEST_INVALID" "resumable checkpoint manifest must be an object")

def persisted (checkpoint : Dict) : Except Raised Dict :=
  if (checkpoint.get "safe_to_resume").truthy then do
    let manifest ← resumeManifest checkpoint
    return (checkpoint.set "manifest" (.obj manifest)).set "checkpoint_hash" (.str (canonicalSha256 (.obj manifest)))
  else .ok checkpoint

def checkpoint (s : Store) (now : Nat) (operationId workerId : String) (progress : PyFloat) (checkpoint : Dict) :
    Except Raised (Store × OperationRow) := do
  raiseIf (¬ (0 ≤ progress.value ∧ progress.value ≤ 1))
    (validationError "PROGRESS_INVALID" "progress must be in [0, 1]")
  let row ← ownedLease s now operationId workerId
  let sequence := checkpoint.get "sequence"
  checkSequence sequence (row.checkpointJson.get "sequence")
  raiseIf (progress.value < row.progress.value) (conflictError "CHECKPOINT_PROGRESS_REGRESSION"
    "checkpoint progress cannot move backwards"
    [("prior_progress", .float row.progress), ("progress", .float progress)])
  let persistedCheckpoint ← persisted checkpoint
  let checkpointHash := canonicalSha256 (.obj persistedCheckpoint)
  let row := if row.cancelRequested then { row.released with state := .cancelled, updatedAt := now }
    else { row with state := .running, progress, checkpointJson := persistedCheckpoint, updatedAt := now }
  let s ← outbox (s.saveOperation row) now row "operation.checkpointed"
    [("progress", .float progress), ("sequence", sequence), ("stage", checkpoint.get "stage"),
     ("safe_to_resume", .bool (checkpoint.get "safe_to_resume").truthy), ("checkpoint_hash", .str checkpointHash)]
    none (some workerId)
  return (s, row)

end Checkpoints

section Endings
variable (s : Store) (now : Nat) (operationId : String)

def requestCancel (actorId : String) : Except Raised (Store × OperationRow) := do
  let row ← find s operationId
  if row.state = .succeeded ∨ row.state = .failed ∨ row.state = .cancelled then return (s, row)
  else
    let row := { row with cancelRequested := true, state := .cancelRequested, updatedAt := now }
    let s ← outbox (s.saveOperation row) now row "operation.cancel_requested" [("actor_id", .str actorId)] (some actorId)
    return (s, row)

def complete (workerId : String) (output : Dict) (claimedOutputHash : Option String := none) :
    Except Raised (Store × OperationRow) := do
  let calculated := canonicalSha256 (.obj output)
  raiseIf (claimedOutputHash.any (· ≠ calculated) = true) (validationError "WORKER_OUTPUT_HASH_MISMATCH"
    "worker output hash does not match the submitted manifest"
    [("claimed", .ofOption claimedOutputHash), ("calculated", .str calculated)])
  let row ← ownedLease s now operationId workerId
  raiseIf (row.cancelRequested = true)
    (conflictError "OPERATION_CANCEL_REQUESTED" "cancelled operation cannot publish output")
  let row := { row.released with
    outputJson := output, outputHash := some calculated, progress := .one, state := .succeeded, updatedAt := now }
  let s ← outbox (s.saveOperation row) now row "operation.succeeded" [("output_hash", .str calculated)] none (some workerId)
  return (s, row)

def failure (code message : String) (retryable : Bool) : Dict :=
  [("code", .str code), ("message", .str message), ("retryable", .bool retryable)]

def fail (workerId code message : String) (retryable : Bool) : Except Raised (Store × OperationRow) := do
  let row ← ownedLease s now operationId workerId
  let row := { row.released with
    errorJson := failure code message retryable, state := .failed, updatedAt := now }
  let s ← outbox (s.saveOperation row) now row "operation.failed" row.errorJson none (some workerId)
  return (s, row)

end Endings

section Reconciliation

/-- The rows `reconcile_expired_leases` selects. -/
def abandoned (row : OperationRow) (now : Nat) : Bool :=
  (row.state = .leased ∨ row.state = .running) ∧ row.leaseExpired now = true

def leaseExpiredError : Dict :=
  failure "OPERATION_LEASE_EXPIRED_UNSAFE" "expired lease lacked a safe resumable checkpoint" false

def resumable (row : OperationRow) : Bool :=
  (row.checkpointJson.get "safe_to_resume").truthy ∧ row.attempt < row.maxAttempts

/-- One turn of the loop: whether the lease was released, and the store after it. -/
def reconcileRow (s : Store) (now : Nat) (row : OperationRow) : Except Raised (Store × Bool) := do
  let freed := { row.released with updatedAt := now }
  if resumable row then
    let freed := { freed with state := .pending }
    let s ← outbox (s.saveOperation freed) now freed "operation.lease_released"
      [("checkpoint_hash", .str (canonicalSha256 (.obj row.checkpointJson))), ("attempt", .int row.attempt)]
    return (s, true)
  else
    let freed := { freed with state := .quarantined, errorJson := leaseExpiredError }
    let s ← outbox (s.saveOperation freed) now freed "operation.quarantined" leaseExpiredError
    return (s, false)

structure Reconciled where
  released : List String := []
  quarantined : List String := []

def reconcileRows (now : Nat) : Store → List OperationRow → Except Raised (Store × Reconciled)
  | s, [] => .ok (s, {})
  | s, row :: rows => do
    let (s, freed) ← reconcileRow s now row
    let (s, rest) ← reconcileRows now s rows
    return (s, if freed then { rest with released := row.operationId :: rest.released }
      else { rest with quarantined := row.operationId :: rest.quarantined })

def reconcileExpiredLeases (s : Store) (now : Nat) : Except Raised (Store × Reconciled) :=
  reconcileRows now s (s.operations.rows.filter fun row => abandoned row now)

end Reconciliation

end OperationService

inductive Call where
  | create (operationId auditId : String) (request : CreateRequest)
  | lease (operationId workerId : String) (leaseSeconds : Int)
  | start (operationId workerId : String)
  | heartbeat (operationId workerId : String) (leaseSeconds : Int)
  | checkpoint (operationId workerId : String) (progress : PyFloat) (checkpoint : Dict)
  | requestCancel (operationId actorId : String)
  | complete (operationId workerId : String) (output : Dict) (claimedOutputHash : Option String)
  | fail (operationId workerId code message : String) (retryable : Bool)
  | reconcileExpiredLeases
  | get (operationId : String)

/-- A call and the instant it happens at. -/
structure Event where
  now : Nat
  call : Call

namespace OperationService

def commit {α : Type} (s : Store) (result : Except Raised (Store × α)) : Store × Except Raised Unit :=
  match result with
  | .ok (s, _) => (s, .ok ())
  | .error e => (s, .error e)

def perform (ops : OperationService) (s : Store) (now : Nat) : Call → Store × Except Raised Unit
  | .create operationId auditId request =>
    let (s, result) := ops.create s now operationId auditId request
    (s, result.map fun _ => ())
  | .lease operationId workerId leaseSeconds => commit s (lease s now operationId workerId leaseSeconds)
  | .start operationId workerId => commit s (start s now operationId workerId)
  | .heartbeat operationId workerId leaseSeconds => commit s (heartbeat s now operationId workerId leaseSeconds)
  | .checkpoint operationId workerId progress checkpoint =>
    commit s (OperationService.checkpoint s now operationId workerId progress checkpoint)
  | .requestCancel operationId actorId => commit s (requestCancel s now operationId actorId)
  | .complete operationId workerId output claimed => commit s (complete s now operationId workerId output claimed)
  | .fail operationId workerId code message retryable =>
    commit s (fail s now operationId workerId code message retryable)
  | .reconcileExpiredLeases => commit s (reconcileExpiredLeases s now)
  | .get operationId => (s, (find s operationId).map fun _ => ())

def step (ops : OperationService) (s : Store) (event : Event) : Store := (ops.perform s event.now event.call).1

/-- The store after the calls, starting without operations; the other tables may hold anything. -/
def reached (ops : OperationService) (base : Store) (events : List Event) : Store :=
  run ops.step { base with operations := .empty } events

end OperationService

end Sip
