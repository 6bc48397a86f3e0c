import Sip.Operations.Service

/-!
# Worker leases and progress records

The authority turns a leased operation into an envelope for the worker. The envelope
carries what a resumed attempt starts from: the stored checkpoint and the progress.
Its random identifiers are inputs; the cancellation token and the signed token, which
no modelled function reads, are left out. A progress record is what a worker submits
as a checkpoint; the library that parses its fields is a parameter.
-/

namespace Sip

set_option autoImplicit false

structure WorkerResourceLimits where
  maxWallSeconds : Nat := 900
  maxOutputBytes : Nat := 268435456
  wall : 1 ≤ maxWallSeconds ∧ maxWallSeconds ≤ 86400 := by decide
  output : 1 ≤ maxOutputBytes := by decide

/-- The columns of a worker manifest that issuing a lease reads. -/
structure WorkerManifest where
  name : String
  workloadIdentity : String
  capabilities : List String
  resourceLimits : WorkerResourceLimits
  manifestSha256 : String
  nonempty : capabilities ≠ []
  unique : capabilities.Nodup

structure OutputStagingScope where
  scopeId : String
  tenantId : String
  projectId : String
  operationId : String
  maximumBytes : Nat
  expiresAt : Nat

structure WorkerLease where
  leaseId : String
  runId : String
  operationId : String
  attempt : Int
  operationType : String
  adapterProfile : String
  inputManifest : Dict
  inputManifestHash : String
  inputByteCount : Nat
  traceparent : Option String
  resumeCheckpoint : Dict
  resumeProgress : PyFloat
  outputStagingScope : OutputStagingScope
  resourceLimits : WorkerResourceLimits
  deadlineAt : Nat
  workloadIdentity : String
  capabilities : List String
  workerManifestSha256 : String
  issuedAt : Nat
  expiresAt : Nat

namespace WorkerLease

/-- The constraints on single fields. -/
def checkFields (lease : WorkerLease) : Except Raised Unit := do
  raiseIf (lease.attempt < 1) (.valueError "attempt: Input should be greater than or equal to 1")
  raiseIf (isDigest lease.inputManifestHash = false) (.valueError "input_manifest_hash: String should match pattern")
  raiseIf (lease.resumeProgress.value < 0)
    (.valueError "resume_progress: Input should be greater than or equal to 0")
  raiseIf (1 < lease.resumeProgress.value)
    (.valueError "resume_progress: Input should be less than or equal to 1")
  raiseIf (lease.outputStagingScope.maximumBytes = 0) (.valueError "maximum_bytes: Input should be greater than 0")
  raiseIf (lease.capabilities = []) (.valueError "capabilities: List should have at least 1 item")
  raiseIf (isDigest lease.workerManifestSha256 = false)
    (.valueError "worker_manifest_sha256: String should match pattern")

def checkIntegrity (lease : WorkerLease) : Except Raised Unit := do
  let traceparent ← normalizeTraceparent lease.traceparent
  raiseIf (lease.traceparent ≠ traceparent) (.valueError "worker lease traceparent is not normalized")
  raiseIf (canonicalSha256 (.obj lease.inputManifest) ≠ lease.inputManifestHash)
    (.valueError "lease input manifest hash mismatch")
  raiseIf ((canonicalJson (.obj lease.inputManifest)).length ≠ lease.inputByteCount)
    (.valueError "lease input byte count mismatch")
  raiseIf (lease.operationType ∉ lease.capabilities) (.valueError "lease capability does not include operation type")
  raiseIf (lease.expiresAt < lease.deadlineAt) (.valueError "lease deadline cannot exceed lease expiry")
  raiseIf (lease.outputStagingScope.operationId ≠ lease.operationId)
    (.valueError "output staging scope is not bound to operation")
  raiseIf (lease.outputStagingScope.expiresAt ≠ lease.expiresAt)
    (.valueError "output staging scope expiry must match lease expiry")
  raiseIf (lease.deadlineAt ≤ lease.issuedAt) (.valueError "lease deadline must be after issue time")

end WorkerLease

/-- `float(progress or 0.0)`. -/
def resumeProgress (progress : PyFloat) : PyFloat := if progress.value = 0 then .zero else progress

theorem resumeProgress_value (progress : PyFloat) : (resumeProgress progress).value = progress.value := by
  unfold resumeProgress
  split
  · rename_i h
    rw [h, PyFloat.value_zero]
  · rfl

/-- The identifiers `issue` draws. -/
structure LeaseIds where
  leaseId : String
  runId : String
  scopeId : String

/-- `WorkerLeaseAuthority.issue`, for the operation that `OperationService.lease` returned. -/
def issue (operation : OperationRow) (manifest : WorkerManifest) (leaseSeconds : Int) (adapterProfile : String)
    (now : Nat) (ids : LeaseIds) : Except Raised WorkerLease := do
  raiseIf (operation.operationType ∉ manifest.capabilities)
    (validationError "WORKER_CAPABILITY_DENIED" "manifest does not permit operation type")
  let expiry := OperationService.expiry now leaseSeconds
  let lease : WorkerLease := {
    leaseId := ids.leaseId, runId := ids.runId, operationId := operation.operationId, attempt := operation.attempt,
    operationType := operation.operationType, adapterProfile, inputManifest := operation.inputJson,
    inputManifestHash := operation.inputManifestHash,
    inputByteCount := (canonicalJson (.obj operation.inputJson)).length, traceparent := operation.traceparent,
    resumeCheckpoint := operation.checkpointJson, resumeProgress := resumeProgress operation.progress,
    outputStagingScope := {
      scopeId := ids.scopeId, tenantId := operation.tenantId, projectId := operation.projectId,
      operationId := operation.operationId, maximumBytes := manifest.resourceLimits.maxOutputBytes,
      expiresAt := expiry },
    resourceLimits := manifest.resourceLimits,
    deadlineAt := now + seconds (min leaseSeconds.toNat manifest.resourceLimits.maxWallSeconds),
    workloadIdentity := manifest.workloadIdentity, capabilities := manifest.capabilities,
    workerManifestSha256 := manifest.manifestSha256, issuedAt := now, expiresAt := expiry }
  lease.checkFields
  lease.checkIntegrity
  return lease

theorem issue_eq_ok {operation : OperationRow} {manifest : WorkerManifest} {leaseSeconds : Int}
    {adapterProfile : String} {now : Nat} {ids : LeaseIds} {lease : WorkerLease}
    (h : issue operation manifest leaseSeconds adapterProfile now ids = .ok lease) :
    lease.operationId = operation.operationId ∧ lease.resumeCheckpoint = operation.checkpointJson ∧
      lease.resumeProgress.value = operation.progress.value := by
  simp only [issue, bind_eq_ok, raiseIf_eq_ok, exists_const] at h
  obtain ⟨_, _, _, _, _, h⟩ := h
  cases h
  exact ⟨rfl, rfl, resumeProgress_value _⟩

structure ProgressRecord where
  sequence : Int
  stage : String
  progress : PyFloat
  completedUnits : Option Int
  totalUnits : Option Int
  unit : Option String
  warnings : List String
  quality : Dict
  resourceUse : Dict
  safeToResume : Bool
  payload : Dict
  checkpointHash : String

/-- What building a record takes from outside: the text form of a value, and the schema
library, which brings the given fields to their declared types. An integer that is
given for an integer field is kept. -/
structure RecordSchema where
  str : Json → String
  coerce : Dict → Except Raised ProgressRecord
  sequence_eq : ∀ {fields : Dict} {n : Int} {record : ProgressRecord}, fields.get "sequence" = .int n →
    coerce fields = .ok record → record.sequence = n

namespace ProgressRecord

/-- `model_dump(mode="json", exclude={"checkpoint_hash"})`. -/
def hashedFields (record : ProgressRecord) : Dict := [
  ("sequence", .int record.sequence),
  ("stage", .str record.stage),
  ("progress", .float record.progress),
  ("completed_units", record.completedUnits.elim .null .int),
  ("total_units", record.totalUnits.elim .null .int),
  ("unit", .ofOption record.unit),
  ("warnings", .arr (record.warnings.map .str)),
  ("quality", .obj record.quality),
  ("resource_use", .obj record.resourceUse),
  ("safe_to_resume", .bool record.safeToResume),
  ("payload", .obj record.payload)]

/-- `model_dump(mode="json")`. -/
def modelDump (record : ProgressRecord) : Dict :=
  record.hashedFields ++ [("checkpoint_hash", .str record.checkpointHash)]

/-- The constraints on single fields. -/
def checkFields (record : ProgressRecord) : Except Raised Unit := do
  raiseIf (record.sequence < 1) (.valueError "sequence: Input should be greater than or equal to 1")
  raiseIf (record.stage = "") (.valueError "stage: String should have at least 1 character")
  raiseIf (record.progress.value < 0) (.valueError "progress: Input should be greater than or equal to 0")
  raiseIf (1 < record.progress.value) (.valueError "progress: Input should be less than or equal to 1")
  raiseIf (record.completedUnits.any (· < 0))
    (.valueError "completed_units: Input should be greater than or equal to 0")
  raiseIf (record.totalUnits.any (· < 0)) (.valueError "total_units: Input should be greater than or equal to 0")
  raiseIf (isDigest record.checkpointHash = false) (.valueError "checkpoint_hash: String should match pattern")

def checkIntegrity (record : ProgressRecord) : Except Raised Unit := do
  raiseIf (record.totalUnits.isSome ∧ record.completedUnits.isNone)
    (.valueError "completed units are required when total units are declared")
  raiseIf (record.completedUnits.any fun completed => record.totalUnits.any (· < completed))
    (.valueError "completed units cannot exceed total units")
  raiseIf (record.checkpointHash ≠ canonicalSha256 (.obj record.hashedFields))
    (.valueError "checkpoint hash does not match progress record")

/-- `ProgressRecord(**fields)`. -/
def ofFields (schema : RecordSchema) (fields : Dict) : Except Raised ProgressRecord := do
  let record ← schema.coerce fields
  record.checkFields
  record.checkIntegrity
  return record

theorem ofFields_sequence {schema : RecordSchema} {fields : Dict} {n : Int} {record : ProgressRecord}
    (hn : fields.get "sequence" = .int n) (h : ofFields schema fields = .ok record) : record.sequence = n := by
  simp only [ofFields, bind_eq_ok] at h
  obtain ⟨_, hcoerce, _, _, _, _, h⟩ := h
  cases h
  exact schema.sequence_eq hn hcoerce

end ProgressRecord

def sampleManifest : WorkerManifest where
  name := "scan-worker"
  workloadIdentity := "spiffe://sip/worker/scan"
  capabilities := ["scan"]
  resourceLimits := {}
  manifestSha256 := genesisHash
  nonempty := by simp
  unique := by simp

end Sip
