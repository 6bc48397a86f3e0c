import Sip.Audit.Chain
import Sip.Operations.Lifting

/-!
# Which calls succeed

The events of the service are registered and their payloads are flat, so publishing
one depends on the size of its payload alone. For each call there is a condition on the
row under which it goes through, with the row it leaves. A lease is granted exactly
under such a condition, and reconciliation always goes through as long as the attempt
counters fit their column.
-/

namespace Sip

set_option autoImplicit false

open OperationService

section Publishing

def publishedEvents : List String := [
  "operation.created", "operation.leased", "operation.lease_renewed", "operation.checkpointed",
  "operation.cancel_requested", "operation.succeeded", "operation.failed", "operation.lease_released",
  "operation.quarantined"]

theorem getEvent_of_published {eventType : String} (h : eventType ∈ publishedEvents) :
    getEvent eventType "1.0.0" = .ok ⟨eventType, "1.0.0", "operation", "workflow-service"⟩ := by
  simp only [publishedEvents, List.mem_cons, List.not_mem_nil, or_false] at h
  rcases h with rfl | rfl | rfl | rfl | rfl | rfl | rfl | rfl | rfl <;> rfl

theorem outbox_ok_iff {s : Store} {now : Nat} {row : OperationRow} {eventType : String} {payload : Dict}
    {actorId workload : Option String} (h : eventType ∈ publishedEvents) :
    (∃ s', outbox s now row eventType payload actorId workload = .ok s') ↔ validatePayload payload = .ok () := by
  simp only [outbox, createEvent, bind_eq_ok, raiseIf_eq_ok, exists_const]
  constructor
  · intro h
    obtain ⟨_, _, ⟨_, _, _, _, _, hpayload, _⟩, _⟩ := h
    exact hpayload
  · intro hpayload
    exact ⟨_, _, ⟨_, getEvent_of_published h, by simp, by simp, (), hpayload, rfl⟩, rfl⟩

/-- The keys of the payloads of these events. -/
def publishedKeys : List String := [
  "operation_type", "input_manifest_hash", "worker_id", "attempt", "lease_seconds", "progress", "sequence", "stage",
  "safe_to_resume", "checkpoint_hash", "actor_id", "output_hash", "code", "message", "retryable"]

theorem forbidden_of_published {key : String} (h : key ∈ publishedKeys) : forbidden key = false := by
  have hall : publishedKeys.all (fun key => forbidden key = false) = true := by decide
  simpa using List.all_eq_true.mp hall key h

theorem validatePayload_published {payload : Dict} (h : ∀ p ∈ payload, p.1 ∈ publishedKeys ∧ p.2.Scalar)
    (hsize : (payload.map fieldSize).sum ≤ 16382) : validatePayload payload = .ok () :=
  validatePayload_flat (fun p hp => ⟨forbidden_of_published (h p hp).1, (h p hp).2⟩) hsize

end Publishing

section Create
variable {ops : OperationService} {s : Store} {now : Nat} {operationId auditId : String} {request : CreateRequest}

def createdPayload (request : CreateRequest) : Dict :=
  [("operation_type", .str request.operationType),
   ("input_manifest_hash", .str (canonicalSha256 (.obj request.inputManifest)))]

theorem validatePayload_created (h : request.operationType.toList.length ≤ 255) :
    validatePayload (createdPayload request) = .ok () := by
  apply validatePayload_published
  · simp [createdPayload, publishedKeys, Json.Scalar]
  · have htype := fieldSize_str_le "operation_type" request.operationType
    have hhash := fieldSize_str_le "input_manifest_hash" (canonicalSha256 (.obj request.inputManifest))
    have hkeys : (stringText "operation_type").length + (stringText "input_manifest_hash").length = 37 := by decide
    rw [length_canonicalSha256] at hhash
    simp only [createdPayload, List.map_cons, List.map_nil, List.sum_cons, List.sum_nil]
    omega

/-- Creation in a store without operations and audit events, by a service without deployment control. -/
theorem created_row (hempty : s.operations = .empty) (haudit : s.audit = .empty) (hdeployment : ops.deployment = none)
    (hkey : request.idempotencyKey ≠ "") (htrace : request.traceparent = none)
    (hpayload : validatePayload (createdPayload request) = .ok ()) :
    (ops.step s ⟨now, .create operationId auditId request⟩).operation? operationId =
      some (newRow now operationId request none) := by
  have hprior : prior? s request = none := by
    rw [prior?, hempty]
    rfl
  have hmem : "operation.created" ∈ publishedEvents := by decide
  have hinsert : ∃ s', ops.insertOperation s now operationId auditId request =
      .ok (s', newRow now operationId request none) := by
    obtain ⟨s₁, hs₁⟩ := (outbox_ok_iff hmem).mpr hpayload
    obtain ⟨event, rfl⟩ := outbox_eq_ok hs₁
    have hins : ∃ operations, s.operations.insert? (newRow now operationId request none) = some operations := by
      apply Table.insert?_isSome
      rw [hempty]
      rfl
    obtain ⟨operations, hins⟩ := hins
    obtain ⟨audit, happend⟩ := AuditService.append_empty ops.audit now auditId _
    rw [← haudit] at happend
    simp only [insertOperation, htrace, normalizeTraceparent, bind_eq_ok, hprior, orRaise_eq_ok]
    exact ⟨_, none, rfl, _, hs₁, operations, hins, audit, happend, rfl⟩
  obtain ⟨s', hs'⟩ := hinsert
  have hstep : ops.step s ⟨now, .create operationId auditId request⟩ = s' := by
    simp only [OperationService.step, perform, create, if_neg hkey, authorize, hdeployment, hs']
  rcases insertOperation_eq_ok hs' with ⟨_, hsome⟩ | ⟨_, _, _, hins⟩
  · rw [hprior] at hsome
    cases hsome
  · rw [hstep, Store.operation?, Table.get?_insert hins]
    exact if_pos rfl

end Create

section Lease
variable {ops : OperationService} {s : Store} {now : Nat} {k workerId : String} {leaseSeconds : Int} {r : OperationRow}

def leasedPayload (workerId : String) (attempt : Int) : Dict :=
  [("worker_id", .str workerId), ("attempt", .int attempt)]

theorem validatePayload_leased {workerId : String} {attempt : Int} (hworker : workerId.toList.length ≤ 255)
    (hattempt : attempt.natAbs < 2 ^ 63) : validatePayload (leasedPayload workerId attempt) = .ok () := by
  apply validatePayload_published
  · simp [leasedPayload, publishedKeys, Json.Scalar]
  · have hid := fieldSize_str_le "worker_id" workerId
    have hcount := fieldSize_int_le "attempt" hattempt
    have hkeys : (stringText "worker_id").length + (stringText "attempt").length = 20 := by decide
    simp only [leasedPayload, List.map_cons, List.map_nil, List.sum_cons, List.sum_nil]
    omega

/-- The row can be leased by the worker. -/
structure Admits (now : Nat) (workerId : String) (r : OperationRow) : Prop where
  state : r.leasable
  free : r.leasedToOther workerId now = false
  budget : r.state = .failed → r.attempt < r.maxAttempts
  payload : validatePayload (leasedPayload workerId (nextAttempt r now)) = .ok ()

theorem lease_ok_iff :
    (∃ s' r', lease s now k workerId leaseSeconds = .ok (s', r')) ↔
      (1 ≤ leaseSeconds ∧ leaseSeconds ≤ 3600) ∧ ∃ r, s.operation? k = some r ∧ Admits now workerId r := by
  simp only [lease, checkLeaseSeconds, bind_eq_ok, raiseIf_eq_ok, exists_const, find_eq_ok]
  constructor
  · intro h
    obtain ⟨s', r', hseconds, r, hr, hstate, hother, hbudget, s₁, hs₁, _⟩ := h
    refine ⟨by omega, r, hr, not_not.mp hstate, by simpa using hother, ?_, ?_⟩
    · exact fun hfailed => not_le.mp fun hle => hbudget ⟨hle, hfailed⟩
    · exact (outbox_ok_iff (by decide)).mp ⟨s₁, hs₁⟩
  · intro h
    obtain ⟨hseconds, r, hr, hadmits⟩ := h
    have hmem : "operation.leased" ∈ publishedEvents := by decide
    obtain ⟨s₁, hs₁⟩ := (outbox_ok_iff hmem).mpr hadmits.payload
    refine ⟨_, _, by omega, r, hr, not_not.mpr hadmits.state, by simp [hadmits.free], ?_, s₁, hs₁, rfl⟩
    rintro ⟨hle, hfailed⟩
    exact absurd (hadmits.budget hfailed) (not_lt.mpr hle)

/-- The row a lease leaves. -/
def leasedRow (now : Nat) (workerId : String) (leaseSeconds : Int) (r : OperationRow) : OperationRow := { r with
  attempt := nextAttempt r now, state := .leased, leaseOwner := some workerId,
  leaseExpiresAt := some (expiry now leaseSeconds), updatedAt := now }

theorem lease_ok (hseconds : 1 ≤ leaseSeconds ∧ leaseSeconds ≤ 3600) (hr : s.operation? k = some r)
    (hadmits : Admits now workerId r) :
    ∃ s', lease s now k workerId leaseSeconds = .ok (s', leasedRow now workerId leaseSeconds r) ∧
      s'.operation? k = some (leasedRow now workerId leaseSeconds r) := by
  obtain ⟨s', r', hlease⟩ := lease_ok_iff.mpr ⟨hseconds, r, hr, hadmits⟩
  obtain ⟨x, hx, hmove, hops⟩ := lease_eq_ok hlease
  have hrow := operation?_of_set hx hmove hops
  cases hmove with
  | lease hcall =>
    cases hcall
    rw [hr] at hx
    cases hx
    exact ⟨s', hlease, hrow⟩
  | _ hcall => cases hcall

theorem leased_row (hseconds : 1 ≤ leaseSeconds ∧ leaseSeconds ≤ 3600) (hr : s.operation? k = some r)
    (hadmits : Admits now workerId r) :
    (ops.step s ⟨now, .lease k workerId leaseSeconds⟩).operation? k = some (leasedRow now workerId leaseSeconds r) := by
  obtain ⟨s', hlease, hrow⟩ := lease_ok hseconds hr hadmits
  simp only [OperationService.step, perform, hlease, commit]
  exact hrow

end Lease

section Endings
variable {ops : OperationService} {s : Store} {now : Nat} {k workerId : String} {r : OperationRow}

theorem cancelRequested_row {actorId : String} (hr : s.operation? k = some r)
    (hstate : r.state ≠ .succeeded ∧ r.state ≠ .failed ∧ r.state ≠ .cancelled)
    (hpayload : validatePayload [("actor_id", .str actorId)] = .ok ()) :
    (ops.step s ⟨now, .requestCancel k actorId⟩).operation? k =
      some { r with cancelRequested := true, state := .cancelRequested, updatedAt := now } := by
  obtain rfl := operationId_of_operation? hr
  have hopen : ¬ (r.state = .succeeded ∨ r.state = .failed ∨ r.state = .cancelled) := by simpa using hstate
  have hmem : "operation.cancel_requested" ∈ publishedEvents := by decide
  obtain ⟨s₁, hs₁⟩ := (outbox_ok_iff hmem).mpr hpayload
  have hcancel : requestCancel s now r.operationId actorId =
      .ok (s₁, { r with cancelRequested := true, state := .cancelRequested, updatedAt := now }) := by
    simp only [requestCancel, bind_eq_ok, find_eq_ok]
    refine ⟨r, hr, ?_⟩
    rw [if_neg hopen]
    exact bind_eq_ok.mpr ⟨s₁, hs₁, rfl⟩
  have hmove : RowStep now (.requestCancel r.operationId actorId) r
      { r with cancelRequested := true, state := .cancelRequested, updatedAt := now } := .requestCancel rfl hstate
  simp only [OperationService.step, perform, hcancel, commit]
  exact operation?_of_set hr hmove (outbox_operations hs₁)

theorem validatePayload_failure {code message : String} {retryable : Bool}
    (h : code.toList.length + message.toList.length ≤ 2000) :
    validatePayload (OperationService.failure code message retryable) = .ok () := by
  apply validatePayload_published
  · simp [OperationService.failure, publishedKeys, Json.Scalar]
  · have hcode := fieldSize_str_le "code" code
    have hmessage := fieldSize_str_le "message" message
    have hretryable := fieldSize_bool_le "retryable" retryable
    have hkeys : (stringText "code").length + (stringText "message").length + (stringText "retryable").length = 26 := by
      decide
    simp only [OperationService.failure, List.map_cons, List.map_nil, List.sum_cons, List.sum_nil]
    omega

theorem fail_ok {code message : String} {retryable : Bool} (hr : s.operation? k = some r)
    (hown : r.ownedBy workerId now = true) (hpayload : validatePayload (OperationService.failure code message retryable) = .ok ()) :
    (ops.perform s now (.fail k workerId code message retryable)).2 = .ok () := by
  have hmem : "operation.failed" ∈ publishedEvents := by decide
  obtain ⟨s₁, hs₁⟩ := (outbox_ok_iff hmem).mpr hpayload
  have hfail : ∃ r', fail s now k workerId code message retryable = .ok (s₁, r') := by
    simp only [fail, bind_eq_ok, ownedLease_eq_ok]
    exact ⟨_, r, ⟨hr, hown⟩, s₁, hs₁, rfl⟩
  obtain ⟨r', hfail⟩ := hfail
  simp only [perform, hfail, commit]

def checkpointedPayload (progress : PyFloat) (document saved : Dict) : Dict :=
  [("progress", .float progress), ("sequence", document.get "sequence"), ("stage", document.get "stage"),
   ("safe_to_resume", .bool (document.get "safe_to_resume").truthy),
   ("checkpoint_hash", .str (canonicalSha256 (.obj saved)))]

theorem validatePayload_checkpointed {progress : PyFloat} {document saved : Dict} (hprogress : progress.text.toList.length ≤ 40)
    (hsequence : (document.get "sequence").Scalar) (hdigits : (document.get "sequence").encode.length ≤ 40)
    (hstage : document.get "stage" = .null) :
    validatePayload (checkpointedPayload progress document saved) = .ok () := by
  apply validatePayload_published
  · simp [checkpointedPayload, publishedKeys, Json.Scalar, hstage]
    exact hsequence
  · have hsafe := fieldSize_bool_le "safe_to_resume" (document.get "safe_to_resume").truthy
    have hhash := fieldSize_str_le "checkpoint_hash" (canonicalSha256 (.obj saved))
    have hkeys : (stringText "progress").length + (stringText "sequence").length + (stringText "stage").length +
        (stringText "safe_to_resume").length + (stringText "checkpoint_hash").length = 60 := by decide
    rw [length_canonicalSha256] at hhash
    have hfloat : fieldSize ("progress", .float progress) ≤ (stringText "progress").length + 42 := by
      simp only [fieldSize, Json.encode, Number.text]
      omega
    have hnumber : fieldSize ("sequence", document.get "sequence") ≤ (stringText "sequence").length + 42 := by
      simp only [fieldSize]
      omega
    have hnull : fieldSize ("stage", document.get "stage") = (stringText "stage").length + 6 := by
      simp [fieldSize, hstage, Json.encode]
    simp only [checkpointedPayload, List.map_cons, List.map_nil, List.sum_cons, List.sum_nil]
    omega

theorem checkpoint_ok {progress : PyFloat} {document saved : Dict} (hr : s.operation? k = some r)
    (hrange : 0 ≤ progress.value ∧ progress.value ≤ 1) (hown : r.ownedBy workerId now = true)
    (hsequence : checkSequence (document.get "sequence") (r.checkpointJson.get "sequence") = .ok ())
    (hprogress : r.progress.value ≤ progress.value) (hsaved : persisted document = .ok saved)
    (hcancel : r.cancelRequested = false)
    (hpayload : validatePayload (checkpointedPayload progress document saved) = .ok ()) :
    (ops.perform s now (.checkpoint k workerId progress document)).2 = .ok () ∧
    (ops.step s ⟨now, .checkpoint k workerId progress document⟩).operation? k =
      some { r with state := .running, progress, checkpointJson := saved, updatedAt := now } := by
  obtain rfl := operationId_of_operation? hr
  have hmem : "operation.checkpointed" ∈ publishedEvents := by decide
  obtain ⟨s₁, hs₁⟩ := (outbox_ok_iff hmem).mpr hpayload
  have hcheckpoint : OperationService.checkpoint s now r.operationId workerId progress document =
      .ok (s₁, { r with state := .running, progress, checkpointJson := saved, updatedAt := now }) := by
    simp only [OperationService.checkpoint, bind_eq_ok, raiseIf_eq_ok, exists_const, ownedLease_eq_ok, not_not]
    refine ⟨hrange, r, ⟨hr, hown⟩, (), hsequence, not_lt.mpr hprogress, saved, hsaved, ?_⟩
    rw [if_neg (by simp [hcancel])]
    exact ⟨s₁, hs₁, rfl⟩
  have hmove : RowStep now (.checkpoint r.operationId workerId progress document) r
      { r with state := .running, progress, checkpointJson := saved, updatedAt := now } :=
    .checkpoint rfl hrange hown hsequence hprogress hsaved hcancel
  simp only [OperationService.step, perform, hcheckpoint, commit, true_and]
  exact operation?_of_set hr hmove (outbox_operations hs₁)

end Endings

section Reconciliation
variable {s : Store} {now : Nat}

/-- The attempt counter fits a 64-bit column. -/
def OperationRow.Storable (row : OperationRow) : Prop := row.attempt.natAbs < 2 ^ 63

def releasePayload (checkpoint : Dict) (attempt : Int) : Dict :=
  [("checkpoint_hash", .str (canonicalSha256 (.obj checkpoint))), ("attempt", .int attempt)]

theorem validatePayload_release {row : OperationRow} (h : row.Storable) :
    validatePayload (releasePayload row.checkpointJson row.attempt) = .ok () := by
  apply validatePayload_published
  · simp [releasePayload, publishedKeys, Json.Scalar]
  · have hhash := fieldSize_str_le "checkpoint_hash" (canonicalSha256 (.obj row.checkpointJson))
    have hattempt := fieldSize_int_le "attempt" h
    have hkeys : (stringText "checkpoint_hash").length + (stringText "attempt").length = 26 := by decide
    rw [length_canonicalSha256] at hhash
    simp only [releasePayload, List.map_cons, List.map_nil, List.sum_cons, List.sum_nil]
    omega

theorem validatePayload_leaseExpiredError : validatePayload leaseExpiredError = .ok () :=
  validatePayload_failure (by decide)

theorem reconcileRow_total {row : OperationRow} (h : row.Storable) :
    ∃ s' freed, reconcileRow s now row = .ok (s', freed) := by
  unfold reconcileRow
  dsimp only
  split
  · have hmem : "operation.lease_released" ∈ publishedEvents := by decide
    obtain ⟨s₁, hs₁⟩ := (outbox_ok_iff hmem).mpr (validatePayload_release h)
    exact ⟨s₁, true, bind_eq_ok.mpr ⟨s₁, hs₁, rfl⟩⟩
  · have hmem : "operation.quarantined" ∈ publishedEvents := by decide
    obtain ⟨s₁, hs₁⟩ := (outbox_ok_iff hmem).mpr validatePayload_leaseExpiredError
    exact ⟨s₁, false, bind_eq_ok.mpr ⟨s₁, hs₁, rfl⟩⟩

theorem reconcileRows_total {rows : List OperationRow} (h : ∀ row ∈ rows, row.Storable) :
    ∃ s' result, reconcileRows now s rows = .ok (s', result) := by
  induction rows generalizing s with
  | nil => exact ⟨s, {}, rfl⟩
  | cons row rows ih =>
    have hrow : ∃ s' freed, reconcileRow s now row = .ok (s', freed) := reconcileRow_total (h row (by simp))
    obtain ⟨s₁, freed, h₁⟩ := hrow
    obtain ⟨s₂, rest, h₂⟩ := ih (s := s₁) (fun r hr => h r (by simp [hr]))
    simp only [reconcileRows, bind_eq_ok]
    exact ⟨_, _, ⟨s₁, freed⟩, h₁, ⟨s₂, rest⟩, h₂, rfl⟩

theorem reconcileExpiredLeases_total (h : ∀ row ∈ s.operations.rows, row.Storable) :
    ∃ s' result, reconcileExpiredLeases s now = .ok (s', result) :=
  reconcileRows_total fun row hrow => h row (List.mem_of_mem_filter hrow)

end Reconciliation

section Sample

def sampleService : OperationService := { audit := AuditService.zeroKey }

def sampleRequest (maxAttempts : Int) : CreateRequest := {
  tenantId := "t", projectId := "p", operationType := "scan", idempotencyKey := "key", inputManifest := [],
  actorId := "u", maxAttempts }

/-- Operation `op` is created at the start and leased by worker `w` for a second. -/
def createdAndLeased (maxAttempts : Int) : List Event :=
  [⟨0, .create "op" "audit" (sampleRequest maxAttempts)⟩, ⟨0, .lease "op" "w" 1⟩]

theorem created_sample (maxAttempts : Int) :
    (sampleService.reached .empty [⟨0, .create "op" "audit" (sampleRequest maxAttempts)⟩]).operation? "op" =
      some (newRow 0 "op" (sampleRequest maxAttempts) none) := by
  rw [reached, run_cons, run_nil]
  exact created_row rfl rfl rfl (by simp [sampleRequest]) rfl (validatePayload_created (by simp [sampleRequest]))

/-- The row of `op` after that. -/
def heldRow (maxAttempts : Int) : OperationRow := leasedRow 0 "w" 1 (newRow 0 "op" (sampleRequest maxAttempts) none)

theorem heldRow_ownedBy (maxAttempts : Int) : (heldRow maxAttempts).ownedBy "w" 0 = true := rfl

theorem leased_sample (maxAttempts : Int) :
    (sampleService.reached .empty (createdAndLeased maxAttempts)).operation? "op" = some (heldRow maxAttempts) := by
  have hcreated := created_sample maxAttempts
  rw [reached, run_cons, run_nil] at hcreated
  have hattempt : nextAttempt (newRow 0 "op" (sampleRequest maxAttempts) none) 0 = 1 := rfl
  rw [reached, createdAndLeased, run_cons, run_cons, run_nil]
  apply leased_row (by decide) hcreated
  refine ⟨.inl rfl, rfl, nofun, validatePayload_leased (by decide) ?_⟩
  rw [hattempt]
  decide

end Sample

end Sip
