import Sip.Operations.Admission
import Sip.Worker.Protocol

/-!
# Picking the next operation

One turn of a worker reconciles expired leases, picks the oldest pending or failed
operation of a type it may run, and leases it. The model follows `run_operation` up to
the lease; what the handler then does is not part of the choice. A turn happens at
one instant.
-/

namespace Sip

set_option autoImplicit false

open OperationService

structure WorkerRuntime where
  workerId : String
  manifest : WorkerManifest

/-- How a turn of the worker goes. -/
inductive Turn where
  | leased (store : Store) (operation : OperationRow)
  | idle (store : Store)
  | raised (store : Store) (error : Raised)

/-- What the queue is ordered by: `created_at`, then `operation_id`. -/
def queueKey (row : OperationRow) : Nat ×ₗ String := toLex (row.createdAt, row.operationId)

namespace WorkerRuntime
variable (w : WorkerRuntime)

/-- The runtime's capabilities are exactly those of its manifest. -/
def allowedOperationTypes : List String := w.manifest.capabilities

def leaseSeconds : Int := min 3600 (max 60 ((w.manifest.resourceLimits.maxWallSeconds : Int) + 30))

def queue (s : Store) : List OperationRow :=
  sortBy queueKey (s.operations.rows.filter fun row =>
    row.operationType ∈ w.allowedOperationTypes ∧ (row.state = .pending ∨ row.state = .failed))

/-- `run_operation` up to the lease. -/
def leaseOperation (s : Store) (now : Nat) (operationId : String) : Except Raised (Store × OperationRow) := do
  let operation ← find s operationId
  raiseIf (operation.operationType ∉ w.allowedOperationTypes)
    (authorizationError "WORKER_CAPABILITY_DENIED" "worker is not scoped to this operation type")
  lease s now operationId w.workerId w.leaseSeconds

def isAlreadyLeased : Raised → Bool
  | .sip error => error.kind = .conflict ∧ error.code = "OPERATION_ALREADY_LEASED"
  | _ => false

def runOnce (s : Store) (now : Nat) : Turn :=
  match reconcileExpiredLeases s now with
  | .error e => .raised s e
  | .ok (s, _) =>
    match (w.queue s).head? with
    | none => .idle s
    | some row =>
      match w.leaseOperation s now row.operationId with
      | .ok (s, operation) => .leased s operation
      | .error e => if isAlreadyLeased e then .idle s else .raised s e

end WorkerRuntime

section Turn
variable {w : WorkerRuntime} {s s' : Store} {now : Nat} {x : OperationRow}

theorem leaseSeconds_bounds (w : WorkerRuntime) : 1 ≤ w.leaseSeconds ∧ w.leaseSeconds ≤ 3600 := by
  unfold WorkerRuntime.leaseSeconds
  omega

/-- The operation waits for a worker like this one: it is pending or failed, or its lease
has run out and reconciliation releases it. -/
def Waiting (w : WorkerRuntime) (now : Nat) (row : OperationRow) : Prop :=
  row.operationType ∈ w.allowedOperationTypes ∧
    (row.state = .pending ∨ row.state = .failed ∨ (abandoned row now = true ∧ resumable row = true))

/-- What reconciliation leaves of a row. -/
def reconciled (now : Nat) (row : OperationRow) : OperationRow :=
  if abandoned row now then reconciledRow now row else row

theorem not_abandoned {row : OperationRow} (h : row.state = .pending ∨ row.state = .failed) :
    abandoned row now = false := by
  rcases h with hs | hs <;> simp [abandoned, hs]

theorem queueKey_reconciled (now : Nat) (row : OperationRow) : queueKey (reconciled now row) = queueKey row := by
  unfold reconciled reconciledRow
  split
  · split <;> rfl
  · rfl

theorem operationType_reconciled (now : Nat) (row : OperationRow) :
    (reconciled now row).operationType = row.operationType := by
  unfold reconciled reconciledRow
  split
  · split <;> rfl
  · rfl

theorem operationId_reconciled (now : Nat) (row : OperationRow) :
    (reconciled now row).operationId = row.operationId := congrArg (fun key => (ofLex key).2) (queueKey_reconciled now row)

/-- Exactly the waiting rows are pending or failed after reconciliation. -/
theorem waiting_iff (w : WorkerRuntime) (now : Nat) (row : OperationRow) :
    Waiting w now row ↔ (reconciled now row).operationType ∈ w.allowedOperationTypes ∧
      ((reconciled now row).state = .pending ∨ (reconciled now row).state = .failed) := by
  rw [operationType_reconciled, Waiting]
  apply and_congr_right
  intro _
  by_cases habandoned : abandoned row now = true
  · have hne : ¬ (row.state = .pending ∨ row.state = .failed) := by
      intro h
      rw [not_abandoned h] at habandoned
      cases habandoned
    have hor : (row.state = .pending ∨ row.state = .failed ∨ (abandoned row now = true ∧ resumable row = true)) ↔
        resumable row = true := by
      constructor
      · rintro (hs | hs | hs)
        · exact absurd (.inl hs) hne
        · exact absurd (.inr hs) hne
        · exact hs.2
      · exact fun hres => .inr (.inr ⟨habandoned, hres⟩)
    rw [hor, reconciled, if_pos habandoned, reconciledRow]
    split <;> simp_all
  · simp [reconciled, habandoned]

/-- Taking an operation over once its lease has run out and leasing it after its release
are granted alike. -/
theorem Admits.reconciled (h : Admits now w.workerId x) (hwaiting : Waiting w now x) :
    Admits now w.workerId (reconciled now x) := by
  unfold Sip.reconciled
  split
  · rename_i habandoned
    have hactive := habandoned
    simp only [abandoned, decide_eq_true_eq] at hactive
    have hres : resumable x = true := by
      rcases hwaiting.2 with hs | hs | hs
      · simp [hs] at hactive
      · simp [hs] at hactive
      · exact hs.2
    rw [reconciledRow, if_pos hres]
    have hattempt : nextAttempt x now = x.attempt + 1 := if_pos (.inr (.inr hactive.2))
    refine ⟨.inl rfl, rfl, nofun, ?_⟩
    have hpayload := h.payload
    rw [hattempt] at hpayload
    exact hpayload
  · exact h

theorem queueKeys_nodup (s : Store) (p : OperationRow → Bool) : ((s.operations.rows.filter p).map queueKey).Nodup := by
  have hids : ((s.operations.rows.filter p).map (·.operationId)).Nodup :=
    (List.filter_sublist.map _).nodup s.operations.nodup
  have hmap : (s.operations.rows.filter p).map (·.operationId) =
      ((s.operations.rows.filter p).map queueKey).map fun key => (ofLex key).2 := by
    rw [List.map_map]
    rfl
  rw [hmap] at hids
  exact hids.of_map _

/-- The oldest waiting operation heads the queue after reconciliation. -/
theorem head?_queue (hrows : s'.operations.rows = s.operations.rows.map (reconciled now))
    (hx : x ∈ s.operations.rows) (hwaiting : Waiting w now x)
    (holdest : ∀ z ∈ s.operations.rows, Waiting w now z → queueKey x ≤ queueKey z) :
    (w.queue s').head? = some (reconciled now x) := by
  apply head?_sortBy_of_least (queueKeys_nodup s' _)
  · rw [List.mem_filter, hrows]
    exact ⟨List.mem_map_of_mem hx, by simpa using (waiting_iff w now x).mp hwaiting⟩
  · intro z hz
    rw [List.mem_filter, hrows, List.mem_map] at hz
    obtain ⟨⟨z, hz, rfl⟩, hstate⟩ := hz
    rw [queueKey_reconciled, queueKey_reconciled]
    exact holdest z hz ((waiting_iff w now z).mpr (by simpa using hstate))

theorem rows_reconciled {result : Reconciled} (h : reconcileExpiredLeases s now = .ok (s', result)) :
    s'.operations.rows = s.operations.rows.map (reconciled now) := reconcileExpiredLeases_eq_ok h

/-- Without a waiting operation the turn is over. -/
theorem runOnce_idle (hstorable : ∀ row ∈ s.operations.rows, row.Storable)
    (hnone : ∀ row ∈ s.operations.rows, ¬ Waiting w now row) : ∃ s', w.runOnce s now = .idle s' := by
  have htotal : ∃ s' result, reconcileExpiredLeases s now = .ok (s', result) := reconcileExpiredLeases_total hstorable
  obtain ⟨s', result, hrec⟩ := htotal
  have hempty : (w.queue s').head? = none := by
    cases hhead : (w.queue s').head? with
    | none => rfl
    | some z =>
      have hz := (head?_sortBy_spec hhead).1
      rw [List.mem_filter, rows_reconciled hrec, List.mem_map] at hz
      obtain ⟨⟨z, hz, rfl⟩, hstate⟩ := hz
      exact absurd ((waiting_iff w now z).mpr (by simpa using hstate)) (hnone z hz)
  refine ⟨s', ?_⟩
  simp only [WorkerRuntime.runOnce, hrec, hempty]

end Turn

/-- If the oldest waiting operation is one that the worker could lease, then its turn leases
exactly that one. -/
theorem runOnce_leases_oldest (w : WorkerRuntime) (s : Store) (now : Nat) (x : OperationRow)
    (hstorable : ∀ row ∈ s.operations.rows, row.Storable) (hx : x ∈ s.operations.rows) (hwaiting : Waiting w now x)
    (holdest : ∀ z ∈ s.operations.rows, Waiting w now z → queueKey x ≤ queueKey z)
    (hlease : ∃ s' r', lease s now x.operationId w.workerId w.leaseSeconds = .ok (s', r')) :
    ∃ s' r', w.runOnce s now = .leased s' r' ∧ r'.operationId = x.operationId ∧ r'.state = .leased ∧
      r'.leaseOwner = some w.workerId ∧ s'.operation? x.operationId = some r' := by
  obtain ⟨_, r, hr, hadmits⟩ := lease_ok_iff.mp hlease
  have hxr : s.operation? x.operationId = some x := (Table.get?_eq_some_iff _ _ _).mpr ⟨hx, rfl⟩
  rw [hxr] at hr
  cases hr
  obtain ⟨s₁, result, hrec⟩ := reconcileExpiredLeases_total hstorable
  have hrow : s₁.operation? x.operationId = some (reconciled now x) := by
    rw [operation?_reconciled hrec, hxr]
    rfl
  have hlease₁ : ∃ s' r', lease s₁ now x.operationId w.workerId w.leaseSeconds = .ok (s', r') :=
    lease_ok_iff.mpr ⟨leaseSeconds_bounds w, _, hrow, hadmits.reconciled hwaiting⟩
  obtain ⟨s₂, r₂, h₂⟩ := hlease₁
  have hrun : w.leaseOperation s₁ now x.operationId = .ok (s₂, r₂) := by
    simp only [WorkerRuntime.leaseOperation, bind_eq_ok, find_eq_ok, raiseIf_eq_ok, exists_const]
    exact ⟨_, hrow, not_not.mpr ((waiting_iff w now x).mp hwaiting).1, h₂⟩
  have hturn : w.runOnce s now = .leased s₂ r₂ := by
    have hhead := head?_queue (rows_reconciled hrec) hx hwaiting holdest
    simp only [WorkerRuntime.runOnce, hrec, hhead, operationId_reconciled, hrun]
  obtain ⟨row, hget, hmove, hops⟩ := lease_eq_ok h₂
  have hself := operation?_of_set hget hmove hops
  cases hmove with
  | lease hcall =>
    injection hcall with hid hworker _
    exact ⟨s₂, _, hturn, hid.symm, rfl, congrArg some hworker.symm, hid ▸ hself⟩
  | _ hcall => cases hcall

section Samples

def sampleRuntime : WorkerRuntime := ⟨"w", sampleManifest⟩

/-- A stored operation of the sample worker's type. -/
def storedOperation (operationId : String) (createdAt : Nat) (state : OperationState) (attempt : Int) : OperationRow := {
  operationId, tenantId := "t", projectId := "p", operationType := "scan", idempotencyKey := operationId,
  inputManifestHash := genesisHash, inputJson := [], traceparent := none, state, attempt,
  createdBy := "u", createdAt, updatedAt := createdAt }

def storeOf (rows : List OperationRow) (h : (rows.map (·.operationId)).Nodup) : Store :=
  { Store.empty with operations := ⟨rows, h⟩ }

/-- The operation the turn leased, if it did. -/
def Turn.taken : Turn → Option String
  | .leased _ operation => some operation.operationId
  | _ => none

/-- Two pending operations; the older one is taken. -/
def pendingPair : Store :=
  storeOf [storedOperation "b" 1 .pending 0, storedOperation "a" 2 .pending 0] (by decide)

theorem runOnce_leases_oldest_pending :
    ∃ s' r', sampleRuntime.runOnce pendingPair 5 = .leased s' r' ∧ r'.operationId = "b" ∧ r'.state = .leased ∧
      r'.leaseOwner = some "w" ∧ s'.operation? "b" = some r' := by
  have hadmits : Admits 5 "w" (storedOperation "b" 1 .pending 0) :=
    ⟨.inl rfl, rfl, nofun, eq_ok_of_isOk (by decide)⟩
  refine runOnce_leases_oldest sampleRuntime pendingPair 5 (storedOperation "b" 1 .pending 0) ?_
    (by simp [pendingPair, storeOf]) ?_ ?_ ?_
  · simp [pendingPair, storeOf, OperationRow.Storable, storedOperation]
  · exact ⟨by decide, .inl rfl⟩
  · simp [pendingPair, storeOf, storedOperation, queueKey, Prod.Lex.toLex_le_toLex]
  · exact lease_ok_iff.mpr ⟨leaseSeconds_bounds sampleRuntime, _, rfl, hadmits⟩

/-- A running operation whose lease has run out, without a checkpoint to resume from. -/
def abandonedUnsafe : Store :=
  storeOf [{ storedOperation "a" 1 .running 1 with leaseOwner := some "v", leaseExpiresAt := some 2 }] (by decide)

/-- A failed operation without attempts left, and a younger pending one. -/
def exhaustedHead : Store :=
  storeOf [storedOperation "a" 1 .failed 3, storedOperation "b" 2 .pending 0] (by decide)

/-- In both stores the worker could lease an operation, and its turn leases none: in the
first the operation is quarantined before the choice, in the second the turn is refused
the exhausted operation. -/
theorem runOnce_leaves_leasable :
    ((lease abandonedUnsafe 5 "a" "w" sampleRuntime.leaseSeconds).isOk = true ∧
      (sampleRuntime.runOnce abandonedUnsafe 5).taken = none) ∧
    ((lease exhaustedHead 5 "b" "w" sampleRuntime.leaseSeconds).isOk = true ∧
      (sampleRuntime.runOnce exhaustedHead 5).taken = none) := by
  decide +kernel

end Samples

end Sip
