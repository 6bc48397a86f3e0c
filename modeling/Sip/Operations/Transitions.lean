import Sip.Operations.Service

/-!
# What a call can do to a row

Every call leaves an existing row as it is or moves it by one of the transitions
below, whose premises are what the call has checked. Rows do not disappear, and only
`create` adds one. Each invariant of the service is a case analysis over
`RowStep`, lifted to runs by the rules at the end.
-/

namespace Sip

set_option autoImplicit false

open OperationService

def nextAttempt (r : OperationRow) (now : Nat) : Int :=
  if r.state = .pending ∨ r.state = .failed ∨ r.leaseExpired now = true then r.attempt + 1 else r.attempt

inductive RowStep (now : Nat) (call : Call) (r : OperationRow) : OperationRow → Prop
  | lease {workerId : String} {leaseSeconds : Int}
      (hcall : call = .lease r.operationId workerId leaseSeconds)
      (hseconds : 1 ≤ leaseSeconds ∧ leaseSeconds ≤ 3600)
      (hstate : r.leasable)
      (hother : r.leasedToOther workerId now = false)
      (hbudget : r.state = .failed → r.attempt < r.maxAttempts) :
      RowStep now call r { r with
        attempt := nextAttempt r now, state := .leased, leaseOwner := some workerId,
        leaseExpiresAt := some (expiry now leaseSeconds), updatedAt := now }
  | startRunning {workerId : String}
      (hcall : call = .start r.operationId workerId)
      (hown : r.ownedBy workerId now = true)
      (hcancel : r.cancelRequested = false) :
      RowStep now call r { r with state := .running, updatedAt := now }
  | startCancelled {workerId : String}
      (hcall : call = .start r.operationId workerId)
      (hown : r.ownedBy workerId now = true)
      (hcancel : r.cancelRequested = true) :
      RowStep now call r { r.released with state := .cancelled, updatedAt := now }
  | heartbeat {workerId : String} {leaseSeconds : Int}
      (hcall : call = .heartbeat r.operationId workerId leaseSeconds)
      (hseconds : 1 ≤ leaseSeconds ∧ leaseSeconds ≤ 3600)
      (hown : r.ownedBy workerId now = true) :
      RowStep now call r { r with leaseExpiresAt := some (expiry now leaseSeconds), updatedAt := now }
  | checkpoint {workerId : String} {progress : PyFloat} {document saved : Dict}
      (hcall : call = .checkpoint r.operationId workerId progress document)
      (hrange : 0 ≤ progress.value ∧ progress.value ≤ 1)
      (hown : r.ownedBy workerId now = true)
      (hsequence : checkSequence (document.get "sequence") (r.checkpointJson.get "sequence") = .ok ())
      (hprogress : r.progress.value ≤ progress.value)
      (hsaved : persisted document = .ok saved)
      (hcancel : r.cancelRequested = false) :
      RowStep now call r { r with state := .running, progress, checkpointJson := saved, updatedAt := now }
  | checkpointCancelled {workerId : String} {progress : PyFloat} {document : Dict}
      (hcall : call = .checkpoint r.operationId workerId progress document)
      (hrange : 0 ≤ progress.value ∧ progress.value ≤ 1)
      (hown : r.ownedBy workerId now = true)
      (hsequence : checkSequence (document.get "sequence") (r.checkpointJson.get "sequence") = .ok ())
      (hprogress : r.progress.value ≤ progress.value)
      (hcancel : r.cancelRequested = true) :
      RowStep now call r { r.released with state := .cancelled, updatedAt := now }
  | requestCancel {actorId : String}
      (hcall : call = .requestCancel r.operationId actorId)
      (hstate : r.state ≠ .succeeded ∧ r.state ≠ .failed ∧ r.state ≠ .cancelled) :
      RowStep now call r { r with cancelRequested := true, state := .cancelRequested, updatedAt := now }
  | complete {workerId : String} {output : Dict} {claimed : Option String}
      (hcall : call = .complete r.operationId workerId output claimed)
      (hown : r.ownedBy workerId now = true)
      (hcancel : r.cancelRequested = false) :
      RowStep now call r { r.released with
        outputJson := output, outputHash := some (canonicalSha256 (.obj output)), progress := .one,
        state := .succeeded, updatedAt := now }
  | fail {workerId code message : String} {retryable : Bool}
      (hcall : call = .fail r.operationId workerId code message retryable)
      (hown : r.ownedBy workerId now = true) :
      RowStep now call r { r.released with
        errorJson := failure code message retryable, state := .failed, updatedAt := now }
  | release (hcall : call = .reconcileExpiredLeases)
      (habandoned : abandoned r now = true)
      (hresumable : resumable r = true) :
      RowStep now call r { r.released with updatedAt := now, state := .pending }
  | quarantine (hcall : call = .reconcileExpiredLeases)
      (habandoned : abandoned r now = true)
      (hresumable : resumable r = false) :
      RowStep now call r { r.released with
        updatedAt := now, state := .quarantined, errorJson := leaseExpiredError }

section RowStep
variable {now : Nat} {call : Call} {r r' : OperationRow}

theorem RowStep.operationId_eq (h : RowStep now call r r') : r'.operationId = r.operationId := by
  cases h <;> rfl

end RowStep

section Lookups
variable {s s' : Store} {now : Nat} {operationId workerId : String} {row : OperationRow}

theorem operationId_of_operation? (h : s.operation? operationId = some row) : row.operationId = operationId :=
  ((Table.get?_eq_some_iff _ _ _).mp h).2

theorem find_eq_ok : find s operationId = .ok row ↔ s.operation? operationId = some row := orRaise_eq_ok

theorem ownedLease_eq_ok :
    ownedLease s now operationId workerId = .ok row ↔
      s.operation? operationId = some row ∧ row.ownedBy workerId now = true := by
  simp only [ownedLease, bind_eq_ok, find_eq_ok, raiseIf_eq_ok, exists_const, Bool.not_eq_false]
  constructor
  · intro h
    obtain ⟨r, hr, hown, h⟩ := h
    cases h
    exact ⟨hr, hown⟩
  · intro h
    exact ⟨row, h.1, h.2, rfl⟩

theorem outbox_eq_ok {eventType : String} {payload : Dict} {actorId workload : Option String}
    (h : outbox s now row eventType payload actorId workload = .ok s') :
    ∃ event, s' = { s with outbox := s.outbox ++ [event] } := by
  simp only [outbox, bind_eq_ok] at h
  obtain ⟨event, _, h⟩ := h
  cases h
  exact ⟨event, rfl⟩

theorem outbox_operations {eventType : String} {payload : Dict} {actorId workload : Option String}
    (h : outbox s now row eventType payload actorId workload = .ok s') : s'.operations = s.operations := by
  obtain ⟨event, rfl⟩ := outbox_eq_ok h
  rfl

theorem outbox_refusal {eventType : String} {payload : Dict} {actorId workload : Option String} {e : Raised}
    (h : outbox s now row eventType payload actorId workload = .error e) : EventRefusal e := by
  simp only [outbox, bind_eq_error] at h
  rcases h with h | ⟨_, _, h⟩
  · exact createEvent_refusal h
  · cases h

end Lookups

/-- A call found a row, moved it to `row'`, and wrote that back. -/
def Updated (now : Nat) (call : Call) (s s' : Store) (row' : OperationRow) : Prop :=
  ∃ row, s.operation? row.operationId = some row ∧ RowStep now call row row' ∧
    s'.operations = s.operations.set row'

section Methods
variable {s s' : Store} {now : Nat} {operationId workerId : String} {row' : OperationRow}

theorem lease_eq_ok {leaseSeconds : Int}
    (h : lease s now operationId workerId leaseSeconds = .ok (s', row')) :
    Updated now (.lease operationId workerId leaseSeconds) s s' row' := by
  simp only [lease, checkLeaseSeconds, bind_eq_ok, raiseIf_eq_ok, exists_const, find_eq_ok] at h
  obtain ⟨hseconds, row, hrow, hstate, hother, hbudget, s₁, hs₁, h⟩ := h
  cases h
  obtain rfl := operationId_of_operation? hrow
  refine ⟨row, hrow, .lease rfl (by omega) (not_not.mp hstate) (by simpa using hother) ?_, outbox_operations hs₁⟩
  intro hfailed
  exact not_le.mp fun hle => hbudget ⟨hle, hfailed⟩

theorem start_eq_ok (h : start s now operationId workerId = .ok (s', row')) :
    Updated now (.start operationId workerId) s s' row' := by
  simp only [start, bind_eq_ok, ownedLease_eq_ok] at h
  obtain ⟨row, ⟨hrow, hown⟩, h⟩ := h
  obtain rfl := operationId_of_operation? hrow
  by_cases hcancel : row.cancelRequested = true
  · rw [if_pos hcancel] at h
    cases h
    exact ⟨row, hrow, .startCancelled rfl hown hcancel, rfl⟩
  · rw [if_neg hcancel] at h
    cases h
    exact ⟨row, hrow, .startRunning rfl hown (Bool.not_eq_true _ ▸ hcancel), rfl⟩

theorem heartbeat_eq_ok {leaseSeconds : Int}
    (h : heartbeat s now operationId workerId leaseSeconds = .ok (s', row')) :
    Updated now (.heartbeat operationId workerId leaseSeconds) s s' row' := by
  simp only [heartbeat, checkLeaseSeconds, bind_eq_ok, raiseIf_eq_ok, exists_const, ownedLease_eq_ok] at h
  obtain ⟨hseconds, row, ⟨hrow, hown⟩, s₁, hs₁, h⟩ := h
  cases h
  obtain rfl := operationId_of_operation? hrow
  exact ⟨row, hrow, .heartbeat rfl (by omega) hown, outbox_operations hs₁⟩

theorem checkpoint_eq_ok {progress : PyFloat} {document : Dict}
    (h : OperationService.checkpoint s now operationId workerId progress document = .ok (s', row')) :
    Updated now (.checkpoint operationId workerId progress document) s s' row' := by
  simp only [OperationService.checkpoint, bind_eq_ok, raiseIf_eq_ok, exists_const, ownedLease_eq_ok, not_not] at h
  obtain ⟨hrange, row, ⟨hrow, hown⟩, _, hsequence, hprogress, saved, hsaved, s₁, hs₁, h⟩ := h
  obtain rfl := operationId_of_operation? hrow
  by_cases hcancel : row.cancelRequested = true
  · rw [if_pos hcancel] at hs₁ h
    cases h
    refine ⟨row, hrow, ?_, outbox_operations hs₁⟩
    exact .checkpointCancelled rfl hrange hown hsequence (not_lt.mp hprogress) hcancel
  · rw [if_neg hcancel] at hs₁ h
    cases h
    refine ⟨row, hrow, ?_, outbox_operations hs₁⟩
    exact .checkpoint rfl hrange hown hsequence (not_lt.mp hprogress) hsaved (Bool.not_eq_true _ ▸ hcancel)

theorem requestCancel_eq_ok {actorId : String} (h : requestCancel s now operationId actorId = .ok (s', row')) :
    s' = s ∨ Updated now (.requestCancel operationId actorId) s s' row' := by
  simp only [requestCancel, bind_eq_ok, find_eq_ok] at h
  obtain ⟨row, hrow, h⟩ := h
  obtain rfl := operationId_of_operation? hrow
  split at h
  · cases h
    exact .inl rfl
  · rename_i hstate
    obtain ⟨s₁, hs₁, h⟩ := bind_eq_ok.mp h
    cases h
    exact .inr ⟨row, hrow, .requestCancel rfl (by simpa using hstate), outbox_operations hs₁⟩

theorem complete_eq_ok {output : Dict} {claimed : Option String}
    (h : complete s now operationId workerId output claimed = .ok (s', row')) :
    Updated now (.complete operationId workerId output claimed) s s' row' := by
  simp only [complete, bind_eq_ok, raiseIf_eq_ok, exists_const, ownedLease_eq_ok, Bool.not_eq_true] at h
  obtain ⟨_, row, ⟨hrow, hown⟩, hcancel, s₁, hs₁, h⟩ := h
  cases h
  obtain rfl := operationId_of_operation? hrow
  exact ⟨row, hrow, .complete rfl hown hcancel, outbox_operations hs₁⟩

theorem fail_eq_ok {code message : String} {retryable : Bool}
    (h : fail s now operationId workerId code message retryable = .ok (s', row')) :
    Updated now (.fail operationId workerId code message retryable) s s' row' := by
  simp only [fail, bind_eq_ok, ownedLease_eq_ok] at h
  obtain ⟨row, ⟨hrow, hown⟩, s₁, hs₁, h⟩ := h
  cases h
  obtain rfl := operationId_of_operation? hrow
  exact ⟨row, hrow, .fail rfl hown, outbox_operations hs₁⟩

end Methods

section Reconciliation
variable {s s' : Store} {now : Nat}

/-- What the loop of `reconcile_expired_leases` makes of a row it has selected. -/
def reconciledRow (now : Nat) (row : OperationRow) : OperationRow :=
  if resumable row then { row.released with updatedAt := now, state := .pending }
  else { row.released with updatedAt := now, state := .quarantined, errorJson := leaseExpiredError }

theorem reconciledRow_operationId (now : Nat) (row : OperationRow) :
    (reconciledRow now row).operationId = row.operationId := by
  unfold reconciledRow
  split <;> rfl

theorem rowStep_reconciledRow {row : OperationRow} (h : abandoned row now = true) :
    RowStep now .reconcileExpiredLeases row (reconciledRow now row) := by
  unfold reconciledRow
  split
  · exact .release rfl h ‹_›
  · exact .quarantine rfl h (Bool.not_eq_true _ ▸ ‹_›)

theorem reconcileRow_eq_ok {row : OperationRow} {freed : Bool} (h : reconcileRow s now row = .ok (s', freed)) :
    s'.operations = s.operations.set (reconciledRow now row) := by
  unfold reconciledRow
  unfold reconcileRow at h
  dsimp only at h
  split at h
  · rename_i hres
    obtain ⟨s₁, hs₁, h⟩ := bind_eq_ok.mp h
    cases h
    rw [if_pos hres]
    exact outbox_operations hs₁
  · rename_i hres
    obtain ⟨s₁, hs₁, h⟩ := bind_eq_ok.mp h
    cases h
    rw [if_neg hres]
    exact outbox_operations hs₁

theorem rows_of_set_reconciledRow {row : OperationRow} (hrow : row ∈ s.operations.rows)
    (h : s'.operations = s.operations.set (reconciledRow now row)) :
    s'.operations.rows = s.operations.rows.map fun r =>
      if r.operationId = row.operationId then reconciledRow now r else r := by
  rw [h]
  apply List.map_congr_left
  intro r hr
  simp only [reconciledRow_operationId]
  split
  · rename_i hid
    rw [List.inj_on_of_nodup_map s.operations.nodup hr hrow hid]
  · rfl

theorem reconcileRows_eq_ok {rows : List OperationRow} {result : Reconciled}
    (hids : (rows.map (·.operationId)).Nodup) (hrows : ∀ row ∈ rows, row ∈ s.operations.rows)
    (h : reconcileRows now s rows = .ok (s', result)) :
    s'.operations.rows = s.operations.rows.map fun r =>
      if r.operationId ∈ rows.map (·.operationId) then reconciledRow now r else r := by
  induction rows generalizing s result with
  | nil =>
    cases h
    simp
  | cons row rows ih =>
    simp only [reconcileRows, bind_eq_ok] at h
    obtain ⟨⟨s₁, freed⟩, h₁, ⟨s₂, rest⟩, h₂, h⟩ := h
    cases h
    rw [List.map_cons, List.nodup_cons] at hids
    have hs₁ := rows_of_set_reconciledRow (hrows row (by simp)) (reconcileRow_eq_ok h₁)
    have hrest : ∀ r ∈ rows, r ∈ s₁.operations.rows := by
      intro r hr
      rw [hs₁, List.mem_map]
      refine ⟨r, hrows r (by simp [hr]), if_neg ?_⟩
      intro hid
      exact hids.1 (List.mem_map.mpr ⟨r, hr, hid⟩)
    rw [ih hids.2 hrest h₂, hs₁, List.map_map]
    apply List.map_congr_left
    intro r _
    simp only [Function.comp_apply, List.map_cons, List.mem_cons]
    by_cases hid : r.operationId = row.operationId
    · rw [if_pos hid, reconciledRow_operationId, if_neg (hid ▸ hids.1), if_pos (.inl hid)]
    · rw [if_neg hid]
      simp only [hid, false_or]

/-- Reconciliation rewrites exactly the abandoned rows. -/
theorem reconcileExpiredLeases_eq_ok {result : Reconciled} (h : reconcileExpiredLeases s now = .ok (s', result)) :
    s'.operations.rows = s.operations.rows.map fun r => if abandoned r now then reconciledRow now r else r := by
  have hsub : (s.operations.rows.filter fun row => abandoned row now).Sublist s.operations.rows :=
    List.filter_sublist
  rw [reconcileRows_eq_ok ((hsub.map _).nodup s.operations.nodup) (fun _ hr => hsub.subset hr) h]
  apply List.map_congr_left
  intro r hr
  have hmem : r.operationId ∈ (s.operations.rows.filter fun row => abandoned row now).map (·.operationId) ↔
      abandoned r now = true := by
    rw [List.mem_map]
    constructor
    · rintro ⟨x, hx, hid⟩
      rw [List.mem_filter] at hx
      rw [← List.inj_on_of_nodup_map s.operations.nodup hx.1 hr hid]
      exact hx.2
    · exact fun habandoned => ⟨r, List.mem_filter.mpr ⟨hr, habandoned⟩, rfl⟩
  simp only [hmem]

theorem operation?_reconciled {result : Reconciled} (h : reconcileExpiredLeases s now = .ok (s', result))
    (operationId : String) :
    s'.operation? operationId =
      (s.operation? operationId).map fun r => if abandoned r now then reconciledRow now r else r := by
  refine Table.get?_of_rows_eq_map ?_ (reconcileExpiredLeases_eq_ok h) operationId
  intro r
  split
  · exact reconciledRow_operationId now r
  · rfl

end Reconciliation

end Sip
