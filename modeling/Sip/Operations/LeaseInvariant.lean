import Sip.Operations.Admission

/-!
# The lease columns and the state

Owner and expiry are set and cleared together. They are set while an operation is
leased or running, and clear while it is pending, finished or quarantined; only a
requested cancellation may be found either way. A finished row is never touched again.
-/

namespace Sip

set_option autoImplicit false

open OperationService

/-- The states in which no lease is held. -/
def OperationState.Idle (state : OperationState) : Prop :=
  state = .pending ∨ state = .succeeded ∨ state = .failed ∨ state = .cancelled ∨ state = .quarantined

/-- The states in which a lease is held. -/
def OperationState.Active (state : OperationState) : Prop := state = .leased ∨ state = .running

structure LeaseCoupled (r : OperationRow) : Prop where
  paired : r.leaseOwner.isSome ↔ r.leaseExpiresAt.isSome
  idle : r.state.Idle → r.leaseOwner = none
  active : r.state.Active → r.leaseOwner.isSome

section Rows
variable {now : Nat} {call : Call} {r r' : OperationRow} {workerId : String}

theorem ownedBy_iff : r.ownedBy workerId now = true ↔
    r.leaseOwner = some workerId ∧ ∃ t, r.leaseExpiresAt = some t ∧ now < t := by
  simp [OperationRow.ownedBy, Option.any_eq_true]

/-- A row without a lease, in a state that asks for none. -/
theorem leaseCoupled_of_none (howner : r.leaseOwner = none) (hexpiry : r.leaseExpiresAt = none)
    (hstate : ¬ r.state.Active) : LeaseCoupled r where
  paired := by simp [howner, hexpiry]
  idle := fun _ => howner
  active := fun h => absurd h hstate

/-- A row with a lease, in a state that allows one. -/
theorem leaseCoupled_of_some (howner : r.leaseOwner.isSome) (hexpiry : r.leaseExpiresAt.isSome)
    (hstate : ¬ r.state.Idle) : LeaseCoupled r where
  paired := ⟨fun _ => hexpiry, fun _ => howner⟩
  idle := fun h => absurd h hstate
  active := fun _ => howner

theorem isSome_of_ownedBy (h : r.ownedBy workerId now = true) :
    r.leaseOwner.isSome ∧ r.leaseExpiresAt.isSome := by
  obtain ⟨howner, t, hexpiry, _⟩ := ownedBy_iff.mp h
  simp [howner, hexpiry]

theorem leaseCoupled_newRow (now : Nat) (operationId : String) (request : CreateRequest)
    (traceparent : Option String) : LeaseCoupled (newRow now operationId request traceparent) :=
  leaseCoupled_of_none rfl rfl (by simp [newRow, OperationState.Active])

theorem LeaseCoupled.step (h : RowStep now call r r') (hr : LeaseCoupled r) : LeaseCoupled r' := by
  cases h with
  | lease => exact leaseCoupled_of_some rfl rfl (by simp [OperationState.Idle])
  | startRunning _ hown _ =>
    obtain ⟨howner, hexpiry⟩ := isSome_of_ownedBy hown
    exact leaseCoupled_of_some howner hexpiry (by simp [OperationState.Idle])
  | startCancelled => exact leaseCoupled_of_none rfl rfl (by simp [OperationState.Active])
  | heartbeat _ _ hown =>
    obtain ⟨howner, _⟩ := isSome_of_ownedBy hown
    exact ⟨⟨fun _ => rfl, fun _ => howner⟩, hr.idle, hr.active⟩
  | checkpoint _ _ hown =>
    obtain ⟨howner, hexpiry⟩ := isSome_of_ownedBy hown
    exact leaseCoupled_of_some howner hexpiry (by simp [OperationState.Idle])
  | checkpointCancelled => exact leaseCoupled_of_none rfl rfl (by simp [OperationState.Active])
  | requestCancel =>
    exact ⟨hr.paired, by simp [OperationState.Idle], by simp [OperationState.Active]⟩
  | complete => exact leaseCoupled_of_none rfl rfl (by simp [OperationState.Active])
  | fail => exact leaseCoupled_of_none rfl rfl (by simp [OperationState.Active])
  | release => exact leaseCoupled_of_none rfl rfl (by simp [OperationState.Active])
  | quarantine => exact leaseCoupled_of_none rfl rfl (by simp [OperationState.Active])

/-- While nobody holds its lease, a row is leased, its cancellation is requested, or it is reconciled. -/
theorem RowStep.of_unowned (h : RowStep now call r r') (hfree : ∀ w, ¬ r.ownedBy w now = true) :
    (r.leasable ∧ (r.state = .failed → r.attempt < r.maxAttempts)) ∨
    ((r.state ≠ .succeeded ∧ r.state ≠ .failed ∧ r.state ≠ .cancelled) ∧
      r' = { r with cancelRequested := true, state := .cancelRequested, updatedAt := now }) ∨
    abandoned r now = true := by
  cases h with
  | lease _ _ hleasable _ hbudget => exact .inl ⟨hleasable, hbudget⟩
  | startRunning _ hown | startCancelled _ hown | heartbeat _ _ hown | checkpoint _ _ hown
  | checkpointCancelled _ _ hown | complete _ hown | fail _ hown => exact absurd hown (hfree _)
  | requestCancel _ hopen => exact .inr (.inl ⟨hopen, rfl⟩)
  | release _ habandoned | quarantine _ habandoned => exact .inr (.inr habandoned)

theorem not_ownedBy_of_none (howner : r.leaseOwner = none) (w : String) : ¬ r.ownedBy w now = true := by
  simp [OperationRow.ownedBy, howner]

/-- No call moves a row that is finished and holds no lease. -/
theorem not_rowStep_of_finished (howner : r.leaseOwner = none) (hstate : r.state = .succeeded ∨ r.state = .cancelled) :
    ¬ RowStep now call r r' := by
  intro h
  rcases h.of_unowned (not_ownedBy_of_none howner) with ⟨hleasable, _⟩ | ⟨hopen, _⟩ | habandoned
  · rcases hstate with hs | hs <;> simp [OperationRow.leasable, hs] at hleasable
  · rcases hstate with hs | hs <;> simp [hs] at hopen
  · rcases hstate with hs | hs <;> simp [abandoned, hs] at habandoned

end Rows

theorem leaseCoupled_reached (ops : OperationService) (base : Store) (events : List Event) :
    AllRows LeaseCoupled (ops.reached base events) :=
  allRows_reached leaseCoupled_newRow (fun _ _ _ _ h => LeaseCoupled.step h) base events

theorem run_finished {ops : OperationService} {s : Store} {k : String} {r : OperationRow}
    (hr : s.operation? k = some r) (howner : r.leaseOwner = none)
    (hstate : r.state = .succeeded ∨ r.state = .cancelled) (events : List Event) :
    (run ops.step s events).operation? k = some r := by
  have hkept : ∀ now call x x', RowStep now call x x' → x = r → x' = r := by
    rintro now call x x' hstep rfl
    exact absurd hstep (not_rowStep_of_finished howner hstate)
  obtain ⟨r', hr', rfl⟩ := run_row hkept hr rfl events
  exact hr'

/-- In every reachable store each row has its lease columns set or clear together, clear
when idle and set when active; and a succeeded or cancelled row stays exactly as it is
through every later run. -/
theorem lease_columns_coupled (ops : OperationService) (base : Store) (events : List Event) (k : String)
    (r : OperationRow) (hr : (ops.reached base events).operation? k = some r) :
    (r.leaseOwner.isSome ↔ r.leaseExpiresAt.isSome) ∧
    (r.state.Idle → r.leaseOwner = none ∧ r.leaseExpiresAt = none) ∧
    (r.state.Active → r.leaseOwner.isSome ∧ r.leaseExpiresAt.isSome) ∧
    (r.state = .succeeded ∨ r.state = .cancelled →
      ∀ later, (run ops.step (ops.reached base events) later).operation? k = some r) := by
  have h := leaseCoupled_reached ops base events k r hr
  refine ⟨h.paired, ?_, ?_, ?_⟩
  · intro hidle
    have howner := h.idle hidle
    refine ⟨howner, Option.not_isSome_iff_eq_none.mp fun hexpiry => ?_⟩
    have := h.paired.mpr hexpiry
    simp [howner] at this
  · intro hactive
    exact ⟨h.active hactive, h.paired.mp (h.active hactive)⟩
  · intro hfinished later
    have hidle : r.state.Idle := by
      rcases hfinished with hs | hs <;> simp [OperationState.Idle, hs]
    exact run_finished hr (h.idle hidle) hfinished later

theorem lease_columns_coupled_leased :
    ∃ r, (sampleService.reached .empty (createdAndLeased 3)).operation? "op" = some r ∧ r.state = .leased ∧
      r.leaseOwner.isSome ∧ r.leaseExpiresAt.isSome := by
  have hr := leased_sample 3
  have h := lease_columns_coupled sampleService .empty (createdAndLeased 3) "op" _ hr
  exact ⟨_, hr, rfl, h.2.2.1 (.inl rfl)⟩

end Sip
