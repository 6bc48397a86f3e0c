import Sip.Operations.LeaseInvariant

/-!
# Cancellation

Once cancellation is requested an operation produces nothing any more: it is never
running or succeeded, and its output, progress and checkpoint stay as they are.
The request is carried out by a call of the worker that holds the lease. Without a
lease, or when it has run out, no call of anybody leaves the requested state.
-/

namespace Sip

set_option autoImplicit false

open OperationService

section Rows
variable {now : Nat} {call : Call} {r r' : OperationRow}

/-- The flag and the state agree about a requested cancellation. -/
structure CancelCoupled (r : OperationRow) : Prop where
  flagged : r.state = .cancelRequested → r.cancelRequested = true
  halted : r.cancelRequested = true → r.state ≠ .running ∧ r.state ≠ .succeeded

theorem cancelCoupled_newRow (now : Nat) (operationId : String) (request : CreateRequest)
    (traceparent : Option String) : CancelCoupled (newRow now operationId request traceparent) :=
  ⟨nofun, nofun⟩

theorem CancelCoupled.step (h : RowStep now call r r') (hr : CancelCoupled r) : CancelCoupled r' := by
  cases h with
  | startRunning _ _ hcancel => exact ⟨nofun, fun h => by simp [hcancel] at h⟩
  | heartbeat => exact ⟨hr.flagged, hr.halted⟩
  | checkpoint _ _ _ _ _ _ hcancel => exact ⟨nofun, fun h => by simp [hcancel] at h⟩
  | requestCancel => exact ⟨fun _ => rfl, fun _ => by simp⟩
  | complete _ _ hcancel => exact ⟨nofun, fun h => by simp [OperationRow.released, hcancel] at h⟩
  | lease | startCancelled | checkpointCancelled | fail | release | quarantine =>
    exact ⟨nofun, fun _ => by simp⟩

/-- The columns a worker produces. -/
structure SameProducts (r r' : OperationRow) : Prop where
  outputJson : r'.outputJson = r.outputJson
  outputHash : r'.outputHash = r.outputHash
  progress : r'.progress = r.progress
  checkpointJson : r'.checkpointJson = r.checkpointJson

theorem SameProducts.refl (r : OperationRow) : SameProducts r r := ⟨rfl, rfl, rfl, rfl⟩

theorem SameProducts.trans {a b c : OperationRow} (h : SameProducts a b) (h' : SameProducts b c) : SameProducts a c where
  outputJson := h'.outputJson.trans h.outputJson
  outputHash := h'.outputHash.trans h.outputHash
  progress := h'.progress.trans h.progress
  checkpointJson := h'.checkpointJson.trans h.checkpointJson

/-- A step of a row whose cancellation is requested keeps the flag and what was produced. -/
theorem RowStep.of_cancelRequested (h : RowStep now call r r') (hcancel : r.cancelRequested = true) :
    r'.cancelRequested = true ∧ SameProducts r r' := by
  cases h with
  | startRunning _ _ hno | checkpoint _ _ _ _ _ _ hno | complete _ _ hno =>
    rw [hcancel] at hno
    cases hno
  | requestCancel => exact ⟨rfl, ⟨rfl, rfl, rfl, rfl⟩⟩
  | lease | startCancelled | heartbeat | checkpointCancelled | fail | release | quarantine =>
    exact ⟨hcancel, ⟨rfl, rfl, rfl, rfl⟩⟩

end Rows

theorem cancelCoupled_reached (ops : OperationService) (base : Store) (events : List Event) :
    AllRows CancelCoupled (ops.reached base events) :=
  allRows_reached cancelCoupled_newRow (fun _ _ _ _ h => CancelCoupled.step h) base events

/-- From any reachable store in which cancellation of an operation has been requested, and
through every later run, the operation is neither running nor succeeded and keeps its
output, output hash, progress and checkpoint. -/
theorem cancelled_produces_nothing (ops : OperationService) (base : Store) (events : List Event) (k : String)
    (r : OperationRow) (hr : (ops.reached base events).operation? k = some r) (hcancel : r.cancelRequested = true)
    (later : List Event) :
    ∃ r', (run ops.step (ops.reached base events) later).operation? k = some r' ∧
      r'.state ≠ .running ∧ r'.state ≠ .succeeded ∧ r'.outputJson = r.outputJson ∧
      r'.outputHash = r.outputHash ∧ r'.progress = r.progress ∧ r'.checkpointJson = r.checkpointJson := by
  have hkept : ∀ now call x x', RowStep now call x x' →
      (CancelCoupled x ∧ x.cancelRequested = true ∧ SameProducts r x) →
      (CancelCoupled x' ∧ x'.cancelRequested = true ∧ SameProducts r x') := by
    rintro now call x x' hstep ⟨hcoupled, hflag, hsame⟩
    obtain ⟨hflag', hsame'⟩ := hstep.of_cancelRequested hflag
    exact ⟨hcoupled.step hstep, hflag', hsame.trans hsame'⟩
  have hcoupled := cancelCoupled_reached ops base events k r hr
  obtain ⟨r', hr', hcoupled', hflag', hsame⟩ := run_row hkept hr ⟨hcoupled, hcancel, .refl r⟩ later
  obtain ⟨hrunning, hsucceeded⟩ := hcoupled'.halted hflag'
  exact ⟨r', hr', hrunning, hsucceeded, hsame.outputJson, hsame.outputHash, hsame.progress, hsame.checkpointJson⟩

theorem validatePayload_actor {actorId : String} (h : actorId.toList.length ≤ 255) :
    validatePayload [("actor_id", .str actorId)] = .ok () := by
  apply validatePayload_published
  · simp [publishedKeys, Json.Scalar]
  · have hid := fieldSize_str_le "actor_id" actorId
    have hkey : (stringText "actor_id").length = 10 := by decide
    simp only [List.map_cons, List.map_nil, List.sum_cons, List.sum_nil]
    omega

theorem cancelling_sample :
    (sampleService.reached .empty (createdAndLeased 3 ++ [⟨0, .requestCancel "op" "u"⟩])).operation? "op" =
      some { heldRow 3 with cancelRequested := true, state := .cancelRequested, updatedAt := 0 } := by
  rw [reached, run_append, run_cons, run_nil]
  exact cancelRequested_row (leased_sample 3) ⟨by decide, by decide, by decide⟩ (validatePayload_actor (by decide))

/-- The worker of a cancelled operation tries to finish it nevertheless. -/
theorem cancelled_produces_nothing_complete :
    ∃ r', (run sampleService.step (sampleService.reached .empty
        (createdAndLeased 3 ++ [⟨0, .requestCancel "op" "u"⟩]))
        [⟨0, .complete "op" "w" [] none⟩]).operation? "op" = some r' ∧
      r'.state ≠ .running ∧ r'.state ≠ .succeeded ∧ r'.outputHash = none := by
  obtain ⟨r', hr', hrunning, hsucceeded, _, hhash, _⟩ :=
    cancelled_produces_nothing sampleService .empty _ "op" _ cancelling_sample rfl [⟨0, .complete "op" "w" [] none⟩]
  exact ⟨r', hr', hrunning, hsucceeded, hhash⟩

section Stranded

/-- The states in which a requested cancellation has come to an end. -/
def OperationState.Settled (state : OperationState) : Prop :=
  state = .cancelled ∨ state = .failed ∨ state = .quarantined

/-- Cancellation is requested, and from `clock` on nobody holds the lease. -/
structure Stranded (clock : Nat) (r : OperationRow) : Prop where
  requested : r.state = .cancelRequested
  lapsed : ∀ expires, r.leaseExpiresAt = some expires → expires ≤ clock

theorem Stranded.step {clock now : Nat} {call : Call} {r r' : OperationRow} (hnow : clock ≤ now)
    (h : RowStep now call r r') (hr : Stranded clock r) : Stranded clock r' := by
  have hfree : ∀ w, ¬ r.ownedBy w now = true := by
    intro w hown
    obtain ⟨_, expires, hexpires, hlt⟩ := ownedBy_iff.mp hown
    have := hr.lapsed expires hexpires
    omega
  rcases h.of_unowned hfree with ⟨hleasable, _⟩ | ⟨_, rfl⟩ | habandoned
  · simp [OperationRow.leasable, hr.requested] at hleasable
  · exact ⟨rfl, hr.lapsed⟩
  · simp [abandoned, hr.requested] at habandoned

theorem stranded_run {ops : OperationService} {s : Store} {k : String} {r : OperationRow} {clock : Nat}
    (hr : s.operation? k = some r) (hstranded : Stranded clock r) {later : List Event}
    (hlater : ∀ e ∈ later, clock ≤ e.now) :
    ∃ r', (run ops.step s later).operation? k = some r' ∧ Stranded clock r' :=
  run_row_of hlater (fun _ _ _ hnow => Stranded.step hnow) hr hstranded

/-- The worker that holds the lease settles the cancellation by starting. -/
theorem start_settles {ops : OperationService} {s : Store} {k workerId : String} {r : OperationRow} {now : Nat}
    (hr : s.operation? k = some r) (hown : r.ownedBy workerId now = true) (hcancel : r.cancelRequested = true) :
    ∃ r', (ops.step s ⟨now, .start k workerId⟩).operation? k = some r' ∧ r'.state = .cancelled := by
  obtain rfl := operationId_of_operation? hr
  have hstart : start s now r.operationId workerId =
      .ok (s.saveOperation { r.released with state := .cancelled, updatedAt := now },
        { r.released with state := .cancelled, updatedAt := now }) := by
    simp only [start, bind_eq_ok, ownedLease_eq_ok]
    refine ⟨r, ⟨hr, hown⟩, ?_⟩
    rw [if_pos hcancel]
    rfl
  refine ⟨{ r.released with state := .cancelled, updatedAt := now }, ?_, rfl⟩
  simp only [OperationService.step, perform, hstart, commit]
  exact operation?_of_set hr (.startCancelled rfl hown hcancel) rfl

/-- A requested cancellation can still come to an end after `clock` exactly when the row
holds a lease that runs beyond `clock`. -/
theorem cancellation_settles_iff (ops : OperationService) (base : Store) (events : List Event) (k : String)
    (r : OperationRow) (clock : Nat) (hr : (ops.reached base events).operation? k = some r)
    (hstate : r.state = .cancelRequested) :
    (∃ later : List Event, (∀ e ∈ later, clock ≤ e.now) ∧ (later.map Event.now).Pairwise (· ≤ ·) ∧
      ∃ r', (run ops.step (ops.reached base events) later).operation? k = some r' ∧ r'.state.Settled) ↔
    ∃ expires, r.leaseExpiresAt = some expires ∧ clock < expires := by
  constructor
  · intro h
    obtain ⟨later, hlater, _, r', hr', hsettled⟩ := h
    by_contra hnone
    have hstranded : Stranded clock r := ⟨hstate, fun e he => not_lt.mp fun hlt => hnone ⟨e, he, hlt⟩⟩
    obtain ⟨x, hx, hx'⟩ := stranded_run hr hstranded hlater
    rw [hr'] at hx
    cases hx
    simp [OperationState.Settled, hx'.requested] at hsettled
  · intro h
    obtain ⟨expires, hexpires, hlt⟩ := h
    have howner := (leaseCoupled_reached ops base events k r hr).paired.mpr (by simp [hexpires])
    obtain ⟨workerId, hworker⟩ := Option.isSome_iff_exists.mp howner
    have hown : r.ownedBy workerId clock = true := ownedBy_iff.mpr ⟨hworker, expires, hexpires, hlt⟩
    have hcancel := (cancelCoupled_reached ops base events k r hr).flagged hstate
    obtain ⟨r', hr', hcancelled⟩ := start_settles hr hown hcancel
    exact ⟨[⟨clock, .start k workerId⟩], by simp, by simp, r', hr', .inl hcancelled⟩

theorem cancellation_settles_iff_leased :
    ∃ r, (sampleService.reached .empty
        (createdAndLeased 3 ++ [⟨0, .requestCancel "op" "u"⟩])).operation? "op" = some r ∧
      ((∃ later : List Event, (∀ e ∈ later, 0 ≤ e.now) ∧ (later.map Event.now).Pairwise (· ≤ ·) ∧
        ∃ r', (run sampleService.step (sampleService.reached .empty
          (createdAndLeased 3 ++ [⟨0, .requestCancel "op" "u"⟩])) later).operation? "op" = some r' ∧
          r'.state.Settled) ↔
      ∃ expires, r.leaseExpiresAt = some expires ∧ 0 < expires) := by
  exact ⟨_, cancelling_sample, cancellation_settles_iff sampleService .empty _ "op" _ 0 cancelling_sample rfl⟩

/-- Cancellation of a pending operation is never carried out. -/
def cancelledWhilePending : List Event :=
  [⟨0, .create "op" "audit" (sampleRequest 3)⟩, ⟨0, .requestCancel "op" "u"⟩]

theorem cancelledWhilePending_stuck :
    ∃ r, (sampleService.reached .empty cancelledWhilePending).operation? "op" = some r ∧
      r.state = .cancelRequested ∧
      ¬ ∃ later r', (run sampleService.step (sampleService.reached .empty cancelledWhilePending) later).operation?
        "op" = some r' ∧ r'.state.Settled := by
  have hcreated := created_sample 3
  rw [reached, run_cons, run_nil] at hcreated
  have hr : (sampleService.reached .empty cancelledWhilePending).operation? "op" =
      some { newRow 0 "op" (sampleRequest 3) none with
        cancelRequested := true, state := .cancelRequested, updatedAt := 0 } := by
    rw [reached, cancelledWhilePending, run_cons, run_cons, run_nil]
    exact cancelRequested_row hcreated ⟨by decide, by decide, by decide⟩ (validatePayload_actor (by decide))
  refine ⟨_, hr, rfl, ?_⟩
  intro h
  obtain ⟨later, r', hr', hsettled⟩ := h
  obtain ⟨x, hx, hx'⟩ := stranded_run hr ⟨rfl, fun _ h => by cases h⟩ (fun e _ => Nat.zero_le e.now)
  rw [hr'] at hx
  cases hx
  simp [OperationState.Settled, hx'.requested] at hsettled

end Stranded

end Sip
