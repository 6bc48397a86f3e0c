import Sip.Operations.LeaseInvariant

/-!
# The attempt budget and final failures

`lease` compares the attempts with the budget only for failed rows, although taking
over an expired lease counts as an attempt too. As long as no exhausted row is taken
over like that, attempts stay within the budget. A failure marked as not retryable
leaves the row as every failure does, so it is final exactly when no attempt is left.
-/

namespace Sip

set_option autoImplicit false

open OperationService

/-- The budget as it is kept between calls: a pending row has an attempt left. -/
structure WithinBudget (r : OperationRow) : Prop where
  attempt_le : r.attempt ≤ r.maxAttempts
  pending_lt : r.state = .pending → r.attempt < r.maxAttempts

/-- The row is active, its lease has run out, and its attempts are used up. -/
def OperationRow.Overdue (r : OperationRow) (now : Nat) : Prop :=
  r.state.Active ∧ r.leaseExpired now = true ∧ r.maxAttempts ≤ r.attempt

/-- A call that does not take over an exhausted row; new rows have a budget. -/
def RespectsBudget (s : Store) (event : Event) : Prop :=
  (∀ operationId auditId request, event.call = .create operationId auditId request → 1 ≤ request.maxAttempts) ∧
  (∀ operationId workerId leaseSeconds r, event.call = .lease operationId workerId leaseSeconds →
    s.operation? operationId = some r → ¬ r.Overdue event.now)

section Rows
variable {now : Nat} {call : Call} {r r' : OperationRow}

theorem nextAttempt_le (hr : WithinBudget r) (hstate : r.leasable) (hdue : ¬ r.Overdue now)
    (hbudget : r.state = .failed → r.attempt < r.maxAttempts) : nextAttempt r now ≤ r.maxAttempts := by
  unfold nextAttempt
  split
  · rename_i hraised
    have hlt : r.attempt < r.maxAttempts := by
      rcases hstate with hs | hs | hs | hs
      · exact hr.pending_lt hs
      · have hexpired : r.leaseExpired now = true := by simpa [hs] using hraised
        exact not_le.mp fun hle => hdue ⟨.inl hs, hexpired, hle⟩
      · have hexpired : r.leaseExpired now = true := by simpa [hs] using hraised
        exact not_le.mp fun hle => hdue ⟨.inr hs, hexpired, hle⟩
      · exact hbudget hs
    omega
  · exact hr.attempt_le

theorem WithinBudget.step (h : RowStep now call r r') (hr : WithinBudget r)
    (hdue : ∀ workerId leaseSeconds, call = .lease r.operationId workerId leaseSeconds → ¬ r.Overdue now) :
    WithinBudget r' := by
  cases h with
  | lease hcall _ hstate _ hbudget =>
    exact ⟨nextAttempt_le hr hstate (hdue _ _ hcall) hbudget, fun hs => by cases hs⟩
  | heartbeat => exact ⟨hr.attempt_le, hr.pending_lt⟩
  | release _ _ hresumable =>
    have hlt : r.attempt < r.maxAttempts := by
      simp only [resumable, decide_eq_true_eq] at hresumable
      exact hresumable.2
    exact ⟨hr.attempt_le, fun _ => hlt⟩
  | startRunning | startCancelled | checkpoint | checkpointCancelled | requestCancel | complete | fail
  | quarantine => exact ⟨hr.attempt_le, fun hs => by cases hs⟩

end Rows

theorem allRows_withinBudget_step {ops : OperationService} {s : Store} {event : Event}
    (hevent : RespectsBudget s event) (h : AllRows WithinBudget s) : AllRows WithinBudget (ops.step s event) := by
  intro k
  refine AllRows.step ?_ ?_ (h k)
  · intro auditId request traceparent hcall
    have hmax : 0 < request.maxAttempts := hevent.1 _ _ _ hcall
    exact ⟨hmax.le, fun _ => hmax⟩
  · intro r r' hr hmove hI
    apply hI.step hmove
    intro workerId leaseSeconds hcall
    exact hevent.2 _ _ _ r hcall ((operationId_of_operation? hr).symm ▸ hr)

/-- In a run in which every created operation has a budget and no call leases an active
row whose lease has run out with no attempt left, the attempts of every operation stay
within its budget in every state the run goes through. -/
theorem attempt_le_maxAttempts (ops : OperationService) (base : Store) (events : List Event)
    (hrun : Along ops.step RespectsBudget { base with operations := .empty } events)
    (before : List Event) (hbefore : before <+: events) (k : String) (r : OperationRow)
    (hr : (ops.reached base before).operation? k = some r) : r.attempt ≤ r.maxAttempts := by
  have h : AllRows WithinBudget (ops.reached base before) := by
    refine run_invariant_along (fun s event hevent hs => allRows_withinBudget_step hevent hs) ?_
      (hrun.of_prefix hbefore)
    intro k r hr
    cases hr
  exact (h k r hr).attempt_le

theorem attempt_le_maxAttempts_leased :
    ∃ r, (sampleService.reached .empty (createdAndLeased 1)).operation? "op" = some r ∧ r.state = .leased ∧
      r.attempt ≤ r.maxAttempts := by
  have hpending := created_sample 1
  rw [reached, run_cons, run_nil] at hpending
  refine ⟨heldRow 1, leased_sample 1, rfl, ?_⟩
  refine attempt_le_maxAttempts sampleService .empty (createdAndLeased 1) ⟨⟨?_, ?_⟩, ⟨?_, ?_⟩, trivial⟩
    (createdAndLeased 1) (List.prefix_refl _) "op" (heldRow 1) (leased_sample 1)
  · intro _ _ _ hcall
    cases hcall
    decide
  · intro _ _ _ _ hcall
    cases hcall
  · intro _ _ _ hcall
    cases hcall
  · intro _ _ _ p hcall hp
    cases hcall
    rw [hp, Option.some_inj] at hpending
    simp [OperationRow.Overdue, OperationState.Active, hpending, newRow]

/-- A second worker takes the only attempt of another over when its lease has run out. -/
def takenOver : List Event := createdAndLeased 1 ++ [⟨seconds 1, .lease "op" "v" 60⟩]

theorem takenOver_exceeds_budget :
    (takenOver.map Event.now).Pairwise (· ≤ ·) ∧
    ∃ r, (sampleService.reached .empty takenOver).operation? "op" = some r ∧ ¬ r.attempt ≤ r.maxAttempts := by
  have hadmits : Admits (seconds 1) "v" (heldRow 1) :=
    ⟨.inr (.inl rfl), by decide, nofun, validatePayload_leased (by decide) (by decide)⟩
  refine ⟨by decide, leasedRow (seconds 1) "v" 60 (heldRow 1), ?_, by decide⟩
  rw [takenOver, reached, run_append, run_cons, run_nil]
  exact leased_row (by decide) (leased_sample 1) hadmits

section FinalFailure

/-- The row failed and has no attempt left. -/
structure Exhausted (r : OperationRow) : Prop where
  failed : r.state = .failed
  owner : r.leaseOwner = none
  spent : r.maxAttempts ≤ r.attempt

theorem Exhausted.not_rowStep {now : Nat} {call : Call} {r r' : OperationRow} (hr : Exhausted r) :
    ¬ RowStep now call r r' := by
  intro h
  rcases h.of_unowned (not_ownedBy_of_none hr.owner) with ⟨_, hbudget⟩ | ⟨hopen, _⟩ | habandoned
  · exact absurd (hbudget hr.failed) (not_lt.mpr hr.spent)
  · exact absurd hr.failed hopen.2.1
  · simp [abandoned, hr.failed] at habandoned

/-- What a `fail` that returned has done. -/
theorem failed_row {ops : OperationService} {s : Store} {now : Nat} {k workerId code message : String}
    {retryable : Bool} (h : (ops.perform s now (.fail k workerId code message retryable)).2 = .ok ()) :
    ∃ r r', s.operation? k = some r ∧
      (ops.step s ⟨now, .fail k workerId code message retryable⟩).operation? k = some r' ∧
      r'.state = .failed ∧ r'.leaseOwner = none ∧ r'.attempt = r.attempt ∧ r'.maxAttempts = r.maxAttempts := by
  obtain ⟨r', hfail⟩ := commit_eq_ok h
  obtain ⟨r, hr, hmove, hops⟩ := fail_eq_ok hfail
  have hr' := operation?_of_set hr hmove hops
  cases hmove with
  | fail hcall _ =>
    cases hcall
    exact ⟨r, _, hr, hr', rfl, rfl, rfl, rfl⟩
  | _ hcall => cases hcall

/-- When a failure is reported as not retryable after the last attempt, the operation
is failed after every later run. -/
theorem final_failure_stays (ops : OperationService) (base : Store) (events : List Event) (now : Nat)
    (k workerId code message : String) (r : OperationRow)
    (hr : (ops.reached base events).operation? k = some r)
    (hspent : r.maxAttempts ≤ r.attempt)
    (hfail : (ops.perform (ops.reached base events) now (.fail k workerId code message false)).2 = .ok ())
    (later : List Event) :
    ∃ r', (ops.reached base (events ++ ⟨now, .fail k workerId code message false⟩ :: later)).operation? k = some r' ∧
      r'.state ≠ .leased ∧ r'.state ≠ .running ∧ r'.state ≠ .succeeded := by
  obtain ⟨x, r', hx, hr', hstate, howner, hattempt, hmax⟩ := failed_row hfail
  rw [hr] at hx
  cases hx
  have hexhausted : Exhausted r' := ⟨hstate, howner, by omega⟩
  have hkept : ∀ now call x x', RowStep now call x x' → Exhausted x → Exhausted x' := by
    intro now call x x' hstep hx
    exact absurd hstep hx.not_rowStep
  rw [reached, run_append, run_cons]
  obtain ⟨y, hy, hfinal⟩ := run_row hkept hr' hexhausted later
  refine ⟨y, hy, ?_⟩
  simp [hfinal.failed]

/-- Worker `w` reports a failure that must not be retried. -/
def finalFailure : Call := .fail "op" "w" "INPUT_INVALID" "unreadable input" false

theorem finalFailure_reported (maxAttempts : Int) :
    (sampleService.perform (sampleService.reached .empty (createdAndLeased maxAttempts)) 0 finalFailure).2 = .ok () :=
  fail_ok (leased_sample maxAttempts) (heldRow_ownedBy maxAttempts) (validatePayload_failure (by decide))

theorem final_failure_stays_last_attempt :
    ∃ r', (sampleService.reached .empty
      (createdAndLeased 1 ++ ⟨0, finalFailure⟩ :: [⟨0, .lease "op" "v" 60⟩])).operation? "op" = some r' ∧
      r'.state ≠ .leased ∧ r'.state ≠ .running ∧ r'.state ≠ .succeeded := by
  exact final_failure_stays sampleService .empty (createdAndLeased 1) 0 "op" "w" "INPUT_INVALID" "unreadable input"
    (heldRow 1) (leased_sample 1) (by decide) (finalFailure_reported 1) [⟨0, .lease "op" "v" 60⟩]

/-- With attempts left, the next worker gets the operation. -/
theorem finalFailure_leased_again :
    (sampleService.perform (sampleService.reached .empty (createdAndLeased 3)) 0 finalFailure).2 = .ok () ∧
    ∃ r', (sampleService.reached .empty
      (createdAndLeased 3 ++ ⟨0, finalFailure⟩ :: [⟨0, .lease "op" "v" 60⟩])).operation? "op" = some r' ∧
      r'.state = .leased := by
  have hfail := finalFailure_reported 3
  refine ⟨hfail, ?_⟩
  obtain ⟨x, r', hx, hr', hstate, howner, hattempt, hmax⟩ := failed_row hfail
  rw [leased_sample 3, Option.some_inj] at hx
  subst hx
  have hcount : r'.attempt = 1 := hattempt
  have hbudget : r'.maxAttempts = 3 := hmax
  have hnext : nextAttempt r' 0 = 2 := by simp [nextAttempt, hstate, hcount]
  have hadmits : Admits 0 "v" r' := by
    refine ⟨.inr (.inr (.inr hstate)), ?_, fun _ => by omega, validatePayload_leased (by decide) (by omega)⟩
    simp [OperationRow.leasedToOther, howner]
  rw [reached, run_append, run_cons, run_cons, run_nil]
  exact ⟨_, leased_row (by decide) hr' hadmits, rfl⟩

end FinalFailure

end Sip
