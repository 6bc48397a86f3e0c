import Sip.Operations.Transitions

/-!
# From one row step to whole runs

A call of the service keeps every row or moves it by `RowStep`; a row that was not
there comes from `create`. What every new row satisfies and every row step keeps
therefore holds of every row in every reachable store, and what holds of one row
and is kept by every step holds of it for ever.
-/

namespace Sip

set_option autoImplicit false

open OperationService

/-- How the operations of two stores are related by one call. -/
structure Moved (now : Nat) (call : Call) (s s' : Store) : Prop where
  row : ∀ {k : String} {r : OperationRow}, s.operation? k = some r →
    ∃ r', s'.operation? k = some r' ∧ (r' = r ∨ RowStep now call r r')
  fresh : ∀ {k : String} {r' : OperationRow}, s.operation? k = none → s'.operation? k = some r' →
    ∃ auditId request traceparent, call = .create k auditId request ∧ r' = newRow now k request traceparent

section Step
variable {ops : OperationService} {s s' : Store} {now : Nat} {call : Call}

theorem moved_of_operations_eq (h : s'.operations = s.operations) : Moved now call s s' := by
  have hop : ∀ k, s'.operation? k = s.operation? k := by
    intro k
    simp only [Store.operation?, h]
  constructor
  · intro k r hr
    exact ⟨r, (hop k).trans hr, .inl rfl⟩
  · intro k r' hnone hsome
    rw [hop, hnone] at hsome
    cases hsome

theorem operation?_of_set {row row' : OperationRow} (hrow : s.operation? row.operationId = some row)
    (hstep : RowStep now call row row') (hops : s'.operations = s.operations.set row') :
    s'.operation? row.operationId = some row' := by
  have hid : row'.operationId = row.operationId := hstep.operationId_eq
  rw [Store.operation?, hops, ← hid]
  exact Table.get?_set_self s.operations (hid ▸ hrow)

theorem Updated.moved {row' : OperationRow} (h : Updated now call s s' row') : Moved now call s s' := by
  obtain ⟨row, hrow, hstep, hops⟩ := h
  have hid : row'.operationId = row.operationId := hstep.operationId_eq
  have hself := operation?_of_set hrow hstep hops
  have hother : ∀ k, k ≠ row.operationId → s'.operation? k = s.operation? k := by
    intro k hk
    rw [Store.operation?, hops]
    exact Table.get?_set_of_ne s.operations (hid ▸ hk)
  constructor
  · intro k r hr
    by_cases hk : k = row.operationId
    · subst hk
      rw [hrow] at hr
      cases hr
      exact ⟨row', hself, .inr hstep⟩
    · exact ⟨r, (hother k hk).trans hr, .inl rfl⟩
  · intro k r' hnone hsome
    by_cases hk : k = row.operationId
    · rw [hk, hrow] at hnone
      cases hnone
    · rw [hother k hk, hnone] at hsome
      cases hsome

theorem moved_reconciled {result : Reconciled} (h : reconcileExpiredLeases s now = .ok (s', result)) :
    Moved now .reconcileExpiredLeases s s' := by
  constructor
  · intro k r hr
    rw [operation?_reconciled h, hr]
    refine ⟨_, rfl, ?_⟩
    dsimp only
    by_cases habandoned : abandoned r now = true
    · rw [if_pos habandoned]
      exact .inr (rowStep_reconciledRow habandoned)
    · exact .inl (if_neg habandoned)
  · intro k r' hnone hsome
    rw [operation?_reconciled h, hnone] at hsome
    cases hsome

theorem insertOperation_eq_ok {operationId auditId : String} {request : CreateRequest} {row : OperationRow}
    (h : ops.insertOperation s now operationId auditId request = .ok (s', row)) :
    (s' = s ∧ prior? s request = some row) ∨
      (prior? s request = none ∧ ∃ traceparent, row = newRow now operationId request traceparent ∧
        s.operations.insert? row = some s'.operations) := by
  simp only [insertOperation, bind_eq_ok] at h
  obtain ⟨traceparent, _, h⟩ := h
  split at h
  · rename_i prior hprior
    obtain ⟨_, _, h⟩ := bind_eq_ok.mp h
    cases h
    exact .inl ⟨rfl, hprior⟩
  · rename_i hprior
    simp only [bind_eq_ok, orRaise_eq_ok] at h
    obtain ⟨s₁, hs₁, operations, hins, audit, _, h⟩ := h
    cases h
    rw [outbox_operations hs₁] at hins
    exact .inr ⟨hprior, traceparent, rfl, hins⟩

theorem authorize_operations (request : CreateRequest) :
    (ops.authorize s now request).1.operations = s.operations := by
  unfold authorize
  split
  · rfl
  · exact DeploymentService.operations_eq _ _ _ _

theorem moved_create {operationId auditId : String} {request : CreateRequest} :
    Moved now (.create operationId auditId request) s (ops.create s now operationId auditId request).1 := by
  unfold create
  split
  · exact moved_of_operations_eq rfl
  · have hauth : (ops.authorize s now request).1.operations = s.operations := authorize_operations request
    split
    · rename_i s₁ e hs₁
      rw [hs₁] at hauth
      exact moved_of_operations_eq hauth
    · rename_i s₁ u hs₁
      rw [hs₁] at hauth
      split
      · exact moved_of_operations_eq hauth
      · rename_i s₂ row hs₂
        rcases insertOperation_eq_ok hs₂ with ⟨rfl, _⟩ | ⟨_, traceparent, rfl, hins⟩
        · exact moved_of_operations_eq hauth
        · have hget : ∀ k, s₂.operation? k =
              if k = operationId then some (newRow now operationId request traceparent) else s.operation? k := by
            intro k
            rw [Store.operation?, Table.get?_insert hins, hauth]
            rfl
          have hfresh : s.operation? operationId = none := by
            have := (Table.insert?_eq_some hins).1
            rw [hauth] at this
            exact this
          constructor
          · intro k r hr
            have hk : k ≠ operationId := by
              rintro rfl
              rw [hfresh] at hr
              cases hr
            exact ⟨r, by rw [hget, if_neg hk, hr], .inl rfl⟩
          · intro k r' hnone hsome
            rw [hget] at hsome
            split at hsome
            · cases hsome
              subst k
              exact ⟨auditId, request, traceparent, rfl, rfl⟩
            · rw [hnone] at hsome
              cases hsome

theorem moved_commit {α : Type} {result : Except Raised (Store × α)}
    (h : ∀ s' a, result = .ok (s', a) → Moved now call s s') : Moved now call s (commit s result).1 := by
  unfold commit
  split
  · exact h _ _ rfl
  · exact moved_of_operations_eq rfl

/-- A call that returned has committed its result. -/
theorem commit_eq_ok {α : Type} {result : Except Raised (Store × α)} (h : (commit s result).2 = .ok ()) :
    ∃ a, result = .ok ((commit s result).1, a) := by
  cases result with
  | error e => cases h
  | ok pair => exact ⟨pair.2, rfl⟩

theorem step_moved (ops : OperationService) (s : Store) (event : Event) :
    Moved event.now event.call s (ops.step s event) := by
  obtain ⟨now, call⟩ := event
  cases call with
  | create operationId auditId request => exact moved_create
  | lease operationId workerId leaseSeconds => exact moved_commit fun _ _ h => (lease_eq_ok h).moved
  | start operationId workerId => exact moved_commit fun _ _ h => (start_eq_ok h).moved
  | heartbeat operationId workerId leaseSeconds => exact moved_commit fun _ _ h => (heartbeat_eq_ok h).moved
  | checkpoint operationId workerId progress document => exact moved_commit fun _ _ h => (checkpoint_eq_ok h).moved
  | requestCancel operationId actorId =>
    apply moved_commit
    intro s' _ h
    rcases requestCancel_eq_ok h with rfl | h
    · exact moved_of_operations_eq rfl
    · exact h.moved
  | complete operationId workerId output claimed => exact moved_commit fun _ _ h => (complete_eq_ok h).moved
  | fail operationId workerId code message retryable => exact moved_commit fun _ _ h => (fail_eq_ok h).moved
  | reconcileExpiredLeases => exact moved_commit fun _ _ h => moved_reconciled h
  | get operationId => exact moved_of_operations_eq rfl

end Step

section Rules
variable {ops : OperationService} {s : Store} {k : String}

/-- What holds of a row and is kept by every row step of the run holds of it afterwards. -/
theorem run_row_of {P : Event → Prop} {I : OperationRow → Prop} {events : List Event} (hP : ∀ e ∈ events, P e)
    (hstep : ∀ e r r', P e → RowStep e.now e.call r r' → I r → I r')
    {r : OperationRow} (hr : s.operation? k = some r) (hI : I r) :
    ∃ r', (run ops.step s events).operation? k = some r' ∧ I r' := by
  induction events generalizing s r with
  | nil => exact ⟨r, hr, hI⟩
  | cons e events ih =>
    have hrest : ∀ e ∈ events, P e := fun e he => hP e (List.mem_cons_of_mem _ he)
    obtain ⟨r', hr', rfl | hmove⟩ := (step_moved ops s e).row hr
    · exact ih hrest hr' hI
    · exact ih hrest hr' (hstep e r r' (hP e (by simp)) hmove hI)

theorem run_row {I : OperationRow → Prop} (hstep : ∀ now call r r', RowStep now call r r' → I r → I r')
    {r : OperationRow} (hr : s.operation? k = some r) (hI : I r) (events : List Event) :
    ∃ r', (run ops.step s events).operation? k = some r' ∧ I r' :=
  run_row_of (P := fun _ => True) (fun _ _ => trivial) (fun e r r' _ => hstep e.now e.call r r') hr hI

/-- Every row of the store satisfies `I`. -/
def AllRows (I : OperationRow → Prop) (s : Store) : Prop := ∀ k r, s.operation? k = some r → I r

theorem AllRows.step {I : OperationRow → Prop} {event : Event}
    (hnew : ∀ auditId request traceparent, event.call = .create k auditId request →
      I (newRow event.now k request traceparent))
    (hstep : ∀ r r', s.operation? k = some r → RowStep event.now event.call r r' → I r → I r')
    (h : ∀ r, s.operation? k = some r → I r) : ∀ r, (ops.step s event).operation? k = some r → I r := by
  intro r' hr'
  cases hr : s.operation? k with
  | none =>
    obtain ⟨auditId, request, traceparent, hcall, rfl⟩ := (step_moved ops s event).fresh hr hr'
    exact hnew auditId request traceparent hcall
  | some r =>
    obtain ⟨r'', hr'', hcase⟩ := (step_moved ops s event).row hr
    rw [hr'] at hr''
    cases hr''
    rcases hcase with rfl | hmove
    · exact h _ hr
    · exact hstep r r' hr hmove (h r hr)

theorem allRows_step {I : OperationRow → Prop} {event : Event}
    (hnew : ∀ now k request traceparent, I (newRow now k request traceparent))
    (hstep : ∀ now call r r', RowStep now call r r' → I r → I r') (h : AllRows I s) :
    AllRows I (ops.step s event) := by
  intro k
  exact AllRows.step (fun _ _ _ _ => hnew _ _ _ _) (fun r r' _ => hstep _ _ r r') (h k)

theorem allRows_reached {I : OperationRow → Prop}
    (hnew : ∀ now k request traceparent, I (newRow now k request traceparent))
    (hstep : ∀ now call r r', RowStep now call r r' → I r → I r') (base : Store) (events : List Event) :
    AllRows I (ops.reached base events) := by
  have hkept : ∀ s event, AllRows I s → AllRows I (ops.step s event) :=
    fun _ _ h => allRows_step hnew hstep h
  refine run_invariant hkept ?_ events
  intro k r hr
  cases hr

end Rules

end Sip
