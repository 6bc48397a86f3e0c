import Sip.Operations.LeaseInvariant

/-!
# Exclusive leases and idempotent creation

While a lease is live only its owner can move the operation on; whatever others call in the
meantime, the row stays as it is, up to a cancellation that is requested. An idempotency key
names one operation for ever.
-/

namespace Sip

set_option autoImplicit false

open OperationService

/-- The worker in whose name the call is made. -/
def Call.worker? : Call → Option String
  | .lease _ workerId _ | .start _ workerId | .heartbeat _ workerId _ | .checkpoint _ workerId _ _
  | .complete _ workerId _ _ | .fail _ workerId _ _ _ => some workerId
  | _ => none

/-- The row, or the row with a cancellation that has been requested since. -/
def Undisturbed (r r' : OperationRow) : Prop :=
  r' = r ∨ ∃ t, r' = { r with cancelRequested := true, state := .cancelRequested, updatedAt := t }

section Exclusivity
variable {now expiry : Nat} {call : Call} {r r' x : OperationRow} {owner : String}

theorem Undisturbed.lease (h : Undisturbed r r') : r'.leaseOwner = r.leaseOwner ∧ r'.leaseExpiresAt = r.leaseExpiresAt := by
  rcases h with rfl | ⟨_, rfl⟩
  · exact ⟨rfl, rfl⟩
  · exact ⟨rfl, rfl⟩

theorem Undisturbed.requestCancel (h : Undisturbed r r') (t : Nat) :
    Undisturbed r { r' with cancelRequested := true, state := .cancelRequested, updatedAt := t } := by
  rcases h with rfl | ⟨_, rfl⟩
  · exact .inr ⟨t, rfl⟩
  · exact .inr ⟨t, rfl⟩

/-- A call of somebody else cannot move a row whose lease is live, except to request its cancellation. -/
theorem RowStep.of_leased (h : RowStep now call x r') (howner : x.leaseOwner = some owner) (hnonempty : owner ≠ "")
    (hexpiry : x.leaseExpiresAt = some expiry) (hlive : now < expiry) (hother : call.worker? ≠ some owner) :
    ∃ t, r' = { x with cancelRequested := true, state := .cancelRequested, updatedAt := t } := by
  have hexpired : x.leaseExpired now = false := by
    rw [OperationRow.leaseExpired, hexpiry, Option.any_some, decide_eq_false_iff_not]
    exact not_le_of_gt hlive
  have hunowned : ∀ w, w ≠ owner → ¬ x.ownedBy w now = true := by
    intro w hw hown
    obtain ⟨hw', _⟩ := ownedBy_iff.mp hown
    rw [howner] at hw'
    exact hw (Option.some_inj.mp hw').symm
  have hne : ∀ w, call.worker? = some w → w ≠ owner := by
    rintro w hw rfl
    exact hother hw
  cases h with
  | @lease w _ hcall _ _ hfree =>
    have hw : w ≠ owner := hne w (by rw [hcall]; rfl)
    rw [OperationRow.leasedToOther, howner, hexpired, Option.any_some, decide_eq_true ⟨hnonempty, hw.symm⟩] at hfree
    cases hfree
  | @startRunning w hcall hown => exact absurd hown (hunowned w (hne w (by rw [hcall]; rfl)))
  | @startCancelled w hcall hown => exact absurd hown (hunowned w (hne w (by rw [hcall]; rfl)))
  | @heartbeat w _ hcall _ hown => exact absurd hown (hunowned w (hne w (by rw [hcall]; rfl)))
  | @checkpoint w _ _ _ hcall _ hown => exact absurd hown (hunowned w (hne w (by rw [hcall]; rfl)))
  | @checkpointCancelled w _ _ hcall _ hown => exact absurd hown (hunowned w (hne w (by rw [hcall]; rfl)))
  | requestCancel => exact ⟨now, rfl⟩
  | @complete w _ _ hcall hown => exact absurd hown (hunowned w (hne w (by rw [hcall]; rfl)))
  | @fail w _ _ _ hcall hown => exact absurd hown (hunowned w (hne w (by rw [hcall]; rfl)))
  | release _ habandoned =>
    simp only [abandoned, hexpired, Bool.false_eq_true, and_false, decide_false] at habandoned
  | quarantine _ habandoned =>
    simp only [abandoned, hexpired, Bool.false_eq_true, and_false, decide_false] at habandoned

end Exclusivity

/-- Another worker and a cancellation within the first second of a lease. -/
def disturbances : List Event := [⟨5, .lease "op" "other" 60⟩, ⟨6, .requestCancel "op" "u"⟩, ⟨7, .reconcileExpiredLeases⟩]

/-- The columns that an idempotency key is unique within. -/
def SameKey (r r' : OperationRow) : Prop :=
  r'.tenantId = r.tenantId ∧ r'.projectId = r.projectId ∧ r'.operationType = r.operationType ∧ r'.idempotencyKey = r.idempotencyKey

def UniqueKeys (s : Store) : Prop :=
  ∀ k k' r r', s.operation? k = some r → s.operation? k' = some r' → SameKey r r' → k = k'

section Keys
variable {ops : OperationService} {s s' : Store} {now : Nat} {call : Call} {r r' : OperationRow} {k : String}

theorem RowStep.sameKey (h : RowStep now call r r') : SameKey r r' := by
  cases h <;> exact ⟨rfl, rfl, rfl, rfl⟩

theorem SameKey.symm (h : SameKey r r') : SameKey r' r := ⟨h.1.symm, h.2.1.symm, h.2.2.1.symm, h.2.2.2.symm⟩

theorem SameKey.trans {r'' : OperationRow} (h : SameKey r r') (h' : SameKey r' r'') : SameKey r r'' :=
  ⟨h'.1.trans h.1, h'.2.1.trans h.2.1, h'.2.2.1.trans h.2.2.1, h'.2.2.2.trans h.2.2.2⟩

/-- A creation that returns has found the operation of its key or has added it. -/
theorem create_eq_ok {operationId auditId : String} {request : CreateRequest}
    (h : (ops.create s now operationId auditId request).2 = .ok r) :
    (prior? s request = some r ∧ (ops.create s now operationId auditId request).1.operations = s.operations) ∨
      prior? s request = none ∧ ∃ traceparent, r = newRow now operationId request traceparent ∧
        s.operations.insert? r = some (ops.create s now operationId auditId request).1.operations := by
  unfold create at h ⊢
  split at h
  · cases h
  · rename_i hkey
    rw [if_neg hkey]
    have hauth : (ops.authorize s now request).1.operations = s.operations := authorize_operations request
    split at h
    · cases h
    · rename_i s₁ u hs₁
      rw [hs₁] at hauth
      dsimp only at hauth ⊢
      split at h
      · cases h
      · rename_i s₂ row hs₂
        cases h
        have hprior : prior? s₁ request = prior? s request := by rw [prior?, hauth, ← prior?]
        rcases insertOperation_eq_ok hs₂ with ⟨rfl, hfound⟩ | ⟨hnone, traceparent, hrow, hinserted⟩
        · exact .inl ⟨hprior.symm.trans hfound, hauth⟩
        · rw [hauth] at hinserted
          exact .inr ⟨hprior.symm.trans hnone, traceparent, hrow, hinserted⟩

theorem create_operations_of_error {operationId auditId : String} {request : CreateRequest} {e : Raised}
    (h : (ops.create s now operationId auditId request).2 = .error e) :
    (ops.create s now operationId auditId request).1.operations = s.operations := by
  have hauth : (ops.authorize s now request).1.operations = s.operations := authorize_operations request
  unfold create at h ⊢
  split at h
  · rename_i hkey
    rw [if_pos hkey]
  · rename_i hkey
    rw [if_neg hkey]
    split at h
    · rename_i s₁ _ hs₁
      rw [hs₁] at hauth
      exact hauth
    · rename_i s₁ _ hs₁
      rw [hs₁] at hauth
      split at h
      · exact hauth
      · cases h

/-- A key that is taken leaves the operations as they are. -/
theorem create_operations_of_prior {operationId auditId : String} {request : CreateRequest} (h : prior? s request = some r) :
    (ops.create s now operationId auditId request).1.operations = s.operations := by
  cases hresult : (ops.create s now operationId auditId request).2 with
  | error e => exact create_operations_of_error hresult
  | ok row =>
    rcases create_eq_ok hresult with ⟨_, hsame⟩ | ⟨hnone, _⟩
    · exact hsame
    · rw [h] at hnone
      cases hnone

theorem not_sameKey_of_prior_eq_none {request : CreateRequest} {operationId : String} {traceparent : Option String}
    (h : prior? s request = none) (hr : s.operation? k = some r) :
    ¬ SameKey r (newRow now operationId request traceparent) := by
  rintro ⟨htenant, hproject, htype, hkey⟩
  have hnone := List.find?_eq_none.mp h r ((Table.get?_eq_some_iff _ _ _).mp hr).1
  exact hnone (decide_eq_true ⟨htenant.symm, hproject.symm, htype.symm, hkey.symm⟩)

/-- A row of the next store continues one that was there, or its key is new. -/
theorem origin_of_step {event : Event} (hr' : (ops.step s event).operation? k = some r') :
    (∃ r, s.operation? k = some r ∧ SameKey r r') ∨
      (∃ auditId request, event.call = .create k auditId request) ∧ ∀ k₀ r₀, s.operation? k₀ = some r₀ → ¬ SameKey r₀ r' := by
  cases hr : s.operation? k with
  | some r =>
    left
    obtain ⟨r'', hr'', hcase⟩ := (step_moved ops s event).row hr
    rw [hr'] at hr''
    cases hr''
    rcases hcase with rfl | hstep
    · exact ⟨_, rfl, rfl, rfl, rfl, rfl⟩
    · exact ⟨r, rfl, hstep.sameKey⟩
  | none =>
    right
    obtain ⟨auditId, request, traceparent, hcall, rfl⟩ := (step_moved ops s event).fresh hr hr'
    have hprior : prior? s request = none := by
      cases hprior : prior? s request with
      | none => rfl
      | some prior =>
        have hsame : (ops.step s event).operations = s.operations := by
          rw [step, hcall]
          exact create_operations_of_prior hprior
        rw [Store.operation?, hsame, ← Store.operation?, hr] at hr'
        cases hr'
    exact ⟨⟨auditId, request, hcall⟩, fun _ _ => not_sameKey_of_prior_eq_none hprior⟩

theorem uniqueKeys_step (hs : UniqueKeys s) (event : Event) : UniqueKeys (ops.step s event) := by
  intro k k' x x' hx hx' hsame
  rcases origin_of_step hx with ⟨r, hr, hkey⟩ | ⟨⟨_, _, hcall⟩, hnew⟩
  · rcases origin_of_step hx' with ⟨r', hr', hkey'⟩ | ⟨_, hnew'⟩
    · exact hs k k' r r' hr hr' ((hkey.trans hsame).trans hkey'.symm)
    · exact absurd (hkey.trans hsame) (hnew' k r hr)
  · rcases origin_of_step hx' with ⟨r', hr', hkey'⟩ | ⟨⟨_, _, hcall'⟩, _⟩
    · exact absurd (hkey'.trans hsame.symm) (hnew k' r' hr')
    · rw [hcall] at hcall'
      cases hcall'
      rfl

theorem uniqueKeys_run (hs : UniqueKeys s) (events : List Event) : UniqueKeys (run ops.step s events) := by
  have hkept : ∀ s event, UniqueKeys s → UniqueKeys (ops.step s event) := fun _ event hs => uniqueKeys_step hs event
  exact run_invariant hkept hs events

theorem uniqueKeys_reached (base : Store) (events : List Event) : UniqueKeys (ops.reached base events) := by
  apply uniqueKeys_run
  intro k k' r r' hr
  cases hr

/-- The row is stored under its key. -/
theorem prior?_eq_some {request : CreateRequest} (h : prior? s request = some r) :
    s.operation? r.operationId = some r ∧ r.tenantId = request.tenantId ∧ r.projectId = request.projectId ∧
      r.operationType = request.operationType ∧ r.idempotencyKey = request.idempotencyKey :=
  ⟨(Table.get?_eq_some_iff _ _ _).mpr ⟨List.mem_of_find?_eq_some h, rfl⟩, by simpa using List.find?_some h⟩

theorem create_stored {operationId auditId : String} {request : CreateRequest}
    (h : (ops.create s now operationId auditId request).2 = .ok r) :
    (ops.create s now operationId auditId request).1.operation? r.operationId = some r ∧ r.tenantId = request.tenantId ∧
      r.projectId = request.projectId ∧ r.operationType = request.operationType ∧ r.idempotencyKey = request.idempotencyKey := by
  rcases create_eq_ok h with ⟨hprior, hsame⟩ | ⟨_, traceparent, rfl, hinserted⟩
  · rw [Store.operation?, hsame, ← Store.operation?]
    exact prior?_eq_some hprior
  · rw [Store.operation?, Table.get?_insert hinserted]
    exact ⟨if_pos rfl, rfl, rfl, rfl, rfl⟩

/-- A first call that leaves an operation behind has created it. -/
theorem created_of_reached {base : Store} {operationId auditId : String} {request : CreateRequest}
    (h : (ops.reached base [⟨now, .create operationId auditId request⟩]).operation? operationId = some r) :
    ∃ row, (ops.create (ops.reached base []) now operationId auditId request).2 = .ok row := by
  cases hcreated : (ops.create (ops.reached base []) now operationId auditId request).2 with
  | ok row => exact ⟨row, rfl⟩
  | error e =>
    have hsame := create_operations_of_error hcreated
    rw [Store.operation?, reached, run_cons, run_nil, step] at h
    rw [reached, run_nil] at hsame
    exact absurd ((congrArg (·.get? operationId) hsame).symm.trans h) (fun h => by cases h)

end Keys

/-- Whatever is called in between, creating an operation again under its key answers with that operation and adds none. -/
theorem create_again (ops : OperationService) (base : Store) (before after : List Event) {request again : CreateRequest}
    {now : Nat} {operationId auditId : String} {row : OperationRow}
    (hcreated : (ops.create (ops.reached base before) now operationId auditId request).2 = .ok row)
    (hkey : again.tenantId = request.tenantId ∧ again.projectId = request.projectId ∧
      again.operationType = request.operationType ∧ again.idempotencyKey = request.idempotencyKey)
    (now' : Nat) (operationId' auditId' : String) :
    let s := run ops.step (ops.create (ops.reached base before) now operationId auditId request).1 after
    (ops.create s now' operationId' auditId' again).1.operations = s.operations ∧
      ∀ row', (ops.create s now' operationId' auditId' again).2 = .ok row' → row'.operationId = row.operationId := by
  intro s
  obtain ⟨hstored, htenant, hproject, htype, hidempotency⟩ := create_stored hcreated
  have hunique : UniqueKeys s :=
    uniqueKeys_run (uniqueKeys_step (uniqueKeys_reached base before) ⟨now, .create operationId auditId request⟩) after
  have hkept : ∀ now call x x', RowStep now call x x' → SameKey row x → SameKey row x' :=
    fun _ _ _ _ hstep hx => hx.trans hstep.sameKey
  obtain ⟨r', hr', hsame⟩ : ∃ r', s.operation? row.operationId = some r' ∧ SameKey row r' :=
    run_row hkept hstored ⟨rfl, rfl, rfl, rfl⟩ after
  obtain ⟨found, hfound⟩ : ∃ found, prior? s again = some found := by
    cases hprior : prior? s again with
    | some found => exact ⟨found, rfl⟩
    | none =>
      have hnone := List.find?_eq_none.mp hprior r' ((Table.get?_eq_some_iff _ _ _).mp hr').1
      refine absurd (decide_eq_true ⟨?_, ?_, ?_, ?_⟩) hnone
      · rw [hsame.1, htenant, hkey.1]
      · rw [hsame.2.1, hproject, hkey.2.1]
      · rw [hsame.2.2.1, htype, hkey.2.2.1]
      · rw [hsame.2.2.2, hidempotency, hkey.2.2.2]
  refine ⟨create_operations_of_prior hfound, ?_⟩
  intro row' hrow'
  rcases create_eq_ok hrow' with ⟨hprior, _⟩ | ⟨hnone, _⟩
  · obtain ⟨hget, htenant', hproject', htype', hidempotency'⟩ := prior?_eq_some hprior
    refine hunique _ _ row' r' hget hr' ⟨?_, ?_, ?_, ?_⟩
    · rw [hsame.1, htenant, htenant', hkey.1]
    · rw [hsame.2.1, hproject, hproject', hkey.2.1]
    · rw [hsame.2.2.1, htype, htype', hkey.2.2.1]
    · rw [hsame.2.2.2, hidempotency, hidempotency', hkey.2.2.2]
  · rw [hfound] at hnone
    cases hnone

theorem sameKey_sample : (sampleRequest 5).tenantId = (sampleRequest 3).tenantId ∧
    (sampleRequest 5).projectId = (sampleRequest 3).projectId ∧
    (sampleRequest 5).operationType = (sampleRequest 3).operationType ∧
    (sampleRequest 5).idempotencyKey = (sampleRequest 3).idempotencyKey := ⟨rfl, rfl, rfl, rfl⟩

theorem create_again_sample :
    ∃ row, (sampleService.create (sampleService.reached .empty []) 0 "op" "audit" (sampleRequest 3)).2 = .ok row ∧
      let s := run sampleService.step (sampleService.create (sampleService.reached .empty []) 0 "op" "audit" (sampleRequest 3)).1
        disturbances
      (sampleService.create s 9 "op2" "audit2" (sampleRequest 5)).1.operations = s.operations ∧
        ∀ row', (sampleService.create s 9 "op2" "audit2" (sampleRequest 5)).2 = .ok row' → row'.operationId = row.operationId := by
  obtain ⟨row, hrow⟩ := created_of_reached (created_sample 3)
  exact ⟨row, hrow, create_again sampleService .empty [] disturbances hrow sameKey_sample 9 "op2" "audit2"⟩

end Sip
