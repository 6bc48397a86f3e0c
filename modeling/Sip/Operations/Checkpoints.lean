import Sip.Operations.LeaseInvariant

/-!
# Checkpoint sequences and progress

A checkpoint is compared with the stored one: its sequence must be larger, if both
have one, and its progress not smaller. A checkpoint without a sequence replaces the
stored one, sequence included; if that does not happen, the sequences accepted
for an operation increase strictly over its whole life. Progress never decreases.
-/

namespace Sip

set_option autoImplicit false

open OperationService

section Sequences

theorem persisted_sequence {document saved : Dict} (h : persisted document = .ok saved) :
    saved.get "sequence" = document.get "sequence" := by
  unfold persisted at h
  split at h
  · obtain ⟨manifest, _, h⟩ := bind_eq_ok.mp h
    cases h
    rw [Dict.get_set_of_ne _ (by decide), Dict.get_set_of_ne _ (by decide)]
  · cases h
    rfl

theorem comparable?_of_asInt? {v : Json} {m : Int} (h : v.asInt? = some m) : comparable? v = some (m : Rat) := by
  unfold Json.asInt? at h
  split at h
  · cases h
    rfl
  · rename_i b
    cases h
    cases b <;> rfl
  · cases h

/-- What passes the sequence check: no sequence, or a positive integer above the stored one. -/
theorem checkSequence_eq_ok {sequence prior : Json} (h : checkSequence sequence prior = .ok ()) :
    sequence = .null ∨ ∃ n, sequence.asInt? = some n ∧ 1 ≤ n ∧ ∀ m, prior.asInt? = some m → m < n := by
  unfold checkSequence at h
  split at h
  · exact .inl rfl
  · simp only [bind_eq_ok, orRaise_eq_ok, raiseIf_eq_ok, exists_const] at h
    obtain ⟨n, hn, hpos, h⟩ := h
    refine .inr ⟨n, hn, by omega, ?_⟩
    intro m hm
    split at h
    · cases hm
    · obtain ⟨bound, hbound, h⟩ := bind_eq_ok.mp h
      rw [orRaise_eq_ok, comparable?_of_asInt? hm] at hbound
      cases hbound
      rw [raiseIf_eq_ok, not_le] at h
      exact_mod_cast h

/-- The sequence of the stored checkpoint. -/
def storedSequence (r : OperationRow) : Option Int := (r.checkpointJson.get "sequence").asInt?

/-- A checkpoint call for `k` names a sequence if the stored checkpoint does. -/
def KeepsSequence (k : String) (s : Store) (event : Event) : Prop :=
  ∀ workerId progress document r, event.call = .checkpoint k workerId progress document →
    s.operation? k = some r → r.checkpointJson.get "sequence" ≠ .null → document.get "sequence" ≠ .null

theorem ne_null_of_asInt? {v : Json} {n : Int} (h : v.asInt? = some n) : v ≠ .null := by
  rintro rfl
  cases h

variable {now : Nat} {call : Call} {r r' : OperationRow}

theorem RowStep.storedSequence_le (h : RowStep now call r r') {b : Int} (hb : storedSequence r = some b)
    (hkeeps : ∀ workerId progress document, call = .checkpoint r.operationId workerId progress document →
      document.get "sequence" ≠ .null) : ∃ b', storedSequence r' = some b' ∧ b ≤ b' := by
  cases h with
  | @checkpoint workerId progress document saved hcall _ _ hsequence _ hsaved =>
    rcases checkSequence_eq_ok hsequence with hnull | ⟨n, hn, _, hlt⟩
    · exact absurd hnull (hkeeps _ _ _ hcall)
    · refine ⟨n, ?_, (hlt b hb).le⟩
      simp only [storedSequence, persisted_sequence hsaved, hn]
  | lease | startRunning | startCancelled | heartbeat | checkpointCancelled | requestCancel | complete | fail
  | release | quarantine => exact ⟨b, hb, le_refl b⟩

end Sequences

section Accepted
variable {ops : OperationService} {k : String}

/-- The sequence of the checkpoint that the call made the service accept for `k`, if any. -/
def acceptedSequence (ops : OperationService) (k : String) (s : Store) (event : Event) : Option Int :=
  match event.call with
  | .checkpoint operationId _ _ document =>
    if operationId = k ∧ (ops.perform s event.now event.call).2.isOk = true then (document.get "sequence").asInt?
    else none
  | _ => none

def acceptedSequences (ops : OperationService) (k : String) : Store → List Event → List Int
  | _, [] => []
  | s, event :: events => (acceptedSequence ops k s event).toList ++ acceptedSequences ops k (ops.step s event) events

/-- An accepted checkpoint is a row step. -/
theorem rowStep_of_acceptedSequence {s : Store} {event : Event} {n : Int}
    (h : acceptedSequence ops k s event = some n) :
    ∃ r r' workerId progress document, s.operation? k = some r ∧ (ops.step s event).operation? k = some r' ∧
      event.call = .checkpoint k workerId progress document ∧ (document.get "sequence").asInt? = some n ∧
      RowStep event.now event.call r r' := by
  obtain ⟨now, call⟩ := event
  unfold acceptedSequence at h
  split at h
  · rename_i operationId workerId progress document hcall
    obtain rfl : call = .checkpoint operationId workerId progress document := hcall
    split at h
    · rename_i hok
      obtain ⟨rfl, hok⟩ := hok
      obtain ⟨r', hcheck⟩ := commit_eq_ok (eq_ok_of_isOk hok)
      obtain ⟨r, hr, hmove, hops⟩ := checkpoint_eq_ok hcheck
      have hr' := operation?_of_set hr hmove hops
      have hid : r.operationId = operationId := by
        cases hmove with
        | checkpoint hcall | checkpointCancelled hcall =>
          cases hcall
          rfl
        | _ hcall => cases hcall
      rw [hid] at hr hr'
      exact ⟨r, r', workerId, progress, document, hr, hr', rfl, h, hmove⟩
    · cases h
  · cases h

theorem lt_of_checkSequence {sequence prior : Json} {n b : Int} (h : checkSequence sequence prior = .ok ())
    (hn : sequence.asInt? = some n) (hb : prior.asInt? = some b) : b < n := by
  rcases checkSequence_eq_ok h with hnull | ⟨m, hm, _, hlt⟩
  · exact absurd hnull (ne_null_of_asInt? hn)
  · rw [hn] at hm
    cases hm
    exact hlt b hb

/-- An accepted checkpoint passed the check against the stored one. It is stored, unless
it ends a cancelled operation. -/
theorem acceptedSequence_eq_some {s : Store} {event : Event} {n : Int}
    (h : acceptedSequence ops k s event = some n) :
    ∃ r r', s.operation? k = some r ∧ (ops.step s event).operation? k = some r' ∧
      (∀ b, storedSequence r = some b → b < n) ∧
      (storedSequence r' = some n ∨ (r'.state = .cancelled ∧ r'.leaseOwner = none)) := by
  obtain ⟨r, r', workerId, progress, document, hr, hr', hcall, hn, hmove⟩ := rowStep_of_acceptedSequence h
  rw [hcall] at hmove
  refine ⟨r, r', hr, hr', ?_⟩
  cases hmove with
  | checkpoint hcall _ _ hsequence _ hsaved =>
    cases hcall
    refine ⟨fun b hb => lt_of_checkSequence hsequence hn hb, .inl ?_⟩
    simp only [storedSequence, persisted_sequence hsaved, hn]
  | checkpointCancelled hcall _ _ hsequence =>
    cases hcall
    exact ⟨fun b hb => lt_of_checkSequence hsequence hn hb, .inr ⟨rfl, rfl⟩⟩
  | _ hcall => cases hcall

theorem acceptedSequences_of_finished {s : Store} {r : OperationRow} (hr : s.operation? k = some r)
    (hstate : r.state = .cancelled) (howner : r.leaseOwner = none) (events : List Event) :
    acceptedSequences ops k s events = [] := by
  induction events generalizing s with
  | nil => rfl
  | cons event events ih =>
    have hhead : acceptedSequence ops k s event = none := by
      cases h : acceptedSequence ops k s event with
      | none => rfl
      | some n =>
        obtain ⟨x, x', _, _, _, hx, _, _, _, hmove⟩ := rowStep_of_acceptedSequence h
        rw [hr] at hx
        cases hx
        exact absurd hmove (not_rowStep_of_finished howner (.inr hstate))
    have hnext : (ops.step s event).operation? k = some r := run_finished hr howner (.inr hstate) [event]
    simp only [acceptedSequences, hhead, ih hnext]
    rfl

variable {s : Store} {events : List Event}

/-- Whatever is accepted later lies above the stored sequence. -/
theorem lt_of_mem_acceptedSequences (hrun : Along ops.step (KeepsSequence k) s events) {r : OperationRow} {b : Int}
    (hr : s.operation? k = some r) (hb : storedSequence r = some b) :
    ∀ n ∈ acceptedSequences ops k s events, b < n := by
  induction events generalizing s r b with
  | nil => simp [acceptedSequences]
  | cons event events ih =>
    intro n hn
    rcases List.mem_append.mp hn with hn | hn
    · obtain ⟨x, _, hx, _, hlt, _⟩ := acceptedSequence_eq_some (Option.mem_toList.mp hn)
      rw [hr] at hx
      cases hx
      exact hlt b hb
    · obtain ⟨r', hr', hcase⟩ := (step_moved ops s event).row hr
      have hkept : ∃ b', storedSequence r' = some b' ∧ b ≤ b' := by
        rcases hcase with rfl | hmove
        · exact ⟨b, hb, le_refl b⟩
        · apply hmove.storedSequence_le hb
          intro workerId progress document hcall
          rw [operationId_of_operation? hr] at hcall
          exact hrun.1 workerId progress document r hcall hr (ne_null_of_asInt? hb)
      obtain ⟨b', hb', hle⟩ := hkept
      exact lt_of_le_of_lt hle (ih hrun.2 hr' hb' n hn)

theorem acceptedSequences_increase (hrun : Along ops.step (KeepsSequence k) s events) :
    (acceptedSequences ops k s events).Pairwise (· < ·) := by
  induction events generalizing s with
  | nil => exact .nil
  | cons event events ih =>
    simp only [acceptedSequences]
    cases h : acceptedSequence ops k s event with
    | none => exact ih hrun.2
    | some n =>
      refine List.pairwise_cons.mpr ⟨?_, ih hrun.2⟩
      obtain ⟨_, r', _, hr', _, hstored | ⟨hstate, howner⟩⟩ := acceptedSequence_eq_some h
      · exact lt_of_mem_acceptedSequences hrun.2 hr' hstored
      · rw [acceptedSequences_of_finished hr' hstate howner]
        simp

end Accepted

section Progress

/-- Progress is at most 1 and at least the given value. -/
structure ProgressFrom (floor : Rat) (r : OperationRow) : Prop where
  lower : floor ≤ r.progress.value
  upper : r.progress.value ≤ 1

theorem ProgressFrom.step {now : Nat} {call : Call} {r r' : OperationRow} {floor : Rat}
    (h : RowStep now call r r') (hr : ProgressFrom floor r) : ProgressFrom floor r' := by
  cases h with
  | checkpoint _ hrange _ _ hprogress => exact ⟨hr.lower.trans hprogress, hrange.2⟩
  | complete => exact ⟨(hr.lower.trans hr.upper).trans PyFloat.value_one.ge, PyFloat.value_one.le⟩
  | lease | startRunning | startCancelled | heartbeat | checkpointCancelled | requestCancel | fail
  | release | quarantine => exact ⟨hr.lower, hr.upper⟩

theorem progressFrom_reached (ops : OperationService) (base : Store) (events : List Event) :
    AllRows (ProgressFrom 0) (ops.reached base events) := by
  refine allRows_reached ?_ (fun _ _ _ _ h => ProgressFrom.step h) base events
  intro now k request traceparent
  exact ⟨PyFloat.value_zero.ge, PyFloat.value_zero.le.trans (by decide)⟩

theorem progress_le_of_run {ops : OperationService} {base : Store} {events later : List Event} {k : String}
    {r r' : OperationRow} (hr : (ops.reached base events).operation? k = some r)
    (hr' : (ops.reached base (events ++ later)).operation? k = some r') : r.progress.value ≤ r'.progress.value := by
  have hbounds := progressFrom_reached ops base events k r hr
  rw [reached, run_append] at hr'
  obtain ⟨x, hx, hx'⟩ := run_row (fun _ _ _ _ h => ProgressFrom.step h) hr
    (⟨le_refl _, hbounds.upper⟩ : ProgressFrom r.progress.value r) later
  rw [reached] at hx
  rw [hr'] at hx
  cases hx
  exact hx'.lower

end Progress

/-- In every run in which no checkpoint without a sequence is submitted for `k` over a stored
one that has a sequence, the sequences accepted for `k` increase strictly, across
attempts and workers; and its progress never decreases. -/
theorem checkpoints_advance (ops : OperationService) (base : Store) (events : List Event) (k : String)
    (hrun : Along ops.step (KeepsSequence k) { base with operations := .empty } events) :
    (acceptedSequences ops k { base with operations := .empty } events).Pairwise (· < ·) ∧
    ∀ before later r r', events = before ++ later → (ops.reached base before).operation? k = some r →
      (ops.reached base events).operation? k = some r' → r.progress.value ≤ r'.progress.value := by
  refine ⟨acceptedSequences_increase hrun, ?_⟩
  rintro before later r r' rfl hr hr'
  exact progress_le_of_run hr hr'

/-- A created and leased operation, and then checkpoints of its worker without progress. -/
def checkpointed (documents : List Dict) : List Event :=
  createdAndLeased 3 ++ documents.map fun document => ⟨0, .checkpoint "op" "w" .zero document⟩

/-- Worker `w` gets a checkpoint without a stage through. -/
theorem acceptedSequences_checkpoint {s : Store} {r : OperationRow} (document : Dict) (hr : s.operation? "op" = some r)
    (hown : r.ownedBy "w" 0 = true) (hcancel : r.cancelRequested = false) (hprogress : r.progress = .zero)
    (hsequence : checkSequence (document.get "sequence") (r.checkpointJson.get "sequence") = .ok ())
    (hscalar : (document.get "sequence").Scalar) (hdigits : (document.get "sequence").encode.length ≤ 40)
    (hstage : document.get "stage" = .null) (hresume : document.get "safe_to_resume" = .null) (events : List Event) :
    ∃ s', acceptedSequences sampleService "op" s (⟨0, .checkpoint "op" "w" .zero document⟩ :: events) =
        (document.get "sequence").asInt?.toList ++ acceptedSequences sampleService "op" s' events ∧
      s'.operation? "op" = some { r with
        state := .running, progress := .zero, checkpointJson := document, updatedAt := 0 } := by
  have hrange : 0 ≤ PyFloat.zero.value ∧ PyFloat.zero.value ≤ 1 := by
    rw [PyFloat.value_zero]
    decide
  have hsaved : persisted document = .ok document := by simp [persisted, hresume, Json.truthy]
  have hpayload : validatePayload (checkpointedPayload .zero document document) = .ok () :=
    validatePayload_checkpointed (by decide) hscalar hdigits hstage
  have hstep : (sampleService.perform s 0 (.checkpoint "op" "w" .zero document)).2 = .ok () ∧ _ :=
    checkpoint_ok hr hrange hown hsequence (hprogress ▸ le_refl _) hsaved hcancel hpayload
  refine ⟨_, ?_, hstep.2⟩
  simp only [acceptedSequences, acceptedSequence, hstep.1, true_and]
  rfl

theorem acceptedSequences_checkpointed (documents : List Dict) :
    acceptedSequences sampleService "op" { Store.empty with operations := .empty } (checkpointed documents) =
      acceptedSequences sampleService "op" (sampleService.reached .empty (createdAndLeased 3))
        (documents.map fun document => ⟨0, .checkpoint "op" "w" .zero document⟩) := by
  rw [reached, checkpointed, createdAndLeased, run_cons, run_cons, run_nil]
  simp only [List.cons_append, List.nil_append, acceptedSequences, acceptedSequence, Option.toList_none]

theorem checkpoints_advance_numbered :
    acceptedSequences sampleService "op" { Store.empty with operations := .empty }
      (checkpointed [[("sequence", .int 1)], [("sequence", .int 2)]]) = [1, 2] ∧
    (acceptedSequences sampleService "op" { Store.empty with operations := .empty }
      (checkpointed [[("sequence", .int 1)], [("sequence", .int 2)]])).Pairwise (· < ·) := by
  refine ⟨?_, (checkpoints_advance sampleService .empty _ "op" ?_).1⟩
  · obtain ⟨s₁, h₁, hr₁⟩ := acceptedSequences_checkpoint [("sequence", .int 1)] (leased_sample 3) rfl rfl rfl rfl
      trivial (by decide) rfl rfl [⟨0, .checkpoint "op" "w" .zero [("sequence", .int 2)]⟩]
    obtain ⟨s₂, h₂, _⟩ := acceptedSequences_checkpoint [("sequence", .int 2)] hr₁ rfl rfl rfl rfl trivial
      (by decide) rfl rfl []
    rw [acceptedSequences_checkpointed, List.map_cons, List.map_cons, List.map_nil, h₁, h₂]
    rfl
  · refine ⟨?_, ?_, ?_, ?_, trivial⟩
    · intro _ _ _ _ hcall
      cases hcall
    · intro _ _ _ _ hcall
      cases hcall
    · intro _ _ _ _ hcall _ _
      cases hcall
      exact nofun
    · intro _ _ _ _ hcall _ _
      cases hcall
      exact nofun

/-- A checkpoint without a sequence lets a smaller sequence through. -/
theorem unnumbered_checkpoint_forgets :
    ¬ (acceptedSequences sampleService "op" { Store.empty with operations := .empty }
      (checkpointed [[("sequence", .int 5)], [], [("sequence", .int 3)]])).Pairwise (· < ·) := by
  have haccepted : acceptedSequences sampleService "op" { Store.empty with operations := .empty }
      (checkpointed [[("sequence", .int 5)], [], [("sequence", .int 3)]]) = [5, 3] := by
    obtain ⟨s₁, h₁, hr₁⟩ := acceptedSequences_checkpoint [("sequence", .int 5)] (leased_sample 3) rfl rfl rfl rfl
      trivial (by decide) rfl rfl
      [⟨0, .checkpoint "op" "w" .zero []⟩, ⟨0, .checkpoint "op" "w" .zero [("sequence", .int 3)]⟩]
    obtain ⟨s₂, h₂, hr₂⟩ := acceptedSequences_checkpoint [] hr₁ rfl rfl rfl rfl trivial (by decide) rfl rfl
      [⟨0, .checkpoint "op" "w" .zero [("sequence", .int 3)]⟩]
    obtain ⟨s₃, h₃, _⟩ := acceptedSequences_checkpoint [("sequence", .int 3)] hr₂ rfl rfl rfl rfl trivial
      (by decide) rfl rfl []
    rw [acceptedSequences_checkpointed, List.map_cons, List.map_cons, List.map_cons, List.map_nil, h₁, h₂, h₃]
    rfl
  rw [haccepted]
  decide

end Sip
