import Sip.Operations.Checkpoints
import Sip.Worker.Protocol

/-!
# Checkpoints of a running worker

A worker rebuilds its checkpoint counter and its progress floor from the lease it
resumes, while the service compares every checkpoint with the stored row. The system
below interleaves one operation's runs, one after another, with arbitrary other
calls. A checkpoint is prepared and submitted in two steps, so that other calls
may come in between and a prepared checkpoint may be lost.
-/

namespace Sip

set_option autoImplicit false

open OperationService

structure WorkerExecution where
  lease : WorkerLease
  workerId : String
  sequence : Int
  progressFloor : PyFloat

/-- What the sandbox measures of a run. -/
structure SandboxUsage where
  elapsedWallSeconds : PyFloat
  elapsedCpuSeconds : PyFloat
  maximumRssBytes : Int

/-- `list(value)`. -/
def listOf : Json → Except Raised (List Json)
  | .arr items => .ok items
  | .str text => .ok (text.toList.map fun c => .str (String.singleton c))
  | .obj fields => .ok (fields.map fun field => .str field.1)
  | _ => .error (.typeError "object is not iterable")

/-- `dict(value)`. A key that is no string, which the schema would refuse, is refused here. -/
def dictOf : Json → Except Raised Dict
  | .obj fields => .ok fields
  | value => do
    let items ← listOf value
    let pairs ← items.mapM listOf
    pairs.foldlM (fun fields pair => match pair with
      | [.str key, item] => .ok (fields.set key item)
      | _ => .error (.valueError "dictionary update sequence element is not a pair")) []

namespace WorkerExecution

/-- The execution of a lease, after `__post_init__`. -/
def ofLease (lease : WorkerLease) (workerId : String) : WorkerExecution where
  lease := lease
  workerId := workerId
  sequence := match (lease.resumeCheckpoint.get "sequence").asInt? with
    | some prior => if 0 < prior then prior else 0
    | none => 0
  progressFloor := lease.resumeProgress

/-- The record of a checkpoint, before its hash. -/
def recordPayload (schema : RecordSchema) (sequence : Int) (progress : PyFloat) (usage : SandboxUsage) (payload : Dict) :
    Except Raised Dict := do
  let stage := schema.str ((payload.get? "stage").getD (.str "unspecified"))
  let warnings ← listOf ((payload.get? "warnings").getD (.arr []))
  let quality ← dictOf ((payload.get? "quality").getD (.obj []))
  return [
    ("sequence", .int sequence),
    ("stage", .str stage),
    ("progress", .float progress),
    ("completed_units", payload.get "completed_units"),
    ("total_units", payload.get "total_units"),
    ("unit", payload.get "unit"),
    ("warnings", .arr warnings),
    ("quality", .obj quality),
    ("resource_use", .obj [
      ("elapsed_wall_seconds", .float usage.elapsedWallSeconds),
      ("elapsed_cpu_seconds", .float usage.elapsedCpuSeconds),
      ("maximum_rss_bytes", .int usage.maximumRssBytes)]),
    ("safe_to_resume", .bool ((payload.get? "safe_to_resume").getD (.bool true)).truthy),
    ("payload", .obj payload)]

def checkpointDocument (schema : RecordSchema) (sequence : Int) (progress : PyFloat) (usage : SandboxUsage)
    (payload : Dict) : Except Raised Dict := do
  let fields ← recordPayload schema sequence progress usage payload
  let record ← ProgressRecord.ofFields schema (fields ++ [("checkpoint_hash", .str (canonicalSha256 (.obj fields)))])
  return record.modelDump

theorem checkpointDocument_sequence {schema : RecordSchema} {sequence : Int} {progress : PyFloat}
    {usage : SandboxUsage} {payload doc : Dict}
    (h : checkpointDocument schema sequence progress usage payload = .ok doc) :
    doc.get "sequence" = .int sequence := by
  simp only [checkpointDocument, recordPayload, bind_eq_ok] at h
  obtain ⟨fields, ⟨warnings, _, quality, _, hfields⟩, record, hrecord, h⟩ := h
  cases hfields
  cases h
  have hsequence : record.sequence = sequence := ProgressRecord.ofFields_sequence rfl hrecord
  rw [← hsequence]
  rfl

def advance (ex : WorkerExecution) (progress : PyFloat) : WorkerExecution :=
  { ex with sequence := ex.sequence + 1, progressFloor := .max progress ex.progressFloor }

/-- `checkpoint` up to the calls of the service: the counters move even if the record is refused. -/
def prepare (schema : RecordSchema) (ex : WorkerExecution) (now : Nat) (progress : PyFloat) (usage : SandboxUsage)
    (payload : Dict) : WorkerExecution × Except Raised (PyFloat × Dict) :=
  if ex.lease.deadlineAt ≤ now then
    (ex, .error (validationError "WORKER_DEADLINE_EXCEEDED" "worker exceeded its declared wall-time limit"))
  else
    let ex := ex.advance progress
    (ex, (checkpointDocument schema ex.sequence ex.progressFloor usage payload).map fun doc => (ex.progressFloor, doc))

end WorkerExecution

def Call.isCheckpointOf (k : String) : Call → Bool
  | .checkpoint operationId _ _ _ => operationId = k
  | _ => false

/-- The store, the run of operation `k` if there is one, and its prepared checkpoint. -/
structure WorkerSystem where
  store : Store
  execution : Option WorkerExecution
  outgoing : Option (PyFloat × Dict)

inductive WorkerAction (k : String) where
  | begin (now issuedAt : Nat) (workerId : String) (leaseSeconds : Int) (manifest : WorkerManifest)
      (adapterProfile : String) (ids : LeaseIds)
  | service (event : Event) (foreign : event.call.isCheckpointOf k = false)
  | prepare (now : Nat) (progress : PyFloat) (usage : SandboxUsage) (payload : Dict)
  | submit (now : Nat)
  | stop

section System
variable (ops : OperationService) (schema : RecordSchema) (k : String)

/-- The execution that `lease` and `issue` give rise to. -/
def begun (s : Store) (now issuedAt : Nat) (workerId : String) (leaseSeconds : Int) (manifest : WorkerManifest)
    (adapterProfile : String) (ids : LeaseIds) : Option WorkerExecution :=
  match lease s now k workerId leaseSeconds with
  | .error _ => none
  | .ok (_, row) =>
    match issue row manifest leaseSeconds adapterProfile issuedAt ids with
    | .error _ => none
    | .ok envelope => some (.ofLease envelope workerId)

def workerStep (σ : WorkerSystem) : WorkerAction k → WorkerSystem
  | .begin now issuedAt workerId leaseSeconds manifest adapterProfile ids =>
    match σ.execution with
    | some _ => σ
    | none => {
        store := ops.step σ.store ⟨now, .lease k workerId leaseSeconds⟩
        execution := begun k σ.store now issuedAt workerId leaseSeconds manifest adapterProfile ids
        outgoing := none }
  | .service event _ => { σ with store := ops.step σ.store event }
  | .prepare now progress usage payload =>
    match σ.execution with
    | none => σ
    | some ex =>
      let (ex, prepared) := ex.prepare schema now progress usage payload
      { σ with execution := some ex, outgoing := prepared.toOption }
  | .submit now =>
    match σ.execution, σ.outgoing with
    | some ex, some (progress, doc) =>
      { σ with store := ops.step σ.store ⟨now, .checkpoint k ex.workerId progress doc⟩, outgoing := none }
    | _, _ => σ
  | .stop => { σ with execution := none, outgoing := none }

def workerReached (base : Store) (actions : List (WorkerAction k)) : WorkerSystem :=
  run (workerStep ops schema k) ⟨{ base with operations := .empty }, none, none⟩ actions

end System

section Rows
variable {now : Nat} {call : Call} {r r' : OperationRow}

/-- A stored sequence is a positive integer. -/
def SequenceValid (r : OperationRow) : Prop :=
  r.checkpointJson.get "sequence" = .null ∨ ∃ n, storedSequence r = some n ∧ 1 ≤ n

theorem SequenceValid.step (h : RowStep now call r r') (hr : SequenceValid r) : SequenceValid r' := by
  cases h with
  | checkpoint _ _ _ hsequence _ hsaved =>
    simp only [SequenceValid, storedSequence, persisted_sequence hsaved]
    rcases checkSequence_eq_ok hsequence with hnull | ⟨n, hn, hpos, _⟩
    · exact .inl hnull
    · exact .inr ⟨n, hn, hpos⟩
  | lease | startRunning | startCancelled | heartbeat | checkpointCancelled | requestCancel | complete | fail
  | release | quarantine => exact hr

/-- What holds of every row, whatever the workers do. -/
structure RowSound (r : OperationRow) : Prop where
  coupled : LeaseCoupled r
  sequence : SequenceValid r

theorem rowSound_newRow (now : Nat) (operationId : String) (request : CreateRequest) (traceparent : Option String) :
    RowSound (newRow now operationId request traceparent) :=
  ⟨leaseCoupled_newRow now operationId request traceparent, .inl rfl⟩

theorem RowSound.step (h : RowStep now call r r') (hr : RowSound r) : RowSound r' :=
  ⟨hr.coupled.step h, hr.sequence.step h⟩

theorem RowSound.not_succeeded (hr : RowSound r) (h : RowStep now call r r') : r.state ≠ .succeeded := by
  intro hs
  have hidle : r.state.Idle := .inr (.inl hs)
  exact not_rowStep_of_finished (hr.coupled.idle hidle) (.inl hs) h

end Rows

/-- The worker is level with the row: its counter has reached the stored sequence, its floor
the progress, and a prepared checkpoint is ahead of what is stored. -/
structure Aligned (r : OperationRow) (ex : WorkerExecution) (outgoing : Option (PyFloat × Dict)) : Prop where
  nonneg : 0 ≤ ex.sequence
  sequence : ∀ b, storedSequence r = some b → b ≤ ex.sequence
  floor : r.state ≠ .succeeded → r.progress.value ≤ ex.progressFloor.value
  ahead : ∀ progress doc, outgoing = some (progress, doc) →
    progress = ex.progressFloor ∧ doc.get "sequence" = .int ex.sequence ∧ 1 ≤ ex.sequence ∧
      ∀ b, storedSequence r = some b → b < ex.sequence

section Alignment
variable {now : Nat} {call : Call} {r r' : OperationRow} {ex : WorkerExecution} {outgoing : Option (PyFloat × Dict)}

theorem Aligned.drop (h : Aligned r ex outgoing) : Aligned r ex none :=
  ⟨h.nonneg, h.sequence, h.floor, nofun⟩

theorem Aligned.foreign (h : RowStep now call r r') (hr : RowSound r)
    (hforeign : call.isCheckpointOf r.operationId = false) (ha : Aligned r ex outgoing) : Aligned r' ex outgoing := by
  have hfloor := ha.floor (hr.not_succeeded h)
  cases h with
  | checkpoint hcall | checkpointCancelled hcall =>
    rw [hcall] at hforeign
    simp [Call.isCheckpointOf] at hforeign
  | complete => exact ⟨ha.nonneg, ha.sequence, fun hs => absurd rfl hs, ha.ahead⟩
  | lease | startRunning | startCancelled | heartbeat | requestCancel | fail | release | quarantine =>
    exact ⟨ha.nonneg, ha.sequence, fun _ => hfloor, ha.ahead⟩

theorem Aligned.submitted {workerId : String} {progress : PyFloat} {doc : Dict}
    (h : RowStep now (.checkpoint r.operationId workerId progress doc) r r') (hr : RowSound r)
    (ha : Aligned r ex (some (progress, doc))) : Aligned r' ex none := by
  have hfloor := ha.floor (hr.not_succeeded h)
  obtain ⟨hprogress, hdoc, _, _⟩ := ha.ahead progress doc rfl
  cases h with
  | checkpoint hcall _ _ _ _ hsaved =>
    cases hcall
    refine ⟨ha.nonneg, ?_, fun _ => by rw [hprogress], nofun⟩
    intro b hb
    simp only [storedSequence, persisted_sequence hsaved, hdoc] at hb
    cases hb
    exact le_refl _
  | checkpointCancelled => exact ⟨ha.nonneg, ha.sequence, fun _ => hfloor, nofun⟩
  | _ hcall => cases hcall

theorem Aligned.prepared {schema : RecordSchema} {progress : PyFloat} {usage : SandboxUsage} {payload : Dict}
    (ha : Aligned r ex outgoing) :
    Aligned r (ex.prepare schema now progress usage payload).1
      (ex.prepare schema now progress usage payload).2.toOption := by
  unfold WorkerExecution.prepare
  split
  · exact ha.drop
  · have hnonneg := ha.nonneg
    refine ⟨?_, ?_, ?_, ?_⟩
    · simp only [WorkerExecution.advance]
      omega
    · intro b hb
      have := ha.sequence b hb
      simp only [WorkerExecution.advance]
      omega
    · intro hs
      exact (ha.floor hs).trans (PyFloat.le_max_right _ _)
    · intro p doc hdoc
      cases hrecord : WorkerExecution.checkpointDocument schema (ex.advance progress).sequence
          (ex.advance progress).progressFloor usage payload with
      | error e =>
        simp only [hrecord] at hdoc
        cases hdoc
      | ok d =>
        simp only [hrecord] at hdoc
        cases hdoc
        refine ⟨rfl, WorkerExecution.checkpointDocument_sequence hrecord, ?_, ?_⟩
        · simp only [WorkerExecution.advance]
          omega
        · intro b hb
          have := ha.sequence b hb
          simp only [WorkerExecution.advance]
          omega

/-- A new execution starts level with the row it was leased with. -/
theorem aligned_ofLease {envelope : WorkerLease} {workerId : String} (hr : RowSound r)
    (hcheckpoint : envelope.resumeCheckpoint = r.checkpointJson)
    (hprogress : envelope.resumeProgress.value = r.progress.value) :
    Aligned r (.ofLease envelope workerId) none := by
  have hsequence : ∀ b, storedSequence r = some b → (WorkerExecution.ofLease envelope workerId).sequence = b := by
    intro b hb
    have hpos : 0 < b := by
      rcases hr.sequence with hnull | ⟨n, hn, hpos⟩
      · rw [storedSequence, hnull] at hb
        cases hb
      · rw [hn] at hb
        cases hb
        omega
    rw [storedSequence, ← hcheckpoint] at hb
    simp only [WorkerExecution.ofLease, hb, if_pos hpos]
  refine ⟨?_, fun b hb => (hsequence b hb).ge, fun _ => hprogress.ge, fun _ _ h => by cases h⟩
  cases hprior : (envelope.resumeCheckpoint.get "sequence").asInt? with
  | none => simp only [WorkerExecution.ofLease, hprior, le_refl]
  | some prior =>
    simp only [WorkerExecution.ofLease, hprior]
    split_ifs with hpos
    · exact hpos.le
    · exact le_refl 0

end Alignment

section Invariant
variable {ops : OperationService} {schema : RecordSchema} {k : String}

structure SystemSound (k : String) (σ : WorkerSystem) : Prop where
  rows : AllRows RowSound σ.store
  level : ∀ ex, σ.execution = some ex → ∃ r, σ.store.operation? k = some r ∧ Aligned r ex σ.outgoing

theorem rows_step {s : Store} (h : AllRows RowSound s) (event : Event) : AllRows RowSound (ops.step s event) :=
  allRows_step rowSound_newRow (fun _ _ _ _ => RowSound.step) h

theorem operationId_of_lease {now : Nat} {call : Call} {r r' : OperationRow} {workerId : String} {leaseSeconds : Int}
    (h : RowStep now call r r') (hcall : call = .lease k workerId leaseSeconds) : r.operationId = k := by
  cases h with
  | lease hcall' =>
    rw [hcall] at hcall'
    cases hcall'
    rfl
  | _ hcall' =>
    rw [hcall] at hcall'
    cases hcall'

theorem begun_level {s : Store} {now issuedAt : Nat} {workerId adapterProfile : String} {leaseSeconds : Int}
    {manifest : WorkerManifest} {ids : LeaseIds} {ex : WorkerExecution} (hrows : AllRows RowSound s)
    (h : begun k s now issuedAt workerId leaseSeconds manifest adapterProfile ids = some ex) :
    ∃ r, (ops.step s ⟨now, .lease k workerId leaseSeconds⟩).operation? k = some r ∧ Aligned r ex none := by
  unfold begun at h
  split at h
  · cases h
  · rename_i s' row hlease
    split at h
    · cases h
    · rename_i envelope hissue
      cases h
      have hstore : ops.step s ⟨now, .lease k workerId leaseSeconds⟩ = s' := by
        simp only [OperationService.step, perform, hlease, commit]
      obtain ⟨r, hr, hmove, hops⟩ := lease_eq_ok hlease
      have hrow := operation?_of_set hr hmove hops
      rw [operationId_of_lease hmove rfl] at hrow
      have hsound : AllRows RowSound (ops.step s ⟨now, .lease k workerId leaseSeconds⟩) := rows_step hrows _
      rw [hstore] at hsound ⊢
      obtain ⟨_, hcheckpoint, hprogress⟩ := issue_eq_ok hissue
      exact ⟨row, hrow, aligned_ofLease (hsound k row hrow) hcheckpoint hprogress⟩

theorem workerStep_sound {σ : WorkerSystem} (h : SystemSound k σ) (action : WorkerAction k) :
    SystemSound k (workerStep ops schema k σ action) := by
  cases action with
  | begin now issuedAt workerId leaseSeconds manifest adapterProfile ids =>
    simp only [workerStep]
    split
    · exact h
    · exact ⟨rows_step h.rows _, fun ex hex => begun_level h.rows hex⟩
  | service event foreign =>
    refine ⟨rows_step h.rows _, ?_⟩
    intro ex hex
    obtain ⟨r, hr, ha⟩ := h.level ex hex
    obtain ⟨r', hr', hcase⟩ := (step_moved ops σ.store event).row hr
    refine ⟨r', hr', ?_⟩
    rcases hcase with rfl | hmove
    · exact ha
    · exact ha.foreign hmove (h.rows k r hr) ((operationId_of_operation? hr).symm ▸ foreign)
  | prepare now progress usage payload =>
    simp only [workerStep]
    split
    · exact h
    · rename_i ex hex
      refine ⟨h.rows, ?_⟩
      intro ex' hex'
      cases hex'
      obtain ⟨r, hr, ha⟩ := h.level ex hex
      exact ⟨r, hr, ha.prepared⟩
  | submit now =>
    simp only [workerStep]
    split
    · rename_i ex progress doc hex hout
      refine ⟨rows_step h.rows _, ?_⟩
      intro ex' hex'
      rw [hex] at hex'
      cases hex'
      obtain ⟨r, hr, ha⟩ := h.level ex hex
      rw [hout] at ha
      obtain ⟨r', hr', hcase⟩ := (step_moved ops σ.store ⟨now, .checkpoint k ex.workerId progress doc⟩).row hr
      refine ⟨r', hr', ?_⟩
      rcases hcase with rfl | hmove
      · exact ha.drop
      · obtain rfl := operationId_of_operation? hr
        exact ha.submitted hmove (h.rows _ r hr)
    · exact h
  | stop => exact ⟨h.rows, nofun⟩

theorem workerReached_sound (base : Store) (actions : List (WorkerAction k)) :
    SystemSound k (workerReached ops schema k base actions) := by
  have hkept : ∀ σ action, SystemSound k σ → SystemSound k (workerStep ops schema k σ action) :=
    fun _ action h => workerStep_sound h action
  refine run_invariant hkept ⟨?_, ?_⟩ actions
  · intro k r hr
    cases hr
  · intro ex hex
    cases hex

end Invariant

section Refusal
variable {s : Store} {now : Nat} {k workerId : String} {progress : PyFloat} {doc : Dict} {r : OperationRow}

theorem ownedLease_refusal {e : Raised} (hr : s.operation? k = some r)
    (h : ownedLease s now k workerId = .error e) : e.code? = some "OPERATION_LEASE_INVALID" := by
  simp only [ownedLease, bind_eq_error, raiseIf_eq_error, find, orRaise_eq_error, hr] at h
  rcases h with ⟨hnone, _⟩ | ⟨_, _, ⟨_, rfl⟩ | ⟨_, _, h⟩⟩
  · cases hnone
  · rfl
  · cases h

theorem persisted_refusal {e : Raised} (h : persisted doc = .error e) :
    e.code? = some "CHECKPOINT_MANIFEST_INVALID" := by
  unfold persisted at h
  split at h
  · rcases bind_eq_error.mp h with h | ⟨_, _, h⟩
    · unfold resumeManifest at h
      split at h
      · cases h
      · cases h
      · cases h
        rfl
    · cases h
  · cases h

/-- What a checkpoint that is ahead of the stored one can be refused for. -/
theorem checkpoint_refusal {e : Raised} (hr : s.operation? k = some r)
    (hsequence : r.ownedBy workerId now = true →
      checkSequence (doc.get "sequence") (r.checkpointJson.get "sequence") = .ok ())
    (hprogress : r.ownedBy workerId now = true → r.progress.value ≤ progress.value)
    (h : OperationService.checkpoint s now k workerId progress doc = .error e) :
    e.code? = some "PROGRESS_INVALID" ∨ e.code? = some "OPERATION_LEASE_INVALID" ∨
      e.code? = some "CHECKPOINT_MANIFEST_INVALID" ∨ EventRefusal e := by
  simp only [OperationService.checkpoint, bind_eq_error, raiseIf_eq_error, ownedLease_eq_ok, hr] at h
  rcases h with ⟨_, rfl⟩ | ⟨_, _, h | ⟨x, ⟨hx, hown⟩, h⟩⟩
  · exact .inl rfl
  · exact .inr (.inl (ownedLease_refusal hr h))
  · cases hx
    rcases h with h | ⟨_, _, ⟨hlt, _⟩ | ⟨_, _, h | ⟨saved, _, h | ⟨_, _, h⟩⟩⟩⟩
    · rw [hsequence hown] at h
      cases h
    · exact absurd hlt (not_lt.mpr (hprogress hown))
    · exact .inr (.inr (.inl (persisted_refusal h)))
    · exact .inr (.inr (.inr (outbox_refusal h)))
    · cases h

theorem checkSequence_ahead {n : Int} {prior : Json} (hn : 1 ≤ n)
    (hprior : prior = .null ∨ ∃ b, prior.asInt? = some b ∧ b < n) : checkSequence (.int n) prior = .ok () := by
  simp only [checkSequence, bind_eq_ok, orRaise_eq_ok, raiseIf_eq_ok, exists_const]
  refine ⟨n, rfl, by omega, ?_⟩
  split
  · rfl
  · rename_i hnull
    obtain ⟨b, hb, hlt⟩ := hprior.resolve_left hnull
    refine bind_eq_ok.mpr ⟨(b : Rat), orRaise_eq_ok.mpr (comparable?_of_asInt? hb), raiseIf_eq_ok.mpr ?_⟩
    exact not_le.mpr (by exact_mod_cast hlt)

/-- The refusals of a checkpoint that is ahead are none of the two ordering conflicts. -/
theorem refusalCode_of_ahead (hr : s.operation? k = some r)
    (hsequence : r.ownedBy workerId now = true →
      checkSequence (doc.get "sequence") (r.checkpointJson.get "sequence") = .ok ())
    (hprogress : r.ownedBy workerId now = true → r.progress.value ≤ progress.value) {code : String}
    (hcode : code ∉ "PROGRESS_INVALID" :: "OPERATION_LEASE_INVALID" :: "CHECKPOINT_MANIFEST_INVALID" :: eventCodes) :
    refusalCode (OperationService.checkpoint s now k workerId progress doc) ≠ some code := by
  cases h : OperationService.checkpoint s now k workerId progress doc with
  | ok result => exact nofun
  | error e =>
    intro heq
    apply hcode
    rcases checkpoint_refusal hr hsequence hprogress h with he | he | he | ⟨c, hc, he⟩
    · exact Option.some_inj.mp (he.symm.trans heq) ▸ by simp
    · exact Option.some_inj.mp (he.symm.trans heq) ▸ by simp
    · exact Option.some_inj.mp (he.symm.trans heq) ▸ by simp
    · exact Option.some_inj.mp (he.symm.trans heq) ▸ by simp [hc]

end Refusal

/-- Whatever the handlers report and however the earlier attempts on an operation ended, a
checkpoint that its run has prepared is never refused for its sequence or its progress,
at whatever time it is submitted. -/
theorem prepared_checkpoint_admissible (ops : OperationService) (schema : RecordSchema) (k : String)
    (base : Store) (actions : List (WorkerAction k)) (ex : WorkerExecution) (progress : PyFloat) (doc : Dict)
    (hex : (workerReached ops schema k base actions).execution = some ex)
    (hout : (workerReached ops schema k base actions).outgoing = some (progress, doc)) (now : Nat) :
    refusalCode (OperationService.checkpoint (workerReached ops schema k base actions).store now k ex.workerId
        progress doc) ≠ some "CHECKPOINT_SEQUENCE_NOT_MONOTONIC" ∧
    refusalCode (OperationService.checkpoint (workerReached ops schema k base actions).store now k ex.workerId
        progress doc) ≠ some "CHECKPOINT_PROGRESS_REGRESSION" := by
  have hsound : SystemSound k (workerReached ops schema k base actions) := workerReached_sound base actions
  obtain ⟨r, hr, ha⟩ := hsound.level ex hex
  obtain ⟨rfl, hdoc, hpos, hahead⟩ := ha.ahead progress doc hout
  have hrow := hsound.rows k r hr
  have hsequence : checkSequence (doc.get "sequence") (r.checkpointJson.get "sequence") = .ok () := by
    rw [hdoc]
    apply checkSequence_ahead hpos
    rcases hrow.sequence with hnull | ⟨b, hb, _⟩
    · exact .inl hnull
    · exact .inr ⟨b, hb, hahead b hb⟩
  have hprogress : r.ownedBy ex.workerId now = true → r.progress.value ≤ ex.progressFloor.value := by
    intro hown
    apply ha.floor
    intro hs
    have howner := (isSome_of_ownedBy hown).1
    rw [hrow.coupled.idle (.inr (.inl hs))] at howner
    cases howner
  exact ⟨refusalCode_of_ahead hr (fun _ => hsequence) hprogress (by decide),
    refusalCode_of_ahead hr (fun _ => hsequence) hprogress (by decide)⟩

/-- The schema on fields of their declared types, for a handler that counts no units and has no warnings. -/
def typedSchema : RecordSchema where
  str
    | .str text => text
    | value => String.ofList value.encode
  coerce fields := do
    let .int sequence := fields.get "sequence" | .error (.valueError "sequence: Input should be a valid integer")
    let .str stage := fields.get "stage" | .error (.valueError "stage: Input should be a valid string")
    let .float progress := fields.get "progress" | .error (.valueError "progress: Input should be a valid number")
    let .null := fields.get "completed_units" | .error (.valueError "completed_units: not counted")
    let .null := fields.get "total_units" | .error (.valueError "total_units: not counted")
    let .null := fields.get "unit" | .error (.valueError "unit: not counted")
    let .arr [] := fields.get "warnings" | .error (.valueError "warnings: none expected")
    let .obj quality := fields.get "quality" | .error (.valueError "quality: Input should be a valid dictionary")
    let .obj resourceUse := fields.get "resource_use"
      | .error (.valueError "resource_use: Input should be a valid dictionary")
    let .bool safeToResume := fields.get "safe_to_resume"
      | .error (.valueError "safe_to_resume: Input should be a valid boolean")
    let .obj payload := fields.get "payload" | .error (.valueError "payload: Input should be a valid dictionary")
    let .str checkpointHash := fields.get "checkpoint_hash"
      | .error (.valueError "checkpoint_hash: Input should be a valid string")
    return {
      sequence, stage, progress, completedUnits := none, totalUnits := none, unit := none, warnings := [],
      quality, resourceUse, safeToResume, payload, checkpointHash }
  sequence_eq := by
    intro fields n record hn h
    simp only [hn] at h
    repeat' split at h
    all_goals cases h
    rfl

/-- An operation is created, leased by `w`, and its run prepares a first checkpoint. -/
def firstCheckpoint : List (WorkerAction "op") :=
  [.service ⟨0, .create "op" "audit" (sampleRequest 3)⟩ rfl,
   .begin 0 0 "w" 60 sampleManifest "scan-worker" ⟨"l", "r", "s"⟩,
   .prepare 0 .zero ⟨.zero, .zero, 0⟩ [("stage", .str "startup")]]

/-- The row of `op` that its first run is leased with. -/
def firstLeased : OperationRow := leasedRow 0 "w" 60 (newRow 0 "op" (sampleRequest 3) none)

theorem issue_firstLeased : ∃ envelope,
    issue firstLeased sampleManifest 60 "scan-worker" 0 ⟨"l", "r", "s"⟩ = .ok envelope ∧
      envelope.deadlineAt = seconds 60 ∧ (envelope.resumeCheckpoint.get "sequence").asInt? = none ∧
      envelope.resumeProgress = .zero := by
  have hdigest : isDigest firstLeased.inputManifestHash = true := isDigest_canonicalSha256 (.obj [])
  have hfloat : resumeProgress firstLeased.progress = .zero := if_pos PyFloat.value_zero
  simp only [issue, WorkerLease.checkFields, WorkerLease.checkIntegrity, bind_eq_ok, raiseIf_eq_ok, exists_const,
    hdigest, hfloat, PyFloat.value_zero, not_not]
  refine ⟨_, ⟨by decide, ⟨by decide, by decide, by decide, by decide, by decide, by decide, by decide⟩, ?_, rfl⟩,
    rfl, rfl, rfl⟩
  exact ⟨none, rfl, rfl, rfl, trivial, by decide, by decide, trivial, trivial, by decide⟩

theorem checkpointDocument_startup : ∃ doc, WorkerExecution.checkpointDocument typedSchema 1 .zero ⟨.zero, .zero, 0⟩
    [("stage", .str "startup")] = .ok doc := by
  simp only [WorkerExecution.checkpointDocument, WorkerExecution.recordPayload, bind_eq_ok, ProgressRecord.ofFields,
    ProgressRecord.checkFields, ProgressRecord.checkIntegrity, raiseIf_eq_ok, exists_const]
  refine ⟨_, _, ⟨[], rfl, [], rfl, rfl⟩, _, ⟨_, rfl, ⟨by decide, by decide, ?_, ?_, by decide, by decide, ?_⟩,
    ⟨by decide, by decide, fun h => h rfl⟩, rfl⟩, rfl⟩
  · rw [PyFloat.value_zero]
    decide
  · rw [PyFloat.value_zero]
    decide
  · rw [isDigest_canonicalSha256]
    decide

/-- Once `op` is there, its run begins and the worker prepares a checkpoint. -/
theorem firstRun_prepared {s : Store} (hr : s.operation? "op" = some (newRow 0 "op" (sampleRequest 3) none)) :
    ∃ ex progress doc store, run (workerStep sampleService typedSchema "op") ⟨s, none, none⟩
        [.begin 0 0 "w" 60 sampleManifest "scan-worker" ⟨"l", "r", "s"⟩,
         .prepare 0 .zero ⟨.zero, .zero, 0⟩ [("stage", .str "startup")]] =
      ⟨store, some ex, some (progress, doc)⟩ := by
  have hadmits : Admits 0 "w" (newRow 0 "op" (sampleRequest 3) none) :=
    ⟨.inl rfl, rfl, nofun, validatePayload_leased (by decide) (by decide)⟩
  obtain ⟨s', hlease, _⟩ := lease_ok (by decide : (1 : Int) ≤ 60 ∧ (60 : Int) ≤ 3600) hr hadmits
  obtain ⟨envelope, hissue, hdeadline, hsequence, hprogress⟩ := issue_firstLeased
  obtain ⟨doc, hdoc⟩ := checkpointDocument_startup
  have hbegun : begun "op" s 0 0 "w" 60 sampleManifest "scan-worker" ⟨"l", "r", "s"⟩ =
      some (.ofLease envelope "w") := by
    simp only [begun, hlease]
    rw [← firstLeased, hissue]
  have hadvance : ((WorkerExecution.ofLease envelope "w").advance .zero).sequence = 1 ∧
      ((WorkerExecution.ofLease envelope "w").advance .zero).progressFloor = .zero := by
    simp only [WorkerExecution.advance, WorkerExecution.ofLease, hsequence, hprogress, PyFloat.max, ite_self]
    exact ⟨rfl, trivial⟩
  have hprepare : (WorkerExecution.ofLease envelope "w").prepare typedSchema 0 .zero ⟨.zero, .zero, 0⟩
      [("stage", .str "startup")] =
      ((WorkerExecution.ofLease envelope "w").advance .zero, .ok (.zero, doc)) := by
    have hlate : ¬ (WorkerExecution.ofLease envelope "w").lease.deadlineAt ≤ 0 := by
      rw [WorkerExecution.ofLease, hdeadline]
      decide
    simp only [WorkerExecution.prepare, if_neg hlate, hadvance, hdoc]
    rfl
  refine ⟨(WorkerExecution.ofLease envelope "w").advance .zero, .zero, doc, ?_⟩
  simp only [run_cons, run_nil, workerStep, hbegun, hprepare]
  exact ⟨_, rfl⟩

theorem firstCheckpoint_prepared : ∃ ex progress doc,
    (workerReached sampleService typedSchema "op" .empty firstCheckpoint).execution = some ex ∧
    (workerReached sampleService typedSchema "op" .empty firstCheckpoint).outgoing = some (progress, doc) := by
  have hcreated := created_sample 3
  rw [reached, run_cons, run_nil] at hcreated
  obtain ⟨ex, progress, doc, store, hrun⟩ := firstRun_prepared hcreated
  have hreached : workerReached sampleService typedSchema "op" .empty firstCheckpoint =
      ⟨store, some ex, some (progress, doc)⟩ := by
    rw [workerReached, firstCheckpoint, run_cons]
    exact hrun
  rw [hreached]
  exact ⟨ex, progress, doc, rfl, rfl⟩

theorem prepared_checkpoint_admissible_first :
    ∃ ex progress doc, (workerReached sampleService typedSchema "op" .empty firstCheckpoint).execution = some ex ∧
      refusalCode (OperationService.checkpoint
        (workerReached sampleService typedSchema "op" .empty firstCheckpoint).store 0 "op" ex.workerId
        progress doc) ≠ some "CHECKPOINT_SEQUENCE_NOT_MONOTONIC" := by
  obtain ⟨ex, progress, doc, hex, hout⟩ := firstCheckpoint_prepared
  have h := prepared_checkpoint_admissible sampleService typedSchema "op" .empty firstCheckpoint ex progress doc
    hex hout 0
  exact ⟨ex, progress, doc, hex, h.1⟩

end Sip
