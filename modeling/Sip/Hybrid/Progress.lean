import Sip.Hybrid.Endings
import Sip.Operations.Lifting

/-!
# Two disciplines for one report

`record_progress` compares a report with the latest one of its conversion: the sequence
has to be new, the same work unit may not go back and the unit has to be declared. It then
makes a checkpoint of the operation, which keeps a sequence of its own and one fraction
for all units. A report that the conversion admits may fail there: without a total its
fraction is zero, and after a crash the checkpoint has its sequence already.
-/

namespace Sip

set_option autoImplicit false

open OperationService (checkSequence persisted)

/-- One report of a worker; a call that crashes is cut off after some of its transactions. -/
structure ReportAct where
  draw : HybridDraw
  report : ProgressReport
  crash : Option Nat := none
  resources : (Json.obj report.resourceUse).Distinct

namespace HybridControl

section Rules

/-- The report is the latest one of its conversion. -/
def Repeats (report : ProgressReport) (db : HybridDb) : Prop :=
  ∃ prior, latestProgress? db report.conversionId = some prior ∧ report.sequence = prior.sequence ∧
    sameReport prior report = true

/-- The sequence is new, the same work unit has not gone back and the unit is declared. -/
structure Advances (providerId : String) (report : ProgressReport) (db : HybridDb) : Prop where
  above : ∀ prior, latestProgress? db report.conversionId = some prior → prior.sequence < report.sequence
  forward : ∀ prior, latestProgress? db report.conversionId = some prior → report.workUnitName = prior.workUnitName →
    prior.completedWorkUnits.value ≤ report.completedWorkUnits.value
  declared : ∃ units, recoveryUnits db providerId = .ok units ∧
    (units.isEmpty = true ∨ units.any (Json.isText report.workUnitName) = true)

/-- The rules of `record_progress` itself. -/
structure OwnRules (lease : WorkerCredential) (report : ProgressReport) (db : HybridDb) : Prop where
  valid : progressValid report
  scope : report.conversionId = lease.conversionId
  admitted : Repeats report db ∨ Advances lease.providerId report db

/-- The payload of the event of a checkpoint. -/
def checkpointPayload (report : ProgressReport) (fraction : PyFloat) (saved : Dict) : Dict := [
  ("progress", .float fraction), ("sequence", .int report.sequence), ("stage", .str report.stage),
  ("safe_to_resume", .bool ((progressCheckpoint report).get "safe_to_resume").truthy),
  ("checkpoint_hash", .str (canonicalSha256 (.obj saved)))]

/-- The checkpoint of the operation follows: its sequence is below that of the report, its fraction not above, and both
events are small enough. -/
structure Carried (py : PyNumbers) (report : ProgressReport) (operation : OperationRow) : Prop where
  sequence : checkSequence (.int report.sequence) (operation.checkpointJson.get "sequence") = .ok ()
  fraction : ∃ fraction saved, normalizedProgress py report = .ok fraction ∧ 0 ≤ fraction.value ∧
    operation.progress.value ≤ fraction.value ∧ persisted (progressCheckpoint report) = .ok saved ∧
    validatePayload (checkpointPayload report fraction saved) = .ok ()
  event : validatePayload (progressPayload report) = .ok ()

end Rules

section Holding
variable (svc : HybridControlService) (token : String)

/-- The worker presents the token of an active conversion and has the lease of its operation, or gets it with the call. -/
structure Holding (draw : HybridDraw) (lease : WorkerCredential) (db : HybridDb) : Prop where
  verified : (verifyWorkerToken svc draw token).run db = (db, .ok lease)
  active : ∃ row, db.conversions.get? lease.conversionId = some row ∧ row.state ∈ [.admitted, .running]
  started : ∃ workerId s operation, lease.workload = .ok workerId ∧
    (ensureOperationStarted draw lease svc.py).run db = ({ db with toStore := s }, .ok ()) ∧
    s.operation? lease.operationId = some operation ∧ operation.ownedBy workerId (draw.now .checkpoint) = true ∧
    operation.cancelRequested = false

/-- `record_progress` returns the report. -/
def Accepted (act : ReportAct) (db : HybridDb) : Prop :=
  ∃ db', (recordProgress svc act.draw token act.report).run db = (db', .ok act.report)

/-- A report, or what a crash leaves of it. -/
def reportStep (db : HybridDb) (act : ReportAct) : HybridDb :=
  match act.crash with
  | none => ((recordProgress svc act.draw token act.report).run db).1
  | some n => (recordProgress svc act.draw token act.report).cut n db

end Holding

section Check
variable {db : HybridDb} {lease : WorkerCredential} {report : ProgressReport}

theorem not_advances_of_repeats {providerId : String} (h : Repeats report db) : ¬ Advances providerId report db := by
  intro hadvances
  obtain ⟨prior, hprior, hsequence, _⟩ := h
  have hlt := hadvances.above prior hprior
  omega

theorem checkAgainstPrior_true : checkAgainstPrior report (latestProgress? db report.conversionId) = .ok true ↔
    Repeats report db := by
  unfold Repeats
  cases hprior : latestProgress? db report.conversionId with
  | none => simp [checkAgainstPrior]
  | some prior =>
    simp only [checkAgainstPrior, Option.some.injEq, exists_eq_left']
    split
    · rename_i hsequence
      simp only [bind_eq_ok, raiseIf_eq_ok, exists_const, not_not, hsequence, true_and, pure, Except.pure, and_true]
    · rename_i hsequence
      simp [bind_eq_ok, hsequence, pure, Except.pure]

theorem checkAgainstPrior_false : checkAgainstPrior report (latestProgress? db report.conversionId) = .ok false ↔
    ∀ prior, latestProgress? db report.conversionId = some prior → prior.sequence < report.sequence ∧
      (report.workUnitName = prior.workUnitName → prior.completedWorkUnits.value ≤ report.completedWorkUnits.value) := by
  cases hprior : latestProgress? db report.conversionId with
  | none => simp [checkAgainstPrior]
  | some prior =>
    simp only [checkAgainstPrior, Option.some.injEq, forall_eq']
    split
    · rename_i hsequence
      simp only [bind_eq_ok, pure, Except.pure, Except.ok.injEq, reduceCtorEq, and_false, exists_false, false_iff]
      omega
    · rename_i hsequence
      simp only [bind_eq_ok, raiseIf_eq_ok, exists_const, pure, Except.pure, and_true, not_and', not_lt]
      constructor
      · intro h
        exact ⟨by omega, h.2⟩
      · intro h
        exact ⟨by omega, h.2⟩

theorem checkUnit_eq_ok {row : SpatialConversionRow} : checkUnit db row report = .ok () ↔
    ∃ units, recoveryUnits db row.providerId = .ok units ∧
      (units.isEmpty = true ∨ units.any (Json.isText report.workUnitName) = true) := by
  simp only [checkUnit, bind_eq_ok, raiseIf_eq_ok]
  apply exists_congr
  intro units
  cases units.isEmpty <;> simp

theorem acceptsProgress_eq_ok {row : SpatialConversionRow} {claims : Dict} {repeated : Bool}
    (hlease : lease = leaseOf row claims) (hrow : db.conversions.get? lease.conversionId = some row)
    (hactive : row.state ∈ [.admitted, .running]) (hscope : report.conversionId = lease.conversionId) :
    acceptsProgress lease report db = .ok repeated ↔
      if repeated then Repeats report db else Advances lease.providerId report db := by
  have hscoped : scopedConversion db report.conversionId lease.tenantId lease.projectId = .ok row := by
    simp only [scopedConversion, bind_eq_ok, orRaise_eq_ok, raiseIf_eq_ok]
    refine ⟨row, hscope ▸ hrow, (), ?_, rfl⟩
    rw [hlease]
    simp [leaseOf]
  have hid : row.conversionId = report.conversionId := by
    rw [hscope, hlease]
    rfl
  have hprovider : lease.providerId = row.providerId := by
    rw [hlease]
    rfl
  simp only [acceptsProgress, hscoped, bind_eq_ok, Except.ok.injEq, exists_eq_left', raiseIf_eq_ok, not_not, hactive,
    exists_const, true_and, hid]
  cases repeated with
  | true =>
    rw [if_pos rfl]
    constructor
    · intro h
      obtain ⟨found, hfound, h⟩ := h
      cases found with
      | true => exact checkAgainstPrior_true.mp hfound
      | false =>
        obtain ⟨_, _, h⟩ := bind_eq_ok.mp h
        cases h
    · intro h
      exact ⟨true, checkAgainstPrior_true.mpr h, rfl⟩
  | false =>
    rw [if_neg (by simp)]
    constructor
    · intro h
      obtain ⟨found, hfound, h⟩ := h
      cases found with
      | true => cases h
      | false =>
        obtain ⟨_, hunit, _⟩ := bind_eq_ok.mp h
        have hprior := checkAgainstPrior_false.mp hfound
        exact ⟨fun prior h => (hprior prior h).1, fun prior h => (hprior prior h).2, hprovider ▸ checkUnit_eq_ok.mp hunit⟩
    · intro h
      refine ⟨false, checkAgainstPrior_false.mpr fun prior hp => ⟨h.above prior hp, h.forward prior hp⟩, ?_⟩
      exact bind_eq_ok.mpr ⟨(), checkUnit_eq_ok.mpr (hprovider ▸ h.declared), rfl⟩

end Check

section Checkpoint
variable {s s' : Store} {now : Nat} {operationId workerId : String} {operation : OperationRow} {report : ProgressReport}
  {fraction : PyFloat}

/-- An event that the catalog knows is refused only for its payload. -/
theorem exists_createEvent_iff {r : EventRequest} {entry : EventCatalogEntry}
    (hentry : getEvent r.eventType r.schemaVersion = .ok entry) (howner : r.producer = entry.owner)
    (haggregate : entry.aggregate = r.aggregateType) :
    (∃ event, createEvent s now r = .ok event) ↔ validatePayload r.payload = .ok () := by
  simp only [createEvent, bind_eq_ok, raiseIf_eq_ok]
  constructor
  · intro h
    obtain ⟨_, _, _, _, _, _, _, _, hpayload, _⟩ := h
    exact hpayload
  · intro hpayload
    exact ⟨_, entry, hentry, (), not_not.mpr howner, (), not_not.mpr haggregate, (), hpayload, rfl⟩

theorem exists_outbox_iff {eventType : String} {payload : Dict} {actorId workload : Option String}
    {entry : EventCatalogEntry} (hentry : getEvent eventType "1.0.0" = .ok entry) (howner : "workflow-service" = entry.owner)
    (haggregate : entry.aggregate = "operation") :
    (∃ s', OperationService.outbox s now operation eventType payload actorId workload = .ok s') ↔
      validatePayload payload = .ok () := by
  let r : EventRequest := {
    eventType, schemaVersion := "1.0.0", tenantId := operation.tenantId, projectId := operation.projectId,
    aggregateType := "operation", aggregateId := operation.operationId, payload, producer := "workflow-service",
    actorId, workloadIdentity := workload, traceparent := operation.traceparent, correlationId := operation.operationId }
  have hcreate : (∃ event, createEvent s now r = .ok event) ↔ validatePayload r.payload = .ok () :=
    exists_createEvent_iff hentry howner haggregate
  rw [← hcreate]
  constructor
  · intro h
    obtain ⟨s', hs'⟩ := h
    obtain ⟨event, hevent, _⟩ := bind_eq_ok.mp hs'
    exact ⟨event, hevent⟩
  · intro h
    obtain ⟨event, hevent⟩ := h
    exact ⟨_, bind_eq_ok.mpr ⟨event, hevent, rfl⟩⟩

/-- When the operation accepts the checkpoint of a report. -/
theorem exists_checkpoint_iff (hoperation : s.operation? operationId = some operation)
    (howned : operation.ownedBy workerId now = true) :
    (∃ s' r, OperationService.checkpoint s now operationId workerId fraction (progressCheckpoint report) = .ok (s', r)) ↔
      (0 ≤ fraction.value ∧ fraction.value ≤ 1) ∧
      checkSequence (.int report.sequence) (operation.checkpointJson.get "sequence") = .ok () ∧
      operation.progress.value ≤ fraction.value ∧ ∃ saved, persisted (progressCheckpoint report) = .ok saved ∧
        validatePayload (checkpointPayload report fraction saved) = .ok () := by
  have hlease : OperationService.ownedLease s now operationId workerId = .ok operation :=
    ownedLease_eq_ok.mpr ⟨hoperation, howned⟩
  have hevent : getEvent "operation.checkpointed" "1.0.0" =
      .ok ⟨"operation.checkpointed", "1.0.0", "operation", "workflow-service"⟩ := rfl
  have hpayload : ∀ (t : Store) (row : OperationRow) (saved : Dict), (∃ s', OperationService.outbox t now row
      "operation.checkpointed" (checkpointPayload report fraction saved) none (some workerId) = .ok s') ↔
        validatePayload (checkpointPayload report fraction saved) = .ok () :=
    fun t row saved => exists_outbox_iff hevent rfl rfl
  have hsequence : (progressCheckpoint report).get "sequence" = .int report.sequence := rfl
  have hstage : (progressCheckpoint report).get "stage" = .str report.stage := rfl
  simp only [OperationService.checkpoint, bind_eq_ok, raiseIf_eq_ok, hlease, hsequence, hstage, Except.ok.injEq,
    exists_eq_left', exists_const, not_not, not_lt]
  constructor
  · intro h
    obtain ⟨_, _, hrange, _, hchecked, hprogress, saved, hsaved, s', hs', _⟩ := h
    exact ⟨hrange, hchecked, hprogress, saved, hsaved, (hpayload _ _ saved).mp ⟨s', hs'⟩⟩
  · intro h
    obtain ⟨hrange, hchecked, hprogress, saved, hsaved, hvalid⟩ := h
    let row := if operation.cancelRequested then { operation.released with state := .cancelled, updatedAt := now }
      else { operation with state := .running, progress := fraction, checkpointJson := saved, updatedAt := now }
    obtain ⟨s', hs'⟩ := (hpayload (s.saveOperation row) row saved).mpr hvalid
    exact ⟨s', row, hrange, (), hchecked, hprogress, saved, hsaved, s', hs', rfl⟩

end Checkpoint

section Write
variable {db db' : HybridDb} {lease : WorkerCredential} {report : ProgressReport} {stamp : Stamp}
  {progressId workerId : String}

/-- The documents of a report are those of a dictionary. -/
theorem distinct_progressDocument (h : (Json.obj report.resourceUse).Distinct) :
    (Json.obj (progressDocument report)).Distinct := by
  have hkeys : ((progressDocument report).map Prod.fst).Nodup :=
    (by decide : ["conversion_id", "sequence", "stage", "completed_work_units", "total_work_units", "work_unit_name",
      "resource_use", "warnings", "last_durable_checkpoint_hash", "estimated_output_bytes"].Nodup)
  have htexts : (Json.texts report.warnings).Distinct := by
    apply Json.distinct_arr
    intro v hv
    obtain ⟨text, _, rfl⟩ := List.mem_map.mp hv
    simp [Json.Distinct]
  apply Json.distinct_obj hkeys
  intro p hp
  simp only [progressDocument, List.mem_cons, List.not_mem_nil, or_false] at hp
  rcases hp with rfl | rfl | rfl | rfl | rfl | rfl | rfl | rfl | rfl | rfl
  · simp [Json.Distinct]
  · simp [Json.Distinct]
  · simp [Json.Distinct]
  · simp [Json.Distinct]
  · cases report.totalWorkUnits <;> simp [floatOrNull, Json.Distinct]
  · simp [Json.Distinct]
  · exact h
  · exact htexts
  · cases report.lastDurableCheckpointHash <;> simp [Json.ofOption, Json.Distinct]
  · cases report.estimatedOutputBytes <;> simp [intOrNull, Json.Distinct]

theorem sameReport_recorded (h : (Json.obj report.resourceUse).Distinct) :
    sameReport (progressRow progressId report) report = true :=
  Json.pyEq_refl (distinct_progressDocument h)

/-- Every report of the conversion has a sequence below a new one. -/
theorem sequence_lt_of_latest
    (habove : ∀ prior, latestProgress? db report.conversionId = some prior → prior.sequence < report.sequence)
    {other : ProviderProgressRow} (hother : other ∈ db.progress.rows) (hsame : other.conversionId = report.conversionId) :
    other.sequence < report.sequence := by
  have hmem : other ∈ db.progress.rows.filter fun row => row.conversionId = report.conversionId :=
    List.mem_filter.mpr ⟨hother, by simpa using hsame⟩
  cases hlatest : latestProgress? db report.conversionId with
  | none =>
    rw [latestProgress?, List.argmax_eq_none] at hlatest
    rw [hlatest] at hmem
    cases hmem
  | some prior =>
    have hle := List.le_of_mem_argmax hmem hlatest
    have hlt := habove prior hlatest
    omega

/-- A new report becomes the latest one. -/
theorem repeats_of_insert (hresources : (Json.obj report.resourceUse).Distinct)
    (habove : ∀ prior, latestProgress? db report.conversionId = some prior → prior.sequence < report.sequence)
    (hrows : db'.progress.rows = db.progress.rows ++ [progressRow progressId report]) : Repeats report db' := by
  refine ⟨progressRow progressId report, ?_, rfl, sameReport_recorded hresources⟩
  have hfilter : (db'.progress.rows.filter fun row => row.conversionId = report.conversionId) =
      (db.progress.rows.filter fun row => row.conversionId = report.conversionId) ++ [progressRow progressId report] := by
    rw [hrows, List.filter_append]
    simp [progressRow]
  rw [latestProgress?, hfilter, List.argmax_concat]
  cases hlatest : latestProgress? db report.conversionId with
  | none =>
    rw [latestProgress?] at hlatest
    rw [hlatest]
  | some prior =>
    have hlt : prior.sequence < (progressRow progressId report).sequence := habove prior hlatest
    rw [latestProgress?] at hlatest
    simp only [hlatest, if_pos hlt]

theorem exists_emit_iff {s : Store} {r : EventRequest} {entry : EventCatalogEntry}
    (hentry : getEvent r.eventType r.schemaVersion = .ok entry) (howner : r.producer = entry.owner)
    (haggregate : entry.aggregate = r.aggregateType) :
    (∃ s', s.emit stamp r = .ok s') ↔ validatePayload r.payload = .ok () := by
  have hcreate : (∃ event, createEvent s stamp.now r = .ok event) ↔ validatePayload r.payload = .ok () :=
    exists_createEvent_iff hentry howner haggregate
  rw [← hcreate]
  constructor
  · intro h
    obtain ⟨s', hs'⟩ := h
    obtain ⟨event, hevent, _⟩ := bind_eq_ok.mp hs'
    exact ⟨event, hevent⟩
  · intro h
    obtain ⟨event, hevent⟩ := h
    exact ⟨_, bind_eq_ok.mpr ⟨event, hevent, rfl⟩⟩

/-- When a new report is written. -/
theorem exists_writeProgress_iff {row : SpatialConversionRow}
    (hrow : scopedConversion db report.conversionId lease.tenantId lease.projectId = .ok row)
    (habove : ∀ prior, latestProgress? db report.conversionId = some prior → prior.sequence < report.sequence)
    (hfresh : db.progress.get? progressId = none) :
    (∃ db', writeProgress stamp progressId workerId lease report db = .ok (report, db')) ↔
      validatePayload (progressPayload report) = .ok () := by
  have hid : row.conversionId = report.conversionId := conversionId_of_get? (scopedConversion_eq_ok hrow)
  have hlatest : ((latestProgress? db row.conversionId).filter fun prior => report.sequence ≤ prior.sequence) = none := by
    rw [hid, Option.filter_eq_none_iff]
    intro prior hprior
    have hlt := habove prior hprior
    simpa using hlt
  obtain ⟨progress, hprogress⟩ := @Table.insert?_isSome _ _ db.progress (progressRow progressId report) hfresh
  have hinsert : insertProgress db (progressRow progressId report) = .ok { db with progress } := by
    simp only [insertProgress, bind_eq_ok, raiseIf_eq_ok, orRaise_eq_ok]
    refine ⟨(), ?_, progress, hprogress, rfl⟩
    intro h
    obtain ⟨other, hother, hsame, hsequence⟩ := h
    have hlt := sequence_lt_of_latest habove hother hsame
    simp only [progressRow] at hsequence
    omega
  have hevent : getEvent "representation.provider.progressed" "1.0.0" =
      .ok ⟨"representation.provider.progressed", "1.0.0", "spatial_conversion", "representation-api"⟩ := rfl
  have hemit : (∃ s, (saveConversion { db with progress } { row with state := .running }).emit stamp
      (conversionEvent { row with state := .running } "representation.provider.progressed" (progressPayload report) none
        (some workerId)) = .ok s) ↔ validatePayload (progressPayload report) = .ok () :=
    exists_emit_iff hevent rfl rfl
  rw [← hemit]
  simp only [writeProgress, hrow, bind_eq_ok, Except.ok.injEq, exists_eq_left', hlatest, hinsert]
  constructor
  · intro h
    obtain ⟨_, s, hs, _⟩ := h
    exact ⟨s, hs⟩
  · intro h
    obtain ⟨s, hs⟩ := h
    exact ⟨_, s, hs, rfl⟩

end Write

section Start
variable {db db' : HybridDb} {draw : HybridDraw} {lease : WorkerCredential} {py : PyNumbers} {workerId : String}

/-- What a checkpoint is compared with. -/
def SameProgress (a b : OperationRow) : Prop := b.progress = a.progress ∧ b.checkpointJson = a.checkpointJson

theorem lease_keeps {s s' : Store} {now : Nat} {k : String} {leaseSeconds : Int} {before after : OperationRow}
    (hbefore : s.operation? k = some before) (h : OperationService.lease s now k workerId leaseSeconds = .ok (s', after)) :
    s'.operation? k = some after ∧ SameProgress before after := by
  obtain ⟨row, hrow, hmove, hset⟩ := lease_eq_ok h
  have hafter := operation?_of_set hrow hmove hset
  cases hmove with
  | lease hcall =>
    cases hcall
    rw [hrow] at hbefore
    cases hbefore
    exact ⟨hafter, rfl, rfl⟩
  | _ hcall => cases hcall

theorem start_keeps {s s' : Store} {now : Nat} {k : String} {before after : OperationRow}
    (hbefore : s.operation? k = some before) (h : OperationService.start s now k workerId = .ok (s', after)) :
    s'.operation? k = some after ∧ SameProgress before after := by
  obtain ⟨row, hrow, hmove, hset⟩ := start_eq_ok h
  have hafter := operation?_of_set hrow hmove hset
  cases hmove with
  | startRunning hcall | startCancelled hcall =>
    cases hcall
    rw [hrow] at hbefore
    cases hbefore
    exact ⟨hafter, rfl, rfl⟩
  | _ hcall => cases hcall

/-- Taking the lease leaves the progress and the checkpoint of the operation. -/
theorem startOperation_keeps {operation after : OperationRow} (hoperation : db.operation? lease.operationId = some operation)
    (h : (startOperation draw lease py workerId operation).run db = (db', .ok ()))
    (hafter : db'.operation? lease.operationId = some after) : SameProgress operation after := by
  have hid : operation.operationId = lease.operationId := operationId_of_operation? hoperation
  have hsame : db = db' → SameProgress operation after := by
    intro heq
    rw [← heq, hoperation] at hafter
    cases hafter
    exact ⟨rfl, rfl⟩
  have htaken : ∀ leaseSeconds, ((Method.transaction HybridStage.lease (onStore fun s => OperationService.lease s (draw.now .lease)
      operation.operationId workerId leaseSeconds)).bind fun _ => (Method.transaction HybridStage.start (onStore fun s =>
      OperationService.start s (draw.now .start) operation.operationId workerId)).bind fun _ => .done (.ok ())).run db =
        (db', Except.ok ()) → SameProgress operation after := by
    intro leaseSeconds h
    simp only [Method.run_bind_eq_ok, Method.run_done_eq_ok, Method.run_transaction_eq_ok] at h
    obtain ⟨leased, first, hleased, started, second, hstarted, rfl, _⟩ := h
    obtain ⟨s₁, hs₁, rfl⟩ := onStore_eq_ok hleased
    obtain ⟨s₂, hs₂, rfl⟩ := onStore_eq_ok hstarted
    rw [hid] at hs₁ hs₂
    obtain ⟨hfirst, hprogress₁, hcheckpoint₁⟩ := lease_keeps hoperation hs₁
    obtain ⟨hsecond, hprogress₂, hcheckpoint₂⟩ := start_keeps hfirst hs₂
    cases hsecond.symm.trans hafter
    exact ⟨hprogress₂.trans hprogress₁, hcheckpoint₂.trans hcheckpoint₁⟩
  unfold startOperation at h
  cases hstate : operation.state with
  | pending | failed =>
    simp only [hstate] at h
    obtain ⟨_, leaseSeconds, hbounded, h⟩ := Method.run_bind_eq_ok.mp h
    obtain ⟨rfl, _⟩ := Method.run_done_eq_ok.mp hbounded
    exact htaken leaseSeconds h
  | leased | running =>
    simp only [hstate] at h
    exact hsame (Method.run_done_eq_ok.mp h).1
  | succeeded =>
    simp only [hstate] at h
    exact hsame (Method.run_done_eq_ok.mp h).1
  | cancelRequested | cancelled | quarantined =>
    simp only [hstate] at h
    cases (Method.run_done_eq_ok.mp h).2

theorem ensureOperationStarted_keeps {operation after : OperationRow}
    (hoperation : db.operation? lease.operationId = some operation)
    (h : (ensureOperationStarted draw lease py).run db = (db', .ok ()))
    (hafter : db'.operation? lease.operationId = some after) : SameProgress operation after := by
  simp only [ensureOperationStarted, Method.bind_eq, Method.liftM_eq, Method.run_bind_eq_ok, Method.run_read_eq_ok,
    Method.run_done_eq_ok, find_eq_ok] at h
  obtain ⟨_, found, ⟨rfl, hfound⟩, _, workerId, ⟨rfl, _⟩, hstart⟩ := h
  cases hoperation.symm.trans hfound
  exact startOperation_keeps hoperation hstart hafter

end Start

section Accept
variable {svc : HybridControlService} {token : String} {draw : HybridDraw} {lease : WorkerCredential} {db : HybridDb}
  {report : ProgressReport} {operation : OperationRow}

/-- The row that the token was checked against. -/
theorem Holding.row (h : Holding svc token draw lease db) : ∃ row claims, lease = leaseOf row claims ∧
    db.conversions.get? lease.conversionId = some row ∧ row.state ∈ [.admitted, .running] := by
  have hverified := h.verified
  simp only [verifyWorkerToken, Method.bind_eq, Method.liftM_eq, Method.run_bind_eq_ok, Method.run_done_eq_ok,
    Method.run_read_eq_ok] at hverified
  obtain ⟨_, claims, ⟨rfl, _⟩, _, hlease⟩ := hverified
  obtain ⟨row, hrow, hof, _⟩ := durableLease_eq_ok hlease
  obtain ⟨found, hfound, hactive⟩ := h.active
  cases hrow.symm.trans hfound
  exact ⟨row, claims, hof, hrow, hactive⟩

theorem Holding.scoped (h : Holding svc token draw lease db) (hscope : report.conversionId = lease.conversionId) {db' : HybridDb}
    (hsame : db'.conversions = db.conversions) :
    ∃ row, scopedConversion db' report.conversionId lease.tenantId lease.projectId = .ok row := by
  obtain ⟨row, claims, hof, hrow, _⟩ := h.row
  refine ⟨row, ?_⟩
  simp only [scopedConversion, bind_eq_ok, orRaise_eq_ok, raiseIf_eq_ok, hsame]
  refine ⟨row, hscope ▸ hrow, (), ?_, rfl⟩
  rw [hof]
  simp [leaseOf]

theorem normalizedProgress_le_one {py : PyNumbers} {fraction : PyFloat} (h : normalizedProgress py report = .ok fraction) :
    fraction.value ≤ 1 := by
  unfold normalizedProgress at h
  cases htotal : report.totalWorkUnits with
  | none =>
    simp only [htotal] at h
    cases h
    rw [PyFloat.value_zero]
    exact zero_le_one
  | some total =>
    simp only [htotal] at h
    obtain ⟨ratio, _, hfraction⟩ := bind_eq_ok.mp h
    cases hfraction
    split
    · rename_i hlt
      exact PyFloat.value_one ▸ hlt.le
    · exact PyFloat.value_one.le

/-- A report that is new is accepted exactly when the checkpoint of the operation follows. -/
theorem exists_advanceProgress_iff (hholding : Holding svc token draw lease db)
    (hoperation : db.operation? lease.operationId = some operation) (hscope : report.conversionId = lease.conversionId)
    (hadvances : Advances lease.providerId report db) (hfresh : db.progress.get? (draw.newId .write) = none) :
    (∃ db', (advanceProgress svc draw lease report).run db = (db', .ok report)) ↔ Carried svc.py report operation := by
  obtain ⟨workerId, s, started, hworker, hstart, hstarted, howned, _⟩ := hholding.started
  obtain ⟨hprogress, hcheckpoint⟩ := ensureOperationStarted_keeps hoperation hstart hstarted
  have hpoint : ∀ fraction, (∃ s' r, OperationService.checkpoint s (draw.now .checkpoint) lease.operationId workerId fraction
      (progressCheckpoint report) = .ok (s', r)) ↔ _ := fun fraction => exists_checkpoint_iff hstarted howned
  have hwrite : ∀ s', (∃ db', writeProgress (draw.stamp .write) (draw.newId .write) workerId lease report
      { db with toStore := s' } = .ok (report, db')) ↔ validatePayload (progressPayload report) = .ok () := by
    intro s'
    obtain ⟨row, hrow⟩ := hholding.scoped hscope (rfl : ({ db with toStore := s' } : HybridDb).conversions = db.conversions)
    exact exists_writeProgress_iff hrow hadvances.above hfresh
  simp only [advanceProgress, Method.bind_eq, Method.liftM_eq, Method.run_bind_eq_ok, Method.run_done_eq_ok,
    Method.run_transaction_eq_ok]
  constructor
  · intro h
    obtain ⟨db', _, _, hrun, _, fraction, ⟨rfl, hfraction⟩, _, worker, ⟨rfl, hw⟩, _, r, hcheck, hwritten⟩ := h
    rw [hstart] at hrun
    cases hrun
    cases hworker.symm.trans hw
    obtain ⟨s', hs', rfl⟩ := onStore_eq_ok hcheck
    obtain ⟨hrange, hsequence, hle, saved, hsaved, hvalid⟩ := (hpoint fraction).mp ⟨s', r, hs'⟩
    rw [hcheckpoint] at hsequence
    rw [hprogress] at hle
    exact ⟨hsequence, ⟨fraction, saved, hfraction, hrange.1, hle, hsaved, hvalid⟩, (hwrite s').mp ⟨db', hwritten⟩⟩
  · intro h
    obtain ⟨fraction, saved, hfraction, hnonneg, hle, hsaved, hvalid⟩ := h.fraction
    have hsequence := h.sequence
    rw [← hcheckpoint] at hsequence
    rw [← hprogress] at hle
    obtain ⟨s', r, hs'⟩ := (hpoint fraction).mpr
      ⟨⟨hnonneg, normalizedProgress_le_one hfraction⟩, hsequence, hle, saved, hsaved, hvalid⟩
    obtain ⟨db', hwritten⟩ := (hwrite s').mpr h.event
    have hcheck : onStore (fun s => OperationService.checkpoint s (draw.now .checkpoint) lease.operationId workerId fraction
        (progressCheckpoint report)) { db with toStore := s } = .ok (r, { db with toStore := s' }) :=
      bind_eq_ok.mpr ⟨(s', r), hs', rfl⟩
    exact ⟨db', _, (), hstart, _, fraction, ⟨rfl, hfraction⟩, _, workerId, ⟨rfl, hworker⟩, _, r, hcheck, hwritten⟩

/-- When the worker that holds the lease has a report accepted. -/
theorem accepted_iff {act : ReportAct} (hholding : Holding svc token act.draw lease db)
    (hoperation : db.operation? lease.operationId = some operation)
    (hfresh : db.progress.get? (act.draw.newId .write) = none) :
    Accepted svc token act db ↔ progressValid act.report ∧ act.report.conversionId = lease.conversionId ∧
      (Repeats act.report db ∨ Advances lease.providerId act.report db ∧ Carried svc.py act.report operation) := by
  obtain ⟨row, claims, hof, hrow, hactive⟩ := hholding.row
  simp only [Accepted, recordProgress, Method.bind_eq, Method.liftM_eq, Method.run_bind_eq_ok, Method.run_done_eq_ok,
    Method.run_read_eq_ok, raiseIf_eq_ok, not_not]
  constructor
  · intro h
    obtain ⟨db', _, found, hverified, _, _, ⟨rfl, hvalid⟩, _, _, ⟨rfl, hscope⟩, _, repeated, ⟨rfl, haccepts⟩, hrest⟩ := h
    rw [hholding.verified] at hverified
    cases hverified
    refine ⟨hvalid, hscope, ?_⟩
    rw [acceptsProgress_eq_ok hof hrow hactive hscope] at haccepts
    cases repeated with
    | true => exact .inl haccepts
    | false => exact .inr ⟨haccepts, (exists_advanceProgress_iff hholding hoperation hscope haccepts hfresh).mp ⟨db', hrest⟩⟩
  · intro h
    obtain ⟨hvalid, hscope, hrules⟩ := h
    rcases hrules with hrepeats | ⟨hadvances, hcarried⟩
    · have haccepts : acceptsProgress lease act.report db = .ok true :=
        (acceptsProgress_eq_ok hof hrow hactive hscope).mpr hrepeats
      exact ⟨db, db, lease, hholding.verified, _, (), ⟨rfl, hvalid⟩, _, (), ⟨rfl, hscope⟩, _, true, ⟨rfl, haccepts⟩, rfl⟩
    · obtain ⟨db', hrest⟩ := (exists_advanceProgress_iff hholding hoperation hscope hadvances hfresh).mpr hcarried
      have haccepts : acceptsProgress lease act.report db = .ok false :=
        (acceptsProgress_eq_ok hof hrow hactive hscope).mpr hadvances
      exact ⟨db', db, lease, hholding.verified, _, (), ⟨rfl, hvalid⟩, _, (), ⟨rfl, hscope⟩, _, false, ⟨rfl, haccepts⟩, hrest⟩

/-- The rules of the report decide exactly when the checkpoint follows every new report. -/
theorem accepted_iff_ownRules_iff {act : ReportAct} (hholding : Holding svc token act.draw lease db)
    (hoperation : db.operation? lease.operationId = some operation)
    (hfresh : db.progress.get? (act.draw.newId .write) = none) :
    (Accepted svc token act db ↔ OwnRules lease act.report db) ↔
      (OwnRules lease act.report db → ¬ Repeats act.report db → Carried svc.py act.report operation) := by
  rw [accepted_iff hholding hoperation hfresh]
  constructor
  · intro h hrules hnew
    obtain ⟨_, _, hrepeats | ⟨_, hcarried⟩⟩ := h.mpr hrules
    · exact absurd hrepeats hnew
    · exact hcarried
  · intro h
    constructor
    · intro haccepted
      obtain ⟨hvalid, hscope, hrepeats | ⟨hadvances, _⟩⟩ := haccepted
      · exact ⟨hvalid, hscope, .inl hrepeats⟩
      · exact ⟨hvalid, hscope, .inr hadvances⟩
    · intro hrules
      refine ⟨hrules.valid, hrules.scope, ?_⟩
      rcases hrules.admitted with hrepeats | hadvances
      · exact .inl hrepeats
      · exact .inr ⟨hadvances, h hrules fun hrepeats => not_advances_of_repeats hrepeats hadvances⟩

end Accept

section Crash
variable {svc : HybridControlService} {token : String} {draw : HybridDraw} {report : ProgressReport} {before : HybridDb}

/-- Nothing that the rules of a report look at has changed, or the report has been recorded. -/
def Undisturbed (report : ProgressReport) (before db : HybridDb) : Prop :=
  (db.progress = before.progress ∧ db.providers = before.providers) ∨ Repeats report db

theorem offStore_undisturbed : OffStore (Undisturbed report before) := by
  intro db s h
  exact h

theorem ownRules_of_undisturbed {lease : WorkerCredential} {db : HybridDb} (hrules : OwnRules lease report before)
    (h : Undisturbed report before db) : OwnRules lease report db := by
  refine ⟨hrules.valid, hrules.scope, ?_⟩
  rcases h with ⟨hprogress, hproviders⟩ | hrepeats
  · have hlatest : latestProgress? db report.conversionId = latestProgress? before report.conversionId := by
      simp only [latestProgress?, hprogress]
    rcases hrules.admitted with hrepeats | hadvances
    · left
      unfold Repeats
      rw [hlatest]
      exact hrepeats
    · right
      refine ⟨?_, ?_, ?_⟩
      · rw [hlatest]
        exact hadvances.above
      · rw [hlatest]
        exact hadvances.forward
      · simp only [recoveryUnits, hproviders]
        exact hadvances.declared
  · exact .inl hrepeats

/-- What the last transaction accepts is the latest report afterwards. -/
theorem writeProgress_repeats {stamp : Stamp} {progressId workerId : String} {lease : WorkerCredential}
    {result : ProgressReport} {db db' : HybridDb} (hresources : (Json.obj report.resourceUse).Distinct)
    (h : writeProgress stamp progressId workerId lease report db = .ok (result, db')) : Repeats report db' := by
  obtain ⟨row, hrow, h⟩ := bind_eq_ok.mp h
  have hid : row.conversionId = report.conversionId := conversionId_of_get? (scopedConversion_eq_ok hrow)
  rw [hid] at h
  cases hlatest : (latestProgress? db report.conversionId).filter fun prior => report.sequence ≤ prior.sequence with
  | some prior =>
    simp only [hlatest] at h
    obtain ⟨_, hsame, hout⟩ := bind_eq_ok.mp h
    cases hout
    obtain ⟨hsequence, hsame⟩ := not_not.mp (raiseIf_eq_ok.mp hsame)
    exact ⟨prior, (Option.filter_eq_some_iff.mp hlatest).1, hsequence.symm, hsame⟩
  | none =>
    simp only [hlatest, bind_eq_ok] at h
    obtain ⟨inserted, hinserted, s, hs, hout⟩ := h
    cases hout
    obtain ⟨_, rfl⟩ := Store.emit_eq_ok hs
    simp only [insertProgress, bind_eq_ok, orRaise_eq_ok] at hinserted
    obtain ⟨_, _, progress, hprogress, hinserted⟩ := hinserted
    cases hinserted
    apply repeats_of_insert hresources _ (Table.insert?_eq_some hprogress).2
    intro prior hprior
    rw [Option.filter_eq_none_iff] at hlatest
    simpa using hlatest prior hprior

theorem within_undisturbed (hresources : (Json.obj report.resourceUse).Distinct) :
    (recordProgress svc draw token report).Within (Undisturbed report before) fun _ => True := by
  have hverify : (verifyWorkerToken svc draw token).Within (Undisturbed report before) fun _ => True := by
    apply within_check
    intro claims _
    exact within_read_any _
  apply hverify.bind
  intro lease _
  apply within_check
  intro _ _
  apply within_check
  intro _ _
  apply (within_read_any _).bind
  intro repeated _
  split
  · exact within_lift _
  · apply (within_ensureOperationStarted offStore_undisturbed lease svc.py).bind
    intro _ _
    apply within_check
    intro normalized _
    apply within_check
    intro workerId _
    apply (within_onStore offStore_undisturbed _).bind
    intro _ _
    apply Method.within_transaction
    intro db result db' _ hwrite
    exact ⟨.inr (writeProgress_repeats hresources hwrite), trivial⟩

/-- A crash leaves a report admissible. -/
theorem ownRules_cut {lease : WorkerCredential} (hresources : (Json.obj report.resourceUse).Distinct)
    (hrules : OwnRules lease report before) (n : Nat) :
    OwnRules lease report ((recordProgress svc draw token report).cut n before) :=
  ownRules_of_undisturbed hrules ((within_undisturbed hresources).cut (.inl ⟨rfl, rfl⟩) n)

/-- An accepted report has been recorded. -/
theorem repeats_of_accepted {act : ReportAct} {db : HybridDb} (h : Accepted svc token act db) (hcrash : act.crash = none) :
    Repeats act.report (reportStep svc token db act) := by
  obtain ⟨db', hrun⟩ := h
  have hstep : reportStep svc token db act = db' := by rw [reportStep, hcrash, hrun]
  rw [hstep]
  simp only [recordProgress, Method.bind_eq, Method.liftM_eq, Method.run_bind_eq_ok, Method.run_done_eq_ok,
    Method.run_read_eq_ok] at hrun
  obtain ⟨_, lease, _, _, _, ⟨rfl, _⟩, _, _, ⟨rfl, hscope⟩, _, repeated, ⟨rfl, haccepts⟩, hrest⟩ := hrun
  cases repeated with
  | true =>
    obtain ⟨rfl, _⟩ := Method.run_done_eq_ok.mp hrest
    obtain ⟨row, hrow, haccepts⟩ := bind_eq_ok.mp haccepts
    obtain ⟨_, _, repeated, hprior, haccepts⟩ := by simpa only [bind_eq_ok] using haccepts
    rw [conversionId_of_get? (scopedConversion_eq_ok hrow)] at hprior
    cases repeated with
    | true => exact checkAgainstPrior_true.mp hprior
    | false =>
      obtain ⟨_, _, haccepts⟩ := bind_eq_ok.mp haccepts
      cases haccepts
  | false =>
    simp only [Bool.false_eq_true, if_false, advanceProgress, Method.bind_eq, Method.liftM_eq, Method.run_bind_eq_ok,
      Method.run_transaction_eq_ok] at hrest
    obtain ⟨_, _, _, _, _, _, _, _, _, _, _, _, hwrite⟩ := hrest
    exact writeProgress_repeats act.resources hwrite

end Crash

section Run
variable (svc : HybridControlService) (token : String) (lease : WorkerCredential)

/-- The worker holds the lease when it reports, and the identifier that the call draws is new. -/
structure Held (db : HybridDb) (act : ReportAct) : Prop where
  holding : Holding svc token act.draw lease db
  fresh : db.progress.get? (act.draw.newId .write) = none

/-- A new report that the rules of `record_progress` admit is one that the checkpoint of the operation follows. -/
def Follows (db : HybridDb) (act : ReportAct) : Prop :=
  act.crash = none → OwnRules lease act.report db → ¬ Repeats act.report db →
    ∀ operation, db.operation? lease.operationId = some operation → Carried svc.py act.report operation

/-- A report is accepted exactly by its own rules, and is then recorded; a crash leaves it admissible. -/
def Faithful (db : HybridDb) (act : ReportAct) : Prop :=
  match act.crash with
  | none => (Accepted svc token act db ↔ OwnRules lease act.report db) ∧
      (Accepted svc token act db → Repeats act.report (reportStep svc token db act))
  | some _ => OwnRules lease act.report db → OwnRules lease act.report (reportStep svc token db act)

/-- A report that is repeated after a crash is accepted, with the effect of a report that has not crashed. -/
def RetriesAccepted (db : HybridDb) (acts : List ReportAct) : Prop :=
  ∀ pre crashed retry post, acts = pre ++ crashed :: retry :: post → crashed.crash ≠ none → retry.crash = none →
    retry.report = crashed.report → OwnRules lease crashed.report (run (reportStep svc token) db pre) →
      Accepted svc token retry (run (reportStep svc token) db (pre ++ [crashed])) ∧
      Repeats retry.report (run (reportStep svc token) db (pre ++ [crashed, retry]))

variable {svc token lease} {db : HybridDb} {acts : List ReportAct}

theorem Held.operation {act : ReportAct} (h : Held svc token lease db act) :
    ∃ operation, db.operation? lease.operationId = some operation := by
  obtain ⟨_, _, _, _, hstart, _⟩ := h.holding.started
  obtain ⟨_, found, hfound, _⟩ := Method.run_bind_eq_ok.mp hstart
  exact ⟨found, find_eq_ok.mp (Method.run_read_eq_ok.mp hfound).2⟩

/-- One step: the report is treated as its rules say exactly when the checkpoint follows. -/
theorem faithful_iff {act : ReportAct} (h : Held svc token lease db act) :
    Faithful svc token lease db act ↔ Follows svc lease db act := by
  obtain ⟨operation, hoperation⟩ := h.operation
  unfold Faithful Follows
  cases hcrash : act.crash with
  | none =>
    have hiff := accepted_iff_ownRules_iff h.holding hoperation h.fresh
    simp only [hoperation, Option.some.injEq, forall_eq', true_implies, ← hiff]
    exact and_iff_left fun haccepted => repeats_of_accepted haccepted hcrash
  | some n =>
    simp only [reduceCtorEq, false_implies, iff_true]
    intro hrules
    have hstep : reportStep svc token db act = (recordProgress svc act.draw token act.report).cut n db := by
      rw [reportStep, hcrash]
    rw [hstep]
    exact ownRules_cut act.resources hrules n

theorem along_faithful_iff (hheld : Along (reportStep svc token) (Held svc token lease) db acts) :
    Along (reportStep svc token) (Faithful svc token lease) db acts ↔
      Along (reportStep svc token) (Follows svc lease) db acts := by
  induction acts generalizing db with
  | nil => exact Iff.rfl
  | cons act acts ih => exact and_congr (faithful_iff hheld.1) (ih hheld.2)

theorem retriesAccepted_of_faithful (h : Along (reportStep svc token) (Faithful svc token lease) db acts) :
    RetriesAccepted svc token lease db acts := by
  intro pre crashed retry post hacts hcrashed hretry hsame hrules
  rw [hacts] at h
  obtain ⟨hfirst, hsecond, _⟩ := h.of_append
  have hcrash : run (reportStep svc token) db (pre ++ [crashed]) =
      reportStep svc token (run (reportStep svc token) db pre) crashed := by rw [run_append]; rfl
  have hafter : run (reportStep svc token) db (pre ++ [crashed, retry]) =
      reportStep svc token (reportStep svc token (run (reportStep svc token) db pre) crashed) retry := by
    rw [run_append]
    rfl
  obtain ⟨n, hn⟩ := Option.ne_none_iff_exists'.mp hcrashed
  simp only [Faithful, hn] at hfirst
  simp only [Faithful, hretry] at hsecond
  have hkept := hfirst hrules
  rw [← hsame] at hkept
  have haccepted := hsecond.1.mpr hkept
  rw [hcrash, hafter]
  exact ⟨haccepted, hsecond.2 haccepted⟩

/-- In a run of reports of the worker that holds the lease, every report is treated as its rules say and every retry
succeeds, exactly when the checkpoint of the operation follows every report that is admitted. -/
theorem reports_treated_by_own_rules_iff (hheld : Along (reportStep svc token) (Held svc token lease) db acts) :
    (Along (reportStep svc token) (Faithful svc token lease) db acts ∧ RetriesAccepted svc token lease db acts) ↔
      Along (reportStep svc token) (Follows svc lease) db acts := by
  rw [← along_faithful_iff hheld]
  exact and_iff_left_of_imp retriesAccepted_of_faithful

end Run

section Sample

def tiles (sequence : Int) (total : Option PyFloat) : ProgressReport where
  conversionId := "v1"
  sequence := sequence
  stage := "meshing"
  completedWorkUnits := .one
  totalWorkUnits := total
  workUnitName := "tiles"

def meshWorker : String := "sip-provider:mesher:v1"

def meshRow : SpatialConversionRow := { admittedRow (meshAdmitted plainDraw) with
  state := .running, candidateRepresentationId := none }

def meshLease : WorkerCredential := leaseOf meshRow
  (issuedClaims sampleControl plainDraw meshRequest "ana" 900 meshCleared meshEstimate "op1" (meshReceiptDocument plainDraw))

/-- The operation after a first report, which was complete. -/
def meshed : OperationRow := { meshOperation with
  state := .running
  attempt := 1
  leaseOwner := some meshWorker
  leaseExpiresAt := some (seconds 60)
  progress := .one
  checkpointJson := progressCheckpoint (tiles 1 (some .one)) }

/-- The plant after a first report. -/
def reported : HybridDb := { plant { Store.empty with operations := ⟨[meshed], List.nodup_singleton _⟩ } .empty .empty
    ⟨[meshRow], List.nodup_singleton _⟩ with
  progress := ⟨[progressRow "r1" (tiles 1 (some .one))], List.nodup_singleton _⟩ }

def reportDraw : HybridDraw := ⟨fun _ => 0, fun _ => "e2", fun _ => "r2"⟩

/-- The next report does not give a total. -/
def untotalled : ReportAct where
  draw := reportDraw
  report := tiles 2 none
  resources := Json.distinct_obj List.nodup_nil fun _ h => nomatch h

theorem held_reported : Held sampleControl (meshAdmitted plainDraw).workerToken meshLease reported untotalled := by
  have hverified : (verifyWorkerToken sampleControl reportDraw (meshAdmitted plainDraw).workerToken).run reported =
      (reported, .ok meshLease) :=
    verifyWorkerToken_issued (Nat.zero_le _) ((Table.get?_eq_some_iff _ _ _).mpr ⟨List.mem_singleton_self _, rfl⟩)
      ⟨.running, none, rfl⟩ (by decide)
  have hworker : meshLease.workload = .ok meshWorker := by
    rw [WorkerCredential.workload, meshLease, leaseOf, get?_issuedClaims _ _ _ _ _ _ _ _ _ (by decide) rfl]
    simp [Json.text?, meshCleared, mesher, plainDraw, orRaise, meshWorker]
  have hfound : reported.operation? meshLease.operationId = some meshed := rfl
  refine ⟨⟨hverified, ⟨meshRow, rfl, by decide⟩, meshWorker, reported.toStore, meshed, hworker, ?_, hfound, by decide, rfl⟩, rfl⟩
  simp only [ensureOperationStarted, Method.bind_eq, Method.liftM_eq, Method.run_bind_eq_ok, Method.run_read_eq_ok,
    Method.run_done_eq_ok]
  exact ⟨_, meshed, ⟨rfl, rfl⟩, _, meshWorker, ⟨rfl, hworker⟩, rfl⟩

/-- A report without a total is refused after one with a total, although its own rules admit it. -/
theorem untotalled_report_refused :
    Held sampleControl (meshAdmitted plainDraw).workerToken meshLease reported untotalled ∧
      OwnRules meshLease untotalled.report reported ∧
      ¬ Accepted sampleControl (meshAdmitted plainDraw).workerToken untotalled reported := by
  have hlatest : latestProgress? reported "v1" = some (progressRow "r1" (tiles 1 (some .one))) := rfl
  have hnew : ¬ Repeats untotalled.report reported := by
    intro h
    obtain ⟨prior, hprior, hsequence, _⟩ := h
    cases hlatest.symm.trans hprior
    exact absurd hsequence (by decide)
  have hrules : OwnRules meshLease untotalled.report reported := by
    refine ⟨by decide, rfl, .inr ⟨?_, ?_, [], rfl, .inl rfl⟩⟩
    · intro prior hprior
      cases hlatest.symm.trans hprior
      decide
    · intro prior hprior _
      cases hlatest.symm.trans hprior
      exact le_refl _
  refine ⟨held_reported, hrules, ?_⟩
  intro haccepted
  have hoperation : reported.operation? meshLease.operationId = some meshed := rfl
  rw [accepted_iff held_reported.holding hoperation held_reported.fresh] at haccepted
  obtain ⟨_, _, hrepeats | ⟨_, hcarried⟩⟩ := haccepted
  · exact hnew hrepeats
  · obtain ⟨fraction, _, hfraction, _, hle, _⟩ := hcarried.fraction
    cases hfraction
    have hprogress : meshed.progress = .one := rfl
    rw [hprogress, PyFloat.value_one, PyFloat.value_zero] at hle
    exact absurd hle (by decide)

theorem reported_treated_iff :
    (Along (reportStep sampleControl (meshAdmitted plainDraw).workerToken)
        (Faithful sampleControl (meshAdmitted plainDraw).workerToken meshLease) reported [untotalled] ∧
      RetriesAccepted sampleControl (meshAdmitted plainDraw).workerToken meshLease reported [untotalled]) ↔
      Along (reportStep sampleControl (meshAdmitted plainDraw).workerToken) (Follows sampleControl meshLease) reported
        [untotalled] :=
  reports_treated_by_own_rules_iff ⟨held_reported, trivial⟩

end Sample

end HybridControl

end Sip
