import Sip.Hybrid.Consent
import Sip.Hybrid.Manual

/-!
# Conversions that have ended

Once a conversion has been cancelled, has failed for good or has been published, no call
is meant to bring it back. The calls of workers are refused by their token, and the
others do not write a conversion that exists. Only the two calls of the manual path set
its state without looking at it.
-/

namespace Sip

set_option autoImplicit false

/-- The calls that act on conversions. -/
inductive HybridCall where
  | createConversion (request : ConversionRequest) (actorId : String) (traceparent : Option String) (ttlSeconds : Int)
  | recordProgress (token : String) (report : ProgressReport)
  | reportProviderFailure (token : String) (report : FailureReport)
  | renewWorkerLease (token : String) (ttlSeconds : Int)
  | completeCandidate (token : String) (report : CandidateReport)
  | cancelConversion (conversionId tenantId projectId actorId : String)
  | createManualExport (conversionId tenantId projectId : String) (approvedIds : List String) (actorId : String)
  | recordManualReturn (transferId tenantId projectId code : String) (receipt : ManualReceipt)
      (outputs : List TransferredAsset) (actorId : String)

/-- A call and what it draws. -/
structure HybridAct where
  draw : HybridDraw
  call : HybridCall

namespace HybridControl

/-- `cancelled`, `rejected`, `published`, `failed_terminal`, `cleanup_quarantined`, or a requested cancellation. -/
def endedStates : List ConversionState :=
  [.cancelRequested, .cancelled, .rejected, .published, .failedTerminal, .cleanupQuarantined]

def activeStates : List ConversionState :=
  [.admitted, .running, .manualExported, .returnedPendingValidation, .quarantined, .validated]

/-- The conversion is in one of the states. -/
def ConversionIn (states : List ConversionState) (conversionId : String) (db : HybridDb) : Prop :=
  ∃ row, db.conversions.get? conversionId = some row ∧ row.state ∈ states

section Run
variable (svc : HybridControlService)

/-- The method that a call runs; what it returns does not matter here. -/
def callMethod (draw : HybridDraw) : HybridCall → HybridMethod Unit
  | .createConversion request actorId traceparent ttlSeconds =>
    (createConversion svc draw request actorId traceparent ttlSeconds).bind fun _ => .done (.ok ())
  | .recordProgress token report => (recordProgress svc draw token report).bind fun _ => .done (.ok ())
  | .reportProviderFailure token report => (reportProviderFailure svc draw token report).bind fun _ => .done (.ok ())
  | .renewWorkerLease token ttlSeconds => (renewWorkerLease svc draw token ttlSeconds).bind fun _ => .done (.ok ())
  | .completeCandidate token report => (completeCandidate svc draw token report).bind fun _ => .done (.ok ())
  | .cancelConversion conversionId tenantId projectId actorId =>
    (cancelConversion svc draw conversionId tenantId projectId actorId).bind fun _ => .done (.ok ())
  | .createManualExport conversionId tenantId projectId approvedIds actorId =>
    (createManualExport svc draw conversionId tenantId projectId approvedIds actorId).bind fun _ => .done (.ok ())
  | .recordManualReturn transferId tenantId projectId code receipt outputs actorId =>
    (recordManualReturn svc draw transferId tenantId projectId code receipt outputs actorId).bind fun _ => .done (.ok ())

def hybridStep (db : HybridDb) (act : HybridAct) : HybridDb := ((callMethod svc act.draw act.call).run db).1

/-- A call of the manual path is not one for a conversion that has ended, unless its checks refuse it. -/
def SparesEnded (db : HybridDb) (act : HybridAct) : Prop :=
  match act.call with
  | .createManualExport conversionId tenantId projectId approvedIds _ => ∀ row assets,
    db.conversions.get? conversionId = some row → row.state ∈ endedStates →
      outboundAssets svc row tenantId projectId approvedIds db ≠ .ok assets
  | .recordManualReturn transferId tenantId projectId code receipt outputs _ => ∀ transfer row records,
    db.transfers.get? transferId = some transfer → transfer.state = "exported" →
      returnedOutputs transfer tenantId projectId code receipt outputs db = .ok (row, records) → row.state ∉ endedStates
  | _ => True

end Run

section Frames
variable {α : Type} {I : HybridDb → Prop} {Q : α → Prop}

/-- A property of the table of conversions. -/
def OnConversions (I : HybridDb → Prop) : Prop := ∀ db db' : HybridDb, db'.conversions = db.conversions → I db → I db'

theorem onConversions_conversionIn (states : List ConversionState) (conversionId : String) :
    OnConversions (ConversionIn states conversionId) := by
  intro db db' hsame h
  obtain ⟨row, hrow, hstate⟩ := h
  exact ⟨row, by rw [hsame]; exact hrow, hstate⟩

/-- A property of the tables outside the store of operations, events and audit entries. -/
def OffStore (I : HybridDb → Prop) : Prop := ∀ (db : HybridDb) (s : Store), I db → I { db with toStore := s }

theorem OnConversions.offStore (hI : OnConversions I) : OffStore I := by
  intro db s hdb
  exact hI db _ rfl hdb

/-- A transaction that leaves the conversions alone. -/
theorem within_frame (hI : OnConversions I) {stage : HybridStage} {t : HybridDb → Except Raised (α × HybridDb)}
    (h : ∀ db a db', t db = .ok (a, db') → db'.conversions = db.conversions) :
    (Method.transaction stage t : HybridMethod α).Within I fun _ => True := by
  apply Method.within_transaction
  intro db a db' hdb ht
  exact ⟨hI db db' (h db a db' ht) hdb, trivial⟩

theorem within_onStore (hI : OffStore I) {stage : HybridStage} (t : Store → Except Raised (Store × α)) :
    (Method.transaction stage (onStore t) : HybridMethod α).Within I fun _ => True := by
  apply Method.within_transaction
  intro db a db' hdb ht
  obtain ⟨s, -, rfl⟩ := onStore_eq_ok ht
  exact ⟨hI db s hdb, trivial⟩

theorem within_read_any {stage : HybridStage} (t : HybridDb → Except Raised α) :
    (Method.read stage t : HybridMethod α).Within I fun _ => True :=
  Method.within_read fun _ _ _ _ => trivial

theorem within_lift (x : Except Raised α) : (Method.done x : HybridMethod α).Within I fun _ => True :=
  Method.within_done fun _ _ => trivial

/-- A check before the rest of a method. -/
theorem within_check {β : Type} {R : β → Prop} {x : Except Raised α} {f : α → HybridMethod β}
    (h : ∀ a, x = .ok a → (f a).Within I R) : ((Method.done x : HybridMethod α).bind f).Within I R :=
  (Method.within_done fun _ hx => hx).bind h

theorem createCandidate_conversions {svc : AuditService} {py : PyText} {db db' : RepresentationDb}
    {stamp : RepresentationStamp} {req : CandidateRequest} {representationId : String}
    (h : RepresentationService.createCandidate svc py db stamp req = .ok (representationId, db')) :
    db'.conversions = db.conversions ∧ db'.operations = db.operations := by
  simp only [RepresentationService.createCandidate, bind_eq_ok] at h
  obtain ⟨_, _, _, _, ⟨policy, refs⟩, _, _, _, _, _, h⟩ := h
  split at h
  · obtain ⟨_, _, heq⟩ := bind_eq_ok.mp h
    cases heq
    exact ⟨rfl, rfl⟩
  · obtain ⟨after, hinsert, heq⟩ := bind_eq_ok.mp h
    cases heq
    simp only [RepresentationService.insertCandidate, bind_eq_ok] at hinsert
    obtain ⟨representations, _, s, hs, s', hs', hdb⟩ := hinsert
    cases hdb
    obtain ⟨_, rfl⟩ := Store.emit_eq_ok hs
    obtain ⟨_, rfl⟩ := Store.record_eq_ok hs'
    exact ⟨rfl, rfl⟩

theorem attachWorkerReceipt_conversions {svc : AuditService} {db db' : RepresentationDb} {stamp : Stamp}
    {req : RepresentationService.ReceiptRequest}
    (h : RepresentationService.attachWorkerReceipt svc db stamp req = .ok db') :
    db'.conversions = db.conversions ∧ db'.operations = db.operations := by
  simp only [RepresentationService.attachWorkerReceipt, bind_eq_ok] at h
  obtain ⟨_, _, _, _, _, _, s, hs, hdb⟩ := h
  cases hdb
  obtain ⟨_, rfl⟩ := Store.record_eq_ok hs
  exact ⟨rfl, rfl⟩

end Frames

section Writes
variable {db db' : HybridDb} {states : List ConversionState} {conversionId : String} {row old : SpatialConversionRow}

theorem conversionIn_of_set_other (h : ConversionIn states conversionId db) (hother : row.conversionId ≠ conversionId)
    (hset : db'.conversions = db.conversions.set row) : ConversionIn states conversionId db' := by
  obtain ⟨found, hfound, hstate⟩ := h
  refine ⟨found, ?_, hstate⟩
  rw [hset, Table.get?_set_of_ne _ (Ne.symm hother)]
  exact hfound

theorem conversionIn_of_set (hold : db.conversions.get? row.conversionId = some old) (hstate : row.state ∈ states)
    (hset : db'.conversions = db.conversions.set row) : ConversionIn states row.conversionId db' := by
  refine ⟨row, ?_, hstate⟩
  rw [hset]
  exact Table.get?_set_self _ hold

theorem conversionId_of_get? (h : db.conversions.get? conversionId = some row) : row.conversionId = conversionId :=
  ((Table.get?_eq_some_iff _ _ _).mp h).2

end Writes

section Workers
variable {svc : HybridControlService} {draw : HybridDraw} {I : HybridDb → Prop} {states : List ConversionState}
  {conversionId : String}

/-- A token is accepted for an ended conversion only if the call allows its state. -/
theorem within_verifyWorkerToken (token : String) {allowed : List ConversionState}
    (hstates : ∀ state ∈ states, state ∈ inactiveStates ∧ state ∉ allowed) :
    (verifyWorkerToken svc draw token allowed).Within (ConversionIn states conversionId)
      fun lease => lease.conversionId ≠ conversionId := by
  apply within_check
  intro claims _
  apply Method.within_read
  intro db lease hdb hlease heq
  obtain ⟨row, hrow, hstate⟩ := hdb
  obtain ⟨found, hfound, -, hallowed⟩ := durableLease_eq_ok hlease
  rw [heq, hrow] at hfound
  cases hfound
  exact (hstates _ hstate).2 (hallowed (hstates _ hstate).1)

theorem within_startOperation (hI : OffStore I) (lease : WorkerCredential) (py : PyNumbers) (workerId : String)
    (operation : OperationRow) : (startOperation draw lease py workerId operation).Within I fun _ => True := by
  unfold startOperation
  cases operation.state with
  | pending | failed =>
    apply (within_lift _).bind
    intro leaseSeconds _
    apply (within_onStore hI _).bind
    intro _ _
    apply (within_onStore hI _).bind
    intro _ _
    exact within_lift _
  | leased | running => exact within_lift _
  | succeeded => exact within_lift _
  | cancelRequested | cancelled | quarantined => exact within_lift _

theorem within_ensureOperationStarted (hI : OffStore I) (lease : WorkerCredential) (py : PyNumbers) :
    (ensureOperationStarted draw lease py).Within I fun _ => True := by
  apply (within_read_any _).bind
  intro operation _
  apply within_check
  intro workerId _
  exact within_startOperation hI lease py workerId operation

theorem within_advanceProgress {lease : WorkerCredential} {report : ProgressReport}
    (hother : report.conversionId ≠ conversionId) :
    (advanceProgress svc draw lease report).Within (ConversionIn states conversionId) fun _ => True := by
  have hI := onConversions_conversionIn states conversionId
  apply (within_ensureOperationStarted hI.offStore lease svc.py).bind
  intro _ _
  apply within_check
  intro normalized _
  apply within_check
  intro workerId _
  apply (within_onStore hI.offStore _).bind
  intro _ _
  apply Method.within_transaction
  intro db result db' hdb hwrite
  obtain ⟨-, row, hrow, hsame | hset⟩ := writeProgress_eq_ok hwrite
  · exact ⟨hI db db' hsame hdb, trivial⟩
  · have hid := conversionId_of_get? hrow
    exact ⟨conversionIn_of_set_other hdb (hid ▸ hother) hset, trivial⟩

theorem within_recordProgress (token : String) (report : ProgressReport) (hstates : ∀ state ∈ states, state ∈ inactiveStates) :
    (recordProgress svc draw token report).Within (ConversionIn states conversionId) fun _ => True := by
  apply (within_verifyWorkerToken token fun state h => ⟨hstates state h, List.not_mem_nil⟩).bind
  intro lease hlease
  apply within_check
  intro _ _
  apply (Method.within_done fun _ h => raiseIf_eq_ok.mp h).bind
  intro _ hsame
  apply (within_read_any _).bind
  intro repeated _
  split
  · exact within_lift _
  · exact within_advanceProgress (not_not.mp hsame ▸ hlease)

theorem within_submitCandidate {lease : WorkerCredential} {report : CandidateReport} (privacy provenance : Dict)
    (dependencies : List String) (hother : lease.conversionId ≠ conversionId) :
    (submitCandidate svc draw lease report privacy provenance dependencies).Within (ConversionIn states conversionId)
      fun _ => True := by
  have hI := onConversions_conversionIn states conversionId
  apply within_check
  intro workerId _
  have hcreate : (Method.transaction .createCandidate (onRepresentations fun db =>
      RepresentationService.createCandidate svc.audit svc.py.toPyText db
        ⟨draw.stamp .createCandidate, draw.newId .createCandidate⟩
        (workerCandidate lease report workerId privacy provenance dependencies)) : HybridMethod String).Within
      (ConversionIn states conversionId) fun _ => True := by
    apply within_frame hI
    intro db a db' ht
    obtain ⟨r, hr, rfl⟩ := onRepresentations_eq_ok ht
    exact (createCandidate_conversions hr).1
  apply hcreate.bind
  intro representationId _
  have hattach : (Method.transaction .attachReceipt (onRepresentations fun db => do
      let db ← RepresentationService.attachWorkerReceipt svc.audit db (draw.stamp .attachReceipt)
        (workerReceipt lease report workerId)
      return ((), db)) : HybridMethod Unit).Within (ConversionIn states conversionId) fun _ => True := by
    apply within_frame hI
    intro db a db' ht
    obtain ⟨r, hr, rfl⟩ := onRepresentations_eq_ok ht
    obtain ⟨r', hr', heq⟩ := bind_eq_ok.mp hr
    cases heq
    exact (attachWorkerReceipt_conversions hr').1
  apply hattach.bind
  intro _ _
  apply (within_ensureOperationStarted hI.offStore lease svc.py).bind
  intro _ _
  apply within_check
  intro digest _
  apply (within_onStore hI.offStore _).bind
  intro _ _
  apply Method.within_transaction
  intro db result db' hdb hwrite
  obtain ⟨-, row, hrow, hset⟩ := writeCandidate_eq_ok hwrite
  have hid := conversionId_of_get? hrow
  exact ⟨conversionIn_of_set_other hdb (hid ▸ hother) hset, trivial⟩

theorem within_completeCandidate (token : String) (report : CandidateReport)
    (hstates : ∀ state ∈ states, state ∈ inactiveStates) :
    (completeCandidate svc draw token report).Within (ConversionIn states conversionId) fun _ => True := by
  apply (within_verifyWorkerToken token fun state h => ⟨hstates state h, List.not_mem_nil⟩).bind
  intro lease hlease
  apply within_check
  intro _ _
  apply within_check
  intro _ _
  apply within_check
  intro _ _
  apply (within_read_any _).bind
  intro check _
  cases check with
  | replay result => exact within_lift _
  | accepted privacy provenance dependencies => exact within_submitCandidate privacy provenance dependencies hlease

theorem acceptsFailure_eq_ok {lease : WorkerCredential} {report : FailureReport} {db : HybridDb} {preserved : List String}
    (h : acceptsFailure lease report db = .ok (.inr preserved)) :
    ∃ row, db.conversions.get? lease.conversionId = some row ∧ row.state ∈ [.admitted, .running] := by
  obtain ⟨row, hrow, h⟩ := bind_eq_ok.mp h
  refine ⟨row, scopedConversion_eq_ok hrow, ?_⟩
  split at h
  · obtain ⟨_, _, hout⟩ := bind_eq_ok.mp h
    cases hout
  · obtain ⟨_, hstate, _⟩ := bind_eq_ok.mp h
    exact not_not.mp (raiseIf_eq_ok.mp hstate)

theorem within_retainFailure {lease : WorkerCredential} {report : FailureReport} (preserved : List String)
    (hother : lease.conversionId ≠ conversionId) :
    (retainFailure svc draw lease report preserved).Within (ConversionIn states conversionId) fun _ => True := by
  have hI := onConversions_conversionIn states conversionId
  apply (within_ensureOperationStarted hI.offStore lease svc.py).bind
  intro _ _
  apply within_check
  intro workerId _
  apply (within_onStore hI.offStore _).bind
  intro _ _
  apply Method.within_transaction
  intro db result db' hdb hwrite
  obtain ⟨row, -, hrow, -, hset, -⟩ := writeFailure_eq_ok hwrite
  have hid := conversionId_of_get? hrow
  exact ⟨conversionIn_of_set_other hdb (hid ▸ hother) hset, trivial⟩

/-- A failure of an ended conversion has been reported before, or it is refused. -/
theorem within_reportProviderFailure (token : String) (report : FailureReport)
    (hstates : ∀ state ∈ states, state ∉ [.admitted, .running]) :
    (reportProviderFailure svc draw token report).Within (ConversionIn states conversionId) fun _ => True := by
  have hI := onConversions_conversionIn states conversionId
  apply within_check
  intro report' _
  have hverify : (verifyWorkerToken svc draw token failedStates).Within (ConversionIn states conversionId)
      fun _ => True := by
    apply within_check
    intro claims _
    exact within_read_any _
  apply hverify.bind
  intro lease _
  have hcheck : (Method.read .check (acceptsFailure lease report') : HybridMethod _).Within
      (ConversionIn states conversionId) fun check => ∀ preserved, check = .inr preserved →
        lease.conversionId ≠ conversionId := by
    apply Method.within_read
    intro db check hdb haccepts preserved hinr heq
    rw [hinr] at haccepts
    obtain ⟨row, hrow, hstate⟩ := acceptsFailure_eq_ok haccepts
    obtain ⟨found, hfound, hended⟩ := hdb
    rw [heq, hfound] at hrow
    cases hrow
    exact hstates _ hended hstate
  apply hcheck.bind
  intro check hother
  cases check with
  | inl result => exact within_lift _
  | inr preserved => exact within_retainFailure preserved (hother preserved rfl)

theorem within_reauthorize (lease : WorkerCredential) (r : Renewable) :
    (reauthorize svc draw lease r).Within I fun _ => True := by
  apply within_check
  intro region _
  apply within_check
  intro value _
  apply (within_read_any _).bind
  intro _ _
  apply (within_read_any _).bind
  intro consentReceipts _
  apply (within_read_any _).bind
  intro modelReceipts _
  exact within_lift _

theorem within_renewOperation (hI : OnConversions I) (r : Renewable) (workerId : String) (leaseSeconds : Int)
    (operation : OperationRow) : (renewOperation draw r workerId leaseSeconds operation).Within I fun _ => True := by
  unfold renewOperation
  cases operation.state with
  | leased | running =>
    apply within_check
    intro _ _
    apply (within_onStore hI.offStore _).bind
    intro _ _
    exact within_lift _
  | pending => exact within_lift _
  | succeeded | failed | cancelRequested | cancelled | quarantined => exact within_lift _

theorem within_rotateCredential {lease : WorkerCredential} (r : Renewable) (ttlSeconds : Int)
    (hother : lease.conversionId ≠ conversionId) :
    (rotateCredential svc draw lease r ttlSeconds).Within (ConversionIn states conversionId) fun _ => True := by
  have hI := onConversions_conversionIn states conversionId
  apply (within_reauthorize lease r).bind
  intro receipts _
  apply within_check
  intro next _
  apply (within_read_any _).bind
  intro operation _
  apply within_check
  intro workerId _
  apply (within_renewOperation hI r workerId _ operation).bind
  intro _ _
  apply Method.within_transaction
  intro db result db' hdb hwrite
  obtain ⟨row, hrow, -, hset, -⟩ := writeRenewal_eq_ok hwrite
  have hid := conversionId_of_get? hrow
  exact ⟨conversionIn_of_set_other hdb (hid ▸ hother) hset, trivial⟩

theorem within_renewWorkerLease (token : String) (ttlSeconds : Int)
    (hstates : ∀ state ∈ states, state ∈ inactiveStates ∧ state ∉ [ConversionState.failedRetryable]) :
    (renewWorkerLease svc draw token ttlSeconds).Within (ConversionIn states conversionId) fun _ => True := by
  apply within_check
  intro _ _
  apply (within_verifyWorkerToken token hstates).bind
  intro lease hlease
  apply (within_read_any _).bind
  intro r _
  exact within_rotateCredential r ttlSeconds hlease

end Workers

section Others
variable {svc : HybridControlService} {draw : HybridDraw} {I : HybridDb → Prop} {states : List ConversionState}
  {conversionId : String}

theorem within_clear (req : ConversionRequest) : (clear svc draw req).Within I fun _ => True := by
  apply (within_read_any _).bind
  intro sources _
  apply within_check
  intro selection _
  apply (within_read_any _).bind
  intro selected _
  apply within_check
  intro _ _
  apply (within_read_any _).bind
  intro _ _
  apply within_check
  intro execution _
  apply (within_read_any _).bind
  intro _ _
  apply (within_read_any _).bind
  intro consentReceipts _
  apply (within_read_any _).bind
  intro modelReceipts _
  exact within_lift _

theorem within_admitUsage (hI : OnConversions I) (req : ConversionRequest) (operationId actorId providerId : String)
    (inputBytes : Nat) : (admitUsage svc draw req operationId actorId providerId inputBytes).Within I fun _ => True := by
  apply within_check
  intro usage _
  apply within_frame hI
  intro db a db' ht
  obtain ⟨q, -, rfl⟩ := onQuotas_eq_ok ht
  rfl

theorem within_recordPreAdmissionRejection (hI : OnConversions I) (req : ConversionRequest) (actorId : String) (error : Raised) :
    (recordPreAdmissionRejection svc draw req actorId error).Within I fun _ => True := by
  apply within_frame hI
  intro db a db' ht
  simp only [bind_eq_ok] at ht
  obtain ⟨s, -, s', -, hdb⟩ := ht
  cases hdb
  rfl

theorem within_markOperationRejected (hI : OnConversions I) (operationId : String) (error : Raised) :
    (markOperationRejected svc draw operationId error).Within I fun _ => True := by
  apply within_frame hI
  intro db a db' ht
  split at ht
  · cases ht
    rfl
  · simp only [bind_eq_ok] at ht
    obtain ⟨s, -, s', -, hdb⟩ := ht
    cases hdb
    rfl

/-- A new conversion has an identifier of its own. -/
theorem within_writeAdmission (admitted : Admitted) :
    (Method.transaction .admission (writeAdmission svc (draw.stamp .admission) admitted) : HybridMethod ConversionResult).Within
      (ConversionIn states conversionId) fun _ => True := by
  apply Method.within_transaction
  intro db result db' hdb hwrite
  obtain ⟨row, hrow, hstate⟩ := hdb
  obtain ⟨-, hinsert, -⟩ := writeAdmission_eq_ok hwrite
  have hnew : conversionId ≠ (admittedRow admitted).conversionId := by
    intro heq
    have hfresh := (Table.insert?_eq_some hinsert).1
    rw [← heq, hrow] at hfresh
    cases hfresh
  refine ⟨⟨row, ?_, hstate⟩, trivial⟩
  rw [Table.get?_insert hinsert, if_neg hnew]
  exact hrow

theorem within_createConversion (request : ConversionRequest) (actorId : String) (traceparent : Option String)
    (ttlSeconds : Int) : (createConversion svc draw request actorId traceparent ttlSeconds).Within
      (ConversionIn states conversionId) fun _ => True := by
  have hI := onConversions_conversionIn states conversionId
  apply within_check
  intro req _
  apply (within_read_any _).bind
  intro prior _
  cases prior with
  | some prior => exact within_lift _
  | none =>
    apply ((within_clear req).rescue fun e => within_recordPreAdmissionRejection hI req actorId e).bind
    intro cleared _
    apply within_check
    intro maxAttempts _
    refine Method.Within.bind (Method.within_perform (fun db hdb => hI db _ rfl hdb) fun _ _ _ _ => trivial) ?_
    intro operation _
    apply within_check
    intro estimate _
    apply ((within_admitUsage hI req _ actorId _ _).rescue fun e => within_markOperationRejected hI _ e).bind
    intro receipt _
    apply within_check
    intro admitted _
    exact within_writeAdmission admitted

/-- A cancellation leaves the state that it asks for. -/
theorem within_cancelConversion (other tenantId projectId actorId : String)
    (hstates : .cancelRequested ∈ states ∧ .cancelled ∈ states) :
    (cancelConversion svc draw other tenantId projectId actorId).Within (ConversionIn states conversionId)
      fun _ => True := by
  have hI := onConversions_conversionIn states conversionId
  apply (within_read_any _).bind
  intro check _
  cases check with
  | inl row => exact within_lift _
  | inr operationId =>
    apply (within_onStore hI.offStore _).bind
    intro operation _
    apply Method.within_transaction
    intro db result db' hdb hwrite
    obtain ⟨row, hrow, hresult, hset, -⟩ := writeCancellation_eq_ok hwrite
    have hid : result.row.conversionId = other := by
      have hrowId := conversionId_of_get? hrow
      rw [hresult]
      exact hrowId
    refine ⟨?_, trivial⟩
    by_cases heq : other = conversionId
    · rw [← heq, ← hid]
      refine conversionIn_of_set (hid ▸ hrow) ?_ hset
      rw [hresult]
      simp only [cancelledState]
      split
      · exact hstates.1
      · exact hstates.2
    · exact conversionIn_of_set_other hdb (hid ▸ heq) hset

end Others

section Endings
variable (svc : HybridControlService)

theorem ended_after_call {db : HybridDb} {act : HybridAct} (hspares : SparesEnded svc db act) {conversionId : String}
    (h : ConversionIn endedStates conversionId db) : ConversionIn endedStates conversionId (hybridStep svc db act) := by
  obtain ⟨draw, call⟩ := act
  have hinactive : ∀ state ∈ endedStates, state ∈ inactiveStates ∧ state ∉ [ConversionState.failedRetryable] := by decide
  have hdone : ∀ {α : Type} {x : HybridMethod α}, x.Within (ConversionIn endedStates conversionId) (fun _ => True) →
      ConversionIn endedStates conversionId ((x.bind fun _ => .done (.ok ())).run db).1 := by
    intro α x hx
    rw [Method.run_void]
    exact hx.run h
  cases call with
  | createConversion request actorId traceparent ttlSeconds =>
    exact hdone (within_createConversion request actorId traceparent ttlSeconds)
  | recordProgress token report => exact hdone (within_recordProgress token report fun s hs => (hinactive s hs).1)
  | reportProviderFailure token report => exact hdone (within_reportProviderFailure token report (by decide))
  | renewWorkerLease token ttlSeconds => exact hdone (within_renewWorkerLease token ttlSeconds hinactive)
  | completeCandidate token report => exact hdone (within_completeCandidate token report fun s hs => (hinactive s hs).1)
  | cancelConversion other tenantId projectId actorId =>
    exact hdone (within_cancelConversion other tenantId projectId actorId (by decide))
  | createManualExport other tenantId projectId approvedIds actorId =>
    show ConversionIn endedStates conversionId ((Method.bind _ _).run db).1
    rw [Method.run_void]
    apply Method.run_transaction_state _ h
    intro result db' hwrite
    obtain ⟨row, assets, hrow, hassets, hset, -⟩ := writeExport_eq_ok hwrite
    have hid := conversionId_of_get? hrow
    by_cases heq : other = conversionId
    · subst heq
      obtain ⟨found, hfound, hended⟩ := h
      rw [hrow] at hfound
      cases hfound
      exact absurd hassets (hspares row assets hrow hended)
    · exact conversionIn_of_set_other h (hid ▸ heq) hset
  | recordManualReturn transferId tenantId projectId code receipt outputs actorId =>
    show ConversionIn endedStates conversionId ((Method.bind _ _).run db).1
    rw [Method.run_void, recordManualReturn, Method.bind_eq, Method.liftM_eq]
    cases checkReceipt receipt with
    | error e => exact h
    | ok checked =>
      apply Method.run_transaction_state _ h
      intro result db' hwrite
      obtain ⟨-, hsame | ⟨transfer, row, records, htransfer, hexported, hrecords, hset⟩⟩ := writeReturn_eq_ok hwrite
      · exact onConversions_conversionIn _ _ db db' hsame h
      · have hrow := returnedOutputs_eq_ok hrecords
        have hid := conversionId_of_get? hrow
        have hlive := hspares transfer row records htransfer hexported hrecords
        apply conversionIn_of_set_other h _ hset
        rintro rfl
        obtain ⟨found, hfound, hended⟩ := h
        simp only at hid hfound
        rw [hid, hrow] at hfound
        cases hfound
        exact hlive hended

/-- In a run whose manual calls spare the conversions that have ended, an ended conversion never becomes active again. -/
theorem ended_stays_ended (db : HybridDb) {acts : List HybridAct}
    (hacts : Along (hybridStep svc) (SparesEnded svc) db acts) (conversionId : String) {before later : List HybridAct}
    (hbefore : before <+: later) (hlater : later <+: acts)
    (hended : ConversionIn endedStates conversionId (run (hybridStep svc) db before)) :
    ConversionIn endedStates conversionId (run (hybridStep svc) db later) ∧
      ¬ ConversionIn activeStates conversionId (run (hybridStep svc) db later) := by
  obtain ⟨between, rfl⟩ := hbefore
  have halong := (hacts.of_prefix hlater).of_append
  have hstays : ConversionIn endedStates conversionId (run (hybridStep svc) db (before ++ between)) := by
    rw [run_append]
    exact run_invariant_along (fun db act hspares h => ended_after_call svc hspares h) hended halong
  refine ⟨hstays, ?_⟩
  rintro ⟨row, hrow, hactive⟩
  obtain ⟨found, hfound, hstate⟩ := hstays
  rw [hrow] at hfound
  cases hfound
  have hdisjoint : ∀ state ∈ endedStates, state ∉ activeStates := by decide
  exact hdisjoint _ hstate hactive

end Endings

section Sample

/-- A provider that works by hand outside. -/
def studio : ProviderManifestRow where
  providerId := "studio"
  version := "1"
  providerClass := "manual_external"
  sourceRevision := "r1"
  executionModesJson := ["manual_external"]
  manifestHash := zeroDigest

/-- A derivative that may leave. -/
def draftAsset : AssetRefRow where
  assetId := "draft"
  tenantId := "t1"
  projectId := "p1"
  sha256 := zeroDigest
  originalName := "draft.glb"
  classification := "internal"
  retentionClass := "standard"
  sourceClass := "generated"
  authorityClass := "derived_non_authoritative"
  provenanceJson := []
  createdBy := "ana"

def cancelledConversion : SpatialConversionRow where
  conversionId := "v1"
  operationId := "op1"
  tenantId := "t1"
  projectId := "p1"
  sceneId := "s1"
  sceneRevisionId := "c1"
  purpose := "inspection"
  intendedUsesJson := ["walk"]
  outputRolesJson := ["visual_mesh"]
  sourceAssetsJson := [⟨"draft", zeroDigest, "draft", "world", none, "internal", "generated", "derived_non_authoritative",
    false, 1⟩]
  referenceAssetsJson := []
  constraintsJson := []
  policyContextJson := [("allow_external_transfer", .bool true)]
  providerSelectorJson := []
  providerId := "studio"
  providerVersion := "1"
  providerManifestHash := zeroDigest
  promotionId := "promotion"
  requestHash := zeroDigest
  admissionState := "allowed"
  admissionDecisionJson := [("classification", .str "internal")]
  admissionDecisionHash := zeroDigest
  resourceEstimateJson := []
  credentialClaimsJson := []
  state := .cancelled
  idempotencyKey := "k1"
  requestedBy := "ana"

def cancelledDb : HybridDb := { HybridDb.empty with
  refs := ⟨[draftAsset], List.nodup_singleton _⟩
  providers := ⟨[studio], List.nodup_singleton _⟩
  conversions := ⟨[cancelledConversion], List.nodup_singleton _⟩ }

theorem cancelledDb_ended : ConversionIn endedStates "v1" cancelledDb := ⟨cancelledConversion, rfl, by decide⟩

def cancelAgain : HybridAct := ⟨plainDraw, .cancelConversion "v1" "t1" "p1" "ana"⟩

theorem cancelled_stays_ended :
    ConversionIn endedStates "v1" (run (hybridStep sampleControl) cancelledDb [cancelAgain]) ∧
      ¬ ConversionIn activeStates "v1" (run (hybridStep sampleControl) cancelledDb [cancelAgain]) := by
  have halong : Along (hybridStep sampleControl) (SparesEnded sampleControl) cancelledDb [cancelAgain] := ⟨trivial, trivial⟩
  exact ended_stays_ended sampleControl cancelledDb halong "v1" List.nil_prefix List.prefix_rfl cancelledDb_ended

def draftExport : HybridAct := ⟨plainDraw, .createManualExport "v1" "t1" "p1" ["draft"] "ana"⟩

theorem validatePayload_export {transfer : ManualProviderTransferRow} {manifest : Json}
    (hmanifest : transfer.outboundManifestHash = canonicalSha256 manifest) (hid : transfer.transferId.toList.length ≤ 64)
    (hconversion : transfer.conversionId.toList.length ≤ 64) (hcount : transfer.outboundAssets.length < 2 ^ 63) :
    validatePayload (exportPayload transfer) = .ok () := by
  have hkeys : (exportPayload transfer).map Prod.fst = ["transfer_id", "conversion_id", "outbound_manifest_hash",
      "asset_count"] := rfl
  apply validatePayload_brief hkeys rfl (by decide)
  intro p hp
  simp only [exportPayload, exportDetails, List.cons_append, List.nil_append, List.mem_cons, List.not_mem_nil, or_false] at hp
  rcases hp with rfl | rfl | rfl | rfl
  · exact brief_str hid
  · exact brief_str hconversion
  · rw [hmanifest]
    exact brief_sha256 manifest
  · exact brief_int (by simpa using hcount)

/-- A cancelled conversion is exported, and then it is active again. -/
theorem cancelled_conversion_exported : ConversionIn endedStates "v1" cancelledDb ∧
    ConversionIn activeStates "v1" (run (hybridStep sampleControl) cancelledDb [draftExport]) := by
  refine ⟨cancelledDb_ended, ?_⟩
  let assets : List TransferredAsset := [⟨"draft", zeroDigest, "draft"⟩]
  let transfer := transferRow cancelledConversion "v1" "v1" "ana" "t1" "p1" assets
  have hassets : outboundAssets sampleControl cancelledConversion "t1" "p1" ["draft"] cancelledDb = .ok assets := rfl
  have hpayload : validatePayload (exportPayload transfer) = .ok () :=
    @validatePayload_export transfer _ rfl (by decide) (by decide) (by decide)
  obtain ⟨event, hevent⟩ := cancelledDb.toStore.emit_total (plainDraw.stamp .write)
    (r := transferEvent transfer "representation.manual_exported" (exportPayload transfer) "ana") rfl rfl rfl hpayload
  obtain ⟨log, hlog⟩ := Store.record_of_empty sampleControl.audit (plainDraw.stamp .write)
    (transferAudit transfer "ana" "hybrid_manual:export" (exportDetails transfer))
    (rfl : ({ cancelledDb.toStore with outbox := cancelledDb.outbox ++ [event] } : Store).audit = .empty)
  obtain ⟨transfers, htransfers⟩ : ∃ transfers, cancelledDb.transfers.insert? transfer = some transfers := ⟨_, rfl⟩
  obtain ⟨result, db', hwrite, hset⟩ : ∃ result db', writeExport sampleControl (plainDraw.stamp .write) "v1" "v1" "v1" "t1" "p1"
      "ana" ["draft"] cancelledDb = .ok (result, db') ∧
        db'.conversions = cancelledDb.conversions.set { cancelledConversion with state := .manualExported } := by
    simp only [writeExport, bind_eq_ok, orRaise_eq_ok]
    exact ⟨_, _, ⟨cancelledConversion, rfl, assets, hassets, transfers, htransfers, _, hevent, _, hlog, rfl⟩, rfl⟩
  have hstep : hybridStep sampleControl cancelledDb draftExport = db' := by
    have hrun := Method.run_transaction_of_ok HybridStage.write hwrite
    rw [hybridStep]
    show ((Method.bind _ _).run cancelledDb).1 = db'
    rw [Method.run_void]
    exact congrArg Prod.fst hrun
  rw [run_cons, hstep, run_nil]
  exact @conversionIn_of_set cancelledDb db' activeStates { cancelledConversion with state := .manualExported }
    cancelledConversion rfl (by decide) hset

end Sample

end HybridControl

end Sip
