import Sip.Lifecycle.QuotaConcurrency

/-!
# What is left of a refused admission

A refusal is entered into the audit log in the session of the call, and then raised out
of the session. The session is rolled back when an exception leaves it, so the entry is
never committed.
-/

namespace Sip
namespace AdmissionController

set_option autoImplicit false

section Session
variable {σ α : Type}

/-- `Database.session()`: what the body has written is committed when it returns, and rolled back when it raises. -/
def session (body : σ → σ × Except Raised α) (db : σ) : σ × Except Raised α :=
  match body db with
  | (written, .ok a) => (written, .ok a)
  | (_, .error e) => (db, .error e)

theorem session_error {body : σ → σ × Except Raised α} {db : σ} {e : Raised} (h : (session body db).2 = .error e) :
    (session body db).1 = db ∧ (body db).2 = .error e := by
  unfold session at h ⊢
  split at h
  · cases h
  · cases h
    rename_i hbody
    rw [hbody]
    exact ⟨rfl, rfl⟩

theorem session_of_error {body : σ → σ × Except Raised α} {db : σ} {e : Raised} (h : (body db).2 = .error e) :
    session body db = (db, .error e) := by
  unfold session
  generalize body db = ended at h
  obtain ⟨written, outcome⟩ := ended
  cases h
  rfl

end Session

section Calls
variable (ctl : AdmissionController) (svc : AuditService)

/-- The body of the transaction: the session when it ends, and the outcome. -/
def admission (draw : UsageDraw) (req : UsageRequest) (db : QuotaDb) : QuotaDb × Except Raised UsageAdmission :=
  match ctl.verdict db draw.now req with
  | .error e => (db, .error e)
  | .ok (.exceeded quota current) =>
    let (store, e) := refuse svc db.toStore draw quota current req
    ({ db with toStore := store }, .error e)
  | .ok (.admitted quota current total) =>
    match ctl.recordUsage db draw draw.now req with
    | .ok db => (db, .ok (ctl.admissionResult draw req quota current total))
    | .error e => (db, .error e)

/-- `admit_and_record`: the database after the call, and the outcome. -/
def admitCall (draw : UsageDraw) (req : UsageRequest) (db : QuotaDb) : QuotaDb × Except Raised UsageAdmission :=
  match checkUsage req with
  | .error e => (db, .error e)
  | .ok _ => session (ctl.admission svc draw req) db

/-- The audit entry of a refused call. -/
structure IsDenial (draw : UsageDraw) (req : UsageRequest) (event : AuditEventRow) : Prop where
  auditId : event.auditId = draw.auditId
  tenantId : event.tenantId = req.tenantId
  action : event.action = "quota:admit"
  outcome : event.outcome = "denied"

/-- The ledger is as it was and the log has the entry of the refusal. -/
structure DenialRecorded (draw : UsageDraw) (req : UsageRequest) (before after : QuotaDb) : Prop where
  ledger : after.ledger = before.ledger
  event : ∃ event ∈ after.audit.rows, IsDenial draw req event

end Calls

section Refused
variable {ctl : AdmissionController} {svc : AuditService} {db : QuotaDb} {draw : UsageDraw} {req : UsageRequest} {e : Raised}

/-- The two forms of a call agree. -/
theorem admitAndRecord_eq : ctl.admitAndRecord svc db draw req =
    (ctl.admitCall svc draw req db).2.map fun result => (result, (ctl.admitCall svc draw req db).1) := by
  unfold admitAndRecord admitCall admitUsage session admission
  generalize checkUsage req = checked
  cases checked with
  | error e => rfl
  | ok _ =>
    generalize ctl.verdict db draw.now req = found
    cases found with
    | error e => rfl
    | ok found =>
      cases found with
      | exceeded quota current => rfl
      | admitted quota current total =>
        dsimp only [bind, Except.bind, pure, Except.pure]
        generalize ctl.recordUsage db draw draw.now req = recorded
        cases recorded with
        | error e => rfl
        | ok db' => rfl

theorem admitCall_of_checked (h : checkUsage req = .ok ()) :
    ctl.admitCall svc draw req db = session (ctl.admission svc draw req) db := by
  unfold admitCall
  generalize checkUsage req = checked at h ⊢
  cases h
  rfl

/-- An entry that cannot be appended is refused by the database, without a code of the platform. -/
theorem record_error {store : Store} {stamp : Stamp} {r : AuditRequest} (h : store.record svc stamp r = .error e) :
    e.code? = none := by
  simp only [Store.record, AuditService.append, bind_eq_error, raiseIf_eq_error, orRaise_eq_error] at h
  rcases h with (⟨_, rfl⟩ | ⟨_, _, _, rfl⟩) | ⟨_, _, h⟩
  · rfl
  · rfl
  · cases h

/-- A refusal by the limit has entered its audit entry into the session, under an identifier that is new. -/
theorem refuse_hardLimit {quota : QuotaPolicyRow} {current : Option PyFloat} {store : Store}
    (h : (refuse svc store draw quota current req).2.code? = some "QUOTA_HARD_LIMIT") :
    (∃ event ∈ (refuse svc store draw quota current req).1.audit.rows, IsDenial draw req event) ∧
      ∀ event ∈ store.audit.rows, event.auditId ≠ draw.auditId := by
  cases current with
  | none => cases h
  | some current =>
    rw [refuse] at h ⊢
    cases hrecord : store.record svc draw.toStamp (deniedAudit quota current req) with
    | error e =>
      rw [hrecord] at h
      have hcode := record_error hrecord
      rw [hcode] at h
      cases h
    | ok store' =>
      simp only [Store.record, bind_eq_ok] at hrecord
      obtain ⟨log, hlog, hstore⟩ := hrecord
      cases hstore
      have hrows := (AuditService.append_eq_ok hlog).1
      have hnew : draw.auditId ∉ store.audit.rows.map (·.auditId) := by
        have hnodup := log.nodup
        rw [hrows, List.map_append, List.map_singleton] at hnodup
        exact fun hmem => List.disjoint_of_nodup_append hnodup hmem (List.mem_singleton_self _)
      constructor
      · refine ⟨svc.entry store.audit draw.now draw.auditId (deniedAudit quota current req), ?_, rfl, rfl, rfl, rfl⟩
        dsimp only
        rw [hrows]
        exact List.mem_append_right _ (List.mem_singleton_self _)
      · intro event hevent hid
        exact hnew (hid ▸ List.mem_map_of_mem hevent)

theorem checkUsage_error (h : checkUsage req = .error e) : e.code? = some "USAGE_RECORD_INVALID" := by
  rw [checkUsage, raiseIf_eq_error] at h
  rw [← h.2]
  rfl

theorem verdict_error (h : ctl.verdict db draw.now req = .error e) : e.code? = some "QUOTA_UNIT_MISMATCH" := by
  unfold verdict at h
  split at h
  · cases h
  · rw [bind_eq_error, raiseIf_eq_error] at h
    rcases h with ⟨_, rfl⟩ | ⟨_, _, h⟩
    · rfl
    · split at h
      · cases h
      · cases h

theorem recordUsage_error (h : ctl.recordUsage db draw draw.now req = .error e) : e.code? = none := by
  simp only [recordUsage, bind_eq_error, orRaise_eq_error] at h
  rcases h with ⟨_, rfl⟩ | ⟨_, _, h⟩
  · rfl
  · cases h

/-- The session of a call that the limit refuses has the entry, and the database has no entry under its identifier. -/
theorem admission_hardLimit (h : (ctl.admission svc draw req db).2 = .error e) (hcode : e.code? = some "QUOTA_HARD_LIMIT") :
    (∃ event ∈ (ctl.admission svc draw req db).1.audit.rows, IsDenial draw req event) ∧
      ∀ event ∈ db.audit.rows, event.auditId ≠ draw.auditId := by
  cases hverdict : ctl.verdict db draw.now req with
  | error e' =>
    rw [admission, hverdict] at h
    cases h
    rw [verdict_error hverdict] at hcode
    exact absurd hcode (by decide)
  | ok found =>
    cases found with
    | exceeded quota current =>
      rw [admission, hverdict] at h ⊢
      cases h
      exact refuse_hardLimit hcode
    | admitted quota current total =>
      cases hrecord : ctl.recordUsage db draw draw.now req with
      | error e' =>
        rw [admission, hverdict] at h
        dsimp only at h
        rw [hrecord] at h
        cases h
        rw [recordUsage_error hrecord] at hcode
        cases hcode
      | ok db' =>
        rw [admission, hverdict] at h
        dsimp only at h
        rw [hrecord] at h
        cases h

end Refused

/-- The entry of a refused call is in its session and never in the log. -/
theorem denial_rolled_back (ctl : AdmissionController) (svc : AuditService) (draw : UsageDraw) (req : UsageRequest)
    (db : QuotaDb) (e : Raised) (h : (ctl.admitCall svc draw req db).2 = .error e) (hcode : e.code? = some "QUOTA_HARD_LIMIT") :
    (∃ event ∈ (ctl.admission svc draw req db).1.audit.rows, IsDenial draw req event) ∧
      ¬ DenialRecorded draw req db (ctl.admitCall svc draw req db).1 := by
  unfold admitCall at h ⊢
  generalize hcheck : checkUsage req = checked at h ⊢
  cases checked with
  | error e' =>
    cases h
    rw [checkUsage_error hcheck] at hcode
    exact absurd hcode (by decide)
  | ok _ =>
    obtain ⟨hback, hbody⟩ := session_error h
    obtain ⟨hentry, hnew⟩ := admission_hardLimit hbody hcode
    refine ⟨hentry, ?_⟩
    rintro ⟨_, event, hevent, hdenial⟩
    dsimp only at hevent
    rw [hback] at hevent
    exact hnew event hevent hdenial.auditId

section Sample

/-- A request for twice the quota. -/
def twoHours : UsageRequest := { gpuHour 0 with quantity := twoUnits }

theorem verdict_twoHours : wholeNumbers.verdict unusedQuota 0 twoHours = .ok (.exceeded oneUnit (some .zero)) := by
  have hquota : wholeNumbers.quota? unusedQuota twoHours.scope = some oneUnit := rfl
  have hcurrent : wholeNumbers.totalUsage (usageSince oneUnit 0 (usage unusedQuota twoHours.scope)) = some .zero := by
    decide
  have htotal : wholeNumbers.projected (some .zero) twoHours = some twoUnits := by decide +kernel
  have hlimit : oneUnit.hardLimit.value < twoUnits.value := by
    have hone : oneUnit.hardLimit = .one := rfl
    rw [hone, PyFloat.value_one, value_twoUnits]
    decide
  simp only [verdict, hquota, hcurrent, htotal, bind_eq_ok, raiseIf_eq_ok, if_pos hlimit]
  exact ⟨(), not_not.mpr rfl, rfl⟩

def twoHoursRefusal : Raised :=
  conflictError "QUOTA_HARD_LIMIT" "operation exceeds the configured hard quota" (limitDetails oneUnit .zero twoHours)

/-- The limit refuses the request. -/
theorem admitCall_twoHours :
    wholeNumbers.admitCall .zeroKey (drawOf "u1") twoHours unusedQuota = (unusedQuota, .error twoHoursRefusal) := by
  obtain ⟨log, hlog⟩ := @Store.record_of_empty .zeroKey unusedQuota.toStore (drawOf "u1").toStamp
    (deniedAudit oneUnit .zero twoHours) rfl
  have hcheck : checkUsage twoHours = .ok () := eq_ok_of_isOk (by decide)
  have hbody : (wholeNumbers.admission .zeroKey (drawOf "u1") twoHours unusedQuota).2 = .error twoHoursRefusal := by
    have hnow : (drawOf "u1").now = 0 := rfl
    rw [admission, hnow, verdict_twoHours]
    dsimp only
    rw [refuse, hlog, twoHoursRefusal]
  rw [admitCall_of_checked hcheck, session_of_error hbody]

theorem twoHours_rolled_back :
    (∃ event ∈ (wholeNumbers.admission .zeroKey (drawOf "u1") twoHours unusedQuota).1.audit.rows,
      IsDenial (drawOf "u1") twoHours event) ∧
    ¬ DenialRecorded (drawOf "u1") twoHours unusedQuota
      (wholeNumbers.admitCall .zeroKey (drawOf "u1") twoHours unusedQuota).1 :=
  denial_rolled_back wholeNumbers .zeroKey (drawOf "u1") twoHours unusedQuota twoHoursRefusal
    (by rw [admitCall_twoHours]) rfl

/-- After the refusal the log is empty. -/
theorem denial_not_in_log : ∃ e, (wholeNumbers.admitCall .zeroKey (drawOf "u1") twoHours unusedQuota).2 = .error e ∧
    e.code? = some "QUOTA_HARD_LIMIT" ∧ ¬ DenialRecorded (drawOf "u1") twoHours unusedQuota
      (wholeNumbers.admitCall .zeroKey (drawOf "u1") twoHours unusedQuota).1 := by
  refine ⟨twoHoursRefusal, by rw [admitCall_twoHours], rfl, ?_⟩
  rw [admitCall_twoHours]
  rintro ⟨_, event, hevent, _⟩
  exact absurd hevent List.not_mem_nil

end Sample

end AdmissionController
end Sip
