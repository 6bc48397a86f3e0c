import Sip.Audit.Chain
import Sip.Events

/-!
# Events and audit entries inside a transaction

Services publish an outbox event and append an audit entry in the transaction that
changes their rows; a refusal of either rolls the whole transaction back.
-/

namespace Sip

set_option autoImplicit false

/-- The clock reading and the identifier of the audit entry that a transaction draws. -/
structure Stamp where
  now : Nat
  auditId : String

namespace Store

/-- `session.add(self.events.create(session, ..))`. -/
def emit (s : Store) (stamp : Stamp) (r : EventRequest) : Except Raised Store := do
  let event ← createEvent s stamp.now r
  return { s with outbox := s.outbox ++ [event] }

/-- `self.audit.append(.., session=session)`. -/
def record (svc : AuditService) (s : Store) (stamp : Stamp) (r : AuditRequest) : Except Raised Store := do
  let audit ← svc.append s.audit stamp.now stamp.auditId r
  return { s with audit }

/-- A registered event with an acceptable payload can be published in every store. -/
theorem emit_total (s : Store) (stamp : Stamp) {r : EventRequest} {entry : EventCatalogEntry}
    (hentry : getEvent r.eventType r.schemaVersion = .ok entry) (howner : r.producer = entry.owner)
    (haggregate : entry.aggregate = r.aggregateType) (hpayload : validatePayload r.payload = .ok ()) :
    ∃ event, s.emit stamp r = .ok { s with outbox := s.outbox ++ [event] } := by
  simp only [emit, createEvent, bind_eq_ok, raiseIf_eq_ok]
  exact ⟨_, _, ⟨entry, hentry, (), not_not.mpr howner, (), not_not.mpr haggregate, (), hpayload, rfl⟩, rfl⟩

theorem emit_eq_ok {s s' : Store} {stamp : Stamp} {r : EventRequest} (h : s.emit stamp r = .ok s') :
    ∃ outbox, s' = { s with outbox } := by
  simp only [emit, bind_eq_ok] at h
  obtain ⟨event, _, hs⟩ := h
  cases hs
  exact ⟨_, rfl⟩

theorem record_eq_ok {svc : AuditService} {s s' : Store} {stamp : Stamp} {r : AuditRequest}
    (h : s.record svc stamp r = .ok s') : ∃ audit, s' = { s with audit } := by
  simp only [record, bind_eq_ok] at h
  obtain ⟨audit, _, hs⟩ := h
  cases hs
  exact ⟨audit, rfl⟩

theorem record_of_append {svc : AuditService} {s : Store} {stamp : Stamp} {r : AuditRequest} {log : AuditLog}
    (h : svc.append s.audit stamp.now stamp.auditId r = .ok log) : s.record svc stamp r = .ok { s with audit := log } := by
  simp only [record, h, bind, Except.bind, pure, Except.pure]

theorem record_of_empty (svc : AuditService) {s : Store} (stamp : Stamp) (r : AuditRequest) (h : s.audit = .empty) :
    ∃ log, s.record svc stamp r = .ok { s with audit := log } := by
  obtain ⟨log, hlog⟩ := AuditService.append_empty svc stamp.now stamp.auditId r
  rw [← h] at hlog
  exact ⟨log, record_of_append hlog⟩

end Store

end Sip
