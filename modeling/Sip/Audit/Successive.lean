import Sip.Transaction

/-!
# Successive audit events

A tenant whose events come at growing times. What decides whether the next one is
accepted is the list of hashes so far, so a run of several transactions can be
followed by computing one hash for each.
-/

namespace Sip

set_option autoImplicit false

/-- All events of the log are of one tenant and before a time, and these are their identifiers and hashes. -/
structure Succession (tenantId : String) (before : Nat) (ids hashes : List String) (log : AuditLog) : Prop where
  ids_eq : log.rows.map (·.auditId) = ids
  hashes_eq : log.rows.map AuditEventRow.eventHash = hashes
  scope : ∀ row ∈ log.rows, row.tenantId = tenantId ∧ row.occurredAt < before
  head : ((latest (ofTenant log tenantId)).map AuditEventRow.eventHash).getD genesisHash = hashes.getLast?.getD genesisHash

namespace Succession
variable {tenantId : String} {before : Nat} {ids hashes : List String} {log : AuditLog}

theorem start (tenantId : String) (before : Nat) : Succession tenantId before [] [] .empty where
  ids_eq := rfl
  hashes_eq := rfl
  scope := fun _ h => absurd h List.not_mem_nil
  head := rfl

/-- The latest event is the one at the greatest time. -/
theorem latest_snoc {rows : List AuditEventRow} {row : AuditEventRow} (h : ∀ r ∈ rows, r.occurredAt < row.occurredAt) :
    latest (rows ++ [row]) = some row := by
  cases hlatest : latest (rows ++ [row]) with
  | none => exact absurd (latest_eq_none hlatest) (by simp)
  | some m =>
    obtain ⟨hmem, hmax⟩ := latest_spec hlatest
    rcases List.mem_append.mp hmem with hm | hm
    · have hle := Prod.Lex.le_iff.mp (hmax row (by simp))
      have hlt := h m hm
      simp only [readingKey, ofLex_toLex] at hle
      omega
    · rw [List.mem_singleton.mp hm]

variable {svc : AuditService} {now : Nat} {auditId hash : String} {req : AuditRequest}

theorem append (h : Succession tenantId before ids hashes log) (hnow : before ≤ now) (htenant : req.tenantId = tenantId)
    (hid : auditId ∉ ids)
    (hhash : canonicalSha256 ((svc.entry .empty now auditId req).body (hashes.getLast?.getD genesisHash)) = hash)
    (hfresh : hash ∉ hashes) :
    ∃ log', svc.append log now auditId req = .ok log' ∧
      Succession tenantId (now + 1) (ids ++ [auditId]) (hashes ++ [hash]) log' := by
  have hevent : (svc.entry log now auditId req).eventHash = hash := by
    rw [AuditService.entry_eventHash, AuditService.entry_previousHash, htenant, h.head, ← hhash]
    rfl
  obtain ⟨log', hlog⟩ := AuditService.append_total (h.ids_eq ▸ hid) (hevent.symm ▸ h.hashes_eq ▸ hfresh)
  obtain ⟨hrows, -⟩ := AuditService.append_eq_ok hlog
  refine ⟨log', hlog, ?_, ?_, ?_, ?_⟩
  · rw [hrows, List.map_append, h.ids_eq]
    rfl
  · rw [hrows, List.map_append, h.hashes_eq, List.map_singleton, hevent]
  · intro row hrow
    rw [hrows, List.mem_append, List.mem_singleton] at hrow
    rcases hrow with hrow | rfl
    · exact ⟨(h.scope row hrow).1, by have := (h.scope row hrow).2; omega⟩
    · exact ⟨htenant, Nat.lt_succ_self now⟩
  · have hown : (svc.entry log now auditId req).tenantId = tenantId := htenant
    rw [ofTenant_of_rows_eq hrows, if_pos hown, latest_snoc]
    · rw [Option.map_some, Option.getD_some, List.getLast?_concat, Option.getD_some, hevent]
    · intro row hrow
      have := (h.scope row (List.mem_of_mem_filter hrow)).2
      exact Nat.lt_of_lt_of_le this hnow

end Succession

/-- The next audit event of a store is written, as long as its hash is new. -/
theorem Store.record_next {svc : AuditService} {s : Store} {tenantId : String} {before : Nat} {ids hashes : List String}
    {hash : String} (stamp : Stamp) (r : AuditRequest) (h : Succession tenantId before ids hashes s.audit)
    (hnow : before ≤ stamp.now) (htenant : r.tenantId = tenantId) (hid : stamp.auditId ∉ ids)
    (hhash : canonicalSha256 ((svc.entry .empty stamp.now stamp.auditId r).body (hashes.getLast?.getD genesisHash)) = hash)
    (hfresh : hash ∉ hashes) :
    ∃ log, s.record svc stamp r = .ok { s with audit := log } ∧
      Succession tenantId (stamp.now + 1) (ids ++ [stamp.auditId]) (hashes ++ [hash]) log := by
  obtain ⟨log, hlog, hnext⟩ := h.append hnow htenant hid hhash hfresh
  exact ⟨log, Store.record_of_append hlog, hnext⟩

end Sip
