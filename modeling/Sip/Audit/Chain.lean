import Sip.Audit.Service
import Sip.Foundation.HashChain
import Sip.Foundation.HashEvaluation

/-!
# What verification accepts

`verify` accepts exactly the chained trails: each row carries the hash of the row
before it, its own hash, and a signature of that hash. A chained trail is a hash
chain, so the head that is reported is the head of that chain.
-/

namespace Sip

set_option autoImplicit false

theorem latest_eq_none {rows : List AuditEventRow} (h : latest rows = none) : rows = [] := head?_sortBy_eq_none h

theorem latest_spec {rows : List AuditEventRow} {m : AuditEventRow} (h : latest rows = some m) :
    m ∈ rows ∧ ∀ r ∈ rows, readingKey r ≤ readingKey m := head?_sortBy_spec h

theorem ofTenant_of_rows_eq {log log' : AuditLog} {row : AuditEventRow} (h : log'.rows = log.rows ++ [row])
    (tenantId : String) :
    ofTenant log' tenantId = ofTenant log tenantId ++ if row.tenantId = tenantId then [row] else [] := by
  simp only [ofTenant, h, List.filter_append, List.filter_singleton, Bool.cond_decide]

/-- The hash of the last row, or the given one if there is none. -/
def headHash (start : String) : List AuditEventRow → String
  | [] => start
  | row :: rows => headHash row.eventHash rows

theorem headHash_append (start : String) (rows : List AuditEventRow) (row : AuditEventRow) :
    headHash start (rows ++ [row]) = row.eventHash := by
  induction rows generalizing start with
  | nil => rfl
  | cons r rows ih => exact ih r.eventHash

namespace AuditService
variable (svc : AuditService)

/-- The row follows the given hash: the three comparisons of `verify`. -/
def Authentic (previousHash : String) (row : AuditEventRow) : Prop :=
  row.previousHash = previousHash ∧ row.eventHash = canonicalSha256 (row.body previousHash) ∧
    b64decode row.signature = some (svc.sign row.eventHash)

def Chained : String → List AuditEventRow → Prop
  | _, [] => True
  | previousHash, row :: rows => svc.Authentic previousHash row ∧ Chained row.eventHash rows

variable {svc}

theorem chained_append {start : String} {as bs : List AuditEventRow} :
    svc.Chained start (as ++ bs) ↔ svc.Chained start as ∧ svc.Chained (headHash start as) bs := by
  induction as generalizing start with
  | nil => simp [Chained, headHash]
  | cons a as ih => simp [Chained, headHash, ih, and_assoc]

theorem verifyRows_cons_eq_ok {previousHash head : String} {index : Nat} {row : AuditEventRow}
    {rows : List AuditEventRow} :
    svc.verifyRows previousHash index (row :: rows) = .ok head ↔
      svc.Authentic previousHash row ∧ svc.verifyRows row.eventHash (index + 1) rows = .ok head := by
  simp only [verifyRows, bind_eq_ok, orRaise_eq_ok, raiseIf_eq_ok, exists_const, not_or, not_not, Authentic]
  constructor
  · intro h
    obtain ⟨signature, hsig, ⟨hprev, hhash, hval⟩, hrest⟩ := h
    exact ⟨⟨hprev, hhash, by rw [hsig, hval, hhash]⟩, hrest⟩
  · intro h
    obtain ⟨⟨hprev, hhash, hsig⟩, hrest⟩ := h
    exact ⟨_, hsig, ⟨hprev, hhash, by rw [hhash]⟩, hrest⟩

theorem verifyRows_of_previousHash_ne {previousHash : String} {index : Nat} {row : AuditEventRow}
    {rows : List AuditEventRow} {signature : Bytes} (hsig : b64decode row.signature = some signature)
    (hprev : row.previousHash ≠ previousHash) :
    svc.verifyRows previousHash index (row :: rows) =
      .error (validationError "AUDIT_CHAIN_INVALID" "audit chain verification failed"
        [("index", .int index), ("audit_id", .str row.auditId)]) := by
  simp only [verifyRows, bind_eq_error, orRaise_eq_ok, raiseIf_eq_error]
  exact .inr ⟨signature, hsig, .inl ⟨.inl hprev, trivial⟩⟩

theorem verify_eq_error {log : AuditLog} {tenantId : String} {e : Raised}
    (h : svc.verifyRows genesisHash 0 (trail log tenantId) = .error e) : svc.verify log tenantId = .error e := by
  simp only [verify, bind_eq_error]
  exact .inl h

theorem verifyRows_eq_ok {previousHash head : String} {index : Nat} {rows : List AuditEventRow} :
    svc.verifyRows previousHash index rows = .ok head ↔
      svc.Chained previousHash rows ∧ headHash previousHash rows = head := by
  induction rows generalizing previousHash index with
  | nil => simp [verifyRows, Chained, headHash]
  | cons row rows ih => simp [verifyRows_cons_eq_ok, ih, Chained, headHash, and_assoc]

theorem verify_eq_ok {log : AuditLog} {tenantId : String} {report : Report} :
    svc.verify log tenantId = .ok report ↔
      svc.Chained genesisHash (trail log tenantId) ∧
        report = ⟨tenantId, (trail log tenantId).length, true, headHash genesisHash (trail log tenantId)⟩ := by
  simp only [verify, bind_eq_ok, verifyRows_eq_ok]
  constructor
  · rintro ⟨head, ⟨hchain, rfl⟩, h⟩
    cases h
    exact ⟨hchain, rfl⟩
  · rintro ⟨hchain, rfl⟩
    exact ⟨_, ⟨hchain, rfl⟩, rfl⟩

/-- The bytes hashed for a row. -/
def canonicalBody (previousHash : String) (row : AuditEventRow) : Bytes :=
  canonicalJson (row.body previousHash)

def digest (body : Bytes) : String := hex (sha256 body)

theorem headHash_eq_head {start : String} {rows : List AuditEventRow} (h : svc.Chained start rows) :
    headHash start rows = HashChain.head canonicalBody digest start rows := by
  induction rows generalizing start with
  | nil => rfl
  | cons row rows ih =>
    obtain ⟨⟨_, hhash, _⟩, hrest⟩ := h
    simp only [headHash, HashChain.head]
    rw [ih hrest, hhash]
    rfl

section Append
variable {log log' : AuditLog} {now : Nat} {auditId : String} {req : AuditRequest}

theorem entry_previousHash : (svc.entry log now auditId req).previousHash =
    ((latest (ofTenant log req.tenantId)).map AuditEventRow.eventHash).getD genesisHash := by
  simp only [entry]
  cases latest (ofTenant log req.tenantId) <;> rfl

theorem entry_eventHash : (svc.entry log now auditId req).eventHash =
    canonicalSha256 ((svc.entry log now auditId req).body (svc.entry log now auditId req).previousHash) := rfl

/-- A row that `append` writes follows the hash it looked up. -/
theorem authentic_entry : svc.Authentic (svc.entry log now auditId req).previousHash (svc.entry log now auditId req) :=
  ⟨rfl, rfl, b64decode_b64encode _⟩

theorem append_eq_ok (h : svc.append log now auditId req = .ok log') :
    log'.rows = log.rows ++ [svc.entry log now auditId req] ∧
      (svc.entry log now auditId req).eventHash ∉ log.rows.map AuditEventRow.eventHash := by
  simp only [append, bind_eq_ok, raiseIf_eq_ok, exists_const, orRaise_eq_ok] at h
  exact ⟨(Table.insert?_eq_some h.2).2, h.1⟩

/-- An append can only fail on the two unique columns. -/
theorem append_total (hid : auditId ∉ log.rows.map (·.auditId))
    (hhash : (svc.entry log now auditId req).eventHash ∉ log.rows.map AuditEventRow.eventHash) :
    ∃ log', svc.append log now auditId req = .ok log' := by
  have hfresh : log.get? (svc.entry log now auditId req).auditId = none :=
    (Table.get?_eq_none_iff log _).mpr hid
  obtain ⟨log', hins⟩ := Table.insert?_isSome hfresh
  refine ⟨log', ?_⟩
  simp only [append, bind_eq_ok, raiseIf_eq_ok, exists_const, orRaise_eq_ok]
  exact ⟨hhash, hins⟩

theorem append_empty (svc : AuditService) (now : Nat) (auditId : String) (req : AuditRequest) :
    ∃ log, svc.append .empty now auditId req = .ok log := append_total List.not_mem_nil List.not_mem_nil

/-- A second event of the tenant is accepted unless its hash is that of the first. -/
theorem append_second {now' : Nat} {auditId' hash : String} {req' : AuditRequest}
    (hlog : svc.append .empty now auditId req = .ok log) (hid : auditId' ≠ auditId)
    (htenant : req'.tenantId = req.tenantId) (hhash : (svc.entry .empty now auditId req).eventHash = hash)
    (hne : canonicalSha256 ((svc.entry .empty now' auditId' req').body hash) ≠ hash) :
    ∃ log', svc.append log now' auditId' req' = .ok log' := by
  have hrows : log.rows = [svc.entry .empty now auditId req] := (append_eq_ok hlog).1
  have hlatest : latest (ofTenant log req'.tenantId) = some (svc.entry .empty now auditId req) := by
    have hsame : ofTenant log req'.tenantId = [svc.entry .empty now auditId req] := by
      rw [ofTenant, hrows, htenant, List.filter_eq_self]
      intro row hrow
      rw [List.mem_singleton.mp hrow]
      exact decide_eq_true rfl
    rw [hsame]
    rfl
  have hevent : (svc.entry log now' auditId' req').eventHash =
      canonicalSha256 ((svc.entry .empty now' auditId' req').body hash) := by
    simp only [entry, hlatest]
    rw [← hhash]
    rfl
  apply append_total
  · rw [hrows, List.map_singleton, List.mem_singleton]
    exact hid
  · rw [hevent, hrows, List.map_singleton, List.mem_singleton, hhash]
    exact hne

end Append

end AuditService

end Sip
