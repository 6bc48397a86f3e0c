import Sip.Audit.Commitment
import Sip.Foundation.PlainDigests

/-!
# When the reading order is the chaining order

`append` and `verify` sort by `(occurred_at, audit_id)`. With a clock that does not
go back, the sorted trail is the order of the calls exactly when calls that read the
same instant drew increasing identifiers, and only then does `verify` accept it.
The event hashes are unique, so a row cannot follow two others: this is all that is
needed of the hash function.
-/

namespace Sip.AuditService

set_option autoImplicit false

variable (svc : AuditService)

/-- Rows that were appended one after another, in list order. -/
inductive Built : List AuditEventRow → Prop
  | nil : Built []
  | snoc {rows : List AuditEventRow} {row : AuditEventRow} (h : Built rows)
      (hprev : row.previousHash = ((latest rows).map AuditEventRow.eventHash).getD genesisHash)
      (hrow : svc.Authentic row.previousHash row) : Built (rows ++ [row])

variable {svc}

/-- The rows stand in reading order. -/
def InOrder (rows : List AuditEventRow) : Prop := rows.Pairwise fun a b => readingKey a ≤ readingKey b

theorem readingKeys_nodup {rows : List AuditEventRow} (hids : (rows.map (·.auditId)).Nodup) :
    (rows.map readingKey).Nodup := by
  have hmap : rows.map (·.auditId) = (rows.map readingKey).map fun key => (ofLex key).2 := by
    rw [List.map_map]
    rfl
  rw [hmap] at hids
  exact hids.of_map _

theorem headHash_of_getLast? {start : String} {rows : List AuditEventRow} {m : AuditEventRow}
    (h : rows.getLast? = some m) : headHash start rows = m.eventHash := by
  obtain ⟨rows, rfl⟩ := List.getLast?_eq_some_iff.mp h
  exact headHash_append start rows m

theorem Built.chained {rows : List AuditEventRow} (h : svc.Built rows) (hids : (rows.map (·.auditId)).Nodup)
    (hsorted : InOrder rows) : svc.Chained genesisHash rows := by
  induction h with
  | nil => trivial
  | @snoc rows row h hprev hrow ih =>
    have hids' : (rows.map (·.auditId)).Nodup := by
      rw [List.map_append] at hids
      exact hids.of_append_left
    have hsorted' := (List.pairwise_append.mp hsorted).1
    refine chained_append.mpr ⟨ih hids' hsorted', ?_, trivial⟩
    have hhead : headHash genesisHash rows = row.previousHash := by
      cases hlatest : latest rows with
      | none =>
        rw [hprev, hlatest, latest_eq_none hlatest]
        rfl
      | some m =>
        obtain ⟨hm, hmax⟩ := latest_spec hlatest
        rw [hprev, hlatest, headHash_of_getLast? (getLast?_of_greatest (readingKeys_nodup hids') hsorted' hm hmax)]
        rfl
    rw [hhead]
    exact hrow

theorem Built.first {rows : List AuditEventRow} (h : svc.Built rows) (hne : rows ≠ []) :
    ∃ f ∈ rows, f.previousHash = genesisHash := by
  induction h with
  | nil => exact absurd rfl hne
  | @snoc rows row h hprev hrow ih =>
    by_cases hrows : rows = []
    · refine ⟨row, by simp, ?_⟩
      rw [hprev, hrows]
      rfl
    · obtain ⟨f, hf, hgenesis⟩ := ih hrows
      exact ⟨f, List.mem_append_left _ hf, hgenesis⟩

/-- No row follows the last one, so a row that carries the last row's hash as its
previous hash can only stand first. -/
theorem first_of_follows_last {start : String} {as bs : List AuditEventRow} {b m : AuditEventRow}
    (hchain : svc.Chained start (as ++ b :: bs)) (hlast : (as ++ b :: bs).getLast? = some m)
    (hhash : ((as ++ b :: bs).map AuditEventRow.eventHash).Nodup) (hb : b.previousHash = m.eventHash) :
    as = [] := by
  rcases List.eq_nil_or_concat as with rfl | ⟨as, p, rfl⟩
  · rfl
  · simp only [List.concat_eq_append] at *
    have hbprev : b.previousHash = p.eventHash := by
      have := (chained_append.mp hchain).2.1.1
      rwa [headHash_append] at this
    have hm : m ∈ b :: bs := by
      rw [List.getLast?_append] at hlast
      cases hbs : (b :: bs).getLast? with
      | none => simp at hbs
      | some x =>
        rw [hbs] at hlast
        cases hlast
        exact List.mem_of_getLast? hbs
    rw [List.map_append, List.nodup_append] at hhash
    have hne := hhash.2.2 p.eventHash (by simp) m.eventHash (List.mem_map_of_mem hm)
    exact absurd (hbprev.symm.trans hb) hne

/-- A trail that verifies was appended in sorted order: the newest row is above the
others, or else the row it follows would be followed twice. -/
theorem Built.above {rows : List AuditEventRow} {k : AuditEventRow} (h : svc.Built rows)
    (hprev : k.previousHash = ((latest rows).map AuditEventRow.eventHash).getD genesisHash)
    (hids : ((rows ++ [k]).map (·.auditId)).Nodup)
    (hhash : ((rows ++ [k]).map AuditEventRow.eventHash).Nodup)
    (hchain : svc.Chained genesisHash (sortBy readingKey (rows ++ [k]))) :
    ∀ r ∈ rows, readingKey r ≤ readingKey k := by
  intro r hr
  by_contra hrk
  obtain ⟨m, hlatest⟩ : ∃ m, latest rows = some m := by
    cases hl : latest rows with
    | none =>
      rw [latest_eq_none hl] at hr
      cases hr
    | some m => exact ⟨m, rfl⟩
  obtain ⟨hm, hmax⟩ := latest_spec hlatest
  have hkm : readingKey k ≤ readingKey m := (not_le.mp hrk).le.trans (hmax r hr)
  generalize hsort : sortBy readingKey (rows ++ [k]) = sorted at hchain
  have hperm : sorted.Perm (rows ++ [k]) := hsort ▸ perm_sortBy _ _
  have hids' : (sorted.map (·.auditId)).Nodup := (hperm.map _).nodup_iff.mpr hids
  have hhash' : (sorted.map AuditEventRow.eventHash).Nodup := (hperm.map _).nodup_iff.mpr hhash
  have hlast : sorted.getLast? = some m := by
    apply getLast?_of_greatest (readingKeys_nodup hids') (hsort ▸ pairwise_sortBy _ _)
    · exact hperm.symm.subset (List.mem_append_left _ hm)
    · intro x hx
      rcases List.mem_append.mp (hperm.subset hx) with hx | hx
      · exact hmax x hx
      · rw [List.mem_singleton.mp hx]
        exact hkm
  have follows : ∀ b ∈ sorted, b.previousHash = m.eventHash → sorted.head? = some b := by
    intro b hb hbm
    obtain ⟨as, bs, rfl⟩ := List.append_of_mem hb
    rw [first_of_follows_last hchain hlast hhash' hbm]
    rfl
  have hk : sorted.head? = some k := by
    apply follows k (hperm.symm.subset (by simp))
    rw [hprev, hlatest]
    rfl
  have hgenesis : m.eventHash = genesisHash := by
    obtain ⟨rest, rfl⟩ := List.head?_eq_some_iff.mp hk
    rw [← hchain.1.1, hprev, hlatest]
    rfl
  obtain ⟨f, hf, hfirst⟩ := h.first (List.ne_nil_of_mem hr)
  have hfk := follows f (hperm.symm.subset (List.mem_append_left _ hf)) (hfirst.trans hgenesis.symm)
  rw [hk] at hfk
  cases hfk
  rw [List.map_append, List.nodup_append] at hids
  exact hids.2.2 k.auditId (List.mem_map_of_mem hf) k.auditId (by simp) rfl

theorem Built.sorted {rows : List AuditEventRow} (h : svc.Built rows) (hids : (rows.map (·.auditId)).Nodup)
    (hhash : (rows.map AuditEventRow.eventHash).Nodup)
    (hchain : svc.Chained genesisHash (sortBy readingKey rows)) : InOrder rows := by
  induction h with
  | nil => exact .nil
  | @snoc rows k h hprev hrow ih =>
    have habove := h.above hprev hids hhash hchain
    rw [sortBy_append_greatest (readingKeys_nodup hids) habove] at hchain
    rw [List.map_append] at hids hhash
    refine List.pairwise_append.mpr ⟨?_, by simp, ?_⟩
    · exact ih hids.of_append_left hhash.of_append_left (chained_append.mp hchain).1
    · intro r hr b hb
      rw [List.mem_singleton.mp hb]
      exact habove r hr

theorem verify_iff_sorted {log : AuditLog} {tenantId : String} (h : svc.Built (ofTenant log tenantId))
    (hhash : (log.rows.map AuditEventRow.eventHash).Nodup) :
    (∃ report, svc.verify log tenantId = .ok report ∧ report.events = (ofTenant log tenantId).length) ↔
      InOrder (ofTenant log tenantId) := by
  have hsub : (ofTenant log tenantId).Sublist log.rows := List.filter_sublist
  have hids := (hsub.map (·.auditId)).nodup log.nodup
  simp only [verify_eq_ok, trail]
  constructor
  · intro h
    obtain ⟨report, ⟨hchain, _⟩, _⟩ := h
    exact h.sorted hids ((hsub.map _).nodup hhash) hchain
  · intro hsorted
    rw [sortBy_of_pairwise hsorted]
    exact ⟨_, ⟨h.chained hids hsorted, rfl⟩, rfl⟩

section Calls

/-- One call of `append`, with the clock value and the identifier it draws. -/
structure AuditCall where
  now : Nat
  auditId : String
  request : AuditRequest

def AuditCall.stamp (call : AuditCall) : String × Nat × String := (call.request.tenantId, call.now, call.auditId)

def stamp (row : AuditEventRow) : String × Nat × String := (row.tenantId, row.occurredAt, row.auditId)

def appendAll (svc : AuditService) : AuditLog → List AuditCall → Except Raised AuditLog
  | log, [] => .ok log
  | log, call :: calls => do
    let log ← svc.append log call.now call.auditId call.request
    appendAll svc log calls

theorem appendAll_snoc {log log' : AuditLog} {calls : List AuditCall} {call : AuditCall} :
    svc.appendAll log (calls ++ [call]) = .ok log' ↔
      ∃ mid, svc.appendAll log calls = .ok mid ∧ svc.append mid call.now call.auditId call.request = .ok log' := by
  induction calls generalizing log with
  | nil => simp [appendAll, bind_eq_ok]
  | cons c calls ih =>
    simp only [List.cons_append, appendAll, bind_eq_ok, ih]
    constructor
    · rintro ⟨l, hl, mid, hmid, h⟩
      exact ⟨mid, ⟨l, hl, hmid⟩, h⟩
    · rintro ⟨mid, ⟨l, hl, hmid⟩, h⟩
      exact ⟨l, hl, mid, hmid, h⟩

/-- What a sequence of calls leaves in the table. -/
structure Written (svc : AuditService) (calls : List AuditCall) (log : AuditLog) : Prop where
  built : ∀ tenantId, svc.Built (ofTenant log tenantId)
  hashes : (log.rows.map AuditEventRow.eventHash).Nodup
  authentic : ∀ row ∈ log.rows, svc.Authentic row.previousHash row
  stamps : log.rows.map stamp = calls.map AuditCall.stamp

theorem Written.append {calls : List AuditCall} {log log' : AuditLog} {call : AuditCall}
    (h : svc.Written calls log) (hcall : svc.append log call.now call.auditId call.request = .ok log') :
    svc.Written (calls ++ [call]) log' := by
  obtain ⟨hrows, hfresh⟩ := append_eq_ok hcall
  constructor
  · intro tenantId
    rw [ofTenant_of_rows_eq hrows]
    split
    · rename_i htenant
      refine .snoc (h.built tenantId) ?_ authentic_entry
      rw [entry_previousHash, ← htenant]
      rfl
    · rw [List.append_nil]
      exact h.built tenantId
  · rw [hrows, List.map_append, List.nodup_append]
    refine ⟨h.hashes, by simp, ?_⟩
    rintro x hx y hy rfl
    rw [List.map_singleton, List.mem_singleton] at hy
    exact hfresh (hy ▸ hx)
  · intro row hrow
    rw [hrows] at hrow
    rcases List.mem_append.mp hrow with hrow | hrow
    · exact h.authentic row hrow
    · rw [List.mem_singleton.mp hrow]
      exact authentic_entry
  · rw [hrows, List.map_append, List.map_append, h.stamps]
    rfl

theorem appendAll_written {calls : List AuditCall} {log : AuditLog} (h : svc.appendAll .empty calls = .ok log) :
    svc.Written calls log := by
  induction calls using List.reverseRecOn generalizing log with
  | nil =>
    cases h
    exact ⟨fun _ => .nil, .nil, by simp [Table.empty], rfl⟩
  | append_singleton calls call ih =>
    obtain ⟨mid, hmid, hcall⟩ := appendAll_snoc.mp h
    exact (ih hmid).append hcall

/-- Some call of the sequence builds a body with the digest of a body already in the
table, although the two differ. -/
def Collides (svc : AuditService) (calls : List AuditCall) : Prop :=
  ∃ before call log row, before ++ [call] <+: calls ∧ svc.appendAll .empty before = .ok log ∧ row ∈ log.rows ∧
    Sha256Collision (canonicalBody row.previousHash row)
      (canonicalBody (svc.entry log call.now call.auditId call.request).previousHash
        (svc.entry log call.now call.auditId call.request))

theorem appendAll_total {calls : List AuditCall} (hids : (calls.map (·.auditId)).Nodup) :
    (∃ log, svc.appendAll .empty calls = .ok log) ∨ svc.Collides calls := by
  induction calls using List.reverseRecOn with
  | nil => exact .inl ⟨_, rfl⟩
  | append_singleton calls call ih =>
    rw [List.map_append, List.nodup_append] at hids
    rcases ih hids.1 with ⟨log, hlog⟩ | ⟨before, c, log, row, hpre, h⟩
    · have hw := appendAll_written hlog
      have hlogIds : log.rows.map (·.auditId) = calls.map (·.auditId) := by
        have := congrArg (List.map fun s => s.2.2) hw.stamps
        rw [List.map_map, List.map_map] at this
        exact this
      have hid : call.auditId ∉ log.rows.map (·.auditId) := by
        rw [hlogIds]
        exact fun hmem => hids.2.2 _ hmem _ (by simp) rfl
      by_cases hhash : (svc.entry log call.now call.auditId call.request).eventHash ∈
          log.rows.map AuditEventRow.eventHash
      · obtain ⟨row, hrow, heq⟩ := List.mem_map.mp hhash
        refine .inr ⟨calls, call, log, row, List.prefix_refl _, hlog, hrow, ?_, ?_⟩
        · intro hbody
          have hsame := (fields_of_canonicalJson_eq hbody).1.auditId
          exact hid (List.mem_map.mpr ⟨row, hrow, hsame⟩)
        · rw [(hw.authentic row hrow).2.1] at heq
          exact hex_injective heq
      · obtain ⟨log', hcall⟩ := append_total hid hhash
        exact .inl ⟨log', appendAll_snoc.mpr ⟨log, hlog, hcall⟩⟩
    · exact .inr ⟨before, c, log, row, hpre.trans (List.prefix_append _ _), h⟩

def callsOf (calls : List AuditCall) (tenantId : String) : List AuditCall :=
  calls.filter fun call => call.request.tenantId = tenantId

/-- Calls that read the same instant drew increasing identifiers. -/
def TiesInOrder (calls : List AuditCall) : Prop :=
  calls.Pairwise fun a b => a.now = b.now → a.auditId < b.auditId

theorem stamps_ofTenant {calls : List AuditCall} {log : AuditLog} (h : log.rows.map stamp = calls.map AuditCall.stamp)
    (tenantId : String) : (ofTenant log tenantId).map stamp = (callsOf calls tenantId).map AuditCall.stamp := by
  have hfilter := congrArg (List.filter fun s => decide (s.1 = tenantId)) h
  rw [List.filter_map, List.filter_map] at hfilter
  exact hfilter

/-- Rows are sorted exactly when the ties of the calls that wrote them are in order. -/
theorem sorted_iff_tiesInOrder {rows : List AuditEventRow} {calls : List AuditCall}
    (h : rows.map stamp = calls.map AuditCall.stamp) (hclock : calls.Pairwise fun a b => a.now ≤ b.now)
    (hids : (calls.map (·.auditId)).Nodup) : InOrder rows ↔ TiesInOrder calls := by
  have hrows : InOrder rows ↔ (rows.map stamp).Pairwise fun s t =>
      s.2.1 < t.2.1 ∨ s.2.1 = t.2.1 ∧ s.2.2 ≤ t.2.2 := by
    simp only [InOrder, readingKey, Prod.Lex.toLex_le_toLex, List.pairwise_map, stamp]
  rw [hrows, h, List.pairwise_map, TiesInOrder]
  rw [List.Nodup, List.pairwise_map] at hids
  constructor
  · intro hsorted
    apply (hsorted.and hids).imp
    rintro a b ⟨hlt | ⟨_, hle⟩, hne⟩ heq
    · exact absurd heq hlt.ne
    · exact lt_of_le_of_ne hle hne
  · intro hties
    apply (hties.and hclock).imp
    rintro a b ⟨htie, hle⟩
    rcases Nat.lt_or_eq_of_le hle with hlt | heq
    · exact .inl hlt
    · exact .inr ⟨heq, (htie heq).le⟩

theorem appendAll_verify_iff {calls : List AuditCall} {log : AuditLog} (h : svc.appendAll .empty calls = .ok log)
    (hclock : calls.Pairwise fun a b => a.now ≤ b.now) (hids : (calls.map (·.auditId)).Nodup) (tenantId : String) :
    (∃ report, svc.verify log tenantId = .ok report ∧ report.events = (callsOf calls tenantId).length) ↔
      TiesInOrder (callsOf calls tenantId) := by
  have hw := appendAll_written h
  have hstamps := stamps_ofTenant hw.stamps tenantId
  have hlen : (callsOf calls tenantId).length = (ofTenant log tenantId).length := by
    simpa using (congrArg List.length hstamps).symm
  have hsub : (callsOf calls tenantId).Sublist calls := List.filter_sublist
  rw [hlen, verify_iff_sorted (hw.built tenantId) hw.hashes]
  exact sorted_iff_tiesInOrder hstamps (hclock.sublist hsub) (hids.sublist (hsub.map _))

/-- A sequence of appends, of one tenant or of several, with distinct identifiers and a
clock that does not go back: every call succeeds, and the tenant's trail verifies with
all its events exactly when its ties are in order; or SHA-256 collides on two bodies
of the sequence. -/
theorem verify_appended_iff (svc : AuditService) (calls : List AuditCall) (tenantId : String)
    (hclock : calls.Pairwise fun a b => a.now ≤ b.now) (hids : (calls.map (·.auditId)).Nodup) :
    (∃ log, svc.appendAll .empty calls = .ok log ∧
      ((∃ report, svc.verify log tenantId = .ok report ∧ report.events = (callsOf calls tenantId).length) ↔
        TiesInOrder (callsOf calls tenantId))) ∨
    svc.Collides calls := by
  rcases appendAll_total hids with ⟨log, hlog⟩ | hcol
  · exact .inl ⟨log, hlog, appendAll_verify_iff hlog hclock hids tenantId⟩
  · exact .inr hcol

theorem verify_appended_iff_one_instant :
    let calls : List AuditCall := [⟨0, "a", lookAt []⟩, ⟨0, "b", lookAt []⟩]
    (∃ log, zeroKey.appendAll .empty calls = .ok log ∧
      ((∃ report, zeroKey.verify log "t" = .ok report ∧ report.events = (callsOf calls "t").length) ↔
        TiesInOrder (callsOf calls "t"))) ∨
    zeroKey.Collides calls :=
  verify_appended_iff zeroKey _ "t" (by simp) (by decide)

/-- Two calls in one microsecond, the second with the smaller identifier. -/
def tied : List AuditCall := [⟨0, "e", lookAt []⟩, ⟨0, "a", lookAt []⟩]

def tiedFirst : AuditEventRow := zeroKey.entry .empty 0 "e" (lookAt [])

def tiedSecond : AuditEventRow := zeroKey.entry (zeroKey.soleLog (lookAt [])) 0 "a" (lookAt [])

def tiedHash : String := "32dae30a26e8ab12a7d914022df0283c2d1919422111895360197a107fb2f391"

set_option maxRecDepth 10000 in
theorem tiedFirst_eventHash : tiedFirst.eventHash = tiedHash := by
  rw [tiedFirst, entry_eventHash]
  apply canonicalSha256_of_hashesTo
  decide +kernel

theorem tiedSecond_previousHash : tiedSecond.previousHash = tiedHash := by
  rw [tiedSecond, entry_previousHash, ← tiedFirst_eventHash]
  rfl

theorem tiedSecond_eventHash : tiedSecond.eventHash ≠ tiedHash := by
  have hbody : tiedSecond.eventHash = canonicalSha256 ((zeroKey.entry .empty 0 "a" (lookAt [])).body tiedHash) := by
    rw [← tiedSecond_previousHash]
    rfl
  rw [hbody, canonicalSha256_eq]
  decide +kernel

/-- Both calls succeed, and the trail they leave is refused. -/
theorem verify_refuses_tied : ∃ log, zeroKey.appendAll .empty tied = .ok log ∧
    zeroKey.verify log "t" = .error (validationError "AUDIT_CHAIN_INVALID" "audit chain verification failed"
      [("index", .int 0), ("audit_id", .str "a")]) := by
  have hfresh : tiedSecond.eventHash ∉ (zeroKey.soleLog (lookAt [])).rows.map AuditEventRow.eventHash := by
    have hrows : (zeroKey.soleLog (lookAt [])).rows.map AuditEventRow.eventHash = [tiedFirst.eventHash] := rfl
    rw [hrows, List.mem_singleton, tiedFirst_eventHash]
    exact tiedSecond_eventHash
  obtain ⟨log, hlog⟩ := append_total (by decide) hfresh
  have hrows : log.rows = [tiedFirst, tiedSecond] := (append_eq_ok hlog).1
  have htrail : trail log "t" = [tiedSecond, tiedFirst] := by
    rw [trail, ofTenant, hrows]
    rfl
  refine ⟨log, ?_, ?_⟩
  · have hfirst : zeroKey.appendAll .empty [⟨0, "e", lookAt []⟩] = .ok (zeroKey.soleLog (lookAt [])) := by
      simp only [appendAll, append_soleLog]
      rfl
    have htied : tied = [⟨0, "e", lookAt []⟩] ++ [⟨0, "a", lookAt []⟩] := rfl
    rw [htied, appendAll_snoc]
    exact ⟨_, hfirst, hlog⟩
  · have hprev : tiedSecond.previousHash ≠ genesisHash := by
      rw [tiedSecond_previousHash]
      decide
    apply verify_eq_error
    rw [htrail]
    exact verifyRows_of_previousHash_ne (b64decode_b64encode _) hprev

end Calls

end Sip.AuditService
