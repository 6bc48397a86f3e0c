import Sip.Audit.Chain

/-!
# The reported head commits to the history

Two trails that `verify` accepts with one head hash agree row by row in everything
that is signed, unless SHA-256 itself is broken on bodies that the trails contain:
two different bodies collide, or, for trails of different lengths, a body hashes to
the all-zero value that every chain starts from.
-/

namespace Sip

set_option autoImplicit false

/-- Agreement in the columns that the hash covers; details are compared as JSON values. -/
structure SameFields (a b : AuditFields) : Prop where
  auditId : a.auditId = b.auditId
  tenantId : a.tenantId = b.tenantId
  projectId : a.projectId = b.projectId
  actorId : a.actorId = b.actorId
  action : a.action = b.action
  resourceType : a.resourceType = b.resourceType
  resourceId : a.resourceId = b.resourceId
  outcome : a.outcome = b.outcome
  details : Json.Same (.obj a.detailsJson) (.obj b.detailsJson)
  occurredAt : a.occurredAt = b.occurredAt

structure SameSigned (a b : AuditEventRow) : Prop extends SameFields a.toAuditFields b.toAuditFields where
  previousHash : a.previousHash = b.previousHash
  eventHash : a.eventHash = b.eventHash

namespace AuditService

/-- The canonical bytes of a body determine every field in it and the previous hash. -/
theorem fields_of_canonicalJson_eq {f g : AuditFields} {h h' : String}
    (heq : canonicalJson (f.body h) = canonicalJson (g.body h')) : SameFields f g ∧ h = h' := by
  have value := canonicalJson_obj_lookup (by simp) (by simp) heq
  refine ⟨{
    auditId := ?_
    tenantId := ?_
    projectId := ?_
    actorId := ?_
    action := ?_
    resourceType := ?_
    resourceId := ?_
    outcome := ?_
    details := ?_
    occurredAt := ?_ }, ?_⟩
  · simpa [List.lookup_cons] using value "audit_id"
  · simpa [List.lookup_cons] using value "tenant_id"
  · exact Json.ofOption_injective (by simpa [List.lookup_cons] using value "project_id")
  · simpa [List.lookup_cons] using value "actor_id"
  · simpa [List.lookup_cons] using value "action"
  · simpa [List.lookup_cons] using value "resource_type"
  · simpa [List.lookup_cons] using value "resource_id"
  · simpa [List.lookup_cons] using value "outcome"
  · simpa [List.lookup_cons, Json.Same] using value "details"
  · exact isoformat_injective (by simpa [List.lookup_cons] using value "occurred_at")
  · simpa [List.lookup_cons] using value "previous_hash"

theorem canonicalBody_shows {h h' : String} {a b : AuditEventRow} (heq : canonicalBody h a = canonicalBody h' b) :
    h = h' := (fields_of_canonicalJson_eq heq).2

variable {svc : AuditService}

theorem sameSigned_of_bodies_eq {start : String} {as bs : List AuditEventRow} (ha : svc.Chained start as)
    (hb : svc.Chained start bs)
    (h : HashChain.bodies canonicalBody digest start as = HashChain.bodies canonicalBody digest start bs) :
    List.Forall₂ SameSigned as bs := by
  induction as generalizing start bs with
  | nil =>
    cases bs with
    | nil => exact .nil
    | cons b bs => simp [HashChain.bodies] at h
  | cons a as ih =>
    cases bs with
    | nil => simp [HashChain.bodies] at h
    | cons b bs =>
      simp only [HashChain.bodies, List.cons.injEq] at h
      obtain ⟨⟨haprev, hahash, _⟩, ha⟩ := ha
      obtain ⟨⟨hbprev, hbhash, _⟩, hb⟩ := hb
      have hhash : a.eventHash = b.eventHash := by
        rw [hahash, hbhash]
        exact congrArg digest h.1
      refine .cons ?_ ?_
      · exact { (fields_of_canonicalJson_eq h.1).1 with
          previousHash := haprev.trans hbprev.symm
          eventHash := hhash }
      · have hstart : digest (canonicalBody start a) = a.eventHash := hahash.symm
        have hstart' : digest (canonicalBody start b) = b.eventHash := hbhash.symm
        rw [hstart, hstart', hhash] at h
        rw [hhash] at ha
        exact ih ha hb h.2

/-- The bodies that were hashed for a trail, as bytes, in reading order. -/
def hashedBodies (log : AuditLog) (tenantId : String) : List Bytes :=
  HashChain.bodies canonicalBody digest genesisHash (trail log tenantId)

theorem hex_collision {as bs : List Bytes} (h : HashChain.Collision digest as bs) :
    ∃ a ∈ as, ∃ b ∈ bs, Sha256Collision a b := by
  obtain ⟨a, ha, b, hb, hne, heq⟩ := h
  exact ⟨a, ha, b, hb, hne, hex_injective heq⟩

def lookAt (details : Dict) : AuditRequest := {
  tenantId := "t", projectId := none, actorId := "u", action := "project.read", resourceType := "project",
  resourceId := "p", outcome := "allow", details := some details }

/-- One event written to an empty log. -/
def soleLog (svc : AuditService) (req : AuditRequest) : AuditLog := ⟨[svc.entry .empty 0 "e" req], by simp⟩

theorem append_soleLog (svc : AuditService) (req : AuditRequest) :
    svc.append .empty 0 "e" req = .ok (svc.soleLog req) := by
  simp only [append, bind_eq_ok, raiseIf_eq_ok, exists_const, orRaise_eq_ok]
  exact ⟨List.not_mem_nil, rfl⟩

theorem verify_soleLog (svc : AuditService) (req : AuditRequest) :
    svc.verify (svc.soleLog req) req.tenantId =
      .ok ⟨req.tenantId, 1, true, (svc.entry .empty 0 "e" req).eventHash⟩ := by
  have htrail : trail (svc.soleLog req) req.tenantId = [svc.entry .empty 0 "e" req] := by
    have htenant : (svc.entry .empty 0 "e" req).tenantId = req.tenantId := rfl
    simp [trail, ofTenant, soleLog, htenant, sortBy_of_pairwise]
  rw [verify_eq_ok, htrail]
  exact ⟨⟨authentic_entry, trivial⟩, rfl⟩

def ordered : AuditLog := zeroKey.soleLog (lookAt [("a", .int 1), ("b", .int 2)])

def reordered : AuditLog := zeroKey.soleLog (lookAt [("b", .int 2), ("a", .int 1)])

/-- Details that differ in the order of their keys give the same head. -/
theorem eventHash_key_order : (zeroKey.entry .empty 0 "e" (lookAt [("a", .int 1), ("b", .int 2)])).eventHash =
    (zeroKey.entry .empty 0 "e" (lookAt [("b", .int 2), ("a", .int 1)])).eventHash := by
  have htext : ∀ f g : AuditFields, (f.body genesisHash).canonicalText = (g.body genesisHash).canonicalText →
      canonicalSha256 (f.body genesisHash) = canonicalSha256 (g.body genesisHash) := by
    intro f g h
    rw [canonicalSha256_eq, canonicalSha256_eq, h]
  exact htext _ _ (by decide +kernel)

end AuditService

end Sip
