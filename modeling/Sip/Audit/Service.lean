import Sip.Canonical
import Sip.Database
import Sip.Foundation.Base64
import Sip.Foundation.SortBy

/-!
# The audit service

`append` chains a new event to the tenant's latest one, where latest and the
reading order of `verify` both go by `(occurred_at, audit_id)`. The identifier and
the clock value are inputs of a call. The insert can fail on the primary key and on
the unique event hash.
-/

namespace Sip

set_option autoImplicit false

/-- `AuditService(database, signing_key)` refuses keys below 32 bytes. -/
structure AuditService where
  signingKey : Bytes
  long : 32 ≤ signingKey.length

def genesisHash : String := String.ofList (List.replicate 64 '0')

/-- The document that is hashed. -/
def AuditFields.body (f : AuditFields) (previousHash : String) : Json := .obj [
  ("audit_id", .str f.auditId),
  ("tenant_id", .str f.tenantId),
  ("project_id", .ofOption f.projectId),
  ("actor_id", .str f.actorId),
  ("action", .str f.action),
  ("resource_type", .str f.resourceType),
  ("resource_id", .str f.resourceId),
  ("outcome", .str f.outcome),
  ("details", .obj f.detailsJson),
  ("occurred_at", .str (isoformat f.occurredAt)),
  ("previous_hash", .str previousHash)]

structure AuditRequest where
  tenantId : String
  projectId : Option String
  actorId : String
  action : String
  resourceType : String
  resourceId : String
  outcome : String
  details : Option Dict := none
  purpose : Option String := none
  workloadIdentity : Option String := none
  sourceIp : Option String := none
  deviceContext : Option Dict := none
  traceId : Option String := none
  beforeRef : Option Dict := none
  afterRef : Option Dict := none
  referencedManifests : Option (List Json) := none
  manifestRefs : Option (List Json) := none

def AuditRequest.retainedContext (r : AuditRequest) : Dict :=
  [("purpose", r.purpose.map Json.str),
   ("workload_identity", r.workloadIdentity.map Json.str),
   ("source_ip", r.sourceIp.map Json.str),
   ("device_context", r.deviceContext.map Json.obj),
   ("trace_id", r.traceId.map Json.str),
   ("before_ref", r.beforeRef.map Json.obj),
   ("after_ref", r.afterRef.map Json.obj),
   ("referenced_manifests", (r.referencedManifests <|> r.manifestRefs).map Json.arr)].filterMap
    fun (key, value) => value.map fun v => (key, v)

def AuditRequest.normalizedDetails (r : AuditRequest) : Dict :=
  let details := r.details.getD []
  if r.retainedContext.isEmpty then details else details.set "audit_context" (.obj r.retainedContext)

/-- What rows are ordered by: `occurred_at`, then `audit_id`. -/
def readingKey (row : AuditEventRow) : Nat ×ₗ String := toLex (row.occurredAt, row.auditId)

def ofTenant (log : AuditLog) (tenantId : String) : List AuditEventRow :=
  log.rows.filter fun row => row.tenantId = tenantId

/-- `ORDER BY occurred_at DESC, audit_id DESC LIMIT 1`. -/
def latest (rows : List AuditEventRow) : Option AuditEventRow :=
  (sortBy (fun row => OrderDual.toDual (readingKey row)) rows).head?

namespace AuditService
variable (svc : AuditService)

def sign (eventHash : String) : Bytes := hmacSha256 svc.signingKey (utf8 eventHash.toList)

/-- The row that `append` is about to insert. -/
def entry (log : AuditLog) (now : Nat) (auditId : String) (req : AuditRequest) : AuditEventRow :=
  let previousHash := match latest (ofTenant log req.tenantId) with
    | some previous => previous.eventHash
    | none => genesisHash
  let fields : AuditFields := {
    auditId, tenantId := req.tenantId, projectId := req.projectId, actorId := req.actorId,
    action := req.action, resourceType := req.resourceType, resourceId := req.resourceId,
    outcome := req.outcome, detailsJson := req.normalizedDetails, occurredAt := now }
  let eventHash := canonicalSha256 (fields.body previousHash)
  { fields with previousHash, eventHash, signature := b64encode (svc.sign eventHash) }

def append (log : AuditLog) (now : Nat) (auditId : String) (req : AuditRequest) : Except Raised AuditLog := do
  let row := svc.entry log now auditId req
  raiseIf (row.eventHash ∈ log.rows.map AuditEventRow.eventHash) (.integrityError "audit_events.event_hash")
  orRaise (log.insert? row) (.integrityError "audit_events.audit_id")

/-- The rows in the order `verify` reads them. -/
def trail (log : AuditLog) (tenantId : String) : List AuditEventRow :=
  sortBy readingKey (ofTenant log tenantId)

def verifyRows : String → Nat → List AuditEventRow → Except Raised String
  | previousHash, _, [] => .ok previousHash
  | previousHash, index, row :: rows => do
    let expectedHash := canonicalSha256 (row.body previousHash)
    let actualSignature ← orRaise (b64decode row.signature)
      (validationError "AUDIT_SIGNATURE_MALFORMED" "audit signature is not valid base64" [("index", .int index)])
    raiseIf (row.previousHash ≠ previousHash ∨ row.eventHash ≠ expectedHash ∨
        actualSignature ≠ svc.sign expectedHash)
      (validationError "AUDIT_CHAIN_INVALID" "audit chain verification failed"
        [("index", .int index), ("audit_id", .str row.auditId)])
    verifyRows row.eventHash (index + 1) rows

structure Report where
  tenantId : String
  events : Nat
  valid : Bool
  headHash : String

def verify (log : AuditLog) (tenantId : String) : Except Raised Report := do
  let rows := trail log tenantId
  let headHash ← svc.verifyRows genesisHash 0 rows
  return { tenantId, events := rows.length, valid := true, headHash }

/-- A service whose key is 32 zero bytes. -/
def zeroKey : AuditService := ⟨List.replicate 32 0, by decide⟩

/-- What that service hashes for an event. -/
def zeroBody (now : Nat) (auditId : String) (req : AuditRequest) (previousHash : String) : Json :=
  (zeroKey.entry .empty now auditId req).body previousHash

end AuditService

end Sip
