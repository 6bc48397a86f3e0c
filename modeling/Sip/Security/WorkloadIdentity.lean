import Sip.Foundation.Runs
import Sip.Hybrid.Consent

/-!
# Workload identities

A workload is given a grant and a token that names it. A request that is repeated while
its grant is live gets a fresh token for the same grant, and otherwise a new grant. The
table keeps one grant for each request of a tenant, whatever has become of it.
-/

namespace Sip

set_option autoImplicit false

inductive WorkloadGrantState where
  | active | revoked
  deriving DecidableEq

def WorkloadGrantState.value : WorkloadGrantState → String
  | .active => "active"
  | .revoked => "revoked"

structure WorkloadIdentityGrantRow where
  grantId : String
  tenantId : String
  projectId : Option String
  workloadId : String
  audience : String
  scopesJson : List String
  purpose : String
  tokenJti : String
  requestHash : String
  state : WorkloadGrantState
  issuedBy : String
  expiresAt : Nat
  revokedAt : Option Nat := none

namespace WorkloadIdentityGrantRow

/-- The columns of `uq_workload_identity_request`. -/
def request (row : WorkloadIdentityGrantRow) : String × String := (row.tenantId, row.requestHash)

def revoke (row : WorkloadIdentityGrantRow) (now : Nat) : WorkloadIdentityGrantRow :=
  { row with state := .revoked, revokedAt := some now }

end WorkloadIdentityGrantRow

/-- The table with its two unique constraints. -/
structure WorkloadGrants extends Table WorkloadIdentityGrantRow (fun row => row.grantId) where
  uniqueJti : (rows.map fun row => row.tokenJti).Nodup
  uniqueRequest : (rows.map WorkloadIdentityGrantRow.request).Nodup

theorem nodup_map_snoc {α β : Type} {f : α → β} {rows : List α} {row : α} (h : (rows.map f).Nodup)
    (hrow : f row ∉ rows.map f) : ((rows ++ [row]).map f).Nodup := by
  rw [List.map_append, List.map_singleton, ← List.concat_eq_append]
  exact (List.nodup_concat _ _).mpr ⟨hrow, h⟩

namespace WorkloadGrants

def empty : WorkloadGrants := ⟨.empty, List.nodup_nil, List.nodup_nil⟩

/-- A new row, unless one of its unique columns is taken. -/
def insert? (grants : WorkloadGrants) (row : WorkloadIdentityGrantRow) : Option WorkloadGrants :=
  if h : row.grantId ∉ grants.rows.map (fun r => r.grantId) ∧ row.tokenJti ∉ grants.rows.map (fun r => r.tokenJti) ∧
      row.request ∉ grants.rows.map WorkloadIdentityGrantRow.request then
    some ⟨⟨grants.rows ++ [row], nodup_map_snoc grants.nodup h.1⟩, nodup_map_snoc grants.uniqueJti h.2.1,
      nodup_map_snoc grants.uniqueRequest h.2.2⟩
  else none

/-- `row.state = "revoked"; row.revoked_at = db_now()` -/
def revoke (grants : WorkloadGrants) (grantId : String) (now : Nat) : WorkloadGrants where
  toTable := grants.modify grantId (fun row => row.revoke now) fun _ => rfl
  uniqueJti := by
    have hjti : (fun row : WorkloadIdentityGrantRow => row.tokenJti) ∘
        (fun row => if row.grantId = grantId then row.revoke now else row) = fun row => row.tokenJti := by
      funext row
      by_cases h : row.grantId = grantId
      · simp [h, WorkloadIdentityGrantRow.revoke]
      · simp [h]
    simp only [Table.modify, List.map_map, hjti]
    exact grants.uniqueJti
  uniqueRequest := by
    have hrequest : WorkloadIdentityGrantRow.request ∘
        (fun row => if row.grantId = grantId then row.revoke now else row) = WorkloadIdentityGrantRow.request := by
      funext row
      by_cases h : row.grantId = grantId
      · simp [h, WorkloadIdentityGrantRow.revoke, WorkloadIdentityGrantRow.request]
      · simp [h]
    simp only [Table.modify, List.map_map, hrequest]
    exact grants.uniqueRequest

end WorkloadGrants

structure WorkloadDb extends Store where
  workloadGrants : WorkloadGrants

structure WorkloadRequest where
  tenantId : String
  projectId : Option String
  workloadId : String
  audience : String
  scopes : List String
  purpose : String
  ttlSeconds : Int
  actorId : String

/-- The clock readings of a call that issues a grant and the identifiers that it draws: the reading at its start, the one
that the token's lifetime is counted from, the one of the codec, and what the audit entry takes. -/
structure WorkloadStamp where
  now : Nat
  grantId : String
  jti : String
  remainingAt : Nat
  encodedAt : Nat
  written : Stamp

/-- `_workload_result` -/
structure WorkloadResult where
  grantId : String
  workloadId : String
  audience : String
  scopes : List String
  purpose : String
  state : WorkloadGrantState
  expiresAt : String
  idempotentReplay : Bool
  token : Option String

/-- What a token is asked to be good for. -/
structure WorkloadAsk where
  audience : String
  requiredScope : String
  purpose : String
  tenantId : String
  projectId : Option String
  workloadId : String

/-- The clock readings of a validation, in the codec and at the row. -/
structure ValidationTimes where
  decodedAt : Nat
  checkedAt : Nat

structure SecurityOperationsService where
  audit : AuditService
  tokenCodec : SignedTokenCodec
  py : PyNumbers

namespace SecurityOperationsService

section Requests

/-- `sorted({item.strip() for item in scopes if item.strip()})` -/
def WorkloadRequest.normalizedScopes (req : WorkloadRequest) : List String :=
  sortedSet id ((req.scopes.map fun item => String.ofList (strip item.toList)).filter fun item => item ≠ "")

def WorkloadRequest.body (req : WorkloadRequest) : Dict := [
  ("tenant_id", .str req.tenantId), ("project_id", .ofOption req.projectId), ("workload_id", .str req.workloadId),
  ("audience", .str req.audience), ("scopes", .texts (WorkloadRequest.normalizedScopes req)), ("purpose", .str req.purpose),
  ("ttl_seconds", .int req.ttlSeconds)]

def WorkloadRequest.requestHash (req : WorkloadRequest) : String := canonicalSha256 (.obj (WorkloadRequest.body req))

def blank (text : String) : Bool := strip text.toList = []

/-- The checks of the arguments before the database is read. -/
def checkWorkload (req : WorkloadRequest) : Except Raised Unit := do
  raiseIf (req.ttlSeconds < 30 ∨ 900 < req.ttlSeconds) (validationError "WORKLOAD_TOKEN_TTL_INVALID"
    "workload credentials must live between 30 and 900 seconds")
  raiseIf (blank req.workloadId = true ∨ blank req.audience = true ∨ blank req.purpose = true ∨
      WorkloadRequest.normalizedScopes req = [] ∨ "*" ∈ WorkloadRequest.normalizedScopes req)
    (validationError "WORKLOAD_IDENTITY_SCOPE_INVALID"
      "workload identity requires explicit workload, audience, purpose, and scopes")

/-- `_require_project_scope` -/
def requireProjectScope (store : Store) (tenantId : String) (projectId : Option String) : Except Raised Unit :=
  match projectId with
  | none => .ok ()
  | some id => do
    let project ← orRaise (store.projects.get? id) (notFoundError "project" id)
    raiseIf (project.tenantId ≠ tenantId) (notFoundError "project" id)

end Requests

section Issuing
variable (ops : SecurityOperationsService)

/-- The grant that is reused. -/
def liveGrant? (db : WorkloadDb) (now : Nat) (req : WorkloadRequest) : Option WorkloadIdentityGrantRow :=
  db.workloadGrants.rows.find? fun row => row.tenantId = req.tenantId ∧ row.requestHash = WorkloadRequest.requestHash req ∧
    row.state = .active ∧ now < row.expiresAt

def newGrant (stamp : WorkloadStamp) (req : WorkloadRequest) : WorkloadIdentityGrantRow where
  grantId := stamp.grantId
  tenantId := req.tenantId
  projectId := req.projectId
  workloadId := req.workloadId
  audience := req.audience
  scopesJson := WorkloadRequest.normalizedScopes req
  purpose := req.purpose
  tokenJti := stamp.jti
  requestHash := WorkloadRequest.requestHash req
  state := .active
  issuedBy := req.actorId
  expiresAt := stamp.now + req.ttlSeconds.toNat * 1000000

def workloadClaims (row : WorkloadIdentityGrantRow) : Dict := [
  ("token_type", .str "workload_identity"), ("jti", .str row.tokenJti), ("tenant_id", .str row.tenantId),
  ("project_id", .ofOption row.projectId), ("workload_id", .str row.workloadId), ("aud", .str row.audience),
  ("scopes", .texts row.scopesJson), ("purpose", .str row.purpose)]

/-- `max(1, int((expires_at - db_now()).total_seconds()))` -/
def remainingSeconds (expiresAt remainingAt : Nat) : Nat := max 1 ((expiresAt - remainingAt) / 1000000)

/-- `_encode_workload` -/
def encodeWorkload (row : WorkloadIdentityGrantRow) (stamp : WorkloadStamp) : String :=
  ops.tokenCodec.encode (workloadClaims row) stamp.encodedAt (remainingSeconds row.expiresAt stamp.remainingAt)

def workloadResult (row : WorkloadIdentityGrantRow) (token : Option String) (idempotentReplay : Bool) : WorkloadResult :=
  ⟨row.grantId, row.workloadId, row.audience, row.scopesJson, row.purpose, row.state, isoformat row.expiresAt,
    idempotentReplay, token⟩

def issueAudit (row : WorkloadIdentityGrantRow) (actorId : String) : AuditRequest where
  tenantId := row.tenantId
  projectId := row.projectId
  actorId := actorId
  action := "workload_identity:issue"
  resourceType := "workload_identity_grant"
  resourceId := row.grantId
  outcome := "allowed"
  details := some [("workload_id", .str row.workloadId), ("audience", .str row.audience),
    ("scopes", .texts row.scopesJson), ("expires_at", .str (isoformat row.expiresAt))]

/-- `_emit` with `workload_identity=row.workload_id` -/
def workloadEvent (row : WorkloadIdentityGrantRow) (eventType actorId : String) (payload : Dict) : EventRequest where
  eventType := eventType
  schemaVersion := "1.0.0"
  tenantId := row.tenantId
  projectId := row.projectId.getD ""
  aggregateType := "workload_identity_grant"
  aggregateId := row.grantId
  payload := payload
  producer := "security-ops"
  actorId := some actorId
  workloadIdentity := some row.workloadId

def issuedPayload (row : WorkloadIdentityGrantRow) : Dict := [
  ("workload_id", .str row.workloadId), ("audience", .str row.audience), ("scopes", .texts row.scopesJson),
  ("purpose", .str row.purpose), ("expires_at", .str (isoformat row.expiresAt))]

/-- What a new grant writes besides its row. -/
def publishGrant (store : Store) (stamp : WorkloadStamp) (row : WorkloadIdentityGrantRow) (actorId : String) :
    Except Raised Store := do
  let store ← store.record ops.audit stamp.written (issueAudit row actorId)
  store.emit stamp.written (workloadEvent row "workload_identity.issued" actorId (issuedPayload row))

def issueWorkloadIdentity (db : WorkloadDb) (stamp : WorkloadStamp) (req : WorkloadRequest) :
    Except Raised (WorkloadDb × WorkloadResult) := do
  checkWorkload req
  requireProjectScope db.toStore req.tenantId req.projectId
  match liveGrant? db stamp.now req with
  | some existing => return (db, workloadResult existing (some (ops.encodeWorkload existing stamp)) true)
  | none => do
    let row := newGrant stamp req
    let grants ← orRaise (db.workloadGrants.insert? row) (.integrityError "uq_workload_identity_request")
    let store ← ops.publishGrant db.toStore stamp row req.actorId
    return (⟨store, grants⟩, workloadResult row (some (ops.encodeWorkload row stamp)) false)

end Issuing

section Using
variable (ops : SecurityOperationsService)

/-- `value == text`, where the text may be `None`. -/
def isOption (value : Json) (text : Option String) : Bool :=
  match value, text with
  | .null, none => true
  | .str s, some t => s = t
  | _, _ => false

/-- `set(value or [])` -/
def orEmptySet (value : Json) : Except Raised (List Json) := if value.truthy then value.asSet else .ok []

/-- The claims of a token against what it is asked to be good for. -/
def checkClaims (claims : Dict) (ask : WorkloadAsk) : Except Raised Unit := do
  raiseIf (¬ (Dict.get claims "token_type").isText "workload_identity" ∨ ¬ (Dict.get claims "aud").isText ask.audience)
    (authorizationError "WORKLOAD_TOKEN_AUDIENCE_DENIED" "workload token has the wrong audience")
  raiseIf (¬ (Dict.get claims "tenant_id").isText ask.tenantId ∨
      ¬ isOption (Dict.get claims "project_id") ask.projectId ∨ ¬ (Dict.get claims "purpose").isText ask.purpose)
    (authorizationError "WORKLOAD_TOKEN_CONTEXT_DENIED" "workload token is outside its governed context")
  raiseIf (¬ (Dict.get claims "workload_id").isText ask.workloadId)
    (authorizationError "WORKLOAD_TOKEN_IDENTITY_DENIED" "workload token belongs to a different workload identity")
  let scopes ← orEmptySet (Dict.get claims "scopes")
  raiseIf (¬ scopes.any (Json.isText ask.requiredScope))
    (authorizationError "WORKLOAD_TOKEN_SCOPE_DENIED" "workload token lacks the required scope")

/-- `token_jti == claims.get("jti")` -/
def grantOfToken? (db : WorkloadDb) (claims : Dict) : Option WorkloadIdentityGrantRow :=
  db.workloadGrants.rows.find? fun row => (Dict.get claims "jti").isText row.tokenJti

def tokenRevoked : Raised :=
  authorizationError "WORKLOAD_TOKEN_REVOKED" "workload token is revoked, expired, unknown, or outside its stored scope"

def validateWorkloadIdentity (db : WorkloadDb) (times : ValidationTimes) (token : String) (ask : WorkloadAsk) :
    Except Raised WorkloadResult := do
  let claims ← ops.tokenCodec.decode ops.py token times.decodedAt
  checkClaims claims ask
  let row ← orRaise (grantOfToken? db claims) tokenRevoked
  raiseIf (row.state ≠ .active ∨ row.expiresAt ≤ times.checkedAt ∨ row.workloadId ≠ ask.workloadId ∨
    row.tenantId ≠ ask.tenantId ∨ row.projectId ≠ ask.projectId) tokenRevoked
  return workloadResult row none true

def revokeAudit (row : WorkloadIdentityGrantRow) (actorId : String) : AuditRequest where
  tenantId := row.tenantId
  projectId := row.projectId
  actorId := actorId
  action := "workload_identity:revoke"
  resourceType := "workload_identity_grant"
  resourceId := row.grantId
  outcome := "allowed"
  details := some [("workload_id", .str row.workloadId)]

/-- `revokedAt` is the reading for the row; the audit entry and the event take their own. -/
def revokeWorkloadIdentity (db : WorkloadDb) (revokedAt : Nat) (stamp : Stamp) (grantId tenantId actorId : String) :
    Except Raised WorkloadDb := do
  let row ← orRaise (db.workloadGrants.get? grantId) (notFoundError "workload_identity_grant" grantId)
  raiseIf (row.tenantId ≠ tenantId) (notFoundError "workload_identity_grant" grantId)
  match row.state with
  | .revoked => return db
  | .active => do
    let store ← db.toStore.record ops.audit stamp (revokeAudit row actorId)
    let store ← store.emit stamp (workloadEvent row "workload_identity.revoked" actorId
      [("workload_id", .str row.workloadId), ("revoked_at", .str (isoformat revokedAt))])
    return ⟨store, db.workloadGrants.revoke grantId revokedAt⟩

end Using

section Claims
variable (ops : SecurityOperationsService) (row : WorkloadIdentityGrantRow) (stamp : WorkloadStamp)

/-- The claims that are read back from a token of the grant. -/
def tokenClaims : Dict :=
  (ops.tokenCodec.body (workloadClaims row) stamp.encodedAt (remainingSeconds row.expiresAt stamp.remainingAt)).sorted

/-- The last second at which the codec accepts a token of the grant. -/
def lastSecond : Nat := unixSeconds stamp.encodedAt + remainingSeconds row.expiresAt stamp.remainingAt

theorem nodup_workloadClaims : ((workloadClaims row).map Prod.fst).Nodup :=
  (by decide : ["token_type", "jti", "tenant_id", "project_id", "workload_id", "aud", "scopes", "purpose"].Nodup)

theorem get_tokenClaims {key : String} {value : Json} (hkey : key ∉ ["iss", "iat", "exp"])
    (h : (workloadClaims row).lookup key = some value) : Dict.get (ops.tokenClaims row stamp) key = value.normalize :=
  ops.tokenCodec.get_body _ _ _ (nodup_workloadClaims row) hkey h

/-- The grant is for what is asked. -/
structure Allows (row : WorkloadIdentityGrantRow) (ask : WorkloadAsk) : Prop where
  audience : row.audience = ask.audience
  tenant : row.tenantId = ask.tenantId
  project : row.projectId = ask.projectId
  purpose : row.purpose = ask.purpose
  workload : row.workloadId = ask.workloadId
  scope : ask.requiredScope ∈ row.scopesJson

theorem isOption_ofOption (value text : Option String) : isOption (.ofOption value) text = true ↔ value = text := by
  cases value with
  | none =>
    cases text with
    | none => simp [isOption, Json.ofOption]
    | some t => simp [isOption, Json.ofOption]
  | some s =>
    cases text with
    | none => simp [isOption, Json.ofOption]
    | some t => simp [isOption, Json.ofOption]

theorem orEmptySet_texts (texts : List String) : orEmptySet (.texts texts) = .ok (texts.map Json.str) := by
  have hset : Json.asSet (.texts texts) = .ok (texts.map Json.str) := by
    apply Json.asSet_arr_of_hashable
    intro value hvalue
    obtain ⟨text, _, rfl⟩ := List.mem_map.mp hvalue
    rfl
  cases texts with
  | nil => rfl
  | cons text texts =>
    rw [orEmptySet, if_pos]
    · exact hset
    · simp [Json.texts, Json.truthy]

theorem checkClaims_tokenClaims (ask : WorkloadAsk) : checkClaims (ops.tokenClaims row stamp) ask = .ok () ↔ Allows row ask := by
  have hget := @get_tokenClaims ops row stamp
  have htype : Dict.get (ops.tokenClaims row stamp) "token_type" = .str "workload_identity" := by
    rw [hget (by decide) rfl, Json.normalize_str]
  have htenant : Dict.get (ops.tokenClaims row stamp) "tenant_id" = .str row.tenantId := by
    rw [hget (by decide) rfl, Json.normalize_str]
  have hproject : Dict.get (ops.tokenClaims row stamp) "project_id" = .ofOption row.projectId := by
    rw [hget (by decide) rfl, Json.normalize_ofOption]
  have hworkload : Dict.get (ops.tokenClaims row stamp) "workload_id" = .str row.workloadId := by
    rw [hget (by decide) rfl, Json.normalize_str]
  have haudience : Dict.get (ops.tokenClaims row stamp) "aud" = .str row.audience := by
    rw [hget (by decide) rfl, Json.normalize_str]
  have hscopes : Dict.get (ops.tokenClaims row stamp) "scopes" = .texts row.scopesJson := by
    rw [hget (by decide) rfl, Json.texts, normalize_texts]
  have hpurpose : Dict.get (ops.tokenClaims row stamp) "purpose" = .str row.purpose := by
    rw [hget (by decide) rfl, Json.normalize_str]
  have hmem : (row.scopesJson.map Json.str).any (Json.isText ask.requiredScope) = true ↔ ask.requiredScope ∈ row.scopesJson := by
    rw [Json.any_isText_iff]
    simp
  simp only [checkClaims, htype, htenant, hproject, hworkload, haudience, hscopes, hpurpose, orEmptySet_texts, bind_eq_ok,
    raiseIf_eq_ok, Json.isText_iff, isOption_ofOption, Json.str.injEq, not_true_eq_false, false_or, not_not, not_or]
  constructor
  · rintro ⟨_, haud, _, ⟨hten, hproj, hpurp⟩, _, hwork, _, hset, hscope⟩
    cases hset
    exact ⟨haud, hten, hproj, hpurp, hwork, hmem.mp hscope⟩
  · intro h
    exact ⟨(), h.audience, (), ⟨h.tenant, h.project, h.purpose⟩, (), h.workload, _, rfl, hmem.mpr h.scope⟩

end Claims

section Validation
variable {ops : SecurityOperationsService} {db : WorkloadDb} {row : WorkloadIdentityGrantRow} {stamp : WorkloadStamp}

theorem grantOfToken?_tokenClaims (hrow : row ∈ db.workloadGrants.rows) :
    grantOfToken? db (ops.tokenClaims row stamp) = some row := by
  have hjti : Dict.get (ops.tokenClaims row stamp) "jti" = .str row.tokenJti := by
    rw [ops.get_tokenClaims row stamp (by decide) rfl, Json.normalize_str]
  have hown : (Dict.get (ops.tokenClaims row stamp) "jti").isText row.tokenJti = true := by
    rw [hjti, Json.isText_iff]
  cases hfound : grantOfToken? db (ops.tokenClaims row stamp) with
  | none =>
    have hnone := List.find?_eq_none.mp hfound row hrow
    exact absurd hown hnone
  | some found =>
    have hsame : found.tokenJti = row.tokenJti := by
      have htext := List.find?_some hfound
      rw [hjti, Json.isText_iff, Json.str.injEq] at htext
      exact htext.symm
    have hmem : found ∈ db.workloadGrants.rows := List.mem_of_find?_eq_some hfound
    rw [List.inj_on_of_nodup_map db.workloadGrants.uniqueJti hmem hrow hsame]

/-- When a token of a stored grant is accepted. -/
theorem validate_encodeWorkload (hrow : row ∈ db.workloadGrants.rows) (times : ValidationTimes) (ask : WorkloadAsk) :
    (∃ result, ops.validateWorkloadIdentity db times (ops.encodeWorkload row stamp) ask = .ok result) ↔
      Allows row ask ∧ row.state = .active ∧ times.checkedAt < row.expiresAt ∧
        unixSeconds times.decodedAt ≤ lastSecond row stamp := by
  constructor
  · rintro ⟨result, h⟩
    obtain ⟨claims, hdecode, h⟩ := bind_eq_ok.mp h
    obtain ⟨htime, rfl⟩ := ops.tokenCodec.decode_encode_eq_ok _ _ _ (nodup_workloadClaims row) hdecode
    simp only [bind_eq_ok, orRaise_eq_ok, raiseIf_eq_ok] at h
    obtain ⟨_, hclaims, found, hfound, _, hchecks, _⟩ := h
    have hsame : found = row := by
      have hown := @grantOfToken?_tokenClaims ops db row stamp hrow
      exact Option.some.inj (hfound.symm.trans hown)
    subst hsame
    simp only [not_or, not_not, not_le] at hchecks
    exact ⟨(ops.checkClaims_tokenClaims found stamp ask).mp hclaims, hchecks.1, hchecks.2.1, htime⟩
  · rintro ⟨hallows, hactive, hunexpired, htime⟩
    have hdecode := ops.tokenCodec.decode_encode _ stamp.encodedAt _ ops.py (nodup_workloadClaims row) htime
    have hclaims := (ops.checkClaims_tokenClaims row stamp ask).mpr hallows
    refine ⟨workloadResult row none true, bind_eq_ok.mpr ⟨_, hdecode, ?_⟩⟩
    simp only [bind_eq_ok, orRaise_eq_ok, raiseIf_eq_ok]
    refine ⟨(), hclaims, row, grantOfToken?_tokenClaims hrow, (), ?_, rfl⟩
    simp only [not_or, not_not, not_le]
    exact ⟨hactive, hunexpired, hallows.workload, hallows.tenant, hallows.project⟩

/-- The token lasts as long as the grant. The codec counts in whole seconds, and the rest of a second is dropped. -/
def Covers (row : WorkloadIdentityGrantRow) (stamp : WorkloadStamp) : Prop := row.expiresAt ≤ (lastSecond row stamp + 1) * 1000000

theorem unixSeconds_le_of_covers {now : Nat} (h : Covers row stamp) (hnow : now < row.expiresAt) :
    unixSeconds now ≤ lastSecond row stamp := by
  simp only [Covers, unixSeconds] at h ⊢
  omega

end Validation

section Requests
variable {row : WorkloadIdentityGrantRow} {req earlier : WorkloadRequest}

/-- The grant is one for the request. -/
structure IsFor (row : WorkloadIdentityGrantRow) (req : WorkloadRequest) : Prop where
  tenant : row.tenantId = req.tenantId
  project : row.projectId = req.projectId
  workload : row.workloadId = req.workloadId
  audience : row.audience = req.audience
  scopes : row.scopesJson = WorkloadRequest.normalizedScopes req
  purpose : row.purpose = req.purpose

theorem isFor_newGrant (stamp : WorkloadStamp) (req : WorkloadRequest) : IsFor (newGrant stamp req) req :=
  ⟨rfl, rfl, rfl, rfl, rfl, rfl⟩

theorem nodup_body (req : WorkloadRequest) : ((WorkloadRequest.body req).map Prod.fst).Nodup :=
  (by decide : ["tenant_id", "project_id", "workload_id", "audience", "scopes", "purpose", "ttl_seconds"].Nodup)

theorem ofOption_injective {a b : Option String} (h : Json.ofOption a = Json.ofOption b) : a = b := by
  have hown := (isOption_ofOption a a).mpr rfl
  rw [h, isOption_ofOption] at hown
  exact hown.symm

theorem texts_injective {as bs : List String} (h : Json.texts as = Json.texts bs) : as = bs := by
  have hstr : Function.Injective Json.str := fun _ _ hst => Json.str.inj hst
  exact hstr.list_map (Json.arr.inj h)

/-- A grant for a request is one for every request with the same digest, unless the digest has collided. -/
theorem isFor_of_requestHash_eq (hrow : IsFor row earlier)
    (hhash : WorkloadRequest.requestHash earlier = WorkloadRequest.requestHash req)
    (hdistinct : ¬ Sha256Collision (canonicalJson (.obj (WorkloadRequest.body earlier)))
      (canonicalJson (.obj (WorkloadRequest.body req)))) : IsFor row req := by
  have hbytes : canonicalJson (.obj (WorkloadRequest.body earlier)) = canonicalJson (.obj (WorkloadRequest.body req)) := by
    by_contra hne
    exact hdistinct ⟨hne, hex_injective hhash⟩
  have hsame := canonicalJson_obj_lookup (nodup_body earlier) (nodup_body req) hbytes
  have htext : ∀ {key a b}, (WorkloadRequest.body earlier).lookup key = some (.str a) →
      (WorkloadRequest.body req).lookup key = some (.str b) → a = b := by
    intro key a b ha hb
    have h := hsame key
    rw [ha, hb, Option.map_some, Option.map_some, Json.normalize_str, Json.normalize_str, Option.some.injEq] at h
    exact Json.str.inj h
  have hproject : earlier.projectId = req.projectId := by
    have h : some (Json.ofOption earlier.projectId).normalize = some (Json.ofOption req.projectId).normalize :=
      hsame "project_id"
    rw [Json.normalize_ofOption, Json.normalize_ofOption, Option.some.injEq] at h
    exact ofOption_injective h
  have hscopes : WorkloadRequest.normalizedScopes earlier = WorkloadRequest.normalizedScopes req := by
    have h : some (Json.texts (WorkloadRequest.normalizedScopes earlier)).normalize =
        some (Json.texts (WorkloadRequest.normalizedScopes req)).normalize := hsame "scopes"
    rw [Json.texts, Json.texts, normalize_texts, normalize_texts, Option.some.injEq] at h
    exact texts_injective h
  have htenant : earlier.tenantId = req.tenantId := @htext "tenant_id" _ _ rfl rfl
  have hworkload : earlier.workloadId = req.workloadId := @htext "workload_id" _ _ rfl rfl
  have haudience : earlier.audience = req.audience := @htext "audience" _ _ rfl rfl
  have hpurpose : earlier.purpose = req.purpose := @htext "purpose" _ _ rfl rfl
  exact ⟨hrow.tenant.trans htenant, hrow.project.trans hproject, hrow.workload.trans hworkload,
    hrow.audience.trans haudience, hrow.scopes.trans hscopes, hrow.purpose.trans hpurpose⟩

/-- What is asked is what the request was for. -/
def Matches (req : WorkloadRequest) (ask : WorkloadAsk) : Prop :=
  req.audience = ask.audience ∧ req.tenantId = ask.tenantId ∧ req.projectId = ask.projectId ∧ req.purpose = ask.purpose ∧
    req.workloadId = ask.workloadId ∧ ask.requiredScope ∈ WorkloadRequest.normalizedScopes req

theorem allows_iff_matches (h : IsFor row req) (ask : WorkloadAsk) : Allows row ask ↔ Matches req ask := by
  rw [Matches, ← h.tenant, ← h.project, ← h.workload, ← h.audience, ← h.scopes, ← h.purpose]
  constructor
  · intro ha
    exact ⟨ha.audience, ha.tenant, ha.project, ha.purpose, ha.workload, ha.scope⟩
  · rintro ⟨haudience, htenant, hproject, hpurpose, hworkload, hscope⟩
    exact ⟨haudience, htenant, hproject, hpurpose, hworkload, hscope⟩

end Requests

section Ledger
variable (ops : SecurityOperationsService)

structure IssuedToken where
  request : WorkloadRequest
  grantId : String
  token : String

/-- The database, and what a run has seen: the tokens that were returned, the grants that were revoked, and the requests
that failed although nothing is wrong with their arguments. -/
structure WorkloadLedger where
  db : WorkloadDb
  issued : List IssuedToken
  revoked : List String
  failed : List WorkloadRequest

def WorkloadLedger.start (store : Store) : WorkloadLedger := ⟨⟨store, .empty⟩, [], [], []⟩

inductive WorkloadCall where
  | issue (stamp : WorkloadStamp) (req : WorkloadRequest)
  | revoke (revokedAt : Nat) (stamp : Stamp) (grantId tenantId actorId : String)
  | validate (times : ValidationTimes) (token : String) (ask : WorkloadAsk)

/-- The arguments pass every check on them, that of the event payload included. -/
def admissible (db : WorkloadDb) (stamp : WorkloadStamp) (req : WorkloadRequest) : Bool :=
  (checkWorkload req).isOk && (requireProjectScope db.toStore req.tenantId req.projectId).isOk &&
    (validatePayload (issuedPayload (newGrant stamp req))).isOk

def step (ledger : WorkloadLedger) : WorkloadCall → WorkloadLedger
  | .issue stamp req =>
    match ops.issueWorkloadIdentity ledger.db stamp req with
    | .ok (db, result) => { ledger with
        db, issued := ledger.issued ++ result.token.toList.map fun token => ⟨req, result.grantId, token⟩ }
    | .error _ => { ledger with failed := ledger.failed ++ if admissible ledger.db stamp req then [req] else [] }
  | .revoke revokedAt stamp grantId tenantId actorId =>
    match ops.revokeWorkloadIdentity ledger.db revokedAt stamp grantId tenantId actorId with
    | .ok db => { ledger with db, revoked := ledger.revoked ++ [grantId] }
    | .error _ => ledger
  | .validate _ _ _ => ledger

/-- The grant that the token of a call is for. -/
def grantFor (db : WorkloadDb) (stamp : WorkloadStamp) (req : WorkloadRequest) : WorkloadIdentityGrantRow :=
  (liveGrant? db stamp.now req).getD (newGrant stamp req)

/-- The identifiers are new, nothing collides, no grant of the same request has expired or been revoked, and the token
lasts as long as its grant. -/
structure IssueMeets (db : WorkloadDb) (stamp : WorkloadStamp) (req : WorkloadRequest) : Prop where
  freshGrant : stamp.grantId ∉ db.workloadGrants.rows.map fun row => row.grantId
  freshJti : stamp.jti ∉ db.workloadGrants.rows.map fun row => row.tokenJti
  recorded : ∃ log, ops.audit.append db.audit stamp.written.now stamp.written.auditId
    (issueAudit (newGrant stamp req) req.actorId) = .ok log
  distinct : ∀ row ∈ db.workloadGrants.rows, ∀ earlier, IsFor row earlier →
    row.requestHash = WorkloadRequest.requestHash earlier →
      ¬ Sha256Collision (canonicalJson (.obj (WorkloadRequest.body earlier))) (canonicalJson (.obj (WorkloadRequest.body req)))
  live : ∀ row ∈ db.workloadGrants.rows, row.tenantId = req.tenantId → row.requestHash = WorkloadRequest.requestHash req →
    row.state = .active ∧ stamp.now < row.expiresAt
  covers : Covers (grantFor db stamp req) stamp

def Meets (ledger : WorkloadLedger) : WorkloadCall → Prop
  | .issue stamp req => IssueMeets ops ledger.db stamp req
  | _ => True

end Ledger

section Steps
variable {ops : SecurityOperationsService} {db db' : WorkloadDb} {stamp : WorkloadStamp} {req : WorkloadRequest}
  {result : WorkloadResult}

/-- A call that returns a token: for a live grant, or for a new one. -/
theorem issue_ok (h : ops.issueWorkloadIdentity db stamp req = .ok (db', result)) :
    (∃ row, liveGrant? db stamp.now req = some row ∧ db' = db ∧
      result = workloadResult row (some (ops.encodeWorkload row stamp)) true) ∨
    (liveGrant? db stamp.now req = none ∧ db.workloadGrants.insert? (newGrant stamp req) = some db'.workloadGrants ∧
      result = workloadResult (newGrant stamp req) (some (ops.encodeWorkload (newGrant stamp req) stamp)) false) := by
  simp only [issueWorkloadIdentity, bind_eq_ok] at h
  obtain ⟨_, _, _, _, h⟩ := h
  split at h
  · next row hlive =>
    cases h
    exact .inl ⟨row, hlive, rfl, rfl⟩
  · next hlive =>
    simp only [bind_eq_ok, orRaise_eq_ok] at h
    obtain ⟨grants, hgrants, store, _, h⟩ := h
    cases h
    exact .inr ⟨hlive, hgrants, rfl⟩

theorem insert?_rows {grants grants' : WorkloadGrants} {row : WorkloadIdentityGrantRow}
    (h : grants.insert? row = some grants') : grants'.rows = grants.rows ++ [row] := by
  unfold WorkloadGrants.insert? at h
  split at h
  · cases h
    rfl
  · cases h

theorem liveGrant?_spec {now : Nat} {row : WorkloadIdentityGrantRow} (h : liveGrant? db now req = some row) :
    row ∈ db.workloadGrants.rows ∧ row.tenantId = req.tenantId ∧ row.requestHash = WorkloadRequest.requestHash req := by
  have hspec := List.find?_some h
  simp only [decide_eq_true_eq] at hspec
  exact ⟨List.mem_of_find?_eq_some h, hspec.1, hspec.2.1⟩

theorem publishGrant_total {log : AuditLog} (stamp : WorkloadStamp) (row : WorkloadIdentityGrantRow) (actorId : String)
    (hlog : ops.audit.append db.audit stamp.written.now stamp.written.auditId (issueAudit row actorId) = .ok log)
    (hpayload : validatePayload (issuedPayload row) = .ok ()) : ∃ store, ops.publishGrant db.toStore stamp row actorId = .ok store := by
  obtain ⟨event, hevent⟩ := Store.emit_total { db.toStore with audit := log } stamp.written
    (r := workloadEvent row "workload_identity.issued" actorId (issuedPayload row)) rfl rfl rfl hpayload
  refine ⟨_, bind_eq_ok.mpr ⟨_, Store.record_of_append hlog, hevent⟩⟩

/-- A request with nothing wrong succeeds, as long as no grant of the same request has ended. -/
theorem issue_total (hmeets : IssueMeets ops db stamp req) (hadmissible : admissible db stamp req = true) :
    ∃ db' result, ops.issueWorkloadIdentity db stamp req = .ok (db', result) := by
  simp only [admissible, Bool.and_eq_true] at hadmissible
  obtain ⟨⟨hcheck, hscope⟩, hpayload⟩ := hadmissible
  have hcheck := eq_ok_of_isOk hcheck
  have hscope := eq_ok_of_isOk hscope
  have hpayload := eq_ok_of_isOk hpayload
  cases hlive : liveGrant? db stamp.now req with
  | some row =>
    refine ⟨db, workloadResult row (some (ops.encodeWorkload row stamp)) true, ?_⟩
    simp only [issueWorkloadIdentity, bind_eq_ok]
    refine ⟨(), hcheck, (), hscope, ?_⟩
    rw [hlive]
    rfl
  | none =>
    have hrequest : (newGrant stamp req).request ∉ db.workloadGrants.rows.map WorkloadIdentityGrantRow.request := by
      intro hmem
      obtain ⟨row, hrow, hsame⟩ := List.mem_map.mp hmem
      have htenant : row.tenantId = req.tenantId := congrArg Prod.fst hsame
      have hhash : row.requestHash = WorkloadRequest.requestHash req := congrArg Prod.snd hsame
      obtain ⟨hactive, hunexpired⟩ := hmeets.live row hrow htenant hhash
      have hnone := List.find?_eq_none.mp hlive row hrow
      simp [htenant, hhash, hactive, hunexpired] at hnone
    obtain ⟨log, hlog⟩ := hmeets.recorded
    obtain ⟨store, hstore⟩ := publishGrant_total stamp (newGrant stamp req) req.actorId hlog hpayload
    have hinsert : ∃ grants, db.workloadGrants.insert? (newGrant stamp req) = some grants := by
      rw [WorkloadGrants.insert?, dif_pos ⟨hmeets.freshGrant, hmeets.freshJti, hrequest⟩]
      exact ⟨_, rfl⟩
    obtain ⟨grants, hgrants⟩ := hinsert
    refine ⟨⟨store, grants⟩,
      workloadResult (newGrant stamp req) (some (ops.encodeWorkload (newGrant stamp req) stamp)) false, ?_⟩
    simp only [issueWorkloadIdentity, bind_eq_ok]
    refine ⟨(), hcheck, (), hscope, ?_⟩
    rw [hlive]
    simp only [bind_eq_ok, orRaise_eq_ok]
    exact ⟨grants, hgrants, store, hstore, rfl⟩

/-- An expired grant keeps its place in the table, and the same request fails on it. -/
theorem issue_of_ended {row : WorkloadIdentityGrantRow} (hcheck : checkWorkload req = .ok ())
    (hscope : requireProjectScope db.toStore req.tenantId req.projectId = .ok ()) (hrow : row ∈ db.workloadGrants.rows)
    (htenant : row.tenantId = req.tenantId) (hhash : row.requestHash = WorkloadRequest.requestHash req)
    (hended : row.state ≠ .active ∨ row.expiresAt ≤ stamp.now) :
    ops.issueWorkloadIdentity db stamp req = .error (.integrityError "uq_workload_identity_request") := by
  have hlive : liveGrant? db stamp.now req = none := by
    apply List.find?_eq_none.mpr
    intro other hother hfound
    simp only [decide_eq_true_eq] at hfound
    obtain ⟨hten, hreq, hactive, hunexpired⟩ := hfound
    have hsame : other = row := by
      apply List.inj_on_of_nodup_map db.workloadGrants.uniqueRequest hother hrow
      rw [WorkloadIdentityGrantRow.request, WorkloadIdentityGrantRow.request, hten, hreq, htenant, hhash]
    subst hsame
    rcases hended with hstate | hexpired
    · exact hstate hactive
    · omega
  have htaken : db.workloadGrants.insert? (newGrant stamp req) = none := by
    rw [WorkloadGrants.insert?, dif_neg]
    rintro ⟨_, _, hfree⟩
    have hkey : row.request = (newGrant stamp req).request := by
      rw [WorkloadIdentityGrantRow.request, htenant, hhash]
      rfl
    exact hfree (hkey ▸ List.mem_map_of_mem hrow)
  rw [issueWorkloadIdentity, hcheck, hscope]
  simp only [hlive, htaken, orRaise, bind, Except.bind]

/-- A revocation that succeeds leaves the grant revoked, the others as they were. -/
theorem revoke_ok {revokedAt : Nat} {written : Stamp} {grantId tenantId actorId : String}
    (h : ops.revokeWorkloadIdentity db revokedAt written grantId tenantId actorId = .ok db') :
    ∃ row, db.workloadGrants.get? grantId = some row ∧
      ((row.state = .revoked ∧ db' = db) ∨ db'.workloadGrants = db.workloadGrants.revoke grantId revokedAt) := by
  simp only [revokeWorkloadIdentity, bind_eq_ok, orRaise_eq_ok] at h
  obtain ⟨row, hrow, _, _, h⟩ := h
  refine ⟨row, hrow, ?_⟩
  split at h
  · next hrevoked =>
    cases h
    exact .inl ⟨hrevoked, rfl⟩
  · simp only [bind_eq_ok] at h
    obtain ⟨_, _, _, _, h⟩ := h
    cases h
    exact .inr rfl

end Steps

section Runs
variable {ops : SecurityOperationsService} {ledger : WorkloadLedger}

/-- A returned token is one of the grant. -/
structure TokenOf (ops : SecurityOperationsService) (row : WorkloadIdentityGrantRow) (t : IssuedToken) : Prop where
  grantId : row.grantId = t.grantId
  request : IsFor row t.request
  token : ∃ stamp, t.token = ops.encodeWorkload row stamp ∧ Covers row stamp

structure Consistent (ops : SecurityOperationsService) (ledger : WorkloadLedger) : Prop where
  failed : ledger.failed = []
  requests : ∀ row ∈ ledger.db.workloadGrants.rows, ∃ req, IsFor row req ∧ row.requestHash = WorkloadRequest.requestHash req
  states : ∀ row ∈ ledger.db.workloadGrants.rows, row.state = .active ↔ row.grantId ∉ ledger.revoked
  known : ∀ grantId ∈ ledger.revoked, grantId ∈ ledger.db.workloadGrants.rows.map fun row => row.grantId
  issued : ∀ t ∈ ledger.issued, ∃ row ∈ ledger.db.workloadGrants.rows, TokenOf ops row t

theorem consistent_start (store : Store) : Consistent ops (.start store) where
  failed := rfl
  requests := fun _ h => absurd h List.not_mem_nil
  states := fun _ h => absurd h List.not_mem_nil
  known := fun _ h => absurd h List.not_mem_nil
  issued := fun _ h => absurd h List.not_mem_nil

theorem Consistent.reuse (h : Consistent ops ledger) {t : IssuedToken} {row : WorkloadIdentityGrantRow}
    (hrow : row ∈ ledger.db.workloadGrants.rows) (ht : TokenOf ops row t) :
    Consistent ops { ledger with issued := ledger.issued ++ [t] } where
  failed := h.failed
  requests := h.requests
  states := h.states
  known := h.known
  issued := by
    intro u hu
    rcases List.mem_append.mp hu with hold | hnew
    · exact h.issued u hold
    · rw [List.mem_singleton.mp hnew]
      exact ⟨row, hrow, ht⟩

theorem Consistent.add (h : Consistent ops ledger) {db : WorkloadDb} {row : WorkloadIdentityGrantRow} {req : WorkloadRequest}
    (hrows : db.workloadGrants.rows = ledger.db.workloadGrants.rows ++ [row]) (hactive : row.state = .active)
    (hfresh : row.grantId ∉ ledger.db.workloadGrants.rows.map fun row => row.grantId) (hfor : IsFor row req)
    (hhash : row.requestHash = WorkloadRequest.requestHash req) : Consistent ops { ledger with db } where
  failed := h.failed
  requests := by
    intro r hr
    rw [hrows] at hr
    rcases List.mem_append.mp hr with hold | hnew
    · exact h.requests r hold
    · rw [List.mem_singleton.mp hnew]
      exact ⟨req, hfor, hhash⟩
  states := by
    intro r hr
    rw [hrows] at hr
    rcases List.mem_append.mp hr with hold | hnew
    · exact h.states r hold
    · rw [List.mem_singleton.mp hnew]
      have hnot : row.grantId ∉ ledger.revoked := fun hrevoked => hfresh (h.known _ hrevoked)
      exact iff_of_true hactive hnot
  known := by
    intro grantId hrevoked
    rw [hrows, List.map_append]
    exact List.mem_append_left _ (h.known grantId hrevoked)
  issued := by
    intro t ht
    obtain ⟨r, hr, hof⟩ := h.issued t ht
    rw [hrows]
    exact ⟨r, List.mem_append_left _ hr, hof⟩

theorem mem_revoke {grants : WorkloadGrants} {grantId : String} {now : Nat} {row : WorkloadIdentityGrantRow} :
    row ∈ (grants.revoke grantId now).rows ↔
      ∃ old ∈ grants.rows, row = if old.grantId = grantId then old.revoke now else old := by
  simp only [WorkloadGrants.revoke, Table.modify, List.mem_map]
  constructor
  · rintro ⟨old, hold, heq⟩
    exact ⟨old, hold, heq.symm⟩
  · rintro ⟨old, hold, heq⟩
    exact ⟨old, hold, heq.symm⟩

theorem TokenOf.revoke {row : WorkloadIdentityGrantRow} {t : IssuedToken} (h : TokenOf ops row t) (now : Nat) :
    TokenOf ops (row.revoke now) t where
  grantId := h.grantId
  request := ⟨h.request.tenant, h.request.project, h.request.workload, h.request.audience, h.request.scopes,
    h.request.purpose⟩
  token := h.token

theorem Consistent.revoke (h : Consistent ops ledger) {db : WorkloadDb} {grantId : String} {now : Nat}
    (hstored : grantId ∈ ledger.db.workloadGrants.rows.map fun row => row.grantId)
    (hgrants : db.workloadGrants = ledger.db.workloadGrants.revoke grantId now) :
    Consistent ops { ledger with db, revoked := ledger.revoked ++ [grantId] } where
  failed := h.failed
  requests := by
    intro row hrow
    rw [hgrants, mem_revoke] at hrow
    obtain ⟨old, hold, rfl⟩ := hrow
    obtain ⟨req, hfor, hhash⟩ := h.requests old hold
    by_cases hid : old.grantId = grantId
    · rw [if_pos hid]
      exact ⟨req, ⟨hfor.tenant, hfor.project, hfor.workload, hfor.audience, hfor.scopes, hfor.purpose⟩, hhash⟩
    · rw [if_neg hid]
      exact ⟨req, hfor, hhash⟩
  states := by
    intro row hrow
    rw [hgrants, mem_revoke] at hrow
    obtain ⟨old, hold, rfl⟩ := hrow
    by_cases hid : old.grantId = grantId
    · rw [if_pos hid]
      simp [WorkloadIdentityGrantRow.revoke, hid]
    · rw [if_neg hid, h.states old hold]
      simp [hid]
  known := by
    intro id hid
    have hkeys : db.workloadGrants.rows.map (fun row => row.grantId) =
        ledger.db.workloadGrants.rows.map fun row => row.grantId := by
      rw [hgrants]
      simp only [WorkloadGrants.revoke, Table.modify, List.map_map]
      apply List.map_congr_left
      intro row _
      by_cases hrow : row.grantId = grantId
      · simp [hrow, WorkloadIdentityGrantRow.revoke]
      · simp [hrow]
    rw [hkeys]
    rcases List.mem_append.mp hid with hold | hnew
    · exact h.known id hold
    · rw [List.mem_singleton.mp hnew]
      exact hstored
  issued := by
    intro t ht
    obtain ⟨old, hold, hof⟩ := h.issued t ht
    refine ⟨_, hgrants ▸ mem_revoke.mpr ⟨old, hold, rfl⟩, ?_⟩
    by_cases hid : old.grantId = grantId
    · rw [if_pos hid]
      exact hof.revoke now
    · rw [if_neg hid]
      exact hof

theorem consistent_issue (h : Consistent ops ledger) {stamp : WorkloadStamp} {req : WorkloadRequest}
    (hmeets : IssueMeets ops ledger.db stamp req) : Consistent ops (ops.step ledger (.issue stamp req)) := by
  cases hcall : ops.issueWorkloadIdentity ledger.db stamp req with
  | error e =>
    have hnot : admissible ledger.db stamp req = false := by
      by_contra hadmissible
      obtain ⟨db', result, hok⟩ := issue_total hmeets (Bool.eq_true_of_not_eq_false hadmissible)
      cases hcall.symm.trans hok
    have hsame : ops.step ledger (.issue stamp req) = ledger := by
      rw [step, hcall]
      simp [hnot]
    rw [hsame]
    exact h
  | ok outcome =>
    obtain ⟨db', result⟩ := outcome
    have hstep : ops.step ledger (.issue stamp req) = { ledger with
        db := db', issued := ledger.issued ++ result.token.toList.map fun token => ⟨req, result.grantId, token⟩ } := by
      rw [step, hcall]
    rw [hstep]
    have hcovers := hmeets.covers
    rcases issue_ok hcall with ⟨row, hlive, rfl, rfl⟩ | ⟨hlive, hinsert, rfl⟩
    · obtain ⟨hrow, htenant, hhash⟩ := liveGrant?_spec hlive
      obtain ⟨earlier, hearlier, hstored⟩ := h.requests row hrow
      have hfor : IsFor row req := isFor_of_requestHash_eq hearlier (hstored.symm.trans hhash)
        (hmeets.distinct row hrow earlier hearlier hstored)
      rw [grantFor, hlive, Option.getD_some] at hcovers
      exact h.reuse hrow ⟨rfl, hfor, stamp, rfl, hcovers⟩
    · rw [grantFor, hlive, Option.getD_none] at hcovers
      have hrows := insert?_rows hinsert
      have hadd : Consistent ops { ledger with db := db' } :=
        h.add hrows rfl hmeets.freshGrant (isFor_newGrant stamp req) rfl
      have hrow : newGrant stamp req ∈ db'.workloadGrants.rows := by
        rw [hrows]
        exact List.mem_append_right _ (List.mem_singleton_self _)
      exact hadd.reuse hrow ⟨rfl, isFor_newGrant stamp req, stamp, rfl, hcovers⟩

theorem consistent_revoke (h : Consistent ops ledger) (revokedAt : Nat) (stamp : Stamp) (grantId tenantId actorId : String) :
    Consistent ops (ops.step ledger (.revoke revokedAt stamp grantId tenantId actorId)) := by
  cases hcall : ops.revokeWorkloadIdentity ledger.db revokedAt stamp grantId tenantId actorId with
  | error e =>
    have hsame : ops.step ledger (.revoke revokedAt stamp grantId tenantId actorId) = ledger := by
      rw [step, hcall]
    rw [hsame]
    exact h
  | ok db' =>
    have hstep : ops.step ledger (.revoke revokedAt stamp grantId tenantId actorId) =
        { ledger with db := db', revoked := ledger.revoked ++ [grantId] } := by
      rw [step, hcall]
    rw [hstep]
    obtain ⟨row, hfound, hrevoked | hgrants⟩ := revoke_ok hcall
    · obtain ⟨hstate, rfl⟩ := hrevoked
      obtain ⟨hmem, hid⟩ := (Table.get?_eq_some_iff _ _ _).mp hfound
      have hin : grantId ∈ ledger.revoked := by
        by_contra hout
        have hactive := (h.states row hmem).mpr (hid ▸ hout)
        rw [hstate] at hactive
        cases hactive
      refine ⟨h.failed, h.requests, ?_, ?_, h.issued⟩
      · intro r hr
        rw [h.states r hr]
        simp only [List.mem_append, List.mem_singleton, not_or]
        constructor
        · intro hout
          exact ⟨hout, fun heq => hout (heq ▸ hin)⟩
        · exact And.left
      · intro id hmember
        rcases List.mem_append.mp hmember with hold | hnew
        · exact h.known id hold
        · exact h.known id (List.mem_singleton.mp hnew ▸ hin)
    · obtain ⟨hmem, hid⟩ := (Table.get?_eq_some_iff _ _ _).mp hfound
      exact h.revoke (List.mem_map.mpr ⟨row, hmem, hid⟩) hgrants

theorem consistent_step (ledger : WorkloadLedger) (call : WorkloadCall) (hmeets : Meets ops ledger call)
    (h : Consistent ops ledger) : Consistent ops (ops.step ledger call) := by
  cases call with
  | issue stamp req => exact consistent_issue h hmeets
  | revoke revokedAt stamp grantId tenantId actorId => exact consistent_revoke h revokedAt stamp grantId tenantId actorId
  | validate times token ask => exact h

/-- The grant has not expired. -/
def Unexpired (db : WorkloadDb) (grantId : String) (now : Nat) : Prop :=
  ∃ row ∈ db.workloadGrants.rows, row.grantId = grantId ∧ now < row.expiresAt

theorem Consistent.validates_iff (h : Consistent ops ledger) {t : IssuedToken} (ht : t ∈ ledger.issued)
    {times : ValidationTimes} (htimes : times.decodedAt ≤ times.checkedAt) (ask : WorkloadAsk) :
    (∃ result, ops.validateWorkloadIdentity ledger.db times t.token ask = .ok result) ↔
      Matches t.request ask ∧ Unexpired ledger.db t.grantId times.checkedAt ∧ t.grantId ∉ ledger.revoked := by
  obtain ⟨row, hrow, hof⟩ := h.issued t ht
  obtain ⟨stamp, htoken, hcovers⟩ := hof.token
  rw [htoken, validate_encodeWorkload hrow, allows_iff_matches hof.request, h.states row hrow, hof.grantId]
  constructor
  · rintro ⟨hmatches, hlive, hunexpired, _⟩
    exact ⟨hmatches, ⟨row, hrow, hof.grantId, hunexpired⟩, hlive⟩
  · rintro ⟨hmatches, ⟨other, hother, hid, hunexpired⟩, hlive⟩
    have hsame : other = row :=
      List.inj_on_of_nodup_map ledger.db.workloadGrants.nodup hother hrow (hid.trans hof.grantId.symm)
    subst hsame
    refine ⟨hmatches, hlive, hunexpired, ?_⟩
    exact unixSeconds_le_of_covers hcovers (lt_of_le_of_lt htimes hunexpired)

/-- In a run in which no request comes back after its grant has ended and every token lasts as long as its grant, every
admissible request succeeds, and each token is good for exactly its own request until its grant expires or is revoked. -/
theorem issued_tokens_validate (store : Store) {calls : List WorkloadCall}
    (hmeets : Along ops.step (Meets ops) (.start store) calls) :
    (run ops.step (.start store) calls).failed = [] ∧
    ∀ t ∈ (run ops.step (.start store) calls).issued, ∀ times : ValidationTimes, times.decodedAt ≤ times.checkedAt → ∀ ask,
      ((∃ result, ops.validateWorkloadIdentity (run ops.step (.start store) calls).db times t.token ask = .ok result) ↔
        Matches t.request ask ∧ Unexpired (run ops.step (.start store) calls).db t.grantId times.checkedAt ∧
          t.grantId ∉ (run ops.step (.start store) calls).revoked) := by
  have hfinal : Consistent ops (run ops.step (.start store) calls) :=
    run_invariant_along consistent_step (consistent_start store) hmeets
  refine ⟨hfinal.failed, ?_⟩
  intro t ht times htimes ask
  exact hfinal.validates_iff ht htimes ask

end Runs

section Sample
open HybridControl (wholePython zeroCodec)

def plainOperations : SecurityOperationsService := ⟨.zeroKey, zeroCodec, wholePython⟩

/-- What a node of the edge asks for. -/
def edgeRequest : WorkloadRequest where
  tenantId := "t1"
  projectId := none
  workloadId := "edge:n1"
  audience := "sip-edge-runtime"
  scopes := ["deployment:edge_runtime"]
  purpose := "edge_runtime"
  ttlSeconds := 900
  actorId := "ana"

/-- A call at one instant. -/
def stampAt (now : Nat) (grantId jti auditId : String) : WorkloadStamp := ⟨now, grantId, jti, now, now, ⟨now, auditId⟩⟩

def firstStamp : WorkloadStamp := stampAt 0 "g1" "j1" "a1"

/-- A second after the grant has expired. -/
def laterStamp : WorkloadStamp := stampAt 901000000 "g2" "j2" "a2"

theorem validatePayload_edge {stamp : WorkloadStamp}
    (hexpiry : (isoformat (newGrant stamp edgeRequest).expiresAt).toList.length ≤ 64) :
    validatePayload (issuedPayload (newGrant stamp edgeRequest)) = .ok () := by
  have hscopes : WorkloadRequest.normalizedScopes edgeRequest = ["deployment:edge_runtime"] := by decide
  have hkeys : (issuedPayload (newGrant stamp edgeRequest)).map Prod.fst =
      ["workload_id", "audience", "scopes", "purpose", "expires_at"] := rfl
  apply validatePayload_brief hkeys rfl (by decide)
  intro field hfield
  simp only [issuedPayload, newGrant, hscopes, List.mem_cons, List.not_mem_nil, or_false] at hfield
  rcases hfield with rfl | rfl | rfl | rfl | rfl
  · exact brief_str (by decide)
  · exact brief_str (by decide)
  · exact RepresentationService.brief_text (by decide)
  · exact brief_str (by decide)
  · exact brief_str hexpiry

theorem admissible_edge (db : WorkloadDb) {stamp : WorkloadStamp}
    (hexpiry : (isoformat (newGrant stamp edgeRequest).expiresAt).toList.length ≤ 64) :
    admissible db stamp edgeRequest = true := by
  have hcheck : (checkWorkload edgeRequest).isOk = true := by decide
  have hpayload : (validatePayload (issuedPayload (newGrant stamp edgeRequest))).isOk = true := by
    rw [validatePayload_edge hexpiry]
    rfl
  rw [admissible, hcheck, hpayload]
  rfl

theorem admissible_firstStamp (db : WorkloadDb) : admissible db firstStamp edgeRequest = true :=
  admissible_edge db (by decide)

theorem admissible_laterStamp (db : WorkloadDb) : admissible db laterStamp edgeRequest = true :=
  admissible_edge db (by decide)

theorem issueMeets_first : IssueMeets plainOperations (WorkloadLedger.start .empty).db firstStamp edgeRequest where
  freshGrant := List.not_mem_nil
  freshJti := List.not_mem_nil
  recorded := AuditService.append_empty _ _ _ _
  distinct := fun _ h => absurd h List.not_mem_nil
  live := fun _ h => absurd h List.not_mem_nil
  covers := by
    have hexpires : (grantFor (WorkloadLedger.start .empty).db firstStamp edgeRequest).expiresAt = 900000000 := rfl
    rw [Covers, lastSecond, hexpires]
    decide

/-- A credential that is asked for, and revoked later. -/
def edgeCalls : List WorkloadCall := [.issue firstStamp edgeRequest, .revoke 5000000 ⟨5000000, "a2"⟩ "g1" "t1" "ana"]

theorem meets_edgeCalls : Along plainOperations.step (Meets plainOperations) (.start .empty) edgeCalls :=
  ⟨issueMeets_first, trivial, trivial⟩

theorem issued_tokens_validate_edge : Along plainOperations.step (Meets plainOperations) (.start .empty) edgeCalls ∧
    (run plainOperations.step (.start .empty) edgeCalls).failed = [] ∧
    ∀ t ∈ (run plainOperations.step (.start .empty) edgeCalls).issued, ∀ times : ValidationTimes,
      times.decodedAt ≤ times.checkedAt → ∀ ask,
        ((∃ result, plainOperations.validateWorkloadIdentity (run plainOperations.step (.start .empty) edgeCalls).db times
            t.token ask = .ok result) ↔
          Matches t.request ask ∧ Unexpired (run plainOperations.step (.start .empty) edgeCalls).db t.grantId times.checkedAt ∧
            t.grantId ∉ (run plainOperations.step (.start .empty) edgeCalls).revoked) :=
  ⟨meets_edgeCalls, issued_tokens_validate .empty meets_edgeCalls⟩

/-- The credential has expired, and the same request cannot have another one. -/
theorem renewal_after_expiry_fails : (run plainOperations.step (.start .empty)
    [.issue firstStamp edgeRequest, .issue laterStamp edgeRequest]).failed = [edgeRequest] := by
  obtain ⟨db', result, hfirst⟩ := issue_total issueMeets_first (admissible_firstStamp _)
  have hrows : db'.workloadGrants.rows = [newGrant firstStamp edgeRequest] := by
    rcases issue_ok hfirst with ⟨row, hlive, _⟩ | ⟨_, hinsert, _⟩
    · exact absurd (liveGrant?_spec hlive).1 List.not_mem_nil
    · exact insert?_rows hinsert
  have hstep : plainOperations.step (.start .empty) (.issue firstStamp edgeRequest) = { WorkloadLedger.start .empty with
      db := db', issued := result.token.toList.map fun token => ⟨edgeRequest, result.grantId, token⟩ } := by
    rw [step, hfirst]
    rfl
  have hrefused : plainOperations.issueWorkloadIdentity db' laterStamp edgeRequest =
      .error (.integrityError "uq_workload_identity_request") := by
    have hold : newGrant firstStamp edgeRequest ∈ db'.workloadGrants.rows := by
      rw [hrows]
      exact List.mem_singleton_self _
    have hcheck : checkWorkload edgeRequest = .ok () := eq_ok_of_isOk (by decide)
    exact issue_of_ended hcheck rfl hold rfl rfl (Or.inr (by decide))
  rw [run_cons, hstep, run_cons, run_nil, step, hrefused]
  simp only [admissible_laterStamp, if_true]
  rfl

end Sample

end SecurityOperationsService

end Sip
