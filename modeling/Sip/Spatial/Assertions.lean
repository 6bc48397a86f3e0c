import Sip.Assets.Service
import Sip.Policy.Service
import Sip.Spatial.Merge

/-!
# Listing assertions

An assertion is listed if every piece of evidence it names is open to the caller:
project policy, the asset's classification and region, the access policy and the
consent scope of the evidence, and the consent grants it refers to. The rows are
selected and cut off at the limit first and tested afterwards.
-/

namespace Sip

set_option autoImplicit false

def Audience.value : Audience → String
  | .private => "private"
  | .family => "family"
  | .project => "project"
  | .owner => "owner"
  | .public => "public"

/-- What `_assertion_dict` shows of an assertion. -/
structure AssertionColumns where
  assertionId : String
  subjectId : String
  predicate : String
  objectJson : Json
  sourceClass : String
  authorityClass : String
  confidence : PyFloat
  evidenceIdsJson : List String
  assertedAt : Nat
  validFrom : Option Nat := none
  validTo : Option Nat := none
  authorId : Option String := none
  producerId : Option String := none
  conflictsWithJson : List String := []
  supersedesAssertionId : Option String := none
  state : String := "active"
  createdBy : String
  createdAt : Nat

structure AssertionRow extends AssertionColumns where
  tenantId : String
  projectId : String

/-- An evidence record with the columns that decide on access to it. -/
structure EvidenceAccessRow extends EvidenceRecordRow where
  assetId : String
  relevantRegionJson : Dict
  consentScopeJson : Dict
  accessPolicyJson : Dict

structure ConsentGrantRow where
  grantId : String
  tenantId : String
  projectId : String
  purposesJson : List String
  audiencesJson : List String
  scopesJson : List String
  expiresAt : Option Nat
  revokedAt : Option Nat
  state : String := "active"
  derivativePolicyJson : Dict := []

structure AssertionDb where
  audit : AuditLog
  assertions : Table AssertionRow (fun row => row.assertionId)
  evidence : Table EvidenceAccessRow (fun row => row.evidenceId)
  refs : Table AssetRefRow (fun row => row.assetId)
  grants : Table ConsentGrantRow (fun row => row.grantId)

/-- The conversions of the interpreter that access policies go through; `fromisoformat` fails with a `ValueError`. -/
structure Conversions extends PyText where
  fromisoformat : String → Option Nat

structure EvidenceDecision where
  allowed : Bool
  reason : String

structure AssertionListRequest where
  tenantId : String
  projectId : String
  purpose : Option String := none
  subjectId : Option String := none
  predicate : Option String := none
  states : Option (List String) := none
  limit : Int := 100

structure AssertionItem extends AssertionColumns where
  authorizedCount : Nat
  allAuthorized : Bool := true

structure AssertionListing where
  items : List AssertionItem
  withheldCount : Option Nat
  limit : Int

namespace SpatialDataService

section Access
variable (py : Conversions)

/-- `purpose.strip()`, if there is anything left. -/
def normalizedPurpose (purpose : Option String) : Option String :=
  given (purpose.map fun text => String.ofList (strip text.toList))

/-- `{str(value) for value in document.get(key, [])}`. -/
def textSet (document : Dict) (key : String) : Except Raised (List String) := do
  let values ← ((document.lookup key).getD (.arr [])).iterate
  return values.map py.str

/-- The first check that refuses, or raises, decides. -/
def firstDenial : List (Except Raised (Option String)) → Except Raised (Option String)
  | [] => .ok none
  | check :: checks => do
    match ← check with
    | some reason => return some reason
    | none => firstDenial checks

def denyIf (condition : Prop) [Decidable condition] (reason : String) : Except Raised (Option String) :=
  .ok (if condition then some reason else none)

/-- The access policy of the evidence. -/
def policyDenial (policy : Dict) (principal : SignedPrincipal) (purpose : Option String) : Except Raised (Option String) :=
  firstDenial [
    denyIf (policy.get "deny_all").truthy "EVIDENCE_POLICY_DENY_ALL",
    do denyIf (principal.subjectId ∈ (← textSet py policy "denied_subject_ids")) "EVIDENCE_SUBJECT_DENIED",
    do
      let allowed ← textSet py policy "allowed_subject_ids"
      denyIf (allowed ≠ [] ∧ principal.subjectId ∉ allowed) "EVIDENCE_SUBJECT_NOT_ALLOWED",
    do
      let allowed ← textSet py policy "allowed_roles"
      denyIf (allowed ≠ [] ∧ ¬ principal.roles.any (· ∈ allowed)) "EVIDENCE_ROLE_DENIED",
    do
      let allowed ← textSet py policy "allowed_audiences"
      denyIf (allowed ≠ [] ∧ principal.audience.value ∉ allowed ∧ principal.audience ≠ .private)
        "EVIDENCE_AUDIENCE_DENIED",
    do
      let allowed ← textSet py policy "allowed_purposes"
      if allowed = [] then return none
      match purpose with
      | none => return some "EVIDENCE_PURPOSE_REQUIRED"
      | some purpose =>
        if purpose ∉ allowed then return some "EVIDENCE_PURPOSE_DENIED"
        denyIf (purpose ∉ principal.purposes ∧ "tenant_admin" ∉ principal.roles) "PURPOSE_DENIED"]

def policyTimeInvalid : Raised :=
  validationError "EVIDENCE_POLICY_TIME_INVALID" "evidence consent expiry must be an ISO-8601 timestamp"

def policyTime (value : Json) : Except Raised (Option Nat) :=
  match value with
  | .null => .ok none
  | .str text =>
    if text = "" then .ok none
    else do
      let normalized := strip text.toList
      let normalized := if normalized.getLast? = some 'Z' then normalized.dropLast ++ "+00:00".toList else normalized
      return some (← orRaise (py.fromisoformat (String.ofList normalized)) policyTimeInvalid)
  | _ => .error policyTimeInvalid

/-- The consent that is declared with the evidence. -/
def consentDenial (consent : Dict) (now : Nat) (principal : SignedPrincipal) (purpose : Option String) :
    Except Raised (Option String) :=
  let state := (strip (py.str ((consent.lookup "state").getD (.str "active"))).toList).map lowerChar
  firstDenial [
    denyIf ((consent.get "revoked").truthy ∨ String.ofList state ∈ ["revoked", "withdrawn", "denied"])
      "EVIDENCE_CONSENT_REVOKED",
    do denyIf ((← policyTime py (consent.get "expires_at")).any (· ≤ now)) "EVIDENCE_CONSENT_EXPIRED",
    do
      let audiences ← textSet py consent "allowed_audiences"
      denyIf (audiences ≠ [] ∧ principal.audience.value ∉ audiences) "EVIDENCE_CONSENT_AUDIENCE_DENIED",
    do
      let purposes ← textSet py consent "allowed_purposes"
      if purposes = [] then return none
      match purpose with
      | none => return some "EVIDENCE_CONSENT_PURPOSE_REQUIRED"
      | some purpose => denyIf (purpose ∉ purposes) "EVIDENCE_CONSENT_PURPOSE_DENIED"]

def consentGrantIds (consent : Dict) : Except Raised (List String) := do
  let grants ← textSet py consent "consent_grant_ids"
  let more ← textSet py consent "grant_ids"
  return sortedSet id ((grants ++ more).filter fun text => strip text.toList ≠ [])

def requiredScopes (consent : Dict) : Except Raised (List String) := do
  let raw := (consent.lookup "required_scopes").getD (.arr [.str "evidence:read"])
  let scopes ← match raw with
    | .str text => pure [text]
    | raw => if raw.truthy then do return (← raw.iterate).map py.str else pure ["evidence:read"]
  let scopes := scopes.filter (· ≠ "")
  return if scopes = [] then ["evidence:read"] else scopes

/-- A consent grant that the evidence refers to. -/
def grantDenial (db : AssertionDb) (row : EvidenceAccessRow) (scopes : List String) (now : Nat)
    (principal : SignedPrincipal) (purpose : Option String) (grantId : String) : Option String :=
  match (db.grants.get? grantId).filter fun grant => grant.tenantId = row.tenantId ∧ grant.projectId = row.projectId with
  | none => some "EVIDENCE_CONSENT_GRANT_UNAVAILABLE"
  | some grant =>
    if grant.state ≠ "active" ∨ grant.revokedAt ≠ none then some "EVIDENCE_CONSENT_GRANT_REVOKED"
    else if grant.expiresAt.any (· ≤ now) then some "EVIDENCE_CONSENT_GRANT_EXPIRED"
    else if purpose.all (· ∉ grant.purposesJson) then some "EVIDENCE_CONSENT_GRANT_PURPOSE_DENIED"
    else if principal.audience.value ∉ grant.audiencesJson then some "EVIDENCE_CONSENT_GRANT_AUDIENCE_DENIED"
    else if "*" ∉ grant.scopesJson ∧ ¬ scopes.all (· ∈ grant.scopesJson) then
      some "EVIDENCE_CONSENT_GRANT_SCOPE_DENIED"
    else none

def grantsDenial (db : AssertionDb) (row : EvidenceAccessRow) (now : Nat) (principal : SignedPrincipal)
    (purpose : Option String) : Except Raised (Option String) := do
  let grantIds ← consentGrantIds py row.consentScopeJson
  let scopes ← requiredScopes py row.consentScopeJson
  return grantIds.findSome? (grantDenial db row scopes now principal purpose)

def evidenceRequest (row : EvidenceAccessRow) (asset : AssetRefRow) (purpose : Option String) : AccessRequest where
  action := "asset:read"
  tenantId := row.tenantId
  projectId := some row.projectId
  purpose := purpose
  classification := asset.classification
  spatialRegionId :=
    let region := row.relevantRegionJson.get "region_id"
    if region.truthy then some (py.str region) else none
  auditDenial := false

def evidenceAccessDecision (db : AssertionDb) (now : Nat) (row : EvidenceAccessRow) (asset : AssetRefRow)
    (principal : SignedPrincipal) (purpose : Option String) : Except Raised EvidenceDecision := do
  let purpose := normalizedPurpose purpose
  let denied ← firstDenial [
    denyIf (asset.tombstonedAt ≠ none) "EVIDENCE_SOURCE_TOMBSTONED",
    PolicyService.denial principal (evidenceRequest py row asset purpose),
    policyDenial py row.accessPolicyJson principal purpose,
    consentDenial py row.consentScopeJson now principal purpose,
    grantsDenial py db row now principal purpose]
  match denied with
  | some reason => return { allowed := false, reason }
  | none => return { allowed := true, reason := "ALLOW" }

/-- The evidence of an assertion with its assets, or nothing if a piece of it is not open to the caller. -/
def authorizedEvidence (db : AssertionDb) (now : Nat) (row : AssertionRow) (principal : SignedPrincipal)
    (purpose : Option String) : List String → Except Raised (Option (List (EvidenceAccessRow × AssetRefRow)))
  | [] => .ok (some [])
  | evidenceId :: evidenceIds =>
    match (db.evidence.get? evidenceId).filter fun evidence =>
        evidence.tenantId = row.tenantId ∧ evidence.projectId = row.projectId with
    | none => .ok none
    | some evidence =>
      match (db.refs.get? evidence.assetId).filter fun asset =>
          asset.tenantId = row.tenantId ∧ asset.projectId = row.projectId with
      | none => .ok none
      | some asset => do
        let decision ← evidenceAccessDecision py db now evidence asset principal purpose
        if decision.allowed then
          let rest ← authorizedEvidence db now row principal purpose evidenceIds
          return rest.map ((evidence, asset) :: ·)
        else return none

/-- Without an audit entry for each piece and without an error for a refusal, as a listing asks for it. -/
def authorizedAssertionEvidence (db : AssertionDb) (now : Nat) (row : AssertionRow) (principal : SignedPrincipal)
    (purpose : Option String) : Except Raised (Option (List (EvidenceAccessRow × AssetRefRow))) :=
  authorizedEvidence py db now row principal purpose (distinctBy id row.evidenceIdsJson)

end Access

section Listing
variable (svc : AuditService) (py : Conversions)

def collectionRequest (req : AssertionListRequest) : AccessRequest where
  action := "scene:read"
  tenantId := req.tenantId
  projectId := some req.projectId
  purpose := normalizedPurpose req.purpose
  classification := "internal"
  auditDenial := false

def collectionDenied (principal : SignedPrincipal) (req : AssertionListRequest) (reason : String) : AuditRequest where
  tenantId := req.tenantId
  projectId := some req.projectId
  actorId := principal.subjectId
  action := "assertion:list"
  resourceType := "assertion_collection"
  resourceId := req.projectId
  outcome := "denied"
  details := some [("reason", .str reason), ("purpose", .ofOption (normalizedPurpose req.purpose))]

/-- A refusal leaves an audit entry of its own. -/
def requireAssertionCollectionAccess (log : AuditLog) (stamp : Stamp) (principal : SignedPrincipal)
    (req : AssertionListRequest) : AuditLog × Except Raised Unit :=
  match PolicyService.denial principal (collectionRequest req) with
  | .error e => (log, .error e)
  | .ok none => (log, .ok ())
  | .ok (some reason) => match svc.append log stamp.now stamp.auditId (collectionDenied principal req reason) with
    | .error e => (log, .error e)
    | .ok log => (log, .error (authorizationError reason "assertion access denied by server-side project policy"
        [("resource_id", .str req.projectId)]))

def allowedStates : List String := ["active", "disputed", "superseded", "withdrawn"]

def normalizedStates (req : AssertionListRequest) : List String := sortedSet id (req.states.getD [])

/-- `ORDER BY asserted_at DESC, assertion_id DESC`. -/
def listingKey (row : AssertionRow) : (Nat ×ₗ String)ᵒᵈ := OrderDual.toDual (toLex (row.assertedAt, row.assertionId))

def Matches (req : AssertionListRequest) (row : AssertionRow) : Prop :=
  row.tenantId = req.tenantId ∧ row.projectId = req.projectId ∧
    (given req.subjectId).all (row.subjectId = ·) ∧ (given req.predicate).all (row.predicate = ·) ∧
    (normalizedStates req = [] ∨ row.state ∈ normalizedStates req)

instance (req : AssertionListRequest) (row : AssertionRow) : Decidable (Matches req row) :=
  inferInstanceAs (Decidable (_ ∧ _ ∧ _ ∧ _ ∧ _))

/-- The matching rows in the order of the query, before its limit. -/
def matchingRows (db : AssertionDb) (req : AssertionListRequest) : List AssertionRow :=
  sortBy listingKey (db.assertions.rows.filter (Matches req))

/-- Roles that learn how many assertions were withheld. -/
def privilegedPolicyRoles : List String := ["tenant_admin", "project_admin", "privacy_officer", "reviewer"]

def listingAudit (principal : SignedPrincipal) (req : AssertionListRequest) (returned withheld : Nat) : AuditRequest where
  tenantId := req.tenantId
  projectId := some req.projectId
  actorId := principal.subjectId
  action := "assertion:list"
  resourceType := "assertion_collection"
  resourceId := req.projectId
  outcome := "allowed"
  details := some [("returned_count", .int returned), ("withheld_count", .int withheld),
    ("states", .arr ((normalizedStates req).map .str))]

/-- The loop over the selected rows: the items, and how many rows were withheld. -/
def collectItems (db : AssertionDb) (now : Nat) (principal : SignedPrincipal) (purpose : Option String) :
    List AssertionRow → Except Raised (List AssertionItem × Nat)
  | [] => .ok ([], 0)
  | row :: rows => do
    let evidence ← authorizedAssertionEvidence py db now row principal purpose
    let (items, withheld) ← collectItems db now principal purpose rows
    match evidence with
    | none => return (items, withheld + 1)
    | some evidence => return ({ row with authorizedCount := evidence.length } :: items, withheld)

def listSelected (db : AssertionDb) (stamp : Stamp) (principal : SignedPrincipal) (req : AssertionListRequest) :
    Except Raised (AuditLog × AssertionListing) := do
  raiseIf (req.limit < 1 ∨ 500 < req.limit)
    (validationError "ASSERTION_LIST_LIMIT_INVALID" "assertion list limit must be between 1 and 500")
  raiseIf (∃ state ∈ normalizedStates req, state ∉ allowedStates)
    (validationError "ASSERTION_STATE_FILTER_INVALID" "assertion state filter contains an unsupported value"
      [("states", .arr ((normalizedStates req).map .str))])
  let (items, withheld) ← collectItems py db stamp.now principal req.purpose
    ((matchingRows db req).take req.limit.toNat)
  let log ← svc.append db.audit stamp.now stamp.auditId (listingAudit principal req items.length withheld)
  let disclosed := if principal.roles.any (· ∈ privilegedPolicyRoles) then some withheld else none
  return (log, { items, withheldCount := disclosed, limit := req.limit })

/-- The audit log afterwards, and what the caller gets. -/
def listAssertions (db : AssertionDb) (stamp : Stamp) (principal : SignedPrincipal) (req : AssertionListRequest) :
    AuditLog × Except Raised AssertionListing :=
  match requireAssertionCollectionAccess svc db.audit stamp principal req with
  | (log, .error e) => (log, .error e)
  | (_, .ok ()) => match listSelected svc py db stamp principal req with
    | .error e => (db.audit, .error e)
    | .ok (log, listing) => (log, .ok listing)

end Listing

end SpatialDataService

end Sip
