import Sip.Foundation.Base64
import Sip.Foundation.PlainDigests
import Sip.Security.WorkloadIdentity

/-!
# Edge nodes

A node is enrolled with a workload identity, reports its health, takes offline updates
and can be revoked. Four calls write its state, and each of them looks for the
revocation itself, except the one that rolls an update back.
-/

namespace Sip

set_option autoImplicit false

inductive DeploymentMode where
  | localOnly | edge | hybrid | singleTenantCloud | multiTenantCloud | awsReference
  deriving DecidableEq

def DeploymentMode.value : DeploymentMode → String
  | .localOnly => "local_only"
  | .edge => "edge"
  | .hybrid => "hybrid"
  | .singleTenantCloud => "single_tenant_cloud"
  | .multiTenantCloud => "multi_tenant_cloud"
  | .awsReference => "aws_reference"

/-- The state of profiles, bindings and policies. -/
inductive PolicyState where
  | active | superseded
  deriving DecidableEq

def PolicyState.value : PolicyState → String
  | .active => "active"
  | .superseded => "superseded"

inductive EdgeState where
  | enrolled | healthy | degraded | offline | quarantined | revoked
  deriving DecidableEq

def EdgeState.value : EdgeState → String
  | .enrolled => "enrolled"
  | .healthy => "healthy"
  | .degraded => "degraded"
  | .offline => "offline"
  | .quarantined => "quarantined"
  | .revoked => "revoked"

inductive ApplicationState where
  | applied | rolledBack
  deriving DecidableEq

def ApplicationState.value : ApplicationState → String
  | .applied => "applied"
  | .rolledBack => "rolled_back"

structure TenantRow where
  tenantId : String

structure DeploymentProfileRow where
  deploymentProfileId : String
  mode : DeploymentMode
  supportedRegionsJson : List String := []
  state : PolicyState := .active

structure EdgeNodeRow where
  edgeNodeId : String
  tenantId : String
  projectId : Option String
  deploymentProfileId : String
  nodeIdentity : String
  identityPublicKeyHash : String
  workloadIdentityGrantId : String
  softwareRelease : String
  softwareManifestHash : String
  softwareSignature : String
  signingKeyId : String
  diskEncryptionJson : Dict := []
  region : String
  capabilitiesJson : Dict := []
  healthJson : Dict := []
  state : EdgeState := .enrolled
  enrollmentHash : String
  enrolledBy : String
  lastSeenAt : Option Nat := none
  revokedBy : Option String := none
  revokedAt : Option Nat := none
  revocationReason : Option String := none

structure OfflineUpdatePackageRow where
  updateId : String
  deploymentProfileId : String
  fromRelease : String
  toRelease : String
  manifestHash : String
  signature : String
  rollbackBundleHash : String
  rollbackSignature : String

structure EdgeUpdateApplicationRow where
  applicationId : String
  edgeNodeId : String
  updateId : String
  previousRelease : String
  targetRelease : String
  state : ApplicationState := .applied
  applicationHash : String
  appliedBy : String
  rolledBackAt : Option Nat := none
  rollbackReason : Option String := none

structure EdgeDb extends WorkloadDb where
  tenants : Table TenantRow (fun row => row.tenantId)
  profiles : Table DeploymentProfileRow (fun row => row.deploymentProfileId)
  nodes : Table EdgeNodeRow (fun row => row.edgeNodeId)
  updates : Table OfflineUpdatePackageRow (fun row => row.updateId)
  applications : Table EdgeUpdateApplicationRow (fun row => row.applicationId)

/-- `security_ops` may be missing. -/
structure DeploymentControl where
  audit : AuditService
  signingKey : Bytes
  long : 32 ≤ signingKey.length
  securityOps : Option SecurityOperationsService
  py : PyText

namespace DeploymentControl

section Patterns

/-- The zeros of the decimal digits of Unicode, each followed by its other nine. -/
def decimalZeros : List Nat := [
  0x30, 0x660, 0x6F0, 0x7C0, 0x966, 0x9E6, 0xA66, 0xAE6, 0xB66, 0xBE6, 0xC66, 0xCE6, 0xD66, 0xDE6, 0xE50, 0xED0, 0xF20,
  0x1040, 0x1090, 0x17E0, 0x1810, 0x1946, 0x19D0, 0x1A80, 0x1A90, 0x1B50, 0x1BB0, 0x1C40, 0x1C50, 0xA620, 0xA8D0, 0xA900,
  0xA9D0, 0xA9F0, 0xAA50, 0xABF0, 0xFF10, 0x104A0, 0x10D30, 0x11066, 0x110F0, 0x11136, 0x111D0, 0x112F0, 0x11450, 0x114D0,
  0x11650, 0x116C0, 0x11730, 0x118E0, 0x11950, 0x11C50, 0x11D50, 0x11DA0, 0x16A60, 0x16AC0, 0x16B50, 0x1D7CE, 0x1D7D8,
  0x1D7E2, 0x1D7EC, 0x1D7F6, 0x1E140, 0x1E2F0, 0x1E950, 0x1FBF0]

/-- `\d` -/
def isDecimal (c : Char) : Bool := decimalZeros.any fun first => first ≤ c.toNat ∧ c.toNat ≤ first + 9

/-- `[a-z]+-\d` -/
def isZone (cs : List Char) : Bool :=
  let name := cs.takeWhile Char.isLower
  match cs.drop name.length with
  | ['-', digit] => name ≠ [] && isDecimal digit
  | _ => false

/-- `^[a-z]{2}(?:-gov)?-[a-z]+-\d$` -/
def isCloudRegion : List Char → Bool
  | a :: b :: '-' :: cs => a.isLower && b.isLower &&
      (isZone cs || match cs with
        | 'g' :: 'o' :: 'v' :: '-' :: rest => isZone rest
        | _ => false)
  | _ => false

/-- `^[a-z][a-z0-9-]{1,31}$` -/
def isPlainRegion : List Char → Bool
  | [] => false
  | c :: cs => c.isLower && cs.all (fun c => c.isLower || c.isDigit || c = '-') && 1 ≤ cs.length && cs.length ≤ 31

def isRegion (text : String) : Bool := isCloudRegion text.toList || isPlainRegion text.toList

/-- `_SAFE_ID` -/
def isSafeId : List Char → Bool
  | [] => false
  | c :: cs => c.isAlphanum && cs.all (fun c => c.isAlphanum || c ∈ ['_', '.', ':', '@', '/', '-']) && cs.length ≤ 255

/-- `^[0-9a-f]{40}$` -/
def isGitSha (text : String) : Bool := text.toList.length = 40 && isHexText text.toList

/-- `^[a-z0-9][a-z0-9./_-]*:[A-Za-z0-9_.-]+@sha256:[0-9a-f]{64}$` -/
def isImage (text : String) : Bool :=
  let name := text.toList.takeWhile (· ≠ ':')
  let tagged := (text.toList.dropWhile (· ≠ ':')).tail
  let tag := tagged.takeWhile (· ≠ '@')
  let named : Bool := match name with
    | [] => false
    | c :: cs => (c.isLower || c.isDigit) && cs.all fun c => c.isLower || c.isDigit || c ∈ ['.', '/', '_', '-']
  match tagged.drop tag.length with
  | '@' :: 's' :: 'h' :: 'a' :: '2' :: '5' :: '6' :: ':' :: digest => named && tag ≠ [] &&
      tag.all (fun c => c.isAlphanum || c ∈ ['_', '.', '-']) && digest.length = 64 && isHexText digest
  | _ => false

/-- `base64.b64decode(text, validate=True)` -/
def b64decodeStrict (text : String) : Option Bytes :=
  let body := text.toList.takeWhile (· ≠ '=')
  let pads := text.toList.drop body.length
  if body.all (fun c => (base64Value? c).isSome) ∧ pads = List.replicate pads.length '=' ∧ pads.length ≤ 2 ∧
      text.toList.length % 4 = 0 then b64decode text
  else none

end Patterns

section Signatures

/-- Characters of the alphabet, padded to groups of four. -/
structure Padded (text : List Char) (body : List Char) (pads : Nat) : Prop where
  text_eq : text = body ++ List.replicate pads '='
  alphabet : ∀ c ∈ body, (base64Value? c).isSome = true ∧ c ≠ '='
  pads_le : pads ≤ 2
  groups : text.length % 4 = 0

theorem alphabet_base64Char {n : Nat} (hn : n < 64) : (base64Value? (base64Char n)).isSome = true ∧ base64Char n ≠ '=' := by
  constructor
  · rw [base64Value_char n hn]
    rfl
  · exact base64Char_ne_pad n hn

theorem padded_base64Text (data : Bytes) : ∃ body pads, Padded (base64Text data) body pads := by
  induction data using base64Text.induct with
  | case1 => exact ⟨[], 0, rfl, fun _ h => absurd h List.not_mem_nil, Nat.zero_le 2, rfl⟩
  | case2 a =>
    have ha := a.toNat_lt
    refine ⟨[base64Char (a.toNat / 4), base64Char (a.toNat % 4 * 16)], 2, rfl, ?_, le_refl 2, by simp [base64Text]⟩
    simp only [List.mem_cons, List.not_mem_nil, or_false, forall_eq_or_imp, forall_eq]
    exact ⟨alphabet_base64Char (by omega), alphabet_base64Char (by omega)⟩
  | case3 a b =>
    have ha := a.toNat_lt
    have hb := b.toNat_lt
    refine ⟨[base64Char (a.toNat / 4), base64Char (a.toNat % 4 * 16 + b.toNat / 16), base64Char (b.toNat % 16 * 4)], 1, rfl,
      ?_, by decide, by simp [base64Text]⟩
    simp only [List.mem_cons, List.not_mem_nil, or_false, forall_eq_or_imp, forall_eq]
    exact ⟨alphabet_base64Char (by omega), alphabet_base64Char (by omega), alphabet_base64Char (by omega)⟩
  | case4 a b c rest ih =>
    have ha := a.toNat_lt
    have hb := b.toNat_lt
    have hc := c.toNat_lt
    obtain ⟨body, pads, h⟩ := ih
    refine ⟨base64Char (a.toNat / 4) :: base64Char (a.toNat % 4 * 16 + b.toNat / 16) ::
      base64Char (b.toNat % 16 * 4 + c.toNat / 64) :: base64Char (c.toNat % 64) :: body, pads, ?_, ?_, h.pads_le, ?_⟩
    · rw [base64Text, h.text_eq]
      rfl
    · simp only [List.mem_cons, forall_eq_or_imp]
      exact ⟨alphabet_base64Char (by omega), alphabet_base64Char (by omega), alphabet_base64Char (by omega),
        alphabet_base64Char (by omega), h.alphabet⟩
    · have hgroups := h.groups
      simp only [base64Text, List.length_cons]
      omega

theorem b64decodeStrict_b64encode (data : Bytes) : b64decodeStrict (b64encode data) = some data := by
  obtain ⟨body, pads, h⟩ := padded_base64Text data
  have hbody : (base64Text data).takeWhile (· ≠ '=') = body := by
    rw [h.text_eq, List.takeWhile_append_of_pos]
    · cases pads with
      | zero => simp
      | succ n => simp [List.replicate_succ]
    · intro c hc
      exact decide_eq_true (h.alphabet c hc).2
  have hpads : (base64Text data).drop body.length = List.replicate pads '=' := by
    rw [h.text_eq, List.drop_left]
  have halphabet : body.all (fun c => (base64Value? c).isSome) = true := by
    rw [List.all_eq_true]
    exact fun c hc => (h.alphabet c hc).1
  simp only [b64decodeStrict, b64encode, String.toList_ofList, hbody, hpads, List.length_replicate]
  rw [if_pos ⟨halphabet, trivial, h.pads_le, h.groups⟩]
  exact b64decode_b64encode data

end Signatures

section Checks
variable (dep : DeploymentControl)

/-- The signature of a digest, in Base64. -/
def sign (digest : String) : String := b64encode (hmacSha256 dep.signingKey (utf8 digest.toList))

def signManifest (manifest : Dict) : String := dep.sign (canonicalSha256 (.obj manifest))

/-- `_verify_signature` -/
def verifySignature (digest signature : String) : Bool :=
  match b64decodeStrict signature with
  | none => false
  | some actual => actual = hmacSha256 dep.signingKey (utf8 digest.toList)

theorem verifySignature_sign (digest : String) : dep.verifySignature digest (dep.sign digest) = true := by
  rw [verifySignature, sign, b64decodeStrict_b64encode]
  exact decide_eq_true rfl

/-- `_validate_identifier` -/
def validateIdentifier (value code : String) : Except Raised Unit :=
  raiseIf (isSafeId (strip value.toList) = false) (validationError code "identifier contains invalid characters")

/-- `_require_sha256` -/
def requireSha256 (value code : String) : Except Raised Unit :=
  raiseIf (isDigest value = false) (validationError code "value must be a lowercase SHA-256 digest")

/-- `_validate_regions` -/
def validateRegions (values : List String) : Except Raised (List String) := do
  let result := sortedSet id values
  raiseIf (result = [] ∨ ¬ result.all isRegion) (validationError "DEPLOYMENT_REGION_INVALID" "region list is empty or invalid")
  return result

/-- `_require_profile` -/
def requireProfile (db : EdgeDb) (profileId : String) : Except Raised DeploymentProfileRow :=
  orRaise (db.profiles.get? profileId) (notFoundError "deployment_profile" profileId)

/-- `_require_tenant` -/
def requireTenant (db : EdgeDb) (tenantId : String) : Except Raised TenantRow :=
  orRaise (db.tenants.get? tenantId) (notFoundError "tenant" tenantId)

/-- `_require_project` -/
def requireProject (db : EdgeDb) (tenantId projectId : String) : Except Raised ProjectRow := do
  let row ← orRaise (db.projects.get? projectId) (notFoundError "project" projectId)
  raiseIf (row.tenantId ≠ tenantId) (notFoundError "project" projectId)
  return row

/-- The node of a call, if it is one of the tenant. -/
def tenantNode (db : EdgeDb) (tenantId edgeNodeId : String) : Except Raised EdgeNodeRow := do
  let row ← orRaise (db.nodes.get? edgeNodeId) (notFoundError "edge_node" edgeNodeId)
  raiseIf (row.tenantId ≠ tenantId) (notFoundError "edge_node" edgeNodeId)
  return row

end Checks

section Writing
variable (dep : DeploymentControl)

/-- `_edge` -/
def edge (row : EdgeNodeRow) (replay : Bool) : Dict := [
  ("edge_node_id", .str row.edgeNodeId), ("tenant_id", .str row.tenantId), ("project_id", .ofOption row.projectId),
  ("deployment_profile_id", .str row.deploymentProfileId), ("node_identity", .str row.nodeIdentity),
  ("identity_public_key_hash", .str row.identityPublicKeyHash),
  ("workload_identity_grant_id", .str row.workloadIdentityGrantId), ("software_release", .str row.softwareRelease),
  ("software_manifest_hash", .str row.softwareManifestHash), ("signing_key_id", .str row.signingKeyId),
  ("disk_encryption", .obj row.diskEncryptionJson), ("region", .str row.region), ("capabilities", .obj row.capabilitiesJson),
  ("health", .obj row.healthJson), ("state", .str row.state.value), ("enrollment_hash", .str row.enrollmentHash),
  ("last_seen_at", .ofOption (row.lastSeenAt.map isoformat)), ("revoked_at", .ofOption (row.revokedAt.map isoformat)),
  ("idempotent_replay", .bool replay)]

/-- `_event` about an edge node -/
def nodeEvent (row : EdgeNodeRow) (tenantId eventType actorId : String) (payload : Dict) : EventRequest where
  eventType := eventType
  schemaVersion := "1.0.0"
  tenantId := tenantId
  projectId := row.projectId.getD ""
  aggregateType := "edge_node"
  aggregateId := row.edgeNodeId
  payload := payload
  producer := "deployment-control"
  actorId := some actorId
  workloadIdentity := none

def nodeAudit (row : EdgeNodeRow) (tenantId action actorId : String) (details : Dict) : AuditRequest where
  tenantId := tenantId
  projectId := row.projectId
  actorId := actorId
  action := action
  resourceType := "edge_node"
  resourceId := row.edgeNodeId
  outcome := "allowed"
  details := some details

/-- An event and an audit entry about a node. -/
def publishNode (store : Store) (stamp : Stamp) (event : EventRequest) (audit : AuditRequest) : Except Raised Store := do
  let store ← store.emit stamp event
  store.record dep.audit stamp audit

end Writing

section Enrollment
variable (dep : DeploymentControl)

structure EnrollmentRequest where
  tenantId : String
  projectId : Option String
  deploymentProfileId : String
  nodeIdentity : String
  identityPublicKeyHash : String
  softwareManifest : Dict
  softwareSignature : String
  signingKeyId : String
  diskEncryption : Dict
  region : String
  capabilities : Dict
  actorId : String

/-- What an enrollment draws: for its workload identity, for its own transaction, and the node's identifier. -/
structure EnrollmentStamp where
  workload : WorkloadStamp
  written : Stamp
  edgeNodeId : String

def EnrollmentRequest.manifestHash (req : EnrollmentRequest) : String := canonicalSha256 (.obj req.softwareManifest)

def EnrollmentRequest.digest (req : EnrollmentRequest) : String := canonicalSha256 (.obj [
  ("tenant_id", .str req.tenantId), ("project_id", .ofOption req.projectId),
  ("deployment_profile_id", .str req.deploymentProfileId), ("node_identity", .str req.nodeIdentity),
  ("identity_public_key_hash", .str req.identityPublicKeyHash),
  ("software_manifest_hash", .str (EnrollmentRequest.manifestHash req)), ("disk_encryption", .obj req.diskEncryption),
  ("region", .str req.region), ("capabilities", .obj req.capabilities)])

/-- `str(manifest.get(key, default))` -/
def textOr (fields : Dict) (key default : String) : String := dep.py.str ((Dict.get? fields key).getD (.str default))

def isTrue : Json → Bool
  | .bool true => true
  | _ => false

/-- The checks of the arguments and the profile. -/
def checkEnrollment (db : EdgeDb) (req : EnrollmentRequest) : Except Raised Unit := do
  validateIdentifier req.nodeIdentity "EDGE_IDENTITY_INVALID"
  requireSha256 req.identityPublicKeyHash "EDGE_PUBLIC_KEY_HASH_INVALID"
  let _ ← validateRegions [req.region]
  let profile ← requireProfile db req.deploymentProfileId
  raiseIf (profile.mode ∉ [.edge, .hybrid, .localOnly])
    (validationError "EDGE_PROFILE_MODE_INVALID" "edge enrollment requires an edge-capable profile")
  raiseIf (¬ isTrue (Dict.get req.diskEncryption "enabled") ∨ ¬ isTrue (Dict.get req.diskEncryption "attested") ∨
      ¬ isDigest (dep.textOr req.diskEncryption "attestation_hash" ""))
    (validationError "EDGE_DISK_ENCRYPTION_REQUIRED" "edge disk encryption must be enabled and attested")
  raiseIf (dep.verifySignature (EnrollmentRequest.manifestHash req) req.softwareSignature = false)
    (authorizationError "EDGE_SOFTWARE_SIGNATURE_INVALID" "edge software signature is invalid")
  raiseIf (¬ isImage (dep.textOr req.softwareManifest "image" "") ∨
      ¬ isGitSha (dep.textOr req.softwareManifest "source_commit" "") ∨
      strip (dep.textOr req.softwareManifest "release" "").toList = [])
    (validationError "EDGE_SOFTWARE_MANIFEST_INVALID"
      "edge software manifest must pin image digest, full source commit, and release")

/-- `if project_id: self._require_project(..)` -/
def requireScope (db : EdgeDb) (req : EnrollmentRequest) : Except Raised Unit := do
  let _ ← requireTenant db req.tenantId
  match req.projectId with
  | none => return ()
  | some projectId =>
    if projectId = "" then return ()
    else do
      let _ ← requireProject db req.tenantId projectId
      return ()

def enrolledNode? (db : EdgeDb) (digest : String) : Option EdgeNodeRow :=
  db.nodes.rows.find? fun row => row.enrollmentHash = digest

/-- The workload identity that a node is given. -/
def identityRequest (req : EnrollmentRequest) : WorkloadRequest where
  tenantId := req.tenantId
  projectId := req.projectId
  workloadId := "edge:" ++ req.nodeIdentity
  audience := "sip-edge-runtime"
  scopes := ["deployment:edge_runtime"]
  purpose := "edge_runtime"
  ttlSeconds := 900
  actorId := req.actorId

def newNode (edgeNodeId : String) (req : EnrollmentRequest) (workload : WorkloadResult) : EdgeNodeRow where
  edgeNodeId := edgeNodeId
  tenantId := req.tenantId
  projectId := req.projectId
  deploymentProfileId := req.deploymentProfileId
  nodeIdentity := req.nodeIdentity
  identityPublicKeyHash := req.identityPublicKeyHash
  workloadIdentityGrantId := workload.grantId
  softwareRelease := dep.textOr req.softwareManifest "release" "unknown"
  softwareManifestHash := EnrollmentRequest.manifestHash req
  softwareSignature := req.softwareSignature
  signingKeyId := req.signingKeyId
  diskEncryptionJson := req.diskEncryption
  region := req.region
  capabilitiesJson := req.capabilities
  healthJson := [("status", .str "enrolled"), ("workload_identity_expires_at", .str workload.expiresAt)]
  enrollmentHash := EnrollmentRequest.digest req
  enrolledBy := req.actorId

/-- The unique columns besides the key. -/
def sharesColumn (row other : EdgeNodeRow) : Bool :=
  row.nodeIdentity = other.nodeIdentity || row.identityPublicKeyHash = other.identityPublicKeyHash ||
    row.workloadIdentityGrantId = other.workloadIdentityGrantId || row.enrollmentHash = other.enrollmentHash

def insertNode (nodes : Table EdgeNodeRow (fun row => row.edgeNodeId)) (row : EdgeNodeRow) :
    Except Raised (Table EdgeNodeRow (fun row => row.edgeNodeId)) := do
  raiseIf (nodes.rows.any (sharesColumn row)) (.integrityError "edge_nodes")
  orRaise (nodes.insert? row) (.integrityError "edge_nodes")

/-- The transaction that follows the workload identity. -/
def storeNode (db : EdgeDb) (stamp : EnrollmentStamp) (req : EnrollmentRequest) (workload : WorkloadResult) :
    Except Raised (EdgeDb × Dict) := do
  match enrolledNode? db (EnrollmentRequest.digest req) with
  | some existing => return (db, edge existing true)
  | none => do
    let row := dep.newNode stamp.edgeNodeId req workload
    let nodes ← insertNode db.nodes row
    let store ← dep.publishNode db.toStore stamp.written
      (nodeEvent row req.tenantId "deployment.edge.enrolled" req.actorId [("region", .str req.region),
        ("profile_id", .str req.deploymentProfileId), ("software_manifest_hash", .str row.softwareManifestHash)])
      (nodeAudit row req.tenantId "deployment.edge.enroll" req.actorId [("enrollment_hash", .str row.enrollmentHash)])
    return ({ db with toStore := store, nodes }, edge row false)

/-- What is known before a workload identity is asked for: the node that the enrollment repeats. -/
def readEnrollment (db : EdgeDb) (req : EnrollmentRequest) : Except Raised (Option EdgeNodeRow) := do
  dep.checkEnrollment db req
  requireScope db req
  return enrolledNode? db (EnrollmentRequest.digest req)

/-- The workload identity is issued in a transaction of its own, which stays even when the one for the node fails. -/
def enrollEdgeNode (db : EdgeDb) (stamp : EnrollmentStamp) (req : EnrollmentRequest) : EdgeDb × Except Raised Dict :=
  match dep.readEnrollment db req with
  | .error e => (db, .error e)
  | .ok (some existing) => (db, .ok (edge existing true))
  | .ok none =>
    match dep.securityOps with
    | none => (db, .error (authorizationError "EDGE_WORKLOAD_IDENTITY_UNAVAILABLE"
        "edge enrollment requires the security workload-identity service"))
    | some ops =>
      match ops.issueWorkloadIdentity db.toWorkloadDb stamp.workload (identityRequest req) with
      | .error e => (db, .error e)
      | .ok (workloads, workload) =>
        let issued := { db with toWorkloadDb := workloads }
        match dep.storeNode issued stamp req workload with
        | .error e => (issued, .error e)
        | .ok (stored, result) => (stored, .ok result)

end Enrollment

section Calls
variable (dep : DeploymentControl)

def healthState? : String → Option EdgeState
  | "healthy" => some .healthy
  | "degraded" => some .degraded
  | "offline" => some .offline
  | "quarantined" => some .quarantined
  | _ => none

def EdgeNodeRow.reported (row : EdgeNodeRow) (health : Dict) (state : EdgeState) (now : Nat) : EdgeNodeRow :=
  { row with healthJson := health, lastSeenAt := some now, state }

/-- `seenAt` is the reading for `last_seen_at`. -/
def reportEdgeHealth (db : EdgeDb) (seenAt : Nat) (stamp : Stamp) (tenantId edgeNodeId : String) (health : Dict)
    (actorId : String) : Except Raised (EdgeDb × Dict) := do
  let row ← tenantNode db tenantId edgeNodeId
  raiseIf (row.state = .revoked) (authorizationError "EDGE_NODE_REVOKED" "revoked edge node cannot report health")
  raiseIf (dep.py.str (Dict.get health "software_manifest_hash") ≠ row.softwareManifestHash)
    (conflictError "EDGE_SOFTWARE_DRIFT" "edge health report software hash differs from enrolled manifest")
  let state ← orRaise (healthState? (dep.textOr health "status" ""))
    (validationError "EDGE_HEALTH_STATUS_INVALID" "edge health status is invalid")
  let row' := EdgeNodeRow.reported row health state seenAt
  let store ← db.toStore.emit stamp (nodeEvent row tenantId "deployment.edge.health_reported" actorId
    [("status", .str state.value), ("software_manifest_hash", .str row.softwareManifestHash)])
  return ({ db with toStore := store, nodes := db.nodes.set row' }, edge row' false)

def EdgeNodeRow.revoke (row : EdgeNodeRow) (reason actorId : String) (now : Nat) : EdgeNodeRow :=
  { row with
    state := .revoked, revokedBy := some actorId, revokedAt := some now,
    revocationReason := some (String.ofList (strip reason.toList)) }

structure RevocationStamp where
  revokedAt : Nat
  written : Stamp
  grantRevokedAt : Nat
  grantWritten : Stamp

/-- The transaction on the node, with the grant that is to be revoked afterwards. -/
def revokeNode (db : EdgeDb) (stamp : RevocationStamp) (tenantId edgeNodeId reason actorId : String) :
    Except Raised (EdgeDb × Dict × Option String) := do
  raiseIf (strip reason.toList = [])
    (validationError "EDGE_REVOCATION_REASON_REQUIRED" "edge revocation requires a reason")
  let row ← tenantNode db tenantId edgeNodeId
  if row.state = .revoked then return (db, edge row true, none)
  else do
    let row' := EdgeNodeRow.revoke row reason actorId stamp.revokedAt
    let store ← dep.publishNode db.toStore stamp.written
      (nodeEvent row tenantId "deployment.edge.revoked" actorId [("reason_code", .str "EDGE_ADMINISTRATIVE_REVOCATION")])
      (nodeAudit row tenantId "deployment.edge.revoke" actorId [("reason", .str (String.ofList (strip reason.toList)))])
    return ({ db with toStore := store, nodes := db.nodes.set row' }, edge row' false, some row.workloadIdentityGrantId)

/-- The node is revoked first; revoking its grant afterwards can still fail. -/
def revokeEdgeNode (db : EdgeDb) (stamp : RevocationStamp) (tenantId edgeNodeId reason actorId : String) :
    EdgeDb × Except Raised Dict :=
  match dep.revokeNode db stamp tenantId edgeNodeId reason actorId with
  | .error e => (db, .error e)
  | .ok (stored, result, none) => (stored, .ok result)
  | .ok (stored, result, some grantId) =>
    match dep.securityOps with
    | none => (stored, .ok result)
    | some ops =>
      match ops.revokeWorkloadIdentity stored.toWorkloadDb stamp.grantRevokedAt stamp.grantWritten grantId tenantId actorId with
      | .error e => (stored, .error e)
      | .ok workloads => ({ stored with toWorkloadDb := workloads }, .ok result)

/-- The application of an update to a node. -/
def application? (db : EdgeDb) (edgeNodeId updateId : String) : Option EdgeUpdateApplicationRow :=
  db.applications.rows.find? fun row => row.edgeNodeId = edgeNodeId ∧ row.updateId = updateId

def EdgeNodeRow.update (node : EdgeNodeRow) (update : OfflineUpdatePackageRow) : EdgeNodeRow :=
  { node with
    softwareManifestHash := update.manifestHash, softwareRelease := update.toRelease, state := .enrolled,
    healthJson := Dict.merge node.healthJson [("release", .str update.toRelease),
      ("previous_software_manifest_hash", .str node.softwareManifestHash),
      ("rollback_bundle_hash", .str update.rollbackBundleHash)] }

def newApplication (applicationId edgeNodeId currentRelease actorId : String) (update : OfflineUpdatePackageRow) :
    EdgeUpdateApplicationRow where
  applicationId := applicationId
  edgeNodeId := edgeNodeId
  updateId := update.updateId
  previousRelease := currentRelease
  targetRelease := update.toRelease
  applicationHash := canonicalSha256 (.obj [("edge_node_id", .str edgeNodeId), ("update_id", .str update.updateId),
    ("previous_release", .str currentRelease), ("target_release", .str update.toRelease)])
  appliedBy := actorId

def insertApplication (applications : Table EdgeUpdateApplicationRow (fun row => row.applicationId))
    (row : EdgeUpdateApplicationRow) : Except Raised (Table EdgeUpdateApplicationRow (fun row => row.applicationId)) := do
  raiseIf (applications.rows.any fun r => r.applicationHash = row.applicationHash)
    (.integrityError "edge_update_applications")
  orRaise (applications.insert? row) (.integrityError "edge_update_applications")

structure UpdateArguments where
  tenantId : String
  edgeNodeId : String
  updateId : String
  currentRelease : String
  actorId : String

/-- The node and the update of a call. -/
def nodeAndUpdate (db : EdgeDb) (tenantId edgeNodeId updateId : String) :
    Except Raised (EdgeNodeRow × OfflineUpdatePackageRow) := do
  let node ← tenantNode db tenantId edgeNodeId
  let update ← orRaise (db.updates.get? updateId) (notFoundError "offline_update" updateId)
  return (node, update)

def checkUpdate (node : EdgeNodeRow) (update : OfflineUpdatePackageRow) (currentRelease : String) : Except Raised Unit := do
  raiseIf (node.state = .revoked) (authorizationError "EDGE_NODE_REVOKED" "revoked node cannot apply updates")
  raiseIf (update.deploymentProfileId ≠ node.deploymentProfileId ∨ update.fromRelease ≠ currentRelease)
    (conflictError "OFFLINE_UPDATE_BASE_MISMATCH" "offline update does not match node profile or current release")
  raiseIf (dep.verifySignature update.manifestHash update.signature = false)
    (authorizationError "OFFLINE_UPDATE_SIGNATURE_INVALID" "stored offline update signature is invalid")

def applyResult (edgeNodeId : String) (update : OfflineUpdatePackageRow) (release : String) (state : ApplicationState)
    (replay : Bool) : Dict := [
  ("edge_node_id", .str edgeNodeId), ("update_id", .str update.updateId), ("release", .str release),
  ("rollback_bundle_hash", .str update.rollbackBundleHash), ("state", .str state.value), ("idempotent_replay", .bool replay)]

def applyOfflineUpdate (db : EdgeDb) (applicationId : String) (stamp : Stamp) (args : UpdateArguments) :
    Except Raised (EdgeDb × Dict) := do
  let (node, update) ← nodeAndUpdate db args.tenantId args.edgeNodeId args.updateId
  dep.checkUpdate node update args.currentRelease
  match application? db args.edgeNodeId args.updateId with
  | some existing => return (db, applyResult args.edgeNodeId update existing.targetRelease existing.state true)
  | none => do
    let applications ← insertApplication db.applications
      (newApplication applicationId args.edgeNodeId args.currentRelease args.actorId update)
    let store ← db.toStore.emit stamp (nodeEvent node args.tenantId "deployment.update.applied" args.actorId
      [("update_id", .str args.updateId), ("from_release", .str update.fromRelease), ("to_release", .str update.toRelease),
        ("rollback_available", .bool true)])
    return ({ db with toStore := store, nodes := db.nodes.set (EdgeNodeRow.update node update), applications },
      applyResult args.edgeNodeId update update.toRelease .applied false)

structure RollbackArguments where
  tenantId : String
  edgeNodeId : String
  updateId : String
  reason : String
  actorId : String

def EdgeUpdateApplicationRow.rollback (row : EdgeUpdateApplicationRow) (reason : String) (now : Nat) :
    EdgeUpdateApplicationRow :=
  { row with
    state := .rolledBack, rolledBackAt := some now, rollbackReason := some (String.ofList (strip reason.toList)) }

/-- `str(node.health_json.get("previous_software_manifest_hash", node.software_manifest_hash))` -/
def previousManifestHash (node : EdgeNodeRow) : String :=
  dep.textOr node.healthJson "previous_software_manifest_hash" node.softwareManifestHash

def EdgeNodeRow.rollback (node : EdgeNodeRow) (application : EdgeUpdateApplicationRow) (reason : String) : EdgeNodeRow :=
  { node with
    softwareRelease := application.previousRelease, softwareManifestHash := dep.previousManifestHash node,
    state := .enrolled,
    healthJson := Dict.merge node.healthJson [("release", .str application.previousRelease),
      ("rollback_reason", .str (String.ofList (strip reason.toList)))] }

def rollbackResult (args : RollbackArguments) (application : EdgeUpdateApplicationRow) (replay : Bool) : Dict := [
  ("edge_node_id", .str args.edgeNodeId), ("update_id", .str args.updateId), ("release", .str application.previousRelease),
  ("state", .str ApplicationState.rolledBack.value), ("idempotent_replay", .bool replay)]

/-- The checks of a rollback, up to the application that it finds. -/
def readRollback (db : EdgeDb) (args : RollbackArguments) :
    Except Raised (EdgeNodeRow × OfflineUpdatePackageRow × EdgeUpdateApplicationRow) := do
  raiseIf (strip args.reason.toList = [])
    (validationError "OFFLINE_ROLLBACK_REASON_REQUIRED" "rollback requires a reason")
  let (node, update) ← nodeAndUpdate db args.tenantId args.edgeNodeId args.updateId
  let application ← orRaise (application? db args.edgeNodeId args.updateId)
    (notFoundError "edge_update_application" (args.edgeNodeId ++ ":" ++ args.updateId))
  return (node, update, application)

/-- `rolledBackAt` is the reading for the application. -/
def rollbackOfflineUpdate (db : EdgeDb) (rolledBackAt : Nat) (stamp : Stamp) (args : RollbackArguments) :
    Except Raised (EdgeDb × Dict) := do
  let (node, update, application) ← readRollback db args
  if application.state = .rolledBack then return (db, rollbackResult args application true)
  else do
    raiseIf (dep.verifySignature update.rollbackBundleHash update.rollbackSignature = false)
      (authorizationError "OFFLINE_ROLLBACK_SIGNATURE_INVALID" "stored rollback signature is invalid")
    let store ← dep.publishNode db.toStore stamp
      (nodeEvent node args.tenantId "deployment.update.rolled_back" args.actorId [("update_id", .str args.updateId),
        ("release", .str application.previousRelease), ("reason_code", .str "OPERATOR_ROLLBACK")])
      (nodeAudit node args.tenantId "deployment.update.rollback" args.actorId [("update_id", .str args.updateId),
        ("target_release", .str application.previousRelease)])
    return ({ db with
      toStore := store, nodes := db.nodes.set (EdgeNodeRow.rollback dep node application args.reason),
      applications := db.applications.set (EdgeUpdateApplicationRow.rollback application args.reason rolledBackAt) },
      rollbackResult args application false)

end Calls

section Runs
variable (dep : DeploymentControl)

inductive EdgeCall where
  | enroll (stamp : EnrollmentStamp) (req : EnrollmentRequest)
  | report (seenAt : Nat) (stamp : Stamp) (tenantId edgeNodeId : String) (health : Dict) (actorId : String)
  | apply (applicationId : String) (stamp : Stamp) (args : UpdateArguments)
  | rollback (rolledBackAt : Nat) (stamp : Stamp) (args : RollbackArguments)
  | revoke (stamp : RevocationStamp) (tenantId edgeNodeId reason actorId : String)

/-- What a transaction leaves: nothing, if it fails. -/
def committed (db : EdgeDb) (outcome : Except Raised (EdgeDb × Dict)) : EdgeDb :=
  match outcome with
  | .ok (db', _) => db'
  | .error _ => db

def edgeStep (db : EdgeDb) : EdgeCall → EdgeDb
  | .enroll stamp req => (dep.enrollEdgeNode db stamp req).1
  | .report seenAt stamp tenantId edgeNodeId health actorId =>
    committed db (dep.reportEdgeHealth db seenAt stamp tenantId edgeNodeId health actorId)
  | .apply applicationId stamp args => committed db (dep.applyOfflineUpdate db applicationId stamp args)
  | .rollback rolledBackAt stamp args => committed db (dep.rollbackOfflineUpdate db rolledBackAt stamp args)
  | .revoke stamp tenantId edgeNodeId reason actorId => (dep.revokeEdgeNode db stamp tenantId edgeNodeId reason actorId).1

end Runs

section Outcomes
variable {dep : DeploymentControl} {db db' : EdgeDb} {result : Dict}

theorem tenantNode_eq_ok {tenantId edgeNodeId : String} {row : EdgeNodeRow} :
    tenantNode db tenantId edgeNodeId = .ok row ↔ db.nodes.get? edgeNodeId = some row ∧ row.tenantId = tenantId := by
  simp only [tenantNode, bind_eq_ok, orRaise_eq_ok, raiseIf_eq_ok, not_not]
  constructor
  · rintro ⟨found, hfound, _, htenant, h⟩
    cases h
    exact ⟨hfound, htenant⟩
  · rintro ⟨hfound, htenant⟩
    exact ⟨row, hfound, (), htenant, rfl⟩

theorem nodeAndUpdate_eq_ok {tenantId edgeNodeId updateId : String} {node : EdgeNodeRow} {update : OfflineUpdatePackageRow} :
    nodeAndUpdate db tenantId edgeNodeId updateId = .ok (node, update) ↔
      (db.nodes.get? edgeNodeId = some node ∧ node.tenantId = tenantId) ∧ db.updates.get? updateId = some update := by
  simp only [nodeAndUpdate, bind_eq_ok, orRaise_eq_ok, tenantNode_eq_ok]
  constructor
  · rintro ⟨found, hfound, other, hother, h⟩
    cases h
    exact ⟨hfound, hother⟩
  · rintro ⟨hfound, hother⟩
    exact ⟨node, hfound, update, hother, rfl⟩

theorem edgeNodeId_eq {edgeNodeId : String} {row : EdgeNodeRow} (h : db.nodes.get? edgeNodeId = some row) :
    row.edgeNodeId = edgeNodeId := ((Table.get?_eq_some_iff _ _ _).mp h).2

/-- An enrollment adds a node or none, and the others stay. -/
theorem get?_enroll {stamp : EnrollmentStamp} {req : EnrollmentRequest} {edgeNodeId : String} {row : EdgeNodeRow}
    (h : db.nodes.get? edgeNodeId = some row) : (dep.enrollEdgeNode db stamp req).1.nodes.get? edgeNodeId = some row := by
  have hstored : ∀ {db₀ stored workload result}, db₀.nodes = db.nodes →
      dep.storeNode db₀ stamp req workload = .ok (stored, result) → stored.nodes.get? edgeNodeId = some row := by
    intro db₀ stored workload result hnodes hok
    rw [storeNode] at hok
    split at hok
    · cases hok
      rw [hnodes]
      exact h
    · simp only [bind_eq_ok, insertNode, raiseIf_eq_ok, orRaise_eq_ok] at hok
      obtain ⟨nodes, ⟨_, _, hinsert⟩, store, _, hok⟩ := hok
      cases hok
      have hne : edgeNodeId ≠ (dep.newNode stamp.edgeNodeId req workload).edgeNodeId := by
        intro heq
        have hfresh := (Table.insert?_eq_some hinsert).1
        rw [← heq, hnodes, h] at hfresh
        cases hfresh
      rw [Table.get?_insert hinsert, if_neg hne, hnodes]
      exact h
  rw [enrollEdgeNode]
  split
  · exact h
  · exact h
  · split
    · exact h
    · split
      · exact h
      · dsimp only
        split
        · exact h
        · next hok =>
          refine hstored ?_ hok
          rfl

theorem reportEdgeHealth_ok {seenAt : Nat} {stamp : Stamp} {tenantId edgeNodeId actorId : String} {health : Dict}
    (h : dep.reportEdgeHealth db seenAt stamp tenantId edgeNodeId health actorId = .ok (db', result)) :
    ∃ row state store, db.nodes.get? edgeNodeId = some row ∧ row.state ≠ .revoked ∧ state ≠ .revoked ∧
      db' = { db with toStore := store, nodes := db.nodes.set (EdgeNodeRow.reported row health state seenAt) } := by
  simp only [reportEdgeHealth, bind_eq_ok, orRaise_eq_ok, raiseIf_eq_ok, tenantNode_eq_ok] at h
  obtain ⟨row, ⟨hrow, _⟩, _, hactive, _, _, state, hstate, store, _, h⟩ := h
  cases h
  refine ⟨row, state, store, hrow, hactive, ?_, rfl⟩
  unfold healthState? at hstate
  split at hstate <;> cases hstate <;> decide

theorem checkUpdate_ok {node : EdgeNodeRow} {update : OfflineUpdatePackageRow} {currentRelease : String}
    (h : dep.checkUpdate node update currentRelease = .ok ()) :
    node.state ≠ .revoked ∧ update.fromRelease = currentRelease := by
  simp only [checkUpdate, bind_eq_ok, raiseIf_eq_ok, not_or, not_not] at h
  obtain ⟨_, hactive, _, ⟨_, hrelease⟩, _⟩ := h
  exact ⟨hactive, hrelease⟩

theorem applyOfflineUpdate_ok {applicationId : String} {stamp : Stamp} {args : UpdateArguments}
    (h : dep.applyOfflineUpdate db applicationId stamp args = .ok (db', result)) :
    ∃ node update, db.nodes.get? args.edgeNodeId = some node ∧ db.updates.get? args.updateId = some update ∧
      dep.checkUpdate node update args.currentRelease = .ok () ∧
      (((∃ existing, application? db args.edgeNodeId args.updateId = some existing) ∧ db' = db) ∨
        (application? db args.edgeNodeId args.updateId = none ∧ ∃ applications store,
          insertApplication db.applications
            (newApplication applicationId args.edgeNodeId args.currentRelease args.actorId update) = .ok applications ∧
          db' = { db with toStore := store, nodes := db.nodes.set (EdgeNodeRow.update node update), applications })) := by
  simp only [applyOfflineUpdate, bind_eq_ok] at h
  obtain ⟨⟨node, update⟩, hread, _, hcheck, h⟩ := h
  obtain ⟨⟨hnode, _⟩, hupdate⟩ := nodeAndUpdate_eq_ok.mp hread
  refine ⟨node, update, hnode, hupdate, hcheck, ?_⟩
  split at h
  · next existing hexisting =>
    cases h
    exact .inl ⟨⟨existing, hexisting⟩, rfl⟩
  · next hnone =>
    simp only [bind_eq_ok] at h
    obtain ⟨applications, hinsert, store, _, h⟩ := h
    cases h
    exact .inr ⟨hnone, applications, store, hinsert, rfl⟩

theorem rollbackOfflineUpdate_ok {rolledBackAt : Nat} {stamp : Stamp} {args : RollbackArguments}
    (h : dep.rollbackOfflineUpdate db rolledBackAt stamp args = .ok (db', result)) :
    ∃ node update application, readRollback db args = .ok (node, update, application) ∧
      ((application.state = .rolledBack ∧ db' = db) ∨
        (application.state = .applied ∧ dep.verifySignature update.rollbackBundleHash update.rollbackSignature = true ∧
          ∃ store, db' = { db with
            toStore := store, nodes := db.nodes.set (EdgeNodeRow.rollback dep node application args.reason),
            applications := db.applications.set (EdgeUpdateApplicationRow.rollback application args.reason rolledBackAt) })) := by
  simp only [rollbackOfflineUpdate, bind_eq_ok] at h
  obtain ⟨⟨node, update, application⟩, hread, h⟩ := h
  refine ⟨node, update, application, hread, ?_⟩
  split at h
  · next hdone =>
    cases h
    exact .inl ⟨hdone, rfl⟩
  · next hdone =>
    simp only [bind_eq_ok, raiseIf_eq_ok, Bool.not_eq_false] at h
    obtain ⟨_, hsigned, store, _, h⟩ := h
    cases h
    have happlied : application.state = .applied := by
      cases hstate : application.state with
      | applied => rfl
      | rolledBack => exact absurd hstate hdone
    exact .inr ⟨happlied, hsigned, store, rfl⟩

/-- What a rollback has found. -/
theorem readRollback_eq_ok {args : RollbackArguments} {node : EdgeNodeRow} {update : OfflineUpdatePackageRow}
    {application : EdgeUpdateApplicationRow} : readRollback db args = .ok (node, update, application) ↔
      strip args.reason.toList ≠ [] ∧ (db.nodes.get? args.edgeNodeId = some node ∧ node.tenantId = args.tenantId) ∧
        db.updates.get? args.updateId = some update ∧ application? db args.edgeNodeId args.updateId = some application := by
  simp only [readRollback, bind_eq_ok, raiseIf_eq_ok, orRaise_eq_ok]
  constructor
  · rintro ⟨_, hreason, ⟨found, other⟩, hread, applied, happlied, h⟩
    cases h
    obtain ⟨hnode, hupdate⟩ := nodeAndUpdate_eq_ok.mp hread
    exact ⟨hreason, hnode, hupdate, happlied⟩
  · rintro ⟨hreason, hnode, hupdate, happlied⟩
    exact ⟨(), hreason, (node, update), nodeAndUpdate_eq_ok.mpr ⟨hnode, hupdate⟩, application, happlied, rfl⟩

/-- A revocation changes the one node, or nothing of the nodes. -/
theorem nodes_revoke {stamp : RevocationStamp} {tenantId edgeNodeId reason actorId : String} :
    (dep.revokeEdgeNode db stamp tenantId edgeNodeId reason actorId).1.nodes = db.nodes ∨
      ∃ row, db.nodes.get? edgeNodeId = some row ∧
        (dep.revokeEdgeNode db stamp tenantId edgeNodeId reason actorId).1.nodes =
          db.nodes.set (EdgeNodeRow.revoke row reason actorId stamp.revokedAt) := by
  have hnode : ∀ {stored result grantId}, dep.revokeNode db stamp tenantId edgeNodeId reason actorId =
      .ok (stored, result, grantId) → stored.nodes = db.nodes ∨ ∃ row, db.nodes.get? edgeNodeId = some row ∧
        stored.nodes = db.nodes.set (EdgeNodeRow.revoke row reason actorId stamp.revokedAt) := by
    intro stored result grantId h
    simp only [revokeNode, bind_eq_ok, tenantNode_eq_ok] at h
    obtain ⟨_, _, row, ⟨hrow, _⟩, h⟩ := h
    split at h
    · cases h
      exact .inl rfl
    · simp only [bind_eq_ok] at h
      obtain ⟨store, _, h⟩ := h
      cases h
      exact .inr ⟨row, hrow, rfl⟩
  rw [revokeEdgeNode]
  split
  · exact .inl rfl
  · next h => exact hnode h
  · next h =>
    have hstored := hnode h
    split
    · exact hstored
    · split
      · exact hstored
      · exact hstored

end Outcomes

section Revoked
variable {dep : DeploymentControl} {db : EdgeDb} {edgeNodeId : String} {row : EdgeNodeRow}

/-- A rollback that gets past its checks is not one on a revoked node. -/
def SparesRevoked (dep : DeploymentControl) (db : EdgeDb) : EdgeCall → Prop
  | .rollback _ _ args => ∀ node update application, readRollback db args = .ok (node, update, application) →
      application.state = .applied → dep.verifySignature update.rollbackBundleHash update.rollbackSignature = true →
        node.state ≠ .revoked
  | _ => True

/-- The node is revoked and has the software of an earlier row. -/
structure StaysRevoked (edgeNodeId : String) (row : EdgeNodeRow) (db : EdgeDb) : Prop where
  exists_row : ∃ row', db.nodes.get? edgeNodeId = some row' ∧ row'.state = .revoked ∧
    row'.softwareRelease = row.softwareRelease ∧ row'.softwareManifestHash = row.softwareManifestHash

/-- A write to a node that is not revoked is not one to this node. -/
theorem staysRevoked_set {written old : EdgeNodeRow} {nodes : Table EdgeNodeRow (fun row => row.edgeNodeId)}
    (h : StaysRevoked edgeNodeId row db) (hold : db.nodes.get? written.edgeNodeId = some old) (hstate : old.state ≠ .revoked)
    (hnodes : nodes = db.nodes.set written) : ∃ row', nodes.get? edgeNodeId = some row' ∧ row'.state = .revoked ∧
      row'.softwareRelease = row.softwareRelease ∧ row'.softwareManifestHash = row.softwareManifestHash := by
  obtain ⟨row', hrow', hrevoked, hsame⟩ := h.exists_row
  have hne : edgeNodeId ≠ written.edgeNodeId := by
    intro heq
    rw [← heq, hrow'] at hold
    exact hstate (Option.some.inj hold ▸ hrevoked)
  refine ⟨row', ?_, hrevoked, hsame⟩
  rw [hnodes, Table.get?_set_of_ne _ hne]
  exact hrow'

theorem staysRevoked_report {seenAt : Nat} {stamp : Stamp} {tenantId nodeId actorId : String} {health : Dict}
    (h : StaysRevoked edgeNodeId row db) :
    StaysRevoked edgeNodeId row (edgeStep dep db (.report seenAt stamp tenantId nodeId health actorId)) := by
  cases hcall : dep.reportEdgeHealth db seenAt stamp tenantId nodeId health actorId with
  | error e =>
    rw [edgeStep, hcall]
    exact h
  | ok outcome =>
    obtain ⟨db', result⟩ := outcome
    obtain ⟨old, state, store, hold, hactive, _, rfl⟩ := reportEdgeHealth_ok hcall
    rw [edgeStep, hcall]
    have hid := edgeNodeId_eq hold
    have hkey : (EdgeNodeRow.reported old health state seenAt).edgeNodeId = nodeId := hid
    exact ⟨staysRevoked_set h (hkey ▸ hold) hactive rfl⟩

theorem staysRevoked_apply {applicationId : String} {stamp : Stamp} {args : UpdateArguments}
    (h : StaysRevoked edgeNodeId row db) : StaysRevoked edgeNodeId row (edgeStep dep db (.apply applicationId stamp args)) := by
  cases hcall : dep.applyOfflineUpdate db applicationId stamp args with
  | error e =>
    rw [edgeStep, hcall]
    exact h
  | ok outcome =>
    obtain ⟨db', result⟩ := outcome
    rw [edgeStep, hcall]
    obtain ⟨node, update, hnode, _, hcheck, ⟨_, rfl⟩ | ⟨_, applications, store, _, rfl⟩⟩ := applyOfflineUpdate_ok hcall
    · exact h
    · have hid := edgeNodeId_eq hnode
      have hkey : (EdgeNodeRow.update node update).edgeNodeId = args.edgeNodeId := hid
      exact ⟨staysRevoked_set h (hkey ▸ hnode) (checkUpdate_ok hcheck).1 rfl⟩

theorem staysRevoked_rollback {rolledBackAt : Nat} {stamp : Stamp} {args : RollbackArguments}
    (hspares : SparesRevoked dep db (.rollback rolledBackAt stamp args)) (h : StaysRevoked edgeNodeId row db) :
    StaysRevoked edgeNodeId row (edgeStep dep db (.rollback rolledBackAt stamp args)) := by
  cases hcall : dep.rollbackOfflineUpdate db rolledBackAt stamp args with
  | error e =>
    rw [edgeStep, hcall]
    exact h
  | ok outcome =>
    obtain ⟨db', result⟩ := outcome
    rw [edgeStep, hcall]
    obtain ⟨node, update, application, hread, ⟨_, rfl⟩ | ⟨happlied, hsigned, store, rfl⟩⟩ := rollbackOfflineUpdate_ok hcall
    · exact h
    · have hactive := hspares node update application hread happlied hsigned
      obtain ⟨_, ⟨hnode, _⟩, _⟩ := readRollback_eq_ok.mp hread
      have hid := edgeNodeId_eq hnode
      have hkey : (EdgeNodeRow.rollback dep node application args.reason).edgeNodeId = args.edgeNodeId := hid
      exact ⟨staysRevoked_set h (hkey ▸ hnode) hactive rfl⟩

theorem staysRevoked_revoke {stamp : RevocationStamp} {tenantId nodeId reason actorId : String}
    (h : StaysRevoked edgeNodeId row db) :
    StaysRevoked edgeNodeId row (edgeStep dep db (.revoke stamp tenantId nodeId reason actorId)) := by
  obtain ⟨row', hrow', hrevoked, hrelease, hhash⟩ := h.exists_row
  rcases @nodes_revoke dep db stamp tenantId nodeId reason actorId with hsame | ⟨old, hold, hset⟩
  · refine ⟨row', ?_, hrevoked, hrelease, hhash⟩
    rw [edgeStep, hsame]
    exact hrow'
  · by_cases hid : edgeNodeId = nodeId
    · subst hid
      have heq : old = row' := Option.some.inj (hold.symm.trans hrow')
      subst heq
      refine ⟨EdgeNodeRow.revoke old reason actorId stamp.revokedAt, ?_, rfl, hrelease, hhash⟩
      have hid := edgeNodeId_eq hold
      have hkey : (EdgeNodeRow.revoke old reason actorId stamp.revokedAt).edgeNodeId = edgeNodeId := hid
      rw [edgeStep, hset, Table.get?_set _ (hkey ▸ hold), if_pos hkey.symm]
    · have hown := edgeNodeId_eq hold
      have hkey : (EdgeNodeRow.revoke old reason actorId stamp.revokedAt).edgeNodeId = nodeId := hown
      refine ⟨row', ?_, hrevoked, hrelease, hhash⟩
      rw [edgeStep, hset, Table.get?_set_of_ne _ (hkey ▸ hid)]
      exact hrow'

theorem staysRevoked_step (db : EdgeDb) (call : EdgeCall) (hspares : SparesRevoked dep db call)
    (h : StaysRevoked edgeNodeId row db) : StaysRevoked edgeNodeId row (edgeStep dep db call) := by
  cases call with
  | enroll stamp req =>
    obtain ⟨row', hrow', hrest⟩ := h.exists_row
    exact ⟨row', get?_enroll hrow', hrest⟩
  | report => exact staysRevoked_report h
  | apply => exact staysRevoked_apply h
  | rollback => exact staysRevoked_rollback hspares h
  | revoke => exact staysRevoked_revoke h

/-- A revoked node stays revoked with its software, as long as no update is rolled back on a revoked node. -/
theorem revoked_stays_revoked (dep : DeploymentControl) {db : EdgeDb} {edgeNodeId : String} {row : EdgeNodeRow}
    (hrow : db.nodes.get? edgeNodeId = some row) (hrevoked : row.state = .revoked) {calls : List EdgeCall}
    (hspares : Along (edgeStep dep) (SparesRevoked dep) db calls) :
    ∃ row', (run (edgeStep dep) db calls).nodes.get? edgeNodeId = some row' ∧ row'.state = .revoked ∧
      row'.softwareRelease = row.softwareRelease ∧ row'.softwareManifestHash = row.softwareManifestHash := by
  have hstart : StaysRevoked edgeNodeId row db := ⟨row, hrow, hrevoked, rfl, rfl⟩
  exact (run_invariant_along staysRevoked_step hstart hspares).exists_row

end Revoked

section Totals
variable {dep : DeploymentControl} {db : EdgeDb} {store : Store}

/-- The step of a revocation without workload identities. -/
theorem edgeStep_revoke {stamp : RevocationStamp} {tenantId edgeNodeId reason actorId : String} {row : EdgeNodeRow}
    (hops : dep.securityOps = none) (hreason : strip reason.toList ≠ []) (hrow : db.nodes.get? edgeNodeId = some row)
    (htenant : row.tenantId = tenantId) (hactive : row.state ≠ .revoked)
    (hstore : dep.publishNode db.toStore stamp.written
      (nodeEvent row tenantId "deployment.edge.revoked" actorId [("reason_code", .str "EDGE_ADMINISTRATIVE_REVOCATION")])
      (nodeAudit row tenantId "deployment.edge.revoke" actorId [("reason", .str (String.ofList (strip reason.toList)))]) =
        .ok store) :
    edgeStep dep db (.revoke stamp tenantId edgeNodeId reason actorId) =
      { db with toStore := store, nodes := db.nodes.set (EdgeNodeRow.revoke row reason actorId stamp.revokedAt) } := by
  have hnode : dep.revokeNode db stamp tenantId edgeNodeId reason actorId =
      .ok ({ db with toStore := store, nodes := db.nodes.set (EdgeNodeRow.revoke row reason actorId stamp.revokedAt) },
        edge (EdgeNodeRow.revoke row reason actorId stamp.revokedAt) false, some row.workloadIdentityGrantId) := by
    simp only [revokeNode, bind_eq_ok, raiseIf_eq_ok, tenantNode_eq_ok]
    refine ⟨(), hreason, row, ⟨hrow, htenant⟩, ?_⟩
    rw [if_neg hactive]
    exact bind_eq_ok.mpr ⟨store, hstore, rfl⟩
  rw [edgeStep, revokeEdgeNode, hnode]
  simp only [hops]

/-- A rollback that gets past its checks. -/
theorem rollbackOfflineUpdate_of {rolledBackAt : Nat} {stamp : Stamp} {args : RollbackArguments} {node : EdgeNodeRow}
    {update : OfflineUpdatePackageRow} {application : EdgeUpdateApplicationRow}
    (hread : readRollback db args = .ok (node, update, application)) (happlied : application.state = .applied)
    (hsigned : dep.verifySignature update.rollbackBundleHash update.rollbackSignature = true)
    (hstore : dep.publishNode db.toStore stamp
      (nodeEvent node args.tenantId "deployment.update.rolled_back" args.actorId [("update_id", .str args.updateId),
        ("release", .str application.previousRelease), ("reason_code", .str "OPERATOR_ROLLBACK")])
      (nodeAudit node args.tenantId "deployment.update.rollback" args.actorId [("update_id", .str args.updateId),
        ("target_release", .str application.previousRelease)]) = .ok store) :
    dep.rollbackOfflineUpdate db rolledBackAt stamp args = .ok ({ db with
      toStore := store, nodes := db.nodes.set (EdgeNodeRow.rollback dep node application args.reason),
      applications := db.applications.set (EdgeUpdateApplicationRow.rollback application args.reason rolledBackAt) },
      rollbackResult args application false) := by
  refine bind_eq_ok.mpr ⟨(node, update, application), hread, ?_⟩
  have hnot : application.state ≠ .rolledBack := by
    rw [happlied]
    decide
  dsimp only
  rw [if_neg hnot]
  simp only [bind_eq_ok, raiseIf_eq_ok, Bool.not_eq_false]
  exact ⟨(), hsigned, store, hstore, rfl⟩

/-- The next event and audit entry about a node are written. -/
theorem publishNode_next {tenantId action actorId eventType hash : String} {before : Nat} {ids hashes : List String}
    {payload details : Dict} {row : EdgeNodeRow} {entry : EventCatalogEntry} (stamp : Stamp)
    (hentry : getEvent eventType "1.0.0" = .ok entry) (howner : "deployment-control" = entry.owner)
    (haggregate : entry.aggregate = "edge_node") (hpayload : validatePayload payload = .ok ())
    (h : Succession tenantId before ids hashes store.audit) (hnow : before ≤ stamp.now) (hid : stamp.auditId ∉ ids)
    (hhash : canonicalSha256 ((dep.audit.entry .empty stamp.now stamp.auditId (nodeAudit row tenantId action actorId details)).body
      (hashes.getLast?.getD genesisHash)) = hash) (hfresh : hash ∉ hashes) :
    ∃ store', dep.publishNode store stamp (nodeEvent row tenantId eventType actorId payload)
        (nodeAudit row tenantId action actorId details) = .ok store' ∧
      Succession tenantId (stamp.now + 1) (ids ++ [stamp.auditId]) (hashes ++ [hash]) store'.audit := by
  obtain ⟨event, hevent⟩ := store.emit_total stamp (r := nodeEvent row tenantId eventType actorId payload) hentry howner
    haggregate hpayload
  obtain ⟨log, hlog, hnext⟩ := @Store.record_next dep.audit { store with outbox := store.outbox ++ [event] } tenantId before ids
    hashes hash stamp (nodeAudit row tenantId action actorId details) h hnow rfl hid hhash hfresh
  exact ⟨_, bind_eq_ok.mpr ⟨_, hevent, hlog⟩, hnext⟩

end Totals

section Sample

def plainDeployment : DeploymentControl where
  audit := .zeroKey
  signingKey := List.replicate 32 0
  long := AuditService.zeroKey.long
  securityOps := none
  py := SpatialDataService.plainText

def updateHash : String := "1111111111111111111111111111111111111111111111111111111111111111"

def rollbackHash : String := "2222222222222222222222222222222222222222222222222222222222222222"

/-- An update whose two hashes are signed. -/
def secondRelease : OfflineUpdatePackageRow where
  updateId := "u1"
  deploymentProfileId := "edge"
  fromRelease := "1.0"
  toRelease := "2.0"
  manifestHash := updateHash
  signature := plainDeployment.sign updateHash
  rollbackBundleHash := rollbackHash
  rollbackSignature := plainDeployment.sign rollbackHash

/-- A node on its first release. -/
def firstNode : EdgeNodeRow where
  edgeNodeId := "n1"
  tenantId := "t1"
  projectId := none
  deploymentProfileId := "edge"
  nodeIdentity := "hall"
  identityPublicKeyHash := "k1"
  workloadIdentityGrantId := "g1"
  softwareRelease := "1.0"
  softwareManifestHash := "h1"
  softwareSignature := ""
  signingKeyId := "s1"
  region := "eu-west-1"
  enrollmentHash := "e1"
  enrolledBy := "ana"

def edgeDb (nodes : List EdgeNodeRow) (hnodes : (nodes.map fun row => row.edgeNodeId).Nodup)
    (applications : Table EdgeUpdateApplicationRow (fun row => row.applicationId)) : EdgeDb where
  toWorkloadDb := ⟨.empty, .empty⟩
  tenants := ⟨[⟨"t1"⟩], by decide⟩
  profiles := ⟨[⟨"edge", .edge, [], .active⟩], by decide⟩
  nodes := ⟨nodes, hnodes⟩
  updates := ⟨[secondRelease], by decide⟩
  applications

/-- The node after its update. -/
def updatedDb : EdgeDb := edgeDb [EdgeNodeRow.update firstNode secondRelease] (List.nodup_singleton _)
  ⟨[newApplication "p1" "n1" "1.0" "ana" secondRelease], List.nodup_singleton _⟩

def revocation : RevocationStamp := ⟨1, ⟨1, "a1"⟩, 2, ⟨2, "a2"⟩⟩

def retire : EdgeCall := .revoke revocation "t1" "n1" "retired" "ana"

def rollbackArguments : RollbackArguments := ⟨"t1", "n1", "u1", "regression", "ben"⟩

def undo : EdgeCall := .rollback 3 ⟨3, "a3"⟩ rollbackArguments

def retiredNode : EdgeNodeRow := EdgeNodeRow.revoke (EdgeNodeRow.update firstNode secondRelease) "retired" "ana" 1

set_option maxRecDepth 10000 in
theorem retireHash : canonicalSha256 ((AuditService.zeroKey.entry .empty 1 "a1"
    (nodeAudit (EdgeNodeRow.update firstNode secondRelease) "t1" "deployment.edge.revoke" "ana"
      [("reason", .str (String.ofList (strip "retired".toList)))])).body genesisHash) =
      "13b245b60bbace345045866340795a4f02ecb86ec35eca56fcc21cd1cf6e019a" := by
  apply canonicalSha256_of_hashesTo
  decide +kernel

set_option maxRecDepth 10000 in
theorem undoHash : canonicalSha256 ((AuditService.zeroKey.entry .empty 3 "a3"
    (nodeAudit retiredNode "t1" "deployment.update.rollback" "ben"
      [("update_id", .str "u1"), ("target_release", .str "1.0")])).body
      "13b245b60bbace345045866340795a4f02ecb86ec35eca56fcc21cd1cf6e019a") =
      "d4f0ab95c9a3adad0d9fa2687f6663eb0502cc9a85f5fefb2bb62c95bfd3ee15" := by
  apply canonicalSha256_of_hashesTo
  decide +kernel

theorem validatePayload_retire : validatePayload [("reason_code", .str "EDGE_ADMINISTRATIVE_REVOCATION")] = .ok () := by
  have hkeys : ([("reason_code", .str "EDGE_ADMINISTRATIVE_REVOCATION")] : Dict).map Prod.fst = ["reason_code"] := rfl
  apply validatePayload_brief hkeys rfl (by decide)
  intro field hfield
  rw [List.mem_singleton.mp hfield]
  exact brief_str (by decide)

theorem validatePayload_undo : validatePayload
    [("update_id", .str "u1"), ("release", .str "1.0"), ("reason_code", .str "OPERATOR_ROLLBACK")] = .ok () := by
  have hkeys : ([("update_id", .str "u1"), ("release", .str "1.0"), ("reason_code", .str "OPERATOR_ROLLBACK")] : Dict).map
      Prod.fst = ["update_id", "release", "reason_code"] := rfl
  apply validatePayload_brief hkeys rfl (by decide)
  intro field hfield
  simp only [List.mem_cons, List.not_mem_nil, or_false] at hfield
  rcases hfield with rfl | rfl | rfl
  · exact brief_str (by decide)
  · exact brief_str (by decide)
  · exact brief_str (by decide)

/-- A database with the node after its revocation. -/
def retiredDb : EdgeDb := edgeDb [retiredNode] (List.nodup_singleton _) .empty

/-- What the node still tries. -/
def laterCalls : List EdgeCall := [.report 4 ⟨4, "a4"⟩ "t1" "n1" [("status", .str "healthy")] "ana",
  .apply "p2" ⟨5, "a5"⟩ ⟨"t1", "n1", "u1", "1.0", "ana"⟩, retire]

theorem sparesRevoked_laterCalls : Along (edgeStep plainDeployment) (SparesRevoked plainDeployment) retiredDb laterCalls :=
  ⟨trivial, trivial, trivial, trivial⟩

theorem revoked_stays_revoked_retired : ∃ row, (run (edgeStep plainDeployment) retiredDb laterCalls).nodes.get? "n1" = some row ∧
    row.state = .revoked ∧ row.softwareRelease = "2.0" ∧ row.softwareManifestHash = updateHash :=
  @revoked_stays_revoked plainDeployment retiredDb "n1" retiredNode rfl rfl laterCalls sparesRevoked_laterCalls

/-- The node is revoked, and rolling its update back enrolls it again with other software. -/
theorem rollback_revives_revoked :
    (∃ row, (run (edgeStep plainDeployment) updatedDb [retire]).nodes.get? "n1" = some row ∧ row.state = .revoked ∧
      row.softwareRelease = "2.0") ∧
    ∃ row, (run (edgeStep plainDeployment) updatedDb [retire, undo]).nodes.get? "n1" = some row ∧ row.state = .enrolled ∧
      row.softwareRelease = "1.0" := by
  have hstart : Succession "t1" 0 [] [] updatedDb.audit := Succession.start "t1" 0
  obtain ⟨store, hstore, hnext⟩ := @publishNode_next plainDeployment updatedDb.toStore "t1" "deployment.edge.revoke" "ana"
    "deployment.edge.revoked" _ 0 [] [] [("reason_code", .str "EDGE_ADMINISTRATIVE_REVOCATION")]
    [("reason", .str (String.ofList (strip "retired".toList)))] (EdgeNodeRow.update firstNode secondRelease) _ ⟨1, "a1"⟩
    rfl rfl rfl validatePayload_retire hstart (Nat.zero_le 1) List.not_mem_nil retireHash List.not_mem_nil
  have hretire : edgeStep plainDeployment updatedDb retire =
      { updatedDb with toStore := store, nodes := updatedDb.nodes.set retiredNode } :=
    edgeStep_revoke rfl (by decide) rfl rfl (by decide) hstore
  have hnode : (updatedDb.nodes.set retiredNode).get? "n1" = some retiredNode := rfl
  obtain ⟨later, hlater, -⟩ := @publishNode_next plainDeployment store "t1" "deployment.update.rollback" "ben"
    "deployment.update.rolled_back" _ _ _ _ [("update_id", .str "u1"), ("release", .str "1.0"),
      ("reason_code", .str "OPERATOR_ROLLBACK")] [("update_id", .str "u1"), ("target_release", .str "1.0")] retiredNode _
    ⟨3, "a3"⟩ rfl rfl rfl validatePayload_undo hnext (by decide) (by decide) undoHash (by decide)
  have hread : readRollback { updatedDb with toStore := store, nodes := updatedDb.nodes.set retiredNode } rollbackArguments =
      .ok (retiredNode, secondRelease, newApplication "p1" "n1" "1.0" "ana" secondRelease) :=
    readRollback_eq_ok.mpr ⟨by decide, ⟨rfl, rfl⟩, rfl, rfl⟩
  have hcall := @rollbackOfflineUpdate_of plainDeployment _ later 3 ⟨3, "a3"⟩ _ _ _ _ hread rfl
    (plainDeployment.verifySignature_sign rollbackHash) hlater
  constructor
  · refine ⟨retiredNode, ?_, rfl, rfl⟩
    rw [run_cons, run_nil, hretire]
    exact hnode
  · rw [run_cons, hretire, run_cons, run_nil, undo, edgeStep, hcall]
    exact ⟨_, rfl, rfl, rfl⟩

end Sample

end DeploymentControl

end Sip
