import Sip.Hybrid.Admission

/-!
# The credential of a worker

A worker presents the token of its conversion with every call. The token is checked
against the row of the conversion, which keeps the generation of the token that is in
force and a state in which no worker may act any more. A credential can be renewed and
a conversion cancelled; both read the conversion in one transaction and write it in a
later one.
-/

namespace Sip

set_option autoImplicit false

/-- The claims of a verified token; those that have to agree with the conversion are taken from its row. -/
structure WorkerCredential where
  conversionId : String
  operationId : String
  tenantId : String
  projectId : String
  sceneId : String
  providerId : String
  claims : Dict

/-- `claims["workload_identity"]`. -/
def WorkerCredential.workload (lease : WorkerCredential) : Except Raised String :=
  orRaise ((lease.claims.get? "workload_identity").bind Json.text?) (.keyError "workload_identity")

structure RenewedLease where
  conversionId : String
  operationId : String
  workerToken : String
  credentialId : String
  credentialGeneration : Int
  workerLeaseGeneration : Int
  leaseTtlSeconds : Int
  boundedOperationLeaseSeconds : Int
  expiresAt : Nat
  resumedRetryableFailure : Bool

namespace HybridControl

section Verify

def noGet : Raised := .attributeError "object has no attribute 'get'"

/-- `value is False`. -/
def isFalse : Json → Bool
  | .bool false => true
  | _ => false

/-- `value is True`. -/
def isTrue : Json → Bool
  | .bool true => true
  | _ => false

/-- `set(permissions) == expected_permissions`. -/
def leastPrivilege (permissions : List Json) : Prop :=
  (∀ permission ∈ workerPermissions, permissions.any (Json.isText permission)) ∧
    ∀ value ∈ permissions, workerPermissions.any (Json.isText · value)

instance (permissions : List Json) : Decidable (leastPrivilege permissions) := inferInstanceAs (Decidable (_ ∧ _))

/-- What a token has to say about itself. -/
def workerClaims (codec : SignedTokenCodec) (py : PyNumbers) (token : String) (now : Nat) : Except Raised Dict := do
  let claims ← codec.decode py token now
  raiseIf (¬ (claims.get "type").isText "hybrid-worker-lease") (authenticationError "HYB_WORKER_TOKEN_TYPE_INVALID"
    "token is not a hybrid worker lease")
  raiseIf (¬ isFalse (claims.get "publication_permission")) (authenticationError "HYB_WORKER_PUBLICATION_SCOPE_INVALID"
    "hybrid worker token must explicitly deny publication")
  let permissions ← claims.setAt "permissions"
  raiseIf (¬ leastPrivilege permissions) (authenticationError "HYB_WORKER_PERMISSION_INVALID"
    "hybrid worker token permissions do not match the least-privilege contract")
  let scopeFields ← orRaise ((claims.get? "output_staging_scope").getD (.obj [])).fields? noGet
  raiseIf (¬ (Dict.get scopeFields "mode").isText "write_only_quarantine") (authenticationError
    "HYB_WORKER_STAGING_SCOPE_INVALID" "hybrid worker output scope is not write-only quarantine")
  return claims

/-- `expected`: the claims that the admission has fixed. -/
def admittedClaims (row : SpatialConversionRow) : List (String × String) := [
  ("operation_id", row.operationId), ("tenant_id", row.tenantId), ("project_id", row.projectId),
  ("scene_id", row.sceneId), ("scene_revision_id", row.sceneRevisionId), ("provider_id", row.providerId),
  ("provider_version", row.providerVersion), ("provider_manifest_hash", row.providerManifestHash),
  ("promotion_id", row.promotionId), ("admission_decision_hash", row.admissionDecisionHash)]

def claimMismatches (claims : Dict) (row : SpatialConversionRow) : List String :=
  sortedSet id (((admittedClaims row).filter fun field => ¬ (claims.get field.1).isText field.2).map Prod.fst)

/-- `int(d.get(key, default))`. -/
def intAt (py : PyNumbers) (d : Dict) (key : String) (default : Int) : Except Raised Int :=
  py.int ((d.get? key).getD (.int default))

/-- `int(row.worker_lease_generation or 1)`. -/
def workerGeneration (row : SpatialConversionRow) : Int :=
  if row.workerLeaseGeneration = 0 then 1 else row.workerLeaseGeneration

def superseded (message : String) : Raised := authenticationError "HYB_WORKER_CREDENTIAL_SUPERSEDED" message

/-- The credential that the conversion keeps is the one in the token. -/
def checkCredential (py : PyNumbers) (claims : Dict) (row : SpatialConversionRow) : Except Raised Unit := do
  let durable := row.credentialClaimsJson
  raiseIf ((durable.get "credential_id").truthy ∧ ¬ Json.pyEq (claims.get "credential_id") (durable.get "credential_id"))
    (superseded "worker credential has been rotated or revoked")
  match durable.get "credential_generation" with
  | .null => return ()
  | generation => do
    let claimed ← intAt py claims "credential_generation" 0
    let current ← py.int generation
    raiseIf (claimed ≠ current) (superseded "worker credential generation is no longer current")

/-- The token is the one of the current generation. -/
def checkToken (py : PyNumbers) (token : String) (claims : Dict) (row : SpatialConversionRow) : Except Raised Unit := do
  let generation ← intAt py claims "worker_lease_generation" 0
  raiseIf (generation ≠ workerGeneration row) (authenticationError "HYB_WORKER_TOKEN_SUPERSEDED"
    "worker lease generation is no longer current")
  raiseIf ((given row.workerTokenHash).any (· ≠ tokenHash token)) (authenticationError "HYB_WORKER_TOKEN_SUPERSEDED"
    "worker token is no longer the active signed lease")
  match row.workerTokenExpiresAt with
  | none => return ()
  | some expiresAt => do
    let exp ← intAt py claims "exp" 0
    raiseIf (exp ≠ unixSeconds expiresAt) (authenticationError "HYB_WORKER_TOKEN_BINDING_INVALID"
      "worker token expiry does not match the durable lease record")

/-- The states in which no worker may act, unless a call allows it. -/
def inactiveStates : List ConversionState :=
  [.cancelRequested, .cancelled, .rejected, .published, .failedRetryable, .failedTerminal, .cleanupQuarantined]

def leaseOf (row : SpatialConversionRow) (claims : Dict) : WorkerCredential :=
  ⟨row.conversionId, row.operationId, row.tenantId, row.projectId, row.sceneId, row.providerId, claims⟩

/-- The checks of a token against its conversion. -/
def durableLease (py : PyNumbers) (token : String) (claims : Dict) (allowed : List ConversionState) (db : HybridDb) :
    Except Raised WorkerCredential := do
  let unknown := authenticationError "HYB_WORKER_CONVERSION_UNKNOWN" "worker token references an unknown conversion"
  let conversionId ← orRaise (claims.get "conversion_id").text? unknown
  let row ← orRaise (db.conversions.get? conversionId) unknown
  raiseIf (claimMismatches claims row ≠ []) (authenticationError "HYB_WORKER_CLAIM_MISMATCH"
    "worker token no longer matches durable conversion admission" [("claims", .texts (claimMismatches claims row))])
  checkCredential py claims row
  checkToken py token claims row
  raiseIf (row.state ∈ inactiveStates ∧ row.state ∉ allowed) (authenticationError "HYB_WORKER_CONVERSION_INACTIVE"
    "worker token references an inactive conversion")
  return leaseOf row claims

/-- `_verify_worker_token`. -/
def verifyWorkerToken (svc : HybridControlService) (draw : HybridDraw) (token : String)
    (allowed : List ConversionState := []) : HybridMethod WorkerCredential := do
  let claims ← workerClaims svc.tokenCodec svc.py token (draw.now .verify)
  .read .verify (durableLease svc.py token claims allowed)

/-- A verified token belongs to a conversion in a state that the call allows. -/
theorem durableLease_eq_ok {py : PyNumbers} {token : String} {claims : Dict} {allowed : List ConversionState} {db : HybridDb}
    {lease : WorkerCredential} (h : durableLease py token claims allowed db = .ok lease) :
    ∃ row, db.conversions.get? lease.conversionId = some row ∧ lease = leaseOf row claims ∧
      (row.state ∈ inactiveStates → row.state ∈ allowed) := by
  simp only [durableLease, bind_eq_ok, orRaise_eq_ok, raiseIf_eq_ok, not_and, not_not] at h
  obtain ⟨conversionId, _, row, hrow, _, _, _, _, _, _, _, hstate, hlease⟩ := h
  cases hlease
  have hid : row.conversionId = conversionId := ((Table.get?_eq_some_iff _ _ _).mp hrow).2
  refine ⟨row, ?_, rfl, hstate⟩
  simp only [leaseOf, hid]
  exact hrow

end Verify

section Issued
variable (svc : HybridControlService) (draw : HybridDraw) (req : ConversionRequest) (actorId : String) (ttlSeconds : Nat)
  (cleared : Cleared) (estimate : ResourceEstimate) (operationId : String) (quotaReceipt : Json)

/-- The claims that are read back from the token of an admission. -/
def issuedClaims : Dict :=
  (svc.tokenCodec.body (admittedOf svc draw req actorId ttlSeconds cleared estimate operationId quotaReceipt).claims
    (draw.now .admission) ttlSeconds).sorted

theorem get?_issuedClaims {key : String} {value : Json} (hkey : key ∉ ["iss", "iat", "exp"])
    (h : (admittedOf svc draw req actorId ttlSeconds cleared estimate operationId quotaReceipt).claims.lookup key = some value) :
    (issuedClaims svc draw req actorId ttlSeconds cleared estimate operationId quotaReceipt).get? key =
      some value.normalize := by
  have hclaims : ((admittedOf svc draw req actorId ttlSeconds cleared estimate operationId quotaReceipt).claims.map
      Prod.fst).Nodup := nodup_credentialClaims ..
  exact svc.tokenCodec.get?_body _ _ _ hclaims hkey h

theorem get_issuedClaims {key : String} {value : Json} (hkey : key ∉ ["iss", "iat", "exp"])
    (h : (admittedOf svc draw req actorId ttlSeconds cleared estimate operationId quotaReceipt).claims.lookup key = some value) :
    (issuedClaims svc draw req actorId ttlSeconds cleared estimate operationId quotaReceipt).get key = value.normalize := by
  have hfound := get?_issuedClaims svc draw req actorId ttlSeconds cleared estimate operationId quotaReceipt hkey h
  rw [Dict.get, ← Dict.get?, hfound, Option.getD_some]

/-- Where the worker of an admission may write. -/
def issuedScope : Dict := [
  ("mode", .str "write_only_quarantine"),
  ("namespace", .str ("quarantine/" ++ req.tenantId ++ "/" ++ req.projectId ++ "/" ++ draw.newId .admission)),
  ("maximum_bytes", .int estimate.maxOutputBytes)]

theorem lookup_issuedScope (key : String) :
    (issuedScope draw req estimate).sorted.lookup key = ((issuedScope draw req estimate).lookup key).map Json.normalize := by
  have hkeys : ((issuedScope draw req estimate).map Prod.fst).Nodup :=
    (by decide : ["mode", "namespace", "maximum_bytes"].Nodup)
  exact Dict.lookup_sorted hkeys key

theorem get?_scope_issuedClaims :
    (issuedClaims svc draw req actorId ttlSeconds cleared estimate operationId quotaReceipt).get? "output_staging_scope" =
      some (.obj (issuedScope draw req estimate).sorted) := by
  have hscope : (admittedOf svc draw req actorId ttlSeconds cleared estimate operationId quotaReceipt).claims.lookup
      "output_staging_scope" = some (.obj (issuedScope draw req estimate)) := rfl
  rw [get?_issuedClaims _ _ _ _ _ _ _ _ _ (by decide) hscope, Dict.normalize_obj]

/-- An issued token says about itself what it has to, until it expires. -/
theorem workerClaims_issued {now : Nat} (hnow : unixSeconds now ≤ unixSeconds (draw.now .admission) + ttlSeconds) :
    workerClaims svc.tokenCodec svc.py
      (admittedOf svc draw req actorId ttlSeconds cleared estimate operationId quotaReceipt).workerToken now =
      .ok (issuedClaims svc draw req actorId ttlSeconds cleared estimate operationId quotaReceipt) := by
  have hclaims : ((admittedOf svc draw req actorId ttlSeconds cleared estimate operationId quotaReceipt).claims.map
      Prod.fst).Nodup := nodup_credentialClaims ..
  have hdecode : svc.tokenCodec.decode svc.py
      (admittedOf svc draw req actorId ttlSeconds cleared estimate operationId quotaReceipt).workerToken now =
      .ok (issuedClaims svc draw req actorId ttlSeconds cleared estimate operationId quotaReceipt) :=
    svc.tokenCodec.decode_encode _ (draw.now .admission) ttlSeconds svc.py hclaims hnow
  have htype : (issuedClaims svc draw req actorId ttlSeconds cleared estimate operationId quotaReceipt).get "type" =
      .str "hybrid-worker-lease" := by
    rw [get_issuedClaims _ _ _ _ _ _ _ _ _ (by decide) rfl, Json.normalize]
  have hpublication : (issuedClaims svc draw req actorId ttlSeconds cleared estimate operationId quotaReceipt).get
      "publication_permission" = .bool false := by
    rw [get_issuedClaims _ _ _ _ _ _ _ _ _ (by decide) rfl, Json.normalize]
  have hpermissions : (issuedClaims svc draw req actorId ttlSeconds cleared estimate operationId quotaReceipt).setAt
      "permissions" = .ok (workerPermissions.map Json.str) := by
    rw [Dict.setAt, get?_issuedClaims _ _ _ _ _ _ _ _ _ (by decide) rfl, Option.getD_some, Json.texts, normalize_texts]
    apply Json.asSet_arr_of_hashable
    intro value hvalue
    obtain ⟨text, _, rfl⟩ := List.mem_map.mp hvalue
    rfl
  have hmode : Dict.get (issuedScope draw req estimate).sorted "mode" = .str "write_only_quarantine" := by
    rw [Dict.get, lookup_issuedScope]
    simp [issuedScope]
  simp only [workerClaims, bind_eq_ok, raiseIf_eq_ok, orRaise_eq_ok]
  refine ⟨_, hdecode, (), ?_, (), ?_, _, hpermissions, (), by decide, (issuedScope draw req estimate).sorted, ?_, (), ?_,
    rfl⟩
  · simp [htype, Json.isText_iff]
  · simp [hpublication, isFalse]
  · rw [get?_scope_issuedClaims]
    rfl
  · simp [hmode, Json.isText_iff]

section Binding
variable {svc draw req actorId ttlSeconds cleared estimate operationId quotaReceipt}
variable {row : SpatialConversionRow} {state : ConversionState} {candidate : Option String}

/-- The conversion of an admission later on, with its credential still in force. -/
def AdmittedAs (a : Admitted) (row : SpatialConversionRow) : Prop :=
  ∃ state candidate, row = { admittedRow a with state := state, candidateRepresentationId := candidate }

theorem claimMismatches_issued
    (hrow : AdmittedAs (admittedOf svc draw req actorId ttlSeconds cleared estimate operationId quotaReceipt) row) :
    claimMismatches (issuedClaims svc draw req actorId ttlSeconds cleared estimate operationId quotaReceipt) row = [] := by
  obtain ⟨state, candidate, rfl⟩ := hrow
  have htext : ∀ field ∈ admittedClaims { admittedRow
      (admittedOf svc draw req actorId ttlSeconds cleared estimate operationId quotaReceipt) with
        state := state, candidateRepresentationId := candidate },
      ((issuedClaims svc draw req actorId ttlSeconds cleared estimate operationId quotaReceipt).get field.1).isText
        field.2 = true := by
    intro field hfield
    rw [Json.isText_iff]
    simp only [admittedClaims, List.mem_cons, List.not_mem_nil, or_false] at hfield
    rcases hfield with rfl | rfl | rfl | rfl | rfl | rfl | rfl | rfl | rfl | rfl <;> dsimp only <;>
      rw [get_issuedClaims _ _ _ _ _ _ _ _ _ (by decide) rfl] <;> exact Json.normalize_str _
  have hnone : (admittedClaims { admittedRow
      (admittedOf svc draw req actorId ttlSeconds cleared estimate operationId quotaReceipt) with
        state := state, candidateRepresentationId := candidate }).filter (fun field =>
      ¬ ((issuedClaims svc draw req actorId ttlSeconds cleared estimate operationId quotaReceipt).get field.1).isText
        field.2) = [] := by
    rw [List.filter_eq_nil_iff]
    intro field hfield
    simp [htext field hfield]
  rw [claimMismatches, hnone]
  rfl

theorem checkCredential_issued
    (hrow : AdmittedAs (admittedOf svc draw req actorId ttlSeconds cleared estimate operationId quotaReceipt) row) :
    checkCredential svc.py (issuedClaims svc draw req actorId ttlSeconds cleared estimate operationId quotaReceipt) row =
      .ok () := by
  obtain ⟨state, candidate, rfl⟩ := hrow
  have hid : (issuedClaims svc draw req actorId ttlSeconds cleared estimate operationId quotaReceipt).get "credential_id" =
      .str (draw.newId .verify) := by
    rw [get_issuedClaims _ _ _ _ _ _ _ _ _ (by decide) rfl]
    exact Json.normalize_str _
  have hgeneration : intAt svc.py (issuedClaims svc draw req actorId ttlSeconds cleared estimate operationId quotaReceipt)
      "credential_generation" 0 = .ok 1 := by
    rw [intAt, get?_issuedClaims _ _ _ _ _ _ _ _ _ (by decide) rfl, Option.getD_some, Json.normalize]
    exact svc.py.int_int 1
  have hdurable : (admittedOf svc draw req actorId ttlSeconds cleared estimate operationId quotaReceipt).claims.get
      "credential_id" = .str (draw.newId .verify) := rfl
  have hcurrent : (admittedOf svc draw req actorId ttlSeconds cleared estimate operationId quotaReceipt).claims.get
      "credential_generation" = .int 1 := rfl
  have hsame : Json.pyEq (.str (draw.newId .verify)) (.str (draw.newId .verify)) = true := by simp [Json.pyEq, Json.scalarEq]
  simp only [checkCredential, admittedRow, hid, hdurable, hcurrent, hgeneration, svc.py.int_int, hsame, bind_eq_ok,
    raiseIf_eq_ok]
  exact ⟨(), by simp, 1, rfl, 1, rfl, by simp⟩

theorem checkToken_issued
    (hrow : AdmittedAs (admittedOf svc draw req actorId ttlSeconds cleared estimate operationId quotaReceipt) row) :
    checkToken svc.py (admittedOf svc draw req actorId ttlSeconds cleared estimate operationId quotaReceipt).workerToken
      (issuedClaims svc draw req actorId ttlSeconds cleared estimate operationId quotaReceipt) row = .ok () := by
  obtain ⟨state, candidate, rfl⟩ := hrow
  have hgeneration : intAt svc.py (issuedClaims svc draw req actorId ttlSeconds cleared estimate operationId quotaReceipt)
      "worker_lease_generation" 0 = .ok 1 := by
    rw [intAt, get?_issuedClaims _ _ _ _ _ _ _ _ _ (by decide) rfl, Option.getD_some, Json.normalize]
    exact svc.py.int_int 1
  have hclaims : ((admittedOf svc draw req actorId ttlSeconds cleared estimate operationId quotaReceipt).claims.map
      Prod.fst).Nodup := nodup_credentialClaims ..
  have hexp : intAt svc.py (issuedClaims svc draw req actorId ttlSeconds cleared estimate operationId quotaReceipt) "exp" 0 =
      .ok (unixSeconds (draw.now .admission) + ttlSeconds : Int) := by
    rw [intAt, issuedClaims, svc.tokenCodec.get?_exp_body _ (draw.now .admission) ttlSeconds hclaims, Option.getD_some]
    exact svc.py.int_int _
  have hseconds : unixSeconds (seconds (unixSeconds (draw.now .admission) + ttlSeconds)) =
      unixSeconds (draw.now .admission) + ttlSeconds := Nat.mul_div_cancel _ (by decide)
  simp only [checkToken, hgeneration, hexp, bind_eq_ok, raiseIf_eq_ok, Except.ok.injEq, exists_eq_left']
  refine ⟨(), ?_, (), ?_, ?_⟩
  · exact not_not.mpr rfl
  · simp [admittedRow, given]
  · have hexpires : (admittedRow (admittedOf svc draw req actorId ttlSeconds cleared estimate operationId
        quotaReceipt)).workerTokenExpiresAt = some (seconds (unixSeconds (draw.now .admission) + ttlSeconds)) := rfl
    simp only [hexpires, bind_eq_ok, Except.ok.injEq, exists_eq_left', raiseIf_eq_ok, not_not, hseconds]
    push_cast
    rfl

/-- The token of an admission is accepted as long as its credential is the one in force. -/
theorem durableLease_issued {db : HybridDb} (hfound : db.conversions.get? (draw.newId .admission) = some row)
    (hrow : AdmittedAs (admittedOf svc draw req actorId ttlSeconds cleared estimate operationId quotaReceipt) row)
    (hstate : row.state ∉ inactiveStates) :
    durableLease svc.py (admittedOf svc draw req actorId ttlSeconds cleared estimate operationId quotaReceipt).workerToken
      (issuedClaims svc draw req actorId ttlSeconds cleared estimate operationId quotaReceipt) [] db =
      .ok (leaseOf row (issuedClaims svc draw req actorId ttlSeconds cleared estimate operationId quotaReceipt)) := by
  have hid : ((issuedClaims svc draw req actorId ttlSeconds cleared estimate operationId quotaReceipt).get
      "conversion_id").text? = some (draw.newId .admission) := by
    rw [get_issuedClaims _ _ _ _ _ _ _ _ _ (by decide) rfl, Json.normalize_str]
    rfl
  simp only [durableLease, bind_eq_ok, orRaise_eq_ok, raiseIf_eq_ok]
  exact ⟨_, hid, row, hfound, (), not_not.mpr (claimMismatches_issued hrow), (), checkCredential_issued hrow, (),
    checkToken_issued hrow, (), fun h => hstate h.1, rfl⟩

theorem verifyWorkerToken_issued {later : HybridDraw} {db : HybridDb}
    (hnow : unixSeconds (later.now .verify) ≤ unixSeconds (draw.now .admission) + ttlSeconds)
    (hfound : db.conversions.get? (draw.newId .admission) = some row)
    (hrow : AdmittedAs (admittedOf svc draw req actorId ttlSeconds cleared estimate operationId quotaReceipt) row)
    (hstate : row.state ∉ inactiveStates) :
    (verifyWorkerToken svc later
      (admittedOf svc draw req actorId ttlSeconds cleared estimate operationId quotaReceipt).workerToken).run db =
      (db, .ok (leaseOf row (issuedClaims svc draw req actorId ttlSeconds cleared estimate operationId quotaReceipt))) := by
  simp only [verifyWorkerToken, Method.bind_eq, Method.liftM_eq, Method.run_bind_eq_ok, Method.run_done_eq_ok,
    Method.run_read_eq_ok]
  exact ⟨_, _, ⟨rfl, workerClaims_issued _ _ _ _ _ _ _ _ _ hnow⟩, rfl, durableLease_issued hfound hrow hstate⟩

end Binding

end Issued

section Start
variable (draw : HybridDraw) (lease : WorkerCredential)

/-- The lease of the operation does not outlast the token. -/
def boundedLease (py : PyNumbers) (now : Nat) : Except Raised Int := do
  let value ← orRaise (lease.claims.get? "exp") (.keyError "exp")
  let exp ← py.int value
  let declared ← intAt py lease.claims "lease_ttl_seconds" 60
  return max 1 (min (min 900 declared) (max 1 (exp - unixSeconds now)))

def leaseOwnerMismatch : Raised := conflictError "HYB_OPERATION_LEASE_OWNER_MISMATCH"
  "conversion operation is leased to another workload"

/-- What `_ensure_operation_started` does with the operation that it has read. -/
def startOperation (py : PyNumbers) (workerId : String) (operation : OperationRow) : HybridMethod Unit :=
  match operation.state with
  | .pending | .failed => do
    let leaseSeconds ← boundedLease lease py (draw.now .lease)
    let _ ← .transaction .lease (onStore fun s =>
      OperationService.lease s (draw.now .lease) operation.operationId workerId leaseSeconds)
    let _ ← .transaction .start (onStore fun s =>
      OperationService.start s (draw.now .start) operation.operationId workerId)
    return ()
  | .leased | .running => .done (raiseIf (operation.leaseOwner ≠ some workerId) leaseOwnerMismatch)
  | .succeeded => return ()
  | .cancelRequested | .cancelled | .quarantined => .done (.error (conflictError "HYB_OPERATION_STATE_INVALID"
      "conversion operation cannot be started" [("state", .str operation.state.value)]))

/-- `_ensure_operation_started`. -/
def ensureOperationStarted (py : PyNumbers) : HybridMethod Unit := do
  let operation ← .read .getOperation fun db => OperationService.find db.toStore lease.operationId
  let workerId ← lease.workload
  startOperation draw lease py workerId operation

end Start

section Cancel
variable (svc : HybridControlService) (draw : HybridDraw)

/-- What `cancel_conversion` finds: a conversion that has ended, or the operation to cancel. -/
def cancellable (conversionId tenantId projectId : String) (db : HybridDb) :
    Except Raised (SpatialConversionRow ⊕ String) := do
  let row ← scopedConversion db conversionId tenantId projectId
  if row.state ∈ [.cancelled, .rejected, .published] then return .inl row
  else
    raiseIf (row.state ∈ [.quarantined, .validated, .qualityFailed]) (conflictError "HYB_CANCELLATION_OUTPUT_EXISTS"
      "conversion output already exists; use representation invalidation instead of cancelling execution"
      [("state", .str row.state.value)])
    return .inr row.operationId

def cancelledState (operation : OperationRow) : ConversionState :=
  if operation.state ≠ .cancelled then .cancelRequested else .cancelled

def writeCancellation (stamp : Stamp) (conversionId tenantId projectId actorId operationId : String)
    (operation : OperationRow) (db : HybridDb) : Except Raised (ConversionResult × HybridDb) := do
  let row ← scopedConversion db conversionId tenantId projectId
  let row := { row with state := cancelledState operation }
  let s ← db.record svc.audit stamp (conversionAudit row actorId "hybrid_conversion:cancel" "allowed"
    [("operation_id", .str operationId), ("operation_state", .str operation.state.value)])
  return ({ row := row, idempotentReplay := false }, saveConversion { db with toStore := s } row)

theorem writeCancellation_eq_ok {svc : HybridControlService} {stamp : Stamp}
    {conversionId tenantId projectId actorId operationId : String} {operation : OperationRow} {db db' : HybridDb}
    {result : ConversionResult}
    (h : writeCancellation svc stamp conversionId tenantId projectId actorId operationId operation db = .ok (result, db')) :
    ∃ row, db.conversions.get? conversionId = some row ∧ result.row = { row with state := cancelledState operation } ∧
      db'.conversions = db.conversions.set result.row ∧ db'.operations = db.operations := by
  simp only [writeCancellation, bind_eq_ok] at h
  obtain ⟨row, hrow, s, hs, hout⟩ := h
  cases hout
  obtain ⟨_, rfl⟩ := Store.record_eq_ok hs
  exact ⟨row, scopedConversion_eq_ok hrow, rfl, rfl, rfl⟩

/-- The transactions of a cancellation after its check. -/
def cancelOperation (conversionId tenantId projectId actorId operationId : String) : HybridMethod ConversionResult := do
  let operation ← .transaction .requestCancel (onStore fun s =>
    OperationService.requestCancel s (draw.now .requestCancel) operationId actorId)
  .transaction .write (writeCancellation svc (draw.stamp .write) conversionId tenantId projectId actorId operationId operation)

def cancelConversion (conversionId tenantId projectId actorId : String) : HybridMethod ConversionResult := do
  match ← .read .check (cancellable conversionId tenantId projectId) with
  | .inl row => return { row := row, idempotentReplay := true }
  | .inr operationId => cancelOperation svc draw conversionId tenantId projectId actorId operationId

end Cancel

section Renew
variable (svc : HybridControlService) (draw : HybridDraw)

/-- What a renewal has read of its conversion. -/
structure Renewable where
  row : SpatialConversionRow
  provider : ProviderManifestRow
  credentialId : Json
  credentialGeneration : Int
  classification : String

def Renewable.resuming (r : Renewable) : Bool := r.row.state = .failedRetryable

/-- The credential that a renewal starts from. -/
def checkRenewedCredential (lease : WorkerCredential) (row : SpatialConversionRow) : Except Raised Unit := do
  let durable := row.credentialClaimsJson
  raiseIf (¬ Json.pyEq (durable.get "credential_id") (lease.claims.get "credential_id"))
    (superseded "worker credential has already been rotated")
  let current ← intAt svc.py durable "credential_generation" 0
  let claimed ← intAt svc.py lease.claims "credential_generation" 0
  raiseIf (current ≠ claimed) (superseded "worker credential generation is no longer current")
  let generation ← intAt svc.py lease.claims "worker_lease_generation" 0
  raiseIf (generation ≠ workerGeneration row) (authenticationError "HYB_WORKER_TOKEN_SUPERSEDED"
    "worker lease generation is no longer current")

/-- The provider is still the admitted one. -/
def admittedProvider (db : HybridDb) (row : SpatialConversionRow) : Except Raised ProviderManifestRow := do
  let stale := authorizationError "HYB_PROVIDER_SNAPSHOT_STALE"
    "provider descriptor is no longer the admitted immutable revision"
  let provider ← orRaise (db.providers.get? row.providerId) stale
  raiseIf (provider.manifestHash ≠ row.providerManifestHash ∨ ¬ svc.providers.providerIntegrityValid provider) stale
  return provider

/-- The promotion still permits execution. -/
def checkRenewedPromotion (db : HybridDb) (now : Nat) (row : SpatialConversionRow) : Except Raised Unit := do
  let stale := authorizationError "HYB_PROVIDER_PROMOTION_STALE" "provider promotion is no longer eligible for execution"
  let promotion ← orRaise (db.promotions.get? row.promotionId) stale
  raiseIf (promotion.providerManifestHash ≠ row.providerManifestHash ∨ promotion.providerVersion ≠ row.providerVersion ∨
      promotion.supersededAt ≠ none ∨ promotion.state ∉ [.active, .limited] ∨ now < promotion.validFrom ∨
      promotion.validUntil.any (· ≤ now) = true ∨ ¬ svc.providers.promotionIntegrityValid promotion) stale
  raiseIf (¬ (row.credentialClaimsJson.get "promotion_hash").isText promotion.promotionHash) (authorizationError
    "HYB_PROVIDER_PROMOTION_STALE"
    "worker credential promotion snapshot no longer matches the governed promotion")

/-- The first transaction of a renewal. -/
def renewable (lease : WorkerCredential) (db : HybridDb) : Except Raised Renewable := do
  let row ← scopedConversion db lease.conversionId lease.tenantId lease.projectId
  raiseIf (row.state ∉ [.admitted, .running, .failedRetryable]) (conflictError "HYB_WORKER_LEASE_RENEWAL_STATE_INVALID"
    "worker credentials may be renewed only for active or safely retryable work" [("state", .str row.state.value)])
  raiseIf (row.state = .failedRetryable ∧ ¬ isTrue (row.failureJson.get "cleanup_verified")) (authorizationError
    "HYB_WORKER_RESUME_CLEANUP_UNVERIFIED"
    "retryable work cannot resume until governed cleanup evidence is verified")
  checkRenewedCredential svc lease row
  let provider ← admittedProvider svc db row
  checkRenewedPromotion svc db (draw.now .check) row
  let credentialGeneration ← intAt svc.py row.credentialClaimsJson "credential_generation" 1
  return {
    row, provider, credentialId := row.credentialClaimsJson.get "credential_id", credentialGeneration,
    classification := svc.py.str ((row.admissionDecisionJson.get? "classification").getD (.str "internal")) }

def renewedConsents (lease : WorkerCredential) (r : Renewable) : ConsentRequest where
  tenantId := lease.tenantId
  projectId := lease.projectId
  purpose := r.row.purpose
  intendedUses := r.row.intendedUsesJson
  audience := textOr svc.py.toPyText r.row.policyContextJson "audience" "project"
  classification := r.classification
  policyContext := r.row.policyContextJson

/-- The authorizations that a renewal repeats: the receipts of the consents and of the models. -/
def reauthorize (lease : WorkerCredential) (r : Renewable) : HybridMethod (List Json × List Json) := do
  let region ← requiredText svc.py.toPyText r.row.policyContextJson "region"
  let value ← classificationOf r.classification
  let external := (r.provider.securityContractJson.get "external_processing").truthy
  let _ ← .read .execution fun db => ProviderRegistry.authorizeExecution db.toRepresentationDb (draw.now .execution)
    r.row.providerId ⟨value, r.row.purpose, region, external⟩
  let consentReceipts ← .read .consents (validateConsents svc.py.toPyText (draw.now .consents) (renewedConsents svc lease r))
  let modelReceipts ← .read .models (authorizeModels svc draw r.provider.modelManifestIdsJson r.row.purpose
    r.classification region lease.tenantId)
  return (consentReceipts, modelReceipts)

/-- The claims without those that the codec adds for a time. -/
def withoutTimes (claims : Dict) : Dict := claims.filter fun field => field.1 ∉ ["iat", "exp", "jti"]

/-- The claims of the next credential. -/
def nextClaims (lease : WorkerCredential) (r : Renewable) (credentialId : String) (ttlSeconds : Int)
    (consentReceipts modelReceipts : List Json) : Dict :=
  withoutTimes (lease.claims.merge [
    ("credential_id", .str credentialId),
    ("credential_generation", .int (r.credentialGeneration + 1)),
    ("renewed_from_credential_id", r.credentialId),
    ("worker_lease_generation", .int (workerGeneration r.row + 1)),
    ("lease_ttl_seconds", .int ttlSeconds),
    ("renewal", .obj [
      ("consent_receipt_hash", .str (canonicalSha256 (.arr consentReceipts))),
      ("model_receipt_hash", .str (canonicalSha256 (.arr modelReceipts))),
      ("resuming_retryable_failure", .bool r.resuming),
      ("retained_failure_hash", if r.resuming then r.row.failureJson.get "failure_hash" else .null)])])

/-- The next credential, as it is signed. -/
structure NextCredential where
  credentialId : String
  ttlSeconds : Int
  token : String
  tokenClaims : Dict
  expiresAt : Nat
  boundedLeaseSeconds : Int
  consentReceiptHash : String
  modelReceiptHash : String

def nextCredential (lease : WorkerCredential) (r : Renewable) (ttlSeconds : Int) (receipts : List Json × List Json) :
    Except Raised NextCredential := do
  let claims := nextClaims lease r (draw.newId .admission) ttlSeconds receipts.1 receipts.2
  let token := svc.tokenCodec.encode claims (draw.now .admission) ttlSeconds.toNat
  let tokenClaims ← svc.tokenCodec.decode svc.py token (draw.now .admission)
  let expiresAt ← tokenExpiry svc.py tokenClaims
  let remaining := max 1 ((unixSeconds expiresAt : Int) - unixSeconds (draw.now .getOperation))
  return {
    credentialId := draw.newId .admission, ttlSeconds, token, tokenClaims, expiresAt,
    boundedLeaseSeconds := max 1 (min (min 900 ttlSeconds) remaining),
    consentReceiptHash := canonicalSha256 (.arr receipts.1), modelReceiptHash := canonicalSha256 (.arr receipts.2) }

/-- The lease of an operation under way is renewed with the credential. -/
def renewOperation (r : Renewable) (workerId : String) (leaseSeconds : Int) (operation : OperationRow) :
    HybridMethod Unit :=
  match operation.state with
  | .leased | .running => do
    raiseIf (operation.leaseOwner ≠ some workerId) leaseOwnerMismatch
    let _ ← .transaction .heartbeat (onStore fun s =>
      OperationService.heartbeat s (draw.now .heartbeat) r.row.operationId workerId leaseSeconds)
    return ()
  | .pending => return ()
  | state => .done (raiseIf (¬ (state = .failed ∧ r.resuming = true)) (conflictError
      "HYB_WORKER_LEASE_RENEWAL_OPERATION_INVALID"
      "worker credential cannot be renewed for the current durable operation state" [("state", .str state.value)]))

def rotationRace : Raised := conflictError "HYB_WORKER_CREDENTIAL_ROTATION_RACE"
  "worker credential or conversion state changed during lease renewal"

/-- Nothing that the renewal rests on has changed since it was read. -/
def checkUnchanged (r : Renewable) (row : SpatialConversionRow) : Except Raised Unit := do
  raiseIf (¬ Json.pyEq (row.credentialClaimsJson.get "credential_id") r.credentialId) rotationRace
  let generation ← intAt svc.py row.credentialClaimsJson "credential_generation" 0
  raiseIf (generation ≠ r.credentialGeneration ∨ workerGeneration row ≠ workerGeneration r.row ∨ row.state ≠ r.row.state)
    rotationRace

def renewedRow (r : Renewable) (next : NextCredential) (row : SpatialConversionRow) : SpatialConversionRow :=
  { row with
    credentialClaimsJson := withoutTimes next.tokenClaims
    workerLeaseGeneration := workerGeneration r.row + 1
    workerTokenHash := some (tokenHash next.token)
    workerTokenExpiresAt := some next.expiresAt
    state := if r.resuming then .admitted else row.state }

def renewalPayload (r : Renewable) (next : NextCredential) (row : SpatialConversionRow) : Dict := [
  ("conversion_id", .str row.conversionId), ("operation_id", .str row.operationId),
  ("credential_id", .str next.credentialId), ("credential_generation", .int (r.credentialGeneration + 1)),
  ("worker_lease_generation", .int (workerGeneration r.row + 1)), ("lease_ttl_seconds", .int next.ttlSeconds),
  ("bounded_operation_lease_seconds", .int next.boundedLeaseSeconds), ("expires_at", .str (isoformat next.expiresAt)),
  ("resumed_retryable_failure", .bool r.resuming)]

def writeRenewal (stamp : Stamp) (lease : WorkerCredential) (r : Renewable) (next : NextCredential) (workerId : String)
    (db : HybridDb) : Except Raised (RenewedLease × HybridDb) := do
  let row ← scopedConversion db lease.conversionId lease.tenantId lease.projectId
  checkUnchanged svc r row
  let row := renewedRow r next row
  let s ← db.emit stamp (conversionEvent row "representation.worker_lease.renewed" (renewalPayload r next row) none
    (some workerId))
  let s ← s.record svc.audit stamp (conversionAudit row workerId "hybrid_worker_lease:renew" "allowed" [
    ("operation_id", .str row.operationId), ("credential_generation", .int (r.credentialGeneration + 1)),
    ("worker_lease_generation", .int (workerGeneration r.row + 1)), ("lease_ttl_seconds", .int next.ttlSeconds),
    ("resumed_retryable_failure", .bool r.resuming), ("consent_receipt_hash", .str next.consentReceiptHash),
    ("model_receipt_hash", .str next.modelReceiptHash)])
  return ({
    conversionId := lease.conversionId, operationId := lease.operationId, workerToken := next.token,
    credentialId := next.credentialId, credentialGeneration := r.credentialGeneration + 1,
    workerLeaseGeneration := workerGeneration r.row + 1, leaseTtlSeconds := next.ttlSeconds,
    boundedOperationLeaseSeconds := next.boundedLeaseSeconds, expiresAt := next.expiresAt,
    resumedRetryableFailure := r.resuming }, saveConversion { db with toStore := s } row)

theorem checkUnchanged_eq_ok {svc : HybridControlService} {r : Renewable} {row : SpatialConversionRow}
    (h : checkUnchanged svc r row = .ok ()) : row.state = r.row.state := by
  simp only [checkUnchanged, bind_eq_ok, raiseIf_eq_ok, not_or, not_not] at h
  obtain ⟨_, _, _, _, _, _, hstate⟩ := h
  exact hstate

theorem writeRenewal_eq_ok {svc : HybridControlService} {stamp : Stamp} {lease : WorkerCredential} {r : Renewable}
    {next : NextCredential} {workerId : String} {db db' : HybridDb} {result : RenewedLease}
    (h : writeRenewal svc stamp lease r next workerId db = .ok (result, db')) :
    ∃ row, db.conversions.get? lease.conversionId = some row ∧ row.state = r.row.state ∧
      db'.conversions = db.conversions.set (renewedRow r next row) ∧ db'.operations = db.operations := by
  simp only [writeRenewal, bind_eq_ok] at h
  obtain ⟨row, hrow, _, hunchanged, s, hs, s', hs', hout⟩ := h
  cases hout
  obtain ⟨_, rfl⟩ := Store.emit_eq_ok hs
  obtain ⟨_, rfl⟩ := Store.record_eq_ok hs'
  exact ⟨row, scopedConversion_eq_ok hrow, checkUnchanged_eq_ok hunchanged, rfl, rfl⟩

/-- The transactions of a renewal after its check. -/
def rotateCredential (lease : WorkerCredential) (r : Renewable) (ttlSeconds : Int) : HybridMethod RenewedLease := do
  let receipts ← reauthorize svc draw lease r
  let next ← nextCredential svc draw lease r ttlSeconds receipts
  let operation ← .read .getOperation fun db => OperationService.find db.toStore r.row.operationId
  let workerId ← lease.workload
  renewOperation draw r workerId next.boundedLeaseSeconds operation
  .transaction .write (writeRenewal svc (draw.stamp .write) lease r next workerId)

def renewWorkerLease (token : String) (ttlSeconds : Int := 900) : HybridMethod RenewedLease := do
  raiseIf (¬ (30 ≤ ttlSeconds ∧ ttlSeconds ≤ 900)) (validationError "HYB_WORKER_LEASE_TTL_INVALID"
    "worker lease TTL must be between 30 and 900 seconds")
  let lease ← verifyWorkerToken svc draw token [.failedRetryable]
  let r ← .read .check (renewable svc draw lease)
  rotateCredential svc draw lease r ttlSeconds

end Renew

end HybridControl

end Sip
