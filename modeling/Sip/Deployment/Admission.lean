import Sip.Deployment.EdgeNodes

/-!
# Admission to a deployment

Uploads, worker schedules and transfers are admitted against the profile of a project,
its residency policy and, for transfers, its transfer policy. The region is compared at
each level only if there is one, and the rule of a class is looked up by a key that is
put together from two fields of the request.
-/

namespace Sip

set_option autoImplicit false

inductive AdmissionType where
  | assetUpload | workerSchedule | assetTransfer | autoscale | gpuQueue | productionPromotion
  deriving DecidableEq

def AdmissionType.value : AdmissionType → String
  | .assetUpload => "asset_upload"
  | .workerSchedule => "worker_schedule"
  | .assetTransfer => "asset_transfer"
  | .autoscale => "autoscale"
  | .gpuQueue => "gpu_queue"
  | .productionPromotion => "production_promotion"

/-- `admission_type in ADMISSION_TYPES` -/
def AdmissionType.ofText? (text : String) : Option AdmissionType :=
  [assetUpload, workerSchedule, assetTransfer, autoscale, gpuQueue, productionPromotion].find? fun kind => kind.value = text

/-- The stages of an asset, in the order of `TRANSFER_STAGE_ORDER`. -/
inductive TransferStage where
  | raw | normalized | redactedDerivative | approvedDerivative | publishedDerivative
  deriving DecidableEq

def TransferStage.value : TransferStage → String
  | .raw => "raw"
  | .normalized => "normalized"
  | .redactedDerivative => "redacted_derivative"
  | .approvedDerivative => "approved_derivative"
  | .publishedDerivative => "published_derivative"

def TransferStage.order : TransferStage → Nat
  | .raw => 0
  | .normalized => 1
  | .redactedDerivative => 2
  | .approvedDerivative => 3
  | .publishedDerivative => 4

/-- `stage in TRANSFER_STAGES` -/
def TransferStage.ofText? (text : String) : Option TransferStage :=
  [raw, normalized, redactedDerivative, approvedDerivative, publishedDerivative].find? fun stage => stage.value = text

structure ProjectDeploymentBindingRow where
  bindingId : String
  tenantId : String
  projectId : String
  deploymentProfileId : String
  residencyPolicyId : Option String
  transferPolicyId : Option String
  state : PolicyState := .active

/-- The rules are what the caller has registered; only the dictionaries themselves are checked. -/
structure ResidencyPolicyRow where
  residencyPolicyId : String
  allowedRegionsJson : List String
  allowedModesJson : List DeploymentMode
  assetRulesJson : Dict
  workerRulesJson : Dict
  state : PolicyState := .active

/-- A rule, as `register_transfer_policy` has normalized it. -/
structure TransferRule where
  assetClass : String
  minimumStage : TransferStage
  allowedRegions : List String
  allowedPurposes : List String
  requiresApproval : Bool

structure HybridTransferPolicyRow where
  transferPolicyId : String
  rulesJson : List TransferRule
  state : PolicyState := .active

structure DeploymentAdmissionRow where
  admissionId : String
  tenantId : String
  projectId : Option String
  admissionType : AdmissionType
  deploymentProfileId : Option String
  region : Option String
  requestJson : Dict
  decision : String
  reasonCode : String
  obligationsJson : List String
  evidenceHash : String
  decidedBy : String
  decidedAt : Nat

structure AdmissionDb extends EdgeDb where
  bindings : Table ProjectDeploymentBindingRow (fun row => row.bindingId)
  residencyPolicies : Table ResidencyPolicyRow (fun row => row.residencyPolicyId)
  transferPolicies : Table HybridTransferPolicyRow (fun row => row.transferPolicyId)
  admissions : Table DeploymentAdmissionRow (fun row => row.admissionId)

structure AdmissionArguments where
  tenantId : String
  projectId : Option String
  deploymentProfileId : Option String
  region : Option String
  request : Dict
  actorId : String

/-- Why an evaluation ends early: with an error, or with a denial and what it asks for. -/
inductive AdmissionStop where
  | raised (error : Raised)
  | denied (reason : String) (obligations : List String)

namespace DeploymentControl

section Evaluation
variable (dep : DeploymentControl)

def denyIf (condition : Prop) [Decidable condition] (reason : String) (obligations : List String := []) :
    Except AdmissionStop Unit :=
  if condition then .error (.denied reason obligations) else .ok ()

/-- What a statement has read, or the denial when it is missing. -/
def orDeny {α : Type} (value : Option α) (reason : String) : Except AdmissionStop α :=
  match value with
  | some a => .ok a
  | none => .error (.denied reason [])

def orStop {α : Type} (value : Except Raised α) : Except AdmissionStop α := value.mapError .raised

/-- `if region and region not in regions` -/
def outside (region : Option String) (regions : List String) : Bool :=
  region.any fun region => region ≠ "" && region ∉ regions

/-- `text in container` -/
def containsText (container : Json) (text : String) : Except Raised Bool :=
  match container with
  | .arr items => .ok (items.any (Json.isText text))
  | .str s => .ok (text.toList <:+: s.toList)
  | .obj fields => .ok (fields.any fun field => field.1 = text)
  | _ => .error (.typeError "argument is not iterable")

def activeBinding? (db : AdmissionDb) (tenantId projectId : String) : Option ProjectDeploymentBindingRow :=
  db.bindings.rows.find? fun row => row.tenantId = tenantId ∧ row.projectId = projectId ∧ row.state = .active

/-- `session.get(.., identifier) if identifier else None`, when the row is active -/
def activePolicy? (db : AdmissionDb) (policyId : Option String) : Option ResidencyPolicyRow :=
  (policyId.filter fun id => id ≠ "").bind fun id => (db.residencyPolicies.get? id).filter fun row => row.state = .active

def activeTransfer? (db : AdmissionDb) (policyId : Option String) : Option HybridTransferPolicyRow :=
  (policyId.filter fun id => id ≠ "").bind fun id => (db.transferPolicies.get? id).filter fun row => row.state = .active

/-- `a or b` -/
def orElse (a b : Json) : Json := if a.truthy then a else b

/-- `str(request.get("asset_class") or request.get("worker_class") or "")` -/
def classKey (request : Dict) : String :=
  dep.py.str (orElse (Dict.get request "asset_class") (orElse (Dict.get request "worker_class") (.str "")))

/-- The rules that an upload or a schedule is compared with. -/
def residencyRules (policy : ResidencyPolicyRow) (kind : AdmissionType) : Dict :=
  if kind = .assetUpload then policy.assetRulesJson else policy.workerRulesJson

def residencyRule? (rules : Dict) (key : String) : Option Dict := (Dict.get rules key).fields?

/-- `rule.get(key, [])` -/
def listOf (rule : Dict) (key : String) : Json := (Dict.get? rule key).getD (.arr [])

/-- The rule of an upload or a schedule. -/
def checkResidencyRule (profile : DeploymentProfileRow) (region : Option String) (rule : Dict) : Except AdmissionStop Unit := do
  let inside ← match region.filter fun region => region ≠ "" with
    | none => .ok true
    | some region => orStop (containsText (listOf rule "allowed_regions") region)
  denyIf (inside = false) "DEPLOYMENT_RESIDENCY_REGION_DENIED"
  let mode ← orStop (containsText (listOf rule "allowed_modes") profile.mode.value)
  denyIf (mode = false) "DEPLOYMENT_RESIDENCY_MODE_DENIED"

def isTrueValue : Json → Bool
  | .bool b => b
  | _ => false

/-- The rule of a transfer. -/
def checkTransferRule (region : Option String) (request : Dict) (rule : TransferRule) : Except AdmissionStop Unit := do
  let stage := TransferStage.ofText? (dep.textOr request "processing_stage" "")
  denyIf (stage.all (fun stage => stage.order < rule.minimumStage.order)) "DEPLOYMENT_TRANSFER_STAGE_DENIED"
  denyIf (region.all (fun region => region ∉ rule.allowedRegions) ∨ dep.textOr request "purpose" "" ∉ rule.allowedPurposes)
    "DEPLOYMENT_TRANSFER_SCOPE_DENIED"
  denyIf (rule.requiresApproval = true ∧ ¬ isTrueValue (Dict.get request "approval_receipt_valid"))
    "DEPLOYMENT_TRANSFER_APPROVAL_REQUIRED" ["approved_transfer_receipt"]

def transferRule? (transfer : HybridTransferPolicyRow) (assetClass : String) : Option TransferRule :=
  transfer.rulesJson.find? fun rule => rule.assetClass = assetClass

/-- What an admission is compared with. -/
structure AdmissionScope where
  binding : ProjectDeploymentBindingRow
  profile : DeploymentProfileRow
  policy : ResidencyPolicyRow

/-- The levels that every admission passes. -/
def admissionScope (db : AdmissionDb) (args : AdmissionArguments) : Except AdmissionStop AdmissionScope := do
  let projectId ← orDeny args.projectId "DEPLOYMENT_PROJECT_SCOPE_REQUIRED"
  let _ ← orStop (requireProject db.toEdgeDb args.tenantId projectId)
  let binding ← orDeny (activeBinding? db args.tenantId projectId) "DEPLOYMENT_PROFILE_NOT_ASSIGNED"
  denyIf (args.deploymentProfileId.any fun id => id ≠ "" && binding.deploymentProfileId ≠ id)
    "DEPLOYMENT_PROFILE_SCOPE_MISMATCH"
  let profile ← orDeny ((db.profiles.get? binding.deploymentProfileId).filter fun row => row.state = .active)
    "DEPLOYMENT_PROFILE_INACTIVE"
  denyIf (outside args.region profile.supportedRegionsJson = true) "DEPLOYMENT_REGION_DENIED"
  let policy ← orDeny (activePolicy? db binding.residencyPolicyId) "DEPLOYMENT_RESIDENCY_POLICY_REQUIRED"
  denyIf (profile.mode ∉ policy.allowedModesJson ∨ outside args.region policy.allowedRegionsJson = true)
    "DEPLOYMENT_RESIDENCY_DENIED"
  return ⟨binding, profile, policy⟩

/-- The level of the class, which there is for three kinds of admission. -/
def checkClass (db : AdmissionDb) (kind : AdmissionType) (args : AdmissionArguments) (scope : AdmissionScope) :
    Except AdmissionStop Unit :=
  if kind = .assetUpload ∨ kind = .workerSchedule then do
    let rule ← orDeny (residencyRule? (residencyRules scope.policy kind) (dep.classKey args.request))
      "DEPLOYMENT_RESIDENCY_RULE_MISSING"
    checkResidencyRule scope.profile args.region rule
  else if kind = .assetTransfer then do
    let transfer ← orDeny (activeTransfer? db scope.binding.transferPolicyId) "DEPLOYMENT_TRANSFER_POLICY_REQUIRED"
    let rule ← orDeny (transferRule? transfer (dep.textOr args.request "asset_class" "")) "DEPLOYMENT_TRANSFER_ASSET_CLASS_DENIED"
    dep.checkTransferRule args.region args.request rule
  else .ok ()

def evaluate (db : AdmissionDb) (kind : AdmissionType) (args : AdmissionArguments) : Except AdmissionStop Unit := do
  let scope ← admissionScope db args
  dep.checkClass db kind args scope

/-- `decision`, `reason` and `obligations` -/
structure AdmissionDecision where
  allow : Bool
  reason : String
  obligations : List String

def AdmissionDecision.text (decision : AdmissionDecision) : String := if decision.allow then "allow" else "deny"

/-- `_evaluate_admission` -/
def evaluateAdmission (db : AdmissionDb) (kind : AdmissionType) (args : AdmissionArguments) : Except Raised AdmissionDecision :=
  match dep.evaluate db kind args with
  | .ok () => .ok ⟨true, "ALLOW", []⟩
  | .error (.denied reason obligations) => .ok ⟨false, reason, obligations⟩
  | .error (.raised error) => .error error

end Evaluation

section Recording
variable (dep : DeploymentControl)

structure AdmissionStamp extends Stamp where
  admissionId : String
  decidedAt : Nat

def evidenceHash (kind : AdmissionType) (args : AdmissionArguments) (decision : AdmissionDecision) : String :=
  canonicalSha256 (.obj [
    ("tenant_id", .str args.tenantId), ("project_id", .ofOption args.projectId), ("admission_type", .str kind.value),
    ("deployment_profile_id", .ofOption args.deploymentProfileId), ("region", .ofOption args.region),
    ("request", .obj args.request), ("decision", .str decision.text), ("reason_code", .str decision.reason),
    ("obligations", .texts decision.obligations)])

def newAdmission (stamp : AdmissionStamp) (kind : AdmissionType) (args : AdmissionArguments) (decision : AdmissionDecision) :
    DeploymentAdmissionRow where
  admissionId := stamp.admissionId
  tenantId := args.tenantId
  projectId := args.projectId
  admissionType := kind
  deploymentProfileId := args.deploymentProfileId
  region := args.region
  requestJson := args.request
  decision := decision.text
  reasonCode := decision.reason
  obligationsJson := decision.obligations
  evidenceHash := evidenceHash kind args decision
  decidedBy := args.actorId
  decidedAt := stamp.decidedAt

/-- `_admission` -/
def admission (row : DeploymentAdmissionRow) : Dict := [
  ("admission_id", .str row.admissionId), ("tenant_id", .str row.tenantId), ("project_id", .ofOption row.projectId),
  ("admission_type", .str row.admissionType.value), ("deployment_profile_id", .ofOption row.deploymentProfileId),
  ("region", .ofOption row.region), ("decision", .str row.decision), ("reason_code", .str row.reasonCode),
  ("obligations", .texts row.obligationsJson), ("evidence_hash", .str row.evidenceHash),
  ("decided_at", .str (isoformat row.decidedAt))]

def admissionEvent (row : DeploymentAdmissionRow) (actorId : String) : EventRequest where
  eventType := "deployment.admission.decided"
  schemaVersion := "1.0.0"
  tenantId := row.tenantId
  projectId := row.projectId.getD ""
  aggregateType := "deployment_admission"
  aggregateId := row.admissionId
  payload := [("decision", .str row.decision), ("reason_code", .str row.reasonCode),
    ("admission_type", .str row.admissionType.value)]
  producer := "deployment-control"
  actorId := some actorId
  workloadIdentity := none

def admissionAudit (row : DeploymentAdmissionRow) (actorId : String) : AuditRequest where
  tenantId := row.tenantId
  projectId := row.projectId
  actorId := actorId
  action := "deployment.admission." ++ row.admissionType.value
  resourceType := "deployment_admission"
  resourceId := row.admissionId
  outcome := if row.decision = "allow" then "allowed" else "denied"
  details := some [("reason_code", .str row.reasonCode), ("evidence_hash", .str row.evidenceHash)]

/-- The transaction of `_record_admission`; the same decision on the same request is kept once. -/
def storeAdmission (db : AdmissionDb) (stamp : AdmissionStamp) (kind : AdmissionType) (args : AdmissionArguments)
    (decision : AdmissionDecision) : Except Raised (AdmissionDb × DeploymentAdmissionRow) :=
  match db.admissions.rows.find? fun row => row.evidenceHash = evidenceHash kind args decision with
  | some row => .ok (db, row)
  | none => do
    let row := newAdmission stamp kind args decision
    let admissions ← orRaise (db.admissions.insert? row) (.integrityError "deployment_admissions")
    let store ← dep.publishNode db.toStore stamp.toStamp (admissionEvent row args.actorId) (admissionAudit row args.actorId)
    return ({ db with toStore := store, admissions }, row)

/-- `_record_admission` with `raise_on_denial=True`; a denial is raised after it has been stored. -/
def recordAdmission (db : AdmissionDb) (stamp : AdmissionStamp) (kind : AdmissionType) (args : AdmissionArguments)
    (decision : AdmissionDecision) : AdmissionDb × Except Raised Dict :=
  match dep.storeAdmission db stamp kind args decision with
  | .error e => (db, .error e)
  | .ok (stored, row) =>
    if decision.allow then (stored, .ok (admission row))
    else (stored, .error (authorizationError decision.reason "deployment admission denied"
      [("admission_id", .str row.admissionId), ("obligations", .texts decision.obligations)]))

/-- `str(key).startswith("precomputed_")` -/
def precomputed (request : Dict) : Bool := request.any fun field => "precomputed_".toList <+: field.1.toList

def checkAdmissionRequest (admissionType : String) (request : Dict) : Except Raised AdmissionType := do
  let kind ← orRaise (AdmissionType.ofText? admissionType)
    (validationError "DEPLOYMENT_ADMISSION_TYPE_INVALID" "unsupported deployment admission type")
  raiseIf (precomputed request = true) (validationError "DEPLOYMENT_ADMISSION_PRECOMPUTED_PROHIBITED"
    "callers may not submit precomputed admission decisions")
  return kind

def authorizeAdmission (db : AdmissionDb) (stamp : AdmissionStamp) (admissionType : String) (args : AdmissionArguments) :
    AdmissionDb × Except Raised Dict :=
  match checkAdmissionRequest admissionType args.request with
  | .error e => (db, .error e)
  | .ok kind =>
    match dep.evaluateAdmission db kind args with
    | .error e => (db, .error e)
    | .ok decision => dep.recordAdmission db stamp kind args decision

def regionRequired : AdmissionDecision := ⟨false, "DEPLOYMENT_REGION_REQUIRED", ["deployment_region"]⟩

/-- A project without a binding is not governed. The kind is one that the caller has written out. -/
def authorizeIfConfigured (db : AdmissionDb) (stamp : AdmissionStamp) (kind : AdmissionType)
    (tenantId projectId : String) (region : Option String) (request : Dict) (actorId : String) :
    AdmissionDb × Except Raised (Option Dict) :=
  match activeBinding? db tenantId projectId with
  | none => (db, .ok none)
  | some binding =>
    let args : AdmissionArguments := ⟨tenantId, some projectId, some binding.deploymentProfileId, region, request, actorId⟩
    let outcome := if region.all (fun region => region = "") then dep.recordAdmission db stamp kind args regionRequired
      else dep.authorizeAdmission db stamp kind.value args
    (outcome.1, outcome.2.map some)

end Recording

section Residency
variable (dep : DeploymentControl)

/-- The class that an upload or a schedule is about. -/
def admittedClass (kind : AdmissionType) (request : Dict) : String :=
  dep.py.str (orElse (Dict.get request (if kind = .assetUpload then "asset_class" else "worker_class")) (.str ""))

/-- The rule of the class that is admitted has the region. -/
def RuleAllows (db : AdmissionDb) (kind : AdmissionType) (args : AdmissionArguments) (scope : AdmissionScope) (region : String) :
    Prop :=
  if kind = .assetTransfer then
    ∃ transfer rule, activeTransfer? db scope.binding.transferPolicyId = some transfer ∧
      transferRule? transfer (dep.textOr args.request "asset_class" "") = some rule ∧ region ∈ rule.allowedRegions
  else ∃ rule, residencyRule? (residencyRules scope.policy kind) (dep.admittedClass kind args.request) = some rule ∧
    containsText (listOf rule "allowed_regions") region = .ok true

/-- A region is given and every level has it. -/
def FailsClosed (db : AdmissionDb) (kind : AdmissionType) (args : AdmissionArguments) (scope : AdmissionScope) : Prop :=
  ∃ region, args.region = some region ∧ region ≠ "" ∧ region ∈ scope.profile.supportedRegionsJson ∧
    region ∈ scope.policy.allowedRegionsJson ∧ dep.RuleAllows db kind args scope region

/-- A region is given, and what is looked up is the class that is admitted, or its rule has the region anyway. -/
def GovernedByOwnClass (db : AdmissionDb) (kind : AdmissionType) (args : AdmissionArguments) (scope : AdmissionScope) : Prop :=
  ∃ region, args.region = some region ∧ region ≠ "" ∧
    (kind = .assetTransfer ∨ dep.classKey args.request = dep.admittedClass kind args.request ∨
      dep.RuleAllows db kind args scope region)

end Residency

section Inversion
variable {dep : DeploymentControl} {db : AdmissionDb} {kind : AdmissionType} {args : AdmissionArguments} {scope : AdmissionScope}

theorem denyIf_eq_ok {c : Prop} [Decidable c] {reason : String} {obligations : List String} {u : Unit} :
    denyIf c reason obligations = .ok u ↔ ¬ c := by
  by_cases hc : c
  · simp [denyIf, hc]
  · simp [denyIf, hc]

theorem orDeny_eq_ok {α : Type} {value : Option α} {reason : String} {a : α} :
    orDeny value reason = .ok a ↔ value = some a := by
  cases value with
  | none => simp [orDeny]
  | some b => simp [orDeny]

theorem orStop_eq_ok {α : Type} {value : Except Raised α} {a : α} : orStop value = .ok a ↔ value = .ok a := by
  cases value with
  | error e => simp [orStop, Except.mapError]
  | ok b => simp [orStop, Except.mapError]

/-- An allowed call has been evaluated without a denial. -/
theorem evaluate_of_authorizeAdmission {stamp : AdmissionStamp} {admissionType : String} {result : Dict}
    (h : (dep.authorizeAdmission db stamp admissionType args).2 = .ok result) :
    ∃ kind, AdmissionType.ofText? admissionType = some kind ∧ dep.evaluate db kind args = .ok () := by
  rw [authorizeAdmission] at h
  split at h
  · cases h
  · next kind hkind =>
    simp only [checkAdmissionRequest, bind_eq_ok, orRaise_eq_ok] at hkind
    obtain ⟨found, hfound, _, _, hsame⟩ := hkind
    cases hsame
    refine ⟨kind, hfound, ?_⟩
    split at h
    · cases h
    · next decision hdecision =>
      rw [evaluateAdmission] at hdecision
      split at hdecision
      · assumption
      · cases hdecision
        rw [recordAdmission] at h
        split at h
        · cases h
        · cases h
      · cases hdecision

theorem not_outside {region : String} {regions : List String} (hgiven : region ≠ "")
    (h : ¬ outside (some region) regions = true) : region ∈ regions := by
  simp only [outside, Option.any_some, Bool.and_eq_true, decide_eq_true_eq, not_and, not_not] at h
  exact h hgiven

/-- The two levels above the class have a given region. -/
theorem admissionScope_regions (h : admissionScope db args = .ok scope) {region : String} (hregion : args.region = some region)
    (hgiven : region ≠ "") : region ∈ scope.profile.supportedRegionsJson ∧ region ∈ scope.policy.allowedRegionsJson := by
  simp only [admissionScope, bind_eq_ok, denyIf_eq_ok, hregion, not_or] at h
  obtain ⟨_, _, _, _, binding, _, _, _, profile, _, _, hsupported, policy, _, _, ⟨_, hallowed⟩, h⟩ := h
  cases h
  exact ⟨not_outside hgiven hsupported, not_outside hgiven hallowed⟩

theorem checkResidencyRule_region {profile : DeploymentProfileRow} {region : String} {rule : Dict} (hgiven : region ≠ "")
    (h : checkResidencyRule profile (some region) rule = .ok ()) :
    containsText (listOf rule "allowed_regions") region = .ok true := by
  have hfilter : (some region).filter (fun region => region ≠ "") = some region := by simp [hgiven]
  simp only [checkResidencyRule, hfilter, bind_eq_ok, orStop_eq_ok, denyIf_eq_ok] at h
  obtain ⟨inside, hinside, _, hnot, _⟩ := h
  rw [Bool.not_eq_false] at hnot
  rw [hinside, hnot]

theorem checkTransferRule_region {region : String} {request : Dict} {rule : TransferRule}
    (h : dep.checkTransferRule (some region) request rule = .ok ()) : region ∈ rule.allowedRegions := by
  simp only [checkTransferRule, bind_eq_ok, denyIf_eq_ok, not_or, Option.all_some, decide_eq_true_eq, not_not] at h
  obtain ⟨_, _, _, ⟨hregion, _⟩, _⟩ := h
  exact hregion

/-- What the level of the class has looked up has a given region. -/
theorem checkClass_region (hkind : kind = .assetUpload ∨ kind = .workerSchedule ∨ kind = .assetTransfer)
    (h : dep.checkClass db kind args scope = .ok ()) {region : String} (hregion : args.region = some region)
    (hgiven : region ≠ "") (hclass : kind = .assetTransfer ∨ dep.classKey args.request = dep.admittedClass kind args.request) :
    dep.RuleAllows db kind args scope region := by
  by_cases htransfer : kind = .assetTransfer
  · subst htransfer
    rw [checkClass, if_neg (by decide), if_pos rfl] at h
    simp only [bind_eq_ok, orDeny_eq_ok, hregion] at h
    obtain ⟨transfer, hfound, rule, hrule, hcheck⟩ := h
    rw [RuleAllows, if_pos rfl]
    exact ⟨transfer, rule, hfound, hrule, checkTransferRule_region hcheck⟩
  · have hresidency : kind = .assetUpload ∨ kind = .workerSchedule := by
      rcases hkind with hupload | hschedule | hother
      · exact Or.inl hupload
      · exact Or.inr hschedule
      · exact absurd hother htransfer
    rw [checkClass, if_pos hresidency] at h
    simp only [bind_eq_ok, orDeny_eq_ok, hregion] at h
    obtain ⟨rule, hrule, hcheck⟩ := h
    rw [RuleAllows, if_neg htransfer, ← hclass.resolve_left htransfer]
    exact ⟨rule, hrule, checkResidencyRule_region hgiven hcheck⟩

/-- An admission that is allowed fails closed exactly when it has a region and is governed by the rule of its own class. -/
theorem allowed_failsClosed_iff {stamp : AdmissionStamp} {admissionType : String} {result : Dict}
    (h : (dep.authorizeAdmission db stamp admissionType args).2 = .ok result)
    (htype : admissionType ∈ ["asset_upload", "worker_schedule", "asset_transfer"]) :
    ∃ kind scope, AdmissionType.ofText? admissionType = some kind ∧ admissionScope db args = .ok scope ∧
      (dep.FailsClosed db kind args scope ↔ dep.GovernedByOwnClass db kind args scope) := by
  obtain ⟨kind, hkind, hevaluate⟩ := evaluate_of_authorizeAdmission h
  obtain ⟨scope, hscope, hcheck⟩ := bind_eq_ok.mp hevaluate
  refine ⟨kind, scope, hkind, hscope, ?_⟩
  have hgoverned : kind = .assetUpload ∨ kind = .workerSchedule ∨ kind = .assetTransfer := by
    simp only [List.mem_cons, List.not_mem_nil, or_false] at htype
    rcases htype with rfl | rfl | rfl
    · exact Or.inl (Option.some.inj hkind).symm
    · exact Or.inr (Or.inl (Option.some.inj hkind).symm)
    · exact Or.inr (Or.inr (Option.some.inj hkind).symm)
  constructor
  · rintro ⟨region, hregion, hgiven, _, _, hrule⟩
    exact ⟨region, hregion, hgiven, Or.inr (Or.inr hrule)⟩
  · rintro ⟨region, hregion, hgiven, hclass⟩
    obtain ⟨hsupported, hallowed⟩ := admissionScope_regions hscope hregion hgiven
    refine ⟨region, hregion, hgiven, hsupported, hallowed, ?_⟩
    rcases hclass with htransfer | hkey | hrule
    · exact checkClass_region hgoverned hcheck hregion hgiven (Or.inl htransfer)
    · exact checkClass_region hgoverned hcheck hregion hgiven (Or.inr hkey)
    · exact hrule

/-- An evaluation without a denial is allowed by a service whose tables are empty so far. -/
theorem authorizeAdmission_of_evaluate {stamp : AdmissionStamp} {admissionType : String}
    (hrequest : checkAdmissionRequest admissionType args.request = .ok kind) (hevaluate : dep.evaluate db kind args = .ok ())
    (hadmissions : db.admissions = .empty) (haudit : db.audit = .empty) :
    ∃ result, (dep.authorizeAdmission db stamp admissionType args).2 = .ok result := by
  let row := newAdmission stamp kind args ⟨true, "ALLOW", []⟩
  have hdecision : dep.evaluateAdmission db kind args = .ok ⟨true, "ALLOW", []⟩ := by
    rw [evaluateAdmission, hevaluate]
  have hpayload : validatePayload (admissionEvent row args.actorId).payload = .ok () := by
    have hkeys : (admissionEvent row args.actorId).payload.map Prod.fst = ["decision", "reason_code", "admission_type"] := rfl
    apply validatePayload_brief hkeys rfl (by decide)
    intro field hfield
    simp only [admissionEvent, row, newAdmission, List.mem_cons, List.not_mem_nil, or_false] at hfield
    rcases hfield with rfl | rfl | rfl
    · exact brief_str (by decide)
    · exact brief_str (by decide)
    · apply brief_str
      cases kind <;> decide
  obtain ⟨event, hevent⟩ := db.toStore.emit_total stamp.toStamp (r := admissionEvent row args.actorId) rfl rfl rfl hpayload
  obtain ⟨log, hlog⟩ := @Store.record_of_empty dep.audit { db.toStore with outbox := db.outbox ++ [event] } stamp.toStamp
    (admissionAudit row args.actorId) haudit
  have hfresh : db.admissions.get? row.admissionId = none := by
    rw [hadmissions]
    rfl
  obtain ⟨admissions, hinsert⟩ := Table.insert?_isSome hfresh
  have hstored : ∃ stored, dep.storeAdmission db stamp kind args ⟨true, "ALLOW", []⟩ = .ok (stored, row) := by
    have hnone : (db.admissions.rows.find? fun r => r.evidenceHash = evidenceHash kind args ⟨true, "ALLOW", []⟩) = none := by
      rw [hadmissions]
      rfl
    rw [storeAdmission, hnone]
    simp only [bind_eq_ok, orRaise_eq_ok]
    exact ⟨_, admissions, hinsert, _, bind_eq_ok.mpr ⟨_, hevent, hlog⟩, rfl⟩
  obtain ⟨stored, hstored⟩ := hstored
  refine ⟨admission row, ?_⟩
  rw [authorizeAdmission, hrequest]
  simp only [hdecision, recordAdmission, hstored, if_true]

end Inversion

section Sample

/-- Photos may be uploaded in one region. -/
def photoRules : Dict :=
  [("photo", .obj [("allowed_regions", .texts ["eu-west-1"]), ("allowed_modes", .texts ["edge"])])]

def governedDb : AdmissionDb where
  toEdgeDb := { edgeDb [] List.nodup_nil .empty with
    projects := .single ⟨"p1", "t1", "internal", "active"⟩
    profiles := ⟨[⟨"edge", .edge, ["eu-west-1"], .active⟩], by decide⟩ }
  bindings := ⟨[⟨"b1", "t1", "p1", "edge", some "r1", none, .active⟩], by decide⟩
  residencyPolicies := ⟨[⟨"r1", ["eu-west-1"], [.edge], photoRules, [], .active⟩], List.nodup_singleton _⟩
  transferPolicies := .empty
  admissions := .empty

def photoUpload (region : Option String) : AdmissionArguments :=
  ⟨"t1", some "p1", none, region, [("asset_class", .str "photo")], "ana"⟩

def admissionStamp : AdmissionStamp := ⟨⟨1, "a1"⟩, "d1", 1⟩

theorem allowed_photo (region : Option String) (h : plainDeployment.evaluate governedDb .assetUpload (photoUpload region) = .ok ()) :
    ∃ result, (plainDeployment.authorizeAdmission governedDb admissionStamp "asset_upload" (photoUpload region)).2 = .ok result := by
  have hrequest : checkAdmissionRequest "asset_upload" (photoUpload region).request = .ok .assetUpload := rfl
  exact authorizeAdmission_of_evaluate hrequest h rfl rfl

theorem allowed_failsClosed_iff_photo : ∃ kind scope, AdmissionType.ofText? "asset_upload" = some kind ∧
    admissionScope governedDb (photoUpload (some "eu-west-1")) = .ok scope ∧
      (plainDeployment.FailsClosed governedDb kind (photoUpload (some "eu-west-1")) scope ↔
        plainDeployment.GovernedByOwnClass governedDb kind (photoUpload (some "eu-west-1")) scope) := by
  obtain ⟨result, hresult⟩ := allowed_photo (some "eu-west-1") rfl
  exact allowed_failsClosed_iff hresult (by decide)

/-- An upload without a region is allowed. -/
theorem allowed_without_region :
    (∃ result, (plainDeployment.authorizeAdmission governedDb admissionStamp "asset_upload" (photoUpload none)).2 = .ok result) ∧
      ∀ kind scope, ¬ plainDeployment.FailsClosed governedDb kind (photoUpload none) scope := by
  constructor
  · exact allowed_photo none rfl
  · rintro kind scope ⟨region, hregion, _⟩
    cases hregion

end Sample

end DeploymentControl

end Sip
