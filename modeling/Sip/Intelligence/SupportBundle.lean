import Sip.Capture.Package
import Sip.Intelligence.Budget
import Sip.Spatial.MergeLaws

/-!
# Support bundles

A customer approves which telemetry a bundle may hold: by identifier, type and operation,
and by flags for logs, metrics and traces. The records are selected by the lists first
and then divided among the members; the flags decide about three of the members only.
-/

namespace Sip

set_option autoImplicit false

inductive TelemetryType where
  | log | metric | trace | quality | queue | auditCorrelation
  deriving DecidableEq

def TelemetryType.value : TelemetryType → String
  | .log => "log"
  | .metric => "metric"
  | .trace => "trace"
  | .quality => "quality"
  | .queue => "queue"
  | .auditCorrelation => "audit_correlation"

structure TelemetryRecordRow where
  telemetryId : String
  tenantId : String
  projectId : String
  telemetryType : TelemetryType
  service : String
  release : String
  correlationId : String
  traceId : Option String := none
  operationId : Option String := none
  routeTemplate : Option String := none
  stage : Option String := none
  modelId : Option String := none
  checkpointHash : Option String := none
  captureProfile : Option String := none
  hardwareProfile : Option String := none
  executionProfile : Option String := none
  queueClass : Option String := none
  vertical : Option String := none
  severity : String
  outcome : String
  stableErrorCode : Option String := none
  payloadJson : Dict := []
  labelsJson : Dict := []
  payloadHash : String
  createdAt : Nat

/-- What of `resource_scope_json` a bundle reads. `request_support_access` lets through lists of at most 100 nonempty
texts, and any value for a flag. -/
structure SupportScope where
  resourceIds : Option (List String) := none
  operationIds : Option (List String) := none
  telemetryTypes : Option (List String) := none
  includeLogs : Option Json := none
  includeMetrics : Option Json := none
  includeTraces : Option Json := none

structure SupportAccessGrantRow where
  grantId : String
  tenantId : String
  projectId : String
  resourceScopeJson : SupportScope
  purpose : String
  personnelJson : List String
  approvalHash : String
  state : String
  expiresAt : Nat
  revokedAt : Option Nat := none

structure SupportBundleRow where
  bundleId : String
  grantId : String
  tenantId : String
  projectId : String
  bundlePath : String
  zipHash : String
  rootHash : String
  scopeHash : String
  manifestJson : Dict
  state : String := "verified"
  createdBy : String
  verifiedAt : Nat

structure SupportDb extends Store where
  telemetry : Table TelemetryRecordRow (fun row => row.telemetryId)
  grants : Table SupportAccessGrantRow (fun row => row.grantId)
  bundles : Table SupportBundleRow (fun row => row.bundleId)

/-- Where bundles are written and what they say about the platform; the ZIP container, the findings about the file of a row,
keyed pseudonyms and the search for credential-like texts. -/
structure SupportService where
  bundleRoot : String
  release : String
  environment : String
  zip : List (String × Bytes) → Bytes
  verifyRow : SupportBundleRow → Option (List Json)
  pseudonymizeIdentifier : String → String → String
  secretText : String → Bool

namespace SupportService

section Scope

def SupportScope.approvedIds (scope : SupportScope) : List String := scope.resourceIds.getD []

def SupportScope.scopeTypes (scope : SupportScope) : List String := scope.telemetryTypes.getD []

def SupportScope.operationScope (scope : SupportScope) : List String := scope.operationIds.getD []

/-- `scope.get(key, default)` as a condition -/
def flag (value : Option Json) (default : Bool) : Bool := (value.map Json.truthy).getD default

def metricTypes : List TelemetryType := [.metric, .quality, .queue]

/-- `record["stable_error_code"]` as a condition -/
def hasErrorCode (row : TelemetryRecordRow) : Bool := row.stableErrorCode.any fun code => code ≠ ""

/-- `_telemetry_result` -/
def telemetryResult (row : TelemetryRecordRow) : Dict := [
  ("telemetry_id", .str row.telemetryId), ("telemetry_type", .str row.telemetryType.value), ("service", .str row.service),
  ("release", .str row.release), ("correlation_id", .str row.correlationId), ("trace_id", .ofOption row.traceId),
  ("operation_id", .ofOption row.operationId), ("route_template", .ofOption row.routeTemplate),
  ("stage", .ofOption row.stage), ("model_id", .ofOption row.modelId), ("checkpoint_hash", .ofOption row.checkpointHash),
  ("capture_profile", .ofOption row.captureProfile), ("hardware_profile", .ofOption row.hardwareProfile),
  ("execution_profile", .ofOption row.executionProfile), ("queue_class", .ofOption row.queueClass),
  ("vertical", .ofOption row.vertical), ("severity", .str row.severity), ("outcome", .str row.outcome),
  ("stable_error_code", .ofOption row.stableErrorCode), ("payload", .obj row.payloadJson), ("labels", .obj row.labelsJson),
  ("payload_hash", .str row.payloadHash), ("created_at", .str (isoformat row.createdAt)), ("idempotent_replay", .bool false)]

end Scope

section Hardware
variable (sup : SupportService)

def hardwareStringKeys : List String := [
  "device_tier", "os_family", "os_version", "architecture", "cpu_class", "gpu_class", "browser_family", "browser_version",
  "app_version", "driver_version", "runtime_profile", "thermal_condition"]

def hardwareIntegerKeys : List String := ["memory_mb", "vram_mb", "cpu_count"]

def hardwareBooleanKeys : List String := ["gpu_available", "lidar_available"]

def fieldError (code message key : String) : Raised := validationError code message [("field", .str key)]

/-- One value of the profile. -/
def hardwareValue (tenantId projectId key : String) (value : Json) : Except Raised Json :=
  if key ∈ hardwareStringKeys then
    match value with
    | .str text => do
      let candidate := strip text.toList
      raiseIf (tenantId.toList <:+: candidate ∨ projectId.toList <:+: candidate ∨
          sup.secretText (String.ofList candidate) = true)
        (fieldError "SUPPORT_HARDWARE_SENSITIVE_VALUE_REJECTED"
          "support hardware metadata cannot contain scoped identifiers or credential-like content" key)
      raiseIf (128 < candidate.length ∨
          OperationsIntelligenceService.matchesPattern OperationsIntelligenceService.resourceMarks 255 candidate = false)
        (fieldError "SUPPORT_HARDWARE_VALUE_INVALID" "support hardware metadata contains an invalid controlled value" key)
      return .str (String.ofList candidate)
    | _ => .error (fieldError "SUPPORT_HARDWARE_VALUE_INVALID"
        "support hardware metadata must use controlled string values" key)
  else if key ∈ hardwareIntegerKeys then
    match value with
    | .int n => if 0 ≤ n ∧ n ≤ 16777216 then .ok (.int n)
      else .error (fieldError "SUPPORT_HARDWARE_VALUE_INVALID"
        "support hardware numeric metadata is outside the governed range" key)
    | _ => .error (fieldError "SUPPORT_HARDWARE_VALUE_INVALID"
        "support hardware numeric metadata is outside the governed range" key)
  else
    match value with
    | .bool b => .ok (.bool b)
    | _ => .error (fieldError "SUPPORT_HARDWARE_VALUE_INVALID" "support hardware availability metadata must be boolean" key)

/-- `_normalize_support_hardware_profile` -/
def normalizeHardwareProfile (tenantId projectId : String) (profile : Dict) : Except Raised Dict := do
  raiseIf (24 < profile.length) (validationError "SUPPORT_HARDWARE_PROFILE_INVALID"
    "support hardware profile must be a bounded object")
  let unknown := sortBy id ((profile.map Prod.fst).filter fun key =>
    key ∉ hardwareStringKeys ++ hardwareIntegerKeys ++ hardwareBooleanKeys)
  raiseIf (unknown ≠ []) (validationError "SUPPORT_HARDWARE_FIELD_FORBIDDEN"
    "support hardware profile contains a non-approved field" [("fields", .arr (unknown.map .str))])
  let normalized ← (sortBy Prod.fst profile).mapM fun (key, value) => do
    let value ← sup.hardwareValue tenantId projectId key value
    return (key, value)
  raiseIf (4096 < (canonicalJson (.obj normalized)).length)
    (validationError "SUPPORT_HARDWARE_PROFILE_TOO_LARGE" "support hardware profile is too large")
  return normalized

end Hardware

section References
variable (py : PyText)

/-- `_require_sha256` -/
def requireSha256 (value code field : String) : Except Raised String := do
  let candidate := String.ofList ((strip value.toList).map lowerChar)
  raiseIf (isDigest candidate = false)
    (validationError code (field ++ " must be a lowercase SHA-256 digest") [("field", .str field)])
  return candidate

/-- One manifest reference, as its kind and its hash. -/
def normalizedReference : Json → Except Raised (String × String)
  | .obj fields => do
    raiseIf (sortedSet id (fields.map Prod.fst) ≠ ["kind", "sha256"])
      (validationError "SUPPORT_MANIFEST_REFERENCE_INVALID" "manifest references require only kind and sha256")
    let kind ← OperationsIntelligenceService.requireIdentifier (py.str (Dict.get fields "kind"))
      "SUPPORT_MANIFEST_KIND_INVALID" "manifest_kind" OperationsIntelligenceService.resourceMarks 255
    let sha256 ← requireSha256 (py.str (Dict.get fields "sha256")) "SUPPORT_MANIFEST_HASH_INVALID" "manifest_hash"
    return (kind, sha256)
  | _ => .error (validationError "SUPPORT_MANIFEST_REFERENCE_INVALID"
      "manifest references require only kind and sha256")

def normalizedReferences (references : List Json) : Except Raised (List (String × String)) := do
  raiseIf (100 < references.length)
    (validationError "SUPPORT_MANIFEST_REFERENCE_LIMIT" "support manifest reference selection is too large")
  let pairs ← references.mapM (normalizedReference py)
  return sortBy toLex pairs

def referenceJson (reference : String × String) : Json := .obj [("kind", .str reference.1), ("sha256", .str reference.2)]

end References

section Selection

structure BundleRequest where
  tenantId : String
  projectId : String
  grantId : String
  telemetryIds : Option (List String)
  hardwareProfile : Dict
  manifestReferences : List Json
  actorId : String

def requireProject (db : SupportDb) (tenantId projectId : String) : Except Raised Unit := do
  let project ← orRaise (db.projects.get? projectId) (notFoundError "project" projectId)
  raiseIf (project.tenantId ≠ tenantId) (notFoundError "project" projectId)

/-- `_require_active_support_grant` -/
def requireActiveSupportGrant (now : Nat) (req : BundleRequest) (grant : SupportAccessGrantRow) : Except Raised Unit := do
  raiseIf (grant.tenantId ≠ req.tenantId ∨ grant.projectId ≠ req.projectId)
    (notFoundError "support_access_grant" grant.grantId)
  raiseIf (grant.state ≠ "active" ∨ grant.expiresAt ≤ now ∨ grant.revokedAt ≠ none)
    (authorizationError "SUPPORT_ACCESS_INACTIVE" "support access is expired or revoked")
  raiseIf (req.actorId ∉ grant.personnelJson)
    (authorizationError "SUPPORT_PERSONNEL_DENIED" "actor is not named in the customer-approved support grant")

def projectTelemetry (db : SupportDb) (tenantId projectId : String) : List TelemetryRecordRow :=
  db.telemetry.rows.filter fun row => row.tenantId = tenantId ∧ row.projectId = projectId

/-- `ORDER BY created_at DESC LIMIT 200` -/
def newestRecords (rows : List TelemetryRecordRow) : List TelemetryRecordRow :=
  (sortBy (fun row => OrderDual.toDual row.createdAt) rows).take 200

/-- `telemetry_ids`, if any are asked for. -/
def BundleRequest.requestedIds (req : BundleRequest) : List String := req.telemetryIds.getD []

/-- What the statement reads: the records asked for, else the approved ones, else the newest. -/
def readRecords (db : SupportDb) (req : BundleRequest) (scope : SupportScope) : Except Raised (List TelemetryRecordRow) :=
  let rows := projectTelemetry db req.tenantId req.projectId
  let approved := SupportScope.approvedIds scope
  let requested := req.requestedIds
  if requested ≠ [] then do
    raiseIf (500 < requested.length)
      (validationError "SUPPORT_TELEMETRY_SELECTION_TOO_LARGE" "support telemetry selection is too large")
    raiseIf (approved ≠ [] ∧ ¬ requested ⊆ approved)
      (authorizationError "SUPPORT_RESOURCE_SCOPE_DENIED"
        "requested telemetry is outside the customer-approved resource scope")
    let records := rows.filter fun row => row.telemetryId ∈ requested
    raiseIf (records.length ≠ (sortedSet id requested).length) (notFoundError "telemetry_record" "one_or_more")
    return records
  else if approved ≠ [] then .ok (rows.filter fun row => row.telemetryId ∈ approved)
  else .ok (newestRecords rows)

def ofScopeTypes (scope : SupportScope) (records : List TelemetryRecordRow) : List TelemetryRecordRow :=
  let scopeTypes := SupportScope.scopeTypes scope
  if scopeTypes ≠ [] then records.filter fun row => row.telemetryType.value ∈ scopeTypes else records

def ofOperationScope (scope : SupportScope) (records : List TelemetryRecordRow) : List TelemetryRecordRow :=
  let operationScope := SupportScope.operationScope scope
  if operationScope ≠ [] then
    records.filter fun row => row.operationId.any fun operationId => operationId ∈ operationScope
  else records

def selectRecords (db : SupportDb) (req : BundleRequest) (scope : SupportScope) : Except Raised (List TelemetryRecordRow) := do
  let records ← readRecords db req scope
  let selected := ofOperationScope scope (ofScopeTypes scope records)
  raiseIf (SupportScope.approvedIds scope ≠ [] ∧
      ¬ (selected.map TelemetryRecordRow.telemetryId) ⊆ SupportScope.approvedIds scope)
    (authorizationError "SUPPORT_RESOURCE_SCOPE_DENIED" "support selection escaped the approved resource scope")
  return selected

end Selection

section Members
variable (sup : SupportService)

/-- A file of the bundle, and the telemetry records it holds. -/
structure Member where
  name : String
  records : List TelemetryRecordRow
  content : Bytes

structure Bundle where
  grant : SupportAccessGrantRow
  scopeHash : String
  manifest : Dict
  members : List Member

/-- A record is in some member of the bundle. -/
def Bundle.Shows (bundle : Bundle) (row : TelemetryRecordRow) : Prop := ∃ member ∈ bundle.members, row ∈ member.records

def recordsJson (records : List TelemetryRecordRow) : Json := .arr (records.map fun row => .obj (telemetryResult row))

/-- `canonical_json(record) + b"\\n"` for each record -/
def logLines (records : List TelemetryRecordRow) : Bytes :=
  records.flatMap fun row => canonicalJson (.obj (telemetryResult row)) ++ utf8 ['\n']

def document (name : String) (records : List TelemetryRecordRow) (value : Json) : Member := ⟨name, records, canonicalJson value⟩

def ofTypes (types : List TelemetryType) (payloads : List TelemetryRecordRow) : List TelemetryRecordRow :=
  payloads.filter fun row => row.telemetryType ∈ types

/-- `[..] if included else []` -/
def includedIf (included : Bool) (records : List TelemetryRecordRow) : List TelemetryRecordRow := if included then records else []

def bundleManifest (req : BundleRequest) (grant : SupportAccessGrantRow) (scopeHash : String) (count : Nat) : Dict := [
  ("schema", .str "sip.support-bundle/v1"), ("tenant_context", .str (sup.pseudonymizeIdentifier req.tenantId "tenant")),
  ("project_context", .str (sup.pseudonymizeIdentifier req.projectId "project")), ("grant_id", .str req.grantId),
  ("purpose", .str grant.purpose), ("scope_hash", .str scopeHash),
  ("personnel", .arr (grant.personnelJson.map fun person =>
    .str (sup.pseudonymizeIdentifier person "support-personnel"))),
  ("created_by", .str (sup.pseudonymizeIdentifier req.actorId "support-personnel")), ("raw_media_included", .bool false),
  ("unrestricted_signed_urls_included", .bool false), ("telemetry_record_count", .int count),
  ("release", .str sup.release)]

/-- The files of the bundle, by name. -/
def bundleMembers (grant : SupportAccessGrantRow) (manifest hardware : Dict) (references : List (String × String))
    (records : List TelemetryRecordRow) : List Member :=
  let scope := grant.resourceScopeJson
  let payloads := sortBy (fun row => toLex (row.createdAt, row.telemetryId)) records
  let logs := includedIf (flag scope.includeLogs true) (ofTypes [.log] payloads)
  let metrics := includedIf (flag scope.includeMetrics true) (ofTypes metricTypes payloads)
  let traces := includedIf (flag scope.includeTraces false) (ofTypes [.trace] payloads)
  let errors := payloads.filter hasErrorCode
  [document "support-bundle.json" [] (.obj manifest),
    document "versions.json" [] (.obj [("platform_release", .str sup.release), ("environment", .str sup.environment),
      ("services", .arr ((sortedSet id (records.map TelemetryRecordRow.service)).map .str))]),
    document "manifests.json" [] (.obj [("references", .arr (references.map referenceJson)),
      ("support_grant_hash", .str grant.approvalHash)]),
    document "metrics.json" (metrics ++ traces)
      (.obj [("records", recordsJson metrics), ("trace_summaries", recordsJson traces)]),
    document "errors.json" errors (.obj [("records", recordsJson errors)]),
    ⟨"logs.ndjson", logs, logLines logs⟩,
    document "hardware-profile.json" [] (.obj hardware)]

def scopeBody (req : BundleRequest) (records : List TelemetryRecordRow) (hardware : Dict)
    (references : List (String × String)) : Dict := [
  ("grant_id", .str req.grantId),
  ("telemetry_ids", .arr ((sortBy id (records.map TelemetryRecordRow.telemetryId)).map .str)),
  ("hardware_profile", .obj hardware), ("manifest_references", .arr (references.map referenceJson)),
  ("release", .str sup.release)]

end Members

section Creation
variable (sup : SupportService) (svc : AuditService) (py : PyText)

/-- A bundle of the same scope that is there already, or the one to be written. -/
inductive Prepared where
  | existing (row : SupportBundleRow)
  | fresh (bundle : Bundle)

/-- Everything that `create_support_bundle` does before it writes. -/
def prepareBundle (db : SupportDb) (now : Nat) (req : BundleRequest) : Except Raised Prepared := do
  requireProject db req.tenantId req.projectId
  let grant ← orRaise (db.grants.get? req.grantId) (notFoundError "support_access_grant" req.grantId)
  requireActiveSupportGrant now req grant
  let records ← selectRecords db req grant.resourceScopeJson
  let references ← normalizedReferences py req.manifestReferences
  let hardware ← sup.normalizeHardwareProfile req.tenantId req.projectId req.hardwareProfile
  let scopeHash := canonicalSha256 (.obj (sup.scopeBody req records hardware references))
  match db.bundles.rows.find? fun row => row.tenantId = req.tenantId ∧ row.projectId = req.projectId ∧
    row.scopeHash = scopeHash with
  | some row => return .existing row
  | none =>
    let manifest := sup.bundleManifest req grant scopeHash records.length
    return .fresh ⟨grant, scopeHash, manifest, sup.bundleMembers grant manifest hardware references records⟩

def bundleFiles (bundle : Bundle) : List (String × Bytes) :=
  sortBy Prod.fst (bundle.members.map fun member => (member.name, member.content))

def bundleChecksums (bundle : Bundle) : List (String × String) :=
  (bundleFiles bundle).map fun file => (file.1, sha256Hex file.2)

/-- The archive: the files and their checksums. -/
def archiveOf (bundle : Bundle) : Bytes :=
  let checksums := bundleChecksums bundle
  sup.zip (bundleFiles bundle ++ [("checksums.json", canonicalJson (.obj [("algorithm", .str "sha256"),
    ("files", .obj (checksums.map fun file => (file.1, .str file.2))), ("root_hash", .str (merkleRoot checksums))]))])

def bundleRow (stamp : OperationsIntelligenceService.BudgetStamp) (req : BundleRequest) (bundle : Bundle) :
    SupportBundleRow where
  bundleId := stamp.newId
  grantId := req.grantId
  tenantId := req.tenantId
  projectId := req.projectId
  bundlePath := sup.bundleRoot ++ "/" ++ req.tenantId ++ "/" ++ req.projectId ++ "/" ++ stamp.newId ++ ".zip"
  zipHash := sha256Hex (sup.archiveOf bundle)
  rootHash := merkleRoot (bundleChecksums bundle)
  scopeHash := bundle.scopeHash
  manifestJson := bundle.manifest ++
    [("checksums", .obj ((bundleChecksums bundle).map fun file => (file.1, .str file.2)))]
  createdBy := req.actorId
  verifiedAt := stamp.now

def bundleDetails (row : SupportBundleRow) : Dict := [
  ("grant_id", .str row.grantId), ("scope_hash", .str row.scopeHash), ("zip_hash", .str row.zipHash),
  ("root_hash", .str row.rootHash), ("raw_media_included", .bool false)]

def bundleChange (row : SupportBundleRow) : OperationsIntelligenceService.Change where
  tenantId := row.tenantId
  projectId := some row.projectId
  actorId := row.createdBy
  action := "support_bundle:create"
  resourceType := "support_bundle"
  resourceId := row.bundleId
  details := bundleDetails row
  eventType := "support.bundle_created"
  aggregateType := "support_bundle"
  aggregateId := row.bundleId
  payload := bundleDetails row

/-- The row of a written bundle. -/
def insertBundle (db : SupportDb) (stamp : OperationsIntelligenceService.BudgetStamp) (row : SupportBundleRow) :
    Except Raised SupportDb := do
  raiseIf (db.bundles.rows.any fun other => other.zipHash = row.zipHash)
    (.integrityError "support_bundles.zip_hash")
  let bundles ← orRaise (db.bundles.insert? row) (.integrityError "support_bundles.bundle_id")
  let store ← OperationsIntelligenceService.record svc db.toStore stamp.toStamp (bundleChange row)
  match sup.verifyRow row with
  | none => return { db with bundles, toStore := store }
  | some findings => .error (validationError "SUPPORT_BUNDLE_SELF_VERIFICATION_FAILED"
      "created support bundle did not pass independent verification" [("findings", .arr findings)])

/-- What the call leaves on the disk, and what it returns. -/
structure Creation where
  written : Option Bundle
  result : Except Raised (SupportBundleRow × Bool × SupportDb)

def createSupportBundle (db : SupportDb) (stamp : OperationsIntelligenceService.BudgetStamp) (req : BundleRequest) : Creation :=
  match sup.prepareBundle py db stamp.now req with
  | .error e => ⟨none, .error e⟩
  | .ok (.existing row) => match sup.verifyRow row with
    | none => ⟨none, .ok (row, true, db)⟩
    | some findings => ⟨none, .error (conflictError "SUPPORT_BUNDLE_REPLAY_CHANGED"
        "existing support bundle no longer verifies" [("findings", .arr findings)])⟩
  | .ok (.fresh bundle) => ⟨some bundle, do
      let row := sup.bundleRow stamp req bundle
      let db ← sup.insertBundle svc db stamp row
      return (row, false, db)⟩

end Creation

section Grant

/-- The kinds of record that the flags of a grant leave out. -/
def Withheld (scope : SupportScope) (row : TelemetryRecordRow) : Prop :=
  (row.telemetryType = .log ∧ flag scope.includeLogs true = false) ∨
  (row.telemetryType ∈ metricTypes ∧ flag scope.includeMetrics true = false) ∨
  (row.telemetryType = .trace ∧ flag scope.includeTraces false = false)

/-- The record is within the grant: on every list that the grant gives, and of no kind that it leaves out. -/
structure Permits (scope : SupportScope) (row : TelemetryRecordRow) : Prop where
  ids : ∀ ids, scope.resourceIds = some ids → row.telemetryId ∈ ids
  types : ∀ types, scope.telemetryTypes = some types → row.telemetryType.value ∈ types
  operations : ∀ operations, scope.operationIds = some operations → ∃ operationId ∈ operations, row.operationId = some operationId
  kinds : ¬ Withheld scope row

/-- A list that is given without an entry. -/
def GivesEmptyList (scope : SupportScope) : Prop :=
  scope.resourceIds = some [] ∨ scope.telemetryTypes = some [] ∨ scope.operationIds = some []

/-- A record of the project that the request and the lists of the grant select. -/
structure Selected (db : SupportDb) (req : BundleRequest) (scope : SupportScope) (row : TelemetryRecordRow) : Prop where
  stored : row ∈ projectTelemetry db req.tenantId req.projectId
  asked : req.requestedIds ≠ [] → row.telemetryId ∈ req.requestedIds
  newest : req.requestedIds = [] → SupportScope.approvedIds scope = [] →
    row ∈ newestRecords (projectTelemetry db req.tenantId req.projectId)
  approved : SupportScope.approvedIds scope ≠ [] → row.telemetryId ∈ SupportScope.approvedIds scope
  types : SupportScope.scopeTypes scope ≠ [] → row.telemetryType.value ∈ SupportScope.scopeTypes scope
  operations : SupportScope.operationScope scope ≠ [] →
    ∃ operationId ∈ SupportScope.operationScope scope, row.operationId = some operationId

/-- The kinds of record that a flag of the grant puts into a member. -/
def Included (scope : SupportScope) (row : TelemetryRecordRow) : Prop :=
  (row.telemetryType = .log ∧ flag scope.includeLogs true = true) ∨
  (row.telemetryType ∈ metricTypes ∧ flag scope.includeMetrics true = true) ∨
  (row.telemetryType = .trace ∧ flag scope.includeTraces false = true)

theorem not_withheld_of_included {scope : SupportScope} {row : TelemetryRecordRow} (h : Included scope row) :
    ¬ Withheld scope row := by
  intro hw
  rcases h with ⟨htype, hflag⟩ | ⟨htype, hflag⟩ | ⟨htype, hflag⟩ <;>
    rcases hw with ⟨htype', hflag'⟩ | ⟨htype', hflag'⟩ | ⟨htype', hflag'⟩ <;>
    simp_all [metricTypes]

/-- Where no list is given empty, the code's tests on the lists are those of the grant. -/
theorem permits_of_selected {db : SupportDb} {req : BundleRequest} {scope : SupportScope} {row : TelemetryRecordRow}
    (hsel : Selected db req scope row) (hempty : ¬ GivesEmptyList scope) (hkind : ¬ Withheld scope row) :
    Permits scope row := by
  refine ⟨?_, ?_, ?_, hkind⟩
  · intro ids hids
    have hne : ids ≠ [] := by
      intro hnil
      apply hempty
      exact Or.inl (by rw [hids, hnil])
    have happroved := hsel.approved
    simp only [SupportScope.approvedIds, hids, Option.getD_some] at happroved
    exact happroved hne
  · intro types htypes
    have hne : types ≠ [] := by
      intro hnil
      apply hempty
      exact Or.inr (Or.inl (by rw [htypes, hnil]))
    have hin := hsel.types
    simp only [SupportScope.scopeTypes, htypes, Option.getD_some] at hin
    exact hin hne
  · intro operations hoperations
    have hne : operations ≠ [] := by
      intro hnil
      apply hempty
      exact Or.inr (Or.inr (by rw [hoperations, hnil]))
    have hin := hsel.operations
    simp only [SupportScope.operationScope, hoperations, Option.getD_some] at hin
    exact hin hne

theorem not_givesEmptyList_of_permits {scope : SupportScope} {row : TelemetryRecordRow} (h : Permits scope row) :
    ¬ GivesEmptyList scope := by
  intro hempty
  rcases hempty with hids | htypes | hoperations
  · exact List.not_mem_nil (h.ids [] hids)
  · exact List.not_mem_nil (h.types [] htypes)
  · obtain ⟨operationId, hin, _⟩ := h.operations [] hoperations
    exact List.not_mem_nil hin

end Grant

section Reading

theorem mem_of_mem_newestRecords {rows : List TelemetryRecordRow} {row : TelemetryRecordRow}
    (h : row ∈ newestRecords rows) : row ∈ rows := by
  have hsorted := List.mem_of_mem_take h
  exact mem_sortBy.mp hsorted

/-- What the statement reads, before the lists of types and operations. -/
structure Read (db : SupportDb) (req : BundleRequest) (scope : SupportScope) (row : TelemetryRecordRow) : Prop where
  stored : row ∈ projectTelemetry db req.tenantId req.projectId
  asked : req.requestedIds ≠ [] → row.telemetryId ∈ req.requestedIds
  newest : req.requestedIds = [] → SupportScope.approvedIds scope = [] →
    row ∈ newestRecords (projectTelemetry db req.tenantId req.projectId)
  approved : SupportScope.approvedIds scope ≠ [] → row.telemetryId ∈ SupportScope.approvedIds scope

variable {db : SupportDb} {req : BundleRequest} {scope : SupportScope} {records : List TelemetryRecordRow}

/-- The statement by the list that was asked for; its identifiers were compared with the approved ones before. -/
theorem mem_readRecords (h : readRecords db req scope = .ok records) (row : TelemetryRecordRow) :
    row ∈ records ↔ Read db req scope row := by
  by_cases hasked : req.requestedIds = []
  · by_cases happroved : SupportScope.approvedIds scope = []
    · simp only [readRecords, hasked, happroved, ne_eq, not_true_eq_false, if_false, Except.ok.injEq] at h
      subst h
      constructor
      · intro hrow
        exact ⟨mem_of_mem_newestRecords hrow, fun hne => absurd hasked hne, fun _ _ => hrow, fun hne => absurd happroved hne⟩
      · intro hread
        exact hread.newest hasked happroved
    · simp only [readRecords, hasked, happroved, ne_eq, not_true_eq_false, not_false_eq_true, if_false, if_true,
        Except.ok.injEq] at h
      subst h
      constructor
      · intro hrow
        obtain ⟨hstored, hin⟩ := List.mem_filter.mp hrow
        exact ⟨hstored, fun hne => absurd hasked hne, fun _ hnil => absurd hnil happroved, fun _ => of_decide_eq_true hin⟩
      · intro hread
        apply List.mem_filter.mpr
        exact ⟨hread.stored, decide_eq_true (hread.approved happroved)⟩
  · simp only [readRecords, if_pos hasked, bind_eq_ok, raiseIf_eq_ok] at h
    obtain ⟨_, _, _, hsubset, _, _, h⟩ := h
    cases h
    constructor
    · intro hrow
      obtain ⟨hstored, hin⟩ := List.mem_filter.mp hrow
      have hin : row.telemetryId ∈ req.requestedIds := of_decide_eq_true hin
      refine ⟨hstored, fun _ => hin, fun hnil => absurd hnil hasked, ?_⟩
      intro hne
      by_contra hout
      exact hsubset ⟨hne, fun hsub => hout (hsub hin)⟩
    · intro hread
      apply List.mem_filter.mpr
      exact ⟨hread.stored, decide_eq_true (hread.asked hasked)⟩

theorem mem_ofScopeTypes (row : TelemetryRecordRow) : row ∈ ofScopeTypes scope records ↔
    row ∈ records ∧ (SupportScope.scopeTypes scope ≠ [] → row.telemetryType.value ∈ SupportScope.scopeTypes scope) := by
  by_cases h : SupportScope.scopeTypes scope = []
  · simp [ofScopeTypes, h]
  · simp [ofScopeTypes, h]

theorem mem_ofOperationScope (row : TelemetryRecordRow) : row ∈ ofOperationScope scope records ↔
    row ∈ records ∧ (SupportScope.operationScope scope ≠ [] →
      ∃ operationId ∈ SupportScope.operationScope scope, row.operationId = some operationId) := by
  by_cases h : SupportScope.operationScope scope = []
  · simp [ofOperationScope, h]
  · simp only [ofOperationScope, ne_eq, h, not_false_eq_true, if_true, List.mem_filter, forall_const]
    cases row.operationId with
    | none => simp
    | some operationId => simp

theorem mem_selectRecords (h : selectRecords db req scope = .ok records) (row : TelemetryRecordRow) :
    row ∈ records ↔ Selected db req scope row := by
  simp only [selectRecords, bind_eq_ok, raiseIf_eq_ok] at h
  obtain ⟨read, hread, _, _, h⟩ := h
  cases h
  rw [mem_ofOperationScope, mem_ofScopeTypes, mem_readRecords hread]
  constructor
  · rintro ⟨⟨hrow, htypes⟩, hoperations⟩
    exact ⟨hrow.stored, hrow.asked, hrow.newest, hrow.approved, htypes, hoperations⟩
  · intro hrow
    exact ⟨⟨⟨hrow.stored, hrow.asked, hrow.newest, hrow.approved⟩, hrow.types⟩, hrow.operations⟩

end Reading

section Writing
variable {sup : SupportService} {svc : AuditService} {py : PyText} {db : SupportDb}
  {stamp : OperationsIntelligenceService.BudgetStamp} {req : BundleRequest} {bundle : Bundle}

theorem mem_includedIf {included : Bool} {records : List TelemetryRecordRow} {row : TelemetryRecordRow} :
    row ∈ includedIf included records ↔ included = true ∧ row ∈ records := by
  cases included with
  | false => simp [includedIf]
  | true => simp [includedIf]

/-- The member for the errors takes every kind of record. -/
theorem shows_bundleMembers (grant : SupportAccessGrantRow) (manifest hardware : Dict) (references : List (String × String))
    (records : List TelemetryRecordRow) (row : TelemetryRecordRow) :
    (∃ member ∈ sup.bundleMembers grant manifest hardware references records, row ∈ member.records) ↔
      row ∈ records ∧ (hasErrorCode row = true ∨ Included grant.resourceScopeJson row) := by
  simp only [bundleMembers, document, List.mem_cons, List.not_mem_nil, or_false, exists_eq_or_imp, exists_eq_left,
    false_or, List.mem_append, mem_includedIf, ofTypes, List.mem_filter, mem_sortBy, decide_eq_true_eq,
    Included]
  constructor
  · rintro ((⟨hflag, hrow, htype⟩ | ⟨hflag, hrow, htype⟩) | ⟨hrow, hcode⟩ | ⟨hflag, hrow, htype⟩)
    · exact ⟨hrow, Or.inr (Or.inr (Or.inl ⟨htype, hflag⟩))⟩
    · exact ⟨hrow, Or.inr (Or.inr (Or.inr ⟨htype, hflag⟩))⟩
    · exact ⟨hrow, Or.inl hcode⟩
    · exact ⟨hrow, Or.inr (Or.inl ⟨htype, hflag⟩)⟩
  · rintro ⟨hrow, hcode | ⟨htype, hflag⟩ | ⟨htype, hflag⟩ | ⟨htype, hflag⟩⟩
    · exact Or.inr (Or.inl ⟨hrow, hcode⟩)
    · exact Or.inr (Or.inr ⟨hflag, hrow, htype⟩)
    · exact Or.inl (Or.inl ⟨hflag, hrow, htype⟩)
    · exact Or.inl (Or.inr ⟨hflag, hrow, htype⟩)

/-- What a written bundle was made of. -/
structure Prepares (sup : SupportService) (db : SupportDb) (req : BundleRequest) (bundle : Bundle)
    (records : List TelemetryRecordRow) : Prop where
  grant : db.grants.get? req.grantId = some bundle.grant
  selects : selectRecords db req bundle.grant.resourceScopeJson = .ok records
  members : ∃ manifest hardware references,
    bundle.members = sup.bundleMembers bundle.grant manifest hardware references records

theorem prepares_of_prepareBundle {now : Nat} (h : sup.prepareBundle py db now req = .ok (.fresh bundle)) :
    ∃ records, Prepares sup db req bundle records := by
  simp only [prepareBundle, bind_eq_ok, orRaise_eq_ok] at h
  obtain ⟨_, _, grant, hgrant, _, _, records, hrecords, references, _, hardware, _, h⟩ := h
  split at h
  · cases h
  · cases h
    exact ⟨records, hgrant, hrecords, _, _, _, rfl⟩

theorem prepareBundle_of_written (h : (sup.createSupportBundle svc py db stamp req).written = some bundle) :
    sup.prepareBundle py db stamp.now req = .ok (.fresh bundle) := by
  rw [createSupportBundle] at h
  split at h
  · cases h
  · split at h
    · cases h
    · cases h
  · next hprepared =>
    cases h
    exact hprepared

/-- The records of a written bundle: those selected that have an error code or are of an included kind. -/
theorem shows_iff_selected (h : (sup.createSupportBundle svc py db stamp req).written = some bundle) (row : TelemetryRecordRow) :
    bundle.Shows row ↔ Selected db req bundle.grant.resourceScopeJson row ∧
      (hasErrorCode row = true ∨ Included bundle.grant.resourceScopeJson row) := by
  obtain ⟨records, hprep⟩ := prepares_of_prepareBundle (prepareBundle_of_written h)
  obtain ⟨manifest, hardware, references, hmembers⟩ := hprep.members
  rw [Bundle.Shows, hmembers, shows_bundleMembers, mem_selectRecords hprep.selects]

/-- A written bundle stays within its grant exactly when no selected record with an error code is of a kind that the
grant leaves out, and no list is given empty where a record is shown. -/
theorem bundle_within_grant_iff (h : (sup.createSupportBundle svc py db stamp req).written = some bundle) :
    db.grants.get? req.grantId = some bundle.grant ∧
      ((∀ row, bundle.Shows row → Permits bundle.grant.resourceScopeJson row) ↔
        ∀ row, Selected db req bundle.grant.resourceScopeJson row →
          (hasErrorCode row = true → ¬ Withheld bundle.grant.resourceScopeJson row) ∧
          (hasErrorCode row = true ∨ Included bundle.grant.resourceScopeJson row →
            ¬ GivesEmptyList bundle.grant.resourceScopeJson)) := by
  obtain ⟨records, hprep⟩ := prepares_of_prepareBundle (prepareBundle_of_written h)
  refine ⟨hprep.grant, ?_⟩
  constructor
  · intro hwithin row hsel
    constructor
    · intro hcode
      have hshows : bundle.Shows row := (shows_iff_selected h row).mpr ⟨hsel, Or.inl hcode⟩
      exact (hwithin row hshows).kinds
    · intro hshown
      have hshows : bundle.Shows row := (shows_iff_selected h row).mpr ⟨hsel, hshown⟩
      exact not_givesEmptyList_of_permits (hwithin row hshows)
  · intro hcond row hshows
    obtain ⟨hsel, hshown⟩ := (shows_iff_selected h row).mp hshows
    obtain ⟨hcode, hempty⟩ := hcond row hsel
    apply permits_of_selected hsel (hempty hshown)
    rcases hshown with hhas | hincluded
    · exact hcode hhas
    · exact not_withheld_of_included hincluded

/-- The selected records of a call that gets past its checks, in a project that has no bundle. -/
theorem written_of {grant : SupportAccessGrantRow} {records : List TelemetryRecordRow} {references : List (String × String)}
    {hardware : Dict} (hproject : requireProject db req.tenantId req.projectId = .ok ())
    (hgrant : db.grants.get? req.grantId = some grant) (hactive : requireActiveSupportGrant stamp.now req grant = .ok ())
    (hrecords : selectRecords db req grant.resourceScopeJson = .ok records)
    (hreferences : normalizedReferences py req.manifestReferences = .ok references)
    (hhardware : sup.normalizeHardwareProfile req.tenantId req.projectId req.hardwareProfile = .ok hardware)
    (hbundles : db.bundles.rows = []) :
    ∃ bundle, (sup.createSupportBundle svc py db stamp req).written = some bundle ∧ bundle.grant = grant := by
  let scopeHash := canonicalSha256 (.obj (sup.scopeBody req records hardware references))
  let manifest := sup.bundleManifest req grant scopeHash records.length
  have hprepare : sup.prepareBundle py db stamp.now req =
      .ok (.fresh ⟨grant, scopeHash, manifest, sup.bundleMembers grant manifest hardware references records⟩) := by
    simp only [prepareBundle, bind_eq_ok, orRaise_eq_ok]
    refine ⟨(), hproject, grant, hgrant, (), hactive, records, hrecords, references, hreferences, hardware, hhardware, ?_⟩
    rw [hbundles]
    rfl
  refine ⟨⟨grant, scopeHash, manifest, sup.bundleMembers grant manifest hardware references records⟩, ?_, rfl⟩
  rw [createSupportBundle, hprepare]

end Writing

section Sample

/-- Bundles that always verify, with names that need no pseudonym. -/
def plainSupport : SupportService where
  bundleRoot := "/bundles"
  release := "1.0.0"
  environment := "local"
  zip files := files.flatMap Prod.snd
  verifyRow _ := none
  pseudonymizeIdentifier name _ := name
  secretText _ := false

/-- A worker that failed left a log entry with a stable error code. -/
def workerLog : TelemetryRecordRow where
  telemetryId := "l1"
  tenantId := "t1"
  projectId := "p1"
  telemetryType := .log
  service := "worker"
  release := "1.0.0"
  correlationId := "c1"
  severity := "error"
  outcome := "failed"
  stableErrorCode := some "WORKER_LOST"
  payloadHash := "h1"
  createdAt := 1

/-- The customer approved metrics only. -/
def noLogs : SupportAccessGrantRow where
  grantId := "g1"
  tenantId := "t1"
  projectId := "p1"
  resourceScopeJson := { includeLogs := some (.bool false) }
  purpose := "support"
  personnelJson := ["ana"]
  approvalHash := "a1"
  state := "active"
  expiresAt := 100

def supportDb (grant : SupportAccessGrantRow) : SupportDb where
  toStore := { Store.empty with projects := .single ⟨"p1", "t1", "internal", "active"⟩ }
  telemetry := ⟨[workerLog], by decide⟩
  grants := ⟨[grant], List.nodup_singleton _⟩
  bundles := .empty

def bundleRequest : BundleRequest where
  tenantId := "t1"
  projectId := "p1"
  grantId := "g1"
  telemetryIds := none
  hardwareProfile := []
  manifestReferences := []
  actorId := "ana"

theorem normalizeHardwareProfile_nil (tenantId projectId : String) :
    plainSupport.normalizeHardwareProfile tenantId projectId [] = .ok [] := by rfl

theorem selected_workerLog : Selected (supportDb noLogs) bundleRequest noLogs.resourceScopeJson workerLog := by
  have hin : workerLog ∈ [workerLog] := List.mem_singleton_self _
  exact ⟨hin, nofun, fun _ _ => hin, nofun, nofun, nofun⟩

theorem written_noLogs : ∃ bundle, (plainSupport.createSupportBundle .zeroKey SpatialDataService.plainText (supportDb noLogs) ⟨⟨2, "a1"⟩, "b1"⟩
    bundleRequest).written = some bundle ∧ bundle.grant = noLogs :=
  @written_of plainSupport .zeroKey SpatialDataService.plainText (supportDb noLogs) ⟨⟨2, "a1"⟩, "b1"⟩ bundleRequest noLogs [workerLog] [] []
    rfl rfl rfl rfl rfl (normalizeHardwareProfile_nil "t1" "p1") rfl

/-- The log entry is in the member for the errors, and the grant leaves logs out. -/
theorem log_shown_without_logs : ∃ bundle, (plainSupport.createSupportBundle .zeroKey SpatialDataService.plainText (supportDb noLogs)
    ⟨⟨2, "a1"⟩, "b1"⟩ bundleRequest).written = some bundle ∧ bundle.Shows workerLog ∧
      ¬ Permits bundle.grant.resourceScopeJson workerLog := by
  obtain ⟨bundle, hwritten, hgrant⟩ := written_noLogs
  refine ⟨bundle, hwritten, ?_, ?_⟩
  · apply (shows_iff_selected hwritten workerLog).mpr
    rw [hgrant]
    exact ⟨selected_workerLog, Or.inl rfl⟩
  · intro hpermits
    rw [hgrant] at hpermits
    exact hpermits.kinds (Or.inl ⟨rfl, rfl⟩)

theorem bundle_within_grant_iff_noLogs : ∃ bundle, (plainSupport.createSupportBundle .zeroKey SpatialDataService.plainText (supportDb noLogs)
    ⟨⟨2, "a1"⟩, "b1"⟩ bundleRequest).written = some bundle ∧
    ((∀ row, bundle.Shows row → Permits bundle.grant.resourceScopeJson row) ↔
      ∀ row, Selected (supportDb noLogs) bundleRequest bundle.grant.resourceScopeJson row →
        (hasErrorCode row = true → ¬ Withheld bundle.grant.resourceScopeJson row) ∧
        (hasErrorCode row = true ∨ Included bundle.grant.resourceScopeJson row →
          ¬ GivesEmptyList bundle.grant.resourceScopeJson)) := by
  obtain ⟨bundle, hwritten, _⟩ := written_noLogs
  exact ⟨bundle, hwritten, (bundle_within_grant_iff hwritten).2⟩

end Sample

end SupportService

end Sip
