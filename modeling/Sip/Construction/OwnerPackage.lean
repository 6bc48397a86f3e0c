import Sip.Capture.Package
import Sip.Construction.RestrictedData

/-!
# The owner handoff package

A package has eleven members besides its checksums: the data of the project, each table
selected by a rule of its own, two reports over all rows, the findings of the selection,
a manifest and a viewer with the counts.
-/

namespace Sip

set_option autoImplicit false

structure ConstructionCommissioningRow where
  commissioningId : String
  tenantId : String
  projectId : String
  systemType : String
  procedureJson : Dict
  stepsJson : List Json
  participantsJson : List Json
  instrumentsJson : List Json
  resultsJson : Dict
  state : String
  acceptedAt : Option Nat
  createdAt : Nat

structure ConstructionInterchangeRow where
  interchangeId : String
  tenantId : String
  projectId : String
  format : String
  direction : String
  sourceSha256 : Option String
  schemaVersion : Option String
  units : Option String
  crsJson : Dict
  unsupportedConstructsJson : List Json
  truthLabelsJson : Dict
  status : String

structure FacilityDb extends ConstructionDb where
  documents : Table ConstructionDocumentRevisionRow (fun row => row.revisionId)
  commissioning : Table ConstructionCommissioningRow (fun row => row.commissioningId)
  interchanges : Table ConstructionInterchangeRow (fun row => row.interchangeId)
  measurements : Table MeasurementRow (fun row => row.measurementId)

/-- The rows of a project, in the order of their tables. -/
structure ProjectRows where
  records : List FacilityRecordRow
  documents : List ConstructionDocumentRevisionRow
  issues : List ConstructionIssueRow
  runs : List ConstructionCommissioningRow
  interchanges : List ConstructionInterchangeRow
  measurements : List MeasurementRow

def FacilityDb.project (db : FacilityDb) (tenantId projectId : String) : ProjectRows where
  records := db.records.rows.filter fun row => row.tenantId = tenantId ∧ row.projectId = projectId
  documents := db.documents.rows.filter fun row => row.tenantId = tenantId ∧ row.projectId = projectId
  issues := db.issues.rows.filter fun row => row.tenantId = tenantId ∧ row.projectId = projectId
  runs := db.commissioning.rows.filter fun row => row.tenantId = tenantId ∧ row.projectId = projectId
  interchanges := db.interchanges.rows.filter fun row => row.tenantId = tenantId ∧ row.projectId = projectId
  measurements := db.measurements.rows.filter fun row => row.tenantId = tenantId ∧ row.projectId = projectId

namespace ConstructionService

section Reports

/-- `dict(sorted(Counter(values).items()))` -/
def counts (values : List String) : List (String × Nat) := (sortedSet id values).map fun value => (value, values.count value)

def countsJson (entries : List (String × Nat)) : Json := .obj (entries.map fun entry => (entry.1, .int entry.2))

/-- What a report is asked for. -/
structure ReportRequest where
  tenantId : String
  projectId : String
  asOf : Option Nat := none
  audience : String := "technical"
  scopeJson : Dict := []
  visitId : Option String := none
  sceneCommitId : Option String := none
  authorId : String := "sip-report-service"
  templateVersion : String := "1.0"
  filters : Dict := []
  designRevisionIds : List String := []
  representationsUsed : List String := ["semantic", "evidence"]
  excludedAreas : List Json := []

structure TechnicalReport where
  request : ReportRequest
  generatedAt : Nat
  dataCutoff : Option Nat
  recordCounts : List (String × Nat)
  stateCounts : List (String × Nat)
  issueCounts : List (String × Nat)
  commissioningCounts : List (String × Nat)
  documentRevisions : Nat
  measurements : List (MeasurementRow × Json)

def measurementBody (row : MeasurementRow) (value uncertainty : Json) : Json := .obj [
  ("measurement_id", .str row.measurementId), ("value", value), ("unit", .str row.unit), ("uncertainty", uncertainty),
  ("authority_class", .str row.authorityClass.value), ("verifier_id", .ofOption row.verifierId),
  ("verified_at", .ofOption (row.verifiedAt.map isoformat)), ("source_asset_ids", Json.texts row.sourceAssetIdsJson),
  ("calibration", .obj row.calibrationJson)]

/-- Only finite numbers have a text in canonical JSON. -/
def finiteNumber (value : Double) : Except Raised Json := do
  let x ← orRaise value.finite? (.valueError "Out of range float values are not JSON compliant")
  return .float x

/-- A measurement with what the report says of it. -/
def reportedMeasurement (row : MeasurementRow) : Except Raised (MeasurementRow × Json) := do
  let value ← finiteNumber row.value
  let uncertainty ← finiteNumber row.uncertainty
  return (row, measurementBody row value uncertainty)

/-- `max(source_timestamps) if source_timestamps else None` -/
def latestTime (rows : ProjectRows) : Option Nat :=
  (rows.records.map FacilityRecordRow.createdAt ++ rows.issues.map ConstructionIssueRow.updatedAt ++
    rows.runs.map (fun run => run.acceptedAt.getD run.createdAt) ++
    rows.documents.map ConstructionDocumentRevisionRow.createdAt ++
    rows.measurements.map fun row => row.verifiedAt.getD row.measuredAt).max?

/-- The rows up to a time. -/
def ProjectRows.upTo (rows : ProjectRows) : Option Nat → ProjectRows
  | none => rows
  | some asOf => { rows with
    records := rows.records.filter fun row => row.createdAt ≤ asOf
    issues := rows.issues.filter fun row => row.createdAt ≤ asOf
    runs := rows.runs.filter fun row => row.createdAt ≤ asOf
    documents := rows.documents.filter fun row => row.createdAt ≤ asOf }

def phoneWarning : String := "Phone-derived geometry is not survey-grade, fabrication-ready, contract-authoritative, " ++
  "code-compliant, or verified as-built without independent verification."

/-- `technical_report` -/
def technicalReport (rows : ProjectRows) (now : Nat) (req : ReportRequest) : Except Raised TechnicalReport := do
  let rows := ProjectRows.upTo rows req.asOf
  let measurements ← (sortBy MeasurementRow.measurementId rows.measurements).mapM reportedMeasurement
  return {
    request := req
    generatedAt := now
    dataCutoff := req.asOf <|> latestTime rows
    recordCounts := counts (rows.records.map FacilityRecordRow.recordType)
    stateCounts := counts (rows.records.map FacilityRecordRow.state)
    issueCounts := counts (rows.issues.map fun issue => issue.status.value)
    commissioningCounts := counts (rows.runs.map ConstructionCommissioningRow.state)
    documentRevisions := rows.documents.length
    measurements }

namespace TechnicalReport
variable (report : TechnicalReport)

/-- The report without the time it was generated at. -/
def stable : Dict :=
  let req := report.request
  [("report_type", .str "construction_technical"), ("tenant_id", .str req.tenantId), ("project_id", .str req.projectId),
   ("scope", .obj (if req.scopeJson = [] then [("project_id", .str req.projectId)] else req.scopeJson)),
   ("visit_id", .ofOption req.visitId), ("scene_commit_id", .ofOption req.sceneCommitId),
   ("design_revision_ids", Json.texts (sortedSet id req.designRevisionIds)), ("author_id", .str req.authorId),
   ("template_version", .str req.templateVersion), ("audience", .str req.audience), ("query_filters", .obj req.filters),
   ("as_of", .ofOption (req.asOf.map isoformat)), ("data_cutoff", .ofOption (report.dataCutoff.map isoformat)),
   ("representations_used", Json.texts req.representationsUsed), ("excluded_areas", .arr req.excludedAreas),
   ("record_counts", countsJson report.recordCounts), ("state_counts", countsJson report.stateCounts),
   ("issue_counts", countsJson report.issueCounts), ("commissioning_counts", countsJson report.commissioningCounts),
   ("document_revisions", .int report.documentRevisions), ("measurements", .arr (report.measurements.map Prod.snd)),
   ("measurement_authority", .obj [
     ("field_verified", .str "eligible for its explicitly recorded permitted use only"),
     ("scan_estimate", .str "unverified estimate; not fabrication or survey authority"),
     ("design", .str "design intent; not field-observed as-built evidence")]),
   ("limitations", Json.texts [
     "Counts and states reflect the selected project snapshot and filters.",
     "Unobserved or inaccessible areas are not evidence of absence."]),
   ("warnings", Json.texts [phoneWarning])]

def reportHash : String := canonicalSha256 (.obj report.stable)

def document : Dict :=
  report.stable ++ [("generated_at", .str (isoformat report.generatedAt)), ("report_hash", .str report.reportHash)]

end TechnicalReport

/-- The body of the owner report over a technical one. -/
def ownerBody (technical : TechnicalReport) : Dict := [
  ("report_type", .str "construction_owner"), ("project_id", .str technical.request.projectId),
  ("as_of", .ofOption (technical.request.asOf.map isoformat)),
  ("open_issues", .int ((technical.issueCounts.filter fun entry => entry.1 ∉ ["verified_closed", "superseded"]).map
    Prod.snd).sum),
  ("verified_measurement_count", .int (technical.measurements.countP fun row => row.1.authorityClass = .fieldVerified)),
  ("systems", countsJson (technical.recordCounts.filter fun entry => entry.1 ∈ systemTypes)),
  ("commissioning", countsJson technical.commissioningCounts), ("document_revisions", .int technical.documentRevisions),
  ("warning", .str phoneWarning), ("technical_report_hash", .str technical.reportHash)]

/-- `owner_report` -/
def ownerReport (rows : ProjectRows) (now : Nat) (tenantId projectId : String) (asOf : Option Nat := none) :
    Except Raised Dict := do
  let technical ← technicalReport rows now { tenantId, projectId, asOf, audience := "owner" }
  let body := ownerBody technical
  return body ++ [("report_hash", .str (canonicalSha256 (.obj body)))]

end Reports

section Selection
variable (svc : ConstructionService)

/-- An entry about what was left out: a whole record, or some fields of one. -/
inductive Redaction where
  | withheld
  | fields (recordId : String) (paths : List String)

def Redaction.body : Redaction → Json
  | .withheld => .obj [
    ("record_id", .null), ("fields", Json.texts ["restricted_entity_withheld"]), ("reason", .str "authorization_before_export")]
  | .fields recordId paths => .obj [("record_id", .str recordId), ("fields", Json.texts paths)]

/-- What the loop over the records collects. -/
structure Inventory where
  entries : List Json := []
  redactions : List Redaction := []
  findings : List Json := []

def withholds (includeRestricted : Bool) (record : FacilityRecordRow) : Bool :=
  svc.recordIsRestricted record.recordType record.dataJson && !includeRestricted

def inventoryEntry (record : FacilityRecordRow) (data : Dict) (redacted : List String) : Json := .obj [
  ("record_id", .str record.recordId), ("type", .str record.recordType), ("parent_id", .ofOption record.parentId),
  ("entity_id", .ofOption record.entityId), ("state", .str record.state), ("data", .obj data),
  ("evidence_asset_ids", Json.texts record.evidenceAssetIdsJson), ("redacted_fields", Json.texts redacted)]

/-- `list(data.get("missing_required_fields", []))` of a system record -/
def missingFields (recordType : String) (data : Dict) : Except Raised (List Json) :=
  if recordType ∈ systemTypes then Json.iterate ((data.get? "missing_required_fields").getD (.arr [])) else .ok []

/-- A record that is exported. -/
def exportRecord (includeRestricted : Bool) (record : FacilityRecordRow) : Except Raised Inventory := do
  let (data, redacted) := sanitizedRecordData record.recordType record.dataJson includeRestricted
  let missing ← missingFields record.recordType data
  return {
    entries := [inventoryEntry record data redacted]
    redactions := if redacted = [] then [] else [.fields record.recordId redacted]
    findings := if missing = [] then [] else [.obj [
      ("record_id", .str record.recordId), ("record_type", .str record.recordType), ("missing_fields", .arr missing)]] }

/-- What a record contributes. -/
def inventoryOf (includeRestricted : Bool) (record : FacilityRecordRow) : Except Raised Inventory :=
  if svc.withholds includeRestricted record then .ok { redactions := [.withheld] } else exportRecord includeRestricted record

/-- The loop over the records. -/
def inventory (includeRestricted : Bool) : List FacilityRecordRow → Except Raised Inventory
  | [] => .ok {}
  | record :: records => do
    let first ← svc.inventoryOf includeRestricted record
    let rest ← inventory includeRestricted records
    return ⟨first.entries ++ rest.entries, first.redactions ++ rest.redactions, first.findings ++ rest.findings⟩

/-- `_document_body` behind the identifiers of a revision. -/
def documentEntry (row : ConstructionDocumentRevisionRow) : Json := .obj [
  ("revision_id", .str row.revisionId), ("stable_document_id", .str row.stableDocumentId),
  ("document_type", .str row.documentType), ("title", .str row.title), ("revision", .str row.revision),
  ("issue_date", .str row.issueDate), ("issuer", .str row.issuer), ("status", .str row.status),
  ("asset_id", .str row.assetId), ("source_sha256", .str row.sourceSha256), ("page_count", .int row.pageCount),
  ("permissions", .obj row.permissionsJson), ("supersedes_revision_id", .ofOption row.supersedesRevisionId),
  ("page_regions", .arr row.pageRegionsJson), ("spatial_links", .arr row.spatialLinksJson),
  ("extraction", .obj row.extractionJson), ("review", .obj row.reviewJson)]

/-- The rule by which documents are left out, beside `_document_is_restricted`. -/
def excludes (includeRestricted : Bool) (row : ConstructionDocumentRevisionRow) : Bool :=
  (row.documentType = "programming_record" || isFalse (row.permissionsJson.get "owner_export")) && !includeRestricted

def excludedEntry (row : ConstructionDocumentRevisionRow) : Json := .obj [
  ("revision_id", .str row.revisionId), ("document_type", .str row.documentType), ("reason", .str "restricted_owner_export")]

def issueEntry (row : ConstructionIssueRow) : Json := .obj [
  ("issue_id", .str row.issueId), ("type", .str row.issueType), ("description", .str row.description),
  ("status", .str row.status.value), ("severity", .str row.severity.value), ("evidence", .arr row.evidenceJson),
  ("history", .arr row.historyJson), ("verification", .obj row.verificationJson)]

def runEntry (row : ConstructionCommissioningRow) : Json := .obj [
  ("commissioning_id", .str row.commissioningId), ("system_type", .str row.systemType), ("state", .str row.state),
  ("procedure", .obj row.procedureJson), ("steps", .arr row.stepsJson), ("results", .obj row.resultsJson),
  ("participants", .arr row.participantsJson), ("instruments", .arr row.instrumentsJson)]

/-- `restricted_record_ids` -/
def restrictedRecordIds (includeRestricted : Bool) (records : List FacilityRecordRow) : List String :=
  (records.filter (svc.withholds includeRestricted)).map (·.recordId)

def interchangeEntry (restrictedIds : List String) (row : ConstructionInterchangeRow) : Json := .obj [
  ("interchange_id", .str row.interchangeId), ("format", .str row.format), ("direction", .str row.direction),
  ("source_sha256", .ofOption row.sourceSha256), ("schema_version", .ofOption row.schemaVersion),
  ("units", .ofOption row.units), ("crs", .obj row.crsJson), ("status", .str row.status),
  ("unsupported_constructs", .arr row.unsupportedConstructsJson),
  ("truth_labels", .obj (row.truthLabelsJson.filter fun label => label.1 ∉ restrictedIds))]

/-- An issue about a withheld record is left out. -/
def showsIssue (restrictedIds : List String) (row : ConstructionIssueRow) : Bool := ¬ row.entityId.any fun id => id ∈ restrictedIds

end Selection

/-- What a handoff is asked for. -/
structure HandoffRequest where
  tenantId : String
  projectId : String
  scopeJson : Dict
  acceptedSceneCommitId : Option String
  warranties : List Json
  training : List Json
  exclusions : List String
  audienceProfiles : Dict

/-- `scope.get("include_restricted_annex") is True` -/
def HandoffRequest.includesRestricted (req : HandoffRequest) : Bool := isTrue (req.scopeJson.get "include_restricted_annex")

structure HandoffSnapshot where
  request : HandoffRequest
  inventory : Inventory
  documents : List Json
  excludedDocuments : List Json
  issues : List Json
  commissioning : List Json
  interchange : List Json
  technical : TechnicalReport
  owner : Dict
  verifiedAttributes : Dict

section Snapshot
variable (svc : ConstructionService)

/-- The verification of a record: `dict(data_json.get("verification") or {})`. -/
def verifiedAttribute (record : FacilityRecordRow) : Except Raised (String × Json) := do
  let value := Dict.get record.dataJson "verification"
  let verification ← svc.py.dict (if value.truthy then value else .obj [])
  return (record.recordId, .obj [("state", .str record.state), ("verification", .obj verification)])

/-- The technical report of a handoff. -/
def handoffReport (req : HandoffRequest) : ReportRequest where
  tenantId := req.tenantId
  projectId := req.projectId
  audience := "owner"
  scopeJson := req.scopeJson
  sceneCommitId := req.acceptedSceneCommitId
  authorId := "sip-owner-handoff-service"
  filters := [("handoff", .bool true)]
  representationsUsed := ["semantic", "evidence", "metric", "design"]

/-- `_handoff_snapshot` -/
def handoffSnapshot (rows : ProjectRows) (now : Nat) (req : HandoffRequest) : Except Raised HandoffSnapshot := do
  let includeRestricted := req.includesRestricted
  let inventory ← svc.inventory includeRestricted rows.records
  let restrictedIds := svc.restrictedRecordIds includeRestricted rows.records
  let technical ← technicalReport rows now (handoffReport req)
  let owner ← ownerReport rows now req.tenantId req.projectId
  let verified := rows.records.filter fun record => record.state = "verified" ∧ record.recordId ∉ restrictedIds
  let verifiedAttributes ← verified.mapM svc.verifiedAttribute
  return {
    request := req
    inventory
    documents := (rows.documents.filter fun row => !excludes includeRestricted row).map documentEntry
    excludedDocuments := (rows.documents.filter (excludes includeRestricted)).map excludedEntry
    issues := (rows.issues.filter (showsIssue restrictedIds)).map issueEntry
    commissioning := rows.runs.map runEntry
    interchange := rows.interchanges.map (interchangeEntry restrictedIds)
    technical
    owner
    verifiedAttributes }

end Snapshot

namespace HandoffSnapshot
variable (s : HandoffSnapshot)

/-- `handoff_validation` -/
def validation : Dict := [
  ("status", .str (if s.inventory.findings = [] then "passed" else "needs_review")),
  ("required_field_findings", .arr s.inventory.findings), ("excluded_documents", .arr s.excludedDocuments),
  ("redactions", .arr (s.inventory.redactions.map Redaction.body)),
  ("restricted_annex_included", .bool s.request.includesRestricted)]

def manifest : Dict := [
  ("format", .str "SIP-CONSTRUCTION-HANDOFF-1.0"), ("tenant_id", .str s.request.tenantId),
  ("project_id", .str s.request.projectId), ("scope", .obj s.request.scopeJson),
  ("accepted_scene_commit_id", .ofOption s.request.acceptedSceneCommitId),
  ("inventory_count", .int s.inventory.entries.length), ("document_revision_count", .int s.documents.length),
  ("issue_count", .int s.issues.length), ("commissioning_count", .int s.commissioning.length),
  ("interchange_count", .int s.interchange.length), ("warranties", .arr s.request.warranties),
  ("training", .arr s.request.training), ("exclusions", Json.texts s.request.exclusions),
  ("audience_profiles", .obj s.request.audienceProfiles), ("handoff_validation", .obj s.validation),
  ("representations", .obj [
    ("metric", .str "authoritative only when independently verified"), ("visual", .str "photorealistic non-metric"),
    ("interaction", .str "disposable proxy"), ("design", .str "design intent"), ("evidence", .str "immutable source links")]),
  ("limitations", Json.texts [phoneWarning]), ("open_format", .bool true), ("offline_viewer", .bool true)]

/-- `html.escape(text)` -/
def escape (text : String) : List Char := text.toList.flatMap fun c =>
  if c = '&' then "&amp;".toList else if c = '<' then "&lt;".toList else if c = '>' then "&gt;".toList
  else if c = '"' then "&quot;".toList else if c = '\'' then "&#x27;".toList else [c]

def viewerStyle : String := "<style>body\x7bfont:16px system-ui;max-width:72rem;margin:auto;padding:2rem\x7d" ++
  "table\x7bborder-collapse:collapse\x7dtd,th\x7bborder:1px solid #777;padding:.4rem\x7d " ++
  ".warn\x7bborder:2px solid;padding:1rem\x7d</style>"

/-- The viewer of a project with its counts. -/
def viewerText (projectId : String) (inventory documents issues runs : Nat) : List Char :=
  ("<!doctype html><html lang='en'><meta charset='utf-8'><meta name='viewport' content='width=device-width'>\n" ++
    "<title>SIP Owner Handoff</title>" ++ viewerStyle ++ "\n<h1>SIP Construction Owner Handoff</h1><p class='warn'>").toList ++
  escape phoneWarning ++ "</p><dl><dt>Project</dt><dd>".toList ++ escape projectId ++
  "</dd><dt>Inventory</dt><dd>".toList ++ Nat.toDigits 10 inventory ++
  " records</dd><dt>Documents</dt><dd>".toList ++ Nat.toDigits 10 documents ++
  " revisions</dd><dt>Issues</dt><dd>".toList ++ Nat.toDigits 10 issues ++
  "</dd><dt>Commissioning</dt><dd>".toList ++ Nat.toDigits 10 runs ++
  " runs</dd></dl><p>This viewer is read-only and requires no network connection.</p></html>".toList

/-- `_offline_owner_viewer` -/
def offlineOwnerViewer : List Char :=
  viewerText s.request.projectId s.inventory.entries.length s.documents.length s.issues.length s.commissioning.length

def readme : String := "SIP open owner handoff. Verify checksums.json before use.\n" ++
  "Observed geometry is not survey-grade or design-authoritative without independent verification.\n"

/-- The members of the package besides the checksums. -/
def files : List (String × Bytes) := [
  ("manifest.json", canonicalJson (.obj s.manifest)),
  ("reports/technical.json", canonicalJson (.obj s.technical.document)),
  ("reports/owner.json", canonicalJson (.obj s.owner)),
  ("data/inventory.json", canonicalJson (.arr s.inventory.entries)),
  ("data/documents.json", canonicalJson (.arr s.documents)),
  ("data/issues.json", canonicalJson (.arr s.issues)),
  ("data/commissioning.json", canonicalJson (.arr s.commissioning)),
  ("data/interchange.json", canonicalJson (.arr s.interchange)),
  ("data/handoff-validation.json", canonicalJson (.obj s.validation)),
  ("viewer/index.html", utf8 s.offlineOwnerViewer),
  ("README.txt", utf8 readme.toList)]

/-- The checksums of the members and the root over them. -/
def checksums : List (String × String) := (sortBy Prod.fst s.files).map fun file => (file.1, sha256Hex file.2)

def checksumsBody : Json := .obj [
  ("algorithm", .str "sha256"), ("files", .obj (s.checksums.map fun entry => (entry.1, .str entry.2))),
  ("root_hash", .str (merkleRoot s.checksums))]

/-- All members, in the order in which they are written. -/
def members : List (String × Bytes) := sortBy Prod.fst s.files ++ [("checksums.json", canonicalJson s.checksumsBody)]

end HandoffSnapshot

end ConstructionService

end Sip
