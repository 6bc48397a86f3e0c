import Sip.Scene.Service
import Sip.Spatial.Manifests

/-!
# Measurements of a scene

`create_measurement` admits a reading from four kinds of origin: none, an interaction
hit that is resolved to metric evidence again, a published metric representation, and
anything else, which it refuses. The conversions of JSON values by the interpreter are
a parameter; a transaction reads the clock once.
-/

namespace Sip

set_option autoImplicit false

/-- A floating-point number: a finite one, an infinity, or none at all. -/
inductive Double where
  | finite (x : PyFloat)
  | infinite (negative : Bool)
  | nan

namespace Double

def finite? : Double → Option PyFloat
  | .finite x => some x
  | _ => none

/-- `a < b`. -/
def lt : Double → Double → Bool
  | .finite x, .finite y => x.value < y.value
  | .finite _, .infinite negative => !negative
  | .infinite negative, .finite _ => negative
  | .infinite negative, .infinite negative' => negative && !negative'
  | _, _ => false

/-- `a == b`. -/
def eq : Double → Double → Bool
  | .finite x, .finite y => x.value = y.value
  | .infinite negative, .infinite negative' => negative = negative'
  | _, _ => false

/-- `a <= b`. -/
def le (a b : Double) : Bool := a.lt b || a.eq b

def zero : Double := .finite .zero

end Double

/-- `float(value)`, and `dict(value)` of a value that is no dictionary. -/
structure PyConversions extends PyText where
  float : Json → Except Raised Double
  dict : Json → Except Raised Dict

/-- `except (KeyError, TypeError, ValueError)`. -/
def Raised.isMalformed : Raised → Bool
  | .keyError _ => true
  | .typeError _ => true
  | .valueError _ => true
  | _ => false

def orMalformed {α : Type} (x : Except Raised α) (error : Raised) : Except Raised α :=
  match x with
  | .ok a => .ok a
  | .error e => if e.isMalformed then .error error else .error e

structure ResolvedMetricEvidence where
  metricRepresentationId : String
  metricSourceAssetIds : List String
  estimatedResidual : PyFloat
  acceptanceThreshold : PyFloat
  coordinateFrameId : String

structure MeasurementRow where
  measurementId : String
  tenantId : String
  projectId : String
  sceneId : String
  entityId : Option String
  measurementType : String
  geometryJson : Dict
  sourceMethod : String
  measuredAt : Nat
  coordinateFrameId : String
  sourceCommitId : String
  permittedUsesJson : List String
  state : String
  supersedesMeasurementId : Option String
  originatingRepresentationId : Option String
  interactionHitJson : Option Dict
  resolvedMetricEvidenceJson : Option ResolvedMetricEvidence
  value : Double
  unit : String
  uncertainty : Double
  sourceAssetIdsJson : List String
  calibrationJson : Dict
  verifierId : Option String
  verifiedAt : Option Nat
  authorityClass : AuthorityClass
  createdBy : String

structure ConstructionRecordRow where
  recordId : String
  tenantId : String
  projectId : String
  entityId : Option String
  supersededAt : Option Nat := none

structure MeasurementDb extends SceneStore where
  refs : Table AssetRefRow (fun row => row.assetId)
  frames : Table CoordinateFrameRow (fun row => row.frameId)
  representations : Table RepresentationAssetRow (fun row => row.representationId)
  constructionRecords : Table ConstructionRecordRow (fun row => row.recordId)
  measurements : Table MeasurementRow (fun row => row.measurementId)

structure MeasurementRequest where
  tenantId : String
  projectId : String
  sceneId : String
  entityId : Option String := none
  value : Double
  unit : String
  uncertainty : Double
  sourceAssetIds : List String
  calibration : Dict
  verifierId : Option String := none
  verified : Bool := false
  actorId : String
  originatingRepresentationId : Option String := none
  interactionHit : Option Dict := none
  measurementType : String := "distance"
  geometry : Option Dict := none
  sourceMethod : String := "phone_spatial_capture"
  measuredAt : Option Nat := none
  coordinateFrameId : String
  sourceCommitId : Option String := none
  permittedUses : Option (List String) := none
  state : String := "measured"
  supersedesMeasurementId : Option String := none
  proxyTolerance : Double := .finite ⟨"0.03", by decide⟩

/-- What a call draws: an identifier for the measurement besides the stamp. -/
structure MeasurementStamp extends Stamp where
  measurementId : String

structure ProxyHit where
  representationId : String
  worldPoint : List Double
  normal : Option (List Double)
  supportHint : Dict

/-- What became of an interaction hit. -/
inductive ProxyResolution where
  | refused (reason : String) (estimatedResidual : Option PyFloat)
  | resolved (interactionHit : Dict) (evidence : ResolvedMetricEvidence)

namespace SceneService

section Hits
variable (py : PyConversions)

/-- `[float(value) for value in values]`. -/
def readFloats (values : Json) : Except Raised (List Double) := do
  (← values.iterate).mapM py.float

def readNormal : Json → Except Raised (Option (List Double))
  | .null => .ok none
  | values => do
    let normal ← readFloats py values
    return some normal

/-- `dict(value or {})`. -/
def readHint : Json → Except Raised Dict
  | .obj fields => .ok fields
  | value => if value.truthy then py.dict value else .ok []

def hitFields (representationId : String) (hit : Dict) : Except Raised ProxyHit := do
  let worldPoint ← readFloats py (← orRaise (hit.get? "world_point") (.keyError "world_point"))
  let normal ← readNormal py (hit.get "normal")
  let supportHint ← readHint py (hit.get "support_hint")
  return ⟨representationId, worldPoint, normal, supportHint⟩

/-- `ProxyHit(..)` from the document of a request. -/
def readHit (representationId : String) (hit : Dict) : Except Raised ProxyHit :=
  orMalformed (hitFields py representationId hit) (validationError "PROXY_HIT_INVALID" "interaction hit is malformed")

/-- Three finite coordinates. -/
def finitePoint (values : List Double) : Option (List PyFloat) :=
  if values.length = 3 then values.mapM Double.finite? else none

def finiteNormal (normal : Option (List Double)) : Except Raised (Option (List PyFloat)) :=
  match normal with
  | none => .ok none
  | some values => do
    let values ← orRaise (finitePoint values)
      (validationError "PROXY_HIT_NORMAL_INVALID" "proxy-hit normal must contain three finite values")
    return some values

def interactionRecord (hit : ProxyHit) (kind : RepresentationKind) (worldPoint : List PyFloat)
    (normal : Option (List PyFloat)) : Dict := [
  ("representation_id", .str hit.representationId),
  ("representation_kind", .str kind.value),
  ("world_point", .arr (worldPoint.map .float)),
  ("normal", match normal with
    | none => .null
    | some values => .arr (values.map .float)),
  ("support_hint", .obj hit.supportHint)]

/-- The metric representation that the support map of a proxy names. -/
def metricSupport (db : MeasurementDb) (proxy : RepresentationAssetRow) :
    Except Raised (Option RepresentationAssetRow) :=
  match proxy.supportMapJson.get "metric_representation_id" with
  | .str metricId => .ok (if metricId = "" then none else db.representations.get? metricId)
  | .arr (_ :: _) => .error (.typeError "unhashable type: 'list'")
  | .obj (_ :: _) => .error (.typeError "unhashable type: 'dict'")
  | _ => .ok none

def metricEligible (tenantId projectId : String) (proxy metric : RepresentationAssetRow) : Prop :=
  metric.tenantId = tenantId ∧ metric.projectId = projectId ∧ metric.sceneId = proxy.sceneId ∧ metric.kind = .metric ∧
    metric.state = "published" ∧ metric.deprecatedAt = none ∧ metric.coordinateFrameId = proxy.coordinateFrameId ∧
    "measurement" ∈ metric.intendedUsesJson ∧ metric.authorityClass ∈ [AuthorityClass.metric, .fieldVerified]

instance (tenantId projectId : String) (proxy metric : RepresentationAssetRow) :
    Decidable (metricEligible tenantId projectId proxy metric) :=
  inferInstanceAs (Decidable (_ ∧ _ ∧ _ ∧ _ ∧ _ ∧ _ ∧ _ ∧ _ ∧ _))

/-- The reprojection error of the support map; infinite where it is no number. -/
def supportResidual (proxy : RepresentationAssetRow) : Except Raised Double :=
  match proxy.supportMapJson.get? "max_reprojection_error_m" with
  | none => .ok (.infinite false)
  | some value =>
    match py.float value with
    | .ok residual => .ok residual
    | .error (.typeError _) => .ok (.infinite false)
    | .error (.valueError _) => .ok (.infinite false)
    | .error e => .error e

/-- The live assets among the given ones, in scope. -/
def scopedAssets (db : MeasurementDb) (tenantId projectId : String) (assetIds : List String) : List AssetRefRow :=
  db.refs.rows.filter fun row => row.assetId ∈ assetIds ∧ row.tenantId = tenantId ∧ row.projectId = projectId ∧
    row.tombstonedAt = none

/-- The asset of the metric representation and the texts among its recorded sources. -/
def candidateAssetIds (metric : RepresentationAssetRow) : Except Raised (List String) := do
  let sources ← match metric.provenanceJson.get? "source_ids" with
    | none => pure []
    | some value => value.iterate
  return metric.assetId :: sources.filterMap Json.text?

/-- `_resolve_proxy_hit_in_session`. -/
def resolveProxyHit (db : MeasurementDb) (tenantId projectId : String) (hit : ProxyHit) (tolerance : Double) :
    Except Raised ProxyResolution := do
  let toleranceInvalid := validationError "PROXY_HIT_TOLERANCE_INVALID" "proxy-hit tolerance must be finite and positive"
  let threshold ← orRaise tolerance.finite? toleranceInvalid
  raiseIf (threshold.value ≤ 0) toleranceInvalid
  let worldPoint ← orRaise (finitePoint hit.worldPoint)
    (validationError "PROXY_HIT_POINT_INVALID" "proxy hit must contain three finite world coordinates")
  let normal ← finiteNormal hit.normal
  let missing := notFoundError "representation" hit.representationId
  let proxy ← orRaise (db.representations.get? hit.representationId) missing
  raiseIf (proxy.tenantId ≠ tenantId ∨ proxy.projectId ≠ projectId) missing
  raiseIf (proxy.kind ≠ .interaction)
    (validationError "PROXY_HIT_KIND_INVALID" "hit does not originate from an interaction representation")
  if proxy.state ≠ "published" ∨ proxy.deprecatedAt ≠ none then
    return .refused "interaction_representation_not_published" none
  match ← metricSupport db proxy with
  | none => return .refused "eligible_metric_support_unavailable" none
  | some metric => do
    if ¬ metricEligible tenantId projectId proxy metric then
      return .refused "eligible_metric_support_unavailable" none
    match (← supportResidual py proxy).finite? with
    | none => return .refused "metric_reprojection_residual_invalid" none
    | some residual => do
      if residual.value < 0 then
        return .refused "metric_reprojection_residual_invalid" none
      let assets := scopedAssets db tenantId projectId (← candidateAssetIds metric)
      let metricSourceAssetIds := sortedSet id (assets.map AssetRefRow.assetId)
      if metric.assetId ∉ metricSourceAssetIds then
        return .refused "metric_source_evidence_unavailable" (some residual)
      if threshold.value < residual.value then
        return .refused "metric_reprojection_residual_exceeds_tolerance" (some residual)
      return .resolved (interactionRecord hit proxy.kind worldPoint normal)
        ⟨metric.representationId, metricSourceAssetIds, residual, threshold, metric.coordinateFrameId⟩

end Hits

section Checks
variable (py : PyConversions)

def forbiddenUses : List String := ["survey", "fabrication", "contract_authoritative", "code_compliance_certification"]

/-- `sorted(set(permitted_uses or ["reference"]))`. -/
def effectivePermittedUses (req : MeasurementRequest) : List String :=
  let uses := req.permittedUses.getD []
  sortedSet id (if uses = [] then ["reference"] else uses)

/-- The geometry of a request that passes the checks before the transaction. -/
def checkRequest (req : MeasurementRequest) : Except Raised Dict := do
  raiseIf (req.uncertainty.lt .zero ∨ req.uncertainty.finite? = none ∨ req.sourceAssetIds = [])
    (validationError "MEASUREMENT_EVIDENCE_REQUIRED" "measurement requires non-negative uncertainty and source evidence")
  let geometry := req.geometry.getD []
  raiseIf geometry.isEmpty
    (validationError "MEASUREMENT_GEOMETRY_REQUIRED" "measurement requires endpoints or explicit geometry")
  raiseIf (effectivePermittedUses req = [])
    (validationError "MEASUREMENT_PERMITTED_USE_REQUIRED" "measurement requires at least one permitted use")
  let prohibited := (effectivePermittedUses req).filter (· ∈ forbiddenUses)
  raiseIf (prohibited ≠ []) (validationError "MEASUREMENT_PERMITTED_USE_INVALID"
    "SIP reference measurements cannot be authorized for survey, fabrication, contract authority, or code certification"
    [("forbidden_uses", .arr (prohibited.map .str))])
  return geometry

/-- The commit that a measurement is recorded for. -/
def sourceCommitId (db : MeasurementDb) (req : MeasurementRequest) : Except Raised String := do
  let branch ← orRaise (branch? db.toSceneStore ⟨req.tenantId, req.projectId, req.sceneId, "main"⟩)
    (notFoundError "scene" req.sceneId)
  let commitId := (given req.sourceCommitId).getD branch.headCommitId
  let missing := notFoundError "scene_commit" commitId
  let commit ← orRaise (db.commits.get? commitId) missing
  raiseIf (commit.tenantId ≠ req.tenantId ∨ commit.projectId ≠ req.projectId ∨ commit.sceneId ≠ req.sceneId) missing
  return commitId

def checkMeasuredEntity (db : MeasurementDb) (req : MeasurementRequest) : Except Raised Unit :=
  match given req.entityId with
  | none => .ok ()
  | some entityId =>
    let inScene := (db.entities.get? entityId).any fun entity => entity.tenantId = req.tenantId ∧
      entity.projectId = req.projectId ∧ entity.sceneId = req.sceneId ∧ entity.supersededAt = none
    let inConstruction := db.constructionRecords.rows.any fun record => record.tenantId = req.tenantId ∧
      record.projectId = req.projectId ∧ record.entityId = some entityId ∧ record.supersededAt = none
    raiseIf (inScene = false ∧ inConstruction = false) (notFoundError "semantic_entity" entityId)

def checkMeasurementFrame (db : MeasurementDb) (req : MeasurementRequest) : Except Raised Unit := do
  let missing := notFoundError "coordinate_frame" req.coordinateFrameId
  let frame ← orRaise (db.frames.get? req.coordinateFrameId) missing
  raiseIf (frame.tenantId ≠ req.tenantId ∨ frame.projectId ≠ req.projectId ∨ frame.deprecatedAt ≠ none) missing

/-- A reading on an interaction representation: its hit resolved to metric evidence again. -/
def interactionOrigin (db : MeasurementDb) (req : MeasurementRequest) (representationId : String) :
    Except Raised (Dict × ResolvedMetricEvidence) := do
  raiseIf (req.verified = true) (validationError "PROXY_MEASUREMENT_CANNOT_BE_VERIFIED"
    "a proxy interaction may create only a measured candidate after metric re-resolution; independent field verification must be a separate action")
  let document := req.interactionHit.getD []
  raiseIf document.isEmpty (validationError "PROXY_HIT_METRIC_RESOLUTION_REQUIRED"
    "interaction-origin measurements require the original hit for server-side metric re-resolution")
  raiseIf (py.str (document.get "representation_id") ≠ representationId)
    (validationError "PROXY_HIT_REPRESENTATION_MISMATCH"
      "interaction hit representation does not match the originating representation")
  let hit ← readHit py representationId document
  match ← resolveProxyHit py db req.tenantId req.projectId hit req.proxyTolerance with
  | .refused reason residual =>
    .error (validationError "PROXY_HIT_METRIC_RESOLUTION_REQUIRED"
      "proxy hit did not resolve to eligible metric evidence within tolerance"
      [("reason", .str reason), ("estimated_residual_m", (residual.map Json.float).getD .null)])
  | .resolved record evidence => do
    raiseIf (∃ assetId ∈ evidence.metricSourceAssetIds, assetId ∉ req.sourceAssetIds)
      (validationError "MEASUREMENT_METRIC_EVIDENCE_MISSING"
        "measurement source assets must include the metric evidence used to resolve the proxy hit"
        [("required_asset_ids", .arr (evidence.metricSourceAssetIds.map .str))])
    return (record, evidence)

/-- The normalised hit and the metric evidence behind a reading, where it has them. -/
def origin (db : MeasurementDb) (req : MeasurementRequest) :
    Except Raised (Option Dict × Option ResolvedMetricEvidence) :=
  match given req.originatingRepresentationId with
  | none => do
    raiseIf (req.interactionHit ≠ none) (validationError "INTERACTION_HIT_ORIGIN_REQUIRED"
      "interaction-hit metadata requires an originating representation")
    return (none, none)
  | some representationId => do
    let missing := notFoundError "representation" representationId
    let representation ← orRaise (db.representations.get? representationId) missing
    raiseIf (representation.tenantId ≠ req.tenantId ∨ representation.projectId ≠ req.projectId ∨
      representation.sceneId ≠ req.sceneId) missing
    let details : Dict := [("representation_id", .str representationId), ("kind", .str representation.kind.value)]
    if representation.kind = .interaction then
      let (record, evidence) ← interactionOrigin py db req representationId
      return (some record, some evidence)
    raiseIf (req.interactionHit ≠ none) (validationError "INTERACTION_HIT_ORIGIN_INVALID"
      "interaction-hit metadata may only accompany an interaction representation")
    raiseIf (representation.kind = .visual) (validationError "NON_AUTHORITATIVE_MEASUREMENT_SOURCE"
      "visual representations cannot directly create measurements; use an interaction hit re-resolved to metric evidence"
      details)
    raiseIf (representation.kind ≠ .metric) (validationError "NON_AUTHORITATIVE_MEASUREMENT_SOURCE"
      "only accepted metric representations or re-resolved interaction hits may originate measurements" details)
    raiseIf (representation.state ≠ "published" ∨ representation.deprecatedAt ≠ none ∨
        "measurement" ∉ representation.intendedUsesJson)
      (validationError "METRIC_REPRESENTATION_NOT_APPROVED"
        "metric representation is not currently published and approved for measurement"
        [("representation_id", .str representationId)])
    raiseIf (representation.coordinateFrameId ≠ req.coordinateFrameId)
      (validationError "MEASUREMENT_FRAME_MISMATCH"
        "metric representation and measurement must use the same coordinate frame")
    return (none, none)

def checkSourceAssets (db : MeasurementDb) (req : MeasurementRequest) : Except Raised Unit :=
  raiseIf ((scopedAssets db req.tenantId req.projectId req.sourceAssetIds).length ≠
      (sortedSet id req.sourceAssetIds).length)
    (validationError "MEASUREMENT_EVIDENCE_OUT_OF_SCOPE"
      "measurement evidence assets are missing, tombstoned, or outside the project")

/-- The measurements after the one that is named, if any, has been marked as superseded. -/
def supersedeMeasurement (db : MeasurementDb) (req : MeasurementRequest) :
    Except Raised (Table MeasurementRow (fun row => row.measurementId)) :=
  match given req.supersedesMeasurementId with
  | none => .ok db.measurements
  | some measurementId => do
    let missing := notFoundError "measurement" measurementId
    let prior ← orRaise (db.measurements.get? measurementId) missing
    raiseIf (prior.tenantId ≠ req.tenantId ∨ prior.projectId ≠ req.projectId ∨ prior.sceneId ≠ req.sceneId) missing
    raiseIf (prior.state = "superseded")
      (conflictError "MEASUREMENT_ALREADY_SUPERSEDED" "measurement has already been superseded")
    return db.measurements.modify measurementId (fun row => { row with state := "superseded" }) fun _ => rfl

def checkVerification (req : MeasurementRequest) : Except Raised Unit := do
  raiseIf (req.verified = true ∧
      (given req.verifierId = none ∨ req.calibration.isEmpty ∨ req.uncertainty.eq .zero))
    (validationError "VERIFIED_MEASUREMENT_METADATA_REQUIRED"
      "verified measurement requires verifier, calibration, and explicit uncertainty")
  raiseIf (req.verified = true ∧ req.verifierId = some req.actorId)
    (validationError "INDEPENDENT_VERIFIER_REQUIRED"
      "verified measurements require a verifier distinct from the creator")

end Checks

section Contract
variable (py : PyConversions)

def verificationStates : List String := ["observed", "measured", "verified", "disputed", "superseded"]

def checkInteractionHit (hit : Dict) : Except Raised Unit := do
  let incomplete := Raised.valueError "interaction_hit requires representation_id and world_point"
  raiseIf (hit.get? "representation_id" |>.isNone) incomplete
  let point ← orRaise (hit.get? "world_point") incomplete
  let malformed := Raised.valueError "interaction_hit world_point must contain three finite values"
  raiseIf (point.isArr = false) malformed
  let values ← readFloats py point
  raiseIf (finitePoint values = none) malformed

def checkEvidenceRecord (evidence : ResolvedMetricEvidence) : Except Raised Unit := do
  raiseIf (evidence.estimatedResidual.value < 0)
    (.valueError "resolved metric residual must be finite and non-negative")
  raiseIf (evidence.acceptanceThreshold.value < 0)
    (.valueError "resolved metric acceptance threshold must be finite and non-negative")
  raiseIf (evidence.acceptanceThreshold.value < evidence.estimatedResidual.value)
    (.valueError "resolved metric residual exceeds the accepted support tolerance")
  raiseIf (evidence.metricSourceAssetIds = []) (.valueError "resolved metric evidence requires source asset identifiers")

/-- The fields with a minimal length, a bound or a list of values. -/
def checkMeasurementFields (row : MeasurementRow) : Except Raised Unit := do
  raiseIf (row.measurementType = "") (.valueError "measurement_type")
  raiseIf row.geometryJson.isEmpty (.valueError "geometry")
  raiseIf (¬ Double.le .zero row.uncertainty) (.valueError "uncertainty")
  raiseIf (row.sourceMethod = "") (.valueError "source_method")
  raiseIf (row.permittedUsesJson = []) (.valueError "permitted_uses")
  raiseIf (row.sourceAssetIdsJson = []) (.valueError "source_asset_ids")
  raiseIf row.calibrationJson.isEmpty (.valueError "calibration")
  raiseIf (row.state ∉ verificationStates) (.valueError "verification_status")

/-- `validate_measurement_verification`. -/
def checkMeasurementVerification (row : MeasurementRow) : Except Raised Unit := do
  row.interactionHitJson.forM (checkInteractionHit py)
  row.resolvedMetricEvidenceJson.forM checkEvidenceRecord
  raiseIf (row.interactionHitJson.isSome ∧ row.originatingRepresentationId = none)
    (.valueError "interaction-hit measurements require originating_representation_id")
  raiseIf (row.state = "verified" ∧ (given row.verifierId = none ∨ row.verifiedAt = none))
    (.valueError "verified measurements require verifier and verification date")
  raiseIf (row.state = "verified" ∧ row.authorityClass ≠ .fieldVerified)
    (.valueError "verified measurements require field_verified authority")
  raiseIf (row.state = "verified" ∧ row.uncertainty.le .zero)
    (.valueError "verified measurements require explicit non-zero uncertainty")

/-- `MeasurementContract(..)`. -/
def checkMeasurementContract (row : MeasurementRow) : Except Raised Unit := do
  checkMeasurementFields row
  checkMeasurementVerification py row

/-- A time as a contract writes it. -/
def contractTime (time : Nat) : String :=
  let text := (isoformat time).toList
  String.ofList (text.take (text.length - 6) ++ ['Z'])

def evidenceDocument (evidence : ResolvedMetricEvidence) : Dict := [
  ("metric_representation_id", .str evidence.metricRepresentationId),
  ("metric_source_asset_ids", .arr (evidence.metricSourceAssetIds.map .str)),
  ("estimated_residual_m", .float evidence.estimatedResidual),
  ("acceptance_threshold_m", .float evidence.acceptanceThreshold),
  ("coordinate_frame_id", .str evidence.coordinateFrameId),
  ("resolution_method", .str "support_map_metric_reprojection")]

def measurementWarning : String :=
  "Phone-derived geometry is not survey-grade or contract-authoritative without independent verification."

/-- `contract.model_dump(mode="json")`. -/
def measurementDocument (row : MeasurementRow) (value uncertainty : PyFloat) : Dict := [
  ("measurement_id", .str row.measurementId),
  ("scene_id", .str row.sceneId),
  ("entity_id", .ofOption row.entityId),
  ("measurement_type", .str row.measurementType),
  ("geometry", .obj row.geometryJson),
  ("value", .float value),
  ("unit", .str row.unit),
  ("uncertainty", .float uncertainty),
  ("source_method", .str row.sourceMethod),
  ("measured_at", .str (contractTime row.measuredAt)),
  ("coordinate_frame_id", .str row.coordinateFrameId),
  ("source_commit_id", .str row.sourceCommitId),
  ("permitted_uses", .arr (row.permittedUsesJson.map .str)),
  ("source_asset_ids", .arr (row.sourceAssetIdsJson.map .str)),
  ("calibration", .obj row.calibrationJson),
  ("creator_id", .str row.createdBy),
  ("verifier_id", .ofOption row.verifierId),
  ("verification_date", .ofOption (row.verifiedAt.map contractTime)),
  ("verification_status", .str row.state),
  ("authority_class", .str row.authorityClass.value),
  ("originating_representation_id", .ofOption row.originatingRepresentationId),
  ("interaction_hit", (row.interactionHitJson.map Json.obj).getD .null),
  ("resolved_metric_evidence", (row.resolvedMetricEvidenceJson.map fun evidence => .obj (evidenceDocument evidence)).getD .null),
  ("supersedes_measurement_id", .ofOption row.supersedesMeasurementId),
  ("warning", .str measurementWarning)]

/-- `canonical_sha256` of the contract; the encoder refuses numbers that are not finite. -/
def contractHash (row : MeasurementRow) : Except Raised String := do
  let outOfRange := Raised.valueError "Out of range float values are not JSON compliant"
  let value ← orRaise row.value.finite? outOfRange
  let uncertainty ← orRaise row.uncertainty.finite? outOfRange
  return canonicalSha256 (.obj (measurementDocument row value uncertainty))

end Contract

section Create
variable (svc : AuditService) (py : PyConversions)

def measurementRow (stamp : MeasurementStamp) (req : MeasurementRequest) (geometry : Dict) (commitId : String)
    (hit : Option Dict) (evidence : Option ResolvedMetricEvidence) : MeasurementRow where
  measurementId := stamp.measurementId
  tenantId := req.tenantId
  projectId := req.projectId
  sceneId := req.sceneId
  entityId := req.entityId
  measurementType := req.measurementType
  geometryJson := geometry
  sourceMethod := req.sourceMethod
  measuredAt := req.measuredAt.getD stamp.now
  coordinateFrameId := req.coordinateFrameId
  sourceCommitId := commitId
  permittedUsesJson := effectivePermittedUses req
  state := if req.verified then "verified" else req.state
  supersedesMeasurementId := req.supersedesMeasurementId
  originatingRepresentationId := req.originatingRepresentationId
  interactionHitJson := hit
  resolvedMetricEvidenceJson := evidence
  value := req.value
  unit := req.unit
  uncertainty := req.uncertainty
  sourceAssetIdsJson := req.sourceAssetIds
  calibrationJson := req.calibration
  verifierId := req.verifierId
  verifiedAt := if req.verified then some stamp.now else none
  authorityClass := if req.verified then .fieldVerified else .metric
  createdBy := req.actorId

def measurementPayload (row : MeasurementRow) (hash : String) : Dict := [
  ("measurement_id", .str row.measurementId),
  ("scene_id", .str row.sceneId),
  ("entity_id", .ofOption row.entityId),
  ("verification_status", .str row.state),
  ("authority_class", .str row.authorityClass.value),
  ("source_commit_id", .str row.sourceCommitId),
  ("interaction_resolved_to_metric", .bool row.resolvedMetricEvidenceJson.isSome),
  ("contract_hash", .str hash)]

def measurementEvent (row : MeasurementRow) (hash : String) : EventRequest where
  eventType := "measurement.recorded"
  schemaVersion := "1.0.0"
  tenantId := row.tenantId
  projectId := row.projectId
  aggregateType := "measurement"
  aggregateId := row.measurementId
  payload := measurementPayload row hash
  producer := "scene-service"
  actorId := some row.createdBy
  workloadIdentity := none

def measurementAudit (row : MeasurementRow) (hash : String) : AuditRequest where
  tenantId := row.tenantId
  projectId := some row.projectId
  actorId := row.createdBy
  action := "measurement:record"
  resourceType := "measurement"
  resourceId := row.measurementId
  outcome := "allowed"
  details := some (measurementPayload row hash)

/-- The end of the transaction: the row, the event and the audit entry. -/
def writeMeasurement (db : MeasurementDb) (stamp : MeasurementStamp)
    (measurements : Table MeasurementRow (fun row => row.measurementId)) (row : MeasurementRow) :
    Except Raised MeasurementDb := do
  checkMeasurementContract py row
  let hash ← contractHash row
  let measurements ← orRaise (measurements.insert? row) (.integrityError "measurements.measurement_id")
  let s ← db.emit stamp.toStamp (measurementEvent row hash)
  let s ← s.record svc stamp.toStamp (measurementAudit row hash)
  return { db with toStore := s, measurements }

def createMeasurement (db : MeasurementDb) (stamp : MeasurementStamp) (req : MeasurementRequest) :
    Except Raised (String × MeasurementDb) := do
  let geometry ← checkRequest req
  let commitId ← sourceCommitId db req
  checkMeasuredEntity db req
  checkMeasurementFrame db req
  let (hit, evidence) ← origin py db req
  checkSourceAssets db req
  let measurements ← supersedeMeasurement db req
  checkVerification req
  let db ← writeMeasurement svc py db stamp measurements (measurementRow stamp req geometry commitId hit evidence)
  return (stamp.measurementId, db)

end Create

end SceneService

end Sip
