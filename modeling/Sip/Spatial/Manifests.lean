import Sip.Assets.Service
import Sip.Spatial.Merge

/-!
# Geometry manifests

A manifest is registered under the canonical hash of its normalised body, which
leaves out the identifier only. A body that is registered already is answered from
its row; a manifest can supersede another one, which is then marked as deprecated.
Numbers come from JSON documents and are finite.
-/

namespace Sip

set_option autoImplicit false

def Classification.all : List Classification :=
  [.public, .internal, .confidential, .restricted, .criticalInfrastructure, .biometric, .minor]

/-- `Classification(value)`. -/
def Classification.ofValue? (value : String) : Option Classification :=
  Classification.all.find? fun classification => classification.value = value

/-- `CLASSIFICATION_ORDER`. -/
def Classification.order : Classification → Nat
  | .public => 0
  | .internal => 1
  | .confidential => 2
  | .restricted => 3
  | .criticalInfrastructure | .biometric | .minor => 4

/-- The columns that the hash of a manifest covers. -/
structure ManifestBody where
  assetId : String
  representationId : Option String
  mediaType : String
  format : String
  profile : String
  formatVersion : String
  coordinateFrameId : String
  units : String
  bounds : List (String × List PyFloat)
  counts : List (String × Int)
  compression : Dict
  contentSha256 : String
  sourceRunId : String
  quality : Dict
  limitations : List String
  visualContentClasses : List String
  classification : Classification
  audiencePolicy : Dict
  viewerCompatibility : List String
  exporterCompatibility : List String
  validationState : String
  rebuildRecipe : Dict
  truthLabel : Option String
  supersedesManifestId : Option String

structure GeometryAssetManifestRow extends ManifestBody where
  geometryManifestId : String
  tenantId : String
  projectId : String
  manifestHash : String
  deprecatedAt : Option Nat := none
  createdBy : String

structure CoordinateFrameRow where
  frameId : String
  tenantId : String
  projectId : String
  deprecatedAt : Option Nat := none

inductive RepresentationKind where
  | metric | visual | interaction | design | evidence
  deriving DecidableEq

def RepresentationKind.value : RepresentationKind → String
  | .metric => "metric"
  | .visual => "visual"
  | .interaction => "interaction"
  | .design => "design"
  | .evidence => "evidence"

structure RepresentationAssetRow where
  representationId : String
  tenantId : String
  projectId : String
  sceneId : String
  assetId : String
  operationId : Option String := none
  kind : RepresentationKind
  providerId : String
  coordinateFrameId : String
  sourceClass : SourceClass
  authorityClass : AuthorityClass
  authorityCeiling : AuthorityClass
  disposable : Bool := false
  lossy : Bool := false
  intendedUsesJson : List String := []
  prohibitedUsesJson : List String := []
  qualityJson : Dict := []
  provenanceJson : Dict := []
  supportMapJson : Dict := []
  formatJson : Dict := []
  derivationPolicyJson : Dict := []
  limitationsJson : List String := []
  informationLossJson : List String := []
  privacyInheritanceJson : Dict := []
  dependenciesJson : List String := []
  fallbackRepresentationId : Option String := none
  manifestHash : String
  metadataJson : Dict := []
  deprecatedAt : Option Nat := none
  state : String := "quarantined"

structure ManifestDb extends Store where
  refs : Table AssetRefRow (fun row => row.assetId)
  frames : Table CoordinateFrameRow (fun row => row.frameId)
  representations : Table RepresentationAssetRow (fun row => row.representationId)
  manifests : Table GeometryAssetManifestRow (fun row => row.geometryManifestId)

structure ManifestRequest where
  tenantId : String
  projectId : String
  actorId : String
  assetId : String
  mediaType : String
  format : String
  profile : String
  formatVersion : String
  coordinateFrameId : String
  units : String
  bounds : List (String × List PyFloat)
  classification : String
  counts : List (String × Int)
  compression : Dict
  sourceRunId : String
  quality : Dict
  limitations : Option (List String) := none
  visualContentClasses : Option (List String) := none
  audiencePolicy : Option Dict := none
  viewerCompatibility : Option (List String) := none
  exporterCompatibility : Option (List String) := none
  validationState : String := "pending"
  rebuildRecipe : Option Dict := none
  truthLabel : Option String := none
  representationId : Option String := none
  supersedesManifestId : Option String := none

/-- What a registration draws: an identifier for the manifest besides the stamp. -/
structure ManifestStamp extends Stamp where
  manifestId : String

structure GeometryAssetManifestContract where
  geometryManifestId : String
  body : ManifestBody
  manifestHash : String

namespace SpatialDataService

section Contract

/-- `model_dump(mode="json")` without the identifier and the hash. -/
def ManifestBody.document (body : ManifestBody) : Dict := [
  ("asset_id", .str body.assetId),
  ("representation_id", .ofOption body.representationId),
  ("media_type", .str body.mediaType),
  ("format", .str body.format),
  ("profile", .str body.profile),
  ("format_version", .str body.formatVersion),
  ("coordinate_frame_id", .str body.coordinateFrameId),
  ("units", .str body.units),
  ("bounds", .obj (body.bounds.map fun (key, values) => (key, .arr (values.map .float)))),
  ("counts", .obj (body.counts.map fun (key, count) => (key, .int count))),
  ("compression", .obj body.compression),
  ("content_sha256", .str body.contentSha256),
  ("source_run_id", .str body.sourceRunId),
  ("quality", .obj body.quality),
  ("limitations", .arr (body.limitations.map .str)),
  ("visual_content_classes", .arr (body.visualContentClasses.map .str)),
  ("classification", .str body.classification.value),
  ("audience_policy", .obj body.audiencePolicy),
  ("viewer_compatibility", .arr (body.viewerCompatibility.map .str)),
  ("exporter_compatibility", .arr (body.exporterCompatibility.map .str)),
  ("validation_state", .str body.validationState),
  ("rebuild_recipe", .obj body.rebuildRecipe),
  ("truth_label", .ofOption body.truthLabel),
  ("supersedes_manifest_id", .ofOption body.supersedesManifestId)]

def ManifestBody.hash (body : ManifestBody) : String := canonicalSha256 (.obj (ManifestBody.document body))

def visualContentLabels : List String :=
  ["captured", "corrected", "reconstructed", "inpainted", "relit", "generated", "mixed"]

def validationStates : List String := ["pending", "valid", "invalid", "deprecated"]

def splatFormats : List String := ["splat", "gaussian-splat", "ply-splat"]

def visualFormats : List String :=
  splatFormats ++ ["nerf", "neural-radiance-field", "texture", "image", "video"]

def lowerText (text : String) : String := String.ofList (text.toList.map lowerChar)

def isVisual (body : ManifestBody) : Prop :=
  lowerText body.format ∈ visualFormats ∨ "image/".toList <+: body.mediaType.toList ∨
    "video/".toList <+: body.mediaType.toList ∨ "splat".toList <:+: body.mediaType.toList.map lowerChar

instance (body : ManifestBody) : Decidable (isVisual body) := inferInstanceAs (Decidable (_ ∨ _ ∨ _ ∨ _))

/-- The fields with a pattern, a minimal length or a list of values. -/
def checkFields (body : ManifestBody) : Except Raised Unit := do
  raiseIf (body.units ∉ ["meter", "millimeter"]) (.valueError "units")
  raiseIf (body.counts = []) (.valueError "counts")
  raiseIf (body.compression.isEmpty) (.valueError "compression")
  raiseIf (isDigest body.contentSha256 = false) (.valueError "content_sha256")
  raiseIf (body.sourceRunId = "") (.valueError "source_run_id")
  raiseIf (body.quality.isEmpty) (.valueError "quality")
  raiseIf (∃ label ∈ body.visualContentClasses, label ∉ visualContentLabels) (.valueError "visual_content_classes")
  raiseIf (body.validationState ∉ validationStates) (.valueError "validation_state")

/-- `validate_geometry_bounds`. -/
def checkGeometry (py : PyText) (body : ManifestBody) : Except Raised Unit := do
  let dimensions := Raised.valueError "bounds require three-dimensional min and max"
  let minimum ← orRaise (body.bounds.lookup "min") dimensions
  let maximum ← orRaise (body.bounds.lookup "max") dimensions
  raiseIf (minimum.length ≠ 3 ∨ maximum.length ≠ 3) dimensions
  raiseIf (∃ pair ∈ minimum.zip maximum, pair.2.value < pair.1.value) (.valueError "bounds min cannot exceed max")
  raiseIf (lowerText body.format ∈ splatFormats ∧ given body.truthLabel = none)
    (.valueError "splat geometry manifests require an explicit truth label")
  raiseIf (isVisual body ∧ body.visualContentClasses = [])
    (.valueError "visual assets require explicit captured/corrected/reconstructed/generated content labels")
  raiseIf (∃ count ∈ body.counts, count.2 < 0) (.valueError "geometry counts cannot be negative")
  raiseIf (strip (py.str ((body.compression.lookup "codec").getD (.str ""))).toList = [])
    (.valueError "compression must declare a codec, including 'none'")

/-- `GeometryAssetManifestContract(..)`; the hash is one of the service. -/
def checkContract (py : PyText) (body : ManifestBody) : Except Raised Unit := do
  checkFields body
  checkGeometry py body

/-- `_geometry_manifest_contract_from_row`. -/
def contractFromRow (py : PyText) (row : GeometryAssetManifestRow) : Except Raised GeometryAssetManifestContract := do
  checkContract py row.toManifestBody
  return ⟨row.geometryManifestId, row.toManifestBody, row.manifestHash⟩

end Contract

section Register
variable (svc : AuditService) (py : PyText)

def scopedAsset (db : ManifestDb) (req : ManifestRequest) : Except Raised AssetRefRow := do
  let asset ← orRaise (db.refs.get? req.assetId) (notFoundError "asset" req.assetId)
  raiseIf (asset.tenantId ≠ req.tenantId ∨ asset.projectId ≠ req.projectId ∨ asset.tombstonedAt ≠ none)
    (notFoundError "asset" req.assetId)
  return asset

def scopedFrame (db : ManifestDb) (req : ManifestRequest) : Except Raised Unit := do
  raiseIf (req.coordinateFrameId = "") (notFoundError "coordinate_frame" "missing")
  let missing := notFoundError "coordinate_frame" req.coordinateFrameId
  let frame ← orRaise (db.frames.get? req.coordinateFrameId) missing
  raiseIf (frame.tenantId ≠ req.tenantId ∨ frame.projectId ≠ req.projectId ∨ frame.deprecatedAt ≠ none) missing

/-- Critical infrastructure, biometric data and minors keep their classification. -/
def specialClasses : List Classification := [.criticalInfrastructure, .biometric, .minor]

def requestedClassification (req : ManifestRequest) (asset : AssetRefRow) : Except Raised Classification := do
  let invalid := validationError "GEOMETRY_CLASSIFICATION_INVALID"
    "geometry and source-asset classifications must use canonical values"
    [("requested", .str req.classification), ("asset_classification", .str asset.classification)]
  let requested ← orRaise (Classification.ofValue? req.classification) invalid
  let source ← orRaise (Classification.ofValue? asset.classification) invalid
  let details : Dict :=
    [("asset_classification", .str source.value), ("requested_classification", .str requested.value)]
  raiseIf (requested.order < source.order) (validationError "GEOMETRY_CLASSIFICATION_DOWNGRADE"
    "a geometry manifest cannot weaken the source asset classification" details)
  raiseIf (source ∈ specialClasses ∧ requested ≠ source) (validationError "GEOMETRY_SPECIAL_CLASSIFICATION_MISMATCH"
    "critical-infrastructure, biometric, and minor classifications propagate without substitution" details)
  return requested

def checkRepresentation (db : ManifestDb) (req : ManifestRequest) : Except Raised Unit :=
  match given req.representationId with
  | none => .ok ()
  | some representationId => do
    let missing := notFoundError "representation" representationId
    let representation ← orRaise (db.representations.get? representationId) missing
    raiseIf (representation.tenantId ≠ req.tenantId ∨ representation.projectId ≠ req.projectId ∨
      representation.deprecatedAt ≠ none) missing
    raiseIf (representation.assetId ≠ req.assetId) (validationError "GEOMETRY_REPRESENTATION_ASSET_MISMATCH"
      "the geometry manifest asset must match the linked representation asset"
      [("representation_asset_id", .str representation.assetId), ("manifest_asset_id", .str req.assetId)])
    raiseIf (representation.coordinateFrameId ≠ req.coordinateFrameId)
      (validationError "GEOMETRY_REPRESENTATION_FRAME_MISMATCH"
        "the geometry manifest frame must match the linked representation frame"
        [("representation_frame_id", .str representation.coordinateFrameId),
         ("manifest_frame_id", .str req.coordinateFrameId)])

def candidateBody (req : ManifestRequest) (asset : AssetRefRow) (classification : Classification) : ManifestBody where
  assetId := req.assetId
  representationId := req.representationId
  mediaType := req.mediaType
  format := req.format
  profile := req.profile
  formatVersion := req.formatVersion
  coordinateFrameId := req.coordinateFrameId
  units := req.units
  bounds := req.bounds
  counts := req.counts
  compression := req.compression
  contentSha256 := asset.sha256
  sourceRunId := req.sourceRunId
  quality := req.quality
  limitations := sortedSet id (req.limitations.getD [])
  visualContentClasses := sortedSet id (req.visualContentClasses.getD [])
  classification := classification
  audiencePolicy := req.audiencePolicy.getD []
  viewerCompatibility := sortedSet id (req.viewerCompatibility.getD [])
  exporterCompatibility := sortedSet id (req.exporterCompatibility.getD [])
  validationState := req.validationState
  rebuildRecipe := req.rebuildRecipe.getD []
  truthLabel := req.truthLabel
  supersedesManifestId := req.supersedesManifestId

/-- The normalised body of a request that passes all checks of its references. -/
def normalizedBody (db : ManifestDb) (req : ManifestRequest) : Except Raised ManifestBody := do
  let asset ← scopedAsset db req
  scopedFrame db req
  let classification ← requestedClassification req asset
  checkRepresentation db req
  let body := candidateBody req asset classification
  checkContract py body
  return body

/-- The row of a body that is registered already. -/
def existing? (db : ManifestDb) (req : ManifestRequest) (hash : String) : Option GeometryAssetManifestRow :=
  db.manifests.rows.find? fun row =>
    row.tenantId = req.tenantId ∧ row.projectId = req.projectId ∧ row.manifestHash = hash

/-- The manifest that is about to be superseded. -/
def priorManifest (db : ManifestDb) (req : ManifestRequest) : Except Raised (Option GeometryAssetManifestRow) :=
  match given req.supersedesManifestId with
  | none => .ok none
  | some manifestId => do
    let prior ← orRaise (db.manifests.get? manifestId) (notFoundError "geometry_manifest" manifestId)
    raiseIf (prior.tenantId ≠ req.tenantId ∨ prior.projectId ≠ req.projectId)
      (notFoundError "geometry_manifest" manifestId)
    raiseIf (prior.deprecatedAt ≠ none ∨ prior.validationState = "deprecated")
      (conflictError "GEOMETRY_MANIFEST_ALREADY_SUPERSEDED" "the selected geometry manifest is already deprecated"
        [("geometry_manifest_id", .str manifestId)])
    raiseIf (prior.representationId ≠ req.representationId ∨ prior.profile ≠ req.profile)
      (validationError "GEOMETRY_MANIFEST_SUPERSESSION_SCOPE_MISMATCH"
        "a replacement manifest must preserve its representation binding and profile"
        [("prior_representation_id", .ofOption prior.representationId),
         ("replacement_representation_id", .ofOption req.representationId),
         ("prior_profile", .str prior.profile), ("replacement_profile", .str req.profile)])
    return some prior

def GeometryAssetManifestRow.deprecated (row : GeometryAssetManifestRow) (now : Nat) : GeometryAssetManifestRow :=
  { row with deprecatedAt := some now, validationState := "deprecated" }

def supersedePrior (manifests : Table GeometryAssetManifestRow (fun row => row.geometryManifestId)) (now : Nat)
    (prior : Option GeometryAssetManifestRow) : Table GeometryAssetManifestRow (fun row => row.geometryManifestId) :=
  match prior with
  | none => manifests
  | some prior => manifests.modify prior.geometryManifestId (GeometryAssetManifestRow.deprecated · now) fun _ => rfl

def manifestRow (stamp : ManifestStamp) (req : ManifestRequest) (body : ManifestBody) : GeometryAssetManifestRow :=
  { body with
    geometryManifestId := stamp.manifestId, tenantId := req.tenantId, projectId := req.projectId,
    manifestHash := ManifestBody.hash body, createdBy := req.actorId }

def manifestPayload (row : GeometryAssetManifestRow) : Dict := [
  ("geometry_manifest_id", .str row.geometryManifestId), ("asset_id", .str row.assetId),
  ("representation_id", .ofOption row.representationId), ("manifest_hash", .str row.manifestHash),
  ("validation_state", .str row.validationState)]

def manifestEvent (row : GeometryAssetManifestRow) : EventRequest where
  eventType := "geometry_manifest.registered"
  schemaVersion := "1.0.0"
  tenantId := row.tenantId
  projectId := row.projectId
  aggregateType := "geometry_manifest"
  aggregateId := row.geometryManifestId
  payload := manifestPayload row
  producer := "evidence-service"
  actorId := some row.createdBy
  workloadIdentity := none

def manifestAudit (row : GeometryAssetManifestRow) : AuditRequest where
  tenantId := row.tenantId
  projectId := some row.projectId
  actorId := row.createdBy
  action := "geometry_manifest:register"
  resourceType := "geometry_manifest"
  resourceId := row.geometryManifestId
  outcome := "allowed"
  details := some (manifestPayload row)

/-- The end of the transaction for a new body. -/
def writeManifest (db : ManifestDb) (stamp : ManifestStamp) (prior : Option GeometryAssetManifestRow)
    (row : GeometryAssetManifestRow) : Except Raised ManifestDb := do
  let manifests ← orRaise ((supersedePrior db.manifests stamp.now prior).insert? row)
    (.integrityError "geometry_asset_manifests.geometry_manifest_id")
  let s ← db.emit stamp.toStamp (manifestEvent row)
  let s ← s.record svc stamp.toStamp (manifestAudit row)
  return { db with toStore := s, manifests }

def registerGeometryManifest (db : ManifestDb) (stamp : ManifestStamp) (req : ManifestRequest) :
    Except Raised (GeometryAssetManifestContract × ManifestDb) := do
  let body ← normalizedBody py db req
  match existing? db req (ManifestBody.hash body) with
  | some row => return (← contractFromRow py row, db)
  | none => do
    let prior ← priorManifest db req
    let db ← writeManifest svc db stamp prior (manifestRow stamp req body)
    return (⟨stamp.manifestId, body, ManifestBody.hash body⟩, db)

end Register

end SpatialDataService

end Sip
