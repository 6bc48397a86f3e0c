import Sip.Canonical
import Sip.Spatial.Assertions

/-!
# The state of the LiveForever service

Consent grants, memory records and their reviews. A memory record carries a free-form
document beside its columns: the scope of a record without a subject, what it revises
and whether a revocation has closed it are kept there.
-/

namespace Sip

set_option autoImplicit false

namespace Dict

/-- `{**d, **changes}`. -/
def update (d changes : Dict) : Dict := changes.foldl (fun d p => d.set p.1 p.2) d

theorem lookup_update_of_notMem {d changes : Dict} {key : String} (h : key ∉ changes.map Prod.fst) :
    (d.update changes).lookup key = d.lookup key := by
  induction changes generalizing d with
  | nil => rfl
  | cons p changes ih =>
    simp only [List.map_cons, List.mem_cons, not_or] at h
    have hrest : ((d.set p.1 p.2).update changes).lookup key = (d.set p.1 p.2).lookup key := ih h.2
    rw [show d.update (p :: changes) = (d.set p.1 p.2).update changes from rfl, hrest, lookup_set, if_neg h.1]

/-- The last value given for a key is the one that stays. -/
theorem lookup_update_snoc (d changes : Dict) (key : String) (value : Json) (k : String) :
    (d.update (changes ++ [(key, value)])).lookup k = if k = key then some value else (d.update changes).lookup k := by
  rw [update, List.foldl_append, List.foldl_cons, List.foldl_nil, lookup_set]
  rfl

theorem get_update_of_notMem {d changes : Dict} {key : String} (h : key ∉ changes.map Prod.fst) :
    (d.update changes).get key = d.get key := by
  rw [get, get, lookup_update_of_notMem h]

end Dict

/-- A consent grant with the persons it names. -/
structure SubjectGrantRow extends ConsentGrantRow where
  subjectId : String
  grantedBy : String
  revokedBy : Option String := none

/-- `MemoryRecordRow` with all its columns. -/
structure LiveForeverRecordRow where
  recordId : String
  tenantId : String
  projectId : String
  recordType : String
  subjectId : Option String
  relatedIdsJson : List String
  dataJson : Dict
  sourceClass : SourceClass
  confidence : PyFloat
  evidenceAssetIdsJson : List String
  audience : Audience
  generatedLineageJson : Option Dict
  createdBy : String
  createdAt : Nat
  supersededAt : Option Nat := none

structure LiveForeverRecordReviewRow where
  reviewId : String
  tenantId : String
  projectId : String
  sourceRecordId : String
  reviewedRecordId : String
  idempotencyKey : String
  requestHash : String
  reviewerId : String
  targetSourceClass : SourceClass
  rationale : String
  evidenceAssetIdsJson : List String
  confidence : PyFloat
  reviewHash : String

/-- A family-governance record, with the columns that a freeze and a revocation go by. -/
structure LiveForeverGovernanceRow where
  governanceId : String
  tenantId : String
  projectId : String
  recordType : String
  subjectId : String
  consentGrantId : Option String
  disputeJson : Dict
  state : String
  freezeHighRisk : Bool
  revokedAt : Option Nat := none
  revokedBy : Option String := none

/-- A derivative, with the columns that a revocation goes by. -/
structure LiveForeverDerivativeRow where
  derivativeId : String
  tenantId : String
  projectId : String
  subjectIdsJson : List String
  consentGrantIdsJson : List String
  policyJson : Dict
  state : String
  withdrawalAction : Option String := none

structure LiveForeverDb extends Store where
  refs : Table AssetRefRow (fun row => row.assetId)
  objects : Table AssetRow (fun row => row.sha256)
  grants : Table SubjectGrantRow (fun row => row.grantId)
  records : Table LiveForeverRecordRow (fun row => row.recordId)
  reviews : Table LiveForeverRecordReviewRow (fun row => row.reviewId)
  governance : Table LiveForeverGovernanceRow (fun row => row.governanceId)
  derivatives : Table LiveForeverDerivativeRow (fun row => row.derivativeId)

def LiveForeverDb.empty : LiveForeverDb := { Store.empty with
  refs := .empty, objects := .empty, grants := .empty, records := .empty, reviews := .empty, governance := .empty,
  derivatives := .empty }

/-- `str(value)` and `int(value)`. -/
structure PyScalars extends PyText where
  int : Json → Except Raised Int

namespace LiveForeverService

section Texts

def memoryTypes : List String := [
  "person", "relationship", "place", "object", "event", "memory", "timeline", "theme", "interview", "speaker",
  "transcript_segment", "photograph", "recording", "video", "document", "letter", "story_anchor", "edition",
  "generated_reconstruction"]

/-- The keys of `TRUTH_LEGEND`. -/
def sourceLabels : List String := [
  "direct_capture", "source_document", "first_person_recollection", "witness_recollection", "corroborated_synthesis",
  "inferred", "reconstructed", "restored", "generated", "artistic", "disputed", "unknown", "verified"]

def defaultSourceLabel : SourceClass → String
  | .directCapture => "direct_capture"
  | .observed => "direct_capture"
  | .measured => "direct_capture"
  | .verified => "verified"
  | .design => "source_document"
  | .proposed => "reconstructed"
  | .inferred => "inferred"
  | .generated => "generated"
  | .recalled => "first_person_recollection"
  | .corroborated => "corroborated_synthesis"
  | .disputed => "disputed"
  | .superseded => "unknown"

/-- Every label a class defaults to is in the legend. -/
theorem defaultSourceLabel_mem (sourceClass : SourceClass) : defaultSourceLabel sourceClass ∈ sourceLabels := by
  cases sourceClass <;> decide

def correctionTypes : List String := [
  "transcription_correction", "factual_correction", "contributor_retraction", "consent_restriction",
  "alternate_interpretation"]

/-- `text.strip()`. -/
def stripText (text : String) : String := String.ofList (strip text.toList)

variable (py : PyScalars)

/-- `str(value).strip()`. -/
def stripped (value : Json) : String := stripText (py.str value)

/-- `a or b`. -/
def either (a b : Json) : Json := if a.truthy then a else b

/-- `list(value or [])`. -/
def listOr (value : Json) : Except Raised (List Json) := if value.truthy then value.iterate else .ok []

/-- `f"{year:04d}"`. -/
def yearText (year : Int) : String :=
  if year < 0 then String.ofList ('-' :: padded 3 year.natAbs) else String.ofList (padded 4 year.natAbs)

/-- `_normalize_time_expression` of a dictionary that is not empty. -/
def timeExpression (value : Dict) : Except Raised Dict :=
  let kind := py.str ((value.get? "kind").getD (.str "unknown"))
  let basis := ("basis", value.get "basis")
  let confidence := ("confidence", value.get "confidence")
  if kind = "approximate" then
    match value.get "year" with
    | .null =>
      let label := py.str (either (either (value.get "label") (value.get "value")) (.str "approximately dated"))
      .ok [("kind", .str "qualitative"), ("label", .str label),
        ("basis", (value.get? "basis").getD (.str "approximate"))]
    | year => do
      let year ← py.int year
      return [("kind", .str "bounded"), ("start", .str (yearText year ++ "-01-01")),
        ("end", .str (yearText year ++ "-12-31")), ("basis", (value.get? "basis").getD (.str "approximate_year")),
        confidence]
  else if kind = "exact" then do
    raiseIf ((value.get "value").truthy = false ∨ value.get? "approximate" matches some (.bool true))
      (validationError "MEMORY_TIME_PRECISION" "an approximate time cannot be represented as exact")
    return [("kind", .str "exact"), ("value", .str (py.str (value.get "value"))), basis]
  else if kind = "bounded" then do
    raiseIf ((value.get "start").truthy = false ∨ (value.get "end").truthy = false)
      (validationError "MEMORY_TIME_RANGE" "bounded time requires start and end")
    return [("kind", .str "bounded"), ("start", .str (py.str (value.get "start"))),
      ("end", .str (py.str (value.get "end"))), basis, confidence]
  else if kind = "qualitative" then do
    raiseIf (stripped py ((value.get? "label").getD (.str "")) = "")
      (validationError "MEMORY_TIME_QUALITATIVE" "qualitative time requires a label")
    return [("kind", .str "qualitative"), ("label", .str (py.str (value.get "label"))), basis]
  else if kind = "unknown" then .ok [("kind", .str "unknown"), basis]
  else .error (validationError "MEMORY_TIME_EXPRESSION" "unsupported time-expression kind")

/-- `_normalize_time_expression`. -/
def normalizeTimeExpression (value : Json) : Except Raised Dict :=
  match value with
  | .null => .ok [("kind", .str "unknown")]
  | .str label =>
    if label = "" then .ok [("kind", .str "unknown")]
    else .ok [("kind", .str "qualitative"), ("label", .str label)]
  | .obj [] => .ok [("kind", .str "unknown")]
  | .obj fields => timeExpression py fields
  | _ => .error (validationError "MEMORY_TIME_EXPRESSION"
      "time expression must be a governed object or qualitative label")

end Texts

section Evidence
variable (db : LiveForeverDb) (tenantId projectId : String)

/-- `require_scoped_immutable_assets`: one asset of the list, without an expected hash. -/
def requireScopedAsset (codePrefix assetId : String) : Except Raised AssetRefRow := do
  let outside := validationError (codePrefix ++ "_ASSET_SCOPE")
    "evidence asset is missing, tombstoned, or outside the tenant/project scope" [("asset_id", .str assetId)]
  let ref ← orRaise (db.refs.get? assetId) outside
  raiseIf (ref.tenantId ≠ tenantId ∨ ref.projectId ≠ projectId ∨ ref.tombstonedAt ≠ none) outside
  raiseIf (isDigest ref.sha256 = false) (validationError (codePrefix ++ "_ASSET_HASH_INVALID")
    "evidence asset does not retain a valid SHA-256 content identity" [("asset_id", .str assetId)])
  raiseIf (db.objects.get? ref.sha256).isNone (validationError (codePrefix ++ "_ASSET_OBJECT_MISSING")
    "evidence asset points to missing immutable object metadata"
    [("asset_id", .str assetId), ("sha256", .str ref.sha256)])
  return ref

/-- `require_scoped_immutable_assets(..)` without expected hashes. -/
def requireScopedImmutableAssets (assetIds : List String) (codePrefix : String) (requireNonempty : Bool) :
    Except Raised Unit := do
  let ids := assetIds.map stripText
  raiseIf ("" ∈ ids)
    (validationError (codePrefix ++ "_ASSET_ID_REQUIRED") "evidence asset identifiers must be non-empty")
  raiseIf (requireNonempty = true ∧ ids = [])
    (validationError (codePrefix ++ "_ASSET_REQUIRED") "at least one immutable evidence asset is required")
  (distinctBy id ids).forM fun assetId => do
    let _ ← requireScopedAsset db tenantId projectId codePrefix assetId

end Evidence

section Consent

/-- What a use of a person's data has to be permitted for. -/
structure Use where
  purpose : String
  audience : Audience
  scope : String

/-- The grant is active, has not expired and names the purpose, the audience and the scope. -/
def grantPermits (now : Nat) (use : Use) (grant : SubjectGrantRow) : Bool :=
  grant.state = "active" ∧ ¬ (grant.expiresAt.any fun expiry => expiry ≤ now) ∧ use.purpose ∈ grant.purposesJson ∧
    use.audience.value ∈ grant.audiencesJson ∧ (use.scope ∈ grant.scopesJson ∨ "*" ∈ grant.scopesJson)

/-- `_require_consent`. -/
def requireConsent (db : LiveForeverDb) (now : Nat) (tenantId projectId subjectId : String) (use : Use) :
    Except Raised SubjectGrantRow :=
  orRaise (db.grants.rows.find? fun grant => grant.tenantId = tenantId ∧ grant.projectId = projectId ∧
      grant.subjectId = subjectId ∧ grantPermits now use grant = true)
    (authorizationError "CONSENT_REQUIRED" "no active consent grant permits this purpose, audience, and scope"
      [("subject_id", .str subjectId), ("purpose", .str use.purpose), ("audience", .str use.audience.value),
        ("scope", .str use.scope)])

def highRiskModalities : List String := [
  "generated", "generated_reconstruction", "visual_reconstruction", "voice", "likeness", "dialogue", "first_person",
  "first_person_dialogue", "autonomous_persona", "immersive_presence"]

def blocks (row : LiveForeverGovernanceRow) : Bool :=
  row.recordType ∈ ["dispute", "freeze", "minor_protection", "living_third_party"] ∨
    row.state ∈ ["disputed", "revoked"] ∨ (row.disputeJson.get "active").truthy

/-- `_enforce_high_risk_freeze`. -/
def enforceHighRiskFreeze (db : LiveForeverDb) (tenantId projectId subjectId modality : String) : Except Raised Unit :=
  raiseIf ((modality ∈ highRiskModalities ∨ "generated_".toList <+: modality.toList) ∧
      db.governance.rows.any fun row => row.tenantId = tenantId ∧ row.projectId = projectId ∧
        row.subjectId = subjectId ∧ row.freezeHighRisk ∧ blocks row)
    (authorizationError "SUBJECT_HIGH_RISK_FROZEN" "high-risk generated use is frozen by family governance")

end Consent

end LiveForeverService

end Sip
