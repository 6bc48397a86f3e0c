import Sip.Assets.Store
import Sip.PyValue
import Sip.Transaction

/-!
# The asset service

An ingest asks the deployment service, writes the bytes to the object store, reads
them back, and only then records them in one transaction. A tombstone marks the
reference in one transaction and removes the object after it if no other reference
was left. The object store takes no part in the transactions, so each of these is a
step of its own.
-/

namespace Sip

set_option autoImplicit false

inductive Classification where
  | «public» | internal | confidential | restricted | criticalInfrastructure | biometric | minor
  deriving DecidableEq

def Classification.value : Classification → String
  | .public => "public"
  | .internal => "internal"
  | .confidential => "confidential"
  | .restricted => "restricted"
  | .criticalInfrastructure => "critical_infrastructure"
  | .biometric => "biometric"
  | .minor => "minor"

inductive SourceClass where
  | directCapture | observed | measured | verified | design | proposed | inferred | generated | recalled
  | corroborated | disputed | superseded
  deriving DecidableEq

def SourceClass.value : SourceClass → String
  | .directCapture => "direct_capture"
  | .observed => "observed"
  | .measured => "measured"
  | .verified => "verified"
  | .design => "design"
  | .proposed => "proposed"
  | .inferred => "inferred"
  | .generated => "generated"
  | .recalled => "recalled"
  | .corroborated => "corroborated"
  | .disputed => "disputed"
  | .superseded => "superseded"

inductive AuthorityClass where
  | none | evidence | metric | design | visual | derivedNonAuthoritative | fieldVerified | historicalAssertion
  deriving DecidableEq

def AuthorityClass.value : AuthorityClass → String
  | .none => "none"
  | .evidence => "evidence"
  | .metric => "metric"
  | .design => "design"
  | .visual => "visual"
  | .derivedNonAuthoritative => "derived_non_authoritative"
  | .fieldVerified => "field_verified"
  | .historicalAssertion => "historical_assertion"

structure AssetRow where
  sha256 : String
  byteCount : Nat
  mediaType : String
  storageKey : String
  encryptionMetadata : EnvelopeMetadata
  createdAt : Nat := 0

structure AssetRefRow where
  assetId : String
  tenantId : String
  projectId : String
  sha256 : String
  originalName : String
  classification : String
  retentionClass : String
  sourceClass : String
  authorityClass : String
  provenanceJson : Dict
  legalHold : Bool := false
  createdBy : String
  createdAt : Nat := 0
  tombstonedAt : Option Nat := none

structure AssetReference where
  assetId : String
  sha256 : String
  byteCount : Nat
  mediaType : String
  originalName : String
  classification : String
  sourceClass : String
  authorityClass : String

def AssetRefRow.reference (ref : AssetRefRow) (object : AssetRow) : AssetReference :=
  ⟨ref.assetId, ref.sha256, object.byteCount, object.mediaType, ref.originalName, ref.classification, ref.sourceClass,
    ref.authorityClass⟩

structure AssetDb extends Store where
  assets : Table AssetRow (fun row => row.sha256)
  refs : Table AssetRefRow (fun row => row.assetId)

/-- The database and the object store. -/
structure AssetState where
  db : AssetDb
  store : LocalContentAddressedStore

structure UploadAdmission where
  tenantId : String
  projectId : String
  admissionType : String
  region : Option String
  request : Dict
  actorId : String

/-- The deployment service as uploads see it: it records a decision of its own, and may refuse. -/
structure UploadDeployment where
  authorizeIfConfigured : UploadAdmission → Store → Store × Except Raised Unit
  projects_eq : ∀ request s, (authorizeIfConfigured request s).1.projects = s.projects

structure IngestRequest where
  tenantId : String
  projectId : String
  data : Bytes
  mediaType : String
  originalName : String
  classification : Classification
  retentionClass : String
  sourceClass : SourceClass
  authorityClass : AuthorityClass
  provenance : Dict
  actorId : String
  assetId : Option String := none
  deploymentRegion : Option String := none
  assetClass : String := "generic_asset"

/-- What an ingest finds outside: clock, identifiers, randomness, and the deployment service if one is set. -/
structure IngestDraw where
  stamp : Stamp
  newUuid : String
  envelope : EnvelopeDraw
  deployment : Option UploadDeployment

structure TombstoneRequest where
  tenantId : String
  projectId : String
  assetId : String
  actorId : String
  dryRun : Bool := true

structure TombstoneResult where
  assetId : String
  sha256 : String
  otherActiveReferences : Nat
  physicalObjectWillBeRemoved : Bool
  dryRun : Bool

def TombstoneResult.toDict (r : TombstoneResult) : Dict := [
  ("asset_id", .str r.assetId), ("sha256", .str r.sha256), ("other_active_references", .int r.otherActiveReferences),
  ("physical_object_will_be_removed", .bool r.physicalObjectWillBeRemoved), ("dry_run", .bool r.dryRun)]

def TombstoneRequest.auditRequest (req : TombstoneRequest) (result : TombstoneResult) : AuditRequest where
  tenantId := req.tenantId
  projectId := some req.projectId
  actorId := req.actorId
  action := "asset:tombstone"
  resourceType := "asset"
  resourceId := req.assetId
  outcome := "allowed"
  details := some result.toDict

namespace IngestRequest
variable (req : IngestRequest)

def digest : String := sha256Hex req.data

def id (newUuid : String) : String := (given req.assetId).getD newUuid

def admission : UploadAdmission where
  tenantId := req.tenantId
  projectId := req.projectId
  admissionType := "asset_upload"
  region := req.deploymentRegion
  request := [("asset_class", .str req.assetClass), ("byte_count", .int req.data.length),
    ("media_type", .str req.mediaType)]
  actorId := req.actorId

/-- The reference that a first ingest records. -/
def row (newUuid : String) (createdAt : Nat := 0) : AssetRefRow where
  assetId := req.id newUuid
  tenantId := req.tenantId
  projectId := req.projectId
  sha256 := req.digest
  originalName := req.originalName
  classification := req.classification.value
  retentionClass := req.retentionClass
  sourceClass := req.sourceClass.value
  authorityClass := req.authorityClass.value
  provenanceJson := req.provenance
  createdBy := req.actorId
  createdAt := createdAt

def reference (newUuid : String) : AssetReference :=
  ⟨req.id newUuid, req.digest, req.data.length, req.mediaType, req.originalName, req.classification.value,
    req.sourceClass.value, req.authorityClass.value⟩

def auditRequest (newUuid : String) : AuditRequest where
  tenantId := req.tenantId
  projectId := some req.projectId
  actorId := req.actorId
  action := "asset:ingest"
  resourceType := "asset"
  resourceId := req.id newUuid
  outcome := "allowed"
  details := some [("sha256", .str req.digest), ("bytes", .int req.data.length),
    ("classification", .str req.classification.value)]

end IngestRequest

namespace AssetService

/-- The deployment gate, which is open when no deployment service is set. -/
def authorize (deployment : Option UploadDeployment) (s : Store) (req : IngestRequest) : Store × Except Raised Unit :=
  match deployment with
  | none => (s, .ok ())
  | some service => service.authorizeIfConfigured req.admission s

/-- Read the object back and compare it. -/
def verifyWrite (store : LocalContentAddressedStore) (req : IngestRequest) : Except Raised Unit := do
  let persisted ← store.readBytes req.digest
  raiseIf (sha256Hex persisted ≠ req.digest ∨ persisted ≠ req.data)
    (validationError "OBJECT_POST_WRITE_VERIFICATION_FAILED"
      "object-store bytes failed post-write integrity verification"
      [("expected_sha256", .str req.digest), ("actual_sha256", .str (sha256Hex persisted))])

/-- The row of the content; the row of an earlier ingest is kept. -/
def ensureObject (assets : Table AssetRow (fun row => row.sha256)) (req : IngestRequest) (metadata : EnvelopeMetadata)
    (now : Nat := 0) : Except Raised (Table AssetRow (fun row => row.sha256)) :=
  match assets.get? req.digest with
  | none => do
    let storageKey ← LocalContentAddressedStore.storageKey req.digest
    orRaise (assets.insert? ⟨req.digest, req.data.length, req.mediaType, storageKey, metadata, now⟩)
      (.integrityError "assets.sha256")
  | some object => do
    raiseIf (object.byteCount ≠ req.data.length)
      (conflictError "CAS_METADATA_CONFLICT" "stored object metadata conflicts with payload")
    return assets

def ingestTransaction (svc : AuditService) (db : AssetDb) (draw : IngestDraw) (req : IngestRequest)
    (metadata : EnvelopeMetadata) : Except Raised (AssetDb × AssetReference) := do
  let _ ← orRaise ((db.projects.get? req.projectId).filter fun project => project.tenantId = req.tenantId)
    (notFoundError "project" req.projectId)
  match db.refs.get? (req.id draw.newUuid) with
  | some existing =>
    raiseIf (existing.tenantId ≠ req.tenantId ∨ existing.projectId ≠ req.projectId ∨ existing.sha256 ≠ req.digest ∨
        existing.tombstonedAt ≠ none)
      (conflictError "ASSET_IDEMPOTENCY_CONFLICT" "asset identifier is already bound to different content or scope"
        [("asset_id", .str (req.id draw.newUuid))])
    let object ← orRaise (db.assets.get? req.digest)
      (validationError "OBJECT_REFERENCE_BROKEN" "asset object metadata is missing")
    return (db, existing.reference object)
  | none =>
    let assets ← ensureObject db.assets req metadata draw.stamp.now
    let refs ← orRaise (db.refs.insert? (req.row draw.newUuid draw.stamp.now)) (.integrityError "asset_refs.asset_id")
    let base ← db.toStore.record svc draw.stamp (req.auditRequest draw.newUuid)
    return (⟨base, assets, refs⟩, req.reference draw.newUuid)

def ingestBytes (svc : AuditService) (draw : IngestDraw) (s : AssetState) (req : IngestRequest) :
    AssetState × Except Raised AssetReference :=
  let asked := authorize draw.deployment s.db.toStore req
  let admitted : AssetState := { s with db := { s.db with toStore := asked.1 } }
  match asked.2 with
  | .error e => (admitted, .error e)
  | .ok () => match s.store.writeBytes draw.envelope req.digest req.data with
    | .error e => (admitted, .error e)
    | .ok (store, metadata) => match verifyWrite store req with
      | .error e => ({ admitted with store }, .error e)
      | .ok () => match ingestTransaction svc admitted.db draw req metadata with
        | .error e => ({ admitted with store }, .error e)
        | .ok (db, reference) => (⟨db, store⟩, .ok reference)

/-- `AssetRefRow.tombstoned_at.is_(None)`. -/
def Live (ref : AssetRefRow) : Prop := ref.tombstonedAt = none

instance (ref : AssetRefRow) : Decidable (Live ref) := inferInstanceAs (Decidable (ref.tombstonedAt = none))

def otherReferences (db : AssetDb) (ref : AssetRefRow) : List AssetRefRow :=
  db.refs.rows.filter fun other => other.sha256 = ref.sha256 ∧ other.assetId ≠ ref.assetId ∧ Live other

def tombstoneResult (db : AssetDb) (ref : AssetRefRow) (req : TombstoneRequest) : TombstoneResult where
  assetId := req.assetId
  sha256 := ref.sha256
  otherActiveReferences := (otherReferences db ref).length
  physicalObjectWillBeRemoved := (otherReferences db ref).length = 0
  dryRun := req.dryRun

def tombstoneTransaction (svc : AuditService) (db : AssetDb) (stamp : Stamp) (req : TombstoneRequest) :
    Except Raised (AssetDb × TombstoneResult) := do
  let ref ← orRaise ((db.refs.get? req.assetId).filter fun ref =>
    ref.tenantId = req.tenantId ∧ ref.projectId = req.projectId) (notFoundError "asset" req.assetId)
  raiseIf (ref.legalHold = true) (conflictError "LEGAL_HOLD_ACTIVE" "asset is under legal hold")
  let result := tombstoneResult db ref req
  if req.dryRun then return (db, result)
  else
    let refs := db.refs.set { ref with tombstonedAt := ref.tombstonedAt <|> some stamp.now }
    let base ← db.toStore.record svc stamp (req.auditRequest result)
    return (⟨base, db.assets, refs⟩, result)

/-- Whether the object is deleted once the transaction has committed. -/
def TombstoneResult.removes (r : TombstoneResult) : Bool := !r.dryRun && r.physicalObjectWillBeRemoved

def tombstone (svc : AuditService) (stamp : Stamp) (s : AssetState) (req : TombstoneRequest) :
    AssetState × Except Raised TombstoneResult :=
  match tombstoneTransaction svc s.db stamp req with
  | .error e => (s, .error e)
  | .ok (db, result) =>
    if TombstoneResult.removes result then match s.store.delete result.sha256 with
      | .error e => ({ s with db }, .error e)
      | .ok store => (⟨db, store⟩, .ok result)
    else ({ s with db }, .ok result)

section Effects
variable {svc : AuditService} {db db' : AssetDb} {draw : IngestDraw} {req : IngestRequest}
  {metadata : EnvelopeMetadata} {reference : AssetReference}

theorem projects_authorize (deployment : Option UploadDeployment) (s : Store) (req : IngestRequest) :
    (authorize deployment s req).1.projects = s.projects := by
  cases deployment with
  | none => rfl
  | some service => exact service.projects_eq _ _

theorem record_projects {s s' : Store} {stamp : Stamp} {r : AuditRequest} (h : s.record svc stamp r = .ok s') :
    s'.projects = s.projects := by
  simp only [Store.record, bind_eq_ok] at h
  obtain ⟨_, _, h⟩ := h
  cases h
  rfl

/-- A read-back that succeeds has found the object, with the bytes of the request. -/
theorem verifyWrite_ok {store : LocalContentAddressedStore} {u : Unit} (h : verifyWrite store req = .ok u) :
    store.readBytes req.digest = .ok req.data := by
  simp only [verifyWrite, bind_eq_ok, raiseIf_eq_ok, not_or, not_not] at h
  obtain ⟨persisted, hread, _, rfl⟩ := h
  exact hread

theorem ensureObject_ok {assets assets' : Table AssetRow (fun row => row.sha256)} {now : Nat}
    (h : ensureObject assets req metadata now = .ok assets') :
    (∃ row, assets.get? req.digest = some row ∧ row.byteCount = req.data.length ∧ assets' = assets) ∨
    (∃ row, assets.get? req.digest = none ∧ assets.insert? row = some assets' ∧ row.sha256 = req.digest ∧
      row.byteCount = req.data.length ∧ row.encryptionMetadata = metadata) := by
  unfold ensureObject at h
  split at h
  · rename_i hnone
    simp only [bind_eq_ok, orRaise_eq_ok] at h
    obtain ⟨storageKey, _, hinsert⟩ := h
    exact .inr ⟨_, hnone, hinsert, rfl, rfl, rfl⟩
  · rename_i row hrow
    simp only [bind_eq_ok, raiseIf_eq_ok, not_not] at h
    obtain ⟨_, hcount, h⟩ := h
    cases h
    exact .inl ⟨row, hrow, hcount, rfl⟩

/-- What a successful ingest transaction does: nothing for a reference that is there, and otherwise it adds
the reference, with a row for the content if there is none. -/
theorem ingestTransaction_ok (h : ingestTransaction svc db draw req metadata = .ok (db', reference)) :
    (db' = db ∧ ∃ existing, db.refs.get? (req.id draw.newUuid) = some existing ∧ existing.sha256 = req.digest ∧ Live existing ∧
      reference.sha256 = req.digest) ∨
    (ensureObject db.assets req metadata draw.stamp.now = .ok db'.assets ∧
      db.refs.insert? (req.row draw.newUuid draw.stamp.now) = some db'.refs ∧
      db.toStore.record svc draw.stamp (req.auditRequest draw.newUuid) = .ok db'.toStore ∧
      reference = req.reference draw.newUuid) := by
  simp only [ingestTransaction, bind_eq_ok] at h
  obtain ⟨_, _, h⟩ := h
  cases hexisting : db.refs.get? (req.id draw.newUuid) with
  | some existing =>
    simp only [hexisting, bind_eq_ok, raiseIf_eq_ok, not_or, not_not] at h
    obtain ⟨_, ⟨_, _, hdigest, hlive⟩, object, _, h⟩ := h
    cases h
    exact .inl ⟨rfl, existing, rfl, hdigest, hlive, hdigest⟩
  | none =>
    simp only [hexisting, bind_eq_ok, orRaise_eq_ok] at h
    obtain ⟨assets, hassets, refs, hrefs, base, hbase, h⟩ := h
    cases h
    exact .inr ⟨hassets, hrefs, hbase, rfl⟩

theorem ensureObject_of_some {assets : Table AssetRow (fun row => row.sha256)} {row : AssetRow} {now : Nat}
    (hrow : assets.get? req.digest = some row) (hcount : row.byteCount = req.data.length) :
    ensureObject assets req metadata now = .ok assets := by
  simp only [ensureObject, hrow, bind_eq_ok, raiseIf_eq_ok, not_not]
  exact ⟨(), hcount, rfl⟩

/-- The transaction of a new reference goes through if the content and the audit entry are accepted. -/
theorem ingestTransaction_fresh {project : ProjectRow} {assets : Table AssetRow (fun row => row.sha256)} {base : Store}
    (hproject : db.projects.get? req.projectId = some project) (htenant : project.tenantId = req.tenantId)
    (hfresh : db.refs.get? (req.id draw.newUuid) = none)
    (hassets : ensureObject db.assets req metadata draw.stamp.now = .ok assets)
    (hrecord : db.toStore.record svc draw.stamp (req.auditRequest draw.newUuid) = .ok base) :
    ∃ refs, db.refs.insert? (req.row draw.newUuid draw.stamp.now) = some refs ∧
      ingestTransaction svc db draw req metadata = .ok (⟨base, assets, refs⟩, req.reference draw.newUuid) := by
  have hnew : db.refs.get? (req.row draw.newUuid draw.stamp.now).assetId = none := hfresh
  obtain ⟨refs, hrefs⟩ := Table.insert?_isSome hnew
  refine ⟨refs, hrefs, ?_⟩
  have hscope : (db.projects.get? req.projectId).filter (fun project => project.tenantId = req.tenantId) = some project := by
    rw [hproject, Option.filter_eq_some_iff]
    exact ⟨rfl, decide_eq_true htenant⟩
  simp only [ingestTransaction, hscope, hfresh, bind_eq_ok, orRaise_eq_ok]
  exact ⟨project, rfl, assets, hassets, refs, hrefs, base, hrecord, rfl⟩

/-- What a successful tombstone transaction does. -/
theorem tombstoneTransaction_ok {stamp : Stamp} {req : TombstoneRequest} {result : TombstoneResult}
    (h : tombstoneTransaction svc db stamp req = .ok (db', result)) :
    ∃ ref, db.refs.get? req.assetId = some ref ∧ ref.tenantId = req.tenantId ∧ ref.projectId = req.projectId ∧
      ref.legalHold = false ∧ result = tombstoneResult db ref req ∧ db'.assets = db.assets ∧
      ((req.dryRun = true ∧ db' = db) ∨ (req.dryRun = false ∧ ∃ at', db'.refs = db.refs.set { ref with tombstonedAt := some at' })) := by
  simp only [tombstoneTransaction, bind_eq_ok, orRaise_eq_ok, raiseIf_eq_ok, Option.filter_eq_some_iff] at h
  obtain ⟨ref, ⟨href, hscope⟩, _, hhold, h⟩ := h
  have hscope' : ref.tenantId = req.tenantId ∧ ref.projectId = req.projectId := by simpa using hscope
  have hfree : ref.legalHold = false := by simpa using hhold
  refine ⟨ref, href, hscope'.1, hscope'.2, hfree, ?_⟩
  cases hdry : req.dryRun with
  | true =>
    simp only [hdry, if_pos] at h
    cases h
    exact ⟨rfl, rfl, .inl ⟨rfl, rfl⟩⟩
  | false =>
    simp only [hdry, Bool.false_eq_true, if_false, bind_eq_ok] at h
    obtain ⟨base, _, h⟩ := h
    cases h
    refine ⟨rfl, rfl, .inr ⟨rfl, ref.tombstonedAt.getD stamp.now, ?_⟩⟩
    cases ref.tombstonedAt <;> rfl

end Effects

end AssetService

end Sip
