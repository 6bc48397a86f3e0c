import Mathlib.Logic.Function.Basic
import Sip.Assets.Service
import Sip.Foundation.Runs

/-!
# Multipart uploads

A part is a file in the directory of its upload and a row in the database. The file is
put in its place before the row is committed, and a completion reads the rows in one
transaction, ingests the joined bytes, marks the upload in another transaction, and
removes the directory after it. The rows of the parts are never removed.
-/

namespace Sip

set_option autoImplicit false

/-- `multipart_root / upload_id / f"{part_number:08d}.part"`; two numbers never share a name. -/
structure PartPath where
  uploadId : String
  partNumber : Int
  deriving DecidableEq

inductive MultipartState where
  | «open» | completed
  deriving DecidableEq

structure MultipartUploadRow where
  uploadId : String
  tenantId : String
  projectId : String
  expectedSha256 : String
  expectedBytes : Int
  mediaType : String
  metadataJson : Dict
  state : MultipartState := .open
  createdBy : String
  completedAt : Option Nat := none

structure MultipartChunkRow where
  chunkId : String
  uploadId : String
  partNumber : Int
  sha256 : String
  byteCount : Nat
  path : PartPath

/-- The asset service with its uploads: their rows, their directories and the files in them. -/
structure UploadState where
  service : AssetState
  uploads : Table MultipartUploadRow (fun row => row.uploadId)
  chunks : Table MultipartChunkRow (fun row => row.chunkId)
  directories : String → Bool
  files : PartPath → Option Bytes

structure BeginRequest where
  tenantId : String
  projectId : String
  expectedSha256 : String
  expectedBytes : Int
  mediaType : String
  metadata : Dict
  actorId : String
  deploymentRegion : Option String := none
  assetClass : String := "generic_asset"

structure PutPartRequest where
  uploadId : String
  partNumber : Int
  data : Bytes
  expectedSha256 : String
  tenantId : String
  projectId : Option String := none

structure PartReceipt where
  partNumber : Int
  sha256 : String
  bytes : Nat
  alreadyVerified : Bool

structure CompleteRequest where
  uploadId : String
  originalName : String
  classification : Classification
  retentionClass : String
  sourceClass : SourceClass
  authorityClass : AuthorityClass
  provenance : Dict
  actorId : String
  tenantId : String
  projectId : Option String := none

structure VerifiedPart where
  partNumber : Int
  sha256 : String
  bytes : Nat

structure MultipartReport where
  uploadId : String
  tenantId : String
  projectId : String
  state : MultipartState
  expectedSha256 : String
  expectedBytes : Int
  mediaType : String
  verifiedParts : List VerifiedPart
  verifiedBytes : Nat
  nextPartNumber : Int

namespace BeginRequest
variable (req : BeginRequest)

def check : Except Raised Unit := do
  raiseIf (req.expectedBytes < 0) (validationError "UPLOAD_SIZE_INVALID" "expected upload size cannot be negative")
  raiseIf (isDigest req.expectedSha256 = false)
    (validationError "UPLOAD_HASH_INVALID" "expected upload hash must be lowercase SHA-256")

def admission : UploadAdmission where
  tenantId := req.tenantId
  projectId := req.projectId
  admissionType := "asset_upload"
  region := req.deploymentRegion
  request := [("asset_class", .str req.assetClass), ("byte_count", .int req.expectedBytes),
    ("media_type", .str req.mediaType), ("multipart", .bool true)]
  actorId := req.actorId

/-- `{**metadata, "deployment_region": .., "asset_class": ..}` -/
def storedMetadata : Dict :=
  (req.metadata.set "deployment_region" (Json.ofOption req.deploymentRegion)).set "asset_class" (.str req.assetClass)

def row (uploadId : String) : MultipartUploadRow where
  uploadId := uploadId
  tenantId := req.tenantId
  projectId := req.projectId
  expectedSha256 := req.expectedSha256
  expectedBytes := req.expectedBytes
  mediaType := req.mediaType
  metadataJson := req.storedMetadata
  createdBy := req.actorId

end BeginRequest

namespace PutPartRequest
variable (req : PutPartRequest)

def path : PartPath := ⟨req.uploadId, req.partNumber⟩

def digest : String := sha256Hex req.data

def chunk (chunkId : String) : MultipartChunkRow where
  chunkId := chunkId
  uploadId := req.uploadId
  partNumber := req.partNumber
  sha256 := req.digest
  byteCount := req.data.length
  path := req.path

def receipt (alreadyVerified : Bool) : PartReceipt := ⟨req.partNumber, req.digest, req.data.length, alreadyVerified⟩

end PutPartRequest

namespace MultipartUploadRow
variable (upload : MultipartUploadRow)

/-- The region and the class as `begin_multipart` has stored them. -/
def deploymentRegion : Option String := (upload.metadataJson.get "deployment_region").text?

def assetClass : String := ((upload.metadataJson.get? "asset_class").bind Json.text?).getD "generic_asset"

/-- The upload belongs to the tenant and, if one is named, to the project. -/
def InScope (tenantId : String) (projectId : Option String) : Prop :=
  upload.tenantId = tenantId ∧ ∀ id ∈ projectId, upload.projectId = id

instance (tenantId : String) (projectId : Option String) : Decidable (upload.InScope tenantId projectId) :=
  inferInstanceAs (Decidable (_ ∧ _))

/-- The ingest that a completion asks for. -/
def ingestRequest (req : CompleteRequest) (data : Bytes) : IngestRequest where
  tenantId := upload.tenantId
  projectId := upload.projectId
  data := data
  mediaType := upload.mediaType
  originalName := req.originalName
  classification := req.classification
  retentionClass := req.retentionClass
  sourceClass := req.sourceClass
  authorityClass := req.authorityClass
  provenance := req.provenance
  actorId := req.actorId
  deploymentRegion := upload.deploymentRegion
  assetClass := upload.assetClass

end MultipartUploadRow

namespace UploadState
variable (s : UploadState)

def scopedUpload (uploadId tenantId : String) (projectId : Option String) : Except Raised MultipartUploadRow :=
  orRaise ((s.uploads.get? uploadId).filter fun upload => upload.InScope tenantId projectId)
    (notFoundError "multipart_upload" uploadId)

/-- The parts of an upload, `ORDER BY part_number`. -/
def parts (uploadId : String) : List MultipartChunkRow :=
  sortBy (fun chunk => chunk.partNumber) (s.chunks.rows.filter fun chunk => chunk.uploadId = uploadId)

def chunk? (path : PartPath) : Option MultipartChunkRow :=
  s.chunks.rows.find? fun chunk => chunk.uploadId = path.uploadId ∧ chunk.partNumber = path.partNumber

def writeFile (path : PartPath) (data : Bytes) : UploadState :=
  { s with files := Function.update s.files path (some data) }

theorem files_writeFile_of_ne {s : UploadState} {path other : PartPath} {data : Bytes} (h : other ≠ path) :
    (s.writeFile path data).files other = s.files other := Function.update_of_ne h _ _

/-- `shutil.rmtree(self.multipart_root / upload_id)` -/
def removeDirectory (uploadId : String) : UploadState := { s with
  directories := Function.update s.directories uploadId false
  files := fun path => if path.uploadId = uploadId then none else s.files path }

end UploadState

namespace AssetService

def authorizeUpload (deployment : Option UploadDeployment) (s : UploadState) (req : BeginRequest) :
    UploadState × Except Raised Unit :=
  match deployment with
  | none => (s, .ok ())
  | some service =>
    let asked := service.authorizeIfConfigured req.admission s.service.db.toStore
    ({ s with service := { s.service with db := { s.service.db with toStore := asked.1 } } }, asked.2)

/-- The transaction that records a new upload. -/
def recordUpload (s : UploadState) (uploadId : String) (req : BeginRequest) : Except Raised UploadState := do
  let _ ← orRaise ((s.service.db.projects.get? req.projectId).filter fun project => project.tenantId = req.tenantId)
    (notFoundError "project" req.projectId)
  let uploads ← orRaise (s.uploads.insert? (req.row uploadId)) (.integrityError "multipart_uploads.upload_id")
  return { s with uploads }

def beginMultipart (deployment : Option UploadDeployment) (newUuid : String) (s : UploadState) (req : BeginRequest) :
    UploadState × Except Raised String :=
  match req.check with
  | .error e => (s, .error e)
  | .ok () => match authorizeUpload deployment s req with
    | (admitted, .error e) => (admitted, .error e)
    | (admitted, .ok ()) => match recordUpload admitted newUuid req with
      | .error e => (admitted, .error e)
      | .ok recorded =>
        -- the directory is made once the row is committed
        if recorded.directories newUuid then (recorded, .error (.osError "File exists"))
        else ({ recorded with directories := Function.update recorded.directories newUuid true }, .ok newUuid)

/-- What is decided before anything is written: the receipt of a part that is there already, or nothing if the
part has to be written. -/
def checkPart (s : UploadState) (req : PutPartRequest) : Except Raised (Option PartReceipt) := do
  raiseIf (req.partNumber < 1) (validationError "UPLOAD_PART_INVALID" "part number must be positive")
  raiseIf (req.digest ≠ req.expectedSha256) (validationError "UPLOAD_PART_HASH_MISMATCH" "multipart chunk hash mismatch")
  raiseIf (s.directories req.uploadId = false) (notFoundError "multipart_upload" req.uploadId)
  let upload ← s.scopedUpload req.uploadId req.tenantId req.projectId
  raiseIf (upload.state ≠ .open) (conflictError "UPLOAD_NOT_OPEN" "multipart upload is not open")
  match s.chunk? req.path with
  | some prior => do
    raiseIf (prior.sha256 ≠ req.digest ∨ prior.byteCount ≠ req.data.length)
      (conflictError "UPLOAD_PART_CONFLICT" "part metadata conflicts")
    raiseIf ((s.files req.path).map sha256Hex ≠ some req.digest)
      (validationError "UPLOAD_PART_INTEGRITY_FAILED" "existing multipart chunk bytes failed integrity verification")
    return some (req.receipt true)
  | none => do
    raiseIf (∃ data ∈ s.files req.path, sha256Hex data ≠ req.digest)
      (conflictError "UPLOAD_PART_CONFLICT" "part number already exists with different bytes")
    return none

def putPart (newUuid : String) (s : UploadState) (req : PutPartRequest) : UploadState × Except Raised PartReceipt :=
  match checkPart s req with
  | .error e => (s, .error e)
  | .ok (some receipt) => (s, .ok receipt)
  | .ok none =>
    let written := s.writeFile req.path req.data
    -- the file stays if the row cannot be inserted
    match written.chunks.insert? (req.chunk newUuid) with
    | none => (written, .error (.integrityError "multipart_chunks.chunk_id"))
    | some chunks => ({ written with chunks }, .ok (req.receipt false))

/-- `list(range(1, count + 1))` -/
def numbersFromOne (count : Nat) : List Int := (List.range count).map fun i : Nat => (i : Int) + 1

/-- The first transaction of a completion: the upload and its parts, numbered from one without a gap. -/
def readParts (s : UploadState) (req : CompleteRequest) : Except Raised (MultipartUploadRow × List MultipartChunkRow) := do
  let upload ← s.scopedUpload req.uploadId req.tenantId req.projectId
  raiseIf (upload.state ≠ .open) (conflictError "UPLOAD_NOT_OPEN" "multipart upload is not open")
  let chunks := s.parts req.uploadId
  raiseIf (chunks = []) (validationError "UPLOAD_EMPTY" "multipart upload has no chunks")
  raiseIf (chunks.map (fun chunk => chunk.partNumber) ≠ numbersFromOne chunks.length)
    (validationError "UPLOAD_PART_GAP" "multipart parts must be contiguous starting at one")
  return (upload, chunks)

/-- `Path(chunk.path).read_bytes()` -/
def readChunk (s : UploadState) (chunk : MultipartChunkRow) : Except Raised Bytes :=
  orRaise (s.files chunk.path) (.fileNotFoundError chunk.path.uploadId)

/-- The bytes of the parts, joined and compared with what was declared. -/
def assemble (s : UploadState) (upload : MultipartUploadRow) (chunks : List MultipartChunkRow) : Except Raised Bytes := do
  let pieces ← chunks.mapM (readChunk s)
  raiseIf ((pieces.flatten.length : Int) ≠ upload.expectedBytes ∨ sha256Hex pieces.flatten ≠ upload.expectedSha256)
    (validationError "UPLOAD_FINAL_INTEGRITY_FAILED" "multipart payload does not match expected size and hash")
  return pieces.flatten

/-- What a completion hands to the ingest. -/
def prepareIngest (s : UploadState) (req : CompleteRequest) : Except Raised IngestRequest := do
  let (upload, chunks) ← readParts s req
  let data ← assemble s upload chunks
  return upload.ingestRequest req data

/-- The last transaction of a completion. -/
def markCompleted (s : UploadState) (uploadId : String) (now : Nat) : Except Raised UploadState := do
  let upload ← orRaise (s.uploads.get? uploadId) .assertionError
  return { s with uploads := s.uploads.set { upload with state := .completed, completedAt := some now } }

def completeMultipart (svc : AuditService) (draw : IngestDraw) (now : Nat) (s : UploadState) (req : CompleteRequest) :
    UploadState × Except Raised AssetReference :=
  match prepareIngest s req with
  | .error e => (s, .error e)
  | .ok ingest =>
    let ingested : UploadState := { s with service := (ingestBytes svc draw s.service ingest).1 }
    match (ingestBytes svc draw s.service ingest).2 with
    | .error e => (ingested, .error e)
    | .ok reference => match markCompleted ingested req.uploadId now with
      | .error e => (ingested, .error e)
      | .ok marked => (marked.removeDirectory req.uploadId, .ok reference)

def verifyChunk (s : UploadState) (chunk : MultipartChunkRow) : Except Raised VerifiedPart := do
  let data ← orRaise (s.files chunk.path)
    (conflictError "UPLOAD_PART_BYTES_MISSING" "persisted multipart metadata references missing chunk bytes"
      [("part_number", .int chunk.partNumber)])
  raiseIf (sha256Hex data ≠ chunk.sha256 ∨ data.length ≠ chunk.byteCount)
    (validationError "UPLOAD_PART_INTEGRITY_FAILED" "persisted multipart chunk failed resume integrity verification"
      [("part_number", .int chunk.partNumber)])
  return ⟨chunk.partNumber, chunk.sha256, chunk.byteCount⟩

def nextPartNumber (verifiedParts : List VerifiedPart) : Int :=
  match verifiedParts.getLast? with
  | some last => last.partNumber + 1
  | none => 1

def multipartStatus (s : UploadState) (uploadId tenantId : String) (projectId : Option String) :
    Except Raised MultipartReport := do
  let upload ← s.scopedUpload uploadId tenantId projectId
  let verifiedParts ← (s.parts uploadId).mapM (verifyChunk s)
  return {
    uploadId := upload.uploadId, tenantId := upload.tenantId, projectId := upload.projectId, state := upload.state,
    expectedSha256 := upload.expectedSha256, expectedBytes := upload.expectedBytes, mediaType := upload.mediaType,
    verifiedParts, verifiedBytes := (verifiedParts.map fun part => part.bytes).sum,
    nextPartNumber := nextPartNumber verifiedParts }

/-- A call on the uploads, or anything else the service does: the rest of it touches no upload. -/
inductive UploadAction where
  | beginUpload (deployment : Option UploadDeployment) (newUuid : String) (req : BeginRequest)
  | putPart (newUuid : String) (req : PutPartRequest)
  | complete (draw : IngestDraw) (now : Nat) (req : CompleteRequest)
  | other (service : AssetState)

def uploadStep (svc : AuditService) (s : UploadState) : UploadAction → UploadState
  | .beginUpload deployment newUuid req => (beginMultipart deployment newUuid s req).1
  | .putPart newUuid req => (putPart newUuid s req).1
  | .complete draw now req => (completeMultipart svc draw now s req).1
  | .other service => { s with service }

def noUploads (service : AssetState) : UploadState :=
  ⟨service, .empty, .empty, fun _ => false, fun _ => none⟩

section Effects
variable {svc : AuditService} {s s' : UploadState} {uploadId : String} {upload : MultipartUploadRow}

theorem scopedUpload_eq_ok {tenantId : String} {projectId : Option String} :
    s.scopedUpload uploadId tenantId projectId = .ok upload ↔
      s.uploads.get? uploadId = some upload ∧ upload.InScope tenantId projectId := by
  simp only [UploadState.scopedUpload, orRaise_eq_ok, Option.filter_eq_some_iff, decide_eq_true_eq]

/-- What `begin_multipart` can do to the uploads. -/
theorem beginMultipart_effect (deployment : Option UploadDeployment) (newUuid : String) (s : UploadState)
    (req : BeginRequest) : (beginMultipart deployment newUuid s req).1.chunks = s.chunks ∧
      (beginMultipart deployment newUuid s req).1.files = s.files ∧
      ((beginMultipart deployment newUuid s req).1.uploads = s.uploads ∨
        s.uploads.insert? (req.row newUuid) = some (beginMultipart deployment newUuid s req).1.uploads) := by
  unfold beginMultipart
  cases req.check with
  | error e => exact ⟨rfl, rfl, Or.inl rfl⟩
  | ok _ =>
    have hadmitted : (authorizeUpload deployment s req).1.chunks = s.chunks ∧
        (authorizeUpload deployment s req).1.files = s.files ∧ (authorizeUpload deployment s req).1.uploads = s.uploads := by
      cases deployment <;> exact ⟨rfl, rfl, rfl⟩
    generalize authorizeUpload deployment s req = asked at hadmitted ⊢
    obtain ⟨admitted, outcome⟩ := asked
    obtain ⟨hchunks, hfiles, huploads⟩ := hadmitted
    cases outcome with
    | error e => exact ⟨hchunks, hfiles, Or.inl huploads⟩
    | ok _ =>
      dsimp only
      cases hrecord : recordUpload admitted newUuid req with
      | error e => exact ⟨hchunks, hfiles, Or.inl huploads⟩
      | ok recorded =>
        simp only [recordUpload, bind_eq_ok, orRaise_eq_ok] at hrecord
        obtain ⟨_, _, uploads, hinsert, hrecord⟩ := hrecord
        cases hrecord
        rw [huploads] at hinsert
        dsimp only
        split
        · exact ⟨hchunks, hfiles, Or.inr hinsert⟩
        · exact ⟨hchunks, hfiles, Or.inr hinsert⟩

/-- What a part that has to be written has passed. -/
theorem checkPart_write {req : PutPartRequest} (h : checkPart s req = .ok none) :
    1 ≤ req.partNumber ∧ req.digest = req.expectedSha256 ∧ s.chunk? req.path = none ∧
      ∃ upload, s.uploads.get? req.uploadId = some upload ∧ upload.state = .open := by
  simp only [checkPart, bind_eq_ok, raiseIf_eq_ok, not_lt, not_not] at h
  obtain ⟨_, hnumber, _, hdigest, _, _, upload, hupload, _, hstate, h⟩ := h
  refine ⟨hnumber, hdigest, ?_, upload, (scopedUpload_eq_ok.mp hupload).1, hstate⟩
  cases hprior : s.chunk? req.path with
  | none => rfl
  | some prior =>
    simp only [hprior, bind_eq_ok] at h
    obtain ⟨_, _, _, _, h⟩ := h
    cases h

theorem checkPart_some {req : PutPartRequest} {receipt : PartReceipt} (h : checkPart s req = .ok (some receipt)) :
    receipt = req.receipt true := by
  simp only [checkPart, bind_eq_ok] at h
  obtain ⟨_, _, _, _, _, _, upload, _, _, _, h⟩ := h
  cases hprior : s.chunk? req.path with
  | none =>
    simp only [hprior, bind_eq_ok] at h
    obtain ⟨_, _, h⟩ := h
    cases h
  | some prior =>
    simp only [hprior, bind_eq_ok] at h
    obtain ⟨_, _, _, _, h⟩ := h
    cases h
    rfl

/-- What `put_part` can do: nothing, or write the file of a part that had no row, with or without the row. -/
theorem putPart_effect (newUuid : String) (s : UploadState) (req : PutPartRequest) :
    ((putPart newUuid s req).1 = s ∧ (putPart newUuid s req).2 ≠ .ok (req.receipt false)) ∨
    (checkPart s req = .ok none ∧ (putPart newUuid s req).1 = s.writeFile req.path req.data ∧
      ∃ e, (putPart newUuid s req).2 = .error e) ∨
    (checkPart s req = .ok none ∧ ∃ chunks, s.chunks.insert? (req.chunk newUuid) = some chunks ∧
      (putPart newUuid s req).1 = { s.writeFile req.path req.data with chunks } ∧
      (putPart newUuid s req).2 = .ok (req.receipt false)) := by
  unfold putPart
  cases hcheck : checkPart s req with
  | error e => exact Or.inl ⟨rfl, nofun⟩
  | ok found =>
    cases found with
    | some receipt =>
      refine Or.inl ⟨rfl, ?_⟩
      rw [checkPart_some hcheck]
      nofun
    | none =>
      dsimp only
      cases hinsert : (s.writeFile req.path req.data).chunks.insert? (req.chunk newUuid) with
      | none => exact Or.inr (Or.inl ⟨rfl, rfl, _, rfl⟩)
      | some chunks => exact Or.inr (Or.inr ⟨rfl, chunks, hinsert, rfl, rfl⟩)

theorem readParts_eq_ok {req : CompleteRequest} {chunks : List MultipartChunkRow} :
    readParts s req = .ok (upload, chunks) ↔
      s.uploads.get? req.uploadId = some upload ∧ upload.InScope req.tenantId req.projectId ∧ upload.state = .open ∧
      chunks = s.parts req.uploadId ∧ chunks ≠ [] ∧
      chunks.map (fun chunk => chunk.partNumber) = numbersFromOne chunks.length := by
  simp only [readParts, bind_eq_ok, raiseIf_eq_ok, not_not, scopedUpload_eq_ok]
  constructor
  · rintro ⟨found, ⟨hfound, hscope⟩, _, hstate, _, hne, _, hnumbers, h⟩
    cases h
    exact ⟨hfound, hscope, hstate, rfl, hne, hnumbers⟩
  · rintro ⟨hfound, hscope, hstate, rfl, hne, hnumbers⟩
    exact ⟨upload, ⟨hfound, hscope⟩, (), hstate, (), hne, (), hnumbers, rfl⟩

theorem markCompleted_eq_ok {now : Nat} : markCompleted s uploadId now = .ok s' ↔
    ∃ upload, s.uploads.get? uploadId = some upload ∧
      s' = { s with uploads := s.uploads.set { upload with state := .completed, completedAt := some now } } := by
  simp only [markCompleted, bind_eq_ok, orRaise_eq_ok]
  constructor
  · rintro ⟨upload, hupload, h⟩
    cases h
    exact ⟨upload, hupload, rfl⟩
  · rintro ⟨upload, hupload, rfl⟩
    exact ⟨upload, hupload, rfl⟩

/-- What `complete_multipart` can do to the uploads: nothing, or complete an upload that has parts. -/
theorem completeMultipart_effect (draw : IngestDraw) (now : Nat) (s : UploadState) (req : CompleteRequest) :
    (∃ service, (completeMultipart svc draw now s req).1 = { s with service }) ∨
    (∃ service upload, s.uploads.get? req.uploadId = some upload ∧ s.parts req.uploadId ≠ [] ∧
      (completeMultipart svc draw now s req).1 = UploadState.removeDirectory { s with
        service, uploads := s.uploads.set { upload with state := .completed, completedAt := some now } } req.uploadId) := by
  unfold completeMultipart
  cases hprepare : prepareIngest s req with
  | error e => exact Or.inl ⟨s.service, rfl⟩
  | ok ingest =>
    dsimp only
    cases (ingestBytes svc draw s.service ingest).2 with
    | error e => exact Or.inl ⟨_, rfl⟩
    | ok reference =>
      dsimp only
      cases hmark : markCompleted { s with service := (ingestBytes svc draw s.service ingest).1 } req.uploadId now with
      | error e => exact Or.inl ⟨_, rfl⟩
      | ok marked =>
        obtain ⟨upload, hupload, rfl⟩ := markCompleted_eq_ok.mp hmark
        simp only [prepareIngest, bind_eq_ok] at hprepare
        obtain ⟨⟨found, chunks⟩, hread, _⟩ := hprepare
        obtain ⟨_, _, _, rfl, hne, _⟩ := readParts_eq_ok.mp hread
        exact Or.inr ⟨_, upload, hupload, hne, rfl⟩

end Effects

section Consistency

/-- The rows of the parts are in step with their files. -/
structure Consistent (s : UploadState) : Prop where
  unique : (s.chunks.rows.map fun chunk => chunk.path).Nodup
  located : ∀ chunk ∈ s.chunks.rows, chunk.path = ⟨chunk.uploadId, chunk.partNumber⟩ ∧ 1 ≤ chunk.partNumber
  owned : ∀ chunk ∈ s.chunks.rows, ∃ upload, s.uploads.get? chunk.uploadId = some upload
  stored : ∀ chunk ∈ s.chunks.rows, ∀ upload, s.uploads.get? chunk.uploadId = some upload → upload.state = .open →
    ∃ data, s.files chunk.path = some data ∧ sha256Hex data = chunk.sha256 ∧ data.length = chunk.byteCount
  cleared : ∀ uploadId upload, s.uploads.get? uploadId = some upload → upload.state = .completed →
    s.parts uploadId ≠ [] ∧ ∀ number, s.files ⟨uploadId, number⟩ = none

variable {svc : AuditService} {s : UploadState}

theorem mem_parts {uploadId : String} {chunk : MultipartChunkRow} :
    chunk ∈ s.parts uploadId ↔ chunk ∈ s.chunks.rows ∧ chunk.uploadId = uploadId := by
  rw [UploadState.parts, mem_sortBy, List.mem_filter, decide_eq_true_eq]

/-- A part with the number has been taken for the upload. -/
def Accepted (s : UploadState) (uploadId : String) (number : Int) : Prop :=
  ∃ chunk ∈ s.chunks.rows, chunk.uploadId = uploadId ∧ chunk.partNumber = number

theorem accepted_iff_mem_parts {uploadId : String} {number : Int} :
    Accepted s uploadId number ↔ ∃ chunk ∈ s.parts uploadId, chunk.partNumber = number := by
  simp only [Accepted, mem_parts, and_assoc]

theorem one_le_of_accepted (h : Consistent s) {uploadId : String} {number : Int} (haccepted : Accepted s uploadId number) : 1 ≤ number := by
  obtain ⟨chunk, hchunk, _, rfl⟩ := haccepted
  exact (h.located chunk hchunk).2

theorem consistent_noUploads (service : AssetState) : Consistent (noUploads service) where
  unique := List.nodup_nil
  located _ h := absurd h List.not_mem_nil
  owned _ h := absurd h List.not_mem_nil
  stored _ h := absurd h List.not_mem_nil
  cleared _ _ h := nomatch h

theorem Consistent.congr {s' : UploadState} (h : Consistent s) (huploads : s'.uploads = s.uploads)
    (hchunks : s'.chunks = s.chunks) (hfiles : s'.files = s.files) : Consistent s' := by
  have hparts : s'.parts = s.parts := by
    funext uploadId
    simp only [UploadState.parts, hchunks]
  obtain ⟨hunique, hlocated, howned, hstored, hcleared⟩ := h
  constructor
  · rwa [hchunks]
  · rwa [hchunks]
  · rwa [hchunks, huploads]
  · rwa [hchunks, huploads, hfiles]
  · rwa [hparts, huploads, hfiles]

/-- A new upload has no parts yet: a part belongs to an upload that is there. -/
theorem Consistent.insertUpload {s' : UploadState} {row : MultipartUploadRow} (h : Consistent s)
    (hinsert : s.uploads.insert? row = some s'.uploads) (hopen : row.state = .open) (hchunks : s'.chunks = s.chunks)
    (hfiles : s'.files = s.files) : Consistent s' := by
  have hfresh := (Table.insert?_eq_some hinsert).1
  have hget := Table.get?_insert hinsert
  have hold : ∀ chunk ∈ s.chunks.rows, s'.uploads.get? chunk.uploadId = s.uploads.get? chunk.uploadId := by
    intro chunk hchunk
    rw [hget, if_neg]
    intro heq
    obtain ⟨upload, hupload⟩ := h.owned chunk hchunk
    rw [heq, hfresh] at hupload
    cases hupload
  have hparts : s'.parts = s.parts := by
    funext uploadId
    simp only [UploadState.parts, hchunks]
  constructor
  · rw [hchunks]
    exact h.unique
  · rw [hchunks]
    exact h.located
  · rw [hchunks]
    intro chunk hchunk
    rw [hold chunk hchunk]
    exact h.owned chunk hchunk
  · rw [hchunks, hfiles]
    intro chunk hchunk
    rw [hold chunk hchunk]
    exact h.stored chunk hchunk
  · rw [hparts, hfiles]
    intro uploadId upload hupload hstate
    rw [hget] at hupload
    split at hupload
    · cases hupload
      rw [hopen] at hstate
      cases hstate
    · exact h.cleared uploadId upload hupload hstate

theorem chunk?_eq_none_iff {path : PartPath} : s.chunk? path = none ↔
    ∀ chunk ∈ s.chunks.rows, ¬ (chunk.uploadId = path.uploadId ∧ chunk.partNumber = path.partNumber) := by
  simp only [UploadState.chunk?, List.find?_eq_none, decide_eq_true_eq]

theorem chunk?_eq_none_iff_not_accepted {path : PartPath} :
    s.chunk? path = none ↔ ¬ Accepted s path.uploadId path.partNumber := by
  rw [chunk?_eq_none_iff]
  constructor
  · rintro h ⟨chunk, hchunk, hpath⟩
    exact h chunk hchunk hpath
  · intro h chunk hchunk hpath
    exact h ⟨chunk, hchunk, hpath⟩

/-- Writing the file of a part without a row disturbs no part, and completed uploads take no parts. -/
theorem Consistent.writeFile (h : Consistent s) {req : PutPartRequest} (hcheck : checkPart s req = .ok none) :
    Consistent (s.writeFile req.path req.data) := by
  obtain ⟨_, _, hprior, upload, hupload, hopen⟩ := checkPart_write hcheck
  refine ⟨h.unique, h.located, h.owned, ?_, ?_⟩
  · intro chunk hchunk found hfound hstate
    have hne : chunk.path ≠ req.path := by
      intro heq
      rw [(h.located chunk hchunk).1] at heq
      exact chunk?_eq_none_iff.mp hprior chunk hchunk ⟨congrArg PartPath.uploadId heq, congrArg PartPath.partNumber heq⟩
    rw [UploadState.files_writeFile_of_ne hne]
    exact h.stored chunk hchunk found hfound hstate
  · intro uploadId found hfound hstate
    refine ⟨(h.cleared uploadId found hfound hstate).1, ?_⟩
    intro number
    have hne : (⟨uploadId, number⟩ : PartPath) ≠ req.path := by
      intro heq
      have hid : uploadId = req.uploadId := congrArg PartPath.uploadId heq
      rw [hid] at hfound
      cases hupload.symm.trans hfound
      rw [hopen] at hstate
      cases hstate
    rw [UploadState.files_writeFile_of_ne hne]
    exact (h.cleared uploadId found hfound hstate).2 number

theorem Consistent.insertChunk {newUuid : String} {req : PutPartRequest} (h : Consistent s)
    (hcheck : checkPart s req = .ok none) {chunks : Table MultipartChunkRow (fun row => row.chunkId)}
    (hinsert : s.chunks.insert? (req.chunk newUuid) = some chunks) :
    Consistent { s.writeFile req.path req.data with chunks } := by
  have hwritten := h.writeFile hcheck
  obtain ⟨hnumber, _, hprior, upload, hupload, hopen⟩ := checkPart_write hcheck
  have hrows : chunks.rows = s.chunks.rows ++ [req.chunk newUuid] := (Table.insert?_eq_some hinsert).2
  have hmem : ∀ {chunk}, chunk ∈ chunks.rows → chunk ∈ s.chunks.rows ∨ chunk = req.chunk newUuid := by
    intro chunk hchunk
    rw [hrows, List.mem_append, List.mem_singleton] at hchunk
    exact hchunk
  constructor
  · show (chunks.rows.map fun chunk => chunk.path).Nodup
    rw [hrows, List.map_append, List.nodup_append]
    refine ⟨h.unique, List.nodup_singleton _, ?_⟩
    intro path hpath path' hpath' heq
    obtain ⟨chunk, hchunk, rfl⟩ := List.mem_map.mp hpath
    rw [List.map_singleton, List.mem_singleton] at hpath'
    rw [hpath', (h.located chunk hchunk).1] at heq
    exact chunk?_eq_none_iff.mp hprior chunk hchunk ⟨congrArg PartPath.uploadId heq, congrArg PartPath.partNumber heq⟩
  · intro chunk hchunk
    rcases hmem hchunk with hchunk | rfl
    · exact h.located chunk hchunk
    · exact ⟨rfl, hnumber⟩
  · intro chunk hchunk
    rcases hmem hchunk with hchunk | rfl
    · exact h.owned chunk hchunk
    · exact ⟨upload, hupload⟩
  · intro chunk hchunk found hfound hstate
    rcases hmem hchunk with hchunk | rfl
    · exact hwritten.stored chunk hchunk found hfound hstate
    · exact ⟨req.data, Function.update_self _ _ _, rfl, rfl⟩
  · intro uploadId found hfound hstate
    refine ⟨?_, (hwritten.cleared uploadId found hfound hstate).2⟩
    obtain ⟨chunk, hchunk⟩ := List.exists_mem_of_ne_nil _ (h.cleared uploadId found hfound hstate).1
    obtain ⟨hchunk, hid⟩ := mem_parts.mp hchunk
    apply List.ne_nil_of_mem (a := chunk)
    apply mem_parts.mpr
    refine ⟨?_, hid⟩
    show chunk ∈ chunks.rows
    rw [hrows]
    exact List.mem_append_left _ hchunk

theorem get?_set_completed {uploadId : String} {upload : MultipartUploadRow} (hupload : s.uploads.get? uploadId = some upload)
    (now : Nat) (id : String) : (s.uploads.set { upload with state := .completed, completedAt := some now }).get? id =
      if id = uploadId then some { upload with state := .completed, completedAt := some now } else s.uploads.get? id := by
  have hkey : upload.uploadId = uploadId := ((Table.get?_eq_some_iff _ _ _).mp hupload).2
  have hset := @Table.get?_set _ (fun row : MultipartUploadRow => row.uploadId) s.uploads
    { upload with state := .completed, completedAt := some now } upload (hkey ▸ hupload) id
  rw [hset]
  exact if_congr (by rw [← hkey]) rfl rfl

/-- A completion takes the files away and leaves the rows. -/
theorem Consistent.completed {service : AssetState} {uploadId : String} {upload : MultipartUploadRow} {now : Nat}
    (h : Consistent s) (hupload : s.uploads.get? uploadId = some upload) (hparts : s.parts uploadId ≠ []) :
    Consistent (UploadState.removeDirectory { s with
      service, uploads := s.uploads.set { upload with state := .completed, completedAt := some now } } uploadId) := by
  have hget := get?_set_completed hupload now
  refine ⟨h.unique, h.located, ?_, ?_, ?_⟩
  · intro chunk hchunk
    obtain ⟨found, hfound⟩ := h.owned chunk hchunk
    by_cases hid : chunk.uploadId = uploadId
    · exact ⟨_, (hget _).trans (if_pos hid)⟩
    · exact ⟨found, (hget _).trans ((if_neg hid).trans hfound)⟩
  · intro chunk hchunk found hfound hstate
    have hfound' := (hget _).symm.trans hfound
    split at hfound'
    · cases hfound'
      cases hstate
    · rename_i hid
      have hpath : chunk.path.uploadId = chunk.uploadId := by rw [(h.located chunk hchunk).1]
      obtain ⟨data, hdata, hrest⟩ := h.stored chunk hchunk found hfound' hstate
      refine ⟨data, ?_, hrest⟩
      exact (if_neg (hpath ▸ hid)).trans hdata
  · intro id found hfound hstate
    have hfound' := (hget _).symm.trans hfound
    by_cases hid : id = uploadId
    · exact ⟨hid ▸ hparts, fun number => if_pos hid⟩
    · rw [if_neg hid] at hfound'
      obtain ⟨hne, hnone⟩ := h.cleared id found hfound' hstate
      exact ⟨hne, fun number => (if_neg hid).trans (hnone number)⟩

theorem consistent_step (svc : AuditService) (s : UploadState) (action : UploadAction) (h : Consistent s) :
    Consistent (uploadStep svc s action) := by
  cases action with
  | beginUpload deployment newUuid req =>
    obtain ⟨hchunks, hfiles, huploads | hinsert⟩ := beginMultipart_effect deployment newUuid s req
    · exact h.congr huploads hchunks hfiles
    · exact h.insertUpload hinsert rfl hchunks hfiles
  | putPart newUuid req =>
    show Consistent (putPart newUuid s req).1
    rcases putPart_effect newUuid s req with ⟨heq, _⟩ | ⟨hcheck, heq, _⟩ | ⟨hcheck, chunks, hinsert, heq, _⟩
    · rwa [heq]
    · rw [heq]
      exact h.writeFile hcheck
    · rw [heq]
      exact h.insertChunk hcheck hinsert
  | complete draw now req =>
    show Consistent (completeMultipart svc draw now s req).1
    rcases @completeMultipart_effect svc draw now s req with ⟨service, heq⟩ | ⟨service, upload, hupload, hparts, heq⟩
    · rw [heq]
      exact h.congr rfl rfl rfl
    · rw [heq]
      exact h.completed hupload hparts
  | other service => exact h.congr rfl rfl rfl

theorem consistent_run (svc : AuditService) (service : AssetState) (actions : List UploadAction) :
    Consistent (run (uploadStep svc) (noUploads service) actions) :=
  run_invariant (consistent_step svc) (consistent_noUploads service) actions

end Consistency

end AssetService
end Sip
