import Mathlib.Order.Bounds.Basic
import Sip.Assets.Concurrency
import Sip.Assets.Multipart

/-!
# Resuming an upload

The report of an upload names the number after the last part as the next one. That is the
least number that is still missing exactly when the parts so far have no gap, and there is
a report at all only while the upload is open: a completion leaves the rows of the parts
and removes their files.
-/

namespace Sip
namespace AssetService

set_option autoImplicit false

/-- The parts taken for the upload are those from one to some number, which is less than one if there are none. -/
def Contiguous (s : UploadState) (uploadId : String) : Prop :=
  ∃ count : Int, ∀ number, Accepted s uploadId number ↔ 1 ≤ number ∧ number ≤ count

/-- The report is given and names the least positive number that has not been taken. -/
def ResumesAtLeast (s : UploadState) (uploadId tenantId : String) (projectId : Option String) : Prop :=
  ∃ report, multipartStatus s uploadId tenantId projectId = .ok report ∧
    IsLeast {number : Int | 0 < number ∧ ¬ Accepted s uploadId number} report.nextPartNumber

def verifiedPart (chunk : MultipartChunkRow) : VerifiedPart :=
  ⟨chunk.partNumber, chunk.sha256, chunk.byteCount⟩

/-- The number after the greatest of some positive numbers is the least one missing iff none below is missing. -/
theorem isLeast_missing_iff {P : Int → Prop} {next : Int} (hpos : ∀ n, P n → 1 ≤ n) (hlt : ∀ n, P n → n < next)
    (htop : next = 1 ∨ P (next - 1)) :
    IsLeast {n : Int | 0 < n ∧ ¬ P n} next ↔ ∃ count : Int, ∀ n, P n ↔ 1 ≤ n ∧ n ≤ count := by
  have hnext : 0 < next := by
    rcases htop with rfl | h
    · exact Int.one_pos
    · exact lt_of_lt_of_le Int.one_pos ((hpos _ h).trans (by omega))
  constructor
  · rintro ⟨_, hleast⟩
    refine ⟨next - 1, ?_⟩
    intro n
    constructor
    · intro h
      exact ⟨hpos n h, by have := hlt n h; omega⟩
    · rintro ⟨hone, hle⟩
      by_contra hmissing
      have hge : next ≤ n := hleast ⟨by omega, hmissing⟩
      omega
  · rintro ⟨count, hcount⟩
    refine ⟨⟨hnext, fun h => lt_irrefl _ (hlt next h)⟩, ?_⟩
    rintro n ⟨hn, hmissing⟩
    by_contra hlow
    rcases htop with h | h
    · omega
    · have htake := (hcount _).mp h
      exact hmissing ((hcount n).mpr ⟨by omega, by omega⟩)

section Parts
variable {s : UploadState} {uploadId : String}

theorem nextPartNumber_map (parts : List MultipartChunkRow) :
    nextPartNumber (parts.map verifiedPart) =
      match parts.getLast? with
      | some last => last.partNumber + 1
      | none => 1 := by
  rw [nextPartNumber, List.getLast?_map]
  cases parts.getLast? <;> rfl

/-- The last of the sorted parts has the greatest number. -/
theorem le_getLast_parts {last chunk : MultipartChunkRow} (hlast : (s.parts uploadId).getLast? = some last)
    (hchunk : chunk ∈ s.parts uploadId) : chunk.partNumber ≤ last.partNumber := by
  obtain ⟨front, hfront⟩ := List.getLast?_eq_some_iff.mp hlast
  have hsorted := pairwise_sortBy (fun chunk : MultipartChunkRow => chunk.partNumber)
    (s.chunks.rows.filter fun chunk => chunk.uploadId = uploadId)
  change (s.parts uploadId).Pairwise _ at hsorted
  rw [hfront] at hsorted hchunk
  rcases List.mem_append.mp hchunk with hchunk | hchunk
  · exact (List.pairwise_append.mp hsorted).2.2 chunk hchunk last (List.mem_singleton_self _)
  · rw [List.mem_singleton.mp hchunk]

theorem isLeast_nextPartNumber_iff (h : Consistent s) :
    IsLeast {number : Int | 0 < number ∧ ¬ Accepted s uploadId number}
      (nextPartNumber ((s.parts uploadId).map verifiedPart)) ↔ Contiguous s uploadId := by
  rw [nextPartNumber_map]
  apply isLeast_missing_iff fun number => one_le_of_accepted h
  · intro number haccepted
    obtain ⟨chunk, hchunk, rfl⟩ := accepted_iff_mem_parts.mp haccepted
    cases hlast : (s.parts uploadId).getLast? with
    | none =>
      rw [List.getLast?_eq_none_iff.mp hlast] at hchunk
      cases hchunk
    | some last => exact Int.lt_add_one_of_le (le_getLast_parts hlast hchunk)
  · cases hlast : (s.parts uploadId).getLast? with
    | none => exact Or.inl rfl
    | some last =>
      refine Or.inr (accepted_iff_mem_parts.mpr ⟨last, List.mem_of_getLast? hlast, ?_⟩)
      exact (Int.add_sub_cancel _ _).symm

end Parts

section Reports
variable {s : UploadState} {uploadId tenantId : String} {projectId : Option String} {upload : MultipartUploadRow}

theorem verifyChunk_eq_ok {chunk : MultipartChunkRow} {part : VerifiedPart} : verifyChunk s chunk = .ok part ↔
    (∃ data, s.files chunk.path = some data ∧ sha256Hex data = chunk.sha256 ∧ data.length = chunk.byteCount) ∧
      part = verifiedPart chunk := by
  simp only [verifyChunk, bind_eq_ok, orRaise_eq_ok, raiseIf_eq_ok, not_or, not_not]
  constructor
  · rintro ⟨data, hdata, _, hintact, hpart⟩
    cases hpart
    exact ⟨⟨data, hdata, hintact⟩, rfl⟩
  · rintro ⟨⟨data, hdata, hintact⟩, rfl⟩
    exact ⟨data, hdata, (), hintact, rfl⟩

/-- While the upload is open, every file is there and the report is given. -/
theorem multipartStatus_open (h : Consistent s) (hupload : s.uploads.get? uploadId = some upload)
    (hscope : upload.InScope tenantId projectId) (hopen : upload.state = .open) :
    ∃ report, multipartStatus s uploadId tenantId projectId = .ok report ∧
      report.nextPartNumber = nextPartNumber ((s.parts uploadId).map verifiedPart) := by
  have hverified : (s.parts uploadId).mapM (verifyChunk s) =
      .ok ((s.parts uploadId).map verifiedPart) := by
    apply mapM_eq_ok_of_forall
    intro chunk hchunk
    obtain ⟨hrow, hid⟩ := mem_parts.mp hchunk
    exact verifyChunk_eq_ok.mpr ⟨h.stored chunk hrow upload (hid ▸ hupload) hopen, rfl⟩
  simp only [multipartStatus, bind_eq_ok, scopedUpload_eq_ok, hverified]
  exact ⟨_, ⟨upload, ⟨hupload, hscope⟩, _, rfl, rfl⟩, rfl⟩

/-- After the completion the first part has no file, and no report is given. -/
theorem multipartStatus_completed (h : Consistent s) (hupload : s.uploads.get? uploadId = some upload)
    (hcompleted : upload.state = .completed) {report : MultipartReport} :
    multipartStatus s uploadId tenantId projectId ≠ .ok report := by
  intro hreport
  simp only [multipartStatus, bind_eq_ok] at hreport
  obtain ⟨_, _, verified, hverified, _⟩ := hreport
  obtain ⟨hparts, hnone⟩ := h.cleared uploadId upload hupload hcompleted
  obtain ⟨chunk, hchunk⟩ := List.exists_mem_of_ne_nil _ hparts
  obtain ⟨part, hpart⟩ := mapM_eq_ok_mem hverified hchunk
  obtain ⟨⟨data, hdata, _⟩, _⟩ := verifyChunk_eq_ok.mp hpart
  obtain ⟨hrow, hid⟩ := mem_parts.mp hchunk
  rw [(h.located chunk hrow).1, hid, hnone] at hdata
  cases hdata

theorem resumesAtLeast_iff (h : Consistent s) (hupload : s.uploads.get? uploadId = some upload)
    (hscope : upload.InScope tenantId projectId) :
    ResumesAtLeast s uploadId tenantId projectId ↔ upload.state = .open ∧ Contiguous s uploadId := by
  cases hstate : upload.state with
  | «open» =>
    obtain ⟨report, hreport, hnext⟩ := multipartStatus_open h hupload hscope hstate
    constructor
    · rintro ⟨found, hfound, hleast⟩
      cases hreport.symm.trans hfound
      exact ⟨rfl, (isLeast_nextPartNumber_iff h).mp (hnext ▸ hleast)⟩
    · rintro ⟨_, hcontiguous⟩
      exact ⟨report, hreport, hnext ▸ (isLeast_nextPartNumber_iff h).mpr hcontiguous⟩
  | completed =>
    apply iff_of_false
    · rintro ⟨report, hreport, _⟩
      exact multipartStatus_completed h hupload hstate hreport
    · rintro ⟨hopen, _⟩
      cases hopen

end Reports

/-- In every state that the calls reach, an upload is reported to its tenant with the least missing number as the
next one exactly when it is open and its parts have no gap. -/
theorem status_resumes_iff_contiguous (svc : AuditService) (service : AssetState) (actions : List UploadAction)
    (uploadId : String) (upload : MultipartUploadRow) (projectId : Option String)
    (hupload : (run (uploadStep svc) (noUploads service) actions).uploads.get? uploadId = some upload)
    (hproject : ∀ id ∈ projectId, upload.projectId = id) :
    ResumesAtLeast (run (uploadStep svc) (noUploads service) actions) uploadId upload.tenantId projectId ↔
      upload.state = .open ∧ Contiguous (run (uploadStep svc) (noUploads service) actions) uploadId :=
  resumesAtLeast_iff (consistent_run svc service actions) hupload ⟨rfl, hproject⟩

section Sample

/-- An upload of an empty file. -/
def emptyUpload : BeginRequest where
  tenantId := "t"
  projectId := "p"
  expectedSha256 := sha256Hex []
  expectedBytes := 0
  mediaType := "text/plain"
  metadata := []
  actorId := "ana"

def emptyPart (number : Int) : PutPartRequest := ⟨"u", number, [], sha256Hex [], "t", none⟩

def begun : UploadState where
  service := stored
  uploads := ⟨[emptyUpload.row "u"], List.nodup_singleton _⟩
  chunks := .empty
  directories := Function.update (fun _ => false) "u" true
  files _ := none

/-- The upload with one part. -/
def withPart (number : Int) : UploadState :=
  { begun.writeFile (emptyPart number).path [] with chunks := ⟨[(emptyPart number).chunk "c"], List.nodup_singleton _⟩ }

def partOnly (number : Int) : List UploadAction := [.beginUpload none "u" emptyUpload, .putPart "c" (emptyPart number)]

theorem beginMultipart_empty : beginMultipart none "u" (noUploads stored) emptyUpload = (begun, .ok "u") := by
  have hcheck : emptyUpload.check = .ok () := by
    simp only [BeginRequest.check, bind_eq_ok, raiseIf_eq_ok]
    refine ⟨(), by decide, ?_⟩
    show ¬ isDigest (sha256Hex []) = false
    rw [isDigest_sha256Hex]
    decide
  have hrecord : recordUpload (noUploads stored) "u" emptyUpload =
      .ok { noUploads stored with uploads := begun.uploads } := rfl
  simp only [beginMultipart, hcheck, authorizeUpload, hrecord]
  rfl

theorem putPart_empty {number : Int} (h : 1 ≤ number) :
    (putPart "c" begun (emptyPart number)).1 = withPart number := by
  have hcheck : checkPart begun (emptyPart number) = .ok none := by
    have hupload : begun.scopedUpload "u" "t" none = .ok (emptyUpload.row "u") :=
      scopedUpload_eq_ok.mpr ⟨rfl, rfl, fun _ h => nomatch h⟩
    have hfiles : ¬ ∃ data ∈ begun.files (emptyPart number).path, sha256Hex data ≠ (emptyPart number).digest := by
      rintro ⟨_, hdata, _⟩
      cases hdata
    have hprior : begun.chunk? (emptyPart number).path = none := rfl
    simp only [checkPart, bind_eq_ok, raiseIf_eq_ok, not_lt, not_not, hprior]
    have hdirectory : begun.directories (emptyPart number).uploadId = true := rfl
    rw [hdirectory]
    exact ⟨(), h, (), rfl, (), Bool.noConfusion, _, hupload, (), rfl, (), hfiles, rfl⟩
  rw [putPart, hcheck]
  rfl

theorem run_partOnly {number : Int} (h : 1 ≤ number) :
    run (uploadStep .zeroKey) (noUploads stored) (partOnly number) = withPart number := by
  rw [partOnly, run_cons, run_cons, run_nil, uploadStep, uploadStep, beginMultipart_empty, putPart_empty h]

theorem accepted_withPart {number n : Int} : Accepted (withPart number) "u" n ↔ n = number := by
  constructor
  · rintro ⟨chunk, hchunk, _, rfl⟩
    rw [List.mem_singleton.mp hchunk]
    rfl
  · rintro rfl
    exact ⟨_, List.mem_singleton_self _, rfl, rfl⟩

/-- The second part is the first to arrive: the report names the third, and the first is missing. -/
theorem status_skips_missing_part :
    (∃ report, multipartStatus (run (uploadStep .zeroKey) (noUploads stored) (partOnly 2)) "u" "t" none = .ok report ∧
      report.nextPartNumber = 3) ∧
    ¬ Accepted (run (uploadStep .zeroKey) (noUploads stored) (partOnly 2)) "u" 1 ∧
    ¬ ResumesAtLeast (run (uploadStep .zeroKey) (noUploads stored) (partOnly 2)) "u" "t" none := by
  have hconsistent := consistent_run .zeroKey stored (partOnly 2)
  rw [run_partOnly (by decide)] at hconsistent ⊢
  have hscope : (emptyUpload.row "u").InScope "t" none := ⟨rfl, fun _ h => nomatch h⟩
  have hmissing : ¬ Accepted (withPart 2) "u" 1 := by
    rw [accepted_withPart]
    decide
  obtain ⟨report, hreport, hnext⟩ := @multipartStatus_open _ "u" "t" none (emptyUpload.row "u") hconsistent rfl hscope rfl
  have hthree : report.nextPartNumber = 3 := hnext
  refine ⟨⟨report, hreport, hthree⟩, hmissing, ?_⟩
  rintro ⟨found, hfound, hleast⟩
  cases hreport.symm.trans hfound
  have hle : report.nextPartNumber ≤ 1 := hleast.2 ⟨by decide, hmissing⟩
  rw [hthree] at hle
  exact absurd hle (by decide)

theorem status_resumes_partOnly :
    ResumesAtLeast (run (uploadStep .zeroKey) (noUploads stored) (partOnly 1)) "u" "t" none := by
  have hrun := @run_partOnly 1 (by decide)
  have hupload : (run (uploadStep .zeroKey) (noUploads stored) (partOnly 1)).uploads.get? "u" =
      some (emptyUpload.row "u") := by
    rw [hrun]
    rfl
  apply (status_resumes_iff_contiguous .zeroKey stored (partOnly 1) "u" (emptyUpload.row "u") none hupload
    (fun _ h => nomatch h)).mpr
  refine ⟨rfl, 1, ?_⟩
  intro n
  rw [hrun, accepted_withPart]
  omega

end Sample

end AssetService
end Sip
