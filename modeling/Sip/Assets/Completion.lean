import Sip.Assets.ResumeStatus

/-!
# Completing an upload

A part is taken by the call that writes its row; later calls for it change nothing. A
completion of an open upload goes through exactly when the parts taken so far are
numbered from one without a gap, their bytes joined in that order are what was declared,
and the ingest accepts these bytes.
-/

namespace Sip
namespace AssetService

set_option autoImplicit false

def uploadsAfter (svc : AuditService) (service : AssetState) (actions : List UploadAction) : UploadState :=
  run (uploadStep svc) (noUploads service) actions

/-- The action is a call that takes the bytes for the part. -/
def Takes (s : UploadState) (action : UploadAction) (path : PartPath) (data : Bytes) : Prop :=
  ∃ newUuid req, action = .putPart newUuid req ∧ req.path = path ∧ req.data = data ∧
    (putPart newUuid s req).2 = .ok (req.receipt false)

/-- One of the actions has taken the bytes for the part. -/
def Took (svc : AuditService) (service : AssetState) (actions : List UploadAction) (path : PartPath) (data : Bytes) : Prop :=
  ∃ before action rest, actions = before ++ action :: rest ∧ Takes (uploadsAfter svc service before) action path data

/-- The parts taken for the upload are these, numbered from one. -/
def AcceptedParts (took : PartPath → Bytes → Prop) (uploadId : String) (pieces : List Bytes) : Prop :=
  ∀ number data, took ⟨uploadId, number⟩ data ↔ ∃ i : Nat, number = i + 1 ∧ pieces[i]? = some data

/-- The parts of the upload can be joined to what was declared. -/
structure Completable (took : PartPath → Bytes → Prop) (upload : MultipartUploadRow) (uploadId : String)
    (pieces : List Bytes) : Prop where
  nonempty : pieces ≠ []
  parts : AcceptedParts took uploadId pieces
  length : (pieces.flatten.length : Int) = upload.expectedBytes
  digest : sha256Hex pieces.flatten = upload.expectedSha256

/-- The uploads, the rows of their parts and the files of these are the same. -/
structure SameParts (s s' : UploadState) : Prop where
  uploads : s'.uploads = s.uploads
  chunks : s'.chunks = s.chunks
  files : ∀ chunk ∈ s.chunks.rows, s'.files chunk.path = s.files chunk.path

theorem SameParts.refl (s : UploadState) : SameParts s s := ⟨rfl, rfl, fun _ _ => rfl⟩

section Histories
variable {svc : AuditService} {service : AssetState} {s : UploadState}

theorem uploadsAfter_concat (actions : List UploadAction) (action : UploadAction) :
    uploadsAfter svc service (actions ++ [action]) = uploadStep svc (uploadsAfter svc service actions) action := by
  rw [uploadsAfter, run_append]
  rfl

theorem took_concat {actions : List UploadAction} {action : UploadAction} {path : PartPath} {data : Bytes} :
    Took svc service (actions ++ [action]) path data ↔
      Took svc service actions path data ∨ Takes (uploadsAfter svc service actions) action path data := by
  constructor
  · rintro ⟨before, taken, rest, hsplit, htakes⟩
    rcases List.eq_nil_or_concat rest with rfl | ⟨rest, last, rfl⟩
    · obtain ⟨rfl, htaken⟩ := List.append_inj' hsplit rfl
      cases htaken
      exact Or.inr htakes
    · rw [List.concat_eq_append, ← List.cons_append, ← List.append_assoc] at hsplit
      exact Or.inl ⟨before, taken, rest, (List.append_inj' hsplit rfl).1, htakes⟩
  · rintro (⟨before, taken, rest, rfl, htakes⟩ | htakes)
    · exact ⟨before, taken, rest ++ [action], by rw [List.append_assoc, List.cons_append], htakes⟩
    · exact ⟨actions, action, [], rfl, htakes⟩

/-- A rejected `put_part` leaves the parts as they are. -/
theorem sameParts_putPart {newUuid : String} {req : PutPartRequest} {e : Raised} (h : Consistent s)
    (hrejected : (putPart newUuid s req).2 = .error e) : SameParts s (putPart newUuid s req).1 := by
  have hwritten : checkPart s req = .ok none → SameParts s (s.writeFile req.path req.data) := by
    intro hcheck
    refine ⟨rfl, rfl, ?_⟩
    intro chunk hchunk
    apply UploadState.files_writeFile_of_ne
    intro heq
    rw [(h.located chunk hchunk).1] at heq
    exact chunk?_eq_none_iff.mp (checkPart_write hcheck).2.2.1 chunk hchunk
      ⟨congrArg PartPath.uploadId heq, congrArg PartPath.partNumber heq⟩
  rcases putPart_effect newUuid s req with ⟨heq, _⟩ | ⟨hcheck, heq, _⟩ | ⟨_, _, _, _, htaken⟩
  · rw [heq]
    exact SameParts.refl s
  · rw [heq]
    exact hwritten hcheck
  · cases htaken.symm.trans hrejected

end Histories

section Recording

/-- What has been taken is what the rows name, and for an open upload what the files hold. -/
structure Recorded (s : UploadState) (took : PartPath → Bytes → Prop) : Prop where
  accepted : ∀ path data, took path data → Accepted s path.uploadId path.partNumber
  stored : ∀ path upload, s.uploads.get? path.uploadId = some upload → upload.state = .open →
    Accepted s path.uploadId path.partNumber → ∀ data, s.files path = some data ↔ took path data

variable {svc : AuditService} {s s' : UploadState} {took : PartPath → Bytes → Prop}

theorem accepted_congr (h : s'.chunks = s.chunks) {uploadId : String} {number : Int} :
    Accepted s' uploadId number ↔ Accepted s uploadId number := by
  rw [Accepted, h]
  rfl

/-- Where the rows stay and the uploads that are open were open, with their files, the record stays. -/
theorem Recorded.congr (h : Recorded s took) (hchunks : s'.chunks = s.chunks)
    (hfiles : ∀ path upload, s'.uploads.get? path.uploadId = some upload → upload.state = .open →
      Accepted s path.uploadId path.partNumber →
      s'.files path = s.files path ∧ ∃ old, s.uploads.get? path.uploadId = some old ∧ old.state = .open) :
    Recorded s' took := by
  constructor
  · intro path data htook
    exact (accepted_congr hchunks).mpr (h.accepted path data htook)
  · intro path upload hupload hopen haccepted data
    have haccepted' := (accepted_congr hchunks).mp haccepted
    obtain ⟨hsame, old, hold, holdOpen⟩ := hfiles path upload hupload hopen haccepted'
    rw [hsame]
    exact h.stored path old hold holdOpen haccepted' data

theorem accepted_insertChunk {newUuid : String} {req : PutPartRequest}
    {chunks : Table MultipartChunkRow (fun row => row.chunkId)} (hinsert : s.chunks.insert? (req.chunk newUuid) = some chunks)
    (hchunks : s'.chunks = chunks) {path : PartPath} : Accepted s' path.uploadId path.partNumber ↔
      Accepted s path.uploadId path.partNumber ∨ path = req.path := by
  have hrows : s'.chunks.rows = s.chunks.rows ++ [req.chunk newUuid] := by
    rw [hchunks]
    exact (Table.insert?_eq_some hinsert).2
  simp only [Accepted, hrows, List.mem_append, List.mem_singleton]
  constructor
  · rintro ⟨chunk, hchunk | rfl, hid, hnumber⟩
    · exact Or.inl ⟨chunk, hchunk, hid, hnumber⟩
    · exact Or.inr (by cases path; cases hid; cases hnumber; rfl)
  · rintro (⟨chunk, hchunk, hpath⟩ | rfl)
    · exact ⟨chunk, Or.inl hchunk, hpath⟩
    · exact ⟨_, Or.inr rfl, rfl, rfl⟩

theorem recorded_putPart {newUuid : String} {req : PutPartRequest} (h : Recorded s took) :
    Recorded (putPart newUuid s req).1 fun path data => took path data ∨ Takes s (.putPart newUuid req) path data := by
  have hfresh : checkPart s req = .ok none → ¬ Accepted s req.path.uploadId req.path.partNumber := fun hcheck =>
    chunk?_eq_none_iff_not_accepted.mp (checkPart_write hcheck).2.2.1
  have hidle : (putPart newUuid s req).2 ≠ .ok (req.receipt false) →
      (fun path data => took path data ∨ Takes s (.putPart newUuid req) path data) = took := by
    intro hnot
    funext path data
    apply propext
    apply or_iff_left
    rintro ⟨_, _, hsame, _, _, htakes⟩
    cases hsame
    exact hnot htakes
  rcases putPart_effect newUuid s req with ⟨heq, hnot⟩ | ⟨hcheck, heq, e, herror⟩ | ⟨hcheck, chunks, hinsert, heq, hok⟩
  · rwa [hidle hnot, heq]
  · rw [hidle (by rw [herror]; nofun), heq]
    -- the file is written without a row, and no part with a row has it
    have hsame : (s.writeFile req.path req.data).chunks = s.chunks := rfl
    apply h.congr hsame
    intro path upload hupload hopen haccepted
    refine ⟨UploadState.files_writeFile_of_ne ?_, upload, hupload, hopen⟩
    rintro rfl
    exact hfresh hcheck haccepted
  · have htakes : ∀ path data, Takes s (.putPart newUuid req) path data ↔ req.path = path ∧ req.data = data := by
      intro path data
      constructor
      · rintro ⟨_, _, hsame, hpath, hdata, _⟩
        cases hsame
        exact ⟨hpath, hdata⟩
      · rintro ⟨hpath, hdata⟩
        exact ⟨newUuid, req, rfl, hpath, hdata, hok⟩
    have haccepted : ∀ path : PartPath, Accepted (putPart newUuid s req).1 path.uploadId path.partNumber ↔
        Accepted s path.uploadId path.partNumber ∨ path = req.path := by
      intro path
      rw [heq]
      exact accepted_insertChunk hinsert rfl
    constructor
    · intro path data htook
      rw [haccepted]
      rcases htook with htook | htook
      · exact Or.inl (h.accepted path data htook)
      · exact Or.inr ((htakes path data).mp htook).1.symm
    · intro path upload hupload hopen hin data
      rw [haccepted] at hin
      rw [htakes]
      rw [heq] at hupload ⊢
      by_cases hpath : path = req.path
      · rw [hpath]
        have hnew : ¬ took req.path data := fun htook => hfresh hcheck (h.accepted _ _ htook)
        show Function.update s.files req.path (some req.data) req.path = some data ↔ _
        rw [Function.update_self, Option.some.injEq]
        exact ⟨fun hdata => Or.inr ⟨rfl, hdata⟩, fun hor => (hor.resolve_left hnew).2⟩
      · have hold : Accepted s path.uploadId path.partNumber := hin.resolve_right hpath
        show Function.update s.files req.path (some req.data) path = some data ↔ _
        rw [Function.update_of_ne hpath, h.stored path upload hupload hopen hold data]
        exact ⟨Or.inl, fun hor => hor.resolve_right fun hnew => hpath hnew.1.symm⟩

/-- An action that is no `put_part` takes no part. -/
theorem or_takes_of_ne {action : UploadAction} (h : ∀ newUuid req, action ≠ .putPart newUuid req) :
    (fun path data => took path data ∨ Takes s action path data) = took := by
  funext path data
  apply propext
  apply or_iff_left
  rintro ⟨newUuid, req, heq, _⟩
  exact h newUuid req heq

theorem recorded_step (hconsistent : Consistent s) (h : Recorded s took) (action : UploadAction) :
    Recorded (uploadStep svc s action) fun path data => took path data ∨ Takes s action path data := by
  cases action with
  | beginUpload deployment newUuid req =>
    rw [or_takes_of_ne (by rintro _ _ ⟨⟩)]
    obtain ⟨hchunks, hfiles, huploads⟩ := beginMultipart_effect deployment newUuid s req
    apply h.congr hchunks
    intro path upload hupload hopen haccepted
    refine ⟨congrFun hfiles path, ?_⟩
    rcases huploads with huploads | hinsert
    · exact ⟨upload, huploads ▸ hupload, hopen⟩
    · -- the new upload has no part yet
      have hupload' := (Table.get?_insert hinsert path.uploadId).symm.trans hupload
      split at hupload'
      · rename_i hid
        obtain ⟨chunk, hchunk, hchunkId, _⟩ := haccepted
        obtain ⟨old, hold⟩ := hconsistent.owned chunk hchunk
        rw [hchunkId, hid, (Table.insert?_eq_some hinsert).1] at hold
        cases hold
      · exact ⟨upload, hupload', hopen⟩
  | putPart newUuid req => exact recorded_putPart h
  | complete draw now req =>
    rw [or_takes_of_ne (by rintro _ _ ⟨⟩)]
    show Recorded (completeMultipart svc draw now s req).1 took
    rcases @completeMultipart_effect svc draw now s req with ⟨service, heq⟩ | ⟨service, done, hdone, _, heq⟩
    · rw [heq]
      exact h.congr rfl fun path upload hupload hopen _ => ⟨rfl, upload, hupload, hopen⟩
    · rw [heq]
      have hsame : (UploadState.removeDirectory { s with
        service, uploads := s.uploads.set { done with state := .completed, completedAt := some now } } req.uploadId).chunks =
          s.chunks := rfl
      apply h.congr hsame
      intro path upload hupload hopen _
      have hupload' := (get?_set_completed hdone now path.uploadId).symm.trans hupload
      split at hupload'
      · cases hupload'
        cases hopen
      · rename_i hid
        exact ⟨if_neg hid, upload, hupload', hopen⟩
  | other service =>
    rw [or_takes_of_ne (by rintro _ _ ⟨⟩)]
    exact h.congr rfl fun path upload hupload hopen _ => ⟨rfl, upload, hupload, hopen⟩

theorem recorded_run (svc : AuditService) (service : AssetState) (actions : List UploadAction) :
    Recorded (uploadsAfter svc service actions) (Took svc service actions) := by
  induction actions using List.reverseRecOn with
  | nil =>
    constructor
    · rintro path data ⟨before, action, rest, hsplit, _⟩
      cases before <;> cases hsplit
    · intro path upload hupload
      cases hupload
  | append_singleton actions action ih =>
    have htook : Took svc service (actions ++ [action]) = fun path data =>
        Took svc service actions path data ∨ Takes (uploadsAfter svc service actions) action path data := by
      funext path data
      exact propext took_concat
    rw [htook, uploadsAfter_concat]
    exact recorded_step (consistent_run svc service actions) ih action

end Recording

section Joining
variable {s : UploadState} {took : PartPath → Bytes → Prop} {uploadId : String} {upload : MultipartUploadRow}

/-- The bytes of a part that has a row. -/
def content (s : UploadState) (chunk : MultipartChunkRow) : Bytes := (s.files chunk.path).getD []

theorem files_eq_content (h : Consistent s) (hupload : s.uploads.get? uploadId = some upload)
    (hopen : upload.state = .open) {chunk : MultipartChunkRow} (hchunk : chunk ∈ s.parts uploadId) :
    s.files chunk.path = some (content s chunk) := by
  obtain ⟨hrow, hid⟩ := mem_parts.mp hchunk
  obtain ⟨data, hdata, _⟩ := h.stored chunk hrow upload (hid ▸ hupload) hopen
  rw [content, hdata]
  rfl

theorem mapM_readChunk (h : Consistent s) (hupload : s.uploads.get? uploadId = some upload) (hopen : upload.state = .open) :
    (s.parts uploadId).mapM (readChunk s) = .ok ((s.parts uploadId).map (content s)) := by
  apply mapM_eq_ok_of_forall
  intro chunk hchunk
  rw [readChunk, orRaise_eq_ok]
  exact files_eq_content h hupload hopen hchunk

theorem took_iff_mem_parts (h : Consistent s) (hrecorded : Recorded s took)
    (hupload : s.uploads.get? uploadId = some upload) (hopen : upload.state = .open) {number : Int} {data : Bytes} :
    took ⟨uploadId, number⟩ data ↔ ∃ chunk ∈ s.parts uploadId, chunk.partNumber = number ∧ content s chunk = data := by
  have hstored := hrecorded.stored ⟨uploadId, number⟩ upload hupload hopen
  have hpath : ∀ chunk ∈ s.parts uploadId, chunk.path = ⟨uploadId, chunk.partNumber⟩ := by
    intro chunk hchunk
    obtain ⟨hrow, hid⟩ := mem_parts.mp hchunk
    rw [(h.located chunk hrow).1, hid]
  constructor
  · intro htook
    have haccepted := hrecorded.accepted _ _ htook
    obtain ⟨chunk, hchunk, hnumber⟩ := accepted_iff_mem_parts.mp haccepted
    refine ⟨chunk, hchunk, hnumber, ?_⟩
    have hfile := (hstored haccepted data).mpr htook
    rw [content, hpath chunk hchunk, hnumber, hfile]
    rfl
  · rintro ⟨chunk, hchunk, rfl, rfl⟩
    have haccepted : Accepted s uploadId chunk.partNumber := accepted_iff_mem_parts.mpr ⟨chunk, hchunk, rfl⟩
    apply (hstored haccepted _).mp
    rw [← hpath chunk hchunk]
    exact files_eq_content h hupload hopen hchunk

theorem pairwise_lt_parts (h : Consistent s) (uploadId : String) :
    ((s.parts uploadId).map fun chunk => chunk.partNumber).Pairwise (· < ·) := by
  apply pairwise_lt_sortBy
  have hpaths : ((s.chunks.rows.filter fun chunk => chunk.uploadId = uploadId).map fun chunk => chunk.path).Nodup :=
    h.unique.sublist (List.filter_sublist.map _)
  have hnames : ((s.chunks.rows.filter fun chunk => chunk.uploadId = uploadId).map fun chunk => chunk.path) =
      ((s.chunks.rows.filter fun chunk => chunk.uploadId = uploadId).map fun chunk => chunk.partNumber).map
        (PartPath.mk uploadId) := by
    rw [List.map_map]
    apply List.map_congr_left
    intro chunk hchunk
    obtain ⟨hrow, hid⟩ := List.mem_filter.mp hchunk
    rw [(h.located chunk hrow).1, of_decide_eq_true hid]
    rfl
  rw [hnames] at hpaths
  exact hpaths.of_map

theorem getElem?_numbersFromOne {count i : Nat} (h : i < count) : (numbersFromOne count)[i]? = some ((i : Int) + 1) := by
  rw [numbersFromOne, List.getElem?_map, List.getElem?_range h]
  rfl

theorem pairwise_lt_numbersFromOne (count : Nat) : (numbersFromOne count).Pairwise (· < ·) := by
  rw [numbersFromOne, List.pairwise_map]
  apply List.pairwise_lt_range.imp
  intro i j hij
  omega

theorem partNumber_of_numbersFromOne {chunks : List MultipartChunkRow} {count : Nat}
    (h : (chunks.map fun chunk => chunk.partNumber) = numbersFromOne count) {i : Nat} {chunk : MultipartChunkRow}
    (hchunk : chunks[i]? = some chunk) : chunk.partNumber = (i : Int) + 1 := by
  have hlength := congrArg List.length h
  rw [List.length_map, numbersFromOne, List.length_map, List.length_range] at hlength
  have hi : i < count := hlength ▸ (List.getElem?_eq_some_iff.mp hchunk).1
  have hat := congrArg (fun l => l[i]?) h
  simp only [List.getElem?_map, hchunk, getElem?_numbersFromOne hi] at hat
  exact Option.some.inj hat

/-- The parts that have been taken are pieces numbered from one exactly when the rows are numbered so and hold these. -/
theorem acceptedParts_iff (h : Consistent s) (hrecorded : Recorded s took)
    (hupload : s.uploads.get? uploadId = some upload) (hopen : upload.state = .open) {pieces : List Bytes} :
    AcceptedParts took uploadId pieces ↔
      ((s.parts uploadId).map fun chunk => chunk.partNumber) = numbersFromOne (s.parts uploadId).length ∧
        pieces = (s.parts uploadId).map (content s) := by
  have htook := fun number data => @took_iff_mem_parts s took uploadId upload h hrecorded hupload hopen number data
  constructor
  · intro hparts
    have hnumbers : ((s.parts uploadId).map fun chunk => chunk.partNumber) = numbersFromOne pieces.length := by
      apply (pairwise_lt_parts h uploadId).eq_of_mem_iff (pairwise_lt_numbersFromOne _)
      intro number
      rw [List.mem_map, numbersFromOne, List.mem_map]
      constructor
      · rintro ⟨chunk, hchunk, hnumber⟩
        obtain ⟨i, hi, hpiece⟩ := (hparts number _).mp ((htook number _).mpr ⟨chunk, hchunk, hnumber, rfl⟩)
        exact ⟨i, List.mem_range.mpr (List.getElem?_eq_some_iff.mp hpiece).1, hi.symm⟩
      · rintro ⟨i, hi, rfl⟩
        have hpiece := List.getElem?_eq_getElem (List.mem_range.mp hi)
        obtain ⟨chunk, hchunk, hnumber, _⟩ := (htook _ _).mp ((hparts _ _).mpr ⟨i, rfl, hpiece⟩)
        exact ⟨chunk, hchunk, hnumber⟩
    have hlength : (s.parts uploadId).length = pieces.length := by
      have hlen := congrArg List.length hnumbers
      rwa [List.length_map, numbersFromOne, List.length_map, List.length_range] at hlen
    refine ⟨hlength ▸ hnumbers, ?_⟩
    apply List.ext_getElem?
    intro i
    rw [List.getElem?_map]
    cases hchunk : (s.parts uploadId)[i]? with
    | none =>
      rw [List.getElem?_eq_none_iff] at hchunk
      exact List.getElem?_eq_none (hlength ▸ hchunk)
    | some chunk =>
      have hnumber := partNumber_of_numbersFromOne hnumbers hchunk
      obtain ⟨j, hj, hpiece⟩ := (hparts _ _).mp
        ((htook _ _).mpr ⟨chunk, List.mem_of_getElem? hchunk, hnumber, rfl⟩)
      have hij : j = i := by omega
      rw [← hij, hpiece]
      rfl
  · rintro ⟨hnumbers, rfl⟩ number data
    rw [htook]
    constructor
    · rintro ⟨chunk, hchunk, rfl, rfl⟩
      obtain ⟨i, hi⟩ := List.getElem?_of_mem hchunk
      refine ⟨i, partNumber_of_numbersFromOne hnumbers hi, ?_⟩
      rw [List.getElem?_map, hi]
      rfl
    · rintro ⟨i, rfl, hpiece⟩
      rw [List.getElem?_map, Option.map_eq_some_iff] at hpiece
      obtain ⟨chunk, hchunk, rfl⟩ := hpiece
      exact ⟨chunk, List.mem_of_getElem? hchunk, partNumber_of_numbersFromOne hnumbers hchunk, rfl⟩

theorem prepareIngest_eq_ok (h : Consistent s) (hrecorded : Recorded s took) {req : CompleteRequest}
    (hupload : s.uploads.get? req.uploadId = some upload) (hscope : upload.InScope req.tenantId req.projectId)
    (hopen : upload.state = .open) {ingest : IngestRequest} :
    prepareIngest s req = .ok ingest ↔
      ∃ pieces, Completable took upload req.uploadId pieces ∧ ingest = upload.ingestRequest req pieces.flatten := by
  have hread := mapM_readChunk h hupload hopen
  simp only [prepareIngest, bind_eq_ok, assemble, raiseIf_eq_ok, not_or, not_not]
  constructor
  · rintro ⟨⟨found, chunks⟩, hparts, data, ⟨pieces, hpieces, _, ⟨hlength, hdigest⟩, hdata⟩, hingest⟩
    obtain ⟨hfound, _, _, rfl, hne, hnumbers⟩ := readParts_eq_ok.mp hparts
    cases hupload.symm.trans hfound
    cases hread.symm.trans hpieces
    cases hdata
    cases hingest
    refine ⟨_, ⟨?_, ?_, hlength, hdigest⟩, rfl⟩
    · exact fun hnil => hne (List.map_eq_nil_iff.mp hnil)
    · exact (acceptedParts_iff h hrecorded hupload hopen).mpr ⟨hnumbers, rfl⟩
  · rintro ⟨pieces, ⟨hne, hparts, hlength, hdigest⟩, rfl⟩
    obtain ⟨hnumbers, rfl⟩ := (acceptedParts_iff h hrecorded hupload hopen).mp hparts
    have hchunks : s.parts req.uploadId ≠ [] := fun hnil => hne (by rw [hnil]; rfl)
    refine ⟨(upload, s.parts req.uploadId), readParts_eq_ok.mpr ⟨hupload, hscope, hopen, rfl, hchunks, hnumbers⟩, _,
      ⟨_, hread, (), ⟨hlength, hdigest⟩, rfl⟩, rfl⟩

end Joining

section Completing
variable {svc : AuditService} {draw : IngestDraw} {now : Nat} {s : UploadState} {req : CompleteRequest}
  {reference : AssetReference}

/-- A successful ingest leaves an object with its bytes behind. -/
theorem readBytes_ingestBytes {a : AssetState} {ingest : IngestRequest}
    (h : (ingestBytes svc draw a ingest).2 = .ok reference) :
    reference.sha256 = ingest.digest ∧
      (ingestBytes svc draw a ingest).1.store.readBytes ingest.digest = .ok ingest.data := by
  unfold ingestBytes at h ⊢
  dsimp only at h ⊢
  generalize (authorize draw.deployment a.db.toStore ingest).2 = asked at h ⊢
  cases asked with
  | error e => cases h
  | ok _ =>
    dsimp only at h ⊢
    cases hwrite : a.store.writeBytes draw.envelope ingest.digest ingest.data with
    | error e =>
      rw [hwrite] at h
      cases h
    | ok written =>
      obtain ⟨store, metadata⟩ := written
      rw [hwrite] at h
      dsimp only at h ⊢
      cases hverify : verifyWrite store ingest with
      | error e =>
        rw [hverify] at h
        cases h
      | ok _ =>
        rw [hverify] at h
        dsimp only at h ⊢
        generalize htransaction : ingestTransaction svc _ draw ingest metadata = recorded at h ⊢
        cases recorded with
        | error e => cases h
        | ok result =>
          cases h
          refine ⟨?_, verifyWrite_ok hverify⟩
          rcases ingestTransaction_ok htransaction with ⟨_, _, _, _, _, hdigest⟩ | ⟨_, _, _, hreference⟩
          · exact hdigest
          · rw [hreference]
            rfl

/-- Without a deployment service an ingest goes through if its steps do. -/
theorem ingestBytes_of_steps {a : AssetState} {ingest : IngestRequest} {store : LocalContentAddressedStore}
    {metadata : EnvelopeMetadata} {db : AssetDb} (hdeployment : draw.deployment = none)
    (hwrite : a.store.writeBytes draw.envelope ingest.digest ingest.data = .ok (store, metadata))
    (hverify : verifyWrite store ingest = .ok ())
    (htransaction : ingestTransaction svc a.db draw ingest metadata = .ok (db, reference)) :
    (ingestBytes svc draw a ingest).2 = .ok reference := by
  simp only [ingestBytes, authorize, hdeployment, hwrite, hverify, htransaction]

theorem prepareIngest_upload {ingest : IngestRequest} (h : prepareIngest s req = .ok ingest) :
    ∃ upload, s.uploads.get? req.uploadId = some upload := by
  simp only [prepareIngest, bind_eq_ok] at h
  obtain ⟨⟨upload, chunks⟩, hread, _⟩ := h
  exact ⟨upload, (readParts_eq_ok.mp hread).1⟩

/-- How a completion ends: before the ingest, with the refusal of the ingest, or with its reference. -/
theorem completeMultipart_cases (svc : AuditService) (draw : IngestDraw) (now : Nat) (s : UploadState) (req : CompleteRequest) :
    (∃ e, prepareIngest s req = .error e ∧ completeMultipart svc draw now s req = (s, .error e)) ∨
    (∃ ingest, prepareIngest s req = .ok ingest ∧
      ((∃ e, (ingestBytes svc draw s.service ingest).2 = .error e ∧ completeMultipart svc draw now s req =
          ({ s with service := (ingestBytes svc draw s.service ingest).1 }, .error e)) ∨
        (∃ reference, (ingestBytes svc draw s.service ingest).2 = .ok reference ∧
          (completeMultipart svc draw now s req).1.service = (ingestBytes svc draw s.service ingest).1 ∧
          (completeMultipart svc draw now s req).2 = .ok reference))) := by
  unfold completeMultipart
  cases hprepare : prepareIngest s req with
  | error e => exact Or.inl ⟨e, rfl, rfl⟩
  | ok ingest =>
    refine Or.inr ⟨ingest, rfl, ?_⟩
    dsimp only
    cases (ingestBytes svc draw s.service ingest).2 with
    | error e => exact Or.inl ⟨e, rfl, rfl⟩
    | ok reference =>
      obtain ⟨upload, hupload⟩ := prepareIngest_upload hprepare
      have hmark := (@markCompleted_eq_ok { s with service := (ingestBytes svc draw s.service ingest).1 } _ _ now).mpr
        ⟨upload, hupload, rfl⟩
      dsimp only
      rw [hmark]
      exact Or.inr ⟨reference, rfl, rfl, rfl⟩

theorem completeMultipart_ok_iff : (completeMultipart svc draw now s req).2 = .ok reference ↔
    ∃ ingest, prepareIngest s req = .ok ingest ∧ (ingestBytes svc draw s.service ingest).2 = .ok reference := by
  rcases completeMultipart_cases svc draw now s req with ⟨e, hprepare, heq⟩ | ⟨ingest, hprepare, ⟨e, hingest, heq⟩ |
    ⟨found, hingest, _, hok⟩⟩
  · rw [heq, hprepare]
    apply iff_of_false
    · nofun
    · rintro ⟨_, hfound, _⟩
      cases hfound
  · rw [heq]
    apply iff_of_false
    · nofun
    · rintro ⟨found, hfound, hok⟩
      cases hprepare.symm.trans hfound
      cases hingest.symm.trans hok
  · rw [hok]
    constructor
    · intro h
      exact ⟨ingest, hprepare, hingest.trans h⟩
    · rintro ⟨found, hfound, hreference⟩
      cases hprepare.symm.trans hfound
      exact hingest.symm.trans hreference

/-- A rejected completion leaves the parts as they are. -/
theorem sameParts_completeMultipart {e : Raised} (h : (completeMultipart svc draw now s req).2 = .error e) :
    SameParts s (completeMultipart svc draw now s req).1 := by
  rcases completeMultipart_cases svc draw now s req with ⟨_, _, heq⟩ | ⟨_, _, ⟨_, _, heq⟩ | ⟨_, _, _, hok⟩⟩
  · rw [heq]
    exact SameParts.refl s
  · rw [heq]
    exact ⟨rfl, rfl, fun _ _ => rfl⟩
  · cases hok.symm.trans h

end Completing

/-- After every history of calls, the completion of an open upload succeeds exactly when the parts taken for it are
numbered from one without a gap, give what was declared, and are accepted by the ingest; the asset then has these bytes.
A rejected call leaves the parts as they are. -/
theorem completes_iff_parts_joined (svc : AuditService) (service : AssetState) (actions : List UploadAction)
    (draw : IngestDraw) (now : Nat) (req : CompleteRequest) (upload : MultipartUploadRow)
    (hupload : (uploadsAfter svc service actions).uploads.get? req.uploadId = some upload)
    (hopen : upload.state = .open) (hscope : upload.InScope req.tenantId req.projectId) :
    (∀ reference, (completeMultipart svc draw now (uploadsAfter svc service actions) req).2 = .ok reference ↔
      ∃ pieces, Completable (Took svc service actions) upload req.uploadId pieces ∧
        (ingestBytes svc draw (uploadsAfter svc service actions).service (upload.ingestRequest req pieces.flatten)).2 =
          .ok reference) ∧
    (∀ reference pieces, (completeMultipart svc draw now (uploadsAfter svc service actions) req).2 = .ok reference →
      AcceptedParts (Took svc service actions) req.uploadId pieces →
      (completeMultipart svc draw now (uploadsAfter svc service actions) req).1.service.store.readBytes reference.sha256 =
        .ok pieces.flatten) ∧
    (∀ e, (completeMultipart svc draw now (uploadsAfter svc service actions) req).2 = .error e →
      SameParts (uploadsAfter svc service actions) (completeMultipart svc draw now (uploadsAfter svc service actions) req).1) ∧
    (∀ newUuid part e, (putPart newUuid (uploadsAfter svc service actions) part).2 = .error e →
      SameParts (uploadsAfter svc service actions) (putPart newUuid (uploadsAfter svc service actions) part).1) := by
  have hconsistent : Consistent (uploadsAfter svc service actions) := consistent_run svc service actions
  have hrecorded := recorded_run svc service actions
  have hprepare := fun ingest => @prepareIngest_eq_ok _ _ upload hconsistent hrecorded req hupload hscope hopen ingest
  refine ⟨?_, ?_, fun e => sameParts_completeMultipart, fun newUuid part e => sameParts_putPart hconsistent⟩
  · intro reference
    rw [completeMultipart_ok_iff]
    constructor
    · rintro ⟨ingest, hingest, hok⟩
      obtain ⟨pieces, hpieces, rfl⟩ := (hprepare ingest).mp hingest
      exact ⟨pieces, hpieces, hok⟩
    · rintro ⟨pieces, hpieces, hok⟩
      exact ⟨_, (hprepare _).mpr ⟨pieces, hpieces, rfl⟩, hok⟩
  · intro reference pieces hreference hparts
    rcases completeMultipart_cases svc draw now (uploadsAfter svc service actions) req with ⟨_, _, heq⟩ |
      ⟨ingest, hingest, ⟨_, _, heq⟩ | ⟨found, hok, hservice, hfound⟩⟩
    · rw [heq] at hreference
      cases hreference
    · rw [heq] at hreference
      cases hreference
    · cases hfound.symm.trans hreference
      obtain ⟨joined, hjoined, rfl⟩ := (hprepare ingest).mp hingest
      have hpieces := ((acceptedParts_iff hconsistent hrecorded hupload hopen).mp hparts).2
      rw [((acceptedParts_iff hconsistent hrecorded hupload hopen).mp hjoined.parts).2, ← hpieces] at hok hservice
      obtain ⟨hdigest, hread⟩ := readBytes_ingestBytes hok
      rw [hservice, hdigest]
      exact hread

section Sample

def completeNote : CompleteRequest where
  uploadId := "u"
  originalName := "note"
  classification := .internal
  retentionClass := "standard"
  sourceClass := .observed
  authorityClass := .evidence
  provenance := [("source_ids", .arr [.str "s"])]
  actorId := "ana"
  tenantId := "t"

/-- A deployment service whose profile no longer admits the region. -/
def deniedRegion : UploadDeployment where
  authorizeIfConfigured _ s := (s, .error (authorizationError "DEPLOYMENT_REGION_DENIED" "deployment admission denied"))
  projects_eq _ _ := rfl

theorem uploadsAfter_partOnly : uploadsAfter .zeroKey stored (partOnly 1) = withPart 1 := run_partOnly (by decide)

theorem inScope_emptyUpload : (emptyUpload.row "u").InScope completeNote.tenantId completeNote.projectId :=
  ⟨rfl, fun _ h => nomatch h⟩

theorem completable_partOnly : Completable (Took .zeroKey stored (partOnly 1)) (emptyUpload.row "u") "u" [[]] := by
  have hconsistent : Consistent (uploadsAfter .zeroKey stored (partOnly 1)) := consistent_run .zeroKey stored (partOnly 1)
  have hrecorded := recorded_run .zeroKey stored (partOnly 1)
  rw [uploadsAfter_partOnly] at hconsistent hrecorded
  refine ⟨List.cons_ne_nil _ _, ?_, rfl, rfl⟩
  exact (@acceptedParts_iff _ _ "u" (emptyUpload.row "u") hconsistent hrecorded rfl rfl [[]]).mpr ⟨rfl, rfl⟩

theorem ingestRequest_completeNote : (emptyUpload.row "u").ingestRequest completeNote [] = note := rfl

theorem prepareIngest_withPart : prepareIngest (withPart 1) completeNote = .ok note := by
  have hconsistent : Consistent (uploadsAfter .zeroKey stored (partOnly 1)) := consistent_run .zeroKey stored (partOnly 1)
  have hrecorded := recorded_run .zeroKey stored (partOnly 1)
  rw [uploadsAfter_partOnly] at hconsistent hrecorded
  have hprepare := @prepareIngest_eq_ok _ _ (emptyUpload.row "u") hconsistent hrecorded completeNote rfl inScope_emptyUpload
    rfl note
  exact hprepare.mpr ⟨[[]], completable_partOnly, rfl⟩

/-- The parts are complete and the deployment refuses the ingest. -/
theorem completion_denied_by_deployment :
    Completable (Took .zeroKey stored (partOnly 1)) (emptyUpload.row "u") completeNote.uploadId [[]] ∧
    (uploadsAfter .zeroKey stored (partOnly 1)).uploads.get? completeNote.uploadId = some (emptyUpload.row "u") ∧
    (emptyUpload.row "u").state = .open ∧ (emptyUpload.row "u").InScope completeNote.tenantId completeNote.projectId ∧
    (completeMultipart .zeroKey { drawOf "a2" with deployment := some deniedRegion } 0
      (uploadsAfter .zeroKey stored (partOnly 1)) completeNote).2 =
        .error (authorizationError "DEPLOYMENT_REGION_DENIED" "deployment admission denied") := by
  refine ⟨completable_partOnly, ?_, rfl, inScope_emptyUpload, ?_⟩
  · rw [uploadsAfter_partOnly]
    rfl
  · rw [uploadsAfter_partOnly, completeMultipart, prepareIngest_withPart]
    rfl

theorem ingestBytes_note : ∃ reference, (ingestBytes .zeroKey (drawOf "a2") stored note).2 = .ok reference := by
  obtain ⟨log, hlog⟩ := @Store.record_of_empty .zeroKey stored.db.toStore ⟨0, "a2"⟩ (note.auditRequest "a2") rfl
  have hassets : ensureObject stored.db.assets note noteMetadata 0 = .ok stored.db.assets :=
    @ensureObject_of_some note noteMetadata stored.db.assets noteRow 0
      ((Table.get?_eq_some_iff _ _ _).mpr ⟨List.mem_singleton_self _, rfl⟩) rfl
  obtain ⟨refs, _, hrecorded⟩ := @ingestTransaction_fresh .zeroKey stored.db (drawOf "a2") note noteMetadata
    ⟨"p", "t", "internal", "active"⟩ _ _ rfl rfl rfl hassets hlog
  exact ⟨_, @ingestBytes_of_steps .zeroKey (drawOf "a2") _ stored note noteStore noteMetadata _ rfl writeBytes_noteStore
    verifyWrite_noteStore hrecorded⟩

theorem completes_partOnly :
    ∃ reference, (completeMultipart .zeroKey (drawOf "a2") 0 (uploadsAfter .zeroKey stored (partOnly 1)) completeNote).2 =
      .ok reference := by
  have hservice : (uploadsAfter .zeroKey stored (partOnly 1)).service = stored := by
    rw [uploadsAfter_partOnly]
    rfl
  have hupload : (uploadsAfter .zeroKey stored (partOnly 1)).uploads.get? completeNote.uploadId =
      some (emptyUpload.row "u") := by
    rw [uploadsAfter_partOnly]
    rfl
  obtain ⟨reference, hreference⟩ := ingestBytes_note
  refine ⟨reference, ((completes_iff_parts_joined .zeroKey stored (partOnly 1) (drawOf "a2") 0 completeNote
    (emptyUpload.row "u") hupload rfl inScope_emptyUpload).1 reference).mpr ⟨[[]], completable_partOnly, ?_⟩⟩
  rw [hservice]
  exact hreference

end Sample

end AssetService
end Sip
