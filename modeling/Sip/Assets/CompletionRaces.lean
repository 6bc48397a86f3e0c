import Sip.Assets.Completion
import Sip.Foundation.PlainDigests

/-!
# Completions of one upload that run at the same time

A completion reads the upload and its parts in one transaction, reads the files, ingests
their bytes, marks the upload in another transaction, and removes the directory. Only the
first transaction looks at the state of the upload. So one upload gives one reference as
long as no completion starts while another one stands between these two transactions.
-/

namespace Sip
namespace AssetService

set_option autoImplicit false

/-- How far a completion has come. -/
inductive CompletionPhase where
  | arrived
  | read (upload : MultipartUploadRow) (chunks : List MultipartChunkRow)
  | ingesting (ingest : IngestRequest) (phase : IngestPhase)
  | ingested (reference : AssetReference)
  | marked (reference : AssetReference)
  | finished (result : Except Raised AssetReference)

structure CompletionCall where
  req : CompleteRequest
  phase : CompletionPhase

structure CompletionDraw extends IngestDraw where
  completedAt : Nat

def CompletionPhase.ofIngest (ingest : IngestRequest) : IngestPhase → CompletionPhase
  | .finished (.ok reference) => .ingested reference
  | .finished (.error e) => .finished (.error e)
  | phase => .ingesting ingest phase

def completionNext (svc : AuditService) (draw : CompletionDraw) (req : CompleteRequest) (s : UploadState) :
    CompletionPhase → Option (UploadState × CompletionPhase)
  | .arrived => match readParts s req with
    | .error e => some (s, .finished (.error e))
    | .ok (upload, chunks) => some (s, .read upload chunks)
  | .read upload chunks => match assemble s upload chunks with
    | .error e => some (s, .finished (.error e))
    | .ok data => some (s, .ingesting (upload.ingestRequest req data) .arrived)
  | .ingesting ingest phase => (ingestNext svc draw.toIngestDraw ingest s.service phase).map fun r =>
    ({ s with service := r.1 }, .ofIngest ingest r.2)
  | .ingested reference => match markCompleted s req.uploadId draw.completedAt with
    | .error e => some (s, .finished (.error e))
    | .ok done => some (done, .marked reference)
  | .marked reference => some (s.removeDirectory req.uploadId, .finished (.ok reference))
  | .finished _ => none

def nextCompletion (svc : AuditService) (_who : Nat) (draw : CompletionDraw) (s : UploadState) (call : CompletionCall) :
    Option (UploadState × CompletionCall) :=
  (completionNext svc draw call.req s call.phase).map fun r => (r.1, { call with phase := r.2 })

abbrev CompletionPool := Pool UploadState CompletionCall

/-- Completions that have arrived and not yet started. -/
def completing (s : UploadState) (request : Nat → CompleteRequest) : CompletionPool := ⟨s, fun i => ⟨request i, .arrived⟩⟩

/-- The completion stands between its first transaction and the one that marks the upload. -/
def CompletionPhase.Between : CompletionPhase → Prop
  | .read _ _ => True
  | .ingesting _ _ => True
  | .ingested _ => True
  | _ => False

/-- The completion has marked the upload. -/
def CompletionPhase.Done : CompletionPhase → Prop
  | .marked _ => True
  | .finished (.ok _) => True
  | _ => False

/-- The ingest of the completion has given a reference. -/
def CompletionPhase.reference? : CompletionPhase → Option AssetReference
  | .ingested reference => some reference
  | .marked reference => some reference
  | .finished (.ok reference) => some reference
  | _ => none

/-- At most one of the completions of each upload has given a reference. -/
def SingleReference (p : CompletionPool) : Prop :=
  ∀ i j first second, (p.call i).phase.reference? = some first → (p.call j).phase.reference? = some second →
    (p.call i).req.uploadId = (p.call j).req.uploadId → i = j

/-- A completion does not start while another one of the same upload is between its transactions. -/
def StartsAlone (p : CompletionPool) (m : Move CompletionDraw) : Prop :=
  (p.call m.who).phase = .arrived → ∀ j, j ≠ m.who → (p.call j).req.uploadId = (p.call m.who).req.uploadId →
    ¬ (p.call j).phase.Between

section Steps
variable {svc : AuditService} {draw : CompletionDraw} {req : CompleteRequest} {s s' : UploadState}
  {phase phase' : CompletionPhase}

theorem between_or_done_of_reference {reference : AssetReference} (h : phase.reference? = some reference) :
    phase.Between ∨ phase.Done := by
  cases phase with
  | ingested found => exact Or.inl trivial
  | marked found => exact Or.inr trivial
  | finished result =>
    cases result with
    | error e => cases h
    | ok found => exact Or.inr trivial
  | _ => cases h

theorem not_done_of_between (h : phase.Between) : ¬ phase.Done := by
  cases phase with
  | marked reference => cases h
  | finished result => cases h
  | _ => exact not_false

theorem not_done_ofIngest (ingest : IngestRequest) (phase : IngestPhase) : ¬ (CompletionPhase.ofIngest ingest phase).Done := by
  cases phase with
  | finished result => cases result <;> exact not_false
  | _ => exact not_false

/-- What a step of a completion can do to the uploads, and where it leads. -/
inductive CompletionStep (req : CompleteRequest) (s : UploadState) : CompletionPhase → UploadState → CompletionPhase → Prop
  | refuse (phase : CompletionPhase) (e : Raised) : CompletionStep req s phase s (.finished (.error e))
  | start (upload : MultipartUploadRow) (phase : CompletionPhase) : s.uploads.get? req.uploadId = some upload →
      upload.state = .open → phase.Between → CompletionStep req s .arrived s phase
  | work (phase phase' : CompletionPhase) (s' : UploadState) : phase.Between → ¬ phase'.Done → s'.uploads = s.uploads →
      CompletionStep req s phase s' phase'
  | mark (upload : MultipartUploadRow) (phase phase' : CompletionPhase) (now : Nat) :
      s.uploads.get? req.uploadId = some upload → phase.Between → phase'.Done →
      CompletionStep req s phase
        { s with uploads := s.uploads.set { upload with state := .completed, completedAt := some now } } phase'
  | remove (phase phase' : CompletionPhase) (s' : UploadState) : phase.Done → phase'.Done → s'.uploads = s.uploads →
      CompletionStep req s phase s' phase'

theorem completionStep_of_next (h : completionNext svc draw req s phase = some (s', phase')) :
    CompletionStep req s phase s' phase' := by
  cases phase with
  | arrived =>
    rw [completionNext] at h
    cases hread : readParts s req with
    | error e =>
      rw [hread] at h
      cases h
      exact .refuse _ e
    | ok found =>
      obtain ⟨upload, chunks⟩ := found
      rw [hread] at h
      cases h
      obtain ⟨hupload, _, hopen, _⟩ := readParts_eq_ok.mp hread
      exact .start upload _ hupload hopen trivial
  | read upload chunks =>
    rw [completionNext] at h
    cases hdata : assemble s upload chunks with
    | error e =>
      rw [hdata] at h
      cases h
      exact .refuse _ e
    | ok data =>
      rw [hdata] at h
      cases h
      exact .work _ _ _ trivial not_false rfl
  | ingesting ingest phase =>
    rw [completionNext, Option.map_eq_some_iff] at h
    obtain ⟨r, _, h⟩ := h
    cases h
    exact .work _ _ _ trivial (not_done_ofIngest ingest r.2) rfl
  | ingested reference =>
    rw [completionNext] at h
    cases hmark : markCompleted s req.uploadId draw.completedAt with
    | error e =>
      rw [hmark] at h
      cases h
      exact .refuse _ e
    | ok done =>
      rw [hmark] at h
      cases h
      obtain ⟨upload, hupload, rfl⟩ := markCompleted_eq_ok.mp hmark
      exact .mark upload _ _ _ hupload trivial trivial
  | marked reference =>
    cases h
    exact .remove _ _ _ trivial trivial rfl
  | finished result => cases h

theorem step_completion {calls : Nat → CompletionCall} {who : Nat} (hcall : calls who = ⟨req, phase⟩)
    (h : completionNext svc draw req s phase = some (s', phase')) :
    Pool.step (nextCompletion svc) ⟨s, calls⟩ ⟨who, draw⟩ = ⟨s', Function.update calls who ⟨req, phase'⟩⟩ := by
  apply Pool.step_of_some
  simp only [nextCompletion, hcall, h, Option.map_some]

end Steps

section Exclusion

/-- One completion of an upload at most has passed the first transaction, and what it has marked stays marked. -/
structure Exclusive (p : CompletionPool) : Prop where
  single : ∀ i j, (p.call i).phase.Between ∨ (p.call i).phase.Done → (p.call j).phase.Between ∨ (p.call j).phase.Done →
    (p.call i).req.uploadId = (p.call j).req.uploadId → i = j
  completed : ∀ i, (p.call i).phase.Done → ∃ upload, p.shared.uploads.get? (p.call i).req.uploadId = some upload ∧
    upload.state = .completed

variable {svc : AuditService} {p : CompletionPool} {m : Move CompletionDraw}

theorem exclusive_completing (s : UploadState) (request : Nat → CompleteRequest) : Exclusive (completing s request) := by
  constructor
  · rintro i j (h | h) <;> cases h
  · intro i h
    cases h

theorem Exclusive.singleReference (h : Exclusive p) : SingleReference p := fun i j _ _ hi hj hid =>
  h.single i j (between_or_done_of_reference hi) (between_or_done_of_reference hj) hid

/-- A step that leaves the marks, and after which the moving call holds the upload only if it may. -/
theorem Exclusive.of_step (h : Exclusive p) {s' : UploadState} {phase' : CompletionPhase}
    (hmarks : ∀ uploadId upload, p.shared.uploads.get? uploadId = some upload → upload.state = .completed →
      ∃ upload', s'.uploads.get? uploadId = some upload' ∧ upload'.state = .completed)
    (hown : phase'.Done → ∃ upload, s'.uploads.get? (p.call m.who).req.uploadId = some upload ∧ upload.state = .completed)
    (hholds : phase'.Between ∨ phase'.Done → ∀ j, j ≠ m.who → (p.call j).phase.Between ∨ (p.call j).phase.Done →
      (p.call j).req.uploadId ≠ (p.call m.who).req.uploadId) :
    Exclusive ⟨s', Function.update p.call m.who { p.call m.who with phase := phase' }⟩ := by
  have hcall : ∀ i, Function.update p.call m.who { p.call m.who with phase := phase' } i =
      if i = m.who then { p.call m.who with phase := phase' } else p.call i := by
    intro i
    rw [Function.update_apply]
  constructor
  · intro i j hi hj hid
    simp only [hcall] at hi hj hid
    by_cases him : i = m.who
    · by_cases hjm : j = m.who
      · rw [him, hjm]
      · rw [if_pos him] at hi hid
        rw [if_neg hjm] at hj hid
        exact absurd hid.symm (hholds hi j hjm hj)
    · rw [if_neg him] at hi hid
      by_cases hjm : j = m.who
      · rw [if_pos hjm] at hj hid
        exact absurd hid (hholds hj i him hi)
      · rw [if_neg hjm] at hj hid
        exact h.single i j hi hj hid
  · intro i hi
    simp only [hcall] at hi ⊢
    split
    · rename_i him
      rw [if_pos him] at hi
      exact hown hi
    · rename_i him
      rw [if_neg him] at hi
      obtain ⟨upload, hupload, hstate⟩ := h.completed i hi
      exact hmarks _ upload hupload hstate

theorem exclusive_step (p : CompletionPool) (m : Move CompletionDraw) (hmove : StartsAlone p m) (h : Exclusive p) :
    Exclusive (Pool.step (nextCompletion svc) p m) := by
  cases hnext : nextCompletion svc m.who m.input p.shared (p.call m.who) with
  | none => rwa [Pool.step_of_none hnext]
  | some r =>
    simp only [nextCompletion, Option.map_eq_some_iff] at hnext
    obtain ⟨⟨s', phase'⟩, hphase, rfl⟩ := hnext
    have hstep : Pool.step (nextCompletion svc) p m =
        ⟨s', Function.update p.call m.who { p.call m.who with phase := phase' }⟩ :=
      Pool.step_of_some (by rw [nextCompletion, hphase]; rfl)
    rw [hstep]
    have hkeep : ∀ uploadId upload, p.shared.uploads.get? uploadId = some upload → upload.state = .completed →
        ∃ upload', p.shared.uploads.get? uploadId = some upload' ∧ upload'.state = .completed :=
      fun _ upload hupload hstate => ⟨upload, hupload, hstate⟩
    have hholder : (p.call m.who).phase.Between ∨ (p.call m.who).phase.Done → ∀ j, j ≠ m.who →
        (p.call j).phase.Between ∨ (p.call j).phase.Done → (p.call j).req.uploadId ≠ (p.call m.who).req.uploadId :=
      fun hself j hj hother hid => hj (h.single j m.who hother hself hid)
    have hcase := completionStep_of_next hphase
    generalize hcurrent : (p.call m.who).phase = phase at hcase hholder
    cases hcase with
    | refuse phase e =>
      apply h.of_step hkeep
      · intro hdone
        cases hdone
      · rintro (hfalse | hfalse) <;> cases hfalse
    | start upload _ hupload hopen hbetween =>
      have hnew : ¬ phase'.Done := not_done_of_between hbetween
      apply h.of_step hkeep
      · intro hdone
        exact absurd hdone hnew
      · -- no other call is between its transactions, and none has marked the open upload
        intro _ j hj hother hid
        rcases hother with hother | hother
        · exact hmove hcurrent j hj hid hother
        · obtain ⟨marked, hmarked, hstate⟩ := h.completed j hother
          rw [hid] at hmarked
          cases hupload.symm.trans hmarked
          rw [hopen] at hstate
          cases hstate
    | work phase phase' s' hbetween hdone huploads =>
      apply h.of_step
      · rwa [huploads]
      · intro hnow
        exact absurd hnow hdone
      · exact fun _ => hholder (Or.inl hbetween)
    | mark upload phase phase' now hupload hbetween hdone =>
      have hget := get?_set_completed hupload now
      apply h.of_step
      · intro uploadId found hfound hstate
        by_cases hid : uploadId = (p.call m.who).req.uploadId
        · exact ⟨_, (hget uploadId).trans (if_pos hid), rfl⟩
        · exact ⟨found, (hget uploadId).trans ((if_neg hid).trans hfound), hstate⟩
      · exact fun _ => ⟨_, (hget _).trans (if_pos rfl), rfl⟩
      · exact fun _ => hholder (Or.inl hbetween)
    | remove phase phase' s' hdone hdone' huploads =>
      apply h.of_step
      · rwa [huploads]
      · rw [huploads]
        exact fun _ => h.completed m.who (hcurrent ▸ hdone)
      · exact fun _ => hholder (Or.inr hdone)

/-- Where no completion starts while another one of its upload stands between its transactions, an upload gives at most
one reference, in every state that is reached. -/
theorem single_reference_of_starts_alone (svc : AuditService) (s : UploadState) (request : Nat → CompleteRequest)
    (moves : List (Move CompletionDraw)) (hmoves : Along (Pool.step (nextCompletion svc)) StartsAlone (completing s request) moves) :
    SingleReference (run (Pool.step (nextCompletion svc)) (completing s request) moves) :=
  (run_invariant_along exclusive_step (exclusive_completing s request) hmoves).singleReference

end Exclusion

section Alone
variable {svc : AuditService}

/-- Where only one of the calls moves, it starts alone. -/
theorem starts_alone_of_one_caller {who : Nat} {p : CompletionPool} (hothers : ∀ j, j ≠ who → (p.call j).phase = .arrived)
    (draws : List CompletionDraw) : Along (Pool.step (nextCompletion svc)) StartsAlone p (draws.map fun draw => ⟨who, draw⟩) := by
  induction draws generalizing p with
  | nil => exact trivial
  | cons draw draws ih =>
    refine ⟨?_, ih ?_⟩
    · intro _ j hj _ hbetween
      rw [hothers j hj] at hbetween
      cases hbetween
    · intro j hj
      have hframe : (Pool.step (nextCompletion svc) p ⟨who, draw⟩).call j = p.call j := by
        rw [Pool.step]
        split
        · rfl
        · exact Function.update_of_ne hj _ _
      rw [hframe]
      exact hothers j hj

end Alone

section Sample

def completionDraw (id : String) : CompletionDraw := ⟨drawOf id, 0⟩

/-- The upload with its part, with whatever the database holds. -/
def uploadOver (db : AssetDb) : UploadState := { withPart 1 with service := ⟨db, noteStore⟩ }

theorem uploadOver_stored : uploadOver stored.db = withPart 1 := rfl

/-- An ingest of the file that runs without interruption. -/
theorem run_ingest {db db' : AssetDb} {id : String} {reference : AssetReference} {calls : Nat → CompletionCall} {who : Nat}
    (hcall : calls who = ⟨completeNote, .ingesting note .arrived⟩)
    (hrecord : ingestTransaction .zeroKey db (drawOf id) note noteMetadata = .ok (db', reference)) :
    run (Pool.step (nextCompletion .zeroKey)) ⟨uploadOver db, calls⟩ (List.replicate 4 ⟨who, completionDraw id⟩) =
      ⟨uploadOver db', Function.update calls who ⟨completeNote, .ingested reference⟩⟩ := by
  have hask : completionNext .zeroKey (completionDraw id) completeNote (uploadOver db) (.ingesting note .arrived) =
      some (uploadOver db, .ingesting note .admitted) := rfl
  have hwrite : completionNext .zeroKey (completionDraw id) completeNote (uploadOver db) (.ingesting note .admitted) =
      some (uploadOver db, .ingesting note (.written noteMetadata)) := by
    have hnext := @ingestNext_admitted .zeroKey (drawOf id) note ⟨db, noteStore⟩ noteStore noteMetadata writeBytes_noteStore
    rw [completionNext]
    exact congrArg (Option.map _) hnext
  have hverify : completionNext .zeroKey (completionDraw id) completeNote (uploadOver db) (.ingesting note (.written noteMetadata)) =
      some (uploadOver db, .ingesting note (.verified noteMetadata)) := by
    have hnext := @ingestNext_written .zeroKey (drawOf id) note ⟨db, noteStore⟩ noteMetadata verifyWrite_noteStore
    rw [completionNext]
    exact congrArg (Option.map _) hnext
  have hcommit : completionNext .zeroKey (completionDraw id) completeNote (uploadOver db) (.ingesting note (.verified noteMetadata)) =
      some (uploadOver db', .ingested reference) := by
    have hnext := @ingestNext_verified .zeroKey (drawOf id) note ⟨db, noteStore⟩ noteMetadata _ _ hrecord
    rw [completionNext]
    exact congrArg (Option.map _) hnext
  have hmoves : List.replicate 4 (⟨who, completionDraw id⟩ : Move CompletionDraw) =
      [⟨who, completionDraw id⟩, ⟨who, completionDraw id⟩, ⟨who, completionDraw id⟩, ⟨who, completionDraw id⟩] := rfl
  rw [hmoves, run_cons, step_completion hcall hask, run_cons, step_completion (Function.update_self _ _ _) hwrite, run_cons,
    step_completion (Function.update_self _ _ _) hverify, run_cons, step_completion (Function.update_self _ _ _) hcommit,
    run_nil, Function.update_idem, Function.update_idem, Function.update_idem]

/-- Two completions read the upload, then both ingest its bytes. -/
def bothComplete : List (Move CompletionDraw) :=
  [⟨0, completionDraw "a2"⟩, ⟨1, completionDraw "a3"⟩, ⟨0, completionDraw "a2"⟩, ⟨1, completionDraw "a3"⟩] ++
    List.replicate 4 ⟨0, completionDraw "a2"⟩ ++ List.replicate 4 ⟨1, completionDraw "a3"⟩

def firstHash : String := "85a69beb3dd6084d550337cdd20852c584ce22b9130bf56fea8908f005e84a6d"

set_option maxRecDepth 10000 in
theorem firstNote_eventHash : (AuditService.zeroKey.entry .empty 0 "a2" (note.auditRequest "a2")).eventHash = firstHash := by
  rw [AuditService.entry_eventHash]
  apply canonicalSha256_of_hashesTo
  decide +kernel

set_option maxRecDepth 10000 in
theorem rivalNote_eventHash :
    canonicalSha256 ((AuditService.zeroKey.entry .empty 0 "a3" (note.auditRequest "a3")).body firstHash) ≠ firstHash := by
  rw [canonicalSha256_eq]
  decide +kernel

theorem get?_noteRow : stored.db.assets.get? note.digest = some noteRow :=
  (Table.get?_eq_some_iff _ _ _).mpr ⟨List.mem_singleton_self _, rfl⟩

/-- Both ingests are recorded, one after the other. -/
theorem ingest_twice : ∃ base refs base₂ refs₂, stored.db.refs.insert? (note.row "a2") = some refs ∧
    refs.insert? (note.row "a3") = some refs₂ ∧
    ingestTransaction .zeroKey stored.db (drawOf "a2") note noteMetadata =
      .ok (⟨base, stored.db.assets, refs⟩, note.reference "a2") ∧
    ingestTransaction .zeroKey ⟨base, stored.db.assets, refs⟩ (drawOf "a3") note noteMetadata =
      .ok (⟨base₂, stored.db.assets, refs₂⟩, note.reference "a3") := by
  obtain ⟨log, hlog⟩ := AuditService.append_empty .zeroKey 0 "a2" (note.auditRequest "a2")
  have htenant : (note.auditRequest "a3").tenantId = (note.auditRequest "a2").tenantId := rfl
  obtain ⟨log₂, hlog₂⟩ := AuditService.append_second hlog (show "a3" ≠ "a2" by decide) htenant
    firstNote_eventHash rivalNote_eventHash
  obtain ⟨refs, hrefs, hfirst⟩ := @ingestTransaction_fresh .zeroKey stored.db (drawOf "a2") note noteMetadata
    ⟨"p", "t", "internal", "active"⟩ stored.db.assets { baseStore with audit := log } rfl rfl rfl
    (ensureObject_of_some get?_noteRow rfl) (Store.record_of_append hlog)
  have hfresh : refs.get? "a3" = none := by
    rw [Table.get?_insert hrefs]
    rfl
  obtain ⟨refs₂, hrefs₂, hsecond⟩ := @ingestTransaction_fresh .zeroKey
    ⟨{ baseStore with audit := log }, stored.db.assets, refs⟩ (drawOf "a3") note noteMetadata
    ⟨"p", "t", "internal", "active"⟩ stored.db.assets { baseStore with audit := log₂ } rfl rfl hfresh
    (ensureObject_of_some get?_noteRow rfl) (Store.record_of_append hlog₂)
  exact ⟨_, refs, _, refs₂, hrefs, hrefs₂, hfirst, hsecond⟩

theorem assemble_withPart : ∃ chunks, readParts (withPart 1) completeNote = .ok (emptyUpload.row "u", chunks) ∧
    assemble (withPart 1) (emptyUpload.row "u") chunks = .ok [] := by
  have hprepare := prepareIngest_withPart
  simp only [prepareIngest, bind_eq_ok] at hprepare
  obtain ⟨⟨upload, chunks⟩, hread, data, hdata, hnote⟩ := hprepare
  have hupload : upload = emptyUpload.row "u" := by
    have hfound := (readParts_eq_ok.mp hread).1
    cases hfound
    rfl
  have hbytes : data = [] := congrArg IngestRequest.data (Except.ok.inj hnote)
  rw [hupload] at hread hdata
  rw [hbytes] at hdata
  exact ⟨chunks, hread, hdata⟩

/-- Two references to the bytes of one upload. -/
theorem completions_create_two_references :
    (run (uploadStep .zeroKey) (noUploads stored) (partOnly 1) = withPart 1) ∧
    (∃ first second, first ≠ second ∧
      (run (Pool.step (nextCompletion .zeroKey)) (completing (withPart 1) fun _ => completeNote) bothComplete).shared.service.db.refs.get?
        first = some (note.row first) ∧
      (run (Pool.step (nextCompletion .zeroKey)) (completing (withPart 1) fun _ => completeNote) bothComplete).shared.service.db.refs.get?
        second = some (note.row second)) ∧
    ¬ SingleReference
      (run (Pool.step (nextCompletion .zeroKey)) (completing (withPart 1) fun _ => completeNote) bothComplete) := by
  obtain ⟨chunks, hread, hdata⟩ := assemble_withPart
  obtain ⟨base, refs, base₂, refs₂, hrefs, hrefs₂, hfirst, hsecond⟩ := ingest_twice
  have hstart : ∀ id, completionNext .zeroKey (completionDraw id) completeNote (withPart 1) .arrived =
      some (withPart 1, .read (emptyUpload.row "u") chunks) := by
    intro id
    rw [completionNext, hread]
  have hassemble : ∀ id, completionNext .zeroKey (completionDraw id) completeNote (withPart 1)
      (.read (emptyUpload.row "u") chunks) = some (withPart 1, .ingesting note .arrived) := by
    intro id
    rw [completionNext, hdata]
    rfl
  have hne : (1 : Nat) ≠ 0 := by decide
  let calls₀ : Nat → CompletionCall := fun _ => ⟨completeNote, .arrived⟩
  let calls₁ := Function.update calls₀ 0 ⟨completeNote, .read (emptyUpload.row "u") chunks⟩
  let calls₂ := Function.update calls₁ 1 ⟨completeNote, .read (emptyUpload.row "u") chunks⟩
  let calls₃ := Function.update calls₂ 0 ⟨completeNote, .ingesting note .arrived⟩
  let calls₄ := Function.update calls₃ 1 ⟨completeNote, .ingesting note .arrived⟩
  let calls₅ := Function.update calls₄ 0 ⟨completeNote, .ingested (note.reference "a2")⟩
  let calls₆ := Function.update calls₅ 1 ⟨completeNote, .ingested (note.reference "a3")⟩
  have h₁ : Pool.step (nextCompletion .zeroKey) ⟨withPart 1, calls₀⟩ ⟨0, completionDraw "a2"⟩ = ⟨withPart 1, calls₁⟩ :=
    step_completion rfl (hstart "a2")
  have h₂ : Pool.step (nextCompletion .zeroKey) ⟨withPart 1, calls₁⟩ ⟨1, completionDraw "a3"⟩ = ⟨withPart 1, calls₂⟩ :=
    step_completion (Function.update_of_ne hne _ _) (hstart "a3")
  have h₃ : Pool.step (nextCompletion .zeroKey) ⟨withPart 1, calls₂⟩ ⟨0, completionDraw "a2"⟩ = ⟨withPart 1, calls₃⟩ :=
    step_completion ((Function.update_of_ne hne.symm _ _).trans (Function.update_self _ _ _)) (hassemble "a2")
  have h₄ : Pool.step (nextCompletion .zeroKey) ⟨withPart 1, calls₃⟩ ⟨1, completionDraw "a3"⟩ = ⟨withPart 1, calls₄⟩ :=
    step_completion ((Function.update_of_ne hne _ _).trans (Function.update_self _ _ _)) (hassemble "a3")
  have h₅ := @run_ingest stored.db ⟨base, stored.db.assets, refs⟩ "a2" (note.reference "a2") calls₄ 0
    ((Function.update_of_ne hne.symm _ _).trans (Function.update_self _ _ _)) hfirst
  have h₆ := @run_ingest ⟨base, stored.db.assets, refs⟩ ⟨base₂, stored.db.assets, refs₂⟩ "a3" (note.reference "a3") calls₅ 1
    ((Function.update_of_ne hne _ _).trans (Function.update_self _ _ _)) hsecond
  have hrun : run (Pool.step (nextCompletion .zeroKey)) (completing (withPart 1) fun _ => completeNote) bothComplete =
      ⟨uploadOver ⟨base₂, stored.db.assets, refs₂⟩, calls₆⟩ := by
    have hpool : completing (withPart 1) (fun _ => completeNote) = ⟨withPart 1, calls₀⟩ := rfl
    rw [bothComplete, run_append, run_append, hpool, run_cons, h₁, run_cons, h₂, run_cons, h₃, run_cons, h₄, run_nil,
      ← uploadOver_stored, h₅, h₆]
  rw [hrun]
  refine ⟨run_partOnly (by decide), ⟨"a2", "a3", by decide, ?_, ?_⟩, ?_⟩
  · show refs₂.get? "a2" = some (note.row "a2")
    rw [Table.get?_insert hrefs₂, Table.get?_insert hrefs]
    rfl
  · show refs₂.get? "a3" = some (note.row "a3")
    rw [Table.get?_insert hrefs₂]
    rfl
  · intro hsingle
    have h₀ : calls₆ 0 = ⟨completeNote, .ingested (note.reference "a2")⟩ :=
      (Function.update_of_ne hne.symm _ _).trans (Function.update_self _ _ _)
    have h₁ : calls₆ 1 = ⟨completeNote, .ingested (note.reference "a3")⟩ := Function.update_self _ _ _
    have hsame := hsingle 0 1 (note.reference "a2") (note.reference "a3")
    simp only [h₀, h₁] at hsame
    exact absurd (hsame rfl rfl trivial) (by decide)

/-- One completion runs up to its reference, and the others wait. -/
theorem single_reference_of_one_caller : ∃ p : CompletionPool, (p.call 0).phase.reference? = some (note.reference "a2") ∧
    SingleReference p := by
  obtain ⟨chunks, hread, hdata⟩ := assemble_withPart
  obtain ⟨base, refs, _, _, _, _, hfirst, _⟩ := ingest_twice
  have hstart : completionNext .zeroKey (completionDraw "a2") completeNote (withPart 1) .arrived =
      some (withPart 1, .read (emptyUpload.row "u") chunks) := by
    rw [completionNext, hread]
  have hassemble : completionNext .zeroKey (completionDraw "a2") completeNote (withPart 1)
      (.read (emptyUpload.row "u") chunks) = some (withPart 1, .ingesting note .arrived) := by
    rw [completionNext, hdata]
    rfl
  let calls₀ : Nat → CompletionCall := fun _ => ⟨completeNote, .arrived⟩
  let calls₁ := Function.update calls₀ 0 ⟨completeNote, .read (emptyUpload.row "u") chunks⟩
  let calls₂ := Function.update calls₁ 0 ⟨completeNote, .ingesting note .arrived⟩
  let draws := completionDraw "a2" :: completionDraw "a2" :: List.replicate 4 (completionDraw "a2")
  let moves : List (Move CompletionDraw) := draws.map fun draw => ⟨0, draw⟩
  have h₁ : Pool.step (nextCompletion .zeroKey) ⟨withPart 1, calls₀⟩ ⟨0, completionDraw "a2"⟩ = ⟨withPart 1, calls₁⟩ :=
    step_completion rfl hstart
  have h₂ : Pool.step (nextCompletion .zeroKey) ⟨withPart 1, calls₁⟩ ⟨0, completionDraw "a2"⟩ = ⟨withPart 1, calls₂⟩ :=
    step_completion (Function.update_self _ _ _) hassemble
  have h₃ := @run_ingest stored.db ⟨base, stored.db.assets, refs⟩ "a2" (note.reference "a2") calls₂ 0
    (Function.update_self _ _ _) hfirst
  have hrun : run (Pool.step (nextCompletion .zeroKey)) (completing (withPart 1) fun _ => completeNote) moves =
      ⟨uploadOver ⟨base, stored.db.assets, refs⟩,
        Function.update calls₂ 0 ⟨completeNote, .ingested (note.reference "a2")⟩⟩ := by
    have hpool : completing (withPart 1) (fun _ => completeNote) = ⟨withPart 1, calls₀⟩ := rfl
    have hmoves : moves = ⟨0, completionDraw "a2"⟩ :: ⟨0, completionDraw "a2"⟩ ::
      List.replicate 4 ⟨0, completionDraw "a2"⟩ := rfl
    rw [hmoves, hpool, run_cons, h₁, run_cons, h₂, ← uploadOver_stored, h₃]
  have halone := @starts_alone_of_one_caller .zeroKey 0 (completing (withPart 1) fun _ => completeNote) (fun _ _ => rfl) draws
  refine ⟨_, ?_, single_reference_of_starts_alone .zeroKey (withPart 1) (fun _ => completeNote) moves halone⟩
  rw [hrun]
  show CompletionPhase.reference? (Function.update calls₂ 0 ⟨completeNote, .ingested (note.reference "a2")⟩ 0).phase = _
  rw [Function.update_self]
  rfl

end Sample

end AssetService
end Sip
