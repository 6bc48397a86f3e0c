import Sip.Assets.Service
import Sip.Foundation.Interleaving
import Sip.Foundation.PlainDigests

/-!
# Ingests and tombstones that run at the same time

The steps of an ingest are the deployment gate, the object-store write, the read-back
and the transaction; those of a tombstone are the transaction and the delete after it.
Every live reference keeps its object as long as a delete finds neither a live
reference to the object nor an ingest of it between its read-back and its transaction.
-/

namespace Sip
namespace AssetService

set_option autoImplicit false

/-- How far an ingest has come. -/
inductive IngestPhase where
  | arrived
  | admitted
  | written (metadata : EnvelopeMetadata)
  | verified (metadata : EnvelopeMetadata)
  | finished (result : Except Raised AssetReference)

def ingestNext (svc : AuditService) (draw : IngestDraw) (req : IngestRequest) (s : AssetState) :
    IngestPhase → Option (AssetState × IngestPhase)
  | .arrived =>
    let asked := authorize draw.deployment s.db.toStore req
    let admitted : AssetState := { s with db := { s.db with toStore := asked.1 } }
    match asked.2 with
    | .error e => some (admitted, .finished (.error e))
    | .ok () => some (admitted, .admitted)
  | .admitted => match s.store.writeBytes draw.envelope req.digest req.data with
    | .error e => some (s, .finished (.error e))
    | .ok (store, metadata) => some ({ s with store }, .written metadata)
  | .written metadata => match verifyWrite s.store req with
    | .error e => some (s, .finished (.error e))
    | .ok () => some (s, .verified metadata)
  | .verified metadata => match ingestTransaction svc s.db draw req metadata with
    | .error e => some (s, .finished (.error e))
    | .ok (db, reference) => some ({ s with db }, .finished (.ok reference))
  | .finished _ => none

inductive AssetRequest where
  | ingest (req : IngestRequest)
  | tombstone (req : TombstoneRequest)

inductive AssetCall where
  | ingest (req : IngestRequest) (phase : IngestPhase)
  | tombstone (req : TombstoneRequest)
  | deleting (result : TombstoneResult)
  | finished

def AssetRequest.start : AssetRequest → AssetCall
  | .ingest req => .ingest req .arrived
  | .tombstone req => .tombstone req

/-- A call that has started and not ended. -/
def AssetCall.InProgress : AssetCall → Prop
  | .ingest _ .arrived => False
  | .ingest _ (.finished _) => False
  | .ingest _ _ => True
  | .tombstone _ => False
  | .deleting _ => True
  | .finished => False

def next (svc : AuditService) (_who : Nat) (draw : IngestDraw) (s : AssetState) :
    AssetCall → Option (AssetState × AssetCall)
  | .ingest req phase => (ingestNext svc draw req s phase).map fun r => (r.1, .ingest req r.2)
  | .tombstone req => match tombstoneTransaction svc s.db draw.stamp req with
    | .error _ => some (s, .finished)
    | .ok (db, result) => some ({ s with db }, if TombstoneResult.removes result then .deleting result else .finished)
  | .deleting result => match s.store.delete result.sha256 with
    | .error _ => some (s, .finished)
    | .ok store => some ({ s with store }, .finished)
  | .finished => none

abbrev AssetPool := Pool AssetState AssetCall

/-- Requests that have arrived and not yet started. -/
def waiting (s : AssetState) (request : Nat → AssetRequest) : AssetPool := ⟨s, fun i => (request i).start⟩

section Steps
variable {svc : AuditService} {draw : IngestDraw} {req : IngestRequest} {s s' : AssetState}
  {phase phase' : IngestPhase}

/-- What a step of an ingest can do. -/
inductive IngestStep (svc : AuditService) (draw : IngestDraw) (req : IngestRequest) (s : AssetState) :
    IngestPhase → AssetState → IngestPhase → Prop
  | ask (base : Store) (phase : IngestPhase) : base.projects = s.db.projects →
      (phase = .admitted ∨ ∃ e, phase = .finished (.error e)) →
      IngestStep svc draw req s .arrived { s with db := { s.db with toStore := base } } phase
  | refuse (phase : IngestPhase) (e : Raised) : IngestStep svc draw req s phase s (.finished (.error e))
  | write (store : LocalContentAddressedStore) (metadata : EnvelopeMetadata) :
      s.store.writeBytes draw.envelope req.digest req.data = .ok (store, metadata) →
      IngestStep svc draw req s .admitted { s with store } (.written metadata)
  | verify (metadata : EnvelopeMetadata) : verifyWrite s.store req = .ok () →
      IngestStep svc draw req s (.written metadata) s (.verified metadata)
  | record (metadata : EnvelopeMetadata) (db : AssetDb) (reference : AssetReference) :
      ingestTransaction svc s.db draw req metadata = .ok (db, reference) →
      IngestStep svc draw req s (.verified metadata) { s with db } (.finished (.ok reference))

theorem ingestNext_admitted {store : LocalContentAddressedStore} {metadata : EnvelopeMetadata}
    (h : s.store.writeBytes draw.envelope req.digest req.data = .ok (store, metadata)) :
    ingestNext svc draw req s .admitted = some ({ s with store }, .written metadata) := by
  rw [ingestNext, h]

theorem ingestNext_written {metadata : EnvelopeMetadata} (h : verifyWrite s.store req = .ok ()) :
    ingestNext svc draw req s (.written metadata) = some (s, .verified metadata) := by
  rw [ingestNext, h]

theorem ingestNext_verified {metadata : EnvelopeMetadata} {db : AssetDb} {reference : AssetReference}
    (h : ingestTransaction svc s.db draw req metadata = .ok (db, reference)) :
    ingestNext svc draw req s (.verified metadata) = some ({ s with db }, .finished (.ok reference)) := by
  rw [ingestNext, h]

/-- One more step of the ingest, if it has not ended. -/
def advance (svc : AuditService) (draw : IngestDraw) (req : IngestRequest) (x : AssetState × IngestPhase) (_ : Unit) :
    AssetState × IngestPhase := (ingestNext svc draw req x.1 x.2).getD x

theorem advance_of_next {y : AssetState × IngestPhase} (h : ingestNext svc draw req s phase = some y) :
    advance svc draw req (s, phase) () = y := by
  rw [advance, h, Option.getD_some]

theorem run_advance_finished (result : Except Raised AssetReference) (steps : List Unit) :
    run (advance svc draw req) (s, .finished result) steps = (s, .finished result) := by
  induction steps with
  | nil => rfl
  | cons u steps ih => exact ih

/-- An ingest that nobody interrupts does what `ingest_bytes` does. -/
theorem ingestBytes_eq_phases (svc : AuditService) (draw : IngestDraw) (req : IngestRequest) (s : AssetState) :
    run (advance svc draw req) (s, .arrived) [(), (), (), ()] =
      ((ingestBytes svc draw s req).1, .finished (ingestBytes svc draw s req).2) := by
  let admitted : AssetState := { s with db := { s.db with toStore := (authorize draw.deployment s.db.toStore req).1 } }
  cases hask : (authorize draw.deployment s.db.toStore req).2 with
  | error e =>
    have h₁ : ingestNext svc draw req s .arrived = some (admitted, .finished (.error e)) := by
      simp only [ingestNext, hask]
      rfl
    rw [run_cons, advance_of_next h₁, run_advance_finished]
    simp only [ingestBytes, hask]
    rfl
  | ok u =>
    have h₁ : ingestNext svc draw req s .arrived = some (admitted, .admitted) := by
      simp only [ingestNext, hask]
      rfl
    rw [run_cons, advance_of_next h₁]
    cases hwrite : s.store.writeBytes draw.envelope req.digest req.data with
    | error e =>
      have h₂ : ingestNext svc draw req admitted .admitted = some (admitted, .finished (.error e)) := by
        rw [ingestNext, hwrite]
      rw [run_cons, advance_of_next h₂, run_advance_finished]
      simp only [ingestBytes, hask, hwrite]
      rfl
    | ok r =>
      obtain ⟨store, metadata⟩ := r
      let written : AssetState := { admitted with store }
      have h₂ : ingestNext svc draw req admitted .admitted = some (written, .written metadata) := ingestNext_admitted hwrite
      rw [run_cons, advance_of_next h₂]
      cases hverify : verifyWrite store req with
      | error e =>
        have h₃ : ingestNext svc draw req written (.written metadata) = some (written, .finished (.error e)) := by
          rw [ingestNext, hverify]
        rw [run_cons, advance_of_next h₃, run_advance_finished]
        simp only [ingestBytes, hask, hwrite, hverify]
        rfl
      | ok v =>
        have h₃ : ingestNext svc draw req written (.written metadata) = some (written, .verified metadata) :=
          ingestNext_written hverify
        rw [run_cons, advance_of_next h₃]
        cases hrecord : ingestTransaction svc admitted.db draw req metadata with
        | error e =>
          have h₄ : ingestNext svc draw req written (.verified metadata) = some (written, .finished (.error e)) := by
            rw [ingestNext, hrecord]
          rw [run_cons, advance_of_next h₄, run_nil]
          simp only [admitted] at hrecord
          simp only [ingestBytes, hask, hwrite, hverify, hrecord]
          rfl
        | ok r =>
          obtain ⟨db, reference⟩ := r
          have h₄ : ingestNext svc draw req written (.verified metadata) = some (⟨db, store⟩, .finished (.ok reference)) :=
            ingestNext_verified hrecord
          rw [run_cons, advance_of_next h₄, run_nil]
          simp only [admitted] at hrecord
          simp only [ingestBytes, hask, hwrite, hverify, hrecord]

theorem ingestStep_of_next (h : ingestNext svc draw req s phase = some (s', phase')) :
    IngestStep svc draw req s phase s' phase' := by
  cases phase with
  | arrived =>
    have hprojects := projects_authorize draw.deployment s.db.toStore req
    simp only [ingestNext] at h
    split at h
    · rename_i e _
      cases h
      exact .ask _ _ hprojects (.inr ⟨e, rfl⟩)
    · cases h
      exact .ask _ _ hprojects (.inl rfl)
  | admitted =>
    rw [ingestNext] at h
    split at h
    · cases h
      exact .refuse _ _
    · rename_i store metadata hwrite
      cases h
      exact .write store metadata hwrite
  | written metadata =>
    rw [ingestNext] at h
    split at h
    · cases h
      exact .refuse _ _
    · rename_i hverify
      cases h
      exact .verify metadata hverify
  | verified metadata =>
    rw [ingestNext] at h
    split at h
    · cases h
      exact .refuse _ _
    · rename_i db reference hrecord
      cases h
      exact .record metadata db reference hrecord
  | finished result => cases h

/-- What a step of a call can do. -/
inductive AssetStep (svc : AuditService) (draw : IngestDraw) (s : AssetState) : AssetCall → AssetState → AssetCall → Prop
  | ingest (req : IngestRequest) (phase phase' : IngestPhase) (s' : AssetState) :
      IngestStep svc draw req s phase s' phase' → AssetStep svc draw s (.ingest req phase) s' (.ingest req phase')
  | mark (req : TombstoneRequest) (db : AssetDb) (result : TombstoneResult) (call : AssetCall) :
      tombstoneTransaction svc s.db draw.stamp req = .ok (db, result) → (call = .deleting result ∨ call = .finished) →
      AssetStep svc draw s (.tombstone req) { s with db } call
  | remove (result : TombstoneResult) (store : LocalContentAddressedStore) : s.store.delete result.sha256 = .ok store →
      AssetStep svc draw s (.deleting result) { s with store } .finished
  | stop (call : AssetCall) : AssetStep svc draw s call s .finished

theorem next_ingest {who : Nat} (h : ingestNext svc draw req s phase = some (s', phase')) :
    next svc who draw s (.ingest req phase) = some (s', .ingest req phase') := by
  simp only [next, h, Option.map_some]

theorem assetStep_of_next {who : Nat} {call call' : AssetCall} (h : next svc who draw s call = some (s', call')) :
    AssetStep svc draw s call s' call' := by
  cases call with
  | ingest req phase =>
    simp only [next, Option.map_eq_some_iff] at h
    obtain ⟨⟨state, phase'⟩, hnext, h⟩ := h
    cases h
    exact .ingest req phase phase' _ (ingestStep_of_next hnext)
  | tombstone req =>
    rw [next] at h
    split at h
    · cases h
      exact .stop _
    · rename_i db result htomb
      cases h
      apply AssetStep.mark req db result _ htomb
      split
      · exact .inl rfl
      · exact .inr rfl
  | deleting result =>
    rw [next] at h
    split at h
    · cases h
      exact .stop _
    · rename_i store hdelete
      cases h
      exact .remove result store hdelete
  | finished => cases h

end Steps

section Invariant

def Present (store : LocalContentAddressedStore) (digest : String) : Prop :=
  ∃ object, store.objects.get? digest = some object

/-- Every reference that is not tombstoned points to an object in the store. -/
def Supported (s : AssetState) : Prop := ∀ ref ∈ s.db.refs.rows, Live ref → Present s.store ref.sha256

/-- What a call relies on: between its read-back and its transaction, that the object is there. -/
def Relies (s : AssetState) : AssetCall → Prop
  | .ingest req (.verified _) => Present s.store req.digest
  | _ => True

/-- A delete finds no live reference to its object, and no ingest of it past the read-back. -/
def DeletesUnneeded (p : AssetPool) (m : Move IngestDraw) : Prop :=
  ∀ result, p.call m.who = .deleting result →
    (∀ ref ∈ p.shared.db.refs.rows, Live ref → ref.sha256 ≠ result.sha256) ∧
    ∀ i req metadata, p.call i = .ingest req (.verified metadata) → req.digest ≠ result.sha256

variable {svc : AuditService} {draw : IngestDraw} {req : IngestRequest} {s s' : AssetState}

theorem Present.writeBytes {store store' : LocalContentAddressedStore} {envelope : EnvelopeDraw} {digest d : String}
    {data : Bytes} {metadata : EnvelopeMetadata} (h : store.writeBytes envelope digest data = .ok (store', metadata))
    (hd : Present store d) : Present store' d := by
  obtain ⟨object, hobject⟩ := hd
  exact ⟨object, LocalContentAddressedStore.get?_writeBytes_of_some h hobject⟩

theorem Present.delete {store store' : LocalContentAddressedStore} {digest d : String}
    (h : store.delete digest = .ok store') (hne : d ≠ digest) (hd : Present store d) : Present store' d := by
  obtain rfl := LocalContentAddressedStore.delete_ok h
  obtain ⟨object, hobject⟩ := hd
  exact ⟨object, by rw [Table.get?_erase, if_neg hne, hobject]⟩

/-- The ingest transaction adds at most one live reference, to the content of the request. -/
theorem mem_refs_ingest {db db' : AssetDb} {metadata : EnvelopeMetadata} {reference : AssetReference}
    (h : ingestTransaction svc db draw req metadata = .ok (db', reference)) {ref : AssetRefRow}
    (href : ref ∈ db'.refs.rows) : ref ∈ db.refs.rows ∨ ref = req.row draw.newUuid draw.stamp.now := by
  rcases ingestTransaction_ok h with ⟨rfl, _⟩ | ⟨_, hrefs, _, _⟩
  · exact .inl href
  · rw [(Table.insert?_eq_some hrefs).2, List.mem_append, List.mem_singleton] at href
    exact href

/-- The tombstone transaction adds no live reference. -/
theorem mem_refs_tombstone {db db' : AssetDb} {stamp : Stamp} {treq : TombstoneRequest} {result : TombstoneResult}
    (h : tombstoneTransaction svc db stamp treq = .ok (db', result)) {ref : AssetRefRow}
    (href : ref ∈ db'.refs.rows) (hlive : Live ref) : ref ∈ db.refs.rows := by
  obtain ⟨old, _, _, _, _, _, _, ⟨_, rfl⟩ | ⟨_, instant, hrefs⟩⟩ := tombstoneTransaction_ok h
  · exact href
  · simp only [hrefs, Table.set, List.mem_map] at href
    obtain ⟨before, hbefore, rfl⟩ := href
    split at hlive
    · cases hlive
    · rw [if_neg ‹_›]
      exact hbefore

/-- A step of an ingest removes no object. -/
theorem IngestStep.present {phase phase' : IngestPhase} (h : IngestStep svc draw req s phase s' phase') {d : String}
    (hd : Present s.store d) : Present s'.store d := by
  cases h with
  | ask | refuse | verify | record => exact hd
  | write store metadata hwrite => exact hd.writeBytes hwrite

theorem IngestStep.supported {phase phase' : IngestPhase} (h : IngestStep svc draw req s phase s' phase')
    (hI : Supported s) (hJ : Relies s (.ingest req phase)) :
    Supported s' ∧ Relies s' (.ingest req phase') := by
  cases h with
  | ask base phase hprojects hphase =>
    refine ⟨hI, ?_⟩
    rcases hphase with rfl | ⟨e, rfl⟩ <;> exact trivial
  | refuse phase e => exact ⟨hI, trivial⟩
  | write store metadata hwrite => exact ⟨fun ref href hlive => (hI ref href hlive).writeBytes hwrite, trivial⟩
  | verify metadata hverify => exact ⟨hI, LocalContentAddressedStore.readBytes_present (verifyWrite_ok hverify)⟩
  | record metadata db reference hrecord =>
    refine ⟨?_, trivial⟩
    intro ref href hlive
    rcases mem_refs_ingest hrecord href with hold | rfl
    · exact hI ref hold hlive
    · exact hJ

/-- A step keeps every live reference supported, and what the moving call relies on. -/
theorem step_supported {call call' : AssetCall} (h : AssetStep svc draw s call s' call') (hI : Supported s)
    (hJ : Relies s call)
    (hunneeded : ∀ result, call = .deleting result → ∀ ref ∈ s.db.refs.rows, Live ref → ref.sha256 ≠ result.sha256) :
    Supported s' ∧ Relies s' call' := by
  cases h with
  | ingest req phase phase' s' hstep => exact hstep.supported hI hJ
  | mark req db result call htomb hcall =>
    refine ⟨fun ref href hlive => hI ref (mem_refs_tombstone htomb href hlive) hlive, ?_⟩
    rcases hcall with rfl | rfl <;> exact trivial
  | remove result store hdelete =>
    refine ⟨fun ref href hlive => ?_, trivial⟩
    exact (hI ref href hlive).delete hdelete (hunneeded result rfl ref href hlive)
  | stop => exact ⟨hI, trivial⟩

/-- A step leaves the other calls what they rely on. -/
theorem step_relies {call call' other : AssetCall} (h : AssetStep svc draw s call s' call') (hother : Relies s other)
    (hunneeded : ∀ result, call = .deleting result → ∀ req metadata, other = .ingest req (.verified metadata) →
      req.digest ≠ result.sha256) : Relies s' other := by
  match other with
  | .ingest req (.verified metadata) =>
    cases h with
    | ingest req' phase phase' s' hstep => exact hstep.present hother
    | mark | stop => exact hother
    | remove result store hdelete => exact Present.delete hdelete (hunneeded result rfl req metadata rfl) hother
  | .ingest _ .arrived | .ingest _ .admitted | .ingest _ (.written _) | .ingest _ (.finished _) => exact trivial
  | .tombstone _ | .deleting _ | .finished => exact trivial

/-- Any number of ingests and tombstones, in any interleaving in which a delete finds neither a live reference
to its object nor an ingest of it between read-back and transaction: in every state reached, every live
reference points to an object in the store. -/
theorem live_reference_supported_along (svc : AuditService) (s : AssetState) (request : Nat → AssetRequest)
    (hs : Supported s) (moves : List (Move IngestDraw))
    (hdeletes : Along (Pool.step (next svc)) DeletesUnneeded (waiting s request) moves)
    (past : List (Move IngestDraw)) (hpast : past <+: moves) :
    Supported (run (Pool.step (next svc)) (waiting s request) past).shared := by
  have hstart : Pool.Holds Supported (fun _ => Relies) (waiting s request) := by
    refine ⟨hs, fun i => ?_⟩
    simp only [waiting]
    cases request i <;> exact trivial
  apply (Pool.invariant_along _ _ hstart (hdeletes.of_prefix hpast)).1
  · intro p m s l hP hp hnext
    exact step_supported (assetStep_of_next hnext) hp.1 (hp.2 m.who) (fun result h => (hP result h).1)
  · intro p m s l j hP hp hnext hj
    exact step_relies (assetStep_of_next hnext) (hp.2 j) (fun result h req metadata hcall => (hP result h).2 j req metadata hcall)

end Invariant

section Race

def localCipher : EnvelopeCipher := ⟨.zeros 32, "k1"⟩

def zeroEnvelope : EnvelopeDraw :=
  ⟨.zeros 32, .zeros 12, .zeros 12⟩

/-- An empty file of the project. -/
def note : IngestRequest where
  tenantId := "t"
  projectId := "p"
  data := []
  mediaType := "text/plain"
  originalName := "note"
  classification := .internal
  retentionClass := "standard"
  sourceClass := .observed
  authorityClass := .evidence
  provenance := [("source_ids", .arr [.str "s"])]
  actorId := "ana"

def noteMetadata : EnvelopeMetadata where
  algorithm := "AES-256-GCM"
  keyId := "k1"
  contentNonceB64 := b64encode zeroEnvelope.contentNonce.val
  wrapNonceB64 := b64encode zeroEnvelope.wrapNonce.val
  wrappedKeyB64 := b64encode (Gcm.sealBytes localCipher.masterKey.val zeroEnvelope.wrapNonce.val zeroEnvelope.dataKey.val
    (binding note.digest))
  aadSha256 := sha256Hex (binding note.digest)

def noteObject : StoredObject where
  digest := note.digest
  ciphertext := Gcm.sealBytes zeroEnvelope.dataKey.val zeroEnvelope.contentNonce.val note.data (binding note.digest)
  metadata := noteMetadata

def noteStore : LocalContentAddressedStore := ⟨localCipher, ⟨[noteObject], List.nodup_singleton _⟩⟩

def baseStore : Store := ⟨.empty, ⟨[⟨"p", "t", "internal", "active"⟩], List.nodup_singleton _⟩, [], .empty⟩

def noteRow : AssetRow :=
  ⟨note.digest, 0, "text/plain", LocalContentAddressedStore.storagePath note.digest, noteMetadata, 0⟩

/-- One file, with one reference to it. -/
def stored : AssetState :=
  ⟨⟨baseStore, ⟨[noteRow], List.nodup_singleton _⟩, ⟨[note.row "a1"], List.nodup_singleton _⟩⟩, noteStore⟩

def drawOf (uuid : String) : IngestDraw := ⟨⟨0, uuid⟩, uuid, zeroEnvelope, none⟩

theorem encrypt_note : localCipher.encrypt zeroEnvelope note.data (binding note.digest) =
    .ok (noteObject.ciphertext, noteMetadata) := by
  have haad : (binding note.digest).length < 2 ^ 31 := length_binding_sha256Hex note.data
  have hseal := aesGcmEncrypt_total zeroEnvelope.dataKey zeroEnvelope.contentNonce.val
    (show note.data.length < 2 ^ 31 by decide) haad
  have hwrap := aesGcmEncrypt_total localCipher.masterKey zeroEnvelope.wrapNonce.val
    (show zeroEnvelope.dataKey.val.length < 2 ^ 31 by decide) haad
  simp only [EnvelopeCipher.encrypt, hseal, hwrap]
  rfl

theorem get?_noteStore : noteStore.objects.get? note.digest = some noteObject := by
  rw [Table.get?_eq_some_iff]
  exact ⟨List.mem_singleton.mpr rfl, rfl⟩

theorem readBytes_noteStore : noteStore.readBytes note.digest = .ok note.data := by
  have hopen : noteStore.cipher.decrypt noteObject.ciphertext noteObject.metadata (binding note.digest) = .ok note.data :=
    EnvelopeCipher.decrypt_of_encrypt encrypt_note
  simp only [LocalContentAddressedStore.readBytes, bind_eq_ok, orRaise_eq_ok, raiseIf_eq_ok]
  exact ⟨(), validateDigest_sha256Hex note.data, noteObject, get?_noteStore, note.data, hopen, (), not_not.mpr rfl, rfl⟩

/-- Writing the file again keeps the object. -/
theorem writeBytes_noteStore : noteStore.writeBytes zeroEnvelope note.digest note.data = .ok (noteStore, noteMetadata) := by
  simp only [LocalContentAddressedStore.writeBytes, bind_eq_ok, raiseIf_eq_ok, not_not, get?_noteStore]
  exact ⟨(), rfl, (), validateDigest_sha256Hex note.data, note.data, readBytes_noteStore, (), rfl, rfl⟩

theorem verifyWrite_noteStore : verifyWrite noteStore note = .ok () := by
  simp only [verifyWrite, bind_eq_ok, raiseIf_eq_ok, not_or, not_not]
  exact ⟨note.data, readBytes_noteStore, rfl, rfl⟩

theorem supported_stored : Supported stored := by
  intro ref href _
  rw [List.mem_singleton.mp href]
  exact ⟨noteObject, get?_noteStore⟩

/-- Remove the file. -/
def dropNote : TombstoneRequest := ⟨"t", "p", "a1", "ana", false⟩

def dropResult : TombstoneResult := ⟨"a1", note.digest, 0, true, false⟩

/-- The first request removes the file, the others upload it again. -/
def rivals : Nat → AssetRequest
  | 0 => .tombstone dropNote
  | _ => .ingest note

/-- The removal commits, the upload runs to its end, the removal deletes the object. -/
def lostObject : List (Move IngestDraw) :=
  ⟨0, drawOf "b1"⟩ :: List.replicate 4 ⟨1, drawOf "a2"⟩ ++ [⟨0, drawOf "b1"⟩]

def dropHash : String := "5a5b07fafad2b7ebfc0b9439058340772328eef955e6f87cbe5543d146a232e7"

set_option maxRecDepth 10000 in
theorem dropNote_eventHash :
    (AuditService.zeroKey.entry .empty 0 "b1" (dropNote.auditRequest dropResult)).eventHash = dropHash := by
  rw [AuditService.entry_eventHash]
  apply canonicalSha256_of_hashesTo
  decide +kernel

set_option maxRecDepth 10000 in
theorem secondNote_eventHash :
    canonicalSha256 ((AuditService.zeroKey.entry .empty 0 "a2" (note.auditRequest "a2")).body dropHash) ≠ dropHash := by
  rw [canonicalSha256_eq]
  decide +kernel

/-- The reference to the removed file. -/
def droppedRefs : Table AssetRefRow (fun row => row.assetId) :=
  stored.db.refs.set { note.row "a1" with tombstonedAt := some 0 }

theorem tombstone_stored {log : AuditLog}
    (hlog : AuditService.zeroKey.append .empty 0 "b1" (dropNote.auditRequest dropResult) = .ok log) :
    tombstoneTransaction .zeroKey stored.db ⟨0, "b1"⟩ dropNote =
      .ok (⟨{ baseStore with audit := log }, stored.db.assets, droppedRefs⟩, dropResult) := by
  have hresult : tombstoneResult stored.db (note.row "a1") dropNote = dropResult := by
    have hothers : otherReferences stored.db (note.row "a1") = [] := by simp [otherReferences, stored]
    rw [tombstoneResult, hothers]
    rfl
  have hrecord : stored.db.toStore.record .zeroKey ⟨0, "b1"⟩ (dropNote.auditRequest dropResult) =
      .ok { baseStore with audit := log } := Store.record_of_append hlog
  simp only [tombstoneTransaction, bind_eq_ok, orRaise_eq_ok, raiseIf_eq_ok]
  refine ⟨note.row "a1", rfl, (), nofun, ?_⟩
  have hdry : dropNote.dryRun = false := rfl
  simp only [hresult, hdry, Bool.false_eq_true, if_false, bind_eq_ok]
  exact ⟨_, hrecord, rfl⟩

/-- After the transaction of the removal, before the delete. -/
def marked (log : AuditLog) : AssetState :=
  ⟨⟨{ baseStore with audit := log }, stored.db.assets, droppedRefs⟩, noteStore⟩

theorem next_dropNote {log : AuditLog}
    (hlog : AuditService.zeroKey.append .empty 0 "b1" (dropNote.auditRequest dropResult) = .ok log) :
    next .zeroKey 0 (drawOf "b1") stored (.tombstone dropNote) = some (marked log, .deleting dropResult) := by
  have htomb := tombstone_stored hlog
  simp only [next, drawOf, htomb]
  rfl

theorem ingest_dropped {log : AuditLog}
    (hlog : AuditService.zeroKey.append .empty 0 "b1" (dropNote.auditRequest dropResult) = .ok log) :
    ∃ base refs, droppedRefs.insert? (note.row "a2") = some refs ∧
      ingestTransaction .zeroKey ⟨{ baseStore with audit := log }, stored.db.assets, droppedRefs⟩ (drawOf "a2") note
        noteMetadata = .ok (⟨base, stored.db.assets, refs⟩, note.reference "a2") := by
  have hid : "a2" ≠ "b1" := by decide
  have htenant : (note.auditRequest "a2").tenantId = (dropNote.auditRequest dropResult).tenantId := rfl
  obtain ⟨log₂, hlog₂⟩ := AuditService.append_second hlog hid htenant dropNote_eventHash secondNote_eventHash
  have hrow : stored.db.assets.get? note.digest = some noteRow :=
    (Table.get?_eq_some_iff _ _ _).mpr ⟨List.mem_singleton.mpr rfl, rfl⟩
  have hfresh : droppedRefs.get? "a2" = none := rfl
  obtain ⟨refs, hrefs, hok⟩ := @ingestTransaction_fresh .zeroKey ⟨{ baseStore with audit := log }, stored.db.assets, droppedRefs⟩
    (drawOf "a2") note noteMetadata ⟨"p", "t", "internal", "active"⟩ stored.db.assets { baseStore with audit := log₂ }
    rfl rfl hfresh (ensureObject_of_some hrow rfl) (Store.record_of_append hlog₂)
  exact ⟨_, refs, hrefs, hok⟩

/-- The second upload is complete and has a live reference, and its object is gone. -/
theorem tombstone_removes_needed_object :
    (∀ i, ¬ ((run (Pool.step (next .zeroKey)) (waiting stored rivals) lostObject).call i).InProgress) ∧
      ¬ Supported (run (Pool.step (next .zeroKey)) (waiting stored rivals) lostObject).shared := by
  obtain ⟨log, hlog⟩ := AuditService.append_empty .zeroKey 0 "b1" (dropNote.auditRequest dropResult)
  obtain ⟨base, refs, hrefs, hrecord⟩ := ingest_dropped hlog
  let again : AssetState := ⟨⟨base, stored.db.assets, refs⟩, noteStore⟩
  let gone : AssetState := { again with store := { noteStore with objects := noteStore.objects.erase note.digest } }
  have hask : next .zeroKey 1 (drawOf "a2") (marked log) (.ingest note .arrived) = some (marked log, .ingest note .admitted) := rfl
  have hwrite : next .zeroKey 1 (drawOf "a2") (marked log) (.ingest note .admitted) =
      some (marked log, .ingest note (.written noteMetadata)) :=
    next_ingest (@ingestNext_admitted .zeroKey (drawOf "a2") note (marked log) noteStore noteMetadata writeBytes_noteStore)
  have hverify : next .zeroKey 1 (drawOf "a2") (marked log) (.ingest note (.written noteMetadata)) =
      some (marked log, .ingest note (.verified noteMetadata)) :=
    next_ingest (@ingestNext_written .zeroKey (drawOf "a2") note (marked log) noteMetadata verifyWrite_noteStore)
  have hcommit : next .zeroKey 1 (drawOf "a2") (marked log) (.ingest note (.verified noteMetadata)) =
      some (again, .ingest note (.finished (.ok (note.reference "a2")))) :=
    next_ingest (@ingestNext_verified .zeroKey (drawOf "a2") note (marked log) noteMetadata _ _ hrecord)
  have hdelete : next .zeroKey 0 (drawOf "b1") again (.deleting dropResult) = some (gone, .finished) := by
    have herase : again.store.delete dropResult.sha256 =
        .ok { noteStore with objects := noteStore.objects.erase note.digest } := by
      have hvalid : validateDigest dropResult.sha256 = .ok () := validateDigest_sha256Hex note.data
      simp only [LocalContentAddressedStore.delete, hvalid]
      rfl
    simp only [next, herase]
    rfl
  let calls₀ : Nat → AssetCall := fun i => (rivals i).start
  let calls₁ := Function.update calls₀ 0 (.deleting dropResult)
  let calls₂ := Function.update calls₁ 1 (.ingest note .admitted)
  let calls₃ := Function.update calls₂ 1 (.ingest note (.written noteMetadata))
  let calls₄ := Function.update calls₃ 1 (.ingest note (.verified noteMetadata))
  let calls₅ := Function.update calls₄ 1 (.ingest note (.finished (.ok (note.reference "a2"))))
  let calls₆ := Function.update calls₅ 0 .finished
  have h₁ : Pool.step (next .zeroKey) ⟨stored, calls₀⟩ ⟨0, drawOf "b1"⟩ = ⟨marked log, calls₁⟩ := Pool.step_of_some (next_dropNote hlog)
  have h₂ : Pool.step (next .zeroKey) ⟨marked log, calls₁⟩ ⟨1, drawOf "a2"⟩ = ⟨marked log, calls₂⟩ := Pool.step_of_some hask
  have h₃ : Pool.step (next .zeroKey) ⟨marked log, calls₂⟩ ⟨1, drawOf "a2"⟩ = ⟨marked log, calls₃⟩ := Pool.step_of_some hwrite
  have h₄ : Pool.step (next .zeroKey) ⟨marked log, calls₃⟩ ⟨1, drawOf "a2"⟩ = ⟨marked log, calls₄⟩ := Pool.step_of_some hverify
  have h₅ : Pool.step (next .zeroKey) ⟨marked log, calls₄⟩ ⟨1, drawOf "a2"⟩ = ⟨again, calls₅⟩ := Pool.step_of_some hcommit
  have h₆ : Pool.step (next .zeroKey) ⟨again, calls₅⟩ ⟨0, drawOf "b1"⟩ = ⟨gone, calls₆⟩ := Pool.step_of_some hdelete
  have hrun : run (Pool.step (next .zeroKey)) (waiting stored rivals) lostObject = ⟨gone, calls₆⟩ := by
    have hstart : waiting stored rivals = ⟨stored, calls₀⟩ := rfl
    have hmoves : lostObject = [⟨0, drawOf "b1"⟩, ⟨1, drawOf "a2"⟩, ⟨1, drawOf "a2"⟩, ⟨1, drawOf "a2"⟩,
      ⟨1, drawOf "a2"⟩, ⟨0, drawOf "b1"⟩] := rfl
    rw [hmoves, hstart, run_cons, h₁, run_cons, h₂, run_cons, h₃, run_cons, h₄, run_cons, h₅, run_cons, h₆, run_nil]
  rw [hrun]
  refine ⟨?_, ?_⟩
  · intro i
    cases i with
    | zero =>
      simp only [calls₆, Function.update_self]
      exact not_false
    | succ k =>
      by_cases hk : k + 1 = 1
      · simp only [calls₆, calls₅, Function.update_of_ne (Nat.succ_ne_zero k), hk, Function.update_self]
        exact not_false
      · simp only [calls₆, calls₅, calls₄, calls₃, calls₂, calls₁, calls₀, Function.update_of_ne (Nat.succ_ne_zero k),
          Function.update_of_ne hk]
        exact not_false
  · intro hsupported
    have href : note.row "a2" ∈ gone.db.refs.rows := by
      have hrows : refs.rows = droppedRefs.rows ++ [note.row "a2"] := (Table.insert?_eq_some hrefs).2
      simp [gone, again, hrows]
    obtain ⟨object, hobject⟩ := hsupported _ href rfl
    have hnone : gone.store.objects.get? note.digest = none := by
      simp only [gone]
      rw [Table.get?_erase, if_pos rfl]
    cases hnone.symm.trans hobject

/-- The removal commits and deletes the object with no upload in between. -/
def removedAlone : List (Move IngestDraw) := [⟨0, drawOf "b1"⟩, ⟨0, drawOf "b1"⟩]

theorem live_reference_supported_removedAlone :
    Supported stored ∧ Along (Pool.step (next .zeroKey)) DeletesUnneeded (waiting stored rivals) removedAlone ∧
    Supported (run (Pool.step (next .zeroKey)) (waiting stored rivals) removedAlone).shared := by
  obtain ⟨log, hlog⟩ := AuditService.append_empty .zeroKey 0 "b1" (dropNote.auditRequest dropResult)
  have hmark : Pool.step (next .zeroKey) (waiting stored rivals) ⟨0, drawOf "b1"⟩ =
      ⟨marked log, Function.update (fun i => (rivals i).start) 0 (.deleting dropResult)⟩ :=
    Pool.step_of_some (next_dropNote hlog)
  have halong : Along (Pool.step (next .zeroKey)) DeletesUnneeded (waiting stored rivals) removedAlone := by
    refine ⟨?_, ?_, trivial⟩
    · intro result hcall
      cases hcall
    rw [hmark]
    intro result _
    refine ⟨?_, ?_⟩
    · intro ref href hlive
      rw [List.mem_singleton.mp href] at hlive
      cases hlive
    · intro i req metadata hcall
      cases i with
      | zero => cases hcall
      | succ k => cases hcall
  exact ⟨supported_stored, halong, live_reference_supported_along .zeroKey stored rivals supported_stored removedAlone halong
    removedAlone (List.prefix_refl _)⟩

end Race

end AssetService
end Sip
