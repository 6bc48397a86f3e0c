import Sip.Assets.Envelope
import Sip.Foundation.SortBy
import Sip.Foundation.Table

/-!
# The local content-addressed store

An object is a ciphertext file with a metadata file beside it. Both are replaced and
removed together, so they are one row here, under the digest of the content. Keys and
nonces that an operation draws are inputs.
-/

namespace Sip

set_option autoImplicit false

structure StoredObject where
  digest : String
  ciphertext : Bytes
  metadata : EnvelopeMetadata

structure LocalContentAddressedStore where
  cipher : EnvelopeCipher
  objects : Table StoredObject (fun object => object.digest)

/-- What `rotate_envelope_key` reports. -/
structure RotationReport where
  oldKeyId : String
  newKeyId : String
  objectCount : Nat
  ciphertextUnchanged : Bool

def RotationReport.toDict (r : RotationReport) : Dict := [
  ("old_key_id", .str r.oldKeyId), ("new_key_id", .str r.newKeyId), ("object_count", .int r.objectCount),
  ("ciphertext_unchanged", .bool r.ciphertextUnchanged)]

def validateDigest (digest : String) : Except Raised Unit :=
  raiseIf (isDigest digest = false) (validationError "HASH_INVALID" "content hash must be lowercase SHA-256")

theorem validateDigest_sha256Hex (data : Bytes) : validateDigest (sha256Hex data) = .ok () := by
  rw [validateDigest, raiseIf_eq_ok, isDigest_sha256Hex]
  decide

/-- The additional data that binds a ciphertext to its digest. -/
def binding (digest : String) : Bytes := utf8 digest.toList

theorem length_binding_sha256Hex (data : Bytes) : (binding (sha256Hex data)).length < 2 ^ 31 := by
  have h := length_utf8_le (sha256Hex data).toList
  rw [length_sha256Hex] at h
  exact lt_of_le_of_lt h (by decide)

namespace LocalContentAddressedStore

/-- `root / digest[:2] / digest[2:4] / f"{digest}.enc"`, below the root. -/
def storagePath (digest : String) : String :=
  let cs := digest.toList
  String.ofList (cs.take 2 ++ '/' :: (cs.drop 2).take 2 ++ '/' :: cs ++ ".enc".toList)

def storageKey (digest : String) : Except Raised String := do
  validateDigest digest
  return storagePath digest

def readBytes (st : LocalContentAddressedStore) (digest : String) : Except Raised Bytes := do
  validateDigest digest
  let object ← orRaise (st.objects.get? digest) (notFoundError "content_object" digest)
  let plaintext ← st.cipher.decrypt object.ciphertext object.metadata (binding digest)
  raiseIf (sha256Hex plaintext ≠ digest)
    (validationError "OBJECT_INTEGRITY_FAILED" "decrypted object does not match its content hash")
  return plaintext

/-- Bytes that are there already are compared and kept, with the metadata they were written with. -/
def writeBytes (st : LocalContentAddressedStore) (draw : EnvelopeDraw) (digest : String) (data : Bytes) :
    Except Raised (LocalContentAddressedStore × EnvelopeMetadata) := do
  raiseIf (sha256Hex data ≠ digest)
    (validationError "CONTENT_HASH_MISMATCH" "payload does not match requested content hash")
  validateDigest digest
  match st.objects.get? digest with
  | some object =>
    let existing ← st.readBytes digest
    raiseIf (existing ≠ data) (conflictError "CAS_COLLISION" "existing object does not match content hash")
    return (st, object.metadata)
  | none =>
    let (ciphertext, metadata) ← st.cipher.encrypt draw data (binding digest)
    return ({ st with objects := st.objects.put ⟨digest, ciphertext, metadata⟩ }, metadata)

def delete (st : LocalContentAddressedStore) (digest : String) : Except Raised LocalContentAddressedStore := do
  validateDigest digest
  return { st with objects := st.objects.erase digest }

/-- The rewrapping loop; objects before one that cannot be unwrapped keep their new metadata. -/
def rewrapObjects (cipher newCipher : EnvelopeCipher) (nonces : String → RandomBytes 12) :
    List StoredObject → Table StoredObject (fun object => object.digest) →
      Table StoredObject (fun object => object.digest) × Except Raised Unit
  | [], objects => (objects, .ok ())
  | object :: rest, objects =>
    match cipher.rewrap (nonces object.digest) object.metadata (binding object.digest) newCipher with
    | .error e => (objects, .error e)
    | .ok metadata => rewrapObjects cipher newCipher nonces rest (objects.set { object with metadata })

/-- The objects in the order of their paths. -/
def listed (st : LocalContentAddressedStore) : List StoredObject :=
  sortBy (fun object => object.digest) st.objects.rows

def rotateEnvelopeKey (st : LocalContentAddressedStore) (nonces : String → RandomBytes 12) (newCipher : EnvelopeCipher) :
    LocalContentAddressedStore × Except Raised RotationReport :=
  match rewrapObjects st.cipher newCipher nonces st.listed st.objects with
  | (objects, .error e) => ({ st with objects }, .error e)
  | (objects, .ok ()) =>
    let unchanged := st.listed.all fun object =>
      (objects.get? object.digest).map (fun now => sha256Hex now.ciphertext) = some (sha256Hex object.ciphertext)
    let report : RotationReport := ⟨st.cipher.keyId, newCipher.keyId, st.listed.length, unchanged⟩
    (⟨newCipher, objects⟩, .ok report)

section Laws
variable {st st' : LocalContentAddressedStore} {draw : EnvelopeDraw} {digest : String} {data : Bytes}
  {metadata : EnvelopeMetadata}

/-- The object opens under the cipher to content with its digest. -/
def Opens (cipher : EnvelopeCipher) (object : StoredObject) : Prop :=
  ∃ plaintext, cipher.decrypt object.ciphertext object.metadata (binding object.digest) = .ok plaintext ∧
    sha256Hex plaintext = object.digest

def Intact (st : LocalContentAddressedStore) : Prop := ∀ object ∈ st.objects.rows, Opens st.cipher object

/-- What a successful write does: nothing if the content is there, and otherwise one new object. -/
theorem writeBytes_ok (h : st.writeBytes draw digest data = .ok (st', metadata)) :
    sha256Hex data = digest ∧
    ((∃ object, st.objects.get? digest = some object ∧ object.metadata = metadata ∧ st' = st) ∨
      (st.objects.get? digest = none ∧ ∃ ciphertext,
        st.cipher.encrypt draw data (binding digest) = .ok (ciphertext, metadata) ∧
        st' = { st with objects := st.objects.put ⟨digest, ciphertext, metadata⟩ })) := by
  simp only [writeBytes, bind_eq_ok, raiseIf_eq_ok, not_not] at h
  obtain ⟨_, hdigest, _, _, h⟩ := h
  refine ⟨hdigest, ?_⟩
  cases hobject : st.objects.get? digest with
  | some object =>
    simp only [hobject, bind_eq_ok] at h
    obtain ⟨_, _, _, _, h⟩ := h
    cases h
    exact .inl ⟨object, rfl, rfl, rfl⟩
  | none =>
    simp only [hobject, bind_eq_ok] at h
    obtain ⟨⟨ciphertext, found⟩, hencrypt, h⟩ := h
    cases h
    exact .inr ⟨rfl, ciphertext, hencrypt, rfl⟩

theorem writeBytes_cipher (h : st.writeBytes draw digest data = .ok (st', metadata)) : st'.cipher = st.cipher := by
  obtain ⟨_, ⟨_, _, _, rfl⟩ | ⟨_, _, _, rfl⟩⟩ := writeBytes_ok h <;> rfl

/-- After a write the object is there, with the metadata the write returns. -/
theorem get?_writeBytes_self (h : st.writeBytes draw digest data = .ok (st', metadata)) :
    ∃ object, st'.objects.get? digest = some object ∧ object.metadata = metadata := by
  obtain ⟨_, ⟨object, hobject, hmeta, rfl⟩ | ⟨_, ciphertext, _, rfl⟩⟩ := writeBytes_ok h
  · exact ⟨object, hobject, hmeta⟩
  · exact ⟨⟨digest, ciphertext, metadata⟩, by rw [Table.get?_put, if_pos rfl], rfl⟩

/-- A write leaves the objects that are there as they are. -/
theorem get?_writeBytes_of_some (h : st.writeBytes draw digest data = .ok (st', metadata)) {d : String}
    {object : StoredObject} (hobject : st.objects.get? d = some object) : st'.objects.get? d = some object := by
  obtain ⟨_, ⟨_, _, _, rfl⟩ | ⟨hnone, _, _, rfl⟩⟩ := writeBytes_ok h
  · exact hobject
  · have hne : d ≠ digest := by
      rintro rfl
      cases hnone.symm.trans hobject
    rw [Table.get?_put, if_neg hne]
    exact hobject

theorem get?_writeBytes_of_ne (h : st.writeBytes draw digest data = .ok (st', metadata)) {d : String}
    (hne : d ≠ digest) : st'.objects.get? d = st.objects.get? d := by
  obtain ⟨_, ⟨_, _, _, rfl⟩ | ⟨_, _, _, rfl⟩⟩ := writeBytes_ok h
  · rfl
  · rw [Table.get?_put, if_neg hne]

theorem readBytes_present {plaintext : Bytes} (h : st.readBytes digest = .ok plaintext) :
    ∃ object, st.objects.get? digest = some object := by
  simp only [readBytes, bind_eq_ok, orRaise_eq_ok] at h
  obtain ⟨_, _, object, hobject, _⟩ := h
  exact ⟨object, hobject⟩

theorem delete_ok (h : st.delete digest = .ok st') : st' = { st with objects := st.objects.erase digest } := by
  simp only [delete, bind_eq_ok] at h
  obtain ⟨_, _, h⟩ := h
  cases h
  rfl

theorem Intact.get? (h : st.Intact) {object : StoredObject} (hobject : st.objects.get? digest = some object) :
    Opens st.cipher object ∧ object.digest = digest := by
  obtain ⟨hmem, hkey⟩ := (Table.get?_eq_some_iff _ _ _).mp hobject
  exact ⟨h object hmem, hkey⟩

theorem intact_iff : st.Intact ↔ ∀ d object, st.objects.get? d = some object → Opens st.cipher object := by
  constructor
  · intro h d object hobject
    exact (h.get? hobject).1
  · intro h object hobject
    exact h object.digest object ((Table.get?_eq_some_iff _ _ _).mpr ⟨hobject, rfl⟩)

theorem Intact.writeBytes (hst : st.Intact) (h : st.writeBytes draw digest data = .ok (st', metadata)) : st'.Intact := by
  obtain ⟨hdigest, ⟨_, _, _, rfl⟩ | ⟨_, ciphertext, hencrypt, rfl⟩⟩ := writeBytes_ok h
  · exact hst
  rw [intact_iff]
  intro d object hobject
  rw [Table.get?_put] at hobject
  split at hobject
  · cases hobject
    exact ⟨data, EnvelopeCipher.decrypt_of_encrypt hencrypt, hdigest⟩
  · exact intact_iff.mp hst d object hobject

theorem Intact.delete (hst : st.Intact) (h : st.delete digest = .ok st') : st'.Intact := by
  obtain rfl := delete_ok h
  intro object hobject
  exact hst object (List.mem_of_mem_filter hobject)

/-- An intact object can be read. -/
theorem Intact.readBytes (hst : st.Intact) {object : StoredObject} (hobject : st.objects.get? digest = some object) :
    ∃ plaintext, st.readBytes digest = .ok plaintext ∧ sha256Hex plaintext = digest := by
  obtain ⟨⟨plaintext, hopen, hsha⟩, rfl⟩ := hst.get? hobject
  refine ⟨plaintext, ?_, hsha⟩
  simp only [LocalContentAddressedStore.readBytes, bind_eq_ok, orRaise_eq_ok, raiseIf_eq_ok]
  refine ⟨(), hsha ▸ validateDigest_sha256Hex plaintext, object, hobject, plaintext, hopen, (), not_not.mpr hsha, rfl⟩

/-- Content that does not clash with an object under its digest can be written, and is then read back. -/
theorem Intact.writeBytes_total (hst : st.Intact) (draw : EnvelopeDraw) (hsize : data.length < 2 ^ 31)
    (hfree : ∀ plaintext, st.readBytes (sha256Hex data) = .ok plaintext → plaintext = data) :
    ∃ st' metadata, st.writeBytes draw (sha256Hex data) data = .ok (st', metadata) ∧
      st'.readBytes (sha256Hex data) = .ok data := by
  have hvalid := validateDigest_sha256Hex data
  cases hobject : st.objects.get? (sha256Hex data) with
  | some object =>
    obtain ⟨plaintext, hread, _⟩ := hst.readBytes hobject
    obtain rfl := hfree plaintext hread
    refine ⟨st, object.metadata, ?_, hread⟩
    simp only [LocalContentAddressedStore.writeBytes, bind_eq_ok, raiseIf_eq_ok, not_not, hobject]
    exact ⟨(), trivial, (), hvalid, plaintext, hread, (), rfl, rfl⟩
  | none =>
    obtain ⟨ciphertext, metadata, hencrypt⟩ :=
      EnvelopeCipher.encrypt_total st.cipher draw hsize (length_binding_sha256Hex data)
    refine ⟨{ st with objects := st.objects.put ⟨sha256Hex data, ciphertext, metadata⟩ }, metadata, ?_, ?_⟩
    · simp only [LocalContentAddressedStore.writeBytes, bind_eq_ok, raiseIf_eq_ok, not_not, hobject]
      exact ⟨(), trivial, (), hvalid, _, hencrypt, rfl⟩
    · simp only [LocalContentAddressedStore.readBytes, bind_eq_ok, orRaise_eq_ok, raiseIf_eq_ok, Table.get?_put, if_pos]
      exact ⟨(), hvalid, _, rfl, data, EnvelopeCipher.decrypt_of_encrypt hencrypt, (), not_not.mpr rfl, rfl⟩

end Laws

end LocalContentAddressedStore

end Sip
