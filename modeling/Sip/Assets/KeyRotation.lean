import Sip.Assets.Store
import Sip.Foundation.HashEvaluation
import Sip.PyValue

/-!
# Rotation of the envelope key

The files of a local store: ciphertexts, and metadata beside them that may be missing or
unreadable. A rotation rewraps the metadata in the order of the paths, each in its place,
and takes over the new key when all of them are done. If one of them is refused, the ones
before it are left wrapped under a key that the store does not use.

The cipher is a parameter: what envelopes rely on, of which AES-GCM is an instance.
-/

namespace Sip

set_option autoImplicit false

/-- `AESGCM(key)`: `encrypt` and `decrypt` take the key, the nonce, the text and the additional data. -/
structure Aead where
  encrypt : Bytes → Bytes → Bytes → Bytes → Except Raised Bytes
  decrypt : Bytes → Bytes → Bytes → Bytes → Except Raised Bytes
  encrypt_total : ∀ (key : RandomBytes 32) (nonce : RandomBytes 12) (data aad : Bytes), data.length < 2 ^ 31 →
    aad.length < 2 ^ 31 → ∃ sealed, encrypt key.val nonce.val data aad = .ok sealed
  decrypt_encrypt : ∀ key nonce data aad sealed, encrypt key nonce data aad = .ok sealed →
    decrypt key nonce sealed aad = .ok data
  key_length : ∀ key nonce data aad sealed, decrypt key nonce sealed aad = .ok data → key.length ≤ 32

namespace Aead

/-- What has been encrypted under one key is refused under every other. -/
def Authentic (aead : Aead) : Prop :=
  ∀ key key' nonce data aad sealed, key ≠ key' → aead.encrypt key nonce data aad = .ok sealed →
    ∀ opened, aead.decrypt key' nonce sealed aad ≠ .ok opened

def aesGcm : Aead where
  encrypt := aesGcmEncrypt
  decrypt := aesGcmDecrypt
  encrypt_total key nonce _ _ hdata haad := ⟨_, aesGcmEncrypt_total key nonce.val hdata haad⟩
  decrypt_encrypt _ _ _ _ _ h := aesGcmDecrypt_of_encrypt h
  key_length key nonce data aad sealed h := by
    simp only [aesGcmDecrypt, bind_eq_ok, raiseIf_eq_ok, not_not] at h
    obtain ⟨_, hkey, _⟩ := h
    exact hkey.le

end Aead

/-- A file with the ending `.enc`, under its digest. -/
structure ObjectFile where
  digest : String
  ciphertext : Bytes
  valid : isDigest digest = true

/-- A file with the ending `.meta.json`, as `json.loads` reads it; nothing where it does not. -/
structure MetadataFile where
  digest : String
  content : Option Json

structure ObjectDirectory where
  cipher : EnvelopeCipher
  objects : Table ObjectFile (fun file => file.digest)
  metadata : Table MetadataFile (fun file => file.digest)

namespace ObjectDirectory

section Envelopes
variable (aead : Aead)

/-- `metadata[key]`, as an argument of `b64decode`. -/
def textField (fields : Dict) (key : String) : Except Raised String :=
  match fields.lookup key with
  | none => .error (.keyError key)
  | some (.str text) => .ok text
  | some _ => .error (.typeError "argument should be a bytes-like object or ASCII string")

def bytesField (fields : Dict) (key : String) : Except Raised Bytes := do
  let text ← textField fields key
  decoded text

/-- The data key. -/
def unwrap (c : EnvelopeCipher) (fields : Dict) (aad : Bytes) : Except Raised Bytes := do
  let wrapNonce ← bytesField fields "wrap_nonce_b64"
  let wrappedKey ← bytesField fields "wrapped_key_b64"
  aead.decrypt c.masterKey.val wrapNonce wrappedKey aad

/-- `EnvelopeCipher.decrypt`. -/
def decrypt (c : EnvelopeCipher) (ciphertext : Bytes) (metadata : Json) (aad : Bytes) : Except Raised Bytes :=
  match metadata with
  | .obj fields => do
    raiseIf (¬ (Dict.get fields "algorithm").isText "AES-256-GCM")
      (validationError "ENCRYPTION_ALGORITHM_UNSUPPORTED" "unsupported object encryption algorithm")
    raiseIf (¬ (Dict.get fields "aad_sha256").isText (sha256Hex aad))
      (validationError "ENCRYPTION_AAD_MISMATCH" "encrypted object binding does not match")
    let dataKey ← unwrap aead c fields aad
    let contentNonce ← bytesField fields "content_nonce_b64"
    aead.decrypt dataKey contentNonce ciphertext aad
  | _ => .error (.attributeError "object has no attribute 'get'")

/-- What `rewrap` puts in the place of three fields. -/
def rewrapped (fields : Dict) (keyId : String) (wrapNonce wrappedKey : Bytes) : Dict :=
  ((fields.set "key_id" (.str keyId)).set "wrap_nonce_b64" (.str (b64encode wrapNonce))).set "wrapped_key_b64"
    (.str (b64encode wrappedKey))

/-- `EnvelopeCipher.rewrap`. -/
def rewrap (c newCipher : EnvelopeCipher) (wrapNonce : RandomBytes 12) (metadata : Json) (aad : Bytes) : Except Raised Dict :=
  match metadata with
  | .obj fields => do
    let dataKey ← unwrap aead c fields aad
    let wrappedKey ← aead.encrypt newCipher.masterKey.val wrapNonce.val dataKey aad
    return rewrapped fields newCipher.keyId wrapNonce.val wrappedKey
  | _ => .error (.typeError "indices must be integers or slices, not str")

end Envelopes

section Files
variable (aead : Aead)

def readBytes (st : ObjectDirectory) (digest : String) : Except Raised Bytes := do
  validateDigest digest
  let object ← orRaise (st.objects.get? digest) (notFoundError "content_object" digest)
  let file ← orRaise (st.metadata.get? digest) (notFoundError "content_object" digest)
  let metadata ← orRaise file.content (.valueError "Expecting value")
  let plaintext ← decrypt aead st.cipher object.ciphertext metadata (binding digest)
  raiseIf (sha256Hex plaintext ≠ digest)
    (validationError "OBJECT_INTEGRITY_FAILED" "decrypted object does not match its content hash")
  return plaintext

variable (c newCipher : EnvelopeCipher) (nonces : String → RandomBytes 12)

/-- The new content of a metadata file. -/
def rewrapFile (files : Table MetadataFile (fun file => file.digest)) (object : ObjectFile) : Except Raised Dict := do
  let file ← orRaise (files.get? object.digest) (.fileNotFoundError (object.digest ++ ".meta.json"))
  let metadata ← orRaise file.content (.valueError "Expecting value")
  rewrap aead c newCipher (nonces object.digest) metadata (binding object.digest)

/-- The loop over the paths; files before one that is refused keep their new content. -/
def rewrapFiles : List ObjectFile → Table MetadataFile (fun file => file.digest) →
    Table MetadataFile (fun file => file.digest) × Except Raised Unit
  | [], files => (files, .ok ())
  | object :: rest, files =>
    match rewrapFile aead c newCipher nonces files object with
    | .error e => (files, .error e)
    | .ok replacement => rewrapFiles rest (files.set ⟨object.digest, some (.obj replacement)⟩)

/-- `sorted(self.root.rglob("*.enc"))`. -/
def listed (st : ObjectDirectory) : List ObjectFile := sortBy (fun file => file.digest) st.objects.rows

def rotateEnvelopeKey (st : ObjectDirectory) : ObjectDirectory × Except Raised RotationReport :=
  match rewrapFiles aead st.cipher newCipher nonces st.listed st.metadata with
  | (metadata, .error e) => ({ st with metadata }, .error e)
  | (metadata, .ok ()) =>
    let unchanged := st.listed.all fun object =>
      (st.objects.get? object.digest).map (fun now => sha256Hex now.ciphertext) = some (sha256Hex object.ciphertext)
    ({ st with cipher := newCipher, metadata }, .ok ⟨st.cipher.keyId, newCipher.keyId, st.listed.length, unchanged⟩)

/-- The rewrapping of the object is refused. -/
def Refused (st : ObjectDirectory) (object : ObjectFile) : Prop :=
  ∀ replacement, rewrapFile aead st.cipher newCipher nonces st.metadata object ≠ .ok replacement

end Files

section Envelope
variable {aead : Aead} {c c' : EnvelopeCipher} {fields fields' : Dict} {ciphertext aad data : Bytes} {wrapNonce : RandomBytes 12}

theorem rewrap_eq_ok {metadata : Json} : rewrap aead c c' wrapNonce metadata aad = .ok fields' ↔
    ∃ fields dataKey wrappedKey, metadata = .obj fields ∧ unwrap aead c fields aad = .ok dataKey ∧
      aead.encrypt c'.masterKey.val wrapNonce.val dataKey aad = .ok wrappedKey ∧
      fields' = rewrapped fields c'.keyId wrapNonce.val wrappedKey := by
  constructor
  · intro h
    cases metadata with
    | obj fields =>
      obtain ⟨dataKey, hunwrap, h⟩ := bind_eq_ok.mp h
      obtain ⟨wrappedKey, hwrap, h⟩ := bind_eq_ok.mp h
      cases h
      exact ⟨fields, dataKey, wrappedKey, rfl, hunwrap, hwrap, rfl⟩
    | _ => cases h
  · rintro ⟨fields, dataKey, wrappedKey, rfl, hunwrap, hwrap, rfl⟩
    exact bind_eq_ok.mpr ⟨dataKey, hunwrap, bind_eq_ok.mpr ⟨wrappedKey, hwrap, rfl⟩⟩

/-- The fields that a rewrapping leaves alone. -/
theorem lookup_rewrapped {keyId : String} {nonce wrappedKey : Bytes} {key : String}
    (h : key ∉ ["key_id", "wrap_nonce_b64", "wrapped_key_b64"]) :
    (rewrapped fields keyId nonce wrappedKey).lookup key = fields.lookup key := by
  simp only [List.mem_cons, List.not_mem_nil, or_false, not_or] at h
  obtain ⟨hid, hnonce, hwrapped⟩ := h
  rw [rewrapped, Dict.lookup_set, if_neg hwrapped, Dict.lookup_set, if_neg hnonce, Dict.lookup_set, if_neg hid]

/-- The wrapping that a rewrapping leaves is the one it has just made. -/
theorem unwrap_rewrapped {keyId : String} {wrappedKey : Bytes} :
    unwrap aead c (rewrapped fields keyId wrapNonce.val wrappedKey) aad =
      aead.decrypt c.masterKey.val wrapNonce.val wrappedKey aad := by
  have hnonce : bytesField (rewrapped fields keyId wrapNonce.val wrappedKey) "wrap_nonce_b64" = .ok wrapNonce.val := by
    simp [bytesField, textField, rewrapped, Dict.lookup_set, decoded_b64encode, bind, Except.bind]
  have hwrapped : bytesField (rewrapped fields keyId wrapNonce.val wrappedKey) "wrapped_key_b64" = .ok wrappedKey := by
    simp [bytesField, textField, rewrapped, Dict.lookup_set, decoded_b64encode, bind, Except.bind]
  rw [unwrap, hnonce, hwrapped]
  rfl

/-- What decryption reads, besides the data key. -/
structure Opens (aead : Aead) (fields : Dict) (dataKey ciphertext aad data : Bytes) : Prop where
  algorithm : (Dict.get fields "algorithm").isText "AES-256-GCM" = true
  bound : (Dict.get fields "aad_sha256").isText (sha256Hex aad) = true
  content : ∃ nonce, bytesField fields "content_nonce_b64" = .ok nonce ∧ aead.decrypt dataKey nonce ciphertext aad = .ok data

theorem decrypt_eq_ok {metadata : Json} : decrypt aead c ciphertext metadata aad = .ok data ↔
    ∃ fields dataKey, metadata = .obj fields ∧ unwrap aead c fields aad = .ok dataKey ∧
      Opens aead fields dataKey ciphertext aad data := by
  constructor
  · intro h
    cases metadata with
    | obj fields =>
      simp only [decrypt, bind_eq_ok, raiseIf_eq_ok, not_not] at h
      obtain ⟨_, halgorithm, _, hbound, dataKey, hunwrap, nonce, hnonce, hopen⟩ := h
      exact ⟨fields, dataKey, rfl, hunwrap, halgorithm, hbound, nonce, hnonce, hopen⟩
    | _ => cases h
  · rintro ⟨fields, dataKey, rfl, hunwrap, halgorithm, hbound, nonce, hnonce, hopen⟩
    simp only [decrypt, bind_eq_ok, raiseIf_eq_ok, not_not]
    exact ⟨(), halgorithm, (), hbound, dataKey, hunwrap, nonce, hnonce, hopen⟩

theorem Opens.rewrapped {dataKey : Bytes} {keyId : String} {nonce wrappedKey : Bytes}
    (h : Opens aead fields dataKey ciphertext aad data) :
    Opens aead (rewrapped fields keyId nonce wrappedKey) dataKey ciphertext aad data where
  algorithm := by
    rw [Dict.get, lookup_rewrapped (by decide)]
    exact h.algorithm
  bound := by
    rw [Dict.get, lookup_rewrapped (by decide)]
    exact h.bound
  content := by
    rw [bytesField, textField, lookup_rewrapped (by decide)]
    exact h.content

/-- Under the new key a rewrapped object opens as it did. -/
theorem decrypt_rewrapped {c'' : EnvelopeCipher} (hopen : decrypt aead c ciphertext (.obj fields) aad = .ok data)
    (hwrap : rewrap aead c c' wrapNonce (.obj fields) aad = .ok fields') (hkey : c''.masterKey = c'.masterKey) :
    decrypt aead c'' ciphertext (.obj fields') aad = .ok data := by
  obtain ⟨_, dataKey, hfields, hunwrap, hopens⟩ := decrypt_eq_ok.mp hopen
  cases hfields
  obtain ⟨_, dataKey', wrappedKey, hfields, hunwrap', hseal, rfl⟩ := rewrap_eq_ok.mp hwrap
  cases hfields
  cases Except.ok.inj (hunwrap.symm.trans hunwrap')
  refine decrypt_eq_ok.mpr ⟨_, dataKey, rfl, ?_, hopens.rewrapped⟩
  rw [unwrap_rewrapped, hkey]
  exact aead.decrypt_encrypt _ _ _ _ _ hseal

/-- Under any other key it does not open. -/
theorem decrypt_rewrapped_ne (hauth : aead.Authentic) {metadata : Json} (hkey : c'.masterKey ≠ c.masterKey)
    (hwrap : rewrap aead c c' wrapNonce metadata aad = .ok fields') :
    decrypt aead c ciphertext (.obj fields') aad ≠ .ok data := by
  obtain ⟨fields, dataKey, wrappedKey, rfl, _, hseal, rfl⟩ := rewrap_eq_ok.mp hwrap
  intro hopen
  obtain ⟨_, opened, hfields, hunwrap, _⟩ := decrypt_eq_ok.mp hopen
  cases hfields
  rw [unwrap_rewrapped] at hunwrap
  exact hauth _ _ _ _ _ _ (fun h => hkey (Subtype.ext h)) hseal opened hunwrap

/-- What opens can be rewrapped. -/
theorem rewrap_of_decrypt (c' : EnvelopeCipher) (wrapNonce : RandomBytes 12) (haad : aad.length < 2 ^ 31) {metadata : Json}
    (hopen : decrypt aead c ciphertext metadata aad = .ok data) :
    ∃ replacement, rewrap aead c c' wrapNonce metadata aad = .ok replacement := by
  obtain ⟨fields, dataKey, rfl, hunwrap, _, _, nonce, _, hdecrypt⟩ := decrypt_eq_ok.mp hopen
  have hlength := aead.key_length _ _ _ _ _ hdecrypt
  obtain ⟨wrappedKey, hseal⟩ := aead.encrypt_total c'.masterKey wrapNonce dataKey aad (by omega) haad
  exact ⟨_, rewrap_eq_ok.mpr ⟨fields, dataKey, wrappedKey, rfl, hunwrap, hseal, rfl⟩⟩

end Envelope

section Loop
variable {aead : Aead} {c newCipher : EnvelopeCipher} {nonces : String → RandomBytes 12}
  {files files' : Table MetadataFile (fun file => file.digest)} {object : ObjectFile} {objects : List ObjectFile}

theorem rewrapFile_eq_ok {replacement : Dict} : rewrapFile aead c newCipher nonces files object = .ok replacement ↔
    ∃ file metadata, files.get? object.digest = some file ∧ file.content = some metadata ∧
      rewrap aead c newCipher (nonces object.digest) metadata (binding object.digest) = .ok replacement := by
  simp only [rewrapFile, bind_eq_ok, orRaise_eq_ok]
  constructor
  · rintro ⟨file, hfile, metadata, hcontent, hwrap⟩
    exact ⟨file, metadata, hfile, hcontent, hwrap⟩
  · rintro ⟨file, metadata, hfile, hcontent, hwrap⟩
    exact ⟨file, hfile, metadata, hcontent, hwrap⟩

theorem rewrapFile_congr (h : files'.get? object.digest = files.get? object.digest) :
    rewrapFile aead c newCipher nonces files' object = rewrapFile aead c newCipher nonces files object := by
  rw [rewrapFile, rewrapFile, h]

/-- The objects that the loop gets through. -/
def accepted (aead : Aead) (c newCipher : EnvelopeCipher) (nonces : String → RandomBytes 12)
    (files : Table MetadataFile (fun file => file.digest)) (objects : List ObjectFile) : List ObjectFile :=
  objects.takeWhile fun object => (rewrapFile aead c newCipher nonces files object).isOk

theorem accepted_congr (h : ∀ object ∈ objects, files'.get? object.digest = files.get? object.digest) :
    accepted aead c newCipher nonces files' objects = accepted aead c newCipher nonces files objects := by
  induction objects with
  | nil => rfl
  | cons object objects ih =>
    have hrest := ih fun other hother => h other (List.mem_cons_of_mem object hother)
    rw [accepted, accepted] at hrest ⊢
    rw [List.takeWhile_cons, List.takeWhile_cons, rewrapFile_congr (h object List.mem_cons_self), hrest]

/-- Files of objects that the loop does not get to are left as they are. -/
theorem get?_rewrapFiles_of_not_mem {digest : String} (hnodup : (objects.map fun file => file.digest).Nodup)
    (h : digest ∉ (accepted aead c newCipher nonces files objects).map fun file => file.digest) :
    (rewrapFiles aead c newCipher nonces objects files).1.get? digest = files.get? digest := by
  induction objects generalizing files with
  | nil => rfl
  | cons object objects ih =>
    rw [List.map_cons, List.nodup_cons] at hnodup
    rw [rewrapFiles]
    split
    · rfl
    · next replacement hwrap =>
      have hne : ∀ other ∈ objects, other.digest ≠ object.digest := by
        intro other hother heq
        exact hnodup.1 (heq ▸ List.mem_map_of_mem hother)
      have hsame : accepted aead c newCipher nonces (files.set ⟨object.digest, some (.obj replacement)⟩) objects =
          accepted aead c newCipher nonces files objects :=
        accepted_congr fun other hother => Table.get?_set_of_ne files (hne other hother)
      rw [accepted, List.takeWhile_cons_of_pos (by rw [hwrap]; rfl), List.map_cons, List.mem_cons, not_or] at h
      rw [ih hnodup.2 (by rw [hsame]; exact h.2)]
      exact Table.get?_set_of_ne files h.1

/-- Files of objects that the loop gets through have their new content. -/
theorem get?_rewrapFiles_of_mem (hnodup : (objects.map fun file => file.digest).Nodup)
    (h : object ∈ accepted aead c newCipher nonces files objects) :
    ∃ replacement, rewrapFile aead c newCipher nonces files object = .ok replacement ∧
      (rewrapFiles aead c newCipher nonces objects files).1.get? object.digest =
        some ⟨object.digest, some (.obj replacement)⟩ := by
  induction objects generalizing files with
  | nil => exact absurd h List.not_mem_nil
  | cons first objects ih =>
    rw [List.map_cons, List.nodup_cons] at hnodup
    rw [accepted] at h
    cases hwrap : rewrapFile aead c newCipher nonces files first with
    | error e =>
      rw [List.takeWhile_cons_of_neg (by rw [hwrap]; exact Bool.false_ne_true)] at h
      exact absurd h List.not_mem_nil
    | ok replacement =>
      rw [List.takeWhile_cons_of_pos (by rw [hwrap]; rfl)] at h
      have hne : ∀ other ∈ objects, other.digest ≠ first.digest := by
        intro other hother heq
        exact hnodup.1 (heq ▸ List.mem_map_of_mem hother)
      have hsame : accepted aead c newCipher nonces (files.set ⟨first.digest, some (.obj replacement)⟩) objects =
          accepted aead c newCipher nonces files objects :=
        accepted_congr fun other hother => Table.get?_set_of_ne files (hne other hother)
      have hloop : rewrapFiles aead c newCipher nonces (first :: objects) files =
          rewrapFiles aead c newCipher nonces objects (files.set ⟨first.digest, some (.obj replacement)⟩) := by
        rw [rewrapFiles, hwrap]
      rw [hloop]
      rcases List.mem_cons.mp h with rfl | hrest
      · refine ⟨replacement, hwrap, ?_⟩
        obtain ⟨file, _, hfile, _⟩ := rewrapFile_eq_ok.mp hwrap
        rw [get?_rewrapFiles_of_not_mem hnodup.2]
        · exact Table.get?_set_self files hfile
        · intro hmem
          obtain ⟨other, hother, heq⟩ := List.mem_map.mp hmem
          exact hne other (List.takeWhile_subset _ hother) heq
      · have hrest : object ∈ accepted aead c newCipher nonces (files.set ⟨first.digest, some (.obj replacement)⟩) objects := by
          rw [hsame]
          exact hrest
        obtain ⟨own, hown, hget⟩ := ih hnodup.2 hrest
        have hin : object ∈ objects := List.takeWhile_subset _ hrest
        rw [rewrapFile_congr (Table.get?_set_of_ne files (hne object hin))] at hown
        exact ⟨own, hown, hget⟩

/-- The loop ends well when nothing is refused. -/
theorem rewrapFiles_ok_iff (hnodup : (objects.map fun file => file.digest).Nodup) :
    (rewrapFiles aead c newCipher nonces objects files).2 = .ok () ↔
      ∀ object ∈ objects, ∃ replacement, rewrapFile aead c newCipher nonces files object = .ok replacement := by
  induction objects generalizing files with
  | nil => simp [rewrapFiles]
  | cons first objects ih =>
    rw [List.map_cons, List.nodup_cons] at hnodup
    rw [rewrapFiles, List.forall_mem_cons]
    split
    · next e hwrap =>
      refine iff_of_false (fun h => by cases h) ?_
      rintro ⟨⟨replacement, hok⟩, _⟩
      cases hwrap.symm.trans hok
    · next replacement hwrap =>
      rw [ih hnodup.2]
      have hsame : ∀ other ∈ objects,
          rewrapFile aead c newCipher nonces (files.set ⟨first.digest, some (.obj replacement)⟩) other =
            rewrapFile aead c newCipher nonces files other := by
        intro other hother
        apply rewrapFile_congr
        apply Table.get?_set_of_ne
        intro heq
        have heq : other.digest = first.digest := heq
        exact hnodup.1 (heq ▸ List.mem_map_of_mem hother)
      constructor
      · intro hrest
        refine ⟨⟨replacement, hwrap⟩, ?_⟩
        intro other hother
        rw [← hsame other hother]
        exact hrest other hother
      · intro hall other hother
        rw [hsame other hother]
        exact hall.2 other hother

end Loop

section Rotation
variable {aead : Aead} {newCipher : EnvelopeCipher} {nonces : String → RandomBytes 12} {st : ObjectDirectory}
  {digest : String} {data : Bytes}

theorem nodup_listed (st : ObjectDirectory) : (st.listed.map fun file => file.digest).Nodup :=
  (((perm_sortBy (fun file : ObjectFile => file.digest) st.objects.rows).map _).nodup_iff).mpr st.objects.nodup

theorem mem_listed {object : ObjectFile} : object ∈ st.listed ↔ object ∈ st.objects.rows := mem_sortBy

theorem readBytes_eq_ok : readBytes aead st digest = .ok data ↔
    isDigest digest = true ∧ sha256Hex data = digest ∧ ∃ object file metadata, st.objects.get? digest = some object ∧
      st.metadata.get? digest = some file ∧ file.content = some metadata ∧
      decrypt aead st.cipher object.ciphertext metadata (binding digest) = .ok data := by
  simp only [readBytes, validateDigest, bind_eq_ok, raiseIf_eq_ok, orRaise_eq_ok, Bool.not_eq_false, ne_eq, not_not]
  constructor
  · rintro ⟨_, hdigest, object, hobject, file, hfile, metadata, hcontent, plaintext, hopen, _, hhash, h⟩
    cases h
    exact ⟨hdigest, hhash, object, file, metadata, hobject, hfile, hcontent, hopen⟩
  · rintro ⟨hdigest, hhash, object, file, metadata, hobject, hfile, hcontent, hopen⟩
    exact ⟨(), hdigest, object, hobject, file, hfile, metadata, hcontent, data, hopen, (), hhash, rfl⟩

/-- An object that can be read is accepted exactly when nothing before it is refused. -/
theorem mem_accepted_iff {object : ObjectFile} (hread : readBytes aead st object.digest = .ok data)
    (hobject : st.objects.get? object.digest = some object) :
    object ∈ accepted aead st.cipher newCipher nonces st.metadata st.listed ↔
      ∀ first ∈ st.objects.rows, Refused aead newCipher nonces st first → ¬ first.digest < object.digest := by
  have hsorted : st.listed.Pairwise fun a b => a.digest < b.digest := by
    have h := pairwise_lt_sortBy st.objects.nodup
    exact List.pairwise_map.mp h
  have hin := ((Table.get?_eq_some_iff _ _ _).mp hobject).1
  rw [accepted, mem_takeWhile_iff hsorted, mem_listed]
  constructor
  · rintro ⟨_, hall⟩ first hfirst hrefused hlt
    have hok := hall first (mem_listed.mpr hfirst) hlt.le
    cases hwrap : rewrapFile aead st.cipher newCipher nonces st.metadata first with
    | error e =>
      rw [hwrap] at hok
      exact Bool.false_ne_true hok
    | ok replacement => exact hrefused replacement hwrap
  · intro hfree
    refine ⟨hin, ?_⟩
    intro first hfirst hle
    obtain ⟨replacement, hwrap⟩ : ∃ replacement,
        rewrapFile aead st.cipher newCipher nonces st.metadata first = .ok replacement := by
      rcases hle.lt_or_eq with hlt | heq
      · by_contra hnone
        exact hfree first (mem_listed.mp hfirst) (fun replacement h => hnone ⟨replacement, h⟩) hlt
      · have hsame : first = object :=
          List.inj_on_of_nodup_map st.objects.nodup (mem_listed.mp hfirst) hin heq
        rw [hsame]
        obtain ⟨_, hhash, _, file, metadata, _, hfile, hcontent, hopen⟩ := readBytes_eq_ok.mp hread
        have haad : (binding object.digest).length < 2 ^ 31 := hhash ▸ length_binding_sha256Hex data
        obtain ⟨replacement, hwrap⟩ := rewrap_of_decrypt newCipher (nonces object.digest) haad hopen
        exact ⟨replacement, rewrapFile_eq_ok.mpr ⟨file, metadata, hfile, hcontent, hwrap⟩⟩
    rw [hwrap]
    rfl

theorem objects_rotate : (rotateEnvelopeKey aead newCipher nonces st).1.objects = st.objects := by
  unfold rotateEnvelopeKey
  split <;> rfl

theorem metadata_rotate : (rotateEnvelopeKey aead newCipher nonces st).1.metadata =
    (rewrapFiles aead st.cipher newCipher nonces st.listed st.metadata).1 := by
  unfold rotateEnvelopeKey
  split
  · next metadata e hloop => rw [hloop]
  · next metadata hloop => rw [hloop]

/-- A rotation in which nothing is refused takes over the new cipher. -/
theorem cipher_rotate_of_none (h : ∀ object ∈ st.objects.rows, ¬ Refused aead newCipher nonces st object) :
    (rotateEnvelopeKey aead newCipher nonces st).1.cipher = newCipher := by
  have hloop : (rewrapFiles aead st.cipher newCipher nonces st.listed st.metadata).2 = .ok () := by
    rw [rewrapFiles_ok_iff (nodup_listed st)]
    intro object hobject
    by_contra hnone
    exact h object (mem_listed.mp hobject) fun replacement hwrap => hnone ⟨replacement, hwrap⟩
  unfold rotateEnvelopeKey
  split
  · next metadata e hended =>
    rw [hended] at hloop
    cases hloop
  · rfl

/-- A rotation in which an object is refused keeps the cipher. -/
theorem cipher_rotate_of_refused {object : ObjectFile} (hobject : object ∈ st.objects.rows)
    (h : Refused aead newCipher nonces st object) : (rotateEnvelopeKey aead newCipher nonces st).1.cipher = st.cipher := by
  unfold rotateEnvelopeKey
  split
  · rfl
  · next metadata hended =>
    have hloop : (rewrapFiles aead st.cipher newCipher nonces st.listed st.metadata).2 = .ok () := by rw [hended]
    obtain ⟨replacement, hwrap⟩ := (rewrapFiles_ok_iff (nodup_listed st)).mp hloop object (mem_listed.mpr hobject)
    exact absurd hwrap (h replacement)

/-- An object that the loop has got through reads as before under the new key. -/
theorem readBytes_rotate_of_accepted {object : ObjectFile} (hread : readBytes aead st object.digest = .ok data)
    (hobject : st.objects.get? object.digest = some object)
    (haccepted : object ∈ accepted aead st.cipher newCipher nonces st.metadata st.listed)
    (hkey : (rotateEnvelopeKey aead newCipher nonces st).1.cipher.masterKey = newCipher.masterKey) :
    readBytes aead (rotateEnvelopeKey aead newCipher nonces st).1 object.digest = .ok data := by
  obtain ⟨hdigest, hhash, own, file, metadata, hown, hfile, hcontent, hopen⟩ := readBytes_eq_ok.mp hread
  cases hobject.symm.trans hown
  obtain ⟨replacement, hwrap, hget⟩ := get?_rewrapFiles_of_mem (nodup_listed st) haccepted
  obtain ⟨file', metadata', hfile', hcontent', hwrap⟩ := rewrapFile_eq_ok.mp hwrap
  cases hfile.symm.trans hfile'
  cases hcontent.symm.trans hcontent'
  obtain ⟨fields, _, rfl, _⟩ := decrypt_eq_ok.mp hopen
  refine readBytes_eq_ok.mpr ⟨hdigest, hhash, object,
    ⟨object.digest, some (.obj replacement)⟩, .obj replacement, ?_, ?_, rfl, ?_⟩
  · rw [objects_rotate]
    exact hobject
  · rw [metadata_rotate]
    exact hget
  · exact decrypt_rewrapped hopen hwrap hkey

/-- An object that the loop has not got to reads as before under the old key. -/
theorem readBytes_rotate_of_not_accepted {object : ObjectFile} (hread : readBytes aead st object.digest = .ok data)
    (hobject : st.objects.get? object.digest = some object)
    (haccepted : object ∉ accepted aead st.cipher newCipher nonces st.metadata st.listed)
    (hcipher : (rotateEnvelopeKey aead newCipher nonces st).1.cipher = st.cipher) :
    readBytes aead (rotateEnvelopeKey aead newCipher nonces st).1 object.digest = .ok data := by
  have hnot : object.digest ∉
      (accepted aead st.cipher newCipher nonces st.metadata st.listed).map fun file => file.digest := by
    intro hmem
    obtain ⟨other, hother, heq⟩ := List.mem_map.mp hmem
    have hin := mem_listed.mp (List.takeWhile_subset _ hother)
    have hsame : other = object :=
      List.inj_on_of_nodup_map st.objects.nodup hin ((Table.get?_eq_some_iff _ _ _).mp hobject).1 heq
    exact haccepted (hsame ▸ hother)
  obtain ⟨hdigest, hhash, own, file, metadata, hown, hfile, hcontent, hopen⟩ := readBytes_eq_ok.mp hread
  refine readBytes_eq_ok.mpr ⟨hdigest, hhash, own, file, metadata, ?_, ?_, hcontent, ?_⟩
  · rw [objects_rotate]
    exact hown
  · rw [metadata_rotate, get?_rewrapFiles_of_not_mem (nodup_listed st) hnot]
    exact hfile
  · rw [hcipher]
    exact hopen

/-- An object that the loop has got through is lost under any other key. -/
theorem readBytes_rotate_ne {object : ObjectFile} (hauth : aead.Authentic) (hkey : newCipher.masterKey ≠ st.cipher.masterKey)
    (haccepted : object ∈ accepted aead st.cipher newCipher nonces st.metadata st.listed)
    (hcipher : (rotateEnvelopeKey aead newCipher nonces st).1.cipher = st.cipher) :
    readBytes aead (rotateEnvelopeKey aead newCipher nonces st).1 object.digest ≠ .ok data := by
  intro hread
  obtain ⟨replacement, hwrap, hget⟩ := get?_rewrapFiles_of_mem (nodup_listed st) haccepted
  obtain ⟨_, metadata, _, _, hwrap⟩ := rewrapFile_eq_ok.mp hwrap
  obtain ⟨_, _, own, file, content, _, hfile, hcontent, hopen⟩ := readBytes_eq_ok.mp hread
  rw [metadata_rotate, hget] at hfile
  cases hfile
  cases hcontent
  rw [hcipher] at hopen
  exact decrypt_rewrapped_ne hauth hkey hwrap hopen

end Rotation

section Stores

/-- The metadata as it stands in its file. -/
def metadataFields (metadata : EnvelopeMetadata) : Dict := [
  ("aad_sha256", .str metadata.aadSha256), ("algorithm", .str metadata.algorithm),
  ("content_nonce_b64", .str metadata.contentNonceB64), ("key_id", .str metadata.keyId),
  ("wrap_nonce_b64", .str metadata.wrapNonceB64), ("wrapped_key_b64", .str metadata.wrappedKeyB64)]

/-- With both files in their places, an object is decrypted as the store has it. -/
theorem decrypt_metadataFields (c : EnvelopeCipher) (ciphertext : Bytes) (metadata : EnvelopeMetadata) (aad : Bytes) :
    decrypt .aesGcm c ciphertext (.obj (metadataFields metadata)) aad = c.decrypt ciphertext metadata aad := by
  have htext : ∀ a b : String, (¬ (Json.str a).isText b = true) = (a ≠ b) := by
    intro a b
    rw [Json.isText_iff, Json.str.injEq]
  have hunwrap : unwrap .aesGcm c (metadataFields metadata) aad = c.unwrap metadata aad := rfl
  simp only [decrypt, EnvelopeCipher.decrypt, hunwrap]
  show (do
    raiseIf (¬ (Json.str metadata.algorithm).isText "AES-256-GCM") _
    raiseIf (¬ (Json.str metadata.aadSha256).isText (sha256Hex aad)) _
    let dataKey ← c.unwrap metadata aad
    let contentNonce ← decoded metadata.contentNonceB64
    aesGcmDecrypt dataKey contentNonce ciphertext aad) = _
  simp only [raiseIf, htext]

theorem rewrap_metadataFields (c newCipher : EnvelopeCipher) (wrapNonce : RandomBytes 12) (metadata : EnvelopeMetadata)
    (aad : Bytes) : rewrap .aesGcm c newCipher wrapNonce (.obj (metadataFields metadata)) aad =
      metadataFields <$> c.rewrap wrapNonce metadata aad newCipher := by
  show (do
    let dataKey ← c.unwrap metadata aad
    let wrappedKey ← aesGcmEncrypt newCipher.masterKey.val wrapNonce.val dataKey aad
    return metadataFields { metadata with
      keyId := newCipher.keyId, wrapNonceB64 := b64encode wrapNonce.val, wrappedKeyB64 := b64encode wrappedKey }) = _
  simp only [EnvelopeCipher.rewrap, map_bind, map_pure]

end Stores

section Sample

/-- A cipher that writes the key, the nonce and the additional data in front of the text. -/
def labelled : Aead where
  encrypt key nonce data aad :=
    if key.length = 32 then .ok (key ++ (nonce ++ (aad ++ data))) else .error (.valueError "key length")
  decrypt key nonce sealed aad :=
    if key.length = 32 ∧ key ++ (nonce ++ aad) <+: sealed then .ok (sealed.drop (key ++ (nonce ++ aad)).length)
    else .error .invalidTag
  encrypt_total key nonce data aad _ _ := ⟨_, if_pos key.property⟩
  decrypt_encrypt key nonce data aad sealed h := by
    split at h
    · next hkey =>
      cases h
      have hsplit : key ++ (nonce ++ (aad ++ data)) = (key ++ (nonce ++ aad)) ++ data := by simp
      rw [hsplit, if_pos ⟨hkey, List.prefix_append _ _⟩, List.drop_left]
    · cases h
  key_length key nonce data aad sealed h := by
    split at h
    · next hopen => exact hopen.1.le
    · cases h

theorem authentic_labelled : labelled.Authentic := by
  intro key key' nonce data aad sealed hne hseal opened hopen
  simp only [labelled] at hseal hopen
  split at hseal
  · next hkey =>
    cases hseal
    split at hopen
    · next hstart =>
      obtain ⟨hkey', hstart⟩ := hstart
      have hown : key' <+: key ++ (nonce ++ (aad ++ data)) := (List.prefix_append _ _).trans hstart
      have hown' : key <+: key ++ (nonce ++ (aad ++ data)) := List.prefix_append _ _
      have hlength : key.length = key'.length := by rw [hkey, hkey']
      exact hne ((List.prefix_of_prefix_length_le hown' hown hlength.le).eq_of_length hlength)
    · cases hopen
  · cases hseal

def oldCipher : EnvelopeCipher := ⟨.zeros 32, "k1"⟩

def freshCipher : EnvelopeCipher := ⟨⟨List.replicate 32 1, rfl⟩, "k2"⟩

def zeroNonces : String → RandomBytes 12 := fun _ => ⟨List.replicate 12 0, rfl⟩

/-- The metadata that the old cipher leaves, with this cipher in the place of AES-GCM. -/
def sealedFields (dataKey nonce aad : Bytes) : Dict := [
  ("aad_sha256", .str (sha256Hex aad)), ("algorithm", .str "AES-256-GCM"), ("content_nonce_b64", .str (b64encode nonce)),
  ("key_id", .str "k1"), ("wrap_nonce_b64", .str (b64encode nonce)),
  ("wrapped_key_b64", .str (b64encode (oldCipher.masterKey.val ++ (nonce ++ (aad ++ dataKey)))))]

theorem encrypt_labelled {key : Bytes} (hkey : key.length = 32) (nonce data aad : Bytes) :
    labelled.encrypt key nonce data aad = .ok (key ++ (nonce ++ (aad ++ data))) := if_pos hkey

theorem decrypt_sealedFields {dataKey : Bytes} (hkey : dataKey.length = 32) (nonce aad data : Bytes) :
    decrypt labelled oldCipher (dataKey ++ (nonce ++ (aad ++ data))) (.obj (sealedFields dataKey nonce aad)) aad = .ok data := by
  have hwrapNonce : bytesField (sealedFields dataKey nonce aad) "wrap_nonce_b64" = .ok nonce := decoded_b64encode nonce
  have hwrapped : bytesField (sealedFields dataKey nonce aad) "wrapped_key_b64" =
      .ok (oldCipher.masterKey.val ++ (nonce ++ (aad ++ dataKey))) := decoded_b64encode _
  have hnonce : bytesField (sealedFields dataKey nonce aad) "content_nonce_b64" = .ok nonce := decoded_b64encode nonce
  have hunwrap : unwrap labelled oldCipher (sealedFields dataKey nonce aad) aad = .ok dataKey := by
    rw [unwrap, hwrapNonce, hwrapped]
    exact labelled.decrypt_encrypt _ _ _ _ _ (encrypt_labelled oldCipher.masterKey.property nonce dataKey aad)
  have hopen : labelled.decrypt dataKey nonce (dataKey ++ (nonce ++ (aad ++ data))) aad = .ok data :=
    labelled.decrypt_encrypt _ _ _ _ _ (encrypt_labelled hkey nonce data aad)
  have halgorithm : Dict.get (sealedFields dataKey nonce aad) "algorithm" = .str "AES-256-GCM" := rfl
  have hbound : Dict.get (sealedFields dataKey nonce aad) "aad_sha256" = .str (sha256Hex aad) := rfl
  have hopens : Opens labelled (sealedFields dataKey nonce aad) dataKey (dataKey ++ (nonce ++ (aad ++ data))) aad data :=
    ⟨Json.isText_iff.mpr halgorithm, Json.isText_iff.mpr hbound, nonce, hnonce, hopen⟩
  exact decrypt_eq_ok.mpr ⟨sealedFields dataKey nonce aad, dataKey, rfl, hunwrap, hopens⟩

def emptyDigest : String := "e3b0c44298fc1c149afbf4c8996fb92427ae41e4649b934ca495991b7852b855"

theorem sha256Hex_nil : sha256Hex [] = emptyDigest := by
  rw [sha256Hex, sha256_eq_digestWords]
  decide +kernel

def dataKey : Bytes := List.replicate 32 2

def nonce : Bytes := List.replicate 12 0

/-- An empty file. -/
def emptyFile : ObjectFile where
  digest := emptyDigest
  ciphertext := dataKey ++ (nonce ++ (binding emptyDigest ++ []))
  valid := by
    rw [← sha256Hex_nil]
    exact isDigest_sha256Hex []

def emptyMetadata : MetadataFile := ⟨emptyDigest, some (.obj (sealedFields dataKey nonce (binding emptyDigest)))⟩

/-- A ciphertext without metadata, behind all others. -/
def bareFile : ObjectFile := ⟨String.ofList (List.replicate 64 'f'), [], by decide⟩

def oneFile : ObjectDirectory := ⟨oldCipher, ⟨[emptyFile], List.nodup_singleton _⟩, ⟨[emptyMetadata], List.nodup_singleton _⟩⟩

theorem emptyDigest_ne : emptyDigest ≠ bareFile.digest := by decide

theorem not_bareFile_lt : ¬ bareFile.digest < emptyDigest := by decide

def twoFiles : ObjectDirectory := { oneFile with
  objects := ⟨[emptyFile, bareFile], by
    rw [List.map_cons, List.nodup_cons]
    refine ⟨?_, List.nodup_singleton _⟩
    rw [List.map_singleton, List.mem_singleton]
    exact emptyDigest_ne⟩ }

theorem readBytes_emptyFile {st : ObjectDirectory} (hcipher : st.cipher = oldCipher)
    (hobject : st.objects.get? emptyDigest = some emptyFile) (hfile : st.metadata.get? emptyDigest = some emptyMetadata) :
    readBytes labelled st emptyDigest = .ok [] := by
  refine readBytes_eq_ok.mpr ⟨emptyFile.valid, sha256Hex_nil, emptyFile, emptyMetadata, _, hobject, hfile, rfl, ?_⟩
  rw [hcipher]
  exact decrypt_sealedFields rfl nonce (binding emptyDigest) []

theorem get?_twoFiles : twoFiles.objects.get? emptyDigest = some emptyFile :=
  (Table.get?_eq_some_iff _ _ _).mpr ⟨List.mem_cons_self, rfl⟩

theorem get?_oneFile : oneFile.objects.get? emptyDigest = some emptyFile :=
  (Table.get?_eq_some_iff _ _ _).mpr ⟨List.mem_cons_self, rfl⟩

theorem get?_emptyMetadata : oneFile.metadata.get? emptyDigest = some emptyMetadata :=
  (Table.get?_eq_some_iff _ _ _).mpr ⟨List.mem_cons_self, rfl⟩

end Sample

end ObjectDirectory
end Sip
