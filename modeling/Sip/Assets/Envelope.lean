import Sip.Canonical
import Sip.Errors
import Sip.Foundation.AesGcm
import Sip.Foundation.Base64

/-!
# Envelope encryption of stored objects

Every object has a data key of its own, which is kept next to the ciphertext wrapped
under the master key; rotating the master key rewraps the data keys and leaves the
ciphertexts alone. Random keys and nonces are inputs.
-/

namespace Sip

set_option autoImplicit false

/-- `os.urandom(n)`. -/
abbrev RandomBytes (n : Nat) := { bytes : Bytes // bytes.length = n }

abbrev RandomBytes.zeros (n : Nat) : RandomBytes n := ⟨List.replicate n 0, List.length_replicate⟩

/-- `AESGCM(key).encrypt(nonce, data, aad)`; only 256-bit keys are used. -/
def aesGcmEncrypt (key nonce data aad : Bytes) : Except Raised Bytes := do
  raiseIf (key.length ≠ 32) (.valueError "AESGCM key must be 128, 192, or 256 bits.")
  raiseIf (2 ^ 31 ≤ data.length ∨ 2 ^ 31 ≤ aad.length)
    (.overflowError "Data or associated data too long. Max 2**31 - 1 bytes")
  return Gcm.sealBytes key nonce data aad

/-- `AESGCM(key).decrypt(nonce, data, aad)`. -/
def aesGcmDecrypt (key nonce data aad : Bytes) : Except Raised Bytes := do
  raiseIf (key.length ≠ 32) (.valueError "AESGCM key must be 128, 192, or 256 bits.")
  orRaise (Gcm.openBytes key nonce data aad) .invalidTag

theorem aesGcmEncrypt_eq_ok {key nonce data aad ciphertext : Bytes} :
    aesGcmEncrypt key nonce data aad = .ok ciphertext ↔
      key.length = 32 ∧ (data.length < 2 ^ 31 ∧ aad.length < 2 ^ 31) ∧
        Gcm.sealBytes key nonce data aad = ciphertext := by
  simp only [aesGcmEncrypt, bind_eq_ok, raiseIf_eq_ok, not_not, not_or, not_le, pure, Except.pure, exists_const,
    Except.ok.injEq]

theorem aesGcmEncrypt_total (key : RandomBytes 32) (nonce : Bytes) {data aad : Bytes} (hdata : data.length < 2 ^ 31)
    (haad : aad.length < 2 ^ 31) : aesGcmEncrypt key.val nonce data aad = .ok (Gcm.sealBytes key.val nonce data aad) :=
  aesGcmEncrypt_eq_ok.mpr ⟨key.property, ⟨hdata, haad⟩, rfl⟩

theorem aesGcmDecrypt_of_encrypt {key nonce data aad ciphertext : Bytes}
    (h : aesGcmEncrypt key nonce data aad = .ok ciphertext) : aesGcmDecrypt key nonce ciphertext aad = .ok data := by
  obtain ⟨hkey, _, rfl⟩ := aesGcmEncrypt_eq_ok.mp h
  simp only [aesGcmDecrypt, bind_eq_ok, raiseIf_eq_ok, orRaise_eq_ok]
  exact ⟨(), not_not.mpr hkey, Gcm.openBytes_sealBytes key nonce data aad⟩

structure EnvelopeMetadata where
  algorithm : String
  keyId : String
  contentNonceB64 : String
  wrapNonceB64 : String
  wrappedKeyB64 : String
  aadSha256 : String
  deriving DecidableEq

/-- What `encrypt` draws. -/
structure EnvelopeDraw where
  dataKey : RandomBytes 32
  contentNonce : RandomBytes 12
  wrapNonce : RandomBytes 12

/-- `EnvelopeCipher(master_key, key_id)` refuses keys of another length. -/
structure EnvelopeCipher where
  masterKey : RandomBytes 32
  keyId : String

def decoded (text : String) : Except Raised Bytes := orRaise (b64decode text) (.valueError "Incorrect padding")

theorem decoded_b64encode (data : Bytes) : decoded (b64encode data) = .ok data := by
  rw [decoded, b64decode_b64encode, orRaise]

namespace EnvelopeCipher

def encrypt (c : EnvelopeCipher) (draw : EnvelopeDraw) (plaintext aad : Bytes) :
    Except Raised (Bytes × EnvelopeMetadata) := do
  let ciphertext ← aesGcmEncrypt draw.dataKey.val draw.contentNonce.val plaintext aad
  let wrappedKey ← aesGcmEncrypt c.masterKey.val draw.wrapNonce.val draw.dataKey.val aad
  let metadata : EnvelopeMetadata := {
    algorithm := "AES-256-GCM", keyId := c.keyId, contentNonceB64 := b64encode draw.contentNonce.val,
    wrapNonceB64 := b64encode draw.wrapNonce.val, wrappedKeyB64 := b64encode wrappedKey, aadSha256 := sha256Hex aad }
  return (ciphertext, metadata)

/-- The data key, which only the cipher that wrapped it can read. -/
def unwrap (c : EnvelopeCipher) (metadata : EnvelopeMetadata) (aad : Bytes) : Except Raised Bytes := do
  let wrapNonce ← decoded metadata.wrapNonceB64
  let wrappedKey ← decoded metadata.wrappedKeyB64
  aesGcmDecrypt c.masterKey.val wrapNonce wrappedKey aad

def decrypt (c : EnvelopeCipher) (ciphertext : Bytes) (metadata : EnvelopeMetadata) (aad : Bytes) :
    Except Raised Bytes := do
  raiseIf (metadata.algorithm ≠ "AES-256-GCM")
    (validationError "ENCRYPTION_ALGORITHM_UNSUPPORTED" "unsupported object encryption algorithm")
  raiseIf (metadata.aadSha256 ≠ sha256Hex aad)
    (validationError "ENCRYPTION_AAD_MISMATCH" "encrypted object binding does not match")
  let dataKey ← c.unwrap metadata aad
  let contentNonce ← decoded metadata.contentNonceB64
  aesGcmDecrypt dataKey contentNonce ciphertext aad

def rewrap (c : EnvelopeCipher) (wrapNonce : RandomBytes 12) (metadata : EnvelopeMetadata) (aad : Bytes)
    (newCipher : EnvelopeCipher) : Except Raised EnvelopeMetadata := do
  let dataKey ← c.unwrap metadata aad
  let wrappedKey ← aesGcmEncrypt newCipher.masterKey.val wrapNonce.val dataKey aad
  return { metadata with
    keyId := newCipher.keyId, wrapNonceB64 := b64encode wrapNonce.val, wrappedKeyB64 := b64encode wrappedKey }

section Laws
variable {c c' : EnvelopeCipher} {draw : EnvelopeDraw} {plaintext ciphertext aad dataKey : Bytes}
  {metadata metadata' : EnvelopeMetadata} {wrapNonce : RandomBytes 12}

/-- What the master key has wrapped, it unwraps. -/
theorem unwrap_of_wrapped {wrappedKey : Bytes}
    (hwrap : aesGcmEncrypt c.masterKey.val wrapNonce.val dataKey aad = .ok wrappedKey)
    (hnonce : metadata.wrapNonceB64 = b64encode wrapNonce.val) (hkey : metadata.wrappedKeyB64 = b64encode wrappedKey) :
    c.unwrap metadata aad = .ok dataKey := by
  simp only [unwrap, bind_eq_ok, hnonce, hkey, decoded_b64encode]
  exact ⟨_, rfl, _, rfl, aesGcmDecrypt_of_encrypt hwrap⟩

theorem unwrap_of_encrypt (h : c.encrypt draw plaintext aad = .ok (ciphertext, metadata)) :
    c.unwrap metadata aad = .ok draw.dataKey.val := by
  simp only [encrypt, bind_eq_ok] at h
  obtain ⟨_, _, wrappedKey, hwrap, h⟩ := h
  cases h
  exact unwrap_of_wrapped hwrap rfl rfl

theorem decrypt_of_encrypt (h : c.encrypt draw plaintext aad = .ok (ciphertext, metadata)) :
    c.decrypt ciphertext metadata aad = .ok plaintext := by
  have hunwrap := unwrap_of_encrypt h
  simp only [encrypt, bind_eq_ok] at h
  obtain ⟨_, hseal, wrappedKey, _, h⟩ := h
  cases h
  simp only [decrypt, bind_eq_ok, raiseIf_eq_ok, decoded_b64encode]
  exact ⟨(), not_not.mpr rfl, (), not_not.mpr rfl, _, hunwrap, _, rfl, aesGcmDecrypt_of_encrypt hseal⟩

theorem encrypt_total (c : EnvelopeCipher) (draw : EnvelopeDraw) (hplain : plaintext.length < 2 ^ 31)
    (haad : aad.length < 2 ^ 31) : ∃ ciphertext metadata, c.encrypt draw plaintext aad = .ok (ciphertext, metadata) := by
  have hdata : draw.dataKey.val.length < 2 ^ 31 := by rw [draw.dataKey.property]; decide
  have hseal := aesGcmEncrypt_total draw.dataKey draw.contentNonce.val hplain haad
  have hwrap := aesGcmEncrypt_total c.masterKey draw.wrapNonce.val hdata haad
  simp only [encrypt, bind_eq_ok]
  exact ⟨_, _, _, hseal, _, hwrap, rfl⟩

/-- Rewrapping succeeds on what the old cipher can unwrap, and the new one unwraps the same data key. -/
theorem rewrap_spec (wrapNonce : RandomBytes 12) (c' : EnvelopeCipher) (hkey : dataKey.length = 32)
    (haad : aad.length < 2 ^ 31) (h : c.unwrap metadata aad = .ok dataKey) :
    ∃ metadata', c.rewrap wrapNonce metadata aad c' = .ok metadata' ∧ c'.unwrap metadata' aad = .ok dataKey := by
  have hdata : dataKey.length < 2 ^ 31 := by rw [hkey]; decide
  have hwrap := aesGcmEncrypt_total c'.masterKey wrapNonce.val hdata haad
  refine ⟨{ metadata with
    keyId := c'.keyId, wrapNonceB64 := b64encode wrapNonce.val, wrappedKeyB64 := b64encode _ }, ?_,
    unwrap_of_wrapped hwrap rfl rfl⟩
  simp only [rewrap, bind_eq_ok]
  exact ⟨dataKey, h, _, hwrap, rfl⟩

end Laws

end EnvelopeCipher

end Sip
