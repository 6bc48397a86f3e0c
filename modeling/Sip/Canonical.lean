import Sip.Foundation.Sha256
import Sip.Foundation.CivilTime

/-!
# Canonical JSON bytes and their SHA-256

`canonical_json` sorts keys, writes compact separators and encodes as UTF-8;
`canonical_sha256` is the hexadecimal digest of those bytes. The bytes determine
the JSON value.
-/

namespace Sip

set_option autoImplicit false

/-- `text.encode()`. -/
def utf8 (cs : List Char) : Bytes := cs.flatMap String.utf8EncodeChar

theorem utf8_injective {cs ds : List Char} (h : utf8 cs = utf8 ds) : cs = ds := by
  have hb : cs.utf8Encode = ds.utf8Encode := congrArg List.toByteArray h
  rw [← String.toByteArray_ofList, ← String.toByteArray_ofList, String.toByteArray_inj] at hb
  exact String.ofList_injective hb

theorem length_utf8_le (cs : List Char) : (utf8 cs).length ≤ 4 * cs.length := by
  induction cs with
  | nil => simp [utf8]
  | cons c cs ih =>
    have := Char.utf8Size_le_four c
    simp only [utf8, List.flatMap_cons, List.length_append, List.length_cons, String.length_utf8EncodeChar] at ih ⊢
    omega

/-- `sha256_bytes(data)`. -/
def sha256Hex (data : Bytes) : String := hex (sha256 data)

theorem length_sha256Hex (data : Bytes) : (sha256Hex data).toList.length = 64 := by
  rw [sha256Hex, hex, String.toList_ofList, length_hexText, length_sha256]

def isHexText (cs : List Char) : Bool := cs.all fun c => hexAlphabet.contains c

/-- The pattern `^[a-f0-9]{64}$`. -/
def isDigest (text : String) : Bool := text.toList.length = 64 ∧ isHexText text.toList = true

theorem isDigest_sha256Hex (data : Bytes) : isDigest (sha256Hex data) = true := by
  have hdigit : ∀ n, hexAlphabet.contains (hexDigit n) = true := by
    intro n
    rw [hexDigit, List.getD_eq_getElem?_getD]
    cases hc : hexAlphabet[n]? with
    | none => decide
    | some c => simpa using List.mem_of_getElem? hc
  have htext : isHexText (sha256Hex data).toList = true := by
    rw [isHexText, sha256Hex, hex, String.toList_ofList, hexText, List.all_flatMap, List.all_eq_true]
    intro b _
    simp only [List.all_cons, List.all_nil, hdigit, Bool.and_true]
  simp only [isDigest, length_sha256Hex, htext, decide_true, and_self]

def canonicalJson (value : Json) : Bytes := utf8 value.normalize.encode

def canonicalSha256 (value : Json) : String := hex (sha256 (canonicalJson value))

theorem length_canonicalSha256 (v : Json) : (canonicalSha256 v).toList.length = 64 := length_sha256Hex _

theorem isDigest_canonicalSha256 (v : Json) : isDigest (canonicalSha256 v) = true := isDigest_sha256Hex _

theorem same_of_canonicalJson_eq {a b : Json} (h : canonicalJson a = canonicalJson b) : Json.Same a b :=
  Json.encode_injective (utf8_injective h)

theorem canonicalJson_eq_iff {a b : Json} : canonicalJson a = canonicalJson b ↔ Json.Same a b :=
  ⟨same_of_canonicalJson_eq, fun h => congrArg (fun v => utf8 (Json.encode v)) h⟩

/-- Only the same value or a collision gives the same digest. -/
theorem canonicalSha256_eq_iff {a b : Json} :
    canonicalSha256 a = canonicalSha256 b ↔ Json.Same a b ∨ Sha256Collision (canonicalJson a) (canonicalJson b) := by
  rw [← canonicalJson_eq_iff]
  constructor
  · intro h
    by_cases htext : canonicalJson a = canonicalJson b
    · exact .inl htext
    · exact .inr ⟨htext, hex_injective h⟩
  · rintro (htext | hcollision)
    · exact congrArg (fun text => hex (sha256 text)) htext
    · exact congrArg hex hcollision.2

/-- Objects with distinct keys and one canonical form agree, as JSON values, at every key. -/
theorem canonicalJson_obj_lookup {fs gs : Dict} (hf : (fs.map Prod.fst).Nodup) (hg : (gs.map Prod.fst).Nodup)
    (h : canonicalJson (.obj fs) = canonicalJson (.obj gs)) (k : String) :
    (fs.lookup k).map Json.normalize = (gs.lookup k).map Json.normalize :=
  Json.same_obj_lookup hf hg (same_of_canonicalJson_eq h) k

end Sip
