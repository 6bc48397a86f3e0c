import Sip.Foundation.Base64Url
import Sip.Foundation.JsonParse
import Sip.Representation.Service

/-!
# Signed tokens

A token is the canonical text of its claims and a keyed digest of that text, both in
URL-safe Base64 without padding. The codec adds the issuer and the times, and it reads
back what it has written, as long as the token has not expired.
-/

namespace Sip

set_option autoImplicit false

def authenticationError (code message : String) (details : Dict := []) : Raised :=
  .sip ⟨.authentication, code, message, details⟩

/-- The conversions between numbers of the interpreter: `int(value)`, `float(n)`, `int(n * x)` and `x / y`. -/
structure PyNumbers extends PyConversions where
  int : Json → Except Raised Int
  int_int : ∀ n, int (.int n) = .ok n
  floatOfInt : Int → Except Raised PyFloat
  scaled : Int → PyFloat → Except Raised Int
  ratio : PyFloat → PyFloat → Except Raised PyFloat

namespace Dict

/-- The dictionary that is read back from a canonical text. -/
def sorted (d : Dict) : Dict := (Json.normalizeFields d).insertionSort fun a b => a.1 ≤ b.1

theorem normalize_obj (d : Dict) : (Json.obj d).normalize = .obj d.sorted := by rw [Json.normalize, sorted]

theorem lookup_sorted {d : Dict} (hd : (d.map Prod.fst).Nodup) (key : String) :
    d.sorted.lookup key = (d.lookup key).map Json.normalize := Json.lookup_normalize hd key

theorem nodup_keys_merge {d : Dict} (hd : (d.map Prod.fst).Nodup) (e : Dict) : ((d.merge e).map Prod.fst).Nodup := by
  induction e generalizing d with
  | nil => exact hd
  | cons field e ih => exact ih (nodup_keys_set hd field.1 field.2)

end Dict

/-- `json.loads(data)` of a canonical text. -/
def loads (data : Bytes) : Option Json := data.toByteArray.utf8Decode?.bind fun cs => Json.parse cs.toList

theorem loads_canonicalJson (v : Json) : loads (canonicalJson v) = some v.normalize := by
  have hbytes : (canonicalJson v).toByteArray = v.normalize.encode.utf8Encode := rfl
  rw [loads, hbytes, List.utf8Decode?_utf8Encode]
  exact Json.parse_encode v.normalize

/-- `SignedTokenCodec(key, issuer)` refuses keys below 32 bytes. -/
structure SignedTokenCodec where
  key : Bytes
  issuer : String := "sip-local"
  long : 32 ≤ key.length

/-- `int(time.time())`. -/
def unixSeconds (now : Nat) : Nat := now / 1000000

namespace SignedTokenCodec
variable (codec : SignedTokenCodec)

/-- The claims with the issuer and the times. -/
def body (claims : Dict) (now : Nat) (ttlSeconds : Nat) : Dict :=
  claims.merge [("iss", .str codec.issuer), ("iat", .int (unixSeconds now)), ("exp", .int (unixSeconds now + ttlSeconds))]

def sign (payload : List Char) : Bytes := hmacSha256 codec.key (utf8 payload)

def encode (claims : Dict) (now : Nat) (ttlSeconds : Nat) : String :=
  let payload := urlsafeText (canonicalJson (.obj (codec.body claims now ttlSeconds)))
  String.ofList (payload ++ '.' :: urlsafeText (codec.sign payload))

def malformed : Raised := authenticationError "TOKEN_MALFORMED" "token is malformed"

/-- `token.split(".", 1)`. -/
def split (token : String) : Except Raised (List Char × List Char) := do
  raiseIf ('.' ∉ token.toList) malformed
  return (token.toList.takeWhile (· ≠ '.'), (token.toList.dropWhile (· ≠ '.')).tail)

/-- A part of a token, which has to be the only spelling of its bytes. -/
def part (text : List Char) (message : String) : Except Raised Bytes := do
  let data ← orRaise (urlsafeDecode text) malformed
  raiseIf (text ≠ urlsafeText data) (authenticationError "TOKEN_ENCODING_NONCANONICAL" message)
  return data

def payloadOf (token : String) : Except Raised Json := do
  let (payloadText, signatureText) ← split token
  let signature ← part signatureText "token signature encoding is not canonical"
  raiseIf (signature ≠ codec.sign payloadText) (authenticationError "TOKEN_SIGNATURE_INVALID" "token signature is invalid")
  let payload ← part payloadText "token payload encoding is not canonical"
  orRaise (loads payload) malformed

def decode (py : PyNumbers) (token : String) (now : Nat) : Except Raised Dict := do
  match ← codec.payloadOf token with
  | .obj claims => do
    raiseIf (¬ (Dict.get claims "iss").isText codec.issuer)
      (authenticationError "TOKEN_ISSUER_INVALID" "token issuer is invalid")
    let exp ← py.int ((Dict.get? claims "exp").getD (.int 0))
    raiseIf (exp < unixSeconds now) (authenticationError "TOKEN_EXPIRED" "token has expired")
    return claims
  | _ => .error (.attributeError "object has no attribute 'get'")

section RoundTrip
variable (claims : Dict) (issued : Nat) (ttlSeconds : Nat)

theorem part_urlsafeText (data : Bytes) (message : String) : part (urlsafeText data) message = .ok data := by
  simp only [part, bind_eq_ok, orRaise_eq_ok, raiseIf_eq_ok]
  exact ⟨data, urlsafeDecode_urlsafeText data, (), not_not.mpr rfl, rfl⟩

theorem split_parts {payload : List Char} (h : '.' ∉ payload) (signature : List Char) :
    split (String.ofList (payload ++ '.' :: signature)) = .ok (payload, signature) := by
  have hpayload : ∀ c ∈ payload, decide (c ≠ '.') = true := by
    intro c hc
    have hne : c ≠ '.' := fun heq => h (heq ▸ hc)
    simpa using hne
  have htake : (payload ++ '.' :: signature).takeWhile (· ≠ '.') = payload :=
    takeWhile_append_stop hpayload (by simp)
  have hdrop : ((payload ++ '.' :: signature).dropWhile (· ≠ '.')).tail = signature := by
    rw [List.dropWhile_append_of_pos hpayload]
    simp
  simp only [split, bind_eq_ok, raiseIf_eq_ok, String.toList_ofList]
  refine ⟨(), by simp, ?_⟩
  rw [htake, hdrop]
  rfl

theorem payloadOf_encode : codec.payloadOf (codec.encode claims issued ttlSeconds) =
    .ok (.obj (codec.body claims issued ttlSeconds).sorted) := by
  simp only [payloadOf, bind_eq_ok, raiseIf_eq_ok, orRaise_eq_ok]
  refine ⟨_, split_parts (point_not_mem_urlsafeText _) _, _, part_urlsafeText _ _, (), not_not.mpr rfl, _,
    part_urlsafeText _ _, ?_⟩
  rw [loads_canonicalJson, Dict.normalize_obj]

/-- What the codec has added to the claims. -/
theorem lookup_body : (codec.body claims issued ttlSeconds).lookup "iss" = some (.str codec.issuer) ∧
    (codec.body claims issued ttlSeconds).lookup "exp" = some (.int (unixSeconds issued + ttlSeconds)) := by
  constructor
  · apply Dict.lookup_merge_of_mem <;> simp
  · apply Dict.lookup_merge_of_mem <;> simp

theorem get?_exp_body (hclaims : (claims.map Prod.fst).Nodup) :
    Dict.get? (codec.body claims issued ttlSeconds).sorted "exp" = some (.int (unixSeconds issued + ttlSeconds)) := by
  have hkeys : ((codec.body claims issued ttlSeconds).map Prod.fst).Nodup := Dict.nodup_keys_merge hclaims _
  rw [Dict.get?, Dict.lookup_sorted hkeys, (codec.lookup_body claims issued ttlSeconds).2]
  simp [Json.normalize]

/-- A claim of the caller, as it is read back. -/
theorem get?_body {key : String} {value : Json} (hclaims : (claims.map Prod.fst).Nodup) (hkey : key ∉ ["iss", "iat", "exp"])
    (h : claims.lookup key = some value) :
    Dict.get? (codec.body claims issued ttlSeconds).sorted key = some value.normalize := by
  have hkeys : ((codec.body claims issued ttlSeconds).map Prod.fst).Nodup := Dict.nodup_keys_merge hclaims _
  rw [Dict.get?, Dict.lookup_sorted hkeys, body, Dict.lookup_merge_of_not_mem _ hkey, h, Option.map_some]

theorem get_body {key : String} {value : Json} (hclaims : (claims.map Prod.fst).Nodup) (hkey : key ∉ ["iss", "iat", "exp"])
    (h : claims.lookup key = some value) : Dict.get (codec.body claims issued ttlSeconds).sorted key = value.normalize := by
  rw [Dict.get, ← Dict.get?, codec.get?_body claims issued ttlSeconds hclaims hkey h, Option.getD_some]

/-- A token that has not expired gives its claims back. -/
theorem decode_encode (py : PyNumbers) {now : Nat} (hclaims : (claims.map Prod.fst).Nodup)
    (hnow : unixSeconds now ≤ unixSeconds issued + ttlSeconds) :
    codec.decode py (codec.encode claims issued ttlSeconds) now = .ok (codec.body claims issued ttlSeconds).sorted := by
  have hkeys : ((codec.body claims issued ttlSeconds).map Prod.fst).Nodup := Dict.nodup_keys_merge hclaims _
  have hissuer : Dict.get (codec.body claims issued ttlSeconds).sorted "iss" = .str codec.issuer := by
    rw [Dict.get, Dict.lookup_sorted hkeys, (codec.lookup_body claims issued ttlSeconds).1]
    simp
  refine bind_eq_ok.mpr ⟨_, codec.payloadOf_encode claims issued ttlSeconds, ?_⟩
  simp only [bind_eq_ok, raiseIf_eq_ok]
  refine ⟨(), ?_, (unixSeconds issued + ttlSeconds : Int), ?_, (), ?_, rfl⟩
  · simp [hissuer, Json.isText, Json.text?]
  · rw [codec.get?_exp_body claims issued ttlSeconds hclaims, Option.getD_some]
    exact py.int_int _
  · omega

/-- A token that is accepted has not expired. -/
theorem decode_encode_eq_ok {py : PyNumbers} {now : Nat} {decoded : Dict} (hclaims : (claims.map Prod.fst).Nodup)
    (h : codec.decode py (codec.encode claims issued ttlSeconds) now = .ok decoded) :
    unixSeconds now ≤ unixSeconds issued + ttlSeconds ∧ decoded = (codec.body claims issued ttlSeconds).sorted := by
  obtain ⟨payload, hpayload, h⟩ := bind_eq_ok.mp h
  rw [codec.payloadOf_encode claims issued ttlSeconds] at hpayload
  cases hpayload
  simp only [bind_eq_ok, raiseIf_eq_ok] at h
  obtain ⟨_, _, exp, hexp, _, hnow, h⟩ := h
  cases h
  rw [codec.get?_exp_body claims issued ttlSeconds hclaims, Option.getD_some] at hexp
  have hsame : exp = (unixSeconds issued + ttlSeconds : Int) := by
    have hread := py.int_int (unixSeconds issued + ttlSeconds : Int)
    exact Except.ok.inj (hexp.symm.trans hread)
  constructor
  · omega
  · rfl

end RoundTrip

end SignedTokenCodec

end Sip
