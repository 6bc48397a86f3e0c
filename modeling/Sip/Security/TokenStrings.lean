import Sip.PyEquality
import Sip.Hybrid.Consent

/-!
# The spelling of a token

Both parts of a token are compared with the encoding of what they decode to, and the
signature with the digest of the payload part. So a token that is accepted is the one
string that spells its payload bytes, whatever the Base64 decoder skips and whatever the
payload reads as.
-/

namespace Sip

set_option autoImplicit false

/-- `json.loads(data)`, of which the codec needs that it reads canonical texts back. -/
structure JsonReader where
  loads : Bytes → Option Json
  loads_canonicalJson : ∀ v : Json, v.Distinct → loads (canonicalJson v) = some v.normalize

/-- The reader of canonical texts alone. -/
def JsonReader.canonical : JsonReader := ⟨Sip.loads, fun v _ => Sip.loads_canonicalJson v⟩

namespace SignedTokenCodec
variable (codec : SignedTokenCodec)

/-- The payload part, after the spelling and the signature have been checked. -/
def payloadBytes (token : String) : Except Raised Bytes := do
  let (payloadText, signatureText) ← split token
  let signature ← part signatureText "token signature encoding is not canonical"
  raiseIf (signature ≠ codec.sign payloadText) (authenticationError "TOKEN_SIGNATURE_INVALID" "token signature is invalid")
  part payloadText "token payload encoding is not canonical"

/-- The checks of the issuer and of the expiry. -/
def checkClaims (py : PyNumbers) (now : Nat) : Json → Except Raised Dict
  | .obj claims => do
    raiseIf (¬ (Dict.get claims "iss").isText codec.issuer)
      (authenticationError "TOKEN_ISSUER_INVALID" "token issuer is invalid")
    let exp ← py.int ((Dict.get? claims "exp").getD (.int 0))
    raiseIf (exp < unixSeconds now) (authenticationError "TOKEN_EXPIRED" "token has expired")
    return claims
  | _ => .error (.attributeError "object has no attribute 'get'")

/-- `decode`, with any reader of the payload. -/
def decodeWith (reader : JsonReader) (py : PyNumbers) (token : String) (now : Nat) : Except Raised Dict := do
  let payload ← codec.payloadBytes token
  let claims ← orRaise (reader.loads payload) malformed
  codec.checkClaims py now claims

/-- The string that spells payload bytes and their digest. -/
def spelling (payload : Bytes) : String :=
  String.ofList (urlsafeText payload ++ '.' :: urlsafeText (codec.sign (urlsafeText payload)))

/-- The bytes that the part before the first point decodes to. -/
def carried (token : String) : Option Bytes := urlsafeDecode (token.toList.takeWhile (· ≠ '.'))

section Spelling
variable {codec}

theorem split_ok {token : String} {payload signature : List Char} (h : split token = .ok (payload, signature)) :
    payload = token.toList.takeWhile (· ≠ '.') ∧ token.toList = payload ++ '.' :: signature := by
  simp only [split, bind_eq_ok, raiseIf_eq_ok, not_not] at h
  obtain ⟨_, hpoint, h⟩ := h
  cases h
  refine ⟨rfl, ?_⟩
  have hrest : token.toList.dropWhile (· ≠ '.') ≠ [] := by
    rw [ne_eq, List.dropWhile_eq_nil_iff]
    intro hall
    simpa using hall '.' hpoint
  have hhead : (token.toList.dropWhile (· ≠ '.')).head hrest = '.' := by
    simpa using List.head_dropWhile_not (· ≠ '.') hrest
  have hcons : '.' :: (token.toList.dropWhile (· ≠ '.')).tail = token.toList.dropWhile (· ≠ '.') := by
    conv_rhs => rw [← List.cons_head_tail hrest, hhead]
  rw [hcons, List.takeWhile_append_dropWhile]

theorem part_ok {text : List Char} {message : String} {data : Bytes} (h : part text message = .ok data) :
    urlsafeDecode text = some data ∧ text = urlsafeText data := by
  simp only [part, bind_eq_ok, orRaise_eq_ok, raiseIf_eq_ok, ne_eq, not_not] at h
  obtain ⟨_, hdecode, _, htext, h⟩ := h
  cases h
  exact ⟨hdecode, htext⟩

theorem payloadBytes_ok {token : String} {payload : Bytes} (h : codec.payloadBytes token = .ok payload) :
    carried token = some payload ∧ token = codec.spelling payload := by
  simp only [payloadBytes, bind_eq_ok, raiseIf_eq_ok, ne_eq, not_not] at h
  obtain ⟨⟨payloadText, signatureText⟩, hsplit, signature, hsignature, _, hsign, hpayload⟩ := h
  obtain ⟨hfirst, htoken⟩ := split_ok hsplit
  have hsign : signature = codec.sign payloadText := hsign
  obtain ⟨hdecode, htext⟩ : urlsafeDecode payloadText = some payload ∧ payloadText = urlsafeText payload := part_ok hpayload
  obtain ⟨_, hspelled⟩ : urlsafeDecode signatureText = some signature ∧ signatureText = urlsafeText signature :=
    part_ok hsignature
  constructor
  · rw [carried, ← hfirst]
    exact hdecode
  · apply String.toList_injective
    rw [spelling, String.toList_ofList, htoken, hspelled, hsign, htext]

theorem decodeWith_ok {reader : JsonReader} {py : PyNumbers} {token : String} {now : Nat} {claims : Dict}
    (h : codec.decodeWith reader py token now = .ok claims) : ∃ payload, codec.payloadBytes token = .ok payload ∧
      reader.loads payload = some (.obj claims) := by
  simp only [decodeWith, bind_eq_ok, orRaise_eq_ok] at h
  obtain ⟨payload, hpayload, v, hread, h⟩ := h
  cases v with
  | obj fields =>
    simp only [checkClaims, bind_eq_ok] at h
    obtain ⟨_, _, _, _, _, _, h⟩ := h
    cases h
    exact ⟨payload, hpayload, hread⟩
  | _ => cases h

end Spelling

section RoundTrip
variable (claims : Dict) (issued : Nat) (ttlSeconds : Nat)

theorem encode_eq_spelling :
    codec.encode claims issued ttlSeconds = codec.spelling (canonicalJson (.obj (codec.body claims issued ttlSeconds))) := rfl

theorem payloadBytes_spelling (payload : Bytes) : codec.payloadBytes (codec.spelling payload) = .ok payload := by
  simp only [payloadBytes, bind_eq_ok, raiseIf_eq_ok]
  exact ⟨_, split_parts (point_not_mem_urlsafeText _) _, _, part_urlsafeText _ _, (), not_not.mpr rfl, part_urlsafeText _ _⟩

/-- Reading canonical texts is all that the codec of the services needs. -/
theorem decodeWith_canonical (py : PyNumbers) (token : String) (now : Nat) :
    codec.decodeWith .canonical py token now = codec.decode py token now := by
  have hpayload : codec.payloadOf token = codec.payloadBytes token >>= fun payload => orRaise (loads payload) malformed := by
    simp only [payloadOf, payloadBytes, bind_assoc]
  rw [decode, hpayload, bind_assoc]
  unfold decodeWith
  congr 1

theorem distinct_body (hclaims : (Json.obj claims).Distinct) : (Json.obj (codec.body claims issued ttlSeconds)).Distinct := by
  have hiss := @Json.distinct_set _ hclaims "iss" (.str codec.issuer) (by simp [Json.Distinct])
  have hiat := @Json.distinct_set _ hiss "iat" (.int (unixSeconds issued)) (by simp [Json.Distinct])
  exact Json.distinct_set hiat "exp" (by simp [Json.Distinct])

/-- Until it expires, a token gives back its claims, the issuer and the times. -/
theorem decodeWith_encode (reader : JsonReader) (py : PyNumbers) {now : Nat} (hclaims : (Json.obj claims).Distinct)
    (hnow : unixSeconds now ≤ unixSeconds issued + ttlSeconds) :
    codec.decodeWith reader py (codec.encode claims issued ttlSeconds) now =
      .ok (codec.body claims issued ttlSeconds).sorted := by
  have hcanonical := codec.decode_encode claims issued ttlSeconds py hclaims.keys hnow
  rw [← decodeWith_canonical] at hcanonical
  rw [encode_eq_spelling, decodeWith, payloadBytes_spelling] at hcanonical ⊢
  have hread := reader.loads_canonicalJson _ (codec.distinct_body claims issued ttlSeconds hclaims)
  have hread' := JsonReader.canonical.loads_canonicalJson _ (codec.distinct_body claims issued ttlSeconds hclaims)
  simp only [bind, Except.bind, hread, hread'] at hcanonical ⊢
  exact hcanonical

end RoundTrip

/-- Decoding an encoded token returns the claims with the issuer and the times, until the token has expired. -/
def RoundTrips (decode : String → Nat → Except Raised Dict) : Prop :=
  ∀ (claims : Dict) (issued ttlSeconds now : Nat), (Json.obj claims).Distinct →
    unixSeconds now ≤ unixSeconds issued + ttlSeconds →
    ∃ decoded, decode (codec.encode claims issued ttlSeconds) now = .ok decoded ∧
      ∀ key, decoded.lookup key =
        if key = "exp" then some (.int (unixSeconds issued + ttlSeconds))
        else if key = "iat" then some (.int (unixSeconds issued))
        else if key = "iss" then some (.str codec.issuer)
        else (claims.lookup key).map Json.normalize

/-- An accepted token is the spelling of the bytes it carries. -/
def SpelledOnce (decode : String → Nat → Except Raised Dict) : Prop :=
  ∀ token now claims, decode token now = .ok claims →
    ∃ payload, carried token = some payload ∧ token = codec.spelling payload

theorem lookup_sorted_body (claims : Dict) (issued ttlSeconds : Nat) (hclaims : (Json.obj claims).Distinct) (key : String) :
    (codec.body claims issued ttlSeconds).sorted.lookup key =
      if key = "exp" then some (.int (unixSeconds issued + ttlSeconds))
      else if key = "iat" then some (.int (unixSeconds issued))
      else if key = "iss" then some (.str codec.issuer)
      else (claims.lookup key).map Json.normalize := by
  rw [Dict.lookup_sorted (codec.distinct_body claims issued ttlSeconds hclaims).keys]
  simp only [body, Dict.merge, List.foldl_cons, List.foldl_nil, Dict.lookup_set]
  split
  · simp [Json.normalize]
  · split
    · simp [Json.normalize]
    · split
      · simp [Json.normalize]
      · rfl

/-- Encoded tokens are read back, an accepted token is the spelling of its payload, and so two accepted tokens with one
payload are the same string. -/
theorem token_spelled_once (reader : JsonReader) (py : PyNumbers) :
    codec.RoundTrips (codec.decodeWith reader py) ∧ codec.SpelledOnce (codec.decodeWith reader py) ∧
      ∀ token token' now now' claims claims', codec.decodeWith reader py token now = .ok claims →
        codec.decodeWith reader py token' now' = .ok claims' → carried token = carried token' → token = token' := by
  have hspelled : codec.SpelledOnce (codec.decodeWith reader py) := by
    intro token now claims h
    obtain ⟨payload, hpayload, _⟩ := decodeWith_ok h
    exact ⟨payload, payloadBytes_ok hpayload⟩
  refine ⟨?_, hspelled, ?_⟩
  · intro claims issued ttlSeconds now hclaims hnow
    exact ⟨_, codec.decodeWith_encode claims issued ttlSeconds reader py hclaims hnow,
      codec.lookup_sorted_body claims issued ttlSeconds hclaims⟩
  · intro token token' now now' claims claims' h h' hcarried
    obtain ⟨payload, hpayload, htoken⟩ := hspelled token now claims h
    obtain ⟨payload', hpayload', htoken'⟩ := hspelled token' now' claims' h'
    rw [hpayload, hpayload'] at hcarried
    rw [htoken, htoken', Option.some.inj hcarried]

/-- A token of a worker, decoded a minute after it was issued. -/
theorem token_spelled_once_worker : ∃ decoded,
    HybridControl.zeroCodec.decodeWith .canonical HybridControl.wholePython
      (HybridControl.zeroCodec.encode [("sub", .str "worker")] 0 300) 60000000 = .ok decoded ∧
    decoded.lookup "sub" = some (.str "worker") ∧ decoded.lookup "exp" = some (.int 300) := by
  have hclaims : (Json.obj [("sub", .str "worker")]).Distinct := by simp [Json.Distinct, Json.DistinctFields]
  have hspelled := HybridControl.zeroCodec.token_spelled_once .canonical HybridControl.wholePython
  obtain ⟨decoded, hdecode, hlookup⟩ := hspelled.1 [("sub", .str "worker")] 0 300 60000000 hclaims (by decide)
  refine ⟨decoded, hdecode, ?_, ?_⟩
  · rw [hlookup]
    simp [Json.normalize]
  · rw [hlookup]
    rfl

end SignedTokenCodec
end Sip
