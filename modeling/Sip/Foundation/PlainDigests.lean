import Sip.Foundation.HashEvaluation

/-!
# Digests of plain documents

A document whose texts are ASCII and need no escape has its canonical text computed as a
list of numbers, which the digest is then computed from. The digests of several documents
are computed together.
-/

namespace Sip

set_option autoImplicit false

/-- The codes of the characters of an ASCII text. -/
def codes (cs : List Char) : List Nat := cs.map Char.toNat

theorem utf8_of_codes {cs : List Char} (h : ∀ n ∈ codes cs, n < 128) : (utf8 cs).map UInt8.toNat = codes cs := by
  induction cs with
  | nil => rfl
  | cons c cs ih =>
    have hc : c.val.toNat ≤ 127 := by
      have hn := h c.toNat List.mem_cons_self
      exact Nat.le_of_lt_succ hn
    have hrest := ih fun n hn => h n (List.mem_cons_of_mem _ hn)
    simp only [utf8, List.flatMap_cons, List.map_append] at hrest ⊢
    rw [hrest, String.utf8EncodeChar, if_pos hc]
    have hbyte : (UInt8.ofNat c.val.toNat).toNat = c.toNat := by
      rw [UInt8.toNat_ofNat', Nat.mod_eq_of_lt (by omega)]
      rfl
    rw [List.map_singleton, hbyte]
    rfl

/-- The bytes of a text. -/
def textBytes (s : String) : List Nat := s.toByteArray.data.toList.map UInt8.toNat

theorem textBytes_eq (s : String) : textBytes s = (utf8 s.toList).map UInt8.toNat := by
  have hbytes : s.toByteArray.data.toList = utf8 s.toList := by
    rw [← String.utf8Encode_toList, List.utf8Encode, List.data_toByteArray]
    rfl
  rw [textBytes, hbytes]

/-- An ASCII byte that stands for itself between quotes. -/
def plainByte (n : Nat) : Bool := Nat.ble 32 n && (Nat.ble n 127 && (!Nat.beq n 34 && !Nat.beq n 92))

theorem plainByte_iff {n : Nat} : plainByte n = true ↔ 32 ≤ n ∧ n < 128 ∧ n ≠ 34 ∧ n ≠ 92 := by
  simp only [plainByte, Bool.and_eq_true, Nat.ble_eq, Bool.not_eq_true', ← Bool.not_eq_true, Nat.beq_eq]
  omega

theorem toNat_ofNat_ascii {n : Nat} (h : n < 128) : (Char.ofNat n).toNat = n := by
  have hvalid : n.isValidChar := Or.inl (by omega)
  rw [Char.ofNat, dif_pos hvalid]
  rfl

theorem codes_of_plain {s : String} (h : ∀ n ∈ textBytes s, n < 128) : codes s.toList = textBytes s := by
  have hascii : (utf8 s.toList).all (· < 128) = true := by
    rw [textBytes_eq] at h
    rw [List.all_eq_true]
    intro b hb
    have hlt := h b.toNat (List.mem_map_of_mem hb)
    exact decide_eq_true (UInt8.lt_iff_toNat_lt.mpr hlt)
  have hchars := utf8_ascii hascii
  rw [← hchars, codes, List.map_map, textBytes_eq]
  apply List.map_congr_left
  intro b hb
  have hlt : b.toNat < 128 := UInt8.lt_iff_toNat_lt.mp (of_decide_eq_true (List.all_eq_true.mp hascii b hb))
  exact toNat_ofNat_ascii hlt

theorem escapeChar_of_plain {c : Char} (h : plainByte c.toNat = true) : escapeChar c = [c] := by
  obtain ⟨hlow, _, hquote, hback⟩ := plainByte_iff.mp h
  have hne : ∀ d : Char, d.toNat < 32 ∨ d.toNat = 34 ∨ d.toNat = 92 → c ≠ d := by
    rintro d hd rfl
    omega
  unfold escapeChar
  rw [if_neg (hne _ (by decide)), if_neg (hne _ (by decide)), if_neg (hne _ (by decide)), if_neg (hne _ (by decide)),
    if_neg (hne _ (by decide)), if_neg (hne _ (by decide)), if_neg (hne _ (by decide)), if_neg (by omega)]

theorem escapeText_of_plain {cs : List Char} (h : ∀ n ∈ codes cs, plainByte n = true) : escapeText cs = cs := by
  induction cs with
  | nil => rfl
  | cons c cs ih =>
    have hrest := ih fun n hn => h n (List.mem_cons_of_mem _ hn)
    rw [escapeText] at hrest ⊢
    rw [List.flatMap_cons, hrest, escapeChar_of_plain (h _ List.mem_cons_self), List.singleton_append]

/-- The strict order of texts by their codes. -/
def ltCodes : List Nat → List Nat → Bool
  | _, [] => false
  | [], _ :: _ => true
  | a :: as, b :: bs => Nat.blt a b || (Nat.beq a b && ltCodes as bs)

theorem ltCodes_iff {cs ds : List Char} : ltCodes (codes cs) (codes ds) = true ↔ cs < ds := by
  induction cs generalizing ds with
  | nil =>
    cases ds with
    | nil => exact iff_of_false Bool.false_ne_true (lt_irrefl _)
    | cons d ds => exact iff_of_true rfl List.Lex.nil
  | cons c cs ih =>
    cases ds with
    | nil => exact iff_of_false Bool.false_ne_true (by rintro ⟨⟩)
    | cons d ds =>
      have hlt : Nat.blt c.toNat d.toNat = true ↔ c < d := by
        rw [Nat.blt_eq]
        exact Iff.rfl
      have heq : Nat.beq c.toNat d.toNat = true ↔ c = d := by
        rw [Nat.beq_eq]
        exact Char.toNat_inj
      have hcons : c :: cs < d :: ds ↔ c < d ∨ c = d ∧ cs < ds := List.cons_lt_cons_iff
      rw [hcons, ← ih, ← hlt, ← heq]
      simp [codes, ltCodes]

def leCodes (as bs : List Nat) : Bool := !ltCodes bs as

theorem leCodes_iff {cs ds : List Char} : leCodes (codes cs) (codes ds) = true ↔ cs ≤ ds := by
  rw [← not_lt, ← ltCodes_iff, leCodes, Bool.not_eq_true', Bool.not_eq_true]

/-- Texts with commas in between, and a closing bracket, by their codes. -/
def joinedCodes (close : Nat) : List (List Nat) → List Nat
  | [] => [close]
  | text :: texts => text ++ texts.flatMap (44 :: ·) ++ [close]

theorem codes_append (cs ds : List Char) : codes (cs ++ ds) = codes cs ++ codes ds := List.map_append

theorem codes_cons (c : Char) (cs : List Char) : codes (c :: cs) = c.toNat :: codes cs := rfl

theorem codes_joined (close : Char) (texts : List (List Char)) :
    codes (joined close texts) = joinedCodes close.toNat (texts.map codes) := by
  cases texts with
  | nil => rfl
  | cons text texts =>
    have hflat : codes (texts.flatMap (',' :: ·)) = (texts.map codes).flatMap (44 :: ·) := by
      rw [codes, List.map_flatMap, List.flatMap_map]
      rfl
    rw [joined, codes_append, codes_append, hflat]
    rfl

/-- The bytes of a text of ASCII characters that need no escape. -/
def plainBytes (s : String) : Option (List Nat) := if (textBytes s).all plainByte then some (textBytes s) else none

theorem codes_of_plainBytes {s : String} {bs : List Nat} (h : plainBytes s = some bs) :
    codes s.toList = bs ∧ ∀ n ∈ codes s.toList, plainByte n = true := by
  unfold plainBytes at h
  split at h
  · rename_i hall
    cases h
    rw [List.all_eq_true] at hall
    have hcodes := codes_of_plain fun n hn => (plainByte_iff.mp (hall n hn)).2.1
    rw [hcodes]
    exact ⟨rfl, hall⟩
  · cases h

def quotedBytes (bs : List Nat) : List Nat := 34 :: bs ++ [34]

theorem codes_quoted {cs : List Char} (h : ∀ n ∈ codes cs, plainByte n = true) :
    codes (quoted cs) = quotedBytes (codes cs) := by
  rw [quoted, escapeText_of_plain h, codes_append]
  rfl

namespace Json

mutual
/-- The bytes of the canonical text, where all texts are plain. -/
def canonicalBytes : Json → Option (List Nat)
  | .null => some [110, 117, 108, 108]
  | .bool true => some [116, 114, 117, 101]
  | .bool false => some [102, 97, 108, 115, 101]
  | .num (.int n) => some (codes (intText n))
  | .num (.float x) => plainBytes x.text
  | .str s => (plainBytes s).map quotedBytes
  | .arr items => (itemsBytes items).map fun texts => 91 :: joinedCodes 93 texts
  | .obj fields => (fieldsBytes fields).map fun fields =>
    123 :: joinedCodes 125 ((fields.insertionSort fun a b => leCodes a.1 b.1 = true).map fun field =>
      quotedBytes field.1 ++ 58 :: field.2)
def itemsBytes : List Json → Option (List (List Nat))
  | [] => some []
  | v :: vs => do return (← v.canonicalBytes) :: (← itemsBytes vs)
def fieldsBytes : List (String × Json) → Option (List (List Nat × List Nat))
  | [] => some []
  | (k, v) :: fs => do return (← plainBytes k, ← v.canonicalBytes) :: (← fieldsBytes fs)
end

theorem codes_field (field : List Char × List Char) (h : ∀ n ∈ codes field.1, plainByte n = true) :
    codes (quoted field.1 ++ ':' :: field.2) = quotedBytes (codes field.1) ++ 58 :: codes field.2 := by
  rw [codes_append, codes_quoted h]
  rfl

theorem map_sort_codes {fields : List (List Char × List Char)} (h : ∀ field ∈ fields, ∀ n ∈ codes field.1, plainByte n = true) :
    ((fields.insertionSort fun a b => a.1 ≤ b.1).map fun field => quoted field.1 ++ ':' :: field.2).map codes =
      ((fields.map fun field => (codes field.1, codes field.2)).insertionSort fun a b => leCodes a.1 b.1 = true).map
        fun field => quotedBytes field.1 ++ 58 :: field.2 := by
  rw [← List.map_insertionSort (fun a b : List Char × List Char => a.1 ≤ b.1) _
    (fun field : List Char × List Char => (codes field.1, codes field.2)) fields fun a _ b _ => leCodes_iff.symm,
    List.map_map, List.map_map]
  apply List.map_congr_left
  intro field hfield
  exact codes_field field (h field ((List.perm_insertionSort _ _).mem_iff.mp hfield))

mutual
theorem codes_canonicalText : ∀ (v : Json) {bs : List Nat}, v.canonicalBytes = some bs → codes v.canonicalText = bs
  | .null, _, h => by
    rw [canonicalBytes, Option.some.injEq] at h
    rw [canonicalText, ← h]
    rfl
  | .bool true, _, h => by
    rw [canonicalBytes, Option.some.injEq] at h
    rw [canonicalText, ← h]
    rfl
  | .bool false, _, h => by
    rw [canonicalBytes, Option.some.injEq] at h
    rw [canonicalText, ← h]
    rfl
  | .num (.int n), _, h => by
    rw [canonicalBytes, Option.some.injEq] at h
    rw [canonicalText, ← h]
  | .num (.float x), _, h => by
    rw [canonicalBytes] at h
    rw [canonicalText, textChars_eq]
    exact (codes_of_plainBytes h).1
  | .str s, _, h => by
    rw [canonicalBytes, Option.map_eq_some_iff] at h
    obtain ⟨bs, hbs, rfl⟩ := h
    obtain ⟨hcodes, hplain⟩ := codes_of_plainBytes hbs
    rw [canonicalText, textChars_eq, codes_quoted hplain, hcodes]
  | .arr items, _, h => by
    rw [canonicalBytes, Option.map_eq_some_iff] at h
    obtain ⟨texts, htexts, rfl⟩ := h
    rw [canonicalText, codes_cons, codes_joined, codes_canonicalItems items htexts]
    rfl
  | .obj fields, _, h => by
    rw [canonicalBytes, Option.map_eq_some_iff] at h
    obtain ⟨texts, htexts, rfl⟩ := h
    obtain ⟨hfields, hplain⟩ := codes_canonicalFields fields htexts
    rw [canonicalText, codes_cons, codes_joined, map_sort_codes hplain, hfields]
    rfl
theorem codes_canonicalItems : ∀ (vs : List Json) {texts : List (List Nat)}, itemsBytes vs = some texts →
    (canonicalItems vs).map codes = texts
  | [], _, h => by
    rw [itemsBytes, Option.some.injEq] at h
    rw [canonicalItems, ← h, List.map_nil]
  | v :: vs, _, h => by
    simp only [itemsBytes, Option.bind_eq_bind, Option.bind_eq_some_iff, Option.pure_def, Option.some.injEq] at h
    obtain ⟨bs, hbs, texts, htexts, rfl⟩ := h
    rw [canonicalItems, List.map_cons, codes_canonicalText v hbs, codes_canonicalItems vs htexts]
theorem codes_canonicalFields : ∀ (fs : List (String × Json)) {texts : List (List Nat × List Nat)},
    fieldsBytes fs = some texts → (canonicalFields fs).map (fun field => (codes field.1, codes field.2)) = texts ∧
      ∀ field ∈ canonicalFields fs, ∀ n ∈ codes field.1, plainByte n = true
  | [], _, h => by
    rw [fieldsBytes, Option.some.injEq] at h
    rw [canonicalFields, ← h, List.map_nil]
    exact ⟨rfl, fun field hfield => absurd hfield List.not_mem_nil⟩
  | (k, v) :: fs, _, h => by
    simp only [fieldsBytes, Option.bind_eq_bind, Option.bind_eq_some_iff, Option.pure_def, Option.some.injEq] at h
    obtain ⟨ks, hks, bs, hbs, texts, htexts, rfl⟩ := h
    obtain ⟨hcodes, hplain⟩ := codes_of_plainBytes hks
    obtain ⟨hfields, hrest⟩ := codes_canonicalFields fs htexts
    rw [canonicalFields, List.map_cons, hfields, codes_canonicalText v hbs, textChars_eq, hcodes]
    refine ⟨rfl, ?_⟩
    intro field hfield
    rcases List.mem_cons.mp hfield with rfl | hfield
    · exact hplain
    · exact hrest field hfield
end

end Json

section Digests

theorem codes_injective {cs ds : List Char} (h : codes cs = codes ds) : cs = ds :=
  List.map_injective_iff.mpr (fun _ _ hcode => Char.toNat_inj.mp hcode) h

/-- The message with its padding, as numbers. -/
def padCodes (bs : List Nat) : List Nat :=
  bs ++ 128 :: List.replicate ((119 - bs.length % 64) % 64) 0 ++ (Sha256.lengthBytes bs.length).map UInt8.toNat

theorem padCodes_eq (m : Bytes) : padCodes (m.map UInt8.toNat) = (Sha256.pad m).map UInt8.toNat := by
  simp [padCodes, Sha256.pad]

def wordsOf : List Nat → List Nat
  | b0 :: b1 :: b2 :: b3 :: rest => (((b0 * 256 + b1) * 256 + b2) * 256 + b3) :: wordsOf rest
  | _ => []

theorem wordsOf_eq (m : Bytes) : wordsOf (m.map UInt8.toNat) = Sha256.messageWords m := by
  fun_induction Sha256.messageWords m with
  | case1 b0 b1 b2 b3 rest ih =>
    rw [List.map_cons, List.map_cons, List.map_cons, List.map_cons, wordsOf, ih]
  | case2 m hm =>
    rw [wordsOf]
    intro b0 b1 b2 b3 rest h
    obtain ⟨c0, m0, rfl, _, h0⟩ := List.map_eq_cons_iff.mp h
    obtain ⟨c1, m1, rfl, _, h1⟩ := List.map_eq_cons_iff.mp h0
    obtain ⟨c2, m2, rfl, _, h2⟩ := List.map_eq_cons_iff.mp h1
    obtain ⟨c3, m3, rfl, _, h3⟩ := List.map_eq_cons_iff.mp h2
    exact hm c0 c1 c2 c3 m3 rfl

/-- `Sha256.digestWords` of bytes that are given as numbers. -/
def digestOf (bs : List Nat) : List Nat :=
  let ws := wordsOf (padCodes bs)
  Sha256.blocks (ws.length / 16) ws 0x6a09e667 0xbb67ae85 0x3c6ef372 0xa54ff53a 0x510e527f 0x9b05688c 0x1f83d9ab 0x5be0cd19

theorem digestOf_eq (m : Bytes) : digestOf (m.map UInt8.toNat) = Sha256.digestWords m := by
  rw [digestOf, Sha256.digestWords, padCodes_eq, wordsOf_eq]

def digitCode (n : Nat) : Nat := cond (Nat.ble n 9) (Nat.add n 48) (Nat.add n 87)

theorem digitCode_eq : ∀ n < 16, digitCode n = (hexDigit n).toNat := by decide

/-- The eight digits of a word. -/
def wordDigits (w : Nat) : List Nat :=
  [28, 24, 20, 16, 12, 8, 4, 0].map fun i => digitCode (Nat.mod (Nat.shiftRight w i) 16)

theorem codes_hexByte (w n : Nat) : codes (hexText [UInt8.ofNat (w >>> n)]) =
    [digitCode (Nat.mod (Nat.shiftRight w (n + 4)) 16), digitCode (Nat.mod (Nat.shiftRight w n) 16)] := by
  have hhigh : (UInt8.ofNat (w >>> n)).toNat / 16 = Nat.mod (Nat.shiftRight w (n + 4)) 16 := by
    have hshift : w >>> (n + 4) = w >>> n / 16 := by rw [Nat.shiftRight_add, Nat.shiftRight_eq_div_pow _ 4]
    show (UInt8.ofNat (w >>> n)).toNat / 16 = w >>> (n + 4) % 16
    rw [UInt8.toNat_ofNat', hshift]
    omega
  have hlow : (UInt8.ofNat (w >>> n)).toNat % 16 = Nat.mod (Nat.shiftRight w n) 16 := by
    show (UInt8.ofNat (w >>> n)).toNat % 16 = w >>> n % 16
    rw [UInt8.toNat_ofNat']
    omega
  have hdigit : ∀ m, digitCode (Nat.mod m 16) = (hexDigit (Nat.mod m 16)).toNat :=
    fun m => digitCode_eq _ (Nat.mod_lt m (by decide))
  rw [hexText, List.flatMap_singleton, hhigh, hlow, hdigit, hdigit]
  rfl

theorem codes_hexText (ws : List Nat) :
    codes (hexText (ws.flatMap fun w => [24, 16, 8, 0].map fun n => UInt8.ofNat (w >>> n))) = ws.flatMap wordDigits := by
  have hone : ∀ w : Nat, codes (hexText ([24, 16, 8, 0].map fun n => UInt8.ofNat (w >>> n))) = wordDigits w := by
    intro w
    have hsplit : ∀ bs : Bytes, codes (hexText bs) = bs.flatMap fun b => codes (hexText [b]) := by
      intro bs
      rw [codes, hexText, List.map_flatMap]
      simp [hexText, codes]
    rw [hsplit, List.flatMap_map]
    simp only [codes_hexByte]
    rfl
  induction ws with
  | nil => rfl
  | cons w ws ih =>
    rw [List.flatMap_cons, List.flatMap_cons, ← hone, ← ih, hexText, hexText, hexText, List.flatMap_append, codes_append]

/-- Whether a plain document has a digest. -/
def hashesTo (v : Json) (digest : String) : Bool :=
  match v.canonicalBytes with
  | some bs => bs.all (Nat.ble · 127) && (textBytes digest).all (Nat.ble · 127) &&
      decide ((digestOf bs).flatMap wordDigits = textBytes digest)
  | none => false

/-- `canonical_sha256` of a plain document, for evaluation. -/
theorem canonicalSha256_of_hashesTo {v : Json} {digest : String} (h : hashesTo v digest = true) :
    canonicalSha256 v = digest := by
  unfold hashesTo at h
  split at h
  · rename_i bs hbs
    simp only [Bool.and_eq_true, List.all_eq_true, decide_eq_true_eq, Nat.ble_eq] at h
    obtain ⟨⟨hascii, hdigest⟩, hwords⟩ := h
    have hcodes := Json.codes_canonicalText v hbs
    have hbytes : (utf8 v.canonicalText).map UInt8.toNat = bs := by
      rw [← hcodes]
      apply utf8_of_codes
      intro n hn
      rw [hcodes] at hn
      exact Nat.lt_succ_of_le (hascii n hn)
    have hsame : hexText ((Sha256.digestWords (utf8 v.canonicalText)).flatMap fun w =>
        [24, 16, 8, 0].map fun n => UInt8.ofNat (w >>> n)) = digest.toList := by
      apply codes_injective
      rw [codes_hexText, ← digestOf_eq, hbytes, hwords, codes_of_plain fun n hn => Nat.lt_succ_of_le (hdigest n hn)]
    rw [canonicalSha256_eq, hex, hsame, String.ofList_toList]
  · cases h

/-- Whether the documents of a list have the digests beside them. -/
def hashTo (documents : List (Json × String)) : Bool := documents.all fun document => hashesTo document.1 document.2

theorem canonicalSha256_of_hashTo {documents : List (Json × String)} (h : hashTo documents = true) (i : Nat) {v : Json}
    {digest : String} (hi : documents[i]? = some (v, digest)) : canonicalSha256 v = digest :=
  canonicalSha256_of_hashesTo (List.all_eq_true.mp h _ (List.mem_of_getElem? hi))

end Digests

end Sip
