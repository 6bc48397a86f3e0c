import Sip.Canonical

/-!
# Evaluating canonical hashes

Forms of `sha256` and of the canonical text that evaluate fast: words are natural
numbers that are computed once a block, the message schedule is a window of sixteen
words that moves along with the rounds, and an ASCII text is read off its bytes.
-/

namespace Sip

set_option autoImplicit false

namespace Sha256

/-- `k n`, with `n` evaluated first. -/
@[noinline] def strict {α : Type} (n : Nat) (k : Nat → α) : α :=
  match n with
  | 0 => k 0
  | m + 1 => k (Nat.succ m)

@[simp] theorem strict_eq {α : Type} (n : Nat) (k : Nat → α) : strict n k = k n := by cases n <;> rfl

/-- The first word of a message, evaluated, and the others. -/
@[noinline] def uncons {α : Type} (ws : List Nat) (k : Nat → List Nat → α) : α :=
  match ws with
  | [] => k 0 []
  | w :: ws => strict w fun w => k w ws

@[simp] theorem uncons_cons {α : Type} (w : Nat) (ws : List Nat) (k : Nat → List Nat → α) : uncons (w :: ws) k = k w ws := by
  rw [uncons, strict_eq]

/-- A word written twice: its low half, shifted to the right, is a rotation of the word. -/
def twice (x : Nat) : Nat := x * 4294967297

def sigma (y i j k : Nat) : Nat := Nat.xor (Nat.xor (Nat.shiftRight y i) (Nat.shiftRight y j)) (Nat.shiftRight y k)

theorem rotate_twice (x : Word) {i : Nat} (hi : i < 32) : (twice x.toNat) >>> i % 2 ^ 32 = (x.rotateRight i).toNat := by
  have htwice : twice x.toNat = (x ++ x).toNat := by
    rw [BitVec.toNat_append, ← Nat.shiftLeft_add_eq_or_of_lt x.isLt, Nat.shiftLeft_eq, twice]
    omega
  apply Nat.eq_of_testBit_eq
  intro j
  rw [Nat.testBit_mod_two_pow, Nat.testBit_shiftRight, htwice, BitVec.testBit_toNat, BitVec.testBit_toNat,
    BitVec.getLsbD_append, BitVec.getLsbD_rotateRight_of_lt hi]
  by_cases hj : j < 32 - i
  · simp [hj, show i + j < 32 by omega, show j < 32 by omega]
  · by_cases hj' : j < 32
    · simp [hj, hj', show ¬ i + j < 32 by omega, show i + j - 32 = j - (32 - i) by omega]
    · simp [hj, hj']

theorem mod_sigma (x : Word) {i j k : Nat} (hi : i < 32) (hj : j < 32) (hk : k < 32) :
    sigma (twice x.toNat) i j k % 2 ^ 32 = (x.rotateRight i ^^^ x.rotateRight j ^^^ x.rotateRight k).toNat := by
  rw [BitVec.toNat_xor, BitVec.toNat_xor, ← rotate_twice x hi, ← rotate_twice x hj, ← rotate_twice x hk,
    ← Nat.xor_mod_two_pow, ← Nat.xor_mod_two_pow]
  rfl

/-- Two rotations and a shift. -/
def smallSigma (x i j k : Nat) : Nat :=
  Nat.xor (Nat.xor (Nat.shiftRight (twice x) i) (Nat.shiftRight (twice x) j)) (Nat.shiftRight x k)

theorem mod_smallSigma (x : Word) {i j : Nat} (hi : i < 32) (hj : j < 32) (k : Nat) :
    smallSigma x.toNat i j k % 2 ^ 32 = (x.rotateRight i ^^^ x.rotateRight j ^^^ x >>> k).toNat := by
  have hshift : x.toNat >>> k % 2 ^ 32 = (x >>> k).toNat := by
    rw [BitVec.toNat_ushiftRight, Nat.mod_eq_of_lt]
    exact lt_of_le_of_lt (Nat.shiftRight_le _ _) x.isLt
  rw [BitVec.toNat_xor, BitVec.toNat_xor, ← rotate_twice x hi, ← rotate_twice x hj, ← hshift,
    ← Nat.xor_mod_two_pow, ← Nat.xor_mod_two_pow]
  rfl

def chooseNat (x y z : Nat) : Nat := Nat.xor z (Nat.land x (Nat.xor y z))

def majorityNat (x y z : Nat) : Nat := Nat.xor (Nat.land x y) (Nat.land z (Nat.xor x y))

theorem toNat_choose (x y z : Word) : (choose x y z).toNat = chooseNat x.toNat y.toNat z.toNat := by
  have hbits : choose x y z = z ^^^ (x &&& (y ^^^ z)) := by
    apply BitVec.eq_of_getLsbD_eq
    intro i hi
    simp only [choose, BitVec.getLsbD_xor, BitVec.getLsbD_and, BitVec.getLsbD_not, hi, decide_true, Bool.true_and]
    cases x.getLsbD i <;> cases y.getLsbD i <;> cases z.getLsbD i <;> rfl
  rw [hbits, BitVec.toNat_xor, BitVec.toNat_and, BitVec.toNat_xor]
  rfl

theorem toNat_majority (x y z : Word) : (majority x y z).toNat = majorityNat x.toNat y.toNat z.toNat := by
  have hbits : majority x y z = (x &&& y) ^^^ (z &&& (x ^^^ y)) := by
    apply BitVec.eq_of_getLsbD_eq
    intro i hi
    simp only [majority, BitVec.getLsbD_xor, BitVec.getLsbD_and]
    cases x.getLsbD i <;> cases y.getLsbD i <;> cases z.getLsbD i <;> rfl
  rw [hbits, BitVec.toNat_xor, BitVec.toNat_and, BitVec.toNat_and, BitVec.toNat_xor]
  rfl

/-- What follows a round, as a function of the state and of the next sixteen words. -/
abbrev Continue (α : Type) : Type := (a b c d e f g h : Nat) →
  (w0 w1 w2 w3 w4 w5 w6 w7 w8 w9 w10 w11 w12 w13 w14 w15 : Nat) → (Nat → Nat → Nat → Nat → Nat → Nat → Nat → Nat → α) → α

/-- One round; its words stay unevaluated and shared. -/
def roundThen {α : Type} (kc : Nat) (next : Continue α) : Continue α :=
  fun a b c d e f g h w0 w1 w2 w3 w4 w5 w6 w7 w8 w9 w10 w11 w12 w13 w14 w15 k =>
    let ee := twice e
    let aa := twice a
    let t1 := Nat.add (Nat.add (Nat.add (Nat.add h (sigma ee 6 11 25)) (chooseNat e f g)) kc) w0
    let w16 := Nat.mod (Nat.add (Nat.add (Nat.add (smallSigma w14 17 19 10) w9) (smallSigma w1 7 18 3)) w0) 4294967296
    next (Nat.mod (Nat.add t1 (Nat.add (sigma aa 2 13 22) (majorityNat a b c))) 4294967296) a b c
      (Nat.mod (Nat.add d t1) 4294967296) e f g w1 w2 w3 w4 w5 w6 w7 w8 w9 w10 w11 w12 w13 w14 w15 w16 k

def rounds {α : Type} (kcs : List Nat) : Continue α :=
  kcs.foldr roundThen fun a b c d e f g h _ _ _ _ _ _ _ _ _ _ _ _ _ _ _ _ k => k a b c d e f g h

/-- The next word of the schedule, from sixteen in a row. -/
def nextWord (w0 w1 w9 w14 : Word) : Word := smallSigma1 w14 + w9 + smallSigma0 w1 + w0

/-- The first `n` words of the schedule that starts with sixteen words. -/
def stream : Nat → (w0 w1 w2 w3 w4 w5 w6 w7 w8 w9 w10 w11 w12 w13 w14 w15 : Word) → List Word
  | 0, _, _, _, _, _, _, _, _, _, _, _, _, _, _, _, _ => []
  | n + 1, w0, w1, w2, w3, w4, w5, w6, w7, w8, w9, w10, w11, w12, w13, w14, w15 =>
    w0 :: stream n w1 w2 w3 w4 w5 w6 w7 w8 w9 w10 w11 w12 w13 w14 w15 (nextWord w0 w1 w9 w14)

theorem toNat_nextWord (w0 w1 w9 w14 : Word) : (nextWord w0 w1 w9 w14).toNat =
    (smallSigma w14.toNat 17 19 10 + w9.toNat + smallSigma w1.toNat 7 18 3 + w0.toNat) % 2 ^ 32 := by
  have h1 : (smallSigma1 w14).toNat = smallSigma w14.toNat 17 19 10 % 2 ^ 32 :=
    (mod_smallSigma w14 (by decide) (by decide) 10).symm
  have h0 : (smallSigma0 w1).toNat = smallSigma w1.toNat 7 18 3 % 2 ^ 32 :=
    (mod_smallSigma w1 (by decide) (by decide) 3).symm
  rw [nextWord, BitVec.toNat_add, BitVec.toNat_add, BitVec.toNat_add, h0, h1]
  omega

theorem extend_eq_stream (n : Nat) (w0 w1 w2 w3 w4 w5 w6 w7 w8 w9 w10 w11 w12 w13 w14 w15 : Word) (rest : List Word) :
    (extend n ([w15, w14, w13, w12, w11, w10, w9, w8, w7, w6, w5, w4, w3, w2, w1, w0] ++ rest)).reverse =
      rest.reverse ++ stream (n + 16) w0 w1 w2 w3 w4 w5 w6 w7 w8 w9 w10 w11 w12 w13 w14 w15 := by
  induction n generalizing w0 w1 w2 w3 w4 w5 w6 w7 w8 w9 w10 w11 w12 w13 w14 w15 rest with
  | zero => simp [extend, stream]
  | succ n ih =>
    have hnext := ih w1 w2 w3 w4 w5 w6 w7 w8 w9 w10 w11 w12 w13 w14 w15 (nextWord w0 w1 w9 w14) (w0 :: rest)
    rw [List.reverse_cons, List.append_assoc, List.singleton_append] at hnext
    exact hnext

/-- What a round does, with the word and the constant as numbers. -/
theorem round_toNat (s : State) (kc w : Word) :
    let t1 := s.h.toNat + sigma (twice s.e.toNat) 6 11 25 + chooseNat s.e.toNat s.f.toNat s.g.toNat + kc.toNat + w.toNat
    (round s (kc, w)).a.toNat =
      (t1 + (sigma (twice s.a.toNat) 2 13 22 + majorityNat s.a.toNat s.b.toNat s.c.toNat)) % 2 ^ 32 ∧
    (round s (kc, w)).e.toNat = (s.d.toNat + t1) % 2 ^ 32 := by
  intro t1
  have h1 : (bigSigma1 s.e).toNat = sigma (twice s.e.toNat) 6 11 25 % 2 ^ 32 :=
    (mod_sigma s.e (by decide) (by decide) (by decide)).symm
  have h0 : (bigSigma0 s.a).toNat = sigma (twice s.a.toNat) 2 13 22 % 2 ^ 32 :=
    (mod_sigma s.a (by decide) (by decide) (by decide)).symm
  simp only [round, BitVec.toNat_add, h0, h1, toNat_choose, toNat_majority, t1]
  constructor <;> omega

theorem rounds_eq {α : Type} (kcs : List Word) (s : State) (w0 w1 w2 w3 w4 w5 w6 w7 w8 w9 w10 w11 w12 w13 w14 w15 : Word)
    (k : Nat → Nat → Nat → Nat → Nat → Nat → Nat → Nat → α) :
    let t := (kcs.zip (stream kcs.length w0 w1 w2 w3 w4 w5 w6 w7 w8 w9 w10 w11 w12 w13 w14 w15)).foldl round s
    rounds (kcs.map BitVec.toNat) s.a.toNat s.b.toNat s.c.toNat s.d.toNat s.e.toNat s.f.toNat s.g.toNat s.h.toNat
      w0.toNat w1.toNat w2.toNat w3.toNat w4.toNat w5.toNat w6.toNat w7.toNat w8.toNat w9.toNat w10.toNat w11.toNat w12.toNat w13.toNat w14.toNat w15.toNat k =
      k t.a.toNat t.b.toNat t.c.toNat t.d.toNat t.e.toNat t.f.toNat t.g.toNat t.h.toNat := by
  induction kcs generalizing s w0 w1 w2 w3 w4 w5 w6 w7 w8 w9 w10 w11 w12 w13 w14 w15 with
  | nil => rfl
  | cons kc kcs ih =>
    obtain ⟨ha, he⟩ := round_toNat s kc w0
    have hw := toNat_nextWord w0 w1 w9 w14
    have hnext := ih (round s (kc, w0)) w1 w2 w3 w4 w5 w6 w7 w8 w9 w10 w11 w12 w13 w14 w15 (nextWord w0 w1 w9 w14)
    rw [ha, he, hw] at hnext
    rw [List.map_cons, rounds, List.foldr_cons, roundThen]
    exact hnext

def blocks : Nat → List Nat → (a b c d e f g h : Nat) → List Nat
  | 0, _, a, b, c, d, e, f, g, h => [a, b, c, d, e, f, g, h]
  | n + 1, ws, a, b, c, d, e, f, g, h =>
    uncons ws fun w0 ws =>
    uncons ws fun w1 ws =>
    uncons ws fun w2 ws =>
    uncons ws fun w3 ws =>
    uncons ws fun w4 ws =>
    uncons ws fun w5 ws =>
    uncons ws fun w6 ws =>
    uncons ws fun w7 ws =>
    uncons ws fun w8 ws =>
    uncons ws fun w9 ws =>
    uncons ws fun w10 ws =>
    uncons ws fun w11 ws =>
    uncons ws fun w12 ws =>
    uncons ws fun w13 ws =>
    uncons ws fun w14 ws =>
    uncons ws fun w15 ws =>
    rounds (roundConstants.map BitVec.toNat) a b c d e f g h w0 w1 w2 w3 w4 w5 w6 w7 w8 w9 w10 w11 w12 w13 w14 w15
      fun a' b' c' d' e' f' g' h' =>
        strict (Nat.mod (Nat.add a a') 4294967296) fun a =>
        strict (Nat.mod (Nat.add b b') 4294967296) fun b =>
        strict (Nat.mod (Nat.add c c') 4294967296) fun c =>
        strict (Nat.mod (Nat.add d d') 4294967296) fun d =>
        strict (Nat.mod (Nat.add e e') 4294967296) fun e =>
        strict (Nat.mod (Nat.add f f') 4294967296) fun f =>
        strict (Nat.mod (Nat.add g g') 4294967296) fun g =>
        strict (Nat.mod (Nat.add h h') 4294967296) fun h =>
        blocks n ws a b c d e f g h

theorem schedule_eq (w0 w1 w2 w3 w4 w5 w6 w7 w8 w9 w10 w11 w12 w13 w14 w15 : Word) :
    schedule [w0, w1, w2, w3, w4, w5, w6, w7, w8, w9, w10, w11, w12, w13, w14, w15] = stream 64 w0 w1 w2 w3 w4 w5 w6 w7 w8 w9 w10 w11 w12 w13 w14 w15 :=
  extend_eq_stream 48 w0 w1 w2 w3 w4 w5 w6 w7 w8 w9 w10 w11 w12 w13 w14 w15 []

theorem sum_eq (x y : Word) : Nat.mod (Nat.add x.toNat y.toNat) 4294967296 = (x + y).toNat := (BitVec.toNat_add x y).symm

theorem blocks_eq (n : Nat) (s : State) (ws : List Word) (h : 16 * n ≤ ws.length) :
    blocks n (ws.map BitVec.toNat) s.a.toNat s.b.toNat s.c.toNat s.d.toNat s.e.toNat s.f.toNat s.g.toNat s.h.toNat =
      (compressBlocks n s ws).words.map BitVec.toNat := by
  induction n generalizing s ws with
  | zero => rfl
  | succ n ih =>
    obtain ⟨block, rest, rfl, hblock⟩ : ∃ block rest, ws = block ++ rest ∧ block.length = 16 :=
      ⟨ws.take 16, ws.drop 16, (List.take_append_drop 16 ws).symm, by rw [List.length_take]; omega⟩
    match block, hblock with
    | [w0, w1, w2, w3, w4, w5, w6, w7, w8, w9, w10, w11, w12, w13, w14, w15], _ =>
      have hrest := ih (s.add ((roundConstants.zip (stream 64 w0 w1 w2 w3 w4 w5 w6 w7 w8 w9 w10 w11 w12 w13 w14 w15)).foldl round s)) rest (by simp at h; omega)
      simp only [List.cons_append, List.nil_append, List.map_cons, blocks, uncons_cons, strict_eq]
      rw [rounds_eq]
      simp only [compressBlocks, compress, List.take_succ_cons, List.take_zero, List.drop_succ_cons, List.drop_zero,
        schedule_eq, sum_eq]
      have hlength : roundConstants.length = 64 := rfl
      rw [hlength]
      generalize (roundConstants.zip (stream 64 w0 w1 w2 w3 w4 w5 w6 w7 w8 w9 w10 w11 w12 w13 w14 w15)).foldl round s = t
        at hrest ⊢
      exact hrest

/-- The big-endian words of a message, as numbers. -/
def messageWords : Bytes → List Nat
  | b0 :: b1 :: b2 :: b3 :: rest => (((b0.toNat * 256 + b1.toNat) * 256 + b2.toNat) * 256 + b3.toNat) :: messageWords rest
  | _ => []

theorem messageWords_eq (m : Bytes) : messageWords m = (toWords m).map BitVec.toNat := by
  fun_induction messageWords m with
  | case1 b0 b1 b2 b3 rest ih =>
    have h0 := b0.toNat_lt
    have h1 := b1.toNat_lt
    have h2 := b2.toNat_lt
    have h3 := b3.toNat_lt
    rw [toWords, List.map_cons, BitVec.toNat_ofNat, Nat.mod_eq_of_lt (by omega), ih]
  | case2 m hm =>
    rw [toWords]
    · rfl
    · exact hm

/-- The eight words of a digest. -/
def digestWords (data : Bytes) : List Nat :=
  let ws := messageWords (pad data)
  blocks (ws.length / 16) ws 0x6a09e667 0xbb67ae85 0x3c6ef372 0xa54ff53a 0x510e527f 0x9b05688c 0x1f83d9ab 0x5be0cd19

end Sha256

theorem sha256_eq_digestWords (data : Bytes) :
    sha256 data = (Sha256.digestWords data).flatMap fun w => [24, 16, 8, 0].map fun n => UInt8.ofNat (w >>> n) := by
  have hwords : Sha256.digestWords data = (Sha256.compressBlocks ((Sha256.toWords (Sha256.pad data)).length / 16)
      Sha256.initial (Sha256.toWords (Sha256.pad data))).words.map BitVec.toNat := by
    rw [Sha256.digestWords, Sha256.messageWords_eq, List.length_map]
    exact Sha256.blocks_eq _ Sha256.initial _ (by omega)
  rw [hwords, List.flatMap_map]
  rfl

theorem utf8EncodeChar_ascii {c : Char} (h : (String.utf8EncodeChar c).all (· < 128) = true) :
    (String.utf8EncodeChar c).map (fun b => Char.ofNat b.toNat) = [c] := by
  have hhigh : ∀ n, 128 ≤ n % 256 → ¬ UInt8.ofNat n < 128 := by
    intro n hn
    rw [UInt8.lt_iff_toNat_lt, UInt8.toNat_ofNat']
    exact not_lt.mpr hn
  have hlow : c.val.toNat ≤ 127 := by
    by_contra hc
    simp only [String.utf8EncodeChar, hc, if_false] at h
    split_ifs at h
    all_goals
      simp only [List.all_cons, Bool.and_eq_true, decide_eq_true_eq] at h
      exact absurd h.1 (hhigh _ (by omega))
  simp only [String.utf8EncodeChar, hlow, if_true, List.map_cons, List.map_nil, UInt8.toNat_ofNat']
  rw [Nat.mod_eq_of_lt (by omega)]
  exact congrArg (fun c => [c]) (Char.ofNat_toNat c)

theorem utf8_ascii {cs : List Char} (h : (utf8 cs).all (· < 128) = true) :
    (utf8 cs).map (fun b => Char.ofNat b.toNat) = cs := by
  induction cs with
  | nil => rfl
  | cons c cs ih =>
    simp only [utf8, List.flatMap_cons, List.all_append, Bool.and_eq_true, List.map_append] at h ih ⊢
    rw [ih h.2, utf8EncodeChar_ascii h.1, List.singleton_append]

/-- The characters of a text, read off its bytes where these are ASCII. -/
def textChars (s : String) : List Char :=
  if s.toByteArray.data.toList.all (· < 128) then s.toByteArray.data.toList.map fun b => Char.ofNat b.toNat
  else s.toList

theorem textChars_eq (s : String) : textChars s = s.toList := by
  have hbytes : s.toByteArray.data.toList = utf8 s.toList := by
    rw [← String.utf8Encode_toList, List.utf8Encode, List.data_toByteArray]
    rfl
  unfold textChars
  rw [hbytes]
  split
  · rename_i h
    exact utf8_ascii h
  · rfl

def quoted (cs : List Char) : List Char := '"' :: escapeText cs ++ ['"']

theorem quoted_textChars (s : String) : quoted (textChars s) = stringText s := by rw [textChars_eq, quoted, stringText]

/-- Texts with commas in between, and a closing bracket. -/
def joined (close : Char) : List (List Char) → List Char
  | [] => [close]
  | text :: texts => text ++ texts.flatMap (',' :: ·) ++ [close]

namespace Json

mutual
/-- `v.normalize.encode`, where the fields are sorted by the characters of their keys. -/
def canonicalText : Json → List Char
  | .null => ['n', 'u', 'l', 'l']
  | .bool true => ['t', 'r', 'u', 'e']
  | .bool false => ['f', 'a', 'l', 's', 'e']
  | .num (.int n) => intText n
  | .num (.float x) => textChars x.text
  | .str s => quoted (textChars s)
  | .arr items => '[' :: joined ']' (canonicalItems items)
  | .obj fields => '{' :: joined '}' (((canonicalFields fields).insertionSort fun a b => a.1 ≤ b.1).map fun field =>
      quoted field.1 ++ ':' :: field.2)
def canonicalItems : List Json → List (List Char)
  | [] => []
  | v :: vs => v.canonicalText :: canonicalItems vs
def canonicalFields : List (String × Json) → List (List Char × List Char)
  | [] => []
  | (k, v) :: fs => (textChars k, v.canonicalText) :: canonicalFields fs
end

theorem encodeItems_eq_joined (vs : List Json) : encodeItems vs = joined ']' (vs.map encode) := by
  have htail : ∀ vs : List Json, encodeItemsTail vs = (vs.map encode).flatMap (',' :: ·) ++ [']'] := by
    intro vs
    induction vs with
    | nil => rfl
    | cons v vs ih => simp [encodeItemsTail, ih]
  cases vs with
  | nil => rfl
  | cons v vs => simp [encodeItems, joined, htail]

theorem encodeFields_eq_joined (fs : Dict) :
    encodeFields fs = joined '}' (fs.map fun field => stringText field.1 ++ ':' :: field.2.encode) := by
  have htail : ∀ fs : Dict, encodeFieldsTail fs =
      (fs.map fun field => stringText field.1 ++ ':' :: field.2.encode).flatMap (',' :: ·) ++ ['}'] := by
    intro fs
    induction fs with
    | nil => rfl
    | cons field fs ih => simp [encodeFieldsTail, ih]
  cases fs with
  | nil => rfl
  | cons field fs => simp [encodeFields, joined, htail]

mutual
theorem encode_normalize : ∀ v : Json, v.normalize.encode = v.canonicalText
  | .null => by rw [normalize, encode, canonicalText]
  | .bool true => by rw [normalize, encode, canonicalText]
  | .bool false => by rw [normalize, encode, canonicalText]
  | .num (.int n) => by rw [normalize, encode, canonicalText, Number.text]
  | .num (.float x) => by rw [normalize, encode, canonicalText, Number.text, textChars_eq]
  | .str s => by rw [normalize, encode, canonicalText, quoted_textChars]
  | .arr items => by
    rw [normalize, encode, canonicalText, encodeItems_eq_joined, items_eq items]
  | .obj fields => by
    have hsort : (((normalizeFields fields).insertionSort fun a b => a.1 ≤ b.1).map fun field =>
        (field.1.toList, field.2.encode)) = (canonicalFields fields).insertionSort fun a b => a.1 ≤ b.1 := by
      rw [← fields_eq fields]
      exact List.map_insertionSort _ _ _ _ fun a _ b _ => String.le_iff_toList_le
    rw [normalize, encode, canonicalText, encodeFields_eq_joined, ← hsort, List.map_map]
    rfl
theorem items_eq : ∀ vs : List Json, (normalizeItems vs).map encode = canonicalItems vs
  | [] => by rw [normalizeItems, canonicalItems, List.map_nil]
  | v :: vs => by rw [normalizeItems, canonicalItems, List.map_cons, encode_normalize v, items_eq vs]
theorem fields_eq : ∀ fs : Dict,
    (normalizeFields fs).map (fun field => (field.1.toList, field.2.encode)) = canonicalFields fs
  | [] => by rw [normalizeFields, canonicalFields, List.map_nil]
  | (k, v) :: fs => by
    rw [normalizeFields, canonicalFields, List.map_cons, encode_normalize v, fields_eq fs, textChars_eq]
end

end Json
/-- `canonical_sha256`, for evaluation. -/
theorem canonicalSha256_eq (v : Json) : canonicalSha256 v =
    hex ((Sha256.digestWords (utf8 v.canonicalText)).flatMap fun w => [24, 16, 8, 0].map fun n => UInt8.ofNat (w >>> n)) := by
  rw [canonicalSha256, canonicalJson, Json.encode_normalize, sha256_eq_digestWords]

end Sip
