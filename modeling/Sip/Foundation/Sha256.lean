import Sip.Foundation.JsonText

/-!
# SHA-256, HMAC-SHA-256 and hexadecimal digests over byte lists

The compression function of FIPS 180-4 on 32-bit words, written so that it can be
evaluated; nothing below assumes more of it than that it is a function.
-/

namespace Sip

set_option autoImplicit false

abbrev Bytes := List UInt8

namespace Sha256

abbrev Word := BitVec 32

def roundConstants : List Word := [
  0x428a2f98, 0x71374491, 0xb5c0fbcf, 0xe9b5dba5, 0x3956c25b, 0x59f111f1, 0x923f82a4, 0xab1c5ed5,
  0xd807aa98, 0x12835b01, 0x243185be, 0x550c7dc3, 0x72be5d74, 0x80deb1fe, 0x9bdc06a7, 0xc19bf174,
  0xe49b69c1, 0xefbe4786, 0x0fc19dc6, 0x240ca1cc, 0x2de92c6f, 0x4a7484aa, 0x5cb0a9dc, 0x76f988da,
  0x983e5152, 0xa831c66d, 0xb00327c8, 0xbf597fc7, 0xc6e00bf3, 0xd5a79147, 0x06ca6351, 0x14292967,
  0x27b70a85, 0x2e1b2138, 0x4d2c6dfc, 0x53380d13, 0x650a7354, 0x766a0abb, 0x81c2c92e, 0x92722c85,
  0xa2bfe8a1, 0xa81a664b, 0xc24b8b70, 0xc76c51a3, 0xd192e819, 0xd6990624, 0xf40e3585, 0x106aa070,
  0x19a4c116, 0x1e376c08, 0x2748774c, 0x34b0bcb5, 0x391c0cb3, 0x4ed8aa4a, 0x5b9cca4f, 0x682e6ff3,
  0x748f82ee, 0x78a5636f, 0x84c87814, 0x8cc70208, 0x90befffa, 0xa4506ceb, 0xbef9a3f7, 0xc67178f2]

structure State where
  a : Word
  b : Word
  c : Word
  d : Word
  e : Word
  f : Word
  g : Word
  h : Word

def initial : State :=
  ⟨0x6a09e667, 0xbb67ae85, 0x3c6ef372, 0xa54ff53a, 0x510e527f, 0x9b05688c, 0x1f83d9ab, 0x5be0cd19⟩

def State.add (s t : State) : State :=
  ⟨s.a + t.a, s.b + t.b, s.c + t.c, s.d + t.d, s.e + t.e, s.f + t.f, s.g + t.g, s.h + t.h⟩

def State.words (s : State) : List Word := [s.a, s.b, s.c, s.d, s.e, s.f, s.g, s.h]

def bigSigma0 (x : Word) : Word := x.rotateRight 2 ^^^ x.rotateRight 13 ^^^ x.rotateRight 22

def bigSigma1 (x : Word) : Word := x.rotateRight 6 ^^^ x.rotateRight 11 ^^^ x.rotateRight 25

def smallSigma0 (x : Word) : Word := x.rotateRight 7 ^^^ x.rotateRight 18 ^^^ x >>> 3

def smallSigma1 (x : Word) : Word := x.rotateRight 17 ^^^ x.rotateRight 19 ^^^ x >>> 10

def choose (x y z : Word) : Word := (x &&& y) ^^^ (~~~x &&& z)

def majority (x y z : Word) : Word := (x &&& y) ^^^ (x &&& z) ^^^ (y &&& z)

def round (s : State) (kw : Word × Word) : State :=
  let t1 := s.h + bigSigma1 s.e + choose s.e s.f s.g + kw.1 + kw.2
  let t2 := bigSigma0 s.a + majority s.a s.b s.c
  ⟨t1 + t2, s.a, s.b, s.c, s.d + t1, s.e, s.f, s.g⟩

/-- The message schedule, newest word first. -/
def extend : Nat → List Word → List Word
  | 0, ws => ws
  | n + 1, ws => extend n
      ((smallSigma1 (ws.getD 1 0) + ws.getD 6 0 + smallSigma0 (ws.getD 14 0) + ws.getD 15 0) :: ws)

def schedule (block : List Word) : List Word := (extend 48 block.reverse).reverse

def compress (s : State) (block : List Word) : State :=
  s.add ((roundConstants.zip (schedule block)).foldl round s)

def compressBlocks : Nat → State → List Word → State
  | 0, s, _ => s
  | n + 1, s, ws => compressBlocks n (compress s (ws.take 16)) (ws.drop 16)

def toWords : Bytes → List Word
  | b0 :: b1 :: b2 :: b3 :: rest =>
    BitVec.ofNat 32 (((b0.toNat * 256 + b1.toNat) * 256 + b2.toNat) * 256 + b3.toNat) :: toWords rest
  | _ => []

def wordBytes (w : Word) : Bytes := [24, 16, 8, 0].map fun n => UInt8.ofNat (w.toNat >>> n)

def lengthBytes (n : Nat) : Bytes := (List.range 8).reverse.map fun i => UInt8.ofNat (8 * n / 256 ^ i)

def pad (m : Bytes) : Bytes :=
  m ++ 0x80 :: List.replicate ((119 - m.length % 64) % 64) 0 ++ lengthBytes m.length

end Sha256

/-- `hashlib.sha256(data).digest()`. -/
def sha256 (data : Bytes) : Bytes :=
  let ws := Sha256.toWords (Sha256.pad data)
  (Sha256.compressBlocks (ws.length / 16) Sha256.initial ws).words.flatMap Sha256.wordBytes

def hexText (bs : Bytes) : List Char :=
  bs.flatMap fun b => [hexDigit (b.toNat / 16), hexDigit (b.toNat % 16)]

/-- `digest.hex()`. -/
def hex (bs : Bytes) : String := String.ofList (hexText bs)

theorem hexText_injective {as bs : Bytes} (h : hexText as = hexText bs) : as = bs := by
  induction as generalizing bs with
  | nil =>
    cases bs with
    | nil => rfl
    | cons b bs => simp [hexText] at h
  | cons a as ih =>
    cases bs with
    | nil => simp [hexText] at h
    | cons b bs =>
      simp only [hexText, List.flatMap_cons, List.cons_append, List.nil_append, List.cons.injEq] at h
      obtain ⟨hhi, hlo, ht⟩ := h
      have ha := a.toNat_lt
      have hb := b.toNat_lt
      have hi := congrArg hexValue hhi
      have lo := congrArg hexValue hlo
      rw [hexValue_hexDigit _ (by omega), hexValue_hexDigit _ (by omega)] at hi lo
      have hab : a = b := UInt8.toNat_inj.mp (by omega)
      rw [hab, ih ht]

theorem hex_injective {as bs : Bytes} (h : hex as = hex bs) : as = bs :=
  hexText_injective (String.ofList_injective h)

theorem length_sha256 (data : Bytes) : (sha256 data).length = 32 := by
  simp [sha256, Sha256.State.words, Sha256.wordBytes]

theorem length_hexText (bs : Bytes) : (hexText bs).length = 2 * bs.length := by
  induction bs with
  | nil => rfl
  | cons b bs ih =>
    simp only [hexText, List.flatMap_cons, List.length_append, List.length_cons, List.length_nil] at ih ⊢
    omega

/-- `hmac.new(key, message, sha256).digest()`. -/
def hmacSha256 (key message : Bytes) : Bytes :=
  let short := if key.length ≤ 64 then key else sha256 key
  let block := short ++ List.replicate (64 - short.length) 0
  sha256 (block.map (· ^^^ 0x5c) ++ sha256 (block.map (· ^^^ 0x36) ++ message))

/-- Two different messages with one digest. -/
def Sha256Collision (a b : Bytes) : Prop := a ≠ b ∧ sha256 a = sha256 b

theorem Sha256Collision.symm {a b : Bytes} (h : Sha256Collision a b) : Sha256Collision b a :=
  ⟨h.1.symm, h.2.symm⟩

example : hex (sha256 [97, 98, 99]) =
    "ba7816bf8f01cfea414140de5dae2223b00361a396177a9cb410ff61f20015ad" := by decide +kernel

end Sip
