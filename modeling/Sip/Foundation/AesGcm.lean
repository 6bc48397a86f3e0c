import Sip.Foundation.Sha256

/-!
# AES-256 in Galois counter mode

The block cipher of FIPS 197 for 256-bit keys and the authenticated mode of
SP 800-38D for 96-bit nonces, over byte lists. The ciphertext carries the
16-byte tag at its end. What is proved is that opening undoes sealing; nothing is
assumed about the strength of the cipher.
-/

namespace Sip

set_option autoImplicit false

namespace Aes

def double (b : UInt8) : UInt8 := (b <<< 1) ^^^ (if b < 0x80 then 0 else 0x1b)

/-- Product in GF(2⁸), over the bits of the first factor from the highest one down. -/
def mul (a b : UInt8) : UInt8 :=
  [7, 6, 5, 4, 3, 2, 1, 0].foldl (fun acc i => double acc ^^^ (if a.toNat.testBit i then b else 0)) 0

/-- `b ^ 254`, the inverse of a nonzero element. -/
def inverse (b : UInt8) : UInt8 :=
  [1, 1, 1, 1, 1, 1, 1, 0].foldl (fun acc bit => mul (mul acc acc) (if bit = 1 then b else 1)) 1

def rotate (b : UInt8) (n : UInt8) : UInt8 := (b <<< n) ||| (b >>> (8 - n))

def subByte (b : UInt8) : UInt8 :=
  let i := inverse b
  i ^^^ rotate i 1 ^^^ rotate i 2 ^^^ rotate i 3 ^^^ rotate i 4 ^^^ 0x63

example : subByte 0x53 = 0xed := by decide +kernel

def xor (as bs : Bytes) : Bytes := List.zipWith (· ^^^ ·) as bs

/-- The 60 words of the key schedule, newest first. -/
def extendKey : Nat → UInt8 → List Bytes → List Bytes
  | 0, _, ws => ws
  | n + 1, rcon, ws =>
    let i := ws.length
    let last := ws.headD []
    let temp := if i % 8 = 0 then xor ((last.rotate 1).map subByte) [rcon, 0, 0, 0]
      else if i % 8 = 4 then last.map subByte else last
    extendKey n (if i % 8 = 0 then double rcon else rcon) (xor (ws.getD 7 []) temp :: ws)

def roundKeys (key : Bytes) : List Bytes :=
  ((extendKey 52 1 (key.toChunks 4).reverse).reverse.toChunks 4).map List.flatten

def shiftRows (state : Bytes) : Bytes := (List.range 16).map fun i => state.getD (5 * i % 16) 0

def mixColumn : Bytes → Bytes
  | [a, b, c, d] => [mul 2 a ^^^ mul 3 b ^^^ c ^^^ d, a ^^^ mul 2 b ^^^ mul 3 c ^^^ d,
      a ^^^ b ^^^ mul 2 c ^^^ mul 3 d, mul 3 a ^^^ b ^^^ c ^^^ mul 2 d]
  | column => column

def mixColumns (state : Bytes) : Bytes := (state.toChunks 4).flatMap mixColumn

def rounds : List Bytes → Bytes → Bytes
  | [], state => state
  | [last], state => xor (shiftRows (state.map subByte)) last
  | key :: keys, state => rounds keys (xor (mixColumns (shiftRows (state.map subByte))) key)

def encryptBlock (key block : Bytes) : Bytes :=
  match roundKeys key with
  | [] => block
  | first :: keys => rounds keys (xor block first)

end Aes

namespace Gcm

abbrev Block := BitVec 128

def toBlock (bs : Bytes) : Block := BitVec.ofNat 128 (bs.foldl (fun acc b => acc * 256 + b.toNat) 0)

def ofBlock (x : Block) : Bytes := (List.range 16).reverse.map fun i => UInt8.ofNat (x.toNat / 256 ^ i)

/-- Product in GF(2¹²⁸) with the leading bit first. -/
def mul (x y : Block) : Block :=
  ((List.range 128).foldl (fun (acc : Block × Block) i =>
    (if x.getMsbD i then acc.1 ^^^ acc.2 else acc.1,
      if acc.2.getLsbD 0 then acc.2 >>> 1 ^^^ (0xe1#128 <<< 120) else acc.2 >>> 1)) (0, y)).1

def ghash (h : Block) (data : Bytes) : Block :=
  (data.toChunks 16).foldl (fun acc block => mul (acc ^^^ toBlock block) h) 0

def padded (bs : Bytes) : Bytes := bs ++ List.replicate ((16 - bs.length % 16) % 16) 0

def counter (nonce : Bytes) (n : Nat) : Bytes :=
  nonce ++ [3, 2, 1, 0].map fun i => UInt8.ofNat (n / 256 ^ i)

/-- The mask of the byte at an index: the counter blocks start at two. -/
def mask (key nonce : Bytes) (index : Nat) : UInt8 :=
  (Aes.encryptBlock key (counter nonce (index / 16 + 2))).getD (index % 16) 0

def ctr (key nonce data : Bytes) : Bytes := data.mapIdx fun i b => b ^^^ mask key nonce i

def tag (key nonce ciphertext aad : Bytes) : Bytes :=
  let h := toBlock (Aes.encryptBlock key (List.replicate 16 0))
  let lengths := Sha256.lengthBytes aad.length ++ Sha256.lengthBytes ciphertext.length
  ofBlock (ghash h (padded aad ++ padded ciphertext ++ lengths) ^^^ toBlock (Aes.encryptBlock key (counter nonce 1)))

def sealBytes (key nonce plaintext aad : Bytes) : Bytes :=
  let ciphertext := ctr key nonce plaintext
  ciphertext ++ tag key nonce ciphertext aad

def openBytes (key nonce data aad : Bytes) : Option Bytes :=
  let ciphertext := data.take (data.length - 16)
  if data.drop (data.length - 16) = tag key nonce ciphertext aad then some (ctr key nonce ciphertext) else none

theorem length_tag (key nonce ciphertext aad : Bytes) : (tag key nonce ciphertext aad).length = 16 := by
  simp [tag, ofBlock]

theorem ctr_ctr (key nonce data : Bytes) : ctr key nonce (ctr key nonce data) = data := by
  apply List.ext_getElem
  · simp [ctr]
  · intro i _ _
    simp [ctr, UInt8.xor_assoc]

theorem openBytes_sealBytes (key nonce plaintext aad : Bytes) :
    openBytes key nonce (sealBytes key nonce plaintext aad) aad = some plaintext := by
  have hlength : (sealBytes key nonce plaintext aad).length - 16 = (ctr key nonce plaintext).length := by
    rw [sealBytes, List.length_append, length_tag, Nat.add_sub_cancel]
  rw [openBytes, hlength, sealBytes, List.take_left, List.drop_left, if_pos rfl, ctr_ctr]

end Gcm

end Sip
