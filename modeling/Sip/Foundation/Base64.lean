import Sip.Foundation.Sha256

/-!
# Base64 as `base64.b64encode` and the lenient `base64.b64decode` compute it

The decoder skips every character outside the alphabet, stops at a complete
padding and rejects what is left over, like `binascii.a2b_base64` without strict
mode. Decoding an encoding gives the bytes back.
-/

namespace Sip

set_option autoImplicit false

def charsFrom (first : Char) (count : Nat) : List Char :=
  (List.range count).map fun i => Char.ofNat (first.toNat + i)

def base64Alphabet : List Char := charsFrom 'A' 26 ++ charsFrom 'a' 26 ++ charsFrom '0' 10 ++ ['+', '/']

def base64Char (n : Nat) : Char := base64Alphabet.getD n 'A'

/-- The six bits of an alphabet character. -/
def base64Value? (c : Char) : Option Nat :=
  let n := base64Alphabet.idxOf c
  if n < 64 then some n else none

theorem base64Value_char : ∀ n < 64, base64Value? (base64Char n) = some n := by decide +kernel

theorem base64Char_ne_pad : ∀ n < 64, base64Char n ≠ '=' := by decide +kernel

def base64Text : Bytes → List Char
  | [] => []
  | [a] => [base64Char (a.toNat / 4), base64Char (a.toNat % 4 * 16), '=', '=']
  | [a, b] => [base64Char (a.toNat / 4), base64Char (a.toNat % 4 * 16 + b.toNat / 16),
      base64Char (b.toNat % 16 * 4), '=']
  | a :: b :: c :: rest => base64Char (a.toNat / 4) :: base64Char (a.toNat % 4 * 16 + b.toNat / 16) ::
      base64Char (b.toNat % 16 * 4 + c.toNat / 64) :: base64Char (c.toNat % 64) :: base64Text rest

/-- `base64.b64encode(data).decode()`. -/
def b64encode (data : Bytes) : String := String.ofList (base64Text data)

/-- Where the decoder stands: the characters read of the current group of four,
the bits left over from the last one, and the padding seen since then. -/
structure Base64State where
  quadPos : Nat
  left : Nat
  pads : Nat

def decodeQuads : Base64State → List Char → Option Bytes
  | s, [] => if s.quadPos = 0 then some [] else none
  | s, c :: cs =>
    if c = '=' then
      if 2 ≤ s.quadPos ∧ 4 ≤ s.quadPos + (s.pads + 1) then some []
      else decodeQuads { s with pads := if 2 ≤ s.quadPos then s.pads + 1 else s.pads } cs
    else match base64Value? c with
      | none => decodeQuads s cs
      | some v =>
        if s.quadPos = 0 then decodeQuads ⟨1, v, 0⟩ cs
        else if s.quadPos = 1 then
          (decodeQuads ⟨2, v % 16, 0⟩ cs).map (UInt8.ofNat (s.left * 4 + v / 16) :: ·)
        else if s.quadPos = 2 then
          (decodeQuads ⟨3, v % 4, 0⟩ cs).map (UInt8.ofNat (s.left * 16 + v / 4) :: ·)
        else
          (decodeQuads ⟨0, 0, 0⟩ cs).map (UInt8.ofNat (s.left * 64 + v) :: ·)

/-- `base64.b64decode(text)`: text outside ASCII is refused before decoding. -/
def b64decode (text : String) : Option Bytes :=
  if text.toList.all (·.toNat < 128) then decodeQuads ⟨0, 0, 0⟩ text.toList else none

section Steps
variable (n : Nat) (hn : n < 64) (cs : List Char) (left pads : Nat)
include hn

theorem decodeQuads_zero :
    decodeQuads ⟨0, left, pads⟩ (base64Char n :: cs) = decodeQuads ⟨1, n, 0⟩ cs := by
  simp [decodeQuads, base64Char_ne_pad n hn, base64Value_char n hn]

theorem decodeQuads_one : decodeQuads ⟨1, left, pads⟩ (base64Char n :: cs) =
    (decodeQuads ⟨2, n % 16, 0⟩ cs).map (UInt8.ofNat (left * 4 + n / 16) :: ·) := by
  simp [decodeQuads, base64Char_ne_pad n hn, base64Value_char n hn]

theorem decodeQuads_two : decodeQuads ⟨2, left, pads⟩ (base64Char n :: cs) =
    (decodeQuads ⟨3, n % 4, 0⟩ cs).map (UInt8.ofNat (left * 16 + n / 4) :: ·) := by
  simp [decodeQuads, base64Char_ne_pad n hn, base64Value_char n hn]

theorem decodeQuads_three : decodeQuads ⟨3, left, pads⟩ (base64Char n :: cs) =
    (decodeQuads ⟨0, 0, 0⟩ cs).map (UInt8.ofNat (left * 64 + n) :: ·) := by
  simp [decodeQuads, base64Char_ne_pad n hn, base64Value_char n hn]

end Steps

theorem ofNat_eq_of_toNat {n : Nat} {a : UInt8} (h : n = a.toNat) : UInt8.ofNat n = a := by
  rw [h, UInt8.ofNat_toNat]

theorem decodeQuads_base64Text (data : Bytes) : decodeQuads ⟨0, 0, 0⟩ (base64Text data) = some data := by
  induction data using base64Text.induct with
  | case1 => rfl
  | case2 a =>
    have ha := a.toNat_lt
    have ea : UInt8.ofNat (a.toNat / 4 * 4 + a.toNat % 4 * 16 / 16) = a := ofNat_eq_of_toNat (by omega)
    rw [base64Text, decodeQuads_zero _ (by omega), decodeQuads_one _ (by omega), ea]
    rfl
  | case3 a b =>
    have ha := a.toNat_lt
    have hb := b.toNat_lt
    have ea : UInt8.ofNat (a.toNat / 4 * 4 + (a.toNat % 4 * 16 + b.toNat / 16) / 16) = a :=
      ofNat_eq_of_toNat (by omega)
    have eb : UInt8.ofNat ((a.toNat % 4 * 16 + b.toNat / 16) % 16 * 16 + b.toNat % 16 * 4 / 4) = b :=
      ofNat_eq_of_toNat (by omega)
    rw [base64Text, decodeQuads_zero _ (by omega), decodeQuads_one _ (by omega),
      decodeQuads_two _ (by omega), ea, eb]
    rfl
  | case4 a b c rest ih =>
    have ha := a.toNat_lt
    have hb := b.toNat_lt
    have hc := c.toNat_lt
    have ea : UInt8.ofNat (a.toNat / 4 * 4 + (a.toNat % 4 * 16 + b.toNat / 16) / 16) = a :=
      ofNat_eq_of_toNat (by omega)
    have eb : UInt8.ofNat ((a.toNat % 4 * 16 + b.toNat / 16) % 16 * 16 +
        (b.toNat % 16 * 4 + c.toNat / 64) / 4) = b := ofNat_eq_of_toNat (by omega)
    have ec : UInt8.ofNat ((b.toNat % 16 * 4 + c.toNat / 64) % 4 * 64 + c.toNat % 64) = c :=
      ofNat_eq_of_toNat (by omega)
    rw [base64Text, decodeQuads_zero _ (by omega), decodeQuads_one _ (by omega),
      decodeQuads_two _ (by omega), decodeQuads_three _ (by omega), ih, ea, eb, ec]
    rfl

theorem base64Char_ascii (n : Nat) : (base64Char n).toNat < 128 := by
  have hall : base64Alphabet.all (fun c => c.toNat < 128) = true := by decide
  rw [base64Char, List.getD_eq_getElem?_getD]
  cases hc : base64Alphabet[n]? with
  | none => decide
  | some c => simpa using List.all_eq_true.mp hall c (List.mem_of_getElem? hc)

theorem base64Text_ascii (data : Bytes) : ∀ c ∈ base64Text data, c.toNat < 128 := by
  induction data using base64Text.induct with
  | case1 => simp [base64Text]
  | case2 a => simp [base64Text, base64Char_ascii]
  | case3 a b => simp [base64Text, base64Char_ascii]
  | case4 a b c rest ih => simpa [base64Text, base64Char_ascii] using ih

theorem b64decode_b64encode (data : Bytes) : b64decode (b64encode data) = some data := by
  have hascii : (base64Text data).all (·.toNat < 128) = true := by
    simpa using base64Text_ascii data
  simp only [b64decode, b64encode, String.toList_ofList, hascii, if_true, decodeQuads_base64Text]

example : b64encode [77, 97] = "TWE=" := by decide

end Sip
