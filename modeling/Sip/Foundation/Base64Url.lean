import Mathlib.Data.List.DropRight
import Sip.Foundation.Base64

/-!
# Base64 without padding in the alphabet for URLs

`base64.urlsafe_b64encode(data).rstrip(b"=")`, and the decoding of such a text after
its padding has been put back.
-/

namespace Sip

set_option autoImplicit false

def urlChar (c : Char) : Char := if c = '+' then '-' else if c = '/' then '_' else c

def standardChar (c : Char) : Char := if c = '-' then '+' else if c = '_' then '/' else c

def urlsafeText (data : Bytes) : List Char := ((base64Text data).map urlChar).rdropWhile (· = '=')

/-- `text + "=" * (-len(text) % 4)`. -/
def repadded (text : List Char) : List Char := text ++ List.replicate ((4 - text.length % 4) % 4) '='

/-- `base64.urlsafe_b64decode(text + padding)`. -/
def urlsafeDecode (text : List Char) : Option Bytes := b64decode (String.ofList ((repadded text).map standardChar))

theorem base64Char_plain (n : Nat) : base64Char n ∉ ['=', '-', '_', '.'] := by
  have hall : base64Alphabet.all (fun c => c ∉ ['=', '-', '_', '.']) = true := by decide
  rw [base64Char, List.getD_eq_getElem?_getD]
  cases hc : base64Alphabet[n]? with
  | none => decide
  | some c => simpa using List.all_eq_true.mp hall c (List.mem_of_getElem? hc)

/-- An encoding is plain characters and then the padding that its length asks for. -/
theorem base64Text_shape (data : Bytes) : ∃ body : List Char, (∀ c ∈ body, c ∉ ['=', '-', '_', '.']) ∧
    base64Text data = body ++ List.replicate ((4 - body.length % 4) % 4) '=' := by
  induction data using base64Text.induct with
  | case1 => exact ⟨[], by simp, by simp [base64Text]⟩
  | case2 a =>
    refine ⟨[base64Char (a.toNat / 4), base64Char (a.toNat % 4 * 16)], ?_, by simp [base64Text]⟩
    simp only [List.forall_mem_cons]
    exact ⟨base64Char_plain _, base64Char_plain _, by simp⟩
  | case3 a b =>
    refine ⟨[base64Char (a.toNat / 4), base64Char (a.toNat % 4 * 16 + b.toNat / 16), base64Char (b.toNat % 16 * 4)],
      ?_, by simp [base64Text]⟩
    simp only [List.forall_mem_cons]
    exact ⟨base64Char_plain _, base64Char_plain _, base64Char_plain _, by simp⟩
  | case4 a b c rest ih =>
    obtain ⟨body, hbody, heq⟩ := ih
    refine ⟨base64Char (a.toNat / 4) :: base64Char (a.toNat % 4 * 16 + b.toNat / 16) ::
      base64Char (b.toNat % 16 * 4 + c.toNat / 64) :: base64Char (c.toNat % 64) :: body, ?_, ?_⟩
    · simp only [List.forall_mem_cons]
      exact ⟨base64Char_plain _, base64Char_plain _, base64Char_plain _, base64Char_plain _, hbody⟩
    · have hlen : (body.length + 1 + 1 + 1 + 1) % 4 = body.length % 4 := by omega
      rw [base64Text, heq]
      simp only [List.length_cons, hlen, List.cons_append]

theorem rdropWhile_pad {body : List Char} (h : ∀ c ∈ body, c ≠ '=') (n : Nat) :
    (body ++ List.replicate n '=').rdropWhile (· = '=') = body := by
  have hbody : body.rdropWhile (· = '=') = body := by
    rw [List.rdropWhile_eq_self_iff]
    intro hne
    simpa using h _ (List.getLast_mem hne)
  induction n with
  | zero => simpa using hbody
  | succ n ih =>
    rw [List.replicate_succ', ← List.append_assoc, List.rdropWhile_concat_pos _ _ _ (by simp)]
    exact ih

theorem urlChar_plain {c : Char} (h : c ∉ ['=', '-', '_', '.']) :
    urlChar c ≠ '=' ∧ urlChar c ≠ '.' ∧ standardChar (urlChar c) = c := by
  obtain ⟨hpad, hminus, hlow, hpoint⟩ : c ≠ '=' ∧ c ≠ '-' ∧ c ≠ '_' ∧ c ≠ '.' := by simpa using h
  by_cases hplus : c = '+'
  · subst hplus
    decide
  · by_cases hslash : c = '/'
    · subst hslash
      decide
    · simp [urlChar, standardChar, hplus, hslash, hpad, hminus, hlow, hpoint]

theorem urlsafeText_shape (data : Bytes) : ∃ body : List Char, (∀ c ∈ body, c ∉ ['=', '-', '_', '.']) ∧
    urlsafeText data = body.map urlChar ∧ base64Text data = body ++ List.replicate ((4 - body.length % 4) % 4) '=' := by
  obtain ⟨body, hplain, htext⟩ := base64Text_shape data
  refine ⟨body, hplain, ?_, htext⟩
  rw [urlsafeText, htext, List.map_append, List.map_replicate]
  apply rdropWhile_pad
  intro c hc
  obtain ⟨d, hd, rfl⟩ := List.mem_map.mp hc
  exact (urlChar_plain (hplain d hd)).1

/-- The padding comes back, and so do the characters of the standard alphabet. -/
theorem repadded_urlsafeText (data : Bytes) : (repadded (urlsafeText data)).map standardChar = base64Text data := by
  obtain ⟨body, hplain, hurl, htext⟩ := urlsafeText_shape data
  have hback : (body.map urlChar).map standardChar = body := by
    rw [List.map_map]
    conv_rhs => rw [← List.map_id body]
    apply List.map_congr_left
    intro c hc
    exact (urlChar_plain (hplain c hc)).2.2
  rw [hurl, repadded, List.length_map, List.map_append, hback, List.map_replicate, htext]
  rfl

theorem urlsafeDecode_urlsafeText (data : Bytes) : urlsafeDecode (urlsafeText data) = some data := by
  rw [urlsafeDecode, repadded_urlsafeText]
  exact b64decode_b64encode data

/-- The point that separates the parts of a token is not in an encoding. -/
theorem point_not_mem_urlsafeText (data : Bytes) : '.' ∉ urlsafeText data := by
  obtain ⟨body, hplain, hurl, _⟩ := urlsafeText_shape data
  rw [hurl, List.mem_map]
  rintro ⟨c, hc, hpoint⟩
  exact (urlChar_plain (hplain c hc)).2.1 hpoint

end Sip
