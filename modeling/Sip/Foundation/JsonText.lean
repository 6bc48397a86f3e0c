import Mathlib.Algebra.BigOperators.Group.List.Basic
import Sip.Foundation.Json

/-!
# The compact text of a JSON document, and that it determines the document

`Json.encode` is `json.dumps(value, separators=(",", ":"), ensure_ascii=False)`
on a document whose objects are already in the wanted key order. A text followed
by anything that is not part of a number can be read back in only one way.
-/

namespace Sip

set_option autoImplicit false

def hexAlphabet : List Char :=
  ['0', '1', '2', '3', '4', '5', '6', '7', '8', '9', 'a', 'b', 'c', 'd', 'e', 'f']

def hexDigit (n : Nat) : Char := hexAlphabet.getD n '0'

def hexValue (c : Char) : Nat := hexAlphabet.idxOf c

theorem hexValue_hexDigit : ∀ n < 16, hexValue (hexDigit n) = n := by decide

/-- `ESCAPE_DCT` of the standard encoder: the short escapes, then `\u00XX` for
the other control characters; everything else stands for itself. -/
def escapeChar (c : Char) : List Char :=
  if c = '"' then ['\\', '"']
  else if c = '\\' then ['\\', '\\']
  else if c = '\n' then ['\\', 'n']
  else if c = '\r' then ['\\', 'r']
  else if c = '\t' then ['\\', 't']
  else if c = '\x0c' then ['\\', 'f']
  else if c = '\x08' then ['\\', 'b']
  else if c.toNat < 0x20 then ['\\', 'u', '0', '0', hexDigit (c.toNat / 16), hexDigit (c.toNat % 16)]
  else [c]

def escapeText (cs : List Char) : List Char := cs.flatMap escapeChar

def stringText (s : String) : List Char := '"' :: escapeText s.toList ++ ['"']

def intText : Int → List Char
  | .ofNat n => Nat.toDigits 10 n
  | .negSucc n => '-' :: Nat.toDigits 10 (n + 1)

def Number.text : Number → List Char
  | .int n => intText n
  | .float x => x.text.toList

namespace Json

mutual
def encode : Json → List Char
  | .null => ['n', 'u', 'l', 'l']
  | .bool true => ['t', 'r', 'u', 'e']
  | .bool false => ['f', 'a', 'l', 's', 'e']
  | .num n => n.text
  | .str s => stringText s
  | .arr items => '[' :: encodeItems items
  | .obj fields => '{' :: encodeFields fields
def encodeItems : List Json → List Char
  | [] => [']']
  | v :: vs => v.encode ++ encodeItemsTail vs
def encodeItemsTail : List Json → List Char
  | [] => [']']
  | v :: vs => ',' :: v.encode ++ encodeItemsTail vs
def encodeFields : List (String × Json) → List Char
  | [] => ['}']
  | (k, v) :: fs => stringText k ++ ':' :: v.encode ++ encodeFieldsTail fs
def encodeFieldsTail : List (String × Json) → List Char
  | [] => ['}']
  | (k, v) :: fs => ',' :: stringText k ++ ':' :: v.encode ++ encodeFieldsTail fs
end

end Json

section Strings

/-- Read one escaped character back. -/
def readChar : List Char → Option (Char × List Char)
  | '\\' :: '"' :: r => some ('"', r)
  | '\\' :: '\\' :: r => some ('\\', r)
  | '\\' :: 'n' :: r => some ('\n', r)
  | '\\' :: 'r' :: r => some ('\r', r)
  | '\\' :: 't' :: r => some ('\t', r)
  | '\\' :: 'f' :: r => some ('\x0c', r)
  | '\\' :: 'b' :: r => some ('\x08', r)
  | '\\' :: 'u' :: '0' :: '0' :: a :: b :: r => some (Char.ofNat (16 * hexValue a + hexValue b), r)
  | c :: r => if c = '"' ∨ c = '\\' then none else some (c, r)
  | [] => none

theorem readChar_escapeChar (c : Char) (r : List Char) : readChar (escapeChar c ++ r) = some (c, r) := by
  unfold escapeChar
  split
  · subst c; rfl
  split
  · subst c; rfl
  split
  · subst c; rfl
  split
  · subst c; rfl
  split
  · subst c; rfl
  split
  · subst c; rfl
  split
  · subst c; rfl
  split
  · have hi := hexValue_hexDigit (c.toNat / 16) (by omega)
    have lo := hexValue_hexDigit (c.toNat % 16) (by omega)
    have hc : 16 * (c.toNat / 16) + c.toNat % 16 = c.toNat := by omega
    simp only [List.cons_append, List.nil_append, readChar, hi, lo, hc, Char.ofNat_toNat]
  · simp only [List.cons_append, List.nil_append]
    rw [readChar.eq_def]
    split <;> simp_all

theorem readChar_quote (r : List Char) : readChar ('"' :: r) = none := by simp [readChar]

theorem escapeText_append_inj (s t r u : List Char)
    (h : escapeText s ++ '"' :: r = escapeText t ++ '"' :: u) : s = t ∧ r = u := by
  induction s generalizing t with
  | nil =>
    cases t with
    | nil => simpa [escapeText] using h
    | cons d t =>
      have hr := congrArg readChar h
      simp [escapeText, readChar_quote, readChar_escapeChar] at hr
  | cons c s ih =>
    cases t with
    | nil =>
      have hr := congrArg readChar h
      simp [escapeText, readChar_quote, readChar_escapeChar] at hr
    | cons d t =>
      have hr := congrArg readChar h
      simp only [escapeText, List.flatMap_cons, List.append_assoc, readChar_escapeChar,
        Option.some.injEq, Prod.mk.injEq] at hr
      obtain ⟨hst, hru⟩ := ih t hr.2
      exact ⟨by rw [hr.1, hst], hru⟩

theorem stringText_append_inj (s t : String) (r u : List Char)
    (h : stringText s ++ r = stringText t ++ u) : s = t ∧ r = u := by
  simp only [stringText, List.cons_append, List.append_assoc, List.nil_append, List.cons.injEq,
    true_and] at h
  obtain ⟨hst, hru⟩ := escapeText_append_inj _ _ _ _ h
  exact ⟨String.toList_inj.mp hst, hru⟩

end Strings

section Numbers

/-- The characters a number is written with. -/
def numeric (c : Char) : Bool := c.isDigit || c = '-' || c = '+' || c = '.' || c = 'e'

theorem numeric_of_next {p q : FloatPhase} {c : Char} (h : p.next c = some q) : numeric c = true := by
  have hzero : c = '0' → c.isDigit = true := by
    rintro rfl
    decide
  cases p <;> simp only [FloatPhase.next] at h <;> grind [numeric]

theorem numeric_of_accepts (cs : List Char) (p : FloatPhase) (h : p.accepts cs = true) :
    ∀ c ∈ cs, numeric c = true := by
  induction cs generalizing p with
  | nil => simp
  | cons c cs ih =>
    simp only [FloatPhase.accepts] at h
    split at h
    · rename_i q hq
      intro d hd
      rcases List.mem_cons.mp hd with rfl | hd
      · exact numeric_of_next hq
      · exact ih q h d hd
    · simp at h

/-- Before the point or the exponent, a float text still has one of them to come. -/
theorem mark_of_accepts (cs : List Char) (p : FloatPhase) (hp : p = .start ∨ p = .sign ∨ p = .zero ∨ p = .whole)
    (h : p.accepts cs = true) : '.' ∈ cs ∨ 'e' ∈ cs := by
  induction cs generalizing p with
  | nil => rcases hp with rfl | rfl | rfl | rfl <;> simp [FloatPhase.accepts] at h
  | cons c cs ih =>
    simp only [FloatPhase.accepts] at h
    split at h
    · rename_i q hq
      by_cases hq' : q = .start ∨ q = .sign ∨ q = .zero ∨ q = .whole
      · rcases ih q hq' h with hm | hm
        · exact .inl (List.mem_cons_of_mem c hm)
        · exact .inr (List.mem_cons_of_mem c hm)
      · have hc : c = '.' ∨ c = 'e' := by
          rcases hp with rfl | rfl | rfl | rfl <;> simp only [FloatPhase.next] at hq <;> grind
        rcases hc with rfl | rfl
        · exact .inl List.mem_cons_self
        · exact .inr List.mem_cons_self
    · simp at h

theorem isDigit_of_mem_toDigits {n : Nat} {c : Char} (h : c ∈ Nat.toDigits 10 n) : c.isDigit = true :=
  Nat.isDigit_of_mem_toDigits (by decide) (by decide) h

theorem toDigits_injective {m n : Nat} (h : Nat.toDigits 10 m = Nat.toDigits 10 n) : m = n := by
  rw [← Nat.ofDigitChars_ten_toDigits (n := m), h, Nat.ofDigitChars_ten_toDigits]

theorem intText_chars {n : Int} {c : Char} (h : c ∈ intText n) : c.isDigit = true ∨ c = '-' := by
  cases n with
  | ofNat n => exact .inl (isDigit_of_mem_toDigits h)
  | negSucc n =>
    rcases List.mem_cons.mp h with rfl | h
    · exact .inr rfl
    · exact .inl (isDigit_of_mem_toDigits h)

theorem minus_not_mem_toDigits (n : Nat) : '-' ∉ Nat.toDigits 10 n := by
  intro h
  have := isDigit_of_mem_toDigits h
  simp at this

theorem intText_injective {m n : Int} (h : intText m = intText n) : m = n := by
  cases m with
  | ofNat m =>
    cases n with
    | ofNat n => exact congrArg Int.ofNat (toDigits_injective h)
    | negSucc n =>
      have hm : '-' ∈ Nat.toDigits 10 m := by
        change Nat.toDigits 10 m = _ at h
        rw [h]
        exact List.mem_cons_self
      exact absurd hm (minus_not_mem_toDigits m)
  | negSucc m =>
    cases n with
    | ofNat n =>
      have hn : '-' ∈ Nat.toDigits 10 n := by
        change _ = Nat.toDigits 10 n at h
        rw [← h]
        exact List.mem_cons_self
      exact absurd hn (minus_not_mem_toDigits n)
    | negSucc n =>
      have := toDigits_injective (List.cons.inj h).2
      exact congrArg Int.negSucc (by omega)

theorem Number.text_numeric (n : Number) : ∀ c ∈ n.text, numeric c = true := by
  intro c hc
  cases n with
  | int n => rcases intText_chars hc with h | h <;> simp [numeric, h]
  | float x => exact numeric_of_accepts _ _ x.isRepr c hc

theorem Number.text_ne_nil (n : Number) : n.text ≠ [] := by
  cases n with
  | int n => cases n <;> simp [text, intText, Nat.toDigits_ne_nil]
  | float x =>
    intro h
    have := x.isRepr
    simp only [text] at h
    simp [h, FloatPhase.accepts] at this

theorem Number.text_injective {m n : Number} (h : m.text = n.text) : m = n := by
  have apart (k : Int) (x : PyFloat) : intText k ≠ x.text.toList := by
    intro he
    have hmark := mark_of_accepts _ _ (.inl rfl) x.isRepr
    rw [← he] at hmark
    rcases hmark with hm | hm <;> rcases intText_chars hm with hd | hd <;> simp at hd
  cases m with
  | int m =>
    cases n with
    | int n => rw [intText_injective h]
    | float x => exact absurd h (apart m x)
  | float x =>
    cases n with
    | int n => exact absurd h.symm (apart n x)
    | float y =>
      have ht := String.toList_inj.mp h
      cases x
      cases y
      simp_all

end Numbers

/-- What may follow a number: the text ends, or goes on with another character. -/
def Delimited (r : List Char) : Prop := ∀ c ∈ r.head?, numeric c = false

theorem delimited_nil : Delimited [] := by simp [Delimited]

theorem delimited_cons {c : Char} (h : numeric c = false) (r : List Char) : Delimited (c :: r) := by
  simp [Delimited, h]

theorem takeWhile_append_stop {p : Char → Bool} {s r : List Char} (hs : ∀ c ∈ s, p c = true)
    (hr : ∀ c ∈ r.head?, p c = false) : (s ++ r).takeWhile p = s := by
  rw [List.takeWhile_append_of_pos hs]
  cases r with
  | nil => simp
  | cons c r =>
    have hc := hr c (by simp)
    simp [List.takeWhile, hc]

theorem Number.text_append_inj {m n : Number} {r u : List Char} (hr : Delimited r) (hu : Delimited u)
    (h : m.text ++ r = n.text ++ u) : m = n ∧ r = u := by
  have hm := takeWhile_append_stop m.text_numeric hr
  have hn := takeWhile_append_stop n.text_numeric hu
  have ht : m.text = n.text := by rw [← hm, h, hn]
  refine ⟨text_injective ht, ?_⟩
  rw [ht] at h
  exact List.append_cancel_left h

namespace Json

/-- Which constructor a first character announces; a closing bracket announces none. -/
def leadOf (c : Char) : Nat :=
  if c = 'n' then 0 else if c = 't' then 1 else if c = 'f' then 2 else if c = '"' then 3
  else if c = '[' then 4 else if c = '{' then 5 else if c = ']' then 7 else 6

def lead : Json → Nat
  | .null => 0
  | .bool true => 1
  | .bool false => 2
  | .str _ => 3
  | .arr _ => 4
  | .obj _ => 5
  | .num _ => 6

theorem encode_lead (v : Json) (r : List Char) : (v.encode ++ r).head?.map leadOf = some v.lead := by
  cases v with
  | null => simp [encode, leadOf, lead]
  | bool b => cases b <;> simp [encode, leadOf, lead]
  | num n =>
    cases hn : n.text with
    | nil => exact absurd hn n.text_ne_nil
    | cons c cs =>
      have hc := n.text_numeric c (by simp [hn])
      have hne : ∀ d, numeric d = false → c ≠ d := by
        rintro d hd rfl
        simp [hd] at hc
      have hlead : leadOf c = 6 := by
        simp [leadOf, hne 'n' rfl, hne 't' rfl, hne 'f' rfl, hne '"' rfl, hne '[' rfl, hne '{' rfl,
          hne ']' rfl]
      simp [encode, hn, lead, hlead]
  | str s => simp [encode, stringText, leadOf, lead]
  | arr items => simp [encode, leadOf, lead]
  | obj fields => simp [encode, leadOf, lead]

theorem lead_eq_of_append_eq {a b : Json} {r u : List Char} (h : a.encode ++ r = b.encode ++ u) :
    a.lead = b.lead := by
  have hl := encode_lead a r
  rw [h, encode_lead] at hl
  exact (Option.some.inj hl).symm

theorem encode_append_ne_close (v : Json) (r u : List Char) : v.encode ++ r ≠ ']' :: u := by
  intro h
  have hv := encode_lead v r
  have hlt : v.lead < 7 := by
    unfold lead
    split <;> decide
  rw [h] at hv
  have : 7 = v.lead := by simpa [leadOf] using hv
  omega

theorem delimited_itemsTail (vs : List Json) (r : List Char) : Delimited (encodeItemsTail vs ++ r) := by
  cases vs <;> simp only [encodeItemsTail, List.cons_append] <;> exact delimited_cons (by decide) _

theorem delimited_fieldsTail (fs : Dict) (r : List Char) : Delimited (encodeFieldsTail fs ++ r) := by
  rcases fs with _ | ⟨⟨k, v⟩, fs⟩ <;> simp only [encodeFieldsTail, List.cons_append] <;>
    exact delimited_cons (by decide) _

mutual
/-- Unique reading, one case per constructor. -/
theorem encode_append_inj : ∀ (a b : Json) (r u : List Char), Delimited r → Delimited u →
    a.encode ++ r = b.encode ++ u → a = b ∧ r = u
  | .null, b, r, u, _, _, h => by
    have hl := lead_eq_of_append_eq h
    cases b with
    | null => simpa [encode] using h
    | bool b => cases b <;> simp [lead] at hl
    | num n => simp [lead] at hl
    | str s => simp [lead] at hl
    | arr items => simp [lead] at hl
    | obj fields => simp [lead] at hl
  | .bool a, b, r, u, _, _, h => by
    have hl := lead_eq_of_append_eq h
    cases b with
    | bool b => cases a <;> cases b <;> simp_all [lead, encode]
    | null => cases a <;> simp [lead] at hl
    | num n => cases a <;> simp [lead] at hl
    | str s => cases a <;> simp [lead] at hl
    | arr items => cases a <;> simp [lead] at hl
    | obj fields => cases a <;> simp [lead] at hl
  | .num m, b, r, u, hr, hu, h => by
    have hl := lead_eq_of_append_eq h
    cases b with
    | num n =>
      obtain ⟨hmn, hru⟩ := Number.text_append_inj hr hu (by simpa [encode] using h)
      exact ⟨by rw [hmn], hru⟩
    | null => simp [lead] at hl
    | bool b => cases b <;> simp [lead] at hl
    | str s => simp [lead] at hl
    | arr items => simp [lead] at hl
    | obj fields => simp [lead] at hl
  | .str s, b, r, u, _, _, h => by
    have hl := lead_eq_of_append_eq h
    cases b with
    | str t =>
      obtain ⟨hst, hru⟩ := stringText_append_inj s t r u (by simpa [encode] using h)
      exact ⟨by rw [hst], hru⟩
    | null => simp [lead] at hl
    | bool b => cases b <;> simp [lead] at hl
    | num n => simp [lead] at hl
    | arr items => simp [lead] at hl
    | obj fields => simp [lead] at hl
  | .arr vs, b, r, u, _, _, h => by
    have hl := lead_eq_of_append_eq h
    cases b with
    | arr ws =>
      obtain ⟨hvw, hru⟩ := encodeItems_append_inj vs ws r u (by simpa [encode] using h)
      exact ⟨by rw [hvw], hru⟩
    | null => simp [lead] at hl
    | bool b => cases b <;> simp [lead] at hl
    | num n => simp [lead] at hl
    | str s => simp [lead] at hl
    | obj fields => simp [lead] at hl
  | .obj fs, b, r, u, _, _, h => by
    have hl := lead_eq_of_append_eq h
    cases b with
    | obj gs =>
      obtain ⟨hfg, hru⟩ := encodeFields_append_inj fs gs r u (by simpa [encode] using h)
      exact ⟨by rw [hfg], hru⟩
    | null => simp [lead] at hl
    | bool b => cases b <;> simp [lead] at hl
    | num n => simp [lead] at hl
    | str s => simp [lead] at hl
    | arr items => simp [lead] at hl
theorem encodeItems_append_inj : ∀ (vs ws : List Json) (r u : List Char),
    encodeItems vs ++ r = encodeItems ws ++ u → vs = ws ∧ r = u
  | [], [], r, u, h => by simpa [encodeItems] using h
  | [], w :: ws, r, u, h => by
    simp only [encodeItems, List.append_assoc] at h
    exact absurd h.symm (encode_append_ne_close w _ _)
  | v :: vs, [], r, u, h => by
    simp only [encodeItems, List.append_assoc] at h
    exact absurd h (encode_append_ne_close v _ _)
  | v :: vs, w :: ws, r, u, h => by
    simp only [encodeItems, List.append_assoc] at h
    obtain ⟨hvw, ht⟩ := encode_append_inj v w _ _ (delimited_itemsTail vs r)
      (delimited_itemsTail ws u) h
    obtain ⟨hvs, hru⟩ := encodeItemsTail_append_inj vs ws r u ht
    exact ⟨by rw [hvw, hvs], hru⟩
theorem encodeItemsTail_append_inj : ∀ (vs ws : List Json) (r u : List Char),
    encodeItemsTail vs ++ r = encodeItemsTail ws ++ u → vs = ws ∧ r = u
  | [], [], r, u, h => by simpa [encodeItemsTail] using h
  | [], w :: ws, r, u, h => by simp [encodeItemsTail] at h
  | v :: vs, [], r, u, h => by simp [encodeItemsTail] at h
  | v :: vs, w :: ws, r, u, h => by
    simp only [encodeItemsTail, List.cons_append, List.append_assoc, List.cons.injEq, true_and] at h
    obtain ⟨hvw, ht⟩ := encode_append_inj v w _ _ (delimited_itemsTail vs r)
      (delimited_itemsTail ws u) h
    obtain ⟨hvs, hru⟩ := encodeItemsTail_append_inj vs ws r u ht
    exact ⟨by rw [hvw, hvs], hru⟩
theorem encodeFields_append_inj : ∀ (fs gs : List (String × Json)) (r u : List Char),
    encodeFields fs ++ r = encodeFields gs ++ u → fs = gs ∧ r = u
  | [], [], r, u, h => by simpa [encodeFields] using h
  | [], (k, v) :: gs, r, u, h => by simp [encodeFields, stringText] at h
  | (k, v) :: fs, [], r, u, h => by simp [encodeFields, stringText] at h
  | (k, v) :: fs, (l, w) :: gs, r, u, h => by
    simp only [encodeFields, List.cons_append, List.append_assoc] at h
    obtain ⟨hkl, h⟩ := stringText_append_inj k l _ _ h
    obtain ⟨hvw, ht⟩ := encode_append_inj v w _ _ (delimited_fieldsTail fs r)
      (delimited_fieldsTail gs u) (List.cons.inj h).2
    obtain ⟨hfs, hru⟩ := encodeFieldsTail_append_inj fs gs r u ht
    exact ⟨by rw [hkl, hvw, hfs], hru⟩
theorem encodeFieldsTail_append_inj : ∀ (fs gs : List (String × Json)) (r u : List Char),
    encodeFieldsTail fs ++ r = encodeFieldsTail gs ++ u → fs = gs ∧ r = u
  | [], [], r, u, h => by simpa [encodeFieldsTail] using h
  | [], (k, v) :: gs, r, u, h => by simp [encodeFieldsTail] at h
  | (k, v) :: fs, [], r, u, h => by simp [encodeFieldsTail] at h
  | (k, v) :: fs, (l, w) :: gs, r, u, h => by
    simp only [encodeFieldsTail, List.cons_append, List.append_assoc, List.cons.injEq, true_and] at h
    obtain ⟨hkl, h⟩ := stringText_append_inj k l _ _ h
    obtain ⟨hvw, ht⟩ := encode_append_inj v w _ _ (delimited_fieldsTail fs r)
      (delimited_fieldsTail gs u) (List.cons.inj h).2
    obtain ⟨hfs, hru⟩ := encodeFieldsTail_append_inj fs gs r u ht
    exact ⟨by rw [hkl, hvw, hfs], hru⟩
end

theorem encode_injective {a b : Json} (h : a.encode = b.encode) : a = b :=
  (encode_append_inj a b [] [] delimited_nil delimited_nil (by rw [h])).1

end Json

section Lengths

theorem length_escapeChar_le (c : Char) : (escapeChar c).length ≤ 6 := by
  unfold escapeChar
  repeat' split
  all_goals simp

theorem length_escapeText_le (cs : List Char) : (escapeText cs).length ≤ 6 * cs.length := by
  induction cs with
  | nil => simp [escapeText]
  | cons c cs ih =>
    have := length_escapeChar_le c
    simp only [escapeText, List.flatMap_cons, List.length_append, List.length_cons] at ih ⊢
    omega

theorem length_intText_le {n : Int} {w : Nat} (hw : 0 < w) (h : n.natAbs < 10 ^ w) : (intText n).length ≤ w + 1 := by
  cases n with
  | ofNat n =>
    have := (Nat.length_toDigits_le_iff (b := 10) (n := n) (k := w) (by decide) hw).mpr h
    simp only [intText]
    omega
  | negSucc n =>
    have := (Nat.length_toDigits_le_iff (b := 10) (n := n + 1) (k := w) (by decide) hw).mpr h
    simp only [intText, List.length_cons]
    omega

theorem length_stringText_le (s : String) : (stringText s).length ≤ 6 * s.toList.length + 2 := by
  have := length_escapeText_le s.toList
  simp only [stringText, List.length_cons, List.length_append, List.length_nil]
  omega

/-- The characters a field takes in the text of an object, separators included. -/
def fieldSize (field : String × Json) : Nat := (stringText field.1).length + field.2.encode.length + 2

theorem length_encodeFieldsTail (fields : Dict) :
    (Json.encodeFieldsTail fields).length = (fields.map fieldSize).sum + 1 := by
  induction fields with
  | nil => simp [Json.encodeFieldsTail]
  | cons p fields ih =>
    simp only [Json.encodeFieldsTail, List.length_append, List.length_cons, ih, List.map_cons, List.sum_cons, fieldSize]
    omega

theorem length_encodeFields_le (fields : Dict) :
    (Json.encodeFields fields).length ≤ (fields.map fieldSize).sum + 1 := by
  cases fields with
  | nil => simp [Json.encodeFields]
  | cons p fields =>
    simp only [Json.encodeFields, List.length_append, List.length_cons, length_encodeFieldsTail, List.map_cons,
      List.sum_cons, fieldSize]
    omega

/-- Neither a list nor an object. -/
def Json.Scalar : Json → Prop
  | .arr _ | .obj _ => False
  | _ => True

theorem Json.Scalar.normalize_eq {v : Json} (h : v.Scalar) : v.normalize = v := by
  cases v with
  | arr | obj => exact h.elim
  | null | bool | num | str => simp [Json.normalize]

/-- Sorting the fields of an object does not change the length of its text. -/
theorem length_encode_obj {fields : Dict} (h : ∀ p ∈ fields, p.2.normalize = p.2) :
    (Json.obj fields).normalize.encode.length ≤ (fields.map fieldSize).sum + 2 := by
  have hfields : Json.normalizeFields fields = fields := by
    have hmap : fields.map (fun p => (p.1, p.2.normalize)) = fields.map id := by
      apply List.map_congr_left
      intro p hp
      rw [h p hp, id]
    rw [Json.normalizeFields_eq_map, hmap, List.map_id]
  have hsum : ((fields.insertionSort fun a b => a.1 ≤ b.1).map fieldSize).sum = (fields.map fieldSize).sum :=
    ((List.perm_insertionSort _ fields).map fieldSize).sum_eq
  have hle := length_encodeFields_le (fields.insertionSort fun a b => a.1 ≤ b.1)
  simp only [Json.normalize, hfields, Json.encode, List.length_cons]
  omega

theorem fieldSize_str_le (key text : String) :
    fieldSize (key, .str text) ≤ (stringText key).length + 6 * text.toList.length + 4 := by
  have := length_stringText_le text
  simp only [fieldSize, Json.encode]
  omega

theorem fieldSize_int_le (key : String) {n : Int} (h : n.natAbs < 2 ^ 63) :
    fieldSize (key, .int n) ≤ (stringText key).length + 22 := by
  have := length_intText_le (by decide) (lt_of_lt_of_le h (by decide : 2 ^ 63 ≤ 10 ^ 19))
  simp only [fieldSize, Json.encode, Number.text]
  omega

theorem normalize_texts (texts : List String) : (Json.arr (texts.map .str)).normalize = .arr (texts.map .str) := by
  have hmap : (texts.map Json.str).map Json.normalize = texts.map .str := by
    rw [List.map_map]
    apply List.map_congr_left
    intro text _
    exact Json.normalize_str text
  rw [Json.normalize, Json.normalizeItems_eq_map, hmap]

theorem length_encodeItemsTail_texts (texts : List String) :
    (Json.encodeItemsTail (texts.map .str)).length ≤ (texts.map fun text => 6 * text.toList.length + 3).sum + 1 := by
  induction texts with
  | nil => simp [Json.encodeItemsTail]
  | cons text texts ih =>
    have := length_stringText_le text
    simp only [List.map_cons, Json.encodeItemsTail, Json.encode, List.length_cons, List.length_append, List.sum_cons]
    omega

theorem fieldSize_texts_le (key : String) (texts : List String) :
    fieldSize (key, .arr (texts.map .str)) ≤
      (stringText key).length + (texts.map fun text => 6 * text.toList.length + 3).sum + 4 := by
  cases texts with
  | nil => simp [fieldSize, Json.encode, Json.encodeItems]
  | cons text texts =>
    have hhead := length_stringText_le text
    have htail := length_encodeItemsTail_texts texts
    simp only [fieldSize, List.map_cons, Json.encode, Json.encodeItems, List.length_cons, List.length_append, List.sum_cons]
    omega

theorem fieldSize_bool_le (key : String) (b : Bool) : fieldSize (key, .bool b) ≤ (stringText key).length + 7 := by
  cases b <;> simp [fieldSize, Json.encode]

end Lengths

end Sip
