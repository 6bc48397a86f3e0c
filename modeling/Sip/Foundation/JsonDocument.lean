import Sip.Foundation.JsonParse
import Sip.Foundation.SortBy

/-!
# JSON documents as files

`Json.pretty` is `json.dumps(value, indent=2)`, which escapes everything that is not
printable ASCII. `Json.loads` is `json.loads`: it cuts the text into tokens, skipping
the blanks between them, and reads the tokens. Numbers that are not finite and
surrogates without a partner are outside `Json`, so a text with one of them is refused.
-/

namespace Sip

set_option autoImplicit false

/-- `float(text)`; nothing where it is not finite. `float(repr(x))` is `x`. -/
structure FloatReader where
  read : List Char → Option PyFloat
  read_repr : ∀ x : PyFloat, read x.text.toList = some x

/-- A reader that knows the spelling of `repr` only. -/
def FloatReader.ofRepr : FloatReader where
  read cs := if h : FloatPhase.start.accepts cs = true then
      some ⟨String.ofList cs, PyFloat.isRepr_ofList h⟩
    else none
  read_repr x := by simp [x.isRepr]

section Strings

def hex4 (n : Nat) : List Char := [hexDigit (n / 4096), hexDigit (n / 256 % 16), hexDigit (n / 16 % 16), hexDigit (n % 16)]

/-- `ESCAPE_ASCII` of the standard encoder. -/
def escapeAscii (c : Char) : List Char :=
  if c = '"' then ['\\', '"']
  else if c = '\\' then ['\\', '\\']
  else if c = '\n' then ['\\', 'n']
  else if c = '\r' then ['\\', 'r']
  else if c = '\t' then ['\\', 't']
  else if c = '\x0c' then ['\\', 'f']
  else if c = '\x08' then ['\\', 'b']
  else if 0x20 ≤ c.toNat ∧ c.toNat < 0x7f then [c]
  else if c.toNat < 0x10000 then '\\' :: 'u' :: hex4 c.toNat
  else '\\' :: 'u' :: hex4 (0xd800 + (c.toNat - 0x10000) / 0x400) ++
    '\\' :: 'u' :: hex4 (0xdc00 + (c.toNat - 0x10000) % 0x400)

def asciiText (s : String) : List Char := '"' :: s.toList.flatMap escapeAscii ++ ['"']

def hexNibble? (c : Char) : Option Nat :=
  if c.isDigit then some (c.toNat - '0'.toNat)
  else if 'a' ≤ c ∧ c ≤ 'f' then some (c.toNat - 'a'.toNat + 10)
  else if 'A' ≤ c ∧ c ≤ 'F' then some (c.toNat - 'A'.toNat + 10)
  else none

def readHex4 : List Char → Option (Nat × List Char)
  | a :: b :: c :: d :: r => do
    let a ← hexNibble? a
    let b ← hexNibble? b
    let c ← hexNibble? c
    let d ← hexNibble? d
    some (4096 * a + 256 * b + 16 * c + d, r)
  | _ => none

/-- The rest of a `\u` escape. Two surrogates stand for one character. -/
def readUnicode (cs : List Char) : Option (Char × List Char) := do
  let (high, r) ← readHex4 cs
  if 0xd800 ≤ high ∧ high < 0xdc00 then
    match r with
    | '\\' :: 'u' :: r => do
      let (low, r) ← readHex4 r
      if 0xdc00 ≤ low ∧ low < 0xe000 then some (Char.ofNat (0x10000 + (high - 0xd800) * 0x400 + (low - 0xdc00)), r)
      else none
    | _ => none
  else if 0xdc00 ≤ high ∧ high < 0xe000 then none
  else some (Char.ofNat high, r)

/-- `BACKSLASH` of the standard decoder. -/
def backslash? (c : Char) : Option Char :=
  if c = '"' then some '"' else if c = '\\' then some '\\' else if c = '/' then some '/'
  else if c = 'b' then some '\x08' else if c = 'f' then some '\x0c' else if c = 'n' then some '\n'
  else if c = 'r' then some '\r' else if c = 't' then some '\t' else none

/-- One character of a string; control characters do not stand for themselves. -/
def scanChar : List Char → Option (Char × List Char)
  | [] => none
  | c :: r =>
    if c = '\\' then
      match r with
      | 'u' :: r => readUnicode r
      | c :: r => (backslash? c).map fun c => (c, r)
      | [] => none
    else if c.toNat < 0x20 ∨ c = '"' then none
    else some (c, r)

def scanText : Nat → List Char → Option (List Char × List Char)
  | 0, _ => none
  | fuel + 1, cs =>
    if cs.head? = some '"' then some ([], cs.tail)
    else do
      let (c, r) ← scanChar cs
      let (text, r) ← scanText fuel r
      some (c :: text, r)

theorem hexNibble?_hexDigit : ∀ n < 16, hexNibble? (hexDigit n) = some n := by decide

theorem readHex4_hex4 {n : Nat} (h : n < 65536) (r : List Char) : readHex4 (hex4 n ++ r) = some (n, r) := by
  have ha := hexNibble?_hexDigit (n / 4096) (by omega)
  have hb := hexNibble?_hexDigit (n / 256 % 16) (by omega)
  have hc := hexNibble?_hexDigit (n / 16 % 16) (by omega)
  have hd := hexNibble?_hexDigit (n % 16) (by omega)
  have hn : 4096 * (n / 4096) + 256 * (n / 256 % 16) + 16 * (n / 16 % 16) + n % 16 = n := by omega
  simp only [hex4, List.cons_append, List.nil_append, readHex4, ha, hb, hc, hd, Option.bind_eq_bind, Option.bind_some, hn]

theorem toNat_valid (c : Char) : c.toNat < 0xd800 ∨ 0xdfff < c.toNat ∧ c.toNat < 0x110000 := by
  have h := c.valid
  simp only [UInt32.isValidChar, Nat.isValidChar] at h
  exact h

theorem readUnicode_plain {n : Nat} (h : n < 0x10000) (hn : n < 0xd800 ∨ 0xdfff < n) (r : List Char) :
    readUnicode (hex4 n ++ r) = some (Char.ofNat n, r) := by
  have hread := readHex4_hex4 h r
  have hhigh : ¬ (0xd800 ≤ n ∧ n < 0xdc00) := by omega
  have hlow : ¬ (0xdc00 ≤ n ∧ n < 0xe000) := by omega
  simp only [readUnicode, hread, Option.bind_eq_bind, Option.bind_some, if_neg hhigh, if_neg hlow]

/-- Above the basic plane a character is written as two surrogates. -/
theorem readUnicode_pair {high low : Nat} (hhigh : 0xd800 ≤ high ∧ high < 0xdc00) (hlow : 0xdc00 ≤ low ∧ low < 0xe000)
    (r : List Char) : readUnicode (hex4 high ++ '\\' :: 'u' :: (hex4 low ++ r)) =
      some (Char.ofNat (0x10000 + (high - 0xd800) * 0x400 + (low - 0xdc00)), r) := by
  have hfirst := readHex4_hex4 (n := high) (by omega) ('\\' :: 'u' :: (hex4 low ++ r))
  have hsecond := readHex4_hex4 (n := low) (by omega) r
  simp only [readUnicode, hfirst, Option.bind_eq_bind, Option.bind_some, if_pos hhigh, hsecond, if_pos hlow]

theorem scanChar_escape (r : List Char) : scanChar ('\\' :: 'u' :: r) = readUnicode r := by
  simp [scanChar]

theorem scanChar_escapeAscii (c : Char) (r : List Char) : scanChar (escapeAscii c ++ r) = some (c, r) := by
  unfold escapeAscii
  split
  · subst c; rfl
  split
  · subst c; rfl
  split
  · subst c; rfl
  split
  · subst c; rfl
  split
  · subst c; rfl
  split
  · subst c; rfl
  split
  · subst c; rfl
  split
  · have hlow : ¬ (c.toNat < 0x20 ∨ c = '"') := by
      rintro (h | h)
      · omega
      · contradiction
    simp only [List.cons_append, List.nil_append, scanChar, if_neg ‹¬ c = '\\'›, if_neg hlow]
  have hvalid := toNat_valid c
  generalize hn : c.toNat = n at hvalid ⊢
  have hc : Char.ofNat n = c := by rw [← hn, Char.ofNat_toNat]
  split
  · rw [List.cons_append, List.cons_append, scanChar_escape, readUnicode_plain (by omega) (by omega), hc]
  · generalize hm : n - 0x10000 = m
    have hsum : 0x10000 + (0xd800 + m / 0x400 - 0xd800) * 0x400 + (0xdc00 + m % 0x400 - 0xdc00) = n := by omega
    rw [List.append_assoc, List.cons_append, List.cons_append, scanChar_escape, List.cons_append, List.cons_append,
      readUnicode_pair (by omega) (by omega), hsum, hc]

theorem scanText_asciiText (text r : List Char) {fuel : Nat} (h : text.length < fuel) :
    scanText fuel (text.flatMap escapeAscii ++ '"' :: r) = some (text, r) := by
  induction text generalizing fuel with
  | nil =>
    obtain ⟨n, rfl⟩ := Nat.exists_eq_succ_of_ne_zero (Nat.ne_zero_of_lt h)
    simp [scanText]
  | cons c text ih =>
    obtain ⟨n, rfl⟩ := Nat.exists_eq_succ_of_ne_zero (Nat.ne_zero_of_lt h)
    have hread : scanChar ((c :: text).flatMap escapeAscii ++ '"' :: r) =
        some (c, text.flatMap escapeAscii ++ '"' :: r) := by
      rw [List.flatMap_cons, List.append_assoc]
      exact scanChar_escapeAscii c _
    have hquote : ((c :: text).flatMap escapeAscii ++ '"' :: r).head? ≠ some '"' := by
      intro hhead
      obtain ⟨u, hu⟩ := List.head?_eq_some_iff.mp hhead
      rw [hu] at hread
      simp [scanChar] at hread
    have hrest := ih (Nat.lt_of_succ_lt_succ h)
    rw [scanText, if_neg hquote, hread]
    simp [hrest]

end Strings

section Numbers

/-- The grammar of the decoder: `E` as well, and an exponent without a sign. -/
def FloatPhase.nextDecimal (p : FloatPhase) (c : Char) : Option FloatPhase :=
  if c = 'E' then p.next 'e' else if p = .e ∧ c.isDigit = true then some .exp else p.next c

def FloatPhase.scan : FloatPhase → List Char → Option FloatPhase
  | p, [] => some p
  | p, c :: cs => (p.nextDecimal c).bind fun q => q.scan cs

def decimal (c : Char) : Bool := numeric c || c = 'E'

def intOf (cs : List Char) : Int :=
  if cs.head? = some '-' then -(Nat.ofDigitChars 10 cs.tail 0 : Int) else Nat.ofDigitChars 10 cs 0

def FloatReader.number (reader : FloatReader) (cs : List Char) : Option Number :=
  match FloatPhase.start.scan cs with
  | some .zero | some .whole => some (.int (intOf cs))
  | some .frac | some .exp => (reader.read cs).map .float
  | _ => none

theorem FloatPhase.nextDecimal_of_next {p q : FloatPhase} {c : Char} (h : p.next c = some q) : p.nextDecimal c = some q := by
  have hE : c ≠ 'E' := by
    rintro rfl
    cases p <;> simp [next] at h
  have he : ¬ (p = .e ∧ c.isDigit = true) := by
    rintro ⟨rfl, hdigit⟩
    simp only [next] at h
    split at h
    next hsign => rcases hsign with rfl | rfl <;> simp at hdigit
    next => cases h
  rw [nextDecimal, if_neg hE, if_neg he, h]

theorem FloatPhase.scan_of_accepts {cs : List Char} {p : FloatPhase} (h : p.accepts cs = true) :
    p.scan cs = some .frac ∨ p.scan cs = some .exp := by
  induction cs generalizing p with
  | nil => simpa [scan, accepts] using h
  | cons c cs ih =>
    rw [accepts] at h
    split at h
    next q hq =>
      rw [scan, nextDecimal_of_next hq]
      exact ih h
    next => cases h

theorem FloatPhase.scan_digits {cs : List Char} (h : ∀ c ∈ cs, c.isDigit = true) :
    FloatPhase.whole.scan cs = some .whole := by
  induction cs with
  | nil => rfl
  | cons c cs ih =>
    have hc := h c List.mem_cons_self
    have hnext : FloatPhase.whole.next c = some .whole := by simp [next, hc]
    rw [scan, nextDecimal_of_next hnext]
    exact ih fun d hd => h d (List.mem_cons_of_mem c hd)

/-- A positive number is written without a leading zero. -/
theorem head_toDigits_ne_zero {n : Nat} (h : 0 < n) : (Nat.toDigits 10 n).head? ≠ some '0' := by
  induction n using Nat.strong_induction_on with
  | _ n ih =>
    rw [Nat.toDigits_eq_if (by decide)]
    split
    next hn =>
      have : n = 1 ∨ n = 2 ∨ n = 3 ∨ n = 4 ∨ n = 5 ∨ n = 6 ∨ n = 7 ∨ n = 8 ∨ n = 9 := by omega
      rcases this with rfl | rfl | rfl | rfl | rfl | rfl | rfl | rfl | rfl <;> decide
    next hn =>
      rw [List.head?_append_of_ne_nil _ Nat.toDigits_ne_nil]
      exact ih (n / 10) (by omega) (by omega)

/-- From the start or after a sign, a number is read as whole. -/
theorem FloatPhase.scan_toDigits {p : FloatPhase} (hp : p = .start ∨ p = .sign) (n : Nat) :
    p.scan (Nat.toDigits 10 n) = some .zero ∨ p.scan (Nat.toDigits 10 n) = some .whole := by
  cases hdigits : Nat.toDigits 10 n with
  | nil => exact absurd hdigits Nat.toDigits_ne_nil
  | cons c cs =>
    have hall : ∀ d ∈ c :: cs, d.isDigit = true := by
      intro d hd
      exact isDigit_of_mem_toDigits (hdigits ▸ hd)
    have hc := hall c List.mem_cons_self
    have hminus : c ≠ '-' := by
      rintro rfl
      simp at hc
    rcases Nat.eq_zero_or_pos n with rfl | hn
    · rw [Nat.toDigits_zero] at hdigits
      cases hdigits
      left
      rcases hp with rfl | rfl <;> rfl
    · have hzero : c ≠ '0' := by
        rintro rfl
        apply head_toDigits_ne_zero hn
        rw [hdigits, List.head?_cons]
      have hnext : p.next c = some .whole := by
        rcases hp with rfl | rfl <;> simp [next, hc, hminus, hzero]
      right
      rw [scan, nextDecimal_of_next hnext]
      exact scan_digits fun d hd => hall d (List.mem_cons_of_mem c hd)

theorem scan_intText (n : Int) :
    FloatPhase.start.scan (intText n) = some .zero ∨ FloatPhase.start.scan (intText n) = some .whole := by
  cases n with
  | ofNat n => exact FloatPhase.scan_toDigits (.inl rfl) n
  | negSucc n =>
    rw [intText, FloatPhase.scan, show FloatPhase.start.nextDecimal '-' = some .sign from rfl]
    exact FloatPhase.scan_toDigits (.inr rfl) (n + 1)

theorem intOf_intText (n : Int) : intOf (intText n) = n := by
  cases n with
  | ofNat n =>
    have hhead : (Nat.toDigits 10 n).head? ≠ some '-' := by
      intro hhead
      exact minus_not_mem_toDigits n (List.mem_of_mem_head? hhead)
    rw [intText, intOf, if_neg hhead, Nat.ofDigitChars_ten_toDigits]
    rfl
  | negSucc n =>
    rw [intText, intOf, if_pos (by rfl), List.tail_cons, Nat.ofDigitChars_ten_toDigits]
    rfl

theorem FloatReader.number_text (reader : FloatReader) (n : Number) : reader.number n.text = some n := by
  cases n with
  | int n =>
    rcases scan_intText n with h | h <;> simp only [number, Number.text, h, intOf_intText]
  | float x =>
    rcases FloatPhase.scan_of_accepts x.isRepr with h | h <;>
      simp only [number, Number.text, h, reader.read_repr, Option.map_some]

end Numbers

section Tokens

inductive Token where
  | openArr | closeArr | openObj | closeObj | comma | colon
  | atom (v : Json)

def Token.ofChar? (c : Char) : Option Token :=
  if c = '[' then some .openArr else if c = ']' then some .closeArr
  else if c = '{' then some .openObj else if c = '}' then some .closeObj
  else if c = ',' then some .comma else if c = ':' then some .colon else none

def literals : List (List Char × Json) :=
  [(['n', 'u', 'l', 'l'], .null), (['t', 'r', 'u', 'e'], .bool true), (['f', 'a', 'l', 's', 'e'], .bool false)]

def blank (c : Char) : Bool := c = ' ' || c = '\n' || c = '\r' || c = '\t'

variable (reader : FloatReader)

def token : List Char → Option (Token × List Char)
  | [] => none
  | c :: r =>
    match Token.ofChar? c with
    | some t => some (t, r)
    | none =>
      if c = '"' then (scanText (c :: r).length r).map fun (text, r) => (.atom (.str (String.ofList text)), r)
      else match literals.find? fun word => word.1.isPrefixOf (c :: r) with
        | some word => some (.atom word.2, (c :: r).drop word.1.length)
        | none => do
          let n ← reader.number ((c :: r).takeWhile decimal)
          some (.atom (.num n), (c :: r).dropWhile decimal)

def lex : Nat → List Char → Option (List Token)
  | _, [] => some []
  | 0, _ :: _ => none
  | fuel + 1, c :: r =>
    if blank c = true then lex fuel r
    else do
      let (t, r) ← token reader (c :: r)
      let ts ← lex fuel r
      some (t :: ts)

/-- What a run of the lexer over the front of a text does. -/
def Reads (cs : List Char) (ts : List Token) (r : List Char) : Prop :=
  ∃ k, k + r.length ≤ cs.length ∧ ∀ fuel, lex reader (fuel + k) cs = (lex reader fuel r).map (ts ++ ·)

variable {reader}

theorem Reads.trans {cs r u : List Char} {ts us : List Token} (h : Reads reader cs ts r) (h' : Reads reader r us u) :
    Reads reader cs (ts ++ us) u := by
  obtain ⟨k, hk, hlex⟩ := h
  obtain ⟨l, hl, hlex'⟩ := h'
  refine ⟨l + k, by omega, fun fuel => ?_⟩
  rw [← Nat.add_assoc, hlex, hlex', Option.map_map]
  congr 1
  funext vs
  exact (List.append_assoc ts us vs).symm

theorem reads_blank {c : Char} (hc : blank c = true) (r : List Char) : Reads reader (c :: r) [] r := by
  refine ⟨1, by rw [List.length_cons]; omega, fun fuel => ?_⟩
  rw [lex, if_pos hc]
  exact Option.map_id'.symm

theorem reads_blanks {cs : List Char} (hcs : ∀ c ∈ cs, blank c = true) (r : List Char) : Reads reader (cs ++ r) [] r := by
  induction cs with
  | nil => exact ⟨0, by rw [List.nil_append, Nat.zero_add], fun fuel => Option.map_id'.symm⟩
  | cons c cs ih =>
    exact (reads_blank (hcs c List.mem_cons_self) (cs ++ r)).trans (ih fun d hd => hcs d (List.mem_cons_of_mem c hd))

theorem reads_token {c : Char} {cs r : List Char} {t : Token} (hc : blank c = false) (ht : token reader (c :: cs) = some (t, r))
    (hr : r.length ≤ cs.length) : Reads reader (c :: cs) [t] r := by
  refine ⟨1, by rw [List.length_cons]; omega, fun fuel => ?_⟩
  rw [lex, if_neg (by rw [hc]; decide), ht]
  cases hrest : lex reader fuel r <;> simp [hrest]

theorem reads_mark {c : Char} {t : Token} (ht : Token.ofChar? c = some t) (hc : blank c = false) (r : List Char) :
    Reads reader (c :: r) [t] r := by
  apply reads_token hc _ (Nat.le_refl _)
  rw [token, ht]

theorem length_flatMap_escapeAscii (cs : List Char) : cs.length ≤ (cs.flatMap escapeAscii).length := by
  induction cs with
  | nil => exact Nat.zero_le _
  | cons c cs ih =>
    have hchar : 1 ≤ (escapeAscii c).length := by
      unfold escapeAscii
      repeat' split
      all_goals simp
    rw [List.flatMap_cons, List.length_append, List.length_cons]
    omega

theorem reads_text (s : String) (r : List Char) : Reads reader (asciiText s ++ r) [.atom (.str s)] r := by
  have htext : asciiText s ++ r = '"' :: (s.toList.flatMap escapeAscii ++ '"' :: r) := by simp [asciiText]
  have hlength := length_flatMap_escapeAscii s.toList
  rw [htext]
  apply reads_token (by decide)
  · have hscan := @scanText_asciiText s.toList r ('"' :: (s.toList.flatMap escapeAscii ++ '"' :: r)).length
      (by rw [List.length_cons, List.length_append]; omega)
    rw [token, show Token.ofChar? '"' = none from by decide]
    simp only [if_pos]
    rw [hscan, Option.map_some, String.ofList_toList]
  · rw [List.length_append, List.length_cons]
    omega

theorem reads_literal {word : List Char} {v : Json} (h : (word, v) ∈ literals) (r : List Char) :
    Reads reader (word ++ r) [.atom v] r := by
  simp only [literals, List.mem_cons, Prod.mk.injEq, List.not_mem_nil, or_false] at h
  rcases h with ⟨rfl, rfl⟩ | ⟨rfl, rfl⟩ | ⟨rfl, rfl⟩
  all_goals
    apply reads_token (by decide) (by rfl)
    simp only [List.length_cons, List.length_nil, List.length_append, List.append_eq]
    omega

/-- What follows a value in a document. -/
def Stops (r : List Char) : Prop := ∀ c ∈ r.head?, decimal c = false

theorem stops_nil : Stops [] := by simp [Stops]

theorem stops_cons {c : Char} (h : decimal c = false) (r : List Char) : Stops (c :: r) := by simp [Stops, h]

theorem reads_number (n : Number) {r : List Char} (hr : Stops r) : Reads reader (n.text ++ r) [.atom (.num n)] r := by
  have hnumeric : ∀ c ∈ n.text, decimal c = true := by
    intro c hc
    rw [decimal, n.text_numeric c hc, Bool.true_or]
  have htake := takeWhile_append_stop hnumeric hr
  have hdrop : (n.text ++ r).dropWhile decimal = r := by
    have h := List.takeWhile_append_dropWhile (p := decimal) (l := n.text ++ r)
    rw [htake] at h
    exact List.append_cancel_left h
  cases htext : n.text with
  | nil => exact absurd htext n.text_ne_nil
  | cons c cs =>
    have hc := n.text_numeric c (by rw [htext]; exact List.mem_cons_self)
    rw [htext] at htake hdrop
    have hsafe : c.isDigit = true ∨ c = '-' ∨ c = '+' ∨ c = '.' ∨ c = 'e' := by
      simpa [numeric, or_assoc] using hc
    have hmark : Token.ofChar? c = none ∧ c ≠ '"' ∧ blank c = false ∧ c ≠ 'n' ∧ c ≠ 't' ∧ c ≠ 'f' := by
      have hne : ∀ d : Char, d.isDigit = false → d ≠ '-' → d ≠ '+' → d ≠ '.' → d ≠ 'e' → c ≠ d := by
        intro d hd h1 h2 h3 h4 heq
        subst heq
        rcases hsafe with h | h | h | h | h
        · rw [hd] at h
          cases h
        all_goals contradiction
      simp [Token.ofChar?, blank, hne '[' (by decide), hne ']' (by decide), hne '{' (by decide), hne '}' (by decide),
        hne ',' (by decide), hne ':' (by decide), hne '"' (by decide), hne ' ' (by decide), hne '\n' (by decide),
        hne '\r' (by decide), hne '\t' (by decide), hne 'n' (by decide), hne 't' (by decide), hne 'f' (by decide)]
    obtain ⟨hmark, hquote, hblank, hn, ht, hf⟩ := hmark
    have hword : literals.find? (fun word => word.1.isPrefixOf (c :: (cs ++ r))) = none := by
      simp [literals, List.isPrefixOf, Ne.symm hn, Ne.symm ht, Ne.symm hf]
    rw [List.cons_append] at htake hdrop ⊢
    apply reads_token hblank
    · rw [token, hmark]
      simp only [if_neg hquote, hword, htake, hdrop]
      rw [← htext, reader.number_text]
      rfl
    · rw [List.length_append]
      omega

end Tokens

namespace Json

section Writer

def newline (depth : Nat) : List Char := '\n' :: List.replicate (2 * depth) ' '

mutual
/-- `json.dumps(value, indent=2)`, where the value stands at a depth. -/
def pretty : Nat → Json → List Char
  | _, .null => ['n', 'u', 'l', 'l']
  | _, .bool true => ['t', 'r', 'u', 'e']
  | _, .bool false => ['f', 'a', 'l', 's', 'e']
  | _, .num n => n.text
  | _, .str s => asciiText s
  | _, .arr [] => ['[', ']']
  | depth, .arr (v :: vs) => '[' :: (newline (depth + 1) ++ (pretty (depth + 1) v ++ prettyItems depth vs))
  | _, .obj [] => ['{', '}']
  | depth, .obj ((k, v) :: fs) =>
    '{' :: (newline (depth + 1) ++ (asciiText k ++ ':' :: ' ' :: (pretty (depth + 1) v ++ prettyFields depth fs)))
def prettyItems : Nat → List Json → List Char
  | depth, [] => newline depth ++ [']']
  | depth, v :: vs => ',' :: (newline (depth + 1) ++ (pretty (depth + 1) v ++ prettyItems depth vs))
def prettyFields : Nat → List (String × Json) → List Char
  | depth, [] => newline depth ++ ['}']
  | depth, (k, v) :: fs =>
    ',' :: (newline (depth + 1) ++ (asciiText k ++ ':' :: ' ' :: (pretty (depth + 1) v ++ prettyFields depth fs)))
end

mutual
def tokens : Json → List Token
  | .null => [.atom .null]
  | .bool b => [.atom (.bool b)]
  | .num n => [.atom (.num n)]
  | .str s => [.atom (.str s)]
  | .arr [] => [.openArr, .closeArr]
  | .arr (v :: vs) => .openArr :: (v.tokens ++ tokensTail vs)
  | .obj [] => [.openObj, .closeObj]
  | .obj ((k, v) :: fs) => .openObj :: .atom (.str k) :: .colon :: (v.tokens ++ fieldTokensTail fs)
def tokensTail : List Json → List Token
  | [] => [.closeArr]
  | v :: vs => .comma :: (v.tokens ++ tokensTail vs)
def fieldTokensTail : List (String × Json) → List Token
  | [] => [.closeObj]
  | (k, v) :: fs => .comma :: .atom (.str k) :: .colon :: (v.tokens ++ fieldTokensTail fs)
end

variable {reader : FloatReader}

theorem reads_newline (depth : Nat) (r : List Char) : Reads reader (newline depth ++ r) [] r := by
  apply reads_blanks
  intro c hc
  rcases List.mem_cons.mp hc with rfl | hc
  · decide
  · rw [List.eq_of_mem_replicate hc]
    decide

theorem stops_newline (depth : Nat) (r : List Char) : Stops (newline depth ++ r) := stops_cons (by decide) _

theorem stops_prettyItems (depth : Nat) (vs : List Json) (r : List Char) : Stops (prettyItems depth vs ++ r) := by
  cases vs with
  | nil =>
    rw [prettyItems, List.append_assoc]
    exact stops_newline depth _
  | cons v vs =>
    rw [prettyItems]
    exact stops_cons (by decide) _

theorem stops_prettyFields (depth : Nat) (fs : Dict) (r : List Char) : Stops (prettyFields depth fs ++ r) := by
  cases fs with
  | nil =>
    rw [prettyFields, List.append_assoc]
    exact stops_newline depth _
  | cons f fs =>
    rw [prettyFields]
    exact stops_cons (by decide) _

/-- A key with what stands before its value. -/
theorem reads_key (k : String) (r : List Char) :
    Reads reader (asciiText k ++ ':' :: ' ' :: r) [.atom (.str k), .colon] r := by
  have hkey : Reads reader (asciiText k ++ ':' :: ' ' :: r) [.atom (.str k)] (':' :: ' ' :: r) := reads_text k _
  have hcolon : Reads reader (':' :: ' ' :: r) [.colon] (' ' :: r) := reads_mark (by rfl) (by decide) _
  exact (hkey.trans hcolon).trans (reads_blank (by decide) r)

mutual
theorem reads_pretty : ∀ (v : Json) (depth : Nat) (r : List Char), Stops r → Reads reader (pretty depth v ++ r) v.tokens r
  | .null, depth, r, _ => by
    rw [pretty, tokens]
    exact reads_literal (by simp [literals]) r
  | .bool true, depth, r, _ => by
    rw [pretty, tokens]
    exact reads_literal (by simp [literals]) r
  | .bool false, depth, r, _ => by
    rw [pretty, tokens]
    exact reads_literal (by simp [literals]) r
  | .num n, depth, r, hr => by
    rw [pretty, tokens]
    exact reads_number n hr
  | .str s, depth, r, _ => by
    rw [pretty, tokens]
    exact reads_text s r
  | .arr [], depth, r, _ => by
    rw [pretty, tokens]
    exact (reads_mark (t := .openArr) (by rfl) (by decide) _).trans (reads_mark (t := .closeArr) (by rfl) (by decide) r)
  | .arr (v :: vs), depth, r, hr => by
    rw [pretty, tokens, List.cons_append, List.append_assoc, List.append_assoc]
    have hopen := @reads_mark reader '[' .openArr (by rfl) (by decide)
      (newline (depth + 1) ++ (pretty (depth + 1) v ++ (prettyItems depth vs ++ r)))
    have hvalue := reads_pretty v (depth + 1) _ (stops_prettyItems depth vs r)
    exact ((hopen.trans (reads_newline _ _)).trans hvalue).trans (reads_prettyItems vs depth r)
  | .obj [], depth, r, _ => by
    rw [pretty, tokens]
    exact (reads_mark (t := .openObj) (by rfl) (by decide) _).trans (reads_mark (t := .closeObj) (by rfl) (by decide) r)
  | .obj ((k, v) :: fs), depth, r, hr => by
    rw [pretty, tokens]
    simp only [List.cons_append, List.append_assoc]
    have hopen := @reads_mark reader '{' .openObj (by rfl) (by decide)
      (newline (depth + 1) ++ (asciiText k ++ ':' :: ' ' :: (pretty (depth + 1) v ++ (prettyFields depth fs ++ r))))
    have hvalue := reads_pretty v (depth + 1) _ (stops_prettyFields depth fs r)
    exact (((hopen.trans (reads_newline _ _)).trans (reads_key k _)).trans hvalue).trans (reads_prettyFields fs depth r)
theorem reads_prettyItems : ∀ (vs : List Json) (depth : Nat) (r : List Char),
    Reads reader (prettyItems depth vs ++ r) (tokensTail vs) r
  | [], depth, r => by
    rw [prettyItems, tokensTail, List.append_assoc]
    exact (reads_newline depth _).trans (reads_mark (by rfl) (by decide) r)
  | v :: vs, depth, r => by
    rw [prettyItems, tokensTail, List.cons_append, List.append_assoc, List.append_assoc]
    have hcomma := @reads_mark reader ',' .comma (by rfl) (by decide)
      (newline (depth + 1) ++ (pretty (depth + 1) v ++ (prettyItems depth vs ++ r)))
    have hvalue := reads_pretty v (depth + 1) _ (stops_prettyItems depth vs r)
    exact ((hcomma.trans (reads_newline _ _)).trans hvalue).trans (reads_prettyItems vs depth r)
theorem reads_prettyFields : ∀ (fs : List (String × Json)) (depth : Nat) (r : List Char),
    Reads reader (prettyFields depth fs ++ r) (fieldTokensTail fs) r
  | [], depth, r => by
    rw [prettyFields, fieldTokensTail, List.append_assoc]
    exact (reads_newline depth _).trans (reads_mark (by rfl) (by decide) r)
  | (k, v) :: fs, depth, r => by
    rw [prettyFields, fieldTokensTail]
    simp only [List.cons_append, List.append_assoc]
    have hcomma := @reads_mark reader ',' .comma (by rfl) (by decide)
      (newline (depth + 1) ++ (asciiText k ++ ':' :: ' ' :: (pretty (depth + 1) v ++ (prettyFields depth fs ++ r))))
    have hvalue := reads_pretty v (depth + 1) _ (stops_prettyFields depth fs r)
    exact (((hcomma.trans (reads_newline _ _)).trans (reads_key k _)).trans hvalue).trans (reads_prettyFields fs depth r)
end

end Writer

section Reader

/-- `dict(pairs)`: a key that comes again keeps its place and takes the later value. -/
def ofPairs (pairs : List (String × Json)) : Dict := pairs.foldl (fun fields pair => Dict.set fields pair.1 pair.2) []

mutual
def parseValue : Nat → List Token → Option (Json × List Token)
  | 0, _ => none
  | _ + 1, .atom v :: r => some (v, r)
  | _ + 1, .openArr :: .closeArr :: r => some (.arr [], r)
  | fuel + 1, .openArr :: r => (parseItems fuel r).map fun (items, r) => (.arr items, r)
  | _ + 1, .openObj :: .closeObj :: r => some (.obj [], r)
  | fuel + 1, .openObj :: r => (parseFields fuel r).map fun (pairs, r) => (.obj (ofPairs pairs), r)
  | _ + 1, _ => none
def parseItems : Nat → List Token → Option (List Json × List Token)
  | 0, _ => none
  | fuel + 1, ts => do
    let (v, r) ← parseValue fuel ts
    match r with
    | .closeArr :: r => some ([v], r)
    | .comma :: r => (parseItems fuel r).map fun (vs, r) => (v :: vs, r)
    | _ => none
def parseFields : Nat → List Token → Option (List (String × Json) × List Token)
  | 0, _ => none
  | fuel + 1, .atom (.str k) :: .colon :: r => do
    let (v, r) ← parseValue fuel r
    match r with
    | .closeObj :: r => some ([(k, v)], r)
    | .comma :: r => (parseFields fuel r).map fun (fs, r) => ((k, v) :: fs, r)
    | _ => none
  | _ + 1, _ => none
end

/-- `json.loads(text)`. -/
def loads (reader : FloatReader) (cs : List Char) : Option Json := do
  let ts ← lex reader cs.length cs
  match parseValue ts.length ts with
  | some (v, []) => some v
  | _ => none

theorem ofPairs_eq {fields : Dict} (h : (fields.map Prod.fst).Nodup) : ofPairs fields = fields := by
  suffices hfold : ∀ (front : Dict), ((front ++ fields).map Prod.fst).Nodup →
      fields.foldl (fun d pair => Dict.set d pair.1 pair.2) front = front ++ fields from hfold [] h
  clear h
  induction fields with
  | nil =>
    intro front _
    exact (List.append_nil front).symm
  | cons pair fields ih =>
    intro front hnodup
    have hset : Dict.set front pair.1 pair.2 = front ++ [pair] := by
      have hnew : ∀ p ∈ front, p.1 ≠ pair.1 := by
        intro p hp heq
        rw [List.map_append, List.nodup_append] at hnodup
        exact hnodup.2.2 p.1 (List.mem_map_of_mem hp) pair.1 (by simp) heq
      clear ih hnodup
      induction front with
      | nil => rfl
      | cons p front ih =>
        obtain ⟨k, v⟩ := p
        have hk : k ≠ pair.1 := hnew (k, v) List.mem_cons_self
        rw [Dict.set, if_neg hk, ih fun q hq => hnew q (List.mem_cons_of_mem _ hq)]
        rfl
    rw [List.foldl_cons, hset, ih (front ++ [pair]) (by simpa using hnodup), List.append_assoc]
    rfl

theorem tokens_ne_nil (v : Json) : 1 ≤ v.tokens.length := by
  cases v with
  | arr items => cases items <;> simp [tokens]
  | obj fields => cases fields <;> simp [tokens]
  | _ => simp [tokens]

/-- A value does not begin with a closing bracket. -/
theorem tokens_append_ne (v : Json) (r u : List Token) :
    v.tokens ++ r ≠ .closeArr :: u ∧ v.tokens ++ r ≠ .closeObj :: u := by
  cases v with
  | arr items => cases items <;> simp [tokens]
  | obj fields => cases fields <;> simp [tokens]
  | _ => simp [tokens]

theorem parseValue_openArr {fuel : Nat} {ts : List Token} (h : ∀ u, ts ≠ .closeArr :: u) :
    parseValue (fuel + 1) (.openArr :: ts) = (parseItems fuel ts).map fun (items, r) => (.arr items, r) := by
  rw [parseValue]
  intro u hu
  exact h u hu

mutual
theorem parseValue_tokens : ∀ (v : Json) (r : List Token) (fuel : Nat), v.Distinct → v.tokens.length ≤ fuel →
    parseValue fuel (v.tokens ++ r) = some (v, r)
  | v, r, 0, _, hfuel => by
    have := tokens_ne_nil v
    omega
  | .null, r, fuel + 1, _, _ => by rw [tokens]; rfl
  | .bool b, r, fuel + 1, _, _ => by rw [tokens]; rfl
  | .num n, r, fuel + 1, _, _ => by rw [tokens]; rfl
  | .str s, r, fuel + 1, _, _ => by rw [tokens]; rfl
  | .arr [], r, fuel + 1, _, _ => by rw [tokens]; rfl
  | .arr (v :: vs), r, fuel + 1, hv, hfuel => by
    rw [tokens, List.length_cons] at hfuel
    rw [Distinct] at hv
    rw [tokens, List.cons_append, List.append_assoc,
      parseValue_openArr fun u => (tokens_append_ne v (tokensTail vs ++ r) u).1,
      parseItems_tokens v vs r fuel hv (by omega)]
    rfl
  | .obj [], r, fuel + 1, _, _ => by rw [tokens]; rfl
  | .obj ((k, v) :: fs), r, fuel + 1, hv, hfuel => by
    rw [tokens, List.length_cons] at hfuel
    rw [Distinct] at hv
    have hfields := parseFields_tokens k v fs r fuel hv.2 (by simpa using hfuel)
    rw [tokens, List.cons_append, List.cons_append, List.cons_append, List.append_assoc]
    rw [parseValue]
    · simp only [hfields, Option.map_some, ofPairs_eq hv.1]
    · intro u hu
      cases hu
theorem parseItems_tokens : ∀ (v : Json) (vs : List Json) (r : List Token) (fuel : Nat), DistinctItems (v :: vs) →
    (v.tokens ++ tokensTail vs).length ≤ fuel → parseItems fuel (v.tokens ++ (tokensTail vs ++ r)) = some (v :: vs, r)
  | v, vs, r, 0, _, hfuel => by
    have := tokens_ne_nil v
    rw [List.length_append] at hfuel
    omega
  | v, [], r, fuel + 1, hv, hfuel => by
    rw [DistinctItems] at hv
    rw [tokensTail, List.length_append, List.length_singleton] at hfuel
    rw [parseItems, parseValue_tokens v (tokensTail [] ++ r) fuel hv.1 (by omega), tokensTail]
    rfl
  | v, w :: vs, r, fuel + 1, hv, hfuel => by
    rw [DistinctItems] at hv
    have hne := tokens_ne_nil v
    rw [tokensTail, List.length_append, List.length_cons] at hfuel
    rw [parseItems, parseValue_tokens v (tokensTail (w :: vs) ++ r) fuel hv.1 (by omega), tokensTail]
    simp only [Option.bind_eq_bind, Option.bind_some, List.cons_append, List.append_assoc]
    rw [parseItems_tokens w vs r fuel hv.2 (by omega)]
    rfl
theorem parseFields_tokens : ∀ (k : String) (v : Json) (fs : List (String × Json)) (r : List Token) (fuel : Nat),
    DistinctFields ((k, v) :: fs) → (Token.atom (.str k) :: .colon :: (v.tokens ++ fieldTokensTail fs)).length ≤ fuel →
    parseFields fuel (.atom (.str k) :: .colon :: (v.tokens ++ (fieldTokensTail fs ++ r))) = some ((k, v) :: fs, r)
  | k, v, fs, r, 0, _, hfuel => by
    rw [List.length_cons] at hfuel
    omega
  | k, v, [], r, fuel + 1, hv, hfuel => by
    rw [DistinctFields] at hv
    rw [List.length_cons, List.length_cons, List.length_append] at hfuel
    rw [parseFields, parseValue_tokens v (fieldTokensTail [] ++ r) fuel hv.1 (by omega), fieldTokensTail]
    rfl
  | k, v, (k', w) :: fs, r, fuel + 1, hv, hfuel => by
    rw [DistinctFields] at hv
    rw [fieldTokensTail] at hfuel
    simp only [List.length_cons, List.length_append] at hfuel
    rw [parseFields, parseValue_tokens v (fieldTokensTail ((k', w) :: fs) ++ r) fuel hv.1 (by omega), fieldTokensTail]
    simp only [Option.bind_eq_bind, Option.bind_some, List.cons_append, List.append_assoc]
    rw [parseFields_tokens k' w fs r fuel hv.2 (by simp only [List.length_cons, List.length_append]; omega)]
    rfl
end

/-- What `json.dumps(value, indent=2)` wrote, a line feed after it, is read back as it was. -/
theorem loads_pretty (reader : FloatReader) {v : Json} (hv : v.Distinct) : loads reader (pretty 0 v ++ ['\n']) = some v := by
  have hreads : Reads reader (pretty 0 v ++ ['\n']) v.tokens [] := by
    have htext : Reads reader (pretty 0 v ++ ['\n']) v.tokens ['\n'] := reads_pretty v 0 ['\n'] (stops_cons (by decide) [])
    have hall := htext.trans (reads_blank (by decide) [])
    rwa [List.append_nil] at hall
  obtain ⟨k, hk, hlex⟩ := hreads
  have htokens : lex reader (pretty 0 v ++ ['\n']).length (pretty 0 v ++ ['\n']) = some v.tokens := by
    have h := hlex ((pretty 0 v ++ ['\n']).length - k)
    rw [Nat.sub_add_cancel (by omega)] at h
    rw [h, lex, Option.map_some, List.append_nil]
  have hparse := parseValue_tokens v [] v.tokens.length hv (Nat.le_refl _)
  rw [List.append_nil] at hparse
  rw [loads, htokens]
  simp only [Option.bind_eq_bind, Option.bind_some, hparse]

end Reader

section Distinctness

theorem mem_ofPairs {pairs : List (String × Json)} {p : String × Json} (h : p ∈ ofPairs pairs) : ∃ q ∈ pairs, q.2 = p.2 := by
  have hset : ∀ (d : Dict) (key : String) (value : Json) (p : String × Json), p ∈ Dict.set d key value →
      p ∈ d ∨ p.2 = value := by
    intro d key value p hp
    induction d with
    | nil =>
      cases List.mem_singleton.mp hp
      exact .inr rfl
    | cons q d ih =>
      obtain ⟨k, w⟩ := q
      rw [Dict.set] at hp
      split at hp
      · rcases List.mem_cons.mp hp with rfl | hp
        · exact .inr rfl
        · exact .inl (List.mem_cons_of_mem _ hp)
      · rcases List.mem_cons.mp hp with rfl | hp
        · exact .inl List.mem_cons_self
        · exact (ih hp).imp_left (List.mem_cons_of_mem _)
  have hfold : ∀ (pairs : List (String × Json)) (d : Dict) (p : String × Json),
      p ∈ pairs.foldl (fun fields pair => Dict.set fields pair.1 pair.2) d → p ∈ d ∨ ∃ q ∈ pairs, q.2 = p.2 := by
    intro pairs
    induction pairs with
    | nil => exact fun d p hp => .inl hp
    | cons q pairs ih =>
      intro d p hp
      rcases ih _ p hp with hp | ⟨r, hr, hrp⟩
      · rcases hset d q.1 q.2 p hp with hp | hp
        · exact .inl hp
        · exact .inr ⟨q, List.mem_cons_self, hp.symm⟩
      · exact .inr ⟨r, List.mem_cons_of_mem _ hr, hrp⟩
  rcases hfold pairs [] p h with hp | hp
  · cases hp
  · exact hp

theorem nodup_ofPairs (pairs : List (String × Json)) : ((ofPairs pairs).map Prod.fst).Nodup := by
  have hfold : ∀ (pairs : List (String × Json)) (d : Dict), (d.map Prod.fst).Nodup →
      ((pairs.foldl (fun fields pair => Dict.set fields pair.1 pair.2) d).map Prod.fst).Nodup := by
    intro pairs
    induction pairs with
    | nil => exact fun d hd => hd
    | cons q pairs ih => exact fun d hd => ih _ (Dict.nodup_keys_set hd q.1 q.2)
  exact hfold pairs [] List.nodup_nil

/-- The atoms of a text are scalars. -/
def Scalars (ts : List Token) : Prop := ∀ v, Token.atom v ∈ ts → v.Distinct

theorem Scalars.tail {t : Token} {ts : List Token} (h : Scalars (t :: ts)) : Scalars ts :=
  fun v hv => h v (List.mem_cons_of_mem t hv)

theorem distinct_of_token {reader : FloatReader} {cs r : List Char} {v : Json} (h : token reader cs = some (.atom v, r)) :
    v.Distinct := by
  cases cs with
  | nil => cases h
  | cons c cs =>
    rw [token] at h
    split at h
    next t ht =>
      cases h
      unfold Token.ofChar? at ht
      repeat' split at ht
      all_goals cases ht
    next =>
      split at h
      · obtain ⟨p, _, hp⟩ := Option.map_eq_some_iff.mp h
        cases hp
        simp [Distinct]
      · split at h
        next word hword =>
          cases h
          have hmem := List.mem_of_find?_eq_some hword
          simp only [literals, List.mem_cons, List.not_mem_nil, or_false] at hmem
          rcases hmem with rfl | rfl | rfl <;> simp [Distinct]
        next =>
          obtain ⟨n, _, hn⟩ := Option.bind_eq_some_iff.mp h
          cases hn
          simp [Distinct]

theorem scalars_of_lex {reader : FloatReader} {fuel : Nat} {cs : List Char} {ts : List Token}
    (h : lex reader fuel cs = some ts) : Scalars ts := by
  induction fuel generalizing cs ts with
  | zero =>
    cases cs with
    | nil =>
      cases h
      intro v hv
      cases hv
    | cons c cs => cases h
  | succ fuel ih =>
    cases cs with
    | nil =>
      cases h
      intro v hv
      cases hv
    | cons c cs =>
      rw [lex] at h
      split at h
      · exact ih h
      · obtain ⟨⟨t, r⟩, ht, h⟩ := Option.bind_eq_some_iff.mp h
        obtain ⟨us, hus, h⟩ := Option.bind_eq_some_iff.mp h
        cases h
        intro v hv
        rcases List.mem_cons.mp hv with rfl | hv
        · exact distinct_of_token ht
        · exact ih hus v hv

mutual
theorem distinct_parseValue : ∀ (fuel : Nat) (ts r : List Token) (v : Json), Scalars ts →
    parseValue fuel ts = some (v, r) → v.Distinct ∧ Scalars r
  | 0, ts, r, v, _, h => by
    rw [parseValue] at h
    cases h
  | fuel + 1, ts, r, v, hts, h => by
    rw [parseValue.eq_def] at h
    split at h
    · cases h
    · cases h
      exact ⟨hts _ List.mem_cons_self, hts.tail⟩
    · cases h
      exact ⟨by simp [Distinct, DistinctItems], hts.tail.tail⟩
    · rename_i heq
      cases heq
      obtain ⟨⟨items, r'⟩, hitems, hv⟩ := Option.map_eq_some_iff.mp h
      cases hv
      obtain ⟨hdistinct, hr⟩ := distinct_parseItems _ _ _ _ hts.tail hitems
      exact ⟨distinct_arr hdistinct, hr⟩
    · cases h
      exact ⟨by simp [Distinct, DistinctFields], hts.tail.tail⟩
    · rename_i heq
      cases heq
      obtain ⟨⟨pairs, r'⟩, hpairs, hv⟩ := Option.map_eq_some_iff.mp h
      cases hv
      obtain ⟨hdistinct, hr⟩ := distinct_parseFields _ _ _ _ hts.tail hpairs
      refine ⟨distinct_obj (nodup_ofPairs pairs) fun p hp => ?_, hr⟩
      obtain ⟨q, hq, hqp⟩ := mem_ofPairs hp
      rw [← hqp]
      exact hdistinct q hq
    · cases h
theorem distinct_parseItems : ∀ (fuel : Nat) (ts r : List Token) (vs : List Json), Scalars ts →
    parseItems fuel ts = some (vs, r) → (∀ v ∈ vs, v.Distinct) ∧ Scalars r
  | 0, ts, r, vs, _, h => by
    rw [parseItems] at h
    cases h
  | fuel + 1, ts, r, vs, hts, h => by
    rw [parseItems] at h
    obtain ⟨⟨v, u⟩, hv, h⟩ := Option.bind_eq_some_iff.mp h
    obtain ⟨hdistinct, hu⟩ := distinct_parseValue _ _ _ _ hts hv
    dsimp only at h
    split at h
    · cases h
      exact ⟨by simpa using hdistinct, hu.tail⟩
    · obtain ⟨⟨ws, r'⟩, hws, h⟩ := Option.map_eq_some_iff.mp h
      cases h
      obtain ⟨hrest, hr⟩ := distinct_parseItems _ _ _ _ hu.tail hws
      exact ⟨List.forall_mem_cons.mpr ⟨hdistinct, hrest⟩, hr⟩
    · cases h
theorem distinct_parseFields : ∀ (fuel : Nat) (ts r : List Token) (fs : List (String × Json)), Scalars ts →
    parseFields fuel ts = some (fs, r) → (∀ p ∈ fs, p.2.Distinct) ∧ Scalars r
  | 0, ts, r, fs, _, h => by
    rw [parseFields] at h
    cases h
  | fuel + 1, ts, r, fs, hts, h => by
    rw [parseFields.eq_def] at h
    split at h
    · cases h
    · rename_i heq
      cases heq
      obtain ⟨⟨v, u⟩, hv, h⟩ := Option.bind_eq_some_iff.mp h
      obtain ⟨hdistinct, hu⟩ := distinct_parseValue _ _ _ _ hts.tail.tail hv
      dsimp only at h
      split at h
      · cases h
        exact ⟨by simpa using hdistinct, hu.tail⟩
      · obtain ⟨⟨ws, r'⟩, hws, h⟩ := Option.map_eq_some_iff.mp h
        cases h
        obtain ⟨hrest, hr⟩ := distinct_parseFields _ _ _ _ hu.tail hws
        exact ⟨List.forall_mem_cons.mpr ⟨hdistinct, hrest⟩, hr⟩
      · cases h
    · cases h
end

/-- The dictionaries that `json.loads` makes have distinct keys. -/
theorem loads_distinct {reader : FloatReader} {cs : List Char} {v : Json} (h : loads reader cs = some v) : v.Distinct := by
  obtain ⟨ts, hts, h⟩ := Option.bind_eq_some_iff.mp h
  split at h
  next w hw =>
    cases h
    exact (distinct_parseValue _ _ _ _ (scalars_of_lex hts) hw).1
  next => cases h

mutual
theorem distinct_normalize : ∀ v : Json, v.Distinct → v.normalize.Distinct
  | .null, _ => by simp [normalize, Distinct]
  | .bool b, _ => by simp [normalize, Distinct]
  | .num n, _ => by simp [normalize, Distinct]
  | .str s, _ => by simp [normalize, Distinct]
  | .arr items, h => by
    rw [Distinct] at h
    rw [normalize]
    exact distinct_arr (distinct_normalizeItems items h)
  | .obj fields, h => by
    rw [Distinct] at h
    have hperm := List.perm_insertionSort (fun a b : String × Json => a.1 ≤ b.1) (normalizeFields fields)
    rw [normalize]
    apply distinct_obj
    · rw [(hperm.map Prod.fst).nodup_iff, normalizeFields_eq_map, List.map_map]
      exact h.1
    · intro p hp
      exact distinct_normalizeFields fields h.2 p (hperm.mem_iff.mp hp)
theorem distinct_normalizeItems : ∀ items : List Json, DistinctItems items → ∀ v ∈ normalizeItems items, v.Distinct
  | [], _, v, hv => by
    rw [normalizeItems] at hv
    cases hv
  | w :: items, h, v, hv => by
    rw [DistinctItems] at h
    rw [normalizeItems] at hv
    rcases List.mem_cons.mp hv with rfl | hv
    · exact distinct_normalize w h.1
    · exact distinct_normalizeItems items h.2 v hv
theorem distinct_normalizeFields : ∀ fields : List (String × Json), DistinctFields fields →
    ∀ p ∈ normalizeFields fields, p.2.Distinct
  | [], _, p, hp => by
    rw [normalizeFields] at hp
    cases hp
  | (k, w) :: fields, h, p, hp => by
    rw [DistinctFields] at h
    rw [normalizeFields] at hp
    rcases List.mem_cons.mp hp with rfl | hp
    · exact distinct_normalize w h.1
    · exact distinct_normalizeFields fields h.2 p hp
end

end Distinctness

section Normalization

/-- The fields of a normalized dictionary. -/
def sortedFields (fields : Dict) : Dict := (normalizeFields fields).insertionSort fun a b => a.1 ≤ b.1

theorem normalize_obj (fields : Dict) : (obj fields).normalize = .obj (sortedFields fields) := by
  rw [normalize, sortedFields]

theorem sortedFields_of_normal {fields : Dict} (h : ∀ p ∈ fields, p.2.normalize = p.2)
    (hsorted : fields.Pairwise fun a b => a.1 ≤ b.1) : sortedFields fields = fields := by
  have hfields : normalizeFields fields = fields := by
    rw [normalizeFields_eq_map]
    conv_rhs => rw [← List.map_id fields]
    apply List.map_congr_left
    intro p hp
    rw [h p hp]
    rfl
  rw [sortedFields, hfields]
  exact hsorted.insertionSort_eq

theorem mem_sortedFields {fields : Dict} {p : String × Json} (h : p ∈ sortedFields fields) :
    ∃ q ∈ fields, p = (q.1, q.2.normalize) := by
  rw [sortedFields, List.mem_insertionSort, normalizeFields_eq_map] at h
  obtain ⟨q, hq, rfl⟩ := List.mem_map.mp h
  exact ⟨q, hq, rfl⟩

theorem pairwise_sortedFields (fields : Dict) : (sortedFields fields).Pairwise fun a b => a.1 ≤ b.1 :=
  pairwise_sortBy Prod.fst (normalizeFields fields)

mutual
theorem normalize_normalize : ∀ v : Json, v.normalize.normalize = v.normalize
  | .null => by simp [normalize]
  | .bool b => by simp [normalize]
  | .num n => by simp [normalize]
  | .str s => by simp [normalize]
  | .arr items => by
    rw [normalize, normalize, normalizeItems_eq_map (normalizeItems items)]
    congr 1
    conv_rhs => rw [← List.map_id (normalizeItems items)]
    apply List.map_congr_left
    intro v hv
    exact normalize_of_mem_items items v hv
  | .obj fields => by
    rw [normalize_obj, normalize_obj]
    congr 1
    apply sortedFields_of_normal _ (pairwise_sortedFields fields)
    intro p hp
    rw [sortedFields, List.mem_insertionSort] at hp
    exact normalize_of_mem_fields fields p hp
theorem normalize_of_mem_items : ∀ (items : List Json), ∀ v ∈ normalizeItems items, v.normalize = v
  | [], v, hv => by
    rw [normalizeItems] at hv
    cases hv
  | w :: items, v, hv => by
    rw [normalizeItems] at hv
    rcases List.mem_cons.mp hv with rfl | hv
    · exact normalize_normalize w
    · exact normalize_of_mem_items items v hv
theorem normalize_of_mem_fields : ∀ (fields : List (String × Json)), ∀ p ∈ normalizeFields fields, p.2.normalize = p.2
  | [], p, hp => by
    rw [normalizeFields] at hp
    cases hp
  | (k, w) :: fields, p, hp => by
    rw [normalizeFields] at hp
    rcases List.mem_cons.mp hp with rfl | hp
    · exact normalize_normalize w
    · exact normalize_of_mem_fields fields p hp
end

/-- Dictionaries with distinct keys that hold the same fields in another order have one normal form. -/
theorem normalize_obj_of_perm {fs gs : Dict} (hf : (fs.map Prod.fst).Nodup)
    (h : (fs.map fun p => (p.1, p.2.normalize)).Perm (gs.map fun p => (p.1, p.2.normalize))) :
    (obj fs).normalize = (obj gs).normalize := by
  rw [normalize_obj, normalize_obj]
  congr 1
  have hkeys : ((normalizeFields fs).map Prod.fst).Nodup := by
    rw [normalizeFields_eq_map, List.map_map]
    exact hf
  rw [← normalizeFields_eq_map, ← normalizeFields_eq_map] at h
  have hsorted : (sortedFields fs).Perm (sortedFields gs) :=
    ((List.perm_insertionSort _ _).trans h).trans (List.perm_insertionSort _ _).symm
  apply hsorted.eq_of_pairwise _ (pairwise_sortedFields fs) (pairwise_sortedFields gs)
  intro a b ha hb hab hba
  rw [sortedFields, List.mem_insertionSort] at ha hb
  exact eq_of_key_le hkeys ha (h.mem_iff.mpr hb) hab hba

theorem lookup_sortedFields {fields : Dict} (h : (fields.map Prod.fst).Nodup) (key : String) :
    (sortedFields fields).lookup key = (fields.lookup key).map normalize := lookup_normalize h key

end Normalization

end Json

end Sip
