import Sip.Foundation.JsonText

/-!
# Reading the compact text of a JSON document

`Json.parse` reads what `Json.encode` writes: no blanks, numbers and escapes as the
encoder spells them, and the keys of an object in the order of the text. On such a
text it is `json.loads`. The fuel bounds the nesting; the length of a text is enough.
-/

namespace Sip

set_option autoImplicit false

/-- Read a string up to its closing quote. -/
def readText : Nat → List Char → Option (List Char × List Char)
  | 0, _ => none
  | fuel + 1, cs =>
    if cs.head? = some '"' then some ([], cs.tail)
    else do
      let (c, r) ← readChar cs
      let (text, r) ← readText fuel r
      some (c :: text, r)

theorem readText_escapeText (text r : List Char) {fuel : Nat} (h : text.length < fuel) :
    readText fuel (escapeText text ++ '"' :: r) = some (text, r) := by
  induction text generalizing fuel with
  | nil =>
    obtain ⟨n, rfl⟩ := Nat.exists_eq_succ_of_ne_zero (Nat.ne_zero_of_lt h)
    simp [readText, escapeText]
  | cons c text ih =>
    obtain ⟨n, rfl⟩ := Nat.exists_eq_succ_of_ne_zero (Nat.ne_zero_of_lt h)
    have hread : readChar (escapeText (c :: text) ++ '"' :: r) = some (c, escapeText text ++ '"' :: r) := by
      rw [escapeText, List.flatMap_cons, List.append_assoc]
      exact readChar_escapeChar c _
    have hquote : (escapeText (c :: text) ++ '"' :: r).head? ≠ some '"' := by
      intro hhead
      obtain ⟨u, hu⟩ := List.head?_eq_some_iff.mp hhead
      rw [hu, readChar_quote] at hread
      cases hread
    have hrest := ih (Nat.lt_of_succ_lt_succ h)
    rw [readText, if_neg hquote, hread]
    simp [hrest]

theorem length_le_escapeText (text : List Char) : text.length ≤ (escapeText text).length := by
  induction text with
  | nil => exact Nat.zero_le _
  | cons c text ih =>
    have hchar : 1 ≤ (escapeChar c).length := by
      unfold escapeChar
      repeat' split
      all_goals simp
    rw [escapeText, List.flatMap_cons, List.length_append, List.length_cons]
    have hrest : text.length ≤ (text.flatMap escapeChar).length := ih
    omega

namespace Number

/-- The number that a text of digits spells; a float keeps its text. -/
def ofText? (cs : List Char) : Option Number :=
  if h : FloatPhase.start.accepts cs = true then
    some (.float ⟨String.ofList cs, PyFloat.isRepr_ofList h⟩)
  else if cs.head? = some '-' then some (.int (-(Nat.ofDigitChars 10 cs.tail 0 : Int)))
  else if cs.all Char.isDigit = true ∧ cs ≠ [] then some (.int (Nat.ofDigitChars 10 cs 0))
  else none

theorem not_accepts_intText (n : Int) : ¬ FloatPhase.start.accepts (intText n) = true := by
  intro h
  rcases mark_of_accepts _ _ (.inl rfl) h with hmark | hmark
  · rcases intText_chars hmark with hd | hd <;> simp at hd
  · rcases intText_chars hmark with hd | hd <;> simp at hd

theorem ofText?_text (n : Number) : ofText? n.text = some n := by
  cases n with
  | float x =>
    rw [text, ofText?, dif_pos x.isRepr]
    simp
  | int n =>
    rw [text, ofText?, dif_neg (not_accepts_intText n)]
    cases n with
    | ofNat n =>
      have hdigits : (Nat.toDigits 10 n).all Char.isDigit = true :=
        List.all_eq_true.mpr fun c hc => isDigit_of_mem_toDigits hc
      have hhead : (Nat.toDigits 10 n).head? ≠ some '-' := by
        intro hhead
        exact minus_not_mem_toDigits n (List.mem_of_mem_head? hhead)
      have hdigit : (Nat.toDigits 10 n).all Char.isDigit = true ∧ Nat.toDigits 10 n ≠ [] :=
        ⟨hdigits, Nat.toDigits_ne_nil⟩
      rw [intText, if_neg hhead, if_pos hdigit, Nat.ofDigitChars_ten_toDigits]
      rfl
    | negSucc n =>
      rw [intText, if_pos (by rfl), List.tail_cons, Nat.ofDigitChars_ten_toDigits]
      rfl

end Number

namespace Json

section Parser

def readLiteral (word : List Char) (v : Json) (cs : List Char) : Option (Json × List Char) :=
  if word.isPrefixOf cs then some (v, cs.drop word.length) else none

def readNumber (cs : List Char) : Option (Json × List Char) := do
  let n ← Number.ofText? (cs.takeWhile numeric)
  some (.num n, cs.dropWhile numeric)

/-- A quoted text with its quotes. -/
def readString (cs : List Char) : Option (String × List Char) :=
  if cs.head? = some '"' then (readText cs.length cs.tail).map fun (text, r) => (String.ofList text, r) else none

mutual
def readValue : Nat → List Char → Option (Json × List Char)
  | 0, _ => none
  | fuel + 1, cs =>
    match cs.head?.map leadOf with
    | some 0 => readLiteral ['n', 'u', 'l', 'l'] .null cs
    | some 1 => readLiteral ['t', 'r', 'u', 'e'] (.bool true) cs
    | some 2 => readLiteral ['f', 'a', 'l', 's', 'e'] (.bool false) cs
    | some 3 => (readString cs).map fun (text, r) => (.str text, r)
    | some 4 => (readItems fuel cs.tail).map fun (items, r) => (.arr items, r)
    | some 5 => (readFields fuel cs.tail).map fun (fields, r) => (.obj fields, r)
    | some 6 => readNumber cs
    | _ => none
def readItems : Nat → List Char → Option (List Json × List Char)
  | 0, _ => none
  | fuel + 1, cs =>
    if cs.head? = some ']' then some ([], cs.tail)
    else do
      let (v, r) ← readValue fuel cs
      let (vs, r) ← readItemsTail fuel r
      some (v :: vs, r)
def readItemsTail : Nat → List Char → Option (List Json × List Char)
  | 0, _ => none
  | fuel + 1, cs =>
    if cs.head? = some ']' then some ([], cs.tail)
    else if cs.head? = some ',' then do
      let (v, r) ← readValue fuel cs.tail
      let (vs, r) ← readItemsTail fuel r
      some (v :: vs, r)
    else none
def readFields : Nat → List Char → Option (List (String × Json) × List Char)
  | 0, _ => none
  | fuel + 1, cs =>
    if cs.head? = some '}' then some ([], cs.tail)
    else do
      let (f, r) ← readField fuel cs
      let (fs, r) ← readFieldsTail fuel r
      some (f :: fs, r)
def readField : Nat → List Char → Option ((String × Json) × List Char)
  | 0, _ => none
  | fuel + 1, cs => do
    let (key, r) ← readString cs
    if r.head? = some ':' then
      let (v, r) ← readValue fuel r.tail
      some ((key, v), r)
    else none
def readFieldsTail : Nat → List Char → Option (List (String × Json) × List Char)
  | 0, _ => none
  | fuel + 1, cs =>
    if cs.head? = some '}' then some ([], cs.tail)
    else if cs.head? = some ',' then do
      let (f, r) ← readField fuel cs.tail
      let (fs, r) ← readFieldsTail fuel r
      some (f :: fs, r)
    else none
end

/-- The document that a whole text spells. -/
def parse (cs : List Char) : Option Json :=
  match readValue (2 * cs.length + 2) cs with
  | some (v, []) => some v
  | _ => none

end Parser

section RoundTrip

theorem readString_stringText (s : String) (r : List Char) : readString (stringText s ++ r) = some (s, r) := by
  have hlong : s.toList.length < (stringText s ++ r).length := by
    have h := length_le_escapeText s.toList
    simp only [stringText, List.cons_append, List.length_cons, List.length_append]
    omega
  have htext := readText_escapeText s.toList r hlong
  have htail : (stringText s ++ r).tail = escapeText s.toList ++ '"' :: r := by simp [stringText]
  have hhead : (stringText s ++ r).head? = some '"' := by simp [stringText]
  rw [readString, if_pos hhead, htail, htext]
  simp

theorem readNumber_text (n : Number) {r : List Char} (hr : Delimited r) : readNumber (n.text ++ r) = some (.num n, r) := by
  have htake : (n.text ++ r).takeWhile numeric = n.text := takeWhile_append_stop n.text_numeric hr
  have hdrop : (n.text ++ r).dropWhile numeric = r := by
    have hsplit := @List.takeWhile_append_dropWhile _ numeric (n.text ++ r)
    rw [htake] at hsplit
    exact List.append_cancel_left hsplit
  simp [readNumber, htake, hdrop, Number.ofText?_text]

theorem encode_append_head_ne (v : Json) (r : List Char) : (v.encode ++ r).head? ≠ some ']' := by
  intro h
  obtain ⟨u, hu⟩ := List.head?_eq_some_iff.mp h
  exact encode_append_ne_close v r u hu

theorem one_le_length_encode (v : Json) : 1 ≤ v.encode.length := by
  have hlead := encode_lead v []
  rw [List.append_nil] at hlead
  cases htext : v.encode with
  | nil => simp [htext] at hlead
  | cons c cs => simp

mutual
/-- Reading back, one case per constructor; every call consumes a character or needs one unit of fuel more. -/
theorem readValue_encode : ∀ (v : Json) (r : List Char) (fuel : Nat), Delimited r → 2 * v.encode.length ≤ fuel →
    readValue fuel (v.encode ++ r) = some (v, r)
  | v, r, 0, _, hfuel => by
    have hlen := one_le_length_encode v
    omega
  | .null, r, fuel + 1, _, _ => by
    rw [readValue, encode_lead]
    simp [lead, readLiteral, encode, List.isPrefixOf]
  | .bool true, r, fuel + 1, _, _ => by
    rw [readValue, encode_lead]
    simp [lead, readLiteral, encode, List.isPrefixOf]
  | .bool false, r, fuel + 1, _, _ => by
    rw [readValue, encode_lead]
    simp [lead, readLiteral, encode, List.isPrefixOf]
  | .num n, r, fuel + 1, hr, _ => by
    rw [readValue, encode_lead]
    simp only [lead, encode]
    exact readNumber_text n hr
  | .str s, r, fuel + 1, _, _ => by
    rw [readValue, encode_lead]
    simp [lead, encode, readString_stringText]
  | .arr items, r, fuel + 1, _, hfuel => by
    rw [readValue, encode_lead]
    simp only [encode, List.length_cons] at hfuel
    have hitems := readItems_encode items r fuel (by omega)
    simp [lead, encode, hitems]
  | .obj fields, r, fuel + 1, _, hfuel => by
    rw [readValue, encode_lead]
    simp only [encode, List.length_cons] at hfuel
    have hfields := readFields_encode fields r fuel (by omega)
    simp [lead, encode, hfields]
theorem readItems_encode : ∀ (vs : List Json) (r : List Char) (fuel : Nat), 2 * (encodeItems vs).length ≤ fuel + 1 →
    readItems fuel (encodeItems vs ++ r) = some (vs, r)
  | [], r, 0, hfuel => by simp [encodeItems] at hfuel
  | [], r, fuel + 1, _ => by simp [encodeItems, readItems]
  | v :: vs, r, 0, hfuel => by
    have hlen := one_le_length_encode v
    simp only [encodeItems, List.length_append] at hfuel
    omega
  | v :: vs, r, fuel + 1, hfuel => by
    have hlen := one_le_length_encode v
    simp only [encodeItems, List.length_append] at hfuel
    have htail : 1 ≤ (encodeItemsTail vs).length := by cases vs <;> simp [encodeItemsTail]
    have hvalue := readValue_encode v (encodeItemsTail vs ++ r) fuel (delimited_itemsTail vs r) (by omega)
    have hrest := readItemsTail_encode vs r fuel (by omega)
    rw [encodeItems, List.append_assoc, readItems, if_neg (encode_append_head_ne v _)]
    simp [hvalue, hrest]
theorem readItemsTail_encode : ∀ (vs : List Json) (r : List Char) (fuel : Nat),
    2 * (encodeItemsTail vs).length ≤ fuel + 1 → readItemsTail fuel (encodeItemsTail vs ++ r) = some (vs, r)
  | [], r, 0, hfuel => by simp [encodeItemsTail] at hfuel
  | [], r, fuel + 1, _ => by simp [encodeItemsTail, readItemsTail]
  | v :: vs, r, 0, hfuel => by simp [encodeItemsTail] at hfuel; omega
  | v :: vs, r, fuel + 1, hfuel => by
    simp only [encodeItemsTail, List.cons_append, List.length_cons, List.length_append] at hfuel
    have hvalue := readValue_encode v (encodeItemsTail vs ++ r) fuel (delimited_itemsTail vs r) (by omega)
    have hrest := readItemsTail_encode vs r fuel (by have := one_le_length_encode v; omega)
    simp [encodeItemsTail, readItemsTail, hvalue, hrest]
theorem readFields_encode : ∀ (fs : List (String × Json)) (r : List Char) (fuel : Nat),
    2 * (encodeFields fs).length ≤ fuel + 1 → readFields fuel (encodeFields fs ++ r) = some (fs, r)
  | [], r, 0, hfuel => by simp [encodeFields] at hfuel
  | [], r, fuel + 1, _ => by simp [encodeFields, readFields]
  | (k, v) :: fs, r, 0, hfuel => by simp [encodeFields, stringText] at hfuel; omega
  | (k, v) :: fs, r, fuel + 1, hfuel => by
    simp only [encodeFields, List.length_cons, List.length_append] at hfuel
    have htail : 1 ≤ (encodeFieldsTail fs).length := by cases fs <;> simp [encodeFieldsTail]
    have hhead : (encodeFields ((k, v) :: fs) ++ r).head? ≠ some '}' := by simp [encodeFields, stringText]
    have hfield := readField_encode k v (encodeFieldsTail fs ++ r) fuel (delimited_fieldsTail fs r) (by omega)
    have hrest := readFieldsTail_encode fs r fuel (by omega)
    rw [readFields, if_neg hhead]
    simp only [encodeFields, List.append_assoc, List.cons_append] at hfield ⊢
    simp [hfield, hrest]
theorem readField_encode : ∀ (k : String) (v : Json) (r : List Char) (fuel : Nat), Delimited r →
    2 * ((stringText k).length + 1 + v.encode.length) ≤ fuel + 1 →
      readField fuel (stringText k ++ ':' :: v.encode ++ r) = some ((k, v), r)
  | k, v, r, 0, _, hfuel => by omega
  | k, v, r, fuel + 1, hr, hfuel => by
    have hvalue := readValue_encode v r fuel hr (by omega)
    rw [readField, List.append_assoc, readString_stringText]
    simp [hvalue]
theorem readFieldsTail_encode : ∀ (fs : List (String × Json)) (r : List Char) (fuel : Nat),
    2 * (encodeFieldsTail fs).length ≤ fuel + 1 → readFieldsTail fuel (encodeFieldsTail fs ++ r) = some (fs, r)
  | [], r, 0, hfuel => by simp [encodeFieldsTail] at hfuel
  | [], r, fuel + 1, _ => by simp [encodeFieldsTail, readFieldsTail]
  | (k, v) :: fs, r, 0, hfuel => by simp [encodeFieldsTail] at hfuel; omega
  | (k, v) :: fs, r, fuel + 1, hfuel => by
    simp only [encodeFieldsTail, List.cons_append, List.length_cons, List.length_append] at hfuel
    have hfield := readField_encode k v (encodeFieldsTail fs ++ r) fuel (delimited_fieldsTail fs r) (by omega)
    have hrest := readFieldsTail_encode fs r fuel (by omega)
    simp only [encodeFieldsTail, List.append_assoc, List.cons_append] at hfield ⊢
    simp [readFieldsTail, hfield, hrest]
end

theorem parse_encode (v : Json) : parse v.encode = some v := by
  have h := readValue_encode v [] (2 * v.encode.length + 2) delimited_nil (by omega)
  rw [List.append_nil] at h
  rw [parse, h]

end RoundTrip

end Json

end Sip
