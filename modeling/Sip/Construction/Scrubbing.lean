import Mathlib.Data.List.DropRight
import Sip.Construction.RestrictedData

/-!
# Scrubbed data is valid data

Two walks go over a value. One removes secrets and malformed references, the other finds
them. They take the branches in a different order and differ on secrets that are empty,
but what the first leaves, the second passes, and where the first removes nothing, the
second finds nothing.
-/

namespace Sip

set_option autoImplicit false

namespace ConstructionService

section Validation

/-- `isinstance(child, str) and _REFERENCE_PATTERN.fullmatch(child.strip())` -/
def isReferenceValue : Json → Bool
  | .str text => isReference (strip text.toList)
  | _ => false

mutual
/-- `walk` of `validate_no_raw_restricted_values`: the paths of the secrets and of the malformed references. -/
def walkValue (path : String) : Json → List String × List String
  | .obj fields => walkFields path fields
  | .arr items => walkItems path 0 items
  | _ => ([], [])
def walkFields (path : String) : List (String × Json) → List String × List String
  | [] => ([], [])
  | (key, child) :: fields =>
    let childPath := path ++ "." ++ key
    let (findings, references) := walkFields path fields
    if isOpaqueRestrictedReferenceKey key then
      (findings, if isReferenceValue child then references else childPath :: references)
    else if isForbiddenSecretKey key && !isEmpty child then (childPath :: findings, references)
    else
      let (inner, innerReferences) := walkValue childPath child
      (inner ++ findings, innerReferences ++ references)
def walkItems (path : String) (index : Nat) : List Json → List String × List String
  | [] => ([], [])
  | child :: items =>
    let (inner, innerReferences) := walkValue (path ++ "[" ++ String.ofList (Nat.toDigits 10 index) ++ "]") child
    let (findings, references) := walkItems path (index + 1) items
    (inner ++ findings, innerReferences ++ references)
end

/-- `validate_no_raw_restricted_values` -/
def validateNoRawRestrictedValues (codePrefix path : String) (value : Json) : Except Raised Unit := do
  let (findings, references) := walkValue path value
  raiseIf (findings ≠ []) (validationError (codePrefix ++ "_RAW_SECRET_PROHIBITED")
    ("raw passwords, tokens, passcodes, private keys, credential secrets, and biometric values may not be stored; " ++
      "use an opaque vault or restricted-asset reference") [("paths", Json.texts (sortedSet id findings))])
  raiseIf (references ≠ []) (validationError (codePrefix ++ "_RESTRICTED_REFERENCE_INVALID")
    "restricted references must use an opaque vault:// or sip-asset:// reference"
    [("paths", Json.texts (sortedSet id references))])

/-- `strip_raw_restricted_values` of any value. -/
def stripRestricted (path : String) (value : Json) : Json × List String :=
  let (value, removed) := stripValue path value
  (value, sortedSet id removed)

theorem stripRestricted_obj (data : Dict) :
    stripRestricted "$" (.obj data) = (.obj (stripRawRestrictedValues data).1, (stripRawRestrictedValues data).2) := rfl

end Validation

section Fields
variable {path key : String} {child : Json} {fields : List (String × Json)}

theorem isForbidden_of_reference (h : isOpaqueRestrictedReferenceKey key = true) : isForbiddenSecretKey key = false := by
  rw [isForbiddenSecretKey, h, Bool.not_true, Bool.false_and]

theorem stripFields_forbidden (h : isForbiddenSecretKey key = true) : stripFields path ((key, child) :: fields) =
    ((stripFields path fields).1, (path ++ "." ++ key) :: (stripFields path fields).2) := by
  rw [stripFields]
  exact if_pos h

theorem stripFields_reference (h : isOpaqueRestrictedReferenceKey key = true) {text : String}
    (htext : isReference (strip text.toList) = true) : stripFields path ((key, .str text) :: fields) =
    ((key, .str (bareText text)) :: (stripFields path fields).1, (stripFields path fields).2) := by
  have hnot : ¬ isForbiddenSecretKey key = true := by
    rw [isForbidden_of_reference h]
    decide
  rw [stripFields]
  dsimp only
  rw [if_neg hnot, if_pos h, if_pos htext]

theorem stripFields_malformed (h : isOpaqueRestrictedReferenceKey key = true) (hchild : isReferenceValue child = false) :
    stripFields path ((key, child) :: fields) =
      ((stripFields path fields).1, (path ++ "." ++ key) :: (stripFields path fields).2) := by
  have hnot : ¬ isForbiddenSecretKey key = true := by
    rw [isForbidden_of_reference h]
    decide
  rw [stripFields]
  dsimp only
  rw [if_neg hnot, if_pos h]
  cases child with
  | str text => exact if_neg (Bool.eq_false_iff.mp hchild)
  | _ => rfl

theorem stripFields_plain (hforbidden : isForbiddenSecretKey key = false) (hreference : isOpaqueRestrictedReferenceKey key = false) :
    stripFields path ((key, child) :: fields) =
      ((key, (stripValue (path ++ "." ++ key) child).1) :: (stripFields path fields).1,
        (stripValue (path ++ "." ++ key) child).2 ++ (stripFields path fields).2) := by
  rw [stripFields]
  dsimp only
  rw [if_neg (Bool.eq_false_iff.mp hforbidden), if_neg (Bool.eq_false_iff.mp hreference)]

theorem walkFields_reference (h : isOpaqueRestrictedReferenceKey key = true) (hchild : isReferenceValue child = true) :
    walkFields path ((key, child) :: fields) = walkFields path fields := by
  rw [walkFields]
  dsimp only
  rw [if_pos h, if_pos hchild]

theorem walkFields_plain (hforbidden : isForbiddenSecretKey key = false) (hreference : isOpaqueRestrictedReferenceKey key = false) :
    walkFields path ((key, child) :: fields) =
      ((walkValue (path ++ "." ++ key) child).1 ++ (walkFields path fields).1,
        (walkValue (path ++ "." ++ key) child).2 ++ (walkFields path fields).2) := by
  rw [walkFields]
  dsimp only
  rw [hforbidden, Bool.false_and, if_neg (Bool.eq_false_iff.mp hreference), if_neg Bool.false_ne_true]

/-- What becomes of a field: it is removed, or it is a reference, or its value is scrubbed. -/
theorem field_cases (key : String) (child : Json) :
    isForbiddenSecretKey key = true ∨
    (isOpaqueRestrictedReferenceKey key = true ∧ isReferenceValue child = false) ∨
    (isOpaqueRestrictedReferenceKey key = true ∧ ∃ text, child = .str text ∧ isReference (strip text.toList) = true) ∨
    (isForbiddenSecretKey key = false ∧ isOpaqueRestrictedReferenceKey key = false) := by
  cases hforbidden : isForbiddenSecretKey key with
  | true => exact .inl rfl
  | false =>
    cases hreference : isOpaqueRestrictedReferenceKey key with
    | false => exact .inr (.inr (.inr ⟨rfl, rfl⟩))
    | true =>
      cases hchild : isReferenceValue child with
      | false => exact .inr (.inl ⟨rfl, rfl⟩)
      | true =>
        cases child with
        | str text => exact .inr (.inr (.inl ⟨rfl, text, rfl, hchild⟩))
        | _ => cases hchild

end Fields

section Texts

theorem strip_strip (cs : List Char) : strip (strip cs) = strip cs := by
  have hstart : (strip cs).dropWhile isSpace = strip cs := by
    have hstart : strip cs <+: cs.dropWhile isSpace := List.rdropWhile_prefix isSpace _
    cases hstrip : strip cs with
    | nil => rfl
    | cons c rest =>
      obtain ⟨tail, htail⟩ := hstart
      have hhead := List.head?_dropWhile_not isSpace cs
      rw [← htail, hstrip, List.cons_append, List.head?_cons] at hhead
      exact List.dropWhile_cons_of_neg (by rw [hhead]; decide)
  have hend : strip (strip cs) = (strip cs).rdropWhile isSpace := by
    rw [strip, hstart, List.rdropWhile]
  rw [hend]
  exact List.rdropWhile_idempotent isSpace _

theorem strip_bareText (text : String) : strip (bareText text).toList = strip text.toList := by
  rw [bareText, String.toList_ofList, strip_strip]

theorem bareText_bareText (text : String) : bareText (bareText text) = bareText text := by
  rw [bareText, strip_bareText, ← bareText]

end Texts

section Scrubbed

mutual
/-- What is left of a value passes the validation. -/
theorem walkValue_strip (path root : String) : ∀ value : Json, walkValue path (stripValue root value).1 = ([], [])
  | .obj fields => by
    rw [stripValue, walkValue]
    exact walkFields_strip path root fields
  | .arr items => by
    rw [stripValue, walkValue]
    exact walkItems_strip path root 0 0 items
  | .null | .bool _ | .num _ | .str _ => by rw [stripValue, walkValue] <;> simp
theorem walkFields_strip (path root : String) : ∀ fields : List (String × Json),
    walkFields path (stripFields root fields).1 = ([], [])
  | [] => by rw [stripFields, walkFields]
  | (key, child) :: fields => by
    have ih := walkFields_strip path root fields
    rcases field_cases key child with hforbidden | ⟨hreference, hchild⟩ | ⟨hreference, text, rfl, htext⟩ | ⟨hforbidden, hreference⟩
    · rw [stripFields_forbidden hforbidden]
      exact ih
    · rw [stripFields_malformed hreference hchild]
      exact ih
    · have hbare : isReferenceValue (.str (bareText text)) = true := by
        rwa [isReferenceValue, strip_bareText]
      rw [stripFields_reference hreference htext, walkFields_reference hreference hbare]
      exact ih
    · have hchild := walkValue_strip (path ++ "." ++ key) (root ++ "." ++ key) child
      rw [stripFields_plain hforbidden hreference, walkFields_plain hforbidden hreference, hchild, ih]
      rfl
theorem walkItems_strip (path root : String) (i j : Nat) : ∀ items : List Json,
    walkItems path i (stripItems root j items).1 = ([], [])
  | [] => by rw [stripItems, walkItems]
  | child :: items => by
    have hchild := walkValue_strip (path ++ "[" ++ String.ofList (Nat.toDigits 10 i) ++ "]")
      (root ++ "[" ++ String.ofList (Nat.toDigits 10 j) ++ "]") child
    have ih := walkItems_strip path root (i + 1) (j + 1) items
    rw [stripItems, walkItems, hchild, ih]
    rfl
end

mutual
/-- What is left of a value is left as it is. -/
theorem stripValue_strip (path root : String) : ∀ value : Json,
    stripValue path (stripValue root value).1 = ((stripValue root value).1, [])
  | .obj fields => by
    rw [stripValue, stripValue, stripFields_strip path root fields]
  | .arr items => by
    rw [stripValue, stripValue, stripItems_strip path root 0 0 items]
  | .null | .bool _ | .num _ | .str _ => by simp [stripValue]
theorem stripFields_strip (path root : String) : ∀ fields : List (String × Json),
    stripFields path (stripFields root fields).1 = ((stripFields root fields).1, [])
  | [] => by simp [stripFields]
  | (key, child) :: fields => by
    have ih := stripFields_strip path root fields
    rcases field_cases key child with hforbidden | ⟨hreference, hchild⟩ | ⟨hreference, text, rfl, htext⟩ | ⟨hforbidden, hreference⟩
    · rw [stripFields_forbidden hforbidden]
      exact ih
    · rw [stripFields_malformed hreference hchild]
      exact ih
    · have hbare : isReference (strip (bareText text).toList) = true := by
        rwa [strip_bareText]
      rw [stripFields_reference hreference htext, stripFields_reference hreference hbare, ih, bareText_bareText]
    · have hchild := stripValue_strip (path ++ "." ++ key) (root ++ "." ++ key) child
      rw [stripFields_plain hforbidden hreference, stripFields_plain hforbidden hreference, hchild, ih]
      rfl
theorem stripItems_strip (path root : String) (i j : Nat) : ∀ items : List Json,
    stripItems path i (stripItems root j items).1 = ((stripItems root j items).1, [])
  | [] => by simp [stripItems]
  | child :: items => by
    have hchild := stripValue_strip (path ++ "[" ++ String.ofList (Nat.toDigits 10 i) ++ "]")
      (root ++ "[" ++ String.ofList (Nat.toDigits 10 j) ++ "]") child
    have ih := stripItems_strip path root (i + 1) (j + 1) items
    rw [stripItems, stripItems, hchild, ih]
    rfl
end

mutual
/-- A value of which nothing is removed passes the validation. -/
theorem walkValue_of_unstripped (path root : String) : ∀ value : Json, (stripValue root value).2 = [] →
    walkValue path value = ([], [])
  | .obj fields, h => by
    rw [stripValue] at h
    rw [walkValue]
    exact walkFields_of_unstripped path root fields h
  | .arr items, h => by
    rw [stripValue] at h
    rw [walkValue]
    exact walkItems_of_unstripped path root 0 0 items h
  | .null, _ | .bool _, _ | .num _, _ | .str _, _ => by simp [walkValue]
theorem walkFields_of_unstripped (path root : String) : ∀ fields : List (String × Json), (stripFields root fields).2 = [] →
    walkFields path fields = ([], [])
  | [], _ => by rw [walkFields]
  | (key, child) :: fields, h => by
    rcases field_cases key child with hforbidden | ⟨hreference, hchild⟩ | ⟨hreference, text, rfl, htext⟩ | ⟨hforbidden, hreference⟩
    · rw [stripFields_forbidden hforbidden] at h
      cases h
    · rw [stripFields_malformed hreference hchild] at h
      cases h
    · rw [stripFields_reference hreference htext] at h
      rw [walkFields_reference hreference (by rwa [isReferenceValue])]
      exact walkFields_of_unstripped path root fields h
    · rw [stripFields_plain hforbidden hreference] at h
      obtain ⟨hchild, hfields⟩ := List.append_eq_nil_iff.mp h
      have hvalue := walkValue_of_unstripped (path ++ "." ++ key) (root ++ "." ++ key) child hchild
      rw [walkFields_plain hforbidden hreference, hvalue, walkFields_of_unstripped path root fields hfields]
      rfl
theorem walkItems_of_unstripped (path root : String) (i j : Nat) : ∀ items : List Json, (stripItems root j items).2 = [] →
    walkItems path i items = ([], [])
  | [], _ => by rw [walkItems]
  | child :: items, h => by
    rw [stripItems] at h
    obtain ⟨hchild, hitems⟩ := List.append_eq_nil_iff.mp h
    have hvalue := walkValue_of_unstripped (path ++ "[" ++ String.ofList (Nat.toDigits 10 i) ++ "]") _ child hchild
    rw [walkItems, hvalue, walkItems_of_unstripped path root (i + 1) (j + 1) items hitems]
    rfl
end

theorem validate_of_walkValue {codePrefix path : String} {value : Json} (h : walkValue path value = ([], [])) :
    validateNoRawRestrictedValues codePrefix path value = .ok () := by
  rw [validateNoRawRestrictedValues, h]
  rfl

theorem sortedSet_eq_nil {texts : List String} (h : sortedSet id texts = []) : texts = [] := by
  apply List.eq_nil_iff_forall_not_mem.mpr
  intro text htext
  have hmem := mem_sortedSet_id.mpr htext
  rw [h] at hmem
  cases hmem

/-- Scrubbing leaves valid data, of which nothing more is removed, and removes something of all invalid data. -/
theorem scrubbed_data_valid (codePrefix path root : String) (value : Json) :
    validateNoRawRestrictedValues codePrefix path (stripRestricted root value).1 = .ok () ∧
    stripRestricted root (stripRestricted root value).1 = ((stripRestricted root value).1, []) ∧
    ((stripRestricted root value).2 = [] → validateNoRawRestrictedValues codePrefix path value = .ok ()) := by
  refine ⟨?_, ?_, ?_⟩
  · exact validate_of_walkValue (walkValue_strip path root value)
  · simp only [stripRestricted, stripValue_strip root root value]
    rfl
  · intro h
    exact validate_of_walkValue (walkValue_of_unstripped path root value (sortedSet_eq_nil h))

end Scrubbed

end ConstructionService

end Sip
