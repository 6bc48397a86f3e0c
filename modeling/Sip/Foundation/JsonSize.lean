import Mathlib.Algebra.Group.Action.Defs
import Mathlib.Algebra.Order.BigOperators.Group.List
import Sip.Canonical

/-!
# The size of canonical JSON

A character takes at most six characters in a JSON text and at most four bytes in UTF-8,
so the size of the bytes is bounded by what the value holds, in any order of its keys.
Texts are weighed by their bytes, which is what is cheap to evaluate.
-/

namespace Sip

set_option autoImplicit false

theorem length_utf8_toList (s : String) : (utf8 s.toList).length = s.utf8ByteSize := by
  have hbytes : s.toByteArray.data.toList = utf8 s.toList := by
    rw [← String.utf8Encode_toList, List.utf8Encode, List.data_toByteArray]
    rfl
  rw [← hbytes, Array.length_toList]
  rfl

theorem length_le_length_utf8 (cs : List Char) : cs.length ≤ (utf8 cs).length := by
  induction cs with
  | nil => exact Nat.le_refl _
  | cons c cs ih =>
    have hc := c.utf8Size_pos
    simp only [utf8, List.flatMap_cons, List.length_append, List.length_cons, String.length_utf8EncodeChar] at ih ⊢
    omega

theorem length_toList_le (s : String) : s.toList.length ≤ s.utf8ByteSize := by
  rw [← length_utf8_toList]
  exact length_le_length_utf8 s.toList

theorem length_stringText_le_bytes (s : String) : (stringText s).length ≤ 6 * s.utf8ByteSize + 2 := by
  have htext := length_stringText_le s
  have hbytes := length_toList_le s
  omega

namespace Json

mutual
/-- At least the number of characters of the text of a value. -/
def weight : Json → Nat
  | .null => 4
  | .bool _ => 5
  | .num n => n.text.length
  | .str s => 6 * s.utf8ByteSize + 2
  | .arr items => 1 + weightItems items
  | .obj fields => 1 + weightFields fields
def weightItems : List Json → Nat
  | [] => 1
  | v :: vs => v.weight + 1 + weightItems vs
def weightFields : List (String × Json) → Nat
  | [] => 1
  | (k, v) :: fs => 6 * k.utf8ByteSize + v.weight + 4 + weightFields fs
end

mutual
theorem length_encode_le : ∀ v : Json, v.encode.length ≤ v.weight
  | .null => by simp [encode, weight]
  | .bool true => by simp [encode, weight]
  | .bool false => by simp [encode, weight]
  | .num n => by simp [encode, weight]
  | .str s => by
    rw [encode, weight]
    exact length_stringText_le_bytes s
  | .arr items => by
    have h := length_items_le items
    rw [encode, weight, List.length_cons]
    omega
  | .obj fields => by
    have h := length_fields_le fields
    rw [encode, weight, List.length_cons]
    omega
theorem length_items_le : ∀ vs : List Json, (encodeItems vs).length ≤ weightItems vs
  | [] => by simp [encodeItems, weightItems]
  | v :: vs => by
    have hv := length_encode_le v
    have hvs := length_itemsTail_le vs
    rw [encodeItems, weightItems, List.length_append]
    omega
theorem length_itemsTail_le : ∀ vs : List Json, (encodeItemsTail vs).length ≤ weightItems vs
  | [] => by simp [encodeItemsTail, weightItems]
  | v :: vs => by
    have hv := length_encode_le v
    have hvs := length_itemsTail_le vs
    rw [encodeItemsTail, weightItems, List.length_append, List.length_cons]
    omega
theorem length_fields_le : ∀ fs : List (String × Json), (encodeFields fs).length ≤ weightFields fs
  | [] => by simp [encodeFields, weightFields]
  | (k, v) :: fs => by
    have hk := length_stringText_le_bytes k
    have hv := length_encode_le v
    have hfs := length_fieldsTail_le fs
    simp only [encodeFields, weightFields, List.length_append, List.length_cons]
    omega
theorem length_fieldsTail_le : ∀ fs : List (String × Json), (encodeFieldsTail fs).length ≤ weightFields fs
  | [] => by simp [encodeFieldsTail, weightFields]
  | (k, v) :: fs => by
    have hk := length_stringText_le_bytes k
    have hv := length_encode_le v
    have hfs := length_fieldsTail_le fs
    simp only [encodeFieldsTail, weightFields, List.length_append, List.length_cons]
    omega
end

theorem weightFields_eq_sum (fs : Dict) :
    weightFields fs = 1 + (fs.map fun field => 6 * field.1.utf8ByteSize + field.2.weight + 4).sum := by
  induction fs with
  | nil => rfl
  | cons field fs ih =>
    rw [weightFields, ih, List.map_cons, List.sum_cons]
    omega

theorem weightFields_le {fs : Dict} {bound : Nat} (h : ∀ p ∈ fs, 6 * p.1.utf8ByteSize + p.2.weight + 4 ≤ bound) :
    weightFields fs ≤ 1 + fs.length * bound := by
  rw [weightFields_eq_sum]
  have hsum := List.sum_le_card_nsmul (fs.map fun field => 6 * field.1.utf8ByteSize + field.2.weight + 4) bound (by
    intro n hn
    obtain ⟨p, hp, rfl⟩ := List.mem_map.mp hn
    exact h p hp)
  rw [List.length_map, smul_eq_mul] at hsum
  omega

theorem weightFields_perm {fs gs : Dict} (h : fs.Perm gs) : weightFields fs = weightFields gs := by
  rw [weightFields_eq_sum, weightFields_eq_sum, (h.map _).sum_eq]

theorem weightFields_append (fs gs : Dict) : weightFields (fs ++ gs) + 1 = weightFields fs + weightFields gs := by
  rw [weightFields_eq_sum, weightFields_eq_sum, weightFields_eq_sum, List.map_append, List.sum_append]
  omega

mutual
theorem weight_normalize : ∀ v : Json, v.normalize.weight = v.weight
  | .null => by rw [normalize]
  | .bool _ => by rw [normalize]
  | .num _ => by rw [normalize]
  | .str _ => by rw [normalize]
  | .arr items => by rw [normalize, weight, weight, weight_normalizeItems items]
  | .obj fields => by
    have hsort := weightFields_perm (List.perm_insertionSort (fun a b => a.1 ≤ b.1) (normalizeFields fields))
    rw [normalize, weight, weight, hsort, weight_normalizeFields fields]
theorem weight_normalizeItems : ∀ vs : List Json, weightItems (normalizeItems vs) = weightItems vs
  | [] => by rw [normalizeItems]
  | v :: vs => by rw [normalizeItems, weightItems, weightItems, weight_normalize v, weight_normalizeItems vs]
theorem weight_normalizeFields : ∀ fs : List (String × Json), weightFields (normalizeFields fs) = weightFields fs
  | [] => by rw [normalizeFields]
  | (k, v) :: fs => by rw [normalizeFields, weightFields, weightFields, weight_normalize v, weight_normalizeFields fs]
end

end Json

theorem length_canonicalJson_le (v : Json) : (canonicalJson v).length ≤ 4 * v.weight := by
  have hencode := Json.length_encode_le v.normalize
  have hbytes := length_utf8_le v.normalize.encode
  rw [Json.weight_normalize] at hencode
  rw [canonicalJson]
  omega

theorem weight_digest_le {digest : String} (h : isDigest digest = true) : (Json.str digest).weight ≤ 1538 := by
  have hbytes := length_utf8_le digest.toList
  simp only [isDigest, decide_eq_true_eq] at h
  rw [length_utf8_toList, h.1] at hbytes
  rw [Json.weight]
  omega

end Sip
