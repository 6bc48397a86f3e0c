import Mathlib.Algebra.GroupWithZero.Nat
import Mathlib.Algebra.Order.Ring.Unbundled.Rat
import Mathlib.Algebra.Ring.Rat
import Mathlib.Data.List.Sort
import Mathlib.Data.String.Basic

/-!
# JSON documents as the interpreter holds them

Numbers keep the integer/float distinction, which the text form shows. A finite
float is identified with its `repr`: `repr` is injective on finite floats, and
comparing floats is comparing the decimal values of their `repr` texts.
Objects are association lists; two documents are the same JSON value when they
agree after sorting every object by key.
-/

namespace Sip

set_option autoImplicit false

/-- Where a scanner of `-?(0|[1-9]d*)(.d+)?(e[+-]d+)?` stands. -/
inductive FloatPhase where
  | start | sign | zero | whole | point | frac | e | expSign | exp
  deriving DecidableEq

def FloatPhase.next : FloatPhase → Char → Option FloatPhase
  | .start, c => if c = '-' then some .sign else if c = '0' then some .zero else if c.isDigit then some .whole else none
  | .sign, c => if c = '0' then some .zero else if c.isDigit then some .whole else none
  | .zero, c => if c = '.' then some .point else if c = 'e' then some .e else none
  | .whole, c => if c.isDigit then some .whole else if c = '.' then some .point
      else if c = 'e' then some .e else none
  | .point, c => if c.isDigit then some .frac else none
  | .frac, c => if c.isDigit then some .frac else if c = 'e' then some .e else none
  | .e, c => if c = '+' ∨ c = '-' then some .expSign else none
  | .expSign, c => if c.isDigit then some .exp else none
  | .exp, c => if c.isDigit then some .exp else none

def FloatPhase.accepts : FloatPhase → List Char → Bool
  | p, [] => p = .frac || p = .exp
  | p, c :: cs => match p.next c with
    | some q => q.accepts cs
    | none => false

/-- A finite float, given by its `repr` text. -/
structure PyFloat where
  text : String
  isRepr : FloatPhase.start.accepts text.toList = true
  deriving DecidableEq

namespace PyFloat

theorem isRepr_ofList {cs : List Char} (h : FloatPhase.start.accepts cs = true) :
    FloatPhase.start.accepts (String.ofList cs).toList = true := by
  rw [String.toList_ofList]
  exact h

/-- The decimal value of the `repr` text. -/
def value (x : PyFloat) : Rat :=
  let cs := x.text.toList
  let mantissa := cs.takeWhile (· ≠ 'e')
  let digits := Nat.ofDigitChars 10 (mantissa.filter Char.isDigit) 0
  let scale : Int := ((mantissa.dropWhile (· ≠ '.')).tail.length : Int)
  let exponent : Int := match cs.dropWhile (· ≠ 'e') with
    | _ :: '-' :: ds => -(Nat.ofDigitChars 10 ds 0 : Int)
    | _ :: _ :: ds => (Nat.ofDigitChars 10 ds 0 : Int)
    | _ => 0
  let signed : Int := if cs.head? = some '-' then -(digits : Int) else digits
  let shift := exponent - scale
  if 0 ≤ shift then ((signed * 10 ^ shift.toNat : Int) : Rat)
  else mkRat signed (10 ^ (-shift).toNat)

def zero : PyFloat := ⟨"0.0", by decide⟩

def one : PyFloat := ⟨"1.0", by decide⟩

def two : PyFloat := ⟨"2.0", by decide⟩

theorem value_zero : zero.value = 0 := by decide

theorem value_one : one.value = 1 := by decide

/-- Python's `max(a, b)`: the first argument unless the second is larger. -/
def max (a b : PyFloat) : PyFloat := if a.value < b.value then b else a

theorem le_max_right (a b : PyFloat) : b.value ≤ (max a b).value := by
  unfold max
  split
  · exact le_refl _
  · exact not_lt.mp ‹_›

end PyFloat

inductive Number where
  | int (n : Int)
  | float (x : PyFloat)
  deriving DecidableEq

inductive Json where
  | null
  | bool (b : Bool)
  | num (n : Number)
  | str (s : String)
  | arr (items : List Json)
  | obj (fields : List (String × Json))

/-- A Python `dict` with text keys. -/
abbrev Dict := List (String × Json)

namespace Json

@[match_pattern] abbrev int (n : Int) : Json := .num (.int n)

@[match_pattern] abbrev float (x : PyFloat) : Json := .num (.float x)

/-- `bool(value)`. -/
def truthy : Json → Bool
  | .null => false
  | .bool b => b
  | .int n => n ≠ 0
  | .float x => x.value ≠ 0
  | .str s => s ≠ ""
  | .arr items => !items.isEmpty
  | .obj fields => !fields.isEmpty

/-- The integer behind `isinstance(value, int)`: `True` and `False` are integers too. -/
def asInt? : Json → Option Int
  | .int n => some n
  | .bool b => some (if b then 1 else 0)
  | _ => none

def ofOption : Option String → Json
  | none => .null
  | some s => .str s

theorem ofOption_injective {a b : Option String} (h : ofOption a = ofOption b) : a = b := by
  cases a <;> cases b <;> simp_all [ofOption]

mutual
/-- Sort every object by key, as `sort_keys=True` does. -/
def normalize : Json → Json
  | .arr items => .arr (normalizeItems items)
  | .obj fields => .obj ((normalizeFields fields).insertionSort fun a b => a.1 ≤ b.1)
  | .null => .null
  | .bool b => .bool b
  | .num n => .num n
  | .str s => .str s
def normalizeItems : List Json → List Json
  | [] => []
  | v :: vs => v.normalize :: normalizeItems vs
def normalizeFields : List (String × Json) → List (String × Json)
  | [] => []
  | (k, v) :: fs => (k, v.normalize) :: normalizeFields fs
end

/-- The same JSON value: equal up to the order of object keys. -/
def Same (a b : Json) : Prop := a.normalize = b.normalize

@[simp] theorem normalize_str (s : String) : (Json.str s).normalize = .str s := by
  simp [normalize]

@[simp] theorem normalize_ofOption (s : Option String) : (ofOption s).normalize = ofOption s := by
  cases s <;> simp [ofOption, normalize]

theorem normalize_eq_str {v : Json} {s : String} : v.normalize = .str s ↔ v = .str s := by
  cases v <;> simp [normalize]

theorem normalizeItems_eq_map (vs : List Json) : normalizeItems vs = vs.map normalize := by
  induction vs with
  | nil => rfl
  | cons v vs ih => simp [normalizeItems, ih]

theorem normalizeFields_eq_map (fs : Dict) :
    normalizeFields fs = fs.map fun p => (p.1, p.2.normalize) := by
  induction fs with
  | nil => rfl
  | cons p fs ih =>
    obtain ⟨k, v⟩ := p
    simp [normalizeFields, ih]

end Json

namespace Dict

/-- `d.get(key)`. -/
def get? (d : Dict) (key : String) : Option Json := d.lookup key

/-- `d.get(key)` where a missing key and a stored `None` are not told apart. -/
def get (d : Dict) (key : String) : Json := (d.lookup key).getD .null

/-- `d[key] = value`: in place when the key is there, at the end otherwise. -/
def set : Dict → String → Json → Dict
  | [], key, value => [(key, value)]
  | (k, v) :: d, key, value => if k = key then (k, value) :: d else (k, v) :: set d key value

theorem lookup_set (d : Dict) (key : String) (value : Json) (k : String) :
    (d.set key value).lookup k = if k = key then some value else d.lookup k := by
  induction d with
  | nil =>
    by_cases h : k = key
    · simp [set, h]
    · have hne : (k == key) = false := by simpa using h
      simp [set, List.lookup_cons, h, hne]
  | cons p d ih =>
    obtain ⟨k', v⟩ := p
    unfold set
    split
    · rename_i hk
      rw [List.lookup_cons, List.lookup_cons, hk]
      by_cases h : k = key
      · simp [h]
      · have hne : (k == key) = false := by simpa using h
        simp [h, hne]
    · rename_i hk
      rw [List.lookup_cons, List.lookup_cons, ih]
      by_cases h : k = k'
      · have hne : ¬ k' = key := hk
        simp [h, hne]
      · have hne : (k == k') = false := by simpa using h
        simp [hne]

theorem get_set_of_ne (d : Dict) {key other : String} (h : other ≠ key) (value : Json) :
    (d.set key value).get other = d.get other := by
  rw [get, get, lookup_set, if_neg h]

theorem keys_set (d : Dict) (key : String) (value : Json) : (d.set key value).map Prod.fst =
    if key ∈ d.map Prod.fst then d.map Prod.fst else d.map Prod.fst ++ [key] := by
  induction d with
  | nil => simp [set]
  | cons p d ih =>
    obtain ⟨k, v⟩ := p
    unfold set
    split
    · rename_i hk
      simp [hk]
    · rename_i hk
      have hne : ¬ key = k := fun h => hk h.symm
      rw [List.map_cons, ih]
      simp only [List.map_cons, List.mem_cons, hne, false_or]
      split <;> rfl

theorem nodup_keys_set {d : Dict} (hd : (d.map Prod.fst).Nodup) (key : String) (value : Json) :
    ((d.set key value).map Prod.fst).Nodup := by
  rw [keys_set]
  split
  · exact hd
  · rename_i hk
    refine List.nodup_append.mpr ⟨hd, List.nodup_singleton _, ?_⟩
    intro a ha b hb
    rw [List.mem_singleton.mp hb]
    exact fun h => hk (h ▸ ha)

end Dict

section Lookup
variable {α β : Type} [DecidableEq α]

theorem lookup_eq_some_iff_mem {l : List (α × β)} (hl : (l.map Prod.fst).Nodup) (k : α) (v : β) :
    l.lookup k = some v ↔ (k, v) ∈ l := by
  induction l with
  | nil => simp
  | cons p l ih =>
    obtain ⟨a, b⟩ := p
    simp only [List.map_cons, List.nodup_cons] at hl
    by_cases hk : k = a
    · subst hk
      have hnot : (k, v) ∉ l := fun hm => hl.1 (List.mem_map.mpr ⟨(k, v), hm, rfl⟩)
      simp [List.lookup_cons, hnot, eq_comm]
    · have hka : (k == a) = false := by simpa using hk
      simp [List.lookup_cons, hka, ih hl.2, hk]

theorem lookup_eq_of_perm {l m : List (α × β)} (hl : (l.map Prod.fst).Nodup) (h : l.Perm m) (k : α) :
    l.lookup k = m.lookup k := by
  have hm : (m.map Prod.fst).Nodup := (h.map Prod.fst).nodup_iff.mp hl
  apply Option.ext
  intro v
  rw [lookup_eq_some_iff_mem hl, lookup_eq_some_iff_mem hm, h.mem_iff]

end Lookup

/-- Sorting keeps what a key is bound to, as long as keys are distinct. -/
theorem Json.lookup_normalize {fs : Dict} (hfs : (fs.map Prod.fst).Nodup) (k : String) :
    ((Json.normalizeFields fs).insertionSort fun a b => a.1 ≤ b.1).lookup k =
      (fs.lookup k).map Json.normalize := by
  have hkeys : (Json.normalizeFields fs).map Prod.fst = fs.map Prod.fst := by
    simp [Json.normalizeFields_eq_map]
  have hnodup : ((Json.normalizeFields fs).map Prod.fst).Nodup := hkeys ▸ hfs
  rw [← lookup_eq_of_perm hnodup (List.perm_insertionSort _ _).symm k, Json.normalizeFields_eq_map]
  clear hkeys hnodup hfs
  induction fs with
  | nil => rfl
  | cons p fs ih =>
    obtain ⟨a, b⟩ := p
    by_cases hk : (k == a) = true
    · simp [List.lookup_cons, hk]
    · simp only [Bool.not_eq_true] at hk
      simpa [List.lookup_cons, hk] using ih

/-- Objects with distinct keys that are the same JSON value agree at every key. -/
theorem Json.same_obj_lookup {fs gs : Dict} (hf : (fs.map Prod.fst).Nodup) (hg : (gs.map Prod.fst).Nodup)
    (h : Json.Same (.obj fs) (.obj gs)) (k : String) :
    (fs.lookup k).map Json.normalize = (gs.lookup k).map Json.normalize := by
  simp only [Same, normalize, Json.obj.injEq] at h
  rw [← lookup_normalize hf, ← lookup_normalize hg, h]

/-- Objects with the same distinct keys, in one order, are the same value exactly when they are so key by key. -/
theorem Json.same_obj_iff {fs gs : Dict} (hkeys : fs.map Prod.fst = gs.map Prod.fst) (hf : (fs.map Prod.fst).Nodup) :
    Json.Same (.obj fs) (.obj gs) ↔ List.Forall₂ (fun p q => Json.Same p.2 q.2) fs gs := by
  constructor
  · intro h
    have hlength : fs.length = gs.length := by simpa using congrArg List.length hkeys
    rw [List.forall₂_iff_get]
    refine ⟨hlength, ?_⟩
    intro i hi hi'
    have hkey : (List.get fs ⟨i, hi⟩).1 = (List.get gs ⟨i, hi'⟩).1 := by
      have hat := congrArg (fun keys => keys[i]?) hkeys
      simpa [List.getElem?_map, List.getElem?_eq_getElem hi, List.getElem?_eq_getElem hi'] using hat
    have hfs := (lookup_eq_some_iff_mem hf _ (List.get fs ⟨i, hi⟩).2).mpr (List.get_mem fs ⟨i, hi⟩)
    have hgs := (lookup_eq_some_iff_mem (hkeys ▸ hf) _ (List.get gs ⟨i, hi'⟩).2).mpr (List.get_mem gs ⟨i, hi'⟩)
    have hsame := same_obj_lookup hf (hkeys ▸ hf) h (List.get fs ⟨i, hi⟩).1
    rw [hfs, hkey, hgs] at hsame
    exact Option.some.inj hsame
  · intro h
    have hfields : normalizeFields fs = normalizeFields gs := by
      clear hf
      induction h with
      | nil => rfl
      | cons hvalue _ ih =>
        rw [List.map_cons, List.map_cons, List.cons.injEq] at hkeys
        rw [normalizeFields, normalizeFields, ih hkeys.2, hkeys.1, show _ = _ from hvalue]
    rw [Same, normalize, normalize, hfields]

theorem Json.same_arr_iff {vs ws : List Json} : Json.Same (.arr vs) (.arr ws) ↔ List.Forall₂ Json.Same vs ws := by
  rw [Same, normalize, normalize, arr.injEq, normalizeItems_eq_map, normalizeItems_eq_map, ← List.forall₂_eq_eq_eq,
    List.forall₂_map_left_iff, List.forall₂_map_right_iff]
  exact Iff.rfl

namespace Json

section Keys

mutual
/-- Every dictionary in the value has distinct keys. -/
def Distinct : Json → Prop
  | .arr items => DistinctItems items
  | .obj fields => (fields.map Prod.fst).Nodup ∧ DistinctFields fields
  | _ => True
def DistinctItems : List Json → Prop
  | [] => True
  | v :: vs => v.Distinct ∧ DistinctItems vs
def DistinctFields : List (String × Json) → Prop
  | [] => True
  | (_, v) :: fs => v.Distinct ∧ DistinctFields fs
end

theorem Distinct.of_mem_items {items : List Json} (h : DistinctItems items) {v : Json} (hv : v ∈ items) : v.Distinct := by
  induction items with
  | nil => cases hv
  | cons w items ih =>
    simp only [DistinctItems] at h
    rcases List.mem_cons.mp hv with rfl | hv
    · exact h.1
    · exact ih h.2 hv

theorem Distinct.of_lookup {fields : Dict} (h : DistinctFields fields) {key : String} {v : Json}
    (hv : fields.lookup key = some v) : v.Distinct := by
  induction fields with
  | nil => cases hv
  | cons field fields ih =>
    obtain ⟨k, w⟩ := field
    simp only [DistinctFields] at h
    rw [List.lookup_cons] at hv
    split at hv
    · cases hv
      exact h.1
    · exact ih h.2 hv

theorem distinctFields_of_forall {fields : Dict} (h : ∀ p ∈ fields, p.2.Distinct) : DistinctFields fields := by
  induction fields with
  | nil => simp [DistinctFields]
  | cons p fields ih =>
    obtain ⟨k, v⟩ := p
    rw [DistinctFields]
    exact ⟨h (k, v) List.mem_cons_self, ih fun q hq => h q (List.mem_cons_of_mem _ hq)⟩

theorem distinctItems_of_forall {items : List Json} (h : ∀ v ∈ items, v.Distinct) : DistinctItems items := by
  induction items with
  | nil => simp [DistinctItems]
  | cons v items ih =>
    rw [DistinctItems]
    exact ⟨h v List.mem_cons_self, ih fun w hw => h w (List.mem_cons_of_mem _ hw)⟩

theorem distinct_obj {fields : Dict} (hkeys : (fields.map Prod.fst).Nodup) (h : ∀ p ∈ fields, p.2.Distinct) :
    (obj fields).Distinct := by
  rw [Distinct]
  exact ⟨hkeys, distinctFields_of_forall h⟩

theorem distinct_arr {items : List Json} (h : ∀ v ∈ items, v.Distinct) : (arr items).Distinct := by
  rw [Distinct]
  exact distinctItems_of_forall h

end Keys

end Json

end Sip
