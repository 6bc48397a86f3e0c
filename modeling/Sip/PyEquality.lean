import Mathlib.Data.List.Forall2
import Mathlib.Data.List.Perm.Subperm
import Sip.PyValue

/-!
# Equality of JSON values

`a == b` compares numbers by value, lists element by element and dictionaries key by
key without regard to order. On values whose dictionaries have distinct keys it is an
equivalence.
-/

namespace Sip

set_option autoImplicit false

namespace Json

mutual
/-- `a == b`. -/
def pyEq : Json → Json → Bool
  | .arr xs, .arr ys => pyEqItems xs ys
  | .obj fs, .obj gs => fs.length = gs.length && pyEqFields fs gs
  | a, b => scalarEq a b
def pyEqItems : List Json → List Json → Bool
  | [], [] => true
  | x :: xs, y :: ys => pyEq x y && pyEqItems xs ys
  | _, _ => false
def pyEqFields : List (String × Json) → Dict → Bool
  | [], _ => true
  | (k, v) :: fs, gs => (match gs.lookup k with
      | some w => pyEq v w
      | none => false) && pyEqFields fs gs
end

def isScalar : Json → Bool
  | .arr _ => false
  | .obj _ => false
  | _ => true

/-- Induction over the values inside lists and dictionaries. -/
theorem induct {P : Json → Prop} (scalar : ∀ v, v.isScalar = true → P v)
    (arr : ∀ items, (∀ v ∈ items, P v) → P (.arr items))
    (obj : ∀ fields : Dict, (∀ p ∈ fields, P p.2) → P (.obj fields)) (v : Json) : P v :=
  match v with
  | .arr items => arr items fun v hv =>
      have : sizeOf v < sizeOf items := List.sizeOf_lt_of_mem hv
      induct scalar arr obj v
  | .obj fields => obj fields fun p hp =>
      have h₁ : sizeOf p < sizeOf fields := List.sizeOf_lt_of_mem hp
      have h₂ : sizeOf p.2 < sizeOf p := by
        obtain ⟨k, v⟩ := p
        simp
      induct scalar arr obj p.2
  | .null => scalar _ rfl
  | .bool _ => scalar _ rfl
  | .num _ => scalar _ rfl
  | .str _ => scalar _ rfl
termination_by sizeOf v

theorem pyEqItems_iff {xs ys : List Json} : pyEqItems xs ys = true ↔ List.Forall₂ (fun x y => pyEq x y = true) xs ys := by
  induction xs generalizing ys with
  | nil =>
    cases ys with
    | nil => simp [pyEqItems]
    | cons y ys => simp [pyEqItems]
  | cons x xs ih =>
    cases ys with
    | nil => simp [pyEqItems]
    | cons y ys => simp [pyEqItems, ih]

theorem pyEqFields_iff {fs gs : Dict} :
    pyEqFields fs gs = true ↔ ∀ p ∈ fs, ∃ w, gs.lookup p.1 = some w ∧ pyEq p.2 w = true := by
  induction fs with
  | nil => simp [pyEqFields]
  | cons p fs ih =>
    obtain ⟨k, v⟩ := p
    simp only [pyEqFields, Bool.and_eq_true, ih, List.forall_mem_cons]
    apply and_congr_left'
    cases gs.lookup k <;> simp

theorem pyEq_arr {xs ys : List Json} : pyEq (.arr xs) (.arr ys) = true ↔ List.Forall₂ (fun x y => pyEq x y = true) xs ys := by
  rw [pyEq, pyEqItems_iff]

theorem pyEq_obj {fs gs : Dict} : pyEq (.obj fs) (.obj gs) = true ↔
    fs.length = gs.length ∧ ∀ p ∈ fs, ∃ w, gs.lookup p.1 = some w ∧ pyEq p.2 w = true := by
  rw [pyEq, Bool.and_eq_true, decide_eq_true_eq, pyEqFields_iff]

theorem Distinct.items {items : List Json} (h : (Json.arr items).Distinct) : ∀ v ∈ items, v.Distinct := by
  intro v hv
  rw [Distinct] at h
  exact Distinct.of_mem_items h hv

theorem Distinct.keys {fields : Dict} (h : (Json.obj fields).Distinct) : (fields.map Prod.fst).Nodup := by
  rw [Distinct] at h
  exact h.1

theorem Distinct.fields {fields : Dict} (h : (Json.obj fields).Distinct) : ∀ p ∈ fields, p.2.Distinct := by
  intro p hp
  have hlookup := (lookup_eq_some_iff_mem h.keys p.1 p.2).mpr hp
  rw [Distinct] at h
  exact Distinct.of_lookup h.2 hlookup

theorem distinct_set {d : Dict} (hd : (Json.obj d).Distinct) (key : String) {value : Json} (hvalue : value.Distinct) :
    (Json.obj (d.set key value)).Distinct := by
  have hkeys := Dict.nodup_keys_set hd.keys key value
  apply Json.distinct_obj hkeys
  intro p hp
  have hlookup := (lookup_eq_some_iff_mem hkeys p.1 p.2).mpr hp
  rw [Dict.lookup_set] at hlookup
  split at hlookup
  · cases hlookup
    exact hvalue
  · exact hd.fields p ((lookup_eq_some_iff_mem hd.keys p.1 p.2).mp hlookup)

/-- A value other than a list or a dictionary equals only scalars. -/
theorem pyEq_scalar {a b : Json} (h : a.isScalar = true) : pyEq a b = scalarEq a b := by
  cases a with
  | arr | obj => cases h
  | null | bool | num | str => simp [pyEq]

theorem scalarEq_iff {a b : Json} : scalarEq a b = true ↔
    (a = .null ∧ b = .null) ∨ (∃ s, a = .str s ∧ b = .str s) ∨ ∃ q, a.rat? = some q ∧ b.rat? = some q := by
  have hnum : ∀ x y : Option Rat, (x.isSome && decide (x = y)) = true ↔ ∃ q, x = some q ∧ y = some q := by
    intro x y
    cases x with
    | none => simp
    | some q => simp [eq_comm]
  unfold scalarEq
  split
  · simp [rat?]
  · rename_i s t
    simp [rat?, eq_comm]
  · rename_i hnull hstr
    rw [hnum]
    constructor
    · exact fun h => .inr (.inr h)
    · rintro (⟨rfl, rfl⟩ | ⟨s, rfl, rfl⟩ | h)
      · exact (hnull rfl rfl).elim
      · exact (hstr s s rfl rfl).elim
      · exact h

theorem isScalar_of_scalarEq {a b : Json} (h : scalarEq a b = true) : b.isScalar = true := by
  rcases scalarEq_iff.mp h with ⟨_, rfl⟩ | ⟨s, _, rfl⟩ | ⟨q, _, hb⟩
  · rfl
  · rfl
  · cases b with
    | arr | obj => cases hb
    | null | bool | num | str => rfl

section Equivalence

theorem pyEq_refl {a : Json} (ha : a.Distinct) : pyEq a a = true := by
  induction a using induct with
  | scalar v hv =>
    rw [pyEq_scalar hv, scalarEq_iff]
    cases v with
    | null => exact .inl ⟨rfl, rfl⟩
    | str s => exact .inr (.inl ⟨s, rfl, rfl⟩)
    | bool b => exact .inr (.inr ⟨_, rfl, rfl⟩)
    | num n => cases n <;> exact .inr (.inr ⟨_, rfl, rfl⟩)
    | arr | obj => cases hv
  | arr items ih =>
    rw [pyEq_arr, List.forall₂_same]
    exact fun v hv => ih v hv (ha.items v hv)
  | obj fields ih =>
    rw [pyEq_obj]
    refine ⟨rfl, fun p hp => ⟨p.2, ?_, ih p hp (ha.fields p hp)⟩⟩
    exact (lookup_eq_some_iff_mem ha.keys p.1 p.2).mpr hp

theorem mem_keys_iff {fs : Dict} {k : String} : k ∈ fs.map Prod.fst ↔ ∃ v, fs.lookup k = some v := by
  rw [← Option.isSome_iff_exists, List.lookup_isSome_iff]
  simp

/-- Dictionaries of one size where one has all keys of the other have the same keys. -/
theorem mem_keys_of_length_eq {fs gs : Dict} (hf : (fs.map Prod.fst).Nodup) (hlength : fs.length = gs.length)
    (hsub : ∀ p ∈ fs, ∃ w, gs.lookup p.1 = some w) {k : String} (hk : k ∈ gs.map Prod.fst) : k ∈ fs.map Prod.fst := by
  have hsubset : fs.map Prod.fst ⊆ gs.map Prod.fst := by
    intro k hk
    obtain ⟨p, hp, rfl⟩ := List.mem_map.mp hk
    exact mem_keys_iff.mpr (hsub p hp)
  have hperm := (hf.subperm hsubset).perm_of_length_le (by simp [hlength])
  exact hperm.mem_iff.mpr hk

/-- Equality of dictionaries with distinct keys, key by key. -/
theorem pyEq_obj_iff {fs gs : Dict} (hf : (fs.map Prod.fst).Nodup) (hg : (gs.map Prod.fst).Nodup) :
    pyEq (.obj fs) (.obj gs) = true ↔
      (∀ k, k ∈ fs.map Prod.fst ↔ k ∈ gs.map Prod.fst) ∧
      ∀ k v w, fs.lookup k = some v → gs.lookup k = some w → pyEq v w = true := by
  rw [pyEq_obj]
  constructor
  · rintro ⟨hlength, heach⟩
    have hsub : ∀ p ∈ fs, ∃ w, gs.lookup p.1 = some w := fun p hp => (heach p hp).imp fun w hw => hw.1
    refine ⟨fun k => ⟨?_, mem_keys_of_length_eq hf hlength hsub⟩, ?_⟩
    · intro hk
      obtain ⟨p, hp, rfl⟩ := List.mem_map.mp hk
      exact mem_keys_iff.mpr (hsub p hp)
    · intro k v w hv hw
      obtain ⟨w', hw', heq⟩ := heach (k, v) ((lookup_eq_some_iff_mem hf k v).mp hv)
      cases hw.symm.trans hw'
      exact heq
  · rintro ⟨hkeys, heach⟩
    refine ⟨?_, ?_⟩
    · have hperm := (List.perm_ext_iff_of_nodup hf hg).mpr hkeys
      simpa using hperm.length_eq
    · intro p hp
      obtain ⟨w, hw⟩ := mem_keys_iff.mp ((hkeys p.1).mp (List.mem_map.mpr ⟨p, hp, rfl⟩))
      exact ⟨w, hw, heach p.1 p.2 w ((lookup_eq_some_iff_mem hf p.1 p.2).mpr hp) hw⟩

theorem pyEq_symm {a b : Json} (ha : a.Distinct) (hb : b.Distinct) (h : pyEq a b = true) : pyEq b a = true := by
  induction a using induct generalizing b with
  | scalar v hv =>
    rw [pyEq_scalar hv] at h
    rw [pyEq_scalar (isScalar_of_scalarEq h), scalarEq_iff]
    rcases scalarEq_iff.mp h with ⟨hv, hb⟩ | ⟨s, hv, hb⟩ | ⟨q, hv, hb⟩
    · exact .inl ⟨hb, hv⟩
    · exact .inr (.inl ⟨s, hb, hv⟩)
    · exact .inr (.inr ⟨q, hb, hv⟩)
  | arr xs ih =>
    cases b with
    | arr ys =>
      rw [pyEq_arr, List.forall₂_iff_get] at h ⊢
      obtain ⟨hlength, hget⟩ := h
      refine ⟨hlength.symm, fun i h₁ h₂ => ?_⟩
      exact ih _ (List.get_mem xs ⟨i, h₂⟩) (ha.items _ (List.get_mem xs ⟨i, h₂⟩)) (hb.items _ (List.get_mem ys ⟨i, h₁⟩))
        (hget i h₂ h₁)
    | null | bool | num | str | obj => simp [pyEq, scalarEq, rat?] at h
  | obj fs ih =>
    cases b with
    | obj gs =>
      rw [pyEq_obj_iff ha.keys hb.keys] at h
      rw [pyEq_obj_iff hb.keys ha.keys]
      obtain ⟨hkeys, heach⟩ := h
      refine ⟨fun k => (hkeys k).symm, fun k w v hw hv => ?_⟩
      have hp := (lookup_eq_some_iff_mem ha.keys k v).mp hv
      have hq := (lookup_eq_some_iff_mem hb.keys k w).mp hw
      exact ih (k, v) hp (ha.fields _ hp) (hb.fields _ hq) (heach k v w hv hw)
    | null | bool | num | str | arr => simp [pyEq, scalarEq, rat?] at h

theorem pyEq_trans {a b c : Json} (ha : a.Distinct) (hb : b.Distinct) (hc : c.Distinct) (hab : pyEq a b = true)
    (hbc : pyEq b c = true) : pyEq a c = true := by
  induction a using induct generalizing b c with
  | scalar v hv =>
    rw [pyEq_scalar hv] at hab
    rw [pyEq_scalar (isScalar_of_scalarEq hab)] at hbc
    rw [pyEq_scalar hv, scalarEq_iff]
    rcases scalarEq_iff.mp hab with ⟨hv, rfl⟩ | ⟨s, hv, rfl⟩ | ⟨q, hv, hq⟩
    · rcases scalarEq_iff.mp hbc with ⟨_, hc⟩ | ⟨s, hs, _⟩ | ⟨q, hq, _⟩
      · exact .inl ⟨hv, hc⟩
      · cases hs
      · cases hq
    · rcases scalarEq_iff.mp hbc with ⟨hs, _⟩ | ⟨t, ht, hc⟩ | ⟨q, hq, _⟩
      · cases hs
      · cases ht
        exact .inr (.inl ⟨s, hv, hc⟩)
      · cases hq
    · rcases scalarEq_iff.mp hbc with ⟨rfl, _⟩ | ⟨t, rfl, _⟩ | ⟨r, hr, hc⟩
      · cases hq
      · cases hq
      · cases hq.symm.trans hr
        exact .inr (.inr ⟨q, hv, hc⟩)
  | arr xs ih =>
    cases b with
    | arr ys =>
      cases c with
      | arr zs =>
        rw [pyEq_arr, List.forall₂_iff_get] at hab hbc ⊢
        obtain ⟨hlength, hget⟩ := hab
        obtain ⟨hlength', hget'⟩ := hbc
        refine ⟨hlength.trans hlength', fun i h₁ h₃ => ?_⟩
        have h₂ : i < ys.length := hlength ▸ h₁
        exact ih _ (List.get_mem xs ⟨i, h₁⟩) (ha.items _ (List.get_mem xs ⟨i, h₁⟩)) (hb.items _ (List.get_mem ys ⟨i, h₂⟩))
          (hc.items _ (List.get_mem zs ⟨i, h₃⟩)) (hget i h₁ h₂) (hget' i h₂ h₃)
      | null | bool | num | str | obj => simp [pyEq, scalarEq, rat?] at hbc
    | null | bool | num | str | obj => simp [pyEq, scalarEq, rat?] at hab
  | obj fs ih =>
    cases b with
    | obj gs =>
      cases c with
      | obj hs =>
        rw [pyEq_obj_iff ha.keys hb.keys] at hab
        rw [pyEq_obj_iff hb.keys hc.keys] at hbc
        rw [pyEq_obj_iff ha.keys hc.keys]
        refine ⟨fun k => (hab.1 k).trans (hbc.1 k), fun k u w hu hw => ?_⟩
        obtain ⟨v, hv⟩ := mem_keys_iff.mp ((hab.1 k).mp (mem_keys_iff.mpr ⟨u, hu⟩))
        have hp := (lookup_eq_some_iff_mem ha.keys k u).mp hu
        have hq := (lookup_eq_some_iff_mem hb.keys k v).mp hv
        have hr := (lookup_eq_some_iff_mem hc.keys k w).mp hw
        exact ih (k, u) hp (ha.fields _ hp) (hb.fields _ hq) (hc.fields _ hr) (hab.2 k u v hu hv) (hbc.2 k v w hv hw)
      | null | bool | num | str | arr => simp [pyEq, scalarEq, rat?] at hbc
    | null | bool | num | str | arr => simp [pyEq, scalarEq, rat?] at hab

end Equivalence

end Json
end Sip
