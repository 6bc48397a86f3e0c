import Sip.Spatial.Merge

/-!
# The laws of the three-way merge

Merging with an unchanged side gives the other side, merging equal sides gives that
side, and a merge without conflict does not depend on the order of the sides. On the
snapshots that the service produces the laws hold exactly when the changed side kept
every top-level key of the base: a key it dropped comes back with the value `None`.
-/

namespace Sip
namespace SpatialDataService

set_option autoImplicit false

section Values
variable {b x y : Json}

theorem mergeValue_right_unchanged (hb : b.Distinct) : mergeValue b x b = (x, false) := by
  have hrefl := Json.pyEq_refl hb
  by_cases h : x.pyEq b = true <;> simp [mergeValue, h, hrefl]

theorem mergeValue_left_unchanged (hb : b.Distinct) (hx : x.Distinct) :
    (mergeValue b b x).2 = false ∧ (mergeValue b b x).1.pyEq x = true := by
  have hrefl := Json.pyEq_refl hb
  have hx := Json.pyEq_refl hx
  by_cases h : b.pyEq x = true <;> simp [mergeValue, h, hrefl, hx]

theorem mergeValue_same (hx : x.Distinct) : mergeValue b x x = (x, false) := by
  simp [mergeValue, Json.pyEq_refl hx]

/-- Without a conflict the order of the sides does not matter. -/
theorem mergeValue_comm (hb : b.Distinct) (hx : x.Distinct) (hy : y.Distinct) (h : (mergeValue b x y).2 = false) :
    (mergeValue b y x).2 = false ∧ (mergeValue b x y).1.pyEq (mergeValue b y x).1 = true := by
  have hxx := Json.pyEq_refl hx
  have hyy := Json.pyEq_refl hy
  by_cases hxy : x.pyEq y = true
  · have hyx := Json.pyEq_symm hx hy hxy
    simp [mergeValue, hxy, hyx]
  have hyx : ¬ y.pyEq x = true := fun h => hxy (Json.pyEq_symm hy hx h)
  by_cases hxb : x.pyEq b = true
  · have hyb : ¬ y.pyEq b = true := fun h => hxy (Json.pyEq_trans hx hb hy hxb (Json.pyEq_symm hy hb h))
    simp [mergeValue, hxy, hyx, hxb, hyb, hyy]
  by_cases hyb : y.pyEq b = true
  · simp [mergeValue, hxy, hyx, hxb, hyb, hxx]
  · simp [mergeValue, hxy, hxb, hyb] at h

theorem mergeValue_cases (b x y : Json) : (mergeValue b x y).1 = x ∨ (mergeValue b x y).1 = y := by
  unfold mergeValue
  split
  · exact .inl rfl
  split
  · exact .inr rfl
  split <;> exact .inl rfl

end Values

section Entities

/-- An entity with its identifier. -/
def EntityItem (id : String) (item : Json) : Prop :=
  ∃ fields : Dict, item = .obj fields ∧ fields.lookup "entity_id" = some (.str id)

/-- Entities in the order of their identifiers. -/
structure EntityDict (E : Dict) : Prop where
  sorted : (E.map Prod.fst).Pairwise (· < ·)
  items : ∀ p ∈ E, EntityItem p.1 p.2
  distinct : ∀ p ∈ E, p.2.Distinct

variable {E F B L R : Dict} {k : String}

theorem EntityDict.nodup (h : EntityDict E) : (E.map Prod.fst).Nodup := h.sorted.imp fun hlt => ne_of_lt hlt

theorem EntityItem.ne_null {v : Json} (h : EntityItem k v) : v ≠ .null := by
  obtain ⟨fields, rfl, _⟩ := h
  exact nofun

theorem EntityDict.get_mem (h : EntityDict E) (hk : k ∈ E.map Prod.fst) : (k, E.get k) ∈ E := by
  obtain ⟨v, hv⟩ := Json.mem_keys_iff.mp hk
  have hget : E.get k = v := by rw [Dict.get, hv, Option.getD_some]
  rw [hget]
  exact (lookup_eq_some_iff_mem h.nodup k v).mp hv

theorem Dict.get_of_not_mem (hk : k ∉ E.map Prod.fst) : Dict.get E k = .null := by
  have hnone : E.lookup k = none := by
    cases hv : E.lookup k with
    | none => rfl
    | some v => exact absurd (Json.mem_keys_iff.mpr ⟨v, hv⟩) hk
  rw [Dict.get, hnone, Option.getD_none]

theorem EntityDict.get_eq_null_iff (h : EntityDict E) : E.get k = .null ↔ k ∉ E.map Prod.fst := by
  constructor
  · intro hnull hk
    exact (h.items _ (h.get_mem hk)).ne_null hnull
  · exact Dict.get_of_not_mem

theorem EntityDict.get_distinct (h : EntityDict E) (k : String) : (E.get k).Distinct := by
  by_cases hk : k ∈ E.map Prod.fst
  · exact h.distinct _ (h.get_mem hk)
  · rw [Dict.get_of_not_mem hk]
    simp [Json.Distinct]

theorem mem_mergeKeys : k ∈ mergeKeys B L R ↔ k ∈ B.map Prod.fst ∨ k ∈ L.map Prod.fst ∨ k ∈ R.map Prod.fst := by
  rw [mergeKeys, mem_sortedSet_id, List.mem_append, List.mem_append, or_assoc]

theorem EntityDict.values (h : EntityDict E) : E.map Prod.snd = (E.map Prod.fst).map E.get := by
  rw [List.map_map]
  apply List.map_congr_left
  intro p hp
  have hlookup := (lookup_eq_some_iff_mem h.nodup p.1 p.2).mpr hp
  simp only [Function.comp_apply, Dict.get, hlookup, Option.getD_some]

theorem pyEq_null_left {v : Json} (h : Json.pyEq .null v = true) : v = .null := by
  cases v <;> simp [Json.pyEq, Json.scalarEq, Json.rat?] at h ⊢

theorem pyEq_null_right {v : Json} (h : Json.pyEq v .null = true) : v = .null := by
  cases hv : v.isScalar with
  | true =>
    rw [Json.pyEq_scalar hv, Json.scalarEq_iff] at h
    rcases h with h | ⟨s, _, h⟩ | ⟨q, _, h⟩
    · exact h.1
    · cases h
    · cases h
  | false =>
    cases v with
    | arr | obj => simp [Json.pyEq, Json.scalarEq, Json.rat?] at h
    | null | bool | num | str => cases hv

/-- Entity lists with equal entities under every identifier are equal. -/
theorem pyEq_entities (hE : EntityDict E) (hF : EntityDict F) (h : ∀ k, (E.get k).pyEq (F.get k) = true) :
    Json.pyEq (.arr (E.map Prod.snd)) (.arr (F.map Prod.snd)) = true := by
  have hmem : ∀ k, k ∈ E.map Prod.fst ↔ k ∈ F.map Prod.fst := by
    intro k
    rw [← not_iff_not, ← hE.get_eq_null_iff, ← hF.get_eq_null_iff]
    have hk := h k
    constructor
    · intro hnull
      rw [hnull] at hk
      exact pyEq_null_left hk
    · intro hnull
      rw [hnull] at hk
      exact pyEq_null_right hk
  have hkeys : E.map Prod.fst = F.map Prod.fst := by
    apply List.Perm.eq_of_pairwise _ hE.sorted hF.sorted ((List.perm_ext_iff_of_nodup hE.nodup hF.nodup).mpr hmem)
    intro a b _ _ hab hba
    exact absurd hab (lt_asymm hba)
  rw [Json.pyEq_arr, hE.values, hF.values, hkeys, List.forall₂_map_left_iff, List.forall₂_map_right_iff, List.forall₂_same]
  exact fun k _ => h k

theorem mem_mergeEntities {v : Json} : (k, v) ∈ mergeEntities B L R ↔
    k ∈ mergeKeys B L R ∧ (mergeValue (B.get k) (L.get k) (R.get k)).1 = v ∧ v ≠ .null := by
  simp only [mergeEntities, List.mem_filterMap]
  constructor
  · rintro ⟨k', hk', h⟩
    split at h
    · cases h
    · rename_i value hnull
      cases h
      exact ⟨hk', rfl, hnull⟩
  · rintro ⟨hk, rfl, hnull⟩
    refine ⟨k, hk, ?_⟩
    split
    · exact absurd ‹_› hnull
    · rfl

theorem keys_mergeEntities_sublist (B L R : Dict) :
    ((mergeEntities B L R).map Prod.fst).Sublist (mergeKeys B L R) := by
  rw [mergeEntities]
  induction mergeKeys B L R with
  | nil => exact .slnil
  | cons k ks ih =>
    rw [List.filterMap_cons]
    split
    · exact ih.cons k
    · rename_i p hp
      split at hp
      · cases hp
      · cases hp
        exact ih.cons_cons k

theorem pairwise_mergeKeys (B L R : Dict) : (mergeKeys B L R).Pairwise (· < ·) := by
  have h := pairwise_lt_sortedSet id (B.map Prod.fst ++ L.map Prod.fst ++ R.map Prod.fst)
  rwa [List.map_id] at h

/-- The merge of entity lists is one. -/
theorem EntityDict.merge (hL : EntityDict L) (hR : EntityDict R) : EntityDict (mergeEntities B L R) := by
  have hside : ∀ p ∈ mergeEntities B L R, p ∈ L ∨ p ∈ R := by
    intro p hp
    obtain ⟨k, v⟩ := p
    obtain ⟨_, hv, hnull⟩ := mem_mergeEntities.mp hp
    rcases mergeValue_cases (B.get k) (L.get k) (R.get k) with h | h
    · rw [h] at hv
      have hk : k ∈ L.map Prod.fst := by
        by_contra hk
        exact hnull (hv ▸ Dict.get_of_not_mem hk)
      exact .inl (hv ▸ hL.get_mem hk)
    · rw [h] at hv
      have hk : k ∈ R.map Prod.fst := by
        by_contra hk
        exact hnull (hv ▸ Dict.get_of_not_mem hk)
      exact .inr (hv ▸ hR.get_mem hk)
  refine ⟨(pairwise_mergeKeys B L R).sublist (keys_mergeEntities_sublist B L R), ?_, ?_⟩
  · intro p hp
    exact (hside p hp).elim (hL.items p) (hR.items p)
  · intro p hp
    exact (hside p hp).elim (hL.distinct p) (hR.distinct p)

/-- What the merge holds under an identifier. -/
theorem get_mergeEntities (hL : EntityDict L) (hR : EntityDict R) (k : String) :
    (mergeEntities B L R).get k = (mergeValue (B.get k) (L.get k) (R.get k)).1 := by
  have hM : EntityDict (mergeEntities B L R) := hL.merge hR
  by_cases hk : k ∈ (mergeEntities B L R).map Prod.fst
  · exact (mem_mergeEntities.mp (hM.get_mem hk)).2.1.symm
  · rw [Dict.get_of_not_mem hk]
    by_contra hne
    have hnull : (mergeValue (B.get k) (L.get k) (R.get k)).1 ≠ .null := fun h => hne h.symm
    have hkeys : k ∈ mergeKeys B L R := by
      rw [mem_mergeKeys]
      by_contra hnone
      push Not at hnone
      obtain ⟨_, hl, hr⟩ := hnone
      rcases mergeValue_cases (B.get k) (L.get k) (R.get k) with h | h
      · exact hnull (h.trans (Dict.get_of_not_mem hl))
      · exact hnull (h.trans (Dict.get_of_not_mem hr))
    exact hk (List.mem_map.mpr ⟨(k, _), mem_mergeEntities.mpr ⟨hkeys, rfl, hnull⟩, rfl⟩)

end Entities

section Snapshots

/-- A snapshot of the service, with its entities by identifier. -/
structure WellFormed (s E : Dict) : Prop where
  distinct : (Json.obj s).Distinct
  lookup : s.lookup "entities" = some (.arr (E.map Prod.snd))
  dict : EntityDict E

variable {s s' E E' b l r B L R : Dict} {k : String}

theorem set_of_not_mem {d : Dict} {key : String} (h : key ∉ d.map Prod.fst) (value : Json) :
    d.set key value = d ++ [(key, value)] := by
  induction d with
  | nil => rfl
  | cons p d ih =>
    rw [List.map_cons, List.mem_cons, not_or] at h
    rw [Dict.set, if_neg fun hk => h.1 hk.symm, ih h.2]
    rfl

theorem addEntity_of_item (py : PyText) (entities : Dict) {id : String} {item : Json} (h : EntityItem id item) :
    addEntity py entities item = entities.set id item := by
  obtain ⟨fields, rfl, hid⟩ := h
  have hget : Dict.get fields "entity_id" = .str id := by rw [Dict.get, hid, Option.getD_some]
  simp only [addEntity, hget, py.str_text]

theorem foldl_addEntity (py : PyText) (hE : EntityDict E) (entities : Dict)
    (hfree : ∀ key ∈ E.map Prod.fst, key ∉ entities.map Prod.fst) :
    (E.map Prod.snd).foldl (addEntity py) entities = entities ++ E := by
  induction E generalizing entities with
  | nil => simp
  | cons p E ih =>
    have hsorted := hE.sorted
    rw [List.map_cons, List.pairwise_cons] at hsorted
    have htail : EntityDict E :=
      ⟨hsorted.2, fun q hq => hE.items q (List.mem_cons_of_mem _ hq), fun q hq => hE.distinct q (List.mem_cons_of_mem _ hq)⟩
    have hp : p.1 ∉ entities.map Prod.fst := hfree p.1 (by simp)
    rw [List.map_cons, List.foldl_cons, addEntity_of_item py entities (hE.items p List.mem_cons_self), set_of_not_mem hp,
      ih htail]
    · simp
    · intro key hkey
      rw [List.map_append, List.mem_append, not_or]
      refine ⟨hfree key (List.mem_cons_of_mem _ hkey), ?_⟩
      intro hmem
      rw [List.map_singleton, List.mem_singleton] at hmem
      exact absurd hmem (ne_of_gt (hsorted.1 key hkey))

theorem WellFormed.entityMap (py : PyText) (h : WellFormed s E) : entityMap py s = .ok (E, false) := by
  have hfold := foldl_addEntity py h.dict [] (fun _ _ => List.not_mem_nil)
  simp only [SpatialDataService.entityMap, h.lookup, Option.getD_some, Json.iterate, bind, Except.bind, hfold]
  rfl

theorem WellFormed.get_distinct (h : WellFormed s E) (k : String) : (s.get k).Distinct := by
  rw [Dict.get]
  cases hv : s.lookup k with
  | none => simp [Json.Distinct]
  | some v => exact h.distinct.fields (k, v) ((lookup_eq_some_iff_mem h.distinct.keys k v).mp hv)

theorem WellFormed.entities_mem (h : WellFormed s E) : "entities" ∈ s.map Prod.fst := Json.mem_keys_iff.mpr ⟨_, h.lookup⟩

/-- Snapshots with the same keys, equal values and equal entities are equal. -/
theorem pyEq_snapshots (h : WellFormed s E) (h' : WellFormed s' E')
    (hkeys : ∀ k, k ∈ s.map Prod.fst ↔ k ∈ s'.map Prod.fst)
    (hvalues : ∀ k, k ≠ "entities" → (s.get k).pyEq (s'.get k) = true)
    (hentities : ∀ k, (E.get k).pyEq (E'.get k) = true) : Json.pyEq (.obj s) (.obj s') = true := by
  rw [Json.pyEq_obj_iff h.distinct.keys h'.distinct.keys]
  refine ⟨hkeys, fun k v w hv hw => ?_⟩
  by_cases hk : k = "entities"
  · subst hk
    cases h.lookup.symm.trans hv
    cases h'.lookup.symm.trans hw
    exact pyEq_entities h.dict h'.dict hentities
  · have hvalue := hvalues k hk
    rwa [Dict.get, hv, Dict.get, hw, Option.getD_some, Option.getD_some] at hvalue

theorem lookup_foldl_set (value : String → Json) (ks : List String) (d : Dict) (k : String) :
    (ks.foldl (fun d key => d.set key (value key)) d).lookup k = if k ∈ ks then some (value k) else d.lookup k := by
  induction ks generalizing d with
  | nil => simp
  | cons key ks ih =>
    rw [List.foldl_cons, ih, Dict.lookup_set]
    by_cases hk : k = key
    · simp [hk]
    · simp [hk]

theorem nodup_foldl_set (value : String → Json) (ks : List String) {d : Dict} (hd : (d.map Prod.fst).Nodup) :
    ((ks.foldl (fun d key => d.set key (value key)) d).map Prod.fst).Nodup := by
  induction ks generalizing d with
  | nil => exact hd
  | cons key ks ih => exact ih (Dict.nodup_keys_set hd key _)

/-- What `semanticMerge` returns on snapshots of the service. -/
def mergedSnapshot (b l r B L R : Dict) : Dict :=
  mergeTopLevel b l r (b.set "entities" (.arr ((mergeEntities B L R).map Prod.snd)))

theorem semanticMerge_eq (py : PyText) (hb : WellFormed b B) (hl : WellFormed l L) (hr : WellFormed r R) :
    semanticMerge py b l r =
      .ok (mergedSnapshot b l r B L R, entityConflicts B L R ++ topLevelConflicts b l r) := by
  simp only [semanticMerge, hb.entityMap py, hl.entityMap py, hr.entityMap py]
  rfl

theorem lookup_mergedSnapshot (k : String) : (mergedSnapshot b l r B L R).lookup k =
    if k = "entities" then some (.arr ((mergeEntities B L R).map Prod.snd))
    else if k ∈ mergeKeys b l r then some (mergeValue (b.get k) (l.get k) (r.get k)).1 else none := by
  rw [mergedSnapshot, mergeTopLevel, lookup_foldl_set (fun key => (mergeValue (b.get key) (l.get key) (r.get key)).1),
    Dict.lookup_set]
  by_cases hk : k = "entities"
  · subst hk
    simp [topLevelKeys]
  · by_cases hmem : k ∈ mergeKeys b l r
    · simp [topLevelKeys, hk, hmem]
    · have hbase : k ∉ b.map Prod.fst := fun h => hmem (mem_mergeKeys.mpr (.inl h))
      have hnone : b.lookup k = none := by
        cases hv : b.lookup k with
        | none => rfl
        | some v => exact absurd (Json.mem_keys_iff.mpr ⟨v, hv⟩) hbase
      simp [topLevelKeys, hk, hmem, hnone]

theorem get_mergedSnapshot (hk : k ≠ "entities") :
    (mergedSnapshot b l r B L R).get k = (mergeValue (b.get k) (l.get k) (r.get k)).1 := by
  rw [Dict.get, lookup_mergedSnapshot, if_neg hk]
  by_cases hmem : k ∈ mergeKeys b l r
  · rw [if_pos hmem, Option.getD_some]
  · rw [if_neg hmem, Option.getD_none]
    rw [mem_mergeKeys] at hmem
    push Not at hmem
    obtain ⟨_, hl, hr⟩ := hmem
    rcases mergeValue_cases (b.get k) (l.get k) (r.get k) with h | h
    · exact (h.trans (Dict.get_of_not_mem hl)).symm
    · exact (h.trans (Dict.get_of_not_mem hr)).symm

theorem mem_keys_mergedSnapshot (hb : WellFormed b B) :
    k ∈ (mergedSnapshot b l r B L R).map Prod.fst ↔
      k ∈ b.map Prod.fst ∨ k ∈ l.map Prod.fst ∨ k ∈ r.map Prod.fst := by
  rw [Json.mem_keys_iff, lookup_mergedSnapshot, ← mem_mergeKeys]
  by_cases hk : k = "entities"
  · subst hk
    simp [mem_mergeKeys, hb.entities_mem]
  · by_cases hmem : k ∈ mergeKeys b l r <;> simp [hk, hmem]

/-- A merge of snapshots of the service is again one. -/
theorem WellFormed.merge (hb : WellFormed b B) (hl : WellFormed l L) (hr : WellFormed r R) :
    WellFormed (mergedSnapshot b l r B L R) (mergeEntities B L R) := by
  have hdict : EntityDict (mergeEntities B L R) := hl.dict.merge hr.dict
  have hnodup : ((mergedSnapshot b l r B L R).map Prod.fst).Nodup :=
    nodup_foldl_set _ _ (Dict.nodup_keys_set hb.distinct.keys _ _)
  refine ⟨Json.distinct_obj hnodup ?_, by rw [lookup_mergedSnapshot, if_pos rfl], hdict⟩
  intro p hp
  obtain ⟨key, v⟩ := p
  have hlookup := (lookup_eq_some_iff_mem hnodup key v).mpr hp
  rw [lookup_mergedSnapshot] at hlookup
  split at hlookup
  · cases hlookup
    apply Json.distinct_arr
    intro v hv
    obtain ⟨q, hq, rfl⟩ := List.mem_map.mp hv
    exact hdict.distinct q hq
  · split at hlookup
    · cases hlookup
      rcases mergeValue_cases (b.get key) (l.get key) (r.get key) with h | h
      · rw [h]
        exact hl.get_distinct key
      · rw [h]
        exact hr.get_distinct key
    · cases hlookup

end Snapshots

section Laws
variable {b x y B X Y : Dict}

theorem entityConflicts_eq_nil {B L R : Dict} : entityConflicts B L R = [] ↔
    ∀ k ∈ mergeKeys B L R, (mergeValue (B.get k) (L.get k) (R.get k)).2 = false := by
  rw [entityConflicts, List.filterMap_eq_nil_iff]
  apply forall₂_congr
  intro k _
  split <;> simp_all

theorem topLevelConflicts_eq_nil {b l r : Dict} : topLevelConflicts b l r = [] ↔
    ∀ k ∈ topLevelKeys b l r, (mergeValue (b.get k) (l.get k) (r.get k)).2 = false := by
  rw [topLevelConflicts, List.filterMap_eq_nil_iff]
  apply forall₂_congr
  intro k _
  split <;> simp_all

/-- What the three-way merge promises of a base and two sides; equality is that of the interpreter. -/
structure MergeLaws (py : PyText) (b x y : Dict) : Prop where
  right_unchanged : ∃ m, semanticMerge py b x b = .ok (m, []) ∧ Json.pyEq (.obj m) (.obj x) = true
  left_unchanged : ∃ m, semanticMerge py b b x = .ok (m, []) ∧ Json.pyEq (.obj m) (.obj x) = true
  same : ∃ m, semanticMerge py b x x = .ok (m, []) ∧ Json.pyEq (.obj m) (.obj x) = true
  symmetric : ∀ m, semanticMerge py b x y = .ok (m, []) →
    ∃ m', semanticMerge py b y x = .ok (m', []) ∧ Json.pyEq (.obj m) (.obj m') = true

/-- A merge that takes the values and entities of one side gives that side, if it has all keys. -/
theorem merge_eq_side (py : PyText) {l r L R : Dict} (hb : WellFormed b B) (hx : WellFormed x X) (hl : WellFormed l L)
    (hr : WellFormed r R) (hkeys : ∀ k, k ∈ b.map Prod.fst ∨ k ∈ l.map Prod.fst ∨ k ∈ r.map Prod.fst ↔ k ∈ x.map Prod.fst)
    (hvalue : ∀ k, (mergeValue (b.get k) (l.get k) (r.get k)).2 = false ∧
      (mergeValue (b.get k) (l.get k) (r.get k)).1.pyEq (x.get k) = true)
    (hentity : ∀ k, (mergeValue (B.get k) (L.get k) (R.get k)).2 = false ∧
      (mergeValue (B.get k) (L.get k) (R.get k)).1.pyEq (X.get k) = true) :
    ∃ m, semanticMerge py b l r = .ok (m, []) ∧ Json.pyEq (.obj m) (.obj x) = true := by
  refine ⟨mergedSnapshot b l r B L R, ?_, ?_⟩
  · rw [semanticMerge_eq py hb hl hr, entityConflicts_eq_nil.mpr fun k _ => (hentity k).1,
      topLevelConflicts_eq_nil.mpr fun k _ => (hvalue k).1, List.append_nil]
  · apply pyEq_snapshots (hb.merge hl hr) hx
    · intro k
      rw [mem_keys_mergedSnapshot hb]
      exact hkeys k
    · intro k hk
      rw [get_mergedSnapshot hk]
      exact (hvalue k).2
    · intro k
      rw [get_mergeEntities hl.dict hr.dict]
      exact (hentity k).2

theorem merge_symmetric (py : PyText) (hb : WellFormed b B) (hx : WellFormed x X) (hy : WellFormed y Y) {m : Dict}
    (h : semanticMerge py b x y = .ok (m, [])) :
    ∃ m', semanticMerge py b y x = .ok (m', []) ∧ Json.pyEq (.obj m) (.obj m') = true := by
  rw [semanticMerge_eq py hb hx hy, Except.ok.injEq, Prod.mk.injEq, List.append_eq_nil_iff] at h
  obtain ⟨rfl, hentities, htop⟩ := h
  rw [entityConflicts_eq_nil] at hentities
  rw [topLevelConflicts_eq_nil] at htop
  have hentity : ∀ k, (mergeValue (B.get k) (Y.get k) (X.get k)).2 = false ∧
      (mergeValue (B.get k) (X.get k) (Y.get k)).1.pyEq (mergeValue (B.get k) (Y.get k) (X.get k)).1 = true := by
    intro k
    apply mergeValue_comm (hb.dict.get_distinct k) (hx.dict.get_distinct k) (hy.dict.get_distinct k)
    by_cases hk : k ∈ mergeKeys B X Y
    · exact hentities k hk
    · rw [mem_mergeKeys] at hk
      push Not at hk
      rw [Dict.get_of_not_mem hk.1, Dict.get_of_not_mem hk.2.1, Dict.get_of_not_mem hk.2.2]
      rfl
  have hvalue : ∀ k, k ≠ "entities" → (mergeValue (b.get k) (y.get k) (x.get k)).2 = false ∧
      (mergeValue (b.get k) (x.get k) (y.get k)).1.pyEq (mergeValue (b.get k) (y.get k) (x.get k)).1 = true := by
    intro k hne
    apply mergeValue_comm (hb.get_distinct k) (hx.get_distinct k) (hy.get_distinct k)
    by_cases hk : k ∈ mergeKeys b x y
    · exact htop k (List.mem_filter.mpr ⟨hk, decide_eq_true hne⟩)
    · rw [mem_mergeKeys] at hk
      push Not at hk
      rw [Dict.get_of_not_mem hk.1, Dict.get_of_not_mem hk.2.1, Dict.get_of_not_mem hk.2.2]
      rfl
  refine ⟨mergedSnapshot b y x B Y X, ?_, ?_⟩
  · have htop' : topLevelConflicts b y x = [] := by
      rw [topLevelConflicts_eq_nil]
      intro k hk
      exact (hvalue k (of_decide_eq_true (List.mem_filter.mp hk).2)).1
    rw [semanticMerge_eq py hb hy hx, entityConflicts_eq_nil.mpr fun k _ => (hentity k).1, htop', List.append_nil]
  · apply pyEq_snapshots (hb.merge hx hy) (hb.merge hy hx)
    · intro k
      rw [mem_keys_mergedSnapshot hb, mem_keys_mergedSnapshot hb]
      exact or_congr_right or_comm
    · intro k hk
      rw [get_mergedSnapshot hk, get_mergedSnapshot hk]
      exact (hvalue k hk).2
    · intro k
      rw [get_mergeEntities hx.dict hy.dict, get_mergeEntities hy.dict hx.dict]
      exact (hentity k).2

/-- If the changed side kept the keys of the base, all laws hold. -/
theorem mergeLaws_of_keys (py : PyText) (hb : WellFormed b B) (hx : WellFormed x X) (hy : WellFormed y Y)
    (hkeys : ∀ k ∈ b.map Prod.fst, k ∈ x.map Prod.fst) : MergeLaws py b x y where
  right_unchanged := by
    apply merge_eq_side py hb hx hx hb
    · intro k
      exact ⟨fun h => h.elim (hkeys k) fun h => h.elim id (hkeys k), fun h => .inr (.inl h)⟩
    · intro k
      rw [mergeValue_right_unchanged (hb.get_distinct k)]
      exact ⟨rfl, Json.pyEq_refl (hx.get_distinct k)⟩
    · intro k
      rw [mergeValue_right_unchanged (hb.dict.get_distinct k)]
      exact ⟨rfl, Json.pyEq_refl (hx.dict.get_distinct k)⟩
  left_unchanged := by
    apply merge_eq_side py hb hx hb hx
    · intro k
      exact ⟨fun h => h.elim (hkeys k) fun h => h.elim (hkeys k) id, fun h => .inr (.inr h)⟩
    · exact fun k => mergeValue_left_unchanged (hb.get_distinct k) (hx.get_distinct k)
    · exact fun k => mergeValue_left_unchanged (hb.dict.get_distinct k) (hx.dict.get_distinct k)
  same := by
    apply merge_eq_side py hb hx hx hx
    · intro k
      exact ⟨fun h => h.elim (hkeys k) fun h => h.elim id id, fun h => .inr (.inl h)⟩
    · intro k
      rw [mergeValue_same (hx.get_distinct k)]
      exact ⟨rfl, Json.pyEq_refl (hx.get_distinct k)⟩
    · intro k
      rw [mergeValue_same (hx.dict.get_distinct k)]
      exact ⟨rfl, Json.pyEq_refl (hx.dict.get_distinct k)⟩
  symmetric := fun _ h => merge_symmetric py hb hx hy h

/-- The merge with an unchanged side brings every key of the base back. -/
theorem keys_of_mergeLaws {py : PyText} (hb : WellFormed b B) (hx : WellFormed x X) (h : MergeLaws py b x y) :
    ∀ k ∈ b.map Prod.fst, k ∈ x.map Prod.fst := by
  intro k hk
  obtain ⟨m, hm, heq⟩ := h.right_unchanged
  rw [semanticMerge_eq py hb hx hb, Except.ok.injEq, Prod.mk.injEq] at hm
  obtain ⟨rfl, _⟩ := hm
  rw [Json.pyEq_obj_iff (hb.merge hx hb).distinct.keys hx.distinct.keys] at heq
  exact (heq.1 k).mp ((mem_keys_mergedSnapshot hb).mpr (.inl hk))

end Laws

section Produced
open SceneService

/-- The JSON columns that a commit renders hold dictionaries, whose keys are distinct. -/
structure DistinctRows (db : SceneStore) : Prop where
  entities : ∀ row ∈ db.entities.rows, (Json.obj row.attributesJson).Distinct ∧ (Json.obj row.provenanceJson).Distinct ∧
    (Json.obj row.policyJson).Distinct ∧ (Json.obj row.stableSupportJson).Distinct
  bindings : ∀ row ∈ db.bindings.rows, row.transformJson.Distinct ∧ (Json.obj row.audiencePolicyJson).Distinct

/-- The snapshots that commits carry: of a new scene, of a commit, and of a merge. A rollback and a merge with
approved conflicts copy one of these. -/
inductive Produced (py : PyText) : Dict → Prop
  | created (sceneId name : String) : Produced py (createdSnapshot sceneId name)
  | committed (db : SceneStore) (key : BranchKey) : DistinctRows db → Produced py (renderSnapshot db key)
  | merged (b l r m : Dict) (conflicts : List MergeConflict) : Produced py b → Produced py l → Produced py r →
      semanticMerge py b l r = .ok (m, conflicts) → Produced py m

theorem wellFormed_created (sceneId name : String) : WellFormed (createdSnapshot sceneId name) [] := by
  refine ⟨?_, rfl, .nil, nofun, nofun⟩
  simp [createdSnapshot, Json.Distinct, Json.DistinctFields, Json.DistinctItems]

theorem distinct_renderEntity {row : SceneEntityRow} (hattributes : (Json.obj row.attributesJson).Distinct)
    (hprovenance : (Json.obj row.provenanceJson).Distinct) (hpolicy : (Json.obj row.policyJson).Distinct)
    (hsupport : (Json.obj row.stableSupportJson).Distinct) : (renderEntity row).Distinct := by
  simp only [Json.Distinct] at hattributes hprovenance hpolicy hsupport
  simp [renderEntity, Json.Distinct, Json.DistinctFields, hattributes, hprovenance, hpolicy, hsupport]

theorem distinct_renderBinding {row : RepresentationBindingRow} (htransform : row.transformJson.Distinct)
    (haudience : (Json.obj row.audiencePolicyJson).Distinct) : (renderBinding row).Distinct := by
  have huses : (Json.arr (row.intendedUsesJson.map .str)).Distinct := by
    apply Json.distinct_arr
    intro v hv
    obtain ⟨use, _, rfl⟩ := List.mem_map.mp hv
    simp [Json.Distinct]
  simp only [Json.Distinct] at haudience huses
  simp [renderBinding, Json.Distinct, Json.DistinctFields, htransform, haudience, huses]

theorem wellFormed_rendered {db : SceneStore} (hdb : DistinctRows db) (key : BranchKey) :
    ∃ E, WellFormed (renderSnapshot db key) E := by
  let rows := sortBy SceneEntityRow.entityId (db.entities.rows.filter fun row => row.tenantId = key.tenantId ∧
    row.projectId = key.projectId ∧ row.sceneId = key.sceneId ∧ row.supersededAt = none)
  have hrows : ∀ row ∈ rows, row ∈ db.entities.rows := fun row hrow => List.mem_of_mem_filter (mem_sortBy.mp hrow)
  have hitems : ∀ v ∈ rows.map renderEntity, v.Distinct := by
    intro v hv
    obtain ⟨row, hrow, rfl⟩ := List.mem_map.mp hv
    obtain ⟨h₁, h₂, h₃, h₄⟩ := hdb.entities row (hrows row hrow)
    exact distinct_renderEntity h₁ h₂ h₃ h₄
  have hbindings : (liveRepresentations db key).Distinct := by
    apply Json.distinct_arr
    intro v hv
    obtain ⟨row, hrow, rfl⟩ := List.mem_map.mp hv
    obtain ⟨h₁, h₂⟩ := hdb.bindings row (List.mem_of_mem_filter (mem_sortBy.mp hrow))
    exact distinct_renderBinding h₁ h₂
  have hentities : (liveEntities db key).Distinct := Json.distinct_arr hitems
  refine ⟨rows.map fun row => (row.entityId, renderEntity row), ?_, ?_, ?_, ?_, ?_⟩
  · apply Json.distinct_obj (by simp [renderSnapshot])
    intro p hp
    simp only [renderSnapshot, List.mem_cons, List.not_mem_nil, or_false] at hp
    rcases hp with rfl | rfl | rfl | rfl
    · simp [Json.Distinct]
    · simp [Json.Distinct]
    · exact hentities
    · exact hbindings
  · rw [List.map_map]
    rfl
  · rw [List.map_map]
    exact pairwise_lt_sortBy (db.entities.nodup.sublist (List.filter_sublist.map _))
  · intro p hp
    obtain ⟨row, _, rfl⟩ := List.mem_map.mp hp
    exact ⟨_, rfl, rfl⟩
  · intro p hp
    obtain ⟨row, hrow, rfl⟩ := List.mem_map.mp hp
    exact hitems _ (List.mem_map.mpr ⟨row, hrow, rfl⟩)

theorem Produced.wellFormed {py : PyText} {s : Dict} (h : Produced py s) : ∃ E, WellFormed s E := by
  induction h with
  | created sceneId name => exact ⟨[], wellFormed_created sceneId name⟩
  | committed db key hdb => exact wellFormed_rendered hdb key
  | merged b l r m conflicts _ _ _ hmerge ihb ihl ihr =>
    obtain ⟨B, hb⟩ := ihb
    obtain ⟨L, hl⟩ := ihl
    obtain ⟨R, hr⟩ := ihr
    rw [semanticMerge_eq py hb hl hr, Except.ok.injEq, Prod.mk.injEq] at hmerge
    obtain ⟨rfl, _⟩ := hmerge
    exact ⟨mergeEntities B L R, hb.merge hl hr⟩

/-- For snapshots that the service can produce, the laws of the three-way merge hold exactly when the changed
side still has every top-level key of the base. -/
theorem mergeLaws_iff_keys (py : PyText) (b x y : Dict) (hb : Produced py b) (hx : Produced py x) (hy : Produced py y) :
    MergeLaws py b x y ↔ ∀ key ∈ b.map Prod.fst, key ∈ x.map Prod.fst := by
  obtain ⟨B, hb⟩ := hb.wellFormed
  obtain ⟨X, hx⟩ := hx.wellFormed
  obtain ⟨Y, hy⟩ := hy.wellFormed
  exact ⟨keys_of_mergeLaws hb hx, mergeLaws_of_keys py hb hx hy⟩

/-- A `str`; the identifiers of entities are texts already. -/
def plainText : PyText where
  str
    | .str s => s
    | value => String.ofList value.encode
  str_text := fun _ => rfl

def scene : BranchKey := ⟨"t", "p", "s", "main"⟩

theorem distinctRows_empty : DistinctRows .empty := ⟨nofun, nofun⟩

theorem mergeLaws_iff_keys_new :
    Produced plainText (createdSnapshot "s" "hall") ∧
    (MergeLaws plainText (createdSnapshot "s" "hall") (createdSnapshot "s" "hall") (renderSnapshot .empty scene) ↔
      ∀ key ∈ (createdSnapshot "s" "hall").map Prod.fst, key ∈ (createdSnapshot "s" "hall").map Prod.fst) :=
  ⟨.created "s" "hall", mergeLaws_iff_keys plainText _ _ _ (.created "s" "hall") (.created "s" "hall")
    (.committed .empty scene distinctRows_empty)⟩

/-- The first commit of a scene drops the name that the scene was created with; the merge brings it back. -/
theorem merge_restores_dropped_key :
    Produced plainText (createdSnapshot "s" "hall") ∧ Produced plainText (renderSnapshot .empty scene) ∧
    ¬ MergeLaws plainText (createdSnapshot "s" "hall") (renderSnapshot .empty scene) (renderSnapshot .empty scene) := by
  refine ⟨.created "s" "hall", .committed .empty scene distinctRows_empty, fun h => ?_⟩
  obtain ⟨X, hx⟩ := wellFormed_rendered distinctRows_empty scene
  have hname := keys_of_mergeLaws (wellFormed_created "s" "hall") hx h "name" (by decide)
  exact absurd hname (by decide)

end Produced

end SpatialDataService
end Sip
