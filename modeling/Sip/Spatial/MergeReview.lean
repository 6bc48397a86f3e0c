import Sip.Scene.Rollback
import Sip.Spatial.MergeLaws

/-!
# What a published merge contains, and what was approved for it

A merge without conflicts takes every change that one side alone has made, entity by
entity and for the list of representations as a whole. A merge with approved
conflicts is published with the snapshot of the target, so the changes of the source
are left out of it. The approval covers the protected categories of the conflicts,
and a general one if no conflict has a protected category.
-/

namespace Sip
namespace SpatialDataService

set_option autoImplicit false

section Spec
open SceneService
variable {svc : AuditService} {py : PyText} {db db' : SceneStore} {stamp : CommitStamp} {req : MergeRequest}
  {inputs : MergeInputs} {row : SceneCommitRow}

theorem mergeLoad_ok {target source : SceneBranchRow} (h : mergeLoad db req target source = .ok inputs) :
    inputs.target = target ∧ inputs.base ∈ db.commits.rows ∧ inputs.left ∈ db.commits.rows ∧
      inputs.right ∈ db.commits.rows ∧ inputs.left.commitId = target.headCommitId := by
  simp only [mergeLoad, mergeInput, bind_eq_ok, orRaise_eq_ok] at h
  obtain ⟨base, hbase, left, hleft, right, hright, _, _, _, _, _, _, _, _, _, _, h⟩ := h
  cases h
  obtain ⟨hmem, hid⟩ := (Table.get?_eq_some_iff _ _ _).mp hleft
  exact ⟨rfl, ((Table.get?_eq_some_iff _ _ _).mp hbase).1, hmem, ((Table.get?_eq_some_iff _ _ _).mp hright).1, hid⟩

theorem mergeRead_ok (h : mergeRead db req = .ok inputs) : inputs.base ∈ db.commits.rows ∧
    inputs.left ∈ db.commits.rows ∧ inputs.right ∈ db.commits.rows := by
  simp only [mergeRead, bind_eq_ok] at h
  obtain ⟨target, _, source, _, hload⟩ := h
  obtain ⟨_, hbase, hleft, hright, _⟩ := mergeLoad_ok hload
  exact ⟨hbase, hleft, hright⟩

/-- What a published merge has read, found and written. -/
theorem mergeBranches_merged (h : mergeBranches svc py db stamp req = .ok (.merged row, db')) :
    ∃ inputs merged conflicts, mergeRead db req = .ok inputs ∧
      semanticMerge py inputs.base.semanticSnapshotJson inputs.left.semanticSnapshotJson
        inputs.right.semanticSnapshotJson = .ok (merged, conflicts) ∧
      (conflicts ≠ [] → ∀ category ∈ requiredReviewCategories conflicts, category ∈ approved req) ∧
      row = mergeRow stamp req inputs conflicts (if conflicts ≠ [] then inputs.left.semanticSnapshotJson else merged) ∧
      mergeWrite svc db stamp req inputs conflicts
        (if conflicts ≠ [] then inputs.left.semanticSnapshotJson else merged) = .ok db' := by
  simp only [mergeBranches, mergeDecide, bind_eq_ok] at h
  obtain ⟨inputs, hread, decision, ⟨⟨merged, conflicts⟩, hmerge, hdecision⟩, h⟩ := h
  refine ⟨inputs, merged, conflicts, hread, hmerge, ?_⟩
  dsimp only at hdecision
  split at hdecision
  · cases hdecision
    cases h
  · rename_i hreviewed
    cases hdecision
    obtain ⟨written, hwrite, h⟩ := bind_eq_ok.mp h
    cases h
    refine ⟨fun hconflicts category hcategory => ?_, rfl, hwrite⟩
    by_contra hmissing
    apply hreviewed
    refine ⟨hconflicts, ?_⟩
    apply List.ne_nil_of_mem (a := category)
    rw [mem_sortedSet_id]
    exact List.mem_filter.mpr ⟨hcategory, decide_eq_true hmissing⟩

theorem mem_requiredReviewCategories {conflicts : List MergeConflict} {conflict : MergeConflict} {category : String}
    (hconflict : conflict ∈ conflicts) (hcategory : category ∈ conflict.categories)
    (hprotected : category ∈ protectedMergeKeys) : category ∈ requiredReviewCategories conflicts := by
  have hfound : category ∈ sortedSet id
      ((conflicts.flatMap MergeConflict.categories).filter (· ∈ protectedMergeKeys)) := by
    rw [mem_sortedSet_id]
    exact List.mem_filter.mpr ⟨List.mem_flatMap.mpr ⟨conflict, hconflict, hcategory⟩, decide_eq_true hprotected⟩
  rw [requiredReviewCategories, if_pos (List.ne_nil_of_mem hfound)]
  exact hfound

theorem requiredReviewCategories_unprotected {conflicts : List MergeConflict} (hconflicts : conflicts ≠ [])
    (h : ∀ conflict ∈ conflicts, ∀ category ∈ conflict.categories, category ∉ protectedMergeKeys) :
    requiredReviewCategories conflicts = ["semantic_conflict"] := by
  have hnone : (conflicts.flatMap MergeConflict.categories).filter (· ∈ protectedMergeKeys) = [] := by
    rw [List.filter_eq_nil_iff]
    intro category hcategory
    obtain ⟨conflict, hconflict, hmem⟩ := List.mem_flatMap.mp hcategory
    simpa using h conflict hconflict category hmem
  have hempty : sortedSet (id : String → String) [] = [] := rfl
  rw [requiredReviewCategories, hnone, hempty, if_neg (not_not.mpr rfl), if_pos hconflicts]

end Spec

section Items

inductive ItemKind where
  | entity | representation

def ItemKind.key : ItemKind → String
  | .entity => "entities"
  | .representation => "representations"

def ItemKind.idKey : ItemKind → String
  | .entity => "entity_id"
  | .representation => "binding_id"

def hasId (idKey id : String) : Json → Bool
  | .obj fields => match Dict.get fields idKey with
    | .str text => text = id
    | _ => false
  | _ => false

/-- The item of a snapshot with the identifier, `None` if it has none. -/
def item (kind : ItemKind) (id : String) (snapshot : Dict) : Json :=
  match snapshot.get kind.key with
  | .arr items => (items.find? (hasId kind.idKey id)).getD .null
  | _ => .null

/-- One side has added, changed or removed the item since the base and the other has left it alone. -/
def ChangedAlone (base side other : Dict) (kind : ItemKind) (id : String) : Prop :=
  (item kind id other).pyEq (item kind id base) = true ∧ (item kind id side).pyEq (item kind id base) = false

variable {kind : ItemKind} {id idKey : String}

theorem hasId_iff {v : Json} : hasId idKey id v = true ↔
    ∃ fields : Dict, v = .obj fields ∧ fields.lookup idKey = some (.str id) := by
  cases v with
  | null | bool | num | str | arr => simp [hasId]
  | obj fields =>
    cases hid : fields.lookup idKey with
    | none => simp [hasId, Dict.get, hid]
    | some value => cases value <;> simp [hasId, Dict.get, hid]

theorem hasId_of_pyEq {v w : Json} (hv : v.Distinct) (hw : w.Distinct) (h : v.pyEq w = true)
    (hid : hasId idKey id v = true) : hasId idKey id w = true := by
  obtain ⟨fs, rfl, hfs⟩ := hasId_iff.mp hid
  cases w with
  | null | bool | num | str | arr => simp [Json.pyEq, Json.scalarEq, Json.rat?] at h
  | obj gs =>
    obtain ⟨hkeys, hvalues⟩ := (Json.pyEq_obj_iff hv.keys hw.keys).mp h
    obtain ⟨value, hvalue⟩ := Json.mem_keys_iff.mp ((hkeys idKey).mp (Json.mem_keys_iff.mpr ⟨_, hfs⟩))
    have heq := hvalues idKey _ _ hfs hvalue
    rw [Json.pyEq_scalar rfl, Json.scalarEq_iff] at heq
    rcases heq with ⟨hnull, _⟩ | ⟨text, htext, hsame⟩ | ⟨q, hq, _⟩
    · cases hnull
    · cases htext
      exact hasId_iff.mpr ⟨gs, rfl, hsame ▸ hvalue⟩
    · cases hq

theorem hasId_pyEq {v w : Json} (hv : v.Distinct) (hw : w.Distinct) (h : v.pyEq w = true) :
    hasId idKey id v = hasId idKey id w := by
  rw [Bool.eq_iff_iff]
  exact ⟨hasId_of_pyEq hv hw h, hasId_of_pyEq hw hv (Json.pyEq_symm hv hw h)⟩

theorem find?_pyEq {xs ys : List Json} (hxs : ∀ v ∈ xs, v.Distinct) (hys : ∀ v ∈ ys, v.Distinct)
    (h : List.Forall₂ (fun x y => Json.pyEq x y = true) xs ys) :
    ((xs.find? (hasId idKey id)).getD .null).pyEq ((ys.find? (hasId idKey id)).getD .null) = true := by
  induction h with
  | nil => rfl
  | @cons x y xs ys hxy _ ih =>
    have hsame := @hasId_pyEq id idKey x y (hxs x (by simp)) (hys y (by simp)) hxy
    cases hid : hasId idKey id x with
    | true => rwa [List.find?_cons_of_pos hid, List.find?_cons_of_pos (hsame ▸ hid)]
    | false =>
      rw [List.find?_cons_of_neg (by simp [hid]), List.find?_cons_of_neg (by simp [← hsame, hid])]
      exact ih (fun v hv => hxs v (by simp [hv])) (fun v hv => hys v (by simp [hv]))

theorem arr_of_pyEq {xs : List Json} {y : Json} (h : Json.pyEq (.arr xs) y = true) : ∃ ys, y = .arr ys := by
  cases y with
  | arr ys => exact ⟨ys, rfl⟩
  | null | bool | num | str | obj => simp [Json.pyEq, Json.scalarEq, Json.rat?] at h

theorem item_of_not_arr {s : Dict} (h : ∀ items, s.get kind.key ≠ .arr items) : item kind id s = .null := by
  rw [item]
  split
  · rename_i items hitems
    exact absurd hitems (h items)
  · rfl

/-- Equal lists hold equal items. -/
theorem item_pyEq {s s' : Dict} (hs : (s.get kind.key).Distinct) (hs' : (s'.get kind.key).Distinct)
    (h : (s.get kind.key).pyEq (s'.get kind.key) = true) : (item kind id s).pyEq (item kind id s') = true := by
  by_cases harr : ∃ xs, s.get kind.key = .arr xs
  · obtain ⟨xs, hxs⟩ := harr
    rw [hxs] at h hs
    obtain ⟨ys, hys⟩ := arr_of_pyEq h
    rw [hys] at h hs'
    simp only [item, hxs, hys]
    exact find?_pyEq hs.items hs'.items (Json.pyEq_arr.mp h)
  · have hnot : ∀ ys, s'.get kind.key ≠ .arr ys := by
      intro ys hys
      have hsymm := Json.pyEq_symm hs hs' h
      rw [hys] at hsymm
      exact harr (arr_of_pyEq hsymm)
    rw [item_of_not_arr fun xs hxs => harr ⟨xs, hxs⟩, item_of_not_arr hnot]
    rfl

theorem distinct_item {s : Dict} (hs : (s.get kind.key).Distinct) : (item kind id s).Distinct := by
  rw [item]
  split
  · rename_i items hitems
    rw [hitems] at hs
    cases hfind : items.find? (hasId kind.idKey id) with
    | none => simp [Json.Distinct]
    | some v => exact hs.items v (List.mem_of_find?_eq_some hfind)
  · simp [Json.Distinct]

theorem find?_entities {E : Dict} (hE : EntityDict E) :
    ((E.map Prod.snd).find? (hasId "entity_id" id)).getD .null = E.get id := by
  have hhas : ∀ p ∈ E, hasId "entity_id" id p.2 = true ↔ p.1 = id := by
    intro p hp
    obtain ⟨fields, hfields, hlookup⟩ := hE.items p hp
    rw [hasId_iff, hfields]
    constructor
    · rintro ⟨fields', heq, hid⟩
      cases heq
      rw [hlookup, Option.some.injEq, Json.str.injEq] at hid
      exact hid
    · intro hid
      exact ⟨fields, rfl, hid ▸ hlookup⟩
  by_cases hid : id ∈ E.map Prod.fst
  · have hmem := hE.get_mem hid
    cases hfind : (E.map Prod.snd).find? (hasId "entity_id" id) with
    | none =>
      have hnone := List.find?_eq_none.mp hfind _ (List.mem_map_of_mem (f := Prod.snd) hmem)
      exact absurd ((hhas _ hmem).mpr rfl) hnone
    | some v =>
      obtain ⟨p, hp, rfl⟩ := List.mem_map.mp (List.mem_of_find?_eq_some hfind)
      obtain rfl := (hhas p hp).mp (List.find?_some hfind)
      have hlookup := (lookup_eq_some_iff_mem hE.nodup p.1 p.2).mpr hp
      rw [Dict.get, hlookup, Option.getD_some]
  · have hnone : (E.map Prod.snd).find? (hasId "entity_id" id) = none := by
      rw [List.find?_eq_none]
      intro v hv hhasId
      obtain ⟨p, hp, rfl⟩ := List.mem_map.mp hv
      exact hid ((hhas p hp).mp hhasId ▸ List.mem_map_of_mem (f := Prod.fst) hp)
    rw [hnone, Dict.get_of_not_mem hid, Option.getD_none]

theorem item_entity {s E : Dict} (h : WellFormed s E) : item .entity id s = E.get id := by
  have hget : s.get ItemKind.entity.key = .arr (E.map Prod.snd) := by
    rw [ItemKind.key, Dict.get, h.lookup, Option.getD_some]
  rw [item, hget]
  exact find?_entities h.dict

end Items

section Kept
variable {b l r B L R : Dict} {kind : ItemKind} {id : String}

/-- Which side an agreed value comes from. -/
theorem mergeValue_agreed {b x y : Json} (h : (mergeValue b x y).2 = false) :
    (mergeValue b x y).1 = x ∧ (x.pyEq y = true ∨ y.pyEq b = true) ∨ (mergeValue b x y).1 = y ∧ x.pyEq b = true := by
  unfold mergeValue at h ⊢
  split at h
  · rename_i hxy
    simp [hxy]
  · rename_i hxy
    split at h
    · rename_i hxb
      simp [hxy, hxb]
    · rename_i hxb
      split at h
      · rename_i hyb
        simp [hxy, hxb, hyb]
      · cases h

/-- In a merge without conflicts the item of every kind comes from one of the sides, and then either both
sides have it alike or the other has left it alone. -/
theorem item_agreed (hb : WellFormed b B) (hl : WellFormed l L) (hr : WellFormed r R)
    (hentities : entityConflicts B L R = []) (htop : topLevelConflicts b l r = []) (kind : ItemKind) (id : String) :
    item kind id (mergedSnapshot b l r B L R) = item kind id l ∧
        ((item kind id l).pyEq (item kind id r) = true ∨ (item kind id r).pyEq (item kind id b) = true) ∨
      item kind id (mergedSnapshot b l r B L R) = item kind id r ∧ (item kind id l).pyEq (item kind id b) = true := by
  cases kind with
  | entity =>
    rw [item_entity (hb.merge hl hr), item_entity hb, item_entity hl, item_entity hr,
      get_mergeEntities hl.dict hr.dict]
    apply mergeValue_agreed
    by_cases hid : id ∈ mergeKeys B L R
    · exact entityConflicts_eq_nil.mp hentities id hid
    · rw [mem_mergeKeys] at hid
      push Not at hid
      rw [Dict.get_of_not_mem hid.1, Dict.get_of_not_mem hid.2.1, Dict.get_of_not_mem hid.2.2]
      rfl
  | representation =>
    have hne : ItemKind.representation.key ≠ "entities" := by decide
    have hvalue := @get_mergedSnapshot b l r B L R ItemKind.representation.key hne
    have hclean : (mergeValue (b.get ItemKind.representation.key) (l.get ItemKind.representation.key)
        (r.get ItemKind.representation.key)).2 = false := by
      by_cases hmem : ItemKind.representation.key ∈ mergeKeys b l r
      · exact topLevelConflicts_eq_nil.mp htop _ (List.mem_filter.mpr ⟨hmem, decide_eq_true hne⟩)
      · rw [mem_mergeKeys] at hmem
        push Not at hmem
        rw [Dict.get_of_not_mem hmem.1, Dict.get_of_not_mem hmem.2.1, Dict.get_of_not_mem hmem.2.2]
        rfl
    have hdistinct := hb.get_distinct ItemKind.representation.key
    have hleft := hl.get_distinct ItemKind.representation.key
    have hright := hr.get_distinct ItemKind.representation.key
    rcases mergeValue_agreed hclean with ⟨htaken, hsame⟩ | ⟨htaken, hsame⟩
    · refine .inl ⟨?_, hsame.imp (item_pyEq hleft hright) (item_pyEq hright hdistinct)⟩
      rw [item, item, hvalue, htaken]
    · refine .inr ⟨?_, item_pyEq hleft hdistinct hsame⟩
      rw [item, item, hvalue, htaken]

/-- Without conflicts every change that one side alone has made is in the merge. -/
theorem item_merged (hb : WellFormed b B) (hl : WellFormed l L) (hr : WellFormed r R)
    (hentities : entityConflicts B L R = []) (htop : topLevelConflicts b l r = []) :
    (ChangedAlone b l r kind id → (item kind id (mergedSnapshot b l r B L R)).pyEq (item kind id l) = true) ∧
    (ChangedAlone b r l kind id → (item kind id (mergedSnapshot b l r B L R)).pyEq (item kind id r) = true) := by
  have hdb : (item kind id b).Distinct := distinct_item (hb.get_distinct _)
  have hdl : (item kind id l).Distinct := distinct_item (hl.get_distinct _)
  have hdr : (item kind id r).Distinct := distinct_item (hr.get_distinct _)
  have hagreed := item_agreed hb hl hr hentities htop kind id
  constructor
  · rintro ⟨_, hchanged⟩
    rcases hagreed with ⟨htaken, _⟩ | ⟨_, hsame⟩
    · rw [htaken]
      exact Json.pyEq_refl hdl
    · rw [hsame] at hchanged
      cases hchanged
  · rintro ⟨hleft, hchanged⟩
    rcases hagreed with ⟨_, hsame | hsame⟩ | ⟨htaken, _⟩
    · have hback := Json.pyEq_trans hdr hdl hdb (Json.pyEq_symm hdl hdr hsame) hleft
      rw [hback] at hchanged
      cases hchanged
    · rw [hsame] at hchanged
      cases hchanged
    · rw [htaken]
      exact Json.pyEq_refl hdr

end Kept

section Published
open SceneService

/-- Every commit carries a snapshot that the service has produced. -/
def Recorded (py : PyText) (db : SceneStore) : Prop :=
  ∀ row ∈ db.commits.rows, Produced py row.semanticSnapshotJson

/-- A published merge has every change that the target alone has made. It has every change that the source
alone has made exactly when no conflict was reported, or the source alone has changed nothing. -/
theorem merged_keeps_changes (svc : AuditService) (py : PyText) {db db' : SceneStore} {stamp : CommitStamp}
    {req : MergeRequest} {row : SceneCommitRow} (hdb : Recorded py db)
    (h : mergeBranches svc py db stamp req = .ok (.merged row, db')) :
    ∃ inputs merged conflicts, mergeRead db req = .ok inputs ∧
      semanticMerge py inputs.base.semanticSnapshotJson inputs.left.semanticSnapshotJson
        inputs.right.semanticSnapshotJson = .ok (merged, conflicts) ∧
      (∀ kind id, ChangedAlone inputs.base.semanticSnapshotJson inputs.left.semanticSnapshotJson
          inputs.right.semanticSnapshotJson kind id →
        (item kind id row.semanticSnapshotJson).pyEq (item kind id inputs.left.semanticSnapshotJson) = true) ∧
      ((∀ kind id, ChangedAlone inputs.base.semanticSnapshotJson inputs.right.semanticSnapshotJson
          inputs.left.semanticSnapshotJson kind id →
        (item kind id row.semanticSnapshotJson).pyEq (item kind id inputs.right.semanticSnapshotJson) = true) ↔
      conflicts = [] ∨ ∀ kind id, ¬ ChangedAlone inputs.base.semanticSnapshotJson inputs.right.semanticSnapshotJson
          inputs.left.semanticSnapshotJson kind id) := by
  obtain ⟨inputs, merged, conflicts, hread, hmerge, _, hrow, _⟩ := mergeBranches_merged h
  refine ⟨inputs, merged, conflicts, hread, hmerge, ?_⟩
  obtain ⟨hbase, hleft, hright⟩ := mergeRead_ok hread
  obtain ⟨B, hb⟩ := (hdb _ hbase).wellFormed
  obtain ⟨L, hl⟩ := (hdb _ hleft).wellFormed
  obtain ⟨R, hr⟩ := (hdb _ hright).wellFormed
  rw [semanticMerge_eq py hb hl hr, Except.ok.injEq, Prod.mk.injEq] at hmerge
  obtain ⟨rfl, rfl⟩ := hmerge
  by_cases hclean : entityConflicts B L R ++ topLevelConflicts inputs.base.semanticSnapshotJson
      inputs.left.semanticSnapshotJson inputs.right.semanticSnapshotJson = []
  · have hsnapshot : row.semanticSnapshotJson = mergedSnapshot inputs.base.semanticSnapshotJson
        inputs.left.semanticSnapshotJson inputs.right.semanticSnapshotJson B L R := by
      rw [hrow, mergeRow, if_neg (not_not.mpr hclean)]
    obtain ⟨hentities, htop⟩ := List.append_eq_nil_iff.mp hclean
    rw [hsnapshot]
    refine ⟨fun kind id => (item_merged hb hl hr hentities htop).1, ?_⟩
    exact ⟨fun _ => .inl hclean, fun _ kind id => (item_merged hb hl hr hentities htop).2⟩
  · have hsnapshot : row.semanticSnapshotJson = inputs.left.semanticSnapshotJson := by
      rw [hrow, mergeRow, if_pos hclean]
    have hdistinct : ∀ kind id, (item kind id inputs.left.semanticSnapshotJson).Distinct :=
      fun kind id => distinct_item (hl.get_distinct _)
    rw [hsnapshot]
    refine ⟨fun kind id _ => Json.pyEq_refl (hdistinct kind id), ?_⟩
    constructor
    · intro hkept
      refine .inr fun kind id hchanged => ?_
      -- the target has the item as in the base, so it cannot also have it as in the source
      have hsame := Json.pyEq_symm (hdistinct kind id) (distinct_item (hr.get_distinct _)) (hkept kind id hchanged)
      have hback := Json.pyEq_trans (distinct_item (hr.get_distinct _)) (hdistinct kind id)
        (distinct_item (hb.get_distinct _)) hsame hchanged.1
      rw [hchanged.2] at hback
      cases hback
    · rintro (hnone | hnone)
      · exact absurd hnone hclean
      · exact fun kind id hchanged => absurd hchanged (hnone kind id)

end Published

section Recording
open SceneService
variable {svc : AuditService} {py : PyText} {db db' : SceneStore} {stamp : CommitStamp} {req : MergeRequest}
  {inputs : MergeInputs} {merged snapshot : Dict} {conflicts : List MergeConflict}

theorem forbidden_mergePayload (row : SceneCommitRow) :
    ∀ p ∈ mergePayload req conflicts row, forbidden p.1 = false := by
  have hall : ["scene_id", "commit_id", "parent_ids", "snapshot_hash", "merge_base", "conflict_count"].all
      (fun key => forbidden key = false) = true := by decide
  intro p hp
  have hkey : p.1 ∈ ["scene_id", "commit_id", "parent_ids", "snapshot_hash", "merge_base", "conflict_count"] :=
    List.mem_map_of_mem (f := Prod.fst) hp
  simpa using List.all_eq_true.mp hall p.1 hkey

/-- The identifiers fit their columns, and the conflicts can be counted. -/
theorem validatePayload_merge {row : SceneCommitRow} {left right : String} {value : Json}
    (hscene : req.sceneId.toList.length ≤ 64) (hcommit : row.commitId.toList.length ≤ 64)
    (hbase : req.baseCommitId.toList.length ≤ 64) (hparents : row.parentIdsJson = [left, right])
    (hleft : left.toList.length ≤ 64) (hright : right.toList.length ≤ 64)
    (hhash : row.snapshotHash = canonicalSha256 value) (hconflicts : conflicts.length < 2 ^ 63) :
    validatePayload (mergePayload req conflicts row) = .ok () := by
  apply validatePayload_of_permitted
  · intro p hp
    refine ⟨forbidden_mergePayload row p hp, ?_⟩
    have hlist : row.parentIdsJson.length ≤ 256 := by simp [hparents]
    simp only [mergePayload, List.mem_cons, List.not_mem_nil, or_false] at hp
    rcases hp with rfl | rfl | rfl | rfl | rfl | rfl
    · exact @permitted_scalar (.str _) trivial
    · exact @permitted_scalar (.str _) trivial
    · exact ⟨normalize_texts _, fun path => walk_texts path hlist⟩
    · exact @permitted_scalar (.str _) trivial
    · exact @permitted_scalar (.str _) trivial
    · exact @permitted_scalar (.int _) trivial
  · have h₁ := fieldSize_str_le "scene_id" req.sceneId
    have h₂ := fieldSize_str_le "commit_id" row.commitId
    have h₃ := fieldSize_texts_le "parent_ids" row.parentIdsJson
    have h₄ := fieldSize_str_le "snapshot_hash" row.snapshotHash
    have h₅ := fieldSize_str_le "merge_base" req.baseCommitId
    have h₆ := @fieldSize_int_le "conflict_count" conflicts.length hconflicts
    have hkeys : (stringText "scene_id").length + (stringText "commit_id").length + (stringText "parent_ids").length +
        (stringText "snapshot_hash").length + (stringText "merge_base").length +
        (stringText "conflict_count").length = 76 := by decide
    have hlen : row.snapshotHash.toList.length = 64 := by rw [hhash, length_canonicalSha256]
    rw [hparents] at h₃
    simp only [List.map_cons, List.map_nil, List.sum_cons, List.sum_nil] at h₃
    simp only [mergePayload, hparents, List.map_cons, List.map_nil, List.sum_cons, List.sum_nil]
    omega

/-- The write goes through for a new commit whose audit entry is accepted. -/
theorem mergeWrite_of_append (hfresh : db.commits.get? stamp.commitId = none) (hscene : req.sceneId.toList.length ≤ 64)
    (hcommit : stamp.commitId.toList.length ≤ 64) (hbase : req.baseCommitId.toList.length ≤ 64)
    (hleft : inputs.left.commitId.toList.length ≤ 64) (hright : inputs.right.commitId.toList.length ≤ 64)
    (hconflicts : conflicts.length < 2 ^ 63) {log : AuditLog}
    (hlog : svc.append db.audit stamp.now stamp.auditId
      (mergeAudit req conflicts (mergeRow stamp req inputs conflicts snapshot)) = .ok log) :
    ∃ db', mergeWrite svc db stamp req inputs conflicts snapshot = .ok db' := by
  have hpayload : validatePayload (mergePayload req conflicts (mergeRow stamp req inputs conflicts snapshot)) = .ok () :=
    @validatePayload_merge req conflicts (mergeRow stamp req inputs conflicts snapshot) inputs.left.commitId
      inputs.right.commitId (.obj snapshot) hscene hcommit hbase rfl hleft hright rfl hconflicts
  obtain ⟨inserted, hinsert⟩ := @insertCommit_total db (mergeRow stamp req inputs conflicts snapshot) hfresh rfl
  have hstore : inserted.audit = db.audit := by
    obtain ⟨commits, _, rfl⟩ := insertCommit_ok hinsert
    rfl
  obtain ⟨event, hemit⟩ := Store.emit_total (setHead inserted inputs.target stamp.commitId).toStore stamp.toStamp
    rfl rfl rfl (r := mergeEvent req conflicts (mergeRow stamp req inputs conflicts snapshot)) hpayload
  have hrecord := @Store.record_of_append svc ({ (setHead inserted inputs.target stamp.commitId).toStore with
      outbox := inserted.outbox ++ [event] } : Store) stamp.toStamp _ log (hstore ▸ hlog)
  simp only [mergeWrite, bind_eq_ok]
  exact ⟨_, inserted, hinsert, _, hemit, _, hrecord, rfl⟩

theorem mergeBranches_published (hread : mergeRead db req = .ok inputs)
    (hmerge : semanticMerge py inputs.base.semanticSnapshotJson inputs.left.semanticSnapshotJson
      inputs.right.semanticSnapshotJson = .ok (merged, conflicts)) (hconflicts : conflicts ≠ [])
    (hreviewed : ∀ category ∈ requiredReviewCategories conflicts, category ∈ approved req)
    (hwrite : mergeWrite svc db stamp req inputs conflicts inputs.left.semanticSnapshotJson = .ok db') :
    mergeBranches svc py db stamp req =
      .ok (.merged (mergeRow stamp req inputs conflicts inputs.left.semanticSnapshotJson), db') := by
  have hnone : (requiredReviewCategories conflicts).filter (· ∉ approved req) = [] := by
    rw [List.filter_eq_nil_iff]
    intro category hcategory
    simpa using hreviewed category hcategory
  have hempty : sortedSet (id : String → String) [] = [] := rfl
  have hdecide : mergeDecide py req inputs = .ok (.publish conflicts inputs.left.semanticSnapshotJson) := by
    simp only [mergeDecide, hmerge, hnone, hempty, bind, Except.bind]
    rw [if_neg (fun h => h.2 rfl), if_pos hconflicts]
    rfl
  simp only [mergeBranches, bind_eq_ok]
  exact ⟨inputs, hread, _, hdecide, bind_eq_ok.mpr ⟨db', hwrite, rfl⟩⟩

end Recording

section Sample
open SceneService

def binding (bindingId : String) : RepresentationBindingRow where
  bindingId := bindingId
  tenantId := "t1"
  projectId := "p1"
  sceneId := "s1"
  representationId := "r1"
  role := "visual"
  coordinateFrameId := "f1"
  transformJson := .obj []
  authorityClass := "reference"
  authorityCeiling := "reference"
  intendedUsesJson := []
  audiencePolicyJson := []

/-- The tables when the target commits, and when the source does. -/
def targetTables : SceneStore := { SceneStore.empty with bindings := ⟨[binding "b1"], by decide⟩ }

def sourceTables : SceneStore := { SceneStore.empty with
  bindings := ⟨[binding "b1", binding "b2"], by decide⟩
  entities := ⟨[door], by decide⟩ }

def commitOf (commitId branch : String) (snapshot : Dict) : SceneCommitRow where
  commitId := commitId
  tenantId := "t1"
  projectId := "p1"
  sceneId := "s1"
  branch := branch
  parentIdsJson := ["c0"]
  message := "m"
  semanticSnapshotJson := snapshot
  snapshotHash := canonicalSha256 (.obj snapshot)
  rootManifestHash := canonicalSha256 (.obj snapshot)
  recordedAt := 0
  createdBy := "ana"

def targetHead : SceneCommitRow := commitOf "c1" "main" (renderSnapshot targetTables mainBranch)

def sourceHead : SceneCommitRow := commitOf "c2" "feature" (renderSnapshot sourceTables mainBranch)

/-- Both branches start from the initial commit; the target has bound a representation, the source has bound
another one as well and added a door. -/
def divergedScene : SceneStore := { sourceTables with
  projects := .single ⟨"p1", "t1", "internal", "active"⟩
  commits := ⟨[initialCommit, targetHead, sourceHead], by decide⟩
  branches := ⟨[{ mainRow with headCommitId := "c1" }, ⟨"b2", "t1", "p1", "s1", "feature", "c2", false⟩], by decide⟩ }

def mergeFeature : MergeRequest where
  tenantId := "t1"
  projectId := "p1"
  sceneId := "s1"
  targetBranch := "main"
  sourceBranch := "feature"
  baseCommitId := "c0"
  actorId := "ana"
  message := "m"
  approvedReviewCategories := some ["semantic_conflict"]

def divergedInputs : MergeInputs := ⟨{ mainRow with headCommitId := "c1" }, initialCommit, targetHead, sourceHead⟩

theorem ancestorIds_visit {db : SceneStore} {visited rest : List String} {row : SceneCommitRow}
    (hnew : row.commitId ∉ visited) (hrow : db.commits.get? row.commitId = some row) :
    ancestorIds db visited (row.commitId :: rest) = ancestorIds db (row.commitId :: visited)
      ((row.parentIdsJson.filter (· ∉ row.commitId :: visited)).reverse ++ rest) := by
  rw [ancestorIds, dif_neg hnew]
  split
  · rename_i hnone
    rw [hrow] at hnone
    cases hnone
  · rename_i found hfound
    rw [hrow, Option.some.injEq] at hfound
    rw [hfound]

theorem ancestorIds_ofInitial {row : SceneCommitRow} (hrow : divergedScene.commits.get? row.commitId = some row)
    (hparents : row.parentIdsJson = ["c0"]) (hne : "c0" ≠ row.commitId) :
    ancestorIds divergedScene [] [row.commitId] = .ok ["c0", row.commitId] := by
  have hinitial : "c0" ∉ [row.commitId] := by simpa using hne
  have hfilter : (["c0"].filter (· ∉ [row.commitId])).reverse ++ [] = ["c0"] := by simp [hne]
  have hfound : divergedScene.commits.get? initialCommit.commitId = some initialCommit := rfl
  rw [ancestorIds_visit List.not_mem_nil hrow, hparents, hfilter]
  exact (@ancestorIds_visit divergedScene [row.commitId] [] initialCommit hinitial hfound).trans (by
    rw [show initialCommit.parentIdsJson = [] from rfl, List.filter_nil, List.reverse_nil, List.nil_append, ancestorIds]
    rfl)

theorem mergeRead_diverged : mergeRead divergedScene mergeFeature = .ok divergedInputs := by
  simp only [mergeRead, mergeTarget, mergeSource, mergeLoad, mergeInput, bind_eq_ok, orRaise_eq_ok, raiseIf_eq_ok]
  exact ⟨_, rfl, _, rfl, initialCommit, rfl, targetHead, rfl, sourceHead, rfl, (), by decide,
    _, @ancestorIds_ofInitial targetHead rfl rfl (by decide), (), by decide,
    _, @ancestorIds_ofInitial sourceHead rfl rfl (by decide), (), by decide, rfl⟩

theorem recorded_diverged : Recorded plainText divergedScene := by
  have htarget : DistinctRows targetTables := by
    refine ⟨nofun, ?_⟩
    intro row hrow
    rw [List.mem_singleton.mp hrow]
    simp [binding, Json.Distinct, Json.DistinctFields]
  have hsource : DistinctRows sourceTables := by
    constructor
    · intro row hrow
      rw [List.mem_singleton.mp hrow]
      simp [door, Json.Distinct, Json.DistinctFields]
    · intro row hrow
      rcases List.mem_cons.mp hrow with rfl | hrow
      · simp [binding, Json.Distinct, Json.DistinctFields]
      · rw [List.mem_singleton.mp hrow]
        simp [binding, Json.Distinct, Json.DistinctFields]
  intro row hrow
  simp only [divergedScene, List.mem_cons, List.not_mem_nil, or_false] at hrow
  rcases hrow with rfl | rfl | rfl
  · exact .created "s1" "Hall"
  · exact .committed targetTables mainBranch htarget
  · exact .committed sourceTables mainBranch hsource

/-- Both sides have changed the list of representations. -/
theorem semanticMerge_diverged : ∃ merged conflict, semanticMerge plainText initialCommit.semanticSnapshotJson
      targetHead.semanticSnapshotJson sourceHead.semanticSnapshotJson = .ok (merged, [conflict]) ∧
    conflict.categories = ["representation_binding"] :=
  ⟨_, _, rfl, rfl⟩

/-- The general approval publishes the merge, with the snapshot of the target. -/
theorem mergeBranches_diverged : ∃ row db' merged conflict,
    mergeBranches .zeroKey plainText divergedScene (stampOf "m1") mergeFeature = .ok (.merged row, db') ∧
    row.semanticSnapshotJson = targetHead.semanticSnapshotJson ∧
    semanticMerge plainText initialCommit.semanticSnapshotJson targetHead.semanticSnapshotJson
      sourceHead.semanticSnapshotJson = .ok (merged, [conflict]) ∧
    conflict.categories = ["representation_binding"] := by
  obtain ⟨merged, conflict, hmerge, hcategories⟩ := semanticMerge_diverged
  have hrequired : requiredReviewCategories [conflict] = ["semantic_conflict"] := by
    apply requiredReviewCategories_unprotected (List.cons_ne_nil _ _)
    intro other hother category hcategory
    rw [List.mem_singleton.mp hother, hcategories, List.mem_singleton] at hcategory
    rw [hcategory]
    decide
  obtain ⟨log, hlog⟩ := AuditService.append_empty .zeroKey 0 "a1" (mergeAudit mergeFeature [conflict]
    (mergeRow (stampOf "m1") mergeFeature divergedInputs [conflict] targetHead.semanticSnapshotJson))
  obtain ⟨db', hwrite⟩ := @mergeWrite_of_append .zeroKey divergedScene (stampOf "m1") mergeFeature divergedInputs
    targetHead.semanticSnapshotJson [conflict] rfl (by decide) (by decide) (by decide) (by decide) (by decide)
    (by simp) log hlog
  have hpublished := mergeBranches_published mergeRead_diverged hmerge (List.cons_ne_nil _ _)
    (by rw [hrequired]; decide) hwrite
  exact ⟨_, db', merged, conflict, hpublished, rfl, hmerge, hcategories⟩

theorem merged_keeps_changes_diverged : Recorded plainText divergedScene ∧ ∃ row db' inputs merged conflicts,
    mergeBranches .zeroKey plainText divergedScene (stampOf "m1") mergeFeature = .ok (.merged row, db') ∧
    mergeRead divergedScene mergeFeature = .ok inputs ∧
    semanticMerge plainText inputs.base.semanticSnapshotJson inputs.left.semanticSnapshotJson
      inputs.right.semanticSnapshotJson = .ok (merged, conflicts) ∧
    ∀ kind id, ChangedAlone inputs.base.semanticSnapshotJson inputs.left.semanticSnapshotJson
        inputs.right.semanticSnapshotJson kind id →
      (item kind id row.semanticSnapshotJson).pyEq (item kind id inputs.left.semanticSnapshotJson) = true := by
  obtain ⟨row, db', _, _, hpublished, _⟩ := mergeBranches_diverged
  obtain ⟨inputs, merged, conflicts, hread, hmerge, hkept, _⟩ :=
    merged_keeps_changes .zeroKey plainText recorded_diverged hpublished
  exact ⟨recorded_diverged, row, db', inputs, merged, conflicts, hpublished, hread, hmerge, hkept⟩

/-- The door that only the source has added is not in the published merge. -/
theorem merge_drops_added_door : ∃ row db',
    mergeBranches .zeroKey plainText divergedScene (stampOf "m1") mergeFeature = .ok (.merged row, db') ∧
    mergeRead divergedScene mergeFeature = .ok divergedInputs ∧
    item .entity "e1" initialCommit.semanticSnapshotJson = .null ∧
    item .entity "e1" targetHead.semanticSnapshotJson = .null ∧
    item .entity "e1" sourceHead.semanticSnapshotJson = renderEntity door ∧
    item .entity "e1" row.semanticSnapshotJson = .null := by
  obtain ⟨row, db', _, _, hpublished, hsnapshot, _⟩ := mergeBranches_diverged
  refine ⟨row, db', hpublished, mergeRead_diverged, rfl, rfl, rfl, ?_⟩
  rw [hsnapshot]
  rfl

end Sample

end SpatialDataService
end Sip
