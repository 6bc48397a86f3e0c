import Sip.Preservation.Export

/-!
# A written package verifies

The verification reads back what the export wrote: the documents come out with their keys
sorted, which no digest sees, and every listed file has its recorded digest. So nothing
but the sizes of the files can make it refuse the package.
-/

namespace Sip
namespace Preservation

set_option autoImplicit false

section Documents

theorem canonicalSha256_normalize (v : Json) : canonicalSha256 v.normalize = canonicalSha256 v := by
  rw [canonicalSha256, canonicalSha256, canonicalJson, canonicalJson, Json.normalize_normalize]

theorem distinct_str (s : String) : (Json.str s).Distinct := by simp [Json.Distinct]

theorem distinct_table (rows : List Row) : (table rows).Distinct := by
  apply Json.distinct_arr
  intro v hv
  obtain ⟨r, _, rfl⟩ := List.mem_map.mp hv
  exact r.distinct

theorem distinct_texts (texts : List String) : (Json.arr (texts.map .str)).Distinct := by
  apply Json.distinct_arr
  intro v hv
  obtain ⟨s, _, rfl⟩ := List.mem_map.mp hv
  exact distinct_str s

variable {named : List (String × List Row)}

theorem keys_tables : (tables named).map Prod.fst = named.map Prod.fst := by
  rw [tables, List.map_map]
  rfl

theorem keys_tableDigests : (tableDigests named).map Prod.fst = (sortBy Prod.fst named).map Prod.fst := by
  rw [tableDigests, List.map_map]
  rfl

theorem nodup_sortBy_names (h : (named.map Prod.fst).Nodup) : ((sortBy Prod.fst named).map Prod.fst).Nodup :=
  ((perm_sortBy Prod.fst named).map Prod.fst).nodup_iff.mpr h

theorem distinct_tables (h : (named.map Prod.fst).Nodup) : (Json.obj (tables named)).Distinct := by
  apply Json.distinct_obj
  · rw [keys_tables]
    exact h
  · intro p hp
    obtain ⟨⟨name, rows⟩, _, rfl⟩ := List.mem_map.mp hp
    exact distinct_table rows

theorem distinct_tableDigests (h : (named.map Prod.fst).Nodup) : (Json.obj (tableDigests named)).Distinct := by
  apply Json.distinct_obj
  · rw [keys_tableDigests]
    exact nodup_sortBy_names h
  · intro p hp
    obtain ⟨⟨name, rows⟩, _, rfl⟩ := List.mem_map.mp hp
    exact distinct_str _

theorem distinct_archivedDocument (h : (named.map Prod.fst).Nodup) : (Json.obj (archivedDocument named)).Distinct := by
  have htables := distinct_tables h
  have hdigests := distinct_tableDigests h
  apply Json.distinct_obj
  · simp [archivedDocument]
  · simp only [archivedDocument, List.mem_cons, List.not_mem_nil, or_false, forall_eq_or_imp, forall_eq]
    exact ⟨distinct_str _, distinct_str _, htables, hdigests⟩

theorem distinct_governanceDocument (h : (named.map Prod.fst).Nodup) : (Json.obj (governanceDocument named)).Distinct := by
  have htables := distinct_tables h
  have hdigests := distinct_tableDigests h
  apply Json.distinct_obj
  · simp [governanceDocument]
  · simp only [governanceDocument, List.mem_cons, List.not_mem_nil, or_false, forall_eq_or_imp, forall_eq]
    exact ⟨distinct_str _, distinct_str _, htables, hdigests⟩

/-- A snapshot as `takeSnapshot` makes it. -/
structure Readable (s : Snapshot) : Prop where
  native : (s.native.map Prod.fst).Nodup
  archived : (s.archived.map Prod.fst).Nodup
  governance : (s.governance.map Prod.fst).Nodup
  provenance : ∀ entry ∈ s.assets, (Json.obj entry.1.provenanceJson).Distinct
  digest : ∀ entry ∈ s.assets, sha256Hex entry.2.2 = entry.1.sha256

theorem distinct_serializeRef {ref : AssetRefRow} (h : (Json.obj ref.provenanceJson).Distinct) :
    (Json.obj (serializeRef ref)).Distinct := by
  apply Json.distinct_obj
  · simp [serializeRef]
  · have htombstone : (Json.ofOption (ref.tombstonedAt.map columnIso)).Distinct := by
      cases ref.tombstonedAt <;> simp [Json.ofOption, Json.Distinct]
    simp only [serializeRef, List.mem_cons, List.not_mem_nil, or_false, forall_eq_or_imp, forall_eq]
    rw [Json.Distinct] at h
    simp [Json.Distinct, htombstone, h]

theorem distinct_assetManifest {entry : AssetRefRow × AssetRow × Bytes} (h : (Json.obj entry.1.provenanceJson).Distinct) :
    (Snapshot.assetManifest entry).Distinct := by
  have hobject : (Json.obj (portableAssetObject entry.2.1)).Distinct := by
    simp [portableAssetObject, Json.Distinct, Json.DistinctFields]
  apply Json.distinct_obj
  · simp
  · simp only [List.mem_cons, List.not_mem_nil, or_false, forall_eq_or_imp, forall_eq]
    exact ⟨distinct_serializeRef h, hobject⟩

theorem nodup_metadata (s : Snapshot) (now : Nat) (actorId : String) : ((s.metadata now actorId).map Prod.fst).Nodup := by
  simp [Snapshot.metadata]

theorem distinct_metadata {s : Snapshot} (h : Readable s) (now : Nat) (actorId : String) :
    (Json.obj (s.metadata now actorId)).Distinct := by
  have hassets : (Json.arr (s.assets.map Snapshot.assetManifest)).Distinct := by
    apply Json.distinct_arr
    intro v hv
    obtain ⟨entry, hentry, rfl⟩ := List.mem_map.mp hv
    exact distinct_assetManifest (h.provenance entry hentry)
  have hdescriptor : ∀ (path : List String) (named : List (String × List Row)) (rest : Dict),
      (named.map Prod.fst).Nodup → (∀ p ∈ rest, p.2.Distinct) →
      (([("path", Json.str (joinPath path)), ("tables", tableNames named), ("table_digests", .obj (tableDigests named))] ++
        rest).map Prod.fst).Nodup →
      (Json.obj ([("path", .str (joinPath path)), ("tables", tableNames named),
        ("table_digests", .obj (tableDigests named))] ++ rest)).Distinct := by
    intro path named rest hnamed hrest hkeys
    apply Json.distinct_obj hkeys
    intro p hp
    rcases List.mem_append.mp hp with hp | hp
    · simp only [List.mem_cons, List.not_mem_nil, or_false] at hp
      rcases hp with rfl | rfl | rfl
      · exact distinct_str _
      · exact distinct_texts _
      · exact distinct_tableDigests hnamed
    · exact hrest p hp
  have harchived := hdescriptor archivedPath s.archived [] h.archived (by simp) (by simp)
  have hgovernance := hdescriptor governancePath s.governance [("automatically_activated", .bool false)] h.governance
    (by simp [Json.Distinct]) (by simp)
  have hpolicy : (Json.obj restorePolicy).Distinct := by simp [restorePolicy, Json.Distinct, Json.DistinctFields]
  have hrules : (Json.obj truthRules).Distinct := by simp [truthRules, Json.Distinct, Json.DistinctFields]
  apply Json.distinct_obj (nodup_metadata s now actorId)
  simp only [Snapshot.metadata, List.mem_cons, List.not_mem_nil, or_false, forall_eq_or_imp, forall_eq]
  exact ⟨distinct_str _, distinct_str _, distinct_str _, distinct_str _, distinct_str _, s.tenant.distinct, s.project.distinct,
    hassets, distinct_tables h.native, distinct_texts _, distinct_tableDigests h.native, harchived, hgovernance, hpolicy,
    hrules⟩

theorem distinct_manifest (listed : List (List String × Bytes)) : (Json.obj (manifest listed)).Distinct := by
  have hfiles : (Json.arr ((sortBy toLex (listed.map fileEntry)).map fun entry =>
      Json.obj [("path", .str entry.1), ("sha256", .str entry.2)])).Distinct := by
    apply Json.distinct_arr
    intro v hv
    obtain ⟨entry, _, rfl⟩ := List.mem_map.mp hv
    simp [Json.Distinct, Json.DistinctFields]
  apply Json.distinct_obj
  · simp [manifest]
  · simp only [manifest, List.mem_cons, List.not_mem_nil, or_false, forall_eq_or_imp, forall_eq]
    exact ⟨distinct_str _, distinct_str _, hfiles, distinct_str _⟩

end Documents

section Files
variable {s : Snapshot}

theorem mem_objectFiles {entries : List (AssetRefRow × AssetRow × Bytes)} {file : List String × Bytes}
    (h : file ∈ Snapshot.objectFiles entries) : ∃ entry ∈ entries, file = (["objects", entry.1.sha256], entry.2.2) := by
  induction entries with
  | nil => cases h
  | cons entry entries ih =>
    rw [Snapshot.objectFiles] at h
    rcases List.mem_cons.mp h with rfl | h
    · exact ⟨entry, List.mem_cons_self, rfl⟩
    · obtain ⟨other, hother, hfile⟩ := ih (List.mem_filter.mp h).1
      exact ⟨other, List.mem_cons_of_mem _ hother, hfile⟩

theorem nodup_objectFiles (entries : List (AssetRefRow × AssetRow × Bytes)) :
    ((Snapshot.objectFiles entries).map Prod.fst).Nodup := by
  induction entries with
  | nil => exact List.nodup_nil
  | cons entry entries ih =>
    rw [Snapshot.objectFiles, List.map_cons, List.nodup_cons]
    constructor
    · intro hmem
      obtain ⟨file, hfile, heq⟩ := List.mem_map.mp hmem
      simpa [heq] using (List.mem_filter.mp hfile).2
    · exact ih.sublist (List.filter_sublist.map Prod.fst)

/-- The paths of the files that are not objects. -/
def documentPaths : List (List String) := [archivedPath, governancePath, ["metadata.json"], ["manifest.json"]]

theorem path_cases {now : Nat} {actorId : String} {file : List String × Bytes} (h : file ∈ packageFiles (s.listedFiles now actorId)) :
    file.1 ∈ documentPaths ∨ ∃ entry ∈ s.assets, file.1 = ["objects", entry.1.sha256] := by
  rw [packageFiles, mem_sortBy, Snapshot.listedFiles] at h
  simp only [List.mem_cons] at h
  rcases h with rfl | rfl | rfl | rfl | h
  · exact .inl (by simp [documentPaths])
  · exact .inl (by simp [documentPaths])
  · exact .inl (by simp [documentPaths])
  · exact .inl (by simp [documentPaths])
  · obtain ⟨entry, hentry, rfl⟩ := mem_objectFiles h
    exact .inr ⟨entry, hentry, rfl⟩

theorem plainPath_document {path : List String} (h : path ∈ documentPaths) : PlainPath path := by
  simp only [documentPaths, List.mem_cons, List.not_mem_nil, or_false] at h
  rcases h with rfl | rfl | rfl | rfl
  all_goals
    refine ⟨by decide, fun part hpart => ?_⟩
    revert part
    simp only [archivedPath, governancePath, List.forall_mem_cons, List.not_mem_nil, false_implies, implies_true, and_true]
    repeat' apply And.intro
    all_goals exact plainPart_of_decide (by decide)

theorem isDigest_asset (hs : Readable s) {entry : AssetRefRow × AssetRow × Bytes} (h : entry ∈ s.assets) :
    isDigest entry.1.sha256 = true := by
  rw [← hs.digest entry h]
  exact isDigest_sha256Hex _

theorem layout_packageFiles (hs : Readable s) (now : Nat) (actorId : String) : Layout (packageFiles (s.listedFiles now actorId)) where
  plain file hfile := by
    rcases path_cases hfile with hdocument | ⟨entry, hentry, hpath⟩
    · exact plainPath_document hdocument
    · rw [hpath]
      exact plainPath_object (isDigest_asset hs hentry)
  nodup := by
    have hperm := (perm_sortBy Prod.fst
      ((["manifest.json"], documentBytes (.obj (manifest (s.listedFiles now actorId)))) :: s.listedFiles now actorId)).map Prod.fst
    rw [packageFiles, hperm.nodup_iff]
    have hobjects : ∀ path ∈ (Snapshot.objectFiles s.assets).map Prod.fst, ∃ digest, path = ["objects", digest] := by
      intro path hpath
      obtain ⟨file, hfile, rfl⟩ := List.mem_map.mp hpath
      obtain ⟨entry, _, rfl⟩ := mem_objectFiles hfile
      exact ⟨_, rfl⟩
    have hfresh : ∀ path ∈ documentPaths, path ∉ (Snapshot.objectFiles s.assets).map Prod.fst := by
      intro path hpath hmem
      obtain ⟨digest, rfl⟩ := hobjects path hmem
      simp [documentPaths, archivedPath, governancePath] at hpath
    simp only [Snapshot.listedFiles, List.map_cons, List.nodup_cons, List.mem_cons, not_or]
    refine ⟨⟨by decide, by decide, by decide, hfresh _ (by simp [documentPaths])⟩,
      ⟨by decide, by decide, hfresh _ (by simp [documentPaths])⟩, ⟨by decide, hfresh _ (by simp [documentPaths])⟩,
      hfresh _ (by simp [documentPaths]), nodup_objectFiles s.assets⟩
  flat file hfile other hother hstart := by
    -- two paths of equal length where one is a prefix of the other are equal
    have hlength : file.1.length = other.1.length → file.1 = other.1 := fun h => hstart.eq_of_length h
    rcases path_cases hfile with hf | ⟨entry, _, hf⟩ <;> rcases path_cases hother with ho | ⟨entry', _, ho⟩
    · simp only [documentPaths, List.mem_cons, List.not_mem_nil, or_false] at hf ho
      rcases hf with hf | hf | hf | hf <;> rcases ho with ho | ho | ho | ho <;> rw [hf, ho] at hstart ⊢ <;>
        first | rfl | (exfalso; revert hstart; decide)
    · simp only [documentPaths, List.mem_cons, List.not_mem_nil, or_false] at hf
      rcases hf with hf | hf | hf | hf <;> rw [hf, ho] at hstart <;> simp [archivedPath, governancePath] at hstart
    · simp only [documentPaths, List.mem_cons, List.not_mem_nil, or_false] at ho
      rcases ho with ho | ho | ho | ho <;> rw [hf, ho] at hstart <;> simp [archivedPath, governancePath] at hstart
    · exact hlength (by rw [hf, ho]; rfl)

end Files

section Digests

theorem asSet_obj (fields : Dict) : (Json.obj fields).asSet = .ok (fields.map fun field => .str field.1) := by
  simp only [Json.asSet, Json.iterate, bind_eq_ok]
  refine ⟨_, rfl, (), raiseIf_eq_ok.mpr (not_not.mpr (List.all_eq_true.mpr ?_)), rfl⟩
  intro v hv
  obtain ⟨field, _, rfl⟩ := List.mem_map.mp hv
  rfl

theorem sameSet_of_keys {left right : Dict} (h : ∀ key, key ∈ left.map Prod.fst ↔ key ∈ right.map Prod.fst) :
    sameSet (left.map fun field => .str field.1) (right.map fun field => .str field.1) = true := by
  have hmem : ∀ {a b : Dict}, (∀ key, key ∈ a.map Prod.fst → key ∈ b.map Prod.fst) →
      (a.map fun field => Json.str field.1).all (fun v => (b.map fun field => Json.str field.1).any v.scalarEq) = true := by
    intro a b hab
    rw [List.all_eq_true]
    intro v hv
    obtain ⟨field, hfield, rfl⟩ := List.mem_map.mp hv
    obtain ⟨other, hother, heq⟩ := List.mem_map.mp (hab field.1 (List.mem_map_of_mem hfield))
    rw [List.any_eq_true]
    refine ⟨.str other.1, List.mem_map_of_mem hother, ?_⟩
    rw [heq]
    simp [Json.scalarEq]
  have hback : (right.map fun field => Json.str field.1).all
      (fun b => (left.map fun field => Json.str field.1).any b.scalarEq) = true := hmem fun key => (h key).mpr
  have hforth := hmem fun key => (h key).mp
  rw [sameSet, Bool.and_eq_true]
  exact ⟨hforth, hback⟩

variable {named : List (String × List Row)}

theorem lookup_tableDigests (h : (named.map Prod.fst).Nodup) {name : String} {rows : List Row} (hmem : (name, rows) ∈ named) :
    (tableDigests named).lookup name = some (.str (canonicalSha256 (table rows))) := by
  have hkeys : ((tableDigests named).map Prod.fst).Nodup := by
    rw [keys_tableDigests]
    exact nodup_sortBy_names h
  rw [lookup_eq_some_iff_mem hkeys]
  exact List.mem_map.mpr ⟨(name, rows), mem_sortBy.mpr hmem, rfl⟩

/-- Tables and their digests, both read back. -/
theorem verifyTableDigests_written (h : (named.map Prod.fst).Nodup) :
    verifyTableDigests (Json.obj (tables named)).normalize (Json.obj (tableDigests named)).normalize true = .ok () := by
  have hdigestKeys : ((tableDigests named).map Prod.fst).Nodup := by
    rw [keys_tableDigests]
    exact nodup_sortBy_names h
  have hkeys : ∀ (fields : Dict) (key : String), key ∈ (Json.sortedFields fields).map Prod.fst ↔ key ∈ fields.map Prod.fst := by
    intro fields key
    have hperm := (List.perm_insertionSort (fun a b : String × Json => a.1 ≤ b.1) (Json.normalizeFields fields)).map Prod.fst
    rw [Json.sortedFields, hperm.mem_iff, Json.normalizeFields_eq_map, List.map_map]
    rfl
  have hsame : sameSet ((Json.sortedFields (tables named)).map fun field => .str field.1)
      ((Json.sortedFields (tableDigests named)).map fun field => .str field.1) = true := by
    apply sameSet_of_keys
    intro key
    rw [hkeys, hkeys, keys_tables, keys_tableDigests, ((perm_sortBy Prod.fst named).map Prod.fst).mem_iff]
  rw [Json.normalize_obj, Json.normalize_obj]
  simp only [verifyTableDigests, if_pos, asSet_obj, bind_eq_ok, raiseIf_eq_ok, orRaise_eq_ok, Json.fields?]
  refine ⟨_, rfl, _, rfl, (), by rw [hsame]; decide, _, rfl, forM_eq_ok.mpr fun field hfield => ?_⟩
  obtain ⟨⟨name, value⟩, hmem, rfl⟩ := Json.mem_sortedFields hfield
  obtain ⟨⟨_, rows⟩, hrows, heq⟩ := List.mem_map.mp hmem
  cases heq
  have hdigest : (Json.sortedFields (tableDigests named)).get name = .str (canonicalSha256 (table rows)) := by
    rw [Dict.get, Json.lookup_sortedFields hdigestKeys, lookup_tableDigests h hrows, Option.map_some, Json.normalize_str]
    rfl
  simp only [verifyTableDigest, getDigest, bind_eq_ok, orRaise_eq_ok, Json.fields?]
  refine ⟨_, ⟨_, rfl, rfl⟩, ?_⟩
  rw [hdigest]
  dsimp only
  rw [raiseIf_eq_ok, not_not, canonicalSha256_normalize, Json.isText_iff]

end Digests

end Preservation
end Sip
