import Sip.Preservation.Commitment
import Sip.Preservation.RoundTrip

/-!
# When a written package verifies

A package that an export has written is refused by its verification for the sizes of its
files only: a file above the limit, too much in total, or a file that deflating has made
more than two hundred times smaller.
-/

namespace Sip
namespace Preservation

set_option autoImplicit false

section Reading
variable {fields : Dict} {key : String}

theorem get_sortedFields (h : (fields.map Prod.fst).Nodup) (key : String) :
    Dict.get (Json.sortedFields fields) key = (fields.get key).normalize := by
  rw [Dict.get, Dict.get, Json.lookup_sortedFields h]
  cases fields.lookup key with
  | none => simp [Json.normalize]
  | some value => rfl

theorem getOrEmpty_sortedFields (h : (fields.map Prod.fst).Nodup) (key : String) :
    getOrEmpty (Json.sortedFields fields) key = (getOrEmpty fields key).normalize := by
  rw [getOrEmpty, getOrEmpty, Json.lookup_sortedFields h]
  cases fields.lookup key with
  | none => simp [Json.normalize, Json.normalizeFields]
  | some value => rfl

theorem lookup_sortedFields_str (h : (fields.map Prod.fst).Nodup) {text : String} (hkey : fields.lookup key = some (.str text)) :
    (Json.sortedFields fields).lookup key = some (.str text) := by
  rw [Json.lookup_sortedFields h, hkey, Option.map_some, Json.normalize_str]

theorem truthy_sortedFields (h : fields ≠ []) : (Json.obj (Json.sortedFields fields)).truthy = true := by
  have hlength : (Json.sortedFields fields).length = fields.length := by
    rw [Json.sortedFields, List.length_insertionSort, Json.normalizeFields_eq_map, List.length_map]
  rw [Json.truthy, Bool.not_eq_true', List.isEmpty_eq_false_iff]
  intro hnil
  rw [hnil] at hlength
  exact h (List.length_eq_zero_iff.mp hlength.symm)

end Reading

section Files
variable {host : String → Option Bytes} {t : Tree} {listed : List (List String × Bytes)}

/-- An item of the manifest. -/
def manifestItem (entry : String × String) : Json := .obj [("path", .str entry.1), ("sha256", .str entry.2)]

theorem normalize_manifestItem (entry : String × String) : (manifestItem entry).normalize = manifestItem entry := by
  simp [manifestItem, Json.normalize, Json.normalizeFields]

theorem checkFile_manifestItem {file : List String × Bytes} (h : t.read host (joinPath file.1) = some file.2) :
    ∃ check, checkFile host t (manifestItem (fileEntry file)) = .ok check ∧ check.entry = fileEntry file := by
  refine ⟨⟨joinPath file.1, .str (sha256Hex file.2), some (sha256Hex file.2), true⟩, ?_, rfl⟩
  simp only [checkFile, bind_eq_ok, orRaise_eq_ok, raiseIf_eq_ok, Json.item_eq_ok]
  have hactual : (t.read host (fileEntry file).1).map sha256Hex = some (sha256Hex file.2) := by
    rw [fileEntry, h, Option.map_some]
  have hvalid : sameDigest (some (sha256Hex file.2)) (.str (fileEntry file).2) = true := by simp [sameDigest, fileEntry]
  refine ⟨_, ⟨_, rfl, rfl⟩, _, rfl, _, ⟨_, rfl, rfl⟩, (), ?_, ?_⟩
  · rw [hactual, hvalid]
    exact Bool.noConfusion
  · rw [hactual, hvalid]
    rfl

theorem mapM_checkFile {entries : List (String × String)}
    (h : ∀ entry ∈ entries, ∃ check, checkFile host t (manifestItem entry) = .ok check ∧ check.entry = entry) :
    ∃ checks, (entries.map manifestItem).mapM (checkFile host t) = .ok checks ∧ checks.map FileCheck.entry = entries := by
  induction entries with
  | nil => exact ⟨[], rfl, rfl⟩
  | cons entry entries ih =>
    obtain ⟨check, hcheck, hentry⟩ := h entry List.mem_cons_self
    obtain ⟨checks, hchecks, hentries⟩ := ih fun other hother => h other (List.mem_cons_of_mem _ hother)
    refine ⟨check :: checks, ?_, ?_⟩
    · rw [List.map_cons, List.mapM_cons, hcheck, hchecks]
      rfl
    · rw [List.map_cons, hentry, hentries]

theorem manifest_files (listed : List (List String × Bytes)) :
    (Json.sortedFields (manifest listed)).lookup "files" = some (.arr ((sortBy toLex (listed.map fileEntry)).map manifestItem)) := by
  have hkeys : ((manifest listed).map Prod.fst).Nodup := by simp [manifest]
  have hlookup : (manifest listed).lookup "files" = some (.arr ((sortBy toLex (listed.map fileEntry)).map manifestItem)) := rfl
  rw [Json.lookup_sortedFields hkeys, hlookup, Option.map_some, Json.normalize, Json.normalizeItems_eq_map, List.map_map]
  congr 2
  apply List.map_congr_left
  intro entry _
  exact normalize_manifestItem entry

theorem manifest_rootHash (listed : List (List String × Bytes)) :
    Dict.get (Json.sortedFields (manifest listed)) "root_hash" = .str (merkleRoot (listed.map fileEntry)) := by
  have hkeys : ((manifest listed).map Prod.fst).Nodup := by simp [manifest]
  rw [get_sortedFields hkeys]
  exact Json.normalize_str _

/-- The root does not depend on the order in which the files are found. -/
theorem merkleRoot_sortBy (entries : List (String × String)) : merkleRoot (sortBy toLex entries) = merkleRoot entries := by
  rw [merkleRoot, merkleRoot, sortBy_of_pairwise (pairwise_sortBy toLex entries)]

end Files

section Metadata
variable {py : PyRuntime} {host : String → Option Bytes} {t : Tree} {s : Snapshot} {now : Nat} {actorId : String}

theorem verifySupportedVersion_current (hpy : Documented py) (label : String) :
    verifySupportedVersion py (.str "1.1.0") label = .ok () := by
  have hsplit : ("1.1.0".toList.splitOn '.').map String.ofList = ["1", "1", "0"] := by decide
  have hparts : versionParts py (.str "1.1.0") = some [1, 1, 0] := by
    simp only [versionParts, Json.text?, Option.bind_eq_bind, Option.bind_some, hsplit, List.mapM_cons, List.mapM_nil,
      hpy.intOfText_zero, hpy.intOfText_one]
    rfl
  simp only [verifySupportedVersion, hparts, bind_eq_ok, orRaise_eq_ok, raiseIf_eq_ok]
  exact ⟨_, rfl, (), by decide, by decide⟩

/-- What the verification reads of one of the evidence files and of its descriptor. -/
structure Described (path : List String) (named : List (String × List Row)) (descriptor document : Dict) : Prop where
  names : (named.map Prod.fst).Nodup
  descriptorKeys : (descriptor.map Prod.fst).Nodup
  documentKeys : (document.map Prod.fst).Nodup
  distinct : (Json.obj document).Distinct
  path : descriptor.lookup "path" = some (.str (joinPath path))
  digests : descriptor.lookup "table_digests" = some (.obj (tableDigests named))
  tables : document.lookup "tables" = some (.obj (tables named))

theorem verifyDescriptor_written (hpy : Documented py) {path : List String} {named : List (String × List Row)}
    {descriptor document metadata : Dict} {name : String} (h : Described path named descriptor document)
    (hread : t.read host (joinPath path) = some (documentBytes (.obj document)))
    (hdescriptor : metadata.get name = .obj (Json.sortedFields descriptor)) : verifyDescriptor py host t metadata name = .ok () := by
  have hne : descriptor ≠ [] := by
    rintro rfl
    exact Option.some_ne_none _ h.path.symm
  have hpath := lookup_sortedFields_str h.descriptorKeys h.path
  have hdigests : getOrEmpty (Json.sortedFields descriptor) "table_digests" = (Json.obj (tableDigests named)).normalize := by
    rw [getOrEmpty_sortedFields h.descriptorKeys, getOrEmpty, h.digests, Option.getD_some]
  have htables : getOrEmpty (Json.sortedFields document) "tables" = (Json.obj (tables named)).normalize := by
    rw [getOrEmpty_sortedFields h.documentKeys, getOrEmpty, h.tables, Option.getD_some]
  rw [verifyDescriptor, hdescriptor]
  simp only [if_pos (truthy_sortedFields hne), bind_eq_ok, orRaise_eq_ok, Json.item_eq_ok]
  refine ⟨_, ⟨_, rfl, hpath⟩, _, rfl, _, rfl, _, hread, _, hpy.loads_dumps _ h.distinct, Json.sortedFields document, ?_, ?_⟩
  · rw [Json.normalize_obj, Json.fields?]
  · rw [htables, hdigests]
    exact verifyTableDigests_written h.names

theorem described_archived (h : (s.archived.map Prod.fst).Nodup) : Described archivedPath s.archived [
    ("path", .str (joinPath archivedPath)), ("tables", tableNames s.archived), ("table_digests", .obj (tableDigests s.archived))]
    (archivedDocument s.archived) where
  names := h
  descriptorKeys := by simp
  documentKeys := by simp [archivedDocument]
  distinct := distinct_archivedDocument h
  path := rfl
  digests := rfl
  tables := rfl

theorem described_governance (h : (s.governance.map Prod.fst).Nodup) : Described governancePath s.governance [
    ("path", .str (joinPath governancePath)), ("tables", tableNames s.governance),
    ("table_digests", .obj (tableDigests s.governance)), ("automatically_activated", .bool false)]
    (governanceDocument s.governance) where
  names := h
  descriptorKeys := by simp
  documentKeys := by simp [governanceDocument]
  distinct := distinct_governanceDocument h
  path := rfl
  digests := rfl
  tables := rfl

theorem truthy_tableNames {named : List (String × List Row)} (h : named ≠ []) : (tableNames named).normalize.truthy = true := by
  have hlength : (sortBy id (named.map Prod.fst)).length = named.length := by rw [length_sortBy, List.length_map]
  rw [tableNames, Json.normalize, Json.truthy, Json.normalizeItems_eq_map, Bool.not_eq_true', List.isEmpty_eq_false_iff]
  intro hnil
  rw [List.map_eq_nil_iff, List.map_eq_nil_iff] at hnil
  rw [hnil] at hlength
  exact h (List.length_eq_zero_iff.mp hlength.symm)

/-- The metadata that an export has written passes. -/
theorem verifyMetadata_written (hpy : Documented py) (hs : Readable s) (hnative : s.native ≠ [])
    (harchived : t.read host (joinPath archivedPath) = some (documentBytes (.obj (archivedDocument s.archived))))
    (hgovernance : t.read host (joinPath governancePath) = some (documentBytes (.obj (governanceDocument s.governance)))) :
    verifyMetadata py host t (Json.sortedFields (s.metadata now actorId)) = .ok () := by
  have hkeys := nodup_metadata s now actorId
  have hversion := @lookup_sortedFields_str _ "format_version" hkeys "1.1.0" rfl
  have hschema := @lookup_sortedFields_str _ "domain_schema_version" hkeys "1.1.0" rfl
  have hformat : (Dict.get (Json.sortedFields (s.metadata now actorId)) "format") = .str "sip-open-preservation" := by
    rw [get_sortedFields hkeys]
    exact Json.normalize_str _
  have htables : getOrEmpty (Json.sortedFields (s.metadata now actorId)) "tables" = (Json.obj (tables s.native)).normalize :=
    getOrEmpty_sortedFields hkeys "tables"
  have hdigests : getOrEmpty (Json.sortedFields (s.metadata now actorId)) "table_digests" =
      (Json.obj (tableDigests s.native)).normalize := getOrEmpty_sortedFields hkeys "table_digests"
  have hrequired : (Dict.get (Json.sortedFields (s.metadata now actorId)) "native_replay_tables").truthy = true := by
    rw [get_sortedFields hkeys]
    exact truthy_tableNames hnative
  have hfirst : verifyDescriptor py host t (Json.sortedFields (s.metadata now actorId)) "archived_records" = .ok () :=
    verifyDescriptor_written hpy (described_archived hs.archived) harchived
      ((get_sortedFields hkeys _).trans (Json.normalize_obj _))
  have hsecond : verifyDescriptor py host t (Json.sortedFields (s.metadata now actorId)) "preserved_governance" = .ok () :=
    verifyDescriptor_written hpy (described_governance hs.governance) hgovernance
      ((get_sortedFields hkeys _).trans (Json.normalize_obj _))
  simp only [verifyMetadata, bind_eq_ok, raiseIf_eq_ok, hversion, hschema, hformat, hrequired, htables, hdigests,
    Option.getD_some]
  exact ⟨(), by decide, (), verifySupportedVersion_current hpy _, (), verifySupportedVersion_current hpy _, (),
    verifyTableDigests_written hs.native, (), hfirst, hsecond⟩

end Metadata

section Package
variable {py : PyRuntime} {host : String → Option Bytes} {t : Tree} {s : Snapshot} {now : Nat} {actorId : String}

theorem mem_packageFiles {listed : List (List String × Bytes)} {file : List String × Bytes} (h : file ∈ listed) :
    file ∈ packageFiles listed := mem_sortBy.mpr (List.mem_cons_of_mem _ h)

theorem archived_mem_listedFiles : (archivedPath, documentBytes (.obj (archivedDocument s.archived))) ∈ s.listedFiles now actorId :=
  List.mem_cons_self

theorem governance_mem_listedFiles :
    (governancePath, documentBytes (.obj (governanceDocument s.governance))) ∈ s.listedFiles now actorId :=
  List.mem_cons_of_mem _ List.mem_cons_self

theorem metadata_mem_listedFiles : (["metadata.json"], documentBytes (.obj (s.metadata now actorId))) ∈ s.listedFiles now actorId :=
  List.mem_cons_of_mem _ (List.mem_cons_of_mem _ List.mem_cons_self)

theorem manifest_mem_packageFiles (listed : List (List String × Bytes)) :
    (["manifest.json"], documentBytes (.obj (manifest listed))) ∈ packageFiles listed := mem_sortBy.mpr List.mem_cons_self

theorem readDocument_written (hpy : Documented py) (hs : Readable s) (ht : Holds (packageFiles (s.listedFiles now actorId)) t)
    {path : List String} {fields : Dict} (hfields : (Json.obj fields).Distinct)
    (hmem : (path, documentBytes (.obj fields)) ∈ packageFiles (s.listedFiles now actorId)) (missing : Raised) :
    readDocument py t path missing = .ok (.obj (Json.sortedFields fields)) := by
  have hlookup := lookup_of_mem (layout_packageFiles hs now actorId).nodup hmem
  rw [readDocument_of_lookup hpy ht path _ hfields missing hlookup, Json.normalize_obj]

/-- Every listed file has its digest. -/
theorem checkFiles_written (hs : Readable s) (ht : Holds (packageFiles (s.listedFiles now actorId)) t) :
    ∃ checks, ((sortBy toLex ((s.listedFiles now actorId).map fileEntry)).map manifestItem).mapM (checkFile host t) = .ok checks ∧
      merkleRoot (checks.map FileCheck.entry) = merkleRoot ((s.listedFiles now actorId).map fileEntry) := by
  obtain ⟨checks, hchecks, hentries⟩ : ∃ checks,
      ((sortBy toLex ((s.listedFiles now actorId).map fileEntry)).map manifestItem).mapM (checkFile host t) = .ok checks ∧
        checks.map FileCheck.entry = sortBy toLex ((s.listedFiles now actorId).map fileEntry) := by
    apply mapM_checkFile
    intro entry hentry
    obtain ⟨file, hfile, rfl⟩ := List.mem_map.mp (mem_sortBy.mp hentry)
    exact checkFile_manifestItem (read_of_holds (layout_packageFiles hs now actorId) ht host (mem_packageFiles hfile))
  refine ⟨checks, hchecks, ?_⟩
  rw [hentries, merkleRoot_sortBy]

/-- Unpacked, the files of a snapshot verify, with the root that the export reports. -/
theorem verifyTree_written (hpy : Documented py) (hs : Readable s) (hnative : s.native ≠ [])
    (ht : Holds (packageFiles (s.listedFiles now actorId)) t) (packageSha256 : String) :
    ∃ v, verifyTree py host t packageSha256 = .ok v ∧ v.rootHash = merkleRoot ((s.listedFiles now actorId).map fileEntry) := by
  have hread : ∀ file ∈ s.listedFiles now actorId, t.read host (joinPath file.1) = some file.2 :=
    fun file hfile => read_of_holds (layout_packageFiles hs now actorId) ht host (mem_packageFiles hfile)
  have harchived := hread _ archived_mem_listedFiles
  have hgovernance := hread _ governance_mem_listedFiles
  have hmanifest := readDocument_written hpy hs ht (distinct_manifest _) (manifest_mem_packageFiles _)
    (validationError "EXPORT_MANIFEST_MISSING" "preservation package has no manifest")
  have hmetadata := readDocument_written hpy hs ht (distinct_metadata hs now actorId)
    (mem_packageFiles metadata_mem_listedFiles)
    (validationError "EXPORT_METADATA_MISSING" "preservation package has no metadata")
  have hverified : verifyMetadata py host t (Json.sortedFields (s.metadata now actorId)) = .ok () :=
    verifyMetadata_written hpy hs hnative harchived hgovernance
  obtain ⟨checks, hchecks, hroot⟩ := @checkFiles_written host t s now actorId hs ht
  refine ⟨⟨merkleRoot (checks.map FileCheck.entry), checks.length, Json.sortedFields (s.metadata now actorId), checks,
    packageSha256⟩, ?_, hroot⟩
  simp only [verifyTree, bind_eq_ok, orRaise_eq_ok, raiseIf_eq_ok, not_not]
  refine ⟨_, hmanifest, _, rfl, _, ?_, checks, hchecks, (), ?_, _, hmetadata, _, rfl, (), hverified, rfl⟩
  · rw [manifest_files, Option.getD_some, Json.iterate]
  · rw [manifest_rootHash, hroot, Json.isText_iff]

end Package

section Snapshots
variable {db : PreservationDb} {store : LocalContentAddressedStore} {tenantId projectId : String} {s : Snapshot}

theorem readObject_ok {assets : Table AssetRow (fun row => row.sha256)} {ref : AssetRefRow}
    {entry : AssetRefRow × AssetRow × Bytes} (h : readObject assets store ref = .ok entry) :
    entry.1 = ref ∧ sha256Hex entry.2.2 = ref.sha256 := by
  simp only [readObject, bind_eq_ok, orRaise_eq_ok, raiseIf_eq_ok, not_not] at h
  obtain ⟨object, _, payload, _, _, hdigest, h⟩ := h
  cases h
  exact ⟨rfl, hdigest⟩

theorem exists_of_mem_mapM {α β : Type} {f : α → Except Raised β} {xs : List α} {ys : List β} (h : xs.mapM f = .ok ys) {y : β}
    (hy : y ∈ ys) : ∃ x ∈ xs, f x = .ok y := by
  induction xs generalizing ys with
  | nil =>
    cases h
    exact absurd hy List.not_mem_nil
  | cons x xs ih =>
    simp only [List.mapM_cons, bind_eq_ok] at h
    obtain ⟨z, hz, zs, hzs, h⟩ := h
    cases h
    rcases List.mem_cons.mp hy with rfl | hy
    · exact ⟨x, List.mem_cons_self, hz⟩
    · obtain ⟨x', hx', hf⟩ := ih hzs hy
      exact ⟨x', List.mem_cons_of_mem _ hx', hf⟩

/-- What a session reads can be read back. -/
theorem readable_takeSnapshot (h : takeSnapshot db store tenantId projectId = .ok s) : Readable s ∧ s.native ≠ [] := by
  simp only [takeSnapshot, bind_eq_ok, orRaise_eq_ok, raiseIf_eq_ok] at h
  obtain ⟨_, _, _, _, _, _, _, _, assets, hassets, h⟩ := h
  cases h
  have hentry : ∀ entry ∈ assets, ∃ ref ∈ liveRefs db.refs.rows tenantId projectId, entry.1 = ref ∧
      sha256Hex entry.2.2 = ref.sha256 := by
    intro entry hentry
    obtain ⟨ref, href, hread⟩ := exists_of_mem_mapM hassets hentry
    exact ⟨ref, href, readObject_ok hread⟩
  have hnative : (Native.all.map Native.tableName).Nodup := by decide
  have harchived : (Archived.all.map Archived.tableName).Nodup := by decide
  refine ⟨⟨?_, ?_, ?_, ?_, ?_⟩, ?_⟩
  · rw [List.map_map]
    exact hnative
  · rw [List.map_map]
    exact harchived
  · simp
  · intro entry hmem
    obtain ⟨ref, href, rfl, _⟩ := hentry entry hmem
    exact db.provenance_distinct _ (List.mem_filter.mp (mem_sortBy.mp href)).1
  · intro entry hmem
    obtain ⟨ref, _, rfl, hdigest⟩ := hentry entry hmem
    exact hdigest
  · simp [Native.all]

end Snapshots

section Limits
variable {py : PyRuntime} {s : Snapshot} {now : Nat} {actorId : String}

/-- The files of a snapshot are within the limits of the unpacking. -/
def WithinLimits (zip : ZipWriter) (s : Snapshot) (now : Nat) (actorId : String) : Prop :=
  (∀ file ∈ packageFiles (s.listedFiles now actorId), SafeSize zip.deflatedSize file.2) ∧
    totalBytes (packageFiles (s.listedFiles now actorId)) ≤ maxTotalBytes

theorem verifies_packSnapshot_iff (hpy : Documented py) (host : String → Option Bytes) (zip : ZipWriter) (hs : Readable s)
    (hnative : s.native ≠ []) :
    (∃ v, verifyExport py host (packSnapshot zip s now actorId).file = .ok v ∧
      v.rootHash = (packSnapshot zip s now actorId).rootHash) ↔ WithinLimits zip s now actorId := by
  have hlayout := layout_packageFiles hs now actorId
  have hunpack := @safeExtractZip_iff zip.deflatedSize _ hlayout
  rw [WithinLimits]
  constructor
  · rintro ⟨v, hv, _⟩
    simp only [verifyExport, packSnapshot, bind_eq_ok, orRaise_eq_ok] at hv
    obtain ⟨_, hentries, t, ht, _⟩ := hv
    cases hentries
    obtain ⟨_, hchecked, _⟩ := bind_eq_ok.mp ht
    have hsizes := (checkEntries_iff zip.deflatedSize (Nat.zero_le _) hlayout.plain).mp hchecked
    rwa [Nat.zero_add] at hsizes
  · intro hlimits
    obtain ⟨t, ht, hholds⟩ := hunpack.mpr hlimits
    obtain ⟨v, hv, hroot⟩ := @verifyTree_written py host t s now actorId hpy hs hnative hholds
      (sha256Hex (zip.archive ((packageFiles (s.listedFiles now actorId)).map (zipEntry zip.deflatedSize))))
    refine ⟨v, ?_, hroot⟩
    simp only [verifyExport, packSnapshot, bind_eq_ok, orRaise_eq_ok]
    exact ⟨_, rfl, t, ht, hv⟩

end Limits

/-- What the project holds makes files within the limits of the unpacking. -/
def FitsLimits (zip : ZipWriter) (db : PreservationDb) (store : LocalContentAddressedStore) (now : Nat)
    (tenantId projectId actorId : String) : Prop :=
  ∀ s, takeSnapshot db store tenantId projectId = .ok s → WithinLimits zip s now actorId

/-- The verification accepts a written package, with the root that the export has reported, exactly when the files are
within the limits. -/
theorem export_verifies_iff (py : PyRuntime) (hpy : Documented py) (host : String → Option Bytes) (zip : ZipWriter)
    (db : PreservationDb) (store : LocalContentAddressedStore) (now : Nat) (tenantId projectId actorId : String) (p : Package)
    (h : exportPackage zip db store now tenantId projectId actorId = .ok p) :
    (∃ v, verifyExport py host p.file = .ok v ∧ v.rootHash = p.rootHash) ↔
      FitsLimits zip db store now tenantId projectId actorId := by
  obtain ⟨s, hs, hp⟩ := bind_eq_ok.mp h
  cases hp
  obtain ⟨hreadable, hnative⟩ := readable_takeSnapshot hs
  rw [verifies_packSnapshot_iff hpy host zip hreadable hnative]
  constructor
  · intro hlimits s' hs'
    rw [hs] at hs'
    cases hs'
    exact hlimits
  · exact fun hfits => hfits s hs

section Sample

def sampleReference (data : Bytes) : AssetRefRow where
  assetId := "a1"
  tenantId := "t1"
  projectId := "p1"
  sha256 := sha256Hex data
  originalName := "scan"
  classification := "internal"
  retentionClass := "standard"
  sourceClass := "observed"
  authorityClass := "evidence"
  provenanceJson := []
  createdBy := "ana"

def sampleObject (data : Bytes) : AssetRow :=
  ⟨sha256Hex data, data.length, "application/octet-stream", "k", ⟨"", "", "", "", "", ""⟩, 0⟩

/-- A project with one asset. -/
def assetDb (data : Bytes) : PreservationDb := { PreservationDb.empty with
  tenants := [⟨[("tenant_id", .str "t1")], by simp [Json.Distinct, Json.DistinctFields]⟩]
  projects := [⟨[("project_id", .str "p1"), ("tenant_id", .str "t1")], by simp [Json.Distinct, Json.DistinctFields]⟩]
  assets := .single (sampleObject data)
  refs := .single (sampleReference data)
  provenance_distinct := by simp [sampleReference, Json.Distinct, Json.DistinctFields] }

theorem takeSnapshot_assetDb {data : Bytes} {store : LocalContentAddressedStore}
    (h : store.readBytes (sha256Hex data) = .ok data) :
    ∃ s, takeSnapshot (assetDb data) store "t1" "p1" = .ok s ∧ (["objects", sha256Hex data], data) ∈ Snapshot.objectFiles s.assets := by
  have hrefs : liveRefs (assetDb data).refs.rows "t1" "p1" = [sampleReference data] := rfl
  have hobject : (assetDb data).assets.get? (sha256Hex data) = some (sampleObject data) := by
    rw [Table.get?_eq_some_iff]
    exact ⟨List.mem_singleton_self _, rfl⟩
  have hread : readObject (assetDb data).assets store (sampleReference data) =
      .ok (sampleReference data, sampleObject data, data) := by
    simp only [readObject, bind_eq_ok, orRaise_eq_ok, raiseIf_eq_ok]
    exact ⟨_, hobject, _, h, (), not_not.mpr rfl, rfl⟩
  obtain ⟨s, hs, hassets⟩ : ∃ s, takeSnapshot (assetDb data) store "t1" "p1" = .ok s ∧
      s.assets = [(sampleReference data, sampleObject data, data)] := by
    simp only [takeSnapshot, bind_eq_ok, orRaise_eq_ok, raiseIf_eq_ok, hrefs, List.mapM_cons, List.mapM_nil]
    exact ⟨_, ⟨_, rfl, _, rfl, (), by decide, _, rfl, _, ⟨_, hread, _, rfl, rfl⟩, rfl⟩, rfl⟩
  refine ⟨s, hs, ?_⟩
  rw [hassets]
  exact List.mem_cons_self

/-- A store into which the content has been written. -/
theorem exists_store (data : Bytes) (hsize : data.length < 2 ^ 31) : ∃ store : LocalContentAddressedStore,
    store.readBytes (sha256Hex data) = .ok data := by
  have hempty : LocalContentAddressedStore.Intact ⟨⟨.zeros 32, "k1"⟩, .empty⟩ := fun _ h => absurd h List.not_mem_nil
  obtain ⟨store, _, _, hread⟩ := hempty.writeBytes_total ⟨.zeros 32, .zeros 12, .zeros 12⟩ hsize fun plaintext hread => by
    obtain ⟨object, hobject⟩ := LocalContentAddressedStore.readBytes_present hread
    cases hobject
  exact ⟨store, hread⟩

/-- A megabyte of zeros. -/
def blankBytes : Bytes := List.replicate 1000000 0

theorem length_blankBytes : blankBytes.length = 1000000 := List.length_replicate

/-- Deflating leaves 985 bytes of the zeros. -/
def blankZip : ZipWriter where
  deflatedSize data := if data = blankBytes then 985 else data.length
  archive _ := []

theorem not_safeSize_blankBytes : ¬ SafeSize blankZip.deflatedSize blankBytes := by
  have hsize : blankZip.deflatedSize blankBytes = 985 := by simp only [blankZip, if_true]
  rw [SafeSize, hsize, length_blankBytes]
  decide

theorem blank_export_refused : ¬ ∀ (py : PyRuntime), Documented py → ∀ (host : String → Option Bytes) (zip : ZipWriter)
    (db : PreservationDb) (store : LocalContentAddressedStore) (now : Nat) (tenantId projectId actorId : String) (p : Package),
    exportPackage zip db store now tenantId projectId actorId = .ok p →
      ∃ v, verifyExport py host p.file = .ok v ∧ v.rootHash = p.rootHash := by
  intro h
  obtain ⟨store, hread⟩ := exists_store blankBytes (by rw [length_blankBytes]; decide)
  obtain ⟨s, hs, hobject⟩ := takeSnapshot_assetDb hread
  obtain ⟨hreadable, hnative⟩ := readable_takeSnapshot hs
  have hexport : exportPackage blankZip (assetDb blankBytes) store 0 "t1" "p1" "ana" = .ok (packSnapshot blankZip s 0 "ana") :=
    bind_eq_ok.mpr ⟨s, hs, rfl⟩
  have hpy : Documented plainRuntime := documented_standardRuntime .ofRepr
  have hlimits := (verifies_packSnapshot_iff hpy _ blankZip hreadable hnative).mp
    (h plainRuntime hpy (fun _ => none) _ _ _ _ _ _ _ _ hexport)
  have hlisted : (["objects", sha256Hex blankBytes], blankBytes) ∈ s.listedFiles 0 "ana" :=
    List.mem_cons_of_mem _ (List.mem_cons_of_mem _ (List.mem_cons_of_mem _ hobject))
  exact not_safeSize_blankBytes (hlimits.1 _ (mem_packageFiles hlisted))

theorem export_verifies_iff_blank : ∃ store p, exportPackage blankZip (assetDb blankBytes) store 0 "t1" "p1" "ana" = .ok p ∧
    ((∃ v, verifyExport plainRuntime (fun _ => none) p.file = .ok v ∧ v.rootHash = p.rootHash) ↔
      FitsLimits blankZip (assetDb blankBytes) store 0 "t1" "p1" "ana") := by
  obtain ⟨store, hread⟩ := exists_store blankBytes (by rw [length_blankBytes]; decide)
  obtain ⟨s, hs, _⟩ := takeSnapshot_assetDb hread
  have hexport : exportPackage blankZip (assetDb blankBytes) store 0 "t1" "p1" "ana" = .ok (packSnapshot blankZip s 0 "ana") :=
    bind_eq_ok.mpr ⟨s, hs, rfl⟩
  exact ⟨store, _, hexport, export_verifies_iff plainRuntime (documented_standardRuntime .ofRepr) (fun _ => none) blankZip
    (assetDb blankBytes) store 0 "t1" "p1" "ana" _ hexport⟩

end Sample

end Preservation
end Sip
