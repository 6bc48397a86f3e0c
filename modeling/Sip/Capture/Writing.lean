import Mathlib.Data.List.TakeWhile
import Sip.Capture.Commitment
import Sip.Capture.FrameOrder
import Sip.Preservation.Unpacking

/-!
# Writing a capture package

The writer lists its files in a manifest, puts three digests into it, writes manifest and
files into an archive and validates the archive. The two sides hash different copies of
the manifest: the writer keeps a digest that the caller's manifest already has, and the
validator drops it. The archive shortens a name at its first zero character.
-/

namespace Sip
namespace CapturePackage

set_option autoImplicit false

section Writer

/-- The last suffix of the last component. -/
def suffix (path : String) : List Char :=
  let name := ((pathParts path).getLast?.getD "").toList
  let tail := (name.reverse.takeWhile (· ≠ '.')).reverse
  if tail ≠ [] ∧ tail.length + 1 < name.length then '.' :: tail else []

def mediaTypes : List (String × String) := [
  (".json", "application/json"), (".jpg", "image/jpeg"), (".jpeg", "image/jpeg"), (".png", "image/png"),
  (".heic", "image/heic"), (".mp4", "video/mp4"), (".glb", "model/gltf-binary"), (".gltf", "model/gltf+json"),
  (".obj", "model/obj"), (".f32", "application/vnd.sip.depth-f32"), (".u8", "application/vnd.sip.confidence-u8"),
  (".bin", "application/octet-stream")]

/-- `_media_type`; every suffix of the table is ASCII, so folding ASCII letters is enough. -/
def mediaType (path : String) : String :=
  (mediaTypes.lookup (String.ofList ((suffix path).map Char.toLower))).getD "application/octet-stream"

/-- The loop over the files: their paths are made safe and may not meet. -/
def normalizeFiles (normalized : List (String × Bytes)) : List (String × Bytes) → Except Raised (List (String × Bytes))
  | [] => .ok normalized
  | (path, payload) :: files => do
    let safe ← safeRelativePath path
    raiseIf (safe ∈ normalized.map Prod.fst)
      (validationError "CAPTURE_DUPLICATE_PATH" "capture package contains a duplicate path" [("path", .str safe)])
    normalizeFiles (normalized ++ [(safe, payload)]) files

/-- `sorted(normalized.items())`; the paths differ, so the payloads are never compared. -/
def sortedFiles (normalized : List (String × Bytes)) : List (String × Bytes) := sortBy Prod.fst normalized

def assetFields (file : String × Bytes) : Dict := [
  ("path", .str file.1), ("sha256", .str (sha256Hex file.2)), ("byte_count", .int file.2.length),
  ("media_type", .str (mediaType file.1))]

def assetsOf (files : List (String × Bytes)) : List Json := files.map fun file => .obj (assetFields file)

/-- `{**manifest, "schema_version": .., "assets": ..}` -/
def bodyOf (manifest : Dict) (files : List (String × Bytes)) : Dict :=
  (manifest.set "schema_version" (.str captureSchemaVersion)).set "assets" (.arr (assetsOf files))

def merkleRootOf (files : List (String × Bytes)) : String :=
  merkleRoot (files.map fun file => (file.1, sha256Hex file.2))

/-- The root manifest before the root hash is put in. -/
def unsealed (manifest : Dict) (files : List (String × Bytes)) : Dict :=
  ((bodyOf manifest files).set "semantic_hash" (.str (canonicalSha256 (.obj (bodyOf manifest files))))).set
    "asset_merkle_root" (.str (merkleRootOf files))

def rootHashOf (manifest : Dict) (files : List (String × Bytes)) : String :=
  canonicalSha256 (.obj (unsealed manifest files))

def rootManifest (manifest : Dict) (files : List (String × Bytes)) : Dict :=
  (unsealed manifest files).set "root_hash" (.str (rootHashOf manifest files))

/-- What writing an archive leaves: the size that deflate gives a payload, and the bytes of the file. -/
structure ZipWriter where
  deflatedSize : Bytes → Nat
  archive : List (String × Bytes) → Bytes

/-- The name of a member is cut off at the first zero character. -/
def zipName (name : String) : String := String.ofList (name.toList.takeWhile (· ≠ '\x00'))

def ZipWriter.entry (zip : ZipWriter) (member : String × Bytes) : ZipEntry :=
  ⟨zipName member.1, member.2.length, zip.deflatedSize member.2, some member.2⟩

/-- The members in the order they are written: the manifest, then the files. -/
def membersOf (manifest : Dict) (files : List (String × Bytes)) : List (String × Bytes) :=
  ("manifest.json", Preservation.documentBytes (.obj (rootManifest manifest files))) :: files

def ZipWriter.write (zip : ZipWriter) (members : List (String × Bytes)) : PackageFile :=
  ⟨zip.archive members, some (members.map zip.entry)⟩

structure WriteResult extends Report where
  manifest : Dict

def write (py : PyRuntime) (zip : ZipWriter) (manifest : Dict) (files : List (String × Bytes)) : Except Raised WriteResult := do
  let normalized ← normalizeFiles [] files
  let sorted := sortedFiles normalized
  let report ← validate py (zip.write (membersOf manifest sorted))
  return { report with manifest := rootManifest manifest sorted }

end Writer

section Paths

/-- The components of a safe path. -/
structure SafeParts (parts : List String) : Prop where
  ne_nil : parts ≠ []
  ne_parent : ".." ∉ parts
  named : ∀ part ∈ parts, part ≠ "" ∧ part ≠ "."
  plain : ∀ part ∈ parts, '/' ∉ part.toList ∧ '\\' ∉ part.toList

theorem mem_splitOn {cs l : List Char} {a : Char} (h : l ∈ cs.splitOn a) : a ∉ l ∧ ∀ c ∈ l, c ∈ cs := by
  induction cs generalizing l with
  | nil =>
    rw [List.splitOn_nil, List.mem_singleton] at h
    rw [h]
    exact ⟨List.not_mem_nil, fun c hc => absurd hc List.not_mem_nil⟩
  | cons x cs ih =>
    rw [List.splitOn_cons_eq_if_modifyHead] at h
    split at h
    · rcases List.mem_cons.mp h with rfl | h
      · exact ⟨List.not_mem_nil, fun c hc => absurd hc List.not_mem_nil⟩
      · obtain ⟨ha, hsub⟩ := ih h
        exact ⟨ha, fun c hc => List.mem_cons_of_mem x (hsub c hc)⟩
    · rename_i hxa
      obtain ⟨head, rest, hsplit⟩ := List.exists_cons_of_ne_nil (List.splitOn_ne_nil a cs)
      rw [hsplit, List.modifyHead_cons] at h
      rcases List.mem_cons.mp h with rfl | h
      · obtain ⟨ha, hsub⟩ := ih (hsplit ▸ List.mem_cons_self)
        refine ⟨?_, ?_⟩
        · intro hmem
          rcases List.mem_cons.mp hmem with rfl | hmem
          · exact hxa (beq_self_eq_true a)
          · exact ha hmem
        · intro c hc
          rcases List.mem_cons.mp hc with rfl | hc
          · exact List.mem_cons_self
          · exact List.mem_cons_of_mem x (hsub c hc)
      · obtain ⟨ha, hsub⟩ := ih (hsplit ▸ List.mem_cons_of_mem _ h)
        exact ⟨ha, fun c hc => List.mem_cons_of_mem x (hsub c hc)⟩

theorem safeParts_of_safeRelativePath {value safe : String} (h : safeRelativePath value = .ok safe) :
    ∃ parts, SafeParts parts ∧ safe = String.intercalate "/" parts := by
  simp only [safeRelativePath, bind_eq_ok, raiseIf_eq_ok, not_or] at h
  obtain ⟨_, ⟨_, hparent, hnil⟩, h⟩ := h
  cases h
  refine ⟨_, ⟨hnil, hparent, ?_, ?_⟩, rfl⟩
  · intro part hpart
    rw [pathParts, List.mem_filter, decide_eq_true_eq] at hpart
    exact hpart.2
  · intro part hpart
    rw [pathParts, List.mem_filter] at hpart
    obtain ⟨l, hl, rfl⟩ := List.mem_map.mp hpart.1
    obtain ⟨hslash, hsub⟩ := mem_splitOn hl
    rw [String.toList_ofList]
    refine ⟨hslash, ?_⟩
    intro hback
    have hin := hsub _ hback
    rw [String.toList_ofList] at hin
    obtain ⟨c, _, hc⟩ := List.mem_map.mp hin
    split at hc
    · exact absurd hc (by decide)
    · exact absurd hc ‹_›

variable {parts : List String}

theorem SafeParts.backslash_not_mem (h : SafeParts parts) : '\\' ∉ (String.intercalate "/" parts).toList := by
  rw [String.toList_intercalate]
  intro hmem
  rcases Preservation.mem_intercalate hmem with heq | ⟨l, hl, hc⟩
  · exact absurd heq (by decide)
  · obtain ⟨part, hpart, rfl⟩ := List.mem_map.mp hl
    exact (h.plain part hpart).2 hc

theorem SafeParts.pathParts (h : SafeParts parts) : pathParts (String.intercalate "/" parts) = parts := by
  have hsplit : (['/'].intercalate (parts.map String.toList)).splitOn '/' = parts.map String.toList := by
    apply List.splitOn_intercalate
    · intro l hl
      obtain ⟨part, hpart, rfl⟩ := List.mem_map.mp hl
      exact (h.plain part hpart).1
    · simpa using h.ne_nil
  have htext : (String.intercalate "/" parts).toList = ['/'].intercalate (parts.map String.toList) :=
    String.toList_intercalate
  rw [CapturePackage.pathParts, htext, hsplit, List.map_map]
  have hid : parts.map (String.ofList ∘ String.toList) = parts := by simp
  rw [hid, List.filter_eq_self]
  intro part hpart
  exact decide_eq_true (h.named part hpart)

theorem SafeParts.head?_ne (h : SafeParts parts) : (String.intercalate "/" parts).toList.head? ≠ some '/' := by
  obtain ⟨part, rest, rfl⟩ := List.exists_cons_of_ne_nil h.ne_nil
  have hne : part.toList ≠ [] := by
    intro heq
    exact (h.named part List.mem_cons_self).1 (String.toList_eq_nil_iff.mp heq)
  have hhead : (['/'].intercalate (part.toList :: rest.map String.toList)).head? = part.toList.head? := by
    cases rest with
    | nil => rw [List.map_nil, List.intercalate_singleton]
    | cons next rest =>
      rw [List.map_cons, List.intercalate_cons_cons, List.append_assoc, List.head?_append_of_ne_nil _ hne]
  rw [String.toList_intercalate, List.map_cons]
  intro heq
  exact (h.plain part List.mem_cons_self).1 (List.mem_of_mem_head? (hhead.symm.trans heq))

/-- A path that has been made safe is safe as it stands. -/
theorem safeRelativePath_safe {value safe : String} (h : safeRelativePath value = .ok safe) :
    safeRelativePath safe = .ok safe := by
  obtain ⟨parts, hparts, rfl⟩ := safeParts_of_safeRelativePath h
  have hsame : (String.intercalate "/" parts).toList.map (fun c => if c = '\\' then '/' else c) =
      (String.intercalate "/" parts).toList := by
    conv_rhs => rw [← List.map_id (String.intercalate "/" parts).toList]
    apply List.map_congr_left
    intro c hc
    rw [if_neg]
    · rfl
    · rintro rfl
      exact hparts.backslash_not_mem hc
  simp only [safeRelativePath, bind_eq_ok, raiseIf_eq_ok, not_or, hsame, String.ofList_toList]
  exact ⟨(), ⟨hparts.head?_ne, by rw [hparts.pathParts]; exact hparts.ne_parent, by rw [hparts.pathParts]; exact hparts.ne_nil⟩,
    by rw [hparts.pathParts]; rfl⟩

theorem normalizeFiles_ok {normalized files result : List (String × Bytes)} (h : normalizeFiles normalized files = .ok result)
    (hnodup : (normalized.map Prod.fst).Nodup) (hsafe : ∀ file ∈ normalized, safeRelativePath file.1 = .ok file.1) :
    (result.map Prod.fst).Nodup ∧ ∀ file ∈ result, safeRelativePath file.1 = .ok file.1 := by
  induction files generalizing normalized with
  | nil =>
    cases h
    exact ⟨hnodup, hsafe⟩
  | cons file files ih =>
    obtain ⟨path, payload⟩ := file
    simp only [normalizeFiles, bind_eq_ok, raiseIf_eq_ok] at h
    obtain ⟨safe, hpath, _, hfresh, h⟩ := h
    apply ih h
    · rw [List.map_append, List.nodup_append]
      refine ⟨hnodup, List.nodup_singleton _, ?_⟩
      intro a ha b hb heq
      rw [List.map_singleton, List.mem_singleton] at hb
      rw [heq, hb] at ha
      exact hfresh ha
    · intro file hfile
      rcases List.mem_append.mp hfile with hfile | hfile
      · exact hsafe file hfile
      · rw [List.mem_singleton.mp hfile]
        exact safeRelativePath_safe hpath

end Paths

/-- The digests that the validator leaves out of what it hashes. -/
def derivedKeys : List String := ["semantic_hash", "asset_merkle_root", "root_hash"]

/-- The caller's manifest has no digests of its own, or SHA-256 does not tell them apart. -/
def DigestsAgree (manifest : Dict) (files : List (String × Bytes)) : Prop :=
  (∀ key ∈ derivedKeys, manifest.lookup key = none) ∨
    (Sha256Collision (canonicalJson (.obj (bodyOf manifest files)))
      (canonicalJson (.obj (without derivedKeys (bodyOf manifest files)))) ∧
    (manifest.lookup "root_hash" = none ∨ Sha256Collision (canonicalJson (.obj (unsealed manifest files)))
      (canonicalJson (.obj (without ["root_hash"] (unsealed manifest files))))))

/-- What the validator asks of the package beyond what the writer checks. -/
structure Encodable (zip : ZipWriter) (manifest : Dict) (files : List (String × Bytes)) : Prop where
  apart : "manifest.json" ∉ files.map Prod.fst
  plain : ∀ file ∈ files, '\x00' ∉ file.1.toList
  count : files.length + 1 ≤ maxArchiveFiles
  total : ((membersOf manifest files).map fun member => member.2.length).sum ≤ maxArchiveUncompressedBytes
  ratio : ∀ member ∈ membersOf manifest files,
    zip.deflatedSize member.2 = 0 ∨ member.2.length ≤ maxCompressionRatio * zip.deflatedSize member.2
  digests : DigestsAgree manifest files

section Sizes

theorem validateSizes_iff {total : Nat} {infos : List ZipEntry} (htotal : total ≤ maxArchiveUncompressedBytes) :
    validateSizes total infos = .ok () ↔ total + (infos.map ZipEntry.fileSize).sum ≤ maxArchiveUncompressedBytes ∧
      ∀ info ∈ infos, info.compressSize = 0 ∨ info.fileSize ≤ maxCompressionRatio * info.compressSize := by
  induction infos generalizing total with
  | nil => exact iff_of_true rfl ⟨htotal, fun _ h => absurd h List.not_mem_nil⟩
  | cons info infos ih =>
    simp only [validateSizes, bind_eq_ok, raiseIf_eq_ok, List.map_cons, List.sum_cons, List.forall_mem_cons]
    constructor
    · rintro ⟨_, hentry, _, hratio, h⟩
      obtain ⟨hsum, hrest⟩ := (ih (by omega)).mp h
      refine ⟨by omega, ?_, hrest⟩
      by_cases hzero : info.compressSize = 0
      · exact Or.inl hzero
      · exact Or.inr (by omega)
    · rintro ⟨hsum, hratio, hrest⟩
      refine ⟨(), by omega, (), ?_, (ih (by omega)).mpr ⟨by omega, hrest⟩⟩
      rintro ⟨hne, hlt⟩
      rcases hratio with hratio | hratio
      · exact hne hratio
      · omega

end Sizes

section Names
variable {zip : ZipWriter} {manifest : Dict} {files : List (String × Bytes)} {name : String}

theorem zero_not_mem_zipName (name : String) : '\x00' ∉ (zipName name).toList := by
  rw [zipName, String.toList_ofList]
  intro h
  have hne := List.mem_takeWhile_imp h
  exact absurd (of_decide_eq_true hne) (not_not.mpr rfl)

theorem zipName_of_plain (h : '\x00' ∉ name.toList) : zipName name = name := by
  have hall : name.toList.takeWhile (fun c => decide (c ≠ '\x00')) = name.toList := by
    rw [List.takeWhile_eq_self_iff]
    intro c hc
    apply decide_eq_true
    rintro rfl
    exact h hc
  rw [zipName, hall, String.ofList_toList]

theorem zipName_manifest : zipName "manifest.json" = "manifest.json" := by decide

theorem filenames_write (members : List (String × Bytes)) :
    (members.map zip.entry).map ZipEntry.filename = members.map fun member => zipName member.1 := by
  rw [List.map_map]
  rfl

theorem manifest?_write (py : PyRuntime) (files : List (String × Bytes)) :
    manifest? py ((membersOf manifest files).map zip.entry) =
      py.loads (Preservation.documentBytes (.obj (rootManifest manifest files))) := by
  have hhead : (zip.entry ("manifest.json", Preservation.documentBytes (.obj (rootManifest manifest files)))).filename =
      "manifest.json" := zipName_manifest
  have hread : readMember ((membersOf manifest files).map zip.entry) "manifest.json" =
      .ok (Preservation.documentBytes (.obj (rootManifest manifest files))) := by
    have hfind := @List.find?_cons_of_pos _ (fun entry : ZipEntry => decide (entry.filename = "manifest.json")) _
      (files.map zip.entry) (decide_eq_true hhead)
    rw [readMember, membersOf, List.map_cons, hfind]
    rfl
  rw [manifest?, hread]

/-- With plain names that differ, each member is read back. -/
theorem readMember_write {members : List (String × Bytes)} (hplain : ∀ member ∈ members, '\x00' ∉ member.1.toList)
    (hnodup : (members.map Prod.fst).Nodup) {member : String × Bytes} (hmember : member ∈ members) :
    readMember (members.map zip.entry) member.1 = .ok member.2 := by
  have hname : ∀ m ∈ members, (zip.entry m).filename = m.1 := fun m hm => zipName_of_plain (hplain m hm)
  have hfind : (members.map zip.entry).find? (fun entry => entry.filename = member.1) = some (zip.entry member) := by
    have hsome : ((members.map zip.entry).find? fun entry => entry.filename = member.1).isSome = true := by
      rw [List.find?_isSome]
      exact ⟨zip.entry member, List.mem_map_of_mem hmember, decide_eq_true (hname member hmember)⟩
    obtain ⟨found, hfound⟩ := Option.isSome_iff_exists.mp hsome
    obtain ⟨other, hother, rfl⟩ := List.mem_map.mp (List.mem_of_find?_eq_some hfound)
    have hsame := List.find?_some hfound
    have heq : other.1 = member.1 := (hname other hother).symm.trans (of_decide_eq_true hsame)
    rw [hfound, List.inj_on_of_nodup_map hnodup hother hmember heq]
  rw [readMember, hfind]
  rfl

end Names

section Documents
variable {manifest : Dict} {files : List (String × Bytes)}

theorem lookup_rootManifest (key : String) : (rootManifest manifest files).lookup key =
    if key = "root_hash" then some (.str (rootHashOf manifest files))
    else if key = "asset_merkle_root" then some (.str (merkleRootOf files))
    else if key = "semantic_hash" then some (.str (canonicalSha256 (.obj (bodyOf manifest files))))
    else if key = "assets" then some (.arr (assetsOf files))
    else if key = "schema_version" then some (.str captureSchemaVersion)
    else manifest.lookup key := by
  simp only [rootManifest, unsealed, bodyOf, Dict.lookup_set]

theorem distinct_str (s : String) : (Json.str s).Distinct := by simp [Json.Distinct]

theorem distinct_assetFields (file : String × Bytes) : (Json.obj (assetFields file)).Distinct := by
  apply Json.distinct_obj
  · have hkeys : (assetFields file).map Prod.fst = ["path", "sha256", "byte_count", "media_type"] := rfl
    rw [hkeys]
    decide
  · intro p hp
    simp only [assetFields, List.mem_cons, List.not_mem_nil, or_false] at hp
    rcases hp with rfl | rfl | rfl | rfl <;> simp [Json.Distinct]

theorem distinct_bodyOf (h : (Json.obj manifest).Distinct) : (Json.obj (bodyOf manifest files)).Distinct := by
  apply Json.distinct_set (Json.distinct_set h _ (distinct_str _))
  apply Json.distinct_arr
  intro asset hasset
  obtain ⟨file, _, rfl⟩ := List.mem_map.mp hasset
  exact distinct_assetFields file

theorem distinct_unsealed (h : (Json.obj manifest).Distinct) : (Json.obj (unsealed manifest files)).Distinct :=
  Json.distinct_set (Json.distinct_set (distinct_bodyOf h) _ (distinct_str _)) _ (distinct_str _)

theorem distinct_rootManifest (h : (Json.obj manifest).Distinct) : (Json.obj (rootManifest manifest files)).Distinct :=
  Json.distinct_set (distinct_unsealed h) _ (distinct_str _)

theorem without_set {keys : List String} {key : String} (h : key ∈ keys) (d : Dict) (value : Json) :
    without keys (d.set key value) = without keys d := by
  induction d with
  | nil => simp [without, Dict.set, h]
  | cons p d ih =>
    obtain ⟨k, v⟩ := p
    rw [Dict.set]
    split
    · rename_i hk
      subst hk
      simp [without, h]
    · simp only [without, List.filter_cons] at ih ⊢
      rw [ih]

theorem without_eq_self {keys : List String} {d : Dict} (h : ∀ key ∈ keys, d.lookup key = none) : without keys d = d := by
  rw [without, List.filter_eq_self]
  intro p hp
  apply decide_eq_true
  intro hkey
  have hnone := h p.1 hkey
  rw [List.lookup_eq_none_iff] at hnone
  exact absurd (hnone p hp) (by simp)

/-- Filtering a sorted copy and filtering the original give one canonical text. -/
theorem canonicalSha256_without_sorted {d : Dict} (h : (d.map Prod.fst).Nodup) (keys : List String) :
    canonicalSha256 (.obj (without keys (Json.sortedFields d))) = canonicalSha256 (.obj (without keys d)) := by
  have hnormal : ∀ d : Dict, (without keys (d.map fun p => (p.1, p.2.normalize))) =
      (without keys d).map fun p => (p.1, p.2.normalize) := by
    intro d
    rw [without, without, List.filter_map]
    rfl
  have hperm : (without keys (Json.sortedFields d)).Perm ((without keys d).map fun p => (p.1, p.2.normalize)) := by
    rw [← hnormal, ← Json.normalizeFields_eq_map]
    exact (List.perm_insertionSort _ _).filter _
  have htwice : ((without keys d).map fun p => (p.1, p.2.normalize)).map (fun p => (p.1, p.2.normalize)) =
      (without keys d).map fun p => (p.1, p.2.normalize) := by
    rw [List.map_map]
    apply List.map_congr_left
    intro p _
    rw [Function.comp_apply, Json.normalize_normalize]
  have hsame : (Json.obj (without keys d)).normalize = (Json.obj (without keys (Json.sortedFields d))).normalize := by
    apply Json.normalize_obj_of_perm (nodup_without h)
    rw [← htwice]
    exact (hperm.map _).symm
  rw [canonicalSha256, canonicalSha256, canonicalJson, canonicalJson, hsame]

theorem without_derived_rootManifest :
    without derivedKeys (rootManifest manifest files) = without derivedKeys (bodyOf manifest files) := by
  rw [rootManifest, unsealed, without_set (by decide), without_set (by decide), without_set (by decide)]

theorem without_rootHash_rootManifest :
    without ["root_hash"] (rootManifest manifest files) = without ["root_hash"] (unsealed manifest files) := by
  rw [rootManifest, without_set (by decide)]

/-- The two sides hash the same texts. -/
def SameDigests (manifest : Dict) (files : List (String × Bytes)) : Prop :=
  canonicalSha256 (.obj (without derivedKeys (bodyOf manifest files))) = canonicalSha256 (.obj (bodyOf manifest files)) ∧
    canonicalSha256 (.obj (without ["root_hash"] (unsealed manifest files))) = rootHashOf manifest files

theorem lookup_bodyOf {key : String} (h : key ∈ derivedKeys) : (bodyOf manifest files).lookup key = manifest.lookup key := by
  have hassets : key ≠ "assets" := by
    rintro rfl
    exact absurd h (by decide)
  have hversion : key ≠ "schema_version" := by
    rintro rfl
    exact absurd h (by decide)
  rw [bodyOf, Dict.lookup_set, if_neg hassets, Dict.lookup_set, if_neg hversion]

theorem lookup_unsealed_rootHash : (unsealed manifest files).lookup "root_hash" = manifest.lookup "root_hash" := by
  rw [unsealed, Dict.lookup_set, if_neg (by decide), Dict.lookup_set, if_neg (by decide), lookup_bodyOf (by decide)]

/-- A key that one text has and the other has not tells the texts apart. -/
theorem canonicalJson_without_ne {d : Dict} (hd : (Json.obj d).Distinct) {keys : List String} {key : String}
    (hkey : key ∈ keys) (h : d.lookup key ≠ none) : canonicalJson (.obj d) ≠ canonicalJson (.obj (without keys d)) := by
  intro htext
  have hlookup := canonicalJson_obj_lookup hd.keys (nodup_without hd.keys) htext key
  have hgone : (without keys d).lookup key = none := by
    rw [List.lookup_eq_none_iff]
    intro p hp
    have hne : p.1 ∉ keys := of_decide_eq_true (List.mem_filter.mp hp).2
    rw [bne_iff_ne]
    rintro rfl
    exact hne hkey
  rw [hgone, Option.map_none, Option.map_eq_none_iff] at hlookup
  exact h hlookup

theorem sameDigests_iff (hd : (Json.obj manifest).Distinct) : SameDigests manifest files ↔ DigestsAgree manifest files := by
  have hunsealed : (Json.obj (unsealed manifest files)).Distinct := distinct_unsealed hd
  have hkeep : manifest.lookup "root_hash" = none → without ["root_hash"] (unsealed manifest files) = unsealed manifest files := by
    intro hnone
    apply without_eq_self
    intro key hkey
    rw [List.mem_singleton.mp hkey, lookup_unsealed_rootHash, hnone]
  constructor
  · rintro ⟨hsemantic, hroot⟩
    by_cases hnone : ∀ key ∈ derivedKeys, manifest.lookup key = none
    · exact Or.inl hnone
    · simp only [not_forall] at hnone
      obtain ⟨key, hkey, hpresent⟩ := hnone
      have hbody : (bodyOf manifest files).lookup key = manifest.lookup key := lookup_bodyOf hkey
      rw [← hbody] at hpresent
      refine Or.inr ⟨⟨canonicalJson_without_ne (distinct_bodyOf hd) hkey hpresent, (hex_injective hsemantic).symm⟩, ?_⟩
      by_cases hsealed : manifest.lookup "root_hash" = none
      · exact Or.inl hsealed
      · have hlookup : (unsealed manifest files).lookup "root_hash" = manifest.lookup "root_hash" := lookup_unsealed_rootHash
        rw [← hlookup] at hsealed
        exact Or.inr ⟨canonicalJson_without_ne hunsealed (List.mem_singleton_self _) hsealed, (hex_injective hroot).symm⟩
  · rintro (hnone | ⟨⟨_, hsemantic⟩, hroot⟩)
    · have hbody : ∀ key ∈ derivedKeys, (bodyOf manifest files).lookup key = none := by
        intro key hkey
        rw [lookup_bodyOf hkey]
        exact hnone key hkey
      refine ⟨by rw [without_eq_self hbody], ?_⟩
      rw [rootHashOf, hkeep (hnone "root_hash" (by decide))]
    · refine ⟨congrArg hex hsemantic.symm, ?_⟩
      rcases hroot with hnone | ⟨_, hroot⟩
      · rw [rootHashOf, hkeep hnone]
      · exact congrArg hex hroot.symm

end Documents

section Accepting
variable {py : PyRuntime} {zip : ZipWriter} {manifest : Dict} {files : List (String × Bytes)}

/-- The manifest as it is read back. -/
def readBack (manifest : Dict) (files : List (String × Bytes)) : Json := (Json.obj (rootManifest manifest files)).normalize

theorem item_readBack (files : List (String × Bytes)) (hd : (Json.obj manifest).Distinct) (key : String) {value : Json}
    (h : (rootManifest manifest files).lookup key = some value) :
    (readBack manifest files).item key = .ok value.normalize :=
  Json.item_normalize (distinct_rootManifest hd) (Json.item_eq_ok.mpr ⟨_, rfl, h⟩)

theorem item_assetFields (file : String × Bytes) (key : String) {value : Json} (h : (assetFields file).lookup key = some value) :
    (Json.obj (assetFields file)).normalize.item key = .ok value.normalize :=
  Json.item_normalize (distinct_assetFields file) (Json.item_eq_ok.mpr ⟨_, rfl, h⟩)

theorem merkleEntry_normalize (file : String × Bytes) :
    merkleEntry (Json.obj (assetFields file)).normalize = .ok (file.1, sha256Hex file.2) := by
  have hpath := item_assetFields file "path" rfl
  have hdigest := item_assetFields file "sha256" rfl
  simp only [merkleEntry, hpath, hdigest, Json.normalize_str, bind_eq_ok, orRaise_eq_ok]
  exact ⟨_, rfl, _, rfl, _, rfl, _, rfl, rfl⟩

theorem assetPath_normalize (file : String × Bytes) :
    assetPath (Json.obj (assetFields file)).normalize = safeRelativePath file.1 := by
  have hpath := item_assetFields file "path" rfl
  rw [assetPath, hpath, Json.normalize_str]
  rfl

theorem mapM_merkleEntry : ((assetsOf files).map Json.normalize).mapM merkleEntry =
    .ok (files.map fun file => (file.1, sha256Hex file.2)) := by
  rw [assetsOf, List.map_map]
  induction files with
  | nil => rfl
  | cons file files ih =>
    rw [List.map_cons, List.mapM_cons, ih, Function.comp_apply, merkleEntry_normalize]
    rfl

theorem checkAsset_write {members : List (String × Bytes)} (hplain : ∀ member ∈ members, '\x00' ∉ member.1.toList)
    (hnodup : (members.map Prod.fst).Nodup) {file : String × Bytes} (hfile : file ∈ members)
    (hsafe : safeRelativePath file.1 = .ok file.1) :
    checkAsset (members.map zip.entry) (Json.obj (assetFields file)).normalize =
      .ok ⟨file.1, true, sha256Hex file.2, file.2.length⟩ := by
  have hdigest := item_assetFields file "sha256" rfl
  have hcount := item_assetFields file "byte_count" rfl
  have hvalid : assetValid (Json.obj (assetFields file)).normalize file.2 = .ok true := by
    have htext : (Json.str (sha256Hex file.2)).normalize.isText (sha256Hex file.2) = true := by
      rw [Json.normalize_str, Json.isText_iff]
    have hnumber : (Json.int (file.2.length : Int)).normalize.rat? = some (file.2.length : Rat) := by
      rw [Json.rat?_normalize]
      exact congrArg some (Rat.intCast_natCast _)
    simp only [assetValid, hdigest, hcount, bind_eq_ok]
    refine ⟨_, rfl, ?_⟩
    rw [if_pos htext]
    simp only [bind_eq_ok]
    exact ⟨_, rfl, congrArg Except.ok (decide_eq_true hnumber)⟩
  have hname : file.1 ∈ (members.map zip.entry).map ZipEntry.filename := by
    rw [filenames_write]
    exact List.mem_map.mpr ⟨file, hfile, zipName_of_plain (hplain file hfile)⟩
  simp only [checkAsset, assetPath_normalize, hsafe, bind_eq_ok, raiseIf_eq_ok, not_not]
  exact ⟨file.1, rfl, (), hname, file.2, readMember_write hplain hnodup hfile, true, hvalid, (), by decide, rfl⟩

theorem checkHashes_readBack (hd : (Json.obj manifest).Distinct) :
    checkHashes (Json.sortedFields (rootManifest manifest files)) (readBack manifest files)
      (files.map fun file => (file.1, sha256Hex file.2)) = .ok () ↔ SameDigests manifest files := by
  have hrootManifest : (Json.obj (rootManifest manifest files)).Distinct := distinct_rootManifest hd
  have hkeys := hrootManifest.keys
  have hsemantic := item_readBack files hd "semantic_hash" (lookup_rootManifest _)
  have hmerkle := item_readBack files hd "asset_merkle_root" (lookup_rootManifest _)
  have hroot := item_readBack files hd "root_hash" (lookup_rootManifest _)
  have hbody := canonicalSha256_without_sorted hkeys derivedKeys
  have hsealed : canonicalSha256 (rootBody (Json.sortedFields (rootManifest manifest files))) =
      canonicalSha256 (.obj (without ["root_hash"] (unsealed manifest files))) := by
    rw [rootBody, canonicalSha256_without_sorted hkeys, without_rootHash_rootManifest]
  rw [without_derived_rootManifest] at hbody
  rw [derivedKeys] at hbody
  simp only [checkHashes, hsemantic, hmerkle, hroot, bind_eq_ok, raiseIf_eq_ok, not_not, Json.normalize_str, Json.isText_iff,
    hbody, hsealed, Except.ok.injEq]
  constructor
  · rintro ⟨_, rfl, _, hfirst, _, rfl, _, _, _, rfl, hlast⟩
    exact ⟨(Json.str.inj hfirst).symm, (Json.str.inj hlast).symm⟩
  · rintro ⟨hfirst, hlast⟩
    exact ⟨_, rfl, (), congrArg Json.str hfirst.symm, _, rfl, (), rfl, _, rfl, congrArg Json.str hlast.symm⟩

/-- What the claim's caller provides beside the files. -/
structure Describes (py : PyRuntime) (manifest : Dict) (files : List (String × Bytes)) : Prop where
  distinct : (Json.obj manifest).Distinct
  captureId : (manifest.lookup "capture_id").isSome = true
  captureSource : (manifest.lookup "capture_source").isSome = true
  frames : ∃ frames, manifest.lookup "frames" = some (.arr frames) ∧
    validateFrames py frames (files.map Prod.fst) = .ok ()

theorem Describes.lookup_isSome (h : Describes py manifest files) {key : String} (hkey : key ∈ requiredFields) :
    ((rootManifest manifest files).lookup key).isSome = true := by
  obtain ⟨frames, hframes, _⟩ := h.frames
  have hother : ∀ key ∈ ["capture_id", "capture_source", "frames"], (manifest.lookup key).isSome = true := by
    intro key hkey
    simp only [List.mem_cons, List.not_mem_nil, or_false] at hkey
    rcases hkey with rfl | rfl | rfl
    · exact h.captureId
    · exact h.captureSource
    · rw [hframes]
      rfl
  rw [lookup_rootManifest]
  simp only [requiredFields, List.mem_cons, List.not_mem_nil, or_false] at hkey
  rcases hkey with rfl | rfl | rfl | rfl | rfl | rfl | rfl | rfl
  · rfl
  · exact hother _ (by decide)
  · exact hother _ (by decide)
  · exact hother _ (by decide)
  · rfl
  · rfl
  · rfl
  · rfl

theorem Describes.lookup_frames (h : Describes py manifest files) : ∃ frames,
    (rootManifest manifest files).lookup "frames" = some (.arr frames) ∧ (∀ frame ∈ frames, frame.Distinct) ∧
      validateFrames py frames (files.map Prod.fst) = .ok () := by
  obtain ⟨frames, hframes, hvalid⟩ := h.frames
  refine ⟨frames, (lookup_rootManifest "frames").trans hframes, ?_, hvalid⟩
  have harr := h.distinct.fields _ ((lookup_eq_some_iff_mem h.distinct.keys _ _).mp hframes)
  exact harr.items

theorem validateManifestShape_readBack (hone : py.intOfText "1" = some 1) (hstr : ∀ text, py.str (.str text) = text)
    (h : Describes py manifest files) : validateManifestShape py (readBack manifest files) = .ok () := by
  have hmissing : missingKeys requiredFields (Json.obj (rootManifest manifest files)) = .ok [] := by
    have hnone : requiredFields.filter (fun key => ((rootManifest manifest files).lookup key).isNone) = [] := by
      rw [List.filter_eq_nil_iff]
      intro key hkey hnone
      have hsome := h.lookup_isSome hkey
      rw [Option.isNone_iff_eq_none] at hnone
      rw [hnone] at hsome
      cases hsome
    simp only [missingKeys, hnone]
    rfl
  have hversion := item_readBack files h.distinct "schema_version" (lookup_rootManifest _)
  have hassets := item_readBack files h.distinct "assets" (lookup_rootManifest _)
  obtain ⟨frames, hlookup, _⟩ := h.lookup_frames
  have hframes := item_readBack files h.distinct _ hlookup
  have hmajor : majorText captureSchemaVersion = "1" := by decide
  have hmissing' := missingKeys_normalize (distinct_rootManifest h.distinct) hmissing
  have harr : ∀ items, (Json.arr items).normalize.isArr = true := by
    intro items
    rw [Json.normalize]
    rfl
  simp only [validateManifestShape, bind_eq_ok, raiseIf_eq_ok, orRaise_eq_ok, not_or, not_not]
  refine ⟨[], hmissing', (), rfl, _, hversion, 1, ?_, (), by decide, _, hassets, _, hframes, harr _, harr _⟩
  rw [Json.normalize_str, hstr, hmajor]
  exact hone

theorem mapM_checkAsset {members : List (String × Bytes)} (hplain : ∀ member ∈ members, '\x00' ∉ member.1.toList)
    (hnodup : (members.map Prod.fst).Nodup) (hfiles : ∀ file ∈ files, file ∈ members)
    (hsafe : ∀ file ∈ files, safeRelativePath file.1 = .ok file.1) :
    ∃ checks, ((assetsOf files).map Json.normalize).mapM (checkAsset (members.map zip.entry)) = .ok checks := by
  rw [assetsOf, List.map_map]
  induction files with
  | nil => exact ⟨[], rfl⟩
  | cons file files ih =>
    obtain ⟨checks, hchecks⟩ := ih (fun f hf => hfiles f (List.mem_cons_of_mem _ hf))
      fun f hf => hsafe f (List.mem_cons_of_mem _ hf)
    have hfile : checkAsset (members.map zip.entry) (Json.obj (assetFields file)).normalize =
        .ok ⟨file.1, true, sha256Hex file.2, file.2.length⟩ :=
      checkAsset_write hplain hnodup (hfiles file List.mem_cons_self) (hsafe file List.mem_cons_self)
    refine ⟨⟨file.1, true, sha256Hex file.2, file.2.length⟩ :: checks, ?_⟩
    rw [List.map_cons, List.mapM_cons, hchecks, Function.comp_apply, hfile]
    rfl

/-- Past the checks of the archive, acceptance is a matter of the two digests. -/
theorem validateManifest_readBack (hone : py.intOfText "1" = some 1) (hstr : ∀ text, py.str (.str text) = text)
    (h : Describes py manifest files) {file : PackageFile} {entries : List ZipEntry}
    (hchecks : ∃ checks, ((assetsOf files).map Json.normalize).mapM (checkAsset entries) = .ok checks) :
    (∃ report, validateManifest py file entries (readBack manifest files) = .ok report ∧
      report.rootHash = .str (rootHashOf manifest files)) ↔ SameDigests manifest files := by
  obtain ⟨checks, hchecks⟩ := hchecks
  obtain ⟨frames, hlookup, hdistinct, hvalid⟩ := h.lookup_frames
  have hframes := item_readBack files h.distinct _ hlookup
  have hassets := item_readBack files h.distinct "assets" (lookup_rootManifest _)
  have hroot := item_readBack files h.distinct "root_hash" (lookup_rootManifest _)
  have hshape := validateManifestShape_readBack hone hstr h
  have hfields : (readBack manifest files).fields? = some (Json.sortedFields (rootManifest manifest files)) := by
    rw [readBack, Json.normalize_obj]
    rfl
  rw [Json.normalize, Json.normalizeItems_eq_map] at hframes hassets
  rw [← checkHashes_readBack h.distinct]
  constructor
  · rintro ⟨report, hreport, _⟩
    simp only [validateManifest, bind_eq_ok, orRaise_eq_ok] at hreport
    obtain ⟨_, _, fields, hfound, value, hvalue, assets, hiterate, _, _, entries', hmerkle, _, hhashes, _⟩ := hreport
    cases hfields.symm.trans hfound
    cases hassets.symm.trans hvalue
    cases hiterate
    cases mapM_merkleEntry.symm.trans hmerkle
    exact hhashes
  · intro hhashes
    obtain ⟨captureId, hcaptureId⟩ := Option.isSome_iff_exists.mp (h.lookup_isSome (show "capture_id" ∈ requiredFields by decide))
    have hid := item_readBack files h.distinct _ hcaptureId
    have hversion := item_readBack files h.distinct "schema_version" (lookup_rootManifest _)
    have hpaths : (files.map fun file => (file.1, sha256Hex file.2)).map Prod.fst = files.map Prod.fst := by
      rw [List.map_map]
      rfl
    have hframesValid : validateFrames py (frames.map Json.normalize)
        ((files.map fun file => (file.1, sha256Hex file.2)).map Prod.fst) = .ok () := by
      rw [hpaths]
      exact validateFrames_normalize hdistinct hvalid
    simp only [validateManifest, bind_eq_ok, orRaise_eq_ok]
    exact ⟨_, ⟨(), hshape, _, hfields, _, hassets, _, rfl, checks, hchecks, _, mapM_merkleEntry, (), hhashes, _, hframes, _,
      rfl, (), hframesValid, _, hid, _, hversion, _, hroot, rfl⟩, Json.normalize_str _⟩

theorem checkAsset_name {entries : List ZipEntry} {file : String × Bytes} {check : AssetCheck}
    (hsafe : safeRelativePath file.1 = .ok file.1)
    (h : checkAsset entries (Json.obj (assetFields file)).normalize = .ok check) :
    file.1 ∈ entries.map ZipEntry.filename := by
  simp only [checkAsset, assetPath_normalize, hsafe, bind_eq_ok, raiseIf_eq_ok, not_not] at h
  obtain ⟨path, hpath, _, hname, _⟩ := h
  cases hpath
  exact hname

theorem plain_of_validateManifest {file : PackageFile} {report : Report} (hd : (Json.obj manifest).Distinct)
    {members : List (String × Bytes)} (hsafe : ∀ file ∈ files, safeRelativePath file.1 = .ok file.1)
    (h : validateManifest py file (members.map zip.entry) (readBack manifest files) = .ok report) :
    ∀ file ∈ files, '\x00' ∉ file.1.toList := by
  intro file hfile
  have hassets := item_readBack files hd "assets" (lookup_rootManifest _)
  rw [Json.normalize, Json.normalizeItems_eq_map] at hassets
  simp only [validateManifest, bind_eq_ok, orRaise_eq_ok] at h
  obtain ⟨_, _, _, _, value, hvalue, assets, hiterate, checks, hchecks, _⟩ := h
  cases hassets.symm.trans hvalue
  cases hiterate
  have hasset : (Json.obj (assetFields file)).normalize ∈ (assetsOf files).map Json.normalize :=
    List.mem_map_of_mem (List.mem_map_of_mem hfile)
  obtain ⟨check, _, hcheck⟩ := mapM_eq_ok_exists hchecks hasset
  have hname := checkAsset_name (hsafe file hfile) hcheck
  rw [filenames_write] at hname
  obtain ⟨member, _, hmember⟩ := List.mem_map.mp hname
  rw [← hmember]
  exact zero_not_mem_zipName _

theorem safeRelativePath_manifest : safeRelativePath "manifest.json" = .ok "manifest.json" := by
  have hname : String.intercalate "/" (pathParts "manifest.json") = "manifest.json" := by decide
  simp only [safeRelativePath, bind_eq_ok, raiseIf_eq_ok]
  exact ⟨(), by decide, congrArg Except.ok hname⟩

/-- What the archive is refused for before its manifest is looked at. -/
theorem validateEntries_write (hencodable : Encodable zip manifest files) (hnodup : (files.map Prod.fst).Nodup)
    (hsafe : ∀ file ∈ files, safeRelativePath file.1 = .ok file.1) :
    let entries := (membersOf manifest files).map zip.entry
    validateArchiveMetadata entries = .ok () ∧ (entries.map ZipEntry.filename).Nodup ∧
      ∀ name ∈ entries.map ZipEntry.filename, safeRelativePath name = .ok name := by
  intro entries
  have hplain : ∀ member ∈ membersOf manifest files, zipName member.1 = member.1 := by
    intro member hmember
    rcases List.mem_cons.mp hmember with rfl | hfile
    · exact zipName_manifest
    · exact zipName_of_plain (hencodable.plain member hfile)
  have hnames : entries.map ZipEntry.filename = "manifest.json" :: files.map Prod.fst := by
    rw [filenames_write]
    exact List.map_congr_left hplain
  refine ⟨?_, ?_, ?_⟩
  · have hcount : entries.length ≤ maxArchiveFiles := by
      rw [List.length_map, membersOf, List.length_cons]
      exact hencodable.count
    have hsizes : (entries.map ZipEntry.fileSize).sum ≤ maxArchiveUncompressedBytes := by
      have htotal := hencodable.total
      rwa [List.map_map]
    simp only [validateArchiveMetadata, bind_eq_ok, raiseIf_eq_ok, not_lt]
    refine ⟨(), hcount, (validateSizes_iff (Nat.zero_le _)).mpr ⟨by omega, ?_⟩⟩
    intro entry hentry
    obtain ⟨member, hmember, rfl⟩ := List.mem_map.mp hentry
    exact hencodable.ratio member hmember
  · rw [hnames]
    exact List.nodup_cons.mpr ⟨hencodable.apart, hnodup⟩
  · rw [hnames]
    intro name hname
    rcases List.mem_cons.mp hname with rfl | hname
    · exact safeRelativePath_manifest
    · obtain ⟨file, hfile, rfl⟩ := List.mem_map.mp hname
      exact hsafe file hfile

theorem apart_of_nodup (hnames : (((membersOf manifest files).map zip.entry).map ZipEntry.filename).Nodup) :
    "manifest.json" ∉ files.map Prod.fst := by
  rw [filenames_write, membersOf, List.map_cons, List.nodup_cons] at hnames
  intro hmem
  obtain ⟨file, hfile, hname⟩ := List.mem_map.mp hmem
  exact hnames.1 (List.mem_map.mpr ⟨file, hfile, congrArg zipName hname⟩)

theorem encodable_of_validateEntries (hdigests : DigestsAgree manifest files)
    (hplain : ∀ file ∈ files, '\x00' ∉ file.1.toList)
    (hmetadata : validateArchiveMetadata ((membersOf manifest files).map zip.entry) = .ok ())
    (hnodup : (((membersOf manifest files).map zip.entry).map ZipEntry.filename).Nodup) : Encodable zip manifest files := by
  simp only [validateArchiveMetadata, bind_eq_ok, raiseIf_eq_ok, not_lt] at hmetadata
  obtain ⟨_, hcount, hsizes⟩ := hmetadata
  obtain ⟨htotal, hratio⟩ := (validateSizes_iff (Nat.zero_le _)).mp hsizes
  rw [List.length_map, membersOf, List.length_cons] at hcount
  rw [List.map_map, Nat.zero_add] at htotal
  exact ⟨apart_of_nodup hnodup, hplain, hcount, htotal, fun member hmember => hratio _ (List.mem_map_of_mem hmember), hdigests⟩

/-- The archive that is written, read by its own validator. -/
theorem validate_write_iff (hpy : Preservation.Documented py) (hstr : ∀ text, py.str (.str text) = text)
    (h : Describes py manifest files) (hnodup : (files.map Prod.fst).Nodup)
    (hsafe : ∀ file ∈ files, safeRelativePath file.1 = .ok file.1) :
    (∃ report, validate py (zip.write (membersOf manifest files)) = .ok report ∧
      report.rootHash = .str (rootHashOf manifest files)) ↔ Encodable zip manifest files := by
  have hone := hpy.intOfText_one
  have hmanifest : manifest? py ((membersOf manifest files).map zip.entry) = some (readBack manifest files) :=
    (manifest?_write py files).trans (hpy.loads_dumps _ (distinct_rootManifest h.distinct))
  have hlisted : ∀ file ∈ files, file ∈ membersOf manifest files := fun file hfile => List.mem_cons_of_mem _ hfile
  have hchecks : (∀ file ∈ files, '\x00' ∉ file.1.toList) → "manifest.json" ∉ files.map Prod.fst →
      ∃ checks, ((assetsOf files).map Json.normalize).mapM
        (checkAsset ((membersOf manifest files).map zip.entry)) = .ok checks := by
    intro hplain hapart
    apply mapM_checkAsset _ _ hlisted hsafe
    · intro member hmember
      rcases List.mem_cons.mp hmember with rfl | hfile
      · exact (show '\x00' ∉ "manifest.json".toList by decide)
      · exact hplain member hfile
    · exact List.nodup_cons.mpr ⟨hapart, hnodup⟩
  constructor
  · rintro ⟨report, hreport, hroot⟩
    simp only [validate, bind_eq_ok, orRaise_eq_ok, raiseIf_eq_ok, not_not] at hreport
    obtain ⟨entries, hentries, _, hmetadata, _, hnames, _, _, _, _, value, hvalue, hreport⟩ := hreport
    cases hentries
    cases hmanifest.symm.trans hvalue
    have hplain := plain_of_validateManifest h.distinct hsafe hreport
    have hdigests := (validateManifest_readBack hone hstr h (hchecks hplain (apart_of_nodup hnames))).mp ⟨report, hreport, hroot⟩
    exact encodable_of_validateEntries ((sameDigests_iff h.distinct).mp hdigests) hplain hmetadata hnames
  · intro hencodable
    obtain ⟨hmetadata, hnames, hpaths⟩ := validateEntries_write hencodable hnodup hsafe
    have hdigests := (sameDigests_iff h.distinct).mpr hencodable.digests
    have hchecks := hchecks hencodable.plain hencodable.apart
    have hread : ∃ report, validateManifest py (zip.write (membersOf manifest files))
        ((membersOf manifest files).map zip.entry) (readBack manifest files) = .ok report ∧
          report.rootHash = .str (rootHashOf manifest files) := (validateManifest_readBack hone hstr h hchecks).mpr hdigests
    obtain ⟨report, hreport, hroot⟩ := hread
    refine ⟨report, ?_, hroot⟩
    have hlist : "manifest.json" ∈ ((membersOf manifest files).map zip.entry).map ZipEntry.filename := by
      rw [filenames_write, membersOf, List.map_cons, zipName_manifest]
      exact List.mem_cons_self
    simp only [validate, bind_eq_ok, orRaise_eq_ok, raiseIf_eq_ok, not_not]
    refine ⟨_, rfl, (), hmetadata, (), hnames, (), ?_, (), hlist, _, hmanifest, hreport⟩
    rw [forM_eq_ok]
    intro name hname
    rw [hpaths name hname]
    rfl

/-- A package that is written is accepted by the validator exactly when the writer's own checks leave nothing for it to find. -/
theorem written_package_valid_iff (hpy : Preservation.Documented py) (hstr : ∀ text, py.str (.str text) = text)
    {normalized : List (String × Bytes)} (hfiles : normalizeFiles [] files = .ok normalized)
    (h : Describes py manifest (sortedFiles normalized)) :
    (∃ result, write py zip manifest files = .ok result ∧
      result.rootHash = .str (rootHashOf manifest (sortedFiles normalized))) ↔
    Encodable zip manifest (sortedFiles normalized) := by
  obtain ⟨hnodup, hsafe⟩ := normalizeFiles_ok hfiles List.nodup_nil fun file hfile => absurd hfile List.not_mem_nil
  have hperm : (sortedFiles normalized).Perm normalized := perm_sortBy _ _
  have hnodup' := (hperm.map Prod.fst).nodup_iff.mpr hnodup
  have hsafe' : ∀ file ∈ sortedFiles normalized, safeRelativePath file.1 = .ok file.1 :=
    fun file hfile => hsafe file (hperm.mem_iff.mp hfile)
  rw [← validate_write_iff hpy hstr h hnodup' hsafe']
  simp only [write, hfiles, bind_eq_ok]
  constructor
  · rintro ⟨result, ⟨_, heq, report, hreport, hresult⟩, hroot⟩
    cases heq
    cases hresult
    exact ⟨report, hreport, hroot⟩
  · rintro ⟨report, hreport, hroot⟩
    exact ⟨_, ⟨_, rfl, report, hreport, rfl⟩, hroot⟩

/-- A runtime whose `str` of a text is that text, and an archive that stores its members as they are. -/
def plainRuntime : PyRuntime := { Preservation.standardRuntime .ofRepr with str := fun value => value.text?.getD "" }

def storedZip : ZipWriter := ⟨List.length, fun members => members.flatMap Prod.snd⟩

def bareManifest : Dict := [("capture_id", .str "capture"), ("capture_source", .str "phone"), ("frames", .arr [])]

theorem documented_plainRuntime : Preservation.Documented plainRuntime :=
  ⟨(Preservation.documented_standardRuntime .ofRepr).loads_dumps, (Preservation.documented_standardRuntime .ofRepr).intOfText_zero,
    (Preservation.documented_standardRuntime .ofRepr).intOfText_one⟩

theorem describes_bareManifest (files : List (String × Bytes)) : Describes plainRuntime bareManifest files where
  distinct := by
    apply Json.distinct_obj
    · decide
    · intro p hp
      simp only [bareManifest, List.mem_cons, List.not_mem_nil, or_false] at hp
      rcases hp with rfl | rfl | rfl <;> simp [Json.Distinct, Json.DistinctItems]
  captureId := rfl
  captureSource := rfl
  frames := ⟨[], rfl, rfl⟩

theorem normalizeFiles_sample : normalizeFiles [] [("scan.bin", [])] = .ok [("scan.bin", [])] := by
  have hname : String.intercalate "/" (pathParts "scan.bin") = "scan.bin" := by decide
  simp only [normalizeFiles, safeRelativePath, bind_eq_ok, raiseIf_eq_ok]
  exact ⟨"scan.bin", ⟨(), by decide, congrArg Except.ok hname⟩, (), by decide, rfl⟩

theorem written_package_valid_iff_scan :
    (∃ result, write plainRuntime storedZip bareManifest [("scan.bin", [])] = .ok result ∧
      result.rootHash = .str (rootHashOf bareManifest (sortedFiles [("scan.bin", [])]))) ↔
    Encodable storedZip bareManifest (sortedFiles [("scan.bin", [])]) :=
  written_package_valid_iff documented_plainRuntime (fun _ => rfl) normalizeFiles_sample (describes_bareManifest _)

/-- A file called `manifest.json` gets past the writer's checks, and the archive then holds the name twice. -/
theorem second_manifest_not_written : normalizeFiles [] [("manifest.json", [])] = .ok [("manifest.json", [])] ∧
    Describes plainRuntime bareManifest (sortedFiles [("manifest.json", [])]) ∧
    ∀ result, write plainRuntime storedZip bareManifest [("manifest.json", [])] ≠ .ok result := by
  have hfiles : normalizeFiles [] [("manifest.json", [])] = .ok [("manifest.json", [])] := by
    simp only [normalizeFiles, safeRelativePath_manifest, bind_eq_ok, raiseIf_eq_ok]
    exact ⟨_, rfl, (), by decide, rfl⟩
  refine ⟨hfiles, describes_bareManifest _, ?_⟩
  intro result hresult
  simp only [write, hfiles, bind_eq_ok, validate, orRaise_eq_ok, raiseIf_eq_ok, not_not] at hresult
  obtain ⟨_, heq, _, ⟨_, hentries, _, _, _, hnames, _⟩, _⟩ := hresult
  cases heq
  cases hentries
  exact apart_of_nodup hnames (List.mem_singleton_self _)

end Accepting

end CapturePackage
end Sip
