import Sip.Foundation.HashEvaluation
import Sip.Preservation.Unpacking
import Sip.Capture.MerkleTree

/-!
# What a preservation root commits to

The Merkle root determines the listed paths with their digests, unless two different
texts that were hashed have one digest.

What the manifest does not list, the root does not cover, `metadata.json` not excepted.
-/

namespace Sip
namespace Preservation

set_option autoImplicit false
open CapturePackage (pathParts)

section Reading
variable (py : PyRuntime) (host : String → Option Bytes)

/-- The files of a package once it is unpacked. -/
def unpacked (file : PackageFile) : Tree :=
  match file.entries.map safeExtractZip with
  | some (.ok t) => t
  | _ => {}

def manifestFields (t : Tree) : Dict := (((t.file? ["manifest.json"]).bind py.loads).bind Json.fields?).getD []

def manifestItems (t : Tree) : List Json :=
  match (((manifestFields py t).lookup "files").getD (.arr [])).iterate with
  | .ok items => items
  | .error _ => []

def itemPath? (item : Json) : Option String :=
  match item.item "path" with
  | .ok path => path.text?
  | .error _ => none

/-- The paths that the manifest lists. -/
def listedPaths (t : Tree) : List String := (manifestItems py t).filterMap itemPath?

/-- A listed path with the digest of what it names. -/
def listedEntry (t : Tree) (path : String) : String × String := (path, ((t.read host path).map sha256Hex).getD "None")

/-- The path leads to these parts below the directory. -/
def LeadsTo (path : String) (parts : List String) : Prop :=
  '\x00' ∉ path.toList ∧ path.toList.head? ≠ some '/' ∧ walk [] (pathParts path) = some parts

/-- A listed path names the metadata. -/
def ListsMetadata (t : Tree) : Prop :=
  ∃ path ∈ listedPaths py t, LeadsTo path ["metadata.json"] ∧ (t.read host path).isSome = true

/-- The document in `metadata.json`. -/
def metadata? (t : Tree) : Option Json := (t.file? ["metadata.json"]).bind py.loads

/-- What is hashed for the listed files and for the root. -/
def hashedBytes (t : Tree) : List Bytes :=
  (listedPaths py t).filterMap (t.read host) ++ merkleBytes ((listedPaths py t).map (listedEntry host t))

/-- What the verification or the import of a package hashes. -/
def Hashed (t : Tree) (data : Bytes) : Prop :=
  data ∈ hashedBytes py host t ∨ ∃ digest, importedObject host t digest = some data

/-- Two different byte strings, one hashed for each package, with one digest. -/
def ExhibitsCollision (a b : PackageFile) : Prop :=
  ∃ x y, Hashed py host (unpacked a) x ∧ Hashed py host (unpacked b) y ∧ Sha256Collision x y

/-- An import of either package acts on the same metadata and takes the same bytes for every digest. -/
def SameReplay (a b : PackageFile) : Prop :=
  metadata? py (unpacked a) = metadata? py (unpacked b) ∧
    ∀ digest x y, importedObject host (unpacked a) digest = some x → importedObject host (unpacked b) digest = some y →
      x = y

end Reading

section Accepted
variable {py : PyRuntime} {host : String → Option Bytes}

theorem read_of_leadsTo {t : Tree} {path : String} {parts : List String} (h : LeadsTo path parts)
    (hsome : (t.read host path).isSome = true) : t.read host path = t.file? parts := by
  obtain ⟨hzero, hroot, hwalk⟩ := h
  rw [Tree.read, if_neg hzero, if_neg hroot, hwalk] at hsome ⊢
  dsimp only at hsome ⊢
  split
  next => rfl
  next hpassed =>
    rw [if_neg hpassed] at hsome
    cases hsome

theorem checkFile_ok {t : Tree} {item : Json} {check : FileCheck} (h : checkFile host t item = .ok check) :
    itemPath? item = some check.path ∧ check.entry = listedEntry host t check.path := by
  simp only [checkFile, bind_eq_ok, orRaise_eq_ok] at h
  obtain ⟨raw, hraw, path, hpath, expected, _, _, _, hcheck⟩ := h
  cases hcheck
  constructor
  · rw [itemPath?, hraw]
    exact hpath
  · rfl

theorem mapM_checkFile_ok {t : Tree} {items : List Json} {checks : List FileCheck}
    (h : items.mapM (checkFile host t) = .ok checks) :
    checks.map FileCheck.entry = (items.filterMap itemPath?).map (listedEntry host t) := by
  induction items generalizing checks with
  | nil =>
    cases h
    rfl
  | cons item items ih =>
    rw [List.mapM_cons, bind_eq_ok] at h
    obtain ⟨check, hcheck, h⟩ := h
    obtain ⟨rest, hrest, h⟩ := bind_eq_ok.mp h
    cases h
    obtain ⟨hpath, hentry⟩ := checkFile_ok hcheck
    rw [List.map_cons, ih hrest, hentry, List.filterMap_cons_some hpath, List.map_cons]

/-- What acceptance establishes about the unpacked files. -/
structure Accepted (py : PyRuntime) (host : String → Option Bytes) (t : Tree) (r : Verified) : Prop where
  rootHash : r.rootHash = merkleRoot ((listedPaths py t).map (listedEntry host t))
  metadata : metadata? py t = some (.obj r.metadata)

theorem readDocument_ok {t : Tree} {path : List String} {missing : Raised} {value : Json}
    (h : readDocument py t path missing = .ok value) : (t.file? path).bind py.loads = some value := by
  simp only [readDocument, bind_eq_ok, orRaise_eq_ok] at h
  obtain ⟨data, hdata, hvalue⟩ := h
  rw [hdata]
  exact hvalue

theorem fields?_eq_some {value : Json} {fields : Dict} (h : value.fields? = some fields) : value = .obj fields := by
  cases value with
  | obj gs =>
    cases h
    rfl
  | _ => cases h

theorem accepted_of_verifyTree {t : Tree} {sha : String} {r : Verified} (h : verifyTree py host t sha = .ok r) :
    Accepted py host t r := by
  simp only [verifyTree, bind_eq_ok, orRaise_eq_ok] at h
  obtain ⟨document, hdocument, manifest, hmanifest, items, hitems, checks, hchecks, _, _, metadata, hmetadata, fields,
    hfields, _, _, hr⟩ := h
  cases hr
  have hlisted : manifestItems py t = items := by
    rw [manifestItems, manifestFields, readDocument_ok hdocument]
    simp only [Option.bind_some, hmanifest, Option.getD_some, hitems]
  constructor
  · dsimp only
    rw [mapM_checkFile_ok hchecks, listedPaths, hlisted]
  · rw [metadata?, readDocument_ok hmetadata, fields?_eq_some hfields]

theorem accepted_of_verifyExport {file : PackageFile} {r : Verified} (h : verifyExport py host file = .ok r) :
    Accepted py host (unpacked file) r := by
  simp only [verifyExport, bind_eq_ok, orRaise_eq_ok] at h
  obtain ⟨entries, hentries, t, ht, htree⟩ := h
  have hunpacked : unpacked file = t := by
    rw [unpacked, hentries, Option.map_some, ht]
  rw [hunpacked]
  exact accepted_of_verifyTree htree

end Accepted

section Commitment
variable {py : PyRuntime} {host : String → Option Bytes} {a b : PackageFile} {ra rb : Verified}

theorem zero_not_mem_listedEntry (host : String → Option Bytes) (t : Tree) (path : String) : '\x00' ∉ (listedEntry host t path).2.toList := by
  have hnone : '\x00' ∉ "None".toList := by decide
  rw [listedEntry]
  cases t.read host path with
  | none => exact hnone
  | some data => exact zero_not_mem_digest (isDigest_sha256Hex data)

theorem apart_of_not_collision (hcollision : ¬ ExhibitsCollision py host a b) {x y : Bytes}
    (hx : Hashed py host (unpacked a) x) (hy : Hashed py host (unpacked b) y) (h : sha256Hex x = sha256Hex y) : x = y := by
  by_contra hne
  exact hcollision ⟨x, y, hx, hy, hne, hex_injective h⟩

/-- Where nothing collides, a path that one manifest lists with a file is listed by the other, with the same bytes. -/
theorem read_eq_of_listed (ha : Accepted py host (unpacked a) ra) (hb : Accepted py host (unpacked b) rb)
    (hroot : ra.rootHash = rb.rootHash) (hcollision : ¬ ExhibitsCollision py host a b) {path : String} {data : Bytes}
    (hpath : path ∈ listedPaths py (unpacked a)) (hdata : (unpacked a).read host path = some data) :
    (unpacked b).read host path = some data := by
  rw [ha.rootHash, hb.rootHash] at hroot
  have hentry : listedEntry host (unpacked a) path ∈ (listedPaths py (unpacked a)).map (listedEntry host (unpacked a)) :=
    List.mem_map_of_mem hpath
  have hapart : ∀ u ∈ merkleBytes ((listedPaths py (unpacked a)).map (listedEntry host (unpacked a))),
      ∀ v ∈ merkleBytes ((listedPaths py (unpacked b)).map (listedEntry host (unpacked b))),
        sha256Hex u = sha256Hex v → u = v := by
    intro u hu v hv heq
    exact apart_of_not_collision hcollision (.inl (List.mem_append_right _ hu)) (.inl (List.mem_append_right _ hv)) heq
  obtain ⟨other, hother, hleaf⟩ := leaf_of_merkleRoot_eq hroot hapart hentry
  obtain ⟨path', hpath', rfl⟩ := List.mem_map.mp hother
  obtain ⟨rfl, hdigest⟩ := leafBytes_injective (zero_not_mem_listedEntry host (unpacked a) path)
    (zero_not_mem_listedEntry host (unpacked b) path') hleaf
  cases hread : (unpacked b).read host path with
  | none =>
    have hnone : sha256Hex data = "None" := by simpa [listedEntry, hdata, hread] using hdigest
    have hlength := length_sha256Hex data
    rw [hnone] at hlength
    exact absurd hlength (by decide)
  | some data' =>
    have hsha : sha256Hex data = sha256Hex data' := by simpa [listedEntry, hdata, hread] using hdigest
    have hx : Hashed py host (unpacked a) data :=
      .inl (List.mem_append_left _ (List.mem_filterMap.mpr ⟨path, hpath, hdata⟩))
    have hy : Hashed py host (unpacked b) data' :=
      .inl (List.mem_append_left _ (List.mem_filterMap.mpr ⟨path, hpath', hread⟩))
    rw [apart_of_not_collision hcollision hx hy hsha]

theorem importedObject_eq_some {t : Tree} {digest : String} {data : Bytes}
    (h : importedObject host t digest = some data) : sha256Hex data = digest := by
  rw [importedObject, Option.filter_eq_some_iff] at h
  simpa using h.2

theorem objects_eq_of_not_collision (hcollision : ¬ ExhibitsCollision py host a b) {digest : String} {x y : Bytes}
    (hx : importedObject host (unpacked a) digest = some x) (hy : importedObject host (unpacked b) digest = some y) : x = y := by
  apply apart_of_not_collision hcollision (.inr ⟨digest, hx⟩) (.inr ⟨digest, hy⟩)
  rw [importedObject_eq_some hx, importedObject_eq_some hy]

/-- Two accepted packages with one root are imported alike, up to a collision on what was hashed, exactly when a
manifest lists the metadata or the metadata that it leaves out are the same. -/
theorem verified_root_commits_iff (py : PyRuntime) (host : String → Option Bytes) (a b : PackageFile) (ra rb : Verified)
    (ha : verifyExport py host a = .ok ra) (hb : verifyExport py host b = .ok rb) (hroot : ra.rootHash = rb.rootHash) :
    SameReplay py host a b ∨ ExhibitsCollision py host a b ↔
      (ListsMetadata py host (unpacked a) ∨ metadata? py (unpacked a) = metadata? py (unpacked b)) ∨
        ExhibitsCollision py host a b := by
  constructor
  · rintro (hsame | hcollision)
    · exact .inl (.inr hsame.1)
    · exact .inr hcollision
  · intro h
    by_cases hcollision : ExhibitsCollision py host a b
    · exact .inr hcollision
    left
    constructor
    · rcases h.resolve_right hcollision with ⟨path, hpath, hleads, hsome⟩ | hsame
      · obtain ⟨data, hdata⟩ := Option.isSome_iff_exists.mp hsome
        have hother := read_eq_of_listed (accepted_of_verifyExport ha) (accepted_of_verifyExport hb) hroot hcollision hpath
          hdata
        have hfile : (unpacked a).file? ["metadata.json"] = some data := by
          rw [← read_of_leadsTo hleads hsome, hdata]
        have hfile' : (unpacked b).file? ["metadata.json"] = some data := by
          have hsome' : ((unpacked b).read host path).isSome = true := by rw [hother]; rfl
          rw [← read_of_leadsTo hleads hsome', hother]
        rw [metadata?, metadata?, hfile, hfile']
      · exact hsame
    · intro digest x y hx hy
      exact objects_eq_of_not_collision hcollision hx hy

end Commitment

section Uncovered

def emptyRoot : String := "e3b0c44298fc1c149afbf4c8996fb92427ae41e4649b934ca495991b7852b855"

theorem sha256Hex_nil : sha256Hex [] = emptyRoot := by
  rw [sha256Hex, sha256_eq_digestWords]
  decide +kernel

def emptyManifest : Dict := [("files", .arr []), ("root_hash", .str emptyRoot)]

def projectMetadata (name : String) : Dict := [
  ("format", .str "sip-open-preservation"), ("format_version", .str "1.1.0"),
  ("project", .obj [("name", .str name), ("project_id", .str "p1")]),
  ("tenant", .obj [("name", .str "t"), ("tenant_id", .str "t1")])]

/-- A package whose manifest lists nothing. -/
def looseFiles (name : String) : List (List String × Bytes) :=
  [(["manifest.json"], documentBytes (.obj emptyManifest)), (["metadata.json"], documentBytes (.obj (projectMetadata name)))]

def looseBytes : Bytes := [80, 75, 5, 6]

def loosePackage (name : String) : PackageFile := ⟨looseBytes, some ((looseFiles name).map (zipEntry fun _ => 100))⟩

def plainRuntime : PyRuntime := standardRuntime .ofRepr

def looseVerified (name : String) : Verified := ⟨emptyRoot, 0, projectMetadata name, [], sha256Hex looseBytes⟩

theorem layout_looseFiles (name : String) : Layout (looseFiles name) where
  plain file hfile := by
    simp only [looseFiles, List.mem_cons, List.not_mem_nil, or_false] at hfile
    rcases hfile with rfl | rfl
    all_goals
      refine ⟨List.cons_ne_nil _ _, fun part hpart => ?_⟩
      rw [List.mem_singleton.mp hpart]
      exact plainPart_of_decide (by decide)
  nodup := by
    simp [looseFiles]
  flat file hfile other hother hstart := by
    simp only [looseFiles, List.mem_cons, List.not_mem_nil, or_false] at hfile hother
    rcases hfile with rfl | rfl <;> rcases hother with rfl | rfl <;> first | rfl | simp at hstart

theorem unpack_looseFiles {name : String} (hshort : (documentBytes (.obj (projectMetadata name))).length ≤ 1000) :
    ∃ t, safeExtractZip ((looseFiles name).map (zipEntry fun _ => 100)) = .ok t ∧ Holds (looseFiles name) t := by
  have hmanifest : (documentBytes (.obj emptyManifest)).length = 101 := by decide
  apply (safeExtractZip_iff (layout_looseFiles name)).mpr
  constructor
  · intro file hfile
    simp only [looseFiles, List.mem_cons, List.not_mem_nil, or_false] at hfile
    rcases hfile with rfl | rfl
    all_goals
      simp only [SafeSize, maxEntryBytes, maxRatio]
      omega
  · simp only [totalBytes, looseFiles, List.map_cons, List.map_nil, List.sum_cons, List.sum_nil, maxTotalBytes]
    omega

theorem readDocument_of_lookup {py : PyRuntime} (hpy : Documented py) {files : List (List String × Bytes)} {t : Tree}
    (ht : Holds files t) (path : List String) (value : Json) (hvalue : value.Distinct) (missing : Raised)
    (hlookup : files.lookup path = some (documentBytes value)) : readDocument py t path missing = .ok value.normalize := by
  simp only [readDocument, bind_eq_ok, orRaise_eq_ok, ht.files_eq]
  exact ⟨_, hlookup, hpy.loads_dumps value hvalue⟩

theorem normalize_emptyManifest : (Json.obj emptyManifest).normalize = .obj emptyManifest := by
  simp [emptyManifest, Json.normalize, Json.normalizeFields, Json.normalizeItems]

theorem normalize_projectMetadata (name : String) :
    (Json.obj (projectMetadata name)).normalize = .obj (projectMetadata name) := by
  simp [projectMetadata, Json.normalize, Json.normalizeFields]

theorem verifyMetadata_project (t : Tree) (name : String) :
    verifyMetadata plainRuntime (fun _ => none) t (projectMetadata name) = .ok () := by
  rfl

theorem verify_loosePackage (name : String) (hshort : (documentBytes (.obj (projectMetadata name))).length ≤ 1000) :
    verifyExport plainRuntime (fun _ => none) (loosePackage name) = .ok (looseVerified name) ∧
      ∃ t, unpacked (loosePackage name) = t ∧ Holds (looseFiles name) t := by
  obtain ⟨t, ht, hholds⟩ := unpack_looseFiles hshort
  have hpy : Documented plainRuntime := documented_standardRuntime .ofRepr
  have hmanifest := readDocument_of_lookup hpy hholds ["manifest.json"] (.obj emptyManifest)
    (by simp [emptyManifest, Json.Distinct, Json.DistinctFields, Json.DistinctItems])
    (validationError "EXPORT_MANIFEST_MISSING" "preservation package has no manifest") rfl
  have hmetadata := readDocument_of_lookup hpy hholds ["metadata.json"] (.obj (projectMetadata name))
    (by simp [projectMetadata, Json.Distinct, Json.DistinctFields])
    (validationError "EXPORT_METADATA_MISSING" "preservation package has no metadata") rfl
  rw [normalize_emptyManifest] at hmanifest
  rw [normalize_projectMetadata] at hmetadata
  constructor
  · simp only [verifyExport, verifyTree, bind_eq_ok, orRaise_eq_ok, raiseIf_eq_ok]
    refine ⟨_, rfl, t, ht, _, hmanifest, emptyManifest, rfl, [], rfl, [], rfl, (), ?_, _, hmetadata, projectMetadata name, rfl,
      (), verifyMetadata_project t name, ?_⟩
    · rw [List.map_nil, merkleRoot_nil, sha256Hex_nil]
      decide
    · rw [List.map_nil, merkleRoot_nil, sha256Hex_nil]
      rfl
  · refine ⟨t, ?_, hholds⟩
    rw [unpacked, loosePackage, Option.map_some, ht]

/-- For such a package, nothing is hashed but the empty text. -/
theorem hashed_loose {name : String} {t : Tree} (ht : Holds (looseFiles name) t) {x : Bytes}
    (hx : Hashed plainRuntime (fun _ => none) t x) : x = [] := by
  have hpy : Documented plainRuntime := documented_standardRuntime .ofRepr
  have hmanifest := readDocument_of_lookup hpy ht ["manifest.json"] (.obj emptyManifest)
    (by simp [emptyManifest, Json.Distinct, Json.DistinctFields, Json.DistinctItems]) .invalidTag rfl
  rw [normalize_emptyManifest] at hmanifest
  have hlisted : listedPaths plainRuntime t = [] := by
    rw [listedPaths, manifestItems, manifestFields, readDocument_ok hmanifest]
    rfl
  rcases hx with hx | ⟨digest, hx⟩
  · rw [hashedBytes, hlisted, List.filterMap_nil, List.nil_append, List.map_nil, merkleBytes, if_pos rfl] at hx
    exact List.mem_singleton.mp hx
  · have hmem := (importedObject_of_holds ht _ hx).2
    simp [looseFiles] at hmem

theorem short_projectMetadata : (documentBytes (.obj (projectMetadata "yard"))).length ≤ 1000 ∧
    (documentBytes (.obj (projectMetadata "pier"))).length ≤ 1000 := by
  decide +kernel

/-- The two packages have one root and other project names, and nothing that was hashed for them collides. -/
theorem uncovered_metadata_accepted :
    verifyExport plainRuntime (fun _ => none) (loosePackage "yard") = .ok (looseVerified "yard") ∧
      verifyExport plainRuntime (fun _ => none) (loosePackage "pier") = .ok (looseVerified "pier") ∧
      (looseVerified "yard").rootHash = (looseVerified "pier").rootHash ∧
      ¬ (SameReplay plainRuntime (fun _ => none) (loosePackage "yard") (loosePackage "pier") ∨
        ExhibitsCollision plainRuntime (fun _ => none) (loosePackage "yard") (loosePackage "pier")) := by
  obtain ⟨hyard, t, hunpacked, hholds⟩ := verify_loosePackage "yard" short_projectMetadata.1
  obtain ⟨hpier, t', hunpacked', hholds'⟩ := verify_loosePackage "pier" short_projectMetadata.2
  refine ⟨hyard, hpier, rfl, ?_⟩
  rintro (hsame | ⟨x, y, hx, hy, hne, _⟩)
  · have hmetadata := hsame.1
    rw [(accepted_of_verifyExport hyard).metadata, (accepted_of_verifyExport hpier).metadata] at hmetadata
    simp [looseVerified, projectMetadata] at hmetadata
  · rw [hunpacked] at hx
    rw [hunpacked'] at hy
    exact hne ((hashed_loose hholds hx).trans (hashed_loose hholds' hy).symm)

/-- Of such a package and itself. -/
theorem loose_root_commits :
    SameReplay plainRuntime (fun _ => none) (loosePackage "yard") (loosePackage "yard") ∨
        ExhibitsCollision plainRuntime (fun _ => none) (loosePackage "yard") (loosePackage "yard") ↔
      (ListsMetadata plainRuntime (fun _ => none) (unpacked (loosePackage "yard")) ∨
          metadata? plainRuntime (unpacked (loosePackage "yard")) = metadata? plainRuntime (unpacked (loosePackage "yard"))) ∨
        ExhibitsCollision plainRuntime (fun _ => none) (loosePackage "yard") (loosePackage "yard") :=
  verified_root_commits_iff plainRuntime (fun _ => none) (loosePackage "yard") (loosePackage "yard") (looseVerified "yard")
    (looseVerified "yard") (verify_loosePackage _ short_projectMetadata.1).1 (verify_loosePackage _ short_projectMetadata.1).1 rfl

end Uncovered

end Preservation
end Sip
