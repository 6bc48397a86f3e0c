import Sip.Archive.Locations
import Sip.Capture.MerkleTree

/-!
# Written packages are valid

A package whose checksum manifest is read back as a map of its other members to the
digests of their bytes, with the root over the map, passes verification. Its members
pass validation where their sizes do.
-/

namespace Sip
namespace ArchiveSafety

set_option autoImplicit false

section Writing

/-- `_zip_write`: a regular file, deflated to this size. -/
def zipWrite (deflatedSize : Bytes → Nat) (member : String × Bytes) : ZipMember :=
  ⟨⟨member.1, member.2.length, deflatedSize member.2, some member.2⟩, 0o100644 * 2 ^ 16⟩

def written (deflatedSize : Bytes → Nat) (members : List (String × Bytes)) : List ZipMember :=
  members.map (zipWrite deflatedSize)

/-- The bytes pass the checks of a single member's sizes. -/
structure FitsLimits (limits : Limits) (deflatedSize : Bytes → Nat) (data : Bytes) : Prop where
  size : data.length ≤ limits.maxMemberBytes
  deflated : data ≠ [] → deflatedSize data ≠ 0
  ratio : data.length ≤ limits.maxCompressionRatio * deflatedSize data

def totalBytes (members : List (String × Bytes)) : Nat := (members.map fun member => member.2.length).sum

/-- The manifest maps these files to the digests of their bytes and has the root over the map. -/
structure Declares (manifest : Dict) (files : List (String × Bytes)) (entries : List (String × String)) : Prop where
  algorithm : Dict.get manifest "algorithm" = .str "sha256"
  fileMap : Dict.get manifest "files" = .obj (entries.map fun entry => (entry.1, .str entry.2))
  root : Dict.get manifest "root_hash" = .str (merkleRoot entries)
  perm : entries.Perm (files.map fun file => (file.1, sha256Hex file.2))

end Writing

section Members
variable {codePrefix : String} {limits : Limits} {deflatedSize : Bytes → Nat} {members : List (String × Bytes)}

theorem memberNames_written : memberNames (written deflatedSize members) = members.map Prod.fst := by
  rw [memberNames, written, List.map_map]
  rfl

theorem checkMember_written {seen : List String} {total : Nat} {member : String × Bytes} (hsafe : unsafeName member.1 = false)
    (hseen : member.1 ∉ seen) (hfits : FitsLimits limits deflatedSize member.2)
    (htotal : total + member.2.length ≤ limits.maxTotalBytes) :
    checkMember codePrefix limits seen total (zipWrite deflatedSize member) = .ok () := by
  have hregular : isRegular (zipWrite deflatedSize member) = true := by
    have hkind : 0o100644 * 2 ^ 16 / 2 ^ 16 % 2 ^ 16 / 2 ^ 12 ∈ [0, 8] := by decide
    exact decide_eq_true hkind
  have hdeflated : ¬ (member.2.length ≠ 0 ∧ deflatedSize member.2 = 0) := by
    rintro ⟨hlength, hzero⟩
    exact hfits.deflated (fun hnil => hlength (by rw [hnil, List.length_nil])) hzero
  have hratio : ¬ (deflatedSize member.2 ≠ 0 ∧ limits.maxCompressionRatio * deflatedSize member.2 < member.2.length) := by
    rintro ⟨_, hlt⟩
    exact absurd hfits.ratio (not_le.mpr hlt)
  simp only [checkMember, bind_eq_ok, raiseIf_eq_ok, hregular, not_lt]
  exact ⟨(), by rw [zipWrite, hsafe]; decide, (), hseen, (), by decide, (), hfits.size, (), htotal, (), hdeflated, hratio⟩

theorem checkMembers_written {seen : List String} {total : Nat} (hsafe : ∀ member ∈ members, unsafeName member.1 = false)
    (hseen : ∀ member ∈ members, member.1 ∉ seen) (hnodup : (members.map Prod.fst).Nodup)
    (hfits : ∀ member ∈ members, FitsLimits limits deflatedSize member.2)
    (htotal : total + totalBytes members ≤ limits.maxTotalBytes) :
    checkMembers codePrefix limits seen total (written deflatedSize members) = .ok () := by
  induction members generalizing seen total with
  | nil => rfl
  | cons member members ih =>
    rw [List.map_cons, List.nodup_cons] at hnodup
    rw [totalBytes, List.map_cons, List.sum_cons] at htotal
    have hsize : total + member.2.length ≤ limits.maxTotalBytes := by omega
    have hmember : checkMember codePrefix limits seen total (zipWrite deflatedSize member) = .ok () :=
      checkMember_written (hsafe _ List.mem_cons_self) (hseen _ List.mem_cons_self) (hfits _ List.mem_cons_self) hsize
    rw [written, List.map_cons, checkMembers, bind_eq_ok]
    refine ⟨(), hmember, ?_⟩
    apply ih
    · exact fun m hm => hsafe m (List.mem_cons_of_mem _ hm)
    · intro m hm hmem
      rcases List.mem_cons.mp hmem with heq | hmem
      · apply hnodup.1
        rw [zipWrite] at heq
        dsimp only at heq
        rw [← heq]
        exact List.mem_map_of_mem hm
      · exact hseen m (List.mem_cons_of_mem _ hm) hmem
    · exact hnodup.2
    · exact fun m hm => hfits m (List.mem_cons_of_mem _ hm)
    · rw [totalBytes, zipWrite]
      dsimp only
      omega

/-- Written members whose sizes pass are valid. -/
theorem validateZipMembers_written (hcount : members.length ≤ limits.maxMembers)
    (hsafe : ∀ member ∈ members, unsafeName member.1 = false) (hnodup : (members.map Prod.fst).Nodup)
    (hfits : ∀ member ∈ members, FitsLimits limits deflatedSize member.2)
    (htotal : totalBytes members ≤ limits.maxTotalBytes) :
    validateZipMembers codePrefix limits (written deflatedSize members) = .ok (members.map Prod.fst) := by
  have hlength : ¬ limits.maxMembers < (written deflatedSize members).length := by
    rw [written, List.length_map]
    exact not_lt.mpr hcount
  have hmembers : checkMembers codePrefix limits [] 0 (written deflatedSize members) = .ok () := by
    apply checkMembers_written hsafe (fun _ _ => List.not_mem_nil) hnodup hfits
    rwa [Nat.zero_add]
  simp only [validateZipMembers, bind_eq_ok, raiseIf_eq_ok]
  exact ⟨(), hlength, (), hmembers, congrArg Except.ok memberNames_written⟩

theorem readMember_written (hnodup : (members.map Prod.fst).Nodup) {member : String × Bytes} (hmember : member ∈ members) :
    readMember (written deflatedSize members) member.1 = some member.2 := by
  have hfind : (written deflatedSize members).reverse.find? (fun m => m.filename = member.1) = some (zipWrite deflatedSize member) := by
    have hsome : ((written deflatedSize members).reverse.find? fun m => m.filename = member.1).isSome = true := by
      rw [List.find?_isSome]
      refine ⟨zipWrite deflatedSize member, ?_, decide_eq_true rfl⟩
      exact List.mem_reverse.mpr (List.mem_map_of_mem hmember)
    obtain ⟨found, hfound⟩ := Option.isSome_iff_exists.mp hsome
    obtain ⟨other, hother, rfl⟩ := List.mem_map.mp (List.mem_reverse.mp (List.mem_of_find?_eq_some hfound))
    have hsame := List.find?_some hfound
    have hname : other.1 = member.1 := of_decide_eq_true hsame
    rw [hfound, List.inj_on_of_nodup_map hnodup hother hmember hname]
  rw [readMember, hfind]
  rfl

end Members

section Checksums
variable {strictLoads : Bytes → Option Json} {profile : PackageProfile} {deflatedSize : Bytes → Nat}
  {files : List (String × Bytes)} {body : Bytes} {manifest : Dict} {entries : List (String × String)}

theorem declaredFiles_digests {entries : List (String × String)}
    (h : ∀ entry ∈ entries, entry.1 ≠ "" ∧ isDigest entry.2 = true) :
    declaredFiles (entries.map fun entry => (entry.1, .str entry.2)) = (entries, []) := by
  induction entries with
  | nil => rfl
  | cons entry entries ih =>
    obtain ⟨hname, hdigest⟩ := h entry List.mem_cons_self
    rw [List.map_cons, declaredFiles, ih fun e he => h e (List.mem_cons_of_mem _ he)]
    dsimp only
    rw [if_neg hname, if_pos hdigest]

theorem isDigest_merkleRoot (entries : List (String × String)) : isDigest (merkleRoot entries) = true := by
  obtain ⟨v, _, hroot⟩ := exists_merkleRoot entries
  rw [← hroot]
  exact isDigest_sha256Hex v

/-- A manifest that declares the files is read without findings. -/
theorem readManifest_declares (hdeclares : Declares manifest files entries) (hne : files ≠ [])
    (hnames : ∀ file ∈ files, file.1 ≠ "") :
    readManifest (some (.obj manifest)) = ⟨entries, merkleRoot entries, []⟩ := by
  have hdigests : ∀ entry ∈ entries, entry.1 ≠ "" ∧ isDigest entry.2 = true := by
    intro entry hentry
    obtain ⟨file, hfile, rfl⟩ := List.mem_map.mp (hdeclares.perm.mem_iff.mp hentry)
    exact ⟨hnames file hfile, isDigest_sha256Hex _⟩
  have hroot : declaredRoot (.str (merkleRoot entries)) = (merkleRoot entries, []) := by
    rw [declaredRoot, if_pos (isDigest_merkleRoot entries)]
  have hentries : entries ≠ [] := by
    intro hnil
    have hlength := hdeclares.perm.length_eq
    rw [hnil, List.length_map] at hlength
    exact hne (List.length_eq_zero_iff.mp hlength.symm)
  obtain ⟨entry, rest, rfl⟩ := List.exists_cons_of_ne_nil hentries
  have hfiles := declaredFiles_digests hdigests
  rw [List.map_cons] at hfiles
  have halgorithm : (Json.str "sha256").isText "sha256" = true := by decide
  simp only [readManifest, hdeclares.algorithm, hdeclares.fileMap, hdeclares.root, List.map_cons, hfiles, hroot, halgorithm,
    if_true, List.append_nil]

theorem coverageFindings_eq_nil {names : List String} (h : ∀ name, name ∈ names ↔ name ∈ files.map Prod.fst ∨ name = "checksums.json")
    (hfiles : "checksums.json" ∉ files.map Prod.fst) {paths : List String} (hpaths : paths.Perm (files.map Prod.fst)) :
    coverageFindings names paths = [] := by
  have hmem : ∀ name, name ∈ paths ↔ name ∈ files.map Prod.fst := fun name => hpaths.mem_iff
  simp only [coverageFindings, List.append_eq_nil_iff, List.map_eq_nil_iff, List.filter_eq_nil_iff, mem_sortedSet_id,
    List.mem_filter, decide_eq_true_eq, not_not, and_imp, hmem, h]
  refine ⟨⟨?_, ?_⟩, if_neg hfiles⟩
  · rintro name (hname | rfl) hne
    · exact hname
    · exact absurd rfl hne
  · intro name hname
    exact ⟨.inl hname, fun heq => hfiles (heq ▸ hname)⟩

/-- A written package with a manifest of its files is valid, and its root is the root over the map. -/
theorem verifyChecksumManifest_written (hdeclares : Declares manifest files entries) (hne : files ≠ [])
    (hnodup : (files.map Prod.fst).Nodup) (hnames : ∀ file ∈ files, file.1 ≠ "") (hchecksums : "checksums.json" ∉ files.map Prod.fst)
    (hbody : strictLoads body = some (.obj manifest))
    (hrequired : ∀ name ∈ profile.requiredMembers, name ∈ files.map Prod.fst ∨ name = "checksums.json")
    (hallowed : ∀ file ∈ files, file.1 ∈ profile.allowedMembers) (hallows : "checksums.json" ∈ profile.allowedMembers) :
    verifyChecksumManifest strictLoads profile (written deflatedSize (files ++ [("checksums.json", body)]))
      ((files ++ [("checksums.json", body)]).map Prod.fst) =
    ⟨[], merkleRoot entries, files.length, files.length + 1⟩ := by
  have hmem : ∀ name, name ∈ (files ++ [("checksums.json", body)]).map Prod.fst ↔
      name ∈ files.map Prod.fst ∨ name = "checksums.json" := by
    intro name
    rw [List.map_append, List.mem_append, List.map_singleton, List.mem_singleton]
  have hall : ((files ++ [("checksums.json", body)]).map Prod.fst).Nodup := by
    rw [List.map_append, List.map_singleton]
    exact hnodup.append (List.nodup_singleton _) (List.disjoint_singleton.mpr hchecksums)
  have hread : readMember (written deflatedSize (files ++ [("checksums.json", body)])) "checksums.json" = some body :=
    readMember_written hall (List.mem_append_right _ (List.mem_singleton_self _))
  have hmanifest : declared strictLoads (written deflatedSize (files ++ [("checksums.json", body)]))
      ((files ++ [("checksums.json", body)]).map Prod.fst) = ⟨entries, merkleRoot entries, []⟩ := by
    rw [declared, if_pos ((hmem _).mpr (.inr rfl)), hread, Option.bind_some, hbody, readManifest_declares hdeclares hne hnames]
  have hprofile : profileFindings profile ((files ++ [("checksums.json", body)]).map Prod.fst) = [] := by
    simp only [profileFindings, List.append_eq_nil_iff, List.map_eq_nil_iff, List.filter_eq_nil_iff, mem_sortedSet_id,
      decide_eq_true_eq, not_not, hmem]
    refine ⟨hrequired, ?_⟩
    rintro name (hname | rfl)
    · obtain ⟨file, hfile, rfl⟩ := List.mem_map.mp hname
      exact hallowed file hfile
    · exact hallows
  have hpaths : (entries.map Prod.fst).Perm (files.map Prod.fst) := by
    have hperm := hdeclares.perm.map Prod.fst
    rwa [List.map_map] at hperm
  have hcoverage := coverageFindings_eq_nil hmem hchecksums hpaths
  have hdigests : (sortBy Prod.fst entries).flatMap (checkDeclared (written deflatedSize (files ++ [("checksums.json", body)]))
      ((files ++ [("checksums.json", body)]).map Prod.fst)) = [] := by
    apply List.flatMap_eq_nil_iff.mpr
    intro entry hentry
    obtain ⟨file, hfile, rfl⟩ := List.mem_map.mp (hdeclares.perm.mem_iff.mp (mem_sortBy.mp hentry))
    have hname := (hmem file.1).mpr (.inl (List.mem_map_of_mem hfile))
    rw [checkDeclared, if_neg (not_not.mpr hname), readMember_written hall (List.mem_append_left _ hfile)]
    dsimp only
    rw [if_pos rfl]
  have hroot : actualRoot entries = merkleRoot entries := by
    rw [actualRoot, if_neg]
    intro hnil
    have hlength := hdeclares.perm.length_eq
    rw [hnil, List.length_map] at hlength
    exact hne (List.length_eq_zero_iff.mp hlength.symm)
  have hcount : entries.length = files.length := by
    rw [hdeclares.perm.length_eq, List.length_map]
  simp only [verifyChecksumManifest, hmanifest, hprofile, hcoverage, hdigests, hroot, hcount, List.append_nil,
    ne_eq, not_true_eq_false, and_false, if_false, List.length_map, List.length_append, List.length_singleton]

end Checksums

end ArchiveSafety
end Sip
