import Sip.Archive.Writing

/-!
# A valid package is identified by its root

A package is valid when none of the checks finds anything. Together they force the
declared files to be exactly the members other than `checksums.json`, each with the
digest of its bytes, whatever else the checksum manifest says; and the root is computed
from the declared files.
-/

namespace Sip
namespace ArchiveSafety

set_option autoImplicit false

section Law
variable (strictLoads : Bytes → Option Json) (a b : List ZipMember)

/-- The same member names, and the same bytes in every member other than the checksums. -/
structure SameContent : Prop where
  names : (memberNames a).Perm (memberNames b)
  bytes : ∀ name, name ≠ "checksums.json" → readMember a name = readMember b name

/-- What verification hashes: the members, and what the root is computed from. -/
def hashedBytes (members : List ZipMember) : List Bytes :=
  (memberNames members).filterMap (readMember members) ++
    merkleBytes (declared strictLoads members (memberNames members)).files

/-- Two different byte strings, one hashed for each package, with one digest. -/
def ExhibitsCollision : Prop :=
  ∃ x ∈ hashedBytes strictLoads a, ∃ y ∈ hashedBytes strictLoads b, Sha256Collision x y

end Law

section Findings
variable {members : List ZipMember} {names files : List String}

/-- Without findings the declared files are the members other than the checksums. -/
theorem mem_files_iff (h : coverageFindings names files = []) (name : String) :
    name ∈ files ↔ name ∈ names ∧ name ≠ "checksums.json" := by
  simp only [coverageFindings, List.append_eq_nil_iff, List.map_eq_nil_iff, List.filter_eq_nil_iff, mem_sortedSet_id,
    List.mem_filter, decide_eq_true_eq, not_not, and_imp] at h
  obtain ⟨⟨hcovered, hexpected⟩, _⟩ := h
  constructor
  · intro hfile
    exact hexpected name hfile
  · rintro ⟨hname, hne⟩
    exact hcovered name hname hne

theorem checkDeclared_eq_nil {entry : String × String} (hname : entry.1 ∈ names) (h : checkDeclared members names entry = []) :
    ∃ data, readMember members entry.1 = some data ∧ entry.2 = sha256Hex data := by
  rw [checkDeclared, if_neg (not_not.mpr hname)] at h
  split at h
  · cases h
  · next data hread =>
    split at h
    · next hdigest => exact ⟨data, hread, hdigest.symm⟩
    · cases h

theorem readMember_eq_none {name : String} (h : name ∉ memberNames members) : readMember members name = none := by
  have hfind : (members.reverse.find? fun member => member.filename = name) = none := by
    apply List.find?_eq_none.mpr
    intro member hmember hname
    apply h
    exact List.mem_map.mpr ⟨member, List.mem_reverse.mp hmember, of_decide_eq_true hname⟩
  rw [readMember, hfind, Option.bind_none]

end Findings

section Valid
variable {strictLoads : Bytes → Option Json} {profile : PackageProfile} {members : List ZipMember}

/-- What validity establishes about the declared files. -/
structure Covered (strictLoads : Bytes → Option Json) (members : List ZipMember) (files : List (String × String)) : Prop where
  declared : (ArchiveSafety.declared strictLoads members (memberNames members)).files = files
  checksums : "checksums.json" ∈ memberNames members
  names : ∀ name, name ∈ files.map Prod.fst ↔ name ∈ memberNames members ∧ name ≠ "checksums.json"
  digests : ∀ entry ∈ files, ∃ data, readMember members entry.1 = some data ∧ entry.2 = sha256Hex data

theorem covered_of_valid (h : (verifyChecksumManifest strictLoads profile members (memberNames members)).valid = true) :
    ∃ files, Covered strictLoads members files ∧
      (verifyChecksumManifest strictLoads profile members (memberNames members)).rootHash = actualRoot files := by
  simp only [ChecksumReport.valid, verifyChecksumManifest, List.isEmpty_iff, List.append_eq_nil_iff] at h
  obtain ⟨⟨⟨⟨_, hmanifest⟩, hcoverage⟩, hdigests⟩, _⟩ := h
  refine ⟨_, ⟨rfl, ?_, mem_files_iff hcoverage, ?_⟩, rfl⟩
  · by_contra hmissing
    rw [declared, if_neg hmissing] at hmanifest
    cases hmanifest
  · intro entry hentry
    have hname := ((mem_files_iff hcoverage entry.1).mp (List.mem_map_of_mem hentry)).1
    apply checkDeclared_eq_nil hname
    exact List.flatMap_eq_nil_iff.mp hdigests entry (mem_sortBy.mpr hentry)

variable {files : List (String × String)} {name : String}

/-- A member other than the checksums is declared, with the digest of its bytes. -/
theorem Covered.declared_of_mem (h : Covered strictLoads members files) (hname : name ∈ memberNames members)
    (hne : name ≠ "checksums.json") : ∃ data, readMember members name = some data ∧ (name, sha256Hex data) ∈ files := by
  obtain ⟨entry, hentry, rfl⟩ := List.mem_map.mp ((h.names name).mpr ⟨hname, hne⟩)
  obtain ⟨data, hread, hdigest⟩ := h.digests entry hentry
  refine ⟨data, hread, ?_⟩
  rw [← hdigest]
  exact hentry

theorem Covered.zero_not_mem (h : Covered strictLoads members files) {entry : String × String} (hentry : entry ∈ files) :
    '\x00' ∉ entry.2.toList := by
  obtain ⟨data, _, hdigest⟩ := h.digests entry hentry
  rw [hdigest]
  exact zero_not_mem_digest (isDigest_sha256Hex data)

theorem Covered.hashed_of_read (hname : name ∈ memberNames members) {data : Bytes} (hread : readMember members name = some data) :
    data ∈ hashedBytes strictLoads members :=
  List.mem_append_left _ (List.mem_filterMap.mpr ⟨name, hname, hread⟩)

end Valid

section Identity
variable {strictLoads : Bytes → Option Json} {a b : List ZipMember} {fa fb : List (String × String)}

theorem apart_of_not_collision (h : ¬ ExhibitsCollision strictLoads a b) {x y : Bytes}
    (hx : x ∈ hashedBytes strictLoads a) (hy : y ∈ hashedBytes strictLoads b) (heq : sha256Hex x = sha256Hex y) : x = y := by
  by_contra hne
  exact h ⟨x, hx, y, hy, hne, hex_injective heq⟩

theorem ExhibitsCollision.symm (h : ExhibitsCollision strictLoads a b) : ExhibitsCollision strictLoads b a := by
  obtain ⟨x, hx, y, hy, hcollision⟩ := h
  exact ⟨y, hy, x, hx, hcollision.symm⟩

theorem merkleRoot_ne_empty (entries : List (String × String)) : merkleRoot entries ≠ "" := by
  obtain ⟨v, _, hroot⟩ := exists_merkleRoot entries
  rw [← hroot]
  intro h
  have hlength := length_sha256Hex v
  rw [h] at hlength
  cases hlength

theorem merkleRoot_eq_of_actualRoot_eq (h : actualRoot fa = actualRoot fb) (hne : fa ≠ []) : merkleRoot fa = merkleRoot fb := by
  unfold actualRoot at h
  rw [if_neg hne] at h
  split at h
  · exact absurd h (merkleRoot_ne_empty fa)
  · exact h

/-- Where nothing collides, what one package declares the other declares too. -/
theorem mem_of_root_eq (ha : Covered strictLoads a fa) (hb : Covered strictLoads b fb) (hroot : actualRoot fa = actualRoot fb)
    (hcollision : ¬ ExhibitsCollision strictLoads a b) {entry : String × String} (hentry : entry ∈ fa) : entry ∈ fb := by
  have hmerkle := merkleRoot_eq_of_actualRoot_eq hroot (List.ne_nil_of_mem hentry)
  have hapart : ∀ u ∈ merkleBytes fa, ∀ v ∈ merkleBytes fb, sha256Hex u = sha256Hex v → u = v := by
    intro u hu v hv heq
    apply apart_of_not_collision hcollision _ _ heq
    · apply List.mem_append_right
      rw [ha.declared]
      exact hu
    · apply List.mem_append_right
      rw [hb.declared]
      exact hv
  obtain ⟨other, hother, hleaf⟩ := leaf_of_merkleRoot_eq hmerkle hapart hentry
  obtain ⟨hname, hdigest⟩ := leafBytes_injective (ha.zero_not_mem hentry) (hb.zero_not_mem hother) hleaf
  rw [Prod.ext hname hdigest]
  exact hother

/-- Where nothing collides, a member of one package is a member of the other, with the same bytes. -/
theorem read_eq_of_root_eq (name : String) (ha : Covered strictLoads a fa) (hb : Covered strictLoads b fb) (hroot : actualRoot fa = actualRoot fb)
    (hcollision : ¬ ExhibitsCollision strictLoads a b) (hname : name ∈ memberNames a) :
    name ∈ memberNames b ∧ (name ≠ "checksums.json" → readMember a name = readMember b name) := by
  by_cases hne : name = "checksums.json"
  · rw [hne]
    exact ⟨hb.checksums, fun h => absurd rfl h⟩
  · obtain ⟨data, hread, hentry⟩ := ha.declared_of_mem hname hne
    have hother := mem_of_root_eq ha hb hroot hcollision hentry
    have hname' : name ∈ memberNames b := ((hb.names name).mp (List.mem_map.mpr ⟨_, hother, rfl⟩)).1
    obtain ⟨data', hread', hdigest⟩ := hb.digests _ hother
    have hdata := apart_of_not_collision hcollision (Covered.hashed_of_read hname hread)
      (Covered.hashed_of_read hname' hread') hdigest
    exact ⟨hname', fun _ => by rw [hread, hread', hdata]⟩

theorem sameContent_of_root_eq (hna : (memberNames a).Nodup) (hnb : (memberNames b).Nodup) (ha : Covered strictLoads a fa)
    (hb : Covered strictLoads b fb) (hroot : actualRoot fa = actualRoot fb) (hcollision : ¬ ExhibitsCollision strictLoads a b) :
    SameContent a b := by
  have hforth := fun name : String => read_eq_of_root_eq name ha hb hroot hcollision
  have hback := fun name : String => read_eq_of_root_eq name hb ha hroot.symm fun h => hcollision h.symm
  constructor
  · apply (List.perm_ext_iff_of_nodup hna hnb).mpr
    intro name
    exact ⟨fun hname => (hforth name hname).1, fun hname => (hback name hname).1⟩
  · intro name hne
    by_cases hname : name ∈ memberNames a
    · exact (hforth name hname).2 hne
    · have hname' : name ∉ memberNames b := fun h => hname (hback name h).1
      rw [readMember_eq_none hname, readMember_eq_none hname']

/-- Two validated packages whose checksums are valid and give one root have the same members with the same bytes, the
checksums apart, or two different texts that were hashed have one digest. -/
theorem valid_root_identifies (strictLoads : Bytes → Option Json) (profile : PackageProfile) (codePrefix : String)
    (limits : Limits) (a b : List ZipMember) (na nb : List String)
    (ha : validateZipMembers codePrefix limits a = .ok na) (hb : validateZipMembers codePrefix limits b = .ok nb)
    (hva : (verifyChecksumManifest strictLoads profile a na).valid = true)
    (hvb : (verifyChecksumManifest strictLoads profile b nb).valid = true)
    (hroot : (verifyChecksumManifest strictLoads profile a na).rootHash =
      (verifyChecksumManifest strictLoads profile b nb).rootHash) :
    SameContent a b ∨ ExhibitsCollision strictLoads a b := by
  obtain ⟨rfl, hna, _⟩ := validateZipMembers_ok ha
  obtain ⟨rfl, hnb, _⟩ := validateZipMembers_ok hb
  obtain ⟨fa, hca, hra⟩ := covered_of_valid hva
  obtain ⟨fb, hcb, hrb⟩ := covered_of_valid hvb
  rw [hra, hrb] at hroot
  by_cases hcollision : ExhibitsCollision strictLoads a b
  · exact .inr hcollision
  · exact .inl (sameContent_of_root_eq hna hnb hca hcb hroot hcollision)

end Identity

section NotesPackage

def notesFiles : List (String × Bytes) := [("notes.txt", [104, 105])]

def notesEntries : List (String × String) := notesFiles.map fun file => (file.1, sha256Hex file.2)

def notesManifest : Dict := [
  ("algorithm", .str "sha256"), ("files", .obj (notesEntries.map fun entry => (entry.1, .str entry.2))),
  ("root_hash", .str (merkleRoot notesEntries))]

def notesMembers : List (String × Bytes) := notesFiles ++ [("checksums.json", [123, 125])]

/-- A reader of the one document there is. -/
def notesLoads (data : Bytes) : Option Json := if data = [123, 125] then some (.obj notesManifest) else none

theorem validate_notes :
    validateZipMembers "HANDOFF" {} (written List.length notesMembers) = .ok (notesMembers.map Prod.fst) := by
  apply validateZipMembers_written (by decide) (by decide) (by decide) _ (by decide)
  intro member hmember
  rcases List.mem_cons.mp hmember with rfl | hmember
  · exact ⟨by decide, by decide, by decide⟩
  · rw [List.mem_singleton.mp hmember]
    exact ⟨by decide, by decide, by decide⟩

theorem verify_notes : verifyChecksumManifest notesLoads ⟨["notes.txt", "checksums.json"], ["notes.txt"]⟩
    (written List.length notesMembers) (notesMembers.map Prod.fst) = ⟨[], merkleRoot notesEntries, 1, 2⟩ := by
  apply verifyChecksumManifest_written ⟨rfl, rfl, rfl, List.Perm.refl _⟩ (by decide) (by decide) (by decide) (by decide) rfl
  · decide
  · decide
  · decide

theorem notes_root_identifies : SameContent (written List.length notesMembers) (written List.length notesMembers) ∨
    ExhibitsCollision notesLoads (written List.length notesMembers) (written List.length notesMembers) := by
  have hvalid : (verifyChecksumManifest notesLoads ⟨["notes.txt", "checksums.json"], ["notes.txt"]⟩
      (written List.length notesMembers) (notesMembers.map Prod.fst)).valid = true := by
    rw [verify_notes]
    rfl
  exact valid_root_identifies _ _ _ _ _ _ _ _ validate_notes validate_notes hvalid hvalid rfl

end NotesPackage

end ArchiveSafety
end Sip
