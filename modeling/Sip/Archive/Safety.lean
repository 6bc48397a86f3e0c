import Sip.Capture.Package
import Sip.Foundation.SortBy

/-!
# Validation of portable packages

The members of an archive are validated by their names and sizes before any byte is read.
The bytes are then compared with the digests in `checksums.json`, which has to cover
every other member. A package profile says which members may and which must be there.
-/

namespace Sip
namespace ArchiveSafety

set_option autoImplicit false
open CapturePackage (pathParts)

structure ZipMember extends ZipEntry where
  externalAttr : Nat

section Members

/-- The bounds of `validate_zip_members`, with its defaults. -/
structure Limits where
  maxMembers : Nat := 10000
  maxMemberBytes : Nat := 2 * 1024 * 1024 * 1024
  maxTotalBytes : Nat := 10 * 1024 * 1024 * 1024
  maxCompressionRatio : Nat := 200

variable (codePrefix : String) (limits : Limits)

/-- Part of the path is absolute, a parent, a drive or a backslash, or the path names no file. -/
def unsafeName (name : String) : Bool :=
  '\\' ∈ name.toList ∨ pathParts name = [] ∨ name.toList.head? = some '/' ∨ ".." ∈ pathParts name ∨
    (pathParts name).head?.any (fun part => ':' ∈ part.toList) ∨ name.toList.getLast? = some '/'

/-- The kind of a member: none given, or a regular file. -/
def isRegular (member : ZipMember) : Bool := (member.externalAttr / 2 ^ 16) % 2 ^ 16 / 2 ^ 12 ∈ [0, 8]

def memberError (code message path : String) : Raised := validationError (codePrefix ++ code) message [("path", .str path)]

/-- The checks of `validate_zip_members` on a member, after these names and this many bytes. -/
def checkMember (seen : List String) (total : Nat) (member : ZipMember) : Except Raised Unit := do
  let name := member.filename
  raiseIf (unsafeName name = true) (memberError codePrefix "_ARCHIVE_UNSAFE" "archive contains an unsafe member path" name)
  raiseIf (name ∈ seen) (memberError codePrefix "_ARCHIVE_UNSAFE" "archive contains duplicate members" name)
  raiseIf (isRegular member = false)
    (memberError codePrefix "_ARCHIVE_UNSAFE" "archive contains a non-regular member" name)
  raiseIf (limits.maxMemberBytes < member.fileSize)
    (memberError codePrefix "_MEMBER_TOO_LARGE" "archive member exceeds the configured size limit" name)
  raiseIf (limits.maxTotalBytes < total + member.fileSize)
    (validationError (codePrefix ++ "_ARCHIVE_TOO_LARGE") "archive expands beyond the configured total size limit")
  raiseIf (member.fileSize ≠ 0 ∧ member.compressSize = 0)
    (memberError codePrefix "_COMPRESSION_RATIO" "archive member has an invalid compressed size" name)
  -- a quotient of sizes within the limits is above the ratio as a float when it is
  raiseIf (member.compressSize ≠ 0 ∧ limits.maxCompressionRatio * member.compressSize < member.fileSize)
    (memberError codePrefix "_COMPRESSION_RATIO" "archive member exceeds the configured compression-ratio limit" name)

def checkMembers : List String → Nat → List ZipMember → Except Raised Unit
  | _, _, [] => .ok ()
  | seen, total, member :: members => do
    checkMember codePrefix limits seen total member
    checkMembers (member.filename :: seen) (total + member.fileSize) members

def memberNames (members : List ZipMember) : List String := members.map fun member => member.filename

/-- `validate_zip_members` -/
def validateZipMembers (members : List ZipMember) : Except Raised (List String) := do
  raiseIf (limits.maxMembers < members.length)
    (validationError (codePrefix ++ "_MEMBER_COUNT") "archive contains too many members")
  checkMembers codePrefix limits [] 0 members
  return memberNames members

end Members

section Checksums

structure PackageProfile where
  allowedMembers : List String
  requiredMembers : List String

def finding (path reason : String) : Json := .obj [("path", .str path), ("reason", .str reason)]

/-- `archive.read(name)` -/
def readMember (members : List ZipMember) (name : String) : Option Bytes :=
  (members.reverse.find? fun member => member.filename = name).bind fun member => member.content

/-- What a checksum manifest declares, and what is wrong with it. An empty root stands for none. -/
structure Declared where
  files : List (String × String) := []
  root : String := ""
  findings : List Json := []

/-- The digests of a file map, and what is wrong with its entries. -/
def declaredFiles : Dict → List (String × String) × List Json
  | [] => ([], [])
  | (name, value) :: entries =>
    let (files, findings) := declaredFiles entries
    if name = "" then (files, finding "checksums.json" "checksum_path_invalid" :: findings)
    else match value with
      | .str digest =>
        if isDigest digest then ((name, digest) :: files, findings)
        else (files, finding name "checksum_digest_invalid" :: findings)
      | _ => (files, finding name "checksum_digest_invalid" :: findings)

def declaredRoot : Json → String × List Json
  | .str root => if isDigest root then (root, []) else ("", [finding "checksums.json" "checksum_root_invalid"])
  | _ => ("", [finding "checksums.json" "checksum_root_invalid"])

/-- What the document in `checksums.json` declares. `null` is passed over. -/
def readManifest : Option Json → Declared
  | none => { findings := [finding "checksums.json" "checksum_manifest_invalid_json"] }
  | some .null => {}
  | some (.obj manifest) =>
    let algorithm := if (Dict.get manifest "algorithm").isText "sha256" then []
      else [finding "checksums.json" "checksum_algorithm_invalid"]
    let (files, entries) := match Dict.get manifest "files" with
      | .obj (first :: rest) => declaredFiles (first :: rest)
      | _ => ([], [finding "checksums.json" "checksum_file_map_empty_or_invalid"])
    let (root, rootFindings) := declaredRoot (Dict.get manifest "root_hash")
    ⟨files, root, algorithm ++ entries ++ rootFindings⟩
  | some _ => { findings := [finding "checksums.json" "checksum_manifest_not_object"] }

/-- `strictLoads` is `json.loads(data, object_pairs_hook=_strict_json_object)`, or an error. -/
def declared (strictLoads : Bytes → Option Json) (members : List ZipMember) (names : List String) : Declared :=
  if "checksums.json" ∈ names then readManifest ((readMember members "checksums.json").bind strictLoads)
  else { findings := [finding "checksums.json" "checksum_manifest_missing"] }

/-- What is wrong with the set of members for the profile. -/
def profileFindings (profile : PackageProfile) (names : List String) : List Json :=
  (((sortedSet id profile.requiredMembers).filter fun name => name ∉ names).map (finding · "required_member_missing")) ++
  ((sortedSet id names).filter fun name => name ∉ profile.allowedMembers).map (finding · "unexpected_member")

/-- Where the declared files are not exactly the members other than `checksums.json`. -/
def coverageFindings (names files : List String) : List Json :=
  let expected := (sortedSet id names).filter fun name => name ≠ "checksums.json"
  let declared := sortedSet id files
  ((expected.filter fun name => name ∉ declared).map (finding · "member_unchecked")) ++
  ((declared.filter fun name => name ∉ expected).map (finding · "checksum_entry_without_member")) ++
  if "checksums.json" ∈ declared then [finding "checksums.json" "checksum_manifest_self_reference"] else []

/-- What is wrong with a declared member. -/
def checkDeclared (members : List ZipMember) (names : List String) (entry : String × String) : List Json :=
  if entry.1 ∉ names then []
  else match readMember members entry.1 with
    | none => [finding entry.1 "member_unreadable"]
    | some data => if sha256Hex data = entry.2 then [] else [finding entry.1 "hash_mismatch"]

structure ChecksumReport where
  findings : List Json
  rootHash : String
  checkedMembers : Nat
  archiveMembers : Nat

def ChecksumReport.valid (report : ChecksumReport) : Bool := report.findings.isEmpty

def actualRoot (files : List (String × String)) : String := if files = [] then "" else merkleRoot files

/-- `verify_checksum_manifest` -/
def verifyChecksumManifest (strictLoads : Bytes → Option Json) (profile : PackageProfile) (members : List ZipMember)
    (names : List String) : ChecksumReport :=
  let manifest := declared strictLoads members names
  { findings := profileFindings profile names ++ manifest.findings ++ coverageFindings names (manifest.files.map Prod.fst) ++
      (sortBy Prod.fst manifest.files).flatMap (checkDeclared members names) ++
      (if manifest.root ≠ "" ∧ actualRoot manifest.files ≠ manifest.root
        then [finding "checksums.json" "root_mismatch"] else [])
    rootHash := actualRoot manifest.files
    checkedMembers := manifest.files.length
    archiveMembers := names.length }

end Checksums

end ArchiveSafety
end Sip
