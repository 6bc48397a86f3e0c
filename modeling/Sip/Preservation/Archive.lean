import Sip.Capture.Package
import Sip.Foundation.JsonDocument

/-!
# Preservation packages and their verification

A package is a ZIP archive. It is unpacked into a fresh directory, `manifest.json` lists
files with their digests and the Merkle root over them, and `metadata.json` holds what
an import acts on. A path of the manifest is followed as the file system does it: through
directories that are there, and out of the directory where it climbs above it.
-/

namespace Sip
namespace Preservation

set_option autoImplicit false
open CapturePackage (pathParts)

section Runtime

/-- `data.decode()`. -/
def decodeText (data : Bytes) : Option (List Char) := data.toByteArray.utf8Decode?.map Array.toList

theorem decodeText_utf8 (cs : List Char) : decodeText (utf8 cs) = some cs := by
  have h : (utf8 cs).toByteArray = cs.utf8Encode := rfl
  rw [decodeText, h, List.utf8Decode?_utf8Encode, Option.map_some]

/-- The text of `json.dumps(value, indent=2, sort_keys=True) + "\n"`. -/
def documentBytes (value : Json) : Bytes := utf8 (value.normalize.pretty 0 ++ ['\n'])

/-- What the service relies on: documents are read back as they were written, and digits are read as numbers. -/
structure Documented (py : PyRuntime) : Prop where
  loads_dumps : ∀ value : Json, value.Distinct → py.loads (documentBytes value) = some value.normalize
  intOfText_zero : py.intOfText "0" = some 0
  intOfText_one : py.intOfText "1" = some 1

/-- The decoder of the standard library. -/
def standardRuntime (reader : FloatReader) : PyRuntime where
  loads data := (decodeText data).bind (Json.loads reader)
  loads_distinct data value h := by
    obtain ⟨cs, _, hcs⟩ := Option.bind_eq_some_iff.mp h
    exact Json.loads_distinct hcs
  str value := String.ofList value.encode
  intOfText text := match reader.number text.toList with
    | some (.int n) => some n
    | _ => none
  floatOfText text := (reader.read text.toList).map some

theorem documented_standardRuntime (reader : FloatReader) : Documented (standardRuntime reader) where
  loads_dumps value hvalue := by
    have hread := Json.loads_pretty reader (Json.distinct_normalize value hvalue)
    simp only [standardRuntime, documentBytes, decodeText_utf8, Option.bind_some, hread]
  intOfText_zero := by
    have h := reader.number_text (.int 0)
    have htext : (Number.int 0).text = "0".toList := by decide
    rw [htext] at h
    simp only [standardRuntime, h]
  intOfText_one := by
    have h := reader.number_text (.int 1)
    have htext : (Number.int 1).text = "1".toList := by decide
    rw [htext] at h
    simp only [standardRuntime, h]

end Runtime

section Files

/-- The files and the directories below a directory, by the parts of their paths. -/
structure Tree where
  files : List (List String × Bytes) := []
  dirs : List (List String) := []

namespace Tree
variable (t : Tree)

def file? (path : List String) : Option Bytes := t.files.lookup path

def isDir (path : List String) : Bool := path = [] ∨ path ∈ t.dirs

/-- `os.makedirs(path, exist_ok=True)`. -/
def makeDirs (path : List String) : Except Raised Tree := do
  let line := path.inits.filter fun p => p ≠ []
  raiseIf (line.any fun p => (t.file? p).isSome) (.osError "File exists")
  return { t with dirs := line ++ t.dirs }

def write (path : List String) (data : Bytes) : Except Raised Tree := do
  let t ← t.makeDirs path.dropLast
  raiseIf (t.isDir path) (.osError "Is a directory")
  return { t with files := (path, data) :: t.files }

end Tree

/-- Where the parts of a path lead, if they do not climb above the start. The stack is the way walked so far. -/
def walk : List String → List String → Option (List String)
  | stack, [] => some stack.reverse
  | [], part :: parts => if part = ".." then none else walk [part] parts
  | last :: stack, part :: parts => if part = ".." then walk stack parts else walk (part :: last :: stack) parts

/-- The directories a path goes through on its way. -/
def passed : List String → List String → List (List String)
  | _, [] => []
  | stack, part :: parts => stack.reverse :: passed (if part = ".." then stack.tail else part :: stack) parts

/-- The bytes that `root / path` names, if it is a file. `host` is what lies outside. -/
def Tree.read (t : Tree) (host : String → Option Bytes) (path : String) : Option Bytes :=
  if '\x00' ∈ path.toList then none
  else if path.toList.head? = some '/' then host path
  else match walk [] (pathParts path) with
    | none => host path
    | some parts => if (passed [] (pathParts path)).all t.isDir then t.file? parts else none

end Files

section Unpacking

def maxEntryBytes : Nat := 2 * 1024 * 1024 * 1024

def maxTotalBytes : Nat := 10 * 1024 * 1024 * 1024

def maxRatio : Nat := 200

/-- Whether `(destination / name).resolve()` leaves the destination. -/
def escapes (name : String) : Bool := name.toList.head? = some '/' ∨ (walk [] (pathParts name)).isNone

/-- The checks of `_safe_extract_zip`. A quotient of such sizes is above 200 as a float when it is. -/
def checkEntries : Nat → List ZipEntry → Except Raised Unit
  | _, [] => .ok ()
  | total, info :: infos => do
    raiseIf (escapes info.filename) (validationError "ARCHIVE_PATH_TRAVERSAL" "archive contains an unsafe path")
    raiseIf (maxEntryBytes < info.fileSize)
      (validationError "ARCHIVE_ENTRY_TOO_LARGE" "archive entry exceeds safety limit")
    raiseIf (maxTotalBytes < total + info.fileSize) (validationError "ARCHIVE_TOO_LARGE" "archive exceeds safety limit")
    raiseIf (info.compressSize ≠ 0 ∧ maxRatio * info.compressSize < info.fileSize)
      (validationError "ARCHIVE_COMPRESSION_RATIO" "archive entry has unsafe compression ratio")
    checkEntries (total + info.fileSize) infos

/-- `archive.getinfo(name)`: of several members with the name, the last. -/
def getInfo (entries : List ZipEntry) (name : String) : Option ZipEntry :=
  entries.reverse.find? fun entry => entry.filename = name

/-- `archive.extract(name)`; parts that would climb are dropped from the name. -/
def extractMember (entries : List ZipEntry) (t : Tree) (name : String) : Except Raised Tree := do
  let parts := (pathParts name).filter fun part => part ≠ ".."
  if name.toList.getLast? = some '/' then t.makeDirs parts
  else
    raiseIf (parts = []) (.valueError "Empty filename.")
    let data ← orRaise ((getInfo entries name).bind ZipEntry.content) (.badZipFile name)
    t.write parts data

/-- `_safe_extract_zip` into an empty directory. -/
def safeExtractZip (entries : List ZipEntry) : Except Raised Tree := do
  checkEntries 0 entries
  (entries.map ZipEntry.filename).foldlM (extractMember entries) {}

end Unpacking

section Verification
variable (py : PyRuntime) (host : String → Option Bytes)

/-- `json.loads(path.read_text())`. -/
def readDocument (t : Tree) (path : List String) (missing : Raised) : Except Raised Json := do
  let data ← orRaise (t.file? path) (if t.isDir path then .osError "Is a directory" else missing)
  orRaise (py.loads data) (.valueError "not a JSON document")

structure FileCheck where
  path : String
  expected : Json
  actual : Option String
  valid : Bool

def FileCheck.details (check : FileCheck) : Dict :=
  [("path", .str check.path), ("expected", check.expected), ("actual", .ofOption check.actual), ("valid", .bool check.valid)]

/-- `actual == item["sha256"]`. -/
def sameDigest : Option String → Json → Bool
  | none, .null => true
  | some actual, .str expected => actual = expected
  | _, _ => false

def checkFile (t : Tree) (item : Json) : Except Raised FileCheck := do
  let path ← orRaise (← item.item "path").text? (.typeError "unsupported operand type(s) for /")
  let actual := (t.read host path).map sha256Hex
  let expected ← item.item "sha256"
  let check : FileCheck := { path, expected, actual, valid := sameDigest actual expected }
  raiseIf (check.valid = false)
    (validationError "EXPORT_FILE_INTEGRITY_FAILED" "preservation file hash mismatch" check.details)
  return check

/-- An entry of the Merkle tree; a file that is not there is written `None`. -/
def FileCheck.entry (check : FileCheck) : String × String := (check.path, check.actual.getD "None")

/-- `tuple(int(item) for item in version.split("."))`. -/
def versionParts (version : Json) : Option (List Int) := do
  let text ← version.text?
  ((text.toList.splitOn '.').map String.ofList).mapM py.intOfText

def supportedVersion : List Int := [1, 1, 0]

/-- `_verify_supported_version`. -/
def verifySupportedVersion (actual : Json) (label : String) : Except Raised Unit := do
  let parts ← orRaise (versionParts py actual)
    (validationError "EXPORT_VERSION_INVALID" (label ++ " version is invalid") [("version", actual)])
  raiseIf (parts.length ≠ 3) (validationError "EXPORT_VERSION_INVALID" (label ++ " version must use semantic versioning")
    [("version", actual)])
  raiseIf (supportedVersion < parts) (validationError "EXPORT_FUTURE_VERSION_UNSUPPORTED"
    (label ++ " version is newer than this importer supports") [("actual", actual), ("supported", .str "1.1.0")])

/-- `left == right` for two sets of dictionary keys or list items. -/
def sameSet (left right : List Json) : Bool :=
  left.all (fun a => right.any a.scalarEq) && right.all (fun b => left.any b.scalarEq)

/-- `digests.get(name)`. -/
def getDigest (digests : Json) (name : String) : Except Raised Json := do
  let fields ← orRaise digests.fields? (.attributeError "object has no attribute 'get'")
  return fields.get name

def verifyTableDigest (digests : Json) (required : Bool) (table : String × Json) : Except Raised Unit := do
  let expected ← getDigest digests table.1
  let actual := canonicalSha256 table.2
  match expected with
  | .null =>
    raiseIf (required = true)
      (validationError "EXPORT_TABLE_DIGEST_MISSING" "exported table has no digest" [("table", .str table.1)])
  | expected =>
    raiseIf (¬ expected.isText actual)
      (validationError "EXPORT_TABLE_DIGEST_FAILED" "exported table content does not match its digest"
        [("table", .str table.1), ("expected", expected), ("actual", .str actual)])

/-- `_verify_table_digests`. -/
def verifyTableDigests (tables digests : Json) (required : Bool) : Except Raised Unit := do
  if required then
    let names ← tables.asSet
    let digestNames ← digests.asSet
    raiseIf (sameSet names digestNames = false) (validationError "EXPORT_TABLE_DIGEST_SET_MISMATCH"
      "table digest keys do not match exported table keys" [("tables", .arr names), ("digests", .arr digestNames)])
  let fields ← orRaise tables.fields? (.attributeError "object has no attribute 'items'")
  fields.forM (verifyTableDigest digests required)

/-- `document.get(key, {})`. -/
def getOrEmpty (document : Dict) (key : String) : Json := (document.lookup key).getD (.obj [])

/-- The tables of one of the two evidence files, against the digests in the metadata. -/
def verifyDescriptor (t : Tree) (metadata : Dict) (name : String) : Except Raised Unit := do
  let descriptor := metadata.get name
  if descriptor.truthy then
    let path ← orRaise (← descriptor.item "path").text? (.typeError "unsupported operand type(s) for /")
    let fields ← orRaise descriptor.fields? (.attributeError "object has no attribute 'get'")
    let data ← orRaise (t.read host path)
      (validationError "EXPORT_EVIDENCE_MISSING" (name ++ " evidence file is missing"))
    let document ← orRaise (py.loads data) (.valueError "not a JSON document")
    let document ← orRaise document.fields? (.attributeError "object has no attribute 'get'")
    verifyTableDigests (getOrEmpty document "tables") (getOrEmpty fields "table_digests") true

structure Verified where
  rootHash : String
  files : Nat
  metadata : Dict
  checks : List FileCheck
  packageSha256 : String

/-- The checks on the metadata itself. -/
def verifyMetadata (t : Tree) (metadata : Dict) : Except Raised Unit := do
  raiseIf (¬ (metadata.get "format").isText "sip-open-preservation")
    (validationError "EXPORT_FORMAT_UNSUPPORTED" "package is not a SIP open preservation export")
  verifySupportedVersion py ((metadata.lookup "format_version").getD (.str "0.0.0")) "format"
  verifySupportedVersion py
    ((metadata.lookup "domain_schema_version").getD ((metadata.lookup "format_version").getD (.str "1.0.0"))) "domain schema"
  verifyTableDigests (getOrEmpty metadata "tables") (getOrEmpty metadata "table_digests")
    (metadata.get "native_replay_tables").truthy
  verifyDescriptor py host t metadata "archived_records"
  verifyDescriptor py host t metadata "preserved_governance"

/-- What `verify_export` does with the unpacked files. -/
def verifyTree (t : Tree) (packageSha256 : String) : Except Raised Verified := do
  let manifest ← readDocument py t ["manifest.json"]
    (validationError "EXPORT_MANIFEST_MISSING" "preservation package has no manifest")
  let manifest ← orRaise manifest.fields? (.attributeError "object has no attribute 'get'")
  let items ← ((manifest.lookup "files").getD (.arr [])).iterate
  let checks ← items.mapM (checkFile host t)
  let actualRoot := merkleRoot (checks.map FileCheck.entry)
  raiseIf (¬ (manifest.get "root_hash").isText actualRoot)
    (validationError "EXPORT_ROOT_INTEGRITY_FAILED" "preservation root hash mismatch")
  let metadata ← readDocument py t ["metadata.json"]
    (validationError "EXPORT_METADATA_MISSING" "preservation package has no metadata")
  let metadata ← orRaise metadata.fields? (.attributeError "object has no attribute 'get'")
  verifyMetadata py host t metadata
  return { rootHash := actualRoot, files := checks.length, metadata, checks, packageSha256 }

/-- `verify_export`. -/
def verifyExport (file : PackageFile) : Except Raised Verified := do
  let entries ← orRaise file.entries (.badZipFile "File is not a zip file")
  let t ← safeExtractZip entries
  verifyTree py host t (sha256Hex file.bytes)

end Verification

section Import
variable (host : String → Option Bytes)

/-- The bytes under `objects/` that an import takes for a digest: those that have it. -/
def importedObject (t : Tree) (digest : String) : Option Bytes :=
  (t.read host ("objects/" ++ digest)).filter fun payload => sha256Hex payload = digest

end Import

end Preservation
end Sip
