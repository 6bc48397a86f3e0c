import Sip.Canonical
import Sip.PyValue
import Sip.Foundation.SortBy

/-!
# Capture packages

A package is a ZIP archive with a manifest that lists assets by path, digest and
size. The archive is given as the member list that `zipfile` presents; what
`json.loads`, `str`, `int` and `float` make of a text is a parameter. A manifest
with a non-finite number or an unpaired surrogate, which the canonical encoder
refuses, counts as not parsed.
-/

namespace Sip

set_option autoImplicit false

structure PyRuntime where
  /-- `json.loads(data)`; dictionaries come out with distinct keys. -/
  loads : Bytes → Option Json
  loads_distinct : ∀ data value, loads data = some value → value.Distinct
  /-- `str(value)`. -/
  str : Json → String
  /-- `int(text)`, or a `ValueError`. -/
  intOfText : String → Option Int
  /-- `float(text)`, or a `ValueError`; `some none` is an infinity or not a number. -/
  floatOfText : String → Option (Option PyFloat)

structure ZipEntry where
  filename : String
  fileSize : Nat
  compressSize : Nat
  /-- The bytes `archive.read` returns; `none` when it fails on the member. -/
  content : Option Bytes

/-- A file, and the members it has as an archive if it is one. -/
structure PackageFile where
  bytes : Bytes
  entries : Option (List ZipEntry)

/-- One round of the Merkle tree: neighbours are hashed together, an odd last leaf with itself. -/
def merkleLevel : List String → List String
  | [] => []
  | [a] => [sha256Hex (utf8 (a ++ a).toList)]
  | a :: b :: rest => sha256Hex (utf8 (a ++ b).toList) :: merkleLevel rest

theorem length_merkleLevel_le (leaves : List String) : (merkleLevel leaves).length ≤ leaves.length := by
  fun_induction merkleLevel leaves with
  | case1 => exact Nat.le_refl _
  | case2 a => exact Nat.le_refl _
  | case3 a b rest ih => simp only [List.length_cons]; omega

def merkleFold : List String → String
  | [] => sha256Hex []
  | [root] => root
  | a :: b :: rest => merkleFold (merkleLevel (a :: b :: rest))
termination_by leaves => leaves.length
decreasing_by
  have := length_merkleLevel_le rest
  simp only [merkleLevel, List.length_cons]
  omega

def merkleRoot (entries : List (String × String)) : String :=
  merkleFold ((sortBy toLex entries).map fun (path, digest) =>
    sha256Hex (utf8 (path.toList ++ '\x00' :: digest.toList)))

namespace CapturePackage

def captureSchemaVersion : String := "1.0.0"

def maxArchiveFiles : Nat := 200000

def maxArchiveUncompressedBytes : Nat := 100 * 1024 * 1024 * 1024

def maxCompressionRatio : Nat := 200

section Paths

/-- The components of a relative `PurePosixPath`, which drops empty ones and dots. -/
def pathParts (path : String) : List String :=
  ((path.toList.splitOn '/').map String.ofList).filter fun part => part ≠ "" ∧ part ≠ "."

/-- `_safe_relative_path`. -/
def safeRelativePath (value : String) : Except Raised String := do
  let normalized := String.ofList (value.toList.map fun c => if c = '\\' then '/' else c)
  let parts := pathParts normalized
  raiseIf (normalized.toList.head? = some '/' ∨ ".." ∈ parts ∨ parts = [])
    (validationError "ARCHIVE_PATH_UNSAFE" "archive path is unsafe" [("path", .str value)])
  return String.intercalate "/" parts

end Paths

section Archive

def validateSizes : Nat → List ZipEntry → Except Raised Unit
  | _, [] => .ok ()
  | total, info :: infos => do
    raiseIf (maxArchiveUncompressedBytes < total + info.fileSize)
      (validationError "ARCHIVE_UNCOMPRESSED_SIZE" "archive expands beyond the configured safety limit")
    raiseIf (info.compressSize ≠ 0 ∧ maxCompressionRatio * info.compressSize < info.fileSize)
      (validationError "ARCHIVE_COMPRESSION_RATIO" "archive entry has a suspicious compression ratio"
        [("path", .str info.filename)])
    validateSizes (total + info.fileSize) infos

def validateArchiveMetadata (infos : List ZipEntry) : Except Raised Unit := do
  raiseIf (maxArchiveFiles < infos.length) (validationError "ARCHIVE_FILE_COUNT" "archive contains too many files")
  validateSizes 0 infos

/-- `archive.read(name)`. -/
def readMember (entries : List ZipEntry) (name : String) : Except Raised Bytes := do
  let entry ← orRaise (entries.find? fun entry => entry.filename = name) (.keyError name)
  orRaise entry.content (.badZipFile name)

end Archive

section Manifest
variable (py : PyRuntime)

/-- `sorted(required - value.keys())`. -/
def missingKeys (required : List String) (value : Json) : Except Raised (List String) :=
  match value with
  | .obj fields => .ok (sortedSet id (required.filter fun key => (fields.lookup key).isNone))
  | _ => .error (.attributeError "object has no attribute 'keys'")

def requiredFields : List String :=
  ["schema_version", "capture_id", "capture_source", "frames", "assets", "semantic_hash", "asset_merkle_root",
    "root_hash"]

/-- The text before the first dot. -/
def majorText (version : String) : String := String.ofList (version.toList.takeWhile (· ≠ '.'))

def validateManifestShape (manifest : Json) : Except Raised Unit := do
  let missing ← missingKeys requiredFields manifest
  raiseIf (missing ≠ []) (validationError "CAPTURE_MANIFEST_FIELDS" "capture manifest lacks required fields"
    [("missing", .arr (missing.map .str))])
  let version := py.str (← manifest.item "schema_version")
  let major ← orRaise (py.intOfText (majorText version))
    (validationError "CAPTURE_SCHEMA_VERSION" "capture schema version is invalid")
  raiseIf (1 < major)
    (validationError "CAPTURE_FUTURE_SCHEMA" "capture package uses an unsupported future major schema")
  let assets ← manifest.item "assets"
  let frames ← manifest.item "frames"
  raiseIf (¬ assets.isArr ∨ ¬ frames.isArr)
    (validationError "CAPTURE_MANIFEST_TYPES" "capture assets and frames must be arrays")

structure AssetCheck where
  path : String
  valid : Bool
  sha256 : String
  byteCount : Nat

def AssetCheck.details (check : AssetCheck) : Dict :=
  [("path", .str check.path), ("valid", .bool check.valid), ("sha256", .str check.sha256),
    ("byte_count", .int check.byteCount)]

/-- `_safe_relative_path(asset["path"])`; only texts have `replace`. -/
def assetPath (asset : Json) : Except Raised String := do
  let raw ← asset.item "path"
  let value ← orRaise raw.text? (.attributeError "object has no attribute 'replace'")
  safeRelativePath value

/-- `actual == asset["sha256"] and len(payload) == asset["byte_count"]`. -/
def assetValid (asset : Json) (payload : Bytes) : Except Raised Bool := do
  let declared ← asset.item "sha256"
  if declared.isText (sha256Hex payload) then
    let count ← asset.item "byte_count"
    return count.rat? = some (payload.length : Rat)
  return false

def checkAsset (entries : List ZipEntry) (asset : Json) : Except Raised AssetCheck := do
  let path ← assetPath asset
  raiseIf (path ∉ entries.map ZipEntry.filename)
    (validationError "CAPTURE_ASSET_MISSING" "manifest asset is absent" [("path", .str path)])
  let payload ← readMember entries path
  let valid ← assetValid asset payload
  let check : AssetCheck := { path, valid, sha256 := sha256Hex payload, byteCount := payload.length }
  raiseIf (valid = false)
    (validationError "CAPTURE_ASSET_INTEGRITY" "capture asset failed size/hash verification" check.details)
  return check

end Manifest

section Frames
variable (py : PyRuntime)

/-- `int(value)`; a float is cut off towards zero. -/
def pyInt (value : Json) : Except Raised Int :=
  match value with
  | .str text => orRaise (py.intOfText text) (.valueError "invalid literal for int()")
  | value => match value.rat? with
    | some q => .ok (q.num.tdiv q.den)
    | none => .error (.typeError "int() argument must be a string or a real number")

/-- Whether `float(value)` is finite; integers from `2^1024 - 2^970` on round beyond the largest float. -/
def pyFloatFinite (value : Json) : Except Raised Bool :=
  match value with
  | .str text => do
    let parsed ← orRaise (py.floatOfText text) (.valueError "could not convert string to float")
    return parsed.isSome
  | .int n => do
    raiseIf (2 ^ 1024 - 2 ^ 970 ≤ n.natAbs) (.overflowError "int too large to convert to float")
    return true
  | value => match value.rat? with
    | some _ => .ok true
    | none => .error (.typeError "float() argument must be a string or a real number")

def requiredFrameFields : List String :=
  ["frame_id", "timestamp_ns", "rgb_asset", "intrinsics", "camera_to_world", "pose_stream"]

/-- `len(matrix) != size or any(len(row) != size for row in matrix)`. -/
def notSquare (matrix : Json) (size : Nat) : Except Raised Bool := do
  if (← matrix.len) ≠ size then return true
  let lengths ← (← matrix.iterate).mapM Json.len
  return lengths.any (· ≠ size)

/-- `transform[3] != [0.0, 0.0, 0.0, 1.0]`; a dictionary has no key `3`. -/
def notHomogeneous (transform : Json) : Except Raised Bool :=
  match transform with
  | .arr rows => match rows.getD 3 .null with
    | .arr row => .ok (row.map Json.rat? ≠ [some 0, some 0, some 0, some 1])
    | _ => .ok true
  | _ => .error (.keyError "3")

/-- A file that a frame names must be one of the listed assets. -/
def checkFrameReference (assetPaths : List String) (frame : Json) (fields : Dict) (key : String) :
    Except Raised Unit := do
  let value := fields.get key
  if value.truthy then
    raiseIf (¬ value.hashable) (.typeError "unhashable type")
    raiseIf (¬ assetPaths.any (value.isText ·)) (validationError "CAPTURE_FRAME_ASSET_REFERENCE"
      "capture frame references an undeclared asset" [("frame", ← frame.item "frame_id"), ("path", value)])

/-- One frame: its identifier and its timestamp. -/
def validateFrame (assetPaths : List String) (frameIds : List Json) (frame : Json) :
    Except Raised (Json × Int) := do
  let missing ← missingKeys requiredFrameFields frame
  let fields ← orRaise frame.fields? (.attributeError "object has no attribute 'keys'")
  raiseIf (missing ≠ []) (validationError "CAPTURE_FRAME_FIELDS" "capture frame lacks required fields"
    [("frame", fields.get "frame_id"), ("missing", .arr (missing.map .str))])
  let frameId ← frame.item "frame_id"
  raiseIf (¬ frameId.hashable) (.typeError "unhashable type")
  raiseIf (frameIds.any frameId.scalarEq)
    (validationError "CAPTURE_FRAME_DUPLICATE" "capture frame identifiers must be unique")
  let timestamp ← pyInt py (← frame.item "timestamp_ns")
  ["rgb_asset", "depth_asset", "confidence_asset", "camera_metadata_asset"].forM
    (checkFrameReference assetPaths frame fields)
  raiseIf (← notSquare (← frame.item "intrinsics") 3)
    (validationError "CAPTURE_INTRINSICS" "camera intrinsics must be a 3x3 matrix")
  let transform ← frame.item "camera_to_world"
  let invalid ← if ← notSquare transform 4 then pure true else notHomogeneous transform
  raiseIf invalid (validationError "CAPTURE_EXTRINSICS" "camera pose must be a homogeneous 4x4 matrix")
  let rows ← (← transform.iterate).mapM Json.iterate
  let finite ← rows.flatten.mapM (pyFloatFinite py)
  raiseIf (¬ finite.all id) (validationError "CAPTURE_NONFINITE" "camera pose contains a non-finite value")
  return (frameId, timestamp)

/-- The timestamps of the frames, in order. -/
def frameTimestamps (assetPaths : List String) : List Json → List Json → Except Raised (List Int)
  | _, [] => .ok []
  | frameIds, frame :: frames => do
    let (frameId, timestamp) ← validateFrame py assetPaths frameIds frame
    let timestamps ← frameTimestamps assetPaths (frameId :: frameIds) frames
    return timestamp :: timestamps

def validateFrames (frames : List Json) (assetPaths : List String) : Except Raised Unit := do
  let timestamps ← frameTimestamps py assetPaths [] frames
  raiseIf ((timestamps.zip timestamps.tail).any fun (previous, current) => current ≤ previous)
    (validationError "CAPTURE_TIMESTAMPS" "capture frame timestamps must be strictly increasing")

end Frames

section Validate
variable (py : PyRuntime)

structure Report where
  valid : Bool
  captureId : Json
  schemaVersion : Json
  rootHash : Json
  assetCount : Nat
  frameCount : Nat
  archiveSha256 : String
  checks : List AssetCheck

/-- The parsed manifest; an unreadable member and a text that is not JSON are both refused. -/
def manifest? (entries : List ZipEntry) : Option Json :=
  match readMember entries "manifest.json" with
  | .ok data => py.loads data
  | .error _ => none

/-- `manifest` without some of its keys. -/
def without (keys : List String) (fields : Dict) : Dict := fields.filter fun field => field.1 ∉ keys

/-- The document that the root hash covers: everything but the root hash itself. -/
def rootBody (fields : Dict) : Json := .obj (without ["root_hash"] fields)

/-- `(item["path"], item["sha256"])`; both are texts once the asset has been checked. -/
def merkleEntry (asset : Json) : Except Raised (String × String) := do
  let path ← orRaise (← asset.item "path").text? (.typeError "path")
  let digest ← orRaise (← asset.item "sha256").text? (.typeError "sha256")
  return (path, digest)

def checkHashes (fields : Dict) (manifest : Json) (merkleEntries : List (String × String)) : Except Raised Unit := do
  let semanticHash := canonicalSha256 (.obj (without ["semantic_hash", "asset_merkle_root", "root_hash"] fields))
  raiseIf (¬ (← manifest.item "semantic_hash").isText semanticHash)
    (validationError "CAPTURE_SEMANTIC_HASH" "capture semantic manifest hash does not match")
  raiseIf (¬ (← manifest.item "asset_merkle_root").isText (merkleRoot merkleEntries))
    (validationError "CAPTURE_ASSET_MERKLE" "capture asset Merkle root does not match")
  raiseIf (¬ (← manifest.item "root_hash").isText (canonicalSha256 (rootBody fields)))
    (validationError "CAPTURE_ROOT_HASH" "capture root hash does not match")

def validateManifest (file : PackageFile) (entries : List ZipEntry) (manifest : Json) : Except Raised Report := do
  validateManifestShape py manifest
  let fields ← orRaise manifest.fields? (.attributeError "object has no attribute 'items'")
  let assets ← (← manifest.item "assets").iterate
  let checks ← assets.mapM (checkAsset entries)
  let merkleEntries ← assets.mapM merkleEntry
  checkHashes fields manifest merkleEntries
  let frames ← (← manifest.item "frames").iterate
  validateFrames py frames (merkleEntries.map Prod.fst)
  return {
    valid := true
    captureId := ← manifest.item "capture_id"
    schemaVersion := ← manifest.item "schema_version"
    rootHash := ← manifest.item "root_hash"
    assetCount := checks.length
    frameCount := frames.length
    archiveSha256 := sha256Hex file.bytes
    checks }

def validate (file : PackageFile) : Except Raised Report := do
  let entries ← orRaise file.entries
    (validationError "CAPTURE_ARCHIVE_INVALID" "canonical capture package must be a ZIP archive")
  validateArchiveMetadata entries
  let names := entries.map ZipEntry.filename
  raiseIf (¬ names.Nodup) (validationError "CAPTURE_DUPLICATE_ENTRY" "archive contains duplicate entries")
  names.forM fun name => discard (safeRelativePath name)
  raiseIf ("manifest.json" ∉ names)
    (validationError "CAPTURE_MANIFEST_MISSING" "capture package is missing manifest.json")
  let manifest ← orRaise (manifest? py entries)
    (validationError "CAPTURE_MANIFEST_INVALID" "capture manifest is not valid JSON")
  validateManifest py file entries manifest

end Validate

end CapturePackage
end Sip
