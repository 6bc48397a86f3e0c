import Sip.Construction.Issues

/-!
# Restricted construction data

Some items of a project are restricted: records by their classification, by flags, by
fields of their system pack or by references into a vault, document revisions and issues
by their permissions. What is exported of a record is scrubbed besides.
-/

namespace Sip

set_option autoImplicit false

structure ConstructionDocumentRevisionRow where
  revisionId : String
  stableDocumentId : String
  tenantId : String
  projectId : String
  documentType : String
  title : String
  revision : String
  issueDate : String
  issuer : String
  status : String
  assetId : String
  sourceSha256 : String
  pageCount : Int
  permissionsJson : Dict
  supersedesRevisionId : Option String
  pageRegionsJson : List Json
  spatialLinksJson : List Json
  extractionJson : Dict
  reviewJson : Dict
  createdBy : String
  createdAt : Nat

namespace ConstructionService

section Keys

/-- `str(key).strip().lower()` -/
def normalizedKey (key : String) : List Char := (strip key.toList).map lowerChar

def referenceSuffixes : List String :=
  ["_vault_ref", "_asset_ref", "_secret_ref", "_credential_ref", "_key_ref", "_biometric_ref"]

/-- `is_opaque_restricted_reference_key` -/
def isOpaqueRestrictedReferenceKey (key : String) : Bool :=
  referenceSuffixes.any fun suffix => suffix.toList.isSuffixOf (normalizedKey key)

def forbiddenExactKeys : List String := [
  "password", "passwd", "passcode", "pin", "pin_code", "access_code", "controller_password", "programming_password",
  "control_password", "credential_secret", "client_secret", "api_secret", "api_token", "access_token", "refresh_token",
  "bearer_token", "private_key", "privatekey", "security_key", "biometric_template", "biometric_value", "face_embedding",
  "voice_embedding"]

def forbiddenKeyParts : List String := [
  "password", "passcode", "private_key", "privatekey", "biometric_template", "credential_secret", "access_token",
  "refresh_token", "client_secret"]

/-- `is_forbidden_secret_key` -/
def isForbiddenSecretKey (key : String) : Bool :=
  !isOpaqueRestrictedReferenceKey key &&
    (String.ofList (normalizedKey key) ∈ forbiddenExactKeys ||
      forbiddenKeyParts.any fun part => part.toList <:+: normalizedKey key)

def isReferenceStart (c : Char) : Bool := ('A' ≤ c ∧ c ≤ 'Z') ∨ ('a' ≤ c ∧ c ≤ 'z') ∨ ('0' ≤ c ∧ c ≤ '9')

def isReferenceChar (c : Char) : Bool := isReferenceStart c ∨ c ∈ ['.', '_', ':', '/', '@', '+', '-']

/-- A reference into a vault or to an asset: one letter or digit after the scheme, then 2 to 509 characters. -/
def isReference (cs : List Char) : Bool :=
  ["vault://", "sip-asset://"].any fun scheme =>
    scheme.toList.isPrefixOf cs && match cs.drop scheme.toList.length with
      | [] => false
      | c :: rest => isReferenceStart c && rest.all isReferenceChar && 2 ≤ rest.length && rest.length ≤ 509

end Keys

section Scrubbing

mutual
/-- `walk` of `strip_raw_restricted_values`: what is left of a value, and the paths that were removed. -/
def stripValue (path : String) : Json → Json × List String
  | .obj fields =>
    let (fields, removed) := stripFields path fields
    (.obj fields, removed)
  | .arr items =>
    let (items, removed) := stripItems path 0 items
    (.arr items, removed)
  | value => (value, [])
def stripFields (path : String) : List (String × Json) → List (String × Json) × List String
  | [] => ([], [])
  | (key, child) :: fields =>
    let childPath := path ++ "." ++ key
    let (kept, removed) := stripFields path fields
    if isForbiddenSecretKey key then (kept, childPath :: removed)
    else if isOpaqueRestrictedReferenceKey key then
      match child with
      | .str text =>
        if isReference (strip text.toList) then ((key, .str (bareText text)) :: kept, removed)
        else (kept, childPath :: removed)
      | _ => (kept, childPath :: removed)
    else
      let (child, inner) := stripValue childPath child
      ((key, child) :: kept, inner ++ removed)
def stripItems (path : String) (index : Nat) : List Json → List Json × List String
  | [] => ([], [])
  | child :: items =>
    let (child, inner) := stripValue (path ++ "[" ++ String.ofList (Nat.toDigits 10 index) ++ "]") child
    let (items, removed) := stripItems path (index + 1) items
    (child :: items, inner ++ removed)
end

/-- `strip_raw_restricted_values` -/
def stripRawRestrictedValues (data : Dict) : Dict × List String :=
  let (fields, removed) := stripFields "$" data
  (fields, sortedSet id removed)

end Scrubbing

section Predicates
variable (svc : ConstructionService)

def systemTypes : List String := [
  "fire_alarm_panel", "fire_alarm_annunciator", "fire_alarm_device", "fire_alarm_circuit", "fire_alarm_network",
  "fire_alarm_interface", "access_opening", "access_reader", "access_lock", "access_contact", "access_rex",
  "access_controller", "bas_equipment", "bas_point", "mechanical_equipment", "electrical_equipment", "system_interconnection"]

structure SystemPack where
  types : List String
  restricted : List String

def systemPacks : List SystemPack := [
  ⟨systemTypes.filter fun item => "fire_alarm_".toList.isPrefixOf item.toList,
    ["network_address", "programming_password", "dialer_account", "remote_access_endpoint"]⟩,
  ⟨systemTypes.filter fun item => "access_".toList.isPrefixOf item.toList,
    ["credential_secret", "controller_password", "network_address", "unlock_override"]⟩,
  ⟨["bas_equipment", "bas_point", "mechanical_equipment", "electrical_equipment", "system_interconnection"],
    ["network_address", "write_override", "control_password", "security_key"]⟩]

/-- `_restricted_field_names` -/
def restrictedFieldNames (recordType : String) : List String :=
  ((systemPacks.find? fun pack => recordType ∈ pack.types).map SystemPack.restricted).getD []

def restrictedClassifications : List String := ["restricted", "critical_infrastructure", "biometric", "minor"]

/-- The classification of a document with the keys it may stand under. -/
def classificationOf (data : Dict) (keys : List String) : String :=
  let text := ((keys.map data.get).find? Json.truthy).elim "" svc.py.str
  String.ofList ((strip text.toList).map lowerChar)

/-- `value is True` -/
def isTrue : Json → Bool
  | .bool true => true
  | _ => false

/-- `value is False` -/
def isFalse : Json → Bool
  | .bool false => true
  | _ => false

/-- `value in (None, "", [], {})` -/
def isEmpty : Json → Bool
  | .null | .str "" | .arr [] | .obj [] => true
  | _ => false

/-- `_record_is_restricted` -/
def recordIsRestricted (recordType : String) (data : Dict) : Bool :=
  svc.classificationOf data ["classification", "security_classification"] ∈ restrictedClassifications ||
    isTrue (data.get "restricted") || isFalse (data.get "search_visibility") ||
    (restrictedFieldNames recordType).any (fun field => (data.get? field).any fun value => !isEmpty value) ||
    data.any fun entry => isOpaqueRestrictedReferenceKey entry.1

/-- The permissions that restrict documents and issues alike. -/
def permissionsRestrict (permissions : Dict) : Bool :=
  isFalse (permissions.get "search_visible") || isTrue (permissions.get "restricted") ||
    svc.classificationOf permissions ["classification"] ∈ restrictedClassifications

/-- `_document_is_restricted` -/
def documentIsRestricted (document : ConstructionDocumentRevisionRow) : Bool :=
  document.documentType = "programming_record" || isFalse (document.permissionsJson.get "owner_export") ||
    svc.permissionsRestrict document.permissionsJson

/-- `_issue_is_restricted` -/
def issueIsRestricted (issue : ConstructionIssueRow) : Bool := svc.permissionsRestrict issue.permissionsJson

/-- `_sanitized_record_data`: what is exported of the data of a record, and the paths that are left out. -/
def sanitizedRecordData (recordType : String) (data : Dict) (includeRestricted : Bool) : Dict × List String :=
  let (scrubbed, removed) := stripRawRestrictedValues data
  if includeRestricted then (scrubbed, sortedSet id removed)
  else
    let fields := (restrictedFieldNames recordType).filter fun field => field ∈ scrubbed.map Prod.fst
    let scrubbed := scrubbed.filter fun entry => entry.1 ∉ fields
    let references := (scrubbed.map Prod.fst).filter isOpaqueRestrictedReferenceKey
    (scrubbed.filter fun entry => entry.1 ∉ references,
      sortedSet id (removed ++ fields.map ("$." ++ ·) ++ references.map ("$." ++ ·)))

end Predicates

end ConstructionService

end Sip
