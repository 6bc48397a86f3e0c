import Sip.LiveForever.Database
import Sip.Security.WorkloadIdentity

/-!
# Access exports for the subjects of data

The export lists the live assets of a project whose provenance names the subject, and the
consent grants of the subject. A grant is asked for a column that its table has not, so no
export of a subject with a grant succeeds. A repeated request gets the first response.
-/

namespace Sip

set_option autoImplicit false

structure PrivacyRightsRequestRow where
  rightsRequestId : String
  tenantId : String
  projectId : Option String
  subjectId : String
  requestType : String
  scopeJson : Dict
  state : String
  requestedBy : String
  verifiedBy : String
  dueAt : Nat
  responseManifestJson : Dict
  verificationJson : Dict
  completedAt : Option Nat
  requestHash : String

/-- The table with its unique `request_hash`. -/
structure RightsRequests extends Table PrivacyRightsRequestRow (fun row => row.rightsRequestId) where
  uniqueRequest : (rows.map fun row => row.requestHash).Nodup

namespace RightsRequests

def empty : RightsRequests := ⟨.empty, List.nodup_nil⟩

def insert? (requests : RightsRequests) (row : PrivacyRightsRequestRow) : Option RightsRequests :=
  if h : row.rightsRequestId ∉ requests.rows.map (fun r => r.rightsRequestId) ∧
      row.requestHash ∉ requests.rows.map (fun r => r.requestHash) then
    some ⟨⟨requests.rows ++ [row], nodup_map_snoc requests.nodup h.1⟩, nodup_map_snoc requests.uniqueRequest h.2⟩
  else none

end RightsRequests

structure SubjectAccessDb extends Store where
  assets : Table AssetRefRow (fun row => row.assetId)
  grants : Table SubjectGrantRow (fun row => row.grantId)
  rightsRequests : RightsRequests

structure SubjectAccessRequest where
  tenantId : String
  projectId : Option String
  subjectId : String
  requestedBy : String
  verifiedBy : String
  scope : Dict
  dueDays : Int := 30

/-- The identifier that a call draws and its clock readings. -/
structure RightsStamp where
  rightsRequestId : String
  dueFrom : Nat
  completedAt : Nat
  written : Stamp

/-- `_rights_result` -/
structure RightsResult where
  rightsRequestId : String
  subjectId : String
  requestType : String
  state : String
  dueAt : String
  responseManifest : Dict
  verification : Dict
  idempotentReplay : Bool

namespace SecurityOperationsService

section Exports

def checkRights (req : SubjectAccessRequest) : Except Raised Unit := do
  raiseIf (req.requestedBy = req.verifiedBy) (authorizationError "SUBJECT_IDENTITY_VERIFICATION_INDEPENDENT"
    "subject-rights request requires independent identity verification")
  raiseIf (req.dueDays < 1 ∨ 90 < req.dueDays) (validationError "RIGHTS_REQUEST_DUE_INVALID"
    "rights request due period is outside the supported range")

def SubjectAccessRequest.body (req : SubjectAccessRequest) : Dict := [
  ("tenant_id", .str req.tenantId), ("project_id", .ofOption req.projectId), ("subject_id", .str req.subjectId),
  ("request_type", .str "access"), ("scope", .obj req.scope), ("requested_by", .str req.requestedBy),
  ("verified_by", .str req.verifiedBy)]

def SubjectAccessRequest.requestHash (req : SubjectAccessRequest) : String :=
  canonicalSha256 (.obj (SubjectAccessRequest.body req))

def existingRequest? (db : SubjectAccessDb) (req : SubjectAccessRequest) : Option PrivacyRightsRequestRow :=
  db.rightsRequests.rows.find? fun row => row.requestHash = SubjectAccessRequest.requestHash req

/-- The live assets of the project; a request without a project has none. -/
def liveAssets (db : SubjectAccessDb) (req : SubjectAccessRequest) : List AssetRefRow :=
  match given req.projectId with
  | some projectId => db.assets.rows.filter fun row =>
      row.tenantId = req.tenantId ∧ row.projectId = projectId ∧ row.tombstonedAt = none
  | none => []

def subjectGrants (db : SubjectAccessDb) (req : SubjectAccessRequest) : List SubjectGrantRow :=
  match given req.projectId with
  | some projectId => db.grants.rows.filter fun row =>
      row.tenantId = req.tenantId ∧ row.projectId = projectId ∧ row.subjectId = req.subjectId
  | none => []

/-- `_subject_related` -/
def subjectRelated (provenance : Dict) (subjectId : String) : Except Raised Bool :=
  if (Dict.get provenance "subject_id").isText subjectId then .ok true
  else do
    let ids ← orEmptySet (Dict.get provenance "subject_ids")
    return ids.any (Json.isText subjectId)

def sourceRecord (row : AssetRefRow) : Json := .obj [
  ("asset_id", .str row.assetId), ("source_class", .str row.sourceClass), ("authority_class", .str row.authorityClass),
  ("classification", .str row.classification), ("retention_class", .str row.retentionClass),
  ("created_at", .str (isoformat row.createdAt))]

def sourceRecords (subjectId : String) : List AssetRefRow → Except Raised (List Json)
  | [] => .ok []
  | row :: rows => do
    let related ← subjectRelated row.provenanceJson subjectId
    let records ← sourceRecords subjectId rows
    return if related then sourceRecord row :: records else records

/-- The columns of `consent_grants`. -/
def grantColumns : List String := [
  "grant_id", "tenant_id", "project_id", "subject_id", "granted_by", "purposes_json", "audiences_json", "scopes_json",
  "derivative_policy_json", "expires_at", "revoked_at", "revoked_by", "state", "created_at"]

/-- `row.<name>` of a grant, for a column with the given value. -/
def grantAttribute (name : String) (value : Json) : Except Raised Json := do
  raiseIf (name ∉ grantColumns) (.attributeError ("'ConsentGrantRow' object has no attribute '" ++ name ++ "'"))
  return value

def consentEntry (row : SubjectGrantRow) : Except Raised Json := do
  let consentId ← grantAttribute "consent_id" (.str row.grantId)
  let purposes ← grantAttribute "purposes_json" (.arr (row.purposesJson.map .str))
  let audiences ← grantAttribute "audiences_json" (.arr (row.audiencesJson.map .str))
  let state ← grantAttribute "state" (.str row.state)
  let expiresAt ← grantAttribute "expires_at" (.ofOption (row.expiresAt.map isoformat))
  return .obj [("consent_id", consentId), ("purposes", purposes), ("audiences", audiences), ("state", state),
    ("expires_at", expiresAt)]

def accessExplanation : String :=
  "This export distinguishes source evidence, derivatives, consent, sharing, and automated processing. " ++
    "Empty sections mean no in-scope record was found, not that no data exists outside the governed scope."

def accessResponse (subjectId : String) (records consents : List Json) : Dict := [
  ("subject_id", .str subjectId), ("source_records", .arr records), ("derivatives", .arr []), ("sharing", .arr []),
  ("consent", .arr consents), ("automated_processing", .arr []), ("explanation", .str accessExplanation)]

def scopeHash (req : SubjectAccessRequest) : String := canonicalSha256 (.obj req.scope)

def rightsRow (stamp : RightsStamp) (req : SubjectAccessRequest) (response : Dict) : PrivacyRightsRequestRow where
  rightsRequestId := stamp.rightsRequestId
  tenantId := req.tenantId
  projectId := req.projectId
  subjectId := req.subjectId
  requestType := "access"
  scopeJson := req.scope
  state := "completed"
  requestedBy := req.requestedBy
  verifiedBy := req.verifiedBy
  dueAt := stamp.dueFrom + req.dueDays.toNat * 86400000000
  responseManifestJson := response
  verificationJson := [("identity_verified_by", .str req.verifiedBy), ("scope_hash", .str (scopeHash req))]
  completedAt := some stamp.completedAt
  requestHash := SubjectAccessRequest.requestHash req

def rightsResult (row : PrivacyRightsRequestRow) (idempotentReplay : Bool) : RightsResult :=
  ⟨row.rightsRequestId, row.subjectId, row.requestType, row.state, isoformat row.dueAt, row.responseManifestJson,
    row.verificationJson, idempotentReplay⟩

def rightsAudit (row : PrivacyRightsRequestRow) (count : Nat) : AuditRequest where
  tenantId := row.tenantId
  projectId := row.projectId
  actorId := row.verifiedBy
  action := "privacy_rights:complete"
  resourceType := "privacy_rights_request"
  resourceId := row.rightsRequestId
  outcome := "allowed"
  details := some [("subject_id", .str row.subjectId), ("request_type", .str "access"), ("source_records", .int count)]

def rightsPayload (req : SubjectAccessRequest) (count : Nat) : Dict := [
  ("subject_id", .str req.subjectId), ("request_type", .str "access"), ("state", .str "completed"),
  ("source_record_count", .int count), ("scope_hash", .str (scopeHash req))]

def rightsEvent (row : PrivacyRightsRequestRow) (payload : Dict) : EventRequest where
  eventType := "privacy_rights.completed"
  schemaVersion := "1.0.0"
  tenantId := row.tenantId
  projectId := row.projectId.getD ""
  aggregateType := "privacy_rights_request"
  aggregateId := row.rightsRequestId
  payload := payload
  producer := "security-ops"
  actorId := some row.verifiedBy
  workloadIdentity := none

variable (ops : SecurityOperationsService)

/-- What a new export writes besides its row. -/
def publishRights (store : Store) (stamp : RightsStamp) (req : SubjectAccessRequest) (response : Dict) (count : Nat) :
    Except Raised Store := do
  let store ← store.record ops.audit stamp.written (rightsAudit (rightsRow stamp req response) count)
  store.emit stamp.written (rightsEvent (rightsRow stamp req response) (rightsPayload req count))

def createSubjectAccessExport (db : SubjectAccessDb) (stamp : RightsStamp) (req : SubjectAccessRequest) :
    Except Raised (SubjectAccessDb × RightsResult) := do
  checkRights req
  match existingRequest? db req with
  | some existing => return (db, rightsResult existing true)
  | none => do
    let records ← sourceRecords req.subjectId (liveAssets db req)
    let consents ← (subjectGrants db req).mapM consentEntry
    let response := accessResponse req.subjectId records consents
    let rightsRequests ← orRaise (db.rightsRequests.insert? (rightsRow stamp req response))
      (.integrityError "privacy_rights_requests.rights_request_id")
    let store ← ops.publishRights db.toStore stamp req response records.length
    return ({ db with toStore := store, rightsRequests }, rightsResult (rightsRow stamp req response) false)

end Exports

section Meaning

/-- The provenance names the subject. -/
def namesSubject (provenance : Dict) (subjectId : String) : Bool :=
  (Dict.get provenance "subject_id").isText subjectId ||
    match (Dict.get provenance "subject_ids").iterate with
    | .ok ids => ids.any (Json.isText subjectId)
    | .error _ => false

/-- The live assets that the subject is named in. -/
def namedAssets (db : SubjectAccessDb) (req : SubjectAccessRequest) : List AssetRefRow :=
  (liveAssets db req).filter fun row => namesSubject row.provenanceJson req.subjectId

/-- The identifiers that stand at a key of the entries of a section. -/
def sectionIds (response : Dict) (part key : String) : Option (List Json) :=
  match Dict.get response part with
  | .arr entries => some (entries.map fun entry => Dict.get (entry.fields?.getD []) key)
  | _ => none

/-- One source record for each live asset that names the subject, and one consent entry for each grant of the subject. -/
structure ListsExactly (db : SubjectAccessDb) (req : SubjectAccessRequest) (response : Dict) : Prop where
  assets : ∃ ids, sectionIds response "source_records" "asset_id" = some ids ∧
    ids.Perm ((namedAssets db req).map fun row => .str row.assetId)
  consents : ∃ ids, sectionIds response "consent" "consent_id" = some ids ∧
    ids.Perm ((subjectGrants db req).map fun row => .str row.grantId)

/-- The provenance names the subject by itself, or its list of subjects can be read as a set. -/
def Readable (provenance : Dict) (subjectId : String) : Prop :=
  (Dict.get provenance "subject_id").isText subjectId = true ∨ ∃ ids, orEmptySet (Dict.get provenance "subject_ids") = .ok ids

/-- An earlier response to the same request is still exact; or there is none, the subject has no consent grant, every
provenance can be read, and the row, the audit entry and the event can be written. -/
def ExportMeets (ops : SecurityOperationsService) (db : SubjectAccessDb) (stamp : RightsStamp) (req : SubjectAccessRequest) : Prop :=
  match existingRequest? db req with
  | some existing => ListsExactly db req existing.responseManifestJson
  | none => subjectGrants db req = [] ∧ (∀ row ∈ liveAssets db req, Readable row.provenanceJson req.subjectId) ∧
      stamp.rightsRequestId ∉ db.rightsRequests.rows.map (fun row => row.rightsRequestId) ∧
      ∃ store, ops.publishRights db.toStore stamp req
        (accessResponse req.subjectId ((namedAssets db req).map sourceRecord) []) (namedAssets db req).length = .ok store

end Meaning

section Laws
variable {ops : SecurityOperationsService} {db : SubjectAccessDb} {stamp : RightsStamp} {req : SubjectAccessRequest}

theorem readable_iff {provenance : Dict} {subjectId : String} :
    Readable provenance subjectId ↔ ∃ related, subjectRelated provenance subjectId = .ok related := by
  unfold Readable subjectRelated
  split
  · rename_i hself
    exact iff_of_true (.inl hself) ⟨true, rfl⟩
  · rename_i hself
    simp only [bind_eq_ok]
    constructor
    · rintro (hnamed | ⟨ids, hids⟩)
      · exact absurd hnamed hself
      · exact ⟨_, ids, hids, rfl⟩
    · rintro ⟨_, ids, hids, _⟩
      exact .inr ⟨ids, hids⟩

/-- Nothing false can be iterated over to find a subject. -/
theorem any_iterate_of_falsy {value : Json} {ids : List Json} {subjectId : String} (hfalsy : value.truthy = false)
    (h : value.iterate = .ok ids) : ids.any (Json.isText subjectId) = false := by
  cases value with
  | null | bool | num => cases h
  | arr items =>
    cases items with
    | nil =>
      cases h
      rfl
    | cons item items => cases hfalsy
  | obj fields =>
    cases fields with
    | nil =>
      cases h
      rfl
    | cons field fields => cases hfalsy
  | str s =>
    have hempty : s = "" := by simpa [Json.truthy] using hfalsy
    subst hempty
    cases h
    rfl

theorem namesSubject_of_related {provenance : Dict} {subjectId : String} {related : Bool}
    (h : subjectRelated provenance subjectId = .ok related) : namesSubject provenance subjectId = related := by
  unfold subjectRelated at h
  unfold namesSubject
  split at h
  · rename_i hself
    cases h
    rw [hself, Bool.true_or]
  · rename_i hself
    simp only [bind_eq_ok] at h
    obtain ⟨ids, hids, h⟩ := h
    cases h
    rw [Bool.not_eq_true] at hself
    rw [hself, Bool.false_or]
    unfold orEmptySet at hids
    split at hids
    · simp only [Json.asSet, bind_eq_ok] at hids
      obtain ⟨items, hitems, _, _, hids⟩ := hids
      cases hids
      rw [hitems]
    · rename_i hfalsy
      cases hids
      rw [Bool.not_eq_true] at hfalsy
      split
      · rename_i ids hiterate
        exact any_iterate_of_falsy hfalsy hiterate
      · rfl

theorem sourceRecords_eq {rows : List AssetRefRow} {subjectId : String} {records : List Json}
    (h : sourceRecords subjectId rows = .ok records) :
    records = (rows.filter fun row => namesSubject row.provenanceJson subjectId).map sourceRecord ∧
      ∀ row ∈ rows, Readable row.provenanceJson subjectId := by
  induction rows generalizing records with
  | nil =>
    cases h
    exact ⟨rfl, fun row hrow => absurd hrow List.not_mem_nil⟩
  | cons row rows ih =>
    simp only [sourceRecords, bind_eq_ok] at h
    obtain ⟨related, hrelated, rest, hrest, h⟩ := h
    obtain ⟨heq, hreadable⟩ := ih hrest
    cases h
    refine ⟨?_, List.forall_mem_cons.mpr ⟨readable_iff.mpr ⟨related, hrelated⟩, hreadable⟩⟩
    rw [List.filter_cons, namesSubject_of_related hrelated, heq]
    cases related <;> rfl

theorem sourceRecords_total {rows : List AssetRefRow} {subjectId : String}
    (h : ∀ row ∈ rows, Readable row.provenanceJson subjectId) : ∃ records, sourceRecords subjectId rows = .ok records := by
  induction rows with
  | nil => exact ⟨[], rfl⟩
  | cons row rows ih =>
    obtain ⟨hrow, hrows⟩ := List.forall_mem_cons.mp h
    obtain ⟨related, hrelated⟩ := readable_iff.mp hrow
    obtain ⟨records, hrecords⟩ := ih hrows
    simp only [sourceRecords, bind_eq_ok]
    exact ⟨_, related, hrelated, records, hrecords, rfl⟩

/-- A grant has no `consent_id`. -/
theorem consentEntry_error (row : SubjectGrantRow) :
    consentEntry row = .error (.attributeError "'ConsentGrantRow' object has no attribute 'consent_id'") := rfl

theorem consents_eq_nil {rows : List SubjectGrantRow} {consents : List Json} (h : rows.mapM consentEntry = .ok consents) :
    rows = [] ∧ consents = [] := by
  cases rows with
  | nil =>
    cases h
    exact ⟨rfl, rfl⟩
  | cons row rows =>
    rw [List.mapM_cons, bind_eq_ok] at h
    obtain ⟨entry, hentry, _⟩ := h
    rw [consentEntry_error] at hentry
    cases hentry

theorem listsExactly_accessResponse (hgrants : subjectGrants db req = []) :
    ListsExactly db req (accessResponse req.subjectId ((namedAssets db req).map sourceRecord) []) where
  assets := by
    refine ⟨_, rfl, ?_⟩
    rw [List.map_map]
    exact List.Perm.of_eq rfl
  consents := by
    refine ⟨_, rfl, ?_⟩
    rw [hgrants]
    exact .refl _

theorem insert?_rightsRow (response : Dict) (hexisting : existingRequest? db req = none) :
    (∃ requests, db.rightsRequests.insert? (rightsRow stamp req response) = some requests) ↔
      stamp.rightsRequestId ∉ db.rightsRequests.rows.map fun row => row.rightsRequestId := by
  have hhash : SubjectAccessRequest.requestHash req ∉ db.rightsRequests.rows.map fun row => row.requestHash := by
    intro hmem
    obtain ⟨row, hrow, hsame⟩ := List.mem_map.mp hmem
    have hnone := List.find?_eq_none.mp hexisting row hrow
    exact hnone (decide_eq_true hsame)
  unfold RightsRequests.insert?
  split
  · rename_i hfree
    exact iff_of_true ⟨_, rfl⟩ hfree.1
  · rename_i htaken
    refine iff_of_false nofun fun hfresh => htaken ⟨hfresh, hhash⟩

end Laws

/-- An export of a project succeeds and is exact exactly when an earlier response still is, or nothing stands in the way
of a new one. -/
theorem subject_access_export_exact_iff (ops : SecurityOperationsService) (db : SubjectAccessDb) (stamp : RightsStamp)
    (req : SubjectAccessRequest) (hindependent : req.requestedBy ≠ req.verifiedBy) (hdue : 1 ≤ req.dueDays ∧ req.dueDays ≤ 90) :
    (∃ db' result, ops.createSubjectAccessExport db stamp req = .ok (db', result) ∧
      ListsExactly db req result.responseManifest) ↔ ExportMeets ops db stamp req := by
  have hcheck : checkRights req = .ok () := by
    simp only [checkRights, bind_eq_ok, raiseIf_eq_ok]
    exact ⟨(), hindependent, by omega⟩
  unfold ExportMeets createSubjectAccessExport
  rw [hcheck]
  cases hexisting : existingRequest? db req with
  | some existing =>
    constructor
    · rintro ⟨db', result, h, hexact⟩
      cases h
      exact hexact
    · exact fun hexact => ⟨db, rightsResult existing true, rfl, hexact⟩
  | none =>
    simp only [bind_eq_ok, orRaise_eq_ok]
    constructor
    · rintro ⟨db', result, ⟨_, _, records, hrecords, consents, hconsents, requests, hinsert, store, hstore, h⟩, hexact⟩
      obtain ⟨hgrants, rfl⟩ := consents_eq_nil hconsents
      obtain ⟨hnamed, hreadable⟩ := sourceRecords_eq hrecords
      rw [hnamed, List.length_map] at hstore
      exact ⟨hgrants, hreadable, (insert?_rightsRow _ hexisting).mp ⟨requests, hinsert⟩, store, hstore⟩
    · rintro ⟨hgrants, hreadable, hfresh, store, hstore⟩
      obtain ⟨records, hrecords⟩ := sourceRecords_total hreadable
      have hnamed : records = (namedAssets db req).map sourceRecord := (sourceRecords_eq hrecords).1
      subst hnamed
      obtain ⟨requests, hinsert⟩ := (insert?_rightsRow
        (accessResponse req.subjectId ((namedAssets db req).map sourceRecord) []) hexisting).mpr hfresh
      have hconsents : (subjectGrants db req).mapM consentEntry = .ok [] := by
        rw [hgrants]
        rfl
      refine ⟨_, _, ⟨(), trivial, _, hrecords, [], hconsents, requests, hinsert, store, ?_, rfl⟩,
        listsExactly_accessResponse hgrants⟩
      rw [List.length_map]
      exact hstore

section Sample

/-- Ana asks for what a project holds about her, and Ben has verified her. -/
def accessRequest : SubjectAccessRequest := ⟨"t1", some "p1", "ana", "ana", "ben", [], 30⟩

def accessStamp : RightsStamp := ⟨"q1", 0, 0, ⟨0, "a1"⟩⟩

/-- A photograph that Ana gave. -/
def anaPhoto : AssetRefRow where
  assetId := "photo"
  tenantId := "t1"
  projectId := "p1"
  sha256 := ""
  originalName := "photo.jpg"
  classification := "internal"
  retentionClass := "project"
  sourceClass := "observed"
  authorityClass := "evidence"
  provenanceJson := [("subject_id", .str "ana")]
  createdBy := "ana"

def photoDb (grants : Table SubjectGrantRow (fun row => row.grantId)) : SubjectAccessDb :=
  ⟨.empty, ⟨[anaPhoto], List.nodup_singleton _⟩, grants, .empty⟩

def familyGrant : SubjectGrantRow where
  grantId := "g1"
  tenantId := "t1"
  projectId := "p1"
  purposesJson := ["preservation"]
  audiencesJson := ["family"]
  scopesJson := ["*"]
  expiresAt := none
  revokedAt := none
  subjectId := "ana"
  grantedBy := "ana"

/-- With one consent grant of hers, her request ends with an `AttributeError`. -/
theorem export_with_grant_raises :
    plainOperations.createSubjectAccessExport (photoDb ⟨[familyGrant], List.nodup_singleton _⟩) accessStamp accessRequest =
      .error (.attributeError "'ConsentGrantRow' object has no attribute 'consent_id'") := by
  rfl

theorem publishRights_photo (grants : Table SubjectGrantRow (fun row => row.grantId)) (response : Dict) :
    ∃ store, plainOperations.publishRights (photoDb grants).toStore accessStamp accessRequest response 1 = .ok store := by
  have hpayload : validatePayload (rightsPayload accessRequest 1) = .ok () := by
    have hkeys : (rightsPayload accessRequest 1).map Prod.fst =
        ["subject_id", "request_type", "state", "source_record_count", "scope_hash"] := rfl
    apply validatePayload_brief hkeys rfl (by decide)
    intro field hfield
    simp only [rightsPayload, List.mem_cons, List.not_mem_nil, or_false] at hfield
    rcases hfield with rfl | rfl | rfl | rfl | rfl
    · exact brief_str (by decide)
    · exact brief_str (by decide)
    · exact brief_str (by decide)
    · exact brief_int (by decide)
    · exact brief_sha256 _
  obtain ⟨log, hlog⟩ := Store.record_of_empty plainOperations.audit accessStamp.written
    (rightsAudit (rightsRow accessStamp accessRequest response) 1) (s := (photoDb grants).toStore) rfl
  obtain ⟨event, hevent⟩ := Store.emit_total { (photoDb grants).toStore with audit := log } accessStamp.written
    (r := rightsEvent (rightsRow accessStamp accessRequest response) (rightsPayload accessRequest 1)) rfl rfl rfl hpayload
  exact ⟨_, bind_eq_ok.mpr ⟨_, hlog, hevent⟩⟩

/-- Without a grant her request succeeds. -/
theorem export_without_grant :
    ∃ db' result, plainOperations.createSubjectAccessExport (photoDb .empty) accessStamp accessRequest = .ok (db', result) ∧
      ListsExactly (photoDb .empty) accessRequest result.responseManifest := by
  apply (subject_access_export_exact_iff plainOperations (photoDb .empty) accessStamp accessRequest (by decide) (by decide)).mpr
  have hnone : existingRequest? (photoDb .empty) accessRequest = none := rfl
  rw [ExportMeets, hnone]
  refine ⟨rfl, ?_, List.not_mem_nil, publishRights_photo _ _⟩
  intro row hrow
  rw [List.mem_singleton.mp hrow]
  exact .inl rfl

end Sample

end SecurityOperationsService
end Sip
