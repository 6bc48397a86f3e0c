import Sip.LiveForever.Visibility

/-!
# Editions and their idempotency keys

An edition freezes the records that an audience may see. The hash that tells a repeated
call from a new one is taken over what the caller passes together with the records that
are visible at the time of the call, so a repetition is recognized only as long as these
are the same.
-/

namespace Sip

set_option autoImplicit false

structure LiveForeverEditionRow where
  editionId : String
  tenantId : String
  projectId : String
  idempotencyKey : String
  requestHash : String
  name : String
  audienceProfile : Audience
  recordRevisionsJson : List Json
  presentationChoicesJson : Dict
  sceneCommitId : Option String
  narrativePathJson : List Json
  truthLegendJson : Dict
  policySnapshotJson : Dict
  state : String
  supersedesEditionId : Option String
  rootHash : String
  createdBy : String
  createdAt : Nat
  publishedAt : Option Nat

/-- The state of the service with its editions. -/
structure EditionDb extends LiveForeverDb where
  editions : Table LiveForeverEditionRow (fun row => row.editionId)

structure EditionRequest where
  tenantId : String
  projectId : String
  name : String
  audience : Audience
  purpose : String
  presentationChoices : Dict
  sceneCommitId : Option String
  narrativePath : List Json
  policySnapshot : Dict
  actorId : String
  idempotencyKey : String
  publish : Bool := false
  supersedesEditionId : Option String := none

structure EditionResult where
  editionId : String
  name : String
  audience : Audience
  state : String
  rootHash : String
  recordCount : Nat
  idempotentReplay : Bool

namespace LiveForeverService

section Requests

def truthLegend : Dict := [
  ("direct_capture", .str "Direct capture or preservation master."),
  ("source_document", .str "A source document or document-derived assertion."),
  ("first_person_recollection", .str "A first-person recollection; it is not automatically historical fact."),
  ("witness_recollection", .str "A witness recollection; it may conflict with other accounts."),
  ("corroborated_synthesis", .str "A synthesis supported by multiple independently identified sources."),
  ("inferred", .str "A platform or reviewer inference, not established fact."),
  ("reconstructed", .str "A source-constrained reconstruction with stated assumptions and limitations."),
  ("restored", .str "A restoration derivative; the preservation master remains unchanged."),
  ("generated", .str "AI-generated reconstruction; not a historical fact."),
  ("artistic", .str "An artistic interpretation rather than a factual reconstruction."),
  ("disputed", .str "A claim or interpretation with an unresolved material dispute."),
  ("unknown", .str "The source or truth class is not known."),
  ("verified", .str "Independently reviewed against eligible evidence for the stated purpose.")]

theorem keys_truthLegend : truthLegend.map Prod.fst = sourceLabels := rfl

/-- `item.get("data", {}).get("generated_label")`. -/
def itemGeneratedLabel (item : Dict) : Json :=
  match item.get "data" with
  | .obj data => Dict.get data "generated_label"
  | _ => .null

/-- What an edition keeps of a record besides its hash. -/
def recordLabels (item : Dict) : List Json := [
  item.get "source_class", (item.get? "source_label").getD (.str "unknown"), itemGeneratedLabel item, item.get "audience"]

/-- The entry of `record_revisions` for a record. -/
def recordRevisionOf (item : Dict) : Dict := [
  ("record_id", item.get "record_id"),
  ("record_hash", .str (canonicalSha256 (.obj item))),
  ("source_class", item.get "source_class"),
  ("source_label", (item.get? "source_label").getD (.str "unknown")),
  ("generated_label", itemGeneratedLabel item),
  ("audience", item.get "audience")]

def itemId (item : Dict) : String := (item.get "record_id").text?.getD ""

/-- The records that an edition is made of, sorted by identifier. -/
def editionItems (db : LiveForeverDb) (now : Nat) (req : EditionRequest) : List Dict :=
  sortBy itemId (visibleRecords db now req.tenantId req.projectId req.audience req.purpose)

def recordRevisions (db : LiveForeverDb) (now : Nat) (req : EditionRequest) : List Json :=
  (editionItems db now req).map fun item => .obj (recordRevisionOf item)

def editionBody (req : EditionRequest) (revisions : List Json) : Dict := [
  ("name", .str req.name),
  ("audience", .str req.audience.value),
  ("purpose", .str req.purpose),
  ("record_revisions", .arr revisions),
  ("presentation_choices", .obj req.presentationChoices),
  ("scene_commit_id", .ofOption req.sceneCommitId),
  ("narrative_path", .arr req.narrativePath),
  ("truth_legend", .obj truthLegend),
  ("policy_snapshot", .obj req.policySnapshot),
  ("publish", .bool req.publish),
  ("supersedes_edition_id", .ofOption req.supersedesEditionId)]

end Requests

section Creation
variable (svc : AuditService)

def insertEdition (db : EditionDb) (row : LiveForeverEditionRow) : Except Raised EditionDb := do
  raiseIf (db.editions.rows.any fun other => other.tenantId = row.tenantId ∧ other.projectId = row.projectId ∧
      other.idempotencyKey = row.idempotencyKey) (.integrityError "uq_liveforever_edition_idempotency")
  let editions ← orRaise (db.editions.insert? row) (.integrityError "liveforever_editions.edition_id")
  return { db with editions }

def editionRow (req : EditionRequest) (stamp : LiveForeverStamp) (revisions : List Json) : LiveForeverEditionRow where
  editionId := stamp.newId
  tenantId := req.tenantId
  projectId := req.projectId
  idempotencyKey := req.idempotencyKey
  requestHash := canonicalSha256 (.obj (editionBody req revisions))
  name := req.name
  audienceProfile := req.audience
  recordRevisionsJson := revisions
  presentationChoicesJson := req.presentationChoices.set "purpose" (.str req.purpose)
  sceneCommitId := req.sceneCommitId
  narrativePathJson := req.narrativePath
  truthLegendJson := truthLegend
  policySnapshotJson := req.policySnapshot
  state := if req.publish then "published" else "draft"
  supersedesEditionId := req.supersedesEditionId
  rootHash := canonicalSha256 (.obj ((editionBody req revisions).filter fun p => p.1 ≠ "publish"))
  createdBy := req.actorId
  createdAt := stamp.now
  publishedAt := if req.publish then some stamp.now else none

def editionEntry (row : LiveForeverEditionRow) : Entry where
  tenantId := row.tenantId
  projectId := row.projectId
  actorId := row.createdBy
  action := "liveforever:edition_create"
  resourceType := "liveforever_edition"
  resourceId := row.editionId
  details := [("audience", .str row.audienceProfile.value), ("state", .str row.state),
    ("record_count", .int row.recordRevisionsJson.length), ("root_hash", .str row.rootHash)]
  eventType := "liveforever.edition.created"
  aggregateType := "liveforever_edition"

/-- `_edition_result`. -/
def editionResult (row : LiveForeverEditionRow) (idempotentReplay : Bool) : EditionResult where
  editionId := row.editionId
  name := row.name
  audience := row.audienceProfile
  state := row.state
  rootHash := row.rootHash
  recordCount := row.recordRevisionsJson.length
  idempotentReplay := idempotentReplay

def keyedEdition? (db : EditionDb) (req : EditionRequest) : Option LiveForeverEditionRow :=
  db.editions.rows.find? fun row => row.tenantId = req.tenantId ∧ row.projectId = req.projectId ∧
    row.idempotencyKey = req.idempotencyKey

/-- The edition that is to be superseded has to be one of the project. -/
def checkSuperseded (db : EditionDb) (req : EditionRequest) : Except Raised Unit :=
  match given req.supersedesEditionId with
  | none => .ok ()
  | some editionId => do
    let row ← orRaise (db.editions.get? editionId) (notFoundError "edition" editionId)
    raiseIf (row.tenantId ≠ req.tenantId ∨ row.projectId ≠ req.projectId) (notFoundError "edition" editionId)

def createEdition (db : EditionDb) (stamp : LiveForeverStamp) (req : EditionRequest) :
    Except Raised (EditionResult × EditionDb) := do
  let revisions := recordRevisions db.toLiveForeverDb stamp.now req
  match keyedEdition? db req with
  | some prior => do
    raiseIf (prior.requestHash ≠ canonicalSha256 (.obj (editionBody req revisions)))
      (conflictError "IDEMPOTENCY_PAYLOAD_CONFLICT" "idempotency key was reused with different input")
    return (editionResult prior true, db)
  | none => do
    checkSuperseded db req
    let row := editionRow req stamp revisions
    let db ← insertEdition db row
    let recorded ← record svc db.toLiveForeverDb stamp.toStamp (editionEntry row)
    return (editionResult row false, { db with toLiveForeverDb := recorded })

/-- The operations on consents, records and reviews leave the editions alone. -/
def after (py : PyScalars) (db : EditionDb) (acts : List Act) : EditionDb :=
  { db with toLiveForeverDb := run (perform svc py) db.toLiveForeverDb acts }

end Creation

section Repetition
variable {svc : AuditService} {py : PyScalars} {db db' : EditionDb} {stamp : LiveForeverStamp} {req : EditionRequest}
  {result : EditionResult}

/-- Two records that an edition does not tell apart: with the same identifier, the same labels and the same document,
as far as its digest can tell. -/
def Alike (a b : Dict) : Prop :=
  Json.Same (a.get "record_id") (b.get "record_id") ∧ List.Forall₂ Json.Same (recordLabels a) (recordLabels b) ∧
    (Json.Same (.obj a) (.obj b) ∨ Sha256Collision (canonicalJson (.obj a)) (canonicalJson (.obj b)))

theorem same_str_iff {s t : String} : Json.Same (.str s) (.str t) ↔ s = t := by
  rw [Json.Same, Json.normalize_str, Json.normalize_str, Json.str.injEq]

theorem same_recordRevisionOf_iff {a b : Dict} :
    Json.Same (.obj (recordRevisionOf a)) (.obj (recordRevisionOf b)) ↔ Alike a b := by
  have hkeys : ∀ item, (recordRevisionOf item).map Prod.fst =
      ["record_id", "record_hash", "source_class", "source_label", "generated_label", "audience"] := fun _ => rfl
  rw [Json.same_obj_iff ((hkeys a).trans (hkeys b).symm) (hkeys a ▸ by decide)]
  simp only [recordRevisionOf, Alike, recordLabels, List.forall₂_cons, List.forall₂_nil_left_iff, and_true, same_str_iff,
    canonicalSha256_eq_iff]
  tauto

theorem same_recordRevisions_iff {items others : List Dict} :
    List.Forall₂ Json.Same (items.map fun item => .obj (recordRevisionOf item))
      (others.map fun item => .obj (recordRevisionOf item)) ↔ List.Forall₂ Alike items others := by
  rw [List.forall₂_map_left_iff, List.forall₂_map_right_iff]
  simp only [same_recordRevisionOf_iff]

/-- Requests of one caller differ in nothing but the records. -/
theorem same_editionBody_iff {revisions others : List Json} :
    Json.Same (.obj (editionBody req revisions)) (.obj (editionBody req others)) ↔
      List.Forall₂ Json.Same revisions others := by
  have hrefl : ∀ v : Json, Json.Same v v ↔ True := fun _ => iff_of_true rfl trivial
  have hkeys : ∀ items, (editionBody req items).map Prod.fst =
      ["name", "audience", "purpose", "record_revisions", "presentation_choices", "scene_commit_id", "narrative_path",
        "truth_legend", "policy_snapshot", "publish", "supersedes_edition_id"] := fun _ => rfl
  rw [Json.same_obj_iff ((hkeys revisions).trans (hkeys others).symm) (hkeys revisions ▸ by decide)]
  simp only [editionBody, List.forall₂_cons, List.forall₂_nil_left_iff, and_true, hrefl, true_and, Json.same_arr_iff]

/-- At the second time the audience sees, as far as the digests can tell, the records of the first. -/
def SeesTheSame (db : LiveForeverDb) (now : Nat) (db' : LiveForeverDb) (now' : Nat) (req : EditionRequest) : Prop :=
  List.Forall₂ Alike (editionItems db now req) (editionItems db' now' req) ∨
    Sha256Collision (canonicalJson (.obj (editionBody req (recordRevisions db now req))))
      (canonicalJson (.obj (editionBody req (recordRevisions db' now' req))))

theorem editionHash_eq_iff {db db' : LiveForeverDb} {now now' : Nat} :
    canonicalSha256 (.obj (editionBody req (recordRevisions db now req))) =
      canonicalSha256 (.obj (editionBody req (recordRevisions db' now' req))) ↔ SeesTheSame db now db' now' req := by
  rw [canonicalSha256_eq_iff, same_editionBody_iff]
  exact or_congr_left same_recordRevisions_iff

/-- The call returns the edition that was returned before and changes nothing. -/
def Replayed (svc : AuditService) (db : EditionDb) (stamp : LiveForeverStamp) (req : EditionRequest) (first : EditionResult) :
    Prop :=
  createEdition svc db stamp req = .ok ({ first with idempotentReplay := true }, db)

/-- A call with a key that is in use returns that edition or raises. -/
theorem createEdition_keyed {row : LiveForeverEditionRow} (hkey : keyedEdition? db req = some row) :
    createEdition svc db stamp req = .ok (editionResult row true, db) ↔
      row.requestHash = canonicalSha256 (.obj (editionBody req (recordRevisions db.toLiveForeverDb stamp.now req))) := by
  simp only [createEdition, hkey, bind_eq_ok, raiseIf_eq_ok, not_not]
  constructor
  · rintro ⟨_, hhash, _⟩
    exact hhash
  · intro hhash
    exact ⟨(), hhash, rfl⟩

/-- The edition that a successful call returns is the one under its key. -/
theorem createEdition_ok (h : createEdition svc db stamp req = .ok (result, db')) :
    ∃ row, keyedEdition? db' req = some row ∧ editionResult row true = { result with idempotentReplay := true } ∧
      row.requestHash = canonicalSha256 (.obj (editionBody req (recordRevisions db.toLiveForeverDb stamp.now req))) := by
  cases hkey : keyedEdition? db req with
  | some prior =>
    simp only [createEdition, hkey, bind_eq_ok, raiseIf_eq_ok, not_not] at h
    obtain ⟨_, hhash, hresult⟩ := h
    cases hresult
    exact ⟨prior, hkey, rfl, hhash⟩
  | none =>
    simp only [createEdition, hkey, insertEdition, bind_eq_ok, raiseIf_eq_ok, orRaise_eq_ok] at h
    obtain ⟨_, _, _, ⟨_, _, editions, hinsert, hinserted⟩, recorded, _, hresult⟩ := h
    cases hinserted
    cases hresult
    refine ⟨editionRow req stamp (recordRevisions db.toLiveForeverDb stamp.now req), ?_, rfl, rfl⟩
    unfold keyedEdition? at hkey ⊢
    rw [(Table.insert?_eq_some hinsert).2, List.find?_append, hkey]
    simp [editionRow]

/-- A repeated call returns the edition of the first, and creates none, exactly when the records that its audience sees
have stayed the same. -/
theorem edition_replayed_iff (h : createEdition svc db stamp req = .ok (result, db')) (acts : List Act)
    (later : LiveForeverStamp) :
    Replayed svc (after svc py db' acts) later req result ↔
      SeesTheSame db.toLiveForeverDb stamp.now (after svc py db' acts).toLiveForeverDb later.now req := by
  obtain ⟨row, hkey, hresult, hhash⟩ := createEdition_ok h
  have hlater : keyedEdition? (after svc py db' acts) req = some row := hkey
  rw [Replayed, ← hresult, createEdition_keyed hlater, hhash]
  exact editionHash_eq_iff

/-- An edition of Ana's letters for her family. -/
def lettersEdition : EditionRequest where
  tenantId := "t1"
  projectId := "p1"
  name := "Letters"
  audience := .family
  purpose := "preservation"
  presentationChoices := []
  sceneCommitId := none
  narrativePath := []
  policySnapshot := []
  actorId := "ana"
  idempotencyKey := "k1"

def lettersDb : EditionDb := { letterDb with editions := .empty }

def lettersStamp : LiveForeverStamp := ⟨⟨1, "a1"⟩, "e1", "", ⟨0, ""⟩⟩

def revokeLetter : RevokeRequest where
  grantId := "g1"
  tenantId := "t1"
  projectId := "p1"
  actorId := "ana"
  reason := "for myself only"

def letterHash : String := "65a9ebcaec32c16e84f86954bf28d5e731a3feb6d866565b6f024a2a6ca3b2ce"

def lettersHash : String := "752581e6060d21d65debf3d5b204f767a766355af47f7c96de66cfd3714b131f"

def lettersRoot : String := "77b174701878f6c2fc9e14d290c829169f945e015b1900767fddf1449b5ef454"

def emptyHash : String := "2870d57cf4f899986fa8dca6ffb26f1d3fe7a5fdf137334059eacf86bdc24af0"

def lettersAuditHash : String := "07acba4fe94eb73409027506d7909453de1e43186285c942fd08af27622ca4ee"

def revokeAuditHash : String := "0ba6e5d77c4881b99b40d3530cd56d7890b5451b8de5de01df633c198fad6733"

/-- What the edition keeps of the letter. -/
def letterRevision : Json := .obj [("record_id", .str "r1"), ("record_hash", .str letterHash),
  ("source_class", .str "recalled"), ("source_label", .str "first_person_recollection"), ("generated_label", .null),
  ("audience", .str "family")]

def lettersEntry : Entry where
  tenantId := "t1"
  projectId := "p1"
  actorId := "ana"
  action := "liveforever:edition_create"
  resourceType := "liveforever_edition"
  resourceId := "e1"
  details := [("audience", .str "family"), ("state", .str "draft"), ("record_count", .int 1), ("root_hash", .str lettersRoot)]
  eventType := "liveforever.edition.created"
  aggregateType := "liveforever_edition"

/-- The documents that are hashed below: the letter, the edition with it and without it, and two audit events. -/
def lettersDocuments : List (Json × String) := [
  (.obj (memoryPayload letter), letterHash),
  (.obj (editionBody lettersEdition [letterRevision]), lettersHash),
  (.obj ((editionBody lettersEdition [letterRevision]).filter fun p => p.1 ≠ "publish"), lettersRoot),
  (.obj (editionBody lettersEdition []), emptyHash),
  (AuditService.zeroBody 1 "a1" lettersEntry.audit genesisHash, lettersAuditHash),
  (AuditService.zeroBody 2 "a2" (revokeEntry openGrant "ana" "for myself only" 1 0).audit lettersAuditHash,
    revokeAuditHash)]

set_option maxRecDepth 10000 in
theorem hashTo_lettersDocuments : hashTo lettersDocuments = true := by decide +kernel

theorem recordRevisions_letters : recordRevisions letterDb 1 lettersEdition = [letterRevision] := by
  have hitems : editionItems letterDb 1 lettersEdition = [memoryPayload letter] := by rfl
  have hhash : canonicalSha256 (.obj (memoryPayload letter)) = letterHash :=
    canonicalSha256_of_hashTo hashTo_lettersDocuments 0 rfl
  rw [recordRevisions, hitems, List.map_singleton, recordRevisionOf, hhash]
  rfl

def lettersRow : LiveForeverEditionRow := editionRow lettersEdition lettersStamp [letterRevision]

theorem requestHash_letters : lettersRow.requestHash = lettersHash := canonicalSha256_of_hashTo hashTo_lettersDocuments 1 rfl

theorem editionEntry_letters : editionEntry lettersRow = lettersEntry := by
  have hroot : lettersRow.rootHash = lettersRoot := canonicalSha256_of_hashTo hashTo_lettersDocuments 2 rfl
  rw [editionEntry, hroot]
  rfl

/-- The edition is created, with the letter in it. -/
theorem create_letters : ∃ (made : EditionDb) (log : AuditLog) (outbox : List OutboxEventRow),
    createEdition .zeroKey lettersDb lettersStamp lettersEdition = .ok (editionResult lettersRow false, made) ∧
    made.toLiveForeverDb = { letterDb with audit := log, outbox } ∧
    made.editions.rows = [lettersRow] ∧ Succession "t1" 2 ["a1"] [lettersAuditHash] log := by
  obtain ⟨editions, hinsert⟩ := @Table.insert?_isSome _ _ lettersDb.editions lettersRow rfl
  obtain ⟨log, hlog, hone⟩ := @Store.record_next .zeroKey letterDb.toStore "t1" 0 [] [] lettersAuditHash ⟨1, "a1"⟩
    lettersEntry.audit (.start "t1" 0) (by decide) rfl (by decide)
    (canonicalSha256_of_hashTo hashTo_lettersDocuments 4 rfl) (by decide)
  have hpayload : validatePayload (("resource_id", .str lettersEntry.resourceId) :: lettersEntry.details) = .ok () := by
    have hkeys : (("resource_id", Json.str lettersEntry.resourceId) :: lettersEntry.details).map Prod.fst =
        ["resource_id", "audience", "state", "record_count", "root_hash"] := rfl
    apply validatePayload_brief hkeys rfl (by decide)
    intro p hp
    simp only [lettersEntry, List.mem_cons, List.not_mem_nil, or_false] at hp
    rcases hp with rfl | rfl | rfl | rfl | rfl
    · exact brief_str (by decide)
    · exact brief_str (by decide)
    · exact brief_str (by decide)
    · exact brief_int (by decide)
    · exact brief_str (by decide)
  obtain ⟨outbox, hrecord⟩ := @record_total .zeroKey letterDb ⟨1, "a1"⟩ lettersEntry log _ hlog rfl rfl rfl hpayload
  refine ⟨⟨{ letterDb with audit := log, outbox }, editions⟩, log, outbox, ?_, rfl, (Table.insert?_eq_some hinsert).2, hone⟩
  have hrevisions : recordRevisions lettersDb.toLiveForeverDb lettersStamp.now lettersEdition = [letterRevision] :=
    recordRevisions_letters
  have hrow : editionRow lettersEdition lettersStamp [letterRevision] = lettersRow := rfl
  have hnone : keyedEdition? lettersDb lettersEdition = none := rfl
  have hinserted : insertEdition lettersDb lettersRow = .ok { lettersDb with editions } := by
    simp only [insertEdition, bind_eq_ok, raiseIf_eq_ok, orRaise_eq_ok]
    exact ⟨(), by rintro ⟨⟩, editions, hinsert, rfl⟩
  simp only [createEdition, hrevisions, hnone, hrow, hinserted, editionEntry_letters, bind_eq_ok]
  exact ⟨(), rfl, _, rfl, _, hrecord, rfl⟩

/-- Repeated at once, the call returns the edition again. -/
theorem edition_replayed_letters : ∃ result made, createEdition .zeroKey lettersDb lettersStamp lettersEdition =
    .ok (result, made) ∧ Replayed .zeroKey (after .zeroKey plainTexts made []) ⟨⟨2, "a2"⟩, "e2", "", ⟨0, ""⟩⟩ lettersEdition result := by
  obtain ⟨made, log, outbox, hcreate, hmade, _, _⟩ := create_letters
  refine ⟨_, made, hcreate, (edition_replayed_iff hcreate [] _).mpr (.inl ?_)⟩
  have hitems : editionItems made.toLiveForeverDb 2 lettersEdition = [memoryPayload letter] := by
    rw [hmade]
    rfl
  have halike : Alike (memoryPayload letter) (memoryPayload letter) := same_recordRevisionOf_iff.mp rfl
  exact hitems.symm ▸ List.Forall₂.cons halike .nil

def revokeAct : Act := ⟨.revokeConsent revokeLetter, ⟨⟨2, "a2"⟩, "", "", ⟨0, ""⟩⟩⟩

/-- The grant is revoked after the edition. -/
theorem perform_revokeAct {log : AuditLog} {outbox : List OutboxEventRow} (h : Succession "t1" 2 ["a1"] [lettersAuditHash] log) :
    ∃ log' outbox', perform .zeroKey plainTexts { letterDb with audit := log, outbox } revokeAct =
      { withdraw letterDb openGrant 2 "ana" "for myself only" with audit := log', outbox := outbox' } := by
  let entry := revokeEntry openGrant "ana" "for myself only" 1 0
  let db : LiveForeverDb := { letterDb with audit := log, outbox }
  obtain ⟨log', hlog, -⟩ := @Store.record_next .zeroKey db.toStore "t1" 2 ["a1"] [lettersAuditHash] revokeAuditHash ⟨2, "a2"⟩
    entry.audit h (by decide) rfl (by decide) (canonicalSha256_of_hashTo hashTo_lettersDocuments 5 rfl) (by decide)
  have hpayload : validatePayload (("resource_id", .str entry.resourceId) :: entry.details) = .ok () := by
    have hkeys : (("resource_id", Json.str entry.resourceId) :: entry.details).map Prod.fst =
        ["resource_id", "reason", "affected_records", "affected_derivatives"] := rfl
    apply validatePayload_brief hkeys rfl (by decide)
    intro p hp
    simp only [entry, revokeEntry, List.mem_cons, List.not_mem_nil, or_false] at hp
    rcases hp with rfl | rfl | rfl | rfl
    · exact brief_str (by decide)
    · exact brief_str (by decide)
    · exact brief_int (by decide)
    · exact brief_int (by decide)
  obtain ⟨outbox', hrecord⟩ := @record_total .zeroKey (withdraw db openGrant 2 "ana" "for myself only") ⟨2, "a2"⟩ entry log' _
    hlog rfl rfl rfl hpayload
  refine ⟨log', outbox', ?_⟩
  have hrevoke : ∃ revocation, revokeConsent .zeroKey db ⟨⟨2, "a2"⟩, "", "", ⟨0, ""⟩⟩ revokeLetter = .ok (revocation,
      { withdraw letterDb openGrant 2 "ana" "for myself only" with audit := log', outbox := outbox' }) := by
    refine ⟨⟨"g1", 1, 0, false⟩, ?_⟩
    simp only [revokeConsent, bind_eq_ok, orRaise_eq_ok, raiseIf_eq_ok]
    refine ⟨openGrant, rfl, (), by decide, ?_⟩
    rw [if_neg (by decide)]
    simp only [bind_eq_ok]
    exact ⟨_, hrecord, rfl⟩
  obtain ⟨revocation, hrevocation⟩ := hrevoke
  simp only [perform, revokeAct]
  rw [hrevocation]
  rfl

/-- Once Ana has revoked her consent, the same call conflicts with itself. -/
theorem revoked_edition_conflicts : ∃ result made, createEdition .zeroKey lettersDb lettersStamp lettersEdition =
    .ok (result, made) ∧
    ¬ Replayed .zeroKey (after .zeroKey plainTexts made [revokeAct]) ⟨⟨3, "a3"⟩, "e2", "", ⟨0, ""⟩⟩ lettersEdition result := by
  obtain ⟨made, log, outbox, hcreate, hmade, hrows, hlog⟩ := create_letters
  refine ⟨_, made, hcreate, ?_⟩
  obtain ⟨log', outbox', hperform⟩ := @perform_revokeAct log outbox hlog
  have hkey : keyedEdition? (after .zeroKey plainTexts made [revokeAct]) lettersEdition = some lettersRow := by
    rw [keyedEdition?, show (after .zeroKey plainTexts made [revokeAct]).editions.rows = [lettersRow] from hrows]
    rfl
  have hitems : recordRevisions (after .zeroKey plainTexts made [revokeAct]).toLiveForeverDb 3 lettersEdition = [] := by
    rw [after, run_cons, run_nil, hmade, hperform]
    rfl
  have hempty : canonicalSha256 (.obj (editionBody lettersEdition [])) = emptyHash :=
    canonicalSha256_of_hashTo hashTo_lettersDocuments 3 rfl
  intro hreplayed
  have hhash := (createEdition_keyed hkey).mp hreplayed
  rw [hitems, hempty, requestHash_letters] at hhash
  exact absurd hhash (by decide)
end Repetition

end LiveForeverService
end Sip
