import Sip.Audit.Successive
import Sip.Foundation.PlainDigests
import Sip.LiveForever.Visibility

/-!
# Who may verify a record

A review refuses the author of the record it is asked for. The author of a record that
this one revises is not looked at, so what a verified record says about its reviewer
depends on who was allowed to ask: if no reviewer has written an earlier version of what
they review, no verified record has a reviewer among the authors of its versions.
-/

namespace Sip
namespace LiveForeverService

set_option autoImplicit false

section Closed
variable {α : Type} {r s : α → α → Prop} {P : α → Prop}

theorem closed_transGen (hclosed : ∀ a b, P a → s a b → P b) {a b : α} (ha : P a) (h : Relation.TransGen s a b) : P b := by
  induction h with
  | single hab => exact hclosed _ _ ha hab
  | tail _ hbc ih => exact hclosed _ _ ih hbc

/-- Two relations that agree on a set one of them does not leave have the same paths from it. -/
theorem transGen_iff_of_closed (hiff : ∀ a b, P a → (r a b ↔ s a b)) (hclosed : ∀ a b, P a → s a b → P b) {a b : α}
    (ha : P a) : Relation.TransGen r a b ↔ Relation.TransGen s a b := by
  constructor
  · intro h
    induction h with
    | single hab => exact .single ((hiff _ _ ha).mp hab)
    | tail _ hbc ih => exact ih.tail ((hiff _ _ (closed_transGen hclosed ha ih)).mp hbc)
  · intro h
    induction h with
    | single hab => exact .single ((hiff _ _ ha).mpr hab)
    | tail hab hbc ih => exact ih.tail ((hiff _ _ (closed_transGen hclosed ha hab)).mpr hbc)

end Closed

variable {svc : AuditService} {py : PyScalars} {db db' : LiveForeverDb}

section Chains

def Present (db : LiveForeverDb) (recordId : String) : Prop := ∃ row, db.records.get? recordId = some row

/-- A record names another one, which is there, in its `revision_of`. -/
def Revises (db : LiveForeverDb) (recordId revisedId : String) : Prop :=
  (∃ row, db.records.get? recordId = some row ∧ row.dataJson.get "revision_of" = .str revisedId) ∧ Present db revisedId

/-- The second record is somewhere in the `revision_of` chain of the first. -/
def Descends (db : LiveForeverDb) : String → String → Prop := Relation.TransGen (Revises db)

def AuthoredBy (db : LiveForeverDb) (recordId person : String) : Prop :=
  ∃ row, db.records.get? recordId = some row ∧ row.createdBy = person

/-- The identifier that a call draws is not one that a record already refers to. -/
def FreshId (db : LiveForeverDb) (recordId : String) : Prop :=
  ∀ other row, db.records.get? other = some row → row.dataJson.get "revision_of" ≠ .str recordId

theorem Revises.present {recordId revisedId : String} (h : Revises db recordId revisedId) : Present db revisedId := h.2

theorem Descends.present {recordId ancestor : String} (h : Descends db recordId ancestor) : Present db ancestor := by
  cases h with
  | single hedge => exact hedge.present
  | tail _ hedge => exact hedge.present

/-- The reviewed record is found under its new identifier. -/
theorem Reviewed.get?_reviewed {stamp : LiveForeverStamp} {req : ReviewRequest} {source : LiveForeverRecordRow}
    (h : Reviewed db db' stamp req source) : db'.records.get? stamp.newId = some (reviewedRow req stamp source) := by
  have hne : stamp.newId ≠ source.recordId := by
    intro heq
    obtain ⟨inserted, hinsert, _⟩ := h.records
    have hnone : db.records.get? stamp.newId = none := (Table.insert?_eq_some hinsert).1
    rw [heq, h.get?_source] at hnone
    cases hnone
  rw [h.get?, if_neg hne, if_pos rfl]

variable {act : Act} (h : Effect py db act db')
include h

theorem Effect.present {recordId : String} (hpresent : Present db recordId) : Present db' recordId := by
  obtain ⟨row, hrow⟩ := hpresent
  obtain ⟨new, hnew, _⟩ := h.kept hrow
  exact ⟨new, hnew⟩

theorem Effect.authoredBy_iff {recordId person : String} (hpresent : Present db recordId) :
    AuthoredBy db' recordId person ↔ AuthoredBy db recordId person := by
  obtain ⟨row, hrow⟩ := hpresent
  obtain ⟨new, hnew, hkept⟩ := h.kept hrow
  have hauthor : new.createdBy = row.createdBy := by rw [hkept.columns]
  simp only [AuthoredBy, hrow, hnew, Option.some.injEq, exists_eq_left', hauthor]

variable (hfresh : FreshId db act.stamp.newId)
include hfresh

/-- What a record revises does not change. -/
theorem Effect.revises_iff {recordId revisedId : String} (hpresent : Present db recordId) :
    Revises db' recordId revisedId ↔ Revises db recordId revisedId := by
  obtain ⟨row, hrow⟩ := hpresent
  obtain ⟨new, hnew, hkept⟩ := h.kept hrow
  constructor
  · rintro ⟨⟨other, hother, hrevises⟩, revised, hrevised⟩
    have heq : other = new := Option.some.inj (hother.symm.trans hnew)
    subst heq
    rw [hkept.revision] at hrevises
    refine ⟨⟨row, hrow, hrevises⟩, ?_⟩
    rcases h.origin hrevised with ⟨old, hold, _⟩ | ⟨_, hid, _⟩ | ⟨_, hid, _⟩
    · exact ⟨old, hold⟩
    · exact absurd (hid ▸ hrevises) (hfresh recordId row hrow)
    · exact absurd (hid ▸ hrevises) (hfresh recordId row hrow)
  · rintro ⟨⟨other, hother, hrevises⟩, hrevised⟩
    have heq : other = row := Option.some.inj (hother.symm.trans hrow)
    subst heq
    exact ⟨⟨new, hnew, hkept.revision.trans hrevises⟩, h.present hrevised⟩

theorem Effect.descends_iff {recordId ancestor : String} (hpresent : Present db recordId) :
    Descends db' recordId ancestor ↔ Descends db recordId ancestor :=
  @transGen_iff_of_closed _ (Revises db') (Revises db) (Present db) (fun _ _ ha => h.revises_iff hfresh ha)
    (fun _ _ _ hedge => hedge.present) _ _ hpresent

/-- The chain of a reviewed record is its source and the chain of that. -/
theorem Effect.descends_reviewed {req : ReviewRequest} {source : LiveForeverRecordRow}
    (hreviewed : Reviewed db db' act.stamp req source) {ancestor : String} :
    Descends db' act.stamp.newId ancestor ↔ ancestor = source.recordId ∨ Descends db source.recordId ancestor := by
  have hsource : Present db source.recordId := ⟨source, hreviewed.get?_source⟩
  have hnew := hreviewed.get?_reviewed
  have hrevision : (reviewedRow req act.stamp source).dataJson.get "revision_of" = .str source.recordId := by
    simp [reviewedRow, Dict.get, Dict.update, Dict.lookup_set]
  have hedge : ∀ revisedId, Revises db' act.stamp.newId revisedId ↔ revisedId = source.recordId := by
    intro revisedId
    constructor
    · rintro ⟨⟨row, hrow, hrevises⟩, _⟩
      have heq : row = reviewedRow req act.stamp source := Option.some.inj (hrow.symm.trans hnew)
      rw [heq, hrevision] at hrevises
      exact (Json.str.inj hrevises).symm
    · rintro rfl
      exact ⟨⟨_, hnew, hrevision⟩, h.present hsource⟩
  rw [Descends, Relation.TransGen.head'_iff]
  simp only [hedge, exists_eq_left, Relation.reflTransGen_iff_eq_or_transGen]
  rw [← h.descends_iff hfresh hsource]
  rfl

end Chains

section Independence

/-- The record was produced by a review whose reviewer wrote none of the records in its chain. -/
def IndependentlyReviewed (db : LiveForeverDb) (row : LiveForeverRecordRow) : Prop :=
  ∃ review ∈ db.reviews.rows, review.reviewedRecordId = row.recordId ∧ review.reviewerId = row.createdBy ∧
    ∀ ancestor, Descends db row.recordId ancestor → ¬ AuthoredBy db ancestor review.reviewerId

/-- Nobody has verified their own testimony. -/
def Independence (db : LiveForeverDb) : Prop :=
  ∀ row ∈ db.records.rows, row.sourceClass = .verified ∨ row.sourceClass = .corroborated → IndependentlyReviewed db row

/-- A reviewer has written no record that the reviewed one revises, directly or not. -/
def Unrelated (db : LiveForeverDb) (act : Act) : Prop :=
  ∀ req, act.call = .reviewRecord req → ∀ ancestor, Descends db req.recordId ancestor →
    ¬ AuthoredBy db ancestor req.reviewerId

theorem Effect.reviews_mono {act : Act} (h : Effect py db act db') {review : LiveForeverRecordReviewRow}
    (hreview : review ∈ db.reviews.rows) : review ∈ db'.reviews.rows := by
  cases h with
  | same _ hreviews => exact hreviews ▸ hreview
  | withdrawn _ _ _ hreviews => exact hreviews ▸ hreview
  | created _ _ _ _ hreviews => exact hreviews ▸ hreview
  | reviewed _ _ _ hreviewed =>
    rw [hreviewed.reviews]
    exact List.mem_append_left _ hreview

/-- `create_record` creates no governed record. -/
theorem Created.not_governed {stamp : LiveForeverStamp} {req : RecordRequest} {row : LiveForeverRecordRow}
    (h : Created py db stamp req row) : ¬ (row.sourceClass = .verified ∨ row.sourceClass = .corroborated) := by
  obtain ⟨_, _, _, _, _, _, _, rfl⟩ := h.row_eq
  have hchecked := h.checked
  simp only [checkRecord, bind_eq_ok, raiseIf_eq_ok] at hchecked
  obtain ⟨_, _, _, _, _, _, hclass⟩ := hchecked
  exact fun hgoverned => hclass hgoverned.symm

theorem independence_effect {act : Act} (h : Effect py db act db') (hfresh : FreshId db act.stamp.newId)
    (hunrelated : Unrelated db act) (hdb : Independence db) : Independence db' := by
  intro new hmem hgoverned
  have hnew := (Table.mem_rows_iff _ _).mp hmem
  rcases h.origin hnew with ⟨row, hrow, hkept⟩ | ⟨_, _, req, hcreated⟩ | ⟨_, hid, req, source, hcall, hreviewed, hrow⟩
  · have hclass : new.sourceClass = row.sourceClass := by rw [hkept.columns]
    have hauthor : new.createdBy = row.createdBy := by rw [hkept.columns]
    obtain ⟨holdmem, hsame⟩ := (Table.get?_eq_some_iff _ _ _).mp hrow
    have hsame : row.recordId = new.recordId := hsame
    obtain ⟨review, hreview, hof, hby, hchain⟩ := hdb row holdmem (hclass ▸ hgoverned)
    refine ⟨review, h.reviews_mono hreview, hof.trans hsame, hby.trans hauthor.symm, ?_⟩
    intro ancestor hdescends
    rw [h.descends_iff hfresh ⟨row, hrow⟩] at hdescends
    rw [h.authoredBy_iff hdescends.present]
    exact hchain ancestor (hsame ▸ hdescends)
  · exact absurd hgoverned hcreated.not_governed
  · have hreq : source.recordId = req.recordId :=
      ((Table.get?_eq_some_iff _ _ _).mp (reviewable_ok hreviewed.reviewable).1).2
    refine ⟨reviewRow req act.stamp source, ?_, hid.symm, by rw [hrow]; rfl, ?_⟩
    · rw [hreviewed.reviews]
      exact List.mem_append_right _ (List.mem_singleton_self _)
    · intro ancestor hdescends
      change Descends db' new.recordId ancestor at hdescends
      rw [show new.recordId = act.stamp.newId from hid, h.descends_reviewed hfresh hreviewed] at hdescends
      rcases hdescends with rfl | hdescends
      · rw [h.authoredBy_iff ⟨source, hreviewed.get?_source⟩]
        rintro ⟨found, hfound, hauthor⟩
        have heq : found = source := Option.some.inj (hfound.symm.trans hreviewed.get?_source)
        exact (reviewable_ok hreviewed.reviewable).2.2 (heq ▸ hauthor).symm
      · rw [h.authoredBy_iff hdescends.present]
        exact hunrelated req hcall ancestor (hreq ▸ hdescends)

/-- As long as reviewers have not written an earlier version of what they review, every governed record of every
state was produced by a review, and its reviewer wrote none of the records in its chain. -/
theorem independence_along (svc : AuditService) (py : PyScalars) (db : LiveForeverDb) (hempty : db.records.rows = [])
    (acts : List Act)
    (hacts : Along (perform svc py) (fun db act => FreshId db act.stamp.newId ∧ Unrelated db act) db acts) :
    Independence (run (perform svc py) db acts) := by
  have hstart : Independence db := by
    intro row hrow
    rw [hempty] at hrow
    cases hrow
  refine run_invariant_along ?_ hstart hacts
  rintro state act ⟨hfresh, hunrelated⟩ hstate
  exact independence_effect (effect_perform svc py state act) hfresh hunrelated hstate

/-- A review by somebody who has written an earlier version breaks the law at once. -/
theorem not_independence_of_related {act : Act} (h : Effect py db act db') (hfresh : FreshId db act.stamp.newId)
    {req : ReviewRequest} {source : LiveForeverRecordRow} (hreviewed : Reviewed db db' act.stamp req source)
    {ancestor : String} (hdescends : Descends db source.recordId ancestor) (hauthor : AuthoredBy db ancestor req.reviewerId) :
    ¬ Independence db' := by
  intro hdb
  have hnew := hreviewed.get?_reviewed
  have hgoverned : req.targetSourceClass = .verified ∨ req.targetSourceClass = .corroborated := by
    have hchecked := hreviewed.checked
    simp only [checkReview, bind_eq_ok, raiseIf_eq_ok, not_and_or, not_not] at hchecked
    obtain ⟨_, htarget, _⟩ := hchecked
    exact htarget.symm
  obtain ⟨review, _, _, hby, hchain⟩ := hdb _ ((Table.get?_eq_some_iff _ _ _).mp hnew).1 hgoverned
  apply hchain ancestor ((h.descends_reviewed hfresh hreviewed).mpr (.inr hdescends))
  rw [hby]
  exact (h.authoredBy_iff hdescends.present).mpr hauthor

end Independence

section Sample

/-- A scan of the house's deed. -/
def deed : AssetRefRow where
  assetId := "d1"
  tenantId := "t1"
  projectId := "p1"
  sha256 := genesisHash
  originalName := "deed"
  classification := "internal"
  retentionClass := "project"
  sourceClass := "observed"
  authorityClass := "evidence"
  provenanceJson := []
  createdBy := "ana"

/-- A project with the deed and no records. -/
def deedDb : LiveForeverDb := { LiveForeverDb.empty with
  projects := .single ⟨"p1", "t1", "internal", "active"⟩
  refs := ⟨[deed], by decide⟩
  objects := ⟨[⟨genesisHash, 1, "application/pdf", "k", ⟨"", "", "", "", "", ""⟩, 0⟩], by decide⟩ }

def homeScope : Dict := [("kind", .str "place"), ("scope_id", .str "house"),
  ("consent_basis", .str "documented_family_authority")]

/-- Ana records the house. -/
def homeRequest : RecordRequest where
  tenantId := "t1"
  projectId := "p1"
  recordType := "place"
  subjectId := none
  relatedIds := []
  data := []
  sourceClass := .recalled
  confidence := .one
  evidenceAssetIds := []
  audience := .family
  actorId := "ana"
  subjectScope := some homeScope

/-- Ben corrects a word of it. -/
def homeRevision : RevisionRequest where
  recordId := "r1"
  tenantId := "t1"
  projectId := "p1"
  editorId := "ben"
  correctionType := "transcription_correction"
  reason := "spelling"
  changes := [("title", .str "Home")]

/-- Ana has the corrected record verified by herself. -/
def homeReview : ReviewRequest where
  recordId := "r2"
  tenantId := "t1"
  projectId := "p1"
  reviewerId := "ana"
  targetSourceClass := .verified
  rationale := "as I said"
  evidenceAssetIds := ["d1"]
  confidence := .one
  idempotencyKey := "k1"

def homeActs : List Act := [
  ⟨.createRecord homeRequest, ⟨⟨1, "a1"⟩, "r1", "", ⟨0, ""⟩⟩⟩,
  ⟨.reviseRecord homeRevision, ⟨⟨2, "a2"⟩, "r2", "", ⟨3, "a3"⟩⟩⟩,
  ⟨.reviewRecord homeReview, ⟨⟨4, "a4"⟩, "r3", "v1", ⟨0, ""⟩⟩⟩]

/-- The document of Ana's record. -/
def homeData : Dict := [
  ("working_label", .str "place:r1"), ("contributor_id", .str "ana"), ("source_label", .str "first_person_recollection"),
  ("time_expression", .obj [("kind", .str "unknown")]), ("themes", .arr []),
  ("emotional_sensitivity", .str "unspecified"), ("assertions", .arr []), ("consent_context", .obj []),
  ("subject_scope", .obj [("kind", .str "place"), ("scope_id", .str "house"),
    ("consent_basis", .str "documented_family_authority"), ("related_subject_ids", .arr [])]),
  ("status", .str "active"), ("access_state", .str "active")]

def homeSubject : Subject := ⟨none, some ⟨"place", "house", "documented_family_authority", []⟩, []⟩

def homeRow : LiveForeverRecordRow := recordRow homeRequest "r1" 1 homeSubject homeData none

def homeHash : String := "4ccb0cc6a696fda46cbb7522d87d61301b12770fc9d5fe5e9b2a9fe215153eaf"

/-- The document of Ben's correction. -/
def correctedData : Dict := [
  ("working_label", .str "place:r1"), ("contributor_id", .str "ana"), ("source_label", .str "first_person_recollection"),
  ("time_expression", .obj [("kind", .str "unknown"), ("basis", .null)]), ("themes", .arr []),
  ("emotional_sensitivity", .str "unspecified"), ("assertions", .arr []), ("consent_context", .obj []),
  ("subject_scope", .obj [("kind", .str "place"), ("scope_id", .str "house"),
    ("consent_basis", .str "documented_family_authority"), ("related_subject_ids", .arr [])]),
  ("status", .str "active"), ("access_state", .str "active"), ("title", .str "Home"), ("revision_of", .str "r1"),
  ("correction", .obj [("type", .str "transcription_correction"), ("reason", .str "spelling"), ("editor_id", .str "ben"),
    ("original_hash", .str homeHash), ("created_at", .str (isoformat 2))])]

/-- What Ben's revision asks `create_record` for. -/
def correctedRequest : RecordRequest := { homeRequest with
  relatedIds := ["r1"]
  actorId := "ben"
  purpose := "family_review"
  subjectScope := some [("kind", .str "place"), ("scope_id", .str "house"),
    ("consent_basis", .str "documented_family_authority"), ("related_subject_ids", .arr [])]
  data := correctedData.set "time_expression" (.obj [("kind", .str "unknown")]) }

def correctedRow : LiveForeverRecordRow := recordRow correctedRequest "r2" 2 homeSubject correctedData none

/-- The state with some records and what has been logged. -/
def deedDbWith (records : Table LiveForeverRecordRow (fun row => row.recordId)) (log : AuditLog)
    (outbox : List OutboxEventRow) : LiveForeverDb :=
  { deedDb with records, toStore := { deedDb.toStore with audit := log, outbox } }

def homeRecords : Table LiveForeverRecordRow (fun row => row.recordId) := ⟨[homeRow], by decide⟩

def correctedRecords : Table LiveForeverRecordRow (fun row => row.recordId) := ⟨[homeRow, correctedRow], by decide⟩

def createdHash : String := "4a51598ecfea846283c1c092c9b4b02d143a8a9c011649173c62aff7a7c6141e"

def correctedHash : String := "c53cb0639125bde505262f5a228f4d6eca6ff41c9b53912ff91d1eb2a8c4eca0"

def revisedHash : String := "4c0269c4c45b5a8dbd04a7a44e1d36d20a283ad2329df30922dfbabd374b1c25"

def reviewedHash : String := "268af7c56a7d5055bc1da7b70e40f1d8e5174d35e8a0dde200d574ace5a050da"

def sourceHash : String := "690a123511bd6d7bc1f047f7f8a6e61b96cc578749bf2e09857242f51810b948"

def reviewHash : String := "75eb41028ae8a3c7419d521daaf833fa583751137cb35dbed5dc8d4dfa4e14c6"

def reviewStamp : LiveForeverStamp := ⟨⟨4, "a4"⟩, "r3", "v1", ⟨0, ""⟩⟩

/-- The audit entry of the review. -/
def homeReviewEntry : Entry where
  tenantId := "t1"
  projectId := "p1"
  actorId := "ana"
  action := "liveforever:record_review"
  resourceType := "liveforever_record_review"
  resourceId := "v1"
  details := [("source_record_id", .str "r2"), ("reviewed_record_id", .str "r3"), ("target_source_class", .str "verified"),
    ("review_hash", .str reviewHash)]
  eventType := "liveforever.memory.reviewed"
  aggregateType := "liveforever_record_review"

/-- The documents that are hashed below: two records, a review and four audit events. -/
def homeDocuments : List (Json × String) := [
  (.obj (originalPayload homeRow), homeHash),
  (.obj (memoryPayload correctedRow), sourceHash),
  (.obj (reviewBody homeReview ++ [("review_id", .str "v1"), ("reviewer_id", .str homeReview.reviewerId),
    ("source_record_hash", .str sourceHash)]), reviewHash),
  (AuditService.zeroBody 1 "a1" (recordEntry homeRow "first_person_recollection").audit genesisHash, createdHash),
  (AuditService.zeroBody 2 "a2" (recordEntry correctedRow "first_person_recollection").audit createdHash, correctedHash),
  (AuditService.zeroBody 3 "a3" (reviseEntry homeRevision "r2").audit correctedHash, revisedHash),
  (AuditService.zeroBody 4 "a4" homeReviewEntry.audit revisedHash, reviewedHash)]

set_option maxRecDepth 10000 in
theorem hashTo_homeDocuments : hashTo homeDocuments = true := by decide +kernel

theorem canonicalSha256_home : canonicalSha256 (.obj (originalPayload homeRow)) = homeHash :=
  canonicalSha256_of_hashTo hashTo_homeDocuments 0 rfl

theorem revisionRecord_home : revisionRecord homeRow 2 homeRevision = correctedRequest := by
  simp only [revisionRecord, revisedData]
  rw [canonicalSha256_home]
  rfl

theorem canonicalSha256_source : canonicalSha256 (.obj (memoryPayload correctedRow)) = sourceHash :=
  canonicalSha256_of_hashTo hashTo_homeDocuments 1 rfl

theorem reviewHash_home : (reviewRow homeReview reviewStamp correctedRow).reviewHash = reviewHash := by
  simp only [reviewRow]
  rw [canonicalSha256_source]
  exact canonicalSha256_of_hashTo hashTo_homeDocuments 2 rfl

theorem canonicalSha256_created : canonicalSha256 ((AuditService.zeroKey.entry .empty 1 "a1"
    (recordEntry homeRow "first_person_recollection").audit).body genesisHash) = createdHash :=
  canonicalSha256_of_hashTo hashTo_homeDocuments 3 rfl

theorem canonicalSha256_corrected : canonicalSha256 ((AuditService.zeroKey.entry .empty 2 "a2"
    (recordEntry correctedRow "first_person_recollection").audit).body createdHash) = correctedHash :=
  canonicalSha256_of_hashTo hashTo_homeDocuments 4 rfl

theorem canonicalSha256_revised : canonicalSha256 ((AuditService.zeroKey.entry .empty 3 "a3"
    (reviseEntry homeRevision "r2").audit).body correctedHash) = revisedHash :=
  canonicalSha256_of_hashTo hashTo_homeDocuments 5 rfl

theorem canonicalSha256_reviewed : canonicalSha256 ((AuditService.zeroKey.entry .empty 4 "a4"
    homeReviewEntry.audit).body revisedHash) = reviewedHash := canonicalSha256_of_hashTo hashTo_homeDocuments 6 rfl

theorem reviewEntry_home : reviewEntry (reviewRow homeReview reviewStamp correctedRow) = homeReviewEntry := by
  simp only [reviewEntry, reviewHash_home]
  rfl

theorem validatePayload_homeReviewEntry : validatePayload (("resource_id", .str "v1") :: homeReviewEntry.details) = .ok () := by
  have hkeys : (("resource_id", Json.str "v1") :: homeReviewEntry.details).map Prod.fst =
      ["resource_id", "source_record_id", "reviewed_record_id", "target_source_class", "review_hash"] := rfl
  apply validatePayload_brief hkeys rfl (by decide)
  intro p hp
  simp only [homeReviewEntry, List.mem_cons, List.not_mem_nil, or_false] at hp
  rcases hp with rfl | rfl | rfl | rfl | rfl
  all_goals exact brief_str (by decide)

/-- Ana's record is created. -/
theorem createRecord_home : ∃ log outbox, Succession "t1" 2 ["a1"] [createdHash] log ∧
    createRecord .zeroKey plainTexts deedDb ⟨⟨1, "a1"⟩, "r1", "", ⟨0, ""⟩⟩ homeRequest =
      .ok ("r1", deedDbWith homeRecords log outbox) := by
  have hsubject : checkSubject plainTexts deedDb 1 homeRequest = .ok homeSubject := by rfl
  have hdata : recordData plainTexts homeRequest "r1" "first_person_recollection" [("kind", .str "unknown")] homeSubject =
      .ok homeData := by rfl
  obtain ⟨log, hlog, hone⟩ := @Store.record_next .zeroKey (deedDbWith homeRecords .empty []).toStore "t1" 0 [] []
    createdHash ⟨1, "a1"⟩ (recordEntry homeRow "first_person_recollection").audit (.start "t1" 0) (by decide) rfl
    (by decide) canonicalSha256_created (by decide)
  obtain ⟨outbox, hrecord⟩ := @record_total .zeroKey (deedDbWith homeRecords .empty []) ⟨1, "a1"⟩
    (recordEntry homeRow "first_person_recollection") _ _ hlog rfl rfl rfl
    (validatePayload_recordEntry (by decide) (by decide) (by decide))
  refine ⟨log, outbox, hone, ?_⟩
  exact @createRecord_of .zeroKey plainTexts deedDb _ ⟨⟨1, "a1"⟩, "r1", "", ⟨0, ""⟩⟩ homeRequest
    "first_person_recollection" _ homeData (none, []) homeSubject (eq_ok_of_isOk (by decide)) rfl rfl rfl hsubject hdata
    (eq_ok_of_isOk (by decide)) rfl (deedDbWith homeRecords .empty []) rfl hrecord

/-- Ben's correction of it is created and recorded. -/
theorem reviseRecord_home {log : AuditLog} {outbox : List OutboxEventRow} (h : Succession "t1" 2 ["a1"] [createdHash] log) :
    ∃ log' outbox', Succession "t1" 4 ["a1", "a2", "a3"] [createdHash, correctedHash, revisedHash] log' ∧
      reviseRecord .zeroKey plainTexts (deedDbWith homeRecords log outbox) ⟨⟨2, "a2"⟩, "r2", "", ⟨3, "a3"⟩⟩ homeRevision =
        (deedDbWith correctedRecords log' outbox', .ok "r2") := by
  let stamp : LiveForeverStamp := ⟨⟨2, "a2"⟩, "r2", "", ⟨3, "a3"⟩⟩
  have hsubject : checkSubject plainTexts (deedDbWith homeRecords log outbox) 2 correctedRequest = .ok homeSubject := by rfl
  have hdata : recordData plainTexts correctedRequest "r2" "first_person_recollection"
      [("kind", .str "unknown"), ("basis", .null)] homeSubject = .ok correctedData := by rfl
  obtain ⟨createdLog, hcreatedLog, htwo⟩ := @Store.record_next .zeroKey (deedDbWith correctedRecords log outbox).toStore
    "t1" 2 ["a1"] [createdHash] correctedHash ⟨2, "a2"⟩ (recordEntry correctedRow "first_person_recollection").audit h
    (by decide) rfl (by decide) canonicalSha256_corrected (by decide)
  obtain ⟨createdOutbox, hcreated⟩ := @record_total .zeroKey (deedDbWith correctedRecords log outbox) ⟨2, "a2"⟩
    (recordEntry correctedRow "first_person_recollection") _ _ hcreatedLog rfl rfl rfl
    (validatePayload_recordEntry (by decide) (by decide) (by decide))
  have hcreate := @createRecord_of .zeroKey plainTexts (deedDbWith homeRecords log outbox) _ stamp correctedRequest
    "first_person_recollection" _ correctedData (none, []) homeSubject (eq_ok_of_isOk (by decide)) rfl rfl rfl hsubject hdata
    rfl rfl (deedDbWith correctedRecords log outbox) rfl hcreated
  have hrevision : createRevision .zeroKey plainTexts (deedDbWith homeRecords log outbox) stamp homeRevision =
      .ok ("r2", deedDbWith correctedRecords createdLog createdOutbox) := by
    simp only [createRevision, bind_eq_ok, raiseIf_eq_ok]
    refine ⟨(), by decide, (), by decide, homeRow, rfl, ?_⟩
    rw [show revisionRecord homeRow stamp.now homeRevision = _ from revisionRecord_home]
    exact hcreate
  obtain ⟨laterLog, hlaterLog, hthree⟩ := @Store.record_next .zeroKey
    (deedDbWith correctedRecords createdLog createdOutbox).toStore "t1" 3 ["a1", "a2"] [createdHash, correctedHash]
    revisedHash ⟨3, "a3"⟩ (reviseEntry homeRevision "r2").audit htwo (by decide) rfl (by decide) canonicalSha256_revised
    (by decide)
  obtain ⟨laterOutbox, hlater⟩ := @record_total .zeroKey (deedDbWith correctedRecords createdLog createdOutbox) ⟨3, "a3"⟩
    (reviseEntry homeRevision "r2") _ _ hlaterLog rfl rfl rfl
    (validatePayload_reviseEntry (by decide) (by decide) (by decide))
  have hrecord : recordRevision .zeroKey (deedDbWith correctedRecords createdLog createdOutbox) stamp homeRevision "r2" =
      .ok (deedDbWith correctedRecords laterLog laterOutbox) := by
    simp only [recordRevision, bind_eq_ok]
    exact ⟨homeRow, rfl, hlater⟩
  exact ⟨laterLog, laterOutbox, hthree, reviseRecord_of hrevision hrecord⟩

/-- Ana's review of the correction is accepted. -/
theorem reviewRecord_home {log : AuditLog} {outbox : List OutboxEventRow}
    (h : Succession "t1" 4 ["a1", "a2", "a3"] [createdHash, correctedHash, revisedHash] log) : ∃ result db',
      reviewRecord .zeroKey (deedDbWith correctedRecords log outbox) reviewStamp homeReview = .ok (result, db') ∧
        db'.reviews.rows = [reviewRow homeReview reviewStamp correctedRow] := by
  obtain ⟨records, hrecords⟩ := @Table.insert?_isSome _ _ correctedRecords (reviewedRow homeReview reviewStamp correctedRow) rfl
  obtain ⟨reviews, hreviews⟩ := @Table.insert?_isSome _ _ (deedDbWith correctedRecords log outbox).reviews
    (reviewRow homeReview reviewStamp correctedRow) rfl
  let reviewed : LiveForeverDb := { deedDbWith correctedRecords log outbox with
    records := records.set (supersededRow correctedRow 4 "r3"), reviews }
  obtain ⟨laterLog, hlaterLog, -⟩ := @Store.record_next .zeroKey reviewed.toStore "t1" 4 ["a1", "a2", "a3"]
    [createdHash, correctedHash, revisedHash] reviewedHash ⟨4, "a4"⟩ homeReviewEntry.audit h (by decide) rfl (by decide)
    canonicalSha256_reviewed (by decide)
  obtain ⟨laterOutbox, hrecord⟩ := @record_total .zeroKey reviewed ⟨4, "a4"⟩ homeReviewEntry _ _ hlaterLog rfl rfl rfl
    validatePayload_homeReviewEntry
  rw [← reviewEntry_home] at hrecord
  have hsource : reviewable (deedDbWith correctedRecords log outbox) 4 homeReview = .ok correctedRow := by rfl
  have hreview := @reviewRecord_of .zeroKey (deedDbWith correctedRecords log outbox) _ reviewStamp homeReview correctedRow
    (eq_ok_of_isOk (by decide)) rfl hsource { deedDbWith correctedRecords log outbox with records }
    (by simp only [insertRecord, bind_eq_ok, orRaise_eq_ok]; exact ⟨records, hrecords, rfl⟩)
    { deedDbWith correctedRecords log outbox with records, reviews }
    (by simp only [insertReview, bind_eq_ok, orRaise_eq_ok, raiseIf_eq_ok]; exact ⟨(), nofun, (), nofun, reviews, hreviews, rfl⟩)
    hrecord
  exact ⟨_, _, hreview, (Table.insert?_eq_some hreviews).2⟩

theorem perform_createRecord_home : ∃ log outbox, Succession "t1" 2 ["a1"] [createdHash] log ∧
    perform .zeroKey plainTexts deedDb ⟨.createRecord homeRequest, ⟨⟨1, "a1"⟩, "r1", "", ⟨0, ""⟩⟩⟩ =
      deedDbWith homeRecords log outbox := by
  obtain ⟨log, outbox, hlog, hcreate⟩ := createRecord_home
  refine ⟨log, outbox, hlog, ?_⟩
  simp only [perform, hcreate]
  rfl

/-- Nobody refers to a record that is not there yet. -/
theorem freshId_corrected (log : AuditLog) (outbox : List OutboxEventRow) :
    FreshId (deedDbWith correctedRecords log outbox) "r3" := by
  intro other row hrow
  have hmem : row ∈ [homeRow, correctedRow] := ((Table.get?_eq_some_iff _ _ _).mp hrow).1
  simp only [List.mem_cons, List.not_mem_nil, or_false] at hmem
  rcases hmem with rfl | rfl
  · exact nofun
  · intro h
    exact absurd (Json.str.inj h) (by decide)

/-- Ana records, Ben corrects, and Ana verifies what Ben has made of her record. -/
theorem own_testimony_verified : ¬ Independence (run (perform .zeroKey plainTexts) deedDb homeActs) := by
  obtain ⟨log, outbox, hlog, hcreated⟩ := perform_createRecord_home
  obtain ⟨revisedLog, revisedOutbox, hrevisedLog, hrevise⟩ := @reviseRecord_home log outbox hlog
  obtain ⟨result, reviewed, hreview, hreviews⟩ := @reviewRecord_home revisedLog revisedOutbox hrevisedLog
  let act : Act := ⟨.reviewRecord homeReview, reviewStamp⟩
  let revised := deedDbWith correctedRecords revisedLog revisedOutbox
  have hrevised : perform .zeroKey plainTexts (deedDbWith homeRecords log outbox)
      ⟨.reviseRecord homeRevision, ⟨⟨2, "a2"⟩, "r2", "", ⟨3, "a3"⟩⟩⟩ = revised := congrArg Prod.fst hrevise
  have hstep : perform .zeroKey plainTexts revised act = reviewed := by
    simp only [perform, act, revised, hreview]
    rfl
  have heffect := hstep ▸ effect_perform .zeroKey plainTexts revised act
  have hdescends : Descends revised "r2" "r1" := .single ⟨⟨correctedRow, rfl, rfl⟩, homeRow, rfl⟩
  have hauthor : AuthoredBy revised "r1" "ana" := ⟨homeRow, rfl, rfl⟩
  rw [homeActs, run_cons, hcreated, run_cons, hrevised, run_cons, run_nil,
    show perform .zeroKey plainTexts revised ⟨.reviewRecord homeReview, ⟨⟨4, "a4"⟩, "r3", "v1", ⟨0, ""⟩⟩⟩ = reviewed from hstep]
  rcases reviewRecord_ok hreview with rfl | ⟨source, hsource⟩
  · cases hreviews
  · have hid : source.recordId = "r2" := ((Table.get?_eq_some_iff _ _ _).mp (reviewable_ok hsource.reviewable).1).2
    exact not_independence_of_related heffect (freshId_corrected _ _) hsource (hid ▸ hdescends) hauthor

/-- Ben may verify what Ana has recorded. -/
theorem independence_along_home : Independence (run (perform .zeroKey plainTexts) deedDb
    [⟨.createRecord homeRequest, ⟨⟨1, "a1"⟩, "r1", "", ⟨0, ""⟩⟩⟩,
      ⟨.reviewRecord { homeReview with recordId := "r1", reviewerId := "ben" }, ⟨⟨2, "a2"⟩, "r2", "v1", ⟨0, ""⟩⟩⟩]) := by
  obtain ⟨log, outbox, _, hcreated⟩ := perform_createRecord_home
  refine independence_along .zeroKey plainTexts deedDb rfl _ ⟨⟨?_, nofun⟩, ?_, trivial⟩
  · intro other row hrow
    exact absurd ((Table.get?_eq_some_iff _ _ _).mp hrow).1 List.not_mem_nil
  · rw [hcreated]
    have hplain : ∀ other row, (deedDbWith homeRecords log outbox).records.get? other = some row →
        row.dataJson.get "revision_of" = .null := by
      intro other row hrow
      have hmem : row ∈ [homeRow] := ((Table.get?_eq_some_iff _ _ _).mp hrow).1
      rw [List.mem_singleton.mp hmem]
      rfl
    refine ⟨fun other row hrow hnamed => ?_, fun req _ ancestor hdescends => ?_⟩
    · rw [hplain other row hrow] at hnamed
      cases hnamed
    · obtain ⟨parent, hedge, _⟩ := Relation.TransGen.head'_iff.mp hdescends
      obtain ⟨⟨row, hrow, hnamed⟩, _⟩ := hedge
      rw [hplain _ row hrow] at hnamed
      cases hnamed

end Sample

end LiveForeverService
end Sip
