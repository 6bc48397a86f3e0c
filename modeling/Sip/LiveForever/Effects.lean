import Sip.Foundation.Runs
import Sip.LiveForever.Service

/-!
# What a call does to the memory records

A call leaves the records alone, closes those of one person, adds a created one, or adds
a reviewed one and supersedes its source. Whatever it does, a record that is there keeps
its columns; only its document and the time it was superseded can change, and what has
been withdrawn once stays withdrawn.
-/

namespace Sip
namespace LiveForeverService

set_option autoImplicit false

variable {svc : AuditService} {py : PyScalars} {db db' : LiveForeverDb}

section Calls

theorem record_ok {stamp : Stamp} {entry : Entry} (h : record svc db stamp entry = .ok db') :
    ∃ s, db' = { db with toStore := s } := by
  simp only [record, bind_eq_ok] at h
  obtain ⟨_, _, s, _, h⟩ := h
  cases h
  exact ⟨s, rfl⟩

theorem insertRecord_ok {row : LiveForeverRecordRow} (h : insertRecord db row = .ok db') :
    ∃ records, db.records.insert? row = some records ∧ db' = { db with records } := by
  simp only [insertRecord, bind_eq_ok, orRaise_eq_ok] at h
  obtain ⟨records, hrecords, h⟩ := h
  cases h
  exact ⟨records, hrecords, rfl⟩

theorem scopedRecord_ok {recordId tenantId projectId : String} {row : LiveForeverRecordRow}
    (h : scopedRecord db recordId tenantId projectId = .ok row) :
    db.records.get? recordId = some row ∧ row.tenantId = tenantId ∧ row.projectId = projectId := by
  simp only [scopedRecord, bind_eq_ok, orRaise_eq_ok, raiseIf_eq_ok, not_or, ne_eq, not_not] at h
  obtain ⟨found, hfound, _, ⟨htenant, hproject⟩, h⟩ := h
  cases h
  exact ⟨hfound, htenant, hproject⟩

theorem grantConsent_ok {stamp : LiveForeverStamp} {req : GrantRequest} {grantId : String}
    (h : grantConsent svc db stamp req = .ok (grantId, db')) : db'.records = db.records ∧ db'.reviews = db.reviews := by
  simp only [grantConsent, bind_eq_ok] at h
  obtain ⟨_, _, _, _, _, _, grants, _, written, hwritten, h⟩ := h
  cases h
  obtain ⟨s, rfl⟩ := record_ok hwritten
  exact ⟨rfl, rfl⟩

theorem revokeConsent_ok {stamp : LiveForeverStamp} {req : RevokeRequest} {result : RevocationResult}
    (h : revokeConsent svc db stamp req = .ok (result, db')) : db'.reviews = db.reviews ∧
      (db'.records = db.records ∨ ∃ grant, db'.records.rows = db.records.rows.map (withdrawRecord grant req.reason)) := by
  simp only [revokeConsent, bind_eq_ok] at h
  obtain ⟨grant, _, _, _, h⟩ := h
  split at h
  · cases h
    exact ⟨rfl, .inl rfl⟩
  · obtain ⟨written, hwritten, h⟩ := bind_eq_ok.mp h
    cases h
    obtain ⟨s, rfl⟩ := record_ok hwritten
    exact ⟨rfl, .inr ⟨grant, rfl⟩⟩

/-- What a created record has been checked for. -/
structure Created (py : PyScalars) (db : LiveForeverDb) (stamp : LiveForeverStamp) (req : RecordRequest)
    (row : LiveForeverRecordRow) : Prop where
  checked : checkRecord req = .ok ()
  row_eq : ∃ subject label time data lineage, checkSubject py db stamp.now req = .ok subject ∧
    recordData py req stamp.newId label time subject = .ok data ∧
    row = recordRow req stamp.newId stamp.now subject data lineage

/-- Whenever it happens, the subject of a created record has been checked. -/
theorem checkSubject_ok {now : Nat} {req : RecordRequest} {unnamed : Option Subject} {subject : Subject}
    (hunnamed : checkUnnamed py db now req = .ok unnamed) (hnamed : checkNamed py db now req unnamed = .ok subject) :
    checkSubject py db now req = .ok subject := by
  unfold checkUnnamed at hunnamed
  split at hunnamed
  · obtain ⟨first, hfirst, rfl⟩ := map_eq_ok.mp hunnamed
    cases hnamed
    exact hfirst
  · cases hunnamed
    exact hnamed

theorem createRecord_ok {stamp : LiveForeverStamp} {req : RecordRequest} {recordId : String}
    (h : createRecord svc py db stamp req = .ok (recordId, db')) : ∃ row s records,
      Created py db stamp req row ∧ recordId = stamp.newId ∧ db.records.insert? row = some records ∧
        db' = { db with toStore := s, records } := by
  simp only [createRecord, bind_eq_ok] at h
  obtain ⟨_, hchecked, label, _, time, _, unnamed, hunnamed, ⟨lineage, inputs⟩, _, subject, hnamed, data, hdata, _, _, _, _,
    inserted, hinserted, written, hwritten, h⟩ := h
  cases h
  obtain ⟨records, hrecords, rfl⟩ := insertRecord_ok hinserted
  obtain ⟨s, rfl⟩ := record_ok hwritten
  exact ⟨_, s, records, ⟨hchecked, subject, label, time, data, lineage, checkSubject_ok hunnamed hnamed, hdata, rfl⟩, rfl,
    hrecords, rfl⟩

theorem insertReview_ok {row : LiveForeverRecordReviewRow} (h : insertReview db row = .ok db') :
    ∃ reviews, db.reviews.insert? row = some reviews ∧ db' = { db with reviews } := by
  simp only [insertReview, bind_eq_ok, orRaise_eq_ok] at h
  obtain ⟨_, _, _, _, reviews, hreviews, h⟩ := h
  cases h
  exact ⟨reviews, hreviews, rfl⟩

theorem reviewable_ok {now : Nat} {req : ReviewRequest} {source : LiveForeverRecordRow}
    (h : reviewable db now req = .ok source) :
    db.records.get? req.recordId = some source ∧ source.supersededAt = none ∧ req.reviewerId ≠ source.createdBy := by
  simp only [reviewable, bind_eq_ok, raiseIf_eq_ok, ne_eq, not_not] at h
  obtain ⟨found, hfound, _, hlive, _, hauthor, _, _, h⟩ := h
  have hsource : found = source := by
    split at h
    · cases h
      rfl
    · obtain ⟨_, _, h⟩ := bind_eq_ok.mp h
      cases h
      rfl
  subst hsource
  exact ⟨(scopedRecord_ok hfound).1, hlive, hauthor⟩

/-- A review that is no replay. -/
structure Reviewed (db db' : LiveForeverDb) (stamp : LiveForeverStamp) (req : ReviewRequest)
    (source : LiveForeverRecordRow) : Prop where
  checked : checkReview req = .ok ()
  reviewable : reviewable db stamp.now req = .ok source
  records : ∃ inserted, db.records.insert? (reviewedRow req stamp source) = some inserted ∧
    db'.records = inserted.set (supersededRow source stamp.now stamp.newId)
  reviews : db'.reviews.rows = db.reviews.rows ++ [reviewRow req stamp source]

theorem reviewRecord_ok {stamp : LiveForeverStamp} {req : ReviewRequest} {result : RecordReviewResult}
    (h : reviewRecord svc db stamp req = .ok (result, db')) :
    db' = db ∨ ∃ source, Reviewed db db' stamp req source := by
  simp only [reviewRecord, bind_eq_ok] at h
  obtain ⟨_, hchecked, h⟩ := h
  split at h
  · obtain ⟨_, _, h⟩ := bind_eq_ok.mp h
    cases h
    exact .inl rfl
  · simp only [bind_eq_ok] at h
    obtain ⟨source, hsource, inserted, hinserted, reviewed, hreviewed, written, hwritten, h⟩ := h
    cases h
    obtain ⟨records, hrecords, rfl⟩ := insertRecord_ok hinserted
    obtain ⟨reviews, hreviews, rfl⟩ := insertReview_ok hreviewed
    obtain ⟨s, rfl⟩ := record_ok hwritten
    exact .inr ⟨source, hchecked, hsource, ⟨records, hrecords, rfl⟩, (Table.insert?_eq_some hreviews).2⟩

theorem createRevision_ok {stamp : LiveForeverStamp} {req : RevisionRequest} {revisedId : String}
    (h : createRevision svc py db stamp req = .ok (revisedId, db')) : ∃ original,
      req.correctionType ∈ correctionTypes ∧ db.records.get? req.recordId = some original ∧
      createRecord svc py db stamp (revisionRecord original stamp.now req) = .ok (revisedId, db') := by
  simp only [createRevision, bind_eq_ok, raiseIf_eq_ok, not_not] at h
  obtain ⟨_, htype, _, _, original, horiginal, h⟩ := h
  exact ⟨original, htype, (scopedRecord_ok horiginal).1, h⟩

/-- Whatever `revise_record` ends with, it has created a revision or changed nothing. -/
theorem reviseRecord_cases (svc : AuditService) (py : PyScalars) (db : LiveForeverDb) (stamp : LiveForeverStamp)
    (req : RevisionRequest) : (reviseRecord svc py db stamp req).1 = db ∨ ∃ original created revisedId s,
      db.records.get? req.recordId = some original ∧
      createRecord svc py db stamp (revisionRecord original stamp.now req) = .ok (revisedId, created) ∧
      (reviseRecord svc py db stamp req).1 = { created with toStore := s } := by
  unfold reviseRecord
  split
  next => exact .inl rfl
  next revisedId created hcreated =>
    obtain ⟨original, _, horiginal, hcreate⟩ := createRevision_ok hcreated
    refine .inr ⟨original, created, revisedId, ?_⟩
    split
    next => exact ⟨created.toStore, horiginal, hcreate, rfl⟩
    next written hwritten =>
      simp only [recordRevision, bind_eq_ok] at hwritten
      obtain ⟨_, _, hwritten⟩ := hwritten
      obtain ⟨s, rfl⟩ := record_ok hwritten
      exact ⟨s, horiginal, hcreate, rfl⟩

/-- A revision that is returned has been created, with the audience asked for or that of the original. -/
theorem reviseRecord_ok {stamp : LiveForeverStamp} {req : RevisionRequest} {revisedId : String}
    (h : reviseRecord svc py db stamp req = (db', .ok revisedId)) : ∃ original revision,
      db.records.get? req.recordId = some original ∧ db'.records.get? revisedId = some revision ∧
      Created py db stamp (revisionRecord original stamp.now req) revision := by
  unfold reviseRecord at h
  split at h
  · cases h
  · rename_i createdId created hcreated
    obtain ⟨original, _, horiginal, hcreate⟩ := createRevision_ok hcreated
    obtain ⟨revision, s, records, hrow, rfl, hinsert, rfl⟩ := createRecord_ok hcreate
    split at h
    · cases h
    · rename_i written hwritten
      cases h
      simp only [recordRevision, bind_eq_ok] at hwritten
      obtain ⟨_, _, hwritten⟩ := hwritten
      obtain ⟨s', rfl⟩ := record_ok hwritten
      have hid : stamp.newId = revision.recordId := by
        obtain ⟨_, _, _, _, _, _, _, rfl⟩ := hrow.row_eq
        rfl
      exact ⟨original, revision, horiginal, by rw [Table.get?_insert hinsert, if_pos hid], hrow⟩

end Calls

/-- What a call can do to the memory records and their reviews. -/
inductive Effect (py : PyScalars) (db : LiveForeverDb) (act : Act) (db' : LiveForeverDb) : Prop
  | same : db'.records = db.records → db'.reviews = db.reviews → Effect py db act db'
  | withdrawn (grant : SubjectGrantRow) (reason : String) :
      db'.records.rows = db.records.rows.map (withdrawRecord grant reason) → db'.reviews = db.reviews →
      Effect py db act db'
  | created (req : RecordRequest) (row : LiveForeverRecordRow) : Created py db act.stamp req row →
      db.records.insert? row = some db'.records → db'.reviews = db.reviews → Effect py db act db'
  | reviewed (req : ReviewRequest) (source : LiveForeverRecordRow) : act.call = .reviewRecord req →
      Reviewed db db' act.stamp req source → Effect py db act db'

theorem getD_toOption {α : Type} {x : Except Raised (α × LiveForeverDb)} :
    (x.map Prod.snd).toOption.getD db = db ∨ ∃ a s, x = .ok (a, s) ∧ (x.map Prod.snd).toOption.getD db = s := by
  cases x with
  | error e => exact .inl rfl
  | ok r => exact .inr ⟨r.1, r.2, rfl, rfl⟩

/-- Every call has one of these effects. -/
theorem effect_perform (svc : AuditService) (py : PyScalars) (db : LiveForeverDb) (act : Act) :
    Effect py db act (perform svc py db act) := by
  obtain ⟨call, stamp⟩ := act
  have hnone : ∀ {db'}, db' = db → Effect py db ⟨call, stamp⟩ db' := by
    intro db' h
    exact .same (congrArg _ h) (congrArg _ h)
  cases call with
  | grantConsent req =>
    rcases @getD_toOption db _ (grantConsent svc db stamp req) with h | ⟨a, s, hs, h⟩
    · exact hnone h
    · obtain ⟨hrecords, hreviews⟩ := grantConsent_ok hs
      simp only [perform, h]
      exact .same hrecords hreviews
  | revokeConsent req =>
    rcases @getD_toOption db _ (revokeConsent svc db stamp req) with h | ⟨a, s, hs, h⟩
    · exact hnone h
    · obtain ⟨hreviews, hrecords⟩ := revokeConsent_ok hs
      simp only [perform, h]
      rcases hrecords with hrecords | ⟨grant, hrecords⟩
      · exact .same hrecords hreviews
      · exact .withdrawn grant req.reason hrecords hreviews
  | createRecord req =>
    rcases @getD_toOption db _ (createRecord svc py db stamp req) with h | ⟨a, s, hs, h⟩
    · exact hnone h
    · obtain ⟨row, store, records, hcreated, _, hinsert, rfl⟩ := createRecord_ok hs
      simp only [perform, h]
      exact .created req row hcreated hinsert rfl
  | reviewRecord req =>
    rcases @getD_toOption db _ (reviewRecord svc db stamp req) with h | ⟨a, s, hs, h⟩
    · exact hnone h
    · simp only [perform, h]
      rcases reviewRecord_ok hs with rfl | ⟨source, hsource⟩
      · exact .same rfl rfl
      · exact .reviewed req source rfl hsource
  | reviseRecord req =>
    simp only [perform]
    rcases reviseRecord_cases svc py db stamp req with h | ⟨original, created, revisedId, s, _, hcreate, h⟩
    · exact hnone h
    · obtain ⟨row, store, records, hcreated, _, hinsert, rfl⟩ := createRecord_ok hcreate
      rw [h]
      exact .created _ row hcreated hinsert rfl

section Success

/-- A change whose audit entry is accepted is recorded, if its event is in the catalog and its payload is short. -/
theorem record_total {stamp : Stamp} {entry : Entry} {log : AuditLog} {catalogued : EventCatalogEntry}
    (haudit : db.toStore.record svc stamp entry.audit = .ok { db.toStore with audit := log })
    (hcatalog : getEvent entry.eventType "1.0.0" = .ok catalogued) (howner : "liveforever" = catalogued.owner)
    (haggregate : catalogued.aggregate = entry.aggregateType)
    (hpayload : validatePayload (("resource_id", .str entry.resourceId) :: entry.details) = .ok ()) :
    ∃ outbox, record svc db stamp entry = .ok { db with toStore := { db.toStore with audit := log, outbox } } := by
  obtain ⟨event, hevent⟩ := Store.emit_total ({ db.toStore with audit := log } : Store) stamp (r := entry.event) hcatalog
    howner haggregate hpayload
  simp only [record, bind_eq_ok]
  exact ⟨_, _, haudit, _, hevent, rfl⟩

theorem length_memoryTypes {recordType : String} (h : recordType ∈ memoryTypes) : recordType.toList.length ≤ 64 := by
  have hall : memoryTypes.all (fun text => text.toList.length ≤ 64) = true := by decide
  simpa using List.all_eq_true.mp hall recordType h

theorem length_sourceLabels {label : String} (h : label ∈ sourceLabels) : label.toList.length ≤ 64 := by
  have hall : sourceLabels.all (fun text => text.toList.length ≤ 64) = true := by decide
  simpa using List.all_eq_true.mp hall label h

/-- The event of a new record passes the checks of the event factory. -/
theorem validatePayload_recordEntry {row : LiveForeverRecordRow} {label : String} (hid : row.recordId.toList.length ≤ 64)
    (htype : row.recordType ∈ memoryTypes) (hlabel : label ∈ sourceLabels) :
    validatePayload (("resource_id", .str (recordEntry row label).resourceId) :: (recordEntry row label).details) = .ok () := by
  have hkeys : (("resource_id", Json.str (recordEntry row label).resourceId) :: (recordEntry row label).details).map Prod.fst =
      ["resource_id", "record_type", "source_class", "source_label", "audience"] := rfl
  apply validatePayload_brief hkeys rfl (by decide)
  intro p hp
  simp only [recordEntry, List.mem_cons, List.not_mem_nil, or_false] at hp
  rcases hp with rfl | rfl | rfl | rfl | rfl
  · exact brief_str hid
  · exact brief_str (length_memoryTypes htype)
  · exact brief_str (by cases row.sourceClass <;> decide)
  · exact brief_str (length_sourceLabels hlabel)
  · exact brief_str (by cases row.audience <;> decide)

/-- A record whose checks succeed is created as soon as its row and the audit entry are accepted. -/
theorem createRecord_of {stamp : LiveForeverStamp} {req : RecordRequest} {label : String} {time data : Dict}
    {lineage : Option Dict × List String} {subject : Subject} (hchecked : checkRecord req = .ok ())
    (hlabel : sourceLabel py req = .ok label)
    (htime : normalizeTimeExpression py (req.data.get "time_expression") = .ok time)
    (hlineage : lineageOf py req = .ok lineage) (hsubject : checkSubject py db stamp.now req = .ok subject)
    (hdata : recordData py req stamp.newId label time subject = .ok data)
    (hassets : requireScopedImmutableAssets db req.tenantId req.projectId req.evidenceAssetIds
      "LIVEFOREVER_RECORD_EVIDENCE" false = .ok ())
    (hinputs : requireInputs db req lineage.2 = .ok ())
    {inserted : LiveForeverDb}
    (hinsert : insertRecord db (recordRow req stamp.newId stamp.now subject data lineage.1) = .ok inserted)
    (hrecord : record svc inserted stamp.toStamp
      (recordEntry (recordRow req stamp.newId stamp.now subject data lineage.1) label) = .ok db') :
    createRecord svc py db stamp req = .ok (stamp.newId, db') := by
  have hsubjects : ∃ unnamed, checkUnnamed py db stamp.now req = .ok unnamed ∧
      checkNamed py db stamp.now req unnamed = .ok subject := by
    unfold checkUnnamed
    split
    · exact ⟨some subject, map_eq_ok.mpr ⟨subject, hsubject, rfl⟩, rfl⟩
    · exact ⟨none, rfl, hsubject⟩
  obtain ⟨unnamed, hunnamed, hnamed⟩ := hsubjects
  simp only [createRecord, bind_eq_ok]
  exact ⟨(), hchecked, label, hlabel, time, htime, unnamed, hunnamed, lineage, hlineage, subject, hnamed, data, hdata, (),
    hassets, (), hinputs, inserted, hinsert, db', hrecord, rfl⟩

/-- A revision that is created and then recorded. -/
theorem reviseRecord_of {stamp : LiveForeverStamp} {req : RevisionRequest} {revisedId : String} {created : LiveForeverDb}
    (hcreate : createRevision svc py db stamp req = .ok (revisedId, created))
    (hrecord : recordRevision svc created stamp req revisedId = .ok db') :
    reviseRecord svc py db stamp req = (db', .ok revisedId) := by
  simp only [reviseRecord, hcreate, hrecord]

/-- The event of a recorded revision passes the checks of the event factory. -/
theorem validatePayload_reviseEntry {req : RevisionRequest} {revisedId : String} (hid : revisedId.toList.length ≤ 64)
    (hrecord : req.recordId.toList.length ≤ 64) (htype : req.correctionType.toList.length ≤ 64) :
    validatePayload (("resource_id", .str revisedId) :: (reviseEntry req revisedId).details) = .ok () := by
  have hkeys : (("resource_id", Json.str revisedId) :: (reviseEntry req revisedId).details).map Prod.fst =
      ["resource_id", "supersedes_record_id", "correction_type", "original_preserved"] := rfl
  apply validatePayload_brief hkeys rfl (by decide)
  intro p hp
  simp only [reviseEntry, List.mem_cons, List.not_mem_nil, or_false] at hp
  rcases hp with rfl | rfl | rfl | rfl
  · exact brief_str hid
  · exact brief_str hrecord
  · exact brief_str htype
  · exact brief_bool true

/-- A review whose checks succeed is carried out as soon as its rows and the audit entry are accepted. -/
theorem reviewRecord_of {stamp : LiveForeverStamp} {req : ReviewRequest} {source : LiveForeverRecordRow}
    (hchecked : checkReview req = .ok ())
    (hnew : (db.reviews.rows.find? fun row => row.tenantId = req.tenantId ∧ row.projectId = req.projectId ∧
      row.idempotencyKey = req.idempotencyKey) = none)
    (hsource : reviewable db stamp.now req = .ok source) {inserted : LiveForeverDb}
    (hinsert : insertRecord db (reviewedRow req stamp source) = .ok inserted) {reviewed : LiveForeverDb}
    (hreview : insertReview inserted (reviewRow req stamp source) = .ok reviewed)
    (hrecord : record svc { reviewed with records := reviewed.records.set (supersededRow source stamp.now stamp.newId) }
      stamp.toStamp (reviewEntry (reviewRow req stamp source)) = .ok db') :
    reviewRecord svc db stamp req = .ok (reviewResult (reviewRow req stamp source) false, db') := by
  simp only [reviewRecord, bind_eq_ok]
  refine ⟨(), hchecked, ?_⟩
  rw [hnew]
  simp only [bind_eq_ok]
  exact ⟨source, hsource, inserted, hinsert, reviewed, hreview, db', hrecord, rfl⟩

end Success

section Kept

/-- The record has been superseded, or a revocation has closed it. -/
def Withdrawn (row : LiveForeverRecordRow) : Prop :=
  row.supersededAt ≠ none ∨ (row.dataJson.get "derivative_access_disabled").truthy = true

/-- A record as a later state has it. -/
structure Kept (old new : LiveForeverRecordRow) : Prop where
  columns : new = { old with dataJson := new.dataJson, supersededAt := new.supersededAt }
  scope : new.dataJson.get "subject_scope" = old.dataJson.get "subject_scope"
  revision : new.dataJson.get "revision_of" = old.dataJson.get "revision_of"
  withdrawn : Withdrawn old → Withdrawn new

theorem Kept.refl (row : LiveForeverRecordRow) : Kept row row := ⟨rfl, rfl, rfl, id⟩

theorem Kept.trans {a b c : LiveForeverRecordRow} (hab : Kept a b) (hbc : Kept b c) : Kept a c where
  columns := by
    have hb := hab.columns
    have hc := hbc.columns
    rw [hb] at hc
    exact hc
  scope := hbc.scope.trans hab.scope
  revision := hbc.revision.trans hab.revision
  withdrawn := hbc.withdrawn ∘ hab.withdrawn

theorem kept_withdrawRecord (grant : SubjectGrantRow) (reason : String) (row : LiveForeverRecordRow) :
    Kept row (withdrawRecord grant reason row) := by
  unfold withdrawRecord
  split
  · refine ⟨rfl, Dict.get_update_of_notMem (by simp), Dict.get_update_of_notMem (by simp), fun _ => .inr ?_⟩
    rw [revokedData, Dict.get, Dict.update, List.foldl_cons, List.foldl_cons, List.foldl_cons, List.foldl_cons,
      List.foldl_nil, Dict.lookup_set, if_pos rfl]
    rfl
  · exact Kept.refl row

theorem kept_supersededRow (source : LiveForeverRecordRow) (now : Nat) (reviewedId : String) :
    Kept source (supersededRow source now reviewedId) :=
  ⟨rfl, Dict.get_update_of_notMem (by simp), Dict.get_update_of_notMem (by simp), fun _ => .inl (by simp [supersededRow])⟩

theorem Reviewed.get?_source {stamp : LiveForeverStamp} {req : ReviewRequest} {source : LiveForeverRecordRow}
    (h : Reviewed db db' stamp req source) : db.records.get? source.recordId = some source := by
  obtain ⟨hsource, _⟩ := reviewable_ok h.reviewable
  exact ((Table.get?_eq_some_iff _ _ _).mp hsource).2 ▸ hsource

/-- The records after a review: the reviewed one is new and its source is superseded. -/
theorem Reviewed.get? {stamp : LiveForeverStamp} {req : ReviewRequest} {source : LiveForeverRecordRow}
    (h : Reviewed db db' stamp req source) (recordId : String) : db'.records.get? recordId =
      if recordId = source.recordId then some (supersededRow source stamp.now stamp.newId)
      else if recordId = stamp.newId then some (reviewedRow req stamp source) else db.records.get? recordId := by
  obtain ⟨inserted, hinsert, hrecords⟩ := h.records
  have hsource := h.get?_source
  have hne : source.recordId ≠ stamp.newId := by
    intro heq
    have hfresh : db.records.get? stamp.newId = none := (Table.insert?_eq_some hinsert).1
    rw [heq, hfresh] at hsource
    cases hsource
  have hold : inserted.get? (supersededRow source stamp.now stamp.newId).recordId = some source := by
    rw [Table.get?_insert hinsert]
    exact (if_neg hne).trans hsource
  rw [hrecords, @Table.get?_set _ _ inserted _ _ hold, Table.get?_insert hinsert]
  rfl

/-- A record that is there stays, with its columns. -/
theorem Effect.kept {act : Act} (h : Effect py db act db') {recordId : String} {row : LiveForeverRecordRow}
    (hrow : db.records.get? recordId = some row) : ∃ new, db'.records.get? recordId = some new ∧ Kept row new := by
  cases h with
  | same hrecords =>
    rw [hrecords]
    exact ⟨row, hrow, Kept.refl row⟩
  | withdrawn grant reason hrecords =>
    have hkey : ∀ r, (withdrawRecord grant reason r).recordId = r.recordId := by
      intro r
      unfold withdrawRecord
      split <;> rfl
    rw [Table.get?_of_rows_eq_map hkey hrecords, hrow]
    exact ⟨_, rfl, kept_withdrawRecord grant reason row⟩
  | created req new hcreated hinsert =>
    have hne : recordId ≠ new.recordId := by
      rintro rfl
      rw [(Table.insert?_eq_some hinsert).1] at hrow
      cases hrow
    rw [Table.get?_insert hinsert, if_neg hne]
    exact ⟨row, hrow, Kept.refl row⟩
  | reviewed req source hcall hreviewed =>
    obtain ⟨inserted, hinsert, _⟩ := hreviewed.records
    rw [hreviewed.get?]
    by_cases hid : recordId = source.recordId
    · rw [if_pos hid]
      rw [hid, hreviewed.get?_source, Option.some.injEq] at hrow
      subst hrow
      exact ⟨_, rfl, kept_supersededRow source act.stamp.now act.stamp.newId⟩
    · have hne : recordId ≠ act.stamp.newId := by
        rintro rfl
        have hfresh : db.records.get? act.stamp.newId = none := (Table.insert?_eq_some hinsert).1
        rw [hfresh] at hrow
        cases hrow
      rw [if_neg hid, if_neg hne]
      exact ⟨row, hrow, Kept.refl row⟩

/-- A record is one that was there, or the one that the call has created or reviewed. -/
theorem Effect.origin {act : Act} (h : Effect py db act db') {recordId : String} {new : LiveForeverRecordRow}
    (hnew : db'.records.get? recordId = some new) :
    (∃ row, db.records.get? recordId = some row ∧ Kept row new) ∨
    (db.records.get? recordId = none ∧ recordId = act.stamp.newId ∧ ∃ req, Created py db act.stamp req new) ∨
    (db.records.get? recordId = none ∧ recordId = act.stamp.newId ∧ ∃ req source, act.call = .reviewRecord req ∧
      Reviewed db db' act.stamp req source ∧ new = reviewedRow req act.stamp source) := by
  cases h with
  | same hrecords =>
    rw [hrecords] at hnew
    exact .inl ⟨new, hnew, Kept.refl new⟩
  | withdrawn grant reason hrecords =>
    have hkey : ∀ r, (withdrawRecord grant reason r).recordId = r.recordId := by
      intro r
      unfold withdrawRecord
      split <;> rfl
    rw [Table.get?_of_rows_eq_map hkey hrecords, Option.map_eq_some_iff] at hnew
    obtain ⟨row, hrow, rfl⟩ := hnew
    exact .inl ⟨row, hrow, kept_withdrawRecord grant reason row⟩
  | created req row hcreated hinsert =>
    have hid : row.recordId = act.stamp.newId := by
      obtain ⟨_, _, _, _, _, _, _, rfl⟩ := hcreated.row_eq
      rfl
    rw [Table.get?_insert hinsert] at hnew
    split at hnew
    next heq =>
      cases hnew
      refine .inr (.inl ⟨?_, heq.trans hid, req, hcreated⟩)
      rw [heq]
      exact (Table.insert?_eq_some hinsert).1
    next => exact .inl ⟨new, hnew, Kept.refl new⟩
  | reviewed req source hcall hreviewed =>
    obtain ⟨inserted, hinsert, _⟩ := hreviewed.records
    rw [hreviewed.get?] at hnew
    split at hnew
    next heq =>
      cases hnew
      rw [heq]
      exact .inl ⟨source, hreviewed.get?_source, kept_supersededRow source act.stamp.now act.stamp.newId⟩
    next =>
      split at hnew
      next heq =>
        cases hnew
        refine .inr (.inr ⟨?_, heq, req, source, hcall, hreviewed, rfl⟩)
        rw [heq]
        exact (Table.insert?_eq_some hinsert).1
      next => exact .inl ⟨new, hnew, Kept.refl new⟩

/-- A record that is there stays through every history. -/
theorem kept_run (svc : AuditService) (py : PyScalars) (db : LiveForeverDb) (acts : List Act) {recordId : String}
    {row : LiveForeverRecordRow} (hrow : db.records.get? recordId = some row) :
    ∃ new, (run (perform svc py) db acts).records.get? recordId = some new ∧ Kept row new := by
  induction acts generalizing db row with
  | nil => exact ⟨row, hrow, Kept.refl row⟩
  | cons act acts ih =>
    obtain ⟨next, hnext, hkept⟩ := (effect_perform svc py db act).kept hrow
    obtain ⟨new, hnew, hlater⟩ := ih (perform svc py db act) hnext
    exact ⟨new, hnew, hkept.trans hlater⟩

end Kept

end LiveForeverService
end Sip
