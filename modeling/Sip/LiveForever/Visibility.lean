import Mathlib.Data.Fintype.EquivFin
import Sip.Audit.Successive
import Sip.Foundation.PlainDigests
import Sip.LiveForever.Effects

/-!
# Who stays visible

`visible_records` asks for the consent of the subject of a record at every reading. The
persons that the scope of a record without a subject names are asked for when the record
is created and never again. A revision is a new row beside the original, so the original
stays as visible as it was.
-/

namespace Sip
namespace LiveForeverService

set_option autoImplicit false

variable {svc : AuditService} {py : PyScalars} {db : LiveForeverDb} {now : Nat} {tenantId projectId : String}

section Persons

/-- The `related_subject_ids` of the scope that a record's document holds. -/
def relatedSubjects (data : Dict) : List String :=
  match data.get "subject_scope" with
  | .obj scope => match Dict.get scope "related_subject_ids" with
    | .arr items => items.filterMap Json.text?
    | _ => []
  | _ => []

/-- Every person that a returned record names. -/
def namedPersons (item : Dict) : List String :=
  (item.get "subject_id").text?.toList ++ match item.get "data" with
    | .obj data => relatedSubjects data
    | _ => []

/-- The type of a returned record. -/
def itemType (item : Dict) : String := (item.get "record_type").text?.getD ""

/-- The person has an active grant that has not expired and permits the use. -/
def Consented (db : LiveForeverDb) (now : Nat) (tenantId projectId person : String) (use : Use) : Prop :=
  ∃ grant ∈ db.grants.rows, grant.tenantId = tenantId ∧ grant.projectId = projectId ∧ grant.subjectId = person ∧
    grantPermits now use grant = true

theorem requireConsent_isOk_iff {person : String} {use : Use} :
    (requireConsent db now tenantId projectId person use).isOk = true ↔ Consented db now tenantId projectId person use := by
  constructor
  · intro h
    cases hfound : requireConsent db now tenantId projectId person use with
    | error e =>
      rw [hfound] at h
      cases h
    | ok grant =>
      have hgrant := orRaise_eq_ok.mp hfound
      have hscope := List.find?_some hgrant
      simp only [decide_eq_true_eq] at hscope
      exact ⟨grant, List.mem_of_find?_eq_some hgrant, hscope⟩
  · rintro ⟨grant, hmem, hscope⟩
    unfold requireConsent
    cases hfind : db.grants.rows.find? fun grant => grant.tenantId = tenantId ∧ grant.projectId = projectId ∧
        grant.subjectId = person ∧ grantPermits now use grant = true with
    | none => exact absurd hscope (by simpa using List.find?_eq_none.mp hfind grant hmem)
    | some found => rfl

/-- The consent that reading a record asks for. -/
def Readable (db : LiveForeverDb) (now : Nat) (row : LiveForeverRecordRow) (audience : Audience) (purpose : String) : Prop :=
  ∀ subject, given row.subjectId = some subject →
    Consented db now row.tenantId row.projectId subject ⟨purpose, audience, row.recordType⟩

theorem mem_visibleRows_iff {audience : Audience} {purpose : String} {subjectId : Option String}
    {row : LiveForeverRecordRow} : row ∈ visibleRows db now tenantId projectId audience purpose subjectId ↔
      row ∈ db.records.rows ∧ row.tenantId = tenantId ∧ row.projectId = projectId ∧ ¬ Withdrawn row ∧
      (given subjectId = none ∨ row.subjectId = given subjectId) ∧ row.audience ∈ allowedRecordAudiences audience ∧
      Readable db now row audience purpose := by
  have hconsent : row.tenantId = tenantId → row.projectId = projectId → (((given row.subjectId).all fun subject =>
      (requireConsent db now tenantId projectId subject ⟨purpose, audience, row.recordType⟩).isOk) = true ↔
      Readable db now row audience purpose) := by
    rintro rfl rfl
    simp only [Option.all_eq_true, requireConsent_isOk_iff, Readable]
  simp only [visibleRows, List.mem_filter, decide_eq_true_eq, Withdrawn, not_or, ne_eq, not_not, Bool.not_eq_true]
  constructor
  · rintro ⟨⟨hmem, htenant, hproject, hlive, hsubject⟩, haudience, henabled, hall⟩
    exact ⟨hmem, htenant, hproject, ⟨hlive, henabled⟩, hsubject, haudience, (hconsent htenant hproject).mp hall⟩
  · rintro ⟨hmem, htenant, hproject, ⟨hlive, henabled⟩, hsubject, haudience, hreadable⟩
    exact ⟨⟨hmem, htenant, hproject, hlive, hsubject⟩, haudience, henabled, (hconsent htenant hproject).mpr hreadable⟩

theorem namedPersons_memoryPayload (row : LiveForeverRecordRow) :
    namedPersons (memoryPayload row) = row.subjectId.toList ++ relatedSubjects row.dataJson := by
  have hsubject : (memoryPayload row).get "subject_id" = .ofOption row.subjectId := rfl
  have hdata : (memoryPayload row).get "data" = .obj row.dataJson := rfl
  rw [namedPersons, hsubject, hdata]
  cases row.subjectId <;> rfl

theorem itemType_memoryPayload (row : LiveForeverRecordRow) : itemType (memoryPayload row) = row.recordType := rfl

end Persons

section Scopes

/-- The subject of a record is not blank, and only a record without one names persons in its scope. -/
def WellScoped (row : LiveForeverRecordRow) : Prop :=
  row.subjectId ≠ some "" ∧ (row.subjectId ≠ none → relatedSubjects row.dataJson = [])

theorem relatedSubjects_congr {data data' : Dict} (h : data'.get "subject_scope" = data.get "subject_scope") :
    relatedSubjects data' = relatedSubjects data := by
  simp only [relatedSubjects, h]

theorem Kept.wellScoped {old new : LiveForeverRecordRow} (h : Kept old new) (hold : WellScoped old) : WellScoped new := by
  have hsubject : new.subjectId = old.subjectId := by rw [h.columns]
  rw [WellScoped, hsubject, relatedSubjects_congr h.scope]
  exact hold

/-- The document of a created record holds the scope that was checked. -/
theorem get_subject_scope_recordData {req : RecordRequest} {recordId label : String} {time data : Dict} {subject : Subject}
    (h : recordData py req recordId label time subject = .ok data) :
    data.get "subject_scope" = (subject.scope.map SubjectScope.json).getD .null := by
  simp only [recordData, bind_eq_ok] at h
  obtain ⟨themes, _, assertions, _, h⟩ := h
  cases h
  split
  · rw [Dict.get_set_of_ne _ (by decide)]
    simp [Dict.get, Dict.update, Dict.lookup_set]
  · simp [Dict.get, Dict.update, Dict.lookup_set]

theorem Created.wellScoped {stamp : LiveForeverStamp} {req : RecordRequest} {row : LiveForeverRecordRow}
    (h : Created py db stamp req row) : WellScoped row := by
  obtain ⟨subject, label, time, data, lineage, hsubject, hdata, rfl⟩ := h.row_eq
  have hchecked := h.checked
  simp only [checkRecord, bind_eq_ok, raiseIf_eq_ok] at hchecked
  obtain ⟨_, _, _, _, _, hblank, _⟩ := hchecked
  have hscope := get_subject_scope_recordData hdata
  unfold checkSubject at hsubject
  split at hsubject
  next =>
    obtain ⟨scope, _, hsubject⟩ := bind_eq_ok.mp hsubject
    obtain ⟨_, _, hsubject⟩ := bind_eq_ok.mp hsubject
    cases hsubject
    exact ⟨(Option.some_ne_none _).symm, fun hne => absurd rfl hne⟩
  next text htext =>
    obtain ⟨grant, _, hsubject⟩ := bind_eq_ok.mp hsubject
    obtain ⟨_, _, hsubject⟩ := bind_eq_ok.mp hsubject
    cases hsubject
    refine ⟨?_, fun _ => ?_⟩
    · rw [htext] at hblank
      exact hblank
    · change relatedSubjects data = []
      rw [relatedSubjects, hscope]
      rfl

theorem wellScoped_reviewedRow {stamp : LiveForeverStamp} {req : ReviewRequest} {source : LiveForeverRecordRow}
    (h : WellScoped source) : WellScoped (reviewedRow req stamp source) := by
  have hscope : (reviewedRow req stamp source).dataJson.get "subject_scope" = source.dataJson.get "subject_scope" :=
    Dict.get_update_of_notMem (by simp)
  exact ⟨h.1, fun hne => (relatedSubjects_congr hscope).trans (h.2 hne)⟩

/-- Every record of the state is well scoped. -/
def AllWellScoped (db : LiveForeverDb) : Prop := ∀ recordId row, db.records.get? recordId = some row → WellScoped row

theorem allWellScoped_perform (svc : AuditService) (py : PyScalars) (db : LiveForeverDb) (act : Act)
    (h : AllWellScoped db) : AllWellScoped (perform svc py db act) := by
  intro recordId new hnew
  rcases (effect_perform svc py db act).origin hnew with ⟨row, hrow, hkept⟩ | ⟨_, _, req, hcreated⟩ |
    ⟨_, _, req, source, _, hreviewed, rfl⟩
  · exact hkept.wellScoped (h recordId row hrow)
  · exact hcreated.wellScoped
  · exact wellScoped_reviewedRow (h _ source hreviewed.get?_source)

end Scopes

section Coverage

/-- Whatever is asked for, each returned record has the consent of every person it names. -/
def Covered (db : LiveForeverDb) (now : Nat) (tenantId projectId : String) : Prop :=
  ∀ audience purpose subjectId, ∀ item ∈ visibleRecords db now tenantId projectId audience purpose subjectId,
    ∀ person ∈ namedPersons item, Consented db now tenantId projectId person ⟨purpose, audience, itemType item⟩

/-- No record of the project that is still shown names persons in its scope. -/
def NoneRelated (db : LiveForeverDb) (tenantId projectId : String) : Prop :=
  ∀ row ∈ db.records.rows, row.tenantId = tenantId → row.projectId = projectId → ¬ Withdrawn row →
    relatedSubjects row.dataJson = []

theorem mem_allowedRecordAudiences_self (audience : Audience) : audience ∈ allowedRecordAudiences audience := by
  cases audience <;> decide

/-- There is always a purpose that nobody has consented to. -/
theorem exists_purpose (grants : List SubjectGrantRow) : ∃ purpose, ∀ grant ∈ grants, purpose ∉ grant.purposesJson := by
  have hinfinite : Infinite String := Infinite.of_injective String.ofList fun a b h => by
    simpa using congrArg String.toList h
  obtain ⟨purpose, hpurpose⟩ := Infinite.exists_notMem_finset (grants.flatMap (·.purposesJson)).toFinset
  refine ⟨purpose, fun grant hgrant hmem => hpurpose ?_⟩
  rw [List.mem_toFinset]
  exact List.mem_flatMap.mpr ⟨grant, hgrant, hmem⟩

theorem covered_of_noneRelated (h : NoneRelated db tenantId projectId) (hscoped : AllWellScoped db) :
    Covered db now tenantId projectId := by
  intro audience purpose subjectId item hitem person hperson
  obtain ⟨row, hrow, rfl⟩ := List.mem_map.mp hitem
  obtain ⟨hmem, htenant, hproject, hlive, _, _, hreadable⟩ := mem_visibleRows_iff.mp hrow
  rw [namedPersons_memoryPayload, h row hmem htenant hproject hlive, List.append_nil, Option.mem_toList] at hperson
  have hblank : person ≠ "" := by
    rintro rfl
    exact (hscoped _ row ((Table.mem_rows_iff _ _).mp hmem)).1 hperson
  have hgiven : given row.subjectId = some person := by
    rw [hperson, given, Option.filter_some, if_pos (by simpa using hblank)]
  subst htenant hproject
  exact hreadable person hgiven

theorem noneRelated_of_covered (h : Covered db now tenantId projectId) (hscoped : AllWellScoped db) :
    NoneRelated db tenantId projectId := by
  intro row hmem htenant hproject hlive
  by_contra hne
  have hsubject : row.subjectId = none := by
    by_contra hsome
    exact hne ((hscoped _ row ((Table.mem_rows_iff _ _).mp hmem)).2 hsome)
  obtain ⟨person, hperson⟩ := List.exists_mem_of_ne_nil _ hne
  obtain ⟨purpose, hpurpose⟩ := exists_purpose db.grants.rows
  have hvisible : row ∈ visibleRows db now tenantId projectId row.audience purpose none := by
    refine mem_visibleRows_iff.mpr ⟨hmem, htenant, hproject, hlive, .inl rfl, mem_allowedRecordAudiences_self _, ?_⟩
    intro subject hgiven
    rw [hsubject] at hgiven
    cases hgiven
  have hnamed : person ∈ namedPersons (memoryPayload row) := by
    rw [namedPersons_memoryPayload]
    exact List.mem_append_right _ hperson
  obtain ⟨grant, hgrant, _, _, _, hpermits⟩ := h row.audience purpose none _ (List.mem_map_of_mem hvisible) person hnamed
  simp only [grantPermits, decide_eq_true_eq] at hpermits
  exact hpurpose grant hgrant hpermits.2.2.1

/-- After every history and at every time, whatever is asked for has the consent of everyone it names if and only
if no record that is still shown names persons in its scope. -/
theorem covered_iff_noneRelated (svc : AuditService) (py : PyScalars) (db : LiveForeverDb) (hempty : db.records.rows = [])
    (history : List Act) (now : Nat) (tenantId projectId : String) :
    Covered (run (perform svc py) db history) now tenantId projectId ↔
      NoneRelated (run (perform svc py) db history) tenantId projectId := by
  have hstart : AllWellScoped db := by
    intro recordId row hrow
    have hmem := ((Table.get?_eq_some_iff _ _ _).mp hrow).1
    rw [hempty] at hmem
    cases hmem
  have hscoped : AllWellScoped (run (perform svc py) db history) :=
    run_invariant (allWellScoped_perform svc py) hstart history
  exact ⟨fun h => noneRelated_of_covered h hscoped, fun h => covered_of_noneRelated h hscoped⟩

end Coverage

section Related

/-- Texts are read as they are; nothing else is read. -/
def plainTexts : PyScalars where
  str value := value.text?.getD ""
  str_text := str_text_getD
  int _ := .error (.typeError "not a number")

/-- Ana lets the family keep records about places, until a time. -/
def anaGrant : SubjectGrantRow where
  grantId := "g1"
  tenantId := "t1"
  projectId := "p1"
  purposesJson := ["preservation"]
  audiencesJson := ["family"]
  scopesJson := ["place"]
  expiresAt := some 10
  revokedAt := none
  subjectId := "ana"
  grantedBy := "ana"

/-- A project with Ana's grant and no records. -/
def grantedDb : LiveForeverDb := { LiveForeverDb.empty with
  projects := .single ⟨"p1", "t1", "internal", "active"⟩
  grants := ⟨[anaGrant], by decide⟩ }

def houseScope : SubjectScope := ⟨"place", "house", "documented_family_authority", ["ana"]⟩

/-- A place that names Ana among its related persons. -/
def houseRequest : RecordRequest where
  tenantId := "t1"
  projectId := "p1"
  recordType := "place"
  subjectId := none
  relatedIds := []
  data := []
  sourceClass := .recalled
  confidence := .one
  evidenceAssetIds := []
  audience := .family
  actorId := "ben"
  subjectScope := some [("kind", .str "place"), ("scope_id", .str "house"),
    ("consent_basis", .str "documented_family_authority"), ("related_subject_ids", .arr [.str "ana"])]

def houseAct : Act := ⟨.createRecord houseRequest, ⟨⟨5, "a1"⟩, "r1", "", ⟨0, ""⟩⟩⟩

theorem checkSubject_house : checkSubject plainTexts grantedDb 5 houseRequest = .ok ⟨none, some houseScope, []⟩ := by
  rfl

/-- The house is recorded while Ana's grant is in force. -/
theorem perform_house : ∃ row, (perform .zeroKey plainTexts grantedDb houseAct).records.get? "r1" = some row ∧
    (perform .zeroKey plainTexts grantedDb houseAct).grants = grantedDb.grants ∧ row.recordId = "r1" ∧
    row.tenantId = "t1" ∧ row.projectId = "p1" ∧ row.subjectId = none ∧ row.audience = .family ∧ ¬ Withdrawn row ∧
    relatedSubjects row.dataJson = ["ana"] := by
  obtain ⟨data, hdata⟩ : ∃ data, recordData plainTexts houseRequest "r1" "first_person_recollection"
      [("kind", .str "unknown")] ⟨none, some houseScope, []⟩ = .ok data := ⟨_, rfl⟩
  let row := recordRow houseRequest "r1" 5 ⟨none, some houseScope, []⟩ data none
  obtain ⟨records, hrecords⟩ := @Table.insert?_isSome _ _ grantedDb.records row rfl
  obtain ⟨log, hlog⟩ := @Store.record_of_empty .zeroKey ({ grantedDb with records } : LiveForeverDb).toStore
    houseAct.stamp.toStamp (recordEntry row "first_person_recollection").audit rfl
  obtain ⟨outbox, hrecord⟩ := record_total hlog rfl rfl rfl
    (@validatePayload_recordEntry row "first_person_recollection" (by decide : "r1".toList.length ≤ 64)
      (by decide : "place" ∈ memoryTypes) (by decide))
  have hcreate := @createRecord_of .zeroKey plainTexts grantedDb _ houseAct.stamp houseRequest
    "first_person_recollection" _ _ (none, []) _ (eq_ok_of_isOk (by decide)) rfl rfl rfl checkSubject_house hdata
    (eq_ok_of_isOk (by decide)) rfl _ (by simp only [insertRecord, bind_eq_ok, orRaise_eq_ok]; exact ⟨records, hrecords, rfl⟩)
    hrecord
  have hperform : perform .zeroKey plainTexts grantedDb houseAct =
      { grantedDb with records, toStore := { grantedDb.toStore with audit := log, outbox } } := by
    simp only [perform, houseAct]
    rw [show createRecord AuditService.zeroKey plainTexts grantedDb ⟨⟨5, "a1"⟩, "r1", "", ⟨0, ""⟩⟩ houseRequest = _ from hcreate]
    rfl
  have hscope := get_subject_scope_recordData hdata
  rw [hperform]
  refine ⟨row, ?_, rfl, rfl, rfl, rfl, rfl, rfl, ?_, ?_⟩
  · change records.get? "r1" = some row
    rw [Table.get?_insert hrecords]
    rfl
  · rintro (h | h)
    · exact h rfl
    · cases hdata
      cases h
  · change relatedSubjects data = ["ana"]
    rw [relatedSubjects, hscope]
    rfl

/-- The house is still shown when the grant of a person it names has expired. -/
theorem expired_related_shown : ¬ Covered (run (perform .zeroKey plainTexts) grantedDb [houseAct]) 20 "t1" "p1" := by
  intro h
  obtain ⟨row, hrow, hgrants, _, htenant, hproject, hsubject, haudience, hlive, hrelated⟩ := perform_house
  have hvisible : row ∈ visibleRows (perform .zeroKey plainTexts grantedDb houseAct) 20 "t1" "p1" .family "preservation"
      none := by
    refine mem_visibleRows_iff.mpr ⟨((Table.get?_eq_some_iff _ _ _).mp hrow).1, htenant, hproject, hlive, .inl rfl, ?_, ?_⟩
    · rw [haudience]
      decide
    · intro subject hgiven
      rw [hsubject] at hgiven
      cases hgiven
  have hnamed : "ana" ∈ namedPersons (memoryPayload row) := by
    rw [namedPersons_memoryPayload, hrelated]
    simp
  rw [run_cons, run_nil] at h
  have hitem : memoryPayload row ∈ visibleRecords (perform .zeroKey plainTexts grantedDb houseAct) 20 "t1" "p1" .family
      "preservation" none := List.mem_map_of_mem hvisible
  obtain ⟨grant, hgrant, _, _, _, hpermits⟩ := h .family "preservation" none _ hitem "ana" hnamed
  rw [hgrants] at hgrant
  rw [List.mem_singleton.mp hgrant] at hpermits
  simp [grantPermits, anaGrant] at hpermits

theorem covered_iff_noneRelated_house : Covered (run (perform .zeroKey plainTexts) grantedDb [houseAct]) 20 "t1" "p1" ↔
    NoneRelated (run (perform .zeroKey plainTexts) grantedDb [houseAct]) "t1" "p1" :=
  covered_iff_noneRelated .zeroKey plainTexts grantedDb rfl [houseAct] 20 "t1" "p1"

end Related

section Restriction

/-- The record is returned to no audience that is excluded. -/
def Replaced (db : LiveForeverDb) (now : Nat) (original : LiveForeverRecordRow) (narrowed : Audience) : Prop :=
  ∀ audience, narrowed ∉ allowedRecordAudiences audience → ∀ purpose subjectId,
    ∀ item ∈ visibleRecords db now original.tenantId original.projectId audience purpose subjectId,
      item.get "record_id" ≠ .str original.recordId

/-- Someone whom the narrower audience excludes has access to the wider one, and the subject consents. -/
def ExcludedReader (db : LiveForeverDb) (now : Nat) (original : LiveForeverRecordRow) (narrowed : Audience) : Prop :=
  ∃ audience purpose, original.audience ∈ allowedRecordAudiences audience ∧ narrowed ∉ allowedRecordAudiences audience ∧
    Readable db now original audience purpose

theorem Kept.readable_iff {old new : LiveForeverRecordRow} (h : Kept old new) {audience : Audience} {purpose : String} :
    Readable db now new audience purpose ↔ Readable db now old audience purpose := by
  rw [h.columns]
  rfl

/-- A record that is still the one it was is kept from the excluded audiences if it has been withdrawn, or if
nobody excluded could read it. -/
theorem replaced_iff_of_kept {original row : LiveForeverRecordRow} (hkept : Kept original row) {narrowed : Audience}
    (hrow : db.records.get? original.recordId = some row) :
    Replaced db now original narrowed ↔ Withdrawn row ∨ ¬ ExcludedReader db now original narrowed := by
  have htenant : row.tenantId = original.tenantId := by rw [hkept.columns]
  have hproject : row.projectId = original.projectId := by rw [hkept.columns]
  have haudience : row.audience = original.audience := by rw [hkept.columns]
  obtain ⟨hmem, hid⟩ := (Table.get?_eq_some_iff _ _ _).mp hrow
  constructor
  · intro h
    by_contra hnone
    rw [not_or, not_not] at hnone
    obtain ⟨hlive, audience, purpose, hopen, hexcluded, hreadable⟩ := hnone
    have hvisible : row ∈ visibleRows db now original.tenantId original.projectId audience purpose none :=
      mem_visibleRows_iff.mpr ⟨hmem, htenant, hproject, hlive, .inl rfl, haudience ▸ hopen, hkept.readable_iff.mpr hreadable⟩
    exact h audience hexcluded purpose none _ (List.mem_map_of_mem hvisible) (congrArg Json.str hid)
  · intro h audience hexcluded purpose subjectId item hitem hsame
    obtain ⟨other, hother, rfl⟩ := List.mem_map.mp hitem
    obtain ⟨hothermem, _, _, hlive, _, hopen, hreadable⟩ := mem_visibleRows_iff.mp hother
    have hotherid : other.recordId = original.recordId := Json.str.inj hsame
    have heq : other = row := by
      have hfound := (Table.get?_eq_some_iff _ _ _).mpr ⟨hothermem, hotherid⟩
      exact Option.some.inj (hfound.symm.trans hrow)
    subst heq
    rcases h with hwithdrawn | hnone
    · exact hlive hwithdrawn
    · exact hnone ⟨audience, purpose, haudience ▸ hopen, hexcluded, hkept.readable_iff.mp hreadable⟩

/-- A correction that restricts. -/
def Restricts (correctionType : String) : Prop :=
  correctionType = "consent_restriction" ∨ correctionType = "contributor_retraction"

/-- After a restricting revision, whatever happens later: the original is kept from the audiences that the
revision excludes if and only if it has been withdrawn otherwise or nobody excluded has consent to read it.
A record that was withdrawn before the revision is kept from them at all times. -/
theorem restriction_replaces_iff {stamp : LiveForeverStamp} {req : RevisionRequest} {revised : LiveForeverDb}
    {revisedId : String} {narrowed : Audience} (hrevise : reviseRecord svc py db stamp req = (revised, .ok revisedId))
    (_ : Restricts req.correctionType) (haudience : req.audience = some narrowed) : ∃ original,
      db.records.get? req.recordId = some original ∧
      (∃ revision, revised.records.get? revisedId = some revision ∧ revision.audience = narrowed) ∧
      ∀ history now, ∃ row, (run (perform svc py) revised history).records.get? req.recordId = some row ∧
        (Withdrawn original → Withdrawn row) ∧
        (Replaced (run (perform svc py) revised history) now original narrowed ↔
          Withdrawn row ∨ ¬ ExcludedReader (run (perform svc py) revised history) now original narrowed) := by
  obtain ⟨original, revision, horiginal, hrevision, hcreated⟩ := reviseRecord_ok hrevise
  obtain ⟨_, _, _, _, _, _, _, hrow⟩ := hcreated.row_eq
  refine ⟨original, horiginal, ⟨revision, hrevision, ?_⟩, ?_⟩
  · rw [hrow]
    simp [recordRow, revisionRecord, haudience]
  · intro history now
    have hperform : perform svc py db ⟨.reviseRecord req, stamp⟩ = revised := congrArg Prod.fst hrevise
    have hid : original.recordId = req.recordId := ((Table.get?_eq_some_iff _ _ _).mp horiginal).2
    obtain ⟨row, hlater, hkept⟩ := kept_run svc py db (⟨.reviseRecord req, stamp⟩ :: history) horiginal
    rw [run_cons, hperform] at hlater
    exact ⟨row, hlater, hkept.withdrawn, replaced_iff_of_kept hkept (hid ▸ hlater)⟩

/-- Ana lets the family and herself read everything, for review too. -/
def openGrant : SubjectGrantRow where
  grantId := "g1"
  tenantId := "t1"
  projectId := "p1"
  purposesJson := ["family_review", "preservation"]
  audiencesJson := ["family", "private"]
  scopesJson := ["*"]
  expiresAt := none
  revokedAt := none
  subjectId := "ana"
  grantedBy := "ana"

/-- A memory of Ana's for the family. -/
def letter : LiveForeverRecordRow where
  recordId := "r1"
  tenantId := "t1"
  projectId := "p1"
  recordType := "memory"
  subjectId := some "ana"
  relatedIdsJson := []
  dataJson := [("working_label", .str "Letter"), ("contributor_id", .str "ana"),
    ("source_label", .str "first_person_recollection"), ("time_expression", .obj [("kind", .str "unknown")]),
    ("themes", .arr []), ("emotional_sensitivity", .str "unspecified"), ("assertions", .arr []),
    ("consent_context", .obj [("grant_id", .str "g1"), ("purpose", .str "preservation"), ("audience", .str "family"),
      ("scope", .str "memory"), ("evaluated_at", .str "1970-01-01T00:00:00+00:00")]),
    ("subject_scope", .null), ("status", .str "active"), ("access_state", .str "active")]
  sourceClass := .recalled
  confidence := .one
  evidenceAssetIdsJson := []
  audience := .family
  generatedLineageJson := none
  createdBy := "ana"
  createdAt := 0

def letterDb : LiveForeverDb := { LiveForeverDb.empty with
  projects := .single ⟨"p1", "t1", "internal", "active"⟩
  grants := ⟨[openGrant], by decide⟩
  records := ⟨[letter], by decide⟩ }

/-- Ana takes the letter back from the family. -/
def restrictLetter : RevisionRequest where
  recordId := "r1"
  tenantId := "t1"
  projectId := "p1"
  editorId := "ana"
  correctionType := "consent_restriction"
  reason := "for myself only"
  changes := [("note", .str "private from now on")]
  audience := some .private

def restrictStamp : LiveForeverStamp := ⟨⟨1, "a1"⟩, "r2", "", ⟨2, "a2"⟩⟩

/-- The audit entry of the revision's creation. -/
def restrictEntry : Entry where
  tenantId := "t1"
  projectId := "p1"
  actorId := "ana"
  action := "liveforever:record_create"
  resourceType := "memory_record"
  resourceId := "r2"
  details := [("record_type", .str "memory"), ("source_class", .str "recalled"),
    ("source_label", .str "first_person_recollection"), ("audience", .str "private")]
  eventType := "liveforever.memory.recorded"
  aggregateType := "memory_record"

def restrictHash : String := "cb6504e4a9267e43a6aea80f6b38f3878b96d71e93fc6fd3552663f08711aa68"

def restrictLaterHash : String := "d567a9a3a138cef83ee83a94bf873649fe1aa21fccc3490be1b7fc6db08e7b1c"

set_option maxRecDepth 10000 in
theorem restrict_hash : canonicalSha256 ((AuditService.zeroKey.entry .empty 1 "a1" restrictEntry.audit).body genesisHash) =
    restrictHash := by
  apply canonicalSha256_of_hashesTo
  decide +kernel

set_option maxRecDepth 10000 in
theorem restrictLater_hash : canonicalSha256 ((AuditService.zeroKey.entry .empty 2 "a2"
    (reviseEntry restrictLetter "r2").audit).body restrictHash) = restrictLaterHash := by
  apply canonicalSha256_of_hashesTo
  decide +kernel

def restrictSubject : Subject := ⟨some "ana", none, [("grant_id", .str "g1"), ("purpose", .str "family_review"),
  ("audience", .str "private"), ("scope", .str "memory"), ("evaluated_at", .str (isoformat 1))]⟩

theorem checkSubject_restrict : checkSubject plainTexts letterDb 1 (revisionRecord letter 1 restrictLetter) =
    .ok restrictSubject := by
  have hconsent : requireConsent letterDb 1 "t1" "p1" "ana" ⟨"family_review", .private, "memory"⟩ = .ok openGrant := by rfl
  have hfreeze : enforceHighRiskFreeze letterDb "t1" "p1" "ana" "record" = .ok () := by rfl
  have hsubject : (revisionRecord letter 1 restrictLetter).subjectId.map stripText = some "ana" := by rfl
  unfold checkSubject
  rw [hsubject]
  simp only [bind_eq_ok]
  exact ⟨openGrant, hconsent, (), hfreeze, rfl⟩

/-- The restriction is recorded, and the letter stays as it was. -/
theorem restrict_letter : ∃ revised, reviseRecord .zeroKey plainTexts letterDb restrictStamp restrictLetter =
    (revised, .ok "r2") ∧ revised.grants = letterDb.grants ∧ revised.records.get? "r1" = some letter := by
  let req := revisionRecord letter 1 restrictLetter
  have hlabel : sourceLabel plainTexts req = .ok "first_person_recollection" := by rfl
  obtain ⟨time, htime⟩ : ∃ time, normalizeTimeExpression plainTexts (req.data.get "time_expression") = .ok time := ⟨_, rfl⟩
  obtain ⟨data, hdata⟩ : ∃ data, recordData plainTexts req "r2" "first_person_recollection" time restrictSubject =
    .ok data := ⟨_, rfl⟩
  let row := recordRow req "r2" 1 restrictSubject data none
  obtain ⟨records, hrecords⟩ := @Table.insert?_isSome _ _ letterDb.records row rfl
  obtain ⟨log, hlog, hone⟩ := @Store.record_next .zeroKey ({ letterDb with records } : LiveForeverDb).toStore "t1" 0 [] []
    restrictHash ⟨1, "a1"⟩ (recordEntry row "first_person_recollection").audit (.start "t1" 0) (by decide) rfl
    (by decide) restrict_hash (by decide)
  obtain ⟨outbox, hrecord⟩ := record_total hlog rfl rfl rfl
    (@validatePayload_recordEntry row "first_person_recollection" (by decide : "r2".toList.length ≤ 64)
      (by decide : "memory" ∈ memoryTypes) (by decide))
  have hcreate := @createRecord_of .zeroKey plainTexts letterDb _ restrictStamp req "first_person_recollection" time data
    (none, []) restrictSubject (eq_ok_of_isOk (by decide)) hlabel htime rfl checkSubject_restrict hdata (eq_ok_of_isOk (by decide)) rfl _
    (by simp only [insertRecord, bind_eq_ok, orRaise_eq_ok]; exact ⟨records, hrecords, rfl⟩) hrecord
  let created : LiveForeverDb := { letterDb with records, toStore := { letterDb.toStore with audit := log, outbox } }
  have hkept : created.records.get? "r1" = some letter := by
    change records.get? "r1" = some letter
    rw [Table.get?_insert hrecords]
    rfl
  obtain ⟨laterLog, hlaterLog, -⟩ := @Store.record_next .zeroKey created.toStore "t1" 2 ["a1"] [restrictHash]
    restrictLaterHash ⟨2, "a2"⟩ (reviseEntry restrictLetter "r2").audit hone (by decide) rfl (by decide) restrictLater_hash
    (by decide)
  obtain ⟨laterOutbox, hlater⟩ := @record_total .zeroKey created ⟨2, "a2"⟩ (reviseEntry restrictLetter "r2") _ _ hlaterLog
    rfl rfl rfl (validatePayload_reviseEntry (by decide) (by decide) (by decide))
  refine ⟨{ created with toStore := { created.toStore with audit := laterLog, outbox := laterOutbox } }, ?_, rfl, hkept⟩
  have hfirst : createRevision .zeroKey plainTexts letterDb restrictStamp restrictLetter = .ok ("r2", created) := by
    simp only [createRevision, bind_eq_ok, raiseIf_eq_ok]
    exact ⟨(), by decide, (), by decide, letter, rfl, hcreate⟩
  have hsecond : recordRevision .zeroKey created restrictStamp restrictLetter "r2" =
      .ok { created with toStore := { created.toStore with audit := laterLog, outbox := laterOutbox } } := by
    simp only [recordRevision, bind_eq_ok]
    refine ⟨letter, ?_, hlater⟩
    simp only [scopedRecord, bind_eq_ok, orRaise_eq_ok, raiseIf_eq_ok]
    exact ⟨letter, hkept, (), by decide, rfl⟩
  exact reviseRecord_of hfirst hsecond

/-- The restricted letter is still shown to the family. -/
theorem restricted_letter_shown : ∃ revised, reviseRecord .zeroKey plainTexts letterDb restrictStamp restrictLetter =
    (revised, .ok "r2") ∧ Restricts restrictLetter.correctionType ∧ restrictLetter.audience = some .private ∧
    ¬ Replaced revised 3 letter .private := by
  obtain ⟨revised, hrevise, hgrants, hletter⟩ := restrict_letter
  refine ⟨revised, hrevise, .inl rfl, rfl, ?_⟩
  intro h
  have hlive : ¬ Withdrawn letter := by
    rintro (hsuperseded | hdisabled)
    · exact hsuperseded rfl
    · cases hdisabled
  have hreadable : Readable revised 3 letter .family "preservation" := by
    intro subject hsubject
    cases hsubject
    refine ⟨openGrant, ?_, rfl, rfl, rfl, by decide⟩
    rw [hgrants]
    exact List.mem_singleton_self openGrant
  have hvisible : letter ∈ visibleRows revised 3 "t1" "p1" .family "preservation" none :=
    mem_visibleRows_iff.mpr ⟨((Table.get?_eq_some_iff _ _ _).mp hletter).1, rfl, rfl, hlive, .inl rfl, by decide, hreadable⟩
  have hitem : memoryPayload letter ∈ visibleRecords revised 3 "t1" "p1" .family "preservation" none :=
    List.mem_map_of_mem hvisible
  exact h .family (by decide) "preservation" none (memoryPayload letter) hitem rfl

theorem restriction_replaces_iff_letter : ∃ revised, reviseRecord .zeroKey plainTexts letterDb restrictStamp restrictLetter =
    (revised, .ok "r2") ∧ ∃ row, (run (perform .zeroKey plainTexts) revised []).records.get? "r1" = some row ∧
      (Replaced (run (perform .zeroKey plainTexts) revised []) 3 letter .private ↔
        Withdrawn row ∨ ¬ ExcludedReader (run (perform .zeroKey plainTexts) revised []) 3 letter .private) := by
  obtain ⟨revised, hrevise, _, _⟩ := restrict_letter
  obtain ⟨original, horiginal, _, hlater⟩ := restriction_replaces_iff hrevise (.inl rfl) rfl
  have heq : original = letter := Option.some.inj (horiginal.symm.trans rfl)
  obtain ⟨row, hrow, _, hreplaced⟩ := hlater [] 3
  exact ⟨revised, hrevise, row, hrow, heq ▸ hreplaced⟩

end Restriction

end LiveForeverService
end Sip
