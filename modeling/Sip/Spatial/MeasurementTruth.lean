import Sip.Foundation.Runs
import Sip.Scene.Rollback
import Sip.Spatial.Measurements
import Sip.Spatial.MergeLaws

/-!
# What a verified measurement rests on

Whatever else happens to the tables in between, a measurement with field-verified
authority was accepted by a call that named an independent verifier, a calibration and
a positive uncertainty, and that did not come from a proxy.
-/

namespace Sip
namespace SceneService

set_option autoImplicit false

/-- A call of the service, or anything that leaves the measurements alone. -/
inductive MeasurementAct where
  | create (stamp : MeasurementStamp) (req : MeasurementRequest)
  | elsewhere (db : MeasurementDb)

def measurementStep (svc : AuditService) (py : PyConversions) (db : MeasurementDb) : MeasurementAct → MeasurementDb
  | .create stamp req =>
    match createMeasurement svc py db stamp req with
    | .ok (_, db') => db'
    | .error _ => db
  | .elsewhere other => { other with measurements := db.measurements }

theorem measurementStep_of_ok {svc : AuditService} {py : PyConversions} {db db' : MeasurementDb} {stamp : MeasurementStamp}
    {req : MeasurementRequest} {id : String} (h : createMeasurement svc py db stamp req = .ok (id, db')) :
    measurementStep svc py db (.create stamp req) = db' := by
  simp only [measurementStep, h]

/-- A metric representation that is approved for measurements in the scope and the frame of a row. -/
structure ApprovedMetric (row : MeasurementRow) (representation : RepresentationAssetRow) : Prop where
  tenant : representation.tenantId = row.tenantId
  project : representation.projectId = row.projectId
  scene : representation.sceneId = row.sceneId
  kind : representation.kind = .metric
  published : representation.state = "published"
  live : representation.deprecatedAt = none
  use : "measurement" ∈ representation.intendedUsesJson
  frame : representation.coordinateFrameId = row.coordinateFrameId

/-- What a field-verified measurement rests on in the state in which it is accepted. -/
structure Verified (db : MeasurementDb) (row : MeasurementRow) : Prop where
  verifier : ∃ verifierId, row.verifierId = some verifierId ∧ verifierId ≠ "" ∧ verifierId ≠ row.createdBy
  calibration : row.calibrationJson ≠ []
  uncertainty : ∃ x, row.uncertainty = .finite x ∧ 0 < x.value
  dated : row.verifiedAt ≠ none
  direct : row.interactionHitJson = none ∧ row.resolvedMetricEvidenceJson = none
  origin : ∀ representationId, given row.originatingRepresentationId = some representationId →
    ∃ representation, db.representations.get? representationId = some representation ∧ ApprovedMetric row representation

section Accept
variable {svc : AuditService} {py : PyConversions} {db db' : MeasurementDb} {stamp : MeasurementStamp}
  {req : MeasurementRequest} {hit : Option Dict} {evidence : Option ResolvedMetricEvidence} {id : String}

/-- What a call that goes through has checked, and the row it writes. -/
theorem createMeasurement_ok (h : createMeasurement svc py db stamp req = .ok (id, db')) :
    ∃ geometry commitId hit evidence measurements,
      checkRequest req = .ok geometry ∧ origin py db req = .ok (hit, evidence) ∧ checkVerification req = .ok () ∧
      checkMeasurementContract py (measurementRow stamp req geometry commitId hit evidence) = .ok () ∧
      supersedeMeasurement db req = .ok measurements ∧ id = stamp.measurementId ∧
      db'.measurements.rows = measurements.rows ++ [measurementRow stamp req geometry commitId hit evidence] := by
  simp only [createMeasurement, bind_eq_ok] at h
  obtain ⟨geometry, hgeometry, commitId, _, _, _, _, _, ⟨hit, evidence⟩, horigin, _, _, measurements, hmeasurements, _,
    hverification, written, hwritten, h⟩ := h
  cases h
  simp only [writeMeasurement, bind_eq_ok, orRaise_eq_ok] at hwritten
  obtain ⟨_, hcontract, hash, _, inserted, hinserted, _, _, _, _, hwritten⟩ := hwritten
  cases hwritten
  exact ⟨geometry, commitId, hit, evidence, measurements, hgeometry, horigin, hverification, hcontract, hmeasurements, rfl,
    (Table.insert?_eq_some hinserted).2⟩

/-- A verified reading has no representation behind it, or an approved metric one. -/
theorem origin_of_verified (h : origin py db req = .ok (hit, evidence)) (hverified : req.verified = true) :
    hit = none ∧ evidence = none ∧ ∀ representationId, given req.originatingRepresentationId = some representationId →
      ∃ representation, db.representations.get? representationId = some representation ∧
        representation.tenantId = req.tenantId ∧ representation.projectId = req.projectId ∧
        representation.sceneId = req.sceneId ∧ representation.kind = .metric ∧ representation.state = "published" ∧
        representation.deprecatedAt = none ∧ "measurement" ∈ representation.intendedUsesJson ∧
        representation.coordinateFrameId = req.coordinateFrameId := by
  unfold origin at h
  split at h
  · rename_i hnone
    obtain ⟨_, _, h⟩ := bind_eq_ok.mp h
    cases h
    refine ⟨rfl, rfl, ?_⟩
    intro representationId hgiven
    rw [hnone] at hgiven
    cases hgiven
  · rename_i representationId hgiven
    obtain ⟨representation, hfound, h⟩ := bind_eq_ok.mp h
    obtain ⟨_, hscope, h⟩ := bind_eq_ok.mp h
    rw [orRaise_eq_ok] at hfound
    rw [raiseIf_eq_ok] at hscope
    push Not at hscope
    split at h
    · -- an interaction hit is refused for a verified reading before anything else
      obtain ⟨_, hinteraction, _⟩ := bind_eq_ok.mp h
      obtain ⟨_, hrefused, _⟩ := bind_eq_ok.mp hinteraction
      exact absurd hverified (raiseIf_eq_ok.mp hrefused)
    · simp only [bind_eq_ok, raiseIf_eq_ok] at h
      obtain ⟨_, _, _, _, _, hkind, _, happroved, _, hframe, h⟩ := h
      cases h
      push Not at hkind happroved hframe
      refine ⟨rfl, rfl, ?_⟩
      intro other hother
      rw [hgiven, Option.some.injEq] at hother
      subst hother
      exact ⟨representation, hfound, hscope.1, hscope.2.1, hscope.2.2, hkind, happroved.1, happroved.2.1, happroved.2.2,
        hframe⟩

theorem pos_of_uncertainty {x : PyFloat} (hnonneg : (Double.finite x).lt .zero = false) (hne : (Double.finite x).eq .zero = false) :
    0 < x.value := by
  simp only [Double.zero, Double.lt, Double.eq, PyFloat.value_zero, decide_eq_false_iff_not, not_lt] at hnonneg hne
  exact lt_of_le_of_ne hnonneg (Ne.symm hne)

/-- The row of a call that asked for verification. -/
theorem verified_of_request {geometry : Dict} {commitId : String} (hrequest : checkRequest req = .ok geometry)
    (horigin : origin py db req = .ok (hit, evidence)) (hverification : checkVerification req = .ok ())
    (hverified : req.verified = true) : Verified db (measurementRow stamp req geometry commitId hit evidence) := by
  obtain ⟨rfl, rfl, hrepresentation⟩ := origin_of_verified horigin hverified
  simp only [checkRequest, bind_eq_ok, raiseIf_eq_ok] at hrequest
  obtain ⟨_, hbounds, _⟩ := hrequest
  simp only [checkVerification, bind_eq_ok, raiseIf_eq_ok] at hverification
  obtain ⟨_, hmetadata, hindependent⟩ := hverification
  push Not at hbounds hmetadata hindependent
  obtain ⟨hgiven, hcalibration, huncertainty⟩ := hmetadata hverified
  obtain ⟨x, hx⟩ := Option.ne_none_iff_exists'.mp hbounds.2.1
  have hfinite : req.uncertainty = .finite x := by
    cases hcase : req.uncertainty with
    | finite y => simpa [hcase, Double.finite?] using hx
    | infinite negative => simp [hcase, Double.finite?] at hx
    | nan => simp [hcase, Double.finite?] at hx
  rw [hfinite] at hbounds huncertainty
  refine ⟨?_, ?_, ⟨x, hfinite, ?_⟩, ?_, ⟨rfl, rfl⟩, ?_⟩
  · cases hverifier : req.verifierId with
    | none => simp [given, hverifier] at hgiven
    | some verifierId =>
      refine ⟨verifierId, hverifier, ?_, ?_⟩
      · intro hempty
        simp [given, hverifier, hempty] at hgiven
      · intro hsame
        exact hindependent hverified (by rw [hverifier, hsame]; rfl)
  · intro hempty
    have hcal : req.calibration = [] := hempty
    simp [hcal] at hcalibration
  · exact pos_of_uncertainty (by simpa using hbounds.1) (by simpa using huncertainty)
  · simp [measurementRow, hverified]
  · intro representationId hgiven'
    obtain ⟨representation, hfound, htenant, hproject, hscene, hkind, hpublished, hlive, huse, hframe⟩ :=
      hrepresentation representationId hgiven'
    exact ⟨representation, hfound, htenant, hproject, hscene, hkind, hpublished, hlive, huse, hframe⟩

/-- The row of a call has field-verified authority, or the state of a verified measurement, only if the call asked
for verification. -/
theorem verified_requested {geometry : Dict} {commitId : String}
    (hcontract : checkMeasurementContract py (measurementRow stamp req geometry commitId hit evidence) = .ok ())
    (h : (measurementRow stamp req geometry commitId hit evidence).authorityClass = .fieldVerified ∨
      (measurementRow stamp req geometry commitId hit evidence).state = "verified") : req.verified = true := by
  cases hverified : req.verified with
  | true => rfl
  | false =>
    have hauthority : (measurementRow stamp req geometry commitId hit evidence).authorityClass = .metric := by
      simp [measurementRow, hverified]
    rw [hauthority] at h
    rcases h with h | h
    · cases h
    · simp only [checkMeasurementContract, checkMeasurementVerification, bind_eq_ok, raiseIf_eq_ok] at hcontract
      obtain ⟨_, _, _, _, _, _, _, _, _, _, _, hclass, _⟩ := hcontract
      exact absurd ⟨h, by rw [hauthority]; decide⟩ hclass

/-- Marking a measurement as superseded changes no other column. -/
theorem supersedeMeasurement_rows {measurements : Table MeasurementRow (fun row => row.measurementId)}
    (h : supersedeMeasurement db req = .ok measurements) {row : MeasurementRow} (hrow : row ∈ measurements.rows) :
    ∃ old ∈ db.measurements.rows, row = old ∨ row = { old with state := "superseded" } := by
  unfold supersedeMeasurement at h
  split at h
  · cases h
    exact ⟨row, hrow, .inl rfl⟩
  · simp only [bind_eq_ok] at h
    obtain ⟨_, _, _, _, _, _, h⟩ := h
    cases h
    obtain ⟨old, hold, rfl⟩ := List.mem_map.mp hrow
    refine ⟨old, hold, ?_⟩
    split
    · exact .inr rfl
    · exact .inl rfl

theorem Verified.superseded {row : MeasurementRow} (h : Verified db row) : Verified db { row with state := "superseded" } where
  verifier := h.verifier
  calibration := h.calibration
  uncertainty := h.uncertainty
  dated := h.dated
  direct := h.direct
  origin := by
    intro representationId hgiven
    obtain ⟨representation, hfound, happroved⟩ := h.origin representationId hgiven
    exact ⟨representation, hfound, ⟨happroved.tenant, happroved.project, happroved.scene, happroved.kind,
      happroved.published, happroved.live, happroved.use, happroved.frame⟩⟩

end Accept

section Run
variable (svc : AuditService) (py : PyConversions) (db : MeasurementDb)

/-- A call of the run accepted the row, with everything that verification asks for. -/
def AcceptedIn (acts : List MeasurementAct) (row : MeasurementRow) : Prop :=
  ∃ before stamp req after db', acts = before ++ .create stamp req :: after ∧ req.verified = true ∧
    createMeasurement svc py (run (measurementStep svc py) db before) stamp req = .ok (row.measurementId, db') ∧
    Verified (run (measurementStep svc py) db before) row

variable {svc py db}

theorem AcceptedIn.snoc {acts : List MeasurementAct} {row : MeasurementRow} (h : AcceptedIn svc py db acts row)
    (a : MeasurementAct) : AcceptedIn svc py db (acts ++ [a]) row := by
  obtain ⟨before, stamp, req, after, db', rfl, h⟩ := h
  exact ⟨before, stamp, req, after ++ [a], db', by simp, h⟩

theorem AcceptedIn.superseded {acts : List MeasurementAct} {row : MeasurementRow} (h : AcceptedIn svc py db acts row) :
    AcceptedIn svc py db acts { row with state := "superseded" } := by
  obtain ⟨before, stamp, req, after, db', hacts, hverified, hcreate, haccepted⟩ := h
  exact ⟨before, stamp, req, after, db', hacts, hverified, hcreate, haccepted.superseded⟩

end Run

/-- In every state that is reached from one without measurements, every measurement with field-verified authority, and
every one whose status is verified, was accepted by a call that asked for verification, with a verifier other than the
creator, a calibration and a positive uncertainty, not from an interaction hit, and with no other representation
behind it than a published metric one. -/
theorem verified_measurements_accepted (svc : AuditService) (py : PyConversions) (db : MeasurementDb)
    (hstart : db.measurements = .empty) (acts : List MeasurementAct) (row : MeasurementRow)
    (hrow : row ∈ (run (measurementStep svc py) db acts).measurements.rows)
    (hverified : row.authorityClass = .fieldVerified ∨ row.state = "verified") : AcceptedIn svc py db acts row := by
  induction acts using List.reverseRecOn generalizing row with
  | nil =>
    rw [run_nil, hstart] at hrow
    exact absurd hrow List.not_mem_nil
  | append_singleton acts a ih =>
    rw [run_append, run_cons, run_nil] at hrow
    cases a with
    | elsewhere other => exact (ih row hrow hverified).snoc _
    | create stamp req =>
      simp only [measurementStep] at hrow
      split at hrow
      · rename_i id db' hcreate
        obtain ⟨geometry, commitId, hit, evidence, measurements, hrequest, horigin, hverification, hcontract, hsupersede, hid,
          hrows⟩ := createMeasurement_ok hcreate
        subst hid
        rw [hrows, List.mem_append, List.mem_singleton] at hrow
        rcases hrow with hrow | rfl
        · obtain ⟨old, hold, hsame | hsame⟩ := supersedeMeasurement_rows hsupersede hrow
          · subst hsame
            exact (ih row hold hverified).snoc _
          · subst hsame
            have hclass : old.authorityClass = .fieldVerified := hverified.resolve_right (by simp)
            exact (ih old hold (.inl hclass)).superseded.snoc _
        · have hrequested := verified_requested hcontract hverified
          exact ⟨acts, stamp, req, [], db', rfl, hrequested, hcreate,
            verified_of_request hrequest horigin hverification hrequested⟩
      · exact (ih row hrow hverified).snoc _

section Sample

/-- The end of a call goes through in a store without audit entries. -/
theorem writeMeasurement_of_empty {svc : AuditService} {py : PyConversions} {db : MeasurementDb} {stamp : MeasurementStamp}
    {measurements : Table MeasurementRow (fun row => row.measurementId)} {row : MeasurementRow} {value uncertainty : PyFloat}
    (hcontract : checkMeasurementContract py row = .ok ()) (hvalue : row.value = .finite value)
    (huncertainty : row.uncertainty = .finite uncertainty) (hfresh : measurements.get? row.measurementId = none)
    (hpayload : validatePayload (measurementPayload row
      (canonicalSha256 (.obj (measurementDocument row value uncertainty)))) = .ok ()) (haudit : db.audit = .empty) :
    ∃ db', writeMeasurement svc py db stamp measurements row = .ok db' ∧
      db'.measurements.rows = measurements.rows ++ [row] := by
  have hhash : contractHash row = .ok (canonicalSha256 (.obj (measurementDocument row value uncertainty))) := by
    simp only [contractHash, hvalue, huncertainty, Double.finite?, orRaise, bind, Except.bind, pure, Except.pure]
  generalize canonicalSha256 (.obj (measurementDocument row value uncertainty)) = hash at hhash hpayload
  obtain ⟨inserted, hinserted⟩ := Table.insert?_isSome hfresh
  obtain ⟨event, hevent⟩ := db.emit_total stamp.toStamp (r := measurementEvent row hash) rfl rfl rfl hpayload
  obtain ⟨log, hlog⟩ := Store.record_of_empty svc (s := { db.toStore with outbox := db.outbox ++ [event] }) stamp.toStamp
    (measurementAudit row hash) haudit
  refine ⟨{ db with outbox := db.outbox ++ [event], audit := log, measurements := inserted }, ?_,
    (Table.insert?_eq_some hinserted).2⟩
  simp only [writeMeasurement, bind_eq_ok, orRaise_eq_ok]
  exact ⟨(), hcontract, hash, hhash, inserted, hinserted, _, hevent, _, hlog, rfl⟩

/-- The identifiers fit their columns. -/
theorem validatePayload_measurement {row : MeasurementRow} (value : Json) (hid : row.measurementId.toList.length ≤ 64)
    (hscene : row.sceneId.toList.length ≤ 64) (hentity : ∀ s ∈ row.entityId, s.toList.length ≤ 64)
    (hstate : row.state.toList.length ≤ 64) (hcommit : row.sourceCommitId.toList.length ≤ 64) :
    validatePayload (measurementPayload row (canonicalSha256 value)) = .ok () := by
  have hkeys : (measurementPayload row (canonicalSha256 value)).map Prod.fst =
      ["measurement_id", "scene_id", "entity_id", "verification_status", "authority_class", "source_commit_id",
        "interaction_resolved_to_metric", "contract_hash"] := rfl
  have hauthority : row.authorityClass.value.toList.length ≤ 64 := by
    cases row.authorityClass <;> decide
  apply validatePayload_brief hkeys rfl (by decide)
  intro p hp
  simp only [measurementPayload, List.mem_cons, List.not_mem_nil, or_false] at hp
  rcases hp with rfl | rfl | rfl | rfl | rfl | rfl | rfl | rfl
  · exact brief_str hid
  · exact brief_str hscene
  · exact brief_ofOption hentity
  · exact brief_str hstate
  · exact brief_str hauthority
  · exact brief_str hcommit
  · exact brief_bool _
  · exact brief_sha256 value

def tapePhoto : AssetRefRow where
  assetId := "a1"
  tenantId := "t1"
  projectId := "p1"
  sha256 := ""
  originalName := "photo"
  classification := "internal"
  retentionClass := "project"
  sourceClass := "observed"
  authorityClass := "evidence"
  provenanceJson := []
  createdBy := "ana"

/-- A new scene with one asset and one frame. -/
def measuredScene : MeasurementDb := { newScene .empty with
  refs := ⟨[tapePhoto], by decide⟩
  frames := .single ⟨"f1", "t1", "p1", none⟩
  representations := .empty
  constructionRecords := .empty
  measurements := .empty }

/-- A length taken by one person and verified by another. -/
def tapeReading : MeasurementRequest where
  tenantId := "t1"
  projectId := "p1"
  sceneId := "s1"
  value := .finite .one
  unit := "meter"
  uncertainty := .finite .one
  sourceAssetIds := ["a1"]
  calibration := [("tape", .int 1)]
  verifierId := some "vic"
  verified := true
  actorId := "ana"
  geometry := some [("from", .int 0)]
  coordinateFrameId := "f1"

def tapeStamp : MeasurementStamp := ⟨⟨0, "e1"⟩, "m1"⟩

def tapeRow : MeasurementRow := measurementRow tapeStamp tapeReading [("from", .int 0)] "c0" none none

/-- No document of the sample needs a conversion. -/
def plainPython : PyConversions := { SpatialDataService.plainText with
  float := fun _ => .error (.typeError "float() argument must be a string or a real number")
  dict := fun _ => .error (.typeError "object is not iterable") }

theorem createMeasurement_tape : ∃ db, createMeasurement .zeroKey plainPython measuredScene tapeStamp tapeReading =
    .ok ("m1", db) ∧ db.measurements.rows = [tapeRow] := by
  have hpayload := @validatePayload_measurement tapeRow (.obj (measurementDocument tapeRow .one .one)) (by decide)
    (by decide) nofun (by decide) (by decide)
  have hcontract : checkMeasurementContract plainPython tapeRow = .ok () := rfl
  obtain ⟨db, hwrite, hrows⟩ := @writeMeasurement_of_empty .zeroKey plainPython measuredScene tapeStamp .empty tapeRow .one .one
    hcontract rfl rfl rfl hpayload rfl
  refine ⟨db, ?_, hrows⟩
  simp only [createMeasurement, bind_eq_ok]
  exact ⟨_, rfl, "c0", rfl, (), rfl, (), rfl, (none, none), rfl, (), rfl, .empty, rfl, (), rfl, db, hwrite, rfl⟩

theorem verified_measurements_accepted_tape :
    tapeRow ∈ (run (measurementStep .zeroKey plainPython) measuredScene [.create tapeStamp tapeReading]).measurements.rows ∧
    tapeRow.authorityClass = .fieldVerified ∧
    AcceptedIn .zeroKey plainPython measuredScene [.create tapeStamp tapeReading] tapeRow := by
  obtain ⟨db, hcreate, hrows⟩ := createMeasurement_tape
  have hrow : tapeRow ∈
      (run (measurementStep .zeroKey plainPython) measuredScene [.create tapeStamp tapeReading]).measurements.rows := by
    rw [run_cons, run_nil, measurementStep_of_ok hcreate, hrows]
    exact List.mem_singleton_self _
  exact ⟨hrow, rfl, verified_measurements_accepted .zeroKey plainPython measuredScene rfl _ tapeRow hrow (.inl rfl)⟩

end Sample

end SceneService
end Sip
