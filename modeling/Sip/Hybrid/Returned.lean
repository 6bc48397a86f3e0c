import Sip.Foundation.PlainDigests
import Sip.Hybrid.Progress

/-!
# The outputs of a manual transfer

What a provider has made by hand comes back with a receipt that lists its outputs. The
candidate of the conversion is submitted later by the worker path, which checks the asset
it is given but does not look at the transfer. The candidate is therefore one of the
returned outputs exactly when the worker says so.
-/

namespace Sip

set_option autoImplicit false

open RepresentationService (candidateId candidateRow candidateOf? createCandidate attachWorkerReceipt)

namespace HybridControl

/-- Some manual transfer of the conversion has been exported. -/
def Transferred (conversionId : String) (db : HybridDb) : Prop :=
  ∃ transfer ∈ db.transfers.rows, transfer.conversionId = conversionId

/-- `record_manual_return` has recorded the output for a transfer of the conversion. -/
def Returned (conversionId : String) (output : TransferredAsset) (db : HybridDb) : Prop :=
  ∃ transfer ∈ db.transfers.rows, transfer.conversionId = conversionId ∧
    transfer.state = "returned_pending_validation" ∧ output ∈ transfer.returnedOutputsJson

/-- The candidate of the conversion is this asset, with this digest and in this role. -/
def Attached (conversionId representationId : String) (output : TransferredAsset) (db : HybridDb) : Prop :=
  ∃ row rep asset, db.conversions.get? conversionId = some row ∧ row.candidateRepresentationId = some representationId ∧
    db.representations.get? representationId = some rep ∧ rep.assetId = output.assetId ∧
    rep.metadataJson.get "output_role" = .str output.role ∧
    db.refs.get? rep.assetId = some asset ∧ asset.sha256 = output.sha256

/-- What the worker says it submits. -/
def ReportedReturned (conversionId : String) (report : CandidateReport) (db : HybridDb) : Prop :=
  ∃ digest, normalizeDigest report.outputAssetSha256 = .ok digest ∧
    Returned conversionId ⟨report.outputAssetId, digest, report.outputRole⟩ db

theorem attached_unique {conversionId representationId : String} {a b : TransferredAsset} {db : HybridDb}
    (ha : Attached conversionId representationId a db) (hb : Attached conversionId representationId b db) : a = b := by
  obtain ⟨_, rep, asset, _, _, hrep, hassetId, hrole, hasset, hsha⟩ := ha
  obtain ⟨_, rep', asset', _, _, hrep', hassetId', hrole', hasset', hsha'⟩ := hb
  cases hrep.symm.trans hrep'
  cases hasset.symm.trans hasset'
  rw [hrole] at hrole'
  obtain ⟨ida, shaa, rolea⟩ := a
  obtain ⟨idb, shab, roleb⟩ := b
  simp_all

section Frames
variable {db db' : HybridDb}

/-- Rows under a key keep what they say. -/
def SameAssets (refs refs' : Table AssetRefRow (fun row => row.assetId)) : Prop :=
  ∀ k asset, refs.get? k = some asset → ∃ asset', refs'.get? k = some asset' ∧ asset'.sha256 = asset.sha256

theorem holdOutput_sameAssets {db : RepresentationDb} {tenantId projectId assetId classification : String} {held : Bool}
    {blockers : List String} {refs : Table AssetRefRow (fun row => row.assetId)}
    (h : RepresentationService.holdOutput db tenantId projectId assetId classification held = .ok (blockers, refs)) :
    SameAssets db.refs refs := by
  intro k asset hasset
  unfold RepresentationService.holdOutput at h
  cases houtput : (db.refs.get? assetId).filter fun asset => asset.tenantId = tenantId ∧ asset.projectId = projectId with
  | none =>
    rw [houtput] at h
    cases h
    exact ⟨asset, hasset, rfl⟩
  | some output =>
    rw [houtput] at h
    obtain ⟨_, _, hrefs⟩ := bind_eq_ok.mp h
    cases hrefs
    split
    · have hfound : db.refs.get? assetId = some output := (Option.filter_eq_some_iff.mp houtput).1
      have hid : output.assetId = assetId := ((Table.get?_eq_some_iff _ _ _).mp hfound).2
      rw [@Table.get?_set _ _ db.refs { output with legalHold := true } output (hid ▸ hfound) k]
      split
      · rename_i hk
        simp only [hid] at hk
        rw [hk, hfound] at hasset
        cases hasset
        exact ⟨_, rfl, rfl⟩
      · exact ⟨asset, hasset, rfl⟩
    · exact ⟨asset, hasset, rfl⟩

/-- A candidate of an operation that has none yet is a new row. -/
theorem createCandidate_new {svc : AuditService} {py : PyText} {db db' : RepresentationDb} {stamp : RepresentationStamp}
    {req : CandidateRequest} {representationId : String} (h : createCandidate svc py db stamp req = .ok (representationId, db'))
    (hnone : candidateOf? db req.tenantId req.projectId req.operationId = none) :
    representationId = candidateId stamp req ∧ SameAssets db.refs db'.refs ∧
      ∃ policy, db'.representations.get? representationId = some (candidateRow stamp req policy) := by
  simp only [createCandidate, bind_eq_ok] at h
  obtain ⟨_, _, _, _, ⟨policy, refs⟩, hpolicy, _, _, _, _, h⟩ := h
  have hnone' : candidateOf? { db with refs } req.tenantId req.projectId req.operationId = none := hnone
  have hsame : SameAssets db.refs refs := by
    simp only [RepresentationService.effectivePrivacyInheritance, bind_eq_ok] at hpolicy
    obtain ⟨_, _, _, _, _, _, _, _, ⟨_, _⟩, hhold, hout⟩ := hpolicy
    cases hout
    exact holdOutput_sameAssets hhold
  rw [hnone'] at h
  obtain ⟨after, hinsert, heq⟩ := bind_eq_ok.mp h
  cases heq
  simp only [RepresentationService.insertCandidate, bind_eq_ok, orRaise_eq_ok] at hinsert
  obtain ⟨representations, hinserted, s, hs, s', hs', hdb⟩ := hinsert
  cases hdb
  obtain ⟨_, rfl⟩ := Store.emit_eq_ok hs
  obtain ⟨_, rfl⟩ := Store.record_eq_ok hs'
  refine ⟨rfl, hsame, policy, ?_⟩
  have hget := Table.get?_insert hinserted (candidateRow stamp req policy).representationId
  rw [if_pos rfl] at hget
  exact hget

/-- A receipt leaves the asset and the metadata of every candidate. -/
theorem attachWorkerReceipt_keeps {svc : AuditService} {db db' : RepresentationDb} {stamp : Stamp}
    {req : RepresentationService.ReceiptRequest} (h : attachWorkerReceipt svc db stamp req = .ok db') {k : String}
    {rep : RepresentationAssetRow} (hrep : db.representations.get? k = some rep) : db'.refs = db.refs ∧
      ∃ rep', db'.representations.get? k = some rep' ∧ rep'.assetId = rep.assetId ∧ rep'.metadataJson = rep.metadataJson := by
  simp only [attachWorkerReceipt, bind_eq_ok, orRaise_eq_ok] at h
  obtain ⟨row, hrow, _, _, provenanceJson, _, s, hs, hdb⟩ := h
  cases hdb
  obtain ⟨_, rfl⟩ := Store.record_eq_ok hs
  refine ⟨rfl, ?_⟩
  have hmem := List.mem_of_find?_eq_some hrow
  have hfound := (Table.mem_rows_iff db.representations row).mp hmem
  rw [@Table.get?_set _ _ db.representations { row with provenanceJson } row hfound k]
  split
  · rename_i hk
    simp only at hk
    rw [hk, hfound] at hrep
    cases hrep
    exact ⟨_, rfl, rfl, rfl⟩
  · exact ⟨rep, hrep, rfl, rfl⟩

theorem ensureOperationStarted_store {draw : HybridDraw} {lease : WorkerCredential} {py : PyNumbers} {a : Unit}
    (h : (ensureOperationStarted draw lease py).run db = (db', .ok a)) : ∃ s, db' = { db with toStore := s } := by
  have hoff : OffStore fun d => ∃ s, d = { db with toStore := s } := by
    intro d s hd
    obtain ⟨_, rfl⟩ := hd
    exact ⟨s, rfl⟩
  have hwithin : (ensureOperationStarted draw lease py).Within (fun d => ∃ s, d = { db with toStore := s }) fun _ => True :=
    within_ensureOperationStarted hoff lease py
  have hrun := hwithin.run ⟨db.toStore, rfl⟩
  rw [h] at hrun
  exact hrun

end Frames

section Complete
variable {svc : HybridControlService} {draw : HybridDraw} {lease : WorkerCredential} {report : CandidateReport}
  {db db' : HybridDb} {token : String} {result : CandidateResult}

/-- A candidate is accepted as new only for an operation that has none. -/
theorem acceptsCandidate_new {privacy provenance : Dict} {dependencies : List String} {row : SpatialConversionRow} {claims : Dict}
    (hlease : lease = leaseOf row claims) (hrow : db.conversions.get? lease.conversionId = some row)
    (h : acceptsCandidate svc lease report db = .ok (.accepted privacy provenance dependencies)) :
    candidateOf? db.toRepresentationDb lease.tenantId lease.projectId (some lease.operationId) = none ∧
      ∃ asset digest, db.refs.get? report.outputAssetId = some asset ∧
        normalizeDigest report.outputAssetSha256 = .ok digest ∧ asset.sha256 = digest := by
  obtain ⟨found, hfound, h⟩ := bind_eq_ok.mp h
  cases hrow.symm.trans (scopedConversion_eq_ok hfound)
  split at h
  · simp only [newCandidate, bind_eq_ok, orRaise_eq_ok] at h
    obtain ⟨_, _, _, _, _, _, _, houtput, _, _, _, _, h⟩ := h
    simp only [checkOutput, bind_eq_ok, orRaise_eq_ok, raiseIf_eq_ok, not_not] at houtput
    obtain ⟨asset, hasset, _, _, digest, hdigest, _, hsha, _⟩ := houtput
    cases hnone : db.representations.rows.find? fun rep => rep.operationId = some row.operationId with
    | some existing =>
      rw [hnone] at h
      obtain ⟨_, _, hout⟩ := bind_eq_ok.mp h
      cases hout
    | none =>
      refine ⟨?_, asset, digest, hasset, hdigest, hsha⟩
      have hoperation : lease.operationId = row.operationId := by
        rw [hlease]
        rfl
      rw [List.find?_eq_none] at hnone
      rw [hoperation]
      unfold candidateOf?
      cases hgiven : given (some row.operationId) with
      | none => rfl
      | some operationId =>
        have hsame : row.operationId = operationId := Option.some.inj (Option.filter_eq_some_iff.mp hgiven).1
        subst hsame
        apply List.find?_eq_none.mpr
        intro rep hrep hmatch
        have hother := hnone rep hrep
        simp_all
  · unfold completedCandidate at h
    split at h
    · cases h
    · cases h

theorem acceptsCandidate_replay {prior : CandidateResult} (h : acceptsCandidate svc lease report db = .ok (.replay prior)) :
    prior.idempotentReplay = true := by
  obtain ⟨row, _, h⟩ := bind_eq_ok.mp h
  split at h
  · simp only [newCandidate, bind_eq_ok] at h
    obtain ⟨_, _, _, _, _, _, _, _, _, _, _, _, h⟩ := h
    split at h
    · obtain ⟨_, _, hout⟩ := bind_eq_ok.mp h
      cases hout
      rfl
    · obtain ⟨_, _, hout⟩ := bind_eq_ok.mp h
      cases hout
  · unfold completedCandidate at h
    split at h
    · cases h
      rfl
    · cases h

/-- The candidate that the worker path attaches is the one that the worker reports. -/
theorem submitCandidate_attached {privacy provenance : Dict} {dependencies : List String} {row : SpatialConversionRow}
    {claims : Dict} (hlease : lease = leaseOf row claims) (hrow : db.conversions.get? lease.conversionId = some row)
    (haccepted : acceptsCandidate svc lease report db = .ok (.accepted privacy provenance dependencies))
    (h : (submitCandidate svc draw lease report privacy provenance dependencies).run db = (db', .ok result)) :
    db'.transfers = db.transfers ∧ result.conversionId = lease.conversionId ∧
      ∃ digest, normalizeDigest report.outputAssetSha256 = .ok digest ∧
        Attached result.conversionId result.representationId ⟨report.outputAssetId, digest, report.outputRole⟩ db' := by
  obtain ⟨hnone, asset, digest, hasset, hdigest, hsha⟩ := acceptsCandidate_new hlease hrow haccepted
  simp only [submitCandidate, Method.bind_eq, Method.liftM_eq, Method.run_bind_eq_ok, Method.run_done_eq_ok,
    Method.run_transaction_eq_ok] at h
  obtain ⟨_, workerId, ⟨rfl, _⟩, created, representationId, hcreated, attached, _, hattached, started, _, hstarted, _, digest',
    ⟨rfl, hdigest'⟩, completed, operation, hcompleted, hwritten⟩ := h
  cases hdigest.symm.trans hdigest'
  obtain ⟨r, hr, rfl⟩ := onRepresentations_eq_ok hcreated
  obtain ⟨rfl, hrefs, policy, hrep⟩ := createCandidate_new hr hnone
  obtain ⟨r', hr', rfl⟩ := onRepresentations_eq_ok hattached
  obtain ⟨r'', hr'', heq⟩ := bind_eq_ok.mp hr'
  cases heq
  obtain ⟨hrefs', rep, hrep', hassetId, hmetadata⟩ := attachWorkerReceipt_keeps hr'' hrep
  obtain ⟨s, rfl⟩ := ensureOperationStarted_store hstarted
  obtain ⟨s', _, rfl⟩ := onStore_eq_ok hcompleted
  obtain ⟨asset', hasset', hsha'⟩ := hrefs _ _ hasset
  have hconversions : r'.conversions = db.conversions :=
    (attachWorkerReceipt_conversions hr'').1.trans (createCandidate_conversions hr).1
  simp only [writeCandidate, bind_eq_ok, orRaise_eq_ok] at hwritten
  obtain ⟨found, hfound, rep', hfoundRep, s'', hs'', hout⟩ := hwritten
  cases hout
  obtain ⟨_, rfl⟩ := Store.emit_eq_ok hs''
  refine ⟨rfl, rfl, digest, hdigest, ?_⟩
  have hold := scopedConversion_eq_ok hfound
  have hid := conversionId_of_get? hold
  let written : SpatialConversionRow := { found with
    candidateRepresentationId := some (candidateId ⟨draw.stamp .createCandidate, draw.newId .createCandidate⟩
      (workerCandidate lease report workerId privacy provenance dependencies)), state := .quarantined }
  refine ⟨written, rep, asset', ?_, rfl, hrep', hassetId, ?_, ?_, hsha'.trans hsha⟩
  · have hset := @Table.get?_set_self _ _ r'.conversions written found (by rw [← hid] at hold; exact hold)
    rw [← hid]
    exact hset
  · rw [hmetadata]
    show Dict.get (Dict.merge (report.metadata.getD []) [("output_role", .str report.outputRole),
      ("truth_label", ((report.metadata.getD []).get? "truth_label").getD (.str (truthLabel report.kind)))]) "output_role" = _
    rw [Dict.get, Dict.lookup_merge_of_mem _ (by simp) (List.mem_cons_self)]
    rfl
  · rw [hassetId, hrefs']
    exact hasset'

/-- What a new candidate of `complete_candidate` is. -/
theorem completeCandidate_attached (h : (completeCandidate svc draw token report).run db = (db', .ok result))
    (hnew : result.idempotentReplay = false) : db'.transfers = db.transfers ∧
      ∃ digest, normalizeDigest report.outputAssetSha256 = .ok digest ∧
        Attached result.conversionId result.representationId ⟨report.outputAssetId, digest, report.outputRole⟩ db' := by
  simp only [completeCandidate, verifyWorkerToken, Method.bind_eq, Method.liftM_eq, Method.run_bind_eq_ok,
    Method.run_done_eq_ok, Method.run_read_eq_ok] at h
  obtain ⟨_, lease, ⟨_, claims, ⟨rfl, _⟩, rfl, hlease⟩, _, _, ⟨rfl, _⟩, _, _, ⟨rfl, _⟩, _, _, ⟨rfl, _⟩, _, check,
    ⟨rfl, hcheck⟩, h⟩ := h
  obtain ⟨row, hrow, hof, _⟩ := durableLease_eq_ok hlease
  cases check with
  | replay prior =>
    obtain ⟨_, hresult⟩ := Method.run_done_eq_ok.mp h
    cases hresult
    rw [acceptsCandidate_replay hcheck] at hnew
    cases hnew
  | accepted privacy provenance dependencies =>
    obtain ⟨htransfers, _, hattached⟩ := submitCandidate_attached hof hrow hcheck h
    exact ⟨htransfers, hattached⟩

/-- The candidate that `complete_candidate` attaches to a conversion with a manual transfer is one of the returned outputs
exactly when the worker reports one. -/
theorem attached_output_returned_iff (h : (completeCandidate svc draw token report).run db = (db', .ok result))
    (hnew : result.idempotentReplay = false) :
    (Transferred result.conversionId db → ∀ output, Attached result.conversionId result.representationId output db' →
      Returned result.conversionId output db') ↔
      (Transferred result.conversionId db → ReportedReturned result.conversionId report db) := by
  obtain ⟨htransfers, digest, hdigest, hattached⟩ := completeCandidate_attached h hnew
  have hreturned : ∀ output, Returned result.conversionId output db' ↔ Returned result.conversionId output db := by
    intro output
    unfold Returned
    rw [htransfers]
  apply imp_congr_right
  intro _
  constructor
  · intro hall
    exact ⟨digest, hdigest, (hreturned _).mp (hall _ hattached)⟩
  · intro hreported output houtput
    obtain ⟨digest', hdigest', hlisted⟩ := hreported
    cases hdigest.symm.trans hdigest'
    rw [attached_unique houtput hattached]
    exact (hreturned _).mpr hlisted

end Complete

section Sample

def oneDigest : String := "1111111111111111111111111111111111111111111111111111111111111111"

/-- A provider that works by hand outside and is approved. -/
def approvedStudio : ProviderManifestRow := { studio with approvalState := "approved" }

def draftRequest : ConversionRequest where
  tenantId := "t1"
  projectId := "p1"
  sceneId := "s1"
  sceneRevisionId := "c1"
  purpose := "inspection"
  intendedUses := ["walk"]
  outputRoles := ["visual_mesh"]
  sourceAssets := [⟨"draft", "draft", zeroDigest, "world", none⟩]
  policyContext := [("allow_external_transfer", .bool true)]
  providerSelector := []
  requestedBy := "ana"
  idempotencyKey := "k1"

def draftSnapshot : SourceSnapshot :=
  ⟨"draft", zeroDigest, "draft", "world", none, "internal", "generated", "derived_non_authoritative", false, 1⟩

def draftCleared : Cleared where
  sources := ⟨[draftSnapshot], [], "internal", [], 1⟩
  selected := ⟨approvedStudio, { mesherPromotion with providerId := "studio" }, []⟩
  executionZone := "manual"
  region := "eu"
  deploymentMode := "manual_external"
  external := true
  consentReceipts := []
  modelReceipts := []

def draftAdmitted : Admitted :=
  admittedOf sampleControl plainDraw draftRequest "ana" 900 draftCleared meshEstimate "op1" .null

def studioWorker : String := "sip-provider:studio:v1"

def draftOperation : OperationRow := { OperationService.newRow 0 "op1"
    (operationRequest draftRequest draftCleared.sources "ana" 3 none) none with
  state := .running
  attempt := 1
  leaseOwner := some studioWorker
  leaseExpiresAt := some (seconds 60) }

def draftRow : SpatialConversionRow :=
  { admittedRow draftAdmitted with state := .returnedPendingValidation, candidateRepresentationId := none }

/-- The transfer has come back with one output, the asset `handmade`. -/
def handmadeTransfer : ManualProviderTransferRow :=
  { transferRow draftRow "m1" "code" "ana" "t1" "p1" [⟨"draft", zeroDigest, "draft"⟩] with
    returnedOutputsJson := [⟨"handmade", zeroDigest, "visual_mesh"⟩]
    state := "returned_pending_validation"
    returnedBy := some "ana"
    returnedAt := some 0 }

/-- The conversion whose transfer has come back; the asset `other` is not among its outputs. -/
def returnedDb : HybridDb := { HybridDb.empty with
  toStore := { Store.empty with operations := ⟨[draftOperation], List.nodup_singleton _⟩ }
  commits := .single plantCommit
  refs := ⟨[draftAsset, { draftAsset with assetId := "handmade" }, { draftAsset with assetId := "other", sha256 := oneDigest }],
    by decide⟩
  frames := .single ⟨"world", "t1", "p1", none⟩
  objects := ⟨[⟨oneDigest, 1, "model/gltf-binary", oneDigest, ⟨"", "", "", "", "", ""⟩, 0⟩], List.nodup_singleton _⟩
  providers := ⟨[approvedStudio], List.nodup_singleton _⟩
  conversions := ⟨[draftRow], List.nodup_singleton _⟩
  transfers := ⟨[handmadeTransfer], List.nodup_singleton _⟩ }

def otherReport : CandidateReport where
  outputAssetId := "other"
  outputAssetSha256 := oneDigest
  outputRole := "visual_mesh"
  kind := .visual
  coordinateFrameId := "world"
  sourceClass := .generated
  authorityClass := .derivedNonAuthoritative
  lossy := false
  intendedUses := ["walk"]
  prohibitedUses := []
  quality := []
  supportMap := []
  workerReceiptHash := zeroDigest
  candidateCoreHash := zeroDigest

/-- The two audit events of the call are one instant apart. -/
def otherDraw : HybridDraw where
  now stage := if stage = .createCandidate then 0 else 1
  auditId stage := if stage = .createCandidate then "a1" else "a2"
  newId _ := "rep1"

theorem requireDigest_of {value : String} (h : isDigest (String.ofList (bareDigest value)) = true) (name : String) :
    requireDigest value name = .ok () := by
  rw [requireDigest, raiseIf_eq_ok, h]
  decide

theorem requireDigest_zero (name : String) : requireDigest zeroDigest name = .ok () := requireDigest_of (by decide) name

theorem requireDigest_one (name : String) : requireDigest oneDigest name = .ok () := requireDigest_of (by decide) name

theorem normalizeDigest_one : normalizeDigest oneDigest = .ok oneDigest := by
  have hbare : String.ofList (bareDigest oneDigest) = oneDigest := by decide
  rw [normalizeDigest, hbare, requireDigest_one]
  rfl

def draftLease : WorkerCredential := leaseOf draftRow
  (issuedClaims sampleControl plainDraw draftRequest "ana" 900 draftCleared meshEstimate "op1" .null)

theorem verified_draft : (verifyWorkerToken sampleControl otherDraw draftAdmitted.workerToken).run returnedDb =
    (returnedDb, .ok draftLease) :=
  verifyWorkerToken_issued (by decide) ((Table.get?_eq_some_iff _ _ _).mpr ⟨List.mem_singleton_self _, rfl⟩)
    ⟨.returnedPendingValidation, none, rfl⟩ (by decide)

theorem workload_draft : draftLease.workload = .ok studioWorker := by
  rw [WorkerCredential.workload, draftLease, leaseOf, get?_issuedClaims _ _ _ _ _ _ _ _ _ (by decide) rfl]
  simp [Json.text?, draftCleared, approvedStudio, studio, plainDraw, orRaise, studioWorker]

theorem maximumOutputBytes_draft : maximumOutputBytes sampleControl.py draftLease = .ok 4 := by
  have hscope : draftLease.claims.get "output_staging_scope" = .obj (issuedScope plainDraw draftRequest meshEstimate).sorted := by
    rw [Dict.get, ← Dict.get?, draftLease, leaseOf, get?_scope_issuedClaims, Option.getD_some]
  have htruthy : (Json.obj (issuedScope plainDraw draftRequest meshEstimate).sorted).truthy = true := by
    have hlookup := lookup_issuedScope plainDraw draftRequest meshEstimate "mode"
    cases hsorted : (issuedScope plainDraw draftRequest meshEstimate).sorted with
    | nil =>
      rw [hsorted] at hlookup
      cases hlookup
    | cons field rest => rfl
  have hbytes : intAt sampleControl.py (issuedScope plainDraw draftRequest meshEstimate).sorted "maximum_bytes" 0 = .ok 4 := by
    have hfound : (issuedScope plainDraw draftRequest meshEstimate).lookup "maximum_bytes" = some (.int 4) := rfl
    rw [intAt, Dict.get?, lookup_issuedScope, hfound, Option.map_some, Json.normalize]
    rfl
  simp only [maximumOutputBytes, hscope, htruthy, if_true, Json.fields?, orRaise, bind_eq_ok]
  exact ⟨_, rfl, hbytes⟩

def otherPrivacy : Dict := [
  ("allowed_audiences", .texts ["project"]), ("allowed_purposes", .texts ["inspection"]), ("consent_grant_ids", .arr []),
  ("required_scopes", .arr []), ("purpose", .str "inspection"),
  ("policy_snapshot_hash", .str (canonicalSha256 (.obj draftRequest.policyContext)))]

theorem acceptsCandidate_other : acceptsCandidate sampleControl draftLease otherReport returnedDb =
    .ok (.accepted otherPrivacy (candidateProvenance draftRow otherReport) ["draft"]) := by
  have hscoped : scopedConversion returnedDb draftLease.conversionId draftLease.tenantId draftLease.projectId = .ok draftRow :=
    rfl
  have houtput : checkOutput sampleControl draftRow draftLease otherReport returnedDb = .ok () := by
    simp only [checkOutput, maximumOutputBytes_draft, bind_eq_ok, orRaise_eq_ok, raiseIf_eq_ok]
    exact ⟨_, rfl, (), by decide, oneDigest, normalizeDigest_one, (), not_not.mpr rfl, _, rfl, 4, rfl, (), by decide, _, rfl,
      by decide⟩
  have hprivacy : candidatePrivacy draftRow = .ok otherPrivacy := rfl
  have hnone : returnedDb.representations.rows.find? (fun rep => rep.operationId = some draftRow.operationId) = none := rfl
  have hnew : newCandidate sampleControl draftRow draftLease otherReport returnedDb =
      .ok (.accepted otherPrivacy (candidateProvenance draftRow otherReport) ["draft"]) := by
    simp only [newCandidate, houtput, hnone, hprivacy, bind_eq_ok, orRaise_eq_ok, raiseIf_eq_ok]
    exact ⟨(), by decide, (), rfl, (), by decide, (), trivial, approvedStudio, rfl, (), by decide, _, rfl, rfl⟩
  refine bind_eq_ok.mpr ⟨draftRow, hscoped, ?_⟩
  rw [if_pos (by decide)]
  exact hnew

def otherRequest : CandidateRequest :=
  workerCandidate draftLease otherReport studioWorker otherPrivacy (candidateProvenance draftRow otherReport) ["draft"]

def otherStamp : RepresentationStamp := ⟨otherDraw.stamp .createCandidate, "rep1"⟩

theorem policy_other : ∃ policy, RepresentationService.effectivePrivacyInheritance sampleControl.py.toPyText
    returnedDb.toRepresentationDb ⟨"t1", "p1", "other", otherRequest.provenance, otherPrivacy⟩ =
      .ok (policy, returnedDb.refs) := by
  have hids : RepresentationService.sourceIds otherRequest.provenance otherPrivacy = .ok ["draft"] := rfl
  have hretention : RepresentationService.retentionClasses sampleControl.py.toPyText [draftAsset] [] otherPrivacy =
      .ok ["standard"] := rfl
  have haudiences : RepresentationService.allowedAudiences sampleControl.py.toPyText [[], otherPrivacy] = .ok ["project"] := rfl
  have hunions : RepresentationService.inheritedUnions sampleControl.py.toPyText [[], otherPrivacy] =
      .ok (RepresentationService.unionKeys.map fun key => (key, .texts [])) := rfl
  have hhold : RepresentationService.holdOutput returnedDb.toRepresentationDb "t1" "p1" "other" "internal" false =
      .ok ([], returnedDb.refs) := rfl
  exact ⟨_, bind_eq_ok.mpr ⟨_, hids, bind_eq_ok.mpr ⟨_, hretention, bind_eq_ok.mpr ⟨_, haudiences, bind_eq_ok.mpr
    ⟨_, hunions, bind_eq_ok.mpr ⟨_, hhold, rfl⟩⟩⟩⟩⟩⟩

def createdHash : String := "555d260aa61a5d3848db5a0bd5186127335456c7bedf3be538dc67c526819663"

def receiptHash : String := "a8ffc6c4e80f6f5d8491bcd17801b384701cd75794449a569347bddac1d3fc11"

/-- The audit entry of the candidate. -/
def otherAudit : AuditRequest where
  tenantId := "t1"
  projectId := some "p1"
  actorId := studioWorker
  action := "representation:candidate_create"
  resourceType := "representation"
  resourceId := "rep1"
  outcome := "allowed"
  details := some [("kind", .str "visual"), ("provider_id", .str "studio"), ("state", .str "quarantined")]

set_option maxRecDepth 10000 in
theorem createdHash_eq : canonicalSha256 ((AuditService.zeroKey.entry .empty 0 "a1" otherAudit).body genesisHash) =
    createdHash := by
  apply canonicalSha256_of_hashesTo
  decide +kernel

/-- The audit entry of the receipt. -/
def receiptEntry : AuditRequest where
  tenantId := "t1"
  projectId := some "p1"
  actorId := studioWorker
  action := "representation:worker_receipt_attach"
  resourceType := "representation"
  resourceId := "rep1"
  outcome := "allowed"
  details := some [("operation_id", .str "op1"), ("worker_receipt_hash", .str zeroDigest), ("candidate_core_hash", .str zeroDigest)]

set_option maxRecDepth 10000 in
theorem receiptHash_eq : canonicalSha256 ((AuditService.zeroKey.entry .empty 1 "a2" receiptEntry).body createdHash) =
    receiptHash := by
  apply canonicalSha256_of_hashesTo
  decide +kernel

theorem createCandidate_other : ∃ policy outbox log,
    createCandidate .zeroKey sampleControl.py.toPyText returnedDb.toRepresentationDb otherStamp otherRequest =
      .ok ("rep1", { returnedDb.toRepresentationDb with
        toStore := { returnedDb.toStore with outbox := outbox, audit := log }
        representations := ⟨[candidateRow otherStamp otherRequest policy], List.nodup_singleton _⟩ }) ∧
      Succession "t1" 1 ["a1"] [createdHash] log := by
  obtain ⟨policy, hpolicy⟩ := policy_other
  let row := candidateRow otherStamp otherRequest policy
  have hpayload : validatePayload (RepresentationService.candidatePayload row) = .ok () :=
    RepresentationService.validatePayload_candidate (by decide : "rep1".toList.length ≤ 64)
      (fun id h => by cases h; decide) (by decide : "other".toList.length ≤ 64) (by decide : "studio".toList.length ≤ 64) rfl
  obtain ⟨event, hevent⟩ := returnedDb.toStore.emit_total otherStamp.toStamp
    (r := RepresentationService.candidateEvent row studioWorker) rfl rfl rfl hpayload
  obtain ⟨log, hlog, hnext⟩ := @Store.record_next .zeroKey { returnedDb.toStore with outbox := [event] } "t1" 0 [] []
    createdHash otherStamp.toStamp otherAudit (Succession.start "t1" 0) (le_refl 0) rfl List.not_mem_nil createdHash_eq
    List.not_mem_nil
  have hinsert : RepresentationService.insertCandidate .zeroKey returnedDb.toRepresentationDb otherStamp row studioWorker =
      .ok { returnedDb.toRepresentationDb with
        toStore := { returnedDb.toStore with outbox := [event], audit := log }
        representations := ⟨[row], List.nodup_singleton _⟩ } := by
    simp only [RepresentationService.insertCandidate, bind_eq_ok, orRaise_eq_ok]
    exact ⟨_, rfl, _, hevent, _, hlog, rfl⟩
  refine ⟨policy, [event], log, ?_, hnext⟩
  have hcheck : RepresentationService.checkCandidate sampleControl.py.toPyText otherStamp otherRequest = .ok () := by
    simp only [RepresentationService.checkCandidate, bind_eq_ok, raiseIf_eq_ok]
    exact ⟨(), rfl, (), by decide, (), (Option.some_ne_none _).symm, (), by decide, (), by decide, by decide⟩
  simp only [createCandidate, bind_eq_ok]
  exact ⟨(), hcheck, (), rfl, ⟨policy, returnedDb.refs⟩, hpolicy, (), rfl, (), rfl, bind_eq_ok.mpr ⟨_, hinsert, rfl⟩⟩

/-- The database while the candidate is being submitted. -/
def submitting (policy provenance : Dict) (s : Store) : HybridDb := { returnedDb with
  toStore := s
  representations := ⟨[{ candidateRow otherStamp otherRequest policy with provenanceJson := provenance }],
    List.nodup_singleton _⟩ }

theorem attachReceipt_other (policy : Dict) {outbox : List OutboxEventRow} {log : AuditLog}
    (hlog : Succession "t1" 1 ["a1"] [createdHash] log) : ∃ provenance log',
    attachWorkerReceipt .zeroKey (submitting policy otherRequest.provenance
        { returnedDb.toStore with outbox := outbox, audit := log }).toRepresentationDb (otherDraw.stamp .attachReceipt)
      (workerReceipt draftLease otherReport studioWorker) =
      .ok (submitting policy provenance { returnedDb.toStore with outbox := outbox, audit := log' }).toRepresentationDb := by
  let row := candidateRow otherStamp otherRequest policy
  obtain ⟨provenance, hprovenance⟩ : ∃ provenance, RepresentationService.withReceipt row.provenanceJson zeroDigest zeroDigest =
      .ok provenance := ⟨_, rfl⟩
  obtain ⟨log', hlog', _⟩ := @Store.record_next .zeroKey { returnedDb.toStore with outbox := outbox, audit := log } "t1" 1
    ["a1"] [createdHash] receiptHash ⟨1, "a2"⟩ receiptEntry hlog (le_refl 1) rfl (by decide) receiptHash_eq
    (by decide)
  refine ⟨provenance, log', ?_⟩
  simp only [attachWorkerReceipt, bind_eq_ok, orRaise_eq_ok, raiseIf_eq_ok]
  exact ⟨row, rfl, (), not_not.mpr rfl, provenance, hprovenance, _, hlog', rfl⟩

def otherOutput : Dict := candidateOutput draftLease otherReport "rep1" oneDigest

theorem complete_other (s : Store) (hoperation : s.operation? "op1" = some draftOperation) : ∃ s' row,
    OperationService.complete s 1 "op1" studioWorker otherOutput = .ok (s', row) := by
  have hlease : OperationService.ownedLease s 1 "op1" studioWorker = .ok draftOperation :=
    ownedLease_eq_ok.mpr ⟨hoperation, by decide⟩
  have hevent : getEvent "operation.succeeded" "1.0.0" =
      .ok ⟨"operation.succeeded", "1.0.0", "operation", "workflow-service"⟩ := rfl
  have hpayload : validatePayload [("output_hash", .str (canonicalSha256 (.obj otherOutput)))] = .ok () := by
    have hkeys : ([("output_hash", .str (canonicalSha256 (.obj otherOutput)))] : Dict).map Prod.fst = ["output_hash"] := rfl
    apply validatePayload_brief hkeys rfl (by decide)
    intro p hp
    rw [List.mem_singleton.mp hp]
    exact brief_sha256 _
  let row : OperationRow := { draftOperation.released with
    outputJson := otherOutput, outputHash := some (canonicalSha256 (.obj otherOutput)), progress := .one,
    state := .succeeded, updatedAt := 1 }
  obtain ⟨s', hs'⟩ : ∃ s', OperationService.outbox (s.saveOperation row) 1 row "operation.succeeded"
      [("output_hash", .str (canonicalSha256 (.obj otherOutput)))] none (some studioWorker) = .ok s' :=
    (exists_outbox_iff hevent rfl rfl).mpr hpayload
  simp only [OperationService.complete, bind_eq_ok, hlease, raiseIf_eq_ok]
  exact ⟨s', row, (), by decide, draftOperation, rfl, (), by decide, s', hs', rfl⟩

theorem write_other (policy provenance : Dict) (s : Store) : ∃ db',
    writeCandidate (otherDraw.stamp .write) studioWorker draftLease otherReport "rep1" oneDigest
      (submitting policy provenance s) = .ok (⟨"v1", "rep1", "quarantined", false⟩, db') := by
  let row := { candidateRow otherStamp otherRequest policy with provenanceJson := provenance }
  have hpayload : validatePayload (quarantinedPayload "v1" otherReport "rep1" oneDigest row.manifestHash) = .ok () := by
    have hkeys : (quarantinedPayload "v1" otherReport "rep1" oneDigest row.manifestHash).map Prod.fst = ["conversion_id",
      "representation_id", "asset_id", "asset_sha256", "manifest_hash", "output_role", "state"] := rfl
    apply validatePayload_brief hkeys rfl (by decide)
    intro p hp
    simp only [quarantinedPayload, List.mem_cons, List.not_mem_nil, or_false] at hp
    rcases hp with rfl | rfl | rfl | rfl | rfl | rfl | rfl
    · exact brief_str (by decide)
    · exact brief_str (by decide)
    · exact brief_str (by decide)
    · exact brief_str (by decide)
    · exact brief_sha256 _
    · exact brief_str (by decide)
    · exact brief_str (by decide)
  obtain ⟨event, hevent⟩ := s.emit_total (otherDraw.stamp .write) (r := hybridEvent "representation.output.quarantined"
    "representation" "rep1" "t1" "p1" (quarantinedPayload "v1" otherReport "rep1" oneDigest row.manifestHash) none
    (some studioWorker)) rfl rfl rfl hpayload
  simp only [writeCandidate, bind_eq_ok, orRaise_eq_ok]
  exact ⟨_, draftRow, rfl, row, rfl, _, hevent, rfl⟩

/-- The worker completes the conversion with the asset that nobody has returned. -/
theorem completeCandidate_other : ∃ db', (completeCandidate sampleControl otherDraw draftAdmitted.workerToken otherReport).run
    returnedDb = (db', .ok ⟨"v1", "rep1", "quarantined", false⟩) := by
  obtain ⟨policy, outbox, log, hcreated, hlog⟩ := createCandidate_other
  obtain ⟨provenance, log', hattached⟩ := @attachReceipt_other policy outbox log hlog
  obtain ⟨s, operation, hcomplete⟩ := complete_other { returnedDb.toStore with outbox := outbox, audit := log' } rfl
  obtain ⟨db', hwrite⟩ := write_other policy provenance s
  refine ⟨db', ?_⟩
  have hstarted : (ensureOperationStarted otherDraw draftLease sampleControl.py).run (submitting policy provenance
      { returnedDb.toStore with outbox := outbox, audit := log' }) = (submitting policy provenance
      { returnedDb.toStore with outbox := outbox, audit := log' }, .ok ()) := by
    simp only [ensureOperationStarted, Method.bind_eq, Method.liftM_eq, Method.run_bind_eq_ok, Method.run_read_eq_ok,
      Method.run_done_eq_ok]
    exact ⟨_, draftOperation, ⟨rfl, rfl⟩, _, studioWorker, ⟨rfl, workload_draft⟩, rfl⟩
  have hsubmit : (submitCandidate sampleControl otherDraw draftLease otherReport otherPrivacy
      (candidateProvenance draftRow otherReport) ["draft"]).run returnedDb = (db', .ok ⟨"v1", "rep1", "quarantined", false⟩) := by
    simp only [submitCandidate, Method.bind_eq, Method.liftM_eq, Method.run_bind_eq_ok, Method.run_done_eq_ok,
      Method.run_transaction_eq_ok]
    refine ⟨_, studioWorker, ⟨rfl, workload_draft⟩, submitting policy otherRequest.provenance
      { returnedDb.toStore with outbox := outbox, audit := log }, "rep1", ?_, submitting policy provenance
      { returnedDb.toStore with outbox := outbox, audit := log' }, (), ?_, _, (), hstarted, _, oneDigest,
      ⟨rfl, normalizeDigest_one⟩,
      submitting policy provenance s, operation, ?_, hwrite⟩
    · exact bind_eq_ok.mpr ⟨_, hcreated, rfl⟩
    · exact bind_eq_ok.mpr ⟨_, bind_eq_ok.mpr ⟨_, hattached, rfl⟩, rfl⟩
    · exact bind_eq_ok.mpr ⟨_, hcomplete, rfl⟩
  simp only [completeCandidate, Method.bind_eq, Method.liftM_eq, Method.run_bind_eq_ok, Method.run_done_eq_ok,
    Method.run_read_eq_ok]
  exact ⟨_, draftLease, verified_draft, _, (), ⟨rfl, requireDigest_one _⟩, _, (), ⟨rfl, requireDigest_zero _⟩, _, (),
    ⟨rfl, requireDigest_zero _⟩, _, _, ⟨rfl, acceptsCandidate_other⟩, hsubmit⟩

/-- An asset that is not among the returned outputs becomes the candidate. -/
theorem unreturned_asset_attached : ∃ db', (completeCandidate sampleControl otherDraw draftAdmitted.workerToken
      otherReport).run returnedDb = (db', .ok ⟨"v1", "rep1", "quarantined", false⟩) ∧ Transferred "v1" returnedDb ∧
    ∃ output, Attached "v1" "rep1" output db' ∧ ¬ Returned "v1" output db' := by
  obtain ⟨db', hrun⟩ := completeCandidate_other
  obtain ⟨htransfers, digest, _, hattached⟩ := completeCandidate_attached hrun rfl
  refine ⟨db', hrun, ⟨handmadeTransfer, List.mem_singleton_self _, rfl⟩, _, hattached, ?_⟩
  intro hreturned
  obtain ⟨transfer, htransfer, _, _, houtput⟩ := hreturned
  rw [htransfers] at htransfer
  rw [List.mem_singleton.mp htransfer] at houtput
  have hsame : "other" = "handmade" := congrArg TransferredAsset.assetId (List.mem_singleton.mp houtput)
  exact absurd hsame (by decide)

theorem other_returned_iff : ∃ db', (Transferred "v1" returnedDb → ∀ output, Attached "v1" "rep1" output db' →
    Returned "v1" output db') ↔ (Transferred "v1" returnedDb → ReportedReturned "v1" otherReport returnedDb) := by
  obtain ⟨db', hrun⟩ := completeCandidate_other
  exact ⟨db', attached_output_returned_iff hrun rfl⟩

end Sample

end HybridControl

end Sip
