import Sip.Hybrid.Admission
import Sip.Lifecycle.QuotaConcurrency
import Sip.Representation.Publication
import Sip.Spatial.MeasurementTruth

/-!
# Consent for biometric data and data of minors

The consent rule looks at the effective classification, which is one of the highest
ranked classifications of the inputs: the first one. Three classifications share the
highest rank and only two of them ask for consent, so an input of the third kind that
comes earlier hides the others.
-/

namespace Sip

set_option autoImplicit false

namespace HybridControl

/-- The classifications that ask for consent. -/
def consentClasses : List String := ["biometric", "minor"]

/-- The project, an input asset or a declared signal is biometric or about minors. -/
def SensitiveInput (db : HybridDb) (req : ConversionRequest) : Prop :=
  (∃ project, db.projects.get? req.projectId = some project ∧ project.classification ∈ consentClasses) ∨
  (∃ item ∈ req.sourceAssets ++ req.referenceAssets, ∃ asset, db.refs.get? item.assetId = some asset ∧
    asset.classification ∈ consentClasses) ∨
  ∃ signals, sensitivitySignals req.policyContext = .ok signals ∧ ∃ signal ∈ signals, floorOf signal ∈ consentClasses

/-- The grants that a request names. -/
def listedGrants (py : PyText) (req : ConversionRequest) : Except Raised (List String) :=
  stringList py ((req.policyContext.get? "consent_grant_ids").getD (.arr [])) "consent_grant_ids"

/-- A grant that the request names is active for it. -/
def ActiveConsent (py : PyText) (db : HybridDb) (now : Nat) (req : ConversionRequest) : Prop :=
  ∃ listed, listedGrants py req = .ok listed ∧ ∃ grantId ∈ listed, ∃ grant, db.grants.get? grantId = some grant ∧
    grant.tenantId = req.tenantId ∧ grant.projectId = req.projectId ∧ grant.state = "active" ∧ grant.revokedAt = none ∧
    ¬ grant.expiresAt.any (· ≤ now)

/-- The classifications of the inputs, in the order in which they are folded. -/
def InputClassifications (db : HybridDb) (req : ConversionRequest) (classes : List String) : Prop :=
  ∃ project sources references signals, requestInputs db req = .ok (project, sources, references) ∧
    sensitivitySignals req.policyContext = .ok signals ∧ classes = classificationsOf project (sources ++ references) signals

/-- Critical infrastructure comes before every input that asks for consent, and the request neither names a grant nor
asks for consent itself. -/
def ConsentMasked (py : PyText) (db : HybridDb) (req : ConversionRequest) : Prop :=
  ∃ classes, InputClassifications db req classes ∧ (∃ c ∈ classes, c ∈ consentClasses) ∧
    classes.find? (· ∈ hardExternalDeny) = some "critical_infrastructure" ∧
    listedGrants py req = .ok [] ∧ (req.policyContext.get "consent_required").truthy = false

section Effective

/-- The element that `max` returns is the first with its key. -/
theorem find?_of_argmax {α β : Type} [LinearOrder β] {f : α → β} {l : List α} {m : α} (h : l.argmax f = some m) :
    l.find? (fun a => f a = f m) = some m := by
  induction l with
  | nil => cases h
  | cons a l ih =>
    rw [List.argmax_cons] at h
    cases hl : l.argmax f with
    | none =>
      rw [hl] at h
      cases h
      simp
    | some c =>
      rw [hl] at h
      by_cases hac : f a < f c
      · simp only [if_pos hac, Option.some.injEq] at h
        subst h
        rw [List.find?_cons_of_neg (by simpa using hac.ne)]
        exact ih hl
      · simp only [if_neg hac, Option.some.injEq] at h
        subst h
        simp

theorem classificationRank_eq_iff (value : String) : classificationRank value = 4 ↔ value ∈ hardExternalDeny := by
  by_cases hknown : value ∈ ["public", "internal", "confidential", "restricted", "critical_infrastructure", "biometric", "minor"]
  · simp only [List.mem_cons, List.not_mem_nil, or_false] at hknown
    rcases hknown with rfl | rfl | rfl | rfl | rfl | rfl | rfl <;> decide
  · have hrank : classificationRank value = 999 := by
      have hnone : List.lookup value [("public", 0), ("internal", 1), ("confidential", 2), ("restricted", 3),
          ("critical_infrastructure", 4), ("biometric", 4), ("minor", 4)] = none := by
        rw [List.lookup_eq_none_iff]
        simpa using hknown
      rw [classificationRank, hnone]
      rfl
    have hdeny : value ∉ hardExternalDeny := by
      intro h
      exact hknown (by simp [hardExternalDeny] at h ⊢; tauto)
    simp [hrank, hdeny]

theorem classificationRank_of_known {value : String} (h : Classification.ofValue? value ≠ none) :
    classificationRank value ≤ 4 := by
  obtain ⟨c, hc⟩ := Option.ne_none_iff_exists'.mp h
  have hvalue : c.value = value := by simpa using List.find?_some hc
  rw [← hvalue]
  cases c <;> decide

/-- With an input of the highest rank, the effective classification is the first of these. -/
theorem effectiveOf_eq_first {classes : List String} {value : Classification}
    (hknown : classificationOf (effectiveOf classes) = .ok value) (hdeny : ∃ c ∈ classes, c ∈ hardExternalDeny) :
    classes.find? (· ∈ hardExternalDeny) = some (effectiveOf classes) := by
  obtain ⟨c, hc, hcdeny⟩ := hdeny
  have hne : classes.argmax classificationRank ≠ none := by
    rw [Ne, List.argmax_eq_none]
    exact List.ne_nil_of_mem hc
  obtain ⟨top, htop⟩ := Option.ne_none_iff_exists'.mp hne
  have heff : effectiveOf classes = top := by rw [effectiveOf, htop, Option.getD_some]
  have hrank : classificationRank top = 4 := by
    have hof : Classification.ofValue? top = some value := by simpa [heff, classificationOf, orRaise_eq_ok] using hknown
    have hle := classificationRank_of_known (by rw [hof]; simp : Classification.ofValue? top ≠ none)
    have hge := List.le_of_mem_argmax hc htop
    rw [(classificationRank_eq_iff c).mpr hcdeny] at hge
    omega
  have hfirst := find?_of_argmax htop
  rw [heff, ← hfirst]
  congr 1
  funext a
  rw [hrank, decide_eq_decide]
  exact (classificationRank_eq_iff a).symm

end Effective

section Inputs
variable {db : HybridDb} {req : ConversionRequest}

theorem sourceSnapshot_eq_ok {item : ConversionAsset} {snapshot : SourceSnapshot}
    (h : sourceSnapshot db req item = .ok snapshot) :
    ∃ asset, db.refs.get? item.assetId = some asset ∧ snapshot.classification = asset.classification := by
  simp only [sourceSnapshot, bind_eq_ok, orRaise_eq_ok] at h
  obtain ⟨asset, hasset, _, _, _, _, _, _, _, _, _, _, _, _, hsnapshot⟩ := h
  cases hsnapshot
  exact ⟨asset, hasset, rfl⟩

/-- The snapshots carry the classifications of their assets. -/
theorem snapshots_eq_ok {items : List ConversionAsset} {seen : List String} {out : List SourceSnapshot}
    (h : snapshots db req seen items = .ok out) :
    List.Forall₂ (fun item (snapshot : SourceSnapshot) =>
      ∃ asset, db.refs.get? item.assetId = some asset ∧ snapshot.classification = asset.classification) items out := by
  induction items generalizing seen out with
  | nil =>
    cases h
    exact .nil
  | cons item items ih =>
    simp only [snapshots, bind_eq_ok] at h
    obtain ⟨_, _, snapshot, hsnapshot, rest, hrest, hout⟩ := h
    cases hout
    exact .cons (sourceSnapshot_eq_ok hsnapshot) (ih hrest)

theorem requestInputs_eq_ok {project : ProjectRow} {sources references : List SourceSnapshot}
    (h : requestInputs db req = .ok (project, sources, references)) : db.projects.get? req.projectId = some project ∧
    List.Forall₂ (fun item (snapshot : SourceSnapshot) =>
      ∃ asset, db.refs.get? item.assetId = some asset ∧ snapshot.classification = asset.classification)
      (req.sourceAssets ++ req.referenceAssets) (sources ++ references) := by
  simp only [requestInputs, bind_eq_ok, orRaise_eq_ok] at h
  obtain ⟨_, hproject, _, _, _, _, _, _, _, hsources, _, hreferences, hout⟩ := h
  cases hout
  exact ⟨hproject, List.rel_append (snapshots_eq_ok hsources) (snapshots_eq_ok hreferences)⟩

theorem exists_sensitive_snapshot {items : List ConversionAsset} {out : List SourceSnapshot}
    (h : List.Forall₂ (fun item (snapshot : SourceSnapshot) =>
      ∃ asset, db.refs.get? item.assetId = some asset ∧ snapshot.classification = asset.classification) items out) :
    (∃ c ∈ out.map SourceSnapshot.classification, c ∈ consentClasses) ↔
      ∃ item ∈ items, ∃ asset, db.refs.get? item.assetId = some asset ∧ asset.classification ∈ consentClasses := by
  induction h with
  | nil => simp
  | @cons item snapshot items out hhead _ ih =>
    obtain ⟨asset, hasset, hclass⟩ := hhead
    simp only [List.map_cons, List.exists_mem_cons_iff, ih, hclass, hasset, Option.some.injEq, exists_eq_left']

/-- The list that is folded holds a class that asks for consent exactly when some input has one. -/
theorem sensitiveInput_iff {classes : List String} (h : InputClassifications db req classes) :
    (∃ c ∈ classes, c ∈ consentClasses) ↔ SensitiveInput db req := by
  obtain ⟨project, sources, references, signals, hinputs, hsignals, rfl⟩ := h
  obtain ⟨hproject, hassets⟩ := requestInputs_eq_ok hinputs
  have hinput := exists_sensitive_snapshot hassets
  have hsignal : (∃ c ∈ signals.map floorOf, c ∈ consentClasses) ↔ ∃ signal ∈ signals, floorOf signal ∈ consentClasses := by
    simp
  have happend : ∀ as bs : List String, (∃ c ∈ as ++ bs, c ∈ consentClasses) ↔
      (∃ c ∈ as, c ∈ consentClasses) ∨ ∃ c ∈ bs, c ∈ consentClasses := by
    intro as bs
    simp only [List.mem_append, or_and_right, exists_or]
  simp only [classificationsOf, List.cons_append, List.exists_mem_cons_iff, happend, hinput, hsignal, SensitiveInput,
    hproject, hsignals, Option.some.injEq, Except.ok.injEq, exists_eq_left']

end Inputs

section Grants
variable {py : PyText} {db : HybridDb} {now : Nat}

/-- The grants that an accepted request names are all in force; without any, none was required. -/
theorem validateConsents_eq_ok {req : ConsentRequest} {receipts : List Json} (h : validateConsents py now req db = .ok receipts) :
    ∃ listed, stringList py ((req.policyContext.get? "consent_grant_ids").getD (.arr [])) "consent_grant_ids" = .ok listed ∧
      (listed = [] → ¬ consentRequired req) ∧
      ∀ grantId ∈ listed, ∃ grant, db.grants.get? grantId = some grant ∧ grantInForce now req grant := by
  simp only [validateConsents, bind_eq_ok, raiseIf_eq_ok] at h
  obtain ⟨listed, hlisted, scopes, _, _, hrequired, hgrants⟩ := h
  refine ⟨listed, hlisted, ?_, ?_⟩
  · rintro rfl hconsent
    exact hrequired ⟨hconsent, rfl⟩
  · intro grantId hgrantId
    obtain ⟨sameId, hmem, hsame⟩ := exists_key_mem_sortedSet id hgrantId
    obtain ⟨_, hcheck⟩ := mapM_eq_ok_mem hgrants hmem
    simp only [id] at hsame
    subst hsame
    simp only [checkGrant, bind_eq_ok, orRaise_eq_ok, raiseIf_eq_ok, not_not] at hcheck
    obtain ⟨grant, hgrant, _, hforce, _⟩ := hcheck
    exact ⟨grant, hgrant, hforce⟩

end Grants

section Consent
variable {svc : HybridControlService} {draw : HybridDraw} {db db' : HybridDb} {request req : ConversionRequest}
  {actorId : String} {traceparent : Option String} {ttlSeconds : Int} {result : ConversionResult}

theorem validateConversionSources_eq_ok {py : PyText} {sources : ValidatedSources}
    (h : validateConversionSources py req db = .ok sources) :
    ∃ classes, InputClassifications db req classes ∧ sources.effectiveClassification = effectiveOf classes := by
  simp only [validateConversionSources, bind_eq_ok] at h
  obtain ⟨⟨project, inputs, references⟩, hinputs, signals, hsignals, _, _, hsources⟩ := h
  cases hsources
  exact ⟨_, ⟨project, inputs, references, signals, hinputs, hsignals, rfl⟩, rfl⟩

/-- An admitted request with a sensitive input has an active consent, unless the consent rule was masked. -/
theorem admitted_consent_iff
    (h : (createConversion svc draw request actorId traceparent ttlSeconds).run db = (db', .ok result))
    (hnew : result.idempotentReplay = false) (hreq : checkRequest request actorId ttlSeconds = .ok req) :
    (SensitiveInput db req → ActiveConsent svc.py.toPyText db (draw.now .consents) req) ↔
      ¬ ConsentMasked svc.py.toPyText db req := by
  obtain ⟨req', cleared, hreq', hcleared⟩ := createConversion_cleared h hnew
  rw [hreq] at hreq'
  cases hreq'
  obtain ⟨classes, hclasses, heffective⟩ := validateConversionSources_eq_ok hcleared.sources
  obtain ⟨listed, hlisted, hnone, hforce⟩ := validateConsents_eq_ok hcleared.consents
  have hgrants : listedGrants svc.py.toPyText req = .ok listed := hlisted
  constructor
  · rintro hconsent ⟨classes', hclasses', hsensitive, _, hempty, _⟩
    obtain ⟨listed', hlisted', grantId, hgrantId, _⟩ := hconsent ((sensitiveInput_iff hclasses').mp hsensitive)
    rw [hempty] at hlisted'
    cases hlisted'
    cases hgrantId
  · intro hmask hsensitive
    have hmem := (sensitiveInput_iff hclasses).mpr hsensitive
    cases listed with
    | cons grantId rest =>
      obtain ⟨grant, hgrant, htenant, hproject, hstate, hrevoked, hexpiry⟩ := hforce grantId List.mem_cons_self
      exact ⟨_, hgrants, grantId, List.mem_cons_self, grant, hgrant, htenant, hproject, hstate, hrevoked, hexpiry⟩
    | nil =>
      -- the effective class is one of the highest ones but does not ask for consent
      obtain ⟨value, hvalue⟩ := hcleared.known
      rw [heffective] at hvalue
      have hdeny : ∃ c ∈ classes, c ∈ hardExternalDeny := by
        obtain ⟨c, hc, hcc⟩ := hmem
        exact ⟨c, hc, List.mem_cons_of_mem _ hcc⟩
      have hfirst := effectiveOf_eq_first hvalue hdeny
      have heff : effectiveOf classes ∈ hardExternalDeny := by simpa using List.find?_some hfirst
      have hnot := hnone rfl
      simp only [consentRequired, consentRequest, heffective, not_or, Bool.not_eq_true] at hnot
      have hcritical : effectiveOf classes = "critical_infrastructure" := by
        rcases List.mem_cons.mp heff with hcritical | hconsent
        · exact hcritical
        · exact absurd hconsent hnot.1
      exact absurd ⟨classes, hclasses, hmem, hcritical ▸ hfirst, hgrants, hnot.2⟩ hmask

end Consent

section Sample
open RepresentationService (zeroRegistry)

/-- The conversions of numbers that the sample needs. -/
def wholePython : PyNumbers := { SceneService.plainPython with
  float
    | .float x => .ok (.finite x)
    | _ => .error (.typeError "float() argument must be a string or a real number")
  int
    | .int n => .ok n
    | _ => .error (.typeError "int() argument must be a string or a real number")
  int_int := fun _ => rfl
  floatOfInt := fun n => if n = 1 then .ok .one else .error (.overflowError "int too large to convert to float")
  scaled := fun n x => .ok (n * x.value).floor
  ratio := fun x y => if x = y then .ok .one else .error (.valueError "division") }

def zeroCodec : SignedTokenCodec := { key := List.replicate 32 0, long := AuditService.zeroKey.long }

def sampleControl : HybridControlService where
  audit := .zeroKey
  operations := { audit := .zeroKey }
  providers := zeroRegistry
  py := wholePython
  admission := AdmissionController.wholeNumbers
  tokenCodec := zeroCodec
  authorizeModel := fun _ _ _ _ _ _ _ => .ok []
  profileIntegrityValid := fun _ => true

def zeroDigest : String := "0000000000000000000000000000000000000000000000000000000000000000"

def meshDescriptor : Dict := [
  ("provider_id", .str "mesher"), ("provider_version", .str "1"), ("capabilities", .arr []),
  ("output_rights", .str "owned"),
  ("data_governance", .obj [("source_data_use", .str "requested_operation_only"), ("processing_regions", .texts ["eu"]),
    ("training_use", .str "prohibited"), ("public_demonstration", .str "prohibited"),
    ("unrelated_retention", .str "prohibited")])]

def meshHash : String := ProviderRegistry.descriptorDigest meshDescriptor

def mesher : ProviderManifestRow where
  providerId := "mesher"
  version := "1"
  sourceRevision := "r1"
  approvalState := "approved"
  allowedClassificationsJson := ["critical_infrastructure"]
  allowedPurposesJson := ["inspection"]
  allowedRegionsJson := ["eu"]
  deploymentsJson := ["local_only"]
  inputRolesJson := ["scan"]
  outputRolesJson := ["mesh"]
  securityContractJson := [("supports_read_only_inputs", .bool true), ("supports_write_only_staging", .bool true)]
  dependencyInventoryJson := [[("name", .str "numpy")]]
  licenseEvidenceJson := ["code", "dependencies", "output"].map fun component =>
    [("component", .str component), ("review_state", .str "verified")]
  descriptorJson := meshDescriptor
  manifestHash := meshHash
  manifestSignature := some (zeroRegistry.signature meshHash)

def mesherRevision : ProviderManifestRevisionRow where
  manifestHash := meshHash
  providerId := "mesher"
  providerVersion := "1"
  descriptorJson := meshDescriptor
  manifestSignature := zeroRegistry.signature meshHash

def mesherPromotion : ProviderPromotionRow := zeroRegistry.signedPromotion {
  dataClassifications := ["critical_infrastructure"]
  sceneClasses := ["plant"]
  outputRoles := ["mesh"]
  intendedUses := ["walk"]
  executionZones := ["local"]
  hardwareProfiles := ["cpu"]
  promotionId := "promotion"
  providerId := "mesher"
  providerVersion := "1"
  providerManifestHash := meshHash
  state := .active
  benchmarkEvidenceHash := zeroDigest
  policySnapshotHash := zeroDigest
  validFrom := 0
  validUntil := none
  promotionHash := ""
  signedBy := "ana"
  signature := "" }

/-- A scan of people in a plant. -/
def scanAsset : AssetRefRow where
  assetId := "scan"
  tenantId := "t1"
  projectId := "p1"
  sha256 := zeroDigest
  originalName := "scan.e57"
  classification := "biometric"
  retentionClass := "standard"
  sourceClass := "direct_capture"
  authorityClass := "evidence"
  provenanceJson := []
  createdBy := "ana"

def scanObject : AssetRow := ⟨zeroDigest, 1, "model/e57", zeroDigest, ⟨"", "", "", "", "", ""⟩, 0⟩

def plantCommit : SceneCommitRow where
  commitId := "c1"
  tenantId := "t1"
  projectId := "p1"
  sceneId := "s1"
  branch := "main"
  parentIdsJson := []
  message := "m"
  semanticSnapshotJson := []
  snapshotHash := zeroDigest
  rootManifestHash := zeroDigest
  createdBy := "ana"
  recordedAt := 0

def meshRequest : ConversionRequest where
  tenantId := "t1"
  projectId := "p1"
  sceneId := "s1"
  sceneRevisionId := "c1"
  purpose := "inspection"
  intendedUses := ["walk"]
  outputRoles := ["mesh"]
  sourceAssets := [⟨"scan", "scan", zeroDigest, "world", none⟩]
  policyContext := [("scene_class", .str "plant"), ("execution_zone", .str "local"), ("hardware_profile", .str "cpu"),
    ("region", .str "eu")]
  providerSelector := [("required_capabilities", .arr [])]
  requestedBy := "ana"
  idempotencyKey := "k1"

def plantProject : ProjectRow := ⟨"p1", "t1", "critical_infrastructure", "active"⟩

def plant (s : Store) (quotas : Table QuotaPolicyRow (fun row => row.quotaId))
    (ledger : Table UsageLedgerRow (fun row => row.usageId))
    (conversions : Table SpatialConversionRow (fun row => row.conversionId)) : HybridDb := { HybridDb.empty with
  toStore := { s with projects := ⟨[plantProject], List.nodup_singleton _⟩ }
  commits := .single plantCommit
  refs := ⟨[scanAsset], List.nodup_singleton _⟩
  frames := .single ⟨"world", "t1", "p1", none⟩
  objects := ⟨[scanObject], List.nodup_singleton _⟩
  providers := ⟨[mesher], List.nodup_singleton _⟩
  revisions := ⟨[mesherRevision], List.nodup_singleton _⟩
  promotions := ⟨[mesherPromotion], List.nodup_singleton _⟩
  quotas, ledger, conversions }

def scanSnapshot : SourceSnapshot :=
  ⟨"scan", zeroDigest, "scan", "world", none, "biometric", "direct_capture", "evidence", false, 1⟩

def scanSources : ValidatedSources where
  sourceSnapshots := [scanSnapshot]
  referenceSnapshots := []
  effectiveClassification := "critical_infrastructure"
  classificationContext := classificationContext plantProject [scanSnapshot] [] meshRequest.policyContext
  inputBytes := 1

section Stages
variable (s : Store) (quotas : Table QuotaPolicyRow (fun row => row.quotaId))
  (ledger : Table UsageLedgerRow (fun row => row.usageId))
  (conversions : Table SpatialConversionRow (fun row => row.conversionId))

theorem checkRequest_mesh : checkRequest meshRequest "ana" 900 = .ok meshRequest := by
  have hcontract : contractOf meshRequest = .ok meshRequest := rfl
  simp only [checkRequest, bind_eq_ok, raiseIf_eq_ok]
  exact ⟨(), by decide, meshRequest, hcontract, (), by decide, (), by decide, rfl⟩

theorem validateConversionSources_plant :
    validateConversionSources wholePython.toPyText meshRequest (plant s quotas ledger conversions) = .ok scanSources := by
  rfl

def meshSelection : SelectionRequest where
  classification := "critical_infrastructure"
  purpose := "inspection"
  region := "eu"
  deploymentMode := "local_only"
  sceneClass := "plant"
  outputRoles := ["mesh"]
  intendedUses := ["walk"]
  executionZone := "local"
  hardwareProfile := "cpu"
  requiredCapabilities := []

theorem selectionRequest_mesh :
    selectionRequest sampleControl meshRequest "critical_infrastructure" = .ok meshSelection := by
  rfl

theorem providerInForce_mesher (now : Nat) : zeroRegistry.providerInForce now mesherPromotion mesher := by
  have hsignature : (zeroRegistry.signature meshHash).toList.length = 64 := by
    simp only [ProviderRegistry.signature, hex, String.toList_ofList, length_hexText, hmacSha256, length_sha256]
  have hgiven : (given (some (zeroRegistry.signature meshHash))).isSome = true := by
    have hne : zeroRegistry.signature meshHash ≠ "" := by
      intro h
      rw [h] at hsignature
      cases hsignature
    simp [given, Option.filter, hne]
  exact ⟨⟨by decide, hgiven, rfl, rfl⟩, rfl, rfl, zeroRegistry.promotionIntegrityValid_signed _, rfl, Bool.false_ne_true⟩

theorem select_plant (now : Nat) : zeroRegistry.select (plant s quotas ledger conversions).toRepresentationDb now meshSelection =
    .ok ⟨mesher, mesherPromotion, meshDescriptor⟩ := by
  have hcandidate : zeroRegistry.candidateFor (plant s quotas ledger conversions).toRepresentationDb now meshSelection
      mesherPromotion = .ok (some (mesher, mesherPromotion)) := by
    have hforce : ProviderRegistry.promotionInForce now mesherPromotion :=
      ⟨rfl, (by decide : PromotionState.active.executable), Nat.zero_le now, nofun⟩
    have hadmits : ProviderRegistry.providerAdmits mesher [] meshSelection ∧
        mesherPromotion.covers meshSelection := by
      refine ⟨⟨?_, ?_, ?_, ?_, ?_, ?_, ?_⟩, ?_, ?_, ?_, ?_, ?_, ?_⟩ <;>
        simp [mesher, mesherPromotion, ProviderRegistry.signedPromotion, meshSelection]
    have hfound : (plant s quotas ledger conversions).providers.get? "mesher" = some mesher := rfl
    have hid : mesherPromotion.providerId = "mesher" := rfl
    rw [ProviderRegistry.candidateFor, if_neg (not_not.mpr hforce), hid, hfound]
    dsimp only
    rw [if_neg (not_not.mpr (providerInForce_mesher now))]
    refine bind_eq_ok.mpr ⟨[], rfl, ?_⟩
    rw [if_pos hadmits]
    rfl
  have hrevision : zeroRegistry.revisionIntegrityValid mesherRevision := ⟨rfl, rfl, by decide, by decide⟩
  simp only [ProviderRegistry.select, bind_eq_ok, orRaise_eq_ok, raiseIf_eq_ok, not_not]
  refine ⟨[some (mesher, mesherPromotion)], ?_, (mesher, mesherPromotion), rfl, mesherRevision, ?_, (), hrevision, rfl⟩
  · show List.mapM _ [mesherPromotion] = _
    rw [List.mapM_cons, hcandidate]
    rfl
  · exact (Table.get?_eq_some_iff _ _ _).mpr ⟨List.mem_singleton_self _, rfl⟩
theorem validateProviderForRequest_mesher : validateProviderForRequest zeroRegistry wholePython mesher meshRequest scanSources
    (plant s quotas ledger conversions) = .ok () := by
  have hdescriptor : zeroRegistry.getDescriptor (plant s quotas ledger conversions).toRepresentationDb "mesher" =
      .ok meshDescriptor := by
    simp only [ProviderRegistry.getDescriptor, bind_eq_ok, orRaise_eq_ok, raiseIf_eq_ok, not_not]
    exact ⟨mesher, rfl, (), (providerInForce_mesher 0).1, rfl⟩
  simp only [validateProviderForRequest, bind_eq_ok, raiseIf_eq_ok]
  refine ⟨(), rfl, meshDescriptor, hdescriptor, (), rfl, (), ?_, rfl⟩
  simp [meshRequest, mesher]

def meshCleared : Cleared where
  sources := scanSources
  selected := ⟨mesher, mesherPromotion, meshDescriptor⟩
  executionZone := "local"
  region := "eu"
  deploymentMode := "local_only"
  external := false
  consentReceipts := []
  modelReceipts := []

theorem clear_plant (draw : HybridDraw) : (clear sampleControl draw meshRequest).run (plant s quotas ledger conversions) =
    (plant s quotas ledger conversions, .ok meshCleared) := by
  have hexecution : ProviderRegistry.authorizeExecution (plant s quotas ledger conversions).toRepresentationDb
      (draw.now .execution) "mesher" ⟨.criticalInfrastructure, "inspection", "eu", false⟩ = .ok mesher := rfl
  simp only [clear, Method.bind_eq, Method.pure_eq, Method.liftM_eq, Method.run_bind_eq_ok, Method.run_read_eq_ok,
    Method.run_done_eq_ok]
  exact ⟨_, scanSources, ⟨rfl, validateConversionSources_plant s quotas ledger conversions⟩, _, meshSelection,
    ⟨rfl, selectionRequest_mesh⟩, _, _, ⟨rfl, select_plant s quotas ledger conversions _⟩, _, (), ⟨rfl, rfl⟩, _, (),
    ⟨rfl, validateProviderForRequest_mesher s quotas ledger conversions⟩, _, _, ⟨rfl, rfl⟩, _, mesher, ⟨rfl, hexecution⟩,
    _, [], ⟨rfl, rfl⟩, _, [], ⟨rfl, rfl⟩, rfl, rfl⟩

/-- The operation of the request, as it is created. -/
def meshOperation : OperationRow :=
  OperationService.newRow 0 "op1" (operationRequest meshRequest scanSources "ana" 3 none) none

/-- The operation that an earlier attempt has left. -/
structure LeftBehind (operation : OperationRow) : Prop where
  found : OperationService.prior? s (operationRequest meshRequest scanSources "ana" 3 none) = some operation
  sameInput : operation.inputManifestHash = meshOperation.inputManifestHash
  sameId : operation.operationId = "op1"

theorem create_leftBehind {operation : OperationRow} (h : LeftBehind s operation) (now : Nat) (operationId auditId : String) :
    sampleControl.operations.create s now operationId auditId (operationRequest meshRequest scanSources "ana" 3 none) =
      (s, .ok operation) := by
  have hinsert : sampleControl.operations.insertOperation s now operationId auditId
      (operationRequest meshRequest scanSources "ana" 3 none) = .ok (s, operation) := by
    refine bind_eq_ok.mpr ⟨none, rfl, ?_⟩
    rw [h.found]
    exact bind_eq_ok.mpr ⟨(), raiseIf_eq_ok.mpr (not_not.mpr h.sameInput), rfl⟩
  have hkey : (operationRequest meshRequest scanSources "ana" 3 none).idempotencyKey ≠ "" := by decide
  have hauthorize : sampleControl.operations.authorize s now (operationRequest meshRequest scanSources "ana" 3 none) =
      (s, .ok ()) := rfl
  rw [OperationService.create, if_neg hkey, hauthorize]
  dsimp only
  rw [hinsert]

def meshEstimate : ResourceEstimate := ⟨1, 1, 0, 4, "deterministic-byte-envelope-v1", .zero⟩

theorem resourceEstimate_scan : resourceEstimate sampleControl scanSources [] = .ok meshEstimate := by
  have hfour : ((1 : Int) * (⟨"4.0", by decide⟩ : PyFloat).value).floor = 4 := by decide +kernel
  have hscaled : sampleControl.py.scaled 1 ⟨"4.0", by decide⟩ = .ok 4 := congrArg Except.ok hfour
  simp only [resourceEstimate, bind_eq_ok, raiseIf_eq_ok, orRaise_eq_ok]
  exact ⟨.finite ⟨"4.0", by decide⟩, rfl, (), by decide, ⟨"4.0", by decide⟩, rfl, 4, hscaled, .zero, rfl, rfl⟩

def meshUsage : UsageRequest where
  tenantId := "t1"
  projectId := "p1"
  operationId := some "op1"
  resourceType := "hybrid_provider_input_bytes"
  quantity := .one
  unit := "bytes"
  unitCost := .zero
  currency := "USD"
  priceSourceVersion := "local-reference-v1"
  estimated := true
  actorId := "ana"
  metadata := some [("provider_id", .str "mesher"), ("request_hash", .str (requestHash meshRequest))]

theorem usageRequest_mesh : usageRequest sampleControl meshRequest "op1" "ana" "mesher" 1 = .ok meshUsage := by
  rfl

def meshReceipt (draw : HybridDraw) : UsageAdmission :=
  AdmissionController.wholeNumbers.admissionResult ⟨draw.stamp .quota, draw.newId .quota⟩ meshUsage none .zero .one

theorem admitUsage_plant (draw : HybridDraw) : ∃ ledger, (admitUsage sampleControl draw meshRequest "op1" "ana" "mesher" 1).run
    (plant s .empty .empty conversions) = (plant s .empty ledger conversions, .ok (meshReceipt draw)) := by
  let usage : UsageDraw := ⟨draw.stamp .quota, draw.newId .quota⟩
  obtain ⟨ledger, hledger⟩ : ∃ ledger, Table.empty.insert? (sampleControl.admission.usageRow usage usage.now meshUsage) =
      some ledger := ⟨_, rfl⟩
  refine ⟨ledger, ?_⟩
  simp only [admitUsage, Method.bind_eq, Method.liftM_eq, Method.run_bind_eq_ok, Method.run_done_eq_ok,
    Method.run_transaction_eq_ok]
  refine ⟨_, meshUsage, ⟨rfl, usageRequest_mesh⟩, ?_⟩
  refine bind_eq_ok.mpr ⟨(meshReceipt draw, { (plant s .empty .empty conversions).quotaDb with ledger }), ?_, rfl⟩
  simp only [AdmissionController.admitAndRecord, bind_eq_ok]
  refine ⟨(), raiseIf_eq_ok.mpr (by decide), (none, .zero, .one), rfl, { (plant s .empty .empty conversions).quotaDb with ledger }, ?_, rfl⟩
  exact bind_eq_ok.mpr ⟨ledger, orRaise_eq_ok.mpr hledger, rfl⟩

def meshReceiptDocument (draw : HybridDraw) : Json := .obj [
  ("admitted", .bool true), ("usage_id", .str (draw.newId .quota)), ("current", .float .zero),
  ("projected", .float .one), ("soft_limit_exceeded", .bool false),
  ("hard_limit", .null), ("attributed_cost", .float .zero),
  ("currency", .str "USD"), ("price_source_version", .str "local-reference-v1")]

theorem document_meshReceipt (draw : HybridDraw) : UsageAdmission.document (meshReceipt draw) = .ok (meshReceiptDocument draw) := rfl

def meshAdmitted (draw : HybridDraw) : Admitted :=
  admittedOf sampleControl draw meshRequest "ana" 900 meshCleared meshEstimate "op1" (meshReceiptDocument draw)

theorem validatePayload_requested {row : SpatialConversionRow} {value : Json} (hhash : row.requestHash = canonicalSha256 value)
    (hid : row.conversionId.toList.length ≤ 64) (hoperation : row.operationId.toList.length ≤ 64) :
    validatePayload (requestedPayload row) = .ok () := by
  have hkeys : (requestedPayload row).map Prod.fst = ["conversion_id", "operation_id", "request_hash"] := rfl
  apply validatePayload_brief hkeys rfl (by decide)
  intro p hp
  simp only [requestedPayload, List.mem_cons, List.not_mem_nil, or_false] at hp
  rcases hp with rfl | rfl | rfl
  · exact brief_str hid
  · exact brief_str hoperation
  · rw [hhash]
    exact brief_sha256 value

theorem validatePayload_admitted {row : SpatialConversionRow} {decision manifest : Json}
    (hdecision : row.admissionDecisionHash = canonicalSha256 decision) (hmanifest : row.providerManifestHash = canonicalSha256 manifest)
    (hid : row.conversionId.toList.length ≤ 64) (hprovider : row.providerId.toList.length ≤ 64)
    (hpromotion : row.promotionId.toList.length ≤ 64) : validatePayload (admittedPayload row) = .ok () := by
  have hkeys : (admittedPayload row).map Prod.fst = ["conversion_id", "provider_id", "provider_manifest_hash", "promotion_id",
      "admission_decision_hash"] := rfl
  apply validatePayload_brief hkeys rfl (by decide)
  intro p hp
  simp only [admittedPayload, List.mem_cons, List.not_mem_nil, or_false] at hp
  rcases hp with rfl | rfl | rfl | rfl | rfl
  · exact brief_str hid
  · exact brief_str hprovider
  · rw [hmanifest]
    exact brief_sha256 manifest
  · exact brief_str hpromotion
  · rw [hdecision]
    exact brief_sha256 decision

/-- The only conversion of the plant. -/
def meshConversions (draw : HybridDraw) : Table SpatialConversionRow (fun row => row.conversionId) :=
  ⟨[admittedRow (meshAdmitted draw)], List.nodup_singleton _⟩

/-- The audit entry of the admission. -/
def meshAudit (draw : HybridDraw) : AuditRequest :=
  conversionAudit (admittedRow (meshAdmitted draw)) "ana" "hybrid_conversion:admit" "allowed"
    [("request_hash", .str (requestHash meshRequest)),
     ("admission_decision_hash", .str (admittedRow (meshAdmitted draw)).admissionDecisionHash),
     ("provider_id", .str "mesher")]

theorem writeAdmission_plant {log : AuditLog} (draw : HybridDraw) (hid : (draw.newId .admission).toList.length ≤ 64)
    (hrecord : AuditService.zeroKey.append s.audit (draw.now .admission) (draw.auditId .admission) (meshAudit draw) = .ok log) :
    ∃ outbox, writeAdmission sampleControl (draw.stamp .admission) (meshAdmitted draw) (plant s .empty ledger .empty) =
      .ok (⟨admittedRow (meshAdmitted draw), some (meshAdmitted draw).workerToken, false⟩,
        plant { s with outbox, audit := log } .empty ledger (meshConversions draw)) := by
  let row := admittedRow (meshAdmitted draw)
  have hrequested : validatePayload (requestedPayload row) = .ok () :=
    @validatePayload_requested row _ rfl hid (by decide : "op1".toList.length ≤ 64)
  have hadmitted : validatePayload (admittedPayload row) = .ok () :=
    @validatePayload_admitted row _ _ rfl rfl hid (by decide : "mesher".toList.length ≤ 64)
      (by decide : "promotion".toList.length ≤ 64)
  obtain ⟨first, hfirst⟩ := (plant s .empty ledger (meshConversions draw)).toStore.emit_total (draw.stamp .admission)
    (r := conversionEvent row "representation.operation.requested" (requestedPayload row) (some "ana") none) rfl rfl rfl
    hrequested
  obtain ⟨second, hsecond⟩ := ({ (plant s .empty ledger (meshConversions draw)).toStore with
    outbox := s.outbox ++ [first] } : Store).emit_total (draw.stamp .admission)
    (r := conversionEvent row "representation.operation.admitted" (admittedPayload row) (some "ana") none) rfl rfl rfl
    hadmitted
  have hinsert : insertConversion (plant s .empty ledger .empty) row = .ok (plant s .empty ledger (meshConversions draw)) := by
    simp only [insertConversion, bind_eq_ok, raiseIf_eq_ok, orRaise_eq_ok]
    exact ⟨(), List.not_mem_nil, (), fun h => List.not_mem_nil h.choose_spec.1, meshConversions draw, rfl, rfl⟩
  refine ⟨s.outbox ++ [first] ++ [second], ?_⟩
  simp only [writeAdmission, bind_eq_ok]
  exact ⟨_, hinsert, _, hfirst, _, hsecond, _, Store.record_of_append hrecord, rfl⟩

/-- A repeated request goes on with the operation that it finds. -/
theorem createConversion_plant {log : AuditLog} {operation : OperationRow} (draw : HybridDraw) (hleft : LeftBehind s operation)
    (hid : (draw.newId .admission).toList.length ≤ 64)
    (hrecord : AuditService.zeroKey.append s.audit (draw.now .admission) (draw.auditId .admission) (meshAudit draw) = .ok log) :
    ∃ outbox ledger, (createConversion sampleControl draw meshRequest "ana").run (plant s .empty .empty .empty) =
      (plant { s with outbox, audit := log } .empty ledger (meshConversions draw),
        .ok ⟨admittedRow (meshAdmitted draw), some (meshAdmitted draw).workerToken, false⟩) := by
  obtain ⟨ledger, hledger⟩ := admitUsage_plant s .empty draw
  obtain ⟨outbox, hwrite⟩ := writeAdmission_plant s ledger draw hid hrecord
  have hprior : priorConversion? (plant s .empty .empty .empty) meshRequest = none := rfl
  have hleft' : LeftBehind (plant s .empty .empty .empty).toStore operation := ⟨hleft.found, hleft.sameInput, hleft.sameId⟩
  have hcreate := create_leftBehind _ hleft' (draw.now .createOperation) (draw.newId .createOperation)
    (draw.auditId .createOperation)
  have hissue := issue_of_receipt sampleControl draw meshRequest "ana" 900 meshCleared meshEstimate "op1"
    (document_meshReceipt draw)
  refine ⟨outbox, ledger, ?_⟩
  simp only [createConversion, Method.bind_eq, Method.liftM_eq, Method.run_bind_eq_ok, Method.run_read_eq_ok,
    Method.run_done_eq_ok]
  refine ⟨_, meshRequest, ⟨rfl, checkRequest_mesh⟩, _, none, ⟨rfl, congrArg Except.ok hprior⟩, ?_⟩
  simp only [admitConversion, Method.bind_eq, Method.liftM_eq, Method.run_bind_eq_ok, Method.run_rescue_eq_ok,
    Method.run_done_eq_ok, Method.run_transaction_eq_ok, Method.run_perform]
  refine ⟨_, meshCleared, clear_plant _ _ _ _ draw, _, 3, ⟨rfl, rfl⟩, plant s .empty .empty .empty, operation, ?_, _,
    meshEstimate, ⟨rfl, resourceEstimate_scan⟩, plant s .empty ledger .empty, meshReceipt draw, ?_, _, _, ⟨rfl, ?_⟩, hwrite⟩
  · exact congrArg (fun r : Store × Except Raised OperationRow =>
      (({ plant s .empty .empty .empty with toStore := r.1 } : HybridDb), r.2)) hcreate
  · rw [hleft.sameId]
    exact hledger
  · rw [hleft.sameId]
    exact hissue

end Stages

/-- The plant once an attempt has been interrupted after its operation was created. -/
def interrupted : HybridDb := plant { Store.empty with operations := ⟨[meshOperation], List.nodup_singleton _⟩ } .empty .empty .empty

def plainDraw : HybridDraw := ⟨fun _ => 0, fun _ => "e1", fun _ => "v1"⟩

theorem createConversion_interrupted : ∃ db', (createConversion sampleControl plainDraw meshRequest "ana").run interrupted =
    (db', .ok ⟨admittedRow (meshAdmitted plainDraw), some (meshAdmitted plainDraw).workerToken, false⟩) := by
  obtain ⟨log, hlog⟩ := AuditService.append_empty .zeroKey (plainDraw.now .admission) (plainDraw.auditId .admission)
    (meshAudit plainDraw)
  obtain ⟨outbox, ledger, hrun⟩ := @createConversion_plant
    { Store.empty with operations := ⟨[meshOperation], List.nodup_singleton _⟩ } log meshOperation plainDraw
    ⟨rfl, rfl, rfl⟩ (by decide) hlog
  exact ⟨_, hrun⟩

/-- A biometric scan of critical infrastructure is admitted without any consent. -/
theorem biometric_scan_admitted_without_consent :
    ∃ db' result, (createConversion sampleControl plainDraw meshRequest "ana").run interrupted = (db', .ok result) ∧
      result.idempotentReplay = false ∧ SensitiveInput interrupted meshRequest ∧
      ¬ ActiveConsent sampleControl.py.toPyText interrupted (plainDraw.now .consents) meshRequest := by
  obtain ⟨db', hrun⟩ := createConversion_interrupted
  refine ⟨db', _, hrun, rfl, ?_, ?_⟩
  · exact .inr (.inl ⟨⟨"scan", "scan", zeroDigest, "world", none⟩, List.mem_singleton_self _, scanAsset, rfl, by decide⟩)
  · rintro ⟨listed, hlisted, grantId, hgrant, _⟩
    have hnone : listedGrants sampleControl.py.toPyText meshRequest = .ok [] := rfl
    rw [hnone] at hlisted
    cases hlisted
    cases hgrant

theorem interrupted_consent_iff :
    (SensitiveInput interrupted meshRequest →
      ActiveConsent sampleControl.py.toPyText interrupted (plainDraw.now .consents) meshRequest) ↔
      ¬ ConsentMasked sampleControl.py.toPyText interrupted meshRequest := by
  obtain ⟨db', hrun⟩ := createConversion_interrupted
  exact admitted_consent_iff hrun rfl checkRequest_mesh

end Sample

end HybridControl

end Sip
