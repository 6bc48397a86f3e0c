import Sip.Audit.Successive
import Sip.Foundation.PlainDigests
import Sip.Lifecycle.Deletions
import Sip.Spatial.MergeLaws

/-!
# The age in a deletion snapshot

The snapshot that an approval is bound to is a function of the database and of the age
of the asset in whole days. So an approved request is executed in an unchanged database
as long as the asset has the age at which the request was planned, and is refused on
every other day.
-/

namespace Sip

set_option autoImplicit false

section Codes
variable {α β : Type} {code : String}

theorem refusalCode_bind_ne {x : Except Raised α} {f : α → Except Raised β} (hx : refusalCode x ≠ some code)
    (hf : ∀ a, refusalCode (f a) ≠ some code) : refusalCode (x >>= f) ≠ some code := by
  cases x with
  | error e => exact hx
  | ok a => exact hf a

theorem refusalCode_raiseIf_ne {p : Prop} [Decidable p] {e : Raised} (he : e.code? ≠ some code) :
    refusalCode (raiseIf p e) ≠ some code := by
  unfold raiseIf
  split
  · exact he
  · simp [refusalCode]

theorem refusalCode_orRaise_ne {value : Option α} {e : Raised} (he : e.code? ≠ some code) :
    refusalCode (orRaise value e) ≠ some code := by
  cases value with
  | none => exact he
  | some a => simp [orRaise, refusalCode]

theorem refusalCode_ok_ne (a : α) : refusalCode (.ok a : Except Raised α) ≠ some code := by simp [refusalCode]

end Codes

namespace LifecycleService

open SpatialDataService (plainText)

section Stages
variable {svc : AuditService} {py : PyText} {db db' : DeletionDb}

theorem planAssetDeletion_eq_ok {now : Nat} {tenantId projectId assetId : String} {plan : DeletionSnapshot} :
    planAssetDeletion py db now tenantId projectId assetId = .ok plan ↔
      ∃ ref object, db.refs.get? assetId = some ref ∧ ref.tenantId = tenantId ∧ ref.projectId = projectId ∧
        db.assets.get? ref.sha256 = some object ∧
        plan = snapshotAt py db tenantId projectId assetId ref (ageDays ref now) := by
  simp only [planAssetDeletion, bind_eq_ok, orRaise_eq_ok, Option.filter_eq_some_iff, decide_eq_true_eq]
  constructor
  · rintro ⟨ref, ⟨href, htenant, hproject⟩, object, hobject, h⟩
    cases h
    exact ⟨ref, object, href, htenant, hproject, hobject, rfl⟩
  · rintro ⟨ref, object, href, htenant, hproject, hobject, rfl⟩
    exact ⟨ref, ⟨href, htenant, hproject⟩, object, hobject, rfl⟩

theorem requestAssetDeletion_ok {planned : Nat} {stamp : Stamp} {newUuid deletionId : String} {req : DeletionDemand}
    (h : requestAssetDeletion svc py db planned stamp newUuid req = .ok (deletionId, db')) :
    ∃ plan deletions base, planAssetDeletion py db planned req.tenantId req.projectId req.assetId = .ok plan ∧
      db.deletions.insert? (requestRow req plan newUuid) = some deletions ∧ deletionId = newUuid ∧
      db' = { db with toStore := base, deletions } := by
  simp only [requestAssetDeletion, bind_eq_ok, orRaise_eq_ok] at h
  obtain ⟨plan, hplan, _, _, _, _, deletions, hinsert, base, _, h⟩ := h
  cases h
  exact ⟨plan, deletions, base, hplan, hinsert, rfl, rfl⟩

theorem approveDeletion_ok {stamp : Stamp} {tenantId projectId deletionId actorId : String}
    (h : approveDeletion svc db stamp tenantId projectId deletionId actorId = .ok db') :
    ∃ row base, db.deletions.get? deletionId = some row ∧
      db' = { db with
        toStore := base, deletions := db.deletions.set { row with approvedBy := some actorId, state := .approved } } := by
  simp only [approveDeletion, bind_eq_ok, orRaise_eq_ok, Option.filter_eq_some_iff] at h
  obtain ⟨row, ⟨hrow, _⟩, _, _, _, _, base, _, h⟩ := h
  cases h
  exact ⟨row, base, hrow, rfl⟩

/-- After the request and its approval: the row of the request, and everything that a plan looks at as it was. -/
theorem approved_request {planned : Nat} {stamp stamp' : Stamp} {newUuid deletionId approver : String} {req : DeletionDemand}
    {requested approved : DeletionDb}
    (hrequest : requestAssetDeletion svc py db planned stamp newUuid req = .ok (deletionId, requested))
    (happrove : approveDeletion svc requested stamp' req.tenantId req.projectId deletionId approver = .ok approved) :
    ∃ plan base deletions, planAssetDeletion py db planned req.tenantId req.projectId req.assetId = .ok plan ∧
      approved = { db with toStore := base, deletions } ∧
      deletions.get? deletionId =
        some { requestRow req plan deletionId with approvedBy := some approver, state := .approved } := by
  obtain ⟨plan, deletions, base, hplan, hinsert, rfl, rfl⟩ := requestAssetDeletion_ok hrequest
  obtain ⟨row, base', hrow, rfl⟩ := approveDeletion_ok happrove
  have hown : deletions.get? deletionId = some (requestRow req plan deletionId) := by
    rw [Table.get?_insert hinsert]
    exact if_pos rfl
  have hsame : row = requestRow req plan deletionId := Option.some.inj (hrow.symm.trans hown)
  subst hsame
  refine ⟨plan, base', _, hplan, rfl, ?_⟩
  have hold : deletions.get? ({ requestRow req plan deletionId with
      approvedBy := some approver, state := .approved } : DeletionRequestRow).deletionId =
      some (requestRow req plan deletionId) := hown
  exact Table.get?_set_self deletions hold

/-- The code of a refusal that comes after the plan has been accepted. -/
theorem tombstone_code {stamp : Stamp} {s : AssetState} {req : TombstoneRequest} {code : String}
    (hcode : code ∉ ["NOT_FOUND", "LEGAL_HOLD_ACTIVE", "HASH_INVALID"]) :
    refusalCode (AssetService.tombstone svc stamp s req).2 ≠ some code := by
  simp only [List.mem_cons, List.not_mem_nil, or_false, not_or] at hcode
  obtain ⟨hmissing, hheld, hhash⟩ := hcode
  have htransaction : refusalCode (AssetService.tombstoneTransaction svc s.db stamp req) ≠ some code := by
    apply refusalCode_bind_ne
    · exact refusalCode_orRaise_ne (by simpa [notFoundError, Raised.code?] using Ne.symm hmissing)
    · intro ref
      apply refusalCode_bind_ne
      · exact refusalCode_raiseIf_ne (by simpa [conflictError, Raised.code?] using Ne.symm hheld)
      · intro _
        split
        · exact refusalCode_ok_ne _
        · apply refusalCode_bind_ne
          · apply refusalCode_bind_ne
            · apply refusalCode_bind_ne
              · exact refusalCode_raiseIf_ne (by simp [Raised.code?])
              · intro _
                exact refusalCode_orRaise_ne (by simp [Raised.code?])
            · exact fun _ => refusalCode_ok_ne _
          · exact fun _ => refusalCode_ok_ne _
  unfold AssetService.tombstone
  split
  · next e herror => rwa [herror] at htransaction
  · next db result _ =>
    split
    · have hdelete : refusalCode (s.store.delete result.sha256) ≠ some code := by
        apply refusalCode_bind_ne
        · exact refusalCode_raiseIf_ne (by simpa [validationError, Raised.code?] using Ne.symm hhash)
        · exact fun _ => refusalCode_ok_ne _
      split
      · next e herror => rwa [herror] at hdelete
      · exact refusalCode_ok_ne _
    · exact refusalCode_ok_ne _

theorem recordErasure_code {draw : ExecutionDraw} {inputs : DeletionInputs} {current : DeletionSnapshot}
    {impact : TombstoneResult} {tenantId projectId deletionId actorId code : String} :
    refusalCode (recordErasure svc db draw inputs current impact tenantId projectId deletionId actorId) ≠ some code := by
  apply refusalCode_bind_ne
  · exact refusalCode_orRaise_ne (by simp [Raised.code?])
  · intro row
    apply refusalCode_bind_ne
    · exact refusalCode_orRaise_ne (by simp [Raised.code?])
    · intro deletionEvidence
      apply refusalCode_bind_ne
      · apply refusalCode_bind_ne
        · apply refusalCode_bind_ne
          · exact refusalCode_raiseIf_ne (by simp [Raised.code?])
          · intro _
            exact refusalCode_orRaise_ne (by simp [Raised.code?])
        · exact fun _ => refusalCode_ok_ne _
      · exact fun _ => refusalCode_ok_ne _

/-- An execution is refused for a changed snapshot only by the comparison of the digests. -/
theorem executeDeletion_code {s : ErasureState} {draw : ExecutionDraw} {tenantId projectId deletionId actorId : String} :
    refusalCode (executeDeletion svc py s draw tenantId projectId deletionId actorId).2 =
        some "DELETION_DEPENDENCIES_CHANGED" ↔
      refusalCode (executionPlan py s.db draw.planned tenantId projectId deletionId) =
        some "DELETION_DEPENDENCIES_CHANGED" := by
  unfold executeDeletion
  cases hplan : executionPlan py s.db draw.planned tenantId projectId deletionId with
  | error e => exact Iff.rfl
  | ok p =>
    obtain ⟨inputs, current⟩ := p
    refine iff_of_false ?_ (refusalCode_ok_ne _)
    have htombstone := @tombstone_code svc draw.tombstone ⟨s.db.toAssetDb, s.store⟩
      ⟨tenantId, projectId, inputs.assetId, actorId, false⟩ "DELETION_DEPENDENCIES_CHANGED" (by decide)
    dsimp only
    generalize AssetService.tombstone svc draw.tombstone ⟨s.db.toAssetDb, s.store⟩
      ⟨tenantId, projectId, inputs.assetId, actorId, false⟩ = ended at htombstone
    obtain ⟨assets, outcome⟩ := ended
    cases outcome with
    | error e => exact htombstone
    | ok impact =>
      dsimp only
      generalize herased : ({ s.db with toAssetDb := assets.db } : DeletionDb) = erased
      have hrecord := @recordErasure_code svc erased draw inputs current impact tenantId projectId deletionId actorId
        "DELETION_DEPENDENCIES_CHANGED"
      generalize recordErasure svc erased draw inputs current impact tenantId projectId deletionId actorId = ended at hrecord
      cases ended with
      | error e => exact hrecord
      | ok written => exact refusalCode_ok_ne _

end Stages

section Age
variable {svc : AuditService} {py : PyText} {db : DeletionDb} {tenantId projectId assetId : String} {ref : AssetRefRow}

theorem nodup_keys_toDict (s : DeletionSnapshot) : (s.toDict.map Prod.fst).Nodup :=
  (by decide : ["asset_id", "sha256", "dependencies", "other_active_references", "legal_holds", "retention_rule_id",
    "retention_rule_version", "retention_class", "age_days", "minimum_retention_met", "blockers"].Nodup)

/-- The digest tells ages apart, unless it has collided. -/
theorem hash_snapshotAt_eq_iff (a b : Nat) :
    (snapshotAt py db tenantId projectId assetId ref a).hash = (snapshotAt py db tenantId projectId assetId ref b).hash ↔
      a = b ∨ Sha256Collision (canonicalJson (.obj (snapshotAt py db tenantId projectId assetId ref a).toDict))
        (canonicalJson (.obj (snapshotAt py db tenantId projectId assetId ref b).toDict)) := by
  constructor
  · intro hhash
    by_cases hbytes : canonicalJson (.obj (snapshotAt py db tenantId projectId assetId ref a).toDict) =
        canonicalJson (.obj (snapshotAt py db tenantId projectId assetId ref b).toDict)
    · have hage : some (Json.int a).normalize = some (Json.int b).normalize :=
        canonicalJson_obj_lookup (nodup_keys_toDict _) (nodup_keys_toDict _) hbytes "age_days"
      left
      simpa [Json.normalize] using hage
    · exact Or.inr ⟨hbytes, hex_injective hhash⟩
  · rintro (rfl | hcollision)
    · rfl
    · exact congrArg hex hcollision.2

theorem get?_report (s : DeletionSnapshot) : Dict.get? s.report "dependency_snapshot_hash" = some (.str s.hash) := rfl

/-- What an execution compares, for a request that has been approved by somebody. -/
theorem executionPlan_code {plan : DeletionSnapshot} {base : Store} {object : AssetRow}
    {deletions : Table DeletionRequestRow (fun row => row.deletionId)}
    {req : DeletionDemand} {deletionId approver : String} {planned : Nat}
    (hrow : deletions.get? deletionId =
      some { requestRow req plan deletionId with approvedBy := some approver, state := .approved })
    (href : db.refs.get? req.assetId = some ref) (htenant : ref.tenantId = req.tenantId)
    (hproject : ref.projectId = req.projectId) (hobject : db.assets.get? ref.sha256 = some object) :
    refusalCode (executionPlan py { db with toStore := base, deletions } planned req.tenantId req.projectId deletionId) =
        some "DELETION_DEPENDENCIES_CHANGED" ↔
      approver ≠ "" ∧
        (snapshotAt py db req.tenantId req.projectId req.assetId ref (ageDays ref planned)).hash ≠ plan.hash := by
  have hscoped : (deletions.get? deletionId).filter
      (fun row => row.tenantId = req.tenantId ∧ row.projectId = req.projectId) =
      some { requestRow req plan deletionId with approvedBy := some approver, state := .approved } := by
    rw [hrow, Option.filter_eq_some_iff]
    exact ⟨rfl, decide_eq_true ⟨rfl, rfl⟩⟩
  have hplan : planAssetDeletion py { db with toStore := base, deletions } planned req.tenantId req.projectId req.assetId =
      .ok (snapshotAt py db req.tenantId req.projectId req.assetId ref (ageDays ref planned)) :=
    planAssetDeletion_eq_ok.mpr ⟨ref, object, href, htenant, hproject, hobject, rfl⟩
  by_cases happrover : approver = ""
  · have hinputs : deletionInputs { db with toStore := base, deletions } req.tenantId req.projectId deletionId =
        .error (conflictError "DELETION_NOT_APPROVED" "deletion request lacks independent approval") := by
      rw [deletionInputs]
      dsimp only
      rw [hscoped, happrover]
      rfl
    rw [executionPlan, hinputs]
    refine iff_of_false ?_ (fun h => h.1 happrover)
    intro h
    have hcodes : some "DELETION_NOT_APPROVED" = some "DELETION_DEPENDENCIES_CHANGED" := h
    exact absurd hcodes (by decide)
  · obtain ⟨keyIds, hinputs⟩ : ∃ keyIds,
        deletionInputs { db with toStore := base, deletions } req.tenantId req.projectId deletionId =
          .ok ⟨req.assetId, .str plan.hash, keyIds, req.backupId, approver⟩ := by
      simp only [deletionInputs, bind_eq_ok, orRaise_eq_ok, raiseIf_eq_ok, hscoped]
      refine ⟨_, _, rfl, (), not_not.mpr rfl, approver, ?_, .str plan.hash, get?_report plan, ref, href, rfl⟩
      simp [given, happrover]
    have hcompared : executionPlan py { db with toStore := base, deletions } planned req.tenantId req.projectId deletionId =
        (do
          raiseIf ((snapshotAt py db req.tenantId req.projectId req.assetId ref (ageDays ref planned)).hash ≠
              py.str (.str plan.hash))
            (conflictError "DELETION_DEPENDENCIES_CHANGED"
              "deletion impact changed after approval; a new dry run is required"
              [("expected", .str (py.str (.str plan.hash))),
                ("actual", .str (snapshotAt py db req.tenantId req.projectId req.assetId ref (ageDays ref planned)).hash)])
          raiseIf ((snapshotAt py db req.tenantId req.projectId req.assetId ref (ageDays ref planned)).eligible = false)
            (conflictError "DELETION_INELIGIBLE" "asset deletion is now blocked"
              [("blockers", .arr ((snapshotAt py db req.tenantId req.projectId req.assetId ref
                (ageDays ref planned)).blockers.map .str))])
          return (⟨req.assetId, .str plan.hash, keyIds, req.backupId, approver⟩,
            snapshotAt py db req.tenantId req.projectId req.assetId ref (ageDays ref planned))) := by
      rw [executionPlan, hinputs]
      show (planAssetDeletion py { db with toStore := base, deletions } planned req.tenantId req.projectId req.assetId >>= _) = _
      rw [hplan]
      rfl
    rw [hcompared, py.str_text]
    generalize snapshotAt py db req.tenantId req.projectId req.assetId ref (ageDays ref planned) = current
    by_cases hhash : current.hash = plan.hash
    · refine iff_of_false ?_ (fun h => h.2 hhash)
      apply refusalCode_bind_ne
      · rw [raiseIf, if_neg (not_not.mpr hhash)]
        exact refusalCode_ok_ne _
      · intro _
        apply refusalCode_bind_ne
        · exact refusalCode_raiseIf_ne (by simp [conflictError, Raised.code?])
        · exact fun _ => refusalCode_ok_ne _
    · refine iff_of_true ?_ ⟨happrover, hhash⟩
      rw [raiseIf, if_pos hhash]
      rfl

end Age

/-- An approved deletion, executed in the database that the approval left, is not refused for a changed snapshot exactly
when the asset has the age in days that it had in the plan of the request. An approver without a name ends the call
before the comparison, and the digests may collide. -/
theorem execution_accepted_iff_same_age {svc : AuditService} {py : PyText} {db requested approved : DeletionDb}
    {planned : Nat} {stamp stamp' : Stamp} {newUuid deletionId approver executor : String} {req : DeletionDemand}
    {ref : AssetRefRow} {store : LocalContentAddressedStore} {draw : ExecutionDraw}
    (hrequest : requestAssetDeletion svc py db planned stamp newUuid req = .ok (deletionId, requested))
    (happrove : approveDeletion svc requested stamp' req.tenantId req.projectId deletionId approver = .ok approved)
    (href : db.refs.get? req.assetId = some ref) :
    refusalCode (executeDeletion svc py ⟨approved, store⟩ draw req.tenantId req.projectId deletionId executor).2 ≠
        some "DELETION_DEPENDENCIES_CHANGED" ↔
      approver = "" ∨ ageDays ref draw.planned = ageDays ref planned ∨
        Sha256Collision
          (canonicalJson (.obj (snapshotAt py db req.tenantId req.projectId req.assetId ref (ageDays ref draw.planned)).toDict))
          (canonicalJson (.obj (snapshotAt py db req.tenantId req.projectId req.assetId ref (ageDays ref planned)).toDict)) := by
  obtain ⟨plan, base, deletions, hplan, rfl, hrow⟩ := approved_request hrequest happrove
  obtain ⟨ref', object, href', htenant, hproject, hobject, rfl⟩ := planAssetDeletion_eq_ok.mp hplan
  cases href.symm.trans href'
  rw [ne_eq, executeDeletion_code, executionPlan_code hrow href htenant hproject hobject, not_and_or, not_not, ne_eq, not_not,
    hash_snapshotAt_eq_iff]

section Sample

def emptyObject : AssetRow where
  sha256 := "e3b0c44298fc1c149afbf4c8996fb92427ae41e4649b934ca495991b7852b855"
  byteCount := 0
  mediaType := "image/jpeg"
  storageKey := "e3/b0/e3b0c44298fc1c149afbf4c8996fb92427ae41e4649b934ca495991b7852b855.enc"
  encryptionMetadata := ⟨"AES-256-GCM", "k1", "", "", "", ""⟩

def photo : AssetRefRow where
  assetId := "a1"
  tenantId := "t1"
  projectId := "p1"
  sha256 := emptyObject.sha256
  originalName := "photo.jpg"
  classification := "internal"
  retentionClass := "standard"
  sourceClass := "observed"
  authorityClass := "evidence"
  provenanceJson := []
  createdBy := "ana"

/-- A project with one asset, a rehearsed backup and no retention rule. -/
def photoDb : DeletionDb := { Store.empty with
  assets := ⟨[emptyObject], by decide⟩
  refs := ⟨[photo], by decide⟩
  holds := .empty
  rules := []
  backups := ⟨[⟨"b1", "verified", some 0⟩], by decide⟩
  deletions := .empty
  deletionEvidence := .empty
  tables := [] }

def photoDemand : DeletionDemand := ⟨"t1", "p1", "a1", "b1", "ana"⟩

/-- The plan of the photo on a day. -/
def photoPlan (age : Nat) : DeletionSnapshot := ⟨"a1", emptyObject.sha256, [], 0, [], none, "standard", age, true, []⟩

theorem snapshotAt_photo (age : Nat) : snapshotAt plainText photoDb "t1" "p1" "a1" photo age = photoPlan age := rfl

def emptyStore : LocalContentAddressedStore := ⟨⟨.zeros 32, "k1"⟩, .empty⟩

def firstDayHash : String := "98fcefd9ba36f6f56c02447abff2e2cf56f4f34cb4d94ee4395363ed999ebcd4"

def secondDayHash : String := "09d602c5a37c9244540243086175176e61d05dadfbcf01177cfa300756f26d54"

def requestHash : String := "f1ff0d2badda9d8458c3bf6fec0677c0e4b3752af547395b5b9967d891bec516"

def approvalHash : String := "8f1ef17952a9e8284f8a90145f00ba0514e047be694a13cc1c17fa4b735deb33"

def photoApproval : AuditRequest where
  tenantId := "t1"
  projectId := some "p1"
  actorId := "ben"
  action := "deletion:approve"
  resourceType := "asset"
  resourceId := "a1"
  outcome := "allowed"
  details := some [("deletion_id", .str "d1"), ("requested_by", .str "ana")]

/-- The audit event of the request, with the hash of its plan given. -/
def photoRequest : AuditRequest := { requestAudit photoDemand (photoPlan 0) "d1" with
  details := some [("deletion_id", .str "d1"), ("backup_id", .str "b1"), ("snapshot_hash", .str firstDayHash)] }

/-- The documents that are hashed below: two plans and two audit events. -/
def photoDocuments : List (Json × String) := [
  (.obj (photoPlan 0).toDict, firstDayHash), (.obj (photoPlan 1).toDict, secondDayHash),
  (AuditService.zeroBody 0 "e1" photoRequest genesisHash, requestHash),
  (AuditService.zeroBody 1 "e2" photoApproval requestHash, approvalHash)]

set_option maxRecDepth 10000 in
theorem hashTo_photoDocuments : hashTo photoDocuments = true := by decide +kernel

theorem hash_firstDay : (photoPlan 0).hash = firstDayHash := canonicalSha256_of_hashTo hashTo_photoDocuments 0 rfl

theorem hash_secondDay : (photoPlan 1).hash = secondDayHash := canonicalSha256_of_hashTo hashTo_photoDocuments 1 rfl

theorem canonicalSha256_request : canonicalSha256 ((AuditService.zeroKey.entry .empty 0 "e1"
    (requestAudit photoDemand (photoPlan 0) "d1")).body genesisHash) = requestHash := by
  have hrequest : requestAudit photoDemand (photoPlan 0) "d1" = photoRequest := by
    rw [photoRequest, requestAudit, hash_firstDay]
    rfl
  rw [hrequest]
  exact canonicalSha256_of_hashTo hashTo_photoDocuments 2 rfl

theorem canonicalSha256_approval :
    canonicalSha256 ((AuditService.zeroKey.entry .empty 1 "e2" photoApproval).body requestHash) = approvalHash :=
  canonicalSha256_of_hashTo hashTo_photoDocuments 3 rfl

theorem requestAssetDeletion_photo : ∃ requested approved,
    requestAssetDeletion .zeroKey plainText photoDb 0 ⟨0, "e1"⟩ "d1" photoDemand = .ok ("d1", requested) ∧
    approveDeletion .zeroKey requested ⟨1, "e2"⟩ "t1" "p1" "d1" "ben" = .ok approved := by
  have hplan : planAssetDeletion plainText photoDb 0 "t1" "p1" "a1" = .ok (photoPlan 0) :=
    planAssetDeletion_eq_ok.mpr ⟨photo, emptyObject, rfl, rfl, rfl, rfl, (snapshotAt_photo 0).symm⟩
  obtain ⟨deletions, hinsert⟩ := @Table.insert?_isSome _ _ photoDb.deletions (requestRow photoDemand (photoPlan 0) "d1") rfl
  obtain ⟨log, hlog, hnext⟩ := @Store.record_next .zeroKey photoDb.toStore "t1" 0 [] [] requestHash ⟨0, "e1"⟩
    (requestAudit photoDemand (photoPlan 0) "d1") (Succession.start "t1" 0) (le_refl 0) rfl List.not_mem_nil
    canonicalSha256_request List.not_mem_nil
  have hrow : deletions.get? "d1" = some (requestRow photoDemand (photoPlan 0) "d1") := by
    rw [Table.get?_insert hinsert]
    exact if_pos rfl
  obtain ⟨log', hlog', _⟩ := @Store.record_next .zeroKey { photoDb.toStore with audit := log } "t1" 1 ["e1"] [requestHash]
    approvalHash ⟨1, "e2"⟩ photoApproval hnext (le_refl 1) rfl (by decide) canonicalSha256_approval (by decide)
  let requested : DeletionDb := { photoDb with toStore := { photoDb.toStore with audit := log }, deletions }
  let row := requestRow photoDemand (photoPlan 0) "d1"
  refine ⟨requested, { requested with
    toStore := { photoDb.toStore with audit := log' }
    deletions := deletions.set { row with approvedBy := some "ben", state := .approved } }, ?_, ?_⟩
  · simp only [requestAssetDeletion, bind_eq_ok, orRaise_eq_ok, raiseIf_eq_ok]
    exact ⟨photoPlan 0, hplan, (), by decide, ⟨"b1", "verified", some 0⟩, rfl, deletions, hinsert, _, hlog, rfl⟩
  · simp only [approveDeletion, bind_eq_ok, orRaise_eq_ok, raiseIf_eq_ok]
    have hscoped : (requested.deletions.get? "d1").filter (fun row => row.tenantId = "t1" ∧ row.projectId = "p1") =
        some row := by
      rw [show requested.deletions.get? "d1" = some row from hrow]
      rfl
    have hother : row.requestedBy ≠ "ben" := by decide
    have hwaiting : row.state = .awaitingApproval := rfl
    exact ⟨row, hscoped, (), hother, (), not_not.mpr hwaiting, _, hlog', rfl⟩

/-- The deletion is approved on the day of the upload and executed on the next day. -/
theorem execution_refused_next_day : ∃ requested approved,
    requestAssetDeletion .zeroKey plainText photoDb 0 ⟨0, "e1"⟩ "d1" photoDemand = .ok ("d1", requested) ∧
    approveDeletion .zeroKey requested ⟨1, "e2"⟩ "t1" "p1" "d1" "ben" = .ok approved ∧
    refusalCode (executeDeletion .zeroKey plainText ⟨approved, emptyStore⟩
      ⟨86400000000, ⟨86400000000, "e3"⟩, ⟨86400000000, "e4"⟩, "v1"⟩ "t1" "p1" "d1" "cleo").2 =
      some "DELETION_DEPENDENCIES_CHANGED" := by
  obtain ⟨requested, approved, hrequest, happrove⟩ := requestAssetDeletion_photo
  refine ⟨requested, approved, hrequest, happrove, ?_⟩
  obtain ⟨plan, base, deletions, hplan, rfl, hrow⟩ := approved_request hrequest happrove
  obtain ⟨ref, object, href, _, _, hobject, rfl⟩ := planAssetDeletion_eq_ok.mp hplan
  cases href
  rw [executeDeletion_code]
  refine (executionPlan_code hrow rfl rfl rfl hobject).mpr ⟨by decide, ?_⟩
  show (photoPlan 1).hash ≠ (photoPlan 0).hash
  rw [hash_firstDay, hash_secondDay]
  decide

theorem execution_accepted_same_day : ∃ requested approved,
    requestAssetDeletion .zeroKey plainText photoDb 0 ⟨0, "e1"⟩ "d1" photoDemand = .ok ("d1", requested) ∧
    approveDeletion .zeroKey requested ⟨1, "e2"⟩ "t1" "p1" "d1" "ben" = .ok approved ∧
    refusalCode (executeDeletion .zeroKey plainText ⟨approved, emptyStore⟩
      ⟨2, ⟨2, "e3"⟩, ⟨2, "e4"⟩, "v1"⟩ "t1" "p1" "d1" "cleo").2 ≠
      some "DELETION_DEPENDENCIES_CHANGED" := by
  obtain ⟨requested, approved, hrequest, happrove⟩ := requestAssetDeletion_photo
  refine ⟨requested, approved, hrequest, happrove, ?_⟩
  exact (execution_accepted_iff_same_age hrequest happrove rfl).mpr (Or.inr (Or.inl rfl))

end Sample

end LifecycleService
end Sip
