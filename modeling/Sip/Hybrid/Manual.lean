import Sip.Hybrid.Execution

/-!
# The manual external path

Approved derivatives leave with a one-time code and come back with a receipt. Each of
the two calls is one transaction, and each sets the state of the conversion whatever it
was before.
-/

namespace Sip

set_option autoImplicit false

/-- `ManualExternalReceiptContract`; the instant is the text that the contract dumps it as. -/
structure ManualReceipt where
  transferId : String
  conversionId : String
  tool : String
  toolVersion : String
  accountOrEnvironment : String
  operatorId : String
  executedAt : String
  inputHashes : List String
  outputHashes : List String
  options : Dict
  processingLocation : String
  retentionStatement : String
  cleanupActions : List String
  manualEdits : List Dict := []
  evidenceAssetIds : List String
  receiptHash : String

structure ManualExport where
  transfer : ManualProviderTransferRow
  oneTimeReturnCode : String

structure ManualReturn where
  transferId : String
  conversionId : String
  receiptHash : Option String
  returnedOutputs : List TransferredAsset
  state : String
  idempotentReplay : Bool

namespace HybridControl

section Export
variable (svc : HybridControlService) (draw : HybridDraw)

/-- The provider and the policy permit that data leaves. -/
def checkManualProvider (row : SpatialConversionRow) (db : HybridDb) : Except Raised Unit := do
  let required := authorizationError "HYB_MANUAL_PROVIDER_REQUIRED"
    "manual export is only available for approved manual-external providers"
  let provider ← orRaise (db.providers.get? row.providerId) required
  raiseIf (provider.providerClass ≠ "manual_external" ∨ "manual_external" ∉ provider.executionModesJson) required
  let classification := svc.py.str ((row.admissionDecisionJson.get? "classification").getD (.str "internal"))
  raiseIf (classification ∈ hardExternalDeny) (authorizationError "HYB_MANUAL_EXPORT_SENSITIVE_DENIED"
    "critical infrastructure, biometric, and minor data cannot enter a manual external path")
  raiseIf (¬ (row.policyContextJson.get "allow_external_transfer").truthy) (authorizationError
    "HYB_EXTERNAL_TRANSFER_NOT_APPROVED" "policy does not explicitly approve external transfer")

def derivativeClasses : List String := ["generated", "inferred", "design", "proposed"]

def authoritativeClasses : List String := ["evidence", "metric", "field_verified"]

/-- One turn of the loop over the approved assets. -/
def outboundAsset (row : SpatialConversionRow) (tenantId projectId : String) (db : HybridDb) (assetId : String) :
    Except Raised TransferredAsset := do
  let asset ← orRaise (db.refs.get? assetId) (notFoundError "asset" assetId)
  raiseIf (asset.tenantId ≠ tenantId ∨ asset.projectId ≠ projectId ∨ asset.tombstonedAt ≠ none)
    (notFoundError "asset" assetId)
  raiseIf (asset.legalHold = true ∧ ¬ (row.policyContextJson.get "legal_hold_external_transfer_approved").truthy)
    (authorizationError "HYB_LEGAL_HOLD_TRANSFER_DENIED" "legal-held assets require explicit transfer approval")
  let record ← orRaise ((row.sourceAssetsJson ++ row.referenceAssetsJson).find? fun item => item.assetId = assetId)
    (.valueError "StopIteration")
  raiseIf (asset.sourceClass ∉ derivativeClasses) (authorizationError "HYB_MANUAL_EXPORT_RAW_SOURCE_DENIED"
    "manual external export is limited to explicitly approved non-authoritative derivatives"
    [("asset_id", .str assetId), ("source_class", .str asset.sourceClass)])
  raiseIf (asset.authorityClass ∈ authoritativeClasses) (authorizationError
    "HYB_MANUAL_EXPORT_AUTHORITATIVE_SOURCE_DENIED"
    "authoritative evidence and metric assets cannot enter the manual external path"
    [("asset_id", .str assetId), ("authority_class", .str asset.authorityClass)])
  return ⟨assetId, asset.sha256, record.role⟩

/-- Everything that an export checks. -/
def outboundAssets (row : SpatialConversionRow) (tenantId projectId : String) (approvedIds : List String) (db : HybridDb) :
    Except Raised (List TransferredAsset) := do
  checkManualProvider svc row db
  let approved := sortedSet id approvedIds
  raiseIf (approved = [] ∨ ∃ assetId ∈ approved, assetId ∉ inputIds (row.sourceAssetsJson ++ row.referenceAssetsJson))
    (validationError "HYB_MANUAL_EXPORT_SCOPE_INVALID"
      "manual export must contain only explicitly approved request assets")
  approved.mapM (outboundAsset row tenantId projectId db)

def outboundManifest (row : SpatialConversionRow) (transferId : String) (assets : List TransferredAsset) : Json := .obj [
  ("schema", .str "sip.manual-provider-export/1.1"), ("transfer_id", .str transferId),
  ("conversion_id", .str row.conversionId), ("provider_id", .str row.providerId),
  ("assets", .arr (assets.map fun asset => .obj [("asset_id", .str asset.assetId), ("sha256", .str asset.sha256),
    ("role", .str asset.role)])),
  ("purpose", .str row.purpose), ("intended_uses", .texts row.intendedUsesJson),
  ("expires_at", row.policyContextJson.get "manual_export_expires_at")]

def transferRow (row : SpatialConversionRow) (transferId code actorId tenantId projectId : String)
    (assets : List TransferredAsset) : ManualProviderTransferRow where
  transferId := transferId
  tenantId := tenantId
  projectId := projectId
  conversionId := row.conversionId
  providerId := row.providerId
  outboundAssets := assets
  outboundManifestHash := canonicalSha256 (outboundManifest row transferId assets)
  policyDecisionHash := canonicalSha256 (.obj row.policyContextJson)
  oneTimeCodeHash := tokenHash code
  exportedBy := actorId

def exportDetails (transfer : ManualProviderTransferRow) : Dict := [
  ("outbound_manifest_hash", .str transfer.outboundManifestHash), ("asset_count", .int transfer.outboundAssets.length)]

def exportPayload (transfer : ManualProviderTransferRow) : Dict :=
  [("transfer_id", .str transfer.transferId), ("conversion_id", .str transfer.conversionId)] ++ exportDetails transfer

def transferEvent (transfer : ManualProviderTransferRow) (eventType : String) (payload : Dict) (actorId : String) :
    EventRequest :=
  hybridEvent eventType "manual_provider_transfer" transfer.transferId transfer.tenantId transfer.projectId payload
    (some actorId) none

def transferAudit (transfer : ManualProviderTransferRow) (actorId action : String) (details : Dict) : AuditRequest where
  tenantId := transfer.tenantId
  projectId := some transfer.projectId
  actorId := actorId
  action := action
  resourceType := "manual_provider_transfer"
  resourceId := transfer.transferId
  outcome := "allowed"
  details := some details

def writeExport (stamp : Stamp) (transferId code conversionId tenantId projectId actorId : String)
    (approvedIds : List String) (db : HybridDb) : Except Raised (ManualExport × HybridDb) := do
  let row ← scopedConversion db conversionId tenantId projectId
  let assets ← outboundAssets svc row tenantId projectId approvedIds db
  let transfer := transferRow row transferId code actorId tenantId projectId assets
  let transfers ← orRaise (db.transfers.insert? transfer) (.integrityError "manual_provider_transfers.transfer_id")
  let s ← db.emit stamp (transferEvent transfer "representation.manual_exported" (exportPayload transfer) actorId)
  let s ← s.record svc.audit stamp (transferAudit transfer actorId "hybrid_manual:export" (exportDetails transfer))
  return (⟨transfer, code⟩,
    saveConversion { db with toStore := s, transfers } { row with state := .manualExported })

theorem writeExport_eq_ok {svc : HybridControlService} {stamp : Stamp}
    {transferId code conversionId tenantId projectId actorId : String} {approvedIds : List String} {db db' : HybridDb}
    {result : ManualExport}
    (h : writeExport svc stamp transferId code conversionId tenantId projectId actorId approvedIds db = .ok (result, db')) :
    ∃ row assets, db.conversions.get? conversionId = some row ∧
      outboundAssets svc row tenantId projectId approvedIds db = .ok assets ∧
      db'.conversions = db.conversions.set { row with state := .manualExported } ∧ db'.operations = db.operations := by
  simp only [writeExport, bind_eq_ok] at h
  obtain ⟨row, hrow, assets, hassets, transfers, _, s, hs, s', hs', hout⟩ := h
  cases hout
  obtain ⟨_, rfl⟩ := Store.emit_eq_ok hs
  obtain ⟨_, rfl⟩ := Store.record_eq_ok hs'
  exact ⟨row, assets, scopedConversion_eq_ok hrow, hassets, rfl, rfl⟩

def createManualExport (conversionId tenantId projectId : String) (approvedIds : List String) (actorId : String) :
    HybridMethod ManualExport :=
  .transaction .write (writeExport svc (draw.stamp .write) (draw.newId .write) (draw.newId .check) conversionId tenantId
    projectId actorId approvedIds)

end Export

section Return
variable (svc : HybridControlService) (draw : HybridDraw)

def receiptBody (receipt : ManualReceipt) : Dict := [
  ("transfer_id", .str receipt.transferId), ("conversion_id", .str receipt.conversionId), ("tool", .str receipt.tool),
  ("tool_version", .str receipt.toolVersion), ("account_or_environment", .str receipt.accountOrEnvironment),
  ("operator_id", .str receipt.operatorId), ("executed_at", .str receipt.executedAt),
  ("input_hashes", .texts receipt.inputHashes), ("output_hashes", .texts receipt.outputHashes),
  ("options", .obj receipt.options), ("processing_location", .str receipt.processingLocation),
  ("retention_statement", .str receipt.retentionStatement), ("cleanup_actions", .texts receipt.cleanupActions),
  ("manual_edits", .arr (receipt.manualEdits.map .obj)), ("evidence_asset_ids", .texts receipt.evidenceAssetIds)]

def computedReceiptHash (receipt : ManualReceipt) : String := canonicalSha256 (.obj (receiptBody receipt))

/-- The contract of a receipt and its hash. -/
def checkReceipt (receipt : ManualReceipt) : Except Raised Unit := do
  raiseIf (receipt.inputHashes = [] ∨ receipt.outputHashes = [] ∨ receipt.evidenceAssetIds = [] ∨
      receipt.processingLocation ∉ ["uploaded_external", "local_operator_device", "approved_private_environment"] ∨
      isDigest receipt.receiptHash = false)
    (validationError "HYB_MANUAL_RECEIPT_INVALID" "manual return receipt violates the canonical contract")
  raiseIf (receipt.receiptHash ≠ computedReceiptHash receipt) (validationError "HYB_MANUAL_RECEIPT_HASH_MISMATCH"
    "manual return receipt hash does not match canonical content")

/-- The transfer, the code and the inputs that a receipt is for. -/
def checkTransfer (transfer : ManualProviderTransferRow) (code : String) (receipt : ManualReceipt) : Except Raised Unit := do
  raiseIf (transfer.oneTimeCodeHash ≠ tokenHash code) (authenticationError "HYB_MANUAL_RETURN_CODE_INVALID"
    "manual return code is invalid")
  raiseIf (receipt.transferId ≠ transfer.transferId ∨ receipt.conversionId ≠ transfer.conversionId) (validationError
    "HYB_MANUAL_RECEIPT_SCOPE_MISMATCH" "manual receipt does not match the transfer")
  let inputs ← receipt.inputHashes.mapM normalizeDigest
  raiseIf (sortBy id inputs ≠ sortBy id (transfer.outboundAssets.map TransferredAsset.sha256)) (validationError
    "HYB_MANUAL_INPUT_HASH_MISMATCH" "manual provider receipt did not consume the exact authorized inputs")

/-- An asset of the project that has not been deleted. -/
def liveAsset (db : HybridDb) (tenantId projectId assetId resource : String) : Except Raised AssetRefRow := do
  let asset ← orRaise (db.refs.get? assetId) (notFoundError resource assetId)
  raiseIf (asset.tenantId ≠ tenantId ∨ asset.projectId ≠ projectId ∨ asset.tombstonedAt ≠ none)
    (notFoundError resource assetId)
  return asset

/-- One turn of the loop over the returned outputs. -/
def returnedOutput (row : SpatialConversionRow) (tenantId projectId : String) (db : HybridDb) (output : TransferredAsset) :
    Except Raised TransferredAsset := do
  let digest ← normalizeDigest output.sha256
  let asset ← liveAsset db tenantId projectId output.assetId "asset"
  raiseIf (asset.sha256 ≠ digest) (validationError "HYB_MANUAL_OUTPUT_HASH_MISMATCH"
    "returned output asset hash does not match the receipt")
  let role := String.ofList (strip output.role.toList)
  raiseIf (role ∉ row.outputRolesJson) (validationError "HYB_MANUAL_OUTPUT_ROLE_UNREQUESTED"
    "manual provider returned an output role not admitted by the conversion")
  return ⟨output.assetId, digest, role⟩

/-- Everything that a return checks after the state of its transfer: the conversion and the outputs. -/
def returnedOutputs (transfer : ManualProviderTransferRow) (tenantId projectId code : String) (receipt : ManualReceipt)
    (outputs : List TransferredAsset) (db : HybridDb) : Except Raised (SpatialConversionRow × List TransferredAsset) := do
  checkTransfer transfer code receipt
  let _ ← (sortedSet id receipt.evidenceAssetIds).mapM fun assetId =>
    liveAsset db tenantId projectId assetId "receipt_evidence_asset"
  let row ← orRaise (db.conversions.get? transfer.conversionId) (notFoundError "spatial_conversion" transfer.conversionId)
  let claimed ← receipt.outputHashes.mapM normalizeDigest
  let records ← outputs.mapM (returnedOutput row tenantId projectId db)
  raiseIf (sortBy id (records.map TransferredAsset.sha256) ≠ sortBy id claimed) (validationError
    "HYB_MANUAL_OUTPUT_SET_MISMATCH" "returned outputs do not match the provider receipt")
  return (row, records)

def returnedTransfer (transfer : ManualProviderTransferRow) (now : Nat) (receipt : ManualReceipt) (actorId : String)
    (records : List TransferredAsset) : ManualProviderTransferRow :=
  { transfer with
    receiptJson := (receiptBody receipt).merge [("receipt_hash", .str (computedReceiptHash receipt))]
    receiptHash := some (computedReceiptHash receipt)
    returnedOutputsJson := records
    state := "returned_pending_validation"
    returnedBy := some actorId
    returnedAt := some now }

def returnDetails (receiptHash : String) (records : List TransferredAsset) : Dict := [
  ("receipt_hash", .str receiptHash), ("output_count", .int records.length),
  ("state", .str "returned_pending_validation")]

def returnPayload (transfer : ManualProviderTransferRow) (receiptHash : String) (records : List TransferredAsset) : Dict :=
  [("transfer_id", .str transfer.transferId), ("conversion_id", .str transfer.conversionId)] ++
    returnDetails receiptHash records

/-- A transfer that has come back may repeat its receipt. -/
def repeatedReturn (transfer : ManualProviderTransferRow) (receipt : ManualReceipt) : Except Raised ManualReturn := do
  raiseIf (¬ (transfer.state = "returned_pending_validation" ∧ transfer.receiptHash = some (computedReceiptHash receipt)))
    (conflictError "HYB_MANUAL_RETURN_STATE_INVALID" "manual transfer cannot accept a return in its current state")
  return ⟨transfer.transferId, transfer.conversionId, none, [], transfer.state, true⟩

def scopedTransfer (db : HybridDb) (transferId tenantId projectId : String) : Except Raised ManualProviderTransferRow := do
  let transfer ← orRaise (db.transfers.get? transferId) (notFoundError "manual_provider_transfer" transferId)
  raiseIf (transfer.tenantId ≠ tenantId ∨ transfer.projectId ≠ projectId)
    (notFoundError "manual_provider_transfer" transferId)
  return transfer

def acceptReturn (stamp : Stamp) (transfer : ManualProviderTransferRow) (tenantId projectId code actorId : String)
    (receipt : ManualReceipt) (outputs : List TransferredAsset) (db : HybridDb) :
    Except Raised (ManualReturn × HybridDb) := do
  let (row, records) ← returnedOutputs transfer tenantId projectId code receipt outputs db
  let hash := computedReceiptHash receipt
  let s ← db.emit stamp (transferEvent transfer "representation.manual_returned" (returnPayload transfer hash records) actorId)
  let s ← s.record svc.audit stamp (transferAudit transfer actorId "hybrid_manual:return" (returnDetails hash records))
  let transfers := db.transfers.set (returnedTransfer transfer stamp.now receipt actorId records)
  return (⟨transfer.transferId, transfer.conversionId, some hash, records, "returned_pending_validation", false⟩,
    saveConversion { db with toStore := s, transfers } { row with state := .returnedPendingValidation })

def writeReturn (stamp : Stamp) (transferId tenantId projectId code actorId : String) (receipt : ManualReceipt)
    (outputs : List TransferredAsset) (db : HybridDb) : Except Raised (ManualReturn × HybridDb) := do
  let transfer ← scopedTransfer db transferId tenantId projectId
  if transfer.state ≠ "exported" then do
    let result ← repeatedReturn transfer receipt
    return (result, db)
  else acceptReturn svc stamp transfer tenantId projectId code actorId receipt outputs db

theorem returnedOutputs_eq_ok {transfer : ManualProviderTransferRow} {tenantId projectId code : String}
    {receipt : ManualReceipt} {outputs records : List TransferredAsset} {db : HybridDb} {row : SpatialConversionRow}
    (h : returnedOutputs transfer tenantId projectId code receipt outputs db = .ok (row, records)) :
    db.conversions.get? transfer.conversionId = some row := by
  simp only [returnedOutputs, bind_eq_ok, orRaise_eq_ok] at h
  obtain ⟨_, _, _, _, found, hfound, _, _, _, _, _, _, hout⟩ := h
  cases hout
  exact hfound

theorem writeReturn_eq_ok {svc : HybridControlService} {stamp : Stamp} {transferId tenantId projectId code actorId : String}
    {receipt : ManualReceipt} {outputs : List TransferredAsset} {db db' : HybridDb} {result : ManualReturn}
    (h : writeReturn svc stamp transferId tenantId projectId code actorId receipt outputs db = .ok (result, db')) :
    db'.operations = db.operations ∧ (db'.conversions = db.conversions ∨
      ∃ transfer row records, db.transfers.get? transferId = some transfer ∧ transfer.state = "exported" ∧
        returnedOutputs transfer tenantId projectId code receipt outputs db = .ok (row, records) ∧
        db'.conversions = db.conversions.set { row with state := .returnedPendingValidation }) := by
  obtain ⟨transfer, htransfer, h⟩ := bind_eq_ok.mp h
  simp only [scopedTransfer, bind_eq_ok, orRaise_eq_ok] at htransfer
  obtain ⟨found, hfound, _, _, hsame⟩ := htransfer
  cases hsame
  split at h
  · obtain ⟨_, _, hout⟩ := bind_eq_ok.mp h
    cases hout
    exact ⟨rfl, .inl rfl⟩
  · rename_i hexported
    simp only [acceptReturn, bind_eq_ok] at h
    obtain ⟨⟨row, records⟩, hrecords, s, hs, s', hs', hout⟩ := h
    cases hout
    obtain ⟨_, rfl⟩ := Store.emit_eq_ok hs
    obtain ⟨_, rfl⟩ := Store.record_eq_ok hs'
    exact ⟨rfl, .inr ⟨transfer, row, records, hfound, not_not.mp hexported, hrecords, rfl⟩⟩

def recordManualReturn (transferId tenantId projectId code : String) (receipt : ManualReceipt)
    (outputs : List TransferredAsset) (actorId : String) : HybridMethod ManualReturn := do
  checkReceipt receipt
  .transaction .write (writeReturn svc (draw.stamp .write) transferId tenantId projectId code actorId receipt outputs)

end Return

end HybridControl

end Sip
