import Sip.Assets.Service

/-!
# Legal holds

A hold names a resource or a whole project. A hold on an asset is also kept as a flag
on its reference, which is what a tombstone looks at.
-/

namespace Sip

set_option autoImplicit false

inductive HoldState where
  | active | released
  deriving DecidableEq

structure LegalHoldRow where
  holdId : String
  tenantId : String
  projectId : String
  resourceType : String
  resourceId : String
  reason : String
  authorityReference : String
  state : HoldState := .active
  placedBy : String
  releasedBy : Option String := none
  releasedAt : Option Nat := none

structure HoldDb extends AssetDb where
  holds : Table LegalHoldRow (fun row => row.holdId)

structure HoldRequest where
  tenantId : String
  projectId : String
  resourceType : String
  resourceId : String
  reason : String
  authorityReference : String
  actorId : String

namespace HoldRequest
variable (req : HoldRequest)

def row (holdId : String) : LegalHoldRow where
  holdId := holdId
  tenantId := req.tenantId
  projectId := req.projectId
  resourceType := req.resourceType
  resourceId := req.resourceId
  reason := req.reason
  authorityReference := req.authorityReference
  placedBy := req.actorId

def auditRequest (holdId : String) : AuditRequest where
  tenantId := req.tenantId
  projectId := some req.projectId
  actorId := req.actorId
  action := "legal_hold:place"
  resourceType := req.resourceType
  resourceId := req.resourceId
  outcome := "allowed"
  details := some [("hold_id", .str holdId), ("authority_reference", .str req.authorityReference),
    ("reason", .str req.reason)]

end HoldRequest

def releaseAudit (hold : LegalHoldRow) (actorId : String) : AuditRequest where
  tenantId := hold.tenantId
  projectId := some hold.projectId
  actorId := actorId
  action := "legal_hold:release"
  resourceType := hold.resourceType
  resourceId := hold.resourceId
  outcome := "allowed"
  details := some [("hold_id", .str hold.holdId)]

namespace LifecycleService

/-- An active hold on a resource of a project. -/
def holdsResource (tenantId projectId resourceType resourceId : String) (hold : LegalHoldRow) : Bool :=
  hold.tenantId = tenantId ∧ hold.projectId = projectId ∧ hold.resourceType = resourceType ∧
    hold.resourceId = resourceId ∧ hold.state = .active

/-- The flag of an asset that is put under a hold. -/
def flagAsset (db : HoldDb) (req : HoldRequest) : Except Raised (Table AssetRefRow (fun row => row.assetId)) := do
  if req.resourceType = "asset" then
    let ref ← orRaise ((db.refs.get? req.resourceId).filter fun ref =>
      ref.tenantId = req.tenantId ∧ ref.projectId = req.projectId) (notFoundError "asset" req.resourceId)
    return db.refs.set { ref with legalHold := true }
  else return db.refs

/-- `place_hold`; a resource that is held already keeps its hold. -/
def placeHold (svc : AuditService) (stamp : Stamp) (newUuid : String) (db : HoldDb) (req : HoldRequest) :
    Except Raised (String × HoldDb) :=
  match db.holds.rows.find? (holdsResource req.tenantId req.projectId req.resourceType req.resourceId) with
  | some existing => .ok (existing.holdId, db)
  | none => do
    let refs ← flagAsset db req
    let holds ← orRaise (db.holds.insert? (req.row newUuid)) (.integrityError "legal_holds.hold_id")
    let base ← db.toStore.record svc stamp (req.auditRequest newUuid)
    return (newUuid, ⟨⟨base, db.assets, refs⟩, holds⟩)

/-- The flag of an asset after one of its holds is released: it stays only while another hold on the asset is active. -/
def unflagAsset (db : HoldDb) (hold : LegalHoldRow) : Table AssetRefRow (fun row => row.assetId) :=
  if hold.resourceType = "asset" then
    let others := db.holds.rows.filter fun other =>
      holdsResource hold.tenantId hold.projectId "asset" hold.resourceId other = true ∧ other.holdId ≠ hold.holdId
    match db.refs.get? hold.resourceId with
    | some ref => if others = [] then db.refs.set { ref with legalHold := false } else db.refs
    | none => db.refs
  else db.refs

/-- `release_hold`. -/
def releaseHold (svc : AuditService) (stamp : Stamp) (db : HoldDb) (tenantId projectId holdId actorId : String) :
    Except Raised HoldDb := do
  let hold ← orRaise ((db.holds.get? holdId).filter fun hold => hold.tenantId = tenantId ∧ hold.projectId = projectId)
    (notFoundError "legal_hold" holdId)
  if hold.state ≠ .active then return db
  else
    let holds := db.holds.set { hold with state := .released, releasedBy := some actorId, releasedAt := some stamp.now }
    let base ← db.toStore.record svc stamp (releaseAudit hold actorId)
    return ⟨⟨base, db.assets, unflagAsset db hold⟩, holds⟩

end LifecycleService

end Sip
