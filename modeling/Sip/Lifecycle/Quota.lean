import Sip.Foundation.RoundedSum
import Sip.PyValue
import Sip.Transaction

/-!
# Quota admission

`admit_and_record` sums the ledger over the trailing window of the active policy,
compares the sum with the hard limit and inserts the new usage. Sum and insert are
separate statements of one transaction without a lock, so they are separate steps here.
Numbers come from JSON documents and are finite; floating-point arithmetic is a parameter.
-/

namespace Sip

set_option autoImplicit false

instance : Preorder PyFloat := Preorder.lift PyFloat.value

theorem PyFloat.le_def {x y : PyFloat} : x ≤ y ↔ x.value ≤ y.value := Iff.rfl

/-- The scope that admissions are counted in. -/
structure UsageScope where
  tenantId : String
  projectId : String
  resourceType : String
  deriving DecidableEq

/-- `set_quota` writes policies with a positive period and a positive hard limit only. -/
structure QuotaPolicyRow where
  quotaId : String
  tenantId : String
  projectId : Option String
  resourceType : String
  unit : String
  periodSeconds : Nat
  softLimit : PyFloat
  hardLimit : PyFloat
  active : Bool := true
  period_pos : 0 < periodSeconds
  limit_pos : 0 < hardLimit.value

structure UsageLedgerRow where
  usageId : String
  tenantId : String
  projectId : String
  operationId : Option String
  resourceType : String
  quantity : PyFloat
  unit : String
  unitCost : PyFloat
  currency : String
  priceSourceVersion : String
  estimated : Bool
  metadataJson : Dict
  occurredAt : Nat

def UsageLedgerRow.scope (row : UsageLedgerRow) : UsageScope := ⟨row.tenantId, row.projectId, row.resourceType⟩

structure QuotaDb extends Store where
  quotas : Table QuotaPolicyRow (fun row => row.quotaId)
  ledger : Table UsageLedgerRow (fun row => row.usageId)

structure UsageRequest where
  tenantId : String
  projectId : String
  operationId : Option String := none
  resourceType : String
  quantity : PyFloat
  unit : String
  unitCost : PyFloat
  currency : String
  priceSourceVersion : String
  estimated : Bool
  actorId : String
  metadata : Option Dict := none

def UsageRequest.scope (req : UsageRequest) : UsageScope := ⟨req.tenantId, req.projectId, req.resourceType⟩

/-- What a call draws: an identifier for the usage besides the stamp. -/
structure UsageDraw extends Stamp where
  usageId : String

structure UsageAdmission where
  usageId : String
  current : PyFloat
  projected : PyFloat
  softLimitExceeded : Bool
  hardLimit : Option PyFloat
  attributedCost : Option PyFloat
  currency : String
  priceSourceVersion : String

/-- `AdmissionController(database, audit)`: where the database sorts NULL in descending order, the arithmetic of the
interpreter and of `SUM`, and `str.upper()`. -/
structure AdmissionController where
  nullsFirst : Bool
  sum : RoundedSum PyFloat
  zero_eq : sum.zero = .zero
  mul : PyFloat → PyFloat → Option PyFloat
  upper : String → String

namespace AdmissionController
variable (ctl : AdmissionController) (svc : AuditService)

/-- `ORDER BY project_id DESC LIMIT 1` among the active policies of the project and of the tenant. -/
def quota? (db : QuotaDb) (scope : UsageScope) : Option QuotaPolicyRow :=
  let policies := db.quotas.rows.filter fun row => row.tenantId = scope.tenantId ∧
    row.resourceType = scope.resourceType ∧ row.active = true
  let ofProject := policies.find? fun row => row.projectId = some scope.projectId
  let ofTenant := policies.find? fun row => row.projectId = none
  if ctl.nullsFirst then ofTenant <|> ofProject else ofProject <|> ofTenant

def QuotaPolicyRow.period (quota : QuotaPolicyRow) : Nat := quota.periodSeconds * 1000000

/-- The usage of a scope, in the order of insertion. -/
def usage (db : QuotaDb) (scope : UsageScope) : List UsageLedgerRow :=
  db.ledger.rows.filter fun row => row.scope = scope

/-- The usage since a policy's period before an instant. -/
def usageSince (quota : QuotaPolicyRow) (now : Nat) (rows : List UsageLedgerRow) : List UsageLedgerRow :=
  rows.filter fun row => now ≤ row.occurredAt + QuotaPolicyRow.period quota

/-- `coalesce(sum(quantity), 0.0)`. -/
def totalUsage (rows : List UsageLedgerRow) : Option PyFloat := ctl.sum.total (rows.map UsageLedgerRow.quantity)

def checkUsage (req : UsageRequest) : Except Raised Unit :=
  raiseIf (req.quantity.value < 0 ∨ req.unitCost.value < 0 ∨ req.currency.toList.length ≠ 3)
    (validationError "USAGE_RECORD_INVALID" "usage or cost values are invalid")

def limitDetails (quota : QuotaPolicyRow) (current : PyFloat) (req : UsageRequest) : Dict := [
  ("current", .float current), ("requested", .float req.quantity), ("hard_limit", .float quota.hardLimit)]

def deniedAudit (quota : QuotaPolicyRow) (current : PyFloat) (req : UsageRequest) : AuditRequest where
  tenantId := req.tenantId
  projectId := some req.projectId
  actorId := req.actorId
  action := "quota:admit"
  resourceType := req.resourceType
  resourceId := (given req.operationId).getD "unbound"
  outcome := "denied"
  details := some (limitDetails quota current req)

/-- `current + quantity`, where neither has overflowed. -/
def projected (current : Option PyFloat) (req : UsageRequest) : Option PyFloat :=
  current.bind fun current => ctl.sum.add current req.quantity

/-- What the comparison with the limit comes to: the usage so far, and with the new quantity. -/
inductive Verdict where
  | admitted (quota : Option QuotaPolicyRow) (current total : PyFloat)
  | exceeded (quota : QuotaPolicyRow) (current : Option PyFloat)

/-- The sum and the comparison. An infinite sum is above every limit. -/
def verdict (db : QuotaDb) (now : Nat) (req : UsageRequest) : Except Raised Verdict :=
  match ctl.quota? db req.scope with
  -- 0.0 + quantity
  | none => .ok (.admitted none .zero req.quantity)
  | some quota => do
    let current := ctl.totalUsage (usageSince quota now (usage db req.scope))
    raiseIf (req.unit ≠ quota.unit) (validationError "QUOTA_UNIT_MISMATCH" "usage unit does not match quota")
    match current, ctl.projected current req with
    | some current, some total =>
      return if quota.hardLimit.value < total.value then .exceeded quota (some current)
        else .admitted (some quota) current total
    | current, _ => return .exceeded quota current

/-- The refusal: the session with the audit entry, and what is raised. An infinite sum has no text in the entry. -/
def refuse (store : Store) (draw : UsageDraw) (quota : QuotaPolicyRow) (current : Option PyFloat) (req : UsageRequest) :
    Store × Raised :=
  match current with
  | none => (store, .valueError "Out of range float values are not JSON compliant")
  | some current =>
    match store.record svc draw.toStamp (deniedAudit quota current req) with
    | .ok store => (store, conflictError "QUOTA_HARD_LIMIT" "operation exceeds the configured hard quota"
        (limitDetails quota current req))
    | .error e => (store, e)

/-- The part of the transaction before the insert. -/
def admitUsage (db : QuotaDb) (draw : UsageDraw) (now : Nat) (req : UsageRequest) :
    Except Raised (Option QuotaPolicyRow × PyFloat × PyFloat) := do
  match ← ctl.verdict db now req with
  | .admitted quota current total => return (quota, current, total)
  | .exceeded quota current => .error (refuse svc db.toStore draw quota current req).2

def usageRow (draw : UsageDraw) (now : Nat) (req : UsageRequest) : UsageLedgerRow where
  usageId := draw.usageId
  tenantId := req.tenantId
  projectId := req.projectId
  operationId := req.operationId
  resourceType := req.resourceType
  quantity := req.quantity
  unit := req.unit
  unitCost := req.unitCost
  currency := ctl.upper req.currency
  priceSourceVersion := req.priceSourceVersion
  estimated := req.estimated
  metadataJson := req.metadata.getD []
  occurredAt := now

/-- The insert and the commit. -/
def recordUsage (db : QuotaDb) (draw : UsageDraw) (now : Nat) (req : UsageRequest) : Except Raised QuotaDb := do
  let ledger ← orRaise (db.ledger.insert? (ctl.usageRow draw now req)) (.integrityError "usage_ledger.usage_id")
  return { db with ledger }

def admissionResult (draw : UsageDraw) (req : UsageRequest) (quota : Option QuotaPolicyRow)
    (current total : PyFloat) : UsageAdmission where
  usageId := draw.usageId
  current := current
  projected := total
  softLimitExceeded := quota.any fun quota => quota.softLimit.value < total.value
  hardLimit := quota.map QuotaPolicyRow.hardLimit
  attributedCost := ctl.mul req.quantity req.unitCost
  currency := ctl.upper req.currency
  priceSourceVersion := req.priceSourceVersion

/-- One call without another in between. -/
def admitAndRecord (db : QuotaDb) (draw : UsageDraw) (req : UsageRequest) :
    Except Raised (UsageAdmission × QuotaDb) := do
  checkUsage req
  let (quota, current, total) ← ctl.admitUsage svc db draw draw.now req
  let db ← ctl.recordUsage db draw draw.now req
  return (ctl.admissionResult draw req quota current total, db)

end AdmissionController

end Sip
