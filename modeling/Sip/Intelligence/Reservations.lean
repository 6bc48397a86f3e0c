import Sip.Foundation.Interleaving
import Sip.Intelligence.Budget

/-!
# Budget reservations

A reservation is admitted from sums read while its transaction holds the lock on the
active policy, or on the whole database, and holds it until it commits. Releases need no
lock and only take reservations away, so what was compared with the limits still fits
when the new row is committed. Amounts are added exactly.
-/

namespace Sip
namespace OperationsIntelligenceService

set_option autoImplicit false

section Requests

structure ReserveRequest where
  tenantId : String
  projectId : String
  estimateId : String
  idempotencyKey : String
  operationId : Option String
  ttlSeconds : Int
  requestedBy : String
  overrideId : Option String := none

structure ReleaseRequest where
  tenantId : String
  projectId : String
  reservationId : String
  reason : String
  actorId : String

inductive BudgetRequest where
  | reserve (req : ReserveRequest)
  | release (req : ReleaseRequest)

/-- Why a reservation is not admitted. -/
structure Denial where
  code : String
  message : String
  details : Dict := []

/-- What a reservation is admitted under. -/
structure Admission where
  policy : BudgetPolicyRow
  override : Option BudgetOverrideRow
  estimate : CostEstimateRow

inductive Decision where
  | admitted (admission : Admission)
  | denied (denial : Denial)

end Requests

section Reserve
variable (ops : OperationsIntelligenceService) (svc : AuditService)

/-- The checks before the transaction, and the request with its key normalized. -/
def checkReserve (req : ReserveRequest) : Except Raised ReserveRequest := do
  raiseIf (req.ttlSeconds < 30 ∨ 86400 < req.ttlSeconds)
    (validationError "BUDGET_RESERVATION_TTL_INVALID" "reservation TTL must be between 30 and 86400 seconds")
  let idempotencyKey ← requireIdentifier req.idempotencyKey "BUDGET_RESERVATION_IDEMPOTENCY_INVALID" "idempotency_key"
    resourceMarks 255
  return { req with idempotencyKey }

def reservationFor? (db : BudgetDb) (req : ReserveRequest) : Option BudgetReservationRow :=
  db.reservations.rows.find? fun row => row.tenantId = req.tenantId ∧ row.projectId = req.projectId ∧
    row.idempotencyKey = req.idempotencyKey

/-- What is read before the policy: the estimate, and the reservation that the key already has. -/
def openReserve (db : BudgetDb) (req : ReserveRequest) (now : Nat) :
    Except Raised (CostEstimateRow × Option BudgetReservationRow) := do
  let _ ← requireProject db req.tenantId req.projectId
  let estimate ← orRaise (db.estimates.get? req.estimateId) (notFoundError "cost_estimate" req.estimateId)
  raiseIf (estimate.tenantId ≠ req.tenantId ∨ estimate.projectId ≠ req.projectId)
    (notFoundError "cost_estimate" req.estimateId)
  raiseIf (estimate.expiresAt ≤ now ∨ estimate.state ≠ "active")
    (conflictError "COST_ESTIMATE_EXPIRED" "cost estimate is not eligible for admission")
  match reservationFor? db req with
  | none => return (estimate, none)
  | some existing => do
    raiseIf (existing.estimateId ≠ req.estimateId ∨ existing.amount.value ≠ estimate.totalAmount.value ∨
        existing.currency ≠ estimate.currency)
      (conflictError "BUDGET_RESERVATION_IDEMPOTENCY_CONFLICT"
        "reservation idempotency key is bound to a different request")
    return (estimate, some existing)

/-- The reservations of the project that are neither released nor expired. -/
def activeReservations (db : BudgetDb) (tenantId projectId : String) (now : Nat) : List BudgetReservationRow :=
  db.reservations.rows.filter fun row => row.tenantId = tenantId ∧ row.projectId = projectId ∧ row.state = .reserved ∧
    now < row.expiresAt

def reservedSpend (db : BudgetDb) (tenantId projectId : String) (now : Nat) : ℚ :=
  ((activeReservations db tenantId projectId now).map fun row => row.amount.value).sum

/-- The recorded cost of the project in the period of the policy that ends now. -/
def periodActuals (db : BudgetDb) (policy : BudgetPolicyRow) (tenantId projectId : String) (now : Nat) : List ActualCostRow :=
  db.actuals.rows.filter fun row => row.tenantId = tenantId ∧ row.projectId = projectId ∧
    (now : Int) ≤ row.recordedAt + policy.periodSeconds * 1000000 ∧ row.currency = policy.currency

def actualSpend (db : BudgetDb) (policy : BudgetPolicyRow) (tenantId projectId : String) (now : Nat) : ℚ :=
  ((periodActuals db policy tenantId projectId now).map fun row => row.amount.value).sum

/-- `allowed` -/
def allowance (policy : BudgetPolicyRow) (override : Option BudgetOverrideRow) : ℚ :=
  policy.hardLimit.value + (override.map fun row => row.additionalAmount.value).getD 0

/-- The override that a request names, if it may be used under the policy. -/
def usableOverride (db : BudgetDb) (policy : BudgetPolicyRow) (req : ReserveRequest) (now : Nat) (overrideId : String) :
    Option BudgetOverrideRow :=
  (db.overrides.get? overrideId).filter fun row => row.tenantId = req.tenantId ∧ row.projectId = req.projectId ∧
    row.budgetId = policy.budgetId ∧ row.state = "active" ∧ now < row.expiresAt ∧ row.currency = policy.currency ∧
    row.requestedBy = req.requestedBy

/-- `int(input_class.get(key, default))` -/
def inputInt (estimate : CostEstimateRow) (key : String) (default : Int) : Except Raised Int :=
  ops.int ((estimate.inputClassJson.get? key).getD (.int default))

/-- The comparisons with the limits of a policy, in their order. -/
def withinLimits (db : BudgetDb) (req : ReserveRequest) (now : Nat) (admission : Admission) (storage retention : Int) :
    Decision :=
  let policy := admission.policy
  let active := (activeReservations db req.tenantId req.projectId now).length
  let actual := actualSpend db policy req.tenantId req.projectId now
  let reserved := reservedSpend db req.tenantId req.projectId now
  let allowed := allowance policy admission.override
  let requested := admission.estimate.totalAmount
  if policy.concurrencyLimit ≤ active then
    .denied ⟨"BUDGET_CONCURRENCY_LIMIT", "project concurrent-job limit has been reached",
      [("active", .int active), ("limit", .int policy.concurrencyLimit)]⟩
  else if policy.storageLimitBytes < storage then
    .denied ⟨"BUDGET_STORAGE_LIMIT", "estimated retained storage exceeds the project policy",
      [("requested", .int storage), ("limit", .int policy.storageLimitBytes)]⟩
  else if policy.retentionLimitDays < retention then
    .denied ⟨"BUDGET_RETENTION_LIMIT", "requested retention exceeds the project policy",
      [("requested", .int retention), ("limit", .int policy.retentionLimitDays)]⟩
  else if allowed < actual + reserved + requested.value then
    .denied ⟨"BUDGET_HARD_LIMIT", "operation exceeds the project hard budget",
      [("actual", .float (ops.float actual)), ("reserved", .float (ops.float reserved)), ("requested", .float requested),
        ("limit", .float (ops.float allowed))]⟩
  else .admitted admission

/-- The decision under a policy. An override that may not be used denies before any limit is looked at. -/
def decideUnder (db : BudgetDb) (req : ReserveRequest) (now : Nat) (policy : BudgetPolicyRow) (estimate : CostEstimateRow) :
    Except Raised Decision := do
  raiseIf ((now : Int) < policy.periodSeconds * 1000000) (.overflowError "date value out of range")
  let storage ← ops.inputInt estimate "storage_bytes" 0
  let retention ← ops.inputInt estimate "retention_days" 1
  match req.overrideId with
  | none => return ops.withinLimits db req now ⟨policy, none, estimate⟩ storage retention
  | some overrideId => match usableOverride db policy req now overrideId with
    | none => return .denied ⟨"BUDGET_OVERRIDE_INVALID",
        "budget override is missing, expired, wrong-scope, or requester-mismatched", []⟩
    | some row => return ops.withinLimits db req now ⟨policy, some row, estimate⟩ storage retention

def decideReserve (db : BudgetDb) (req : ReserveRequest) (now : Nat) (estimate : CostEstimateRow) : Except Raised Decision :=
  match ops.activeBudgetPolicy db req.tenantId req.projectId with
  | none => .ok (.denied ⟨"BUDGET_POLICY_MISSING", "no active budget policy applies to the project", []⟩)
  | some policy =>
    if policy.currency ≠ estimate.currency then
      .ok (.denied ⟨"BUDGET_CURRENCY_MISMATCH", "estimate currency does not match the budget policy", []⟩)
    else ops.decideUnder db req now policy estimate

/-- `UPDATE .. SET state = 'expired'` for the reservations of the project whose time is over. -/
def expireRow (req : ReserveRequest) (now : Nat) (row : BudgetReservationRow) : BudgetReservationRow :=
  if row.tenantId = req.tenantId ∧ row.projectId = req.projectId ∧ row.state = .reserved ∧ row.expiresAt ≤ now then
    { row with state := .expired }
  else row

def expireReservations (db : BudgetDb) (req : ReserveRequest) (now : Nat) : BudgetDb :=
  { db with reservations := db.reservations.mapRows (expireRow req now) fun r => by unfold expireRow; split <;> rfl }

def reservationRow (stamp : BudgetStamp) (req : ReserveRequest) (now : Nat) (admission : Admission) : BudgetReservationRow where
  reservationId := stamp.newId
  budgetId := admission.policy.budgetId
  tenantId := req.tenantId
  projectId := req.projectId
  operationId := req.operationId
  estimateId := req.estimateId
  idempotencyKey := req.idempotencyKey
  amount := admission.estimate.totalAmount
  currency := admission.estimate.currency
  requestedBy := req.requestedBy
  expiresAt := now + req.ttlSeconds.toNat * 1000000
  amount_nonneg := admission.estimate.amount_nonneg

def insertReservation (db : BudgetDb) (row : BudgetReservationRow) : Except Raised BudgetDb := do
  raiseIf (db.reservations.rows.any fun other => other.tenantId = row.tenantId ∧ other.projectId = row.projectId ∧
      other.idempotencyKey = row.idempotencyKey) (.integrityError "uq_budget_reservation_idempotency")
  let reservations ← orRaise (db.reservations.insert? row) (.integrityError "budget_reservations.reservation_id")
  return { db with reservations }

def reservationDetails (row : BudgetReservationRow) (override : Option BudgetOverrideRow) : Dict := [
  ("budget_id", .str row.budgetId), ("estimate_id", .str row.estimateId), ("amount", .float row.amount),
  ("currency", .str row.currency), ("expires_at", .str (isoformat row.expiresAt)),
  ("override_id", .ofOption (override.map BudgetOverrideRow.overrideId))]

def reservationChange (row : BudgetReservationRow) (override : Option BudgetOverrideRow) : Change where
  tenantId := row.tenantId
  projectId := some row.projectId
  actorId := row.requestedBy
  action := "budget:reserve"
  resourceType := "budget_reservation"
  resourceId := row.reservationId
  details := reservationDetails row override
  eventType := "budget.reservation_admitted"
  aggregateType := "budget_reservation"
  aggregateId := row.reservationId
  payload := reservationDetails row override

/-- The writes of an admitted reservation and the commit. -/
def commitReserve (db : BudgetDb) (stamp : BudgetStamp) (req : ReserveRequest) (now : Nat) (admission : Admission) :
    Except Raised BudgetDb := do
  let row := reservationRow stamp req now admission
  let db ← insertReservation (expireReservations db req now) row
  let store ← record svc db.toStore stamp.toStamp (reservationChange row admission.override)
  return { db with toStore := store }

/-- What is returned after an integrity error. -/
def replayReserve (db : BudgetDb) (req : ReserveRequest) : Except Raised BudgetReservationRow :=
  match (reservationFor? db req).filter fun existing => existing.estimateId = req.estimateId with
  | none => .error (conflictError "BUDGET_RESERVATION_CONCURRENT_CONFLICT"
      "concurrent reservation completed with inconsistent state")
  | some existing => .ok existing

def denialChange (stamp : BudgetStamp) (req : ReserveRequest) (denial : Denial) : Change where
  tenantId := req.tenantId
  projectId := some req.projectId
  actorId := req.requestedBy
  action := "budget:reserve"
  resourceType := "budget_admission_denial"
  resourceId := stamp.newId
  outcome := "denied"
  details := [("estimate_id", .str req.estimateId), ("reason_code", .str denial.code)] ++ denial.details
  eventType := "budget.admission_denied"
  aggregateType := "cost_estimate"
  aggregateId := req.estimateId
  payload := [("denial_id", .str stamp.newId), ("estimate_id", .str req.estimateId), ("reason_code", .str denial.code)]

/-- `_record_admission_denial` and the error that follows it. -/
def recordDenial (db : BudgetDb) (stamp : BudgetStamp) (req : ReserveRequest) (denial : Denial) : BudgetDb × Raised :=
  match record svc db.toStore stamp.toStamp (denialChange stamp req denial) with
  | .ok store => ({ db with toStore := store }, conflictError denial.code denial.message denial.details)
  | .error e => (db, e)

end Reserve

section Release
variable (svc : AuditService)

/-- `_bounded_string(reason, limit=256)` -/
def boundedString (value code field : String) (limit : Nat) : Except Raised String := do
  let candidate := strip value.toList
  raiseIf (candidate = [] ∨ limit < candidate.length ∨ candidate.any (fun c => c.toNat < 32 ∧ c ≠ '\t'))
    (validationError code (field ++ " is invalid") [("field", .str field)])
  return String.ofList (candidate.map fun c => if c = '\r' ∨ c = '\n' then ' ' else c)

/-- What a release reads: the reason as it is kept, and the row. -/
def openRelease (db : BudgetDb) (req : ReleaseRequest) : Except Raised (String × BudgetReservationRow) := do
  let reason ← boundedString req.reason "BUDGET_RELEASE_REASON_INVALID" "reason" 256
  let row ← orRaise (db.reservations.get? req.reservationId) (notFoundError "budget_reservation" req.reservationId)
  raiseIf (row.tenantId ≠ req.tenantId ∨ row.projectId ≠ req.projectId)
    (notFoundError "budget_reservation" req.reservationId)
  return (reason, row)

def releasedRow (reason : String) (now : Nat) (row : BudgetReservationRow) : BudgetReservationRow :=
  { row with state := .released, releasedAt := some now, releaseReason := some reason }

def releaseDetails (reason : String) (now : Nat) : Dict := [("reason", .str reason), ("released_at", .str (isoformat now))]

def releaseChange (req : ReleaseRequest) (reason : String) (now : Nat) : Change where
  tenantId := req.tenantId
  projectId := some req.projectId
  actorId := req.actorId
  action := "budget:release"
  resourceType := "budget_reservation"
  resourceId := req.reservationId
  details := releaseDetails reason now
  eventType := "budget.reservation_released"
  aggregateType := "budget_reservation"
  aggregateId := req.reservationId
  payload := releaseDetails reason now

/-- The writes of a release and the commit. -/
def commitRelease (db : BudgetDb) (stamp : BudgetStamp) (req : ReleaseRequest) (reason : String) : Except Raised BudgetDb := do
  let db := { db with
    reservations := db.reservations.modify req.reservationId (releasedRow reason stamp.now) fun _ => rfl }
  let store ← record svc db.toStore stamp.toStamp (releaseChange req reason stamp.now)
  return { db with toStore := store }

end Release

section Interleaving

/-- The database, and the call that holds the lock. -/
structure BudgetShared where
  db : BudgetDb
  lock : Option Nat

/-- How far a call has come, or what it has ended with. -/
inductive BudgetCall where
  | waiting (request : BudgetRequest)
  | started (req : ReserveRequest) (now : Nat)
  | opened (req : ReserveRequest) (now : Nat) (estimate : CostEstimateRow)
  | holding (req : ReserveRequest) (now : Nat) (admission : Admission)
  | raced (req : ReserveRequest)
  | denied (req : ReserveRequest) (denial : Denial)
  | releasing (req : ReleaseRequest) (reason : String)
  | admitted (now : Nat) (admission : Admission) (row : BudgetReservationRow)
  | replayed (row : BudgetReservationRow)
  | released
  | refused (error : Raised)

variable (ops : OperationsIntelligenceService) (svc : AuditService)

/-- Beginning the transaction. On SQLite it begins with the write lock. -/
def nextOpen (who : Nat) (s : BudgetShared) (req : ReserveRequest) (now : Nat) : BudgetShared × BudgetCall :=
  match openReserve s.db req now with
  | .error e => (s, .refused e)
  | .ok (_, some existing) => (s, .replayed existing)
  | .ok (estimate, none) => (if ops.sqlite then { s with lock := some who } else s, .opened req now estimate)

/-- Reading the policy with its lock, and the decision. -/
def nextDecide (who : Nat) (s : BudgetShared) (req : ReserveRequest) (now : Nat) (estimate : CostEstimateRow) :
    BudgetShared × BudgetCall :=
  match ops.decideReserve s.db req now estimate with
  | .error e => ({ s with lock := none }, .refused e)
  | .ok (.denied denial) => ({ s with lock := none }, .denied req denial)
  | .ok (.admitted admission) => ({ s with lock := some who }, .holding req now admission)

/-- The commit gives the lock back. -/
def nextCommit (s : BudgetShared) (stamp : BudgetStamp) (req : ReserveRequest) (now : Nat) (admission : Admission) :
    BudgetShared × BudgetCall :=
  match commitReserve svc s.db stamp req now admission with
  | .ok db => (⟨db, none⟩, .admitted now admission (reservationRow stamp req now admission))
  | .error (.integrityError _) => ({ s with lock := none }, .raced req)
  | .error e => ({ s with lock := none }, .refused e)

/-- The next step of a call. Writers wait for the lock on SQLite; on other databases only the policy row is locked. -/
def next (who : Nat) (stamp : BudgetStamp) (s : BudgetShared) : BudgetCall → Option (BudgetShared × BudgetCall)
  | .waiting (.reserve req) => match checkReserve req with
    | .ok req => some (s, .started req stamp.now)
    | .error e => some (s, .refused e)
  | .started req now => if ops.sqlite = true ∧ s.lock ≠ none then none else some (ops.nextOpen who s req now)
  | .opened req now estimate =>
    if ops.sqlite = false ∧ s.lock ≠ none then none else some (ops.nextDecide who s req now estimate)
  | .holding req now admission => some (nextCommit svc s stamp req now admission)
  | .raced req => match replayReserve s.db req with
    | .ok row => some (s, .replayed row)
    | .error e => some (s, .refused e)
  | .denied req denial =>
    if ops.sqlite = true ∧ s.lock ≠ none then none
    else some ({ s with db := (recordDenial svc s.db stamp req denial).1 }, .refused (recordDenial svc s.db stamp req denial).2)
  | .waiting (.release req) => match openRelease s.db req with
    | .ok (reason, row) =>
      if row.state = .reserved then some (s, .releasing req reason) else some (s, .replayed row)
    | .error e => some (s, .refused e)
  | .releasing req reason =>
    if ops.sqlite = true ∧ s.lock ≠ none then none
    else match commitRelease svc s.db stamp req reason with
      | .ok db => some ({ s with db }, .released)
      | .error e => some (s, .refused e)
  | .admitted .. | .replayed _ | .released | .refused _ => none

abbrev BudgetPool := Pool BudgetShared BudgetCall

/-- Calls that have arrived and not yet started. -/
def arrived (db : BudgetDb) (request : Nat → BudgetRequest) : BudgetPool := ⟨⟨db, none⟩, fun i => .waiting (request i)⟩

end Interleaving

end OperationsIntelligenceService

end Sip
