import Sip.Foundation.PlainDigests
import Sip.Foundation.Runs
import Sip.PyValue
import Sip.Audit.Successive

/-!
# Budget policies

A policy is recognised by the hash of its terms. Registering a new one deactivates the
active policy of its scope; registering a known one returns the row that is there as it
is. Reservations are admitted under the active policy of the project, or of the tenant.
-/

namespace Sip

set_option autoImplicit false

/-- What a policy says; `policy_hash` is the hash of it. -/
structure BudgetTerms where
  tenantId : String
  projectId : Option String
  revision : String
  currency : String
  periodSeconds : Int
  softLimit : PyFloat
  hardLimit : PyFloat
  concurrencyLimit : Int
  storageLimitBytes : Int
  retentionLimitDays : Int
  anomalyThreshold : PyFloat
  deriving DecidableEq

def BudgetTerms.body (terms : BudgetTerms) : Dict := [
  ("tenant_id", .str terms.tenantId), ("project_id", .ofOption terms.projectId), ("revision", .str terms.revision),
  ("currency", .str terms.currency), ("period_seconds", .int terms.periodSeconds), ("soft_limit", .float terms.softLimit),
  ("hard_limit", .float terms.hardLimit), ("concurrency_limit", .int terms.concurrencyLimit),
  ("storage_limit_bytes", .int terms.storageLimitBytes), ("retention_limit_days", .int terms.retentionLimitDays),
  ("anomaly_threshold", .float terms.anomalyThreshold)]

def BudgetTerms.digest (terms : BudgetTerms) : String := canonicalSha256 (.obj terms.body)

structure BudgetPolicyRow extends BudgetTerms where
  budgetId : String
  active : Bool := true
  policyHash : String
  createdBy : String

/-- Estimates and costs are sums of nonnegative quantities at nonnegative rates. -/
structure CostEstimateRow where
  estimateId : String
  tenantId : String
  projectId : String
  inputClassJson : Dict
  totalAmount : PyFloat
  currency : String
  state : String := "active"
  expiresAt : Nat
  amount_nonneg : 0 ≤ totalAmount.value

structure ActualCostRow where
  actualId : String
  tenantId : String
  projectId : String
  amount : PyFloat
  currency : String
  recordedAt : Nat
  amount_nonneg : 0 ≤ amount.value

inductive ReservationState where
  | reserved | released | expired
  deriving DecidableEq

structure BudgetReservationRow where
  reservationId : String
  budgetId : String
  tenantId : String
  projectId : String
  operationId : Option String
  estimateId : String
  idempotencyKey : String
  amount : PyFloat
  currency : String
  state : ReservationState := .reserved
  requestedBy : String
  expiresAt : Nat
  releasedAt : Option Nat := none
  releaseReason : Option String := none
  amount_nonneg : 0 ≤ amount.value

structure BudgetOverrideRow where
  overrideId : String
  budgetId : String
  tenantId : String
  projectId : String
  requestedBy : String
  additionalAmount : PyFloat
  currency : String
  expiresAt : Nat
  state : String := "pending"

structure BudgetDb extends Store where
  policies : Table BudgetPolicyRow (fun row => row.budgetId)
  estimates : Table CostEstimateRow (fun row => row.estimateId)
  actuals : Table ActualCostRow (fun row => row.actualId)
  reservations : Table BudgetReservationRow (fun row => row.reservationId)
  overrides : Table BudgetOverrideRow (fun row => row.overrideId)

def BudgetDb.empty : BudgetDb := { Store.empty with
  policies := .empty, estimates := .empty, actuals := .empty, reservations := .empty, overrides := .empty }

/-- The database that the service runs on: whether it is SQLite and where it sorts NULL in descending order; `str.upper()`,
`int(value)` and the float nearest to an amount, which only the details of a refusal hold. -/
structure OperationsIntelligenceService where
  sqlite : Bool
  nullsFirst : Bool
  upper : String → String
  int : Json → Except Raised Int
  float : ℚ → PyFloat

namespace OperationsIntelligenceService
variable (ops : OperationsIntelligenceService) (svc : AuditService)

section Identifiers

/-- The characters besides ASCII letters and digits that a pattern permits after the first one. -/
def versionMarks : List Char := ['_', '.', ':', '+', '-']

def resourceMarks : List Char := ['_', '.', ':', '/', '@', '-']

/-- `[A-Za-z0-9][A-Za-z0-9..]{0,limit}` -/
def matchesPattern (marks : List Char) (limit : Nat) : List Char → Bool
  | [] => false
  | c :: cs => c.isAlphanum && cs.all (fun c => c.isAlphanum || c ∈ marks) && cs.length ≤ limit

/-- `_require_identifier` -/
def requireIdentifier (value code field : String) (marks : List Char) (limit : Nat) : Except Raised String := do
  let candidate := strip value.toList
  raiseIf (matchesPattern marks limit candidate = false)
    (validationError code (field ++ " is invalid") [("field", .str field)])
  return String.ofList candidate

/-- `[A-Z]{3}` -/
def isCurrency (text : String) : Bool := text.toList.length = 3 ∧ text.toList.all Char.isUpper = true

def requireProject (db : BudgetDb) (tenantId projectId : String) : Except Raised ProjectRow := do
  let project ← orRaise (db.projects.get? projectId) (notFoundError "project" projectId)
  raiseIf (project.tenantId ≠ tenantId) (notFoundError "project" projectId)
  return project

end Identifiers

section Recording

/-- A change as it is audited and published. -/
structure Change where
  tenantId : String
  projectId : Option String
  actorId : String
  action : String
  resourceType : String
  resourceId : String
  outcome : String := "allowed"
  details : Dict
  eventType : String
  aggregateType : String
  aggregateId : String
  payload : Dict

def Change.audit (change : Change) : AuditRequest where
  tenantId := change.tenantId
  projectId := change.projectId
  actorId := change.actorId
  action := change.action
  resourceType := change.resourceType
  resourceId := change.resourceId
  outcome := change.outcome
  details := some change.details

/-- An event of no project is published under the empty project identifier. -/
def Change.event (change : Change) : EventRequest where
  eventType := change.eventType
  schemaVersion := "1.0.0"
  tenantId := change.tenantId
  projectId := change.projectId.getD ""
  aggregateType := change.aggregateType
  aggregateId := change.aggregateId
  payload := change.payload
  producer := "operations-intelligence"
  actorId := some change.actorId
  workloadIdentity := none
  correlationId := change.aggregateId

/-- `self.audit.append(..)` and `self._emit(..)`. -/
def record (store : Store) (stamp : Stamp) (change : Change) : Except Raised Store := do
  let store ← store.record svc stamp change.audit
  store.emit stamp change.event

end Recording

section Policies

/-- What a call draws: an identifier for its row besides the stamp. -/
structure BudgetStamp extends Stamp where
  newId : String

structure PolicyRequest where
  terms : BudgetTerms
  actorId : String

/-- The checks at the head of `register_budget_policy`, and the terms with currency and revision normalized. -/
def normalizedTerms (terms : BudgetTerms) : Except Raised BudgetTerms := do
  let currency := ops.upper terms.currency
  raiseIf (isCurrency currency = false) (validationError "BUDGET_CURRENCY_INVALID" "budget currency is invalid")
  let revision ← requireIdentifier terms.revision "BUDGET_REVISION_INVALID" "revision" versionMarks 127
  raiseIf (terms.periodSeconds ≤ 0 ∨ terms.softLimit.value < 0 ∨ terms.hardLimit.value ≤ 0 ∨
      terms.hardLimit.value < terms.softLimit.value ∨ terms.concurrencyLimit < 1 ∨ terms.storageLimitBytes < 0 ∨
      terms.retentionLimitDays < 1 ∨ terms.anomalyThreshold.value ≤ 1)
    (validationError "BUDGET_POLICY_INVALID" "budget policy values are invalid")
  return { terms with currency, revision }

def requireScope (db : BudgetDb) (tenantId : String) : Option String → Except Raised Unit
  | none => .ok ()
  | some projectId => do
    let _ ← requireProject db tenantId projectId
    return ()

/-- The active policies of exactly this tenant and project, or of the tenant itself. -/
def activePolicies (db : BudgetDb) (tenantId : String) (projectId : Option String) : List BudgetPolicyRow :=
  db.policies.rows.filter fun row => row.tenantId = tenantId ∧ row.projectId = projectId ∧ row.active = true

def BudgetPolicyRow.deactivated (row : BudgetPolicyRow) : BudgetPolicyRow := { row with active := false }

/-- `latest.active = False`, where `latest` is the first row that the query returns. -/
def deactivateLatest (db : BudgetDb) (tenantId : String) (projectId : Option String) : BudgetDb :=
  match (activePolicies db tenantId projectId).head? with
  | none => db
  | some latest => { db with policies := db.policies.modify latest.budgetId BudgetPolicyRow.deactivated fun _ => rfl }

def policyRow (terms : BudgetTerms) (budgetId actorId : String) : BudgetPolicyRow :=
  { terms with budgetId, policyHash := terms.digest, createdBy := actorId }

def insertPolicy (db : BudgetDb) (row : BudgetPolicyRow) : Except Raised BudgetDb := do
  raiseIf (db.policies.rows.any fun other => other.policyHash = row.policyHash)
    (.integrityError "budget_policies.policy_hash")
  let policies ← orRaise (db.policies.insert? row) (.integrityError "budget_policies.budget_id")
  return { db with policies }

def policyDetails (row : BudgetPolicyRow) : Dict := [
  ("revision", .str row.revision), ("currency", .str row.currency), ("soft_limit", .float row.softLimit),
  ("hard_limit", .float row.hardLimit), ("concurrency_limit", .int row.concurrencyLimit),
  ("policy_hash", .str row.policyHash)]

def policyChange (row : BudgetPolicyRow) : Change where
  tenantId := row.tenantId
  projectId := row.projectId
  actorId := row.createdBy
  action := "budget_policy:register"
  resourceType := "budget_policy"
  resourceId := row.budgetId
  details := policyDetails row
  eventType := "budget.policy_registered"
  aggregateType := "budget_policy"
  aggregateId := row.budgetId
  payload := policyDetails row

/-- The policy, and whether it was there before. -/
structure PolicyResult where
  policy : BudgetPolicyRow
  idempotentReplay : Bool

/-- A policy that no row has the hash of. -/
def insertNewPolicy (db : BudgetDb) (stamp : BudgetStamp) (terms : BudgetTerms) (actorId : String) :
    Except Raised (PolicyResult × BudgetDb) := do
  let row := policyRow terms stamp.newId actorId
  let db ← insertPolicy (deactivateLatest db terms.tenantId terms.projectId) row
  let store ← record svc db.toStore stamp.toStamp (policyChange row)
  return (⟨row, false⟩, { db with toStore := store })

def registerBudgetPolicy (db : BudgetDb) (stamp : BudgetStamp) (req : PolicyRequest) :
    Except Raised (PolicyResult × BudgetDb) := do
  let terms ← ops.normalizedTerms req.terms
  requireScope db terms.tenantId terms.projectId
  match db.policies.rows.find? fun row => row.policyHash = terms.digest with
  | some existing => return (⟨existing, true⟩, db)
  | none => insertNewPolicy svc db stamp terms req.actorId

/-- The statement that `reserve_budget` reads its policy with: `ORDER BY project_id DESC LIMIT 1` among the active policies
of the project and of the tenant. -/
def activeBudgetPolicy (db : BudgetDb) (tenantId projectId : String) : Option BudgetPolicyRow :=
  let ofProject := (activePolicies db tenantId (some projectId)).head?
  let ofTenant := (activePolicies db tenantId none).head?
  if ops.nullsFirst then ofTenant <|> ofProject else ofProject <|> ofTenant

end Policies

section Registrations

structure Registration where
  req : PolicyRequest
  stamp : BudgetStamp

def register (db : BudgetDb) (call : Registration) : BudgetDb :=
  match ops.registerBudgetPolicy svc db call.stamp call.req with
  | .ok (_, db') => db'
  | .error _ => db

/-- Rows are told apart by their hash, which is that of their terms, and a scope has at most one active policy. -/
structure Lawful (db : BudgetDb) : Prop where
  hashed : ∀ row ∈ db.policies.rows, row.policyHash = row.digest
  distinct : ∀ a ∈ db.policies.rows, ∀ b ∈ db.policies.rows, a.policyHash = b.policyHash → a = b
  single : ∀ a ∈ db.policies.rows, ∀ b ∈ db.policies.rows, a.active = true → b.active = true → a.tenantId = b.tenantId →
    a.projectId = b.projectId → a = b

/-- The terms are those of the only active policy of their scope, and reservations are admitted under it in every project
of the scope for which no policy of the other scope is active. -/
def InForce (db : BudgetDb) (terms : BudgetTerms) : Prop :=
  ∃ row, activePolicies db terms.tenantId terms.projectId = [row] ∧ row.toBudgetTerms = terms ∧
    (terms.projectId = none → ∀ projectId, activePolicies db terms.tenantId (some projectId) = [] →
      ops.activeBudgetPolicy db terms.tenantId projectId = some row) ∧
    (∀ projectId, terms.projectId = some projectId → activePolicies db terms.tenantId none = [] →
      ops.activeBudgetPolicy db terms.tenantId projectId = some row)

/-- Every known policy with the hash of these terms has these terms and is active. -/
def NotReplaced (db : BudgetDb) (terms : BudgetTerms) : Prop :=
  ∀ row ∈ db.policies.rows, row.policyHash = terms.digest → row.toBudgetTerms = terms ∧ row.active = true

variable {ops svc} {db db' : BudgetDb} {terms : BudgetTerms}

theorem mem_activePolicies_iff {tenantId : String} {projectId : Option String} {row : BudgetPolicyRow} :
    row ∈ activePolicies db tenantId projectId ↔
      row ∈ db.policies.rows ∧ row.tenantId = tenantId ∧ row.projectId = projectId ∧ row.active = true := by
  simp [activePolicies]

/-- The active policies of a scope are one at most. -/
theorem Lawful.activePolicies_eq (h : Lawful db) {row : BudgetPolicyRow} (hrow : row ∈ db.policies.rows)
    (hactive : row.active = true) : activePolicies db row.tenantId row.projectId = [row] := by
  have hmem : row ∈ activePolicies db row.tenantId row.projectId := mem_activePolicies_iff.mpr ⟨hrow, rfl, rfl, hactive⟩
  have hall : ∀ other ∈ activePolicies db row.tenantId row.projectId, other = row := by
    intro other hother
    obtain ⟨hotherrow, htenant, hproject, hotheractive⟩ := mem_activePolicies_iff.mp hother
    exact h.single other hotherrow row hrow hotheractive hactive htenant hproject
  have hnodup : (activePolicies db row.tenantId row.projectId).Nodup := (List.Nodup.of_map _ db.policies.nodup).filter _
  cases hlist : activePolicies db row.tenantId row.projectId with
  | nil =>
    rw [hlist] at hmem
    cases hmem
  | cons first rest =>
    rw [hlist] at hall hnodup
    have hfirst : first = row := hall first List.mem_cons_self
    cases rest with
    | nil => rw [hfirst]
    | cons second rest =>
      have hsecond : second = row := hall second (by simp)
      simp [hfirst, hsecond] at hnodup

theorem inForce_of_mem (h : Lawful db) {row : BudgetPolicyRow} (hrow : row ∈ db.policies.rows) (hactive : row.active = true) :
    InForce ops db row.toBudgetTerms := by
  have hown := h.activePolicies_eq hrow hactive
  refine ⟨row, hown, rfl, ?_, ?_⟩
  · intro hnone projectId hother
    rw [hnone] at hown
    simp [activeBudgetPolicy, hown, hother]
  · intro projectId hsome hother
    rw [hsome] at hown
    simp [activeBudgetPolicy, hown, hother]

/-- Terms are in force if and only if a row with them is active. -/
theorem inForce_iff (h : Lawful db) : InForce ops db terms ↔
    ∃ row ∈ db.policies.rows, row.toBudgetTerms = terms ∧ row.active = true := by
  constructor
  · rintro ⟨row, hactive, hterms, _⟩
    have hmem : row ∈ activePolicies db terms.tenantId terms.projectId := by
      rw [hactive]
      exact List.mem_singleton_self row
    obtain ⟨hrow, _, _, hrowactive⟩ := mem_activePolicies_iff.mp hmem
    exact ⟨row, hrow, hterms, hrowactive⟩
  · rintro ⟨row, hrow, rfl, hactive⟩
    exact inForce_of_mem h hrow hactive

theorem deactivateLatest_rows (tenantId : String) (projectId : Option String) (h : Lawful db) :
    (deactivateLatest db tenantId projectId).policies.rows = db.policies.rows.map fun row =>
      if row.tenantId = tenantId ∧ row.projectId = projectId ∧ row.active = true then BudgetPolicyRow.deactivated row
      else row := by
  unfold deactivateLatest
  cases hlatest : (activePolicies db tenantId projectId).head? with
  | none =>
    have hnone : activePolicies db tenantId projectId = [] := List.head?_eq_none_iff.mp hlatest
    refine (List.map_id _).symm.trans (List.map_congr_left ?_)
    intro row hrow
    rw [if_neg]
    · rfl
    · intro hscope
      have hmem := mem_activePolicies_iff.mpr ⟨hrow, hscope⟩
      rw [hnone] at hmem
      cases hmem
  | some latest =>
    obtain ⟨hlatestrow, htenant, hproject, hactive⟩ := mem_activePolicies_iff.mp (List.mem_of_head? hlatest)
    apply List.map_congr_left
    intro row hrow
    by_cases hid : row.budgetId = latest.budgetId
    · have heq : row = latest := by
        have hfound := (db.policies.mem_rows_iff row).mp hrow
        rw [hid, (db.policies.mem_rows_iff latest).mp hlatestrow] at hfound
        exact (Option.some.inj hfound).symm
      rw [if_pos hid, if_pos (heq ▸ ⟨htenant, hproject, hactive⟩)]
    · rw [if_neg hid, if_neg]
      rintro ⟨hrowtenant, hrowproject, hrowactive⟩
      exact hid (congrArg _ (h.single row hrow latest hlatestrow hrowactive hactive (hrowtenant.trans htenant.symm)
        (hrowproject.trans hproject.symm)))

theorem record_ok {store store' : Store} {stamp : Stamp} {change : Change} (h : record svc store stamp change = .ok store') :
    ∃ audit outbox, store' = { store with audit, outbox } := by
  simp only [record, bind_eq_ok] at h
  obtain ⟨audited, haudit, hemit⟩ := h
  obtain ⟨audit, rfl⟩ := Store.record_eq_ok haudit
  obtain ⟨outbox, rfl⟩ := Store.emit_eq_ok hemit
  exact ⟨audit, outbox, rfl⟩

/-- The rows after a new policy has been inserted. -/
theorem insertNewPolicy_ok {stamp : BudgetStamp} {actorId : String} {result : PolicyResult} (hdb : Lawful db)
    (h : insertNewPolicy svc db stamp terms actorId = .ok (result, db')) :
    result.policy = policyRow terms stamp.newId actorId ∧
    db'.policies.rows = (db.policies.rows.map fun row =>
      if row.tenantId = terms.tenantId ∧ row.projectId = terms.projectId ∧ row.active = true
        then BudgetPolicyRow.deactivated row else row) ++ [policyRow terms stamp.newId actorId] := by
  simp only [insertNewPolicy, insertPolicy, bind_eq_ok, orRaise_eq_ok] at h
  obtain ⟨inserted, ⟨_, _, policies, hpolicies, hinserted⟩, store, _, h⟩ := h
  cases hinserted
  cases h
  refine ⟨rfl, ?_⟩
  rw [← deactivateLatest_rows _ _ hdb]
  exact (Table.insert?_eq_some hpolicies).2

theorem deactivated_hash (row : BudgetPolicyRow) : (BudgetPolicyRow.deactivated row).policyHash = row.policyHash := rfl

/-- A new policy keeps the law: its hash is new, and it is the only active one of its scope. -/
theorem lawful_insertNewPolicy {stamp : BudgetStamp} {actorId : String} {result : PolicyResult} (hdb : Lawful db)
    (hnew : ∀ row ∈ db.policies.rows, row.policyHash ≠ terms.digest)
    (h : insertNewPolicy svc db stamp terms actorId = .ok (result, db')) : Lawful db' := by
  obtain ⟨_, hrows⟩ := insertNewPolicy_ok hdb h
  let change : BudgetPolicyRow → BudgetPolicyRow := fun row =>
    if row.tenantId = terms.tenantId ∧ row.projectId = terms.projectId ∧ row.active = true
      then BudgetPolicyRow.deactivated row else row
  have hterms : ∀ row, (change row).toBudgetTerms = row.toBudgetTerms := by
    intro row
    simp only [change]
    split <;> rfl
  have hhash : ∀ row, (change row).policyHash = row.policyHash := by
    intro row
    simp only [change]
    split <;> rfl
  have hactive : ∀ row, (change row).active = true → change row = row ∧
      ¬ (row.tenantId = terms.tenantId ∧ row.projectId = terms.projectId) := by
    intro row hrow
    simp only [change] at hrow ⊢
    split at hrow
    · cases hrow
    · rename_i hscope
      rw [if_neg hscope]
      exact ⟨rfl, fun hsame => hscope ⟨hsame.1, hsame.2, hrow⟩⟩
  have hcases : ∀ row ∈ db'.policies.rows,
      (∃ old ∈ db.policies.rows, row = change old) ∨ row = policyRow terms stamp.newId actorId := by
    intro row hrow
    rw [hrows, List.mem_append, List.mem_map, List.mem_singleton] at hrow
    rcases hrow with ⟨old, hold, heq⟩ | heq
    · exact .inl ⟨old, hold, heq.symm⟩
    · exact .inr heq
  refine ⟨?_, ?_, ?_⟩
  · intro row hrow
    rcases hcases row hrow with ⟨old, hold, rfl⟩ | rfl
    · rw [hhash, hdb.hashed old hold, hterms]
    · rfl
  · intro a ha b hb hab
    rcases hcases a ha with ⟨a, hold, rfl⟩ | rfl <;> rcases hcases b hb with ⟨b, hother, rfl⟩ | rfl
    · rw [hhash, hhash] at hab
      rw [hdb.distinct a hold b hother hab]
    · rw [hhash] at hab
      exact absurd hab (hnew a hold)
    · rw [hhash] at hab
      exact absurd hab.symm (hnew b hother)
    · rfl
  · intro a ha b hb haactive hbactive htenant hproject
    rcases hcases a ha with ⟨a, hold, rfl⟩ | rfl <;> rcases hcases b hb with ⟨b, hother, rfl⟩ | rfl
    · obtain ⟨hasame, _⟩ := hactive a haactive
      obtain ⟨hbsame, _⟩ := hactive b hbactive
      rw [hasame] at haactive htenant hproject ⊢
      rw [hbsame] at hbactive htenant hproject ⊢
      exact hdb.single a hold b hother haactive hbactive htenant hproject
    · obtain ⟨hsame, hother⟩ := hactive a haactive
      rw [hsame] at htenant hproject
      exact absurd ⟨htenant, hproject⟩ hother
    · obtain ⟨hsame, hother⟩ := hactive b hbactive
      rw [hsame] at htenant hproject
      exact absurd ⟨htenant.symm, hproject.symm⟩ hother
    · rfl

/-- A registration that succeeds has found a row with the hash of the terms, or has inserted one. -/
theorem registerBudgetPolicy_ok {stamp : BudgetStamp} {req : PolicyRequest} {result : PolicyResult}
    (h : ops.registerBudgetPolicy svc db stamp req = .ok (result, db')) : ∃ terms, ops.normalizedTerms req.terms = .ok terms ∧
      ((db' = db ∧ ∃ row ∈ db.policies.rows, row.policyHash = terms.digest) ∨
        ((∀ row ∈ db.policies.rows, row.policyHash ≠ terms.digest) ∧
          insertNewPolicy svc db stamp terms req.actorId = .ok (result, db'))) := by
  simp only [registerBudgetPolicy, bind_eq_ok] at h
  obtain ⟨terms, hterms, _, _, h⟩ := h
  refine ⟨terms, hterms, ?_⟩
  split at h
  next existing hexisting =>
    cases h
    have hhash := List.find?_some hexisting
    simp only [decide_eq_true_eq] at hhash
    exact .inl ⟨rfl, existing, List.mem_of_find?_eq_some hexisting, hhash⟩
  next hnone =>
    refine .inr ⟨?_, h⟩
    intro row hrow
    simpa using List.find?_eq_none.mp hnone row hrow

theorem lawful_register (call : Registration) (hdb : Lawful db) : Lawful (ops.register svc db call) := by
  unfold register
  split
  next result db' h =>
    obtain ⟨terms, _, ⟨rfl, _⟩ | ⟨hnew, hinsert⟩⟩ := registerBudgetPolicy_ok h
    · exact hdb
    · exact lawful_insertNewPolicy hdb hnew hinsert
  next => exact hdb

/-- What is in force after one registration. -/
theorem inForce_register_iff (hdb : Lawful db) {stamp : BudgetStamp} {req : PolicyRequest} {result : PolicyResult}
    (h : ops.registerBudgetPolicy svc db stamp req = .ok (result, db')) : ∃ terms, ops.normalizedTerms req.terms = .ok terms ∧
      (InForce ops db' terms ↔ NotReplaced db terms) := by
  obtain ⟨terms, hterms, ⟨rfl, known, hknown, hhash⟩ | ⟨hnew, hinsert⟩⟩ := registerBudgetPolicy_ok h
  · refine ⟨terms, hterms, (inForce_iff hdb).trans ⟨?_, ?_⟩⟩
    · rintro ⟨row, hrow, rfl, hactive⟩ other hother hotherhash
      have heq : other = row := hdb.distinct other hother row hrow (hotherhash.trans (hdb.hashed row hrow).symm)
      rw [heq]
      exact ⟨rfl, hactive⟩
    · intro hkept
      exact ⟨known, hknown, hkept known hknown hhash⟩
  · refine ⟨terms, hterms, (inForce_iff (lawful_insertNewPolicy hdb hnew hinsert)).trans ⟨?_, ?_⟩⟩
    · intro _ row hrow hhash
      exact absurd hhash (hnew row hrow)
    · intro _
      refine ⟨policyRow terms stamp.newId req.actorId, ?_, rfl, rfl⟩
      rw [(insertNewPolicy_ok hdb hinsert).2]
      exact List.mem_append_right _ (List.mem_singleton_self _)

/-- After every history of registrations: the terms of the next successful one are in force after it if and only if no
policy with their hash has been replaced before. -/
theorem registered_in_force_iff (ops : OperationsIntelligenceService) (svc : AuditService) (db : BudgetDb)
    (hempty : db.policies.rows = []) (history : List Registration) {call : Registration} {result : PolicyResult}
    {db' : BudgetDb}
    (h : ops.registerBudgetPolicy svc (run (ops.register svc) db history) call.stamp call.req = .ok (result, db')) :
    ∃ terms, ops.normalizedTerms call.req.terms = .ok terms ∧
      (InForce ops db' terms ↔ NotReplaced (run (ops.register svc) db history) terms) := by
  have hstart : Lawful db := by
    constructor <;> rw [hempty] <;> exact fun _ h => absurd h List.not_mem_nil
  exact inForce_register_iff (run_invariant (fun _ call hdb => lawful_register call hdb) hstart history) h

end Registrations

section Success

theorem brief_float {x : PyFloat} (h : x.text.toList.length ≤ 64) : Brief (.float x) := by
  obtain ⟨hnormal, hwalk⟩ := @permitted_scalar (.float x) trivial
  refine ⟨hnormal, hwalk, ?_⟩
  rw [Json.encode, Number.text]
  omega

variable {svc : AuditService} {db db' : BudgetDb}

/-- A change whose audit entry is accepted is recorded, if its event is in the catalog and its payload is short. -/
theorem record_total {store : Store} {stamp : Stamp} {change : Change} {log : AuditLog} {entry : EventCatalogEntry}
    (haudit : store.record svc stamp change.audit = .ok { store with audit := log })
    (hcatalog : getEvent change.eventType "1.0.0" = .ok entry) (howner : "operations-intelligence" = entry.owner)
    (haggregate : entry.aggregate = change.aggregateType) (hpayload : validatePayload change.payload = .ok ()) :
    ∃ outbox, record svc store stamp change = .ok { store with audit := log, outbox } := by
  obtain ⟨event, hevent⟩ := Store.emit_total { store with audit := log } stamp (r := change.event) hcatalog howner
    haggregate hpayload
  simp only [record, bind_eq_ok]
  exact ⟨_, _, haudit, hevent⟩

theorem validatePayload_policyDetails {row : BudgetPolicyRow} (hrevision : row.revision.toList.length ≤ 64)
    (hcurrency : row.currency.toList.length ≤ 64) (hsoft : row.softLimit.text.toList.length ≤ 64)
    (hhard : row.hardLimit.text.toList.length ≤ 64) (hconcurrency : row.concurrencyLimit.natAbs < 2 ^ 63)
    (hhash : row.policyHash.toList.length ≤ 64) : validatePayload (policyDetails row) = .ok () := by
  have hkeys : (policyDetails row).map Prod.fst =
      ["revision", "currency", "soft_limit", "hard_limit", "concurrency_limit", "policy_hash"] := rfl
  apply validatePayload_brief hkeys rfl (by decide)
  intro p hp
  simp only [policyDetails, List.mem_cons, List.not_mem_nil, or_false] at hp
  rcases hp with rfl | rfl | rfl | rfl | rfl | rfl
  · exact brief_str hrevision
  · exact brief_str hcurrency
  · exact brief_float hsoft
  · exact brief_float hhard
  · exact brief_int hconcurrency
  · exact brief_str hhash

/-- A policy with a new hash is registered as soon as its row and the audit entry are accepted. -/
theorem registerBudgetPolicy_of_new {ops : OperationsIntelligenceService} {stamp : BudgetStamp} {req : PolicyRequest}
    {terms : BudgetTerms} {row : BudgetPolicyRow} {inserted : BudgetDb} {store : Store}
    (hterms : ops.normalizedTerms req.terms = .ok terms) (hscope : requireScope db terms.tenantId terms.projectId = .ok ())
    (hnew : (db.policies.rows.find? fun row => row.policyHash = terms.digest) = none)
    (hrow : policyRow terms stamp.newId req.actorId = row)
    (hinsert : insertPolicy (deactivateLatest db terms.tenantId terms.projectId) row = .ok inserted)
    (hrecord : record svc inserted.toStore stamp.toStamp (policyChange row) = .ok store) :
    ops.registerBudgetPolicy svc db stamp req = .ok (⟨row, false⟩, { inserted with toStore := store }) := by
  subst hrow
  simp only [registerBudgetPolicy, bind_eq_ok]
  refine ⟨terms, hterms, (), hscope, ?_⟩
  rw [hnew]
  simp only [insertNewPolicy, bind_eq_ok]
  exact ⟨inserted, hinsert, store, hrecord, rfl⟩

/-- A policy that is known already is returned as it is. -/
theorem registerBudgetPolicy_of_known {ops : OperationsIntelligenceService} {stamp : BudgetStamp} {req : PolicyRequest}
    {terms : BudgetTerms} {known : BudgetPolicyRow} (hterms : ops.normalizedTerms req.terms = .ok terms)
    (hscope : requireScope db terms.tenantId terms.projectId = .ok ())
    (hknown : (db.policies.rows.find? fun row => row.policyHash = terms.digest) = some known) :
    ops.registerBudgetPolicy svc db stamp req = .ok (⟨known, true⟩, db) := by
  simp only [registerBudgetPolicy, bind_eq_ok]
  refine ⟨terms, hterms, (), hscope, ?_⟩
  rw [hknown]
  rfl

theorem register_of_ok {ops : OperationsIntelligenceService} {call : Registration} {result : PolicyResult}
    (h : ops.registerBudgetPolicy svc db call.stamp call.req = .ok (result, db')) : ops.register svc db call = db' := by
  simp only [register, h]

end Success

section Sample

/-- A service on SQLite; what it converts is in normal form. -/
def localService : OperationsIntelligenceService where
  sqlite := true
  nullsFirst := false
  upper text := text
  int _ := .ok 0
  float _ := .zero

/-- The tenant may spend one euro a day. -/
def strictTerms : BudgetTerms where
  tenantId := "t1"
  projectId := none
  revision := "1"
  currency := "EUR"
  periodSeconds := 86400
  softLimit := .one
  hardLimit := .one
  concurrencyLimit := 1
  storageLimitBytes := 0
  retentionLimitDays := 1
  anomalyThreshold := .two

def generousTerms : BudgetTerms := { strictTerms with hardLimit := ⟨"5.0", by decide⟩ }

def registration (terms : BudgetTerms) (now : Nat) (auditId budgetId : String) : Registration :=
  ⟨⟨terms, "ana"⟩, ⟨⟨now, auditId⟩, budgetId⟩⟩

def registrations : List Registration := [registration strictTerms 1 "a1" "b1", registration generousTerms 2 "a2" "b2"]

def strictHash : String := "18d67fd0d92748b065b78367785839c6e24a4e6573f860d4cc8cd665b917a4b3"

def generousHash : String := "65bda1067a86a09d02004faddd1d83295c657fc70097f4a0266685e76e994826"

def strictRow : BudgetPolicyRow := { strictTerms with budgetId := "b1", policyHash := strictHash, createdBy := "ana" }

def generousRow : BudgetPolicyRow := { generousTerms with budgetId := "b2", policyHash := generousHash, createdBy := "ana" }

def strictEventHash : String := "753e9d856c22d47c1613ddd377889f12bcc8f66f93398e42cd93a284e5710814"

def generousEventHash : String := "5709a5d835a833ce4237e0a5f4c8ba95af83c609148a1d6d6a4286b818f28056"

/-- The documents that are hashed below: two policies and two audit events. -/
def policyDocuments : List (Json × String) := [
  (.obj strictTerms.body, strictHash), (.obj generousTerms.body, generousHash),
  (AuditService.zeroBody 1 "a1" (policyChange strictRow).audit genesisHash, strictEventHash),
  (AuditService.zeroBody 2 "a2" (policyChange generousRow).audit strictEventHash, generousEventHash)]

set_option maxRecDepth 10000 in
theorem hashTo_policyDocuments : hashTo policyDocuments = true := by decide +kernel

theorem digest_strict : strictTerms.digest = strictHash := canonicalSha256_of_hashTo hashTo_policyDocuments 0 rfl

theorem digest_generous : generousTerms.digest = generousHash := canonicalSha256_of_hashTo hashTo_policyDocuments 1 rfl

theorem policyRow_strict : policyRow strictTerms "b1" "ana" = strictRow := by
  simp only [policyRow, digest_strict]
  rfl

theorem policyRow_generous : policyRow generousTerms "b2" "ana" = generousRow := by
  simp only [policyRow, digest_generous]
  rfl

theorem eventHash_strict : canonicalSha256 ((AuditService.zeroKey.entry .empty 1 "a1" (policyChange strictRow).audit).body
    genesisHash) = strictEventHash := canonicalSha256_of_hashTo hashTo_policyDocuments 2 rfl

theorem eventHash_generous : canonicalSha256 ((AuditService.zeroKey.entry .empty 2 "a2" (policyChange generousRow).audit).body
    strictEventHash) = generousEventHash := canonicalSha256_of_hashTo hashTo_policyDocuments 3 rfl

/-- The state with some policies and what has been logged. -/
def policyDb (policies : Table BudgetPolicyRow (fun row => row.budgetId)) (log : AuditLog) (outbox : List OutboxEventRow) :
    BudgetDb :=
  { BudgetDb.empty with policies, toStore := { Store.empty with audit := log, outbox } }

def strictPolicies : Table BudgetPolicyRow (fun row => row.budgetId) := ⟨[strictRow], by decide⟩

def bothPolicies : Table BudgetPolicyRow (fun row => row.budgetId) := ⟨[BudgetPolicyRow.deactivated strictRow, generousRow], by decide⟩

theorem normalizedTerms_strict : localService.normalizedTerms strictTerms = .ok strictTerms := by rfl

theorem normalizedTerms_generous : localService.normalizedTerms generousTerms = .ok generousTerms := by rfl

theorem registerBudgetPolicy_strict : ∃ log outbox, Succession "t1" 2 ["a1"] [strictEventHash] log ∧
    localService.registerBudgetPolicy .zeroKey .empty ⟨⟨1, "a1"⟩, "b1"⟩ ⟨strictTerms, "ana"⟩ =
      .ok (⟨strictRow, false⟩, policyDb strictPolicies log outbox) := by
  obtain ⟨log, hlog, hone⟩ := @Store.record_next .zeroKey (policyDb strictPolicies .empty []).toStore "t1" 0 [] []
    strictEventHash ⟨1, "a1"⟩ (policyChange strictRow).audit (.start "t1" 0) (by decide) rfl (by decide) eventHash_strict
    (by decide)
  obtain ⟨outbox, hrecord⟩ := record_total hlog rfl rfl rfl
    (validatePayload_policyDetails (by decide) (by decide) (by decide) (by decide) (by decide) (by decide))
  refine ⟨log, outbox, hone, ?_⟩
  exact @registerBudgetPolicy_of_new .zeroKey .empty localService ⟨⟨1, "a1"⟩, "b1"⟩ ⟨strictTerms, "ana"⟩ strictTerms strictRow
    (policyDb strictPolicies .empty []) _ normalizedTerms_strict rfl rfl policyRow_strict rfl hrecord

theorem registerBudgetPolicy_generous {log : AuditLog} {outbox : List OutboxEventRow}
    (h : Succession "t1" 2 ["a1"] [strictEventHash] log) : ∃ log' outbox',
      localService.registerBudgetPolicy .zeroKey (policyDb strictPolicies log outbox) ⟨⟨2, "a2"⟩, "b2"⟩
        ⟨generousTerms, "ana"⟩ = .ok (⟨generousRow, false⟩, policyDb bothPolicies log' outbox') := by
  obtain ⟨log', hlog, -⟩ := @Store.record_next .zeroKey (policyDb bothPolicies log outbox).toStore "t1" 2 ["a1"]
    [strictEventHash] generousEventHash ⟨2, "a2"⟩ (policyChange generousRow).audit h (by decide) rfl (by decide)
    eventHash_generous (by decide)
  obtain ⟨outbox', hrecord⟩ := record_total hlog rfl rfl rfl
    (validatePayload_policyDetails (by decide) (by decide) (by decide) (by decide) (by decide) (by decide))
  refine ⟨log', outbox', ?_⟩
  refine @registerBudgetPolicy_of_new .zeroKey (policyDb strictPolicies log outbox) localService ⟨⟨2, "a2"⟩, "b2"⟩
    ⟨generousTerms, "ana"⟩ generousTerms generousRow (policyDb bothPolicies log outbox) _ normalizedTerms_generous rfl ?_
    policyRow_generous rfl hrecord
  rw [digest_generous]
  rfl

/-- Both policies are registered, and the strict one has been replaced. -/
theorem run_registrations : ∃ log outbox,
    run (localService.register .zeroKey) .empty registrations = policyDb bothPolicies log outbox := by
  obtain ⟨log, outbox, hlog, hstrict⟩ := registerBudgetPolicy_strict
  obtain ⟨log', outbox', hgenerous⟩ := @registerBudgetPolicy_generous log outbox hlog
  have hfirst : localService.register .zeroKey .empty (registration strictTerms 1 "a1" "b1") =
      policyDb strictPolicies log outbox := register_of_ok hstrict
  have hsecond : localService.register .zeroKey (policyDb strictPolicies log outbox)
      (registration generousTerms 2 "a2" "b2") = policyDb bothPolicies log' outbox' := register_of_ok hgenerous
  refine ⟨log', outbox', ?_⟩
  rw [registrations, run_cons, hfirst, run_cons, hsecond, run_nil]

theorem generousTerms_ne : generousRow.toBudgetTerms ≠ strictTerms := by
  intro h
  exact absurd (congrArg (fun terms => terms.hardLimit.text) h) (by decide)

/-- The strict policy is registered again after the generous one: the call succeeds and the generous one stays active. -/
theorem strict_again_not_in_force : ∃ result db',
    localService.registerBudgetPolicy .zeroKey (run (localService.register .zeroKey) .empty registrations) ⟨⟨3, "a3"⟩, "b3"⟩
      ⟨strictTerms, "ana"⟩ = .ok (result, db') ∧ ¬ InForce localService db' strictTerms ∧
      ∃ row ∈ db'.policies.rows, row.active = true ∧ row.toBudgetTerms = generousTerms := by
  obtain ⟨log, outbox, hrun⟩ := run_registrations
  have hknown : ((policyDb bothPolicies log outbox).policies.rows.find? fun row => row.policyHash = strictTerms.digest) =
      some (BudgetPolicyRow.deactivated strictRow) := by
    rw [digest_strict]
    rfl
  have hagain := @registerBudgetPolicy_of_known .zeroKey (policyDb bothPolicies log outbox) localService ⟨⟨3, "a3"⟩, "b3"⟩
    ⟨strictTerms, "ana"⟩ strictTerms _ normalizedTerms_strict rfl hknown
  rw [hrun]
  refine ⟨_, _, hagain, ?_, ?_⟩
  · rintro ⟨row, hactive, hterms, _⟩
    have hlist : activePolicies (policyDb bothPolicies log outbox) "t1" none = [generousRow] := rfl
    have heq : row = generousRow := List.singleton_inj.mp (hactive.symm.trans hlist)
    rw [heq] at hterms
    exact generousTerms_ne hterms
  · exact ⟨generousRow, List.mem_cons_of_mem _ (List.mem_singleton_self _), rfl, rfl⟩

/-- The first registration is in force. -/
theorem registered_in_force_iff_strict : ∃ db' terms, localService.normalizedTerms strictTerms = .ok terms ∧
    (InForce localService db' terms ↔ NotReplaced (run (localService.register .zeroKey) .empty []) terms) := by
  obtain ⟨log, outbox, _, hstrict⟩ := registerBudgetPolicy_strict
  obtain ⟨terms, hterms, hiff⟩ := @registered_in_force_iff localService .zeroKey .empty rfl []
    (registration strictTerms 1 "a1" "b1") _ _ hstrict
  exact ⟨_, terms, hterms, hiff⟩

end Sample

end OperationsIntelligenceService

end Sip
