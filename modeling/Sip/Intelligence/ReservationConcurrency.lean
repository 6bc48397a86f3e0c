import Mathlib.Algebra.Order.BigOperators.Group.List
import Mathlib.Algebra.Order.Ring.Rat
import Mathlib.Tactic.Linarith
import Sip.Intelligence.Reservations

/-!
# Reservations that interleave

Whoever has been admitted and not committed yet holds the lock. Nobody else can insert a
reservation until the commit, and a release can only take one away, so the sum and the
count that the limits were compared with can only have shrunk when the row is committed.
-/

namespace Sip
namespace OperationsIntelligenceService

set_option autoImplicit false

theorem filter_map_sublist {α : Type} {f : α → α} {p : α → Bool} (h : ∀ a, p (f a) = true → f a = a) (l : List α) :
    ((l.map f).filter p).Sublist (l.filter p) := by
  induction l with
  | nil => exact .slnil
  | cons a l ih =>
    rw [List.map_cons]
    by_cases hp : p (f a) = true
    · have ha := h a hp
      rw [List.filter_cons_of_pos hp, ha, List.filter_cons_of_pos (ha ▸ hp)]
      exact ih.cons₂ a
    · rw [List.filter_cons_of_neg hp]
      exact ih.trans ((List.sublist_cons_self a l).filter p)

variable {ops : OperationsIntelligenceService} {svc : AuditService} {db db' : BudgetDb} {tenantId projectId : String}

section Sums
variable {now t : Nat} {policy : BudgetPolicyRow}

/-- Reservations have only gone, and the recorded cost and the policies are the same. -/
structure Quiet (db db' : BudgetDb) : Prop where
  active : ∀ tenantId projectId now,
    (activeReservations db' tenantId projectId now).Sublist (activeReservations db tenantId projectId now)
  actuals : db'.actuals = db.actuals
  policies : db'.policies = db.policies
  overrides : db'.overrides = db.overrides

theorem Quiet.refl (db : BudgetDb) : Quiet db db := ⟨fun _ _ _ => .refl _, rfl, rfl, rfl⟩

theorem reservedSpend_mono {a b : List BudgetReservationRow} (h : a.Sublist b) :
    (a.map fun row => row.amount.value).sum ≤ (b.map fun row => row.amount.value).sum := by
  apply List.Sublist.sum_le_sum (h.map _)
  intro amount hamount
  obtain ⟨row, _, rfl⟩ := List.mem_map.mp hamount
  exact row.amount_nonneg

/-- A later period holds fewer of the recorded costs. -/
theorem actualSpend_antitone (h : now ≤ t) :
    actualSpend db policy tenantId projectId t ≤ actualSpend db policy tenantId projectId now := by
  have hsub : (periodActuals db policy tenantId projectId t).Sublist (periodActuals db policy tenantId projectId now) := by
    apply List.monotone_filter_right
    intro row hrow
    simp only [decide_eq_true_eq] at hrow ⊢
    obtain ⟨htenant, hproject, hperiod, hcurrency⟩ := hrow
    exact ⟨htenant, hproject, by omega, hcurrency⟩
  apply List.Sublist.sum_le_sum (hsub.map _)
  intro amount hamount
  obtain ⟨row, _, rfl⟩ := List.mem_map.mp hamount
  exact row.amount_nonneg

/-- A later moment finds fewer of the reservations unexpired. -/
theorem activeReservations_sublist (h : now ≤ t) :
    (activeReservations db tenantId projectId t).Sublist (activeReservations db tenantId projectId now) := by
  apply List.monotone_filter_right
  intro row hrow
  simp only [decide_eq_true_eq] at hrow ⊢
  obtain ⟨htenant, hproject, hstate, hexpires⟩ := hrow
  exact ⟨htenant, hproject, hstate, by omega⟩

end Sums

section Decisions
variable {req : ReserveRequest} {now : Nat} {admission : Admission} {estimate : CostEstimateRow}

/-- The new row fits under the limits, with the active reservations and the recorded cost there are. -/
structure Fits (db : BudgetDb) (tenantId projectId : String) (now : Nat) (admission : Admission) : Prop where
  count : (activeReservations db tenantId projectId now).length < admission.policy.concurrencyLimit
  spend : actualSpend db admission.policy tenantId projectId now + reservedSpend db tenantId projectId now +
    admission.estimate.totalAmount.value ≤ allowance admission.policy admission.override

/-- The override, if one is used, is an approved one of the policy. -/
def Approved (db : BudgetDb) (admission : Admission) : Prop :=
  ∀ row, admission.override = some row →
    row ∈ db.overrides.rows ∧ row.budgetId = admission.policy.budgetId ∧ row.state = "active"

theorem Fits.of_quiet (h : Fits db tenantId projectId now admission) (hquiet : Quiet db db') :
    Fits db' tenantId projectId now admission := by
  have hsub := hquiet.active tenantId projectId now
  have hlength := hsub.length_le
  have hcount := h.count
  have hspend := h.spend
  have hreserved : reservedSpend db' tenantId projectId now ≤ reservedSpend db tenantId projectId now :=
    reservedSpend_mono hsub
  have hactual : actualSpend db' admission.policy tenantId projectId now =
      actualSpend db admission.policy tenantId projectId now := by
    simp only [actualSpend, periodActuals, hquiet.actuals]
  constructor
  · omega
  · linarith

theorem withinLimits_admitted {under : Admission} {storage retention : Int}
    (h : ops.withinLimits db req now under storage retention = .admitted admission) :
    admission = under ∧ Fits db req.tenantId req.projectId now admission := by
  simp only [withinLimits] at h
  split at h
  · cases h
  · rename_i hcount
    split at h
    · cases h
    · split at h
      · cases h
      · split at h
        · cases h
        · rename_i hspend
          cases h
          exact ⟨rfl, not_le.mp hcount, not_lt.mp hspend⟩

theorem usableOverride_some {policy : BudgetPolicyRow} {overrideId : String} {row : BudgetOverrideRow}
    (h : usableOverride db policy req now overrideId = some row) :
    row ∈ db.overrides.rows ∧ row.budgetId = policy.budgetId ∧ row.state = "active" := by
  obtain ⟨hrow, husable⟩ := Option.filter_eq_some_iff.mp h
  simp only [decide_eq_true_eq] at husable
  exact ⟨((Table.get?_eq_some_iff _ _ _).mp hrow).1, husable.2.2.1, husable.2.2.2.1⟩

/-- What an admission has found. -/
theorem decideReserve_admitted (h : ops.decideReserve db req now estimate = .ok (.admitted admission)) :
    ops.activeBudgetPolicy db req.tenantId req.projectId = some admission.policy ∧ Approved db admission ∧
      Fits db req.tenantId req.projectId now admission := by
  unfold decideReserve at h
  split at h
  · cases h
  · rename_i policy hpolicy
    split at h
    · cases h
    · simp only [decideUnder, bind_eq_ok] at h
      obtain ⟨_, _, storage, _, retention, _, h⟩ := h
      split at h
      next =>
        obtain ⟨rfl, hfits⟩ := withinLimits_admitted (Except.ok.inj h)
        exact ⟨hpolicy, (fun _ h => by cases h), hfits⟩
      next overrideId _ =>
        split at h
        next => cases h
        next row hrow =>
          obtain ⟨rfl, hfits⟩ := withinLimits_admitted (Except.ok.inj h)
          refine ⟨hpolicy, ?_, hfits⟩
          intro used hused
          cases hused
          exact usableOverride_some hrow

end Decisions

section Writes
variable {stamp : BudgetStamp} {now : Nat}

/-- No two reservations of a project have the same key. -/
def UniqueKeys (db : BudgetDb) : Prop :=
  ∀ a ∈ db.reservations.rows, ∀ b ∈ db.reservations.rows, a.tenantId = b.tenantId → a.projectId = b.projectId →
    a.idempotencyKey = b.idempotencyKey → a = b

theorem expireRow_key (req : ReserveRequest) (now : Nat) (row : BudgetReservationRow) :
    (expireRow req now row).tenantId = row.tenantId ∧ (expireRow req now row).projectId = row.projectId ∧
      (expireRow req now row).idempotencyKey = row.idempotencyKey := by
  unfold expireRow
  split <;> exact ⟨rfl, rfl, rfl⟩

theorem UniqueKeys.of_map {f : BudgetReservationRow → BudgetReservationRow} (h : UniqueKeys db)
    (hf : ∀ row, (f row).tenantId = row.tenantId ∧ (f row).projectId = row.projectId ∧
      (f row).idempotencyKey = row.idempotencyKey) (hrows : db'.reservations.rows = db.reservations.rows.map f) :
    UniqueKeys db' := by
  intro a ha b hb htenant hproject hkey
  rw [hrows] at ha hb
  obtain ⟨a, hold, rfl⟩ := List.mem_map.mp ha
  obtain ⟨b, hother, rfl⟩ := List.mem_map.mp hb
  obtain ⟨hatenant, haproject, hakey⟩ := hf a
  obtain ⟨hbtenant, hbproject, hbkey⟩ := hf b
  rw [hatenant, hbtenant] at htenant
  rw [haproject, hbproject] at hproject
  rw [hakey, hbkey] at hkey
  rw [h a hold b hother htenant hproject hkey]

/-- What a committed reservation has written. -/
theorem commitReserve_ok {req : ReserveRequest} {admission : Admission}
    (h : commitReserve svc db stamp req now admission = .ok db') :
    db'.reservations.rows = db.reservations.rows.map (expireRow req now) ++ [reservationRow stamp req now admission] ∧
      db'.actuals = db.actuals ∧ db'.policies = db.policies ∧ db'.overrides = db.overrides ∧
      ∀ row ∈ db.reservations.rows, ¬ (row.tenantId = req.tenantId ∧ row.projectId = req.projectId ∧
        row.idempotencyKey = req.idempotencyKey) := by
  simp only [commitReserve, insertReservation, bind_eq_ok, orRaise_eq_ok, raiseIf_eq_ok] at h
  obtain ⟨inserted, ⟨_, hunique, reservations, hreservations, hinserted⟩, store, _, h⟩ := h
  cases hinserted
  cases h
  refine ⟨(Table.insert?_eq_some hreservations).2, rfl, rfl, rfl, ?_⟩
  rintro row hrow ⟨htenant, hproject, hkey⟩
  obtain ⟨hrowtenant, hrowproject, hrowkey⟩ := expireRow_key req now row
  apply hunique
  rw [List.any_eq_true]
  refine ⟨expireRow req now row, List.mem_map_of_mem hrow, ?_⟩
  simp only [decide_eq_true_eq]
  exact ⟨hrowtenant.trans htenant, hrowproject.trans hproject, hrowkey.trans hkey⟩

theorem UniqueKeys.commitReserve {req : ReserveRequest} {admission : Admission} (hkeys : UniqueKeys db)
    (h : commitReserve svc db stamp req now admission = .ok db') : UniqueKeys db' := by
  obtain ⟨hrows, _, _, _, hnew⟩ := commitReserve_ok h
  have hold : UniqueKeys (expireReservations db req now) := hkeys.of_map (expireRow_key req now) rfl
  have hother : ∀ row ∈ db.reservations.rows.map (expireRow req now), ¬ (row.tenantId = req.tenantId ∧
      row.projectId = req.projectId ∧ row.idempotencyKey = req.idempotencyKey) := by
    intro row hrow
    obtain ⟨old, hmem, rfl⟩ := List.mem_map.mp hrow
    obtain ⟨htenant, hproject, hkey⟩ := expireRow_key req now old
    rw [htenant, hproject, hkey]
    exact hnew old hmem
  intro a ha b hb htenant hproject hkey
  rw [hrows, List.mem_append, List.mem_singleton] at ha hb
  rcases ha with ha | rfl <;> rcases hb with hb | rfl
  · exact hold a ha b hb htenant hproject hkey
  · exact absurd ⟨htenant, hproject, hkey⟩ (hother a ha)
  · exact absurd ⟨htenant.symm, hproject.symm, hkey.symm⟩ (hother b hb)
  · rfl

/-- A release sets one reservation released. -/
theorem commitRelease_ok {req : ReleaseRequest} {reason : String} (h : commitRelease svc db stamp req reason = .ok db') :
    db'.reservations.rows = db.reservations.rows.map (fun row =>
      if row.reservationId = req.reservationId then releasedRow reason stamp.now row else row) ∧
      db'.actuals = db.actuals ∧ db'.policies = db.policies ∧ db'.overrides = db.overrides := by
  simp only [commitRelease, bind_eq_ok] at h
  obtain ⟨store, _, h⟩ := h
  cases h
  exact ⟨rfl, rfl, rfl, rfl⟩

theorem quiet_commitRelease {req : ReleaseRequest} {reason : String} (h : commitRelease svc db stamp req reason = .ok db') :
    Quiet db db' := by
  obtain ⟨hrows, hactuals, hpolicies, hoverrides⟩ := commitRelease_ok h
  refine ⟨?_, hactuals, hpolicies, hoverrides⟩
  intro tenantId projectId now
  simp only [activeReservations, hrows]
  apply filter_map_sublist
  intro row hrow
  split at hrow
  · simp [releasedRow] at hrow
  · rename_i hother
    rw [if_neg hother]

theorem UniqueKeys.commitRelease {req : ReleaseRequest} {reason : String} (hkeys : UniqueKeys db)
    (h : commitRelease svc db stamp req reason = .ok db') : UniqueKeys db' := by
  obtain ⟨hrows, _⟩ := commitRelease_ok h
  refine hkeys.of_map ?_ hrows
  intro row
  split <;> exact ⟨rfl, rfl, rfl⟩

theorem recordDenial_db (req : ReserveRequest) (denial : Denial) : ∃ store,
    (recordDenial svc db stamp req denial).1 = { db with toStore := store } := by
  unfold recordDenial
  split
  · exact ⟨_, rfl⟩
  · exact ⟨db.toStore, rfl⟩

end Writes

section Runs

/-- The request is one of the project. -/
def BudgetRequest.OfProject (tenantId projectId : String) : BudgetRequest → Prop
  | .reserve req => req.tenantId = tenantId ∧ req.projectId = projectId
  | .release req => req.tenantId = tenantId ∧ req.projectId = projectId

/-- What a call knows: an opened one holds the lock on SQLite, and what an admitted one was compared with still fits. -/
def Knows (ops : OperationsIntelligenceService) (tenantId projectId : String) (who : Nat) (s : BudgetShared) :
    BudgetCall → Prop
  | .waiting request => request.OfProject tenantId projectId
  | .started req _ => req.tenantId = tenantId ∧ req.projectId = projectId
  | .opened req _ _ => (req.tenantId = tenantId ∧ req.projectId = projectId) ∧ (ops.sqlite = true → s.lock = some who)
  | .holding req now admission => (req.tenantId = tenantId ∧ req.projectId = projectId) ∧ s.lock = some who ∧
      ops.activeBudgetPolicy s.db tenantId projectId = some admission.policy ∧ Approved s.db admission ∧
      Fits s.db tenantId projectId now admission
  | _ => True

/-- The call needs nobody else to hold the lock. -/
def Locking (ops : OperationsIntelligenceService) : BudgetCall → Prop
  | .opened .. => ops.sqlite = true
  | .holding .. => True
  | _ => False

/-- The call has come to an end that is no admission, or holds nothing. -/
def Idle : BudgetCall → Prop
  | .raced _ | .denied .. | .releasing .. | .replayed _ | .released | .refused _ => True
  | _ => False

variable {who other : Nat} {stamp : BudgetStamp} {s s' : BudgetShared} {call call' : BudgetCall}

/-- What a step can do. -/
inductive Step (ops : OperationsIntelligenceService) (svc : AuditService) (who : Nat) (stamp : BudgetStamp)
    (s : BudgetShared) : BudgetCall → BudgetShared → BudgetCall → Prop
  | checked {req req' : ReserveRequest} : checkReserve req = .ok req' →
      Step ops svc who stamp s (.waiting (.reserve req)) s (.started req' stamp.now)
  | opened {req : ReserveRequest} {now : Nat} {estimate : CostEstimateRow} : ¬ (ops.sqlite = true ∧ s.lock ≠ none) →
      Step ops svc who stamp s (.started req now) (if ops.sqlite then { s with lock := some who } else s)
        (.opened req now estimate)
  | decided {req : ReserveRequest} {now : Nat} {estimate : CostEstimateRow} {admission : Admission} :
      ¬ (ops.sqlite = false ∧ s.lock ≠ none) → ops.decideReserve s.db req now estimate = .ok (.admitted admission) →
      Step ops svc who stamp s (.opened req now estimate) { s with lock := some who } (.holding req now admission)
  | undecided {req : ReserveRequest} {now : Nat} {estimate : CostEstimateRow} {call' : BudgetCall} :
      ¬ (ops.sqlite = false ∧ s.lock ≠ none) → Idle call' →
      Step ops svc who stamp s (.opened req now estimate) { s with lock := none } call'
  | committed {req : ReserveRequest} {now : Nat} {admission : Admission} {db : BudgetDb} :
      commitReserve svc s.db stamp req now admission = .ok db →
      Step ops svc who stamp s (.holding req now admission) ⟨db, none⟩
        (.admitted now admission (reservationRow stamp req now admission))
  | aborted {req : ReserveRequest} {now : Nat} {admission : Admission} {call' : BudgetCall} : Idle call' →
      Step ops svc who stamp s (.holding req now admission) { s with lock := none } call'
  | released {req : ReleaseRequest} {reason : String} {db : BudgetDb} : commitRelease svc s.db stamp req reason = .ok db →
      Step ops svc who stamp s (.releasing req reason) { s with db } .released
  | recorded {req : ReserveRequest} {denial : Denial} {store : Store} {e : Raised} :
      Step ops svc who stamp s (.denied req denial) { s with db := { s.db with toStore := store } } (.refused e)
  | same {call call' : BudgetCall} : ¬ Locking ops call → Idle call' → Step ops svc who stamp s call s call'

theorem step_of_nextOpen {req : ReserveRequest} {now : Nat} (hopen : ¬ (ops.sqlite = true ∧ s.lock ≠ none)) :
    Step ops svc who stamp s (.started req now) (ops.nextOpen who s req now).1 (ops.nextOpen who s req now).2 := by
  unfold nextOpen
  split
  · exact .same id trivial
  · exact .same id trivial
  · exact .opened hopen

theorem step_of_nextDecide {req : ReserveRequest} {now : Nat} {estimate : CostEstimateRow}
    (hfree : ¬ (ops.sqlite = false ∧ s.lock ≠ none)) :
    Step ops svc who stamp s (.opened req now estimate) (ops.nextDecide who s req now estimate).1
      (ops.nextDecide who s req now estimate).2 := by
  unfold nextDecide
  split
  · exact .undecided hfree trivial
  · exact .undecided hfree trivial
  next hdecide => exact .decided hfree hdecide

theorem step_of_nextCommit {req : ReserveRequest} {now : Nat} {admission : Admission} :
    Step ops svc who stamp s (.holding req now admission) (nextCommit svc s stamp req now admission).1
      (nextCommit svc s stamp req now admission).2 := by
  unfold nextCommit
  split
  next hwritten => exact .committed hwritten
  · exact .aborted trivial
  · exact .aborted trivial

theorem step_of_next (h : ops.next svc who stamp s call = some (s', call')) : Step ops svc who stamp s call s' call' := by
  cases call with
  | waiting request =>
    cases request with
    | reserve req =>
      simp only [next] at h
      split at h
      next hreq =>
        cases h
        exact .checked hreq
      next =>
        cases h
        exact .same id trivial
    | release req =>
      simp only [next] at h
      split at h
      · split at h <;> cases h <;> exact .same id trivial
      · cases h
        exact .same id trivial
  | started req now =>
    simp only [next] at h
    split at h
    · cases h
    next hopen =>
      have hstep := @step_of_nextOpen ops svc who stamp s req now hopen
      rw [Option.some.inj h] at hstep
      exact hstep
  | opened req now estimate =>
    simp only [next] at h
    split at h
    · cases h
    next hfree =>
      have hstep := @step_of_nextDecide ops svc who stamp s req now estimate hfree
      rw [Option.some.inj h] at hstep
      exact hstep
  | holding req now admission =>
    simp only [next] at h
    have hstep := @step_of_nextCommit ops svc who stamp s req now admission
    rw [Option.some.inj h] at hstep
    exact hstep
  | raced req =>
    simp only [next] at h
    split at h <;> cases h <;> exact .same id trivial
  | denied req denial =>
    simp only [next] at h
    split at h
    · cases h
    · cases h
      obtain ⟨store, hstore⟩ := @recordDenial_db svc s.db stamp req denial
      rw [hstore]
      exact .recorded
  | releasing req reason =>
    simp only [next] at h
    split at h
    · cases h
    · split at h
      next hwritten =>
        cases h
        exact .released hwritten
      next =>
        cases h
        exact .same id trivial
  | _ => cases h

theorem Knows.lock (h : Knows ops tenantId projectId who s call) (hlocking : Locking ops call) : s.lock = some who := by
  cases call with
  | opened req now estimate => exact h.2 hlocking
  | holding req now admission => exact h.2.1
  | _ => exact hlocking.elim

theorem knows_of_idle (h : Idle call) : Knows ops tenantId projectId who s call := by
  cases call with
  | waiting | started | opened | holding => exact h.elim
  | _ => trivial

theorem activeBudgetPolicy_congr (h : db'.policies = db.policies) :
    ops.activeBudgetPolicy db' tenantId projectId = ops.activeBudgetPolicy db tenantId projectId := by
  simp only [activeBudgetPolicy, activePolicies, h]

theorem Approved.congr {admission : Admission} (h : Approved db admission) (hoverrides : db'.overrides = db.overrides) :
    Approved db' admission := by
  intro row hrow
  rw [hoverrides]
  exact h row hrow

theorem checkReserve_ok {req req' : ReserveRequest} (h : checkReserve req = .ok req') :
    req'.tenantId = req.tenantId ∧ req'.projectId = req.projectId := by
  simp only [checkReserve, bind_eq_ok] at h
  obtain ⟨_, _, key, _, h⟩ := h
  cases h
  exact ⟨rfl, rfl⟩

/-- What a call knows after its own step. -/
theorem knows_step (hknows : Knows ops tenantId projectId who s call) (h : Step ops svc who stamp s call s' call') :
    Knows ops tenantId projectId who s' call' := by
  cases h with
  | checked hreq =>
    obtain ⟨htenant, hproject⟩ := checkReserve_ok hreq
    exact ⟨htenant.trans hknows.1, hproject.trans hknows.2⟩
  | opened =>
    refine ⟨hknows, fun hsqlite => ?_⟩
    rw [if_pos hsqlite]
  | decided _ hdecide =>
    obtain ⟨hpolicy, happroved, hfits⟩ := decideReserve_admitted hdecide
    obtain ⟨⟨htenant, hproject⟩, _⟩ := hknows
    rw [htenant, hproject] at hpolicy hfits
    exact ⟨⟨htenant, hproject⟩, rfl, hpolicy, happroved, hfits⟩
  | undecided _ hidle => exact knows_of_idle hidle
  | aborted hidle => exact knows_of_idle hidle
  | same _ hidle => exact knows_of_idle hidle
  | committed | released | recorded => trivial

/-- While somebody holds the lock, the others leave it and do not add reservations. -/
theorem quiet_step (hknows : Knows ops tenantId projectId who s call) (hlock : s.lock = some other) (hne : who ≠ other)
    (h : Step ops svc who stamp s call s' call') : s'.lock = some other ∧ Quiet s.db s'.db := by
  have hheld : s.lock ≠ none := by
    rw [hlock]
    exact nofun
  have hfree : ¬ Locking ops call := by
    intro hlocking
    exact hne (Option.some.inj ((hknows.lock hlocking).symm.trans hlock))
  cases h with
  | checked => exact ⟨hlock, Quiet.refl _⟩
  | opened hopen =>
    rw [if_neg fun hsqlite => hopen ⟨hsqlite, hheld⟩]
    exact ⟨hlock, Quiet.refl _⟩
  | decided hopen => exact absurd ⟨eq_false_of_ne_true hfree, hheld⟩ hopen
  | undecided hopen => exact absurd ⟨eq_false_of_ne_true hfree, hheld⟩ hopen
  | committed => exact absurd trivial hfree
  | aborted => exact absurd trivial hfree
  | released hwritten => exact ⟨hlock, quiet_commitRelease hwritten⟩
  | recorded => exact ⟨hlock, ⟨fun _ _ _ => .refl _, rfl, rfl, rfl⟩⟩
  | same => exact ⟨hlock, Quiet.refl _⟩

/-- What another call knows is not disturbed. -/
theorem knows_of_step {mine : BudgetCall} (hmine : Knows ops tenantId projectId other s mine)
    (hknows : Knows ops tenantId projectId who s call) (hne : other ≠ who) (h : Step ops svc who stamp s call s' call') :
    Knows ops tenantId projectId other s' mine := by
  cases mine with
  | opened req now estimate =>
    refine ⟨hmine.1, fun hsqlite => ?_⟩
    exact (quiet_step hknows (hmine.2 hsqlite) hne.symm h).1
  | holding req now admission =>
    obtain ⟨hscope, hlock, hpolicy, happroved, hfits⟩ := hmine
    obtain ⟨hlater, hquiet⟩ := quiet_step hknows hlock hne.symm h
    refine ⟨hscope, hlater, ?_, happroved.congr hquiet.overrides, hfits.of_quiet hquiet⟩
    rw [activeBudgetPolicy_congr hquiet.policies]
    exact hpolicy
  | waiting request => exact hmine
  | started req now => exact hmine
  | _ => trivial

/-- The recorded cost and the policies are those of the start, and no key has two reservations. -/
structure Steady (start db : BudgetDb) : Prop where
  policies : db.policies = start.policies
  actuals : db.actuals = start.actuals
  keys : UniqueKeys db

theorem steady_step {start : BudgetDb} (hsteady : Steady start s.db) (h : Step ops svc who stamp s call s' call') :
    Steady start s'.db := by
  cases h with
  | opened => split <;> exact hsteady
  | committed hwritten =>
    obtain ⟨_, hactuals, hpolicies, _⟩ := commitReserve_ok hwritten
    exact ⟨hpolicies.trans hsteady.policies, hactuals.trans hsteady.actuals, hsteady.keys.commitReserve hwritten⟩
  | released hwritten =>
    obtain ⟨_, hactuals, hpolicies, _⟩ := commitRelease_ok hwritten
    exact ⟨hpolicies.trans hsteady.policies, hactuals.trans hsteady.actuals, hsteady.keys.commitRelease hwritten⟩
  | recorded => exact ⟨hsteady.policies, hsteady.actuals, hsteady.keys⟩
  | checked | decided | undecided | aborted | same => exact hsteady

/-- The limits of the policy hold at a moment: cost and reservations within the allowance, not too many reservations. -/
structure WithinLimits (db : BudgetDb) (tenantId projectId : String) (t : Nat) (admission : Admission) : Prop where
  spend : actualSpend db admission.policy tenantId projectId t + reservedSpend db tenantId projectId t ≤
    allowance admission.policy admission.override
  count : (activeReservations db tenantId projectId t).length ≤ admission.policy.concurrencyLimit

/-- Whatever has been reserved when an admission commits is within the limits, then and later. -/
theorem withinLimits_commitReserve {req : ReserveRequest} {now t : Nat} {admission : Admission}
    (hfits : Fits db tenantId projectId now admission) (h : commitReserve svc db stamp req now admission = .ok db')
    (ht : now ≤ t) : WithinLimits db' tenantId projectId t admission := by
  obtain ⟨hrows, hactuals, _⟩ := commitReserve_ok h
  have hsub : (activeReservations db' tenantId projectId t).Sublist
      (activeReservations db tenantId projectId now ++ [reservationRow stamp req now admission]) := by
    simp only [activeReservations, hrows, List.filter_append]
    refine List.Sublist.append (List.Sublist.trans ?_ (activeReservations_sublist ht)) List.filter_sublist
    apply filter_map_sublist
    intro row hrow
    unfold expireRow at hrow ⊢
    split at hrow
    · simp at hrow
    · rename_i hother
      rw [if_neg hother]
  have hspend := hfits.spend
  have hcount := hfits.count
  have hlength := hsub.length_le
  have hreserved := reservedSpend_mono hsub
  rw [List.map_append, List.sum_append, List.map_singleton, List.sum_singleton] at hreserved
  have hactual : actualSpend db' admission.policy tenantId projectId t ≤
      actualSpend db admission.policy tenantId projectId now := by
    have hsame : actualSpend db' admission.policy tenantId projectId t =
        actualSpend db admission.policy tenantId projectId t := by
      simp only [actualSpend, periodActuals, hactuals]
    rw [hsame]
    exact actualSpend_antitone ht
  have hamount : (reservationRow stamp req now admission).amount = admission.estimate.totalAmount := rfl
  constructor
  · simp only [reservedSpend] at hspend ⊢
    rw [hamount] at hreserved
    linarith
  · rw [List.length_append, List.length_singleton] at hlength
    omega

/-- After every run of reservations and releases of a project under one active policy: no key has two reservations, and
whenever a reservation is committed, the recorded cost of the period with the unexpired reserved amounts is within the hard
limit and the override used, and the unexpired reservations are within the concurrency limit. -/
theorem reservations_within_limits (ops : OperationsIntelligenceService) (svc : AuditService) (start : BudgetDb)
    (tenantId projectId : String) (policy : BudgetPolicyRow)
    (hpolicy : ops.activeBudgetPolicy start tenantId projectId = some policy) (hkeys : UniqueKeys start)
    (request : Nat → BudgetRequest) (hrequests : ∀ i, (request i).OfProject tenantId projectId)
    (moves : List (Move BudgetStamp)) :
    UniqueKeys (run (Pool.step (ops.next svc)) (arrived start request) moves).shared.db ∧
    ∀ (m : Move BudgetStamp) (s : BudgetShared) (now : Nat) (admission : Admission) (row : BudgetReservationRow),
      ops.next svc m.who m.input (run (Pool.step (ops.next svc)) (arrived start request) moves).shared
        ((run (Pool.step (ops.next svc)) (arrived start request) moves).call m.who) = some (s, .admitted now admission row) →
      row ∈ s.db.reservations.rows ∧ UniqueKeys s.db ∧ admission.policy = policy ∧ Approved s.db admission ∧
        ∀ t, now ≤ t → WithinLimits s.db tenantId projectId t admission := by
  have hrun : Pool.Holds (fun s => Steady start s.db) (Knows ops tenantId projectId)
      (run (Pool.step (ops.next svc)) (arrived start request) moves) := by
    apply Pool.invariant
    · intro p m s call hp h
      exact ⟨steady_step hp.1 (step_of_next h), knows_step (hp.2 m.who) (step_of_next h)⟩
    · intro p m s call j hp h hj
      exact knows_of_step (hp.2 j) (hp.2 m.who) hj (step_of_next h)
    · exact ⟨⟨rfl, rfl, hkeys⟩, hrequests⟩
  refine ⟨hrun.1.keys, ?_⟩
  intro m s now admission row h
  generalize run (Pool.step (ops.next svc)) (arrived start request) moves = p at hrun h
  obtain ⟨hsteady, hknows⟩ := hrun
  have hmine := hknows m.who
  generalize p.call m.who = call at h hmine
  have hstep := step_of_next h
  have hlater : Steady start s.db := steady_step hsteady hstep
  cases hstep with
  | committed hwritten =>
    obtain ⟨_, _, hfound, happroved, hfits⟩ := hmine
    obtain ⟨hrows, _, _, hoverrides, _⟩ := commitReserve_ok hwritten
    refine ⟨?_, hlater.keys, ?_, happroved.congr hoverrides, fun t ht => withinLimits_commitReserve hfits hwritten ht⟩
    · rw [hrows]
      exact List.mem_append_right _ (List.mem_singleton_self _)
    · rw [activeBudgetPolicy_congr hsteady.policies, hpolicy] at hfound
      exact (Option.some.inj hfound).symm
  | undecided _ hidle => exact hidle.elim
  | aborted hidle => exact hidle.elim
  | same _ hidle => exact hidle.elim

end Runs

section Sample

/-- An estimate of a tenth of a euro. -/
def smallEstimate : CostEstimateRow where
  estimateId := "e1"
  tenantId := "t1"
  projectId := "p1"
  inputClassJson := []
  totalAmount := ⟨"0.1", by decide⟩
  currency := "EUR"
  expiresAt := 200000000000
  amount_nonneg := by decide

/-- A project of the tenant with the strict policy. -/
def estimatedDb : BudgetDb := { BudgetDb.empty with
  projects := .single ⟨"p1", "t1", "internal", "active"⟩
  policies := strictPolicies
  estimates := ⟨[smallEstimate], by decide⟩ }

/-- Every call asks for a reservation under a key of its own. -/
def ownKeys (i : Nat) : BudgetRequest := .reserve ⟨"t1", "p1", "e1", "k" ++ toString i, none, 60, "ana", none⟩

/-- Two calls that take turns. -/
def turns : List (Move BudgetStamp) := [
  ⟨0, ⟨100000000000, "a0"⟩, ""⟩, ⟨1, ⟨100000000000, "a1"⟩, ""⟩, ⟨0, ⟨2, "a2"⟩, ""⟩, ⟨1, ⟨2, "a3"⟩, ""⟩, ⟨0, ⟨3, "a4"⟩, ""⟩, ⟨0, ⟨4, "a5"⟩, "r0"⟩]

theorem reservations_within_limits_turns :
    UniqueKeys (run (Pool.step (localService.next .zeroKey)) (arrived estimatedDb ownKeys) turns).shared.db :=
  (reservations_within_limits localService .zeroKey estimatedDb "t1" "p1" strictRow rfl
    (fun _ ha => absurd ha List.not_mem_nil) ownKeys (fun _ => ⟨rfl, rfl⟩) turns).1

end Sample

end OperationsIntelligenceService
end Sip
