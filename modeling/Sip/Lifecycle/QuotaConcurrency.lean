import Mathlib.Tactic.Linarith
import Sip.Foundation.Interleaving
import Sip.Lifecycle.Quota

/-!
# Admissions that interleave

The sum that a call compares with the limit does not see a call that has summed and not
inserted yet. While no call sums next to such a call of its own scope, the usage in the
trailing window stays within the hard limit at every moment; otherwise two calls can both
be admitted into the same remainder.
-/

namespace Sip
namespace AdmissionController

set_option autoImplicit false

/-- How far a call has come. -/
inductive UsageCall where
  | waiting (req : UsageRequest)
  | started (req : UsageRequest) (now : Nat)
  | summed (req : UsageRequest) (now : Nat) (quota : Option QuotaPolicyRow) (current total : PyFloat)
  | finished

/-- The checks and the clock reading before the transaction. -/
def startUsage (draw : UsageDraw) (req : UsageRequest) : UsageCall :=
  match checkUsage req with
  | .ok _ => .started req draw.now
  | .error _ => .finished

/-- The sum. -/
def sumUp (ctl : AdmissionController) (svc : AuditService) (draw : UsageDraw) (db : QuotaDb) (req : UsageRequest)
    (now : Nat) : UsageCall :=
  match ctl.admitUsage svc db draw now req with
  | .ok found => .summed req now found.1 found.2.1 found.2.2
  | .error _ => .finished

/-- The insert with the commit. -/
def insertUsage (ctl : AdmissionController) (draw : UsageDraw) (db : QuotaDb) (req : UsageRequest) (now : Nat) : QuotaDb :=
  match ctl.recordUsage db draw now req with
  | .ok db' => db'
  | .error _ => db

def next (ctl : AdmissionController) (svc : AuditService) (_ : Nat) (draw : UsageDraw) (db : QuotaDb) :
    UsageCall → Option (QuotaDb × UsageCall)
  | .waiting req => some (db, startUsage draw req)
  | .started req now => some (db, sumUp ctl svc draw db req now)
  | .summed req now _ _ _ => some (insertUsage ctl draw db req now, .finished)
  | .finished => none

abbrev UsagePool := Pool QuotaDb UsageCall

def arrived (db : QuotaDb) (request : Nat → UsageRequest) : UsagePool := ⟨db, fun i => .waiting (request i)⟩

/-- The call has summed a scope and not inserted yet. -/
def Pending (scope : UsageScope) : UsageCall → Prop
  | .summed req _ _ _ _ => req.scope = scope
  | _ => False

/-- A call sums only while no other call of its scope has summed and not inserted yet. -/
def SumsAlone (p : UsagePool) (m : Move UsageDraw) : Prop :=
  ∀ req now, p.call m.who = .started req now → ∀ j, ¬ Pending req.scope (p.call j)

/-- The usage of the window that ends at a moment. -/
def inWindow (quota : QuotaPolicyRow) (t : Nat) (rows : List UsageLedgerRow) : List UsageLedgerRow :=
  rows.filter fun row => row.occurredAt ≤ t ∧ t ≤ row.occurredAt + QuotaPolicyRow.period quota

/-- The recorded usage does not exceed the hard limit in the window that ends at a moment. -/
def WithinLimit (ctl : AdmissionController) (quota : QuotaPolicyRow) (t : Nat) (rows : List UsageLedgerRow) : Prop :=
  ctl.sum.Within ((inWindow quota t rows).map UsageLedgerRow.quantity) quota.hardLimit

section Windows
variable {ctl : AdmissionController} {quota : QuotaPolicyRow} {rows : List UsageLedgerRow} {row : UsageLedgerRow}

/-- Every row was within the limit when it was inserted, together with the rows before it. -/
def Bounded (ctl : AdmissionController) (quota : QuotaPolicyRow) (rows : List UsageLedgerRow) : Prop :=
  ∀ before row after, rows = before ++ row :: after →
    ctl.sum.Within ((usageSince quota row.occurredAt (before ++ [row])).map UsageLedgerRow.quantity) quota.hardLimit

theorem Bounded.of_snoc (h : Bounded ctl quota (rows ++ [row])) : Bounded ctl quota rows := by
  intro before r after hrows
  exact h before r (after ++ [row]) (by simp [hrows])

theorem Bounded.snoc (h : Bounded ctl quota rows)
    (hrow : ctl.sum.Within ((usageSince quota row.occurredAt (rows ++ [row])).map UsageLedgerRow.quantity) quota.hardLimit) :
    Bounded ctl quota (rows ++ [row]) := by
  intro before r after hsplit
  cases after using List.reverseRecOn with
  | nil =>
    obtain ⟨rfl, hlast⟩ := List.append_inj' hsplit rfl
    cases hlast
    exact hrow
  | append_singleton after last =>
    rw [← List.cons_append, ← List.append_assoc] at hsplit
    obtain ⟨hinit, _⟩ := List.append_inj' hsplit rfl
    exact h before r after hinit

/-- The newest row of a window has seen all others of it. -/
theorem inWindow_sublist {t : Nat} (ht : row.occurredAt ≤ t) :
    (inWindow quota t rows).Sublist (usageSince quota row.occurredAt rows) := by
  apply List.monotone_filter_right
  intro r hr
  simp only [decide_eq_true_eq] at hr ⊢
  exact ht.trans hr.2

theorem withinLimit_of_bounded (hbounded : Bounded ctl quota rows) (hpos : ∀ row ∈ rows, 0 ≤ row.quantity.value) (t : Nat) :
    WithinLimit ctl quota t rows := by
  induction rows using List.reverseRecOn with
  | nil =>
    refine ⟨ctl.sum.zero, rfl, ?_⟩
    rw [ctl.zero_eq, PyFloat.le_def, PyFloat.value_zero]
    exact quota.limit_pos.le
  | append_singleton rows row ih =>
    have hrest := ih hbounded.of_snoc fun r hr => hpos r (List.mem_append_left _ hr)
    by_cases hin : row.occurredAt ≤ t ∧ t ≤ row.occurredAt + QuotaPolicyRow.period quota
    · have hrow := hbounded rows row [] rfl
      apply hrow.of_sublist ((inWindow_sublist hin.1).map _)
      intro q hq
      obtain ⟨r, hr, rfl⟩ := List.mem_map.mp hq
      rw [ctl.zero_eq, PyFloat.le_def, PyFloat.value_zero]
      exact hpos r (List.mem_of_mem_filter hr)
    · have hout : inWindow quota t (rows ++ [row]) = inWindow quota t rows := by
        simp [inWindow, List.filter_append, hin]
      rw [WithinLimit, hout]
      exact hrest

end Windows

section Steps
variable {ctl : AdmissionController} {svc : AuditService} {db db' : QuotaDb} {draw : UsageDraw} {now : Nat}
  {req : UsageRequest} {scope : UsageScope} {quota : QuotaPolicyRow}

theorem verdict_admitted {q : Option QuotaPolicyRow} {current total : PyFloat}
    (h : ctl.verdict db now req = .ok (.admitted q current total)) (hquota : ctl.quota? db req.scope = some quota) :
    ctl.totalUsage (usageSince quota now (usage db req.scope)) = some current ∧
      ctl.sum.add current req.quantity = some total ∧ total ≤ quota.hardLimit := by
  simp only [verdict, hquota] at h
  obtain ⟨_, _, h⟩ := bind_eq_ok.mp h
  split at h
  · rename_i found total' hfound htotal
    by_cases hlimit : quota.hardLimit.value < total'.value
    · rw [if_pos hlimit] at h
      cases h
    · rw [if_neg hlimit] at h
      cases h
      rw [hfound] at htotal
      exact ⟨hfound, htotal, PyFloat.le_def.mpr (not_lt.mp hlimit)⟩
  · cases h

/-- What a call that is admitted has found. -/
theorem admit_ok {q : Option QuotaPolicyRow} {current total : PyFloat}
    (h : ctl.admitUsage svc db draw now req = .ok (q, current, total)) (hquota : ctl.quota? db req.scope = some quota) :
    ctl.totalUsage (usageSince quota now (usage db req.scope)) = some current ∧
      ctl.sum.add current req.quantity = some total ∧ total ≤ quota.hardLimit := by
  simp only [admitUsage, bind_eq_ok] at h
  obtain ⟨found, hfound, h⟩ := h
  cases found with
  | admitted q' current' total' =>
    cases h
    exact verdict_admitted hfound hquota
  | exceeded quota' current' => cases h

theorem checkUsage_ok (h : checkUsage req = .ok ()) : 0 ≤ req.quantity.value := by
  rw [checkUsage, raiseIf_eq_ok] at h
  push Not at h
  exact h.1

theorem recordUsage_ok (h : ctl.recordUsage db draw now req = .ok db') :
    ctl.quota? db' scope = ctl.quota? db scope ∧ usage db' scope =
      if req.scope = scope then usage db scope ++ [ctl.usageRow draw now req] else usage db scope := by
  simp only [recordUsage, bind_eq_ok, orRaise_eq_ok] at h
  obtain ⟨ledger, hledger, h⟩ := h
  cases h
  refine ⟨rfl, ?_⟩
  have hscope : (ctl.usageRow draw now req).scope = req.scope := rfl
  simp only [usage, (Table.insert?_eq_some hledger).2, List.filter_append, List.filter_singleton, hscope]
  split <;> simp_all

end Steps

section Invariant

/-- Whatever calls of the scope have summed is still the sum, and there is at most one of them. -/
structure Orderly (ctl : AdmissionController) (scope : UsageScope) (quota : QuotaPolicyRow) (p : UsagePool) : Prop where
  policy : ctl.quota? p.shared scope = some quota
  pos : ∀ row ∈ usage p.shared scope, 0 ≤ row.quantity.value
  bounded : Bounded ctl quota (usage p.shared scope)
  valid : ∀ i req now, p.call i = .started req now → 0 ≤ req.quantity.value
  view : ∀ i req now q current total, p.call i = .summed req now q current total → req.scope = scope →
    0 ≤ req.quantity.value ∧ ctl.totalUsage (usageSince quota now (usage p.shared scope)) = some current ∧
      ctl.sum.add current req.quantity = some total ∧ total ≤ quota.hardLimit
  alone : ∀ i j, Pending scope (p.call i) → Pending scope (p.call j) → i = j

variable {ctl : AdmissionController} {svc : AuditService} {scope : UsageScope} {quota : QuotaPolicyRow} {p : UsagePool}
  {m : Move UsageDraw} {db' : QuotaDb} {call : UsageCall}

/-- A step that does not add to the scope. -/
theorem Orderly.of_same_usage (h : Orderly ctl scope quota p) (hpolicy : ctl.quota? db' scope = ctl.quota? p.shared scope)
    (husage : usage db' scope = usage p.shared scope)
    (hvalid : ∀ req now, call = .started req now → 0 ≤ req.quantity.value)
    (hview : ∀ req now q current total, call = .summed req now q current total → req.scope = scope →
      0 ≤ req.quantity.value ∧ ctl.totalUsage (usageSince quota now (usage p.shared scope)) = some current ∧
        ctl.sum.add current req.quantity = some total ∧ total ≤ quota.hardLimit)
    (halone : Pending scope call → ∀ j, ¬ Pending scope (p.call j)) :
    Orderly ctl scope quota ⟨db', Function.update p.call m.who call⟩ := by
  have hcall : ∀ i, Function.update p.call m.who call i = call ∨ Function.update p.call m.who call i = p.call i := by
    intro i
    by_cases hi : i = m.who
    · subst hi
      exact .inl (Function.update_self _ _ _)
    · exact .inr (Function.update_of_ne hi _ _)
  refine ⟨hpolicy.trans h.policy, husage ▸ h.pos, husage ▸ h.bounded, ?_, ?_, ?_⟩
  · intro i req now hi
    rcases hcall i with hnew | hold
    · exact hvalid req now (hnew ▸ hi)
    · exact h.valid i req now (hold ▸ hi)
  · intro i req now q current total hi hscope
    simp only [husage]
    rcases hcall i with hnew | hold
    · exact hview req now q current total (hnew ▸ hi) hscope
    · exact h.view i req now q current total (hold ▸ hi) hscope
  · intro i j hi hj
    by_cases hwho : i = m.who
    · by_cases hwho' : j = m.who
      · rw [hwho, hwho']
      · subst hwho
        simp only [Function.update_self, Function.update_of_ne hwho'] at hi hj
        exact absurd hj (halone hi j)
    · by_cases hwho' : j = m.who
      · subst hwho'
        simp only [Function.update_self, Function.update_of_ne hwho] at hi hj
        exact absurd hi (halone hj i)
      · simp only [Function.update_of_ne hwho, Function.update_of_ne hwho'] at hi hj
        exact h.alone i j hi hj

/-- The insert of the one call that has summed the scope. -/
theorem Orderly.insert (h : Orderly ctl scope quota p) {req : UsageRequest} {now : Nat} {q : Option QuotaPolicyRow}
    {current total : PyFloat} (hcall : p.call m.who = .summed req now q current total) (hscope : req.scope = scope)
    (hpolicy : ctl.quota? db' scope = ctl.quota? p.shared scope)
    (husage : usage db' scope = usage p.shared scope ++ [ctl.usageRow m.input now req]) :
    Orderly ctl scope quota ⟨db', Function.update p.call m.who .finished⟩ := by
  obtain ⟨hquantity, hcurrent, hadd, hlimit⟩ := h.view m.who req now q current total hcall hscope
  have hpending : Pending scope (p.call m.who) := by
    rw [hcall]
    exact hscope
  -- nobody else of the scope has summed, so nobody's sum is out of date
  have hothers : ∀ i, ¬ Pending scope (Function.update p.call m.who .finished i) := by
    intro i hi
    by_cases hwho : i = m.who
    · subst hwho
      rw [Function.update_self] at hi
      exact hi
    · rw [Function.update_of_ne hwho] at hi
      exact hwho (h.alone i m.who hi hpending)
  have hrow : ctl.sum.Within ((usageSince quota now (usage p.shared scope ++ [ctl.usageRow m.input now req])).map
      UsageLedgerRow.quantity) quota.hardLimit := by
    have hsince : usageSince quota now (usage p.shared scope ++ [ctl.usageRow m.input now req]) =
        usageSince quota now (usage p.shared scope) ++ [ctl.usageRow m.input now req] := by
      simp [usageSince, List.filter_append, usageRow]
    refine ⟨total, ?_, hlimit⟩
    rw [hsince, List.map_append, List.map_singleton, RoundedSum.total_snoc_of_some hcurrent]
    exact hadd
  refine ⟨hpolicy.trans h.policy, ?_, ?_, ?_, ?_, ?_⟩
  · intro row hmem
    simp only [husage, List.mem_append, List.mem_singleton] at hmem
    rcases hmem with hold | rfl
    · exact h.pos row hold
    · exact hquantity
  · simp only [husage]
    exact h.bounded.snoc hrow
  · intro i req' now' hi
    by_cases hwho : i = m.who
    · subst hwho
      simp only [Function.update_self] at hi
      cases hi
    · simp only [Function.update_of_ne hwho] at hi
      exact h.valid i req' now' hi
  · intro i req' now' q' current' total' hi hscope'
    have hi' : Function.update p.call m.who .finished i = .summed req' now' q' current' total' := hi
    refine absurd ?_ (hothers i)
    rw [hi']
    exact hscope'
  · intro i j hi
    exact absurd hi (hothers i)

theorem orderly_step (h : Orderly ctl scope quota p) (halone : SumsAlone p m) :
    Orderly ctl scope quota (p.step (next ctl svc) m) := by
  have hstop : Orderly ctl scope quota ⟨p.shared, Function.update p.call m.who .finished⟩ :=
    h.of_same_usage rfl rfl (fun _ _ => UsageCall.noConfusion) (fun _ _ _ _ _ => UsageCall.noConfusion) False.elim
  cases hnext : next ctl svc m.who m.input p.shared (p.call m.who) with
  | none =>
    rw [Pool.step_of_none hnext]
    exact h
  | some result =>
    obtain ⟨db', call⟩ := result
    rw [Pool.step_of_some hnext]
    cases hcall : p.call m.who with
    | waiting req =>
      simp only [hcall, next, Option.some.injEq, Prod.mk.injEq] at hnext
      obtain ⟨rfl, rfl⟩ := hnext
      unfold startUsage
      split
      · rename_i hvalid
        apply h.of_same_usage rfl rfl _ (fun _ _ _ _ _ => UsageCall.noConfusion) False.elim
        intro req' now' heq
        cases heq
        exact checkUsage_ok hvalid
      · exact hstop
    | started req now =>
      simp only [hcall, next, Option.some.injEq, Prod.mk.injEq] at hnext
      obtain ⟨rfl, rfl⟩ := hnext
      unfold sumUp
      split
      · rename_i found hadmit
        apply h.of_same_usage rfl rfl (fun _ _ => UsageCall.noConfusion)
        · intro req' now' q' current' total' heq hscope
          cases heq
          have hpolicy : ctl.quota? p.shared req.scope = some quota := by
            rw [hscope]
            exact h.policy
          have hfound := admit_ok hadmit hpolicy
          rw [hscope] at hfound
          exact ⟨h.valid m.who req now hcall, hfound⟩
        · intro hpending j
          have hscope : req.scope = scope := hpending
          rw [← hscope]
          exact halone req now hcall j
      · exact hstop
    | summed req now q current total =>
      simp only [hcall, next, Option.some.injEq, Prod.mk.injEq] at hnext
      obtain ⟨rfl, rfl⟩ := hnext
      unfold insertUsage
      split
      · rename_i db' hrecord
        obtain ⟨hpolicy, husage⟩ := @recordUsage_ok ctl p.shared db' m.input now req scope hrecord
        split at husage
        · rename_i hscope
          exact h.insert hcall hscope hpolicy husage
        · exact h.of_same_usage hpolicy husage (fun _ _ => UsageCall.noConfusion)
            (fun _ _ _ _ _ => UsageCall.noConfusion) False.elim
      · exact hstop
    | finished =>
      simp only [hcall, next] at hnext
      cases hnext

theorem orderly_arrived {db : QuotaDb} (request : Nat → UsageRequest) (hquota : ctl.quota? db scope = some quota)
    (hempty : usage db scope = []) : Orderly ctl scope quota (arrived db request) := by
  refine ⟨hquota, ?_, ?_, fun _ _ _ => UsageCall.noConfusion, fun _ _ _ _ _ _ => UsageCall.noConfusion,
    fun _ _ => False.elim⟩
  · intro row hrow
    simp only [arrived, hempty] at hrow
    cases hrow
  · intro before row after hrows
    simp only [arrived, hempty] at hrows
    exact absurd hrows.symm (by simp)

end Invariant

section Sample

def twoUnits : PyFloat := .two

theorem value_twoUnits : twoUnits.value = 2 := by decide

/-- Addition that rounds up to a whole number and overflows above two. -/
def wholeAdd (x y : PyFloat) : Option PyFloat :=
  if y.value ≤ 0 then some x
  else if x.value + y.value ≤ 1 then some .one
  else if x.value + y.value ≤ 2 then some twoUnits
  else none

theorem le_wholeAdd {x y z : PyFloat} (h : wholeAdd x y = some z) : x ≤ z := by
  rw [PyFloat.le_def]
  unfold wholeAdd at h
  split_ifs at h with hy hone htwo
  · cases h
    exact le_refl _
  · cases h
    rw [PyFloat.value_one]
    linarith
  · cases h
    rw [value_twoUnits]
    linarith

theorem wholeAdd_mono {x x' y z' : PyFloat} (hle : x ≤ x') (h : wholeAdd x' y = some z') :
    ∃ z, wholeAdd x y = some z ∧ z ≤ z' := by
  rw [PyFloat.le_def] at hle
  unfold wholeAdd at h ⊢
  split_ifs at h with hy hone htwo
  · cases h
    exact ⟨x, by rw [if_pos hy], hle⟩
  · cases h
    exact ⟨.one, by rw [if_neg hy, if_pos (by linarith)], le_refl _⟩
  · cases h
    by_cases hsum : x.value + y.value ≤ 1
    · refine ⟨.one, by rw [if_neg hy, if_pos hsum], ?_⟩
      rw [PyFloat.le_def, PyFloat.value_one, value_twoUnits]
      decide
    · exact ⟨twoUnits, by rw [if_neg hy, if_neg hsum, if_pos (by linarith)], le_refl _⟩

def wholeNumbers : AdmissionController where
  nullsFirst := false
  sum := ⟨.zero, wholeAdd, fun _ h => le_wholeAdd h, wholeAdd_mono⟩
  zero_eq := rfl
  mul := fun _ _ => some .zero
  upper := id

def oneUnit : QuotaPolicyRow where
  quotaId := "q1"
  tenantId := "t1"
  projectId := some "p1"
  resourceType := "gpu"
  unit := "hour"
  periodSeconds := 60
  softLimit := .one
  hardLimit := .one
  period_pos := by decide
  limit_pos := by decide

def unusedQuota : QuotaDb := { Store.empty with quotas := ⟨[oneUnit], by decide⟩, ledger := .empty }

def gpuScope : UsageScope := ⟨"t1", "p1", "gpu"⟩

/-- Every call asks for the whole quota. -/
def gpuHour (_ : Nat) : UsageRequest where
  tenantId := "t1"
  projectId := "p1"
  resourceType := "gpu"
  quantity := .one
  unit := "hour"
  unitCost := .zero
  currency := "eur"
  priceSourceVersion := "1"
  estimated := false
  actorId := "ana"

def drawOf (usageId : String) : UsageDraw := ⟨⟨0, "e1"⟩, usageId⟩

/-- Both calls sum before one of them inserts. -/
def bothSum : List (Move UsageDraw) :=
  [⟨0, drawOf "u0"⟩, ⟨1, drawOf "u1"⟩, ⟨0, drawOf "u0"⟩, ⟨1, drawOf "u1"⟩, ⟨0, drawOf "u0"⟩, ⟨1, drawOf "u1"⟩]

theorem quota_gpu : wholeNumbers.quota? unusedQuota gpuScope = some oneUnit := rfl

/-- One call from its start to its end. -/
def oneCall : List (Move UsageDraw) := List.replicate 3 ⟨0, drawOf "u0"⟩

def startedPool : UsagePool := ⟨unusedQuota, Function.update (arrived unusedQuota gpuHour).call 0 (.started (gpuHour 0) 0)⟩

theorem sumsAlone_oneCall :
    Along (Pool.step (next wholeNumbers .zeroKey)) SumsAlone (arrived unusedQuota gpuHour) oneCall := by
  have h₁ : Pool.step (next wholeNumbers .zeroKey) (arrived unusedQuota gpuHour) ⟨0, drawOf "u0"⟩ = startedPool :=
    Pool.step_of_some rfl
  have h₂ : Pool.step (next wholeNumbers .zeroKey) startedPool ⟨0, drawOf "u0"⟩ = ⟨unusedQuota, Function.update
      startedPool.call 0 (sumUp wholeNumbers .zeroKey (drawOf "u0") unusedQuota (gpuHour 0) 0)⟩ := Pool.step_of_some rfl
  refine ⟨fun _ _ => UsageCall.noConfusion, ?_, ?_, trivial⟩
  · rw [h₁]
    intro req now _ j hpending
    by_cases hj : j = 0
    · subst hj
      exact hpending
    · simp only [startedPool, Function.update_of_ne hj] at hpending
      exact hpending
  · rw [h₁, h₂]
    intro req now hstarted
    simp only [Function.update_self, sumUp] at hstarted
    split at hstarted <;> cases hstarted

end Sample

end AdmissionController
end Sip
