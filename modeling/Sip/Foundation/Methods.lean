import Sip.Foundation.Interleaving

/-!
# Methods of several transactions

A method commits transactions one after another, and each decides from what it has read
how it goes on. When a transaction raises, it ends and what was committed
before stays. `run` performs a method without interruption and `advance` performs its
next transaction, so that a method under way can be the local state in a `Pool`.

`Within I Q` is the rule for methods among others: from every state in `I` each
transaction stays in `I`, and what the method returns satisfies `Q`. `Triple` is the rule
for a method that runs alone; it may speak about the state between transactions.
-/

namespace Sip

set_option autoImplicit false

/-- A method with results in `α` on states in `σ`; `ι` names its transactions. -/
inductive Method (ι ε σ α : Type) where
  | done (result : Except ε α)
  | step (stage : ι) (commit : σ → σ) (rest : σ → Method ι ε σ α)

namespace Method
variable {ι ε σ α β : Type}

section Programs

def bind : Method ι ε σ α → (α → Method ι ε σ β) → Method ι ε σ β
  | .done (.ok a), f => f a
  | .done (.error e), _ => .done (.error e)
  | .step stage commit rest, f => .step stage commit fun s => (rest s).bind f

instance : Monad (Method ι ε σ) where
  pure a := .done (.ok a)
  bind := bind

/-- A computation that touches no state. -/
def ofExcept (x : Except ε α) : Method ι ε σ α := .done x

instance : MonadLift (Except ε) (Method ι ε σ) := ⟨ofExcept⟩

/-- What a raising transaction leaves: the state it found. -/
def committed (s : σ) : Except ε (α × σ) → σ
  | .ok (_, s') => s'
  | .error _ => s

/-- One transaction, rolled back when it raises. -/
def transaction (stage : ι) (t : σ → Except ε (α × σ)) : Method ι ε σ α :=
  .step stage (fun s => committed s (t s)) fun s => .done ((t s).map Prod.fst)

/-- A transaction that only reads. -/
def read (stage : ι) (t : σ → Except ε α) : Method ι ε σ α := .step stage id fun s => .done (t s)

/-- A method whose own transactions are taken as one step: what it commits stays when it raises. -/
def perform (stage : ι) (f : σ → σ × Except ε α) : Method ι ε σ α :=
  .step stage (fun s => (f s).1) fun s => .done (f s).2

/-- `try: x except Exception as exc: handler(exc); raise`. -/
def rescue : Method ι ε σ α → (ε → Method ι ε σ Unit) → Method ι ε σ α
  | .done (.ok a), _ => .done (.ok a)
  | .done (.error e), handler => (handler e).bind fun _ => .done (.error e)
  | .step stage commit rest, handler => .step stage commit fun s => (rest s).rescue handler

def run : Method ι ε σ α → σ → σ × Except ε α
  | .done result, s => (s, result)
  | .step _ commit rest, s => (rest s).run (commit s)

/-- The next transaction; a finished method has none. -/
def advance : Method ι ε σ α → σ → Option (σ × Method ι ε σ α)
  | .done _, _ => none
  | .step _ commit rest, s => some (commit s, rest s)

/-- The transaction that comes next. -/
def stage? : Method ι ε σ α → Option ι
  | .done _ => none
  | .step stage _ _ => some stage

def result? : Method ι ε σ α → Option (Except ε α)
  | .done result => some result
  | .step .. => none

/-- The state in which a method is left that is cut off after `n` transactions. -/
def cut : Nat → Method ι ε σ α → σ → σ
  | 0, _, s => s
  | _ + 1, .done _, s => s
  | n + 1, .step _ commit rest, s => cut n (rest s) (commit s)

end Programs

section Equations
variable (s : σ) (stage : ι)

@[simp] theorem bind_eq (x : Method ι ε σ α) (f : α → Method ι ε σ β) : x >>= f = x.bind f := rfl

@[simp] theorem pure_eq (a : α) : (pure a : Method ι ε σ α) = .done (.ok a) := rfl

@[simp] theorem run_done (result : Except ε α) : (done result : Method ι ε σ α).run s = (s, result) := rfl

@[simp] theorem bind_ok (a : α) (f : α → Method ι ε σ β) : (done (.ok a) : Method ι ε σ α).bind f = f a := rfl

@[simp] theorem bind_error (e : ε) (f : α → Method ι ε σ β) :
    (done (.error e) : Method ι ε σ α).bind f = .done (.error e) := rfl

@[simp] theorem bind_step (commit : σ → σ) (rest : σ → Method ι ε σ α) (f : α → Method ι ε σ β) :
    (step stage commit rest).bind f = .step stage commit fun s => (rest s).bind f := rfl

theorem run_bind (x : Method ι ε σ α) (f : α → Method ι ε σ β) (s : σ) : (x.bind f).run s =
    match x.run s with
    | (s', .ok a) => (f a).run s'
    | (s', .error e) => (s', .error e) := by
  induction x generalizing s with
  | done result => cases result <;> rfl
  | step stage commit rest ih => exact ih s (commit s)

theorem run_bind_of_ok {x : Method ι ε σ α} {s s' : σ} {a : α} (h : x.run s = (s', .ok a))
    (f : α → Method ι ε σ β) : (x.bind f).run s = (f a).run s' := by
  rw [run_bind, h]

theorem run_bind_of_error {x : Method ι ε σ α} {s s' : σ} {e : ε} (h : x.run s = (s', .error e))
    (f : α → Method ι ε σ β) : (x.bind f).run s = (s', .error e) := by
  rw [run_bind, h]

theorem run_transaction_of_ok {t : σ → Except ε (α × σ)} {s s' : σ} {a : α} (h : t s = .ok (a, s')) :
    (transaction stage t).run s = (s', .ok a) := by
  simp [transaction, run, committed, h, Except.map]

theorem run_transaction_of_error {t : σ → Except ε (α × σ)} {s : σ} {e : ε} (h : t s = .error e) :
    (transaction stage t).run s = (s, .error e) := by
  simp [transaction, run, committed, h, Except.map]

/-- What a single transaction leaves. -/
theorem run_transaction_state {t : σ → Except ε (α × σ)} {s : σ} {P : σ → Prop} (hs : P s)
    (h : ∀ a s', t s = .ok (a, s') → P s') : P ((transaction stage t).run s).1 := by
  cases ht : t s with
  | error e =>
    rw [run_transaction_of_error stage ht]
    exact hs
  | ok r =>
    obtain ⟨a, s'⟩ := r
    rw [run_transaction_of_ok stage ht]
    exact h a s' ht

/-- Dropping the result does not change the state. -/
theorem run_void (x : Method ι ε σ α) (b : β) (s : σ) : ((x.bind fun _ => .done (.ok b)).run s).1 = (x.run s).1 := by
  rw [run_bind]
  split
  next heq => rw [heq]; rfl
  next heq => rw [heq]

theorem run_read (t : σ → Except ε α) (s : σ) : (read stage t).run s = (s, t s) := rfl

theorem run_perform (f : σ → σ × Except ε α) (s : σ) : (perform stage f).run s = f s := rfl

end Equations

section Returns
variable {s s' : σ} {stage : ι}

theorem run_bind_eq_ok {x : Method ι ε σ α} {f : α → Method ι ε σ β} {b : β} :
    (x.bind f).run s = (s', .ok b) ↔ ∃ s'' a, x.run s = (s'', .ok a) ∧ (f a).run s'' = (s', .ok b) := by
  rw [run_bind]
  constructor
  · intro h
    split at h
    next s'' a hx => exact ⟨s'', a, hx, h⟩
    next => cases h
  · rintro ⟨s'', a, hx, hf⟩
    rw [hx]
    exact hf

theorem run_done_eq_ok {x : Except ε α} {a : α} : (done x : Method ι ε σ α).run s = (s', .ok a) ↔ s = s' ∧ x = .ok a := by
  rw [run_done, Prod.mk.injEq]

theorem run_read_eq_ok {t : σ → Except ε α} {a : α} : (read stage t).run s = (s', .ok a) ↔ s = s' ∧ t s = .ok a := by
  rw [run_read, Prod.mk.injEq]

theorem run_transaction_eq_ok {t : σ → Except ε (α × σ)} {a : α} :
    (transaction stage t).run s = (s', .ok a) ↔ t s = .ok (a, s') := by
  cases ht : t s with
  | error e =>
    rw [run_transaction_of_error stage ht]
    simp
  | ok r =>
    obtain ⟨b, s''⟩ := r
    rw [run_transaction_of_ok stage ht]
    simp [and_comm]

/-- A handler does not change what a method returns. -/
theorem run_rescue_eq_ok {x : Method ι ε σ α} {handler : ε → Method ι ε σ Unit} {a : α} :
    (x.rescue handler).run s = (s', .ok a) ↔ x.run s = (s', .ok a) := by
  induction x generalizing s with
  | done result =>
    cases result with
    | ok b => rfl
    | error e =>
      simp only [rescue, run_bind_eq_ok, run_done, Prod.mk.injEq, reduceCtorEq, and_false, exists_false]
  | step stage commit rest ih => exact ih s

end Returns

section Within
variable {I : σ → Prop} {Q : α → Prop} {R : β → Prop}

/-- From every state in `I`, each transaction stays in `I` and a result satisfies `Q`. -/
def Within (I : σ → Prop) (Q : α → Prop) : Method ι ε σ α → Prop
  | .done (.ok a) => Q a
  | .done (.error _) => True
  | .step _ commit rest => ∀ s, I s → I (commit s) ∧ (rest s).Within I Q

theorem Within.mono {Q' : α → Prop} (hQ : ∀ a, Q a → Q' a) {x : Method ι ε σ α} (h : x.Within I Q) : x.Within I Q' := by
  induction x with
  | done result =>
    cases result with
    | error e => exact trivial
    | ok a => exact hQ a h
  | step stage commit rest ih =>
    intro s hs
    obtain ⟨hcommit, hrest⟩ := h s hs
    exact ⟨hcommit, ih s hrest⟩

theorem Within.bind {x : Method ι ε σ α} {f : α → Method ι ε σ β} (hx : x.Within I Q)
    (hf : ∀ a, Q a → (f a).Within I R) : (x.bind f).Within I R := by
  induction x with
  | done result =>
    cases result with
    | error e => exact trivial
    | ok a => exact hf a hx
  | step stage commit rest ih =>
    intro s hs
    obtain ⟨hcommit, hrest⟩ := hx s hs
    exact ⟨hcommit, ih s hrest⟩

theorem within_done {x : Except ε α} (h : ∀ a, x = .ok a → Q a) : (done x : Method ι ε σ α).Within I Q := by
  cases x with
  | error e => exact trivial
  | ok a => exact h a rfl

theorem within_transaction {stage : ι} {t : σ → Except ε (α × σ)}
    (h : ∀ s a s', I s → t s = .ok (a, s') → I s' ∧ Q a) : (transaction stage t).Within I Q := by
  intro s hs
  dsimp only
  cases ht : t s with
  | error e => exact ⟨hs, trivial⟩
  | ok r =>
    obtain ⟨a, s'⟩ := r
    exact h s a s' hs ht

theorem within_read {stage : ι} {t : σ → Except ε α} (h : ∀ s a, I s → t s = .ok a → Q a) :
    (read stage t).Within I Q := by
  intro s hs
  exact ⟨hs, within_done fun a => h s a hs⟩

theorem within_perform {stage : ι} {f : σ → σ × Except ε α} (hI : ∀ s, I s → I (f s).1)
    (hQ : ∀ s a, I s → (f s).2 = .ok a → Q a) : (perform stage f).Within I Q := by
  intro s hs
  exact ⟨hI s hs, within_done fun a => hQ s a hs⟩

theorem Within.rescue {x : Method ι ε σ α} {handler : ε → Method ι ε σ Unit} (hx : x.Within I Q)
    (hhandler : ∀ e, (handler e).Within I fun _ => True) : (x.rescue handler).Within I Q := by
  induction x with
  | done result =>
    cases result with
    | error e => exact (hhandler e).bind fun _ _ => trivial
    | ok a => exact hx
  | step stage commit rest ih =>
    intro s hs
    obtain ⟨hcommit, hrest⟩ := hx s hs
    exact ⟨hcommit, ih s hrest⟩

/-- A method that runs alone. -/
theorem Within.run {x : Method ι ε σ α} (h : x.Within I Q) {s : σ} (hs : I s) : I (x.run s).1 := by
  induction x generalizing s with
  | done result => exact hs
  | step stage commit rest ih =>
    obtain ⟨hcommit, hrest⟩ := h s hs
    exact ih s hrest hcommit

/-- A method that is cut off. -/
theorem Within.cut {x : Method ι ε σ α} (h : x.Within I Q) {s : σ} (hs : I s) (n : Nat) : I (x.cut n s) := by
  induction n generalizing x s with
  | zero => exact hs
  | succ n ih =>
    cases x with
    | done result => exact hs
    | step stage commit rest =>
      obtain ⟨hcommit, hrest⟩ := h s hs
      exact ih hrest hcommit

/-- A method that another one may follow at any time. -/
theorem Within.advance {x y : Method ι ε σ α} (h : x.Within I Q) {s s' : σ} (hs : I s) (hxy : x.advance s = some (s', y)) :
    I s' ∧ y.Within I Q := by
  cases x with
  | done result => cases hxy
  | step stage commit rest =>
    cases hxy
    exact h s hs

-- the rules above are all that is used of it
attribute [irreducible] Within

end Within

section Triple
variable {P : σ → Prop} {Q : α → σ → Prop} {R : β → σ → Prop} {E : σ → Prop}

/-- Run from a state in `P`, the method ends in `Q` with its result or raises in `E`. -/
def Triple (P : σ → Prop) (x : Method ι ε σ α) (Q : α → σ → Prop) (E : σ → Prop) : Prop :=
  ∀ s, P s → match x.run s with
    | (s', .ok a) => Q a s'
    | (s', .error _) => E s'

theorem Triple.bind {x : Method ι ε σ α} {f : α → Method ι ε σ β} (hx : Triple P x Q E)
    (hf : ∀ a, Triple (Q a) (f a) R E) : Triple P (x.bind f) R E := by
  intro s hs
  have h := hx s hs
  rw [run_bind]
  split at h
  next s' a _ => exact hf a s' h
  next s' e _ => exact h

theorem triple_done {x : Except ε α} (h : ∀ s a, P s → x = .ok a → Q a s) (hE : ∀ s, P s → E s) :
    Triple P (done x : Method ι ε σ α) Q E := by
  intro s hs
  cases x with
  | error e => exact hE s hs
  | ok a => exact h s a hs rfl

theorem triple_transaction {stage : ι} {t : σ → Except ε (α × σ)}
    (h : ∀ s a s', P s → t s = .ok (a, s') → Q a s') (hE : ∀ s e, P s → t s = .error e → E s) :
    Triple P (transaction stage t) Q E := by
  intro s hs
  cases ht : t s with
  | error e =>
    rw [run_transaction_of_error stage ht]
    exact hE s e hs ht
  | ok r =>
    obtain ⟨a, s'⟩ := r
    rw [run_transaction_of_ok stage ht]
    exact h s a s' hs ht

theorem triple_read {stage : ι} {t : σ → Except ε α} (h : ∀ s a, P s → t s = .ok a → Q a s) (hE : ∀ s, P s → E s) :
    Triple P (read stage t) Q E := by
  intro s hs
  rw [run_read]
  cases ht : t s with
  | error e => exact hE s hs
  | ok a => exact h s a hs ht

theorem Triple.consequence {P' : σ → Prop} {Q' : α → σ → Prop} {E' : σ → Prop} {x : Method ι ε σ α} (h : Triple P x Q E)
    (hP : ∀ s, P' s → P s) (hQ : ∀ a s, Q a s → Q' a s) (hE : ∀ s, E s → E' s) : Triple P' x Q' E' := by
  intro s hs
  have hrun := h s (hP s hs)
  split at hrun
  next s' a _ => exact hQ a s' hrun
  next s' e _ => exact hE s' hrun

/-- However a method ends, it ends in `E`. -/
theorem Triple.run {x : Method ι ε σ α} (h : Triple P x (fun _ => E) E) {s : σ} (hs : P s) : E (x.run s).1 := by
  have hrun := h s hs
  split at hrun
  next heq => rw [heq]; exact hrun
  next heq => rw [heq]; exact hrun

end Triple

end Method

end Sip
