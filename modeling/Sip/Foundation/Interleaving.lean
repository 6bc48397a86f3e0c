import Mathlib.Logic.Function.Basic
import Sip.Foundation.Runs

/-!
# Calls that interleave on a shared state

Every call has a local state; a move lets one call take its next step on the shared
state, or leaves everything as it is when that call is finished or has to wait. A
property of the shared state and of each call's local view of it holds after every
run if each step keeps it for the call that moves and does not disturb the others.
-/

namespace Sip

set_option autoImplicit false

universe u v w
variable {σ : Type u} {φ : Type v} {α : Type w}

structure Pool (σ : Type u) (φ : Type v) where
  shared : σ
  call : Nat → φ

/-- Who moves, and what the step draws from outside. -/
structure Move (α : Type w) where
  who : Nat
  input : α

namespace Pool
variable (next : Nat → α → σ → φ → Option (σ × φ))

def step (p : Pool σ φ) (m : Move α) : Pool σ φ :=
  match next m.who m.input p.shared (p.call m.who) with
  | none => p
  | some (shared, l) => ⟨shared, Function.update p.call m.who l⟩

variable {next}

theorem step_of_none {p : Pool σ φ} {m : Move α} (h : next m.who m.input p.shared (p.call m.who) = none) :
    p.step next m = p := by
  simp [step, h]

theorem step_of_some {p : Pool σ φ} {m : Move α} {s : σ} {l : φ}
    (h : next m.who m.input p.shared (p.call m.who) = some (s, l)) :
    p.step next m = ⟨s, Function.update p.call m.who l⟩ := by
  simp [step, h]

/-- The shared state is as `I` says and every call sees it as `J` says. -/
def Holds (I : σ → Prop) (J : Nat → σ → φ → Prop) (p : Pool σ φ) : Prop :=
  I p.shared ∧ ∀ i, J i p.shared (p.call i)

section Rule
variable {I : σ → Prop} {J : Nat → σ → φ → Prop} {P : Pool σ φ → Move α → Prop}

theorem holds_step {p : Pool σ φ} {m : Move α} (hp : Holds I J p)
    (own : ∀ s l, next m.who m.input p.shared (p.call m.who) = some (s, l) → I s ∧ J m.who s l)
    (frame : ∀ s l j, next m.who m.input p.shared (p.call m.who) = some (s, l) → j ≠ m.who → J j s (p.call j)) :
    Holds I J (p.step next m) := by
  cases h : next m.who m.input p.shared (p.call m.who) with
  | none =>
    rw [step_of_none h]
    exact hp
  | some r =>
    obtain ⟨s, l⟩ := r
    rw [step_of_some h]
    obtain ⟨hI, hJ⟩ := own s l h
    refine ⟨hI, fun j => ?_⟩
    by_cases hj : j = m.who
    · subst hj
      simpa using hJ
    · simpa [Function.update_of_ne hj] using frame s l j h hj

/-- The rule: local correctness and freedom from interference, under a condition on the moves. -/
theorem invariant_along
    (own : ∀ p m s l, P p m → Holds I J p → next m.who m.input p.shared (p.call m.who) = some (s, l) →
      I s ∧ J m.who s l)
    (frame : ∀ p m s l j, P p m → Holds I J p → next m.who m.input p.shared (p.call m.who) = some (s, l) →
      j ≠ m.who → J j s (p.call j))
    {p : Pool σ φ} (hp : Holds I J p) {moves : List (Move α)} (ha : Along (step next) P p moves) :
    Holds I J (run (step next) p moves) := by
  apply run_invariant_along _ hp ha
  intro p m hP hp
  exact holds_step hp (fun s l h => own p m s l hP hp h) (fun s l j h hj => frame p m s l j hP hp h hj)

/-- The rule without a condition on the moves. -/
theorem invariant
    (own : ∀ p (m : Move α) s l, Holds I J p → next m.who m.input p.shared (p.call m.who) = some (s, l) → I s ∧ J m.who s l)
    (frame : ∀ p (m : Move α) s l j, Holds I J p → next m.who m.input p.shared (p.call m.who) = some (s, l) → j ≠ m.who →
      J j s (p.call j))
    {p : Pool σ φ} (hp : Holds I J p) (moves : List (Move α)) : Holds I J (run (step next) p moves) := by
  apply run_invariant _ hp
  intro p m hp
  exact holds_step hp (fun s l h => own p m s l hp h) (fun s l j h hj => frame p m s l j hp h hj)

end Rule

end Pool

end Sip
