import Mathlib.Data.List.Infix

/-!
# Runs of a deterministic system

A system is a step function on states; a run is a list of actions performed in
turn. `Along` states a condition at every step of a run, in the state that step
starts from. Each invariant of a system is then one lemma about one step.
-/

namespace Sip

set_option autoImplicit false

universe u v
variable {σ : Type u} {α : Type v} {step : σ → α → σ}

def run (step : σ → α → σ) (s : σ) (acts : List α) : σ := acts.foldl step s

@[simp] theorem run_nil (s : σ) : run step s [] = s := rfl

@[simp] theorem run_cons (s : σ) (a : α) (acts : List α) : run step s (a :: acts) = run step (step s a) acts := rfl

theorem run_append (s : σ) (as bs : List α) : run step s (as ++ bs) = run step (run step s as) bs := by
  simp [run, List.foldl_append]

/-- What holds at first and is kept by every step holds after every run. -/
theorem run_invariant {I : σ → Prop} (hstep : ∀ s a, I s → I (step s a)) {s : σ} (hs : I s) (acts : List α) :
    I (run step s acts) := by
  induction acts generalizing s with
  | nil => exact hs
  | cons a acts ih => exact ih (hstep s a hs)

/-- Every action of the run meets the condition in the state it is performed in. -/
def Along (step : σ → α → σ) (P : σ → α → Prop) : σ → List α → Prop
  | _, [] => True
  | s, a :: acts => P s a ∧ Along step P (step s a) acts

theorem Along.of_prefix {P : σ → α → Prop} {s : σ} {as bs : List α} (h : as <+: bs)
    (hb : Along step P s bs) : Along step P s as := by
  induction as generalizing s bs with
  | nil => exact trivial
  | cons a as ih =>
    obtain ⟨t, rfl⟩ := h
    exact ⟨hb.1, ih ⟨t, rfl⟩ hb.2⟩

theorem Along.of_append {P : σ → α → Prop} {s : σ} {as bs : List α} (h : Along step P s (as ++ bs)) :
    Along step P (run step s as) bs := by
  induction as generalizing s with
  | nil => exact h
  | cons a as ih => exact ih h.2

theorem Along.congr {P Q : σ → α → Prop} (h : ∀ s a, P s a ↔ Q s a) {s : σ} {acts : List α} :
    Along step P s acts ↔ Along step Q s acts := by
  induction acts generalizing s with
  | nil => exact Iff.rfl
  | cons a acts ih => exact and_congr (h s a) ih

/-- Conditions that agree in the states of an invariant hold along the same runs. -/
theorem Along.congr_of_invariant {I : σ → Prop} {P Q : σ → α → Prop} (hstep : ∀ s a, I s → I (step s a))
    (h : ∀ s a, I s → (P s a ↔ Q s a)) {s : σ} (hs : I s) {acts : List α} : Along step P s acts ↔ Along step Q s acts := by
  induction acts generalizing s with
  | nil => exact Iff.rfl
  | cons a acts ih => exact and_congr (h s a hs) (ih (hstep s a hs))

theorem run_invariant_along {I : σ → Prop} {P : σ → α → Prop}
    (hstep : ∀ s a, P s a → I s → I (step s a)) {s : σ} (hs : I s) {acts : List α}
    (ha : Along step P s acts) : I (run step s acts) := by
  induction acts generalizing s with
  | nil => exact hs
  | cons a acts ih => exact ih (hstep s a ha.1 hs) ha.2

/-- Where a step keeps what holds exactly when it meets a condition, a run keeps it at every point exactly when all its
steps meet the condition. -/
theorem prefix_invariant_iff {I : σ → Prop} {P Q : σ → α → Prop} (hstep : ∀ s a, Q s a → I s → (I (step s a) ↔ P s a))
    {s : σ} (hs : I s) {acts : List α} (hacts : Along step Q s acts) :
    (∀ as, as <+: acts → I (run step s as)) ↔ Along step P s acts := by
  constructor
  · intro h
    induction acts generalizing s with
    | nil => exact trivial
    | cons a acts ih =>
      have hnext : I (step s a) := h [a] (List.prefix_append [a] acts)
      refine ⟨(hstep s a hacts.1 hs).mp hnext, ih hnext hacts.2 ?_⟩
      intro as has
      exact h (a :: as) (List.prefix_cons_inj a |>.mpr has)
  · intro h as has
    induction as generalizing s acts with
    | nil => exact hs
    | cons a as ih =>
      obtain ⟨rest, rfl⟩ := has
      exact ih ((hstep s a hacts.1 hs).mpr h.1) hacts.2 h.2 ⟨rest, rfl⟩

end Sip
