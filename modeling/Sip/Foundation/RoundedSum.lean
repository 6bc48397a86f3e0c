import Mathlib.Data.List.Induction
import Mathlib.Order.Basic

/-!
# Sums that round

An addition that rounds its result and may overflow, as floating-point addition does:
adding a non-negative number does not make a sum smaller, and a smaller sum stays the
smaller one. Leaving summands out of a sum of non-negative numbers makes it no larger.
-/

namespace Sip

set_option autoImplicit false

universe u

/-- A rounded addition; `none` is an overflow. -/
structure RoundedSum (α : Type u) [Preorder α] where
  zero : α
  add : α → α → Option α
  le_add : ∀ {x y z}, zero ≤ y → add x y = some z → x ≤ z
  add_mono : ∀ {x x' y z'}, x ≤ x' → add x' y = some z' → ∃ z, add x y = some z ∧ z ≤ z'

namespace RoundedSum
variable {α : Type u} [Preorder α] (A : RoundedSum α)

/-- The summands from left to right. -/
def total (l : List α) : Option α := l.foldlM A.add A.zero

/-- A sum that has not overflowed and is within a bound. -/
def Within (l : List α) (bound : α) : Prop := ∃ z, A.total l = some z ∧ z ≤ bound

theorem total_nil : A.total [] = some A.zero := rfl

theorem total_snoc (l : List α) (y : α) : A.total (l ++ [y]) = (A.total l).bind fun x => A.add x y := by
  simp only [total, List.foldlM_append, List.foldlM_cons, List.foldlM_nil, bind_pure]
  rfl

variable {A}

theorem total_snoc_of_some {l : List α} {x : α} (h : A.total l = some x) (y : α) : A.total (l ++ [y]) = A.add x y := by
  rw [total_snoc, h, Option.bind_some]

/-- Fewer summands, no larger sum. -/
theorem total_of_sublist {l m : List α} (h : l.Sublist m) (hpos : ∀ y ∈ m, A.zero ≤ y) {z' : α}
    (hm : A.total m = some z') : ∃ z, A.total l = some z ∧ z ≤ z' := by
  induction m using List.reverseRecOn generalizing l z' with
  | nil =>
    rw [List.sublist_nil.mp h]
    exact ⟨z', hm, le_refl _⟩
  | append_singleton m y ih =>
    have hposm : ∀ x ∈ m, A.zero ≤ x := fun x hx => hpos x (List.mem_append_left _ hx)
    have hy : A.zero ≤ y := hpos y (by simp)
    rw [total_snoc, Option.bind_eq_some_iff] at hm
    obtain ⟨x, hx, hadd⟩ := hm
    obtain ⟨l₁, l₂, rfl, hl₁, hl₂⟩ := List.sublist_append_iff.mp h
    obtain ⟨z₁, hz₁, hle⟩ := ih hl₁ hposm hx
    -- the last summand is left out or it is added to a smaller sum
    rcases List.sublist_cons_iff.mp hl₂ with hnil | ⟨rest, rfl, hrest⟩
    · rw [List.sublist_nil.mp hnil]
      rw [List.append_nil]
      exact ⟨z₁, hz₁, hle.trans (A.le_add hy hadd)⟩
    · rw [List.sublist_nil.mp hrest, total_snoc_of_some hz₁]
      exact A.add_mono hle hadd

theorem Within.of_sublist {l m : List α} {bound : α} (h : A.Within m bound) (hsub : l.Sublist m)
    (hpos : ∀ y ∈ m, A.zero ≤ y) : A.Within l bound := by
  obtain ⟨z', hz', hle'⟩ := h
  obtain ⟨z, hz, hle⟩ := total_of_sublist hsub hpos hz'
  exact ⟨z, hz, hle.trans hle'⟩

end RoundedSum

end Sip
