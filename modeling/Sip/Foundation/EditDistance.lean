import Mathlib.Data.List.Basic
import Mathlib.Order.Lattice
import Mathlib.Order.MinMax
import Mathlib.Algebra.Order.Monoid.Unbundled.Basic

/-!
# The Levenshtein distance

The distance of two lists is the least cost of an edit script between them. Scripts run
from the front; a script read backwards is one for the reversed lists, so the distance
may be computed from either end.
-/

namespace Sip

set_option autoImplicit false

variable {α : Type*}

/-- A script that turns one list into another, with its cost. -/
inductive Edits : List α → List α → Nat → Prop where
  | nil : Edits [] [] 0
  | delete {xs ys : List α} {n : Nat} (x : α) : Edits xs ys n → Edits (x :: xs) ys (n + 1)
  | insert {xs ys : List α} {n : Nat} (y : α) : Edits xs ys n → Edits xs (y :: ys) (n + 1)
  | keep {xs ys : List α} {n : Nat} (x : α) : Edits xs ys n → Edits (x :: xs) (x :: ys) n
  | replace {xs ys : List α} {n : Nat} (x y : α) : Edits xs ys n → Edits (x :: xs) (y :: ys) (n + 1)

namespace Edits

theorem append {as bs cs ds : List α} {m n : Nat} (h : Edits as cs m) (h' : Edits bs ds n) :
    Edits (as ++ bs) (cs ++ ds) (m + n) := by
  induction h with
  | nil => rwa [Nat.zero_add]
  | delete x _ ih =>
    rw [Nat.add_right_comm]
    exact .delete x ih
  | insert y _ ih =>
    rw [Nat.add_right_comm]
    exact .insert y ih
  | keep x _ ih => exact .keep x ih
  | replace x y _ ih =>
    rw [Nat.add_right_comm]
    exact .replace x y ih

theorem reverse {xs ys : List α} {n : Nat} (h : Edits xs ys n) : Edits xs.reverse ys.reverse n := by
  induction h with
  | nil => exact .nil
  | delete x _ ih =>
    have hlast := ih.append (.delete x .nil)
    rwa [List.append_nil, ← List.reverse_cons] at hlast
  | insert y _ ih =>
    have hlast := ih.append (.insert y .nil)
    rwa [List.append_nil, ← List.reverse_cons] at hlast
  | keep x _ ih =>
    have hlast := ih.append (.keep x .nil)
    rwa [← List.reverse_cons, ← List.reverse_cons] at hlast
  | replace x y _ ih =>
    have hlast := ih.append (.replace x y .nil)
    rwa [← List.reverse_cons, ← List.reverse_cons] at hlast

theorem length_le {xs ys : List α} {n : Nat} (h : Edits xs ys n) : xs.length ≤ ys.length + n ∧ ys.length ≤ xs.length + n := by
  induction h with
  | nil => exact ⟨le_refl 0, le_refl 0⟩
  | delete x _ ih => simp only [List.length_cons]; omega
  | insert y _ ih => simp only [List.length_cons]; omega
  | keep x _ ih => simp only [List.length_cons]; omega
  | replace x y _ ih => simp only [List.length_cons]; omega

theorem nil_left (ys : List α) : Edits [] ys ys.length := by
  induction ys with
  | nil => exact .nil
  | cons y ys ih => exact .insert y ih

theorem nil_right (xs : List α) : Edits xs [] xs.length := by
  induction xs with
  | nil => exact .nil
  | cons x xs ih => exact .delete x ih

end Edits

variable [DecidableEq α]

/-- What it costs to put one element in the place of another. -/
def substitution (x y : α) : Nat := if x = y then 0 else 1

def levenshtein : List α → List α → Nat
  | [], ys => ys.length
  | x :: xs, [] => (x :: xs).length
  | x :: xs, y :: ys => min (min (levenshtein xs (y :: ys) + 1) (levenshtein (x :: xs) ys + 1))
      (levenshtein xs ys + substitution x y)
termination_by xs ys => xs.length + ys.length

@[simp] theorem levenshtein_nil_left (ys : List α) : levenshtein [] ys = ys.length := by rw [levenshtein]

@[simp] theorem levenshtein_nil_right (xs : List α) : levenshtein xs [] = xs.length := by
  cases xs with
  | nil => rw [levenshtein]
  | cons x xs => rw [levenshtein]

theorem levenshtein_cons_cons (x y : α) (xs ys : List α) : levenshtein (x :: xs) (y :: ys) =
    min (min (levenshtein xs (y :: ys) + 1) (levenshtein (x :: xs) ys + 1)) (levenshtein xs ys + substitution x y) := by
  rw [levenshtein]

theorem levenshtein_delete_le (x : α) (xs ys : List α) : levenshtein (x :: xs) ys ≤ levenshtein xs ys + 1 := by
  cases ys with
  | nil => simp
  | cons y ys =>
    rw [levenshtein_cons_cons]
    exact (min_le_left _ _).trans (min_le_left _ _)

theorem levenshtein_insert_le (xs : List α) (y : α) (ys : List α) : levenshtein xs (y :: ys) ≤ levenshtein xs ys + 1 := by
  cases xs with
  | nil => simp
  | cons x xs =>
    rw [levenshtein_cons_cons]
    exact (min_le_left _ _).trans (min_le_right _ _)

theorem levenshtein_substitute_le (x y : α) (xs ys : List α) :
    levenshtein (x :: xs) (y :: ys) ≤ levenshtein xs ys + substitution x y := by
  rw [levenshtein_cons_cons]
  exact min_le_right _ _

/-- No script is cheaper than the distance. -/
theorem levenshtein_le_of_edits {xs ys : List α} {n : Nat} (h : Edits xs ys n) : levenshtein xs ys ≤ n := by
  induction h with
  | nil => simp
  | delete x _ ih => exact (levenshtein_delete_le x _ _).trans (Nat.add_le_add_right ih 1)
  | insert y _ ih => exact (levenshtein_insert_le _ y _).trans (Nat.add_le_add_right ih 1)
  | keep x _ ih =>
    apply (levenshtein_substitute_le x x _ _).trans
    rw [substitution, if_pos rfl]
    exact ih
  | replace x y _ ih =>
    apply (levenshtein_substitute_le x y _ _).trans
    unfold substitution
    split <;> omega

/-- Some script costs the distance. -/
theorem edits_levenshtein (xs ys : List α) : Edits xs ys (levenshtein xs ys) := by
  fun_induction levenshtein xs ys with
  | case1 ys => exact .nil_left ys
  | case2 x xs => exact .nil_right (x :: xs)
  | case3 x xs y ys hdelete hinsert hsubstitute =>
    rcases min_choice (min (levenshtein xs (y :: ys) + 1) (levenshtein (x :: xs) ys + 1))
      (levenshtein xs ys + substitution x y) with hmin | hmin
    · rw [hmin]
      rcases min_choice (levenshtein xs (y :: ys) + 1) (levenshtein (x :: xs) ys + 1) with hfirst | hfirst
      · rw [hfirst]
        exact .delete x hdelete
      · rw [hfirst]
        exact .insert y hinsert
    · rw [hmin]
      by_cases hxy : x = y
      · subst hxy
        rw [substitution, if_pos rfl]
        exact .keep x hsubstitute
      · rw [substitution, if_neg hxy]
        exact .replace x y hsubstitute

theorem levenshtein_reverse (xs ys : List α) : levenshtein xs.reverse ys.reverse = levenshtein xs ys := by
  have hle : ∀ as bs : List α, levenshtein as.reverse bs.reverse ≤ levenshtein as bs :=
    fun as bs => levenshtein_le_of_edits (edits_levenshtein as bs).reverse
  apply le_antisymm (hle xs ys)
  have hback := hle xs.reverse ys.reverse
  rwa [List.reverse_reverse, List.reverse_reverse] at hback

theorem length_le_levenshtein (xs ys : List α) :
    xs.length ≤ ys.length + levenshtein xs ys ∧ ys.length ≤ xs.length + levenshtein xs ys :=
  (edits_levenshtein xs ys).length_le

end Sip
