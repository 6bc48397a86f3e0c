import Mathlib.Algebra.Order.BigOperators.Group.Finset
import Mathlib.Algebra.Order.Ring.Abs
import Mathlib.Data.Fintype.BigOperators
import Mathlib.Order.Interval.Set.Basic

/-!
# Boxes with sides along the axes

A box is given by two corners that are ordered on every axis; its points are the interval
between them. What is said of boxes by their corners is what holds of their points.
-/

namespace Sip

set_option autoImplicit false

variable {ι K : Type}

structure Box (ι K : Type) [LE K] where
  minimum : ι → K
  maximum : ι → K
  ordered : ∀ i, minimum i ≤ maximum i

namespace Box

section Order
variable [LinearOrder K]

def points (box : Box ι K) : Set (ι → K) := Set.Icc box.minimum box.maximum

theorem subset_iff {inner outer : Box ι K} :
    inner.points ⊆ outer.points ↔ ∀ i, outer.minimum i ≤ inner.minimum i ∧ inner.maximum i ≤ outer.maximum i := by
  rw [points, points, Set.Icc_subset_Icc_iff inner.ordered]
  exact forall_and.symm

theorem meets_iff {left right : Box ι K} :
    (left.points ∩ right.points).Nonempty ↔ ∀ i, left.minimum i ≤ right.maximum i ∧ right.minimum i ≤ left.maximum i := by
  rw [points, points, Set.Icc_inter_Icc, Set.nonempty_Icc]
  refine forall_congr' fun i => ?_
  simp only [Pi.sup_apply, Pi.inf_apply, sup_le_iff, le_inf_iff]
  constructor
  · rintro ⟨⟨_, hright⟩, hleft, _⟩
    exact ⟨hleft, hright⟩
  · rintro ⟨hleft, hright⟩
    exact ⟨⟨left.ordered i, hright⟩, hleft, right.ordered i⟩

end Order

section Distance
variable [CommRing K] [LinearOrder K] [IsStrictOrderedRing K] {low high x y : K}

/-- How far a number lies outside an interval. -/
def gap (low high x : K) : K := max (max (low - x) 0) (x - high)

omit [IsStrictOrderedRing K] in
theorem gap_nonneg (low high x : K) : 0 ≤ gap low high x := le_max_of_le_left (le_max_right _ _)

theorem gap_le_abs (hlow : low ≤ y) (hhigh : y ≤ high) : gap low high x ≤ |x - y| := by
  refine max_le (max_le ?_ (abs_nonneg _)) ?_
  · calc low - x ≤ y - x := sub_le_sub_right hlow x
      _ ≤ |x - y| := by rw [abs_sub_comm]; exact le_abs_self _
  · calc x - high ≤ x - y := sub_le_sub_left hhigh x
      _ ≤ |x - y| := le_abs_self _

/-- The nearest number of the interval. -/
def clamp (low high x : K) : K := max low (min x high)

theorem abs_sub_clamp (h : low ≤ high) : |x - clamp low high x| = gap low high x := by
  rcases le_total x low with hx | hx
  · have hclamp : clamp low high x = low := by rw [clamp, min_eq_left (hx.trans h), max_eq_left hx]
    have hgap : x - high ≤ low - x := (sub_nonpos.mpr (hx.trans h)).trans (sub_nonneg.mpr hx)
    rw [hclamp, gap, max_eq_left (sub_nonneg.mpr hx), max_eq_left hgap, abs_sub_comm, abs_of_nonneg (sub_nonneg.mpr hx)]
  · rcases le_total x high with hhigh | hhigh
    · have hclamp : clamp low high x = x := by rw [clamp, min_eq_left hhigh, max_eq_right hx]
      rw [hclamp, gap, max_eq_right (sub_nonpos.mpr hx), max_eq_left (sub_nonpos.mpr hhigh), sub_self, abs_zero]
    · have hclamp : clamp low high x = high := by rw [clamp, min_eq_right hhigh, max_eq_right h]
      rw [hclamp, gap, max_eq_right (sub_nonpos.mpr hx), max_eq_right (sub_nonneg.mpr hhigh),
        abs_of_nonneg (sub_nonneg.mpr hhigh)]

variable [Fintype ι]

/-- The squared distance of two points. -/
def squaredDistance (p q : ι → K) : K := ∑ i, (p i - q i) ^ 2

/-- The squared distance of a point from a box. -/
def squaredGap (p : ι → K) (box : Box ι K) : K :=
  ∑ i, gap (box.minimum i) (box.maximum i) (p i) * gap (box.minimum i) (box.maximum i) (p i)

theorem squaredGap_nonneg (p : ι → K) (box : Box ι K) : 0 ≤ squaredGap p box :=
  Finset.sum_nonneg fun _ _ => mul_self_nonneg _

/-- A box has a point within a distance if and only if the point nearest on every axis is within it. -/
theorem exists_near_iff (p : ι → K) (box : Box ι K) {bound : K} :
    (∃ q ∈ box.points, squaredDistance p q ≤ bound) ↔ squaredGap p box ≤ bound := by
  constructor
  · rintro ⟨q, ⟨hlow, hhigh⟩, hq⟩
    refine le_trans (Finset.sum_le_sum fun i _ => ?_) hq
    rw [← sq, ← sq_abs (p i - q i)]
    exact pow_le_pow_left₀ (gap_nonneg _ _ _) (gap_le_abs (hlow i) (hhigh i)) 2
  · intro h
    refine ⟨fun i => clamp (box.minimum i) (box.maximum i) (p i), ⟨?_, ?_⟩, ?_⟩
    · intro i
      exact le_max_left _ _
    · intro i
      exact max_le (box.ordered i) (min_le_right _ _)
    · refine le_trans (le_of_eq (Finset.sum_congr rfl fun i _ => ?_)) h
      rw [← sq_abs, abs_sub_clamp (box.ordered i), sq]

end Distance

end Box

end Sip
