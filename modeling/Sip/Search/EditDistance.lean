import Sip.Foundation.EditDistance

/-!
# The bounded edit distance of the lexical search

The table is filled row by row, one row for each element of the left text, and the search
stops at a row whose least entry is above the bound. Rows hold the distances of the texts
read so far, and their least entries never decrease.
-/

namespace Sip

set_option autoImplicit false

namespace SearchService

variable {α : Type*} [DecidableEq α]

/-- The rest of a row: `previous` starts at the entry before the one above, `last` is the entry before. -/
def nextEntries (leftChar : α) : List α → List Nat → Nat → List Nat
  | rightChar :: right, diagonal :: above :: previous, last =>
    let value := min (min (last + 1) (above + 1)) (diagonal + substitution leftChar rightChar)
    value :: nextEntries leftChar right (above :: previous) value
  | _, _, _ => []

def currentRow (index : Nat) (leftChar : α) (right : List α) (previous : List Nat) : List Nat :=
  index :: nextEntries leftChar right previous index

def rowMinimum (index : Nat) (entries : List Nat) : Nat := entries.foldl min index

/-- The loop over the left text; `index` counts from one. -/
def distanceRows (right : List α) (maximum : Nat) : List α → Nat → List Nat → Nat
  | [], _, previous => previous.getLastD 0
  | leftChar :: left, index, previous =>
    let current := currentRow index leftChar right previous
    if maximum < rowMinimum index current.tail then maximum + 1
    else distanceRows right maximum left (index + 1) current

/-- `_bounded_edit_distance`, for texts as lists of code points. -/
def boundedEditDistance (left right : List α) (maximum : Nat) : Nat :=
  if maximum < max left.length right.length - min left.length right.length then maximum + 1
  else distanceRows right maximum left 1 (List.range (right.length + 1))

/-- The distances from a text to one that ends with more and more of `right`, both read backwards. -/
def distancesFrom (xs ys : List α) : List α → List Nat
  | [] => [levenshtein xs ys]
  | y :: right => levenshtein xs ys :: distancesFrom xs (y :: ys) right

theorem distancesFrom_eq_cons (xs ys right : List α) :
    ∃ rest, distancesFrom xs ys right = levenshtein xs ys :: rest := by
  cases right with
  | nil => exact ⟨[], rfl⟩
  | cons y right => exact ⟨distancesFrom xs (y :: ys) right, rfl⟩

theorem nextEntries_distancesFrom (x : α) (xs ys right : List α) :
    levenshtein (x :: xs) ys :: nextEntries x right (distancesFrom xs ys right) (levenshtein (x :: xs) ys) =
      distancesFrom (x :: xs) ys right := by
  induction right generalizing ys with
  | nil => rfl
  | cons y right ih =>
    obtain ⟨rest, hrest⟩ := distancesFrom_eq_cons xs (y :: ys) right
    have hvalue : min (min (levenshtein (x :: xs) ys + 1) (levenshtein xs (y :: ys) + 1))
        (levenshtein xs ys + substitution x y) = levenshtein (x :: xs) (y :: ys) := by
      rw [levenshtein_cons_cons, min_comm (levenshtein (x :: xs) ys + 1)]
    have hnext := ih (y :: ys)
    rw [hrest] at hnext
    simp only [distancesFrom, hrest, nextEntries, hvalue]
    rw [hnext]

theorem currentRow_distancesFrom (x : α) (xs right : List α) :
    currentRow (xs.length + 1) x right (distancesFrom xs [] right) = distancesFrom (x :: xs) [] right := by
  rw [← nextEntries_distancesFrom, levenshtein_nil_right]
  rfl

theorem distancesFrom_nil (ys right : List α) :
    distancesFrom [] ys right = List.range' ys.length (right.length + 1) := by
  induction right generalizing ys with
  | nil => simp [distancesFrom]
  | cons y right ih =>
    rw [distancesFrom, ih, levenshtein_nil_left, List.length_cons, List.length_cons]
    exact List.range'_succ.symm

theorem getLastD_distancesFrom (xs ys right : List α) (d : Nat) :
    (distancesFrom xs ys right).getLastD d = levenshtein xs (right.reverse ++ ys) := by
  induction right generalizing ys d with
  | nil => rfl
  | cons y right ih =>
    rw [distancesFrom, List.getLastD_cons, ih, List.reverse_cons, List.append_assoc, List.singleton_append]

section Minimum

theorem le_rowMinimum_iff {m index : Nat} {entries : List Nat} :
    m ≤ rowMinimum index entries ↔ m ≤ index ∧ ∀ n ∈ entries, m ≤ n := by
  induction entries generalizing index with
  | nil => simp [rowMinimum]
  | cons n entries ih =>
    rw [rowMinimum, List.foldl_cons, ← rowMinimum, ih, le_min_iff, List.forall_mem_cons, and_assoc]

/-- The entries of a row are bounded below by those of the row before it. -/
theorem le_nextEntries {m last : Nat} {leftChar : α} {right : List α} {previous : List Nat} (hlast : m ≤ last)
    (hprevious : ∀ n ∈ previous, m ≤ n) : ∀ n ∈ nextEntries leftChar right previous last, m ≤ n := by
  fun_induction nextEntries leftChar right previous last with
  | case1 rightChar right diagonal above previous last value ih =>
    have hvalue : m ≤ value := by
      have hdiagonal := hprevious diagonal List.mem_cons_self
      have habove := hprevious above (List.mem_cons_of_mem _ List.mem_cons_self)
      exact le_min (le_min (by omega) (by omega)) (by omega)
    intro n hn
    rcases List.mem_cons.mp hn with rfl | hn
    · exact hvalue
    · exact ih hvalue (fun n hn => hprevious n (List.mem_cons_of_mem _ hn)) n hn
  | case2 => exact fun n hn => absurd hn List.not_mem_nil

theorem le_currentRow {m index : Nat} {leftChar : α} {right : List α} {previous : List Nat} (hindex : m ≤ index)
    (hprevious : ∀ n ∈ previous, m ≤ n) : ∀ n ∈ currentRow index leftChar right previous, m ≤ n := by
  intro n hn
  rcases List.mem_cons.mp hn with rfl | hn
  · exact hindex
  · exact le_nextEntries hindex hprevious n hn

/-- What bounds a row from below bounds the distance of the whole texts. -/
theorem le_levenshtein_of_row {m : Nat} {xs right left : List α} (hrow : ∀ n ∈ distancesFrom xs [] right, m ≤ n) :
    m ≤ levenshtein (left.reverse ++ xs) right.reverse := by
  induction left generalizing xs with
  | nil =>
    have hlast := getLastD_distancesFrom xs [] right 0
    rw [List.append_nil] at hlast
    rw [List.reverse_nil, List.nil_append, ← hlast, List.getLastD_eq_getLast?]
    obtain ⟨rest, hrest⟩ := distancesFrom_eq_cons xs [] right
    have hne : distancesFrom xs [] right ≠ [] := by rw [hrest]; exact List.cons_ne_nil _ _
    rw [List.getLast?_eq_some_getLast hne]
    exact hrow _ (List.getLast_mem hne)
  | cons x left ih =>
    rw [List.reverse_cons, List.append_assoc, List.singleton_append]
    apply ih
    rw [← currentRow_distancesFrom]
    apply le_currentRow _ hrow
    obtain ⟨rest, hrest⟩ := distancesFrom_eq_cons xs [] right
    have hfirst := hrow (levenshtein xs []) (by rw [hrest]; exact List.mem_cons_self)
    rw [levenshtein_nil_right] at hfirst
    exact hfirst.trans (Nat.le_succ _)

end Minimum

/-- The loop from a row that is filled: the distance, or something above the bound where the distance is. -/
theorem distanceRows_distancesFrom (right : List α) (maximum : Nat) (left xs : List α) :
    let distance := levenshtein (left.reverse ++ xs) right.reverse
    let result := distanceRows right maximum left (xs.length + 1) (distancesFrom xs [] right)
    result = distance ∨ maximum < result ∧ maximum < distance := by
  induction left generalizing xs with
  | nil =>
    left
    have hlast := getLastD_distancesFrom xs [] right 0
    rwa [List.append_nil] at hlast
  | cons x left ih =>
    have hrow := currentRow_distancesFrom x xs right
    intro distance result
    have hresult : result = if maximum < rowMinimum (xs.length + 1) (distancesFrom (x :: xs) [] right).tail then maximum + 1
        else distanceRows right maximum left ((x :: xs).length + 1) (distancesFrom (x :: xs) [] right) := by
      simp only [result, distanceRows, hrow, List.length_cons]
    have hdistance : distance = levenshtein (left.reverse ++ x :: xs) right.reverse := by
      simp only [distance, List.reverse_cons, List.append_assoc, List.singleton_append]
    rw [hresult, hdistance]
    split
    · rename_i hstop
      right
      refine ⟨Nat.lt_succ_self _, le_levenshtein_of_row fun n hn => ?_⟩
      obtain ⟨rest, hrest⟩ := distancesFrom_eq_cons (x :: xs) [] right
      obtain ⟨hindex, hentries⟩ := le_rowMinimum_iff.mp hstop
      rw [hrest] at hn hentries
      rcases List.mem_cons.mp hn with rfl | hn
      · rw [levenshtein_nil_right]
        exact hindex
      · exact hentries n hn
    · exact ih (x :: xs)

/-- The bounded distance is the Levenshtein distance wherever one of the two is within the bound. -/
theorem boundedEditDistance_eq_levenshtein (left right : List α) (maximum : Nat) :
    (boundedEditDistance left right maximum ≤ maximum ↔ levenshtein left right ≤ maximum) ∧
      (levenshtein left right ≤ maximum → boundedEditDistance left right maximum = levenshtein left right) := by
  obtain ⟨hleft, hright⟩ := length_le_levenshtein left right
  have hverdict : boundedEditDistance left right maximum = levenshtein left right ∨
      maximum < boundedEditDistance left right maximum ∧ maximum < levenshtein left right := by
    unfold boundedEditDistance
    split
    · right
      omega
    · have hloop := distanceRows_distancesFrom right maximum left []
      rwa [distancesFrom_nil, List.append_nil, levenshtein_reverse, List.length_nil, ← List.range_eq_range'] at hloop
  omega

end SearchService
end Sip
