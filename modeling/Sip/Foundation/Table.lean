import Mathlib.Data.List.Nodup

/-!
# Tables with a primary key

Rows stand in insertion order and no two of them share a key. Replacing a row goes
through its own key, so it cannot break uniqueness; inserting a row whose key is
taken fails, as the constraint in the database does.
-/

namespace Sip

set_option autoImplicit false

structure Table (α : Type) (key : α → String) where
  rows : List α
  nodup : (rows.map key).Nodup

namespace Table
variable {α : Type} {key : α → String}

def empty : Table α key := ⟨[], List.nodup_nil⟩

/-- The table of one row. -/
abbrev single (row : α) : Table α key := ⟨[row], List.nodup_singleton _⟩

def get? (t : Table α key) (k : String) : Option α := t.rows.find? fun r => key r = k

/-- Write a row back under its own key; a key that is not there changes nothing. -/
def set (t : Table α key) (row : α) : Table α key where
  rows := t.rows.map fun r => if key r = key row then row else r
  nodup := by
    have hkeys : (t.rows.map fun r => if key r = key row then row else r).map key = t.rows.map key := by
      rw [List.map_map]
      apply List.map_congr_left
      intro r _
      simp only [Function.comp_apply]
      split
      · exact Eq.symm ‹_›
      · rfl
    rw [hkeys]
    exact t.nodup

/-- `UPDATE .. WHERE` on the primary key, for columns outside the key. -/
def modify (t : Table α key) (k : String) (f : α → α) (hf : ∀ r, key (f r) = key r) : Table α key where
  rows := t.rows.map fun r => if key r = k then f r else r
  nodup := by
    have hkeys : (t.rows.map fun r => if key r = k then f r else r).map key = t.rows.map key := by
      rw [List.map_map]
      apply List.map_congr_left
      intro r _
      simp only [Function.comp_apply]
      split
      · exact hf r
      · rfl
    rw [hkeys]
    exact t.nodup

/-- `UPDATE` of every row, for columns outside the key. -/
def mapRows (t : Table α key) (f : α → α) (hf : ∀ r, key (f r) = key r) : Table α key where
  rows := t.rows.map f
  nodup := by
    have hkeys : (t.rows.map f).map key = t.rows.map key := by
      rw [List.map_map]
      exact List.map_congr_left fun r _ => hf r
    rw [hkeys]
    exact t.nodup

def insert? (t : Table α key) (row : α) : Option (Table α key) :=
  if h : key row ∈ t.rows.map key then none
  else some ⟨t.rows ++ [row], by
    rw [List.map_append, List.nodup_append]
    exact ⟨t.nodup, by simp, by
      intro a ha b hb
      have hb' : b = key row := by simpa using hb
      subst hb'
      rintro rfl
      exact h ha⟩⟩

/-- Write a row under its key, whether or not the key is taken. -/
def put (t : Table α key) (row : α) : Table α key := (t.insert? row).getD (t.set row)

/-- Remove the row at a key, if there is one. -/
def erase (t : Table α key) (k : String) : Table α key where
  rows := t.rows.filter fun r => key r ≠ k
  nodup := t.nodup.sublist (List.filter_sublist.map key)

theorem get?_eq_some_iff (t : Table α key) (k : String) (r : α) :
    t.get? k = some r ↔ r ∈ t.rows ∧ key r = k := by
  constructor
  · intro h
    exact ⟨List.mem_of_find?_eq_some h, by simpa using List.find?_some h⟩
  · rintro ⟨hmem, rfl⟩
    cases hg : t.get? (key r) with
    | none =>
      have := List.find?_eq_none.mp hg r hmem
      simp at this
    | some s =>
      have hs : s ∈ t.rows := List.mem_of_find?_eq_some hg
      have hk : key s = key r := by simpa using List.find?_some hg
      rw [List.inj_on_of_nodup_map t.nodup hs hmem hk]

theorem get?_eq_none_iff (t : Table α key) (k : String) : t.get? k = none ↔ k ∉ t.rows.map key := by
  simp [get?, List.find?_eq_none]

theorem get?_set_of_ne (t : Table α key) {row : α} {k : String} (h : k ≠ key row) :
    (t.set row).get? k = t.get? k := by
  apply Option.ext
  intro r
  rw [get?_eq_some_iff, get?_eq_some_iff]
  simp only [set, List.mem_map]
  constructor
  · rintro ⟨⟨s, hs, hsr⟩, hk⟩
    split at hsr
    · exact absurd (hk ▸ hsr ▸ rfl) h
    · exact ⟨hsr ▸ hs, hk⟩
  · rintro ⟨hr, hk⟩
    exact ⟨⟨r, hr, if_neg (hk ▸ h)⟩, hk⟩

theorem get?_set_self (t : Table α key) {row old : α} (h : t.get? (key row) = some old) :
    (t.set row).get? (key row) = some row := by
  obtain ⟨hmem, hk⟩ := (get?_eq_some_iff t _ _).mp h
  rw [get?_eq_some_iff]
  refine ⟨?_, rfl⟩
  simp only [set, List.mem_map]
  exact ⟨old, hmem, if_pos hk⟩

theorem get?_set (t : Table α key) {row old : α} (h : t.get? (key row) = some old) (k : String) :
    (t.set row).get? k = if k = key row then some row else t.get? k := by
  split
  · rename_i hk
    rw [hk]
    exact get?_set_self t h
  · exact get?_set_of_ne t ‹_›

theorem mem_rows_iff (t : Table α key) (r : α) : r ∈ t.rows ↔ t.get? (key r) = some r := by
  rw [get?_eq_some_iff, and_iff_left rfl]

/-- Rewriting every row without touching its key. -/
theorem get?_of_rows_eq_map {t u : Table α key} {f : α → α} (hf : ∀ r, key (f r) = key r)
    (h : u.rows = t.rows.map f) (k : String) : u.get? k = (t.get? k).map f := by
  have hkey : ((fun r => decide (key r = k)) ∘ f) = fun r => decide (key r = k) := by
    funext r
    simp [hf]
  simp only [get?, h, List.find?_map, hkey]

theorem get?_mapRows (t : Table α key) {f : α → α} (hf : ∀ r, key (f r) = key r) (k : String) :
    (t.mapRows f hf).get? k = (t.get? k).map f :=
  get?_of_rows_eq_map hf rfl k

theorem get?_modify (t : Table α key) (k : String) (f : α → α) (hf : ∀ r, key (f r) = key r) (k' : String) :
    (t.modify k f hf).get? k' = (t.get? k').map fun r => if key r = k then f r else r := by
  have hkey : ∀ r, key (if key r = k then f r else r) = key r := by
    intro r
    split
    · exact hf r
    · rfl
  exact get?_of_rows_eq_map hkey rfl k'

theorem insert?_eq_some {t u : Table α key} {row : α} (h : t.insert? row = some u) :
    t.get? (key row) = none ∧ u.rows = t.rows ++ [row] := by
  unfold insert? at h
  split at h
  · cases h
  · cases h
    exact ⟨(get?_eq_none_iff t _).mpr ‹_›, rfl⟩

theorem insert?_isSome {t : Table α key} {row : α} (h : t.get? (key row) = none) :
    ∃ u, t.insert? row = some u := by
  unfold insert?
  rw [dif_neg ((get?_eq_none_iff t _).mp h)]
  exact ⟨_, rfl⟩

theorem get?_insert {t u : Table α key} {row : α} (h : t.insert? row = some u) (k : String) :
    u.get? k = if k = key row then some row else t.get? k := by
  obtain ⟨hfresh, hrows⟩ := insert?_eq_some h
  simp only [get?, hrows, List.find?_append]
  split
  · rename_i hk
    subst hk
    have hnone : t.rows.find? (fun r => decide (key r = key row)) = none := hfresh
    simp [hnone]
  · rename_i hk
    have hk' : ¬ key row = k := fun h => hk h.symm
    simp [hk']

theorem get?_put (t : Table α key) (row : α) (k : String) :
    (t.put row).get? k = if k = key row then some row else t.get? k := by
  cases hfresh : t.get? (key row) with
  | none =>
    obtain ⟨u, hu⟩ := insert?_isSome hfresh
    rw [put, hu, Option.getD_some, get?_insert hu]
  | some old =>
    have htaken : t.insert? row = none := by
      cases hu : t.insert? row with
      | none => rfl
      | some u => cases hfresh.symm.trans (insert?_eq_some hu).1
    rw [put, htaken, Option.getD_none]
    split
    · rename_i hk
      rw [hk, get?_set_self t hfresh]
    · exact get?_set_of_ne t ‹_›

theorem get?_erase (t : Table α key) (k k' : String) : (t.erase k).get? k' = if k' = k then none else t.get? k' := by
  apply Option.ext
  intro r
  rw [get?_eq_some_iff]
  simp only [erase, List.mem_filter, decide_eq_true_eq]
  split
  · rename_i hk
    constructor
    · rintro ⟨⟨_, hne⟩, hr⟩
      exact absurd (hr.trans hk) hne
    · intro h
      cases h
  · rename_i hk
    rw [get?_eq_some_iff]
    constructor
    · rintro ⟨⟨hr, _⟩, hkey⟩
      exact ⟨hr, hkey⟩
    · rintro ⟨hr, hkey⟩
      exact ⟨⟨hr, hkey ▸ hk⟩, hkey⟩

end Table

end Sip
