import Mathlib.Data.List.Sort
import Mathlib.Data.Prod.Lex

/-!
# Sorting by a key

`sortBy key` is the stable sort that `ORDER BY` stands for. When the keys of a list
are distinct, the sorted list is determined: its first element is the least one, and
an element above all others goes to the end. `sortedSet` is `sorted(set(..))`.
-/

namespace Sip

set_option autoImplicit false

universe u v
variable {α : Type u} {β : Type v} [LinearOrder β]

def sortBy (key : α → β) (l : List α) : List α := l.insertionSort fun a b => key a ≤ key b

variable {key : α → β} {l : List α}

theorem perm_sortBy (key : α → β) (l : List α) : (sortBy key l).Perm l := List.perm_insertionSort _ l

theorem mem_sortBy {a : α} : a ∈ sortBy key l ↔ a ∈ l := List.mem_insertionSort _

theorem length_sortBy (key : α → β) (l : List α) : (sortBy key l).length = l.length := List.length_insertionSort _ l

theorem pairwise_sortBy (key : α → β) (l : List α) : (sortBy key l).Pairwise fun a b => key a ≤ key b := by
  have htotal : Std.Total fun a b : α => key a ≤ key b := ⟨fun a b => le_total (key a) (key b)⟩
  have htrans : IsTrans α fun a b => key a ≤ key b := ⟨fun _ _ _ hab hbc => hab.trans hbc⟩
  exact List.pairwise_insertionSort _ l

theorem sortBy_of_pairwise (h : l.Pairwise fun a b => key a ≤ key b) : sortBy key l = l := h.insertionSort_eq

theorem head?_sortBy_eq_none (h : (sortBy key l).head? = none) : l = [] := by
  have hlen := length_sortBy key l
  rw [List.head?_eq_none_iff.mp h] at hlen
  exact List.length_eq_zero_iff.mp hlen.symm

theorem head?_sortBy_spec {m : α} (h : (sortBy key l).head? = some m) : m ∈ l ∧ ∀ a ∈ l, key m ≤ key a := by
  obtain ⟨rest, hsort⟩ := List.head?_eq_some_iff.mp h
  have hpairs := pairwise_sortBy key l
  rw [hsort, List.pairwise_cons] at hpairs
  have hmem : ∀ a, a ∈ l → a ∈ m :: rest := fun a ha => hsort ▸ mem_sortBy.mpr ha
  refine ⟨mem_sortBy.mp (hsort ▸ List.mem_cons_self), ?_⟩
  intro a ha
  rcases List.mem_cons.mp (hmem a ha) with rfl | hrest
  · exact le_refl _
  · exact hpairs.1 a hrest

section Distinct
variable (hkeys : (l.map key).Nodup)
include hkeys

theorem eq_of_key_le {a b : α} (ha : a ∈ l) (hb : b ∈ l) (hab : key a ≤ key b) (hba : key b ≤ key a) : a = b :=
  List.inj_on_of_nodup_map hkeys ha hb (le_antisymm hab hba)

theorem head?_sortBy_of_least {a : α} (ha : a ∈ l) (hleast : ∀ b ∈ l, key a ≤ key b) :
    (sortBy key l).head? = some a := by
  cases h : (sortBy key l).head? with
  | none =>
    rw [head?_sortBy_eq_none h] at ha
    cases ha
  | some m =>
    obtain ⟨hm, hmin⟩ := head?_sortBy_spec h
    rw [eq_of_key_le hkeys ha hm (hleast m hm) (hmin a ha)]

/-- In a sorted list the greatest element stands last. -/
theorem getLast?_of_greatest {m : α} (hsorted : l.Pairwise fun a b => key a ≤ key b) (hm : m ∈ l)
    (hgreatest : ∀ a ∈ l, key a ≤ key m) : l.getLast? = some m := by
  rcases List.eq_nil_or_concat l with rfl | ⟨rest, x, rfl⟩
  · cases hm
  · simp only [List.concat_eq_append] at *
    rw [List.getLast?_append, List.getLast?_singleton]
    have hmx : key m ≤ key x := by
      rcases List.mem_append.mp hm with hm | hm
      · exact (List.pairwise_append.mp hsorted).2.2 m hm x (by simp)
      · rw [List.mem_singleton.mp hm]
    have hx : x = m := eq_of_key_le hkeys (by simp) hm (hgreatest x (by simp)) hmx
    simp [hx]

theorem find?_key_eq_some_iff {k : β} {a : α} : (l.find? fun b => key b = k) = some a ↔ a ∈ l ∧ key a = k := by
  constructor
  · intro h
    exact ⟨List.mem_of_find?_eq_some h, by simpa using List.find?_some h⟩
  · rintro ⟨ha, rfl⟩
    cases hfound : l.find? fun b => key b = key a with
    | none => exact absurd (decide_eq_true rfl) (List.find?_eq_none.mp hfound a ha)
    | some b =>
      have hb : key b = key a := by simpa using List.find?_some hfound
      rw [List.inj_on_of_nodup_map hkeys (List.mem_of_find?_eq_some hfound) ha hb]

end Distinct

theorem sortBy_append_greatest {a : α} (hkeys : ((l ++ [a]).map key).Nodup) (ha : ∀ b ∈ l, key b ≤ key a) :
    sortBy key (l ++ [a]) = sortBy key l ++ [a] := by
  have hperm : (sortBy key (l ++ [a])).Perm (sortBy key l ++ [a]) :=
    (perm_sortBy key _).trans ((perm_sortBy key l).symm.append_right _)
  refine hperm.eq_of_pairwise ?_ (pairwise_sortBy key _) ?_
  · intro x y hx hy
    have hy' := hperm.symm.subset hy
    rw [mem_sortBy] at hx hy'
    exact eq_of_key_le hkeys hx hy'
  · refine List.pairwise_append.mpr ⟨pairwise_sortBy key l, by simp, ?_⟩
    intro x hx y hy
    rw [List.mem_singleton.mp hy]
    exact ha x (mem_sortBy.mp hx)

/-- What a filter keeps of a sorted list is determined by the elements it keeps. -/
theorem filter_sortBy_eq {l' : List α} {p : α → Bool} (hl : (l.map key).Nodup) (hl' : (l'.map key).Nodup)
    (h : ∀ a, p a = true → (a ∈ l' ↔ a ∈ l)) : (sortBy key l').filter p = (sortBy key l).filter p := by
  have hnodup : ∀ {l : List α}, (l.map key).Nodup → ((sortBy key l).filter p).Nodup := by
    intro l hl
    exact (((perm_sortBy key l).nodup_iff).mpr hl.of_map).filter _
  have hmem : ∀ a, a ∈ (sortBy key l').filter p ↔ a ∈ (sortBy key l).filter p := by
    intro a
    rw [List.mem_filter, List.mem_filter, mem_sortBy, mem_sortBy]
    exact and_congr_left (h a)
  have hsorted : ∀ l : List α, ((sortBy key l).filter p).Pairwise fun a b => key a ≤ key b :=
    fun l => (pairwise_sortBy key l).sublist List.filter_sublist
  apply ((List.perm_ext_iff_of_nodup (hnodup hl') (hnodup hl)).mpr hmem).eq_of_pairwise _ (hsorted l') (hsorted l)
  intro a b ha hb
  have ha' := List.mem_of_mem_filter ((hmem a).mp ha)
  exact eq_of_key_le hl (mem_sortBy.mp ha') (mem_sortBy.mp (List.mem_of_mem_filter hb))

theorem map_sortBy {γ : Type*} {f : α → γ} {key' : γ → β} (h : ∀ a ∈ l, key a = key' (f a)) :
    (sortBy key l).map f = sortBy key' (l.map f) := by
  refine List.map_insertionSort _ _ f l ?_
  intro a ha b hb
  rw [h a ha, h b hb]

/-- What is sorted does not depend on the order that elements with distinct keys come in. -/
theorem sortBy_congr {l' : List α} (hkeys : (l.map key).Nodup) (h : l.Perm l') : sortBy key l = sortBy key l' := by
  apply (((perm_sortBy key l).trans h).trans (perm_sortBy key l').symm).eq_of_pairwise _ (pairwise_sortBy key l)
    (pairwise_sortBy key l')
  intro a b ha hb
  exact eq_of_key_le hkeys (mem_sortBy.mp ha) (h.mem_iff.mpr (mem_sortBy.mp hb))

theorem filter_sortBy (hkeys : (l.map key).Nodup) (p : α → Bool) : sortBy key (l.filter p) = (sortBy key l).filter p := by
  have hfilter : ((l.filter p).map key).Nodup := hkeys.sublist (List.filter_sublist.map key)
  have hself := filter_sortBy_eq (p := p) hkeys hfilter fun a ha => by rw [List.mem_filter, and_iff_left ha]
  rw [← hself]
  refine (List.filter_eq_self.mpr ?_).symm
  intro a ha
  exact (List.mem_filter.mp (mem_sortBy.mp ha)).2

/-- In a sorted list the elements below one of its elements stand before it. -/
theorem filter_lt_append {before after : List α} {a : α} (h : (before ++ a :: after).Pairwise fun b c => key b < key c) :
    (before ++ a :: after).filter (fun b => key b < key a) = before := by
  obtain ⟨_, hrest, hcross⟩ := List.pairwise_append.mp h
  have hbefore : before.filter (fun b => key b < key a) = before := by
    rw [List.filter_eq_self]
    exact fun b hb => decide_eq_true (hcross b hb a List.mem_cons_self)
  have hafter : (a :: after).filter (fun b => key b < key a) = [] := by
    rw [List.filter_eq_nil_iff]
    intro b hb
    rcases List.mem_cons.mp hb with rfl | hb
    · simp
    · simpa using ((List.pairwise_cons.mp hrest).1 b hb).le
  rw [List.filter_append, hbefore, hafter, List.append_nil]

/-- The first elements of a sorted list are those of what a filter keeps of it, and both have as many more, if and only if
every element that is filtered out stands behind as many that are kept and these are not all. -/
theorem take_filter_iff (h : l.Pairwise fun a b => key a < key b) (p : α → Bool) (n : Nat) :
    (l.take n = (l.filter p).take n ∧ (n < l.length ↔ n < (l.filter p).length)) ↔
      ∀ a ∈ l, p a = false → n < (l.filter p).length ∧ n ≤ ((l.filter p).filter fun b => key b < key a).length := by
  constructor
  · rintro ⟨htake, hmore⟩ a ha hpa
    obtain ⟨before, after, rfl⟩ := List.append_of_mem ha
    have hlong : n ≤ before.length := by
      by_contra hshort
      obtain ⟨k, rfl⟩ := Nat.exists_eq_add_of_lt (not_le.mp hshort)
      have hin : a ∈ (before ++ a :: after).take (before.length + k + 1) := by
        rw [List.take_append, List.mem_append]
        refine Or.inr ?_
        have hrest : before.length + k + 1 - before.length = k + 1 := by omega
        rw [hrest, List.take_succ_cons]
        exact List.mem_cons_self
      rw [htake] at hin
      have hpa' := (List.mem_filter.mp (List.mem_of_mem_take hin)).2
      rw [hpa] at hpa'
      cases hpa'
    refine ⟨hmore.mp ?_, ?_⟩
    · rw [List.length_append, List.length_cons]
      omega
    · rw [List.filter_comm, filter_lt_append h]
      have hkept : (before.take n).filter p = before.take n := by
        rw [List.filter_eq_self]
        intro b hb
        rw [List.take_append_of_le_length hlong] at htake
        rw [htake] at hb
        exact (List.mem_filter.mp (List.mem_of_mem_take hb)).2
      have hlength := ((List.take_sublist n before).filter p).length_le
      rwa [hkept, List.length_take, min_eq_left hlong] at hlength
  · intro hall
    have hkept : (l.take n).filter p = l.take n := by
      rw [List.filter_eq_self]
      intro a ha
      by_contra hpa
      obtain ⟨before, after, rfl⟩ := List.append_of_mem (List.mem_of_mem_take ha)
      obtain ⟨_, hlong⟩ := hall a (List.mem_of_mem_take ha) (by simpa using hpa)
      rw [List.filter_comm, filter_lt_append h] at hlong
      have hn : n ≤ before.length := hlong.trans (List.length_filter_le _ _)
      rw [List.take_append_of_le_length hn] at ha
      obtain ⟨hbefore, _, hcross⟩ := List.pairwise_append.mp h
      exact absurd (hcross a (List.mem_of_mem_take ha) a List.mem_cons_self) (lt_irrefl _)
    have hsplit : l.filter p = l.take n ++ (l.drop n).filter p := by
      conv_lhs => rw [← List.take_append_drop n l, List.filter_append, hkept]
    constructor
    · rw [hsplit]
      rcases Nat.le_total n l.length with hn | hn
      · rw [List.take_append_of_le_length (by rw [List.length_take, min_eq_left hn]), List.take_take, min_self]
      · rw [List.drop_eq_nil_of_le hn, List.filter_nil, List.append_nil, List.take_take, min_self]
    · constructor
      · intro hn
        by_cases hlost : ∃ a ∈ l, p a = false
        · obtain ⟨a, ha, hpa⟩ := hlost
          exact (hall a ha hpa).1
        · rwa [List.filter_eq_self.mpr]
          intro a ha
          by_contra hpa
          exact hlost ⟨a, ha, by simpa using hpa⟩
      · intro hn
        exact hn.trans_le (List.length_filter_le _ _)

/-- In a sorted list with distinct keys, what is taken is what has no refused element up to it. -/
theorem mem_takeWhile_iff {p : α → Bool} (h : l.Pairwise fun a b => key a < key b) {a : α} :
    a ∈ l.takeWhile p ↔ a ∈ l ∧ ∀ b ∈ l, key b ≤ key a → p b = true := by
  induction l with
  | nil => simp
  | cons c l ih =>
    obtain ⟨hc, hl⟩ := List.pairwise_cons.mp h
    by_cases hpc : p c = true
    · rw [List.takeWhile_cons_of_pos hpc, List.mem_cons, List.mem_cons, ih hl]
      constructor
      · rintro (rfl | ⟨ha, hall⟩)
        · refine ⟨Or.inl rfl, ?_⟩
          intro b hb hle
          rcases List.mem_cons.mp hb with rfl | hb
          · exact hpc
          · exact absurd hle (not_le.mpr (hc b hb))
        · refine ⟨Or.inr ha, ?_⟩
          intro b hb hle
          rcases List.mem_cons.mp hb with rfl | hb
          · exact hpc
          · exact hall b hb hle
      · rintro ⟨rfl | ha, hall⟩
        · exact Or.inl rfl
        · exact Or.inr ⟨ha, fun b hb => hall b (List.mem_cons_of_mem c hb)⟩
    · rw [List.takeWhile_cons_of_neg hpc]
      refine iff_of_false List.not_mem_nil ?_
      rintro ⟨ha, hall⟩
      have hle : key c ≤ key a := by
        rcases List.mem_cons.mp ha with rfl | ha
        · exact le_refl _
        · exact (hc a ha).le
      exact hpc (hall c List.mem_cons_self hle)

section Descending

/-- An order that the elements may come in: those of the greatest key first, those of one key in any order. -/
def Descending (key : α → β) (l order : List α) : Prop := order.Perm l ∧ order.Pairwise fun a b => key b ≤ key a

def descend (key : α → β) (l : List α) : List α := (sortBy key l).reverse

theorem descending_descend (key : α → β) (l : List α) : Descending key l (descend key l) :=
  ⟨(List.reverse_perm _).trans (perm_sortBy key l), List.pairwise_reverse.mpr (pairwise_sortBy key l)⟩

/-- An element stands behind all others that are not below it in one of the orders. -/
theorem exists_descending_behind (key : α → β) (hl : l.Nodup) {a : α} (ha : a ∈ l) : ∃ before after, Descending key l (before ++ a :: after) ∧
    ∀ b ∈ l, b ∈ before ↔ b ≠ a ∧ key a ≤ key b := by
  classical
  set ahead := l.filter fun b => b ≠ a ∧ key a ≤ key b with hahead
  set below := l.filter fun b => ¬(b ≠ a ∧ key a ≤ key b) ∧ b ≠ a with hbelow
  have hmem : ∀ b, b ∈ descend key ahead ↔ b ∈ l ∧ b ≠ a ∧ key a ≤ key b := by
    intro b
    rw [(descending_descend key ahead).1.mem_iff, hahead, List.mem_filter, decide_eq_true_iff]
  have hmemBelow : ∀ b, b ∈ descend key below ↔ b ∈ l ∧ b ≠ a ∧ key b < key a := by
    intro b
    rw [(descending_descend key below).1.mem_iff, hbelow, List.mem_filter, decide_eq_true_iff, not_and, not_le]
    constructor
    · rintro ⟨hb, hlt, hne⟩
      exact ⟨hb, hne, hlt hne⟩
    · rintro ⟨hb, hne, hlt⟩
      exact ⟨hb, fun _ => hlt, hne⟩
  refine ⟨descend key ahead, descend key below, ⟨?_, ?_⟩, ?_⟩
  · have hnodup : (descend key ahead ++ a :: descend key below).Nodup := by
      have hsorted : ∀ l' : List α, l'.Nodup → (descend key l').Nodup :=
        fun l' hl' => ((descending_descend key l').1.nodup_iff).mpr hl'
      refine List.nodup_append.mpr ⟨hsorted _ (hl.filter _), List.nodup_cons.mpr ⟨?_, hsorted _ (hl.filter _)⟩, ?_⟩
      · intro h
        exact ((hmemBelow a).mp h).2.1 rfl
      · rintro b hb c hc rfl
        obtain ⟨_, hne, hle⟩ := (hmem b).mp hb
        rcases List.mem_cons.mp hc with rfl | hc
        · exact hne rfl
        · exact not_lt_of_ge hle ((hmemBelow b).mp hc).2.2
    refine (List.perm_ext_iff_of_nodup hnodup hl).mpr ?_
    intro b
    rw [List.mem_append, List.mem_cons, hmem, hmemBelow]
    constructor
    · rintro (h | rfl | h)
      · exact h.1
      · exact ha
      · exact h.1
    · intro hb
      by_cases hba : b = a
      · exact Or.inr (Or.inl hba)
      · rcases le_or_gt (key a) (key b) with hle | hlt
        · exact Or.inl ⟨hb, hba, hle⟩
        · exact Or.inr (Or.inr ⟨hb, hba, hlt⟩)
  · refine List.pairwise_append.mpr ⟨(descending_descend key ahead).2,
      List.pairwise_cons.mpr ⟨?_, (descending_descend key below).2⟩, ?_⟩
    · intro b hb
      exact ((hmemBelow b).mp hb).2.2.le
    · intro b hb c hc
      have hab : key a ≤ key b := ((hmem b).mp hb).2.2
      rcases List.mem_cons.mp hc with rfl | hc
      · exact hab
      · exact ((hmemBelow c).mp hc).2.2.le.trans hab
  · intro b hb
    rw [hmem]
    exact and_iff_right hb

/-- Of its kind, an element comes first among the first `n` in every order if and only if all others of the kind are below
it and fewer than `n` others are not. -/
theorem find?_take_descending_iff [DecidableEq α] (hl : l.Nodup) {p : α → Bool} {a : α} (ha : a ∈ l) (hp : p a = true) {n : Nat} :
    (∀ order, Descending key l order → (order.take n).find? p = some a) ↔
      (∀ b ∈ l, p b = true → b ≠ a → key b < key a) ∧ (l.filter fun b => b ≠ a ∧ key a ≤ key b).length < n := by
  constructor
  · intro h
    obtain ⟨before, after, horder, hbefore⟩ := exists_descending_behind key hl ha
    have hfound := h _ horder
    have hnot : a ∉ before := fun hmem => ((hbefore a ha).mp hmem).1 rfl
    have hlt : before.length < n := by
      by_contra hge
      rw [List.take_append_of_le_length (not_lt.mp hge)] at hfound
      exact hnot (List.mem_of_mem_take (List.mem_of_find?_eq_some hfound))
    have hkind : ∀ b ∈ before, p b ≠ true := by
      intro b hb hpb
      rw [List.take_append, List.find?_append, List.take_of_length_le hlt.le] at hfound
      cases hfirst : before.find? p with
      | none => exact List.find?_eq_none.mp hfirst b hb hpb
      | some c =>
        rw [hfirst, Option.some_or, Option.some.injEq] at hfound
        exact hnot (hfound ▸ List.mem_of_find?_eq_some hfirst)
    constructor
    · intro b hb hpb hne
      by_contra hle
      exact hkind b ((hbefore b hb).mpr ⟨hne, not_lt.mp hle⟩) hpb
    · refine lt_of_le_of_lt (List.subperm_of_subset (hl.filter _) ?_).length_le hlt
      intro b hb
      obtain ⟨hbl, hahead⟩ := List.mem_filter.mp hb
      exact (hbefore b hbl).mpr (of_decide_eq_true hahead)
  · rintro ⟨hkind, hcount⟩ order horder
    obtain ⟨before, after, rfl⟩ := List.append_of_mem (horder.1.mem_iff.mpr ha)
    obtain ⟨hnodup, _, hdisjoint⟩ := List.nodup_append.mp (horder.1.nodup_iff.mpr hl)
    have hbefore : ∀ b ∈ before, b ∈ l ∧ b ≠ a ∧ key a ≤ key b := fun b hb =>
      ⟨horder.1.mem_iff.mp (List.mem_append_left _ hb), hdisjoint b hb a List.mem_cons_self,
        (List.pairwise_append.mp horder.2).2.2 b hb a List.mem_cons_self⟩
    have hlt : before.length < n := by
      refine lt_of_le_of_lt (List.subperm_of_subset hnodup ?_).length_le hcount
      intro b hb
      obtain ⟨hbl, hahead⟩ := hbefore b hb
      exact List.mem_filter.mpr ⟨hbl, decide_eq_true hahead⟩
    have hnone : before.find? p = none := by
      rw [List.find?_eq_none]
      intro b hb hpb
      obtain ⟨hbl, hne, hle⟩ := hbefore b hb
      exact (hkind b hbl hpb hne).not_ge hle
    obtain ⟨k, rfl⟩ := Nat.exists_eq_add_of_lt hlt
    have hrest : before.length + k + 1 - before.length = k + 1 := by omega
    rw [List.take_append, List.take_of_length_le hlt.le, List.find?_append, hnone, Option.none_or, hrest, List.take_succ_cons,
      List.find?_cons_of_pos hp]

end Descending

section Sets

/-- The elements of a set in the order they came in: of several with one key the first stays. -/
def distinctBy (key : α → β) : List α → List α
  | [] => []
  | a :: l => a :: (distinctBy key l).filter fun b => key b ≠ key a

def sortedSet (key : α → β) (l : List α) : List α := sortBy key (distinctBy key l)

theorem mem_of_mem_distinctBy {a : α} (h : a ∈ distinctBy key l) : a ∈ l := by
  induction l with
  | nil => exact h
  | cons b l ih =>
    rcases List.mem_cons.mp h with rfl | h
    · exact List.mem_cons_self
    · exact List.mem_cons_of_mem _ (ih (List.mem_filter.mp h).1)

theorem exists_key_mem_distinctBy (key : α → β) {a : α} (h : a ∈ l) : ∃ b ∈ distinctBy key l, key b = key a := by
  induction l with
  | nil => cases h
  | cons c l ih =>
    by_cases hc : key c = key a
    · exact ⟨c, List.mem_cons_self, hc⟩
    · rcases List.mem_cons.mp h with rfl | h
      · exact absurd rfl hc
      · obtain ⟨b, hb, hba⟩ := ih h
        refine ⟨b, List.mem_cons_of_mem _ (List.mem_filter.mpr ⟨hb, ?_⟩), hba⟩
        simpa [hba] using fun h : key a = key c => hc h.symm

theorem mem_of_mem_sortedSet {a : α} (h : a ∈ sortedSet key l) : a ∈ l :=
  mem_of_mem_distinctBy (mem_sortBy.mp h)

theorem exists_key_mem_sortedSet (key : α → β) {a : α} (h : a ∈ l) : ∃ b ∈ sortedSet key l, key b = key a := by
  obtain ⟨b, hb, hba⟩ := exists_key_mem_distinctBy key h
  exact ⟨b, mem_sortBy.mpr hb, hba⟩

@[simp] theorem mem_sortedSet_id {l : List β} {b : β} : b ∈ sortedSet id l ↔ b ∈ l := by
  constructor
  · exact mem_of_mem_sortedSet
  · intro h
    obtain ⟨c, hc, rfl⟩ := exists_key_mem_sortedSet id h
    exact hc

theorem nodup_distinctBy (key : α → β) (l : List α) : ((distinctBy key l).map key).Nodup := by
  induction l with
  | nil => exact List.nodup_nil
  | cons a l ih =>
    rw [distinctBy, List.map_cons, List.nodup_cons]
    refine ⟨?_, ih.sublist (List.filter_sublist.map key)⟩
    intro h
    obtain ⟨b, hb, hba⟩ := List.mem_map.mp h
    exact of_decide_eq_true (List.mem_filter.mp hb).2 hba

theorem pairwise_lt_sortBy {key : α → β} {l : List α} (h : (l.map key).Nodup) :
    ((sortBy key l).map key).Pairwise (· < ·) := by
  have hle : ((sortBy key l).map key).Pairwise (· ≤ ·) := List.pairwise_map.mpr (pairwise_sortBy key l)
  have hnodup : ((sortBy key l).map key).Nodup := (((perm_sortBy key l).map key).nodup_iff).mpr h
  exact hle.imp₂ (fun _ _ hle hne => lt_of_le_of_ne hle hne) hnodup

theorem pairwise_lt_sortedSet (key : α → β) (l : List α) : ((sortedSet key l).map key).Pairwise (· < ·) :=
  pairwise_lt_sortBy (nodup_distinctBy key l)

/-- A sorted set is determined by its elements. -/
theorem sortedSet_id_congr {l l' : List β} (h : ∀ b, b ∈ l ↔ b ∈ l') : sortedSet id l = sortedSet id l' := by
  have hpairwise : ∀ l : List β, (sortedSet id l).Pairwise (· < ·) := by
    intro l
    have hlt := pairwise_lt_sortedSet id l
    rwa [List.map_id] at hlt
  have hnodup : ∀ l : List β, (sortedSet id l).Nodup := fun l => (hpairwise l).imp fun hlt => hlt.ne
  apply ((List.perm_ext_iff_of_nodup (hnodup l) (hnodup l')).mpr fun b => by rw [mem_sortedSet_id, mem_sortedSet_id, h])
    |>.eq_of_pairwise _ (hpairwise l) (hpairwise l')
  intro a b _ _ hab hba
  exact absurd hba hab.not_gt

theorem find?_distinctBy (key : α → β) (l : List α) (k : β) :
    ((distinctBy key l).find? fun b => key b = k) = l.find? fun b => key b = k := by
  induction l with
  | nil => rfl
  | cons a l ih =>
    rw [distinctBy]
    by_cases hak : key a = k
    · rw [List.find?_cons_of_pos (by simpa using hak), List.find?_cons_of_pos (by simpa using hak)]
    · rw [List.find?_cons_of_neg (by simpa using hak), List.find?_cons_of_neg (by simpa using hak), List.find?_filter, ← ih]
      congr 1
      funext b
      by_cases hbk : key b = k
      · simp [hbk, Ne.symm hak]
      · simp [hbk]

/-- In a sorted set stands, of several elements with one key, the one that came first. -/
theorem find?_sortedSet (key : α → β) (l : List α) (k : β) :
    ((sortedSet key l).find? fun b => key b = k) = l.find? fun b => key b = k := by
  have hnodup := nodup_distinctBy key l
  have hsorted : ((sortedSet key l).map key).Nodup := (((perm_sortBy key _).map key).nodup_iff).mpr hnodup
  rw [← find?_distinctBy key l]
  apply Option.ext
  intro a
  rw [find?_key_eq_some_iff hsorted, find?_key_eq_some_iff hnodup, sortedSet, mem_sortBy]

end Sets

end Sip
