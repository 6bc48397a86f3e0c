import Mathlib.Algebra.BigOperators.Group.Finset.Basic
import Mathlib.Algebra.Order.BigOperators.Group.List
import Mathlib.Algebra.Order.Group.Nat
import Mathlib.Algebra.Order.Monoid.Prod
import Sip.Foundation.SortBy

/-!
# Best-first search

The search takes the cheapest candidate off a queue, drops it when a cheaper one for its
node has been found meanwhile, and otherwise puts a candidate on the queue for each edge
that improves its target. With costs that are not negative it finds a cheapest walk, or
there is none, and it does so after as many turns as there are edges.
-/

namespace Sip

set_option autoImplicit false

/-- A graph given by the edges that leave each node, with their costs. -/
structure CostGraph (V E C : Type) where
  leaving : V → List E
  target : E → V
  cost : E → C

namespace CostGraph

section Walks
variable {V E C : Type} (g : CostGraph V E C)

/-- Edges that follow each other from one node to another. -/
def Walk (u v : V) : List E → Prop
  | [] => u = v
  | e :: es => e ∈ g.leaving u ∧ Walk (g.target e) v es

def walkCost [AddCommMonoid C] (es : List E) : C := (es.map g.cost).sum

theorem walk_snoc {u v : V} {es : List E} (h : g.Walk u v es) {e : E} (he : e ∈ g.leaving v) :
    g.Walk u (g.target e) (es ++ [e]) := by
  induction es generalizing u with
  | nil =>
    cases h
    exact ⟨he, rfl⟩
  | cons e' es ih => exact ⟨h.1, ih h.2⟩

theorem Walk.mem {nodes : Finset V} (hclosed : ∀ u ∈ nodes, ∀ e ∈ g.leaving u, g.target e ∈ nodes) {u v : V} {es : List E}
    (h : g.Walk u v es) (hu : u ∈ nodes) : v ∈ nodes := by
  induction es generalizing u with
  | nil =>
    cases h
    exact hu
  | cons e es ih => exact ih h.2 (hclosed u hu e h.1)

variable [AddCommMonoid C]

theorem walkCost_cons (e : E) (es : List E) : g.walkCost (e :: es) = g.cost e + g.walkCost es := by
  rw [walkCost, List.map_cons, List.sum_cons, walkCost]

theorem walkCost_snoc (es : List E) (e : E) : g.walkCost (es ++ [e]) = g.walkCost es + g.cost e := by
  rw [walkCost, List.map_append, List.sum_append, List.map_singleton, List.sum_singleton, walkCost]

/-- Where every edge can be taken back at its own cost, so can every walk. -/
theorem Walk.exists_reverse (hback : ∀ u, ∀ e ∈ g.leaving u, ∃ e' ∈ g.leaving (g.target e), g.target e' = u ∧ g.cost e' = g.cost e)
    {u v : V} {es : List E} (h : g.Walk u v es) : ∃ es', g.Walk v u es' ∧ g.walkCost es' = g.walkCost es := by
  induction es generalizing u with
  | nil =>
    cases h
    exact ⟨[], rfl, rfl⟩
  | cons e es ih =>
    obtain ⟨es', hwalk, hcost⟩ := ih h.2
    obtain ⟨e', he', htarget, hcost'⟩ := hback u e h.1
    refine ⟨es' ++ [e'], htarget ▸ g.walk_snoc hwalk he', ?_⟩
    rw [walkCost_snoc, walkCost_cons, hcost, hcost', add_comm]

theorem walkCost_nonneg [PartialOrder C] [IsOrderedAddMonoid C] (hcost : ∀ e, 0 ≤ g.cost e) (es : List E) :
    0 ≤ g.walkCost es := by
  apply List.sum_nonneg
  intro x hx
  obtain ⟨e, _, rfl⟩ := List.mem_map.mp hx
  exact hcost e

end Walks

variable {V E C P : Type} [DecidableEq V] [AddCommMonoid C] [LinearOrder C] (g : CostGraph V E C)

/-- A walk that has been found, with what was computed along it. -/
structure Candidate (V C P : Type) where
  cost : C
  serial : Nat
  node : V
  payload : P

structure Frontier (V C P : Type) where
  queue : List (Candidate V C P)
  best : V → Option C
  serial : Nat

inductive Outcome (V C P : Type) where
  | found (c : Candidate V C P)
  | exhausted
  | outOfFuel

section Search
variable (extend : P → E → P)

/-- An edge is followed unless its target has been reached as cheaply. -/
def relax (c : Candidate V C P) (s : Frontier V C P) (e : E) : Frontier V C P :=
  if (s.best (g.target e)).any fun b => b ≤ c.cost + g.cost e then s
  else {
    queue := s.queue ++ [⟨c.cost + g.cost e, s.serial + 1, g.target e, extend c.payload e⟩]
    best := Function.update s.best (g.target e) (some (c.cost + g.cost e))
    serial := s.serial + 1 }

def search (goal : V) : Nat → Frontier V C P → Outcome V C P
  | 0, _ => .outOfFuel
  | fuel + 1, s =>
    match sortBy (fun c => toLex (c.cost, c.serial)) s.queue with
    | [] => .exhausted
    | c :: rest =>
      if s.best c.node ≠ some c.cost then search goal fuel { s with queue := rest }
      else if c.node = goal then .found c
      else search goal fuel ((g.leaving c.node).foldl (g.relax extend c) { s with queue := rest })

def start (source : V) (payload : P) : Frontier V C P where
  queue := [⟨0, 0, source, payload⟩]
  best := Function.update (fun _ => none) source (some 0)
  serial := 0

end Search

section Invariant
variable (extend : P → E → P) (source : V) (payload : P)

/-- The candidate stands for a walk from the source. -/
def Reached (c : Candidate V C P) : Prop :=
  ∃ es, g.Walk source c.node es ∧ c.cost = g.walkCost es ∧ c.payload = es.foldl extend payload

/-- No cheaper candidate for the node has been found since. -/
def Live (s : Frontier V C P) (c : Candidate V C P) : Prop := s.best c.node = some c.cost

/-- The nodes that are done keep their costs, which are below all that is queued; of the others, those that have been
reached have one live candidate. -/
structure Sound (closed : V → Option C) (s : Frontier V C P) : Prop where
  reached : ∀ c ∈ s.queue, Reached g extend source payload c
  bounded : ∀ c ∈ s.queue, ∃ b, s.best c.node = some b ∧ b ≤ c.cost
  pending : ∀ v b, s.best v = some b → closed v = some b ∨ ∃ c ∈ s.queue, c.node = v ∧ c.cost = b
  final : ∀ v b, closed v = some b → s.best v = some b ∧ ∀ c ∈ s.queue, b ≤ c.cost
  fresh : ∀ c ∈ s.queue, Live s c → closed c.node = none
  single : s.queue.Pairwise fun c c' => Live s c → Live s c' → c.node ≠ c'.node

/-- An edge from a node that is done leads to a node that has been reached as cheaply. -/
def Relaxed (s : Frontier V C P) (b : C) (e : E) : Prop := ∃ b', s.best (g.target e) = some b' ∧ b' ≤ b + g.cost e

/-- Costs only go down. -/
def Improves (s s' : Frontier V C P) : Prop := ∀ v b, s.best v = some b → ∃ b', s'.best v = some b' ∧ b' ≤ b

omit [DecidableEq V] [AddCommMonoid C] in
theorem Improves.refl (s : Frontier V C P) : Improves s s := fun _ b h => ⟨b, h, le_rfl⟩

omit [DecidableEq V] [AddCommMonoid C] in
theorem Improves.trans {s s' s'' : Frontier V C P} (h : Improves s s') (h' : Improves s' s'') : Improves s s'' := by
  intro v b hb
  obtain ⟨b', hb', hle⟩ := h v b hb
  obtain ⟨b'', hb'', hle'⟩ := h' v b' hb'
  exact ⟨b'', hb'', hle'.trans hle⟩

omit [DecidableEq V] in
theorem Relaxed.improves {s s' : Frontier V C P} {b : C} {e : E} (h : Relaxed g s b e) (hs : Improves s s') :
    Relaxed g s' b e := by
  obtain ⟨b', hb', hle⟩ := h
  obtain ⟨b'', hb'', hle'⟩ := hs _ _ hb'
  exact ⟨b'', hb'', hle'.trans hle⟩

end Invariant

section Steps
variable {g} {extend : P → E → P} {source goal : V} {payload : P} {closed : V → Option C}
  {s : Frontier V C P} {c : Candidate V C P}

omit [DecidableEq V] [LinearOrder C] in
theorem Reached.snoc (hc : Reached g extend source payload c) {e : E} (he : e ∈ g.leaving c.node) (serial : Nat) :
    Reached g extend source payload ⟨c.cost + g.cost e, serial, g.target e, extend c.payload e⟩ := by
  obtain ⟨es, hwalk, hcost, hpayload⟩ := hc
  refine ⟨es ++ [e], g.walk_snoc hwalk he, ?_, ?_⟩
  · rw [walkCost_snoc, hcost]
  · rw [List.foldl_append, ← hpayload]
    rfl

omit [DecidableEq V] in
theorem Sound.perm (hs : Sound g extend source payload closed s) {q : List (Candidate V C P)} (hq : s.queue.Perm q) :
    Sound g extend source payload closed { s with queue := q } where
  reached c hc := hs.reached c (hq.mem_iff.mpr hc)
  bounded c hc := hs.bounded c (hq.mem_iff.mpr hc)
  pending v b hb := by
    cases hs.pending v b hb with
    | inl h => exact .inl h
    | inr h =>
      obtain ⟨c, hc, hnode, hcost⟩ := h
      exact .inr ⟨c, hq.mem_iff.mp hc, hnode, hcost⟩
  final v b hb := ⟨(hs.final v b hb).1, fun c hc => (hs.final v b hb).2 c (hq.mem_iff.mpr hc)⟩
  fresh c hc := hs.fresh c (hq.mem_iff.mpr hc)
  single := by
    refine (hq.pairwise_iff ?_).mp hs.single
    intro c c' h hc' hc heq
    exact h hc hc' heq.symm

omit [DecidableEq V] in
/-- A candidate that is no longer the best of its node can be dropped. -/
theorem Sound.drop {rest : List (Candidate V C P)} (hs : Sound g extend source payload closed { s with queue := c :: rest })
    (hc : s.best c.node ≠ some c.cost) : Sound g extend source payload closed { s with queue := rest } where
  reached c' hc' := hs.reached c' (List.mem_cons_of_mem c hc')
  bounded c' hc' := hs.bounded c' (List.mem_cons_of_mem c hc')
  pending v b hb := by
    rcases hs.pending v b hb with h | ⟨c', hc', rfl, rfl⟩
    · exact .inl h
    · rcases List.mem_cons.mp hc' with rfl | hrest
      · exact absurd hb hc
      · exact .inr ⟨c', hrest, rfl, rfl⟩
  final v b hb := ⟨(hs.final v b hb).1, fun c' hc' => (hs.final v b hb).2 c' (List.mem_cons_of_mem c hc')⟩
  fresh c' hc' := hs.fresh c' (List.mem_cons_of_mem c hc')
  single := (List.pairwise_cons.mp hs.single).2

/-- The cheapest candidate settles its node. -/
theorem Sound.settle {rest : List (Candidate V C P)} (hs : Sound g extend source payload closed { s with queue := c :: rest })
    (hc : s.best c.node = some c.cost) (hleast : ∀ c' ∈ rest, c.cost ≤ c'.cost) :
    Sound g extend source payload (Function.update closed c.node (some c.cost)) { s with queue := rest } := by
  have hopen : closed c.node = none := hs.fresh c List.mem_cons_self hc
  have hother := (List.pairwise_cons.mp hs.single).1
  refine ⟨?_, ?_, ?_, ?_, ?_, (List.pairwise_cons.mp hs.single).2⟩
  · exact fun c' hc' => hs.reached c' (List.mem_cons_of_mem c hc')
  · exact fun c' hc' => hs.bounded c' (List.mem_cons_of_mem c hc')
  · intro v b hb
    rcases hs.pending v b hb with h | ⟨c', hc', rfl, rfl⟩
    · have hne : v ≠ c.node := by
        rintro rfl
        rw [hopen] at h
        cases h
      rw [Function.update_of_ne hne]
      exact .inl h
    · rcases List.mem_cons.mp hc' with rfl | hrest
      · exact .inl (Function.update_self ..)
      · exact .inr ⟨c', hrest, rfl, rfl⟩
  · intro v b hb
    by_cases hv : v = c.node
    · subst hv
      rw [Function.update_self] at hb
      cases hb
      exact ⟨hc, hleast⟩
    · rw [Function.update_of_ne hv] at hb
      exact ⟨(hs.final v b hb).1, fun c' hc' => (hs.final v b hb).2 c' (List.mem_cons_of_mem c hc')⟩
  · intro c' hc' hlive
    have hne : c'.node ≠ c.node := fun heq => hother c' hc' hc hlive heq.symm
    rw [Function.update_of_ne hne]
    exact hs.fresh c' (List.mem_cons_of_mem c hc') hlive

variable [IsOrderedAddMonoid C]

/-- What following an edge of a node that is done keeps and brings about. -/
theorem sound_relax (hs : Sound g extend source payload closed s) (hreached : Reached g extend source payload c)
    (hmax : ∀ v b, closed v = some b → b ≤ c.cost) {e : E} (he : e ∈ g.leaving c.node) (hcost : 0 ≤ g.cost e) :
    Sound g extend source payload closed (g.relax extend c s e) ∧ Improves s (g.relax extend c s e) ∧
      Relaxed g (g.relax extend c s e) c.cost e ∧ (g.relax extend c s e).queue.length ≤ s.queue.length + 1 := by
  unfold relax
  split
  case isTrue hbetter =>
    rw [Option.any_eq_true] at hbetter
    obtain ⟨b, hb, hle⟩ := hbetter
    exact ⟨hs, .refl s, ⟨b, hb, of_decide_eq_true hle⟩, Nat.le_succ _⟩
  case isFalse hworse =>
    have hlt : ∀ b, s.best (g.target e) = some b → c.cost + g.cost e < b := by
      intro b hb
      apply lt_of_not_ge
      intro hle
      apply hworse
      rw [hb]
      exact decide_eq_true hle
    have hopen : closed (g.target e) = none := by
      by_contra hne
      obtain ⟨b, hb⟩ := Option.ne_none_iff_exists'.mp hne
      have hb' := hlt b (hs.final _ b hb).1
      exact absurd ((hmax _ b hb).trans (le_add_of_nonneg_right hcost)) (not_le_of_gt hb')
    have hlive : ∀ c' ∈ s.queue, Function.update s.best (g.target e) (some (c.cost + g.cost e)) c'.node = some c'.cost →
        c'.node ≠ g.target e ∧ Live s c' := by
      intro c' hc' hbest
      have hne : c'.node ≠ g.target e := by
        intro heq
        rw [heq, Function.update_self] at hbest
        obtain ⟨b, hb, hle⟩ := hs.bounded c' hc'
        rw [heq] at hb
        exact absurd hle (not_le_of_gt (Option.some_inj.mp hbest ▸ hlt b hb))
      rw [Function.update_of_ne hne] at hbest
      exact ⟨hne, hbest⟩
    refine ⟨⟨?_, ?_, ?_, ?_, ?_, ?_⟩, ?_, ⟨_, Function.update_self .., le_rfl⟩, ?_⟩
    · intro c' hc'
      rcases List.mem_append.mp hc' with hold | hnew
      · exact hs.reached c' hold
      · rw [List.mem_singleton.mp hnew]
        exact hreached.snoc he _
    · intro c' hc'
      rcases List.mem_append.mp hc' with hold | hnew
      · obtain ⟨b, hb, hle⟩ := hs.bounded c' hold
        by_cases heq : c'.node = g.target e
        · refine ⟨c.cost + g.cost e, ?_, ?_⟩
          · show Function.update _ _ _ _ = _
            rw [heq, Function.update_self]
          · rw [heq] at hb
            exact (hlt b hb).le.trans hle
        · refine ⟨b, ?_, hle⟩
          show Function.update _ _ _ _ = _
          rw [Function.update_of_ne heq, hb]
      · rw [List.mem_singleton.mp hnew]
        exact ⟨_, Function.update_self .., le_rfl⟩
    · intro v b hb
      change Function.update _ _ _ _ = _ at hb
      by_cases hv : v = g.target e
      · subst hv
        rw [Function.update_self] at hb
        cases hb
        exact .inr ⟨_, List.mem_append_right _ (List.mem_singleton_self _), rfl, rfl⟩
      · rw [Function.update_of_ne hv] at hb
        rcases hs.pending v b hb with h | ⟨c', hc', hnode, hb'⟩
        · exact .inl h
        · exact .inr ⟨c', List.mem_append_left _ hc', hnode, hb'⟩
    · intro v b hb
      have hv : v ≠ g.target e := by
        rintro rfl
        rw [hopen] at hb
        cases hb
      refine ⟨?_, ?_⟩
      · show Function.update _ _ _ _ = _
        rw [Function.update_of_ne hv, (hs.final v b hb).1]
      · intro c' hc'
        rcases List.mem_append.mp hc' with hold | hnew
        · exact (hs.final v b hb).2 c' hold
        · rw [List.mem_singleton.mp hnew]
          exact (hmax v b hb).trans (le_add_of_nonneg_right hcost)
    · intro c' hc' hbest
      rcases List.mem_append.mp hc' with hold | hnew
      · exact hs.fresh c' hold (hlive c' hold hbest).2
      · rw [List.mem_singleton.mp hnew]
        exact hopen
    · refine List.pairwise_append.mpr ⟨?_, List.pairwise_singleton .., ?_⟩
      · refine hs.single.imp_of_mem ?_
        intro c₁ c₂ h₁ h₂ hne hlive₁ hlive₂
        exact hne (hlive c₁ h₁ hlive₁).2 (hlive c₂ h₂ hlive₂).2
      · intro c' hc' new hnew hlive' _
        rw [List.mem_singleton.mp hnew]
        exact (hlive c' hc' hlive').1
    · intro v b hb
      show ∃ b', Function.update _ _ _ _ = _ ∧ _
      by_cases hv : v = g.target e
      · subst hv
        exact ⟨_, Function.update_self .., (hlt b hb).le⟩
      · exact ⟨b, by rw [Function.update_of_ne hv, hb], le_rfl⟩
    · rw [List.length_append, List.length_singleton]

theorem sound_relaxAll (hreached : Reached g extend source payload c) (hmax : ∀ v b, closed v = some b → b ≤ c.cost)
    (hcost : ∀ e, 0 ≤ g.cost e) {es : List E} (hes : ∀ e ∈ es, e ∈ g.leaving c.node)
    (hs : Sound g extend source payload closed s) :
    Sound g extend source payload closed (es.foldl (g.relax extend c) s) ∧ Improves s (es.foldl (g.relax extend c) s) ∧
      (∀ e ∈ es, Relaxed g (es.foldl (g.relax extend c) s) c.cost e) ∧
      (es.foldl (g.relax extend c) s).queue.length ≤ s.queue.length + es.length := by
  induction es generalizing s with
  | nil => exact ⟨hs, .refl s, nofun, le_rfl⟩
  | cons e es ih =>
    obtain ⟨hsound, himproves, hrelaxed, hlength⟩ := sound_relax hs hreached hmax (hes e List.mem_cons_self) (hcost e)
    obtain ⟨hsound', himproves', hrelaxed', hlength'⟩ := ih (fun e' he' => hes e' (List.mem_cons_of_mem e he')) hsound
    refine ⟨hsound', himproves.trans himproves', ?_, ?_⟩
    · intro e' he'
      rcases List.mem_cons.mp he' with rfl | hmem
      · exact Relaxed.improves g hrelaxed himproves'
      · exact hrelaxed' e' hmem
    · rw [List.length_cons]
      rw [List.foldl_cons]
      omega

end Steps

section Correctness
variable (extend : P → E → P) (source goal : V) (payload : P)

/-- What holds before each turn of the search. -/
structure Searching (closed : V → Option C) (s : Frontier V C P) : Prop where
  sound : Sound g extend source payload closed s
  explored : ∀ v b, closed v = some b → ∀ e ∈ g.leaving v, Relaxed g s b e
  source_le : ∃ b, s.best source = some b ∧ b ≤ 0
  goal_open : closed goal = none

/-- A cheapest walk to the goal was found, or there is none. -/
def Finds : Outcome V C P → Prop
  | .found c => c.node = goal ∧ Reached g extend source payload c ∧ ∀ es, g.Walk source goal es → c.cost ≤ g.walkCost es
  | .exhausted => ∀ es, ¬ g.Walk source goal es
  | .outOfFuel => False

/-- The edges that have not been looked at. -/
def unexplored (nodes : Finset V) (closed : V → Option C) : Nat :=
  ∑ v ∈ nodes.filter (fun v => closed v = none), (g.leaving v).length

variable {g extend source goal payload} {closed : V → Option C} {s : Frontier V C P}

omit [LinearOrder C] in
theorem start_best : (start source payload : Frontier V C P).best = Function.update (fun _ => none) source (some 0) := rfl

theorem searching_start : Searching g extend source goal payload (fun _ => none) (start source payload) where
  sound := {
    reached := by
      intro c hc
      rw [List.mem_singleton.mp hc]
      exact ⟨[], rfl, rfl, rfl⟩
    bounded := by
      intro c hc
      rw [List.mem_singleton.mp hc, start_best]
      exact ⟨0, Function.update_self .., le_rfl⟩
    pending := by
      intro v b hb
      rw [start_best] at hb
      by_cases hv : v = source
      · subst hv
        rw [Function.update_self] at hb
        cases hb
        exact .inr ⟨_, List.mem_singleton_self _, rfl, rfl⟩
      · rw [Function.update_of_ne hv] at hb
        cases hb
    final := nofun
    fresh := fun _ _ _ => rfl
    single := List.pairwise_singleton .. }
  explored := nofun
  source_le := by
    rw [start_best]
    exact ⟨0, Function.update_self .., le_rfl⟩
  goal_open := rfl

omit [AddCommMonoid C] [LinearOrder C] in
theorem unexplored_update {nodes : Finset V} {v : V} (hv : v ∈ nodes) (hopen : closed v = none) (k : C) :
    (g.leaving v).length + unexplored g nodes (Function.update closed v (some k)) = unexplored g nodes closed := by
  have hfilter : nodes.filter (fun w => Function.update closed v (some k) w = none) =
      (nodes.filter fun w => closed w = none).erase v := by
    ext w
    rw [Finset.mem_filter, Finset.mem_erase, Finset.mem_filter]
    by_cases hw : w = v
    · subst hw
      rw [Function.update_self]
      exact ⟨fun h => absurd h.2 (Option.some_ne_none k), fun h => absurd rfl h.1⟩
    · rw [Function.update_of_ne hw]
      exact ⟨fun h => ⟨hw, h⟩, fun h => h.2⟩
  rw [unexplored, hfilter]
  exact Finset.add_sum_erase _ (fun w => (g.leaving w).length) (Finset.mem_filter.mpr ⟨hv, hopen⟩)

variable [IsOrderedAddMonoid C]

omit [DecidableEq V] in
/-- Whatever walk leads to the goal, something on the queue is at most as expensive. -/
theorem Searching.exists_queued_le (h : Searching g extend source goal payload closed s) (hcost : ∀ e, 0 ≤ g.cost e) {es : List E} {u : V}
    {b d : C} (hu : s.best u = some b) (hle : b ≤ d) (hwalk : g.Walk u goal es) :
    ∃ c ∈ s.queue, c.cost ≤ d + g.walkCost es := by
  induction es generalizing u b d with
  | nil =>
    cases hwalk
    rcases h.sound.pending goal b hu with hclosed | ⟨c, hc, _, rfl⟩
    · rw [h.goal_open] at hclosed
      cases hclosed
    · exact ⟨c, hc, hle.trans (le_add_of_nonneg_right (g.walkCost_nonneg hcost []))⟩
  | cons e es ih =>
    rcases h.sound.pending u b hu with hclosed | ⟨c, hc, _, rfl⟩
    · obtain ⟨b', hb', hle'⟩ := h.explored u b hclosed e hwalk.1
      rw [walkCost_cons, ← add_assoc]
      exact ih hb' (hle'.trans (add_le_add_left hle _)) hwalk.2
    · exact ⟨c, hc, hle.trans (le_add_of_nonneg_right (g.walkCost_nonneg hcost _))⟩

theorem Searching.finds {nodes : Finset V} (hnodes : ∀ u ∈ nodes, ∀ e ∈ g.leaving u, g.target e ∈ nodes) (hsource : source ∈ nodes)
    (hcost : ∀ e, 0 ≤ g.cost e) {fuel : Nat} (hfuel : s.queue.length + unexplored g nodes closed < fuel)
    (h : Searching g extend source goal payload closed s) :
    Finds g extend source goal payload (g.search extend goal fuel s) := by
  induction fuel generalizing closed s with
  | zero => exact absurd hfuel (Nat.not_lt_zero _)
  | succ fuel ih =>
    obtain ⟨b, hb, hb0⟩ := h.source_le
    have hqueued : ∀ es, g.Walk source goal es → ∃ c ∈ s.queue, c.cost ≤ g.walkCost es := by
      intro es hes
      obtain ⟨c, hc, hle⟩ := h.exists_queued_le hcost hb hb0 hes
      rw [zero_add] at hle
      exact ⟨c, hc, hle⟩
    unfold search
    split
    case h_1 hsorted =>
      intro es hes
      obtain ⟨c, hc, _⟩ := hqueued es hes
      have hc' : c ∈ sortBy (fun c : Candidate V C P => toLex (c.cost, c.serial)) s.queue := mem_sortBy.mpr hc
      rw [hsorted] at hc'
      cases hc'
    case h_2 c rest hsorted =>
      have hperm := (perm_sortBy (fun c : Candidate V C P => toLex (c.cost, c.serial)) s.queue).symm
      rw [hsorted] at hperm
      have hsound := h.sound.perm hperm
      have hlength : s.queue.length = rest.length + 1 := hperm.length_eq
      have hleast : ∀ c' ∈ rest, c.cost ≤ c'.cost := by
        have hpair := pairwise_sortBy (fun c : Candidate V C P => toLex (c.cost, c.serial)) s.queue
        rw [hsorted] at hpair
        intro c' hc'
        have hle := (List.pairwise_cons.mp hpair).1 c' hc'
        rw [Prod.Lex.le_iff] at hle
        exact hle.elim le_of_lt fun heq => heq.1.le
      split_ifs with hstale hgoal
      · refine ih ?_ ⟨hsound.drop hstale, h.explored, h.source_le, h.goal_open⟩
        change rest.length + _ < _
        omega
      · refine ⟨hgoal, hsound.reached c List.mem_cons_self, ?_⟩
        intro es hes
        obtain ⟨c', hc', hle⟩ := hqueued es hes
        rcases List.mem_cons.mp (hperm.mem_iff.mp hc') with rfl | hrest
        · exact hle
        · exact (hleast c' hrest).trans hle
      · have hlive := not_not.mp hstale
        have hopen := hsound.fresh c List.mem_cons_self hlive
        have hreached := hsound.reached c List.mem_cons_self
        have hmax : ∀ v b, Function.update closed c.node (some c.cost) v = some b → b ≤ c.cost := by
          intro v b' hv
          by_cases heq : v = c.node
          · rw [heq, Function.update_self] at hv
            exact (Option.some_inj.mp hv).ge
          · rw [Function.update_of_ne heq] at hv
            exact (hsound.final v b' hv).2 c List.mem_cons_self
        obtain ⟨hsound', himproves, hrelaxed, hlen⟩ :=
          sound_relaxAll hreached hmax hcost (fun _ he => he) (hsound.settle hlive hleast)
        have hnext : Searching g extend source goal payload (Function.update closed c.node (some c.cost))
            ((g.leaving c.node).foldl (g.relax extend c) { s with queue := rest }) := by
          refine ⟨hsound', ?_, ?_, ?_⟩
          · intro v b' hv e he
            by_cases heq : v = c.node
            · rw [heq, Function.update_self] at hv
              cases hv
              exact hrelaxed e (heq ▸ he)
            · rw [Function.update_of_ne heq] at hv
              exact Relaxed.improves g (h.explored v b' hv e he) himproves
          · obtain ⟨b', hb', hle⟩ := himproves source b hb
            exact ⟨b', hb', hle.trans hb0⟩
          · rw [Function.update_of_ne fun heq => hgoal heq.symm]
            exact h.goal_open
        refine ih ?_ hnext
        · have hnode : c.node ∈ nodes := by
            obtain ⟨es, hwalk, _, _⟩ := hreached
            exact hwalk.mem g hnodes hsource
          have hrest : (g.leaving c.node).length + unexplored g nodes _ = _ := unexplored_update hnode hopen c.cost
          change _ ≤ rest.length + _ at hlen
          omega

/-- The search finds a cheapest walk or finds that there is none. -/
theorem search_finds {nodes : Finset V} (hnodes : ∀ u ∈ nodes, ∀ e ∈ g.leaving u, g.target e ∈ nodes) (hsource : source ∈ nodes)
    (hcost : ∀ e, 0 ≤ g.cost e) {fuel : Nat} (hfuel : 1 + ∑ v ∈ nodes, (g.leaving v).length < fuel) :
    Finds g extend source goal payload (g.search extend goal fuel (start source payload)) := by
  refine searching_start.finds hnodes hsource hcost ?_
  have hunexplored : unexplored g nodes (fun _ => (none : Option C)) = ∑ v ∈ nodes, (g.leaving v).length := by
    rw [unexplored, Finset.filter_true_of_mem fun _ _ => rfl]
  rw [hunexplored]
  exact hfuel

end Correctness

end CostGraph
end Sip
