import Mathlib.Logic.Relation
import Sip.Representation.Service
import Sip.Spatial.MergeLaws

/-!
# What an invalidation reaches

A representation refers to the identifiers in five of its fields, and depends on
whatever a chain of such references leads to. The pass over a project takes out of
service exactly the representations that name the changed resource themselves, with
their live bindings; references are never changed.
-/

namespace Sip

set_option autoImplicit false

namespace RepresentationService

section Supersede

theorem get?_supersede (bindings : Table RepresentationBindingRow (fun row => row.bindingId)) (now : Nat)
    (ids : List String) (k : String) : (supersede bindings now ids).get? k =
      (bindings.get? k).map fun row => if row.bindingId ∈ ids then RepresentationBindingRow.superseded now row else row := by
  induction ids generalizing bindings with
  | nil => simp [supersede]
  | cons bindingId ids ih =>
    have hfirst := Table.get?_modify bindings bindingId (RepresentationBindingRow.superseded now) (fun _ => rfl) k
    have hrest := ih (bindings.modify bindingId (RepresentationBindingRow.superseded now) fun _ => rfl)
    rw [hfirst, Option.map_map] at hrest
    refine hrest.trans ?_
    congr 1
    funext row
    simp only [Function.comp_apply, List.mem_cons]
    by_cases hrow : row.bindingId = bindingId <;> by_cases hids : row.bindingId ∈ ids <;>
      simp [hrow, hids, RepresentationBindingRow.superseded]

end Supersede

section Reach
variable (db : RepresentationDb) (tenantId projectId : String)

/-- The row names the resource in one of its five fields. -/
def RefersTo (row : RepresentationAssetRow) (resourceId : String) : Prop :=
  ∃ refers, references row = .ok refers ∧ Json.str resourceId ∈ refers

/-- A representation of the project that is stored under the first identifier names the second. -/
def Names (a b : String) : Prop :=
  ∃ row, db.representations.get? a = some row ∧ row.tenantId = tenantId ∧ row.projectId = projectId ∧ RefersTo row b

/-- A representation of the project that is not deprecated. -/
def Live (representationId : String) : Prop :=
  ∃ row, db.representations.get? representationId = some row ∧ row.tenantId = tenantId ∧ row.projectId = projectId ∧
    row.deprecatedAt = none

/-- A binding of the project that is not superseded shows the representation. -/
def Bound (representationId : String) : Prop :=
  ∃ bindingId binding, db.bindings.get? bindingId = some binding ∧ binding.tenantId = tenantId ∧
    binding.projectId = projectId ∧ binding.supersededAt = none ∧ binding.representationId = representationId

/-- Directly, or through a chain of representations of the project. -/
def DependsOn (representationId resourceId : String) : Prop :=
  Relation.TransGen (Names db tenantId projectId) representationId resourceId

/-- Nothing that is in service depends on the resource. -/
def FreeOf (resourceId : String) : Prop :=
  ∀ representationId, Live db tenantId projectId representationId ∨ Bound db tenantId projectId representationId →
    ¬ DependsOn db tenantId projectId representationId resourceId

/-- Whatever is in service and depends on the resource is live and names the resource itself. -/
def NamedByDependents (resourceId : String) : Prop :=
  ∀ representationId, Live db tenantId projectId representationId ∨ Bound db tenantId projectId representationId →
    DependsOn db tenantId projectId representationId resourceId →
    Live db tenantId projectId representationId ∧ Names db tenantId projectId representationId resourceId

end Reach

section Sweep
variable {svc : AuditService} {py : PyText} {now : Nat} {stamps : Nat → Stamp} {req : InvalidationRequest}
  {sweep sweep' : Sweep} {row : RepresentationAssetRow}

/-- What taking one representation out of service changes. -/
theorem invalidateRow_writes (h : invalidateRow svc py now stamps req sweep row = .ok sweep') :
    ∃ plan, sweep'.db.representations = sweep.db.representations.set (invalidatedRow now req plan row) ∧
      sweep'.db.bindings = supersede sweep.db.bindings now
        ((liveBindingsOf sweep.db req row.representationId).map RepresentationBindingRow.bindingId) := by
  simp only [invalidateRow, bind_eq_ok] at h
  obtain ⟨plan, -, s, -, s', -, hs'⟩ := h
  cases hs'
  exact ⟨plan, rfl, rfl⟩

theorem sweepRow_cases (h : sweepRow svc py now stamps req sweep row = .ok sweep') :
    (RefersTo row req.changedResourceId ∧ invalidateRow svc py now stamps req sweep row = .ok sweep') ∨
    (¬ RefersTo row req.changedResourceId ∧ sweep' = sweep) := by
  simp only [sweepRow, bind_eq_ok] at h
  obtain ⟨refers, hrefers, h⟩ := h
  have hiff : RefersTo row req.changedResourceId ↔ refers.any (Json.isText req.changedResourceId) = true := by
    rw [Json.any_isText_iff]
    constructor
    · rintro ⟨refers', hrefers', hmem⟩
      cases hrefers.symm.trans hrefers'
      exact hmem
    · exact fun hmem => ⟨refers, hrefers, hmem⟩
  split at h
  · exact .inl ⟨hiff.mpr ‹_›, h⟩
  · cases h
    exact .inr ⟨fun hrefers' => ‹¬ _› (hiff.mp hrefers'), rfl⟩

/-- A live binding of the project shows one of the rows that name the changed resource. -/
def Hit (req : InvalidationRequest) (rows : List RepresentationAssetRow) (binding : RepresentationBindingRow) : Prop :=
  binding.tenantId = req.tenantId ∧ binding.projectId = req.projectId ∧ binding.supersededAt = none ∧
    ∃ row ∈ rows, RefersTo row req.changedResourceId ∧ row.representationId = binding.representationId

/-- How a pass over the rows changes one binding. -/
def BindingAfter (now : Nat) (req : InvalidationRequest) (rows : List RepresentationAssetRow)
    (binding binding' : RepresentationBindingRow) : Prop :=
  (Hit req rows binding ∧ binding' = RepresentationBindingRow.superseded now binding) ∨
    (¬ Hit req rows binding ∧ binding' = binding)

theorem bindingId_mem_liveBindings {db : RepresentationDb} {k : String} {binding : RepresentationBindingRow}
    (h : db.bindings.get? k = some binding) (representationId : String) :
    binding.bindingId ∈ (liveBindingsOf db req representationId).map RepresentationBindingRow.bindingId ↔
      binding.tenantId = req.tenantId ∧ binding.projectId = req.projectId ∧
        binding.representationId = representationId ∧ binding.supersededAt = none := by
  obtain ⟨hmem, -⟩ := (Table.get?_eq_some_iff _ _ _).mp h
  simp only [liveBindingsOf, List.mem_map, List.mem_filter, decide_eq_true_eq]
  constructor
  · rintro ⟨other, ⟨hother, hlive⟩, hid⟩
    rw [List.inj_on_of_nodup_map db.bindings.nodup hother hmem hid] at hlive
    exact hlive
  · exact fun hlive => ⟨binding, ⟨hmem, hlive⟩, rfl⟩

theorem binding_after_row (hrefers : RefersTo row req.changedResourceId)
    (h : invalidateRow svc py now stamps req sweep row = .ok sweep') {k : String} {binding : RepresentationBindingRow}
    (hget : sweep.db.bindings.get? k = some binding) :
    ∃ binding', sweep'.db.bindings.get? k = some binding' ∧ BindingAfter now req [row] binding binding' := by
  obtain ⟨plan, -, hbindings⟩ := invalidateRow_writes h
  rw [hbindings, get?_supersede, hget, Option.map_some]
  refine ⟨_, rfl, ?_⟩
  have hhit : Hit req [row] binding ↔
      binding.bindingId ∈ (liveBindingsOf sweep.db req row.representationId).map RepresentationBindingRow.bindingId := by
    rw [bindingId_mem_liveBindings hget]
    simp only [Hit, List.mem_singleton, exists_eq_left, hrefers, true_and]
    constructor
    · exact fun ⟨ht, hp, hlive, hid⟩ => ⟨ht, hp, hid.symm, hlive⟩
    · exact fun ⟨ht, hp, hid, hlive⟩ => ⟨ht, hp, hlive, hid.symm⟩
  by_cases hids : Hit req [row] binding
  · rw [if_pos (hhit.mp hids)]
    exact .inl ⟨hids, rfl⟩
  · rw [if_neg fun hmem => hids (hhit.mpr hmem)]
    exact .inr ⟨hids, rfl⟩

theorem hit_cons {rows : List RepresentationAssetRow} {binding : RepresentationBindingRow} :
    Hit req (row :: rows) binding ↔ Hit req [row] binding ∨ Hit req rows binding := by
  simp only [Hit, List.mem_cons, List.not_mem_nil, or_false, exists_eq_or_imp, exists_eq_left]
  tauto

theorem BindingAfter.trans {rows : List RepresentationAssetRow} {a b c : RepresentationBindingRow}
    (hab : BindingAfter now req [row] a b) (hbc : BindingAfter now req rows b c) :
    BindingAfter now req (row :: rows) a c := by
  rcases hab with ⟨hhit, rfl⟩ | ⟨hmiss, rfl⟩
  · -- a superseded binding is not live, so the rest of the pass leaves it alone
    rcases hbc with ⟨⟨-, -, hlive, -⟩, -⟩ | ⟨-, rfl⟩
    · cases hlive
    · exact .inl ⟨hit_cons.mpr (.inl hhit), rfl⟩
  · rcases hbc with ⟨hhit, rfl⟩ | ⟨hmiss', rfl⟩
    · exact .inl ⟨hit_cons.mpr (.inr hhit), rfl⟩
    · exact .inr ⟨fun h => (hit_cons.mp h).elim hmiss hmiss', rfl⟩

/-- What a pass over the rows has done to a representation. -/
def RowAfter (now : Nat) (req : InvalidationRequest) (row row' : RepresentationAssetRow) : Prop :=
  (RefersTo row req.changedResourceId ∧ ∃ plan, row' = invalidatedRow now req plan row) ∨
    (¬ RefersTo row req.changedResourceId ∧ row' = row)

/-- The pass over some of the rows: each is invalidated or left alone, nothing else changes, and bindings follow. -/
structure Passed (now : Nat) (req : InvalidationRequest) (rows : List RepresentationAssetRow) (db db' : RepresentationDb) :
    Prop where
  swept : ∀ row ∈ rows, ∃ row', db'.representations.get? row.representationId = some row' ∧ RowAfter now req row row'
  kept : ∀ k, k ∉ rows.map RepresentationAssetRow.representationId →
    db'.representations.get? k = db.representations.get? k
  bound : ∀ k binding, db.bindings.get? k = some binding →
    ∃ binding', db'.bindings.get? k = some binding' ∧ BindingAfter now req rows binding binding'
  unbound : ∀ k, db.bindings.get? k = none → db'.bindings.get? k = none

theorem passed_row (hget : sweep.db.representations.get? row.representationId = some row)
    (h : sweepRow svc py now stamps req sweep row = .ok sweep') : Passed now req [row] sweep.db sweep'.db := by
  rcases sweepRow_cases h with ⟨hrefers, hinvalidate⟩ | ⟨hmiss, rfl⟩
  · obtain ⟨plan, hreps, hbindings⟩ := invalidateRow_writes hinvalidate
    refine ⟨?_, ?_, fun k binding hk => binding_after_row hrefers hinvalidate hk, ?_⟩
    · intro other hother
      rw [List.mem_singleton.mp hother, hreps]
      have hself := @Table.get?_set_self _ _ sweep.db.representations (invalidatedRow now req plan row) row hget
      exact ⟨_, hself, .inl ⟨hrefers, plan, rfl⟩⟩
    · intro k hk
      rw [hreps]
      exact Table.get?_set_of_ne _ fun heq => hk (by simp [heq, invalidatedRow])
    · intro k hk
      rw [hbindings, get?_supersede, hk, Option.map_none]
  · refine ⟨?_, fun _ _ => rfl, ?_, fun _ hk => hk⟩
    · intro other hother
      rw [List.mem_singleton.mp hother]
      exact ⟨row, hget, .inr ⟨hmiss, rfl⟩⟩
    · intro k binding hk
      refine ⟨binding, hk, .inr ⟨?_, rfl⟩⟩
      rintro ⟨-, -, -, other, hother, hrefers, -⟩
      exact hmiss (List.mem_singleton.mp hother ▸ hrefers)

theorem Passed.cons {rows : List RepresentationAssetRow} {a b c : RepresentationDb}
    (hfresh : row.representationId ∉ rows.map RepresentationAssetRow.representationId)
    (hab : Passed now req [row] a b) (hbc : Passed now req rows b c) : Passed now req (row :: rows) a c := by
  refine ⟨?_, ?_, ?_, ?_⟩
  · intro other hother
    rcases List.mem_cons.mp hother with rfl | hrest
    · rw [hbc.kept _ hfresh]
      exact hab.swept other (List.mem_singleton_self other)
    · exact hbc.swept other hrest
  · intro k hk
    rw [List.map_cons, List.mem_cons, not_or] at hk
    rw [hbc.kept k hk.2]
    exact hab.kept k (by simpa using hk.1)
  · intro k binding hk
    obtain ⟨binding', hk', hfirst⟩ := hab.bound k binding hk
    obtain ⟨binding'', hk'', hrest⟩ := hbc.bound k binding' hk'
    exact ⟨binding'', hk'', hfirst.trans hrest⟩
  · exact fun k hk => hbc.unbound k (hab.unbound k hk)

theorem passed_nil (db : RepresentationDb) : Passed now req [] db db := by
  refine ⟨fun _ h => absurd h List.not_mem_nil, fun _ _ => rfl, ?_, fun _ hk => hk⟩
  intro k binding hk
  refine ⟨binding, hk, .inr ⟨?_, rfl⟩⟩
  rintro ⟨-, -, -, other, hother, -⟩
  exact absurd hother List.not_mem_nil

/-- The pass, by induction on the rows that are still to come. -/
theorem passed_rows {rows : List RepresentationAssetRow}
    (hnodup : (rows.map RepresentationAssetRow.representationId).Nodup)
    (hget : ∀ row ∈ rows, sweep.db.representations.get? row.representationId = some row)
    (h : rows.foldlM (sweepRow svc py now stamps req) sweep = .ok sweep') : Passed now req rows sweep.db sweep'.db := by
  induction rows generalizing sweep with
  | nil =>
    cases h
    exact passed_nil _
  | cons row rows ih =>
    rw [List.foldlM_cons, bind_eq_ok] at h
    obtain ⟨mid, hrow, hrest⟩ := h
    rw [List.map_cons, List.nodup_cons] at hnodup
    have hfirst := passed_row (hget row List.mem_cons_self) hrow
    apply Passed.cons hnodup.1 hfirst
    apply ih hnodup.2 _ hrest
    intro other hother
    rw [hfirst.kept]
    · exact hget other (List.mem_cons_of_mem _ hother)
    · intro hmem
      rw [List.map_singleton, List.mem_singleton] at hmem
      exact hnodup.1 (hmem ▸ List.mem_map_of_mem hother)

end Sweep

section Project
variable {svc : AuditService} {py : PyText} {db : RepresentationDb} {now : Nat} {stamps : Nat → Stamp}
  {req : InvalidationRequest} {sweep : Sweep}

theorem mem_liveRepresentations {tenantId projectId : String} {row : RepresentationAssetRow} :
    row ∈ liveRepresentations db tenantId projectId ↔
      db.representations.get? row.representationId = some row ∧ row.tenantId = tenantId ∧ row.projectId = projectId ∧
        row.deprecatedAt = none := by
  simp only [liveRepresentations, List.mem_filter, decide_eq_true_eq, Table.get?_eq_some_iff, and_true]

theorem passed_project (h : sweepProject svc py db now stamps req = .ok sweep) :
    Passed now req (liveRepresentations db req.tenantId req.projectId) db sweep.db := by
  simp only [sweepProject, bind_eq_ok] at h
  obtain ⟨-, -, hrows⟩ := h
  have hnodup : ((liveRepresentations db req.tenantId req.projectId).map RepresentationAssetRow.representationId).Nodup :=
    db.representations.nodup.sublist (List.filter_sublist.map _)
  exact @passed_rows _ _ _ _ _ ⟨db, [], [], []⟩ _ _ hnodup (fun row hrow => (mem_liveRepresentations.mp hrow).1) hrows

variable (h : sweepProject svc py db now stamps req = .ok sweep)
include h

/-- A row after the pass comes from one before it, with the same scope and the same references. -/
theorem row_before {k : String} {row' : RepresentationAssetRow} (hget : sweep.db.representations.get? k = some row') :
    ∃ row, db.representations.get? k = some row ∧ row'.tenantId = row.tenantId ∧ row'.projectId = row.projectId ∧
      references row' = references row ∧
      (row' = row ∨ row'.deprecatedAt = some now ∧ RefersTo row req.changedResourceId) := by
  have hpass := passed_project h
  by_cases hk : k ∈ (liveRepresentations db req.tenantId req.projectId).map RepresentationAssetRow.representationId
  · obtain ⟨row, hrow, rfl⟩ := List.mem_map.mp hk
    obtain ⟨after, hafter, hcase⟩ := hpass.swept row hrow
    cases hget.symm.trans hafter
    refine ⟨row, (mem_liveRepresentations.mp hrow).1, ?_⟩
    rcases hcase with ⟨hrefers, plan, rfl⟩ | ⟨-, rfl⟩
    · exact ⟨rfl, rfl, rfl, .inr ⟨rfl, hrefers⟩⟩
    · exact ⟨rfl, rfl, rfl, .inl rfl⟩
  · rw [hpass.kept k hk] at hget
    exact ⟨row', hget, rfl, rfl, rfl, .inl rfl⟩

theorem row_after {k : String} {row : RepresentationAssetRow} (hget : db.representations.get? k = some row) :
    ∃ row', sweep.db.representations.get? k = some row' ∧ row'.tenantId = row.tenantId ∧
      row'.projectId = row.projectId ∧ references row' = references row := by
  have hpass := passed_project h
  by_cases hk : k ∈ (liveRepresentations db req.tenantId req.projectId).map RepresentationAssetRow.representationId
  · obtain ⟨live, hlive, rfl⟩ := List.mem_map.mp hk
    cases hget.symm.trans (mem_liveRepresentations.mp hlive).1
    obtain ⟨after, hafter, hcase⟩ := hpass.swept row hlive
    refine ⟨after, hafter, ?_⟩
    rcases hcase with ⟨-, plan, rfl⟩ | ⟨-, rfl⟩ <;> exact ⟨rfl, rfl, rfl⟩
  · exact ⟨row, (hpass.kept k hk).trans hget, rfl, rfl, rfl⟩

/-- References stay as they are, so dependence does. -/
theorem names_iff (tenantId projectId a b : String) :
    Names sweep.db tenantId projectId a b ↔ Names db tenantId projectId a b := by
  constructor
  · rintro ⟨row', hget, ht, hp, hrefers⟩
    obtain ⟨row, hrow, htenant, hproject, hrefs, -⟩ := row_before h hget
    refine ⟨row, hrow, htenant ▸ ht, hproject ▸ hp, ?_⟩
    rwa [RefersTo, ← hrefs]
  · rintro ⟨row, hget, ht, hp, hrefers⟩
    obtain ⟨row', hrow', htenant, hproject, hrefs⟩ := row_after h hget
    refine ⟨row', hrow', htenant.trans ht, hproject.trans hp, ?_⟩
    rwa [RefersTo, hrefs]

theorem dependsOn_iff (tenantId projectId a b : String) :
    DependsOn sweep.db tenantId projectId a b ↔ DependsOn db tenantId projectId a b := by
  have heq : Names sweep.db tenantId projectId = Names db tenantId projectId := by
    funext a b
    exact propext (names_iff h tenantId projectId a b)
  rw [DependsOn, DependsOn, heq]

/-- Live after the pass: live before it, and not naming the resource. -/
theorem live_iff (k : String) : Live sweep.db req.tenantId req.projectId k ↔
    Live db req.tenantId req.projectId k ∧ ¬ Names db req.tenantId req.projectId k req.changedResourceId := by
  have hpass := passed_project h
  constructor
  · rintro ⟨row', hget, ht, hp, hlive⟩
    obtain ⟨row, hrow, htenant, hproject, -, hcase⟩ := row_before h hget
    rcases hcase with rfl | ⟨hdead, -⟩
    · refine ⟨⟨row', hrow, ht, hp, hlive⟩, ?_⟩
      rintro ⟨other, hother, -, -, hrefers⟩
      cases hrow.symm.trans hother
      have hkey : row'.representationId = k := ((Table.get?_eq_some_iff _ _ _).mp hrow).2
      have hmem : row' ∈ liveRepresentations db req.tenantId req.projectId :=
        mem_liveRepresentations.mpr ⟨hkey.symm ▸ hrow, ht, hp, hlive⟩
      obtain ⟨after, hafter, hswept⟩ := hpass.swept row' hmem
      rw [hkey] at hafter
      cases hget.symm.trans hafter
      rcases hswept with ⟨-, plan, heq⟩ | ⟨hmiss, -⟩
      · rw [heq] at hlive
        cases hlive
      · exact hmiss hrefers
    · rw [hdead] at hlive
      cases hlive
  · rintro ⟨⟨row, hrow, ht, hp, hlive⟩, hmiss⟩
    have hkey : row.representationId = k := ((Table.get?_eq_some_iff _ _ _).mp hrow).2
    have hmem : row ∈ liveRepresentations db req.tenantId req.projectId :=
      mem_liveRepresentations.mpr ⟨hkey.symm ▸ hrow, ht, hp, hlive⟩
    obtain ⟨after, hafter, hswept⟩ := hpass.swept row hmem
    rw [hkey] at hafter
    rcases hswept with ⟨hrefers, -⟩ | ⟨-, rfl⟩
    · exact absurd ⟨row, hrow, ht, hp, hrefers⟩ hmiss
    · exact ⟨after, hafter, ht, hp, hlive⟩

/-- Bound after the pass: bound before it, and not to a live representation that names the resource. -/
theorem bound_iff (k : String) : Bound sweep.db req.tenantId req.projectId k ↔ Bound db req.tenantId req.projectId k ∧
    ¬ (Live db req.tenantId req.projectId k ∧ Names db req.tenantId req.projectId k req.changedResourceId) := by
  have hpass := passed_project h
  have hhit : ∀ binding : RepresentationBindingRow, binding.tenantId = req.tenantId → binding.projectId = req.projectId →
      binding.supersededAt = none → binding.representationId = k →
      (Hit req (liveRepresentations db req.tenantId req.projectId) binding ↔
        Live db req.tenantId req.projectId k ∧ Names db req.tenantId req.projectId k req.changedResourceId) := by
    rintro binding ht hp hlive rfl
    constructor
    · rintro ⟨-, -, -, row, hrow, hrefers, hid⟩
      obtain ⟨hget, htenant, hproject, hdep⟩ := mem_liveRepresentations.mp hrow
      rw [hid] at hget
      exact ⟨⟨row, hget, htenant, hproject, hdep⟩, row, hget, htenant, hproject, hrefers⟩
    · rintro ⟨⟨row, hget, htenant, hproject, hdep⟩, other, hother, -, -, hrefers⟩
      cases hget.symm.trans hother
      have hid : row.representationId = binding.representationId := ((Table.get?_eq_some_iff _ _ _).mp hget).2
      exact ⟨ht, hp, hlive, row, mem_liveRepresentations.mpr ⟨hid.symm ▸ hget, htenant, hproject, hdep⟩, hrefers, hid⟩
  constructor
  · rintro ⟨bindingId, binding', hget', ht, hp, hlive, hid⟩
    cases hget : db.bindings.get? bindingId with
    | none => cases (hpass.unbound bindingId hget).symm.trans hget'
    | some binding =>
      obtain ⟨after, hafter, hcase⟩ := hpass.bound bindingId binding hget
      cases hget'.symm.trans hafter
      rcases hcase with ⟨-, rfl⟩ | ⟨hmiss, rfl⟩
      · cases hlive
      · exact ⟨⟨bindingId, binding', hget, ht, hp, hlive, hid⟩, fun hnamed =>
          hmiss ((hhit binding' ht hp hlive hid).mpr hnamed)⟩
  · rintro ⟨⟨bindingId, binding, hget, ht, hp, hlive, hid⟩, hmiss⟩
    obtain ⟨after, hafter, hcase⟩ := hpass.bound bindingId binding hget
    rcases hcase with ⟨hhits, -⟩ | ⟨-, rfl⟩
    · exact absurd ((hhit binding ht hp hlive hid).mp hhits) hmiss
    · exact ⟨bindingId, after, hafter, ht, hp, hlive, hid⟩

end Project

theorem invalidateDependencies_of_ok {svc : AuditService} {py : PyText} {db : RepresentationDb} {now : Nat}
    {stamps : Nat → Stamp} {req : InvalidationRequest} {sweep : Sweep}
    (h : sweepProject svc py db now stamps req = .ok sweep) :
    (invalidateDependencies svc py db now stamps req).1 = sweep.db := by
  simp only [invalidateDependencies, h]

/-- Once the pass has been committed, nothing in service depends on the changed resource if and only if everything in
service that depended on it named it directly. -/
theorem freeOf_after_invalidation_iff (svc : AuditService) (py : PyText) (db : RepresentationDb) (now : Nat)
    (stamps : Nat → Stamp) (req : InvalidationRequest) (sweep : Sweep)
    (h : sweepProject svc py db now stamps req = .ok sweep) :
    FreeOf (invalidateDependencies svc py db now stamps req).1 req.tenantId req.projectId req.changedResourceId ↔
      NamedByDependents db req.tenantId req.projectId req.changedResourceId := by
  rw [invalidateDependencies_of_ok h]
  constructor
  · intro hfree k hserved hdepends
    by_contra hnamed
    have hafter : ¬ DependsOn sweep.db req.tenantId req.projectId k req.changedResourceId := by
      apply hfree k
      rcases hserved with hlive | hbound
      · exact .inl ((live_iff h k).mpr ⟨hlive, fun hnames => hnamed ⟨hlive, hnames⟩⟩)
      · exact .inr ((bound_iff h k).mpr ⟨hbound, hnamed⟩)
    exact hafter ((dependsOn_iff h _ _ _ _).mpr hdepends)
  · intro hnamed k hserved hdepends
    have hbefore := (dependsOn_iff h _ _ _ _).mp hdepends
    rcases hserved with hlive | hbound
    · obtain ⟨hlive, hmiss⟩ := (live_iff h k).mp hlive
      exact hmiss (hnamed k (.inl hlive) hbefore).2
    · obtain ⟨hbound, hmiss⟩ := (bound_iff h k).mp hbound
      exact hmiss (hnamed k (.inr hbound) hbefore)

section Sample
open SpatialDataService (plainText)

/-- The plan of a row without an operation type, after a change that revokes nothing. -/
theorem planFor_ok (py : PyText) (req : InvalidationRequest) (row : RepresentationAssetRow) {produced : List Json}
    {ids : List String} (hproduced : row.provenanceJson.setAt "source_ids" = .ok produced)
    (hids : produced.mapM Json.text? = some ids) (htype : row.derivationPolicyJson = [])
    (hreason : policyRevocation req.reason = false)
    (hblockers : row.privacyInheritanceJson.textsAt py "policy_blockers" = .ok []) :
    ∃ plan, planFor py req row = .ok plan ∧ plan.representationId = row.representationId ∧
      plan.blockedReasons = ["missing_operation_type"] ∧ ∃ input, plan.inputManifestHash = canonicalSha256 input := by
  have hinput : ∃ input, rebuildInput req row = .ok input := by
    simp only [rebuildInput, bind_eq_ok, orRaise_eq_ok]
    exact ⟨_, produced, hproduced, ids, hids, rfl⟩
  obtain ⟨input, hinput⟩ := hinput
  have hstrip : String.ofList (strip (py.str (.str "")).toList) = "" := by
    rw [py.str_text]
    rfl
  simp only [planFor, bind_eq_ok]
  refine ⟨_, ⟨input, hinput, [], hblockers, rfl⟩, rfl, ?_, _, rfl⟩
  simp only [htype, Dict.get?, List.lookup_nil, Option.getD_none, hstrip, hreason]
  decide

theorem validatePayload_invalidation {req : InvalidationRequest} {plan : RegenerationPlan} {count : Nat} {input : Json}
    (hid : plan.representationId.toList.length ≤ 64) (hresource : req.changedResourceId.toList.length ≤ 64)
    (hreason : req.reason.toList.length ≤ 64) (hcount : count < 2 ^ 63)
    (hhash : plan.inputManifestHash = canonicalSha256 input) (hblocked : plan.blockedReasons = ["missing_operation_type"]) :
    validatePayload (invalidationPayload req plan count) = .ok () := by
  have hkeys : (invalidationPayload req plan count).map Prod.fst =
      ["representation_id", "changed_resource_id", "reason", "superseded_binding_count", "regeneration_plan_hash",
        "regeneration_blocked_reasons"] := rfl
  apply validatePayload_brief hkeys rfl (by decide)
  intro p hp
  simp only [invalidationPayload, List.mem_cons, List.not_mem_nil, or_false] at hp
  rcases hp with rfl | rfl | rfl | rfl | rfl | rfl
  · exact brief_str hid
  · exact brief_str hresource
  · exact brief_str hreason
  · exact brief_int (by simpa using hcount)
  · rw [hhash]
    exact brief_sha256 input
  · rw [hblocked]
    exact ⟨by simp [Json.texts, Json.normalize, Json.normalizeItems], fun path => walk_texts path (by decide), by decide⟩

/-- In a store without audit entries one representation can be taken out of service. -/
theorem invalidateRow_total (svc : AuditService) {py : PyText} (now : Nat) (stamps : Nat → Stamp)
    {req : InvalidationRequest} (sweep : Sweep) {row : RepresentationAssetRow} {plan : RegenerationPlan}
    (hplan : planFor py req row = .ok plan)
    (hpayload : ∀ count < 2 ^ 63, validatePayload (invalidationPayload req plan count) = .ok ())
    (hbindings : sweep.db.bindings.rows.length < 2 ^ 63) (haudit : sweep.db.audit = .empty) :
    ∃ sweep', invalidateRow svc py now stamps req sweep row = .ok sweep' := by
  have hcount : ((liveBindingsOf sweep.db req row.representationId).map
      RepresentationBindingRow.bindingId).length < 2 ^ 63 := by
    rw [List.length_map]
    exact lt_of_le_of_lt (List.length_filter_le _ _) hbindings
  have hok := hpayload _ hcount
  simp only [invalidateRow, bind_eq_ok]
  generalize ((liveBindingsOf sweep.db req row.representationId).map RepresentationBindingRow.bindingId) = bound at hok
  generalize stamps sweep.invalidated.length = stamp
  obtain ⟨event, hevent⟩ := sweep.db.emit_total stamp
    (r := invalidationEvent req row.representationId (invalidationPayload req plan bound.length)) rfl rfl rfl hok
  obtain ⟨log, hlog⟩ := Store.record_of_empty svc (s := { sweep.db.toStore with outbox := sweep.db.outbox ++ [event] })
    stamp (invalidationAudit req row.representationId (invalidationPayload req plan bound.length)) haudit
  exact ⟨_, plan, hplan, _, hevent, _, hlog, rfl⟩

/-- Representations one derived from another, all of one project. -/
def derived (representationId source : String) : RepresentationAssetRow where
  representationId := representationId
  tenantId := "t1"
  projectId := "p1"
  sceneId := "s1"
  assetId := "a2"
  kind := .visual
  providerId := "local"
  coordinateFrameId := "world"
  sourceClass := .observed
  authorityClass := .visual
  authorityCeiling := .visual
  provenanceJson := [("source_ids", .arr [.str source])]
  privacyInheritanceJson := [("source_ids", .arr [.str source])]
  dependenciesJson := [source]
  manifestHash := ""

/-- A mesh from a scan, and a view that was made from the mesh. -/
def meshAndView : RepresentationDb := { RepresentationDb.empty with
  representations := ⟨[derived "mesh" "scan", derived "view" "mesh"], by decide⟩ }

def scanChanged : InvalidationRequest where
  tenantId := "t1"
  projectId := "p1"
  changedResourceId := "scan"
  reason := "recaptured"
  actorId := "ana"

/-- The pass over the sample goes through. -/
theorem sweepProject_sample (now : Nat) (stamps : Nat → Stamp) :
    ∃ sweep, sweepProject .zeroKey plainText meshAndView now stamps scanChanged = .ok sweep := by
  obtain ⟨plan, hplan, hid, hblocked, input, hhash⟩ := planFor_ok plainText scanChanged
    (derived "mesh" "scan") rfl rfl rfl (by decide) rfl
  have hpayload : ∀ count < 2 ^ 63, validatePayload (invalidationPayload scanChanged plan count) = .ok () :=
    fun count hcount => validatePayload_invalidation (hid ▸ by decide) (by decide) (by decide) hcount hhash hblocked
  obtain ⟨sweep, hsweep⟩ := invalidateRow_total .zeroKey now stamps ⟨meshAndView, [], [], []⟩ hplan hpayload
    (by decide) rfl
  have hmesh : sweepRow .zeroKey plainText now stamps scanChanged ⟨meshAndView, [], [], []⟩ (derived "mesh" "scan") =
      .ok sweep := bind_eq_ok.mpr ⟨[.str "scan", .str "scan", .str "scan"], rfl, hsweep⟩
  have hview : sweepRow .zeroKey plainText now stamps scanChanged sweep (derived "view" "mesh") = .ok sweep := rfl
  have hrows : liveRepresentations meshAndView scanChanged.tenantId scanChanged.projectId =
      [derived "mesh" "scan", derived "view" "mesh"] := rfl
  refine ⟨sweep, bind_eq_ok.mpr ⟨(), rfl, ?_⟩⟩
  rw [hrows, List.foldlM_cons, bind_eq_ok]
  refine ⟨sweep, hmesh, ?_⟩
  rw [List.foldlM_cons, bind_eq_ok]
  exact ⟨sweep, hview, rfl⟩

theorem freeOf_after_scan_iff :
    ∃ sweep, sweepProject .zeroKey plainText meshAndView 0 (fun _ => ⟨0, "e1"⟩) scanChanged = .ok sweep ∧
      (FreeOf (invalidateDependencies .zeroKey plainText meshAndView 0 (fun _ => ⟨0, "e1"⟩) scanChanged).1 "t1" "p1" "scan" ↔
        NamedByDependents meshAndView "t1" "p1" "scan") := by
  obtain ⟨sweep, hsweep⟩ := sweepProject_sample 0 fun _ => ⟨0, "e1"⟩
  exact ⟨sweep, hsweep, freeOf_after_invalidation_iff _ _ _ _ _ _ sweep hsweep⟩

theorem names_sample {a b : String} (h : derived a b ∈ meshAndView.representations.rows) :
    Names meshAndView "t1" "p1" a b :=
  ⟨derived a b, (Table.get?_eq_some_iff _ _ _).mpr ⟨h, rfl⟩, rfl, rfl,
    [.str b, .str b, .str b], rfl, List.mem_cons_self⟩

/-- The mesh is taken out of service and the view that was made from it stays. -/
theorem view_outlives_its_scan :
    ∃ sweep, sweepProject .zeroKey plainText meshAndView 0 (fun _ => ⟨0, "e1"⟩) scanChanged = .ok sweep ∧
      ¬ FreeOf (invalidateDependencies .zeroKey plainText meshAndView 0 (fun _ => ⟨0, "e1"⟩) scanChanged).1 "t1" "p1"
        "scan" := by
  obtain ⟨sweep, hsweep⟩ := sweepProject_sample 0 fun _ => ⟨0, "e1"⟩
  refine ⟨sweep, hsweep, ?_⟩
  rw [invalidateDependencies_of_ok hsweep]
  intro hfree
  have hview : Live meshAndView "t1" "p1" "view" := ⟨derived "view" "mesh", rfl, rfl, rfl, rfl⟩
  have hmiss : ¬ Names meshAndView "t1" "p1" "view" "scan" := by
    rintro ⟨row, hrow, -, -, refers, hrefers, hmem⟩
    cases hrow
    cases hrefers
    simp [derived] at hmem
  apply hfree "view" (.inl ((live_iff hsweep "view").mpr ⟨hview, hmiss⟩))
  apply (dependsOn_iff hsweep _ _ _ _).mpr
  exact .tail (.single (names_sample (a := "view") (b := "mesh") (by simp [meshAndView])))
    (names_sample (a := "mesh") (b := "scan") (by simp [meshAndView]))

end Sample

end RepresentationService

end Sip
