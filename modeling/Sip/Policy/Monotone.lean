import Sip.Policy.Service

/-!
# What more role bindings change

Roles and purposes of a larger set of bindings contain those of a smaller one, and
every test on them is passed by the larger set too. The region list goes the other
way: while no binding names an allowed region the principal is unrestricted, and the
first binding that names one restricts the whole principal to the named regions.
-/

namespace Sip
namespace PolicyService

set_option autoImplicit false

/-- The call returns a decision that allows the request. -/
def Allows (svc : AuditService) (log : AuditLog) (now : Nat) (auditId : String) (principal : SignedPrincipal)
    (req : AccessRequest) : Prop :=
  ∃ decision log', authorize svc log now auditId principal req = .ok (decision, log') ∧ decision.allowed = true

theorem allows_iff {svc : AuditService} {log : AuditLog} {now : Nat} {auditId : String}
    {principal : SignedPrincipal} {req : AccessRequest} :
    Allows svc log now auditId principal req ↔ denial principal req = .ok none := by
  constructor
  · rintro ⟨decision, log', h, hallowed⟩
    simp only [authorize, bind_eq_ok] at h
    obtain ⟨reason?, hdenial, h⟩ := h
    cases reason? with
    | none => exact hdenial
    | some reason =>
      obtain ⟨_, _, h⟩ := bind_eq_ok.mp h
      cases h
      cases hallowed
  · intro h
    simp only [Allows, authorize, h]
    exact ⟨_, log, rfl, rfl⟩

theorem denial_eq_none_iff {principal : SignedPrincipal} {req : AccessRequest} :
    denial principal req = .ok none ↔ regionDenial principal req = .ok none ∧
      sensitiveDenial principal req = none ∧ scopeDenial principal req = none := by
  simp only [denial, bind_eq_ok]
  constructor
  · rintro ⟨region, hregion, h⟩
    cases region with
    | some reason => cases h
    | none =>
      cases hsensitive : sensitiveDenial principal req with
      | some reason => simp [hsensitive, pure, Except.pure] at h
      | none =>
        refine ⟨hregion, rfl, ?_⟩
        simpa [hsensitive, pure, Except.pure] using h
  · rintro ⟨hregion, hsensitive, hscope⟩
    exact ⟨none, hregion, by simp [hsensitive, hscope, pure, Except.pure]⟩

/-- A principal with the same identity and scope, and at least the roles and purposes. -/
structure Broader (small large : SignedPrincipal) : Prop where
  tenantId : large.tenantId = small.tenantId
  projectIds : large.projectIds = small.projectIds
  audience : large.audience = small.audience
  roles : small.roles ⊆ large.roles
  purposes : small.purposes ⊆ large.purposes

section Roles
variable {small large : SignedPrincipal} {req : AccessRequest}

theorem any_roles_of_broader (h : Broader small large) {p : String → Bool} (hany : small.roles.any p = true) :
    large.roles.any p = true := by
  obtain ⟨role, hrole, hp⟩ := List.any_eq_true.mp hany
  exact List.any_eq_true.mpr ⟨role, h.roles hrole, hp⟩

theorem sensitiveDenial_of_broader (h : Broader small large) (hnone : sensitiveDenial small req = none) :
    sensitiveDenial large req = none := by
  simp only [sensitiveDenial, ite_eq_right_iff, reduceCtorEq, imp_false, not_and, not_not] at hnone ⊢
  intro hsensitive
  exact any_roles_of_broader h (hnone hsensitive)

theorem scopeDenial_eq_none_iff {p : SignedPrincipal} : scopeDenial p req = none ↔
    p.tenantId = req.tenantId ∧ ((given req.projectId).any (· ∉ p.projectIds) = true → "tenant_admin" ∈ p.roles) ∧
    p.roles.any (roleAllows · req.action) = true ∧
    ((given req.purpose).any (· ∉ p.purposes) = true → "tenant_admin" ∈ p.roles) ∧
    (req.requiredAudience.any (fun required => p.audience ∉ [required, .private]) = true →
      "tenant_admin" ∈ p.roles) := by
  unfold scopeDenial
  simp only [ne_eq]
  split_ifs <;> simp_all

theorem scopeDenial_of_broader (h : Broader small large) (hnone : scopeDenial small req = none) :
    scopeDenial large req = none := by
  obtain ⟨htenant, hproject, hroles, hpurpose, haudience⟩ := scopeDenial_eq_none_iff.mp hnone
  apply scopeDenial_eq_none_iff.mpr
  rw [h.tenantId, h.projectIds, h.audience]
  refine ⟨htenant, fun hp => h.roles (hproject hp), any_roles_of_broader h hroles, ?_, fun ha => h.roles (haudience ha)⟩
  intro hp
  apply h.roles
  apply hpurpose
  cases hgiven : given req.purpose with
  | none => simp [hgiven] at hp
  | some purpose =>
    have hlarge : purpose ∉ large.purposes := by simpa [hgiven] using hp
    simpa using fun hsmall => hlarge (h.purposes hsmall)

end Roles

section Regions

theorem sortedSet_eq_nil_iff {β : Type} [LinearOrder β] {key : Json → β} {values : List Json} :
    sortedSet key values = [] ↔ values = [] := by
  constructor
  · intro hnil
    apply List.eq_nil_iff_forall_not_mem.mpr
    intro value hvalue
    obtain ⟨w, hw, _⟩ := exists_key_mem_sortedSet key hvalue
    rw [hnil] at hw
    cases hw
  · intro hnil
    rw [hnil]
    rfl

/-- A sorted region list has the texts of the list it was built from, is empty only with it, and can be
made a set again. -/
theorem sortedRegions_spec {values regions : List Json} (h : sortedRegions values = .ok regions) :
    Json.asSet (.arr regions) = .ok regions ∧ (regions = [] ↔ values = []) ∧
      ∀ text, Json.str text ∈ regions ↔ Json.str text ∈ values := by
  unfold sortedRegions at h
  split at h
  · rename_i htexts
    cases h
    have htext : ∀ value ∈ values, ∃ s, value = .str s := by
      intro value hvalue
      have hsome := List.all_eq_true.mp htexts value hvalue
      cases value <;> simp_all [Json.text?]
    refine ⟨?_, sortedSet_eq_nil_iff, ?_⟩
    · apply Json.asSet_arr_of_hashable
      intro value hvalue
      obtain ⟨s, rfl⟩ := htext value (mem_of_mem_sortedSet hvalue)
      rfl
    · intro text
      constructor
      · exact mem_of_mem_sortedSet
      · intro hmem
        obtain ⟨w, hw, hkey⟩ := exists_key_mem_sortedSet (fun value : Json => value.text?.getD "") hmem
        obtain ⟨s, rfl⟩ := htext w (mem_of_mem_sortedSet hw)
        have hs : s = text := hkey
        exact hs ▸ hw
  · split at h
    · rename_i hnumbers
      cases h
      have hnumber : ∀ value ∈ values, value.rat?.isSome = true := fun value hvalue =>
        List.all_eq_true.mp hnumbers value hvalue
      refine ⟨?_, sortedSet_eq_nil_iff, ?_⟩
      · apply Json.asSet_arr_of_hashable
        intro value hvalue
        have hsome := hnumber value (mem_of_mem_sortedSet hvalue)
        cases value <;> simp_all [Json.rat?, Json.hashable]
      · intro text
        have hnot : Json.str text ∉ values := by
          intro hmem
          cases hnumber _ hmem
        exact ⟨fun hmem => absurd (mem_of_mem_sortedSet hmem) hnot, fun hmem => absurd hmem hnot⟩
    · split at h <;> cases h

end Regions

theorem principalFor_eq_ok {db : PolicyStore} {now : Nat} {tenantId identityId : String} {projectId : Option String}
    {audience : Audience} {p : SignedPrincipal}
    (h : principalFor db now tenantId identityId projectId audience = .ok p) :
    ∃ regions, sortedRegions (regionsOf (activeBindings db now tenantId identityId projectId)) = .ok regions ∧
      p = { subjectId := identityId, tenantId, projectIds := (given projectId).toList,
            roles := sortedSet id ((activeBindings db now tenantId identityId projectId).map RoleBindingRow.role),
            purposes := sortedSet id
              ((activeBindings db now tenantId identityId projectId).flatMap RoleBindingRow.purposesJson),
            audience, attributes := [("spatial_region_ids", .arr regions)] } := by
  simp only [principalFor, bind_eq_ok] at h
  obtain ⟨identity, _, _, _, regions, hregions, hp⟩ := h
  cases hp
  exact ⟨regions, hregions, rfl⟩

/-- The requested region is refused: some active binding names an allowed region, and none names this one. -/
def RegionRefused (active : List RoleBindingRow) (req : AccessRequest) : Prop :=
  ∃ region, given req.spatialRegionId = some region ∧ regionsOf active ≠ [] ∧ Json.str region ∉ regionsOf active

section Principals
variable {db db' : PolicyStore} {now now' : Nat} {tenantId identityId : String} {projectId : Option String}
  {audience : Audience} {p p' : SignedPrincipal} {req : AccessRequest}

theorem regionDenial_eq_none_iff (hp : principalFor db now tenantId identityId projectId audience = .ok p) :
    regionDenial p req = .ok none ↔ ¬ RegionRefused (activeBindings db now tenantId identityId projectId) req := by
  obtain ⟨regions, hregions, rfl⟩ := principalFor_eq_ok hp
  obtain ⟨hset, hempty, htexts⟩ := sortedRegions_spec hregions
  unfold regionDenial RegionRefused
  cases given req.spatialRegionId with
  | none => simp
  | some region =>
    have hlookup : ((Dict.get? [("spatial_region_ids", Json.arr regions)] "spatial_region_ids").getD (.arr [])) =
        .arr regions := by simp [Dict.get?]
    simp only [hlookup, hset]
    simp only [Option.some.injEq, exists_eq_left', ← htexts, ne_eq, ← hempty]
    by_cases hnil : regions = []
    · simp [hnil, bind, Except.bind, pure, Except.pure]
    · by_cases hany : regions.any (Json.isText region) = true
      · simp [bind, Except.bind, pure, Except.pure, hany, Json.any_isText_iff.mp hany]
      · have hnot : Json.str region ∉ regions := fun hm => hany (Json.any_isText_iff.mpr hm)
        simp [bind, Except.bind, pure, Except.pure, hany, hnot, hnil]

theorem broader_of_subset
    (hsub : activeBindings db' now' tenantId identityId projectId ⊆ activeBindings db now tenantId identityId projectId)
    (hp' : principalFor db' now' tenantId identityId projectId audience = .ok p')
    (hp : principalFor db now tenantId identityId projectId audience = .ok p) : Broader p' p := by
  obtain ⟨_, _, rfl⟩ := principalFor_eq_ok hp'
  obtain ⟨_, _, rfl⟩ := principalFor_eq_ok hp
  refine ⟨rfl, rfl, rfl, ?_, ?_⟩
  · intro role hrole
    rw [mem_sortedSet_id] at hrole ⊢
    exact List.map_subset _ hsub hrole
  · intro purpose hpurpose
    rw [mem_sortedSet_id, List.mem_flatMap] at hpurpose ⊢
    obtain ⟨row, hrow, hmem⟩ := hpurpose
    exact ⟨row, hsub hrow, hmem⟩

theorem regionsOf_subset {small large : List RoleBindingRow} (hsub : small ⊆ large) :
    regionsOf small ⊆ regionsOf large := by
  intro region hregion
  obtain ⟨row, hrow, hmem⟩ := List.mem_flatMap.mp hregion
  exact List.mem_flatMap.mpr ⟨row, hsub hrow, hmem⟩

/-- A request that a smaller set of active bindings allows is allowed by a larger one, except when the
smaller set names no region, the larger one names some, and the requested region is not among them. -/
theorem authorize_of_fewer_bindings (svc : AuditService) (log log' : AuditLog) (at_ at' : Nat) (auditId auditId' : String)
    (hsub : activeBindings db' now' tenantId identityId projectId ⊆ activeBindings db now tenantId identityId projectId)
    (hp' : principalFor db' now' tenantId identityId projectId audience = .ok p')
    (hp : principalFor db now tenantId identityId projectId audience = .ok p)
    (hallows : Allows svc log' at' auditId' p' req) :
    Allows svc log at_ auditId p req ↔
      ¬ (regionsOf (activeBindings db' now' tenantId identityId projectId) = [] ∧
        RegionRefused (activeBindings db now tenantId identityId projectId) req) := by
  have hbroader := broader_of_subset hsub hp' hp
  obtain ⟨hregion', hsensitive', hscope'⟩ := denial_eq_none_iff.mp (allows_iff.mp hallows)
  rw [regionDenial_eq_none_iff hp'] at hregion'
  rw [allows_iff, denial_eq_none_iff, regionDenial_eq_none_iff hp]
  constructor
  · rintro ⟨hregion, _, _⟩ ⟨_, hrefused⟩
    exact hregion hrefused
  · intro hnot
    refine ⟨?_, sensitiveDenial_of_broader hbroader hsensitive', scopeDenial_of_broader hbroader hscope'⟩
    rintro ⟨region, hgiven, hsome, hmissing⟩
    by_cases hnil : regionsOf (activeBindings db' now' tenantId identityId projectId) = []
    · exact hnot ⟨hnil, region, hgiven, hsome, hmissing⟩
    · exact hregion' ⟨region, hgiven, hnil, fun hmem => hmissing (regionsOf_subset hsub hmem)⟩

end Principals

/-- A viewer with a second grant for one room that expires at 200. -/
def grantForOneRoom : PolicyStore where
  identities := ⟨[{ identityId := "ana", tenantId := "t1", displayName := "Ana" }], by decide⟩
  projects := .single ⟨"p1", "t1", "internal", "active"⟩
  roleBindings := ⟨[
    ⟨"b1", "t1", some "p1", "ana", "viewer", ["construction"], [], none⟩,
    ⟨"b2", "t1", some "p1", "ana", "reviewer", ["construction"],
      [[("effect", .str "allow"), ("region_id", .str "room-101")]], some 200⟩], by decide⟩
  audit := .empty

def readRoom (room : String) : AccessRequest where
  action := "asset:read"
  tenantId := "t1"
  projectId := some "p1"
  purpose := some "construction"
  spatialRegionId := some room

def viewerAndReviewer : SignedPrincipal where
  subjectId := "ana"
  tenantId := "t1"
  projectIds := ["p1"]
  roles := ["reviewer", "viewer"]
  purposes := ["construction"]
  audience := .private
  attributes := [("spatial_region_ids", .arr [.str "room-101"])]

def viewerOnly : SignedPrincipal := { viewerAndReviewer with
  roles := ["viewer"], attributes := [("spatial_region_ids", .arr [])] }

theorem principalFor_before : principalFor grantForOneRoom 100 "t1" "ana" (some "p1") .private =
    .ok viewerAndReviewer := by rfl

theorem principalFor_after : principalFor grantForOneRoom 300 "t1" "ana" (some "p1") .private = .ok viewerOnly := by
  rfl

theorem activeBindings_after : activeBindings grantForOneRoom 300 "t1" "ana" (some "p1") ⊆
    activeBindings grantForOneRoom 100 "t1" "ana" (some "p1") := by
  have hafter : activeBindings grantForOneRoom 300 "t1" "ana" (some "p1") =
      [⟨"b1", "t1", some "p1", "ana", "viewer", ["construction"], [], none⟩] := rfl
  have hbefore : activeBindings grantForOneRoom 100 "t1" "ana" (some "p1") =
      grantForOneRoom.roleBindings.rows := rfl
  rw [hafter, hbefore]
  simp [grantForOneRoom]

theorem allows_viewerOnly (room : String) : Allows .zeroKey .empty 0 "a1" viewerOnly (readRoom room) := by
  rw [allows_iff, denial_eq_none_iff, regionDenial_eq_none_iff principalFor_after]
  refine ⟨?_, rfl, rfl⟩
  rintro ⟨_, _, hnone, _⟩
  exact hnone rfl

theorem regionsOf_before : regionsOf (activeBindings grantForOneRoom 100 "t1" "ana" (some "p1")) =
    [.str "room-101"] := rfl

/-- While the grant for one room is active the other rooms are closed; they open when it expires. -/
theorem expiry_opens_room : ∃ p' p,
    activeBindings grantForOneRoom 300 "t1" "ana" (some "p1") ⊆
      activeBindings grantForOneRoom 100 "t1" "ana" (some "p1") ∧
    principalFor grantForOneRoom 300 "t1" "ana" (some "p1") .private = .ok p' ∧
    principalFor grantForOneRoom 100 "t1" "ana" (some "p1") .private = .ok p ∧
    Allows .zeroKey .empty 0 "a1" p' (readRoom "room-202") ∧
    ¬ Allows .zeroKey .empty 0 "a1" p (readRoom "room-202") := by
  refine ⟨_, _, activeBindings_after, principalFor_after, principalFor_before, allows_viewerOnly _, ?_⟩
  rw [allows_iff, denial_eq_none_iff, regionDenial_eq_none_iff principalFor_before]
  intro h
  apply h.1
  refine ⟨"room-202", rfl, ?_⟩
  rw [regionsOf_before]
  simp

theorem grant_keeps_named_room :
    Allows .zeroKey .empty 0 "a1" viewerOnly (readRoom "room-101") ∧
    Allows .zeroKey .empty 0 "a1" viewerAndReviewer (readRoom "room-101") := by
  have hallows := allows_viewerOnly "room-101"
  refine ⟨hallows, (authorize_of_fewer_bindings .zeroKey .empty .empty 0 0 "a1" "a1" activeBindings_after
    principalFor_after principalFor_before hallows).mpr ?_⟩
  rintro ⟨_, region, hgiven, _, hmissing⟩
  cases hgiven
  rw [regionsOf_before] at hmissing
  exact hmissing (List.mem_singleton.mpr rfl)

end PolicyService
end Sip
