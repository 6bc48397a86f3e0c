import Sip.Foundation.CivilTime
import Sip.Foundation.JsonDocument
import Sip.Foundation.Table
import Sip.Canonical
import Sip.Errors
import Sip.PyEquality

/-!
# Scopes of privileged access

A scope is a JSON document, and it denotes the resources that meet it: an object asks
something of each of its keys, a list asks for one of its items, a scalar asks for a
value equal to it. A request is compared with the scope of a grant key by key, from the
keys of the request, so a key that the request leaves out is not compared at all.
-/

namespace Sip

set_option autoImplicit false

inductive PrivilegedGrantState where
  | active | revoked
  deriving DecidableEq

def PrivilegedGrantState.value : PrivilegedGrantState → String
  | .active => "active"
  | .revoked => "revoked"

/-- A stored grant; its scope is a dictionary, with the keys of one. -/
structure PrivilegedAccessGrantRow where
  grantId : String
  tenantId : String
  projectId : Option String
  subjectId : String
  actionsJson : List String
  resourceScopeJson : Dict
  purpose : String
  state : PrivilegedGrantState
  expiresAt : Nat
  distinct : (Json.obj resourceScopeJson).Distinct

namespace SecurityOperationsService

open Json

mutual
/-- `_scope_contains`. -/
def scopeContains : Json → Json → Bool
  | .obj granted, .obj requested => fieldsContained granted requested
  | .arr granted, .arr requested =>
    requested.all fun item => canonicalSha256 item ∈ granted.map canonicalSha256
  | granted, requested => pyEq granted requested
def fieldsContained (granted : Dict) : List (String × Json) → Bool
  | [] => true
  | (key, value) :: requested => (match granted.lookup key with
      | some scope => scopeContains scope value
      | none => false) && fieldsContained granted requested
end

/-- The caller and what it asks `require_privileged_access` for. -/
structure PrivilegedRequest where
  grantId : String
  tenantId : String
  projectId : Option String
  subjectId : String
  action : String
  purpose : String
  resourceScope : Dict

/-- `_jit_result`. -/
def jitResult (row : PrivilegedAccessGrantRow) (idempotentReplay : Bool) : Dict := [
  ("grant_id", .str row.grantId), ("tenant_id", .str row.tenantId), ("project_id", .ofOption row.projectId),
  ("subject_id", .str row.subjectId), ("actions", .arr (row.actionsJson.map .str)),
  ("resource_scope", .obj row.resourceScopeJson), ("purpose", .str row.purpose), ("state", .str row.state.value),
  ("expires_at", .str (isoformat row.expiresAt)), ("idempotent_replay", .bool idempotentReplay)]

def grantOf? (grants : Table PrivilegedAccessGrantRow (fun row => row.grantId)) (req : PrivilegedRequest) :
    Option PrivilegedAccessGrantRow :=
  (grants.get? req.grantId).filter fun row =>
    row.tenantId = req.tenantId ∧ row.projectId = req.projectId ∧ row.subjectId = req.subjectId

def requirePrivilegedAccess (grants : Table PrivilegedAccessGrantRow (fun row => row.grantId)) (now : Nat)
    (req : PrivilegedRequest) : Except Raised Dict := do
  let row ← orRaise (grantOf? grants req)
    (authorizationError "JIT_GRANT_NOT_FOUND" "privileged access grant is unavailable")
  raiseIf (row.state ≠ .active ∨ row.expiresAt ≤ now)
    (authorizationError "JIT_GRANT_INACTIVE" "privileged access grant is inactive or expired")
  raiseIf (req.action ∉ row.actionsJson ∨ req.purpose ≠ row.purpose)
    (authorizationError "JIT_GRANT_SCOPE_DENIED" "privileged access grant does not cover this action and purpose")
  raiseIf (scopeContains (.obj row.resourceScopeJson) (.obj req.resourceScope) = false)
    (authorizationError "JIT_GRANT_RESOURCE_DENIED" "privileged access grant does not cover the requested resource scope")
  return jitResult row true

section Meaning

/-- What a resource has at a key. -/
def component? (resource : Json) (key : String) : Option Json := resource.fields?.bind fun fields => fields.lookup key

mutual
/-- A resource meets a scope. -/
def Denotes : Json → Json → Prop
  | .obj fields, resource => DenotesFields fields resource
  | .arr items, resource => DenotesAny items resource
  | scalar, resource => scalarEq scalar resource = true
def DenotesFields : List (String × Json) → Json → Prop
  | [], _ => True
  | (key, scope) :: fields, resource =>
    (∃ value, component? resource key = some value ∧ Denotes scope value) ∧ DenotesFields fields resource
def DenotesAny : List Json → Json → Prop
  | [], _ => False
  | item :: items, resource => Denotes item resource ∨ DenotesAny items resource
end

mutual
/-- Every key of the granted scope is a key of the requested one, at every level that both have as objects. -/
def NamesEveryKey : Json → Json → Prop
  | .obj granted, .obj requested => FieldsNameEveryKey granted requested
  | _, _ => True
def FieldsNameEveryKey : List (String × Json) → Dict → Prop
  | [], _ => True
  | (key, scope) :: granted, requested =>
    (∃ value, requested.lookup key = some value ∧ NamesEveryKey scope value) ∧ FieldsNameEveryKey granted requested
end

mutual
/-- The items of the lists that are reached through objects. -/
def listedItems : Json → List Json
  | .obj fields => listedInFields fields
  | .arr items => items
  | _ => []
def listedInFields : List (String × Json) → List Json
  | [] => []
  | (_, value) :: fields => listedItems value ++ listedInFields fields
end

/-- Two items that are compared by their hashes have one hash and different texts. -/
def ItemsCollide (granted requested : Json) : Prop :=
  ∃ x ∈ listedItems granted, ∃ y ∈ listedItems requested, Sha256Collision (canonicalJson x) (canonicalJson y)

end Meaning

section Laws

theorem denotes_obj {fields : Dict} {resource : Json} : Denotes (.obj fields) resource ↔
    ∀ p ∈ fields, ∃ value, component? resource p.1 = some value ∧ Denotes p.2 value := by
  rw [Denotes]
  induction fields with
  | nil => simp [DenotesFields]
  | cons p fields ih => rw [DenotesFields, ih, List.forall_mem_cons]

theorem denotes_arr {items : List Json} {resource : Json} :
    Denotes (.arr items) resource ↔ ∃ item ∈ items, Denotes item resource := by
  rw [Denotes]
  induction items with
  | nil => simp [DenotesAny]
  | cons item items ih => rw [DenotesAny, ih, List.exists_mem_cons_iff]

theorem denotes_scalar {scalar resource : Json} (h : scalar.isScalar = true) :
    Denotes scalar resource ↔ scalarEq scalar resource = true := by
  cases scalar with
  | arr | obj => cases h
  | null | bool | num | str => rw [Denotes] <;> simp

theorem namesEveryKey_obj {granted requested : Dict} : NamesEveryKey (.obj granted) (.obj requested) ↔
    ∀ p ∈ granted, ∃ value, requested.lookup p.1 = some value ∧ NamesEveryKey p.2 value := by
  rw [NamesEveryKey]
  induction granted with
  | nil => simp [FieldsNameEveryKey]
  | cons p granted ih => rw [FieldsNameEveryKey, ih, List.forall_mem_cons]

theorem mem_listedItems_obj {fields : Dict} {p : String × Json} {x : Json} (hp : p ∈ fields) (hx : x ∈ listedItems p.2) :
    x ∈ listedItems (.obj fields) := by
  rw [listedItems]
  induction fields with
  | nil => cases hp
  | cons q fields ih =>
    rw [listedInFields, List.mem_append]
    rcases List.mem_cons.mp hp with rfl | hp
    · exact .inl hx
    · exact .inr (ih hp)

theorem scopeContains_obj {granted requested : Dict} : scopeContains (.obj granted) (.obj requested) = true ↔
    ∀ p ∈ requested, ∃ scope, granted.lookup p.1 = some scope ∧ scopeContains scope p.2 = true := by
  rw [scopeContains]
  induction requested with
  | nil => simp [fieldsContained]
  | cons p requested ih =>
    rw [fieldsContained, Bool.and_eq_true, ih, List.forall_mem_cons]
    apply and_congr_left'
    cases granted.lookup p.1 <;> simp

theorem scopeContains_arr {granted requested : List Json} : scopeContains (.arr granted) (.arr requested) = true ↔
    ∀ y ∈ requested, ∃ x ∈ granted, canonicalSha256 x = canonicalSha256 y := by
  rw [scopeContains, List.all_eq_true]
  simp only [decide_eq_true_eq, List.mem_map]

theorem scopeContains_scalar {granted requested : Json} (h : granted.isScalar = true) :
    scopeContains granted requested = scalarEq granted requested := by
  rw [← pyEq_scalar h]
  cases granted with
  | arr | obj => cases h
  | null | bool | num | str => rw [scopeContains] <;> simp

/-- What is contained is an object in an object, a list in a list or a scalar in an equal one. -/
theorem scopeContains_cases {granted requested : Json} (h : scopeContains granted requested = true) :
    (∃ gs rs, granted = .obj gs ∧ requested = .obj rs) ∨ (∃ gs rs, granted = .arr gs ∧ requested = .arr rs) ∨
      granted.isScalar = true ∧ requested.isScalar = true ∧ scalarEq granted requested = true := by
  by_cases hscalar : granted.isScalar = true
  · rw [scopeContains_scalar hscalar] at h
    exact .inr (.inr ⟨hscalar, isScalar_of_scalarEq h, h⟩)
  · cases granted with
    | obj gs =>
      cases requested with
      | obj rs => exact .inl ⟨gs, rs, rfl, rfl⟩
      | null | bool | num | str | arr => simp [scopeContains, pyEq, scalarEq, rat?] at h
    | arr gs =>
      cases requested with
      | arr rs => exact .inr (.inl ⟨gs, rs, rfl, rfl⟩)
      | null | bool | num | str | obj => simp [scopeContains, pyEq, scalarEq, rat?] at h
    | null | bool | num | str => exact absurd rfl hscalar

theorem scalarEq_trans {a b c : Json} (hab : scalarEq a b = true) (hbc : scalarEq b c = true) : scalarEq a c = true := by
  rw [scalarEq_iff] at *
  rcases hab with ⟨rfl, rfl⟩ | ⟨s, rfl, rfl⟩ | ⟨q, ha, hb⟩
  · exact hbc
  · exact hbc
  · rcases hbc with ⟨rfl, rfl⟩ | ⟨t, rfl, rfl⟩ | ⟨r, hb', hc⟩
    · cases hb
    · cases hb
    · rw [hb] at hb'
      cases hb'
      exact .inr (.inr ⟨q, ha, hc⟩)

/-- A scope denotes what its canonical form denotes. -/
theorem denotes_normalize (scope resource : Json) : Denotes scope.normalize resource ↔ Denotes scope resource := by
  induction scope using Json.induct generalizing resource with
  | scalar scope h =>
    have hsame : scope.normalize = scope := by
      cases scope with
      | arr | obj => cases h
      | null | bool | num | str => rfl
    rw [hsame]
  | arr items ih =>
    rw [Json.normalize, normalizeItems_eq_map, denotes_arr, denotes_arr]
    constructor
    · rintro ⟨_, hmem, hdenotes⟩
      obtain ⟨item, hitem, rfl⟩ := List.mem_map.mp hmem
      exact ⟨item, hitem, (ih item hitem resource).mp hdenotes⟩
    · rintro ⟨item, hitem, hdenotes⟩
      exact ⟨_, List.mem_map_of_mem hitem, (ih item hitem resource).mpr hdenotes⟩
  | obj fields ih =>
    have hmem : ∀ p, p ∈ sortedFields fields ↔ ∃ q ∈ fields, (q.1, q.2.normalize) = p := by
      intro p
      rw [sortedFields, List.mem_insertionSort, normalizeFields_eq_map, List.mem_map]
    rw [normalize_obj, denotes_obj, denotes_obj]
    constructor
    · intro h p hp
      obtain ⟨value, hvalue, hdenotes⟩ := h (p.1, p.2.normalize) ((hmem _).mpr ⟨p, hp, rfl⟩)
      exact ⟨value, hvalue, (ih p hp value).mp hdenotes⟩
    · intro h p hp
      obtain ⟨q, hq, rfl⟩ := (hmem p).mp hp
      obtain ⟨value, hvalue, hdenotes⟩ := h q hq
      exact ⟨value, hvalue, (ih q hq value).mpr hdenotes⟩

theorem denotes_of_canonicalSha256_eq {x y resource : Json} (h : canonicalSha256 x = canonicalSha256 y)
    (hcollision : ¬ Sha256Collision (canonicalJson x) (canonicalJson y)) (hy : Denotes y resource) : Denotes x resource := by
  have htext : canonicalJson x = canonicalJson y := by
    by_contra hne
    exact hcollision ⟨hne, hex_injective h⟩
  have hsame : x.normalize = y.normalize := same_of_canonicalJson_eq htext
  rw [← denotes_normalize, hsame, denotes_normalize]
  exact hy

/-- A request that is contained and names every key of the grant is no broader than the grant. -/
theorem denotes_of_namesEveryKey {granted requested : Json} (hcontains : scopeContains granted requested = true)
    (hkeys : NamesEveryKey granted requested) (hcollision : ¬ ItemsCollide granted requested) {resource : Json}
    (h : Denotes requested resource) (hg : granted.Distinct) (hr : requested.Distinct) : Denotes granted resource := by
  induction granted using Json.induct generalizing requested resource with
  | scalar granted hscalar =>
    rcases scopeContains_cases hcontains with ⟨gs, rs, rfl, rfl⟩ | ⟨gs, rs, rfl, rfl⟩ | ⟨_, hrequested, heq⟩
    · cases hscalar
    · cases hscalar
    · rw [denotes_scalar hscalar]
      exact scalarEq_trans heq ((denotes_scalar hrequested).mp h)
  | arr items ih =>
    rcases scopeContains_cases hcontains with ⟨gs, rs, hkind, rfl⟩ | ⟨gs, rs, hkind, rfl⟩ | ⟨hscalar, _, _⟩
    · cases hkind
    · cases hkind
      obtain ⟨y, hy, hdenotes⟩ := denotes_arr.mp h
      obtain ⟨x, hx, hhash⟩ := scopeContains_arr.mp hcontains y hy
      rw [denotes_arr]
      refine ⟨x, hx, denotes_of_canonicalSha256_eq hhash ?_ hdenotes⟩
      exact fun hxy => hcollision ⟨x, by rwa [listedItems], y, by rwa [listedItems], hxy⟩
    · cases hscalar
  | obj fields ih =>
    rcases scopeContains_cases hcontains with ⟨gs, rs, hkind, rfl⟩ | ⟨gs, rs, hkind, rfl⟩ | ⟨hscalar, _, _⟩
    · cases hkind
      rw [denotes_obj]
      intro p hp
      obtain ⟨value, hlookup, hcovered⟩ := namesEveryKey_obj.mp hkeys p hp
      have hmem : (p.1, value) ∈ rs := (lookup_eq_some_iff_mem hr.keys p.1 value).mp hlookup
      obtain ⟨component, hcomponent, hdenotes⟩ := denotes_obj.mp h _ hmem
      obtain ⟨scope, hscope, hcontained⟩ := scopeContains_obj.mp hcontains _ hmem
      have hsame : scope = p.2 := by
        rw [(lookup_eq_some_iff_mem hg.keys p.1 p.2).mpr hp] at hscope
        exact (Option.some.inj hscope).symm
      rw [hsame] at hcontained
      refine ⟨component, hcomponent, ih p hp hcontained hcovered ?_ hdenotes (hg.fields p hp) (hr.fields _ hmem)⟩
      rintro ⟨x, hx, y, hy, hxy⟩
      exact hcollision ⟨x, mem_listedItems_obj hp hx, y, mem_listedItems_obj hmem hy, hxy⟩
    · cases hkind
    · cases hscalar

/-- The resource that has something at each key of a scope, and nothing else. -/
def resourceWith (requested : Dict) (value : String → Json) : Json := .obj (requested.map fun p => (p.1, value p.1))

theorem component?_resourceWith (requested : Dict) (value : String → Json) (key : String) :
    component? (resourceWith requested value) key = if key ∈ requested.map Prod.fst then some (value key) else none := by
  show (requested.map fun p => (p.1, value p.1)).lookup key = _
  induction requested with
  | nil => rfl
  | cons p requested ih =>
    rw [List.map_cons, List.lookup_cons]
    by_cases hkey : key = p.1
    · subst hkey
      simp
    · have hne : (key == p.1) = false := by simpa using hkey
      simp only [hne, ih, List.map_cons, List.mem_cons, hkey, false_or]

theorem denotes_resourceWith {requested : Dict} (value : String → Json) (h : ∀ p ∈ requested, Denotes p.2 (value p.1)) :
    Denotes (.obj requested) (resourceWith requested value) := by
  rw [denotes_obj]
  intro p hp
  refine ⟨value p.1, ?_, h p hp⟩
  rw [component?_resourceWith, if_pos (List.mem_map_of_mem hp)]

/-- A request that denotes something and is no broader than the grant names every key of it. -/
theorem namesEveryKey_of_subset {granted requested : Json} (hcontains : scopeContains granted requested = true)
    (hsubset : ∀ resource, Denotes requested resource → Denotes granted resource) {sample : Json}
    (hsome : Denotes requested sample) (hg : granted.Distinct) (hr : requested.Distinct) : NamesEveryKey granted requested := by
  induction granted using Json.induct generalizing requested sample with
  | scalar granted hscalar =>
    cases granted with
    | arr | obj => cases hscalar
    | null | bool | num | str => rw [NamesEveryKey] <;> simp
  | arr items ih => cases requested <;> exact trivial
  | obj fields ih =>
    rcases scopeContains_cases hcontains with ⟨gs, rs, hkind, rfl⟩ | ⟨gs, rs, hkind, rfl⟩ | ⟨hscalar, _, _⟩
    · cases hkind
      -- the resource that the request spells out, with what `sample` has at its keys
      have hvalues : ∀ p ∈ rs, Denotes p.2 ((component? sample p.1).getD .null) := by
        intro p hp
        obtain ⟨value, hvalue, hdenotes⟩ := denotes_obj.mp hsome p hp
        rwa [hvalue, Option.getD_some]
      rw [namesEveryKey_obj]
      intro p hp
      obtain ⟨_, hcomponent, _⟩ := denotes_obj.mp (hsubset _
        (denotes_resourceWith (fun key => (component? sample key).getD .null) hvalues)) p hp
      rw [component?_resourceWith] at hcomponent
      split at hcomponent
      · rename_i hkey
        obtain ⟨q, hq, hsame⟩ := List.mem_map.mp hkey
        have hlookup := (lookup_eq_some_iff_mem hr.keys q.1 q.2).mpr hq
        rw [hsame] at hlookup
        obtain ⟨scope, hscope, hcontained⟩ := scopeContains_obj.mp hcontains q hq
        have hscope' : scope = p.2 := by
          rw [hsame, (lookup_eq_some_iff_mem hg.keys p.1 p.2).mpr hp] at hscope
          exact (Option.some.inj hscope).symm
        rw [hscope'] at hcontained
        refine ⟨q.2, hlookup, ih p hp hcontained ?_ (hvalues q hq) (hg.fields p hp) (hr.fields q hq)⟩
        intro resource hresource
        have hchanged : ∀ r ∈ rs, Denotes r.2 (if r.1 = p.1 then resource else (component? sample r.1).getD .null) := by
          intro r hrmem
          split
          · rename_i hkey'
            have hlookup' := (lookup_eq_some_iff_mem hr.keys r.1 r.2).mpr hrmem
            rw [hkey', hlookup] at hlookup'
            rw [← Option.some.inj hlookup']
            exact hresource
          · exact hvalues r hrmem
        obtain ⟨value, hvalue, hdenotes⟩ := denotes_obj.mp (hsubset _
          (denotes_resourceWith (fun key => if key = p.1 then resource else (component? sample key).getD .null) hchanged)) p hp
        rw [component?_resourceWith, if_pos hkey, if_pos rfl] at hvalue
        rw [Option.some.inj hvalue]
        exact hdenotes
      · cases hcomponent
    · cases hkind
    · cases hscalar

/-- When a contained request is no broader than the scope that contains it. -/
theorem subset_iff_namesEveryKey {granted requested : Json} (hcontains : scopeContains granted requested = true)
    (hg : granted.Distinct) (hr : requested.Distinct) (hcollision : ¬ ItemsCollide granted requested) :
    (∀ resource, Denotes requested resource → Denotes granted resource) ↔
      NamesEveryKey granted requested ∨ ∀ resource, ¬ Denotes requested resource := by
  constructor
  · intro hsubset
    by_cases hsome : ∃ resource, Denotes requested resource
    · obtain ⟨resource, hresource⟩ := hsome
      exact .inl (namesEveryKey_of_subset hcontains hsubset hresource hg hr)
    · exact .inr (not_exists.mp hsome)
  · rintro (hkeys | hnone) resource hresource
    · exact denotes_of_namesEveryKey hcontains hkeys hcollision hresource hg hr
    · exact absurd hresource (hnone resource)

theorem scopeContains_of_admitted {grants : Table PrivilegedAccessGrantRow (fun row => row.grantId)} {now : Nat}
    {req : PrivilegedRequest} {result : Dict} (h : requirePrivilegedAccess grants now req = .ok result) :
    ∃ row, grantOf? grants req = some row ∧ scopeContains (.obj row.resourceScopeJson) (.obj req.resourceScope) = true := by
  simp only [requirePrivilegedAccess, bind_eq_ok, raiseIf_eq_ok, orRaise_eq_ok] at h
  obtain ⟨row, hrow, _, _, _, _, _, hscope, _⟩ := h
  exact ⟨row, hrow, by simpa using hscope⟩

end Laws

/-- A contained scope is no broader exactly when it names every key of the one that contains it, or denotes
nothing; so for the scopes of admitted requests. -/
theorem contained_scope_subset_iff (grants : Table PrivilegedAccessGrantRow (fun row => row.grantId)) (now : Nat)
    (req : PrivilegedRequest) (result : Dict) :
    (∀ granted requested : Json, granted.Distinct → requested.Distinct → scopeContains granted requested = true →
      ItemsCollide granted requested ∨
        ((∀ resource, Denotes requested resource → Denotes granted resource) ↔
          NamesEveryKey granted requested ∨ ∀ resource, ¬ Denotes requested resource)) ∧
    ((Json.obj req.resourceScope).Distinct → requirePrivilegedAccess grants now req = .ok result →
      ∃ row, grantOf? grants req = some row ∧ (ItemsCollide (.obj row.resourceScopeJson) (.obj req.resourceScope) ∨
        ((∀ resource, Denotes (.obj req.resourceScope) resource → Denotes (.obj row.resourceScopeJson) resource) ↔
          NamesEveryKey (.obj row.resourceScopeJson) (.obj req.resourceScope) ∨
            ∀ resource, ¬ Denotes (.obj req.resourceScope) resource))) := by
  have hdocuments : ∀ granted requested : Json, granted.Distinct → requested.Distinct →
      scopeContains granted requested = true → ItemsCollide granted requested ∨
        ((∀ resource, Denotes requested resource → Denotes granted resource) ↔
          NamesEveryKey granted requested ∨ ∀ resource, ¬ Denotes requested resource) := by
    intro granted requested hg hr hcontains
    by_cases hcollision : ItemsCollide granted requested
    · exact .inl hcollision
    · exact .inr (subset_iff_namesEveryKey hcontains hg hr hcollision)
  refine ⟨hdocuments, ?_⟩
  intro hr hadmitted
  obtain ⟨row, hrow, hcontains⟩ := scopeContains_of_admitted hadmitted
  exact ⟨row, hrow, hdocuments _ _ row.distinct hr hcontains⟩

section Sample

theorem distinct_room (room : String) : (Json.obj [("room", .str room)]).Distinct := by
  have hkeys : (([("room", .str room)] : Dict).map Prod.fst).Nodup := List.nodup_singleton "room"
  apply Json.distinct_obj hkeys
  intro p hp
  rw [List.mem_singleton.mp hp]
  exact trivial

def roomGrant : PrivilegedAccessGrantRow where
  grantId := "g1"
  tenantId := "t1"
  projectId := some "p1"
  subjectId := "ana"
  actionsJson := ["read"]
  resourceScopeJson := [("room", .str "r1")]
  purpose := "repair"
  state := .active
  expiresAt := 1
  distinct := distinct_room "r1"

def roomGrants : Table PrivilegedAccessGrantRow (fun row => row.grantId) := ⟨[roomGrant], List.nodup_singleton "g1"⟩

def roomRequest (scope : Dict) : PrivilegedRequest := ⟨"g1", "t1", some "p1", "ana", "read", "repair", scope⟩

theorem denotes_room {room : String} {resource : Json} (h : Denotes (.obj [("room", .str room)]) resource) :
    ∃ value, component? resource "room" = some value ∧ scalarEq (.str room) value = true := by
  obtain ⟨value, hvalue, hdenotes⟩ := denotes_obj.mp h _ (List.mem_singleton_self _)
  exact ⟨value, hvalue, (denotes_scalar rfl).mp hdenotes⟩

/-- A grant for one room admits a request that names no room, which denotes every other room too. -/
theorem empty_scope_admitted :
    requirePrivilegedAccess roomGrants 0 (roomRequest []) = .ok (jitResult roomGrant true) ∧
      grantOf? roomGrants (roomRequest []) = some roomGrant ∧
      scopeContains (.obj roomGrant.resourceScopeJson) (.obj []) = true ∧
      Denotes (.obj []) (.obj [("room", .str "r2")]) ∧
      ¬ Denotes (.obj roomGrant.resourceScopeJson) (.obj [("room", .str "r2")]) := by
  refine ⟨rfl, rfl, rfl, ?_, ?_⟩
  · rw [denotes_obj]
    exact fun p hp => absurd hp List.not_mem_nil
  · intro h
    obtain ⟨value, hvalue, heq⟩ := denotes_room h
    cases hvalue
    exact absurd heq (by decide)

/-- For a request of the granted room. -/
theorem contained_scope_subset_room : ∃ row, grantOf? roomGrants (roomRequest [("room", .str "r1")]) = some row ∧
    (ItemsCollide (.obj row.resourceScopeJson) (.obj [("room", .str "r1")]) ∨
      ((∀ resource, Denotes (.obj [("room", .str "r1")]) resource → Denotes (.obj row.resourceScopeJson) resource) ↔
        NamesEveryKey (.obj row.resourceScopeJson) (.obj [("room", .str "r1")]) ∨
          ∀ resource, ¬ Denotes (.obj [("room", .str "r1")]) resource)) :=
  (contained_scope_subset_iff roomGrants 0 (roomRequest [("room", .str "r1")]) (jitResult roomGrant true)).2
    (distinct_room "r1") rfl

end Sample

end SecurityOperationsService
end Sip
