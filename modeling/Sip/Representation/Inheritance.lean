import Sip.Representation.Publisher
import Sip.Spatial.MeasurementTruth

/-!
# What a derivative inherits

The effective policy of a candidate against the policies of its sources, dimension
by dimension: classification, audiences, purposes, scopes, consent grants and legal
hold. Classification, audiences, grants and holds are combined from every source;
purposes and scopes are those of the request, so they are as strict as the sources'
only if the request repeats them.
-/

namespace Sip

set_option autoImplicit false

namespace RepresentationService

section Policy
variable (py : PyText)

/-- The policy lists the text under the key. -/
def Lists (policy : Dict) (key text : String) : Prop := ∃ texts, policy.textsAt py key = .ok texts ∧ text ∈ texts

/-- `if policy.get(key)`. -/
def Declares (policy : Dict) (key : String) : Prop := (policy.get key).truthy = true

/-- A limit that the source declares is declared by the derivative too, and not widened. -/
def Within (policy source : Dict) (key : String) : Prop :=
  Declares source key → Declares policy key ∧ ∀ text, Lists py policy key text → Lists py source key text

/-- What the source lists, the derivative lists too. -/
def Covers (policy source : Dict) (key : String) : Prop := ∀ text, Lists py source key text → Lists py policy key text

end Policy

section Strict
variable (py : PyText) (db : RepresentationDb) (req : InheritanceRequest)

/-- The assets and the representations that the candidate is derived from. -/
def sourceAssets : List AssetRefRow :=
  match sourceIds req.provenance req.requested with
  | .ok ids => assetSources db req.tenantId req.projectId ids
  | .error _ => []

def sourceRepresentations : List RepresentationAssetRow :=
  match sourceIds req.provenance req.requested with
  | .ok ids => representationSources db req.tenantId req.projectId ids
  | .error _ => []

/-- The policies that these sources carry. -/
def policiesOf : List Dict := sourcePolicies (sourceAssets db req) (sourceRepresentations db req)

/-- The policy is at least as strict as every source. -/
structure AtLeastAsStrict (policy : Dict) : Prop where
  asset_class : ∀ asset ∈ sourceAssets db req, ∃ value, policy.lookup "classification" = some (.str value) ∧
    classificationRank asset.classification ≤ classificationRank value
  representation_class : ∀ rep ∈ sourceRepresentations db req, ∀ declared,
    declaredClassification? py rep.privacyInheritanceJson = some declared →
    ∃ value, policy.lookup "classification" = some (.str value) ∧ classificationRank declared ≤ classificationRank value
  audiences : ∀ source ∈ policiesOf db req, Within py policy source "allowed_audiences"
  purposes : ∀ source ∈ policiesOf db req, Within py policy source "allowed_purposes"
  scopes : ∀ source ∈ policiesOf db req, Covers py policy source "required_scopes"
  grants : ∀ source ∈ policiesOf db req, Covers py policy source "consent_grant_ids"
  asset_hold : ∀ asset ∈ sourceAssets db req, asset.legalHold = true → policy.lookup "legal_hold" = some (.bool true)
  representation_hold : ∀ rep ∈ sourceRepresentations db req, Declares rep.privacyInheritanceJson "legal_hold" →
    policy.lookup "legal_hold" = some (.bool true)

/-- The request itself stays within the purposes of every source and asks for the scopes of every source. -/
def RequestRepeatsSources : Prop :=
  ∀ source ∈ policiesOf db req, Within py req.requested source "allowed_purposes" ∧
    Covers py req.requested source "required_scopes"

end Strict

section Texts
variable {py : PyText} {policy : Dict} {key : String}

theorem textsAt_texts {texts : List String} (h : policy.lookup key = some (.texts texts)) :
    policy.textsAt py key = .ok texts := by
  have hmap : (texts.map Json.str).map py.str = texts := by
    rw [List.map_map]
    exact (List.map_congr_left fun s _ => py.str_text s).trans (List.map_id texts)
  simp only [Dict.textsAt, Dict.get?, h, Option.getD_some, Json.texts, Json.iterate, bind, Except.bind, pure, Except.pure]
  rw [hmap]

theorem lists_texts {texts : List String} (h : policy.lookup key = some (.texts texts)) (text : String) :
    Lists py policy key text ↔ text ∈ texts := by
  rw [Lists, textsAt_texts h]
  constructor
  · rintro ⟨_, heq, hmem⟩
    cases heq
    exact hmem
  · exact fun hmem => ⟨texts, rfl, hmem⟩

theorem declares_texts {texts : List String} (h : policy.lookup key = some (.texts texts)) :
    Declares policy key ↔ texts ≠ [] := by
  rw [Declares, Dict.get, h, Option.getD_some, Json.texts]
  cases texts <;> simp [Json.truthy]

/-- What a policy lists and declares under a key is a matter of its entry there. -/
theorem textsAt_congr {other : Dict} (h : policy.lookup key = other.lookup key) :
    policy.textsAt py key = other.textsAt py key := by
  simp only [Dict.textsAt, Dict.get?, h]

theorem within_congr {other source : Dict} (h : policy.lookup key = other.lookup key) :
    Within py policy source key ↔ Within py other source key := by
  simp only [Within, Declares, Lists, Dict.get, h, textsAt_congr h]

theorem covers_congr {other source : Dict} (h : policy.lookup key = other.lookup key) :
    Covers py policy source key ↔ Covers py other source key := by
  simp only [Covers, Lists, textsAt_congr h]

end Texts

section Combine
variable {py : PyText} {policies : List Dict}

theorem mem_textsOf {key : String} {texts : List String} (h : textsOf py key policies = .ok texts) {policy : Dict}
    (hpolicy : policy ∈ policies) {text : String} (htext : Lists py policy key text) : text ∈ texts := by
  simp only [textsOf, bind_eq_ok] at h
  obtain ⟨lists, hlists, hflat⟩ := h
  cases hflat
  obtain ⟨list, hlist, hat⟩ := mapM_eq_ok_exists hlists hpolicy
  obtain ⟨texts, htexts, hmem⟩ := htext
  cases hat.symm.trans htexts
  exact List.mem_flatten.mpr ⟨list, hlist, hmem⟩

theorem mem_intersection {sets : List (List String)} {item : String} (h : item ∈ intersection sets) :
    ∀ set ∈ sets, item ∈ set := by
  intro set hset
  cases sets with
  | nil => exact absurd hset List.not_mem_nil
  | cons first rest =>
    rw [intersection, mem_sortedSet_id, List.mem_filter, List.all_eq_true] at h
    rcases List.mem_cons.mp hset with rfl | hrest
    · exact h.1
    · exact of_decide_eq_true (h.2 set hrest)

/-- A source that declares audiences leaves some, all of them its own. -/
theorem allowedAudiences_within {audiences : List String} (h : allowedAudiences py policies = .ok audiences) {source : Dict}
    (hsource : source ∈ policies) (hdeclares : Declares source "allowed_audiences") :
    audiences ≠ [] ∧ ∀ text ∈ audiences, Lists py source "allowed_audiences" text := by
  simp only [allowedAudiences, bind_eq_ok, raiseIf_eq_ok] at h
  obtain ⟨sets, hsets, -, hsome, haudiences⟩ := h
  cases haudiences
  have hdeclared : source ∈ policies.filter fun policy => (policy.get "allowed_audiences").truthy :=
    List.mem_filter.mpr ⟨hsource, hdeclares⟩
  obtain ⟨set, hset, hat⟩ := mapM_eq_ok_exists hsets hdeclared
  refine ⟨fun hnil => hsome ⟨List.ne_nil_of_mem hset, hnil⟩, ?_⟩
  intro text htext
  exact ⟨set, hat, mem_intersection htext set hset⟩

theorem inheritedUnions_lookup {unions : Dict} (h : inheritedUnions py policies = .ok unions) :
    unions.map Prod.fst = unionKeys ∧ ∃ grants, textsOf py "consent_grant_ids" policies = .ok grants ∧
      ("consent_grant_ids", Json.texts (sortedSet id grants)) ∈ unions := by
  simp only [inheritedUnions, unionKeys, List.mapM_cons, List.mapM_nil, bind_eq_ok] at h
  obtain ⟨_, ⟨grants, hgrants, hfirst⟩, _, ⟨_, ⟨_, -, hsecond⟩, _, ⟨_, ⟨_, -, hthird⟩, _, ⟨_, ⟨_, -, hfourth⟩, _, hnil, hcons⟩,
    hcons'⟩, hcons''⟩, hunions⟩ := h
  cases hnil
  cases hfirst
  cases hsecond
  cases hthird
  cases hfourth
  cases hcons
  cases hcons'
  cases hcons''
  cases hunions
  exact ⟨rfl, grants, hgrants, List.mem_cons_self⟩

end Combine

section Effective
variable {py : PyText} {db : RepresentationDb} {req : InheritanceRequest} {policy : Dict}
  {refs : Table AssetRefRow (fun row => row.assetId)}

/-- The keys that the computation writes, whatever was requested. -/
def writtenKeys : List String :=
  ["source_ids", "resolved_source_ids", "unresolved_source_policy_ids", "classification", "retention_classes",
    "legal_hold", "policy_blockers"]

/-- The entries of the effective policy in the dimensions that sources limit. -/
structure Effective (py : PyText) (db : RepresentationDb) (req : InheritanceRequest) (policy : Dict)
    (audiences grants : List String) : Prop where
  classification : policy.lookup "classification" = some (.str (effectiveClassification
    (classifications py (sourceAssets db req) (sourceRepresentations db req) req.requested)))
  hold : policy.lookup "legal_hold" =
    some (.bool (legalHold (sourceAssets db req) (sourceRepresentations db req) req.requested))
  audience_entry : policy.lookup "allowed_audiences" =
    if audiences = [] then req.requested.lookup "allowed_audiences" else some (.texts audiences)
  allowed : allowedAudiences py (policiesOf db req ++ [req.requested]) = .ok audiences
  purposes : policy.lookup "allowed_purposes" = req.requested.lookup "allowed_purposes"
  scopes : policy.lookup "required_scopes" = req.requested.lookup "required_scopes"
  grant_entry : policy.lookup "consent_grant_ids" = some (.texts (sortedSet id grants))
  granted : textsOf py "consent_grant_ids" (policiesOf db req ++ [req.requested]) = .ok grants

/-- An entry that neither the hash nor the audiences touch. -/
theorem lookup_hashed {fields : Dict} {audiences : List String} {hash : Json} {key : String}
    (hhash : key ≠ "inheritance_hash") (haudiences : key ≠ "allowed_audiences") :
    ((if audiences = [] then fields else fields.set "allowed_audiences" (.texts audiences)).set
      "inheritance_hash" hash).lookup key = fields.lookup key := by
  rw [Dict.lookup_set, if_neg hhash]
  split
  · rfl
  · rw [Dict.lookup_set, if_neg haudiences]

theorem effective_of_ok (h : effectivePrivacyInheritance py db req = .ok (policy, refs)) :
    ∃ audiences grants, Effective py db req policy audiences grants := by
  simp only [effectivePrivacyInheritance, bind_eq_ok] at h
  obtain ⟨ids, hids, retention, -, audiences, haudiences, unions, hunions, ⟨blockers, refs'⟩, -, hpolicy⟩ := h
  cases hpolicy
  have hassets : sourceAssets db req = assetSources db req.tenantId req.projectId ids := by
    simp only [sourceAssets, hids]
  have hreps : sourceRepresentations db req = representationSources db req.tenantId req.projectId ids := by
    simp only [sourceRepresentations, hids]
  rw [← hassets, ← hreps] at haudiences hunions
  obtain ⟨hkeys, grants, hgrants, hmem⟩ := inheritedUnions_lookup hunions
  refine ⟨audiences, grants, ?_⟩
  rw [← hassets, ← hreps]
  have hwritten : ∀ (e : Dict), e.map Prod.fst = writtenKeys → (e.map Prod.fst).Nodup := by
    intro e he
    rw [he]
    decide
  have hfree : ∀ key, key ∉ writtenKeys → key ∉ unionKeys → ∀ e : Dict, e.map Prod.fst = writtenKeys →
      ((req.requested.merge e).merge unions).lookup key = req.requested.lookup key := by
    intro key hkey hunion e he
    rw [Dict.lookup_merge_of_not_mem _ (hkeys ▸ hunion), Dict.lookup_merge_of_not_mem _ (he ▸ hkey)]
  have hset : ∀ key value, key ∉ unionKeys → ∀ e : Dict, e.map Prod.fst = writtenKeys → (key, value) ∈ e →
      ((req.requested.merge e).merge unions).lookup key = some value := by
    intro key value hunion e he hentry
    rw [Dict.lookup_merge_of_not_mem _ (hkeys ▸ hunion), Dict.lookup_merge_of_mem _ (hwritten e he) hentry]
  refine ⟨?_, ?_, ?_, haudiences, ?_, ?_, ?_, hgrants⟩
  · rw [inheritedFields, lookup_hashed (by decide) (by decide)]
    exact hset _ _ (by decide) _ rfl (by simp)
  · rw [inheritedFields, lookup_hashed (by decide) (by decide)]
    exact hset _ _ (by decide) _ rfl (by simp)
  · rw [inheritedFields, Dict.lookup_set, if_neg (by decide)]
    split
    · exact hfree _ (by decide) (by decide) _ rfl
    · rw [Dict.lookup_set, if_pos rfl]
  · rw [inheritedFields, lookup_hashed (by decide) (by decide)]
    exact hfree _ (by decide) (by decide) _ rfl
  · rw [inheritedFields, lookup_hashed (by decide) (by decide)]
    exact hfree _ (by decide) (by decide) _ rfl
  · rw [inheritedFields, lookup_hashed (by decide) (by decide)]
    have hnodup : (unions.map Prod.fst).Nodup := by
      rw [hkeys]
      decide
    exact Dict.lookup_merge_of_mem _ hnodup hmem

theorem rank_le_effective {values : List String} {value : String} (h : value ∈ values) :
    classificationRank value ≤ classificationRank (effectiveClassification values) := by
  cases hmax : values.argmax classificationRank with
  | none =>
    rw [List.argmax_eq_none] at hmax
    exact absurd (hmax ▸ h) List.not_mem_nil
  | some top =>
    rw [effectiveClassification, hmax, Option.getD_some]
    exact List.le_of_mem_argmax h hmax

variable {audiences grants : List String} (heff : Effective py db req policy audiences grants)
include heff

/-- The dimensions that are combined from every source. -/
theorem Effective.within_audiences {source : Dict} (hsource : source ∈ policiesOf db req) :
    Within py policy source "allowed_audiences" := by
  intro hdeclares
  obtain ⟨hsome, hlists⟩ := allowedAudiences_within heff.allowed (List.mem_append_left _ hsource) hdeclares
  have hlookup : policy.lookup "allowed_audiences" = some (.texts audiences) := by
    rw [heff.audience_entry, if_neg hsome]
  refine ⟨(declares_texts hlookup).mpr hsome, ?_⟩
  intro text htext
  exact hlists text ((lists_texts hlookup text).mp htext)

theorem Effective.covers_grants {source : Dict} (hsource : source ∈ policiesOf db req) :
    Covers py policy source "consent_grant_ids" := by
  intro text htext
  rw [lists_texts heff.grant_entry, mem_sortedSet_id]
  exact mem_textsOf heff.granted (List.mem_append_left _ hsource) htext

/-- The effective policy is as strict as the sources exactly when the request repeats their purposes and scopes. -/
theorem Effective.strict_iff : AtLeastAsStrict py db req policy ↔ RequestRepeatsSources py db req := by
  constructor
  · intro hstrict source hsource
    exact ⟨(within_congr heff.purposes).mp (hstrict.purposes source hsource),
      (covers_congr heff.scopes).mp (hstrict.scopes source hsource)⟩
  · intro hrequest
    refine ⟨?_, ?_, fun source hsource => heff.within_audiences hsource, ?_, ?_,
      fun source hsource => heff.covers_grants hsource, ?_, ?_⟩
    · intro asset hasset
      refine ⟨_, heff.classification, rank_le_effective ?_⟩
      exact List.mem_append_left _ (List.mem_append_left _ (List.mem_map_of_mem hasset))
    · intro rep hrep declared hdeclared
      refine ⟨_, heff.classification, rank_le_effective ?_⟩
      exact List.mem_append_left _ (List.mem_append_right _ (List.mem_filterMap.mpr ⟨rep, hrep, hdeclared⟩))
    · intro source hsource
      exact (within_congr heff.purposes).mpr (hrequest source hsource).1
    · intro source hsource
      exact (covers_congr heff.scopes).mpr (hrequest source hsource).2
    · intro asset hasset hheld
      have hany : (sourceAssets db req).any AssetRefRow.legalHold = true := List.any_eq_true.mpr ⟨asset, hasset, hheld⟩
      rw [heff.hold, legalHold, hany, Bool.true_or, Bool.true_or]
    · intro rep hrep hheld
      have hany : (sourceRepresentations db req).any
          (fun row => (row.privacyInheritanceJson.get "legal_hold").truthy) = true :=
        List.any_eq_true.mpr ⟨rep, hrep, hheld⟩
      rw [heff.hold, legalHold, hany, Bool.or_true, Bool.true_or]

end Effective

section Published
variable {py : PyConversions} {db : RepresentationDb} {now : Nat} {req : PublishRequest} {rep : RepresentationAssetRow}
  {policy : Dict}
open RepresentationPublisher

/-- Of the values that can be iterated the true ones are those with an element. -/
theorem textsAt_ne_nil_iff {py : PyText} {d : Dict} {key : String} {texts : List String}
    (h : d.textsAt py key = .ok texts) : texts ≠ [] ↔ Declares d key := by
  rw [Declares, Dict.get]
  simp only [Dict.textsAt, Dict.get?, bind_eq_ok] at h
  obtain ⟨items, hitems, htexts⟩ := h
  cases htexts
  rw [ne_eq, List.map_eq_nil_iff]
  cases hlookup : d.lookup key with
  | none =>
    rw [hlookup] at hitems
    cases hitems
    simp [Json.truthy]
  | some value =>
    rw [hlookup, Option.getD_some] at hitems
    rw [Option.getD_some]
    cases value with
    | null | bool | num => cases hitems
    | arr items =>
      cases hitems
      simp [Json.truthy]
    | str s =>
      simp only [Json.iterate, Except.ok.injEq] at hitems
      simp [← hitems, Json.truthy]
    | obj fields =>
      simp only [Json.iterate, Except.ok.injEq] at hitems
      simp [← hitems, Json.truthy]

/-- The purpose and the audiences of a binding stay within the inherited policy. -/
theorem bindingPolicy_within (h : bindingPolicy py db now req rep = .ok policy) :
    (∃ purpose, policy.lookup "purpose" = some (.str purpose) ∧
      (Declares rep.privacyInheritanceJson "allowed_purposes" →
        Lists py.toPyText rep.privacyInheritanceJson "allowed_purposes" purpose)) ∧
    Within py.toPyText policy rep.privacyInheritanceJson "allowed_audiences" := by
  simp only [bindingPolicy, bind_eq_ok, raiseIf_eq_ok] at h
  obtain ⟨blockers, -, -, -, inherited, hinherited, asked, hasked, -, hwidening, purposes, hpurposes, -, hpurpose,
    scopes, -, grants, -, -, -, hpolicy⟩ := h
  cases hpolicy
  constructor
  · refine ⟨_, by rw [Dict.lookup_set, if_pos rfl], ?_⟩
    intro hdeclares
    refine ⟨purposes, hpurposes, ?_⟩
    by_contra hmiss
    exact hpurpose ⟨(textsAt_ne_nil_iff hpurposes).mpr hdeclares, hmiss⟩
  · intro hdeclares
    have hsome := (textsAt_ne_nil_iff hinherited).mpr hdeclares
    have hkeep : ∀ d : Dict, ∀ value, (d.set "purpose" value).lookup "allowed_audiences" = d.lookup "allowed_audiences" := by
      intro d value
      rw [Dict.lookup_set, if_neg (by decide)]
    by_cases hnone : asked = []
    · rw [if_pos ⟨hsome, hnone⟩]
      have hlookup : ∀ value, (((orElse req.audiencePolicy rep.privacyInheritanceJson).set "allowed_audiences"
          (.texts (sortedSet id inherited))).set "purpose" value).lookup "allowed_audiences" =
          some (.texts (sortedSet id inherited)) := by
        intro value
        rw [hkeep, Dict.lookup_set, if_pos rfl]
      refine ⟨(declares_texts (hlookup _)).mpr ?_, ?_⟩
      · obtain ⟨text, htext⟩ := List.exists_mem_of_ne_nil _ hsome
        exact List.ne_nil_of_mem (mem_sortedSet_id.mpr htext)
      · intro text htext
        exact ⟨inherited, hinherited, mem_sortedSet_id.mp ((lists_texts (hlookup _) text).mp htext)⟩
    · rw [if_neg fun hboth => hnone hboth.2]
      rw [requestedAudiences, if_neg fun hboth => hnone hboth.2] at hwidening
      constructor
      · rw [Declares, Dict.get, hkeep]
        exact (textsAt_ne_nil_iff hasked).mp hnone
      · rintro text ⟨texts, htexts, hmem⟩
        rw [textsAt_congr (hkeep _ _), hasked] at htexts
        cases htexts
        refine ⟨inherited, hinherited, ?_⟩
        by_contra hmiss
        exact hwidening ⟨hsome, text, hmem, hmiss⟩

/-- The binding is for a purpose and for audiences that no source excludes. -/
def PublishedWithin (py : PyText) (sources : List Dict) (binding : RepresentationBindingRow) : Prop :=
  ∀ source ∈ sources,
    (Declares source "allowed_purposes" →
      ∃ purpose, binding.audiencePolicyJson.lookup "purpose" = some (.str purpose) ∧
        Lists py source "allowed_purposes" purpose) ∧
    Within py binding.audiencePolicyJson source "allowed_audiences"

theorem Within.trans {py : PyText} {a b c : Dict} {key : String} (hab : Within py a b key) (hbc : Within py b c key) :
    Within py a c key := by
  intro hc
  obtain ⟨hb, hbound⟩ := hbc hc
  obtain ⟨ha, habound⟩ := hab hb
  exact ⟨ha, fun text htext => hbound text (habound text htext)⟩

/-- A policy as strict as the sources limits what its representation is published for. -/
theorem publishedWithin_of_strict {sourceDb : RepresentationDb} {inheritance : InheritanceRequest}
    {registry : ProviderRegistry} {stamp : RepresentationStamp} {binding : RepresentationBindingRow}
    (hstrict : AtLeastAsStrict py.toPyText sourceDb inheritance rep.privacyInheritanceJson)
    (h : Publication registry py db stamp req rep binding) :
    PublishedWithin py.toPyText (policiesOf sourceDb inheritance) binding := by
  obtain ⟨⟨purpose, hpurpose, hlisted⟩, haudiences⟩ := bindingPolicy_within h.policy
  intro source hsource
  refine ⟨?_, haudiences.trans (hstrict.audiences source hsource)⟩
  intro hdeclares
  obtain ⟨hinherited, hbound⟩ := hstrict.purposes source hsource hdeclares
  exact ⟨purpose, hpurpose, hbound purpose (hlisted hinherited)⟩

end Published

/-- The policy that a candidate inherits is at least as strict as each of its sources if and only if the request repeats
the purposes and the scopes of every source; then no publication of it reaches a purpose or an audience that a source
excludes. -/
theorem inherited_policy_strict_iff (py : PyConversions) (db : RepresentationDb) (req : InheritanceRequest) (policy : Dict)
    (refs : Table AssetRefRow (fun row => row.assetId))
    (h : effectivePrivacyInheritance py.toPyText db req = .ok (policy, refs)) :
    (AtLeastAsStrict py.toPyText db req policy ↔ RequestRepeatsSources py.toPyText db req) ∧
    (RequestRepeatsSources py.toPyText db req →
      ∀ (svc : AuditService) (registry : ProviderRegistry) (before after : RepresentationDb) (stamp : RepresentationStamp)
        (publication : PublishRequest) (rep : RepresentationAssetRow) (bindingId : String),
        before.representations.get? publication.representationId = some rep → rep.privacyInheritanceJson = policy →
        RepresentationPublisher.publish svc registry py before stamp publication = .ok (bindingId, after) →
        ∃ binding, after.bindings.get? bindingId = some binding ∧
          PublishedWithin py.toPyText (policiesOf db req) binding) := by
  obtain ⟨audiences, grants, heff⟩ := effective_of_ok h
  refine ⟨heff.strict_iff, ?_⟩
  intro hrequest svc registry before after stamp publication rep bindingId hrep hpolicy hpublish
  obtain ⟨rfl, rep', binding, hpublication, hwrite⟩ := RepresentationPublisher.publish_writes hpublish
  cases hrep.symm.trans hpublication.found
  obtain ⟨hinsert, -⟩ := RepresentationPublisher.writeBinding_writes hwrite
  have hid : binding.bindingId = stamp.newId := by
    obtain ⟨transform, review, hrow⟩ := hpublication.row
    rw [hrow]
    rfl
  refine ⟨binding, ?_, publishedWithin_of_strict (hpolicy ▸ heff.strict_iff.mpr hrequest) hpublication⟩
  rw [Table.get?_insert hinsert, if_pos hid.symm]

section Sample
open SpatialDataService (plainText)
open SceneService (plainPython)

/-- A scan that may be used for safety reviews only. -/
def reviewScan : AssetRefRow where
  assetId := "scan"
  tenantId := "t1"
  projectId := "p1"
  sha256 := ""
  originalName := "scan"
  classification := "internal"
  retentionClass := "project"
  sourceClass := "observed"
  authorityClass := "evidence"
  provenanceJson := [("policy", .obj [("allowed_purposes", .arr [.str "safety_review"])])]
  createdBy := "ana"

def scanStored : RepresentationDb := { RepresentationDb.empty with refs := ⟨[reviewScan], by decide⟩ }

def derivedFromScan (requested : Dict) : InheritanceRequest where
  tenantId := "t1"
  projectId := "p1"
  outputAssetId := "scan"
  provenance := [("source_ids", .arr [.str "scan"])]
  requested := requested

theorem policiesOf_scan (requested : Dict) (h : requested.lookup "source_ids" = none) :
    policiesOf scanStored (derivedFromScan requested) = [[("allowed_purposes", .arr [.str "safety_review"])]] := by
  have hids : sourceIds (derivedFromScan requested).provenance requested = .ok ["scan"] := by
    simp only [sourceIds, Dict.setAt, Dict.get?, h]
    rfl
  simp only [policiesOf, sourceAssets, sourceRepresentations, show (derivedFromScan requested).requested = requested from rfl,
    hids]
  rfl

theorem scan_policy_strict_iff :
    ∃ policy refs, effectivePrivacyInheritance plainText scanStored
        (derivedFromScan [("allowed_purposes", .arr [.str "safety_review"])]) = .ok (policy, refs) ∧
      (AtLeastAsStrict plainText scanStored (derivedFromScan [("allowed_purposes", .arr [.str "safety_review"])]) policy ↔
        RequestRepeatsSources plainText scanStored
          (derivedFromScan [("allowed_purposes", .arr [.str "safety_review"])])) :=
  ⟨_, _, rfl, (inherited_policy_strict_iff plainPython scanStored _ _ _ rfl).1⟩

/-- A derivative that asks for no purposes has none of the limits of its source. -/
theorem purposes_dropped :
    ∃ policy refs, effectivePrivacyInheritance plainText scanStored (derivedFromScan []) = .ok (policy, refs) ∧
      ¬ AtLeastAsStrict plainText scanStored (derivedFromScan []) policy := by
  refine ⟨_, _, rfl, ?_⟩
  intro hstrict
  have hsource : [("allowed_purposes", Json.arr [.str "safety_review"])] ∈ policiesOf scanStored (derivedFromScan []) := by
    rw [policiesOf_scan [] rfl]
    exact List.mem_singleton_self _
  obtain ⟨hdeclares, -⟩ := hstrict.purposes _ hsource rfl
  cases hdeclares

end Sample

end RepresentationService

end Sip
