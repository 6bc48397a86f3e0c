import Sip.Search.Filters

/-!
# Documents that a principal may not see

Both ways to search admit documents before anything else looks at them, so that two sets of documents that differ
only in what the principal may not see give equal results.
-/

namespace Sip

set_option autoImplicit false

namespace SearchService
variable {K : Type} [Field K] [LinearOrder K]

section Fallback

/-- What the loop over the authorized documents has collected. -/
structure Navigation (K : Type) [Field K] [LinearOrder K] where
  items : List (SearchDocumentRow K) := []
  staleAuthorized : Nat := 0
  staleCriticalOmitted : Nat := 0

/-- `min(spec.limit, 200)` -/
def navigationLimit (spec : SearchQuerySpec K) : Nat := min spec.limit 200

def navigate (spec : SearchQuerySpec K) (state : Navigation K) : List (SearchDocumentRow K) → Navigation K
  | [] => state
  | row :: rows =>
    if spec.entityTypes ≠ [] ∧ (row.entityType.any fun entityType => entityType ∈ spec.entityTypes) = false then
      navigate spec state rows
    else
      let state := if fresh row then state else { state with staleAuthorized := state.staleAuthorized + 1 }
      if fresh row = false ∧ spec.criticalWorkflow = true then
        navigate spec { state with staleCriticalOmitted := state.staleCriticalOmitted + 1 } rows
      else
        let state := { state with items := state.items ++ [row] }
        if navigationLimit spec ≤ state.items.length then state else navigate spec state rows

/-- What the navigation by metadata returns; the rendering of its items is left out. -/
structure FallbackResult (K : Type) [Field K] [LinearOrder K] where
  items : List (SearchDocumentRow K)
  authorizedCount : Nat
  truncated : Bool
  staleAuthorizedDocuments : Nat
  criticalStaleResultsOmitted : Nat

def metadataFallback (db : Table (SearchDocumentRow K) fun row => row.documentId) (principal : SignedPrincipal)
    (spec : SearchQuerySpec K) : Except Raised (FallbackResult K) := do
  requireScope principal spec
  let admitted ← authorizedDocuments db principal spec
  let navigation := navigate spec {} (sortBy (fun row => row.documentId) admitted)
  return {
    items := navigation.items, authorizedCount := navigation.items.length,
    truncated := navigationLimit spec ≤ navigation.items.length,
    staleAuthorizedDocuments := navigation.staleAuthorized,
    criticalStaleResultsOmitted := navigation.staleCriticalOmitted }

end Fallback

section Isolation
variable {db db' : Table (SearchDocumentRow K) fun row => row.documentId} {principal : SignedPrincipal}
  {spec : SearchQuerySpec K}

/-- The two sets of documents differ only in documents for which `_authorized` is false. -/
def SameAuthorized (db db' : Table (SearchDocumentRow K) fun row => row.documentId) (principal : SignedPrincipal)
    (spec : SearchQuerySpec K) : Prop :=
  ∀ row, authorized row principal spec ≠ .ok false → (row ∈ db.rows ↔ row ∈ db'.rows)

theorem SameAuthorized.symm (h : SameAuthorized db db' principal spec) : SameAuthorized db' db principal spec :=
  fun row hrow => (h row hrow).symm

theorem SameAuthorized.project (h : SameAuthorized db db' principal spec) {row : SearchDocumentRow K}
    (hrow : authorized row principal spec ≠ .ok false) : row ∈ projectDocuments db spec ↔ row ∈ projectDocuments db' spec := by
  rw [projectDocuments, projectDocuments, List.mem_filter, List.mem_filter, h row hrow]

/-- Only the regions of the principal make the test of a document fail. -/
theorem authorized_error {row : SearchDocumentRow K} {error : Raised} (h : authorized row principal spec = .error error) :
    principalRegions principal = .error error := by
  unfold authorized at h
  simp only at h
  split at h
  · cases h
  split at h
  · cases h
  split at h
  · cases h
  split at h
  · cases h
  split at h
  · cases h
  split at h
  · cases h
  split at h
  · cases h
  cases hregions : principalRegions principal with
  | ok regions =>
    rw [hregions] at h
    cases h
  | error other =>
    rw [hregions] at h
    exact congrArg Except.error (Except.error.inj h)

theorem filterOk_error {α : Type} {f : α → Except Raised Bool} {rows : List α} {error : Raised}
    (h : filterOk f rows = .error error) : ∃ row ∈ rows, f row = .error error := by
  induction rows with
  | nil => cases h
  | cons row rows ih =>
    cases hrow : f row with
    | error other =>
      rw [filterOk, hrow] at h
      cases h
      exact ⟨row, List.mem_cons_self, hrow⟩
    | ok keep =>
      cases hrest : filterOk f rows with
      | error other =>
        rw [filterOk, hrow, hrest] at h
        cases h
        obtain ⟨failed, hfailed, hf⟩ := ih hrest
        exact ⟨failed, List.mem_cons_of_mem _ hfailed, hf⟩
      | ok rest =>
        rw [filterOk, hrow, hrest] at h
        cases h

theorem SameAuthorized.error (h : SameAuthorized db db' principal spec) {error : Raised}
    (hdb : authorizedDocuments db principal spec = .error error) : authorizedDocuments db' principal spec = .error error := by
  obtain ⟨row, hrow, herror⟩ := filterOk_error hdb
  have hrow' : row ∈ projectDocuments db' spec := (h.project (by rw [herror]; exact nofun)).mp hrow
  cases hdb' : authorizedDocuments db' principal spec with
  | ok admitted =>
    obtain ⟨answer, hanswer⟩ := (filterOk_eq_ok_iff.mp hdb').1 row hrow'
    cases herror.symm.trans hanswer
  | error other =>
    obtain ⟨failed, _, hfailed⟩ := filterOk_error hdb'
    exact congrArg Except.error
      (Except.error.inj ((authorized_error hfailed).symm.trans (authorized_error herror)))

/-- The same documents are admitted. -/
theorem SameAuthorized.perm (h : SameAuthorized db db' principal spec) {admitted admitted' : List (SearchDocumentRow K)}
    (hdb : authorizedDocuments db principal spec = .ok admitted) (hdb' : authorizedDocuments db' principal spec = .ok admitted') :
    admitted.Perm admitted' := by
  obtain ⟨_, rfl⟩ := filterOk_eq_ok_iff.mp hdb
  obtain ⟨_, rfl⟩ := filterOk_eq_ok_iff.mp hdb'
  have hnodup : ∀ db : Table (SearchDocumentRow K) (fun row => row.documentId), (projectDocuments db spec).Nodup :=
    fun db => (List.Nodup.of_map _ db.nodup).filter _
  refine (List.perm_ext_iff_of_nodup ((hnodup db).filter _) ((hnodup db').filter _)).mpr ?_
  intro row
  rw [List.mem_filter, List.mem_filter]
  refine and_congr_left fun hgranted => h.project ?_
  rw [granted_eq_true_iff.mp hgranted]
  exact nofun

theorem nodup_admitted {admitted : List (SearchDocumentRow K)} (hdb : authorizedDocuments db principal spec = .ok admitted) :
    (admitted.map fun row => row.documentId).Nodup := by
  obtain ⟨_, rfl⟩ := filterOk_eq_ok_iff.mp hdb
  exact db.nodup.sublist ((List.filter_sublist.trans List.filter_sublist).map _)

theorem rankOrder_congr (svc : SearchService K) {admitted admitted' : List (SearchDocumentRow K)}
    (hkeys : (admitted.map fun row => row.documentId).Nodup) (h : admitted.Perm admitted') :
    rankOrder (admitted.filterMap (svc.rankRow spec)) = rankOrder (admitted'.filterMap (svc.rankRow spec)) := by
  refine sortBy_congr ?_ (h.filterMap _)
  refine List.Nodup.of_map (fun key : Lex (K × String) => (ofLex key).2) ?_
  have hids : ((admitted.filterMap (svc.rankRow spec)).map Ranked.row).map (fun row => row.documentId) =
      ((admitted.filterMap (svc.rankRow spec)).map fun entry => toLex (-entry.score, entry.row.documentId)).map
        fun key : Lex (K × String) => (ofLex key).2 := by
    rw [List.map_map, List.map_map]
    rfl
  rw [← hids, map_row_filterMap]
  exact hkeys.sublist (List.filter_sublist.map _)

/-- Two sets of documents that differ only in what the principal may not see give equal results, both by a query whose time
does not run out and by metadata. -/
theorem search_isolated (svc : SearchService K) (h : SameAuthorized db db' principal spec)
    (elapsed elapsed' : SearchDocumentRow K → Nat) (htime : ∀ row, elapsed row ≤ spec.timeoutMs)
    (htime' : ∀ row, elapsed' row ≤ spec.timeoutMs) :
    svc.query db elapsed principal spec = svc.query db' elapsed' principal spec ∧
      metadataFallback db principal spec = metadataFallback db' principal spec := by
  cases hdb : authorizedDocuments db principal spec with
  | error error =>
    have hdb' := h.error hdb
    simp only [query, metadataFallback, hdb, hdb']
    exact ⟨rfl, trivial⟩
  | ok admitted =>
    cases hdb' : authorizedDocuments db' principal spec with
    | error error =>
      cases hdb.symm.trans (h.symm.error hdb')
    | ok admitted' =>
      have hperm := h.perm hdb hdb'
      have hkeys := nodup_admitted hdb
      have hintime : ∀ (elapsed : SearchDocumentRow K → Nat) (rows : List (SearchDocumentRow K)),
          (∀ row, elapsed row ≤ spec.timeoutMs) → rows.any (fun row => spec.timeoutMs < elapsed row) = false := by
        intro elapsed rows hle
        rw [List.any_eq_false]
        intro row _
        simpa using hle row
      have hlength := (hperm.filterMap (svc.rankRow spec)).length_eq
      have hstale := (hperm.filter fun row => !fresh row).length_eq
      simp only [query, metadataFallback, hdb, hdb', hintime elapsed _ htime, hintime elapsed' _ htime',
        rankOrder_congr svc hkeys hperm, hlength, hstale, sortBy_congr hkeys hperm, bind, Except.bind]
      exact ⟨trivial, trivial⟩

end Isolation

section Sample

def redactedDocument : SearchDocumentRow ℚ :=
  { backwardDocument with documentId := "d2", policyJson := { redacted := true } }

def redactedDb : Table (SearchDocumentRow ℚ) (fun row => row.documentId) := ⟨[backwardDocument, redactedDocument], by decide⟩

theorem sameAuthorized_redacted : SameAuthorized redactedDb backwardDb viewer forwardQuery := by
  intro row hrow
  have hredacted : row ≠ redactedDocument := by
    rintro rfl
    exact hrow rfl
  simp [redactedDb, backwardDb, hredacted]

/-- A redacted document leaves no trace. -/
theorem search_isolated_redacted : plainSearch.query redactedDb (fun _ => 0) viewer forwardQuery =
      plainSearch.query backwardDb (fun _ => 0) viewer forwardQuery ∧
    metadataFallback redactedDb viewer forwardQuery = metadataFallback backwardDb viewer forwardQuery :=
  search_isolated plainSearch sameAuthorized_redacted (fun _ => 0) (fun _ => 0) (fun _ => Nat.zero_le _) fun _ => Nat.zero_le _

end Sample

end SearchService

end Sip
