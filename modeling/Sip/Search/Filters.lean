import Mathlib.Data.Rat.Sqrt
import Mathlib.Tactic.Linarith
import Sip.Search.Query

/-!
# Adding filters to a query

A further filter can only take documents away from those that meet all conditions. It also raises the part of the
score that counts the conditions, and with it a document whose embedding points away from that of the query can
come to score above zero.
-/

namespace Sip

set_option autoImplicit false

namespace SearchService
variable {K : Type} [Field K] [LinearOrder K]

section Added

/-- The alternatives stay as they are, or come where there were none. -/
def Chosen {α : Type} (old new : List α) : Prop := old = [] ∨ new = old

/-- The value stays as it is, or comes where there was none. -/
def Supplied {α : Type} (old new : Option α) : Prop := old = none ∨ new = old

/-- The second specification has the filters of the first one and further ones: alternatives where there were none, a
bound, an interval or a traversal where there was none, and further tags and predicates. The rest stays as it is. -/
structure AddsFilters (spec spec' : SearchQuerySpec K) : Prop where
  tenantId : spec'.tenantId = spec.tenantId
  projectId : spec'.projectId = spec.projectId
  fullText : spec'.fullText = spec.fullText
  embedding : spec'.embedding = spec.embedding
  embeddingModelManifestId : spec'.embeddingModelManifestId = spec.embeddingModelManifestId
  purpose : spec'.purpose = spec.purpose
  criticalWorkflow : spec'.criticalWorkflow = spec.criticalWorkflow
  entityTypes : Chosen spec.entityTypes spec'.entityTypes
  floorIds : Chosen spec.floorIds spec'.floorIds
  roomIds : Chosen spec.roomIds spec'.roomIds
  sourceClasses : Chosen spec.sourceClasses spec'.sourceClasses
  authorityClasses : Chosen spec.authorityClasses spec'.authorityClasses
  minimumConfidence : Supplied spec.minimumConfidence spec'.minimumConfidence
  tags : spec.tags ⊆ spec'.tags
  workflowStatuses : Chosen spec.workflowStatuses spec'.workflowStatuses
  evidenceIds : Chosen spec.evidenceIds spec'.evidenceIds
  sceneCommitId : given spec.sceneCommitId = none ∨ spec'.sceneCommitId = spec.sceneCommitId
  temporalInterval : Supplied spec.temporalInterval spec'.temporalInterval
  changedBetween : Supplied spec.changedBetween spec'.changedBetween
  spatial : spec.spatial.Sublist spec'.spatial
  graph : Supplied spec.graph spec'.graph

end Added

section Conditions

def Condition.passes (condition : Condition) : Bool := !condition.present || condition.met

/-- The second condition is there if the first one is, and what passes it passes the first one. -/
def Stronger (old new : Condition) : Prop :=
  (old.present = true → new.present = true) ∧ (new.passes = true → old.passes = true)

/-- What passes all conditions of the second list passes those of the first, and no fewer of them are there. -/
def StrongerAll (old new : List Condition) : Prop :=
  (new.all Condition.passes = true → old.all Condition.passes = true) ∧ old.countP Condition.present ≤ new.countP Condition.present

theorem Stronger.refl (condition : Condition) : Stronger condition condition := ⟨id, id⟩

theorem Stronger.of_absent {old new : Condition} (h : old.present = false) : Stronger old new := by
  constructor
  · intro hpresent
    rw [h] at hpresent
    cases hpresent
  · intro _
    rw [Condition.passes, h]
    rfl

theorem StrongerAll.nil : StrongerAll [] [] := ⟨id, le_refl _⟩

theorem StrongerAll.cons {old new : Condition} {olds news : List Condition} (h : Stronger old new) (hs : StrongerAll olds news) :
    StrongerAll (old :: olds) (new :: news) := by
  constructor
  · intro hall
    rw [List.all_cons, Bool.and_eq_true] at hall ⊢
    exact ⟨h.2 hall.1, hs.1 hall.2⟩
  · rw [List.countP_cons, List.countP_cons]
    refine Nat.add_le_add hs.2 ?_
    by_cases hold : old.present = true
    · rw [if_pos hold, if_pos (h.1 hold)]
    · rw [if_neg hold]
      exact Nat.zero_le _

theorem StrongerAll.append {olds news olds' news' : List Condition} (h : StrongerAll olds news) (h' : StrongerAll olds' news') :
    StrongerAll (olds ++ olds') (news ++ news') := by
  constructor
  · intro hall
    rw [List.all_append, Bool.and_eq_true] at hall ⊢
    exact ⟨h.1 hall.1, h'.1 hall.2⟩
  · rw [List.countP_append, List.countP_append]
    exact Nat.add_le_add h.2 h'.2

theorem StrongerAll.of_sublist {olds news : List Condition} (h : olds.Sublist news) : StrongerAll olds news := by
  refine ⟨?_, h.countP_le⟩
  intro hall
  rw [List.all_eq_true] at hall ⊢
  exact fun condition hcondition => hall condition (h.subset hcondition)

theorem Stronger.oneOf {α : Type} [DecidableEq α] {old new : List α} (h : Chosen old new) (column : Option α) (reason : String) :
    Stronger (oneOf old column reason) (oneOf new column reason) := by
  rcases h with rfl | rfl
  · exact .of_absent rfl
  · exact .refl _

theorem Stronger.supplied {α : Type} {old new : Option α} (h : Supplied old new) (met : α → Bool) (reason : String) :
    Stronger ⟨old.isSome, old.all met, reason⟩ ⟨new.isSome, new.all met, reason⟩ := by
  rcases h with rfl | rfl
  · exact .of_absent rfl
  · exact .refl _

end Conditions

section Matching
variable {svc : SearchService K} {spec spec' : SearchQuerySpec K} {row : SearchDocumentRow K}

theorem queryTerms_of_added (h : AddsFilters spec spec') : svc.queryTerms spec' = svc.queryTerms spec := by
  rw [queryTerms, queryTerms, h.fullText]

theorem stronger_tags (h : AddsFilters spec spec') (row : SearchDocumentRow K) :
    Stronger ⟨spec.tags ≠ [], (spec.tags.map svc.lower).all fun tag => tag ∈ row.tagsJson, "tags"⟩
      ⟨spec'.tags ≠ [], (spec'.tags.map svc.lower).all fun tag => tag ∈ row.tagsJson, "tags"⟩ := by
  have hnil : spec'.tags = [] → spec.tags = [] := fun hnil => List.subset_nil.mp (hnil ▸ h.tags)
  constructor
  · intro hpresent
    exact decide_eq_true (mt hnil (of_decide_eq_true hpresent))
  · intro hpasses
    rw [Condition.passes, Bool.or_eq_true] at hpasses ⊢
    rcases hpasses with habsent | hmet
    · left
      have hempty : spec'.tags = [] := by simpa using habsent
      simp [hnil hempty]
    · right
      rw [List.all_eq_true] at hmet ⊢
      exact fun tag htag => hmet tag (List.map_subset svc.lower h.tags htag)

theorem stronger_sceneCommit (h : AddsFilters spec spec') (row : SearchDocumentRow K) :
    Stronger ⟨(given spec.sceneCommitId).isSome, row.sceneCommitId = spec.sceneCommitId, "scene_commit"⟩
      ⟨(given spec'.sceneCommitId).isSome, row.sceneCommitId = spec'.sceneCommitId, "scene_commit"⟩ := by
  rcases h.sceneCommitId with hnone | hsame
  · refine .of_absent ?_
    rw [hnone]
    rfl
  · rw [hsame]
    exact .refl _

theorem stronger_evidence (h : AddsFilters spec spec') (row : SearchDocumentRow K) :
    Stronger ⟨spec.evidenceIds ≠ [], intersects spec.evidenceIds row.evidenceIdsJson, "evidence"⟩
      ⟨spec'.evidenceIds ≠ [], intersects spec'.evidenceIds row.evidenceIdsJson, "evidence"⟩ := by
  rcases h.evidenceIds with hnone | hsame
  · rw [hnone]
    exact .of_absent rfl
  · rw [hsame]
    exact .refl _

/-- Condition by condition, the specification with further filters is the stronger one. -/
theorem strongerAll_conditions (h : AddsFilters spec spec') (row : SearchDocumentRow K) :
    StrongerAll (svc.conditions row spec) (svc.conditions row spec') := by
  refine .append (.append ?_ ?_) (.cons (.supplied h.graph _ _) .nil)
  · rw [queryTerms_of_added h, h.embedding, h.embeddingModelManifestId]
    exact .cons (.oneOf h.entityTypes _ _) (.cons (.oneOf h.floorIds _ _) (.cons (.oneOf h.roomIds _ _)
      (.cons (.oneOf h.sourceClasses _ _) (.cons (.oneOf h.authorityClasses _ _) (.cons (.supplied h.minimumConfidence _ _)
      (.cons (stronger_tags h row) (.cons (.oneOf h.workflowStatuses _ _) (.cons (stronger_evidence h row)
      (.cons (stronger_sceneCommit h row) (.cons (.refl _) (.cons (.refl _) (.cons (.supplied h.temporalInterval _ _)
      (.cons (.supplied h.changedBetween _ _) .nil)))))))))))))
  · exact .of_sublist (h.spatial.map _)

theorem matches_eq_some_iff {reasons : List String} : svc.matches row spec = some reasons ↔
    (svc.conditions row spec).all Condition.passes = true ∧
      reasons = ((svc.conditions row spec).filter Condition.present).map Condition.reason := by
  unfold «matches»
  simp only
  split
  next hall =>
    constructor
    · intro h
      exact ⟨hall, (Option.some.inj h).symm⟩
    · rintro ⟨_, rfl⟩
      rfl
  next hnot =>
    constructor
    · intro h
      cases h
    · rintro ⟨hall, _⟩
      exact absurd hall hnot

/-- A document that meets all conditions of the stronger specification meets those of the weaker one, for no more reasons. -/
theorem matches_of_added (h : AddsFilters spec spec') {reasons' : List String} (hmatch : svc.matches row spec' = some reasons') :
    ∃ reasons, svc.matches row spec = some reasons ∧ reasons.length ≤ reasons'.length := by
  obtain ⟨hall, rfl⟩ := matches_eq_some_iff.mp hmatch
  have hstronger : StrongerAll (svc.conditions row spec) (svc.conditions row spec') := strongerAll_conditions h row
  obtain ⟨hpasses, hcount⟩ := hstronger
  refine ⟨_, matches_eq_some_iff.mpr ⟨hpasses hall, rfl⟩, ?_⟩
  rwa [List.length_map, List.length_map, ← List.countP_eq_length_filter, ← List.countP_eq_length_filter]

end Matching

section Scores
variable [IsStrictOrderedRing K] {svc : SearchService K} {spec spec' : SearchQuerySpec K} {row : SearchDocumentRow K}

theorem structured_mono {reasons reasons' : List String} (h : reasons.length ≤ reasons'.length) :
    (structured reasons : K) ≤ structured reasons' := by
  have hcast : (reasons.length : K) ≤ reasons'.length := Nat.cast_le.mpr h
  exact min_le_min (le_refl _) (mul_le_mul_of_nonneg_left hcast (by norm_num))

theorem structured_nonneg (reasons : List String) : (0 : K) ≤ structured reasons :=
  le_min zero_le_one (mul_nonneg (by norm_num) (Nat.cast_nonneg _))

theorem structured_pos {reasons : List String} (h : reasons ≠ []) : (0 : K) < structured reasons := by
  have hlength : (0 : K) < reasons.length := Nat.cast_pos.mpr (List.length_pos_iff.mpr h)
  exact lt_min zero_lt_one (mul_pos (by norm_num) hlength)

omit [IsStrictOrderedRing K] in
theorem foldl_max_nonneg (counts : List K) {start : K} (h : 0 ≤ start) : 0 ≤ counts.foldl max start := by
  induction counts generalizing start with
  | nil => exact h
  | cons count counts ih => exact ih (h.trans (le_max_left _ _))

theorem bestMatch_nonneg (documentTerms : List String) (query : String) : (0 : K) ≤ bestMatch documentTerms query := by
  unfold bestMatch
  split
  · exact zero_le_one
  · exact foldl_max_nonneg _ (le_refl _)

theorem lexicalScore_nonneg (queryTerms documentTerms : List String) : (0 : K) ≤ lexicalScore queryTerms documentTerms := by
  unfold lexicalScore
  split
  · exact le_refl _
  · refine div_nonneg (List.sum_nonneg ?_) (Nat.cast_nonneg _)
    intro count hcount
    obtain ⟨query, _, rfl⟩ := List.mem_map.mp hcount
    exact bestMatch_nonneg documentTerms query

omit [IsStrictOrderedRing K] in
theorem contentScore_of_added (h : AddsFilters spec spec') : svc.contentScore row spec' = svc.contentScore row spec := by
  rw [contentScore, contentScore, queryTerms_of_added h, vectorScore, vectorScore, h.embedding, h.embeddingModelManifestId]

omit [IsStrictOrderedRing K] in
theorem score_of_unscored (h : svc.Unscored spec) (reasons : List String) :
    svc.score row spec reasons = max (10 / 100) (structured reasons) := if_pos h

omit [IsStrictOrderedRing K] in
theorem score_of_scored (h : ¬ svc.Unscored spec) (reasons : List String) :
    svc.score row spec reasons = svc.contentScore row spec + structured reasons * (15 / 100) := if_neg h

omit [IsStrictOrderedRing K] in
/-- Terms and an embedding are reasons themselves. -/
theorem unscored_of_no_reasons (h : svc.matches row spec = some []) : svc.Unscored spec := by
  obtain ⟨_, hreasons⟩ := matches_eq_some_iff.mp h
  have habsent : ∀ condition ∈ svc.conditions row spec, ¬ condition.present = true :=
    List.filter_eq_nil_iff.mp (List.map_eq_nil_iff.mp hreasons.symm)
  have hterms := habsent ⟨svc.queryTerms spec ≠ [], 0 < (lexicalScore (svc.queryTerms spec) row.termsJson : K), "full_text"⟩
    (by simp [conditions])
  have hembedding := habsent ⟨spec.embedding.isSome,
    row.embeddingModelManifestId = spec.embeddingModelManifestId ∧ row.embeddingJson ≠ none, "semantic"⟩ (by simp [conditions])
  exact ⟨by simpa using hterms, by simpa using hembedding⟩

theorem score_pos_of_unscored (h : svc.Unscored spec) (reasons : List String) : 0 < svc.score row spec reasons := by
  rw [score_of_unscored h]
  exact lt_max_of_lt_left (by norm_num)

end Scores

section Shrinking
variable [IsStrictOrderedRing K] {svc : SearchService K} {spec spec' : SearchQuerySpec K} {row : SearchDocumentRow K}
  {db : Table (SearchDocumentRow K) fun row => row.documentId} {principal : SignedPrincipal}

/-- The query finds the document, before its limit is applied. -/
def Matched (svc : SearchService K) (db : Table (SearchDocumentRow K) fun row => row.documentId) (principal : SignedPrincipal)
    (spec : SearchQuerySpec K) (row : SearchDocumentRow K) : Prop :=
  ∃ ranked, svc.matchedDocuments db principal spec = .ok ranked ∧ row ∈ ranked.map Ranked.row

/-- The query looks at the document: it is authorized, and fresh if the workflow is critical. -/
def Searched (db : Table (SearchDocumentRow K) fun row => row.documentId) (principal : SignedPrincipal)
    (spec : SearchQuerySpec K) (row : SearchDocumentRow K) : Prop :=
  (∃ admitted, authorizedDocuments db principal spec = .ok admitted ∧ row ∈ admitted) ∧
    ¬ (fresh row = false ∧ spec.criticalWorkflow = true)

omit [IsStrictOrderedRing K] in
theorem rankRow_isSome_iff : (svc.rankRow spec row).isSome = true ↔ ¬ (fresh row = false ∧ spec.criticalWorkflow = true) ∧
    ∃ reasons, svc.matches row spec = some reasons ∧ 0 < svc.score row spec reasons := by
  unfold rankRow
  by_cases hstale : fresh row = false ∧ spec.criticalWorkflow = true
  · rw [if_pos hstale]
    exact iff_of_false (by simp) fun h => h.1 hstale
  · rw [if_neg hstale]
    cases hmatch : svc.matches row spec with
    | none => simp
    | some reasons =>
      by_cases hscore : 0 < svc.score row spec reasons
      · simp [hstale, hscore]
      · simp [hscore]

omit [IsStrictOrderedRing K] in
theorem rankRow_row {entry : Ranked K} (h : svc.rankRow spec row = some entry) : entry.row = row := by
  unfold rankRow at h
  split at h
  · cases h
  · split at h
    · cases h
    · split at h
      · cases h
        rfl
      · cases h

omit [IsStrictOrderedRing K] in
/-- The documents that are found, in the order they are looked at. -/
theorem map_row_filterMap (rows : List (SearchDocumentRow K)) :
    (rows.filterMap (svc.rankRow spec)).map Ranked.row = rows.filter fun row => (svc.rankRow spec row).isSome := by
  induction rows with
  | nil => rfl
  | cons row rows ih =>
    cases hrank : svc.rankRow spec row with
    | none => rw [List.filterMap_cons_none hrank, ih, List.filter_cons_of_neg (by simp [hrank])]
    | some entry =>
      rw [List.filterMap_cons_some hrank, List.map_cons, ih, rankRow_row hrank, List.filter_cons_of_pos (by simp [hrank])]

omit [IsStrictOrderedRing K] in
theorem matched_iff : svc.Matched db principal spec row ↔ Searched db principal spec row ∧
    ∃ reasons, svc.matches row spec = some reasons ∧ 0 < svc.score row spec reasons := by
  simp only [Matched, matchedDocuments, bind_eq_ok]
  constructor
  · rintro ⟨ranked, ⟨admitted, hadmitted, h⟩, hrow⟩
    cases h
    obtain ⟨entry, hentry, rfl⟩ := List.mem_map.mp hrow
    obtain ⟨source, hsource, hrank⟩ := List.mem_filterMap.mp hentry
    obtain rfl := rankRow_row hrank
    obtain ⟨hfresh, hscore⟩ := rankRow_isSome_iff.mp (Option.isSome_of_mem hrank)
    exact ⟨⟨⟨admitted, hadmitted, hsource⟩, hfresh⟩, hscore⟩
  · rintro ⟨⟨⟨admitted, hadmitted, hrow⟩, hfresh⟩, hscore⟩
    obtain ⟨entry, hentry⟩ := Option.isSome_iff_exists.mp (rankRow_isSome_iff.mpr ⟨hfresh, hscore⟩)
    refine ⟨_, ⟨admitted, hadmitted, rfl⟩, List.mem_map.mpr ⟨entry, ?_, rankRow_row hentry⟩⟩
    exact List.mem_filterMap.mpr ⟨row, hrow, hentry⟩

omit [IsStrictOrderedRing K] in
theorem searched_of_added (h : AddsFilters spec spec') :
    Searched db principal spec' row ↔ Searched db principal spec row := by
  have hauthorized : authorizedDocuments db principal spec' = authorizedDocuments db principal spec := by
    simp only [authorizedDocuments, projectDocuments, authorized, h.tenantId, h.projectId, h.purpose]
  rw [Searched, Searched, hauthorized, h.criticalWorkflow]

omit [IsStrictOrderedRing K] in
theorem unscored_of_added (h : AddsFilters spec spec') : svc.Unscored spec' ↔ svc.Unscored spec := by
  rw [Unscored, Unscored, queryTerms_of_added h, h.embedding]

theorem newly_matched_iff (h : AddsFilters spec spec') :
    svc.Matched db principal spec' row ∧ ¬ svc.Matched db principal spec row ↔
      Searched db principal spec row ∧ svc.Lifted spec spec' row := by
  rw [matched_iff, matched_iff, searched_of_added h]
  constructor
  · rintro ⟨⟨hsearched, reasons', hmatch', hscore'⟩, hnot⟩
    obtain ⟨reasons, hmatch, _⟩ := matches_of_added h hmatch'
    have hle : svc.score row spec reasons ≤ 0 := not_lt.mp fun hlt => hnot ⟨hsearched, reasons, hmatch, hlt⟩
    have hscored : ¬ svc.Unscored spec := fun hun => (score_pos_of_unscored hun reasons).not_ge hle
    rw [score_of_scored hscored] at hle
    rw [score_of_scored (mt (unscored_of_added h).mp hscored), contentScore_of_added h] at hscore'
    exact ⟨hsearched, hscored, reasons, reasons', hmatch, hmatch', hle, hscore'⟩
  · rintro ⟨hsearched, hscored, reasons, reasons', hmatch, hmatch', hle, hlt⟩
    refine ⟨⟨hsearched, reasons', hmatch', ?_⟩, ?_⟩
    · rwa [score_of_scored (mt (unscored_of_added h).mp hscored), contentScore_of_added h]
    · rintro ⟨_, other, hother, hpos⟩
      cases hmatch.symm.trans hother
      rw [score_of_scored hscored] at hpos
      exact hpos.not_ge hle

/-- Only a document whose embedding points away from that of the query can be lifted. -/
theorem not_lifted_of_vectorScore (hvector : 0 ≤ svc.vectorScore row spec) : ¬ svc.Lifted spec spec' row := by
  rintro ⟨hscored, reasons, reasons', hmatch, _, hle, _⟩
  have hlexical : (0 : K) ≤ lexicalScore (svc.queryTerms spec) row.termsJson := lexicalScore_nonneg _ _
  have hcontent : 0 ≤ svc.contentScore row spec :=
    add_nonneg (mul_nonneg hlexical (by norm_num)) (mul_nonneg hvector (by norm_num))
  have hreasons : reasons ≠ [] := by
    rintro rfl
    exact hscored (unscored_of_no_reasons hmatch)
  have hpos : (0 : K) < structured reasons * (15 / 100) := mul_pos (structured_pos hreasons) (by norm_num)
  exact (add_pos_of_nonneg_of_pos hcontent hpos).not_ge hle

/-- With further filters a query finds a document that it did not find without them if and only if they lift it, and
they lift no document whose embedding does not point away from that of the query. -/
theorem added_filters_match_iff (svc : SearchService K) (db : Table (SearchDocumentRow K) fun row => row.documentId)
    (principal : SignedPrincipal) (h : AddsFilters spec spec') (row : SearchDocumentRow K) :
    (svc.Matched db principal spec' row ∧ ¬ svc.Matched db principal spec row ↔
      Searched db principal spec row ∧ svc.Lifted spec spec' row) ∧
    (0 ≤ svc.vectorScore row spec → ¬ svc.Lifted spec spec' row) :=
  ⟨newly_matched_iff h, not_lifted_of_vectorScore⟩

end Shrinking

section Sample

/-- Rational numbers with square roots of squares; texts have no tokens. -/
def plainSearch : SearchService ℚ where
  tokenize _ := []
  split _ := []
  lower text := text
  root := Rat.sqrt
  pi := 355 / 113
  float _ := .zero
  tokenize_empty := rfl

/-- A document whose embedding points a little away from the first axis. -/
def backwardDocument : SearchDocumentRow ℚ where
  documentId := "d1"
  tenantId := "t1"
  projectId := "p1"
  embeddingJson := some [-21, 220]
  embeddingModelManifestId := some "m1"
  roomId := some "kitchen"
  temporal_ordered := untimed_ordered

def backwardDb : Table (SearchDocumentRow ℚ) (fun row => row.documentId) := ⟨[backwardDocument], by decide⟩

def viewer : SignedPrincipal where
  subjectId := "ana"
  tenantId := "t1"
  projectIds := ["p1"]

def forwardQuery : SearchQuerySpec ℚ where
  tenantId := "t1"
  projectId := "p1"
  embedding := some [1, 0]
  embeddingModelManifestId := some "m1"

def kitchenQuery : SearchQuerySpec ℚ := { forwardQuery with roomIds := ["kitchen"] }

theorem kitchenQuery_adds : AddsFilters forwardQuery kitchenQuery := by
  constructor <;> first | exact Or.inl rfl | exact Or.inr rfl | rfl | simp [kitchenQuery, forwardQuery]

theorem cosine_backward : plainSearch.cosine [1, 0] [-21, 220] = -21 / 221 := by
  have hnorm : Nat.sqrt 48841 = 221 := Nat.sqrt_eq 221
  rw [cosine, if_neg (by simp)]
  norm_num [plainSearch, hnorm]

theorem lifted_backward : plainSearch.Lifted forwardQuery kitchenQuery backwardDocument := by
  have hcontent : plainSearch.contentScore backwardDocument forwardQuery = -21 / 221 * (35 / 100) := by
    have hvector : plainSearch.vectorScore backwardDocument forwardQuery = plainSearch.cosine [1, 0] [-21, 220] := rfl
    rw [contentScore, hvector, cosine_backward]
    norm_num [lexicalScore, queryTerms, plainSearch]
  refine ⟨fun h => absurd h.2 (by decide), ["semantic"], ["room", "semantic"], rfl, rfl, ?_, ?_⟩
  · rw [hcontent]
    norm_num [structured]
  · rw [hcontent]
    norm_num [structured]

theorem searched_backward : Searched backwardDb viewer forwardQuery backwardDocument := by
  refine ⟨⟨[backwardDocument], ?_, List.mem_singleton_self _⟩, fun h => absurd h.2 (by decide)⟩
  rfl

/-- Asking for the kitchen as well finds a document of the kitchen that was not found before. -/
theorem room_filter_lifts_document : ¬ ∀ spec spec' : SearchQuerySpec ℚ, AddsFilters spec spec' → ∀ row,
    plainSearch.Matched backwardDb viewer spec' row → plainSearch.Matched backwardDb viewer spec row := by
  intro h
  obtain ⟨hfound, hnot⟩ := (newly_matched_iff kitchenQuery_adds).mpr ⟨searched_backward, lifted_backward⟩
  exact hnot (h forwardQuery kitchenQuery kitchenQuery_adds backwardDocument hfound)

theorem added_filters_match_iff_kitchen : plainSearch.Matched backwardDb viewer kitchenQuery backwardDocument ∧
    ¬ plainSearch.Matched backwardDb viewer forwardQuery backwardDocument :=
  (added_filters_match_iff plainSearch backwardDb viewer kitchenQuery_adds backwardDocument).1.mpr
    ⟨searched_backward, lifted_backward⟩

end Sample

end SearchService

end Sip
