import Mathlib.Analysis.SpecialFunctions.Sqrt
import Sip.Search.Filters

/-!
# What the conditions of a query mean

Bounds stand for the points between them, intervals for the times in them, and the direction of a graph condition
for the end of a relationship that a start entity stands at. A query tests all of this but the direction.
-/

namespace Sip

set_option autoImplicit false

namespace SearchService
variable {K : Type} [Field K] [LinearOrder K]

section Meaning

/-- The document and the interval have a time in common; a document without a start or an end is open there. -/
def Overlaps (row : SearchDocumentRow K) (interval : TemporalInterval) : Prop :=
  ∃ time, (∀ s ∈ row.temporalStart, s ≤ time) ∧ (∀ e ∈ row.temporalEnd, time ≤ e) ∧ interval.start ≤ time ∧ time ≤ interval.end

/-- The document has bounds in the frame of the predicate, and their points meet it. -/
def InFrame (row : SearchDocumentRow K) (predicate : SpatialPredicate K) (holds : Box (Fin 3) K → Prop) : Prop :=
  ∃ bounds ∈ row.spatialBoundsJson, row.spatialFrameId = predicate.frameId ∧ holds bounds

def SatisfiesPredicate (row : SearchDocumentRow K) (predicate : SpatialPredicate K) : Prop :=
  match predicate.operator with
  | .onLevel => row.floorId = predicate.levelId
  | .within => InFrame row predicate fun bounds => ∃ outer ∈ predicate.bounds, bounds.points ⊆ outer.points
  | .intersects => InFrame row predicate fun bounds => ∃ other ∈ predicate.bounds, (bounds.points ∩ other.points).Nonempty
  | .near => InFrame row predicate fun bounds => ∃ point ∈ predicate.point, ∃ distance ∈ predicate.distanceM,
    ∃ nearest ∈ bounds.points, Box.squaredDistance point nearest ≤ distance ^ 2
  | .visibleFrom => InFrame row predicate fun _ =>
    (∀ observer ∈ given predicate.observerEntityId, observer ∈ row.policyJson.visibleFromEntityIds) ∧
      (predicate.point.isSome = true → row.policyJson.visibilityPrecomputed = true)

/-- A start entity stands at the end of the relationship that the direction names; without a direction it may also be the
entity of the document. -/
def StartsAt (row : SearchDocumentRow K) (graph : GraphTraversal) (relationship : Relationship) : Prop :=
  match graph.direction with
  | .outbound => ∃ source ∈ relationship.sourceId, source ∈ graph.startEntityIds
  | .inbound => ∃ target ∈ relationship.targetId, target ∈ graph.startEntityIds
  | .either => (∃ source ∈ relationship.sourceId, source ∈ graph.startEntityIds) ∨
    (∃ target ∈ relationship.targetId, target ∈ graph.startEntityIds) ∨
    ∃ entity ∈ row.entityId, entity ∈ graph.startEntityIds

def SatisfiesGraph (row : SearchDocumentRow K) (graph : GraphTraversal) : Prop :=
  ∃ relationship ∈ row.relationshipsJson, relationship.type ∈ graph.relationshipTypes ∧
    relationship.depth ≤ graph.maxDepth ∧ StartsAt row graph relationship

/-- Where there are alternatives, the value is one of them. -/
def IsOneOf {α : Type} (alternatives : List α) (column : Option α) : Prop :=
  alternatives ≠ [] → ∃ value ∈ column, value ∈ alternatives

/-- The document satisfies every condition of a specification without full text and embedding. -/
structure Satisfies (svc : SearchService K) (row : SearchDocumentRow K) (spec : SearchQuerySpec K) : Prop where
  entityType : IsOneOf spec.entityTypes row.entityType
  floor : IsOneOf spec.floorIds row.floorId
  room : IsOneOf spec.roomIds row.roomId
  sourceClass : IsOneOf spec.sourceClasses (some row.sourceClass)
  authorityClass : IsOneOf spec.authorityClasses (some row.authorityClass)
  confidence : ∀ minimum ∈ spec.minimumConfidence, minimum ≤ row.confidence
  tags : ∀ tag ∈ spec.tags, svc.lower tag ∈ row.tagsJson
  workflowStatus : IsOneOf spec.workflowStatuses row.workflowStatus
  evidence : spec.evidenceIds ≠ [] → ∃ evidence ∈ spec.evidenceIds, evidence ∈ row.evidenceIdsJson
  sceneCommit : (given spec.sceneCommitId).isSome = true → row.sceneCommitId = spec.sceneCommitId
  temporalInterval : ∀ interval ∈ spec.temporalInterval, Overlaps row interval
  changedBetween : ∀ interval ∈ spec.changedBetween, Overlaps row interval
  spatial : ∀ predicate ∈ spec.spatial, SatisfiesPredicate row predicate
  graph : ∀ graph ∈ spec.graph, SatisfiesGraph row graph

/-- The specification with a graph condition that leaves the direction open. -/
def undirected (spec : SearchQuerySpec K) : SearchQuerySpec K :=
  { spec with graph := spec.graph.map fun graph => { graph with direction := .either } }

end Meaning

section Agreement
variable {row : SearchDocumentRow K}

theorem temporalOverlap_iff (interval : TemporalInterval) : temporalOverlap row interval = true ↔ Overlaps row interval := by
  unfold temporalOverlap Overlaps
  rw [decide_eq_true_iff]
  constructor
  · rintro ⟨hstart, hend⟩
    cases hs : row.temporalStart with
    | none =>
      refine ⟨interval.start, by simp, ?_, le_refl _, interval.ordered⟩
      intro e he
      rw [he] at hend
      exact hend
    | some s =>
      rw [hs] at hstart
      have hse : s ≤ interval.end := hstart
      refine ⟨max s interval.start, ?_, ?_, le_max_right _ _, max_le hse interval.ordered⟩
      · intro s' hs'
        cases hs'
        exact le_max_left _ _
      · intro e he
        rw [he] at hend
        exact max_le (row.temporal_ordered s hs e he) hend
  · rintro ⟨time, hstart, hend, hfrom, hto⟩
    constructor
    · cases hs : row.temporalStart with
      | none => exact interval.end.property.1
      | some s => exact (hstart s hs).trans hto
    · cases he : row.temporalEnd with
      | none => exact interval.start.property.2
      | some e => exact hfrom.trans (hend e he)

/-- What `math.sqrt` does in exact arithmetic. -/
def ExactRoot (root : K → K) : Prop := ∀ x d, 0 ≤ x → 0 ≤ d → (root x ≤ d ↔ x ≤ d ^ 2)

theorem inFrame_iff {predicate : SpatialPredicate K} {holds : Box (Fin 3) K → Prop} {test : Box (Fin 3) K → Bool}
    (h : ∀ bounds, test bounds = true ↔ holds bounds) :
    (row.spatialBoundsJson.any fun bounds => row.spatialFrameId = predicate.frameId && test bounds) = true ↔
      InFrame row predicate holds := by
  rw [InFrame, Option.any_eq_true]
  simp only [Bool.and_eq_true, decide_eq_true_eq, h]
  rfl

variable [IsStrictOrderedRing K] {svc : SearchService K}

theorem near_iff (hroot : ExactRoot svc.root) (point : Fin 3 → K) (bounds : Box (Fin 3) K) {distance : K} (h : 0 ≤ distance) :
    svc.root (Box.squaredGap point bounds) ≤ distance ↔
      ∃ nearest ∈ bounds.points, Box.squaredDistance point nearest ≤ distance ^ 2 := by
  rw [hroot _ _ (Box.squaredGap_nonneg point bounds) h, Box.exists_near_iff]

theorem spatialMatch_iff (hroot : ExactRoot svc.root) (predicate : SpatialPredicate K) :
    svc.spatialMatch row predicate = true ↔ SatisfiesPredicate row predicate := by
  unfold spatialMatch SatisfiesPredicate
  cases hop : predicate.operator with
  | onLevel => exact decide_eq_true_iff
  | within =>
    refine inFrame_iff fun bounds => ?_
    simp only [Option.any_eq_true, decide_eq_true_eq, Box.subset_iff, Option.mem_def]
  | intersects =>
    refine inFrame_iff fun bounds => ?_
    simp only [Option.any_eq_true, decide_eq_true_eq, Box.meets_iff, Option.mem_def]
  | near =>
    refine inFrame_iff fun bounds => ?_
    simp only [Option.any_eq_true, decide_eq_true_eq, Option.mem_def]
    refine exists_congr fun point => and_congr_right fun _ => exists_congr fun distance => and_congr_right fun hdistance => ?_
    exact near_iff hroot point bounds (predicate.distance_nonneg distance hdistance)
  | visibleFrom =>
    refine inFrame_iff fun bounds => ?_
    rw [Bool.and_eq_true, Bool.or_eq_true, Option.all_eq_true]
    simp only [decide_eq_true_eq, Option.isNone_iff_eq_none, Option.isSome_iff_ne_none, Option.mem_def]
    exact and_congr_right fun _ => or_iff_not_imp_left

omit [IsStrictOrderedRing K] in
theorem graphMatch_iff (graph : GraphTraversal) : row.relationshipsJson.any (relationshipMatch row graph) = true ↔
    SatisfiesGraph row { graph with direction := .either } := by
  simp only [List.any_eq_true, SatisfiesGraph, relationshipMatch, decide_eq_true_eq]
  rfl

theorem passes_iff (present met : Bool) (reason : String) :
    (⟨present, met, reason⟩ : Condition).passes = true ↔ (present = true → met = true) := by
  cases present <;> simp [Condition.passes]

theorem passes_oneOf_iff {α : Type} [DecidableEq α] (alternatives : List α) (column : Option α) (reason : String) :
    (oneOf alternatives column reason).passes = true ↔ IsOneOf alternatives column := by
  rw [oneOf, passes_iff, decide_eq_true_iff, Option.any_eq_true]
  simp only [decide_eq_true_eq]
  rfl

theorem passes_supplied_iff {α : Type} (value : Option α) (met : α → Bool) (reason : String) :
    (⟨value.isSome, value.all met, reason⟩ : Condition).passes = true ↔ ∀ a ∈ value, met a = true := by
  rw [passes_iff, Option.all_eq_true]
  cases value with
  | none => simp
  | some a => simp

omit [IsStrictOrderedRing K] in
theorem passes_tags_iff (spec : SearchQuerySpec K) :
    (⟨spec.tags ≠ [], (spec.tags.map svc.lower).all fun tag => tag ∈ row.tagsJson, "tags"⟩ : Condition).passes = true ↔
      ∀ tag ∈ spec.tags, svc.lower tag ∈ row.tagsJson := by
  rw [passes_iff, decide_eq_true_iff, List.all_map, List.all_eq_true]
  simp only [Function.comp_apply, decide_eq_true_eq]
  constructor
  · intro h tag htag
    exact h (List.ne_nil_of_mem htag) tag htag
  · intro h _
    exact h

theorem intersects_iff {xs ys : List String} : intersects xs ys = true ↔ ∃ x ∈ xs, x ∈ ys := by
  simp only [intersects, List.any_eq_true, decide_eq_true_eq]

/-- What a query without full text and embedding tests is what its specification means, the direction apart. -/
theorem passes_conditions_iff (hroot : ExactRoot svc.root) {spec : SearchQuerySpec K} (htext : spec.fullText = none)
    (hembedding : spec.embedding = none) :
    (svc.conditions row spec).all Condition.passes = true ↔ svc.Satisfies row (undirected spec) := by
  have hterms : svc.queryTerms spec = [] := by
    rw [queryTerms, htext, Option.getD_none, svc.tokenize_empty]
    rfl
  simp only [conditions, List.all_append, List.all_cons, List.all_nil, Bool.and_eq_true, passes_oneOf_iff,
    passes_supplied_iff, passes_tags_iff]
  simp only [List.all_map, List.all_eq_true, Function.comp_apply, passes_iff, hterms, hembedding, ne_eq, not_true_eq_false, decide_false, Bool.false_eq_true, false_imp_iff,
    Option.isSome_none, forall_const, decide_eq_true_eq, intersects_iff, temporalOverlap_iff, spatialMatch_iff hroot,
    graphMatch_iff, and_true, true_and]
  constructor
  · rintro ⟨⟨⟨h1, h2, h3, h4, h5, h6, h7, h8, h9, h10, h11, h12⟩, hspatial⟩, hgraph⟩
    refine ⟨h1, h2, h3, h4, h5, h6, h7, h8, h9, h10, h11, h12, hspatial, ?_⟩
    intro graph hgraph'
    obtain ⟨directed, hdirected, rfl⟩ := Option.mem_map.mp hgraph'
    exact hgraph directed hdirected
  · intro h
    refine ⟨⟨⟨h.entityType, h.floor, h.room, h.sourceClass, h.authorityClass, h.confidence, h.tags, h.workflowStatus, h.evidence,
      h.sceneCommit, h.temporalInterval, h.changedBetween⟩, h.spatial⟩, ?_⟩
    intro graph hgraph
    exact h.graph _ (Option.mem_map_of_mem _ hgraph)

omit [IsStrictOrderedRing K] in
/-- A condition with a direction is the stronger one. -/
theorem Satisfies.undirected {spec : SearchQuerySpec K} (h : svc.Satisfies row spec) : svc.Satisfies row (undirected spec) := by
  refine ⟨h.entityType, h.floor, h.room, h.sourceClass, h.authorityClass, h.confidence, h.tags, h.workflowStatus, h.evidence,
    h.sceneCommit, h.temporalInterval, h.changedBetween, h.spatial, ?_⟩
  intro graph hgraph
  obtain ⟨directed, hdirected, rfl⟩ := Option.mem_map.mp hgraph
  obtain ⟨relationship, hrelationship, htype, hdepth, hstart⟩ := h.graph directed hdirected
  refine ⟨relationship, hrelationship, htype, hdepth, ?_⟩
  unfold StartsAt at hstart ⊢
  cases hdirection : directed.direction with
  | outbound =>
    rw [hdirection] at hstart
    exact Or.inl hstart
  | inbound =>
    rw [hdirection] at hstart
    exact Or.inr (Or.inl hstart)
  | either =>
    rw [hdirection] at hstart
    exact hstart

end Agreement

section Results
variable {svc : SearchService K} {db : Table (SearchDocumentRow K) fun row => row.documentId} {principal : SignedPrincipal}
  {spec : SearchQuerySpec K} {row : SearchDocumentRow K} {elapsed : SearchDocumentRow K → Nat} {result : SearchResult K}

def reasonsOf (svc : SearchService K) (row : SearchDocumentRow K) (spec : SearchQuerySpec K) : List String :=
  ((svc.conditions row spec).filter Condition.present).map Condition.reason

/-- Higher scores come first, and documents of one score by their identifiers. -/
def rankKey (svc : SearchService K) (spec : SearchQuerySpec K) (row : SearchDocumentRow K) : Lex (K × String) :=
  toLex (-svc.score row spec (svc.reasonsOf row spec), row.documentId)

open Classical in
/-- The documents that the specification asks for. -/
noncomputable def eligibleDocuments (svc : SearchService K) (db : Table (SearchDocumentRow K) fun row => row.documentId)
    (principal : SignedPrincipal) (spec : SearchQuerySpec K) : List (SearchDocumentRow K) :=
  (projectDocuments db spec).filter fun row => Searched db principal spec row ∧ svc.Satisfies row spec

theorem mem_eligibleDocuments_iff {svc : SearchService K} {db : Table (SearchDocumentRow K) fun row => row.documentId}
    {principal : SignedPrincipal} {spec : SearchQuerySpec K} {row : SearchDocumentRow K} :
    row ∈ svc.eligibleDocuments db principal spec ↔
      row ∈ projectDocuments db spec ∧ Searched db principal spec row ∧ svc.Satisfies row spec := by
  simp only [eligibleDocuments, List.mem_filter, decide_eq_true_eq]

/-- The document satisfies the specification but for the direction of the graph condition. -/
def Stray (svc : SearchService K) (db : Table (SearchDocumentRow K) fun row => row.documentId) (principal : SignedPrincipal)
    (spec : SearchQuerySpec K) (row : SearchDocumentRow K) : Prop :=
  Searched db principal spec row ∧ svc.Satisfies row (undirected spec) ∧ ¬ svc.Satisfies row spec

theorem query_ok (h : svc.query db elapsed principal spec = .ok result) : ∃ admitted,
    authorizedDocuments db principal spec = .ok admitted ∧
      result.items = (rankOrder (admitted.filterMap (svc.rankRow spec))).take spec.limit ∧
      result.truncated = decide (spec.limit < (admitted.filterMap (svc.rankRow spec)).length) := by
  simp only [query, bind_eq_ok] at h
  obtain ⟨_, _, _, _, admitted, hadmitted, _, _, h⟩ := h
  cases h
  exact ⟨admitted, hadmitted, rfl, rfl⟩

theorem rankRow_eq_some {entry : Ranked K} (h : svc.rankRow spec row = some entry) :
    entry.row = row ∧ entry.score = svc.score row spec (svc.reasonsOf row spec) := by
  unfold rankRow at h
  split at h
  · cases h
  · split at h
    · cases h
    next reasons hmatch =>
      split at h
      · cases h
        rw [(matches_eq_some_iff.mp hmatch).2]
        exact ⟨rfl, rfl⟩
      · cases h

/-- What is found, in the order of the identifiers and scores, by the documents. -/
theorem map_rankOrder (admitted : List (SearchDocumentRow K)) :
    (rankOrder (admitted.filterMap (svc.rankRow spec))).map Ranked.row =
      sortBy (svc.rankKey spec) (admitted.filter fun row => (svc.rankRow spec row).isSome) := by
  rw [← map_row_filterMap]
  refine map_sortBy ?_
  intro entry hentry
  obtain ⟨source, _, hrank⟩ := List.mem_filterMap.mp hentry
  obtain ⟨rfl, hscore⟩ := rankRow_eq_some hrank
  rw [rankKey, hscore]

theorem nodup_rankKey (svc : SearchService K) (db : Table (SearchDocumentRow K) fun row => row.documentId)
    (spec spec' : SearchQuerySpec K) : ((projectDocuments db spec).map (svc.rankKey spec')).Nodup := by
  have hids : ((projectDocuments db spec).map fun row => row.documentId).Nodup :=
    db.nodup.sublist (List.filter_sublist.map _)
  refine List.Nodup.of_map (fun key : Lex (K × String) => (ofLex key).2) ?_
  rwa [List.map_map]

/-- Without text and embedding the documents come in the order of their identifiers. -/
theorem rankKey_lt_iff (htext : spec.fullText = none) (hembedding : spec.embedding = none) {other : SearchDocumentRow K} :
    svc.rankKey spec other < svc.rankKey spec row ↔ other.documentId < row.documentId := by
  have hreasons : svc.reasonsOf other spec = svc.reasonsOf row spec := by
    have hsame : (svc.conditions other spec).map (fun condition => (condition.present, condition.reason)) =
        (svc.conditions row spec).map (fun condition => (condition.present, condition.reason)) := by
      simp [conditions, oneOf]
    have hof : ∀ row, svc.reasonsOf row spec =
        (((svc.conditions row spec).map fun condition => (condition.present, condition.reason)).filter Prod.fst).map Prod.snd := by
      intro row
      rw [reasonsOf, List.filter_map, List.map_map]
      rfl
    rw [hof, hof, hsame]
  have hunscored : svc.Unscored spec := by
    refine ⟨?_, by rw [hembedding]; rfl⟩
    rw [queryTerms, htext, Option.getD_none, svc.tokenize_empty]
    rfl
  rw [rankKey, rankKey, score_of_unscored hunscored, score_of_unscored hunscored, hreasons, Prod.Lex.toLex_lt_toLex]
  simp

variable [IsStrictOrderedRing K]

/-- What a query without text and embedding finds: the direction of the graph condition is not looked at. -/
theorem found_iff (hroot : ExactRoot svc.root) (htext : spec.fullText = none) (hembedding : spec.embedding = none) :
    (svc.rankRow spec row).isSome = true ↔
      ¬ (fresh row = false ∧ spec.criticalWorkflow = true) ∧ svc.Satisfies row (undirected spec) := by
  have hunscored : svc.Unscored spec := by
    refine ⟨?_, by rw [hembedding]; rfl⟩
    rw [queryTerms, htext, Option.getD_none, svc.tokenize_empty]
    rfl
  rw [rankRow_isSome_iff, ← passes_conditions_iff hroot htext hembedding]
  refine and_congr_right fun _ => ?_
  constructor
  · rintro ⟨reasons, hmatch, _⟩
    exact (matches_eq_some_iff.mp hmatch).1
  · intro hall
    exact ⟨_, matches_eq_some_iff.mpr ⟨hall, rfl⟩, score_pos_of_unscored hunscored _⟩

omit [IsStrictOrderedRing K] in
/-- A query that is within scope and budget and in time returns. -/
theorem query_total (hscope : requireScope principal spec = .ok ()) (hcompile : svc.compileQuery spec = .ok ())
    {admitted : List (SearchDocumentRow K)} (hadmitted : authorizedDocuments db principal spec = .ok admitted) :
    ∃ result, svc.query db (fun _ => 0) principal spec = .ok result := by
  have htime : ¬ (admitted.any fun _ => spec.timeoutMs < 0) = true := by simp
  simp only [query, bind_eq_ok, raiseIf_eq_ok]
  exact ⟨_, (), hscope, (), hcompile, admitted, hadmitted, (), htime, rfl⟩

end Results

section Sample

/-- The real numbers; texts have no tokens. -/
noncomputable def realSearch : SearchService ℝ where
  tokenize _ := []
  split _ := []
  lower text := text
  root := Real.sqrt
  pi := 3.141592653589793
  float _ := .zero
  tokenize_empty := plainSearch.tokenize_empty

theorem exactRoot_sqrt : ExactRoot Real.sqrt := by
  intro x d _ hd
  rw [Real.sqrt_le_iff, and_iff_right hd]

/-- A document with a relationship from `a` to `b`. -/
noncomputable def linkedDocument : SearchDocumentRow ℝ where
  documentId := "d1"
  tenantId := "t1"
  projectId := "p1"
  relationshipsJson := [⟨"supports", some "a", some "b", 1⟩]
  temporal_ordered := untimed_ordered

noncomputable def linkedDb : Table (SearchDocumentRow ℝ) (fun row => row.documentId) := ⟨[linkedDocument], List.nodup_singleton _⟩

/-- What stands at `a` at the end of a relationship. -/
noncomputable def inboundQuery : SearchQuerySpec ℝ where
  tenantId := "t1"
  projectId := "p1"
  graph := some ⟨["a"], ["supports"], .inbound, 1⟩

theorem authorizedDocuments_linked : authorizedDocuments linkedDb viewer inboundQuery = .ok [linkedDocument] := by
  have hproject : projectDocuments linkedDb inboundQuery = [linkedDocument] := by
    simp [projectDocuments, linkedDb, linkedDocument, inboundQuery]
  have hgranted : authorized linkedDocument viewer inboundQuery = .ok true := rfl
  rw [authorizedDocuments, hproject]
  simp only [filterOk, hgranted]
  rfl

theorem query_linked : ∃ result, realSearch.query linkedDb (fun _ => 0) viewer inboundQuery = .ok result := by
  refine query_total rfl ?_ authorizedDocuments_linked
  have hcomplexity : realSearch.complexity inboundQuery = 6 := rfl
  have hvolume : ¬ ((10000000 : ℝ) < (inboundQuery.spatial.map realSearch.predicateVolume).sum) := by simp [inboundQuery]
  simp only [compileQuery, bind_eq_ok, raiseIf_eq_ok, hcomplexity]
  exact ⟨(), by simp [inboundQuery], (), by simp [inboundQuery], (), by decide, hvolume⟩

theorem searched_linked : Searched linkedDb viewer inboundQuery linkedDocument :=
  ⟨⟨_, authorizedDocuments_linked, List.mem_singleton_self _⟩, fun h => absurd h.2 (by simp [inboundQuery])⟩

theorem stray_linked : realSearch.Stray linkedDb viewer inboundQuery linkedDocument := by
  refine ⟨searched_linked, ?_, ?_⟩
  · constructor <;> simp [IsOneOf, undirected, inboundQuery, linkedDocument, given, SatisfiesGraph, StartsAt]
  · intro h
    obtain ⟨relationship, hrelationship, _, _, target, htarget, hstart⟩ := h.graph _ rfl
    simp [linkedDocument] at hrelationship
    subst hrelationship
    simp at htarget hstart
    subst htarget
    simp at hstart

theorem eligibleDocuments_linked : realSearch.eligibleDocuments linkedDb viewer inboundQuery = [] := by
  rw [List.eq_nil_iff_forall_not_mem]
  intro row hrow
  obtain ⟨hproject, _, hsatisfies⟩ := mem_eligibleDocuments_iff.mp hrow
  have hsame : row = linkedDocument := List.mem_singleton.mp (List.mem_of_mem_filter hproject)
  rw [hsame] at hsatisfies
  exact stray_linked.2.2 hsatisfies

end Sample

end SearchService

end Sip
