import Mathlib.Algebra.Order.Field.Basic
import Mathlib.Algebra.Order.Ring.Nat
import Mathlib.Data.Sym.Sym2
import Sip.Foundation.BestFirst
import Sip.Spatial.TransformContract

/-!
# The path between two coordinate frames

Parent links and registered transforms connect the active frames of a project, each in both
directions. The path between two frames has as few edges without a declared uncertainty as
possible, then the least variance, then the fewest edges. Arithmetic is exact; the square root
is a parameter.
-/

namespace Sip

set_option autoImplicit false

namespace SpatialData

structure CoordinateFrameRow (K : Type) where
  frameId : String
  tenantId : String
  projectId : String
  parentFrameId : Option String
  transformJson : Option (Pose K)
  uncertaintyM : Option K
  supersedesFrameId : Option String
  createdAt : Nat
  deprecatedAt : Option Nat := none

structure SpatialTransformRow (K : Type) where
  transformId : String
  tenantId : String
  projectId : String
  sourceFrameId : String
  targetFrameId : String
  matrixJson : Pose K
  covarianceJson : Option (List (List K))
  uncertaintyJson : List (String × DeclaredValue K)
  authorityClass : String
  validFrom : Option Nat
  validTo : Option Nat
  supersedesTransformId : Option String
  createdAt : Nat
  deprecatedAt : Option Nat := none

structure FrameDb (K : Type) where
  frames : Table (CoordinateFrameRow K) (fun row => row.frameId)
  transforms : Table (SpatialTransformRow K) (fun row => row.transformId)

/-- An edge of the graph, as it leaves one of its frames. -/
structure TransformEdge (K : Type) where
  next : String
  matrix : Pose K
  transformId : String
  uncertainty : Option K
  authority : String

/-- What two frames are connected by, in both directions. -/
structure FrameLink (K : Type) where
  source : String
  target : String
  matrix : Pose K
  label : String
  uncertainty : Option K
  authority : String

structure ResolvedTransform (K : Type) where
  sourceFrameId : String
  targetFrameId : String
  matrix : Pose K
  transformIds : List String
  uncertaintyM : Option K
  uncertaintyComplete : Bool
  unquantifiedTransformIds : List String
  authorityPath : List String
  atTime : Option Nat

/-- What a search for a path carries along. -/
structure PathPayload (K : Type) where
  composite : Pose K
  path : List String
  authorities : List String
  unknownIds : List String

abbrev TransformGraph (K : Type) := String → List (TransformEdge K)

/-- Edges without a declared uncertainty, then variance, then hops. -/
abbrev PathCost (K : Type) := ℕ ×ₗ K ×ₗ ℕ

section Rows
variable {K : Type}

def CoordinateFrameRow.activeAt (row : CoordinateFrameRow K) : Option Nat → Bool
  | none => row.deprecatedAt.isNone
  | some atTime => row.createdAt ≤ atTime && row.deprecatedAt.all fun deprecated => atTime < deprecated

def SpatialTransformRow.activeAt (row : SpatialTransformRow K) : Option Nat → Bool
  | none => row.deprecatedAt.isNone
  | some atTime => row.createdAt ≤ atTime && (row.deprecatedAt.all fun deprecated => atTime < deprecated) &&
      (row.validFrom.all fun validFrom => validFrom ≤ atTime) && row.validTo.all fun validTo => atTime < validTo

def activeFrames (db : FrameDb K) (tenantId projectId : String) (atTime : Option Nat) : List (CoordinateFrameRow K) :=
  db.frames.rows.filter fun row => row.tenantId = tenantId && row.projectId = projectId && row.activeAt atTime

def activeIds (db : FrameDb K) (tenantId projectId : String) (atTime : Option Nat) : List String :=
  (activeFrames db tenantId projectId atTime).map fun frame => frame.frameId

/-- The newest transform comes first. -/
def activeTransforms (db : FrameDb K) (tenantId projectId : String) (atTime : Option Nat) : List (SpatialTransformRow K) :=
  descend (fun row => toLex (row.createdAt, row.transformId))
    (db.transforms.rows.filter fun row => row.tenantId = tenantId && row.projectId = projectId && row.activeAt atTime)

/-- A frame is linked to its parent where both are active and the transform between them is there. -/
def parentLink (ids : List String) (frame : CoordinateFrameRow K) : Option (FrameLink K) :=
  match frame.parentFrameId, frame.transformJson with
  | some parent, some matrix =>
    if parent ≠ "" ∧ parent ∈ ids then
      some ⟨frame.frameId, parent, matrix, "frame:" ++ frame.frameId, frame.uncertaintyM, "metric"⟩
    else none
  | _, _ => none

/-- Of several transforms between two frames the first one counts. -/
def newestPerPair (seenPairs : List (Sym2 String)) : List (SpatialTransformRow K) → List (SpatialTransformRow K)
  | [] => []
  | transform :: rest =>
    if s(transform.sourceFrameId, transform.targetFrameId) ∈ seenPairs then newestPerPair seenPairs rest
    else transform :: newestPerPair (s(transform.sourceFrameId, transform.targetFrameId) :: seenPairs) rest

end Rows

variable {K : Type} [Field K] [LinearOrder K]

/-- The uncertainty of a transform in metres, where it declares one. -/
def transformUncertaintyM (sqrt : K → K) (row : SpatialTransformRow K) : Option K :=
  let variance : Option K := row.covarianceJson.bind fun covariance =>
    if 3 ≤ covariance.length ∧ ∀ r ∈ covariance, 3 ≤ r.length then
      let trace := ((List.range 3).map fun i => (covariance.getD i []).getD i 0).sum
      if 0 ≤ trace then some trace else none
    else none
  match variance with
  | some trace => some (sqrt trace)
  | none => ["translation_sigma_m", "uncertainty_m", "rmse_m", "sigma_m", "residual_m"].findSome? fun key =>
      ((row.uncertaintyJson.lookup key).bind DeclaredValue.number?).filter fun raw => 0 ≤ raw

def transformLink (sqrt : K → K) (row : SpatialTransformRow K) : FrameLink K :=
  ⟨row.sourceFrameId, row.targetFrameId, row.matrixJson, row.transformId, transformUncertaintyM sqrt row, row.authorityClass⟩

/-- `graph[frame_id].append(edge)`. -/
def appendEdge (ids : List String) (graph : TransformGraph K) (frameId : String) (edge : TransformEdge K) :
    Except Raised (TransformGraph K) := do
  raiseIf (frameId ∉ ids) (.keyError frameId)
  return Function.update graph frameId (graph frameId ++ [edge])

/-- The forward edge of a link, then the inverse one. -/
def addLink (ids : List String) (graph : TransformGraph K) (link : FrameLink K) : Except Raised (TransformGraph K) := do
  let graph ← appendEdge ids graph link.source ⟨link.target, link.matrix, link.label, link.uncertainty, link.authority⟩
  raiseIf (link.target ∉ ids) (.keyError link.target)
  let inverse ← linalgInv link.matrix
  appendEdge ids graph link.target ⟨link.source, inverse, link.label ++ ":inverse", link.uncertainty, link.authority⟩

def frameLinks (sqrt : K → K) (db : FrameDb K) (tenantId projectId : String) (atTime : Option Nat) : List (FrameLink K) :=
  (activeFrames db tenantId projectId atTime).filterMap (parentLink (activeIds db tenantId projectId atTime)) ++
    (newestPerPair [] (activeTransforms db tenantId projectId atTime)).map (transformLink sqrt)

def transformGraph (sqrt : K → K) (db : FrameDb K) (tenantId projectId : String) (atTime : Option Nat) :
    Except Raised (TransformGraph K) :=
  (frameLinks sqrt db tenantId projectId atTime).foldlM (addLink (activeIds db tenantId projectId atTime)) fun _ => []

def edgeCost (edge : TransformEdge K) : PathCost K :=
  match edge.uncertainty with
  | none => toLex (1, toLex (0, 1))
  | some uncertainty => toLex (0, toLex (uncertainty ^ 2, 1))

def costGraph (graph : TransformGraph K) : CostGraph String (TransformEdge K) (PathCost K) where
  leaving := graph
  target edge := edge.next
  cost := edgeCost

def followEdge (payload : PathPayload K) (edge : TransformEdge K) : PathPayload K where
  composite := edge.matrix * payload.composite
  path := payload.path ++ [edge.transformId]
  authorities := payload.authorities ++ [edge.authority]
  unknownIds := if edge.uncertainty.isNone then payload.unknownIds ++ [edge.transformId] else payload.unknownIds

def emptyPath : PathPayload K := ⟨1, [], [], []⟩

/-- As many turns as the search can take. -/
def searchTurns (ids : List String) (graph : TransformGraph K) : Nat := 2 + (ids.map fun id => (graph id).length).sum

def resolveTransform (sqrt : K → K) (db : FrameDb K) (tenantId projectId sourceFrameId targetFrameId : String)
    (atTime : Option Nat) : Except Raised (ResolvedTransform K) := do
  if sourceFrameId = targetFrameId then
    return ⟨sourceFrameId, targetFrameId, 1, [], some 0, true, [], [], atTime⟩
  let ids := activeIds db tenantId projectId atTime
  raiseIf (sourceFrameId ∉ ids) (notFoundError "coordinate_frame" sourceFrameId)
  raiseIf (targetFrameId ∉ ids) (notFoundError "coordinate_frame" targetFrameId)
  let graph ← transformGraph sqrt db tenantId projectId atTime
  match (costGraph graph).search followEdge targetFrameId (searchTurns ids graph) (CostGraph.start sourceFrameId emptyPath) with
  | .found c =>
    let unknownCount := (ofLex c.cost).1
    let variance := (ofLex (ofLex c.cost).2).1
    return {
      sourceFrameId
      targetFrameId
      matrix := c.payload.composite
      transformIds := c.payload.path
      uncertaintyM := if unknownCount = 0 then some (sqrt variance) else none
      uncertaintyComplete := unknownCount = 0
      unquantifiedTransformIds := c.payload.unknownIds
      authorityPath := c.payload.authorities
      atTime }
  | _ => .error (notFoundError "coordinate_transform_path" (sourceFrameId ++ "->" ++ targetFrameId))

/-! ## The graph -/

/-- The edges of a link, as they leave its two frames. -/
def FrameLink.forward (link : FrameLink K) : TransformEdge K :=
  ⟨link.target, link.matrix, link.label, link.uncertainty, link.authority⟩

def FrameLink.backward (link : FrameLink K) (inverse : Pose K) : TransformEdge K :=
  ⟨link.source, inverse, link.label ++ ":inverse", link.uncertainty, link.authority⟩

/-- The edge leaves the frame in one of the two directions of the link. -/
def Connects (link : FrameLink K) (u : String) (edge : TransformEdge K) : Prop :=
  u = link.source ∧ edge = link.forward ∨
    u = link.target ∧ ∃ inverse, linalgInv link.matrix = .ok inverse ∧ edge = link.backward inverse

/-- The two frames are in the graph and the matrix can be inverted. -/
def Usable (ids : List String) (link : FrameLink K) : Prop := link.source ∈ ids ∧ link.target ∈ ids ∧ link.matrix.det ≠ 0

section Graph
variable {ids : List String} {graph graph' : TransformGraph K} {link : FrameLink K} {links : List (FrameLink K)} {u : String}
  {edge : TransformEdge K}

theorem linalgInv_eq_ok_iff {m n : Pose K} : linalgInv m = .ok n ↔ m.det ≠ 0 ∧ m.det⁻¹ • m.adjugate = n := by
  unfold linalgInv
  split_ifs with hdet
  · exact ⟨nofun, fun h => absurd hdet h.1⟩
  · exact ⟨fun h => ⟨hdet, Except.ok.inj h⟩, fun h => h.2 ▸ rfl⟩

omit [Field K] [LinearOrder K] in
theorem appendEdge_eq_ok {frameId : String} :
    appendEdge ids graph frameId edge = .ok graph' ↔
      frameId ∈ ids ∧ Function.update graph frameId (graph frameId ++ [edge]) = graph' := by
  simp only [appendEdge, bind_eq_ok, raiseIf_eq_ok, not_not]
  constructor
  · rintro ⟨_, hmem, h⟩
    exact ⟨hmem, Except.ok.inj h⟩
  · rintro ⟨hmem, rfl⟩
    exact ⟨(), hmem, rfl⟩

omit [Field K] [LinearOrder K] in
theorem mem_update_append {frameId : String} {new : TransformEdge K} :
    edge ∈ Function.update graph frameId (graph frameId ++ [new]) u ↔ edge ∈ graph u ∨ u = frameId ∧ edge = new := by
  by_cases hu : u = frameId
  · subst hu
    rw [Function.update_self, List.mem_append, List.mem_singleton]
    exact ⟨fun h => h.imp_right fun heq => ⟨rfl, heq⟩, fun h => h.imp_right fun heq => heq.2⟩
  · rw [Function.update_of_ne hu]
    exact ⟨.inl, fun h => h.resolve_right fun heq => hu heq.1⟩

theorem addLink_eq_ok (h : addLink ids graph link = .ok graph') :
    Usable ids link ∧ ∀ u edge, edge ∈ graph' u ↔ edge ∈ graph u ∨ Connects link u edge := by
  simp only [addLink, bind_eq_ok, raiseIf_eq_ok, not_not, appendEdge_eq_ok] at h
  obtain ⟨_, ⟨hsource, rfl⟩, _, htarget, inverse, hinverse, _, rfl⟩ := h
  refine ⟨⟨hsource, htarget, (linalgInv_eq_ok_iff.mp hinverse).1⟩, ?_⟩
  intro u edge
  rw [mem_update_append, mem_update_append, or_assoc]
  apply or_congr Iff.rfl
  apply or_congr Iff.rfl
  constructor
  · rintro ⟨hu, rfl⟩
    exact ⟨hu, inverse, hinverse, rfl⟩
  · rintro ⟨hu, inverse', hinverse', rfl⟩
    rw [hinverse] at hinverse'
    cases hinverse'
    exact ⟨hu, rfl⟩

theorem addLink_total (graph : TransformGraph K) (h : Usable ids link) : ∃ graph', addLink ids graph link = .ok graph' := by
  simp only [addLink, bind_eq_ok, raiseIf_eq_ok, not_not, appendEdge_eq_ok]
  exact ⟨_, _, ⟨h.1, rfl⟩, (), h.2.1, _, linalgInv_eq_ok_iff.mpr ⟨h.2.2, rfl⟩, h.2.1, rfl⟩

theorem addLinks_eq_ok (h : links.foldlM (addLink ids) graph = .ok graph') :
    (∀ link ∈ links, Usable ids link) ∧
      ∀ u edge, edge ∈ graph' u ↔ edge ∈ graph u ∨ ∃ link ∈ links, Connects link u edge := by
  induction links generalizing graph with
  | nil =>
    cases h
    exact ⟨nofun, fun u edge => ⟨.inl, fun h => h.elim id nofun⟩⟩
  | cons link links ih =>
    rw [List.foldlM_cons, bind_eq_ok] at h
    obtain ⟨next, hnext, hrest⟩ := h
    obtain ⟨husable, hedges⟩ := addLink_eq_ok hnext
    obtain ⟨husables, hall⟩ := ih hrest
    refine ⟨List.forall_mem_cons.mpr ⟨husable, husables⟩, ?_⟩
    intro u edge
    rw [hall, hedges, or_assoc, List.exists_mem_cons_iff]

theorem addLinks_total (graph : TransformGraph K) (h : ∀ link ∈ links, Usable ids link) :
    ∃ graph', links.foldlM (addLink ids) graph = .ok graph' := by
  induction links generalizing graph with
  | nil => exact ⟨graph, rfl⟩
  | cons link links ih =>
    obtain ⟨next, hnext⟩ := addLink_total graph (h link List.mem_cons_self)
    obtain ⟨graph', hgraph'⟩ := ih next fun link' hlink' => h link' (List.mem_cons_of_mem link hlink')
    exact ⟨graph', by rw [List.foldlM_cons, hnext]; exact hgraph'⟩

end Graph

/-! ## The path -/

/-- The matrices of the edges, composed in the order of the path. -/
def compose (es : List (TransformEdge K)) : Pose K := es.foldl (fun composite edge => edge.matrix * composite) 1

def unquantified (es : List (TransformEdge K)) : List (TransformEdge K) := es.filter fun edge => edge.uncertainty.isNone

/-- The squares of the declared uncertainties; an edge without one adds nothing here and counts as unquantified. -/
def variance (es : List (TransformEdge K)) : K := (es.map fun edge => (edge.uncertainty.map fun u => u ^ 2).getD 0).sum

def pathCost (es : List (TransformEdge K)) : PathCost K := toLex ((unquantified es).length, toLex (variance es, es.length))

/-- What is returned is read off a path from source to target that no other path undercuts. -/
structure BestPath (sqrt : K → K) (graph : TransformGraph K) (source target : String) (r : ResolvedTransform K)
    (es : List (TransformEdge K)) : Prop where
  walk : (costGraph graph).Walk source target es
  least : ∀ es', (costGraph graph).Walk source target es' → pathCost es ≤ pathCost es'
  matrix : r.matrix = compose es
  transformIds : r.transformIds = es.map fun edge => edge.transformId
  authorityPath : r.authorityPath = es.map fun edge => edge.authority
  unquantifiedTransformIds : r.unquantifiedTransformIds = (unquantified es).map fun edge => edge.transformId
  uncertaintyComplete : r.uncertaintyComplete = true ↔ unquantified es = []
  uncertaintyM : r.uncertaintyM = if unquantified es = [] then some (sqrt (variance es)) else none

section Paths
variable [IsStrictOrderedRing K] {sqrt : K → K} {db : FrameDb K} {tenantId projectId source target : String} {atTime : Option Nat}
  {graph : TransformGraph K} {es : List (TransformEdge K)}

omit [LinearOrder K] [IsStrictOrderedRing K] in
theorem pathCost_cons (edge : TransformEdge K) (es : List (TransformEdge K)) :
    pathCost (edge :: es) = edgeCost edge + pathCost es := by
  unfold pathCost edgeCost unquantified variance
  rw [List.map_cons, List.sum_cons, List.length_cons, Nat.add_comm es.length]
  cases hedge : edge.uncertainty with
  | none =>
    rw [List.filter_cons_of_pos (by rw [hedge]; rfl), List.length_cons, Nat.add_comm]
    rfl
  | some u =>
    rw [List.filter_cons_of_neg (by rw [hedge]; exact Bool.false_ne_true)]
    show _ = toLex (0 + _, toLex (u ^ 2 + _, 1 + es.length))
    rw [Nat.zero_add]
    rfl

omit [LinearOrder K] [IsStrictOrderedRing K] in
theorem walkCost_eq_pathCost (es : List (TransformEdge K)) : (costGraph graph).walkCost es = pathCost es := by
  induction es with
  | nil => rfl
  | cons edge es ih =>
    rw [CostGraph.walkCost_cons, ih, pathCost_cons]
    rfl

theorem edgeCost_nonneg (edge : TransformEdge K) : 0 ≤ edgeCost edge := by
  unfold edgeCost
  split
  case h_1 => exact Prod.Lex.le_iff.mpr (.inl Nat.one_pos)
  case h_2 u _ =>
    refine Prod.Lex.le_iff.mpr (.inr ⟨rfl, ?_⟩)
    rcases (sq_nonneg u).lt_or_eq with hlt | heq
    · exact Prod.Lex.le_iff.mpr (.inl hlt)
    · exact Prod.Lex.le_iff.mpr (.inr ⟨heq, Nat.zero_le 1⟩)

omit [LinearOrder K] [IsStrictOrderedRing K] in
/-- What the search carries along a path. -/
theorem foldl_followEdge (payload : PathPayload K) (es : List (TransformEdge K)) :
    es.foldl followEdge payload = {
      composite := es.foldl (fun composite edge => edge.matrix * composite) payload.composite
      path := payload.path ++ es.map fun edge => edge.transformId
      authorities := payload.authorities ++ es.map fun edge => edge.authority
      unknownIds := payload.unknownIds ++ (unquantified es).map fun edge => edge.transformId } := by
  induction es generalizing payload with
  | nil => simp only [List.foldl_nil, unquantified, List.filter_nil, List.map_nil, List.append_nil]
  | cons edge es ih =>
    rw [List.foldl_cons, ih]
    unfold followEdge unquantified
    cases hedge : edge.uncertainty.isNone with
    | true => simp only [hedge, List.filter_cons_of_pos, List.foldl_cons, List.map_cons, List.append_assoc, List.singleton_append, if_true]
    | false =>
      simp only [hedge, List.foldl_cons, List.map_cons, List.append_assoc, List.singleton_append, List.filter_cons,
        Bool.false_eq_true, if_false]

/-! ### The graph of the active frames -/

omit [IsStrictOrderedRing K] in
theorem mem_transformGraph (h : transformGraph sqrt db tenantId projectId atTime = .ok graph) {u : String} {edge : TransformEdge K} :
    edge ∈ graph u ↔ ∃ link ∈ frameLinks sqrt db tenantId projectId atTime, Connects link u edge := by
  rw [(addLinks_eq_ok h).2]
  exact ⟨fun h => h.resolve_left List.not_mem_nil, .inr⟩

omit [IsStrictOrderedRing K] in
/-- The graph can be built where every link is between active frames and can be inverted, and only there. -/
theorem transformGraph_ok_iff :
    (∃ graph, transformGraph sqrt db tenantId projectId atTime = .ok graph) ↔
      ∀ link ∈ frameLinks sqrt db tenantId projectId atTime, Usable (activeIds db tenantId projectId atTime) link := by
  constructor
  · rintro ⟨graph, hgraph⟩
    exact (addLinks_eq_ok hgraph).1
  · exact addLinks_total _

omit [IsStrictOrderedRing K] in
theorem next_mem_activeIds (h : transformGraph sqrt db tenantId projectId atTime = .ok graph) {u : String} {edge : TransformEdge K}
    (hedge : edge ∈ graph u) : edge.next ∈ activeIds db tenantId projectId atTime := by
  obtain ⟨link, hlink, hconnects⟩ := (mem_transformGraph h).mp hedge
  obtain ⟨hsource, htarget, _⟩ := (addLinks_eq_ok h).1 link hlink
  rcases hconnects with ⟨_, rfl⟩ | ⟨_, _, _, rfl⟩
  · exact htarget
  · exact hsource

omit [IsStrictOrderedRing K] in
/-- Every edge can be taken back at the same cost. -/
theorem exists_edge_back (h : transformGraph sqrt db tenantId projectId atTime = .ok graph) {u : String} {edge : TransformEdge K}
    (hedge : edge ∈ graph u) : ∃ back ∈ graph edge.next, back.next = u ∧ edgeCost back = edgeCost edge := by
  obtain ⟨link, hlink, hconnects⟩ := (mem_transformGraph h).mp hedge
  rcases hconnects with ⟨rfl, rfl⟩ | ⟨rfl, inverse, _, rfl⟩
  · obtain ⟨_, _, hdet⟩ := (addLinks_eq_ok h).1 link hlink
    refine ⟨link.backward _, (mem_transformGraph h).mpr ⟨link, hlink, .inr ⟨rfl, _, linalgInv_eq_ok_iff.mpr ⟨hdet, rfl⟩, rfl⟩⟩, rfl, rfl⟩
  · exact ⟨link.forward, (mem_transformGraph h).mpr ⟨link, hlink, .inl ⟨rfl, rfl⟩⟩, rfl, rfl⟩

omit [Field K] [LinearOrder K] [IsStrictOrderedRing K] in
theorem nodup_activeIds (db : FrameDb K) (tenantId projectId : String) (atTime : Option Nat) :
    (activeIds db tenantId projectId atTime).Nodup :=
  db.frames.nodup.sublist (List.filter_sublist.map _)

/-- The search through the graph of the active frames ends, with a cheapest path or because there is none. -/
theorem search_finds (h : transformGraph sqrt db tenantId projectId atTime = .ok graph)
    (hsource : source ∈ activeIds db tenantId projectId atTime) :
    CostGraph.Finds (costGraph graph) followEdge source target emptyPath ((costGraph graph).search followEdge target
      (searchTurns (activeIds db tenantId projectId atTime) graph) (CostGraph.start source emptyPath)) := by
  have hnext : ∀ u ∈ (activeIds db tenantId projectId atTime).toFinset, ∀ edge ∈ (costGraph graph).leaving u,
      (costGraph graph).target edge ∈ (activeIds db tenantId projectId atTime).toFinset := by
    intro u _ edge hedge
    exact List.mem_toFinset.mpr (next_mem_activeIds h hedge)
  apply CostGraph.search_finds hnext
  · exact List.mem_toFinset.mpr hsource
  · exact edgeCost_nonneg
  · rw [List.sum_toFinset _ (nodup_activeIds db tenantId projectId atTime), searchTurns]
    exact Nat.add_lt_add_right Nat.one_lt_two _

omit [IsStrictOrderedRing K] in
/-- Between two active frames the answer is that of the search. -/
theorem resolveTransform_eq (hne : source ≠ target) (h : transformGraph sqrt db tenantId projectId atTime = .ok graph)
    (hsource : source ∈ activeIds db tenantId projectId atTime) (htarget : target ∈ activeIds db tenantId projectId atTime) :
    resolveTransform sqrt db tenantId projectId source target atTime =
      match (costGraph graph).search followEdge target (searchTurns (activeIds db tenantId projectId atTime) graph)
        (CostGraph.start source emptyPath) with
      | .found c => .ok {
          sourceFrameId := source
          targetFrameId := target
          matrix := c.payload.composite
          transformIds := c.payload.path
          uncertaintyM := if (ofLex c.cost).1 = 0 then some (sqrt (ofLex (ofLex c.cost).2).1) else none
          uncertaintyComplete := (ofLex c.cost).1 = 0
          unquantifiedTransformIds := c.payload.unknownIds
          authorityPath := c.payload.authorities
          atTime }
      | _ => .error (notFoundError "coordinate_transform_path" (source ++ "->" ++ target)) := by
  unfold resolveTransform
  simp only [if_neg hne, raiseIf, if_neg (not_not.mpr hsource), if_neg (not_not.mpr htarget), h]
  rfl

omit [IsStrictOrderedRing K] in
/-- Once the graph is there, the search answers with a path or does not find one. -/
theorem resolveTransform_answers (h : transformGraph sqrt db tenantId projectId atTime = .ok graph)
    (hsource : source ∈ activeIds db tenantId projectId atTime) (htarget : target ∈ activeIds db tenantId projectId atTime) :
    (∃ r, resolveTransform sqrt db tenantId projectId source target atTime = .ok r) ∨
      resolveTransform sqrt db tenantId projectId source target atTime =
        .error (notFoundError "coordinate_transform_path" (source ++ "->" ++ target)) := by
  by_cases hne : source = target
  · left
    rw [resolveTransform, if_pos hne]
    exact ⟨_, rfl⟩
  · rw [resolveTransform_eq hne h hsource htarget]
    split
    · exact .inl ⟨_, rfl⟩
    · exact .inr rfl

omit [Field K] [LinearOrder K] [IsStrictOrderedRing K] in
theorem mem_activeTransforms {row : SpatialTransformRow K} (h : row ∈ activeTransforms db tenantId projectId atTime) :
    row ∈ db.transforms.rows ∧ row.tenantId = tenantId ∧ row.projectId = projectId ∧ row.activeAt atTime = true := by
  have hmem := (descending_descend _ _).1.mem_iff.mp h
  obtain ⟨hrow, hselected⟩ := List.mem_filter.mp hmem
  rw [Bool.and_eq_true, Bool.and_eq_true, decide_eq_true_iff, decide_eq_true_iff] at hselected
  exact ⟨hrow, hselected.1.1, hselected.1.2, hselected.2⟩

omit [Field K] [LinearOrder K] [IsStrictOrderedRing K] in
theorem mem_activeIds_iff {id : String} : id ∈ activeIds db tenantId projectId atTime ↔
    ∃ frame, db.frames.get? id = some frame ∧ frame.tenantId = tenantId ∧ frame.projectId = projectId ∧ frame.activeAt atTime = true := by
  simp only [activeIds, activeFrames, List.mem_map, List.mem_filter, Bool.and_eq_true, decide_eq_true_iff, Table.get?_eq_some_iff]
  constructor
  · rintro ⟨frame, ⟨hframe, ⟨htenant, hproject⟩, hactive⟩, hid⟩
    exact ⟨frame, ⟨hframe, hid⟩, htenant, hproject, hactive⟩
  · rintro ⟨frame, ⟨hframe, hid⟩, htenant, hproject, hactive⟩
    exact ⟨frame, ⟨hframe, ⟨htenant, hproject⟩, hactive⟩, hid⟩

omit [Field K] [LinearOrder K] [IsStrictOrderedRing K] in
theorem mem_of_mem_newestPerPair {seenPairs : List (Sym2 String)} {rows : List (SpatialTransformRow K)} {row : SpatialTransformRow K}
    (h : row ∈ newestPerPair seenPairs rows) : row ∈ rows := by
  induction rows generalizing seenPairs with
  | nil => exact h
  | cons first rest ih =>
    unfold newestPerPair at h
    split_ifs at h
    · exact List.mem_cons_of_mem first (ih h)
    · rcases List.mem_cons.mp h with rfl | hrest
      · exact List.mem_cons_self
      · exact List.mem_cons_of_mem first (ih hrest)

omit [Field K] [LinearOrder K] [IsStrictOrderedRing K] in
theorem parentLink_eq_some {ids : List String} {frame : CoordinateFrameRow K} {link : FrameLink K} (h : parentLink ids frame = some link) :
    ∃ parent matrix, frame.parentFrameId = some parent ∧ parent ≠ "" ∧ parent ∈ ids ∧ frame.transformJson = some matrix ∧
      link.source = frame.frameId ∧ link.target = parent ∧ link.matrix = matrix := by
  unfold parentLink at h
  split at h
  case h_1 parent matrix hparent hmatrix =>
    split_ifs at h with hids
    cases h
    exact ⟨parent, matrix, hparent, hids.1, hids.2, hmatrix, rfl, rfl, rfl⟩
  case h_2 => cases h

omit [Field K] [LinearOrder K] [IsStrictOrderedRing K] in
theorem unquantified_eq_nil_iff : unquantified es = [] ↔ (unquantified es).length = 0 := List.length_eq_zero_iff.symm

/-- What `resolve_transform` answers for two active frames once the graph is there. -/
theorem resolveTransform_spec (hsqrt : sqrt 0 = 0) (h : transformGraph sqrt db tenantId projectId atTime = .ok graph)
    (hsource : source ∈ activeIds db tenantId projectId atTime) (htarget : target ∈ activeIds db tenantId projectId atTime) :
    (∃ r es, resolveTransform sqrt db tenantId projectId source target atTime = .ok r ∧ BestPath sqrt graph source target r es) ∨
      resolveTransform sqrt db tenantId projectId source target atTime =
          .error (notFoundError "coordinate_transform_path" (source ++ "->" ++ target)) ∧
        ∀ es, ¬ (costGraph graph).Walk source target es := by
  by_cases hne : source = target
  · left
    refine ⟨⟨source, target, 1, [], some 0, true, [], [], atTime⟩, [], ?_, ?_⟩
    · rw [resolveTransform, if_pos hne]
      rfl
    · refine ⟨hne, ?_, rfl, rfl, rfl, rfl, ?_, ?_⟩
      · intro es' _
        rw [← @walkCost_eq_pathCost _ _ graph, ← @walkCost_eq_pathCost _ _ graph]
        exact (costGraph graph).walkCost_nonneg edgeCost_nonneg es'
      · exact ⟨fun _ => rfl, fun _ => rfl⟩
      · show some 0 = some (sqrt 0)
        rw [hsqrt]
  · have hfinds : CostGraph.Finds _ followEdge source target emptyPath _ := search_finds h hsource
    rw [resolveTransform_eq hne h hsource htarget]
    split
    case h_1 c hfound =>
      left
      rw [hfound] at hfinds
      obtain ⟨hnode, ⟨es, hwalk, hcost, hpayload⟩, hleast⟩ := hfinds
      rw [hnode] at hwalk
      rw [walkCost_eq_pathCost] at hcost
      rw [foldl_followEdge] at hpayload
      refine ⟨_, es, rfl, hwalk, ?_, ?_, ?_, ?_, ?_, ?_, ?_⟩
      · intro es' hes'
        rw [← hcost, ← @walkCost_eq_pathCost _ _ graph]
        exact hleast es' hes'
      · rw [hpayload]
        rfl
      · rw [hpayload]
        rfl
      · rw [hpayload]
        rfl
      · rw [hpayload]
        rfl
      · rw [hcost, decide_eq_true_iff, unquantified_eq_nil_iff]
        rfl
      · rw [hcost]
        exact if_congr unquantified_eq_nil_iff.symm rfl rfl
    case h_2 outcome houtcome =>
      right
      refine ⟨rfl, ?_⟩
      cases hresult : (costGraph graph).search followEdge target (searchTurns (activeIds db tenantId projectId atTime) graph)
          (CostGraph.start source emptyPath) with
      | found c => exact absurd hresult (houtcome c)
      | exhausted =>
        rw [hresult] at hfinds
        exact hfinds
      | outOfFuel =>
        rw [hresult] at hfinds
        exact hfinds.elim

omit [IsStrictOrderedRing K] in
theorem exists_walk_back (h : transformGraph sqrt db tenantId projectId atTime = .ok graph)
    (hwalk : (costGraph graph).Walk source target es) : ∃ es', (costGraph graph).Walk target source es' ∧ pathCost es' = pathCost es := by
  obtain ⟨es', hwalk', hcost⟩ := hwalk.exists_reverse _ fun u edge hedge => exists_edge_back h hedge
  rw [walkCost_eq_pathCost, walkCost_eq_pathCost] at hcost
  exact ⟨es', hwalk', hcost⟩

/-- The answer for two active frames is read off a cheapest path, at the same cost in both directions, unless no path connects
them. -/
theorem resolveTransform_least (hsqrt : sqrt 0 = 0) (h : transformGraph sqrt db tenantId projectId atTime = .ok graph)
    (hsource : source ∈ activeIds db tenantId projectId atTime) (htarget : target ∈ activeIds db tenantId projectId atTime) :
    (∃ r r' es es', resolveTransform sqrt db tenantId projectId source target atTime = .ok r ∧
        resolveTransform sqrt db tenantId projectId target source atTime = .ok r' ∧
        BestPath sqrt graph source target r es ∧ BestPath sqrt graph target source r' es' ∧ pathCost es = pathCost es') ∨
      resolveTransform sqrt db tenantId projectId source target atTime =
          .error (notFoundError "coordinate_transform_path" (source ++ "->" ++ target)) ∧
        resolveTransform sqrt db tenantId projectId target source atTime =
          .error (notFoundError "coordinate_transform_path" (target ++ "->" ++ source)) ∧
        ∀ es, ¬ (costGraph graph).Walk source target es := by
  rcases resolveTransform_spec hsqrt h hsource htarget with ⟨r, es, hr, hbest⟩ | ⟨herror, hnone⟩
  · obtain ⟨back, hback, hcost⟩ := exists_walk_back h hbest.walk
    rcases resolveTransform_spec hsqrt h htarget hsource with ⟨r', es', hr', hbest'⟩ | ⟨_, hnone⟩
    · left
      refine ⟨r, r', es, es', hr, hr', hbest, hbest', le_antisymm ?_ ?_⟩
      · obtain ⟨forth, hforth, hcost'⟩ := exists_walk_back h hbest'.walk
        exact hcost' ▸ hbest.least forth hforth
      · exact hcost ▸ hbest'.least back hback
    · exact absurd hback (hnone back)
  · right
    refine ⟨herror, ?_, hnone⟩
    rcases resolveTransform_spec hsqrt h htarget hsource with ⟨_, es', _, hbest'⟩ | ⟨herror', _⟩
    · obtain ⟨forth, hforth, _⟩ := exists_walk_back h hbest'.walk
      exact absurd hforth (hnone forth)
    · exact herror'

end Paths

/-! ### Two surveyed frames -/

def surveyFrame (frameId : String) : CoordinateFrameRow ℚ :=
  ⟨frameId, "tenant", "project", none, none, none, none, 0, none⟩

def surveyTransform : SpatialTransformRow ℚ :=
  ⟨"transform", "tenant", "project", "device", "survey", 1, none, [("rmse_m", .number 0)], "metric", none, none, none, 1, none⟩

def surveyDb : FrameDb ℚ where
  frames := ⟨[surveyFrame "device", surveyFrame "survey"], by decide⟩
  transforms := ⟨[surveyTransform], by decide⟩

theorem resolveTransform_least_survey : ∃ graph, transformGraph id surveyDb "tenant" "project" none = .ok graph ∧
    ((∃ r r' es es', resolveTransform id surveyDb "tenant" "project" "device" "survey" none = .ok r ∧
        resolveTransform id surveyDb "tenant" "project" "survey" "device" none = .ok r' ∧
        BestPath id graph "device" "survey" r es ∧ BestPath id graph "survey" "device" r' es' ∧ pathCost es = pathCost es') ∨
      resolveTransform id surveyDb "tenant" "project" "device" "survey" none =
          .error (notFoundError "coordinate_transform_path" ("device" ++ "->" ++ "survey")) ∧
        resolveTransform id surveyDb "tenant" "project" "survey" "device" none =
          .error (notFoundError "coordinate_transform_path" ("survey" ++ "->" ++ "device")) ∧
        ∀ es, ¬ (costGraph graph).Walk "device" "survey" es) := by
  have hids : activeIds surveyDb "tenant" "project" none = ["device", "survey"] := by decide
  have hlinks : frameLinks id surveyDb "tenant" "project" none = [transformLink id surveyTransform] := by
    have htransforms : activeTransforms surveyDb "tenant" "project" none = [surveyTransform] := rfl
    rw [frameLinks, htransforms, newestPerPair, if_neg List.not_mem_nil]
    rfl
  obtain ⟨graph, hgraph⟩ : ∃ graph, transformGraph id surveyDb "tenant" "project" none = .ok graph := by
    rw [transformGraph_ok_iff, hlinks, hids]
    intro link hlink
    rw [List.mem_singleton.mp hlink]
    refine ⟨by decide, by decide, ?_⟩
    show (1 : Pose ℚ).det ≠ 0
    rw [Matrix.det_one]
    exact one_ne_zero
  refine ⟨graph, hgraph, resolveTransform_least rfl hgraph ?_ ?_⟩
  · rw [hids]
    decide
  · rw [hids]
    decide

end SpatialData

end Sip
