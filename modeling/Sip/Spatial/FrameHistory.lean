import Sip.Foundation.Runs
import Sip.Spatial.TransformGraph

/-!
# The history of frames and transforms

Frames are registered, with a parent or without, and may supersede another frame; transforms
are registered between active frames and may supersede the one before. Rows are never removed:
what is superseded is marked as deprecated. The outbox and the audit log are left out here.
-/

namespace Sip

set_option autoImplicit false

namespace SpatialData

structure FrameRequest (K : Type) where
  tenantId : String
  projectId : String
  frameId : Option String := none
  parentFrameId : Option String := none
  semanticType : String := "local_cartesian"
  units : TranslationUnits := .meter
  unitScaleToMeters : Option K := none
  originalUnits : String := "meter"
  originalUnitScaleToMeters : Option K := none
  axisDirections : List (String × String)
  crsIdentifier : Option String := none
  geodetic : Dict := []
  transformToParent : Option (Pose K) := none
  uncertaintyM : Option K := none
  supersedesFrameId : Option String := none

/-- The arguments of a registration that are not part of the contract. -/
structure TransformRequest (K : Type) extends SpatialTransformContract K where
  tenantId : String
  projectId : String

variable {K : Type} [Field K] [LinearOrder K]

/-- The contract of a frame, as its validators check it. -/
def checkFrameContract (request : FrameRequest K) : Except Raised Unit := do
  raiseIf (request.semanticType.length < 1 ∨ 128 < request.semanticType.length) (.valueError "semantic_type")
  raiseIf (request.unitScaleToMeters.any fun scale => scale ≤ 0) (.valueError "unit_scale_to_meters")
  raiseIf (request.originalUnitScaleToMeters.any fun scale => scale ≤ 0) (.valueError "original_unit_scale_to_meters")
  raiseIf (request.uncertaintyM.any fun uncertainty => uncertainty < 0) (.valueError "uncertainty_m")
  raiseIf (request.transformToParent.any fun m => ¬ ExactHomogeneousRow m)
    (.valueError "transform_to_parent requires homogeneous final row [0,0,0,1]")
  raiseIf (request.unitScaleToMeters.any fun scale => ¬ IsClose 1e-12 scale (request.units.toMeters))
    (.valueError "unit_scale_to_meters does not match units")
  let knownSourceScale : Option K := ([("meter", 1), ("metre", 1), ("millimeter", 0.001), ("millimetre", 0.001)] : List (String × K)).lookup
    (String.ofList (request.originalUnits.toList.map lowerChar))
  raiseIf (request.originalUnitScaleToMeters = none ∧ knownSourceScale = none)
    (.valueError "custom original_units require original_unit_scale_to_meters")
  raiseIf (request.originalUnitScaleToMeters.any fun scale => knownSourceScale.any fun known => ¬ IsClose 1e-12 scale known)
    (.valueError "original_unit_scale_to_meters does not match original_units")
  raiseIf (request.geodetic ≠ [] ∧ given request.crsIdentifier = none)
    (.valueError "geodetic coordinate frames require crs_identifier")
  raiseIf (¬ ((∀ axis ∈ request.axisDirections, axis.1 ∈ ["x", "y", "z"]) ∧
      ∀ axis ∈ ["x", "y", "z"], axis ∈ request.axisDirections.map Prod.fst))
    (.valueError "axis_directions must explicitly declare x, y, and z")
  raiseIf (∃ axis ∈ request.axisDirections, strip axis.2.toList = []) (.valueError "axis direction declarations cannot be empty")

section Frames
omit [Field K] [LinearOrder K]

def FrameDb.frameIds (db : FrameDb K) : List String := db.frames.rows.map fun row => row.frameId

def scopedFrame (db : FrameDb K) (tenantId projectId frameId : String) : Except Raised (CoordinateFrameRow K) := do
  raiseIf (frameId = "") (notFoundError "coordinate_frame" "missing")
  let row ← orRaise (db.frames.get? frameId) (notFoundError "coordinate_frame" frameId)
  raiseIf (row.tenantId ≠ tenantId ∨ row.projectId ≠ projectId ∨ row.deprecatedAt ≠ none)
    (notFoundError "coordinate_frame" frameId)
  return row

/-- The walk up the parents of a new frame; every turn visits a frame that was not visited before. -/
def assertFrameParentChainAcyclic (db : FrameDb K) (tenantId projectId newFrameId parentFrameId : String) :
    Nat → List String → Option String → Except Raised Unit
  | 0, _, _ => .error .assertionError
  | _ + 1, _, none => .ok ()
  | turns + 1, visited, some currentId => do
    raiseIf (currentId = newFrameId ∨ currentId ∈ visited)
      (validationError "FRAME_CYCLE" "coordinate-frame parent hierarchy contains a cycle"
        [("frame_id", .str newFrameId), ("parent_frame_id", .str parentFrameId)])
    let row ← orRaise (db.frames.get? currentId) (notFoundError "coordinate_frame" currentId)
    raiseIf (row.tenantId ≠ tenantId ∨ row.projectId ≠ projectId) (notFoundError "coordinate_frame" currentId)
    assertFrameParentChainAcyclic db tenantId projectId newFrameId parentFrameId turns (currentId :: visited) row.parentFrameId

def checkParent (db : FrameDb K) (tenantId projectId frameId : String) : Option (CoordinateFrameRow K) → Except Raised Unit
  | none => .ok ()
  | some parent => do
    raiseIf (parent.frameId = frameId) (validationError "FRAME_CYCLE" "coordinate frame cannot parent itself")
    assertFrameParentChainAcyclic db tenantId projectId frameId parent.frameId (db.frames.rows.length + 1) []
      (some parent.frameId)

def supersedeFrame (now : Nat) (db : FrameDb K) :
    Option (CoordinateFrameRow K) → Except Raised (Table (CoordinateFrameRow K) fun row => row.frameId)
  | none => .ok db.frames
  | some superseded => do
    raiseIf (superseded.deprecatedAt ≠ none)
      (conflictError "FRAME_ALREADY_SUPERSEDED" "coordinate frame is already deprecated")
    return db.frames.set { superseded with deprecatedAt := some now }

/-- A transform can be superseded by one that connects the same two frames. -/
def supersedeTransform (now : Nat) (db : FrameDb K) (tenantId projectId sourceFrameId targetFrameId : String) :
    Option String → Except Raised (Table (SpatialTransformRow K) fun row => row.transformId)
  | none => .ok db.transforms
  | some supersedes => do
    let prior ← orRaise (db.transforms.get? supersedes) (notFoundError "spatial_transform" supersedes)
    raiseIf (prior.tenantId ≠ tenantId ∨ prior.projectId ≠ projectId) (notFoundError "spatial_transform" supersedes)
    raiseIf (prior.deprecatedAt ≠ none) (conflictError "TRANSFORM_ALREADY_SUPERSEDED"
      "the selected transform is already deprecated" [("transform_id", .str supersedes)])
    raiseIf (s(prior.sourceFrameId, prior.targetFrameId) ≠ s(sourceFrameId, targetFrameId))
      (validationError "TRANSFORM_SUPERSESSION_SCOPE_MISMATCH"
        "a replacement transform must connect the same coordinate-frame pair")
    return db.transforms.set { prior with deprecatedAt := some now }

end Frames

def registerFrame (uuid : String) (now createdAt : Nat) (db : FrameDb K) (request : FrameRequest K) :
    Except Raised (FrameDb K) := do
  let frameId := (given request.frameId).getD uuid
  checkFrameContract request
  raiseIf ((given request.parentFrameId).isSome ∧ request.transformToParent.isNone)
    (validationError "FRAME_PARENT_TRANSFORM_REQUIRED" "child coordinate frames require an explicit transform to parent")
  raiseIf (db.frames.get? frameId).isSome
    (conflictError "FRAME_EXISTS" "coordinate frame identifier already exists" [("frame_id", .str frameId)])
  let parent ← (given request.parentFrameId).mapM (scopedFrame db request.tenantId request.projectId)
  let superseded ← (given request.supersedesFrameId).mapM (scopedFrame db request.tenantId request.projectId)
  checkParent db request.tenantId request.projectId frameId parent
  let frames ← supersedeFrame now db superseded
  let frames ← orRaise (frames.insert? {
    frameId
    tenantId := request.tenantId
    projectId := request.projectId
    parentFrameId := request.parentFrameId
    transformJson := request.transformToParent
    uncertaintyM := request.uncertaintyM
    supersedesFrameId := request.supersedesFrameId
    createdAt }) (.integrityError "coordinate_frames.frame_id")
  return { db with frames }

def registerTransform (uuid : String) (now createdAt : Nat) (db : FrameDb K) (request : TransformRequest K) :
    Except Raised (FrameDb K) := do
  let contract := { request.toSpatialTransformContract with
    transformId := (given (some request.transformId)).getD uuid
    observedAt := some (request.observedAt.getD now) }
  checkTransformContract contract
  let canonicalMatrix ← canonicalTransformMatrix contract
  let _ ← scopedFrame db request.tenantId request.projectId request.sourceFrameId
  let _ ← scopedFrame db request.tenantId request.projectId request.targetFrameId
  let active := db.transforms.rows.find? fun row =>
    row.tenantId = request.tenantId && row.projectId = request.projectId &&
      s(row.sourceFrameId, row.targetFrameId) = s(request.sourceFrameId, request.targetFrameId) && row.deprecatedAt.isNone
  raiseIf (active.any fun row => request.supersedesTransformId ≠ some row.transformId)
    (conflictError "TRANSFORM_ACTIVE_CONFLICT" "an active transform already exists; replacement must explicitly supersede it")
  let transforms ← supersedeTransform now db request.tenantId request.projectId request.sourceFrameId request.targetFrameId
    (given request.supersedesTransformId)
  let transforms ← orRaise (transforms.insert? {
    transformId := contract.transformId
    tenantId := request.tenantId
    projectId := request.projectId
    sourceFrameId := request.sourceFrameId
    targetFrameId := request.targetFrameId
    matrixJson := canonicalMatrix
    covarianceJson := request.covariance
    uncertaintyJson := request.uncertainty
    authorityClass := request.authorityClass.value
    validFrom := request.validFrom
    validTo := request.validTo
    supersedesTransformId := request.supersedesTransformId
    createdAt }) (.integrityError "spatial_transforms.transform_id")
  return { db with transforms }

/-! ## Runs -/

inductive FrameCall (K : Type) where
  | registerFrame (request : FrameRequest K)
  | registerTransform (request : TransformRequest K)

/-- A call with a fresh identifier, the time that passes before it and the time it takes. -/
structure FrameTurn (K : Type) where
  call : FrameCall K
  uuid : String
  waited : Nat
  worked : Nat

structure FrameHistory (K : Type) where
  db : FrameDb K
  clock : Nat

def FrameHistory.start : FrameHistory K := ⟨⟨.empty, .empty⟩, 0⟩

def performCall (db : FrameDb K) (now createdAt : Nat) (turn : FrameTurn K) : Except Raised (FrameDb K) :=
  match turn.call with
  | .registerFrame request => registerFrame turn.uuid now createdAt db request
  | .registerTransform request => registerTransform turn.uuid now createdAt db request

/-- A call that raises leaves the database as it was. -/
def historyStep (s : FrameHistory K) (turn : FrameTurn K) : FrameHistory K where
  db := match performCall s.db (s.clock + turn.waited) (s.clock + turn.waited + turn.worked) turn with
    | .ok db => db
    | .error _ => s.db
  clock := s.clock + turn.waited + turn.worked

/-! ## What the two registrations do -/

section Registrations
variable {uuid : String} {now createdAt : Nat} {db db' : FrameDb K} {tenantId projectId frameId : String}
  {request : FrameRequest K} {frame frame' : CoordinateFrameRow K}

omit [Field K] [LinearOrder K] in
theorem scopedFrame_eq_ok (h : scopedFrame db tenantId projectId frameId = .ok frame) :
    db.frames.get? frameId = some frame ∧ frame.tenantId = tenantId ∧ frame.projectId = projectId ∧ frame.deprecatedAt = none := by
  simp only [scopedFrame, bind_eq_ok, raiseIf_eq_ok, orRaise_eq_ok, not_or, not_not] at h
  obtain ⟨_, _, row, hrow, _, ⟨htenant, hproject, hdeprecated⟩, hframe⟩ := h
  cases hframe
  exact ⟨hrow, htenant, hproject, hdeprecated⟩

/-- A frame keeps its columns, except that it may be marked as deprecated. -/
structure SameFrame (frame frame' : CoordinateFrameRow K) : Prop where
  tenantId : frame'.tenantId = frame.tenantId
  projectId : frame'.projectId = frame.projectId
  parentFrameId : frame'.parentFrameId = frame.parentFrameId
  transformJson : frame'.transformJson = frame.transformJson
  createdAt : frame'.createdAt = frame.createdAt

omit [Field K] [LinearOrder K] in
theorem SameFrame.refl (frame : CoordinateFrameRow K) : SameFrame frame frame := ⟨rfl, rfl, rfl, rfl, rfl⟩

/-- What the registration of a frame does to the rows. -/
structure FrameRegistered (now createdAt : Nat) (db : FrameDb K) (request : FrameRequest K) (db' : FrameDb K) : Prop where
  transforms : db'.transforms = db.transforms
  keys : ∃ k, db'.frameIds = db.frameIds ++ [k] ∧ db.frames.get? k = none
  parent : ∀ id, given request.parentFrameId = some id → ∃ frame, db.frames.get? id = some frame ∧
    frame.tenantId = request.tenantId ∧ frame.projectId = request.projectId
  kept : ∀ k frame, db.frames.get? k = some frame → ∃ frame', db'.frames.get? k = some frame' ∧ SameFrame frame frame' ∧
    (frame'.deprecatedAt = frame.deprecatedAt ∨
      frame.deprecatedAt = none ∧ frame'.deprecatedAt = some now ∧ given request.supersedesFrameId = some k)
  old_or_new : ∀ k frame', db'.frames.get? k = some frame' →
    (∃ frame, db.frames.get? k = some frame ∧ SameFrame frame frame') ∨
      db.frames.get? k = none ∧ frame'.tenantId = request.tenantId ∧ frame'.projectId = request.projectId ∧
        frame'.parentFrameId = request.parentFrameId ∧ frame'.transformJson = request.transformToParent ∧ frame'.createdAt = createdAt

omit [Field K] [LinearOrder K] in
theorem mapM_scopedFrame_eq_ok {named : Option String} {found : Option (CoordinateFrameRow K)}
    (h : named.mapM (scopedFrame db tenantId projectId) = .ok found) :
    named = none ∧ found = none ∨ ∃ id frame, named = some id ∧ found = some frame ∧ db.frames.get? id = some frame ∧
      frame.tenantId = tenantId ∧ frame.projectId = projectId := by
  cases named with
  | none => exact .inl ⟨rfl, (Except.ok.inj h).symm⟩
  | some id =>
    obtain ⟨frame, hframe, hfound⟩ := map_eq_ok.mp h
    obtain ⟨hget, htenant, hproject, _⟩ := scopedFrame_eq_ok hframe
    exact .inr ⟨id, frame, rfl, hfound.symm, hget, htenant, hproject⟩

omit [Field K] [LinearOrder K] in
/-- The frame that is superseded is marked, the others stay as they are. -/
theorem supersedeFrame_spec {named : Option String} {superseded : Option (CoordinateFrameRow K)}
    {frames : Table (CoordinateFrameRow K) fun row => row.frameId}
    (hsuperseded : named.mapM (scopedFrame db tenantId projectId) = .ok superseded)
    (hframes : supersedeFrame now db superseded = .ok frames) (k : String) :
    frames.get? k = db.frames.get? k ∨
      ∃ old, db.frames.get? k = some old ∧ old.deprecatedAt = none ∧ named = some k ∧
        frames.get? k = some { old with deprecatedAt := some now } := by
  rcases mapM_scopedFrame_eq_ok hsuperseded with ⟨_, rfl⟩ | ⟨id, old, hnamed, rfl, hold, _⟩
  · left
    rw [← Except.ok.inj hframes]
  · simp only [supersedeFrame, bind_eq_ok, raiseIf_eq_ok, not_not] at hframes
    obtain ⟨_, hactive, hset⟩ := hframes
    cases hset
    obtain ⟨_, rfl⟩ := (Table.get?_eq_some_iff _ _ _).mp hold
    have hsame : db.frames.get? ({ old with deprecatedAt := some now } : CoordinateFrameRow K).frameId = some old := hold
    have hget := Table.get?_set db.frames hsame k
    by_cases hk : k = old.frameId
    · subst hk
      rw [if_pos rfl] at hget
      exact .inr ⟨old, hold, hactive, hnamed, hget⟩
    · rw [if_neg hk] at hget
      exact .inl hget

omit [Field K] [LinearOrder K] in
theorem supersedeFrame_keys {superseded : Option (CoordinateFrameRow K)} {frames : Table (CoordinateFrameRow K) fun row => row.frameId}
    (h : supersedeFrame now db superseded = .ok frames) : frames.rows.map (fun row => row.frameId) = db.frameIds := by
  cases superseded with
  | none =>
    cases h
    rfl
  | some old =>
    simp only [supersedeFrame, bind_eq_ok] at h
    obtain ⟨_, _, hset⟩ := h
    cases hset
    show (db.frames.rows.map _).map _ = _
    rw [List.map_map, FrameDb.frameIds]
    apply List.map_congr_left
    intro row _
    rw [Function.comp_apply]
    split_ifs with hkey
    · exact hkey.symm
    · rfl

theorem registerFrame_spec (h : registerFrame uuid now createdAt db request = .ok db') :
    FrameRegistered now createdAt db request db' := by
  simp only [registerFrame, bind_eq_ok, raiseIf_eq_ok, orRaise_eq_ok] at h
  obtain ⟨_, _, _, _, _, hfresh, parent, hparent, superseded, hsuperseded, _, _, frames, hframes, inserted, hinserted, hdb⟩ := h
  cases hdb
  have hspec := supersedeFrame_spec hsuperseded hframes
  have hget := Table.get?_insert hinserted
  rw [Bool.not_eq_true, Option.isSome_eq_false_iff, Option.isNone_iff_eq_none] at hfresh
  refine ⟨rfl, ⟨_, ?_, hfresh⟩, ?_, ?_, ?_⟩
  · show inserted.rows.map _ = _
    rw [(Table.insert?_eq_some hinserted).2, List.map_append, supersedeFrame_keys hframes]
    rfl
  · intro id hid
    rcases mapM_scopedFrame_eq_ok hparent with ⟨hnone, _⟩ | ⟨id', frame, hid', _, hget, hscope⟩
    · rw [hid] at hnone
      cases hnone
    · rw [hid] at hid'
      cases hid'
      exact ⟨frame, hget, hscope⟩
  · intro k frame hframe
    have hk : k ≠ (given request.frameId).getD uuid := by
      rintro rfl
      rw [hfresh] at hframe
      cases hframe
    rw [hget k, if_neg hk]
    rcases hspec k with heq | ⟨old, hold, hactive, hnamed, heq⟩
    · exact ⟨frame, heq.trans hframe, .refl frame, .inl rfl⟩
    · rw [hframe] at hold
      cases hold
      exact ⟨_, heq, ⟨rfl, rfl, rfl, rfl, rfl⟩, .inr ⟨hactive, rfl, hnamed⟩⟩
  · intro k frame' hframe'
    rw [hget k] at hframe'
    split_ifs at hframe' with hk
    · cases hframe'
      exact .inr ⟨hk ▸ hfresh, rfl, rfl, rfl, rfl, rfl⟩
    · left
      rcases hspec k with heq | ⟨old, hold, _, _, heq⟩
      · exact ⟨frame', heq.symm.trans hframe', .refl frame'⟩
      · rw [heq] at hframe'
        cases hframe'
        exact ⟨old, hold, ⟨rfl, rfl, rfl, rfl, rfl⟩⟩

/-- What the registration of a transform does to the rows. -/
structure TransformRegistered (now createdAt : Nat) (db : FrameDb K) (request : TransformRequest K) (db' : FrameDb K) : Prop where
  frames : db'.frames = db.frames
  source : ∃ frame, db.frames.get? request.sourceFrameId = some frame ∧ frame.tenantId = request.tenantId ∧
    frame.projectId = request.projectId ∧ frame.deprecatedAt = none
  target : ∃ frame, db.frames.get? request.targetFrameId = some frame ∧ frame.tenantId = request.tenantId ∧
    frame.projectId = request.projectId ∧ frame.deprecatedAt = none
  old_or_new : ∀ row ∈ db'.transforms.rows, row ∈ db.transforms.rows ∨
    (∃ old ∈ db.transforms.rows, old.deprecatedAt = none ∧ row = { old with deprecatedAt := some now }) ∨
      row.tenantId = request.tenantId ∧ row.projectId = request.projectId ∧ row.sourceFrameId = request.sourceFrameId ∧
        row.targetFrameId = request.targetFrameId ∧ row.createdAt = createdAt ∧ row.deprecatedAt = none ∧
        canonicalTransformMatrix request.toSpatialTransformContract = .ok row.matrixJson

omit [Field K] [LinearOrder K] in
theorem supersedeTransform_spec {sourceFrameId targetFrameId : String} {named : Option String}
    {transforms : Table (SpatialTransformRow K) fun row => row.transformId}
    (h : supersedeTransform now db tenantId projectId sourceFrameId targetFrameId named = .ok transforms)
    {row : SpatialTransformRow K} (hrow : row ∈ transforms.rows) :
    row ∈ db.transforms.rows ∨ ∃ old ∈ db.transforms.rows, old.deprecatedAt = none ∧ row = { old with deprecatedAt := some now } := by
  cases named with
  | none =>
    cases h
    exact .inl hrow
  | some supersedes =>
    simp only [supersedeTransform, bind_eq_ok, raiseIf_eq_ok, orRaise_eq_ok, not_not] at h
    obtain ⟨prior, hprior, _, _, _, hactive, _, _, hset⟩ := h
    cases hset
    obtain ⟨old, hold, hrow⟩ := List.mem_map.mp hrow
    split_ifs at hrow
    · exact .inr ⟨prior, ((Table.get?_eq_some_iff _ _ _).mp hprior).1, hactive, hrow.symm⟩
    · exact .inl (hrow ▸ hold)

theorem registerTransform_spec {request : TransformRequest K} (h : registerTransform uuid now createdAt db request = .ok db') :
    TransformRegistered now createdAt db request db' := by
  simp only [registerTransform, bind_eq_ok, raiseIf_eq_ok, orRaise_eq_ok] at h
  obtain ⟨_, _, canonical, hcanonical, source, hsource, target, htarget, _, _, transforms, htransforms, inserted, hinserted, hdb⟩ := h
  cases hdb
  refine ⟨rfl, ⟨source, scopedFrame_eq_ok hsource⟩, ⟨target, scopedFrame_eq_ok htarget⟩, ?_⟩
  intro row hrow
  rw [(Table.insert?_eq_some hinserted).2, List.mem_append, List.mem_singleton] at hrow
  rcases hrow with hold | rfl
  · exact (supersedeTransform_spec htransforms hold).imp_right .inl
  · exact .inr (.inr ⟨rfl, rfl, rfl, rfl, rfl, rfl, hcanonical⟩)

end Registrations

/-! ## Every graph can be built -/

/-- Every transform connects frames that were there before it and are not deprecated before it is; what has to be inverted can
be. -/
structure Coherent (s : FrameHistory K) : Prop where
  ends : ∀ row ∈ s.db.transforms.rows, ∀ id, id = row.sourceFrameId ∨ id = row.targetFrameId →
    ∃ frame, s.db.frames.get? id = some frame ∧ frame.tenantId = row.tenantId ∧ frame.projectId = row.projectId ∧
      frame.createdAt ≤ row.createdAt ∧
      ∀ deprecated, frame.deprecatedAt = some deprecated → ∃ before, row.deprecatedAt = some before ∧ before ≤ deprecated
  transforms : ∀ row ∈ s.db.transforms.rows, row.matrixJson.det ≠ 0
  parents : ∀ k frame, s.db.frames.get? k = some frame → given frame.parentFrameId ≠ none →
    ∀ m, frame.transformJson = some m → m.det ≠ 0
  created : ∀ k frame, s.db.frames.get? k = some frame → frame.createdAt ≤ s.clock
  deprecated : ∀ row ∈ s.db.transforms.rows, ∀ deprecated, row.deprecatedAt = some deprecated → deprecated ≤ s.clock

/-- The turn supersedes no frame that an active transform connects, and what it registers can be inverted. -/
def Careful (s : FrameHistory K) (turn : FrameTurn K) : Prop :=
  match turn.call with
  | .registerFrame request =>
    (∀ id, given request.supersedesFrameId = some id → ∀ row ∈ s.db.transforms.rows, row.deprecatedAt = none →
      id ≠ row.sourceFrameId ∧ id ≠ row.targetFrameId) ∧
      (given request.parentFrameId ≠ none → ∀ m, request.transformToParent = some m → m.det ≠ 0)
  | .registerTransform request => ∀ m, canonicalTransformMatrix request.toSpatialTransformContract = .ok m → m.det ≠ 0

section Invariant
variable {sqrt : K → K} {s : FrameHistory K} {turn : FrameTurn K} {now createdAt : Nat} {db' : FrameDb K}

omit [LinearOrder K] in
theorem Coherent.registerFrame {request : FrameRequest K} (hs : Coherent s) (hnow : s.clock ≤ now) (hcreated : now ≤ createdAt)
    (hspec : FrameRegistered now createdAt s.db request db')
    (hcareful : ∀ id, given request.supersedesFrameId = some id → ∀ row ∈ s.db.transforms.rows, row.deprecatedAt = none →
      id ≠ row.sourceFrameId ∧ id ≠ row.targetFrameId)
    (hparent : given request.parentFrameId ≠ none → ∀ m, request.transformToParent = some m → m.det ≠ 0) :
    Coherent ⟨db', createdAt⟩ := by
  refine ⟨?_, ?_, ?_, ?_, ?_⟩
  · intro row hrow id hid
    rw [hspec.transforms] at hrow
    obtain ⟨frame, hframe, htenant, hproject, hbefore, hdeprecated⟩ := hs.ends row hrow id hid
    obtain ⟨frame', hframe', hsame, hmark⟩ := hspec.kept id frame hframe
    refine ⟨frame', hframe', hsame.tenantId.trans htenant, hsame.projectId.trans hproject, hsame.createdAt.le.trans hbefore, ?_⟩
    intro at' hat
    rcases hmark with heq | ⟨_, heq, hnamed⟩
    · exact hdeprecated at' (heq ▸ hat)
    · cases hrowDeprecated : row.deprecatedAt with
      | none =>
        have hne := hcareful id hnamed row hrow hrowDeprecated
        exact (hid.elim hne.1 hne.2).elim
      | some before =>
        rw [heq] at hat
        cases hat
        exact ⟨before, rfl, (hs.deprecated row hrow before hrowDeprecated).trans hnow⟩
  · intro row hrow
    rw [hspec.transforms] at hrow
    exact hs.transforms row hrow
  · intro k frame' hframe' hgiven m hm
    rcases hspec.old_or_new k frame' hframe' with ⟨frame, hframe, hsame⟩ | ⟨_, _, _, hparentId, htransform, _⟩
    · exact hs.parents k frame hframe (hsame.parentFrameId ▸ hgiven) m (hsame.transformJson ▸ hm)
    · exact hparent (hparentId ▸ hgiven) m (htransform ▸ hm)
  · intro k frame' hframe'
    rcases hspec.old_or_new k frame' hframe' with ⟨frame, hframe, hsame⟩ | ⟨_, _, _, _, _, heq⟩
    · exact (hsame.createdAt.le.trans (hs.created k frame hframe)).trans (hnow.trans hcreated)
    · exact heq.le
  · intro row hrow before hbefore
    rw [hspec.transforms] at hrow
    exact (hs.deprecated row hrow before hbefore).trans (hnow.trans hcreated)

theorem Coherent.registerTransform {request : TransformRequest K} (hs : Coherent s) (hnow : s.clock ≤ now) (hcreated : now ≤ createdAt)
    (hspec : TransformRegistered now createdAt s.db request db')
    (hcareful : ∀ m, canonicalTransformMatrix request.toSpatialTransformContract = .ok m → m.det ≠ 0) :
    Coherent ⟨db', createdAt⟩ := by
  have hframes := hspec.frames
  refine ⟨?_, ?_, ?_, ?_, ?_⟩
  · intro row hrow id hid
    show ∃ frame, db'.frames.get? id = some frame ∧ _
    rw [hframes]
    rcases hspec.old_or_new row hrow with hold | ⟨old, hold, hactive, rfl⟩ | ⟨htenant, hproject, hsource, htarget, hat, _, _⟩
    · exact hs.ends row hold id hid
    · obtain ⟨frame, hframe, htenant, hproject, hbefore, hdeprecated⟩ := hs.ends old hold id hid
      refine ⟨frame, hframe, htenant, hproject, hbefore, ?_⟩
      intro at' hat
      obtain ⟨_, hsome, _⟩ := hdeprecated at' hat
      rw [hactive] at hsome
      cases hsome
    · have hfound : ∃ frame, s.db.frames.get? id = some frame ∧ frame.tenantId = request.tenantId ∧
          frame.projectId = request.projectId ∧ frame.deprecatedAt = none := by
        rcases hid with rfl | rfl
        · rw [hsource]
          exact hspec.source
        · rw [htarget]
          exact hspec.target
      obtain ⟨frame, hframe, htenant', hproject', hnone⟩ := hfound
      refine ⟨frame, hframe, htenant'.trans htenant.symm, hproject'.trans hproject.symm, ?_, ?_⟩
      · rw [hat]
        exact (hs.created id frame hframe).trans (hnow.trans hcreated)
      · intro at' hat'
        rw [hnone] at hat'
        cases hat'
  · intro row hrow
    rcases hspec.old_or_new row hrow with hold | ⟨old, hold, _, rfl⟩ | ⟨_, _, _, _, _, _, hcanonical⟩
    · exact hs.transforms row hold
    · exact hs.transforms old hold
    · exact hcareful _ hcanonical
  · intro k frame hframe
    rw [hframes] at hframe
    exact hs.parents k frame hframe
  · intro k frame hframe
    rw [hframes] at hframe
    exact (hs.created k frame hframe).trans (hnow.trans hcreated)
  · intro row hrow before hbefore
    rcases hspec.old_or_new row hrow with hold | ⟨old, hold, _, rfl⟩ | ⟨_, _, _, _, _, hnone, _⟩
    · exact (hs.deprecated row hold before hbefore).trans (hnow.trans hcreated)
    · cases hbefore
      exact hcreated
    · rw [hnone] at hbefore
      cases hbefore

omit [LinearOrder K] in
theorem Coherent.clock_le (hs : Coherent s) {clock : Nat} (h : s.clock ≤ clock) : Coherent ⟨s.db, clock⟩ :=
  ⟨hs.ends, hs.transforms, hs.parents, fun k frame hframe => (hs.created k frame hframe).trans h,
    fun row hrow before hbefore => (hs.deprecated row hrow before hbefore).trans h⟩

theorem historyStep_of_ok
    (h : performCall s.db (s.clock + turn.waited) (s.clock + turn.waited + turn.worked) turn = .ok db') :
    historyStep s turn = ⟨db', s.clock + turn.waited + turn.worked⟩ := by
  rw [historyStep, h]

theorem coherent_step (hcareful : Careful s turn) (hs : Coherent s) : Coherent (historyStep s turn) := by
  have hnow : s.clock ≤ s.clock + turn.waited := Nat.le_add_right _ _
  have hcreated : s.clock + turn.waited ≤ s.clock + turn.waited + turn.worked := Nat.le_add_right _ _
  unfold historyStep
  unfold Careful at hcareful
  cases hperform : performCall s.db (s.clock + turn.waited) (s.clock + turn.waited + turn.worked) turn with
  | error e => exact hs.clock_le (hnow.trans hcreated)
  | ok db' =>
    unfold performCall at hperform
    cases hcall : turn.call with
    | registerFrame request =>
      rw [hcall] at hperform hcareful
      exact hs.registerFrame hnow hcreated (registerFrame_spec hperform) hcareful.1 hcareful.2
    | registerTransform request =>
      rw [hcall] at hperform hcareful
      exact hs.registerTransform hnow hcreated (registerTransform_spec hperform) hcareful

omit [LinearOrder K] in
theorem coherent_start : Coherent (FrameHistory.start : FrameHistory K) := ⟨nofun, nofun, nofun, nofun, nofun⟩

omit [LinearOrder K] in
/-- An active transform connects active frames, now and at every time before. -/
theorem Coherent.active_ends (hs : Coherent s) {row : SpatialTransformRow K} (hrow : row ∈ s.db.transforms.rows) {id : String}
    (hid : id = row.sourceFrameId ∨ id = row.targetFrameId) {atTime : Option Nat} (hactive : row.activeAt atTime = true) :
    id ∈ activeIds s.db row.tenantId row.projectId atTime := by
  obtain ⟨frame, hframe, htenant, hproject, hbefore, hdeprecated⟩ := hs.ends row hrow id hid
  refine mem_activeIds_iff.mpr ⟨frame, hframe, htenant, hproject, ?_⟩
  unfold SpatialTransformRow.activeAt at hactive
  unfold CoordinateFrameRow.activeAt
  cases atTime with
  | none =>
    cases hframeDeprecated : frame.deprecatedAt with
    | none => rfl
    | some deprecated =>
      obtain ⟨_, hsome, _⟩ := hdeprecated deprecated hframeDeprecated
      rw [hsome] at hactive
      cases hactive
  | some atTime =>
    simp only [Bool.and_eq_true, decide_eq_true_iff] at hactive
    obtain ⟨⟨⟨hcreated, hopen⟩, _⟩, _⟩ := hactive
    rw [Bool.and_eq_true, decide_eq_true_iff]
    refine ⟨hbefore.trans hcreated, ?_⟩
    cases hframeDeprecated : frame.deprecatedAt with
    | none => rfl
    | some deprecated =>
      obtain ⟨before, hsome, hle⟩ := hdeprecated deprecated hframeDeprecated
      rw [hsome, Option.all_some, decide_eq_true_iff] at hopen
      exact decide_eq_true (hopen.trans_le hle)

theorem Coherent.usable (hs : Coherent s) (tenantId projectId : String) (atTime : Option Nat) :
    ∀ link ∈ frameLinks sqrt s.db tenantId projectId atTime, Usable (activeIds s.db tenantId projectId atTime) link := by
  intro link hlink
  rcases List.mem_append.mp hlink with hparent | htransform
  · obtain ⟨frame, hframe, hlink⟩ := List.mem_filterMap.mp hparent
    obtain ⟨parent, matrix, hparentId, hne, hmem, hmatrix, hsource, htarget, hlinkMatrix⟩ := parentLink_eq_some hlink
    refine ⟨?_, htarget ▸ hmem, ?_⟩
    · rw [hsource]
      exact List.mem_map_of_mem hframe
    · have hget := (Table.mem_rows_iff s.db.frames frame).mp (List.mem_of_mem_filter hframe)
      refine hlinkMatrix ▸ hs.parents frame.frameId frame hget ?_ matrix hmatrix
      rw [hparentId, given, Option.filter_some, if_pos (decide_eq_true hne)]
      exact Option.some_ne_none parent
  · obtain ⟨row, hrow, rfl⟩ := List.mem_map.mp htransform
    obtain ⟨hmem, rfl, rfl, hactive⟩ := mem_activeTransforms (mem_of_mem_newestPerPair hrow)
    exact ⟨hs.active_ends hmem (.inl rfl) hactive, hs.active_ends hmem (.inr rfl) hactive, hs.transforms row hmem⟩

end Invariant

/-- Between any two active frames there is a path or none, and nothing else can happen. -/
def Resolves (sqrt : K → K) (db : FrameDb K) : Prop :=
  ∀ (tenantId projectId source target : String) (atTime : Option Nat), source ∈ activeIds db tenantId projectId atTime →
    target ∈ activeIds db tenantId projectId atTime →
    (∃ r, resolveTransform sqrt db tenantId projectId source target atTime = .ok r) ∨
      ∃ type id, resolveTransform sqrt db tenantId projectId source target atTime = .error (notFoundError type id)

def levelFrame (frameId : String) (supersedes : Option String) : FrameTurn ℚ where
  call := .registerFrame {
    tenantId := "tenant"
    projectId := "project"
    frameId := some frameId
    axisDirections := [("x", "east"), ("y", "up"), ("z", "south")]
    supersedesFrameId := supersedes }
  uuid := frameId
  waited := 0
  worked := 0

def levelPose : Similarity ℚ where
  rotation := 1
  translation := 0
  scale := 1
  orthonormal := orthonormal_one
  proper := proper_one
  scale_pos := one_pos

def levelTransform : FrameTurn ℚ where
  call := .registerTransform { declaration .sourceToTarget .se3 levelPose with
    tenantId := "tenant"
    projectId := "project" }
  uuid := "transform"
  waited := 0
  worked := 0

def supersedingTurns : List (FrameTurn ℚ) :=
  [levelFrame "source" none, levelFrame "target" none, levelTransform, levelFrame "relocated" (some "source")]

def levelRow (frameId : String) (supersedes : Option String) (deprecatedAt : Option Nat) : CoordinateFrameRow ℚ :=
  ⟨frameId, "tenant", "project", none, none, none, supersedes, 0, deprecatedAt⟩

def levelTransformRow : SpatialTransformRow ℚ :=
  ⟨"transform", "tenant", "project", "source", "target", levelPose.matrix, none, [("rmse_m", .number 0)], "metric", none, none,
    none, 0, none⟩

def leveledDb : FrameDb ℚ where
  frames := ⟨[levelRow "source" none none, levelRow "target" none none], by decide⟩
  transforms := ⟨[levelTransformRow], by decide⟩

def supersededDb : FrameDb ℚ where
  frames := ⟨[levelRow "source" none (some 0), levelRow "target" none none, levelRow "relocated" (some "source") none], by decide⟩
  transforms := ⟨[levelTransformRow], by decide⟩

theorem run_frames : run historyStep FrameHistory.start [levelFrame "source" none, levelFrame "target" none] =
    ⟨⟨leveledDb.frames, .empty⟩, 0⟩ := by
  rfl

theorem registerTransform_level :
    performCall ⟨leveledDb.frames, .empty⟩ 0 0 levelTransform = .ok leveledDb := by
  have hcheck : checkTransformContract { declaration .sourceToTarget .se3 levelPose with observedAt := some 0 } = .ok () := by
    simp only [checkTransformContract, bind_eq_ok, raiseIf_eq_ok]
    refine ⟨(), ?_, (), ?_, (), ?_, (), ?_, (), ?_, (), ?_, (), ?_, (), ?_, ?_⟩
    · exact not_le_of_gt one_pos
    · exact List.cons_ne_nil _ _
    · decide
    · exact fun h => h.2 (isClose_self (by norm_num) 1)
    · exact Bool.false_ne_true
    · exact Bool.false_ne_true
    · exact fun h => Option.some_ne_none 0 h.1
    · intro h
      cases h.1
    · decide
  have hcanonical : canonicalTransformMatrix { declaration .sourceToTarget .se3 levelPose with observedAt := some 0 } =
      .ok levelPose.matrix := canonical_of_declares (declares_forward levelPose .se3 fun _ => rfl) (by decide)
  show (checkTransformContract { declaration .sourceToTarget .se3 levelPose with observedAt := some 0 } >>= fun _ =>
    canonicalTransformMatrix { declaration .sourceToTarget .se3 levelPose with observedAt := some 0 } >>= fun _ => _) = _
  rw [hcheck, hcanonical]
  rfl

theorem run_supersedingTurns : (run historyStep FrameHistory.start supersedingTurns).db = supersededDb := by
  have hrun : run historyStep FrameHistory.start supersedingTurns =
      run historyStep (run historyStep FrameHistory.start [levelFrame "source" none, levelFrame "target" none])
        [levelTransform, levelFrame "relocated" (some "source")] := rfl
  have hrelocated : historyStep ⟨leveledDb, 0⟩ (levelFrame "relocated" (some "source")) = ⟨supersededDb, 0⟩ :=
    historyStep_of_ok rfl
  have hlevel : historyStep ⟨⟨leveledDb.frames, .empty⟩, 0⟩ levelTransform = ⟨leveledDb, 0⟩ :=
    historyStep_of_ok registerTransform_level
  rw [hrun, run_frames, run_cons, hlevel, run_cons, hrelocated]
  rfl

/-- The transform still names the frame that is gone. -/
theorem resolveTransform_superseded (sqrt : ℚ → ℚ) :
    resolveTransform sqrt supersededDb "tenant" "project" "target" "relocated" none = .error (.keyError "source") := by
  have hids : activeIds supersededDb "tenant" "project" none = ["target", "relocated"] := by decide
  have hlinks : frameLinks sqrt supersededDb "tenant" "project" none = [transformLink sqrt levelTransformRow] := by
    have htransforms : activeTransforms supersededDb "tenant" "project" none = [levelTransformRow] := rfl
    rw [frameLinks, htransforms, newestPerPair, if_neg List.not_mem_nil]
    rfl
  have hgraph : transformGraph sqrt supersededDb "tenant" "project" none = .error (.keyError "source") := by
    rw [transformGraph, hlinks, hids]
    rfl
  unfold resolveTransform
  simp only [hids, hgraph]
  rfl

theorem careful_levelFrame (s : FrameHistory ℚ) (frameId : String) : Careful s (levelFrame frameId none) :=
  ⟨fun _ h => (Option.some_ne_none _ h.symm).elim, fun h => absurd rfl h⟩

theorem careful_levelTransform (s : FrameHistory ℚ) : Careful s levelTransform := by
  intro m hm
  have hcanonical : canonicalTransformMatrix (declaration .sourceToTarget .se3 levelPose) = .ok levelPose.matrix :=
    canonical_of_declares (declares_forward levelPose .se3 fun _ => rfl) (by decide)
  rw [hcanonical] at hm
  cases hm
  intro hzero
  have hone := congrArg Matrix.det levelPose.matrix_mul_inverse
  rw [Matrix.det_mul, hzero, zero_mul, Matrix.det_one] at hone
  exact zero_ne_one hone

/-- A parent was registered before its children, in the same project. -/
def Parented (db : FrameDb K) : Prop :=
  ∀ k frame, db.frames.get? k = some frame → ∀ parent, frame.parentFrameId = some parent →
    ∃ row, db.frames.get? parent = some row ∧ row.tenantId = frame.tenantId ∧ row.projectId = frame.projectId ∧
      db.frameIds.idxOf parent < db.frameIds.idxOf k

/-- No frame is registered with an empty string for its parent, which passes for none. -/
def NamesParent (_ : FrameHistory K) (turn : FrameTurn K) : Prop :=
  match turn.call with
  | .registerFrame request => request.parentFrameId ≠ some ""
  | .registerTransform _ => True

section Hierarchy
variable {db db' : FrameDb K} {tenantId projectId newFrameId parentFrameId : String} {now createdAt : Nat} {request : FrameRequest K}
  {s : FrameHistory K} {turn : FrameTurn K}

omit [Field K] [LinearOrder K] in
/-- The walk up the parents ends before its turns do and meets no frame twice. -/
theorem assertFrameParentChainAcyclic_ok (hdb : Parented db) (hfresh : db.frames.get? newFrameId = none) {turns : Nat}
    {visited : List String} {current : String} {row : CoordinateFrameRow K} (hrow : db.frames.get? current = some row)
    (htenant : row.tenantId = tenantId) (hproject : row.projectId = projectId) (hturns : db.frameIds.idxOf current + 2 ≤ turns)
    (hvisited : ∀ k ∈ visited, db.frameIds.idxOf current < db.frameIds.idxOf k) :
    assertFrameParentChainAcyclic db tenantId projectId newFrameId parentFrameId turns visited (some current) = .ok () := by
  induction turns generalizing visited current row with
  | zero => omega
  | succ turns ih =>
    have hne : current ≠ newFrameId := by
      rintro rfl
      rw [hrow] at hfresh
      cases hfresh
    have hnew : current ∉ visited := fun hmem => lt_irrefl _ (hvisited current hmem)
    have hnext : assertFrameParentChainAcyclic db tenantId projectId newFrameId parentFrameId turns (current :: visited)
        row.parentFrameId = .ok () := by
      cases hparent : row.parentFrameId with
      | none =>
        obtain ⟨rest, rfl⟩ : ∃ rest, turns = rest + 1 := ⟨turns - 1, by omega⟩
        rfl
      | some parent =>
        obtain ⟨above, habove, htenant', hproject', hlt⟩ := hdb current row hrow parent hparent
        refine ih habove (htenant'.trans htenant) (hproject'.trans hproject) (by omega) ?_
        intro k hk
        rcases List.mem_cons.mp hk with rfl | hk
        · exact hlt
        · exact hlt.trans (hvisited k hk)
    simp only [assertFrameParentChainAcyclic, bind_eq_ok, raiseIf_eq_ok, orRaise_eq_ok, not_or, not_not]
    exact ⟨(), ⟨hne, hnew⟩, row, hrow, (), ⟨htenant, hproject⟩, hnext⟩

omit [Field K] [LinearOrder K] in
theorem mem_frameIds {k : String} {frame : CoordinateFrameRow K} (h : db.frames.get? k = some frame) : k ∈ db.frameIds := by
  obtain ⟨hmem, rfl⟩ := (Table.get?_eq_some_iff _ _ _).mp h
  exact List.mem_map_of_mem hmem

omit [Field K] [LinearOrder K] in
theorem parented_registerFrame (hspec : FrameRegistered now createdAt db request db') (hnamed : request.parentFrameId ≠ some "")
    (hdb : Parented db) : Parented db' := by
  obtain ⟨new, hkeys, hnew⟩ := hspec.keys
  have hold : ∀ {k frame}, db.frames.get? k = some frame → db'.frameIds.idxOf k = db.frameIds.idxOf k := by
    intro k frame hk
    rw [hkeys, List.idxOf_append_of_mem (mem_frameIds hk)]
  intro k frame' hframe' parent hparent
  rcases hspec.old_or_new k frame' hframe' with ⟨frame, hframe, hsame⟩ | ⟨hnone, htenant, hproject, hparentId, _, _⟩
  · obtain ⟨row, hrow, htenant, hproject, hlt⟩ := hdb k frame hframe parent (hsame.parentFrameId ▸ hparent)
    obtain ⟨row', hrow', hsame', _⟩ := hspec.kept parent row hrow
    refine ⟨row', hrow', ?_, ?_, ?_⟩
    · rw [hsame'.tenantId, htenant, hsame.tenantId]
    · rw [hsame'.projectId, hproject, hsame.projectId]
    · rw [hold hrow, hold hframe]
      exact hlt
  · have hgiven : given request.parentFrameId = some parent := by
      rw [hparentId] at hparent
      rw [hparent] at hnamed ⊢
      have hne : parent ≠ "" := fun heq => hnamed (congrArg some heq)
      rw [given, Option.filter_some, if_pos (decide_eq_true hne)]
    obtain ⟨row, hrow, htenantRow, hprojectRow⟩ := hspec.parent parent hgiven
    obtain ⟨row', hrow', hsame', _⟩ := hspec.kept parent row hrow
    refine ⟨row', hrow', ?_, ?_, ?_⟩
    · rw [hsame'.tenantId, htenantRow, htenant]
    · rw [hsame'.projectId, hprojectRow, hproject]
    · have hk : k ∉ db.frameIds := (Table.get?_eq_none_iff _ _).mp hnone
      rw [hold hrow, hkeys, List.idxOf_append_of_notMem hk]
      exact (List.idxOf_lt_length_of_mem (mem_frameIds hrow)).trans_le (Nat.le_add_right _ _)

omit [Field K] [LinearOrder K] in
theorem parented_start : Parented (FrameHistory.start : FrameHistory K).db := by
  intro k frame hframe
  cases hframe

theorem parented_step (hnamed : NamesParent s turn) (hs : Parented s.db) : Parented (historyStep s turn).db := by
  unfold historyStep
  unfold NamesParent at hnamed
  cases hperform : performCall s.db (s.clock + turn.waited) (s.clock + turn.waited + turn.worked) turn with
  | error e => exact hs
  | ok db' =>
    unfold performCall at hperform
    cases hcall : turn.call with
    | registerFrame request =>
      rw [hcall] at hperform hnamed
      exact parented_registerFrame (registerFrame_spec hperform) hnamed hs
    | registerTransform request =>
      rw [hcall] at hperform
      show Parented db'
      unfold Parented FrameDb.frameIds
      rw [(registerTransform_spec hperform).frames]
      exact hs

end Hierarchy

/-- In every run the parents of an active frame form a chain: a frame with a fresh identifier can be registered under it. -/
theorem checkParent_of_run {turns : List (FrameTurn K)} (h : Along historyStep NamesParent FrameHistory.start turns)
    {tenantId projectId frameId newFrameId : String} {parent : CoordinateFrameRow K}
    (hparent : scopedFrame (run historyStep FrameHistory.start turns).db tenantId projectId frameId = .ok parent)
    (hfresh : (run historyStep FrameHistory.start turns).db.frames.get? newFrameId = none) :
    checkParent (run historyStep FrameHistory.start turns).db tenantId projectId newFrameId (some parent) = .ok () := by
  have hdb : Parented (run historyStep FrameHistory.start turns).db :=
    run_invariant_along (fun _ _ => parented_step) (I := fun s => Parented s.db) parented_start h
  obtain ⟨hget, htenant, hproject, _⟩ := scopedFrame_eq_ok hparent
  obtain ⟨_, rfl⟩ := (Table.get?_eq_some_iff _ _ _).mp hget
  have hne : parent.frameId ≠ newFrameId := by
    intro heq
    rw [← heq, hget] at hfresh
    cases hfresh
  have hlt := List.idxOf_lt_length_of_mem (mem_frameIds hget)
  rw [FrameDb.frameIds, List.length_map] at hlt
  simp only [checkParent, bind_eq_ok, raiseIf_eq_ok]
  exact ⟨(), hne, assertFrameParentChainAcyclic_ok hdb hfresh hget htenant hproject (Nat.succ_le_succ hlt)
    fun _ hk => absurd hk List.not_mem_nil⟩

theorem checkParent_of_levelFrame :
    checkParent (run historyStep FrameHistory.start [levelFrame "source" none]).db "tenant" "project" "target"
      (some (levelRow "source" none none)) = .ok () := by
  have hnamed : Along historyStep NamesParent FrameHistory.start [levelFrame "source" none] := ⟨nofun, trivial⟩
  have hparent : scopedFrame (run historyStep FrameHistory.start [levelFrame "source" none]).db "tenant" "project" "source" =
      .ok (levelRow "source" none none) := rfl
  exact checkParent_of_run hnamed hparent rfl

/-! ## One active transform for each pair of frames -/

/-- The transform is in force between the two frames of a project. -/
def Connecting (row : SpatialTransformRow K) (tenantId projectId : String) (pair : Sym2 String) : Prop :=
  row.tenantId = tenantId ∧ row.projectId = projectId ∧ s(row.sourceFrameId, row.targetFrameId) = pair ∧ row.deprecatedAt = none

/-- No two transforms in force connect the same frames, and every transform has an identifier. -/
structure SinglePair (db : FrameDb K) : Prop where
  single : ∀ {tenantId projectId pair}, ∀ row ∈ db.transforms.rows, ∀ row' ∈ db.transforms.rows,
    Connecting row tenantId projectId pair → Connecting row' tenantId projectId pair → row = row'
  named : ∀ row ∈ db.transforms.rows, row.transformId ≠ ""

section Supersession
variable {uuid : String} {now createdAt : Nat} {db db' : FrameDb K} {request : TransformRequest K} {row : SpatialTransformRow K}
  {s : FrameHistory K} {turn : FrameTurn K} {tenantId projectId sourceFrameId targetFrameId : String}
  {transforms : Table (SpatialTransformRow K) fun row => row.transformId}

omit [Field K] [LinearOrder K] in
theorem given_eq_some_iff {value : Option String} {text : String} : given value = some text ↔ value = some text ∧ text ≠ "" := by
  rw [given, Option.filter_eq_some_iff, decide_eq_true_iff]

omit [Field K] [LinearOrder K] in
theorem mem_of_supersedeTransform {named : Option String}
    (h : supersedeTransform now db tenantId projectId sourceFrameId targetFrameId named = .ok transforms)
    (hrow : row ∈ transforms.rows) (hactive : row.deprecatedAt = none) : row ∈ db.transforms.rows := by
  rcases supersedeTransform_spec h hrow with hmem | ⟨_, _, _, rfl⟩
  · exact hmem
  · cases hactive

omit [Field K] [LinearOrder K] in
/-- What is in force after a supersession was in force before, and is not what was superseded. -/
theorem connecting_supersedeTransform (hdb : SinglePair db) {named : Option String} {pair : Sym2 String}
    (h : supersedeTransform now db tenantId projectId sourceFrameId targetFrameId named = .ok transforms)
    (hrow : row ∈ transforms.rows) (hconnecting : Connecting row tenantId projectId pair) :
    row ∈ db.transforms.rows ∧ (pair = s(sourceFrameId, targetFrameId) → named = none) := by
  cases named with
  | none =>
    cases h
    exact ⟨hrow, fun _ => rfl⟩
  | some supersedes =>
    simp only [supersedeTransform, bind_eq_ok, raiseIf_eq_ok, orRaise_eq_ok, not_or, not_not] at h
    obtain ⟨prior, hprior, _, ⟨htenant, hproject⟩, _, hactive, _, hpair, hset⟩ := h
    cases hset
    obtain ⟨hmem, _⟩ := (Table.get?_eq_some_iff _ _ _).mp hprior
    obtain ⟨old, hold, hrow⟩ := List.mem_map.mp hrow
    split_ifs at hrow with hkey
    · rw [← hrow] at hconnecting
      cases hconnecting.2.2.2
    · subst hrow
      refine ⟨hold, ?_⟩
      rintro rfl
      have heq := hdb.single old hold prior hmem hconnecting ⟨htenant, hproject, hpair, hactive⟩
      exact absurd (congrArg SpatialTransformRow.transformId heq) hkey

theorem singlePair_registerTransform (huuid : uuid ≠ "") (hdb : SinglePair db)
    (h : registerTransform uuid now createdAt db request = .ok db') : SinglePair db' := by
  simp only [registerTransform, bind_eq_ok, raiseIf_eq_ok, orRaise_eq_ok] at h
  obtain ⟨_, _, canonical, _, _, _, _, _, _, hconflict, transforms, htransforms, inserted, hinserted, hdb'⟩ := h
  cases hdb'
  have hrows := (Table.insert?_eq_some hinserted).2
  -- No transform in force is left between the two frames, since the one that was there had to be named.
  have hcleared : ∀ row ∈ transforms.rows,
      ¬ Connecting row request.tenantId request.projectId s(request.sourceFrameId, request.targetFrameId) := by
    intro row hrow hconnecting
    obtain ⟨hmem, hnamed⟩ := connecting_supersedeTransform hdb htransforms hrow hconnecting
    obtain ⟨htenant, hproject, hpair, hactive⟩ := hconnecting
    apply hconflict
    rw [Option.any_eq_true]
    cases hfound : db.transforms.rows.find? fun row => row.tenantId = request.tenantId && row.projectId = request.projectId &&
        s(row.sourceFrameId, row.targetFrameId) = s(request.sourceFrameId, request.targetFrameId) && row.deprecatedAt.isNone with
    | none =>
      have hnone := List.find?_eq_none.mp hfound row hmem
      rw [htenant, hproject, hpair, hactive] at hnone
      simp at hnone
    | some active =>
      refine ⟨active, rfl, decide_eq_true fun heq => ?_⟩
      have hgiven := given_eq_some_iff.mpr ⟨heq, hdb.named active (List.mem_of_find?_eq_some hfound)⟩
      rw [hnamed rfl] at hgiven
      cases hgiven
  have hid : (given (some request.transformId)).getD uuid ≠ "" := by
    cases hgiven : given (some request.transformId) with
    | none => exact huuid
    | some id => exact (given_eq_some_iff.mp hgiven).2
  refine ⟨?_, ?_⟩
  · intro tenantId projectId pair row hrow row' hrow' hrowIn hrowIn'
    rw [hrows, List.mem_append, List.mem_singleton] at hrow hrow'
    rcases hrow with hold | rfl <;> rcases hrow' with hold' | rfl
    · have hmem := mem_of_supersedeTransform htransforms hold hrowIn.2.2.2
      have hmem' := mem_of_supersedeTransform htransforms hold' hrowIn'.2.2.2
      exact hdb.single row hmem row' hmem' hrowIn hrowIn'
    · obtain ⟨rfl, rfl, rfl, _⟩ := hrowIn'
      exact absurd hrowIn (hcleared row hold)
    · obtain ⟨rfl, rfl, rfl, _⟩ := hrowIn
      exact absurd hrowIn' (hcleared row' hold')
    · rfl
  · intro row hrow
    rw [hrows, List.mem_append, List.mem_singleton] at hrow
    rcases hrow with hold | rfl
    · rcases supersedeTransform_spec htransforms hold with hmem | ⟨old, hmem, _, rfl⟩
      · exact hdb.named row hmem
      · exact hdb.named old hmem
    · exact hid

theorem singlePair_step (huuid : turn.uuid ≠ "") (hs : SinglePair s.db) : SinglePair (historyStep s turn).db := by
  unfold historyStep
  cases hperform : performCall s.db (s.clock + turn.waited) (s.clock + turn.waited + turn.worked) turn with
  | error e => exact hs
  | ok db' =>
    unfold performCall at hperform
    cases hcall : turn.call with
    | registerFrame request =>
      rw [hcall] at hperform
      have htransforms := (registerFrame_spec hperform).transforms
      exact ⟨htransforms ▸ hs.single, htransforms ▸ hs.named⟩
    | registerTransform request =>
      rw [hcall] at hperform
      exact singlePair_registerTransform huuid hs hperform

omit [Field K] [LinearOrder K] in
theorem singlePair_start : SinglePair (FrameHistory.start : FrameHistory K).db := ⟨nofun, nofun⟩

omit [Field K] [LinearOrder K] in
/-- Where no two rows have the same pair, all of them count. -/
theorem newestPerPair_eq {seenPairs : List (Sym2 String)} {rows : List (SpatialTransformRow K)}
    (hnew : ∀ row ∈ rows, s(row.sourceFrameId, row.targetFrameId) ∉ seenPairs)
    (hdistinct : rows.Pairwise fun row row' => s(row.sourceFrameId, row.targetFrameId) ≠ s(row'.sourceFrameId, row'.targetFrameId)) :
    newestPerPair seenPairs rows = rows := by
  induction rows generalizing seenPairs with
  | nil => rfl
  | cons row rest ih =>
    obtain ⟨hfirst, hrest⟩ := List.pairwise_cons.mp hdistinct
    rw [newestPerPair, if_neg (hnew row List.mem_cons_self), ih _ hrest]
    intro row' hrow' hmem
    rcases List.mem_cons.mp hmem with heq | hseen
    · exact hfirst row' hrow' heq.symm
    · exact hnew row' (List.mem_cons_of_mem row hrow') hseen

end Supersession

/-- In every run at most one transform between two frames is in force, so that no transform of the current graph is passed
over. -/
theorem newestPerPair_of_run {turns : List (FrameTurn K)} (h : Along historyStep (fun _ turn => turn.uuid ≠ "") FrameHistory.start turns)
    (tenantId projectId : String) :
    newestPerPair [] (activeTransforms (run historyStep FrameHistory.start turns).db tenantId projectId none) =
      activeTransforms (run historyStep FrameHistory.start turns).db tenantId projectId none := by
  have hdb : SinglePair (run historyStep FrameHistory.start turns).db :=
    run_invariant_along (fun _ _ => singlePair_step) (I := fun s => SinglePair s.db) singlePair_start h
  apply newestPerPair_eq (fun _ _ => List.not_mem_nil)
  have hnodup : (activeTransforms (run historyStep FrameHistory.start turns).db tenantId projectId none).Nodup := by
    refine (descending_descend _ _).1.nodup_iff.mpr (List.Nodup.filter _ ?_)
    exact List.Nodup.of_map _ (run historyStep FrameHistory.start turns).db.transforms.nodup
  refine hnodup.imp_of_mem ?_
  intro row row' hrow hrow' hne hpair
  obtain ⟨hmem, htenant, hproject, hactive⟩ := mem_activeTransforms hrow
  obtain ⟨hmem', htenant', hproject', hactive'⟩ := mem_activeTransforms hrow'
  exact hne (hdb.single row hmem row' hmem' ⟨htenant, hproject, rfl, Option.isNone_iff_eq_none.mp hactive⟩
    ⟨htenant', hproject', hpair.symm, Option.isNone_iff_eq_none.mp hactive'⟩)

theorem newestPerPair_of_levelTurns :
    newestPerPair [] (activeTransforms (run historyStep FrameHistory.start supersedingTurns).db "tenant" "project" none) =
      activeTransforms (run historyStep FrameHistory.start supersedingTurns).db "tenant" "project" none := by
  have hnamed : Along historyStep (fun _ turn => turn.uuid ≠ "") FrameHistory.start supersedingTurns :=
    ⟨by decide, by decide, by decide, by decide, trivial⟩
  exact newestPerPair_of_run hnamed "tenant" "project"

end SpatialData

end Sip
