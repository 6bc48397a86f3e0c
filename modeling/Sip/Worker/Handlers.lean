import Mathlib.Algebra.Order.Field.Rat
import Sip.Canonical
import Sip.Errors

/-!
# Two handlers of the worker

`depth.normalize` masks the pixels of a depth grid that are not usable; `change.detect`
compares two point clouds. What a handler returns is encoded as canonical JSON, which has no
text for a number that is not finite. The checkpoint that a handler takes is left out.
-/

namespace Sip

set_option autoImplicit false

/-- A float, as an array holds it. -/
inductive Reading where
  | finite (x : PyFloat)
  | infinite (negative : Bool)
  | nan

namespace Reading

/-- `np.isfinite`. -/
def isFinite : Reading → Bool
  | .finite _ => true
  | _ => false

/-- `a >= b`. -/
def atLeast : Reading → Reading → Bool
  | .nan, _ => false
  | _, .nan => false
  | .infinite false, _ => true
  | .infinite true, .infinite negative => negative
  | .infinite true, .finite _ => false
  | .finite _, .infinite negative => negative
  | .finite x, .finite y => y.value ≤ x.value

def isPositive : Reading → Bool
  | .finite x => 0 < x.value
  | .infinite negative => !negative
  | .nan => false

/-- The text of a number, with `allow_nan=False`. -/
def toJson : Reading → Except Raised Json
  | .finite x => .ok (.float x)
  | _ => .error (.valueError "Out of range float values are not JSON compliant")

end Reading

/-- A rectangular array of two dimensions. -/
structure Grid where
  rows : List (List Reading)
  width : Nat
  rectangular : ∀ row ∈ rows, row.length = width

/-- `np.ones_like`. -/
def Grid.onesLike (grid : Grid) : Grid where
  rows := grid.rows.map fun row => row.map fun _ => .finite .one
  width := grid.width
  rectangular := by
    intro row hrow
    obtain ⟨old, hold, rfl⟩ := List.mem_map.mp hrow
    rw [List.length_map, grid.rectangular old hold]

structure NormalizedDepth where
  depthM : List (List Reading)
  validMask : List (List Nat)
  validFraction : Reading
  invalidLowConfidence : Nat

/-- The depth is finite and positive, and the confidence high enough. -/
def validPixel (minimum : Reading) (pixel : Reading × Reading) : Bool :=
  pixel.1.isFinite && pixel.1.isPositive && pixel.2.atLeast minimum

def pixels (depth confidence : Grid) : List (List (Reading × Reading)) := List.zipWith List.zip depth.rows confidence.rows

/-- The fraction is a mean, rounded as `mean` says; there is none without a pixel. -/
def normalizeDepth (mean : Nat → Nat → PyFloat) (depth : Grid) (confidence : Option Grid) (minimum : Reading) :
    Except Raised NormalizedDepth := do
  let confidence := confidence.getD depth.onesLike
  raiseIf (depth.rows.length ≠ confidence.rows.length ∨ depth.width ≠ confidence.width ∨ depth.rows = [])
    (validationError "DEPTH_SHAPE_INVALID" "depth and confidence must be equal-sized 2D arrays")
  let grid := pixels depth confidence
  let count := grid.flatten.countP (validPixel minimum)
  return {
    depthM := grid.map fun row => row.map fun pixel => if validPixel minimum pixel then pixel.1 else .nan
    validMask := grid.map fun row => row.map fun pixel => if validPixel minimum pixel then 1 else 0
    validFraction := if grid.flatten = [] then .nan else .finite (mean count grid.flatten.length)
    invalidLowConfidence := grid.flatten.length - count }

namespace NormalizedDepth

def toJson (out : NormalizedDepth) : Except Raised Json := do
  let depth ← out.depthM.mapM fun row => Json.arr <$> row.mapM Reading.toJson
  let fraction ← out.validFraction.toJson
  return .obj [("depth_m", .arr depth), ("valid_mask", .arr (out.validMask.map fun row => .arr (row.map fun bit => .int bit))),
    ("valid_fraction", fraction), ("source_aware_uncertainty", .obj [("invalid_low_confidence", .int out.invalidLowConfidence)])]

/-- `canonical_json(handler_output)`. -/
def canonicalBytes (out : NormalizedDepth) : Except Raised Bytes := canonicalJson <$> out.toJson

/-- The pixels that are marked as valid are those whose depth is kept. -/
def MaskMatches (out : NormalizedDepth) : Prop :=
  out.validMask = out.depthM.map fun row => row.map fun depth => if depth.isFinite then 1 else 0

end NormalizedDepth

section Normalization
variable {mean : Nat → Nat → PyFloat} {depth : Grid} {confidence : Option Grid} {minimum : Reading} {out : NormalizedDepth}
  {pixel : Reading × Reading}

theorem exists_mapM_iff {α β : Type} {f : α → Except Raised β} {xs : List α} :
    (∃ ys, xs.mapM f = .ok ys) ↔ ∀ x ∈ xs, ∃ y, f x = .ok y := by
  induction xs with
  | nil => exact iff_of_true ⟨[], rfl⟩ nofun
  | cons x xs ih =>
    rw [List.forall_mem_cons, ← ih]
    simp only [List.mapM_cons, bind_eq_ok]
    constructor
    · rintro ⟨_, y, hy, ys, hys, _⟩
      exact ⟨⟨y, hy⟩, ys, hys⟩
    · rintro ⟨⟨y, hy⟩, ys, hys⟩
      exact ⟨_, y, hy, ys, hys, rfl⟩

theorem Reading.toJson_ok_iff {r : Reading} : (∃ v, r.toJson = .ok v) ↔ r.isFinite = true := by
  cases r with
  | finite x => exact iff_of_true ⟨_, rfl⟩ rfl
  | infinite negative => exact iff_of_false (fun ⟨_, h⟩ => nomatch h) Bool.false_ne_true
  | nan => exact iff_of_false (fun ⟨_, h⟩ => nomatch h) Bool.false_ne_true

theorem isFinite_of_valid (h : validPixel minimum pixel = true) : pixel.1.isFinite = true := by
  rw [validPixel, Bool.and_eq_true, Bool.and_eq_true] at h
  exact h.1.1

/-- A pixel has a finite depth in the result exactly when it is valid. -/
theorem isFinite_kept_iff : (if validPixel minimum pixel then pixel.1 else Reading.nan).isFinite = validPixel minimum pixel := by
  cases hvalid : validPixel minimum pixel with
  | true => exact isFinite_of_valid hvalid
  | false => rfl

theorem maskMatches_of_normalizeDepth (h : normalizeDepth mean depth confidence minimum = .ok out) : out.MaskMatches := by
  simp only [normalizeDepth, bind_eq_ok] at h
  obtain ⟨_, _, hout⟩ := h
  cases hout
  unfold NormalizedDepth.MaskMatches
  rw [List.map_map]
  apply List.map_congr_left
  intro row _
  rw [Function.comp_apply, List.map_map]
  apply List.map_congr_left
  intro pixel _
  rw [Function.comp_apply, isFinite_kept_iff]

/-- A row of numbers has a text when all of them are finite. -/
theorem row_toJson_ok_iff (row : List Reading) :
    (∃ v, (Json.arr <$> row.mapM Reading.toJson : Except Raised Json) = .ok v) ↔ ∀ r ∈ row, r.isFinite = true := by
  have hrow : (∃ v, (Json.arr <$> row.mapM Reading.toJson : Except Raised Json) = .ok v) ↔
      ∃ items, row.mapM Reading.toJson = .ok items := by
    simp only [map_eq_ok]
    exact ⟨fun ⟨_, items, h, _⟩ => ⟨items, h⟩, fun ⟨items, h⟩ => ⟨_, items, h, rfl⟩⟩
  rw [hrow, exists_mapM_iff]
  exact forall₂_congr fun _ _ => Reading.toJson_ok_iff

theorem canonicalBytes_ok_iff (out : NormalizedDepth) :
    (∃ bytes, out.canonicalBytes = .ok bytes) ↔
      (∀ row ∈ out.depthM, ∀ r ∈ row, r.isFinite = true) ∧ out.validFraction.isFinite = true := by
  have hdepth : (∀ row ∈ out.depthM, ∀ r ∈ row, r.isFinite = true) ↔
      ∃ depth, (out.depthM.mapM fun row => (Json.arr <$> row.mapM Reading.toJson : Except Raised Json)) = .ok depth := by
    rw [exists_mapM_iff]
    exact forall₂_congr fun row _ => (row_toJson_ok_iff row).symm
  rw [hdepth, ← Reading.toJson_ok_iff]
  simp only [NormalizedDepth.canonicalBytes, map_eq_ok, NormalizedDepth.toJson, bind_eq_ok]
  constructor
  · rintro ⟨_, _, ⟨depth, hdepth, fraction, hfraction, _⟩, _⟩
    exact ⟨⟨depth, hdepth⟩, fraction, hfraction⟩
  · rintro ⟨⟨depth, hdepth⟩, fraction, hfraction⟩
    exact ⟨_, _, ⟨depth, hdepth, fraction, hfraction, rfl⟩, rfl⟩

/-- What `depth.normalize` returns can be encoded, and marks the pixels it keeps, exactly when there is a pixel and all of
them are valid. -/
theorem normalizeDepth_encodable_iff (h : normalizeDepth mean depth confidence minimum = .ok out) :
    ((∃ bytes, out.canonicalBytes = .ok bytes) ∧ out.MaskMatches) ↔
      (pixels depth (confidence.getD depth.onesLike)).flatten ≠ [] ∧
        ∀ pixel ∈ (pixels depth (confidence.getD depth.onesLike)).flatten, validPixel minimum pixel = true := by
  rw [and_iff_left (maskMatches_of_normalizeDepth h), canonicalBytes_ok_iff]
  simp only [normalizeDepth, bind_eq_ok] at h
  obtain ⟨_, _, hout⟩ := h
  cases hout
  have hfraction : ∀ x : PyFloat, (if (pixels depth (confidence.getD depth.onesLike)).flatten = [] then Reading.nan
      else .finite x).isFinite = true ↔ (pixels depth (confidence.getD depth.onesLike)).flatten ≠ [] := by
    intro x
    split_ifs with hempty
    · exact iff_of_false Bool.false_ne_true (not_not.mpr hempty)
    · exact iff_of_true rfl hempty
  rw [hfraction, and_comm]
  apply and_congr Iff.rfl
  simp only [List.forall_mem_map, isFinite_kept_iff, List.mem_flatten]
  constructor
  · rintro hall pixel ⟨row, hrow, hpixel⟩
    exact hall row hrow pixel hpixel
  · intro hall row hrow pixel hpixel
    exact hall pixel ⟨row, hrow, hpixel⟩

end Normalization

/-- A grid of one pixel. -/
def onePixel (reading : Reading) : Grid where
  rows := [[reading]]
  width := 1
  rectangular := by
    intro row hrow
    rw [List.mem_singleton.mp hrow]
    rfl

theorem normalizeDepth_encodable_onePixel :
    ∃ out, normalizeDepth (fun _ _ => .one) (onePixel (.finite .one)) none (.finite .one) = .ok out ∧
      (((∃ bytes, out.canonicalBytes = .ok bytes) ∧ out.MaskMatches) ↔
        (pixels (onePixel (.finite .one)) (Option.getD none (onePixel (.finite .one)).onesLike)).flatten ≠ [] ∧
          ∀ pixel ∈ (pixels (onePixel (.finite .one)) (Option.getD none (onePixel (.finite .one)).onesLike)).flatten,
            validPixel (.finite .one) pixel = true) := by
  obtain ⟨out, hout⟩ : ∃ out, normalizeDepth (fun _ _ => .one) (onePixel (.finite .one)) none (.finite .one) = .ok out := ⟨_, rfl⟩
  exact ⟨out, hout, normalizeDepth_encodable_iff hout⟩

/-- One pixel without a depth is enough. -/
theorem not_encodable_of_zero_depth : ¬ ∀ (mean : Nat → Nat → PyFloat) (depth : Grid) (confidence : Option Grid) (minimum : Reading)
    (out : NormalizedDepth), normalizeDepth mean depth confidence minimum = .ok out →
      (∃ bytes, out.canonicalBytes = .ok bytes) ∧ out.MaskMatches := by
  intro h
  obtain ⟨⟨_, hbytes⟩, _⟩ := h (fun _ _ => .zero) (onePixel (.finite .zero)) none (.finite .one) _ rfl
  cases hbytes

/-! ## Change detection -/

section ChangeDetection
variable {K : Type} [Field K] [LinearOrder K]

structure ChangeReport (K : Type) where
  addedIndices : List Nat
  removedIndices : List Nat
  addedFraction : K
  removedFraction : K
  thresholdM : K

/-- A finite array with three columns. -/
def points (rows : List (List K)) : Except Raised (List (List K)) := do
  raiseIf (rows = [] ∨ ∃ row ∈ rows, row.length ≠ 3) (validationError "POINTS_INVALID" "points must be a finite Nx3 array")
  return rows

def squaredDistance (p q : List K) : K := (List.zipWith (fun x y => (x - y) ^ 2) p q).sum

/-- The points of a cloud whose nearest point in another one is further away than the threshold. -/
def farIndices (threshold : K) (cloud other : List (List K)) : List Nat :=
  cloud.findIdxs fun p => (other.map (squaredDistance p)).min?.any fun nearest => threshold ^ 2 < nearest

/-- `change_detection(reference, comparison, *, threshold_m)`, with the keywords that it is called with. -/
def changeDetection (reference comparison : List (List K)) (keywords : List (String × K)) : Except Raised (ChangeReport K) := do
  raiseIf (∃ keyword ∈ keywords, keyword.1 ≠ "threshold_m")
    (.typeError "change_detection() got an unexpected keyword argument")
  let threshold ← orRaise (keywords.lookup "threshold_m")
    (.typeError "change_detection() missing 1 required keyword-only argument: 'threshold_m'")
  let first ← points reference
  let second ← points comparison
  raiseIf (threshold ≤ 0) (validationError "CHANGE_THRESHOLD_INVALID" "change threshold must be positive")
  let added := farIndices threshold second first
  let removed := farIndices threshold first second
  return ⟨added, removed, added.length / max second.length 1, removed.length / max first.length 1, threshold⟩

/-- The handler passes the threshold under another name. -/
def detectChange (beforePoints afterPoints : List (List K)) (thresholdM : Option K) : Except Raised (ChangeReport K) := do
  let before ← points beforePoints
  let after ← points afterPoints
  changeDetection before after [("threshold", thresholdM.getD 0.05)]

/-- The handler returns, with the points that are further than the threshold from every point of the other cloud. -/
def DetectsChange (beforePoints afterPoints : List (List K)) (thresholdM : Option K) : Prop :=
  ∃ report, detectChange beforePoints afterPoints thresholdM = .ok report ∧
    (∀ i p, afterPoints[i]? = some p →
      (i ∈ report.addedIndices ↔ ∀ q ∈ beforePoints, thresholdM.getD 0.05 ^ 2 < squaredDistance p q)) ∧
    ∀ i p, beforePoints[i]? = some p →
      (i ∈ report.removedIndices ↔ ∀ q ∈ afterPoints, thresholdM.getD 0.05 ^ 2 < squaredDistance p q)

theorem not_detectsChange (beforePoints afterPoints : List (List K)) (thresholdM : Option K) :
    ¬ DetectsChange beforePoints afterPoints thresholdM := by
  rintro ⟨report, hreport, _⟩
  simp only [detectChange, changeDetection, bind_eq_ok, raiseIf_eq_ok] at hreport
  obtain ⟨_, _, _, _, _, hkeywords, _⟩ := hreport
  have hname : "threshold" ≠ "threshold_m" := by decide
  exact hkeywords ⟨_, List.mem_singleton_self _, hname⟩

end ChangeDetection

/-- A point far from the origin is not reported, since the call itself fails. -/
theorem not_detectsChange_moved_point : ¬ ∀ (beforePoints afterPoints : List (List ℚ)) (thresholdM : Option ℚ),
    (∃ before, points beforePoints = .ok before) → (∃ after, points afterPoints = .ok after) →
      (∀ threshold, thresholdM = some threshold → 0 < threshold) → DetectsChange beforePoints afterPoints thresholdM := by
  intro h
  obtain ⟨_, hreport, _⟩ := h [[0, 0, 0]] [[1, 0, 0]] none ⟨_, rfl⟩ ⟨_, rfl⟩ nofun
  cases hreport

end Sip
