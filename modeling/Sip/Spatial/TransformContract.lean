import Mathlib.LinearAlgebra.Matrix.NonsingularInverse
import Mathlib.Tactic.NormNum.Inv
import Mathlib.Tactic.NormNum.OfScientific
import Sip.Spatial.Manifests

/-!
# Declared transforms

A transform between two coordinate frames can be declared in either direction, for row or
column vectors, stored by rows or by columns, and with its translation in metres or in
millimetres. It is stored in one form: source to target, column vectors, metres. The first
three indices of a matrix are the axes, the last is the homogeneous one. Arithmetic is exact.
-/

namespace Sip

set_option autoImplicit false

open Matrix

abbrev Pose (K : Type) := Matrix (Fin 3 ⊕ Fin 1) (Fin 3 ⊕ Fin 1) K

inductive TransformType where
  | se3 | sim3
  deriving DecidableEq

inductive MatrixLayout where
  | rowMajor | columnMajor
  deriving DecidableEq

inductive MultiplicationConvention where
  | columnVectorPreMultiply | rowVectorPostMultiply
  deriving DecidableEq

inductive TransformDirection where
  | sourceToTarget | targetToSource
  deriving DecidableEq

inductive TranslationUnits where
  | meter | millimeter
  deriving DecidableEq

def TranslationUnits.value : TranslationUnits → String
  | .meter => "meter"
  | .millimeter => "millimeter"

inductive TransformSource where
  | calibration | registration | control | manual | geodetic | «import»
  deriving DecidableEq

/-- A value of an uncertainty declaration; only numbers are read. -/
inductive DeclaredValue (K : Type) where
  | number (x : K)
  | other

def DeclaredValue.number? {K : Type} : DeclaredValue K → Option K
  | .number x => some x
  | .other => none

structure SpatialTransformContract (K : Type) where
  transformId : String
  sourceFrameId : String
  targetFrameId : String
  transformType : TransformType
  matrix : Pose K
  matrixLayout : MatrixLayout := .rowMajor
  multiplicationConvention : MultiplicationConvention := .columnVectorPreMultiply
  direction : TransformDirection := .sourceToTarget
  translationUnits : TranslationUnits := .meter
  scale : K
  covariance : Option (List (List K)) := none
  uncertainty : List (String × DeclaredValue K)
  sourceType : TransformSource
  authorityClass : AuthorityClass
  validFrom : Option Nat := none
  validTo : Option Nat := none
  observedAt : Option Nat := none
  crsPipeline : Option String := none
  supersedesTransformId : Option String := none

variable {K : Type} [Field K] [LinearOrder K]

/-- `math.isclose(a, b, rel_tol=0, abs_tol=tolerance)`. -/
def IsClose (tolerance a b : K) : Prop := |a - b| ≤ tolerance

instance (tolerance a b : K) : Decidable (IsClose tolerance a b) := inferInstanceAs (Decidable (_ ≤ _))

/-- `np.allclose(matrix[3], [0.0, 0.0, 0.0, 1.0], atol=1e-9)`; the relative tolerance is the default one. -/
def HomogeneousRow (m : Pose K) : Prop :=
  (∀ j, IsClose 1e-9 (m (.inr 0) (.inl j)) 0) ∧ IsClose (1e-9 + 1e-5) (m (.inr 0) (.inr 0)) 1

instance (m : Pose K) : Decidable (HomogeneousRow m) := inferInstanceAs (Decidable (_ ∧ _))

/-- The last row is exact. -/
def ExactHomogeneousRow (m : Pose K) : Prop := (∀ j, m (.inr 0) (.inl j) = 0) ∧ m (.inr 0) (.inr 0) = 1

instance (m : Pose K) : Decidable (ExactHomogeneousRow m) := inferInstanceAs (Decidable (_ ∧ _))

/-- The rotation of a transform is orthonormal and proper, within a tolerance. -/
def RigidRotation (rotation : Matrix (Fin 3) (Fin 3) K) : Prop :=
  (∀ entry : Fin 3 × Fin 3, IsClose 1e-7 ((rotationᵀ * rotation) entry.1 entry.2) ((1 : Matrix (Fin 3) (Fin 3) K) entry.1 entry.2)) ∧
    IsClose 1e-7 rotation.det 1

instance (rotation : Matrix (Fin 3) (Fin 3) K) : Decidable (RigidRotation rotation) := inferInstanceAs (Decidable (_ ∧ _))

/-- `np.linalg.inv`. -/
def linalgInv (m : Pose K) : Except Raised (Pose K) :=
  if m.det = 0 then .error (.linAlgError "Singular matrix") else .ok (m.det⁻¹ • m.adjugate)

namespace SpatialData

def knownUnits : List (String × K) :=
  [("meter", 1), ("metre", 1), ("millimeter", 0.001), ("millimetre", 0.001), ("centimeter", 0.01), ("centimetre", 0.01),
    ("foot", 0.3048), ("feet", 0.3048), ("inch", 0.0254)]

def unitScale (units : String) (explicitScale : Option K := none) : Except Raised K :=
  let known : Option K := knownUnits.lookup (String.ofList ((strip units.toList).map lowerChar))
  match explicitScale with
  | none =>
    orRaise known (validationError "UNIT_SCALE_REQUIRED" "unknown units require an explicit scale to meters"
      [("units", .str units)])
  | some scale => do
    raiseIf (scale ≤ 0) (validationError "UNIT_SCALE_INVALID" "unit scale must be a finite positive value")
    raiseIf (known.any fun k => ¬ IsClose 1e-12 scale k)
      (validationError "UNIT_SCALE_CONFLICT" "explicit scale conflicts with the declared standard unit")
    return scale

/-- A covariance is declared for the six or seven parameters of the transform. -/
def isSquare (size : Nat) (rows : List (List K)) : Bool := rows.length = size ∧ rows.all fun row => row.length = size

/-- The contract of a transform, as its validators check it. -/
def checkTransformContract (contract : SpatialTransformContract K) : Except Raised Unit := do
  raiseIf (contract.scale ≤ 0) (.valueError "scale")
  raiseIf (contract.uncertainty = []) (.valueError "uncertainty")
  raiseIf (contract.sourceFrameId = contract.targetFrameId) (.valueError "source and target frames must differ")
  raiseIf (contract.transformType = .se3 ∧ ¬ IsClose 1e-9 contract.scale 1) (.valueError "SE3 transforms cannot contain scale")
  raiseIf (contract.covariance.any fun rows => ¬ isSquare (if contract.transformType = .se3 then 6 else 7) rows)
    (.valueError "covariance")
  raiseIf (contract.validFrom.any fun validFrom => contract.validTo.any fun validTo => validTo ≤ validFrom) (.valueError "valid_to must be after valid_from")
  raiseIf (contract.observedAt = none ∧ contract.validFrom = none)
    (.valueError "transform requires observed_at or valid_from")
  raiseIf (contract.sourceType = .geodetic ∧ contract.crsPipeline.getD "" = "")
    (.valueError "geodetic transforms require the exact CRS pipeline")
  raiseIf (contract.uncertainty.any fun entry => entry.2.number?.any fun x => x < 0)
    (.valueError "uncertainty values must be finite and non-negative")

/-- The inversion of a matrix that was declared from target to source. -/
def invertDeclared (m : Pose K) : Except Raised (Pose K) :=
  match linalgInv m with
  | .ok inverse => .ok inverse
  | .error _ => .error (validationError "TRANSFORM_NOT_INVERTIBLE" "target-to-source transform cannot be inverted")

/-- Normalize declared storage and direction conventions to row-major, source-to-target, meters. -/
def canonicalTransformMatrix (contract : SpatialTransformContract K) : Except Raised (Pose K) := do
  let matrix := if contract.matrixLayout = .columnMajor then contract.matrixᵀ else contract.matrix
  let matrix := if contract.multiplicationConvention = .rowVectorPostMultiply then matrixᵀ else matrix
  raiseIf (¬ HomogeneousRow matrix) (validationError "TRANSFORM_HOMOGENEOUS_INVALID"
    "the declared layout and multiplication convention do not normalize to a homogeneous matrix")
  raiseIf (¬ RigidRotation matrix.toBlocks₁₁)
    (validationError "TRANSFORM_RIGID_COMPONENT_INVALID"
      "SE3/SIM3 matrices require a proper orthonormal rotation; shear, reflection, and embedded scale are rejected")
  let translationScale : K ← unitScale contract.translationUnits.value
  let matrix := fromBlocks matrix.toBlocks₁₁ (translationScale • matrix.toBlocks₁₂) matrix.toBlocks₂₁ matrix.toBlocks₂₂
  let matrix := if contract.transformType = .sim3 ∧ ¬ IsClose 1e-12 contract.scale 1 then
      fromBlocks (contract.scale • matrix.toBlocks₁₁) matrix.toBlocks₁₂ matrix.toBlocks₂₁ matrix.toBlocks₂₂
    else matrix
  let matrix ← (if contract.direction = .targetToSource then invertDeclared matrix else .ok matrix)
  raiseIf (¬ HomogeneousRow matrix) (validationError "TRANSFORM_CANONICALIZATION_FAILED"
    "transform did not normalize to a finite homogeneous matrix")
  return matrix

end SpatialData

/-! ## Similarities and their declarations -/

/-- A rotation, a positive scale and a translation. -/
structure Similarity (K : Type) [Field K] [LinearOrder K] where
  rotation : Matrix (Fin 3) (Fin 3) K
  translation : Matrix (Fin 3) (Fin 1) K
  scale : K
  orthonormal : rotationᵀ * rotation = 1
  proper : rotation.det = 1
  scale_pos : 0 < scale

namespace Similarity
variable [IsStrictOrderedRing K]

omit [IsStrictOrderedRing K] in
theorem rotation_mul_transpose (T : Similarity K) : T.rotation * T.rotationᵀ = 1 := mul_eq_one_comm.mp T.orthonormal

/-- The matrix that takes the coordinates of a point, as a column vector in metres, from source to target. -/
def matrix (T : Similarity K) : Pose K := fromBlocks (T.scale • T.rotation) T.translation 0 1

def inverse (T : Similarity K) : Similarity K where
  rotation := T.rotationᵀ
  translation := -(T.scale⁻¹ • T.rotationᵀ * T.translation)
  scale := T.scale⁻¹
  orthonormal := by rw [transpose_transpose, T.rotation_mul_transpose]
  proper := by rw [det_transpose, T.proper]
  scale_pos := inv_pos.mpr T.scale_pos

theorem matrix_mul_inverse (T : Similarity K) : T.matrix * T.inverse.matrix = 1 := by
  have hscale : T.scale * T.scale⁻¹ = 1 := mul_inv_cancel₀ T.scale_pos.ne'
  have hrotation : (T.scale • T.rotation) * (T.scale⁻¹ • T.rotationᵀ) = 1 := by
    rw [smul_mul_smul_comm, hscale, one_smul, T.rotation_mul_transpose]
  have htranslation : (T.scale • T.rotation) * -((T.scale⁻¹ • T.rotationᵀ) * T.translation) = -T.translation := by
    rw [Matrix.mul_neg, ← Matrix.mul_assoc, hrotation, Matrix.one_mul]
  unfold matrix inverse
  rw [fromBlocks_multiply, hrotation, htranslation]
  simp only [Matrix.mul_zero, Matrix.zero_mul, Matrix.mul_one, add_zero, zero_add, neg_add_cancel, fromBlocks_one]

end Similarity

section Declarations
variable [IsStrictOrderedRing K] {contract : SpatialTransformContract K} {T : Similarity K}

def TranslationUnits.toMeters : TranslationUnits → K
  | .meter => 1
  | .millimeter => 0.001

/-- What the convention and the layout of a contract make of a matrix. -/
def written (contract : SpatialTransformContract K) (standard : Pose K) : Pose K :=
  let converted := if contract.multiplicationConvention = .rowVectorPostMultiply then standardᵀ else standard
  if contract.matrixLayout = .columnMajor then convertedᵀ else converted

/-- The transform or its inverse, as the contract's direction says. -/
def directed (contract : SpatialTransformContract K) (T : Similarity K) : Similarity K :=
  if contract.direction = .targetToSource then T.inverse else T

/-- The contract declares the transform: the scale stands apart from the matrix, and an SE(3) transform has none. -/
structure Declares (contract : SpatialTransformContract K) (T : Similarity K) : Prop where
  matrix : contract.matrix = written contract
    (fromBlocks (directed contract T).rotation ((contract.translationUnits.toMeters : K)⁻¹ • (directed contract T).translation) 0 1)
  similar : contract.transformType = .sim3 → contract.scale = (directed contract T).scale
  rigid : contract.transformType = .se3 → (directed contract T).scale = 1

omit [IsStrictOrderedRing K] in
/-- A one-sided inverse is what the inversion computes. -/
theorem linalgInv_of_mul_eq_one {m n : Pose K} (h : n * m = 1) : linalgInv m = .ok n := by
  have hdet : m.det ≠ 0 := by
    intro hzero
    have hone := congrArg det h
    rw [det_mul, hzero, mul_zero, det_one] at hone
    exact zero_ne_one hone
  have hinverse : m.det⁻¹ • m.adjugate = n := by
    rw [← Ring.inverse_eq_inv', ← inv_def]
    exact inv_eq_left_inv h
  rw [linalgInv, if_neg hdet, hinverse]

theorem isClose_self {tolerance : K} (h : 0 ≤ tolerance) (a : K) : IsClose tolerance a a := by
  rw [IsClose, sub_self, abs_zero]
  exact h

theorem homogeneousRow_fromBlocks (A : Matrix (Fin 3) (Fin 3) K) (B : Matrix (Fin 3) (Fin 1) K) :
    HomogeneousRow (fromBlocks A B 0 1) := by
  refine ⟨fun j => ?_, ?_⟩
  · exact isClose_self (by norm_num) 0
  · exact isClose_self (by norm_num) 1

theorem rigidRotation_of_orthonormal {R : Matrix (Fin 3) (Fin 3) K} (h : Rᵀ * R = 1) (hdet : R.det = 1) : RigidRotation R := by
  rw [RigidRotation, h, hdet]
  exact ⟨fun entry => isClose_self (by norm_num) _, isClose_self (by norm_num) 1⟩

omit [LinearOrder K] [IsStrictOrderedRing K] in
theorem TranslationUnits.toMeters_ne_zero [CharZero K] (units : TranslationUnits) : (units.toMeters : K) ≠ 0 := by
  cases units with
  | meter => exact one_ne_zero
  | millimeter =>
    unfold toMeters
    norm_num

omit [IsStrictOrderedRing K] in
theorem unitScale_value (units : TranslationUnits) : SpatialData.unitScale units.value = .ok (units.toMeters : K) := by
  cases units <;> rfl

omit [Field K] [LinearOrder K] [IsStrictOrderedRing K] in
/-- Undoing the layout and the convention gives back what was written. -/
theorem read_written (standard : Pose K) :
    (if contract.multiplicationConvention = .rowVectorPostMultiply then
        (if contract.matrixLayout = .columnMajor then (written contract standard)ᵀ else written contract standard)ᵀ
      else if contract.matrixLayout = .columnMajor then (written contract standard)ᵀ else written contract standard) = standard := by
  unfold written
  split_ifs <;> simp only [transpose_transpose]

/-- Up to the direction, the normalisation computes the matrix of what was declared, unless a scale close to one is lost. -/
theorem scaled_eq_matrix (h : Declares contract T)
    (hscale : contract.transformType = .sim3 → contract.scale = 1 ∨ ¬ IsClose 1e-12 contract.scale 1) :
    (if contract.transformType = .sim3 ∧ ¬ IsClose 1e-12 contract.scale 1 then
        fromBlocks (contract.scale • (directed contract T).rotation) (directed contract T).translation 0 1
      else fromBlocks (directed contract T).rotation (directed contract T).translation 0 1) = (directed contract T).matrix := by
  unfold Similarity.matrix
  split_ifs with hsim
  · rw [h.similar hsim.1]
  · have hone : (directed contract T).scale = 1 := by
      cases htype : contract.transformType with
      | se3 => exact h.rigid htype
      | sim3 =>
        rw [← h.similar htype]
        exact (hscale htype).resolve_right fun hfar => hsim ⟨htype, hfar⟩
    rw [hone, one_smul]

/-- Every declaration of a transform is stored as the matrix of the transform, whatever its layout, its convention, its
direction and its units. -/
theorem canonical_of_declares (h : Declares contract T)
    (hscale : contract.transformType = .sim3 → contract.scale = 1 ∨ ¬ IsClose 1e-12 contract.scale 1) :
    SpatialData.canonicalTransformMatrix contract = .ok T.matrix := by
  have hunits : (contract.translationUnits.toMeters : K) • ((contract.translationUnits.toMeters : K)⁻¹ • (directed contract T).translation) =
      (directed contract T).translation := by
    rw [smul_smul, mul_inv_cancel₀ contract.translationUnits.toMeters_ne_zero, one_smul]
  unfold SpatialData.canonicalTransformMatrix
  simp only [h.matrix, read_written, toBlocks_fromBlocks₁₁, toBlocks_fromBlocks₁₂, toBlocks_fromBlocks₂₁, toBlocks_fromBlocks₂₂,
    bind_eq_ok, raiseIf_eq_ok, not_not]
  refine ⟨(), homogeneousRow_fromBlocks _ _, (), ?_, _, unitScale_value _, T.matrix, ?_, (), ?_, rfl⟩
  · exact rigidRotation_of_orthonormal (directed contract T).orthonormal (directed contract T).proper
  · rw [hunits, scaled_eq_matrix h hscale]
    unfold directed
    by_cases hdirection : contract.direction = .targetToSource
    · rw [if_pos hdirection, if_pos hdirection, SpatialData.invertDeclared, linalgInv_of_mul_eq_one T.matrix_mul_inverse]
    · rw [if_neg hdirection, if_neg hdirection]
  · exact homogeneousRow_fromBlocks _ _

/-- A similarity as it is declared in metres, by rows and for column vectors. -/
def declaration (direction : TransformDirection) (type : TransformType) (D : Similarity K) : SpatialTransformContract K where
  transformId := "transform"
  sourceFrameId := "source"
  targetFrameId := "target"
  transformType := type
  matrix := fromBlocks D.rotation D.translation 0 1
  direction := direction
  scale := D.scale
  uncertainty := [("rmse_m", .number 0)]
  sourceType := .registration
  authorityClass := .metric
  observedAt := some 0

theorem declares_forward (T : Similarity K) (type : TransformType) (htype : type = .se3 → T.scale = 1) :
    Declares (declaration .sourceToTarget type T) T where
  matrix := by
    show fromBlocks T.rotation T.translation 0 1 = fromBlocks T.rotation ((1 : K)⁻¹ • T.translation) 0 1
    rw [inv_one, one_smul]
  similar := fun _ => rfl
  rigid := htype

theorem declares_backward (T : Similarity K) (type : TransformType) (htype : type = .se3 → T.inverse.scale = 1) :
    Declares (declaration .targetToSource type T.inverse) T where
  matrix := by
    show fromBlocks T.inverse.rotation T.inverse.translation 0 1 = fromBlocks T.inverse.rotation ((1 : K)⁻¹ • T.inverse.translation) 0 1
    rw [inv_one, one_smul]
  similar := fun _ => rfl
  rigid := htype

omit [IsStrictOrderedRing K] in
/-- A scale that is close to one is dropped, as if the transform were rigid. -/
theorem canonicalTransformMatrix_of_close (hclose : IsClose 1e-12 contract.scale 1) :
    SpatialData.canonicalTransformMatrix contract = SpatialData.canonicalTransformMatrix { contract with transformType := .se3 } := by
  unfold SpatialData.canonicalTransformMatrix
  have hsim : ¬ (contract.transformType = .sim3 ∧ ¬ IsClose 1e-12 contract.scale 1) := fun h => h.2 hclose
  have hse : ¬ (TransformType.se3 = .sim3 ∧ ¬ IsClose 1e-12 contract.scale 1) := fun h => h.2 hclose
  simp only [if_neg hsim, if_neg hse]

/-- The rigid part of a similarity, with the translation it is declared with. -/
def rigidWith (T : Similarity K) (translation : Matrix (Fin 3) (Fin 1) K) : Similarity K :=
  { T with translation, scale := 1, scale_pos := one_pos }

theorem rigidWith_matrix (T : Similarity K) (translation : Matrix (Fin 3) (Fin 1) K) :
    (rigidWith T translation).matrix = fromBlocks T.rotation translation 0 1 := by
  unfold Similarity.matrix rigidWith
  rw [one_smul]

theorem canonicalTransformMatrix_forward {T : Similarity K} (hclose : IsClose 1e-12 T.scale 1) :
    SpatialData.canonicalTransformMatrix (declaration .sourceToTarget .sim3 T) = .ok (fromBlocks T.rotation T.translation 0 1) := by
  have hdeclares : Declares { declaration .sourceToTarget .sim3 T with transformType := .se3 } (rigidWith T T.translation) :=
    ⟨(declares_forward T .sim3 nofun).matrix, nofun, fun _ => rfl⟩
  rw [canonicalTransformMatrix_of_close hclose, canonical_of_declares hdeclares nofun, rigidWith_matrix]

theorem canonicalTransformMatrix_backward {T : Similarity K} (hclose : IsClose 1e-12 T.scale⁻¹ 1) :
    SpatialData.canonicalTransformMatrix (declaration .targetToSource .sim3 T.inverse) =
      .ok (fromBlocks T.rotation (T.scale⁻¹ • T.translation) 0 1) := by
  have htranslation : (rigidWith T (T.scale⁻¹ • T.translation)).inverse.translation = T.inverse.translation := by
    show -((1 : K)⁻¹ • T.rotationᵀ * (T.scale⁻¹ • T.translation)) = -(T.scale⁻¹ • T.rotationᵀ * T.translation)
    rw [inv_one, one_smul, Matrix.mul_smul, Matrix.smul_mul]
  have hdeclares : Declares { declaration .targetToSource .sim3 T.inverse with transformType := .se3 }
      (rigidWith T (T.scale⁻¹ • T.translation)) := by
    refine ⟨?_, nofun, fun _ => inv_one⟩
    show fromBlocks T.rotationᵀ T.inverse.translation 0 1 =
      fromBlocks T.rotationᵀ ((1 : K)⁻¹ • (rigidWith T (T.scale⁻¹ • T.translation)).inverse.translation) 0 1
    rw [htranslation, inv_one, one_smul]
  rw [canonicalTransformMatrix_of_close hclose, canonical_of_declares hdeclares nofun, rigidWith_matrix]

end Declarations

theorem orthonormal_one : (1 : Matrix (Fin 3) (Fin 3) ℚ)ᵀ * 1 = 1 := by rw [transpose_one, Matrix.one_mul]

theorem proper_one : (1 : Matrix (Fin 3) (Fin 3) ℚ).det = 1 := det_one

/-- The scale is a tenth of the tolerance away from one. -/
def nearlyRigid : Similarity ℚ where
  rotation := 1
  translation := fun _ _ => 1
  scale := 1 + 1e-13
  orthonormal := orthonormal_one
  proper := proper_one
  scale_pos := by norm_num

theorem not_canonical_of_nearlyRigid : ¬ ∀ (contract contract' : SpatialTransformContract ℚ) (T : Similarity ℚ),
    Declares contract T → Declares contract' T →
      SpatialData.canonicalTransformMatrix contract = SpatialData.canonicalTransformMatrix contract' := by
  intro h
  have hclose : IsClose (1e-12 : ℚ) nearlyRigid.scale 1 := by
    show |(1 + 1e-13 : ℚ) - 1| ≤ 1e-12
    rw [abs_of_nonneg] <;> norm_num
  have hclose' : IsClose (1e-12 : ℚ) nearlyRigid.scale⁻¹ 1 := by
    show |(1 + 1e-13 : ℚ)⁻¹ - 1| ≤ 1e-12
    rw [abs_of_nonpos] <;> norm_num
  have heq := h _ _ nearlyRigid (declares_forward _ .sim3 nofun) (declares_backward _ .sim3 nofun)
  rw [canonicalTransformMatrix_forward hclose, canonicalTransformMatrix_backward hclose'] at heq
  have hentry : (1 : ℚ) = (1 + 1e-13)⁻¹ * 1 := congrFun₂ (Except.ok.inj heq) (.inl 0) (.inr 0)
  norm_num at hentry

/-- All declarations of a transform are stored as one matrix, that of the transform itself. -/
theorem canonicalTransformMatrix_eq_of_declares [IsStrictOrderedRing K] {contract contract' : SpatialTransformContract K}
    {T : Similarity K} (h : Declares contract T) (h' : Declares contract' T)
    (hscale : contract.transformType = .sim3 → contract.scale = 1 ∨ ¬ IsClose 1e-12 contract.scale 1)
    (hscale' : contract'.transformType = .sim3 → contract'.scale = 1 ∨ ¬ IsClose 1e-12 contract'.scale 1) :
    SpatialData.canonicalTransformMatrix contract = .ok T.matrix ∧
      SpatialData.canonicalTransformMatrix contract' = SpatialData.canonicalTransformMatrix contract := by
  have hcanonical := canonical_of_declares h hscale
  exact ⟨hcanonical, (canonical_of_declares h' hscale').trans hcanonical.symm⟩

/-- A transform that doubles lengths. -/
def doubling : Similarity ℚ where
  rotation := 1
  translation := fun _ _ => 3
  scale := 2
  orthonormal := orthonormal_one
  proper := proper_one
  scale_pos := two_pos

theorem canonicalTransformMatrix_of_doubling :
    SpatialData.canonicalTransformMatrix (declaration .sourceToTarget .sim3 doubling) = .ok doubling.matrix ∧
      SpatialData.canonicalTransformMatrix (declaration .targetToSource .sim3 doubling.inverse) =
        SpatialData.canonicalTransformMatrix (declaration .sourceToTarget .sim3 doubling) := by
  apply canonicalTransformMatrix_eq_of_declares (declares_forward _ .sim3 nofun) (declares_backward _ .sim3 nofun)
  · intro _
    right
    show ¬ |(2 : ℚ) - 1| ≤ 1e-12
    rw [abs_of_nonneg] <;> norm_num
  · intro _
    right
    show ¬ |(2 : ℚ)⁻¹ - 1| ≤ 1e-12
    rw [abs_of_nonpos] <;> norm_num

end Sip
