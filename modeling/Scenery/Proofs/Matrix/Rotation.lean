import Mathlib.LinearAlgebra.UnitaryGroup
import Mathlib.Tactic.LinearCombination
import Scenery.Proofs.Matrix.Affine

/-!
# Rotations

The matrix of a quaternion is a polynomial of the second degree in its parts, with a one in
the diagonal that stands for the sum of their squares.  Put that sum in its place, and the
matrix of a product is the product of the matrices, for all quaternions at all
(`Mat4.homogeneous_mul`).  For quaternions whose squares add up to one, which are closed
under products, the two matrices are the same (`Mat4.rotation_mul`).

A turn about an axis has such a quaternion, since its parts are the sine and the cosine of
half its angle.  So the rotation by three angles is the product of the turns about the three
axes, each by the sine and the cosine of the whole angle (`Mat4.rotation_turns`).  A turn is
an orthogonal matrix with determinant one, and so is a product of turns.
-/

namespace Scenery

variable {α : Type} [FieldScalar α]

/-! ## Quaternions -/

namespace Quat

/-- The sum of the squares of the parts. -/
def normSq (q : Quat α) : α := q.x ^ 2 + q.y ^ 2 + q.z ^ 2 + q.w ^ 2

theorem mul_eq (l r : Quat α) : l * r = l.mul r := rfl

/-- The turn the other way. -/
def conj (q : Quat α) : Quat α := ⟨-q.x, -q.y, -q.z, q.w⟩

/-- A quaternion of length one times its conjugate is the identity. -/
theorem mul_conj {q : Quat α} (h : q.normSq = 1) : q * q.conj = identity := by
  rw [normSq] at h
  simp only [mul_eq, mul, conj, identity]
  ext
  case w => linear_combination h
  all_goals ring

/-- The squared length of a product is the product of the squared lengths. -/
theorem normSq_mul (l r : Quat α) : (l * r).normSq = l.normSq * r.normSq := by
  simp only [mul_eq, mul, normSq]
  ring

end Quat

/-! ## The matrix of a quaternion -/

namespace Mat4

theorem mul_eq (m n : Mat4 α) :
    m * n = ⟨m.column n.c0, m.column n.c1, m.column n.c2, m.column n.c3⟩ := rfl

theorem column_eq (m : Mat4 α) (v : Vec4 α) :
    m.column v =
      ⟨m.c0.x * v.x + m.c1.x * v.y + m.c2.x * v.z + m.c3.x * v.w,
        m.c0.y * v.x + m.c1.y * v.y + m.c2.y * v.z + m.c3.y * v.w,
        m.c0.z * v.x + m.c1.z * v.y + m.c2.z * v.z + m.c3.z * v.w,
        m.c0.w * v.x + m.c1.w * v.y + m.c2.w * v.z + m.c3.w * v.w⟩ := rfl

/-- The matrix of a quaternion, with the sum of the squares in the place of one. -/
def homogeneous (q : Quat α) : Mat4 α :=
  ⟨⟨q.w ^ 2 + q.x ^ 2 - q.y ^ 2 - q.z ^ 2, 2 * (q.x * q.y + q.w * q.z),
      2 * (q.x * q.z - q.w * q.y), 0⟩,
    ⟨2 * (q.x * q.y - q.w * q.z), q.w ^ 2 - q.x ^ 2 + q.y ^ 2 - q.z ^ 2,
      2 * (q.y * q.z + q.w * q.x), 0⟩,
    ⟨2 * (q.x * q.z + q.w * q.y), 2 * (q.y * q.z - q.w * q.x),
      q.w ^ 2 - q.x ^ 2 - q.y ^ 2 + q.z ^ 2, 0⟩,
    ⟨0, 0, 0, 1⟩⟩

theorem homogeneous_identity : homogeneous (.identity : Quat α) = identity := by
  simp only [homogeneous, Quat.identity, identity]
  ext <;> ring

/-- The product of quaternions goes to the product of their matrices, at any lengths. -/
theorem homogeneous_mul (l r : Quat α) :
    homogeneous (l * r) = homogeneous l * homogeneous r := by
  simp only [homogeneous, mul_eq, column_eq, Quat.mul_eq, Quat.mul]
  ext <;> ring

/-- At length one the matrix of a rotation is the homogeneous one. -/
theorem rotation_eq_homogeneous {q : Quat α} (h : q.normSq = 1) :
    rotation q = homogeneous q := by
  have hdiagonal : ∀ a : α, 1 - a = q.x ^ 2 + q.y ^ 2 + q.z ^ 2 + q.w ^ 2 - a := by
    intro a
    rw [← h, Quat.normSq]
  simp only [rotation, homogeneous, hdiagonal]
  ext <;> ring

/-- A product of quaternions of length one turns by the second and then by the first. -/
theorem rotation_mul {l r : Quat α} (hl : l.normSq = 1) (hr : r.normSq = 1) :
    rotation (l * r) = rotation l * rotation r := by
  have hproduct : (l * r).normSq = 1 := by rw [Quat.normSq_mul, hl, hr, mul_one]
  rw [rotation_eq_homogeneous hl, rotation_eq_homogeneous hr, rotation_eq_homogeneous hproduct,
    homogeneous_mul]

/-! ## Turns about the axes -/

/-- The turn about the first axis by an angle with this sine and cosine. -/
def turnX (sin cos : α) : Mat4 α :=
  ⟨⟨1, 0, 0, 0⟩, ⟨0, cos, sin, 0⟩, ⟨0, -sin, cos, 0⟩, ⟨0, 0, 0, 1⟩⟩

/-- The turn about the second axis by an angle with this sine and cosine. -/
def turnY (sin cos : α) : Mat4 α :=
  ⟨⟨cos, 0, -sin, 0⟩, ⟨0, 1, 0, 0⟩, ⟨sin, 0, cos, 0⟩, ⟨0, 0, 0, 1⟩⟩

/-- The turn about the third axis by an angle with this sine and cosine. -/
def turnZ (sin cos : α) : Mat4 α :=
  ⟨⟨cos, sin, 0, 0⟩, ⟨-sin, cos, 0, 0⟩, ⟨0, 0, 1, 0⟩, ⟨0, 0, 0, 1⟩⟩

variable {s c : α}

/-- Half of an angle about the first axis turns by all of it. -/
theorem rotation_aboutX (h : s ^ 2 + c ^ 2 = 1) :
    rotation (.aboutX s c) = turnX (2 * s * c) (c ^ 2 - s ^ 2) := by
  simp only [rotation, Quat.aboutX, turnX]
  ext <;> grind

/-- Half of an angle about the second axis turns by all of it. -/
theorem rotation_aboutY (h : s ^ 2 + c ^ 2 = 1) :
    rotation (.aboutY s c) = turnY (2 * s * c) (c ^ 2 - s ^ 2) := by
  simp only [rotation, Quat.aboutY, turnY]
  ext <;> grind

/-- Half of an angle about the third axis turns by all of it. -/
theorem rotation_aboutZ (h : s ^ 2 + c ^ 2 = 1) :
    rotation (.aboutZ s c) = turnZ (2 * s * c) (c ^ 2 - s ^ 2) := by
  simp only [rotation, Quat.aboutZ, turnZ]
  ext <;> grind

/-! ## Orthogonal matrices -/

/-- The entries of a matrix by row and column. -/
def toMatrix (m : Mat4 α) : Matrix (Fin 4) (Fin 4) α :=
  !![m.c0.x, m.c1.x, m.c2.x, m.c3.x;
    m.c0.y, m.c1.y, m.c2.y, m.c3.y;
    m.c0.z, m.c1.z, m.c2.z, m.c3.z;
    m.c0.w, m.c1.w, m.c2.w, m.c3.w]

/-- The identity is the library's. -/
theorem toMatrix_identity : (identity : Mat4 α).toMatrix = 1 := by
  ext i j
  fin_cases i <;> fin_cases j <;> rfl

/-- The product of matrices is the library's. -/
theorem toMatrix_mul (m n : Mat4 α) : (m * n).toMatrix = m.toMatrix * n.toMatrix := by
  simp only [toMatrix, mul_eq, column_eq]
  ext i j
  fin_cases i <;> fin_cases j <;> simp [Matrix.mul_apply, Fin.sum_univ_four]

/-- The transposed matrix is that of the conjugate. -/
theorem transpose_homogeneous (q : Quat α) :
    (homogeneous q).toMatrix.transpose = (homogeneous q.conj).toMatrix := by
  simp only [toMatrix, homogeneous, Quat.conj]
  ext i j
  fin_cases i <;> fin_cases j <;> simp <;> ring

/-- The determinant of an affine matrix is the volume between its first three columns. -/
theorem det_toMatrix {m : Mat4 α} (hm : m.Affine) :
    m.toMatrix.det = m.c0.point.dot (m.c1.point.cross m.c2.point) := by
  rw [toMatrix, hm.c0, hm.c1, hm.c2, hm.c3, Matrix.det_succ_row _ 3, Fin.sum_univ_four]
  simp [Matrix.det_fin_three, Fin.succAbove, Vec3.dot, Vec3.cross, Vec4.point]
  ring

/-- The determinant is the third power of the squared length. -/
theorem det_homogeneous (q : Quat α) : (homogeneous q).toMatrix.det = q.normSq ^ 3 := by
  rw [det_toMatrix ⟨rfl, rfl, rfl, rfl⟩]
  simp only [homogeneous, Vec4.point, Vec3.dot, Vec3.cross, Quat.normSq]
  ring

/-- The matrix of a quaternion of length one is orthogonal and has determinant one. -/
theorem toMatrix_rotation_mem {q : Quat α} (h : q.normSq = 1) :
    (rotation q).toMatrix ∈ Matrix.specialOrthogonalGroup (Fin 4) α := by
  rw [rotation_eq_homogeneous h, Matrix.mem_specialOrthogonalGroup_iff,
    Matrix.mem_orthogonalGroup_iff]
  constructor
  · rw [transpose_homogeneous, ← toMatrix_mul, ← homogeneous_mul, Quat.mul_conj h,
      homogeneous_identity, toMatrix_identity]
  · rw [det_homogeneous, h, one_pow]

end Mat4

/-! ## Three turns -/

/-- The sine and the cosine of an angle for each axis. -/
structure OnCircles (sin cos : Vec3 α) : Prop where
  x : sin.x ^ 2 + cos.x ^ 2 = 1
  y : sin.y ^ 2 + cos.y ^ 2 = 1
  z : sin.z ^ 2 + cos.z ^ 2 = 1

/-- A matrix turns about the three axes of an object one after the other, by angles whose
halves have these sines and cosines. -/
structure Mat4.Turns (m : Mat4 α) (sin cos : Vec3 α) : Prop where
  /-- It is the product of three turns about the axes, each by the whole angle. -/
  product : m = turnX (2 * sin.x * cos.x) (cos.x ^ 2 - sin.x ^ 2) *
    turnY (2 * sin.y * cos.y) (cos.y ^ 2 - sin.y ^ 2) *
    turnZ (2 * sin.z * cos.z) (cos.z ^ 2 - sin.z ^ 2)
  /-- Its columns are orthogonal to each other and of length one. -/
  orthogonal : m.toMatrix ∈ Matrix.orthogonalGroup (Fin 4) α
  /-- It does not mirror. -/
  det : m.toMatrix.det = 1

/-- Sines and cosines of half angles on the circle give the product of the three turns. -/
theorem Mat4.turns_ofHalfAngles {sin cos : Vec3 α} (h : OnCircles sin cos) :
    (rotation (.ofHalfAngles sin cos)).Turns sin cos := by
  have hx : (Quat.aboutX sin.x cos.x).normSq = 1 := by simp [Quat.normSq, Quat.aboutX, h.x]
  have hy : (Quat.aboutY sin.y cos.y).normSq = 1 := by simp [Quat.normSq, Quat.aboutY, h.y]
  have hz : (Quat.aboutZ sin.z cos.z).normSq = 1 := by simp [Quat.normSq, Quat.aboutZ, h.z]
  have hxy : (Quat.aboutX sin.x cos.x * Quat.aboutY sin.y cos.y).normSq = 1 := by
    rw [Quat.normSq_mul, hx, hy, one_mul]
  have hxyz : (Quat.ofHalfAngles sin cos).normSq = 1 := by
    rw [Quat.ofHalfAngles, Quat.normSq_mul, hxy, hz, one_mul]
  have hproper := Matrix.mem_specialOrthogonalGroup_iff.mp (toMatrix_rotation_mem hxyz)
  refine ⟨?_, hproper.1, hproper.2⟩
  rw [Quat.ofHalfAngles, rotation_mul hxy hz, rotation_mul hx hy, rotation_aboutX h.x,
    rotation_aboutY h.y, rotation_aboutZ h.z]

section Degrees

variable {α : Type} [Angular α]

/-- The sines of half of each angle. -/
def Quat.halfSines (degrees : Vec3 α) : Vec3 α :=
  let half (d : α) : α := Angular.toRadians d * Scalar.half
  ⟨Angular.sin (half degrees.x), Angular.sin (half degrees.y), Angular.sin (half degrees.z)⟩

/-- The cosines of half of each angle. -/
def Quat.halfCosines (degrees : Vec3 α) : Vec3 α :=
  let half (d : α) : α := Angular.toRadians d * Scalar.half
  ⟨Angular.cos (half degrees.x), Angular.cos (half degrees.y), Angular.cos (half degrees.z)⟩

theorem Quat.ofDegrees_eq (degrees : Vec3 α) :
    ofDegrees degrees = .ofHalfAngles (halfSines degrees) (halfCosines degrees) := rfl

end Degrees

/-- The rotation by three angles is the product of turns about the three axes, orthogonal and
of determinant one.  All that is asked of sines and cosines is that their squares add up to
one, whether they are given or are taken of angles in degrees. -/
theorem Mat4.rotation_turns (α : Type) [FieldAngular α] :
    (∀ sin cos : Vec3 α, OnCircles sin cos → (rotation (.ofHalfAngles sin cos)).Turns sin cos) ∧
    ∀ degrees : Vec3 α, OnCircles (Quat.halfSines degrees) (Quat.halfCosines degrees) →
      (rotation (.ofDegrees degrees)).Turns (Quat.halfSines degrees)
        (Quat.halfCosines degrees) := by
  constructor
  · intro sin cos h
    exact turns_ofHalfAngles h
  · intro degrees h
    rw [Quat.ofDegrees_eq]
    exact turns_ofHalfAngles h

/-- Sines and cosines of no angle and of the angle between two sides of lengths four and five. -/
@[reducible] def pythagorean : Exact.Approximation where
  sqrt q := q
  sin angle := if angle = 0 then 0 else 3 / 5
  cos angle := if angle = 0 then 1 else 4 / 5
  halfTurn := 355 / 113

/-- Three turns with rational sines and cosines, and two given in degrees. -/
theorem Mat4.turns_pythagorean :
    letI := pythagorean
    (rotation (.ofHalfAngles ⟨3 / 5, 5 / 13, 8 / 17⟩ ⟨4 / 5, 12 / 13, 15 / 17⟩) : Mat4 ℚ).Turns
        ⟨3 / 5, 5 / 13, 8 / 17⟩ ⟨4 / 5, 12 / 13, 15 / 17⟩ ∧
      (rotation (.ofDegrees ⟨60, 0, 90⟩) : Mat4 ℚ).Turns ⟨3 / 5, 0, 3 / 5⟩ ⟨4 / 5, 1, 4 / 5⟩ := by
  let _ : Exact.Approximation := pythagorean
  obtain ⟨hgiven, hdegrees⟩ := rotation_turns ℚ
  have hsines : Quat.halfSines (⟨60, 0, 90⟩ : Vec3 ℚ) = ⟨3 / 5, 0, 3 / 5⟩ := by decide +kernel
  have hcosines : Quat.halfCosines (⟨60, 0, 90⟩ : Vec3 ℚ) = ⟨4 / 5, 1, 4 / 5⟩ := by decide +kernel
  have h := hdegrees ⟨60, 0, 90⟩
  rw [hsines, hcosines] at h
  exact ⟨hgiven _ _ ⟨by norm_num, by norm_num, by norm_num⟩,
    h ⟨by norm_num, by norm_num, by norm_num⟩⟩

end Scenery
