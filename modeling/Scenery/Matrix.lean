import Scenery.Vector

/-!
# Rotations and matrices

A rotation is kept as a quaternion (`Quat`), a placement in space as a matrix of
four columns (`Mat4`).  `Mat4.apply` takes a point to where the matrix puts it,
and the product of two matrices puts a point where the right one and then the
left one put it.

A turn by an angle about an axis is given by the sine and cosine of half the
angle, so what is stated about rotations needs no more of these two than that
their squares add up to one.
-/

namespace Scenery

/-- A quaternion, the scalar part last. -/
@[ext] structure Quat (α : Type) where
  /-- The part along the first axis. -/
  x : α
  /-- The part along the second axis. -/
  y : α
  /-- The part along the third axis. -/
  z : α
  /-- The scalar part. -/
  w : α
deriving DecidableEq, Repr

/-- A matrix of four columns. -/
@[ext] structure Mat4 (α : Type) where
  /-- The first column. -/
  c0 : Vec4 α
  /-- The second column. -/
  c1 : Vec4 α
  /-- The third column. -/
  c2 : Vec4 α
  /-- The fourth column, which holds the shift. -/
  c3 : Vec4 α
deriving DecidableEq, Repr

namespace Quat

variable {α : Type} [Scalar α]

/-- No turn. -/
def identity : Quat α := ⟨0, 0, 0, 1⟩

/-- A turn about the first axis, from the sine and cosine of half its angle. -/
def aboutX (s c : α) : Quat α := ⟨s, 0, 0, c⟩

/-- A turn about the second axis, from the sine and cosine of half its angle. -/
def aboutY (s c : α) : Quat α := ⟨0, s, 0, c⟩

/-- A turn about the third axis, from the sine and cosine of half its angle. -/
def aboutZ (s c : α) : Quat α := ⟨0, 0, s, c⟩

/-- The product of two quaternions. -/
def mul (l r : Quat α) : Quat α where
  x := (l.w * r.x + l.x * r.w) + (l.y * r.z + -(l.z * r.y))
  y := (l.w * r.y + -(l.x * r.z)) + (l.y * r.w + l.z * r.x)
  z := (l.w * r.z + l.x * r.y) + (-(l.y * r.x) + l.z * r.w)
  w := (l.w * r.w + -(l.x * r.x)) + (-(l.y * r.y) + -(l.z * r.z))

instance : Mul (Quat α) := ⟨mul⟩

/-- The turns about the three axes of an object one after the other, from the
sine and cosine of half of each angle. -/
def ofHalfAngles (sin cos : Vec3 α) : Quat α :=
  aboutX sin.x cos.x * aboutY sin.y cos.y * aboutZ sin.z cos.z

end Quat

/-- The rotation by three angles in degrees, about the axes of the object one
after the other. -/
def Quat.ofDegrees {α : Type} [Angular α] (degrees : Vec3 α) : Quat α :=
  let half (d : α) : α := Angular.toRadians d * Scalar.half
  let angles : Vec3 α := ⟨half degrees.x, half degrees.y, half degrees.z⟩
  .ofHalfAngles ⟨Angular.sin angles.x, Angular.sin angles.y, Angular.sin angles.z⟩
    ⟨Angular.cos angles.x, Angular.cos angles.y, Angular.cos angles.z⟩

namespace Mat4

variable {α : Type} [Scalar α]

/-- The matrix that leaves every point where it is. -/
def identity : Mat4 α := ⟨⟨1, 0, 0, 0⟩, ⟨0, 1, 0, 0⟩, ⟨0, 0, 1, 0⟩, ⟨0, 0, 0, 1⟩⟩

/-- The matrix that shifts every point. -/
def shifting (t : Vec3 α) : Mat4 α := { identity with c3 := t.weighted 1 }

/-- The matrix that stretches along the axes. -/
def scaling (s : Vec3 α) : Mat4 α :=
  ⟨⟨s.x, 0, 0, 0⟩, ⟨0, s.y, 0, 0⟩, ⟨0, 0, s.z, 0⟩, ⟨0, 0, 0, 1⟩⟩

/-- The matrix of a rotation. -/
def rotation (q : Quat α) : Mat4 α :=
  let x2 := q.x + q.x
  let y2 := q.y + q.y
  let z2 := q.z + q.z
  let xx := q.x * x2
  let xy := q.x * y2
  let xz := q.x * z2
  let yy := q.y * y2
  let yz := q.y * z2
  let zz := q.z * z2
  let wx := q.w * x2
  let wy := q.w * y2
  let wz := q.w * z2
  ⟨⟨1 - (yy + zz), xy + wz, xz - wy, 0⟩,
    ⟨xy - wz, 1 - (xx + zz), yz + wx, 0⟩,
    ⟨xz + wy, yz - wx, 1 - (xx + yy), 0⟩,
    ⟨0, 0, 0, 1⟩⟩

/-- A matrix times a column. -/
def column (m : Mat4 α) (v : Vec4 α) : Vec4 α :=
  m.c0.scale v.x + m.c1.scale v.y + m.c2.scale v.z + m.c3.scale v.w

/-- The product of two matrices. -/
def mul (m n : Mat4 α) : Mat4 α :=
  ⟨m.column n.c0, m.column n.c1, m.column n.c2, m.column n.c3⟩

instance : Mul (Mat4 α) := ⟨mul⟩

/-- Where a matrix puts a point. -/
def apply (m : Mat4 α) (p : Vec3 α) : Vec3 α :=
  (m.c3 + (m.c2.scale p.z + (m.c1.scale p.y + m.c0.scale p.x))).point

/-- The numbers of a matrix, column by column. -/
def toList (m : Mat4 α) : List α :=
  [m.c0, m.c1, m.c2, m.c3].flatMap fun c => [c.x, c.y, c.z, c.w]

end Mat4

end Scenery
