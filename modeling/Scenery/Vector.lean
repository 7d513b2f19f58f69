import Scenery.Scalar

/-!
# Vectors

Vectors of two, three and four numbers, with the operations a scene needs.  Sums,
differences and products are taken component by component.  A sum of three or
four terms is taken from the left.

A vector is brought to length one by multiplying it with the reciprocal of its
length (`Vec3.normalize?`).  That fails when the reciprocal is not a positive
finite number, as for the zero vector and for vectors whose length is too small
or too large to be a number.
-/

namespace Scenery

/-- A vector in the plane. -/
@[ext] structure Vec2 (α : Type) where
  /-- The first component. -/
  x : α
  /-- The second component. -/
  y : α
deriving DecidableEq, Repr

/-- A vector in space. -/
@[ext] structure Vec3 (α : Type) where
  /-- The first component. -/
  x : α
  /-- The second component. -/
  y : α
  /-- The third component. -/
  z : α
deriving DecidableEq, Repr

/-- A vector of four numbers: a point with its weight, a color, or a column of
a matrix. -/
@[ext] structure Vec4 (α : Type) where
  /-- The first component. -/
  x : α
  /-- The second component. -/
  y : α
  /-- The third component. -/
  z : α
  /-- The fourth component. -/
  w : α
deriving DecidableEq, Repr

variable {α : Type} [Scalar α]

/-! ## The plane -/

namespace Vec2

instance : Add (Vec2 α) := ⟨fun a b => ⟨a.x + b.x, a.y + b.y⟩⟩

instance : Sub (Vec2 α) := ⟨fun a b => ⟨a.x - b.x, a.y - b.y⟩⟩

/-- A vector times a number. -/
def scale (v : Vec2 α) (s : α) : Vec2 α := ⟨v.x * s, v.y * s⟩

/-- The distance of each component from zero. -/
def abs (v : Vec2 α) : Vec2 α := ⟨Scalar.abs v.x, Scalar.abs v.y⟩

/-- The vector of one number. -/
def splat (s : α) : Vec2 α := ⟨s, s⟩

end Vec2

/-! ## Space -/

namespace Vec3

/-- The origin. -/
def zero : Vec3 α := ⟨0, 0, 0⟩

/-- The vector of ones. -/
def one : Vec3 α := ⟨1, 1, 1⟩

/-- The direction of the second axis. -/
def unitY : Vec3 α := ⟨0, 1, 0⟩

/-- The direction of the third axis. -/
def unitZ : Vec3 α := ⟨0, 0, 1⟩

/-- The vector of one number. -/
def splat (s : α) : Vec3 α := ⟨s, s, s⟩

instance : Add (Vec3 α) := ⟨fun a b => ⟨a.x + b.x, a.y + b.y, a.z + b.z⟩⟩

instance : Sub (Vec3 α) := ⟨fun a b => ⟨a.x - b.x, a.y - b.y, a.z - b.z⟩⟩

/-- A vector times a number. -/
def scale (v : Vec3 α) (s : α) : Vec3 α := ⟨v.x * s, v.y * s, v.z * s⟩

/-- A vector divided by a number. -/
def dividedBy (v : Vec3 α) (s : α) : Vec3 α := ⟨v.x / s, v.y / s, v.z / s⟩

/-- The distance of each component from zero. -/
def abs (v : Vec3 α) : Vec3 α := ⟨Scalar.abs v.x, Scalar.abs v.y, Scalar.abs v.z⟩

/-- The lesser of each pair of components. -/
def lesser (a b : Vec3 α) : Vec3 α :=
  ⟨Scalar.lesser a.x b.x, Scalar.lesser a.y b.y, Scalar.lesser a.z b.z⟩

/-- The greater of each pair of components. -/
def greater (a b : Vec3 α) : Vec3 α :=
  ⟨Scalar.greater a.x b.x, Scalar.greater a.y b.y, Scalar.greater a.z b.z⟩

/-- The inner product. -/
def dot (a b : Vec3 α) : α := a.x * b.x + a.y * b.y + a.z * b.z

/-- The outer product. -/
def cross (a b : Vec3 α) : Vec3 α :=
  ⟨a.y * b.z - b.y * a.z, a.z * b.x - b.z * a.x, a.x * b.y - b.x * a.y⟩

/-- The length. -/
def length (v : Vec3 α) : α := Scalar.sqrt (v.dot v)

/-- The distance between two points. -/
def distance (a b : Vec3 α) : α := (a - b).length

/-- The vector of length one in the same direction. -/
def normalize? (v : Vec3 α) : Option (Vec3 α) :=
  let r := 1 / v.length
  if Scalar.isFinite r && decide (0 < r) then some (v.scale r) else none

/-- The vector of length one in the same direction, or another vector if there
is none. -/
def normalizeOr (fallback v : Vec3 α) : Vec3 α := v.normalize?.getD fallback

/-- A point with its weight. -/
def weighted (v : Vec3 α) (w : α) : Vec4 α := ⟨v.x, v.y, v.z, w⟩

end Vec3

/-! ## Four numbers -/

namespace Vec4

/-- The vector of zeros. -/
def zero : Vec4 α := ⟨0, 0, 0, 0⟩

instance : Add (Vec4 α) := ⟨fun a b => ⟨a.x + b.x, a.y + b.y, a.z + b.z, a.w + b.w⟩⟩

/-- A vector times a number. -/
def scale (v : Vec4 α) (s : α) : Vec4 α := ⟨v.x * s, v.y * s, v.z * s, v.w * s⟩

/-- The first three components. -/
def point (v : Vec4 α) : Vec3 α := ⟨v.x, v.y, v.z⟩

/-- The point of the line from `a` to `b` that is `t` of the way along. -/
def lerp (a b : Vec4 α) (t : α) : Vec4 α := a.scale (1 - t) + b.scale t

end Vec4

end Scenery
