import Scenery.Matrix

/-!
# Bounding boxes

A box along the axes is kept by its least and its greatest corner.  The empty box
has its corners at the infinities, the least one above the greatest, so that
growing it by a point gives the box of that point and no case has to be told
apart.  A box is empty when its corners are the wrong way round along any axis.

Moving a box by a matrix gives the box around its eight moved corners
(`Bounds.moved`), which may be larger than what is moved.
-/

namespace Scenery

/-- A box along the axes. -/
@[ext] structure Bounds (α : Type) where
  /-- The corner with the least coordinates. -/
  low : Vec3 α
  /-- The corner with the greatest coordinates. -/
  high : Vec3 α
deriving DecidableEq, Repr

namespace Bounds

variable {α : Type} [Scalar α]

/-- The box that holds nothing. -/
def empty : Bounds α := ⟨.splat Scalar.infinity, .splat (-Scalar.infinity)⟩

/-- The box of two opposite corners, in any order. -/
def ofCorners (a b : Vec3 α) : Bounds α := ⟨a.lesser b, a.greater b⟩

/-- The least box that holds a box and a point. -/
def grow (b : Bounds α) (p : Vec3 α) : Bounds α := ⟨b.low.lesser p, b.high.greater p⟩

/-- The least box that holds some points. -/
def enclosing (points : List (Vec3 α)) : Bounds α := points.foldl grow empty

/-- Whether a box holds nothing. -/
def isEmpty (b : Bounds α) : Bool :=
  decide (b.high.x < b.low.x) || decide (b.high.y < b.low.y) || decide (b.high.z < b.low.z)

/-- The least box that holds two boxes. -/
def union (a b : Bounds α) : Bounds α := ⟨a.low.lesser b.low, a.high.greater b.high⟩

/-- The middle of a box. -/
def center (b : Bounds α) : Vec3 α := (b.low + b.high).scale Scalar.half

/-- The extent of a box along each axis, zero for an empty one. -/
def size (b : Bounds α) : Vec3 α := if b.isEmpty then .zero else b.high - b.low

/-- The eight corners of a box. -/
def corners (b : Bounds α) : List (Vec3 α) :=
  [⟨b.low.x, b.low.y, b.low.z⟩, ⟨b.high.x, b.low.y, b.low.z⟩,
    ⟨b.low.x, b.high.y, b.low.z⟩, ⟨b.high.x, b.high.y, b.low.z⟩,
    ⟨b.low.x, b.low.y, b.high.z⟩, ⟨b.high.x, b.low.y, b.high.z⟩,
    ⟨b.low.x, b.high.y, b.high.z⟩, ⟨b.high.x, b.high.y, b.high.z⟩]

/-- The box around a box moved by a matrix. -/
def moved (m : Mat4 α) (b : Bounds α) : Bounds α :=
  if b.isEmpty then empty else enclosing (b.corners.map m.apply)

end Bounds

end Scenery
