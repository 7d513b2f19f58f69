import Scenery.Shape.Grid
import Scenery.Geometry.Basic

/-!
# Boxes

A box is six grids, one for each side, around the middle between its corners.  A
side is laid out in a plane of its own, across and down, and then placed in
space (`Side.place`).  Across and down may run against the axis they are placed
along, so that every side winds counter-clockwise seen from outside.

A side faces outward as its depth says.  A box that is flat along an axis has no
depth there, and both of its sides face down that axis.
-/

namespace Scenery.Shape

variable {α : Type} [Scalar α]

/-- A side of a box. -/
structure Side (α : Type) where
  /-- Put the distances across, down and outward on the axes. -/
  place : α → α → α → Vec3 α
  /-- Which way across runs. -/
  across : α
  /-- Which way down runs. -/
  down : α
  /-- The extent across. -/
  width : α
  /-- The extent down. -/
  height : α
  /-- The extent outward, of the sign of the direction the side faces. -/
  depth : α
  /-- Segments across. -/
  cols : Nat
  /-- Segments down. -/
  rows : Nat

namespace Side

/-- Where a vertex of a side is. -/
def position (s : Side α) (col row : Nat) : Vec3 α :=
  let x := Scalar.ofCount col * (s.width / Scalar.ofCount s.cols) - s.width * Scalar.half
  let y := Scalar.ofCount row * (s.height / Scalar.ofCount s.rows) - s.height * Scalar.half
  s.place (x * s.across) (y * s.down) (s.depth * Scalar.half)

/-- The direction a side faces. -/
def normal (s : Side α) : Vec3 α := s.place 0 0 (if 0 < s.depth then 1 else -1)

/-- The texture coordinates of a vertex of a side. -/
def uv (s : Side α) (col row : Nat) : Vec2 α :=
  ⟨fraction col s.cols, 1 - fraction row s.rows⟩

/-- How many vertices a side has. -/
def vertexCount (s : Side α) : Nat := (s.cols + 1) * (s.rows + 1)

end Side

/-- The triangles of several sides whose vertices follow one another, the first
vertex of all having the number `start`. -/
def sideIndices (start : Nat) : List (Side α) → List Nat
  | [] => []
  | s :: rest => gridIndices start s.cols s.rows ++ sideIndices (start + s.vertexCount) rest

/-- The sides of a box: right and left, top and bottom, front and back. -/
def boxSides (g : Box α) : List (Side α) :=
  let size := (g.second - g.first).abs
  let nx := max g.partsX.toNat 1
  let ny := max g.partsY.toNat 1
  let nz := max g.partsZ.toNat 1
  let alongX (across down out : α) : Vec3 α := ⟨out, down, across⟩
  let alongY (across down out : α) : Vec3 α := ⟨across, out, down⟩
  let alongZ (across down out : α) : Vec3 α := ⟨across, down, out⟩
  [⟨alongX, -1, -1, size.z, size.y, size.x, nz, ny⟩,
    ⟨alongX, 1, -1, size.z, size.y, -size.x, nz, ny⟩,
    ⟨alongY, 1, 1, size.x, size.z, size.y, nx, nz⟩,
    ⟨alongY, 1, -1, size.x, size.z, -size.y, nx, nz⟩,
    ⟨alongZ, 1, -1, size.x, size.y, size.z, nx, ny⟩,
    ⟨alongZ, -1, -1, size.x, size.y, -size.z, nx, ny⟩]

/-- Build a box. -/
def ofBox (g : Box α) : Shape α :=
  let sides := boxSides g
  let positions := sides.flatMap fun s => gridOf s.cols s.rows s.position
  let normals := sides.flatMap fun s => gridOf s.cols s.rows fun _ _ => s.normal
  let uvs := sides.flatMap fun s => gridOf s.cols s.rows s.uv
  { mesh := (Mesh.ofVertices positions.toArray (sideIndices 0 sides).toArray
      (some normals.toArray)).withUvs uvs.toArray
    offset := (g.first + g.second).scale Scalar.half }

end Scenery.Shape
