import Scenery.Shape.Grid
import Scenery.Geometry.Basic

/-!
# Spheres

A sphere is a grid bent around the second axis.  Its columns go around that axis
by the angle phi, its rows from the upper pole down by the angle theta.

All vertices of a row on a pole fall together, so the triangles with an edge on
such a row are left out.  A row is taken to lie on the upper pole when theta does
not start below it, and on the lower pole when theta does not end above it.
The texture coordinates of such a row are moved by half a column, so that each
of the triangles that are left gets the middle of its part of the texture.
-/

namespace Scenery.Shape

variable {α : Type} [Angular α]

/-- The angles of a sphere in radians. -/
structure SphereAngles (α : Type) where
  /-- Where phi starts. -/
  phiStart : α
  /-- How far phi goes. -/
  phiLength : α
  /-- Where theta starts. -/
  thetaStart : α
  /-- How far theta goes. -/
  thetaLength : α
  /-- Where theta ends, at most the lower pole. -/
  thetaEnd : α

/-- The angles of a sphere in radians. -/
def sphereAngles (g : Sphere α) : SphereAngles α :=
  let thetaStart := Angular.toRadians g.thetaStart
  let thetaLength := Angular.toRadians g.thetaLength
  { phiStart := Angular.toRadians g.phiStart
    phiLength := Angular.toRadians g.phiLength
    thetaStart := thetaStart
    thetaLength := thetaLength
    thetaEnd := Scalar.lesser (thetaStart + thetaLength) Angular.halfTurn }

/-- Where a vertex of a sphere is. -/
def spherePosition (radius : α) (angles : SphereAngles α) (cols rows col row : Nat) : Vec3 α :=
  let theta := angles.thetaStart + fraction row rows * angles.thetaLength
  let phi := angles.phiStart + fraction col cols * angles.phiLength
  ⟨-radius * Angular.cos phi * Angular.sin theta, radius * Angular.cos theta,
    radius * Angular.sin phi * Angular.sin theta⟩

/-- The texture coordinates of a vertex of a sphere. -/
def sphereUv (angles : SphereAngles α) (cols rows col row : Nat) : Vec2 α :=
  let seam : α :=
    if row = 0 ∧ Scalar.isZero angles.thetaStart = true then
      Scalar.half / Scalar.ofCount cols
    else if row = rows ∧ Angular.halfTurn ≤ angles.thetaEnd then
      -Scalar.half / Scalar.ofCount cols
    else 0
  ⟨fraction col cols + seam, 1 - fraction row rows⟩

/-- The triangles of a cell.  `upper` and `lower` say whether the triangle with
an edge on the row above, and on the row below, is there. -/
def sphereCell (cols row col : Nat) (upper lower : Bool) : List Nat :=
  let a := row * (cols + 1) + col + 1
  let b := row * (cols + 1) + col
  let c := (row + 1) * (cols + 1) + col
  let d := (row + 1) * (cols + 1) + col + 1
  (if upper then [a, b, d] else []) ++ (if lower then [b, c, d] else [])

/-- The triangles of a sphere without those on a pole. -/
def sphereIndices (angles : SphereAngles α) (cols rows : Nat) : List Nat :=
  (List.range rows).flatMap fun row =>
    (List.range cols).flatMap fun col =>
      sphereCell cols row col (row != 0 || decide (0 < angles.thetaStart))
        (row + 1 != rows || decide (angles.thetaEnd < Angular.halfTurn))

/-- Build a sphere. -/
def ofSphere (g : Sphere α) : Shape α :=
  let cols := max g.slices.toNat 3
  let rows := max g.layers.toNat 2
  let angles := sphereAngles g
  let positions := gridOf cols rows (spherePosition g.radius angles cols rows)
  let normals := positions.map (Vec3.normalizeOr .unitY)
  let uvs := gridOf cols rows (sphereUv angles cols rows)
  atOrigin ((Mesh.ofVertices positions.toArray (sphereIndices angles cols rows).toArray
    (some normals.toArray)).withUvs uvs.toArray)

end Scenery.Shape
